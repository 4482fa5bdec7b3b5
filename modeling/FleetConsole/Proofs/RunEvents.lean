import FleetConsole.Coordinate.Rational
import FleetConsole.Proofs.Trajectory

/-!
# The events of runs

A run is told of when it is started and when it ends, completed or cancelled.  A run that another
one takes the place of is not told of again.  `run_events_grammar` says which events come in which
order, over every history:

* **Starts.**  They are numbered from one on, without gap or repetition, one for every plan that is
  accepted.
* **Ends.**  A run ends at most once, after its own start and before the next one.
* **Neighbours.**  A completed run is followed at once by what becomes of its outcome, and nothing
  else tells of an outcome that has to wait.  A cancelled run is followed at once by the roster of
  another size.

The order of starts and ends is a grammar over `RunStage`, the relation `RunStage.Leads`; the
console goes through it as it does its acts (`Effect.leads`).  What stands next to an event is a
fact about the one act that tells it (`Effect.fits`).
-/

namespace FleetConsole

open Console

variable {α : Type}

/-! ## The grammar -/

/-- The run that an event starts. -/
def Event.started? : Event α → Option Nat
  | .animationStarted run _ => some run
  | _ => none

/-- The run that an event ends. -/
def Event.ended? : Event α → Option Nat
  | .animationCompleted run => some run
  | .animationCancelled run => some run
  | _ => none

/-- How far the runs have come. -/
structure RunStage where
  /-- the number of the last run, zero before the first -/
  last : Nat
  /-- the last run may still end -/
  flying : Bool

namespace RunStage

/-- The events that lead from one stage to another.  The next run can be started at any time, and
only the last one can end. -/
inductive Leads : RunStage → List (Event α) → RunStage → Prop
  | nil (stage : RunStage) : Leads stage [] stage
  | started {last : Nat} {flying : Bool} {events : List (Event α)} {next : RunStage} (steps : Nat)
      (rest : Leads ⟨last + 1, true⟩ events next) :
      Leads ⟨last, flying⟩ (.animationStarted (last + 1) steps :: events) next
  | ended {last : Nat} {event : Event α} {events : List (Event α)} {next : RunStage}
      (hended : event.ended? = some last) (rest : Leads ⟨last, false⟩ events next) :
      Leads ⟨last, true⟩ (event :: events) next
  | other {stage : RunStage} {event : Event α} {events : List (Event α)} {next : RunStage}
      (hstarted : event.started? = none) (hended : event.ended? = none)
      (rest : Leads stage events next) :
      Leads stage (event :: events) next

variable {stage middle next : RunStage} {events before after : List (Event α)} {event : Event α}
  {run : Nat}

theorem Leads.append (hbefore : Leads stage before middle) (hafter : Leads middle after next) :
    Leads stage (before ++ after) next := by
  induction hbefore with
  | nil stage => exact hafter
  | started steps rest ih => exact .started steps (ih hafter)
  | ended hended rest ih => exact .ended hended (ih hafter)
  | other hstarted hended rest ih => exact .other hstarted hended (ih hafter)

theorem Leads.split (h : Leads stage (before ++ after) next) :
    ∃ middle, Leads stage before middle ∧ Leads middle after next := by
  induction before generalizing stage with
  | nil => exact ⟨stage, .nil stage, h⟩
  | cons event before ih =>
      rw [List.cons_append] at h
      cases h with
      | started steps rest =>
          obtain ⟨middle, hbefore, hafter⟩ := ih rest
          exact ⟨middle, .started steps hbefore, hafter⟩
      | ended hended rest =>
          obtain ⟨middle, hbefore, hafter⟩ := ih rest
          exact ⟨middle, .ended hended hbefore, hafter⟩
      | other hstarted hended rest =>
          obtain ⟨middle, hbefore, hafter⟩ := ih rest
          exact ⟨middle, .other hstarted hended hbefore, hafter⟩

/-- The run that ends is the last one. -/
theorem Leads.stage_of_ended (h : Leads stage (event :: after) next)
    (hevent : event.ended? = some run) : stage = ⟨run, true⟩ := by
  cases h with
  | started steps rest => cases hevent
  | ended hended rest =>
      rw [hended] at hevent
      rw [Option.some.inj hevent]
  | other hstarted hended rest =>
      rw [hended] at hevent
      cases hevent

/-- The runs are started in order. -/
theorem Leads.started_eq (h : Leads stage events next) :
    List.range' 1 next.last = List.range' 1 stage.last ++ events.filterMap Event.started? := by
  induction h with
  | nil stage => simp
  | @started last flying events next steps rest ih =>
      calc List.range' 1 next.last
          = List.range' 1 (last + 1) ++ events.filterMap Event.started? := ih
        _ = List.range' 1 last ++ [last + 1] ++ events.filterMap Event.started? := by
            rw [List.range'_1_concat, Nat.add_comm 1 last]
        _ = _ := by
            rw [List.append_assoc]
            rfl
  | @ended last event events next hended rest ih =>
      have hstarted : event.started? = none := by
        cases event <;> first | rfl | cases hended
      rw [ih, List.filterMap_cons_none hstarted]
  | other hstarted hended rest ih => rw [ih, List.filterMap_cons_none hstarted]

/-- The runs end in order, and only one that is not over yet. -/
theorem Leads.ended_pairwise (h : Leads stage events next) :
    (events.filterMap Event.ended?).Pairwise (· < ·) ∧
      ∀ run ∈ events.filterMap Event.ended?,
        stage.last < run ∨ run = stage.last ∧ stage.flying = true := by
  induction h with
  | nil stage => simp
  | @started last flying events next steps rest ih =>
      obtain ⟨hpairwise, hlater⟩ := ih
      refine ⟨hpairwise, ?_⟩
      intro run hrun
      have hrun' := hlater run hrun
      simp only at hrun' ⊢
      omega
  | @ended last event events next hended rest ih =>
      obtain ⟨hpairwise, hlater⟩ := ih
      rw [List.filterMap_cons_some hended]
      have hlast : ∀ run ∈ events.filterMap Event.ended?, last < run := by
        intro run hrun
        have hrun' := hlater run hrun
        simpa using hrun'
      refine ⟨List.pairwise_cons.mpr ⟨hlast, hpairwise⟩, ?_⟩
      intro run hrun
      rcases List.mem_cons.mp hrun with rfl | hrun
      · exact .inr ⟨rfl, rfl⟩
      · exact .inl (hlast run hrun)
  | other hstarted hended rest ih =>
      rw [List.filterMap_cons_none hended]
      exact ih

/-- A run that may end was so at first, or has been started since. -/
theorem Leads.flying_of_started (h : Leads stage events next) (hflying : next.flying = true) :
    stage = next ∨ ∃ steps, .animationStarted next.last steps ∈ events := by
  induction h with
  | nil stage => exact .inl rfl
  | started steps rest ih =>
      rcases ih hflying with rfl | ⟨later, hlater⟩
      · exact .inr ⟨steps, List.mem_cons_self⟩
      · exact .inr ⟨later, List.mem_cons_of_mem _ hlater⟩
  | ended hended rest ih =>
      rcases ih hflying with rfl | ⟨later, hlater⟩
      · cases hflying
      · exact .inr ⟨later, List.mem_cons_of_mem _ hlater⟩
  | other hstarted hended rest ih =>
      rcases ih hflying with rfl | ⟨later, hlater⟩
      · exact .inl rfl
      · exact .inr ⟨later, List.mem_cons_of_mem _ hlater⟩

/-- A run ends after its own start and before the next one. -/
theorem Leads.between_starts (h : Leads ⟨0, false⟩ (before ++ event :: after) next)
    (hevent : event.ended? = some run) :
    (∃ steps, .animationStarted run steps ∈ before) ∧
      ∀ steps, .animationStarted (run + 1) steps ∉ before := by
  -- right before the event the run is the last one, and has not ended
  obtain ⟨middle, hbefore, hafter⟩ := h.split
  obtain rfl := hafter.stage_of_ended hevent
  constructor
  · rcases hbefore.flying_of_started rfl with hsame | hstarted
    · cases hsame
    · exact hstarted
  · intro steps hmem
    have hstarts : run + 1 ∈ before.filterMap Event.started? :=
      List.mem_filterMap.mpr ⟨_, hmem, rfl⟩
    have hall : List.range' 1 run = [] ++ before.filterMap Event.started? := hbefore.started_eq
    rw [← List.nil_append (before.filterMap _), ← hall, List.mem_range'_1] at hstarts
    omega

end RunStage

/-! ## The console goes through the grammar -/

/-- How far the runs of a console have come. -/
def Console.runStage (console : Console α) : RunStage :=
  ⟨console.animator.lastRun, console.animator.run.isSome⟩

variable [Coordinate α] {settings : ConsoleSettings α} {console next : Console α} {act : Act α}
  {events : List (Event α)}

omit [Coordinate α] in
/-- The run under way is the last one, and may end. -/
theorem Coherent.runStage_of_run (h : Coherent settings console) {run : Run α}
    (hrun : console.animator.run = some run) : console.runStage = ⟨run.id, true⟩ := by
  rw [(h.run run hrun).2]
  simp [Console.runStage, hrun]

/-- What an act tells leads from the stage before it to the stage after it. -/
theorem Effect.leads (h : Coherent settings console) (heffect : Effect console act next events) :
    console.runStage.Leads events next.runStage := by
  cases heffect with
  | identified | rosterKeepsRun | updated | updateRefused | readyAlone | unreadable
  | operatorCommitted | committed => exact .other rfl rfl (.nil _)
  | readyReconciled => exact .other rfl rfl (.other rfl rfl (.nil _))
  | planEmpty | tickIgnored | commandLocks | commandRefused | operatorRefused => exact .nil _
  | planRefused paths told =>
      cases told with
      | false => exact .nil _
      | true => exact .other rfl rfl (.nil _)
  | rosterEndsRun roster hsize =>
      cases hrun : console.animator.run with
      | none =>
          have hstage : console.runStage = ⟨console.animator.lastRun, false⟩ := by
            simp [Console.runStage, hrun]
          rw [hstage, Animator.currentRun, hrun]
          exact .other rfl rfl (.nil _)
      | some run =>
          rw [h.runStage_of_run hrun, Animator.currentRun, hrun]
          have hnext : RunStage.Leads (α := α) ⟨run.id, false⟩ [.rosterReplaced roster.length]
              ⟨console.animator.lastRun, false⟩ := by
            rw [(h.run run hrun).2]
            exact .other rfl rfl (.nil _)
          exact .ended rfl hnext
  | planStarted paths told steps =>
      -- a run that was under way ends here without a word
      exact .started steps (.nil _)
  | planDeferred | planReconciled =>
      -- what becomes of the outcome is no matter of the grammar
      exact .started 0 (.ended rfl (.other rfl rfl (.nil _)))
  | tickStepped run stepped hrun hnext =>
      have hstage : console.runStage = ⟨console.animator.lastRun, true⟩ := by
        simp [Console.runStage, hrun]
      rw [hstage]
      exact .nil _
  | tickDeferred run hrun | tickReconciled run hrun =>
      rw [h.runStage_of_run hrun, (h.run run hrun).2]
      exact .ended rfl (.other rfl rfl (.nil _))

theorem Console.performAll_leads (h : Coherent settings console) (acts : List (Act α)) :
    console.runStage.Leads (performAll acts console).2 (performAll acts console).1.runStage := by
  induction acts generalizing console with
  | nil => exact .nil _
  | cons act rest ih =>
      have hfirst := perform_effect act console
      exact (hfirst.leads h).append (ih (hfirst.coherent h))

/-! ## What stands next to an event -/

/-- What is told right before and right after the events of a run, by an act that finds the console
as it is given. -/
def Event.Fits (console : Console α) (before after : List (Event α)) : Event α → Prop
  | .animationCompleted run =>
      (console.locked = true → after.head? = some (.commitDeferred run)) ∧
        (console.locked = false → ∃ outcome, after.head? = some (.reconciled outcome))
  | .commitDeferred run => before.getLast? = some (.animationCompleted run)
  | .animationCancelled _ =>
      ∃ drones, after.head? = some (.rosterReplaced drones) ∧ drones ≠ console.fleet.size
  | _ => True

omit [Coordinate α] in
/-- What else is told before and after makes no difference. -/
theorem Event.Fits.extend {event : Event α} {before after : List (Event α)}
    (h : event.Fits console before after) (earlier later : List (Event α)) :
    event.Fits console (earlier ++ before) (after ++ later) := by
  cases event with
  | animationCompleted run =>
      obtain ⟨hlocked, hopen⟩ := h
      constructor
      · intro hlock
        rw [List.head?_append, hlocked hlock]
        rfl
      · intro hlock
        obtain ⟨outcome, houtcome⟩ := hopen hlock
        refine ⟨outcome, ?_⟩
        rw [List.head?_append, houtcome]
        rfl
  | commitDeferred run =>
      have hbefore : before.getLast? = some (.animationCompleted run) := h
      show (earlier ++ before).getLast? = _
      rw [List.getLast?_append, hbefore]
      rfl
  | animationCancelled run =>
      obtain ⟨drones, hafter, hdrones⟩ := h
      refine ⟨drones, ?_, hdrones⟩
      rw [List.head?_append, hafter]
      rfl
  | _ => trivial

/-- A property of every way to cut a list, by the place of the first cut. -/
theorem forall_cut_cons {β : Type} {first : β} {rest : List β}
    {holds : List β → β → List β → Prop} (hfirst : holds [] first rest)
    (hrest : ∀ before item after, rest = before ++ item :: after →
      holds (first :: before) item after) :
    ∀ before item after, first :: rest = before ++ item :: after → holds before item after := by
  intro before item after hcut
  cases before with
  | nil =>
      rw [List.nil_append, List.cons.injEq] at hcut
      obtain ⟨rfl, rfl⟩ := hcut
      exact hfirst
  | cons head before =>
      rw [List.cons_append, List.cons.injEq] at hcut
      obtain ⟨rfl, hcut⟩ := hcut
      exact hrest before item after hcut

theorem forall_cut_nil {β : Type} {holds : List β → β → List β → Prop} :
    ∀ before item after, [] = before ++ item :: after → holds before item after := by
  intro before item after hcut
  simp at hcut

/-- What an act tells stands next to what it belongs to. -/
theorem Effect.fits (heffect : Effect console act next events) :
    ∀ before event after, events = before ++ event :: after → event.Fits console before after := by
  cases heffect with
  | identified | rosterKeepsRun | updated | updateRefused | readyAlone | unreadable | planStarted
  | operatorCommitted | committed => exact forall_cut_cons trivial forall_cut_nil
  | readyReconciled =>
      exact forall_cut_cons trivial (forall_cut_cons trivial forall_cut_nil)
  | planEmpty | tickIgnored | tickStepped | commandLocks | commandRefused | operatorRefused =>
      exact forall_cut_nil
  | planRefused paths told =>
      cases told with
      | false => exact forall_cut_nil
      | true => exact forall_cut_cons trivial forall_cut_nil
  | rosterEndsRun roster hsize =>
      cases console.animator.currentRun with
      | none => exact forall_cut_cons trivial forall_cut_nil
      | some run =>
          exact forall_cut_cons ⟨roster.length, rfl, hsize⟩ (forall_cut_cons trivial forall_cut_nil)
  | planDeferred paths told hsteps hlocked =>
      have hcompleted : Event.Fits console [.animationStarted (console.animator.lastRun + 1) 0]
          [.commitDeferred (console.animator.lastRun + 1)]
          (.animationCompleted (console.animator.lastRun + 1)) := by
        simp [Event.Fits, hlocked]
      exact forall_cut_cons trivial
        (forall_cut_cons hcompleted (forall_cut_cons rfl forall_cut_nil))
  | planReconciled paths told hsteps hopen =>
      have hcompleted : Event.Fits console [.animationStarted (console.animator.lastRun + 1) 0]
          [.reconciled console.fleet.reconcile.2]
          (.animationCompleted (console.animator.lastRun + 1)) := by
        simp [Event.Fits, hopen]
      exact forall_cut_cons trivial
        (forall_cut_cons hcompleted (forall_cut_cons trivial forall_cut_nil))
  | tickDeferred run hrun hlast hlocked =>
      have hcompleted : Event.Fits console [] [.commitDeferred run.id]
          (.animationCompleted run.id) := by
        simp [Event.Fits, hlocked]
      exact forall_cut_cons hcompleted (forall_cut_cons rfl forall_cut_nil)
  | tickReconciled run hrun hlast hopen =>
      refine forall_cut_cons ?_ (forall_cut_cons trivial forall_cut_nil)
      simp [Event.Fits, hopen]

/-- Every event that an operation tells is told by one of its acts, and fits the console that this
act finds. -/
theorem Console.exists_tells_fits {operation : Operation α} {before after : List (Event α)}
    {event : Event α} (htold : (console.step operation).2.told = before ++ event :: after) :
    ∃ done act, Tells console operation.acts done act before event after ∧
      event.Fits (performAll done console).1 before after := by
  have hacts : (performAll operation.acts console).2 = before ++ event :: after := by
    rw [performAll_operation]
    exact htold
  obtain ⟨done, act, htells⟩ := exists_tells hacts
  refine ⟨done, act, htells, ?_⟩
  obtain ⟨earlier, later, more, hperform, rfl, rfl⟩ := htells.events
  have hfits := (perform_effect act (performAll done console).1).fits earlier event later hperform
  exact hfits.extend (performAll done console).2 more

/-! ## Every history -/

/-- **The events of runs.**  Over every history, the runs that are started are numbered from one to
the number of accepted plans, as the logbook of the history counts them; no run ends twice; and a
run ends after its own start and before the next.  In what a further operation tells, the neighbours
of an event are those that it belongs with. -/
theorem run_events_grammar (settings : ConsoleSettings α) (history : List (Operation α)) :
    let told := ((fresh settings).run history).2.flatMap Outcome.told
    let console := (fresh settings).after history
    let accepted := (Logbook.ofActs settings.subSteps.toNat (acts history)).accepted
    told.filterMap Event.started? = List.range' 1 accepted ∧
      (told.filterMap Event.ended?).Nodup ∧
      (∀ before event after run, told = before ++ event :: after → event.ended? = some run →
        (∃ steps, .animationStarted run steps ∈ before) ∧
          ∀ steps, .animationStarted (run + 1) steps ∉ before) ∧
      ∀ operation before event after,
        (console.step operation).2.told = before ++ event :: after →
        ∃ done act, Tells console operation.acts done act before event after ∧
          event.Fits (performAll done console).1 before after := by
  intro told console accepted
  have hleads : RunStage.Leads ⟨0, false⟩ told console.runStage := by
    have hall := performAll_leads (fresh_coherent settings) (acts history)
    rw [performAll_history] at hall
    exact hall
  have haccepted : console.animator.lastRun = accepted := by
    have hall := performAll_recorded (fresh_recorded settings) (acts history)
    rw [← after_eq] at hall
    exact hall.accepted
  refine ⟨?_, ?_, ?_, ?_⟩
  · have hstarts : List.range' 1 console.animator.lastRun = [] ++ told.filterMap Event.started? :=
      hleads.started_eq
    rw [← haccepted, hstarts, List.nil_append]
  · exact hleads.ended_pairwise.1.imp Nat.ne_of_lt
  · intro before event after run hcut hevent
    rw [hcut] at hleads
    exact hleads.between_starts hevent
  · intro operation before event after htold
    exact exists_tells_fits htold

/-- A plan is replaced while it is flown, another one is refused, and one without moves comes while
a command is out. -/
def crowdedFlight : List (Operation Rat) :=
  [.lines [.ok { drones := some [⟨0, 0, 0⟩] }],
    .startPlan [[⟨2, 0, 0⟩]], .startPlan [[], []], .startPlan [[⟨1, 0, 0⟩, ⟨0, 1, 0⟩]],
    .goHome, .tick 2, .tick 1, .startPlan [[]], .startPlan [[⟨1, 0, 0⟩]]]

/-- Two drones where there was one. -/
def secondDrone : Operation Rat := .lines [.ok { drones := some [⟨0, 0, 0⟩, ⟨3, 0, 0⟩] }]

theorem run_events_grammar_crowdedFlight :
    let settings : ConsoleSettings Rat := ⟨1000, 1, 1 / 2⟩
    let told := ((fresh settings).run crowdedFlight).2.flatMap Outcome.told
    let console := (fresh settings).after crowdedFlight
    told.filterMap Event.started? = [1, 2, 3, 4] ∧
      (∃ before,
        told = before ++ .animationCompleted 3 :: [.commitDeferred 3, .animationStarted 4 1] ∧
        (∃ steps, .animationStarted 3 steps ∈ before) ∧
          ∀ steps, .animationStarted 4 steps ∉ before) ∧
      (console.step secondDrone).2.told = [.animationCancelled 4, .rosterReplaced 2] ∧
      ∃ done act, Tells console secondDrone.acts done act [] (.animationCancelled 4)
          [.rosterReplaced 2] ∧
        (performAll done console).1.fleet.size ≠ 2 := by
  intro settings told console
  obtain ⟨hstarts, -, hends, hneighbours⟩ := run_events_grammar settings crowdedFlight
  have hcut : told =
      [.rosterReplaced 1, .animationStarted 1 1, .animationStarted 2 2, .animationStarted 3 0]
        ++ .animationCompleted 3 :: [.commitDeferred 3, .animationStarted 4 1] := by
    decide +kernel
  have htold : (console.step secondDrone).2.told =
      [] ++ .animationCancelled 4 :: [.rosterReplaced 2] := by
    decide +kernel
  refine ⟨?_, ⟨_, hcut, hends _ _ _ 3 hcut rfl⟩, htold, ?_⟩
  · rw [hstarts]
    decide +kernel
  · obtain ⟨done, act, htells, drones, hafter, hdrones⟩ := hneighbours _ _ _ _ htold
    obtain rfl : 2 = drones := by simpa using hafter
    exact ⟨done, act, htells, hdrones.symm⟩

end FleetConsole
