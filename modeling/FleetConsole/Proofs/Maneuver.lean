import FleetConsole.Proofs.Deferral
import FleetConsole.Proofs.LastWrite
import FleetConsole.Proofs.RunEvents

/-!
# Maneuvers

A maneuver is a stretch without a roster, of which every run that is started in it is completed in
it.  So a plan is accepted only while no run is under way, as it would take the place of the run and
that would never be completed (`Maneuver.unhurried`).

Hence the ticks in the logbook of a maneuver are those of its accepted plans, all of them and in
order, whatever else was done in between.  `Logbook.Flown` is the invariant: what is made of the
flight in the air comes after the plans that are flown to their end.

When the last run is completed, the simulated drones stay where they are until a roster comes or
another plan is accepted (`Parked`).
-/

namespace FleetConsole

open Console

variable {α : Type}

/-! ## The plans of a maneuver -/

/-- The plan of an act, if it is one that a fleet of some size can fly. -/
def Act.accepted? (size : Nat) : Act α → Option (List (List (Position α)))
  | .plan paths _ => if (Plan.steps? size paths).isSome then some paths else none
  | _ => none

def acceptedPlans (size : Nat) (acts : List (Act α)) : List (List (List (Position α))) :=
  acts.filterMap (Act.accepted? size)

theorem acceptedPlans_cons (size : Nat) (act : Act α) (rest : List (Act α)) :
    acceptedPlans size (act :: rest) = (act.accepted? size).toList ++ acceptedPlans size rest := by
  unfold acceptedPlans
  rw [List.filterMap_cons]
  cases act.accepted? size <;> rfl

/-- What is accepted takes the place of the run under way. -/
theorem Act.accepted?_eq_none {size : Nat} {act : Act α} (h : ¬ act.Supersedes size) :
    act.accepted? size = none := by
  cases act with
  | plan paths told =>
      have hsteps : Plan.steps? size paths = none := Decidable.not_not.mp h
      simp only [accepted?, hsteps, Option.isSome_none, Bool.false_eq_true, if_false]
  | _ => rfl

theorem isSome_of_mem_acceptedPlans {size : Nat} {acts : List (Act α)}
    {plan : List (List (Position α))} (h : plan ∈ acceptedPlans size acts) :
    (Plan.steps? size plan).isSome := by
  obtain ⟨act, -, haccepted⟩ := List.mem_filterMap.mp h
  cases act with
  | plan paths told =>
      simp only [Act.accepted?] at haccepted
      split at haccepted
      · rename_i hsome
        rwa [← Option.some.inj haccepted]
      · cases haccepted
  | _ => cases haccepted

/-- The ticks of a plan that is flown to its end. -/
def planTicks (frequency size : Nat) (plan : List (List (Position α))) : List (MadeTick α) :=
  (List.range ((Plan.steps? size plan).getD 0 * frequency)).map (MadeTick.mk plan)

/-- The ticks that are made of a flight. -/
def Flight.madeTicks (flight : Flight α) : List (MadeTick α) :=
  (List.range flight.made).map (MadeTick.mk flight.plan)

/-! ## The logbook of a maneuver -/

/-- A log that has the ticks of some plans, all flown to their end but the one in the air. -/
structure Logbook.Flown (frequency : Nat) (roster : List (Position α))
    (plans : List (List (List (Position α)))) (log : Logbook α) : Prop where
  roster_eq : log.roster = roster
  ticks : ∃ complete, plans = complete ++ (log.flight.map Flight.plan).toList ∧
    log.ticks = complete.flatMap (planTicks frequency roster.length)
      ++ log.flight.toList.flatMap Flight.madeTicks

namespace Logbook.Flown

variable {frequency : Nat} {roster : List (Position α)}
  {plans : List (List (List (Position α)))} {log : Logbook α} {act : Act α}

/-- A plan is accepted when nothing is in the air. -/
theorem enter_plan (h : log.Flown frequency roster plans) {paths : List (List (Position α))}
    {steps : Nat} (hsteps : Plan.steps? roster.length paths = some steps) (hidle : log.flight = none)
    (told : Bool) :
    (log.enter frequency (.plan paths told)).Flown frequency roster (plans ++ [paths]) := by
  obtain ⟨complete, hplans, hticks⟩ := h.ticks
  rw [hidle] at hplans hticks
  have hentered : log.enter frequency (.plan paths told) =
      { log with
        accepted := log.accepted + 1
        flight := if steps = 0 then none else some ⟨log.accepted + 1, paths, steps, 0⟩ } := by
    simp only [enter, h.roster_eq, hsteps]
  rw [hentered]
  refine ⟨h.roster_eq, ?_⟩
  by_cases hmoves : steps = 0
  · -- without moves there is no tick to make
    have hnone : planTicks frequency roster.length paths = [] := by
      simp [planTicks, hsteps, hmoves]
    refine ⟨complete ++ [paths], ?_, ?_⟩
    · simp [hplans, hmoves]
    · simp [hticks, hmoves, hnone]
  · refine ⟨complete, ?_, ?_⟩
    · simp [hplans, hmoves]
    · simp [hticks, hmoves, Flight.madeTicks]

/-- A tick of the flight is one of its plan, and the last one completes the plan. -/
theorem enter_tick (h : log.Flown frequency roster plans) {flight : Flight α}
    (hflight : log.flight = some flight) (hflying : flight.Flying frequency roster.length) :
    (log.enter frequency (.tick flight.id)).Flown frequency roster plans := by
  obtain ⟨complete, hplans, hticks⟩ := h.ticks
  rw [hflight] at hplans hticks
  have hentered : log.enter frequency (.tick flight.id) =
      { log with
        flight := flight.next frequency
        ticks := log.ticks ++ [⟨flight.plan, flight.made⟩] } := by
    simp only [enter, hflight, if_true]
  have hmade : (List.range (flight.made + 1)).map (MadeTick.mk flight.plan) =
      flight.madeTicks ++ [⟨flight.plan, flight.made⟩] := by
    rw [List.range_succ, List.map_append]
    rfl
  rw [hentered]
  refine ⟨h.roster_eq, ?_⟩
  by_cases hmore : flight.made + 1 < flight.steps * frequency
  · refine ⟨complete, ?_, ?_⟩
    · simp [hplans, Flight.next, hmore]
    · simp only [hticks, Flight.next, if_pos hmore, Option.toList_some, List.flatMap_singleton,
        List.append_assoc]
      rw [← hmade]
      rfl
  · have hall : planTicks frequency roster.length flight.plan =
        flight.madeTicks ++ [⟨flight.plan, flight.made⟩] := by
      have hlast : flight.made + 1 = flight.steps * frequency := by
        have hbelow := hflying.made
        omega
      rw [planTicks, hflying.accepted, Option.getD_some, ← hlast, hmade]
    refine ⟨complete ++ [flight.plan], ?_, ?_⟩
    · simp [hplans, Flight.next, hmore]
    · simp [hticks, Flight.next, hmore, hall]

theorem enter (h : log.Flown frequency roster plans)
    (hflying : ∀ flight, log.flight = some flight → flight.Flying frequency roster.length)
    (hroster : ∀ drones, act ≠ .roster drones)
    (hidle : act.Supersedes roster.length → log.flight = none) :
    (log.enter frequency act).Flown frequency roster
      (plans ++ (act.accepted? roster.length).toList) := by
  cases act with
  | roster drones => exact absurd rfl (hroster drones)
  | plan paths told =>
      cases hsteps : Plan.steps? roster.length paths with
      | some steps =>
          have haccepted : (Act.plan paths told).accepted? roster.length = some paths := by
            simp [Act.accepted?, hsteps]
          rw [haccepted]
          exact h.enter_plan hsteps (hidle (by simp [Act.Supersedes, hsteps])) told
      | none =>
          have hkeeps : ¬ (Act.plan paths told).Supersedes roster.length := by
            simp [Act.Supersedes, hsteps]
          rw [Act.accepted?_eq_none hkeeps, Option.toList_none, List.append_nil]
          simpa only [Logbook.enter, h.roster_eq, hsteps] using h
  | tick run =>
      have hsame : plans ++ ((Act.tick run : Act α).accepted? roster.length).toList = plans :=
        List.append_nil plans
      rw [hsame]
      cases hflight : log.flight with
      | none => simpa only [Logbook.enter, hflight] using h
      | some flight =>
          by_cases hrun : flight.id = run
          · subst hrun
            exact h.enter_tick hflight (hflying flight hflight)
          · simpa only [Logbook.enter, hflight, if_neg hrun] using h
  | identifier | update | ready | unreadable | command | operatorCommit | commit =>
      exact (List.append_nil plans).symm ▸ h

end Logbook.Flown

/-! ## A run that is completed is not replaced -/

section Grammar

variable {stage middle next : RunStage} {events before after : List (Event α)} {event : Event α}
  {run steps : Nat}

/-- A run that has ended is not under way any more. -/
theorem RunStage.Leads.idle_of_ended (h : Leads stage events next) (hevent : event ∈ events)
    (hended : event.ended? = some next.last) : next.flying = false := by
  rw [← Bool.not_eq_true]
  intro hflying
  obtain ⟨earlier, later, rfl⟩ := List.append_of_mem hevent
  obtain ⟨ending, -, hrest⟩ := h.split
  obtain rfl := hrest.stage_of_ended hended
  cases hrest with
  | started steps hlater => cases hended
  | ended _ hlater =>
      rcases hlater.flying_of_started hflying with hsame | ⟨again, hagain⟩
      · rw [← hsame] at hflying
        cases hflying
      · -- no run has been started since
        have hnone : later.filterMap Event.started? = [] :=
          List.self_eq_append_right.mp hlater.started_eq
        have hmem : next.last ∈ later.filterMap Event.started? :=
          List.mem_filterMap.mpr ⟨_, hagain, rfl⟩
        rw [hnone] at hmem
        cases hmem
  | other _ hother _ =>
      rw [hother] at hended
      cases hended

/-- A run that was started before the next one does not end after that. -/
theorem RunStage.Leads.not_ended_of_started
    (h : Leads middle (.animationStarted run steps :: after) next) (hevent : event ∈ after) :
    event.ended? ≠ some middle.last := by
  intro hended
  cases h with
  | @started last flying _ _ _ hrest =>
      have hends := hrest.ended_pairwise.2 last (List.mem_filterMap.mpr ⟨event, hevent, hended⟩)
      simp only at hends
      omega
  | ended hstarts hrest => cases hstarts
  | other hnone _ hrest => cases hnone

/-- If every run that was started before is completed at some time, then no run is under way when the
next one is started: that would take its place. -/
theorem RunStage.Leads.idle_of_started (hbefore : Leads stage before middle)
    (hafter : Leads middle (.animationStarted run steps :: after) next)
    (hidle : stage.flying = false)
    (hflown : ∀ earlier moves, .animationStarted earlier moves ∈ before →
      .animationCompleted earlier ∈ before ++ .animationStarted run steps :: after) :
    middle.flying = false := by
  rw [← Bool.not_eq_true]
  intro hflying
  rcases hbefore.flying_of_started hflying with rfl | ⟨moves, hstarted⟩
  · rw [hidle] at hflying
    cases hflying
  · rcases List.mem_append.mp (hflown middle.last moves hstarted) with hearly | hlate
    · rw [hbefore.idle_of_ended hearly rfl] at hflying
      cases hflying
    · have hlater : .animationCompleted middle.last ∈ after := by simpa using hlate
      exact hafter.not_ended_of_started hlater rfl

end Grammar

/-! ## Maneuvers -/

variable [Coordinate α]

/-- Acts without a roster, of which every run that is started is completed. -/
structure Maneuver (acts : List (Act α)) (console : Console α) : Prop where
  noRoster : NoRoster acts
  flown : ∀ run steps, .animationStarted run steps ∈ (performAll acts console).2 →
    .animationCompleted run ∈ (performAll acts console).2

/-- Acts that, done one after the other, take the place of no run. -/
def Unhurried : List (Act α) → Console α → Prop
  | [], _ => True
  | act :: rest, console =>
      (act.Supersedes console.fleet.size → console.animator.run = none) ∧
        Unhurried rest (perform act console).1

variable {settings : ConsoleSettings α} {console next : Console α} {act : Act α}
  {events : List (Event α)} {run : Nat}

/-- A plan that is accepted is told of first. -/
theorem Effect.started_of_supersedes (heffect : Effect console act next events)
    (hroster : ∀ drones, act ≠ .roster drones) (hsupersedes : act.Supersedes console.fleet.size) :
    ∃ steps rest, events = .animationStarted (console.animator.lastRun + 1) steps :: rest := by
  cases heffect with
  | planStarted | planDeferred | planReconciled => exact ⟨_, _, rfl⟩
  | planEmpty => exact absurd rfl hsupersedes
  | planRefused paths told fault hne hsteps => exact absurd hsteps hsupersedes
  | rosterKeepsRun roster | rosterEndsRun roster => exact absurd rfl (hroster roster)
  | _ => exact hsupersedes.elim

/-- A run that is completed is not under way any more. -/
theorem Effect.idle_of_completed (heffect : Effect console act next events)
    (hcompleted : .animationCompleted run ∈ events) : next.animator.run = none := by
  cases heffect with
  | planDeferred | planReconciled | tickDeferred | tickReconciled => rfl
  | planRefused paths told => cases told <;> simp at hcompleted
  | _ => simp at hcompleted

/-- A roster starts no run. -/
theorem Effect.idle_of_roster {roster : List (Position α)}
    (heffect : Effect console (.roster roster) next events)
    (hidle : console.animator.run = none) : next.animator.run = none := by
  cases heffect with
  | rosterKeepsRun => exact hidle
  | rosterEndsRun => rfl

/-- With open commands the outcome of a run becomes live as the run is completed. -/
theorem Effect.reconciled_of_completed (heffect : Effect console act next events)
    (hopen : console.locked = false) (hcompleted : .animationCompleted run ∈ events) :
    ∃ outcome, .reconciled outcome ∈ events := by
  obtain ⟨before, after, rfl⟩ := List.append_of_mem hcompleted
  obtain ⟨outcome, hnext⟩ := (heffect.fits before _ after rfl).2 hopen
  refine ⟨outcome, ?_⟩
  simp [List.mem_of_head? hnext]

theorem Maneuver.unhurried_of_append {done rest : List (Act α)}
    (h : Maneuver (done ++ rest) console) (hcoherent : Coherent settings console)
    (hidle : console.animator.run = none) : Unhurried rest (performAll done console).1 := by
  induction rest generalizing done with
  | nil => trivial
  | cons act rest ih =>
      constructor
      · intro hsupersedes
        have hroster : ∀ drones, act ≠ .roster drones := by
          rintro drones rfl
          exact h.noRoster drones (by simp)
        obtain ⟨steps, more, htold⟩ :=
          (perform_effect act (performAll done console).1).started_of_supersedes hroster
            hsupersedes
        have hbefore := performAll_leads hcoherent done
        have hafter := performAll_leads (performAll_coherent hcoherent done) (act :: rest)
        rw [performAll_cons, htold, List.cons_append] at hafter
        have hflying := hbefore.idle_of_started hafter (by simp [Console.runStage, hidle]) ?_
        · simpa [Console.runStage] using hflying
        · intro earlier moves hstarted
          have hcompleted := h.flown earlier moves (by
            rw [performAll_append]
            exact List.mem_append_left _ hstarted)
          rwa [performAll_append, performAll_cons, htold, List.cons_append] at hcompleted
      · rw [List.append_cons] at h
        have hrest := ih h
        rwa [performAll_append, performAll_singleton] at hrest

/-- No plan of a maneuver takes the place of a run. -/
theorem Maneuver.unhurried {acts : List (Act α)} (h : Maneuver acts console)
    (hcoherent : Coherent settings console) (hidle : console.animator.run = none) :
    Unhurried acts console := by
  have hall : Maneuver ([] ++ acts) console := h
  exact hall.unhurried_of_append hcoherent hidle

/-! ### The ticks of a maneuver -/

/-- Nothing is in the air when no run is under way. -/
theorem Recorded.flight_eq_none {log : Logbook α} (h : Recorded settings console log)
    (hidle : console.animator.run = none) : log.flight = none := by
  rw [h.run] at hidle
  exact Option.map_eq_none_iff.mp hidle

theorem Recorded.flown {log : Logbook α} {roster : List (Position α)}
    {plans : List (List (List (Position α)))} (hrecorded : Recorded settings console log)
    (h : log.Flown settings.subSteps.toNat roster plans) {acts : List (Act α)}
    (hroster : NoRoster acts) (hunhurried : Unhurried acts console) :
    (acts.foldl (Logbook.enter settings.subSteps.toNat) log).Flown settings.subSteps.toNat roster
      (plans ++ acceptedPlans roster.length acts) := by
  induction acts generalizing console log plans with
  | nil => simpa [acceptedPlans] using h
  | cons act rest ih =>
      obtain ⟨hact, hrest⟩ := hroster.of_cons
      obtain ⟨hidle, hlater⟩ := hunhurried
      have hsize : console.fleet.size = roster.length := by
        rw [hrecorded.roster, h.roster_eq]
      have hstep : (log.enter settings.subSteps.toNat act).Flown settings.subSteps.toNat roster
          (plans ++ (act.accepted? roster.length).toList) :=
        h.enter (h.roster_eq ▸ hrecorded.flying) hact fun hsupersedes =>
          hrecorded.flight_eq_none (hidle (hsize.symm ▸ hsupersedes))
      have hnext := (perform_effect act console).recorded hrecorded
      rw [acceptedPlans_cons, ← List.append_assoc]
      exact ih hnext hstep hrest hlater

/-- The ticks of a maneuver are those of its plans. -/
theorem Maneuver.ticks {log : Logbook α} {acts : List (Act α)} (h : Maneuver acts console)
    (hrecorded : Recorded settings console log) (hstart : log.ticks = [])
    (hidle : console.animator.run = none)
    (hended : (performAll acts console).1.animator.run = none) :
    let reached := acts.foldl (Logbook.enter settings.subSteps.toNat) log
    reached.roster = log.roster ∧
      reached.ticks = (acceptedPlans log.roster.length acts).flatMap
        (planTicks settings.subSteps.toNat log.roster.length) := by
  intro reached
  have hblank : log.Flown settings.subSteps.toNat log.roster [] := by
    refine ⟨rfl, [], ?_, ?_⟩
    · simp [hrecorded.flight_eq_none hidle]
    · simp [hstart, hrecorded.flight_eq_none hidle]
  have hflown := hrecorded.flown hblank h.noRoster (h.unhurried hrecorded.coherent hidle)
  obtain ⟨complete, hplans, hticks⟩ := hflown.ticks
  rw [(performAll_recorded hrecorded acts).flight_eq_none hended] at hplans hticks
  refine ⟨hflown.roster_eq, ?_⟩
  rw [hticks, ← List.nil_append (acceptedPlans _ acts), hplans]
  simp

/-! ## After a maneuver -/

/-- No run is under way, and the simulated drones are where they were left. -/
structure Parked (settings : ConsoleSettings α) (outcome : Slots (Rendered α))
    (console : Console α) : Prop where
  coherent : Coherent settings console
  idle : console.animator.run = none
  simulated : console.fleet.simulatedAt = outcome

variable {outcome : Slots (Rendered α)}

theorem undisturbed_append {first second : List (Act α)} :
    Undisturbed (first ++ second) console ↔
      Undisturbed first console ∧ Undisturbed second (performAll first console).1 := by
  induction first generalizing console with
  | nil => exact ⟨fun hsecond => ⟨trivial, hsecond⟩, fun hboth => hboth.2⟩
  | cons act rest ih =>
      rw [List.cons_append, Undisturbed, Undisturbed, ih, and_assoc]
      rfl

theorem Effect.parked (h : Parked settings outcome console)
    (hkeeps : ¬ act.Supersedes console.fleet.size) (heffect : Effect console act next events) :
    Parked settings outcome next := by
  have hcoherent : Coherent settings next := heffect.coherent h.coherent
  cases heffect with
  | rosterKeepsRun | rosterEndsRun => exact absurd trivial hkeeps
  | planStarted _ _ _ hsteps | planDeferred _ _ hsteps | planReconciled _ _ hsteps =>
      refine absurd ?_ hkeeps
      simp [Act.Supersedes, hsteps]
  | tickStepped _ _ hrun | tickDeferred _ hrun | tickReconciled _ hrun =>
      rw [h.idle] at hrun
      cases hrun
  | _ => exact ⟨hcoherent, h.idle, h.simulated⟩

theorem Parked.performAll (h : Parked settings outcome console) {acts : List (Act α)}
    (hundisturbed : Undisturbed acts console) :
    Parked settings outcome (performAll acts console).1 := by
  induction acts generalizing console with
  | nil => exact h
  | cons act rest ih =>
      obtain ⟨hkeeps, hundisturbed⟩ := hundisturbed
      exact ih ((perform_effect act console).parked h hkeeps) hundisturbed

/-- Whatever becomes live then is where the simulated drones were left. -/
theorem Parked.liveAt_of_reconciled (h : Parked settings outcome console)
    (hkeeps : ¬ act.Supersedes console.fleet.size) {told : Reconciliation}
    (htold : .reconciled told ∈ (perform act console).2) :
    (perform act console).1.fleet.liveAt =
      outcome.map fun drone => drone.toRaw settings.yOffset := by
  have heffect := perform_effect act console
  rw [heffect.liveAt_of_reconciled h.coherent htold, (heffect.parked h hkeeps).simulated]

end FleetConsole
