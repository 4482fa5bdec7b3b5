import FleetConsole.Coordinate.Rational
import FleetConsole.Proofs.Deferral
import Mathlib.Data.List.Forall2

/-!
# Reports of single drones

A report of a drone says where it is live and nothing else.  `reports_change_live_alone` compares two
histories that are the same but for the reports in them: the consoles differ in live positions
alone, at every point that the histories have in common, and an act that renews all live positions
takes this difference away.

* **Consoles.**  `SameButLive` relates them.  It is an equivalence, and a report leads from a console
  to a related one, so that a history is related to itself without reports.
* **Acts.**  An act other than a report reads of live positions how many there are.
  `SameButLive.perform` has one case for every kind of act; attempts are compared first (`SameEnd`),
  because the commands of the operator and the acts are made of them.
* **Reconciling** makes the live positions a function of the simulated ones, whatever they were.
-/

namespace FleetConsole

open Console

variable {α : Type}

/-! ## What is left without reports -/

/-- The same message without the report of a drone. -/
def Message.withoutReport (message : Message α) : Message α :=
  { message with droneId := none, location := none }

def Operation.withoutReports : Operation α → Operation α
  | .lines batch => .lines (batch.map (Except.map Message.withoutReport))
  | operation => operation

def Act.isReport : Act α → Bool
  | .update .. => true
  | _ => false

def actsWithoutReports (acts : List (Act α)) : List (Act α) := acts.filter fun act => !act.isReport

/-- What an event says whatever the live positions are: it is nothing if a report was taken or
refused, and of a reconciliation only how many drones it went over. -/
def Event.withoutReport : Event α → Option (Event α)
  | .liveUpdated _ => none
  | .rejected (.outOfRange ..) => none
  | .reconciled outcome => some (.reconciled { outcome with changed := 0 })
  | event => some event

def eventsWithoutReports (events : List (Event α)) : List (Event α) :=
  events.filterMap Event.withoutReport

/-- Two outcomes that are both a refusal, for the same reason, or both none. -/
inductive Outcome.Alike : Outcome α → Outcome α → Prop
  | events {first second : List (Event α)}
      (h : eventsWithoutReports first = eventsWithoutReports second) :
      Alike (.events first) (.events second)
  | targets {first second : List (Position α)} (h : first.length = second.length) :
      Alike (.targets first) (.targets second)
  | refused (refusal : Refusal) : Alike (.refused refusal) (.refused refusal)

/-- Two histories have come equally far, but for the reports that each of them has had. -/
structure Meet (first second : List (Operation α)) (past other : List (Act α)) : Prop where
  first : past <+: acts first
  second : other <+: acts second
  same : actsWithoutReports past = actsWithoutReports other

/-! ### The acts of a history without its reports -/

theorem Message.acts_withoutReport (message : Message α) :
    message.withoutReport.acts = actsWithoutReports message.acts := by
  obtain ⟨identifier, drones, paths, droneId, location, ready⟩ := message
  have hready : actsWithoutReports (if ready = some true then [Act.ready (α := α)] else []) =
      if ready = some true then [Act.ready] else [] := by
    split <;> rfl
  simp only [actsWithoutReports] at hready
  simp only [withoutReport, acts, actsWithoutReports, List.filter_append, hready]
  cases identifier <;> cases drones <;> cases paths <;> cases droneId <;> cases location <;> rfl

theorem lineActs_withoutReport (line : Except Json.Problem (Message α)) :
    lineActs (line.map Message.withoutReport) = actsWithoutReports (lineActs line) := by
  cases line with
  | ok message => exact message.acts_withoutReport
  | error problem => rfl

theorem Operation.acts_withoutReports (operation : Operation α) :
    operation.withoutReports.acts = actsWithoutReports operation.acts := by
  cases operation with
  | lines batch =>
      simp only [withoutReports, acts, List.flatMap_map, actsWithoutReports, List.filter_flatMap]
      simp only [lineActs_withoutReport, actsWithoutReports]
  | _ => rfl

theorem acts_withoutReports (history : List (Operation α)) :
    acts (history.map Operation.withoutReports) = actsWithoutReports (acts history) := by
  simp only [acts, List.flatMap_map, actsWithoutReports, List.filter_flatMap]
  simp only [Operation.acts_withoutReports, actsWithoutReports]

/-- What is no text of the feed has no reports. -/
theorem Operation.eq_of_withoutReports {operation other : Operation α}
    (hsame : operation.withoutReports = other.withoutReports)
    (hlocal : ∀ batch, operation ≠ .lines batch) : operation = other := by
  cases operation with
  | lines batch => exact absurd rfl (hlocal batch)
  | _ => cases other <;> simp_all [withoutReports]

/-- Histories that are the same without reports do every other act where they meet. -/
theorem exists_meet {first second : List (Operation α)}
    (hsame : first.map Operation.withoutReports = second.map Operation.withoutReports)
    {past : List (Act α)} {act : Act α} (hpast : past ++ [act] <+: acts first)
    (hact : act.isReport = false) :
    ∃ other, Meet first second past other ∧ Meet first second (past ++ [act]) (other ++ [act]) := by
  obtain ⟨rest, hrest⟩ := hpast
  -- the act is in the second history too, after the same acts without reports
  have hacts : actsWithoutReports (acts first) = actsWithoutReports (acts second) := by
    rw [← acts_withoutReports, ← acts_withoutReports, hsame]
  rw [← hrest, List.append_assoc] at hacts
  have hsplit : (acts second).filter (fun act => !act.isReport) =
      actsWithoutReports past ++ act :: actsWithoutReports rest := by
    refine hacts.symm.trans ?_
    simp [actsWithoutReports, hact]
  obtain ⟨before, after, hsecond, hbefore, hafter⟩ := List.filter_eq_append_iff.mp hsplit
  -- reports may come between `before` and the act
  obtain ⟨reports, later, rfl, hreports, -, -⟩ := List.filter_eq_cons_iff.mp hafter
  have hsilent : reports.filter (fun act => !act.isReport) = [] :=
    List.filter_eq_nil_iff.mpr hreports
  have hother : actsWithoutReports (before ++ reports) = actsWithoutReports past := by
    rw [actsWithoutReports, List.filter_append, hbefore, hsilent, List.append_nil]
  refine ⟨before ++ reports, ⟨⟨act :: rest, ?_⟩, ⟨act :: later, ?_⟩, hother.symm⟩,
    ⟨⟨rest, hrest⟩, ⟨later, ?_⟩, ?_⟩⟩
  · rw [← hrest, List.append_assoc]
    rfl
  · rw [hsecond, List.append_assoc]
  · rw [hsecond, List.append_assoc, List.append_assoc]
    rfl
  · simp only [actsWithoutReports, List.filter_append] at hother ⊢
    rw [hother]

/-! ## Consoles that differ in live positions alone -/

/-- Two consoles that differ at most in where the drones of the fleet are live. -/
structure SameButLive (first second : Console α) : Prop where
  slots : first.fleet.liveAt.numbers = second.fleet.liveAt.numbers
  simulated : first.fleet.simulatedAt = second.fleet.simulatedAt
  initial : first.fleet.initialAt = second.fleet.initialAt
  yOffset : first.fleet.yOffset = second.fleet.yOffset
  animator : first.animator = second.animator
  identifier : first.identifier = second.identifier
  locked : first.locked = second.locked
  deferred : first.deferred = second.deferred

namespace SameButLive

variable {first second third : Console α}

theorem refl (console : Console α) : SameButLive console console :=
  ⟨rfl, rfl, rfl, rfl, rfl, rfl, rfl, rfl⟩

theorem symm (h : SameButLive first second) : SameButLive second first :=
  ⟨h.slots.symm, h.simulated.symm, h.initial.symm, h.yOffset.symm, h.animator.symm,
    h.identifier.symm, h.locked.symm, h.deferred.symm⟩

theorem trans (h : SameButLive first second) (hnext : SameButLive second third) :
    SameButLive first third :=
  ⟨h.slots.trans hnext.slots, h.simulated.trans hnext.simulated, h.initial.trans hnext.initial,
    h.yOffset.trans hnext.yOffset, h.animator.trans hnext.animator,
    h.identifier.trans hnext.identifier, h.locked.trans hnext.locked,
    h.deferred.trans hnext.deferred⟩

theorem size (h : SameButLive first second) : first.fleet.size = second.fleet.size :=
  Slots.size_eq_of_numbers_eq h.slots

theorem ready (h : SameButLive first second) : first.ready = second.ready := by
  simp only [Console.ready, h.locked, h.size]

variable [Coordinate α]

theorem reconcile (h : SameButLive first second) :
    SameButLive first.reconcile.1 second.reconcile.1 := by
  refine ⟨?_, h.simulated, h.initial, h.yOffset, h.animator, h.identifier, h.locked, rfl⟩
  exact (Slots.numbers_renew _ _).trans (h.slots.trans (Slots.numbers_renew _ _).symm)

/-- A reconciliation goes over as many drones. -/
theorem drones (h : SameButLive first second) :
    first.reconcile.2.drones = second.reconcile.2.drones := by
  show (first.fleet.live.zip _).length = (second.fleet.live.zip _).length
  have hlive : first.fleet.live.length = second.fleet.live.length := by
    rw [Fleet.live, Fleet.live, Slots.length_values, Slots.length_values]
    exact h.size
  rw [List.length_zip, List.length_zip, hlive, Fleet.simulated, Fleet.simulated, h.simulated,
    h.yOffset]

end SameButLive

/-! ## Handlers that read of live positions how many there are -/

/-- The same events but for those of reports. -/
def SameEvents (told other : List (Event α)) : Prop :=
  eventsWithoutReports told = eventsWithoutReports other

/-- The results of two handlers. -/
def SameResult (first second : Console α × List (Event α)) : Prop :=
  SameButLive first.1 second.1 ∧ SameEvents first.2 second.2

/-- The ends of two attempts: both are refused for the same reason, or both succeed alike. -/
inductive SameEnd {β : Type} (alike : β → β → Prop) :
    Except Refusal (Console α × β) → Except Refusal (Console α × β) → Prop
  | refused (refusal : Refusal) : SameEnd alike (.error refusal) (.error refusal)
  | done {first second : Console α} {result other : β} (hconsole : SameButLive first second)
      (hresult : alike result other) : SameEnd alike (.ok (first, result)) (.ok (second, other))

variable {first second : Console α}

theorem SameEvents.append {told other more others : List (Event α)} (h : SameEvents told other)
    (hmore : SameEvents more others) : SameEvents (told ++ more) (other ++ others) := by
  simp only [SameEvents, eventsWithoutReports, List.filterMap_append] at h hmore ⊢
  rw [h, hmore]

theorem SameEnd.conclude {β : Type} {alike : β → β → Prop}
    {attempt other : Except Refusal (Console α × β)} (hend : SameEnd alike attempt other)
    (h : SameButLive first second) {outcome : β → Outcome α}
    (houtcome : ∀ result other, alike result other → (outcome result).Alike (outcome other)) :
    SameButLive (Console.conclude first outcome attempt).1
        (Console.conclude second outcome other).1 ∧
      (Console.conclude first outcome attempt).2.Alike
        (Console.conclude second outcome other).2 := by
  cases hend with
  | refused refusal => exact ⟨h, .refused refusal⟩
  | done hconsole hresult => exact ⟨hconsole, houtcome _ _ hresult⟩

theorem SameEnd.orReject {attempt : Console α → Except Refusal (Console α × List (Event α))}
    (hend : SameEnd SameEvents (attempt first) (attempt second)) (h : SameButLive first second) :
    SameResult (orReject attempt first) (orReject attempt second) := by
  unfold Console.orReject
  generalize attempt first = result at hend
  generalize attempt second = other at hend
  cases hend with
  | refused refusal => exact ⟨h, rfl⟩
  | done hconsole hresult => exact ⟨hconsole, hresult⟩

theorem SameEnd.orNothing {attempt : Console α → Except Refusal (Console α × List (Event α))}
    (hend : SameEnd SameEvents (attempt first) (attempt second)) (h : SameButLive first second) :
    SameResult (orNothing attempt first) (orNothing attempt second) := by
  unfold Console.orNothing
  generalize attempt first = result at hend
  generalize attempt second = other at hend
  cases hend with
  | refused refusal => exact ⟨h, rfl⟩
  | done hconsole hresult => exact ⟨hconsole, hresult⟩

variable [Coordinate α]

theorem SameButLive.reconciled (h : SameButLive first second) (before : List (Event α)) :
    SameEvents (before ++ [.reconciled first.reconcile.2])
      (before ++ [.reconciled second.reconcile.2]) := by
  simp only [SameEvents, eventsWithoutReports, List.filterMap_append, List.filterMap_cons,
    Event.withoutReport, h.drones]

/-! ### Attempts -/

theorem SameButLive.completeRun (h : SameButLive first second) (run : Nat) :
    SameResult (Console.completeRun run first) (Console.completeRun run second) := by
  cases hlocked : first.locked with
  | true =>
      rw [completeRun_of_locked hlocked, completeRun_of_locked (h.locked ▸ hlocked)]
      exact ⟨⟨h.slots, h.simulated, h.initial, h.yOffset, h.animator, h.identifier, h.locked, rfl⟩,
        rfl⟩
  | false =>
      rw [completeRun_of_open hlocked, completeRun_of_open (h.locked ▸ hlocked)]
      exact ⟨h.reconcile, h.reconciled [.animationCompleted run]⟩

theorem SameButLive.startPlan (h : SameButLive first second) (paths : List (List (Position α))) :
    SameEnd SameEvents (Console.startPlan paths first) (Console.startPlan paths second) := by
  simp only [Console.startPlan, h.animator, h.size]
  cases hstart : second.animator.start paths second.fleet.size with
  | error fault => exact .refused (.invalidPlan fault.message)
  | ok result =>
      obtain ⟨animator, start⟩ := result
      cases start with
      | started run steps =>
          exact .done ⟨h.slots, h.simulated, h.initial, h.yOffset, rfl, h.identifier, h.locked, rfl⟩
            rfl
      | finished run =>
          have hbefore : SameButLive { first with animator := animator, deferred := none }
              { second with animator := animator, deferred := none } :=
            ⟨h.slots, h.simulated, h.initial, h.yOffset, rfl, h.identifier, h.locked, rfl⟩
          obtain ⟨hconsole, hevents⟩ := hbefore.completeRun run
          have hstarted : SameEvents [Event.animationStarted (α := α) run 0]
              [.animationStarted run 0] := rfl
          exact .done hconsole (hstarted.append hevents)
      | empty =>
          exact .done ⟨h.slots, h.simulated, h.initial, h.yOffset, rfl, h.identifier, h.locked,
            h.deferred⟩ rfl

omit [Coordinate α] in
/-- The commands of the operator need the same of a console, and lock it. -/
theorem SameButLive.lock {β : Type} {alike : β → β → Prop} (h : SameButLive first second)
    {result other : β} (hresult : alike result other) :
    SameEnd alike (do first.ready; .ok ({ first with locked := true }, result))
      (do second.ready; .ok ({ second with locked := true }, other)) := by
  rw [h.ready]
  cases second.ready with
  | error refusal => exact .refused refusal
  | ok =>
      exact .done ⟨h.slots, h.simulated, h.initial, h.yOffset, h.animator, h.identifier, rfl,
        h.deferred⟩ hresult

theorem SameButLive.move (h : SameButLive first second) (step : Position α) :
    SameEnd (fun targets other => targets.length = other.length) (Console.move step first)
      (Console.move step second) := by
  apply h.lock
  simp only [Fleet.moveTargets, Fleet.live, List.length_map, Slots.length_values]
  exact h.size

omit [Coordinate α] in
theorem SameButLive.goHome (h : SameButLive first second) :
    SameEnd (fun targets other => targets.length = other.length) first.goHome second.goHome := by
  apply h.lock
  simp only [Fleet.homeTargets, Fleet.initial, h.initial]

theorem SameButLive.operatorCommit (h : SameButLive first second) :
    SameEnd (fun outcome other => outcome.drones = other.drones) first.operatorCommit
      second.operatorCommit := by
  simp only [Console.operatorCommit, h.ready]
  cases second.ready with
  | error refusal => exact .refused refusal
  | ok => exact .done h.reconcile h.drones

/-! ### Acts -/

theorem SameButLive.takeRoster (h : SameButLive first second) (roster : List (Position α)) :
    SameResult (Console.takeRoster (some roster) first)
      (Console.takeRoster (some roster) second) := by
  have hsimulated : (first.fleet.replaceRoster roster).simulatedAt =
      (second.fleet.replaceRoster roster).simulatedAt := by
    simp only [Fleet.replaceRoster, h.yOffset]
  simp only [Console.takeRoster, h.size, h.animator]
  split
  · exact ⟨⟨rfl, hsimulated, rfl, h.yOffset, rfl, h.identifier, h.locked, rfl⟩, rfl⟩
  · exact ⟨⟨rfl, hsimulated, rfl, h.yOffset, rfl, h.identifier, h.locked, rfl⟩, rfl⟩

theorem SameButLive.takeReady (h : SameButLive first second) :
    SameResult (Console.takeReady (some true) first) (Console.takeReady (some true) second) := by
  simp only [Console.takeReady, h.deferred]
  have hopen : SameButLive { first with locked := false, deferred := second.deferred }
      { second with locked := false } :=
    ⟨h.slots, h.simulated, h.initial, h.yOffset, h.animator, h.identifier, rfl, rfl⟩
  split
  · exact ⟨hopen.reconcile, hopen.reconciled [.controlsEnabled]⟩
  · exact ⟨hopen, rfl⟩

theorem SameButLive.tick (h : SameButLive first second) (id : Nat) :
    SameResult (Console.tick id first) (Console.tick id second) := by
  simp only [Console.tick, Animator.tick, h.animator]
  cases second.animator.run with
  | none =>
      exact ⟨⟨h.slots, h.simulated, h.initial, h.yOffset, rfl, h.identifier, h.locked,
        h.deferred⟩, rfl⟩
  | some run =>
      by_cases hid : run.id = id
      · have hshift : ∀ moves, (first.fleet.shift moves).simulatedAt =
            (second.fleet.shift moves).simulatedAt := by
          intro moves
          simp only [Fleet.shift, h.simulated]
        simp only [hid, ne_eq, not_true_eq_false, if_false]
        cases Animator.advance second.animator.clock run with
        | some next =>
            exact ⟨⟨h.slots, hshift _, h.initial, h.yOffset, rfl, h.identifier, h.locked,
              h.deferred⟩, rfl⟩
        | none =>
            apply SameButLive.completeRun
            exact ⟨h.slots, hshift _, h.initial, h.yOffset, rfl, h.identifier, h.locked,
              h.deferred⟩
      · simp only [ne_eq, hid, not_false_eq_true, if_true]
        exact ⟨⟨h.slots, h.simulated, h.initial, h.yOffset, rfl, h.identifier, h.locked,
          h.deferred⟩, rfl⟩

/-- An act other than a report does the same to consoles that differ in live positions. -/
theorem SameButLive.perform (h : SameButLive first second) {act : Act α}
    (hact : act.isReport = false) : SameResult (perform act first) (perform act second) := by
  cases act with
  | identifier identifier =>
      exact ⟨⟨h.slots, h.simulated, h.initial, h.yOffset, h.animator, rfl, h.locked, h.deferred⟩,
        rfl⟩
  | roster roster => exact h.takeRoster roster
  | update index location => cases hact
  | plan paths told =>
      cases told with
      | true => exact (h.startPlan paths).orReject h
      | false => exact (h.startPlan paths).orNothing h
  | ready => exact h.takeReady
  | unreadable problem => exact ⟨h, rfl⟩
  | tick id => exact h.tick id
  | command => exact SameEnd.orNothing (h.lock rfl) h
  | operatorCommit =>
      -- the attempt ends with an outcome, the act with the event that tells it
      refine SameEnd.orNothing ?_ h
      have hend := h.operatorCommit
      generalize first.operatorCommit = result at hend
      generalize second.operatorCommit = other at hend
      cases hend with
      | refused refusal => exact .refused refusal
      | done hconsole hdrones =>
          refine .done hconsole ?_
          simp only [SameEvents, eventsWithoutReports, List.filterMap_cons, Event.withoutReport,
            hdrones]
  | commit => exact ⟨h.reconcile, h.reconciled []⟩

/-- A report changes live positions at most, and nothing that it tells counts. -/
theorem perform_of_isReport {act : Act α} (hact : act.isReport = true) (console : Console α) :
    SameResult (perform act console) (console, []) := by
  cases act with
  | update index location =>
      have heffect := perform_effect (.update index location) console
      generalize perform (.update index location) console = result at heffect
      obtain ⟨next, events⟩ := result
      simp only at heffect
      cases heffect with
      | updated _ _ slot =>
          exact ⟨⟨Slots.numbers_set slot location console.fleet.liveAt, rfl, rfl, rfl, rfl, rfl,
            rfl, rfl⟩, rfl⟩
      | updateRefused => exact ⟨.refl console, rfl⟩
  | _ => cases hact

/-! ## Histories -/

omit [Coordinate α] in
theorem SameResult.symm {result other : Console α × List (Event α)} (h : SameResult result other) :
    SameResult other result :=
  ⟨h.1.symm, Eq.symm h.2⟩

/-- Acts do the same without the reports among them. -/
theorem SameButLive.performAll_withoutReports (acts : List (Act α)) (h : SameButLive first second) :
    SameResult (performAll acts first) (performAll (actsWithoutReports acts) second) := by
  induction acts generalizing first second with
  | nil => exact ⟨h, rfl⟩
  | cons act rest ih =>
      cases hact : act.isReport with
      | true =>
          -- only the first console takes the report
          obtain ⟨hconsole, hsilent⟩ := perform_of_isReport hact first
          obtain ⟨hrest, hevents⟩ := ih (hconsole.trans h)
          have hskip : actsWithoutReports (act :: rest) = actsWithoutReports rest := by
            simp [actsWithoutReports, hact]
          rw [performAll_cons, hskip]
          exact ⟨hrest, hsilent.append hevents⟩
      | false =>
          obtain ⟨hconsole, hfirst⟩ := h.perform hact
          obtain ⟨hrest, hevents⟩ := ih hconsole
          have hkeep : actsWithoutReports (act :: rest) = act :: actsWithoutReports rest := by
            simp [actsWithoutReports, hact]
          rw [performAll_cons, hkeep, performAll_cons]
          exact ⟨hrest, hfirst.append hevents⟩

/-- Acts that are the same without the reports among them do the same. -/
theorem SameButLive.performAll {acts others : List (Act α)}
    (hsame : actsWithoutReports acts = actsWithoutReports others) (h : SameButLive first second) :
    SameResult (performAll acts first) (performAll others second) := by
  obtain ⟨hhere, hevents⟩ := h.performAll_withoutReports acts
  obtain ⟨hthere, hothers⟩ := (SameButLive.refl second).performAll_withoutReports others
  rw [hsame] at hhere hevents
  exact ⟨hhere.trans hthere.symm, Eq.trans hevents (Eq.symm hothers)⟩

theorem SameButLive.step {operation other : Operation α}
    (hsame : operation.withoutReports = other.withoutReports) (h : SameButLive first second) :
    SameButLive (first.step operation).1 (second.step other).1 ∧
      (first.step operation).2.Alike (second.step other).2 := by
  cases operation with
  | lines batch =>
      cases other with
      | lines others =>
          have hacts : actsWithoutReports (Operation.lines batch).acts =
              actsWithoutReports (Operation.lines others).acts := by
            rw [← Operation.acts_withoutReports, ← Operation.acts_withoutReports, hsame]
          obtain ⟨hconsole, hevents⟩ := h.performAll hacts
          rw [performAll_operation, performAll_operation] at hconsole hevents
          exact ⟨hconsole, .events hevents⟩
      | _ => cases hsame
  | startPlan paths =>
      obtain rfl := Operation.eq_of_withoutReports hsame nofun
      exact (h.startPlan paths).conclude h fun _ _ => .events
  | tick run =>
      obtain rfl := Operation.eq_of_withoutReports hsame nofun
      obtain ⟨hconsole, hevents⟩ := h.tick run
      exact ⟨hconsole, .events hevents⟩
  | move step =>
      obtain rfl := Operation.eq_of_withoutReports hsame nofun
      exact (h.move step).conclude h fun _ _ => .targets
  | goHome =>
      obtain rfl := Operation.eq_of_withoutReports hsame nofun
      exact h.goHome.conclude h fun _ _ => .targets
  | operatorCommit =>
      obtain rfl := Operation.eq_of_withoutReports hsame nofun
      refine h.operatorCommit.conclude h fun result other hdrones => .events ?_
      simp only [eventsWithoutReports, List.filterMap_cons, Event.withoutReport, hdrones]
  | commit =>
      obtain rfl := Operation.eq_of_withoutReports hsame nofun
      exact ⟨h.reconcile, .events (h.reconciled [])⟩

theorem SameButLive.run {history others : List (Operation α)}
    (hsame : history.map Operation.withoutReports = others.map Operation.withoutReports)
    (h : SameButLive first second) :
    List.Forall₂ Outcome.Alike (first.run history).2 (second.run others).2 := by
  induction history generalizing others first second with
  | nil =>
      obtain rfl := List.map_eq_nil_iff.mp hsame.symm
      exact .nil
  | cons operation rest ih =>
      cases others with
      | nil => cases hsame
      | cons other others =>
          rw [List.map_cons, List.map_cons, List.cons.injEq] at hsame
          obtain ⟨hconsole, houtcome⟩ := h.step hsame.1
          exact .cons houtcome (ih hsame.2 hconsole)

/-! ## Where all live positions are new -/

/-- An act that leaves no live position as it was: a roster, or one that makes an outcome live. -/
def Act.RenewsLive (act : Act α) (console : Console α) : Prop :=
  (∃ roster, act = .roster roster) ∨ ∃ outcome, .reconciled outcome ∈ (perform act console).2

omit [Coordinate α] in
/-- Where one console tells a reconciliation, so does the other. -/
theorem SameEvents.reconciled {told other : List (Event α)} (h : SameEvents told other)
    {outcome : Reconciliation} (htold : .reconciled outcome ∈ told) :
    ∃ outcome, .reconciled outcome ∈ other := by
  -- the other console may have moved another number of drones, so only its event is there
  have hmem : Event.reconciled { outcome with changed := 0 } ∈ eventsWithoutReports told :=
    List.mem_filterMap.mpr ⟨_, htold, rfl⟩
  rw [h] at hmem
  obtain ⟨event, hevent, hreconciled⟩ := List.mem_filterMap.mp hmem
  cases event with
  | reconciled outcome => exact ⟨outcome, hevent⟩
  | rejected refusal => cases refusal <;> cases hreconciled
  | _ => cases hreconciled

theorem SameButLive.liveAt_of_renewsLive {settings : ConsoleSettings α}
    (h : SameButLive first second) (hfirst : Coherent settings first)
    (hsecond : Coherent settings second) {act : Act α} (hrenews : act.RenewsLive first) :
    (Console.perform act first).1.fleet.liveAt = (Console.perform act second).1.fleet.liveAt := by
  rcases hrenews with ⟨roster, rfl⟩ | ⟨outcome, houtcome⟩
  · rw [(perform_effect _ first).liveAt_of_roster, (perform_effect _ second).liveAt_of_roster]
  · cases hact : act.isReport with
    | true =>
        -- a report tells no reconciliation
        obtain ⟨-, hsilent⟩ := perform_of_isReport hact first
        obtain ⟨outcome, hmem⟩ := hsilent.reconciled houtcome
        cases hmem
    | false =>
        obtain ⟨hnext, hevents⟩ := h.perform hact
        obtain ⟨other, hother⟩ := hevents.reconciled houtcome
        rw [(perform_effect act first).liveAt_of_reconciled hfirst houtcome,
          (perform_effect act second).liveAt_of_reconciled hsecond hother, hnext.simulated]

/-- **Reports of drones change live positions and nothing else.**  Of two histories that are the same
but for reports, every operation has the same success or the same refusal, and every act but a report
is done where the histories meet.  Where they meet, the consoles differ in live positions alone and
have told the same events but for those of reports; and when they go on with the same act, and this
act is a roster or makes an outcome live, the live positions are the same too. -/
theorem reports_change_live_alone (settings : ConsoleSettings α) {first second : List (Operation α)}
    (hsame : first.map Operation.withoutReports = second.map Operation.withoutReports) :
    List.Forall₂ Outcome.Alike ((fresh settings).run first).2 ((fresh settings).run second).2 ∧
    (∀ past act, past ++ [act] <+: acts first → act.isReport = false →
      ∃ other, Meet first second past other ∧
        Meet first second (past ++ [act]) (other ++ [act])) ∧
    ∀ past other, Meet first second past other →
      let here := performAll past (fresh settings)
      let there := performAll other (fresh settings)
      SameButLive here.1 there.1 ∧ SameEvents here.2 there.2 ∧
      ∀ act, Meet first second (past ++ [act]) (other ++ [act]) → act.RenewsLive here.1 →
        (perform act here.1).1.fleet.liveAt = (perform act there.1).1.fleet.liveAt := by
  have hfresh : SameButLive (fresh settings) (fresh settings) := .refl _
  refine ⟨hfresh.run hsame, fun past act hpast hact => exists_meet hsame hpast hact, ?_⟩
  intro past other hmeet here there
  obtain ⟨hconsole, hevents⟩ := hfresh.performAll hmeet.same
  refine ⟨hconsole, hevents, fun act _ hrenews => ?_⟩
  exact hconsole.liveAt_of_renewsLive (performAll_coherent (fresh_coherent settings) past)
    (performAll_coherent (fresh_coherent settings) other) hrenews

/-- A drone has one move to fly. -/
def silentFlight : List (Operation Rat) :=
  [.lines [.ok { drones := some [⟨0, 0, 0⟩] }, .ok { paths := some [[⟨2, 0, 0⟩]] }], .tick 1]

/-- The same flight; the drone has been seen elsewhere. -/
def reportedFlight : List (Operation Rat) :=
  [.lines [.ok { drones := some [⟨0, 0, 0⟩] },
    .ok { paths := some [[⟨2, 0, 0⟩]], droneId := some (.integer 0), location := some ⟨5, 0, 0⟩ }],
    .tick 1]

theorem reports_change_live_alone_reportedFlight :
    let settings : ConsoleSettings Rat := ⟨1000, 1, 1 / 2⟩
    let here := (performAll [.roster [⟨0, 0, 0⟩], .plan [[⟨2, 0, 0⟩]] true] (fresh settings)).1
    let there := (performAll [.roster [⟨0, 0, 0⟩], .update (.integer 0) ⟨5, 0, 0⟩,
      .plan [[⟨2, 0, 0⟩]] true] (fresh settings)).1
    silentFlight.map Operation.withoutReports = reportedFlight.map Operation.withoutReports ∧
      here.fleet.liveAt ≠ there.fleet.liveAt ∧ SameButLive here there ∧
      (perform (.tick 1) here).1.fleet.liveAt = (perform (.tick 1) there).1.fleet.liveAt := by
  intro settings here there
  obtain ⟨-, -, hmeet⟩ := reports_change_live_alone settings
    (show silentFlight.map Operation.withoutReports = reportedFlight.map Operation.withoutReports
      from rfl)
  obtain ⟨hsame, -, hrenewed⟩ := hmeet [.roster [⟨0, 0, 0⟩], .plan [[⟨2, 0, 0⟩]] true]
    [.roster [⟨0, 0, 0⟩], .update (.integer 0) ⟨5, 0, 0⟩, .plan [[⟨2, 0, 0⟩]] true]
    ⟨⟨[.tick 1], rfl⟩, ⟨[.tick 1], rfl⟩, rfl⟩
  refine ⟨rfl, by decide +kernel, hsame, ?_⟩
  refine hrenewed (.tick 1) ⟨⟨[], rfl⟩, ⟨[], rfl⟩, rfl⟩ (.inr ⟨⟨1, 1⟩, ?_⟩)
  decide +kernel

end FleetConsole
