import FleetConsole.Proofs.Act

/-!
# What an act does

`Effect` lists everything that one act can do to a console, and `perform_effect` says that nothing
else happens.  A completed run is in the list twice, with open and with locked commands, and so is a
plan without moves, which is completed as soon as it is accepted.
-/

namespace FleetConsole

open Console

variable {α : Type} [Coordinate α]

/-- One case for every way in which an act can turn out: the console before it, the act, the console
after it and the events that are told. -/
inductive Effect (console : Console α) : Act α → Console α → List (Event α) → Prop
  | identified (identifier : String) :
      Effect console (.identifier identifier)
        { console with identifier := some identifier } [.identifierChanged identifier]
  | rosterKeepsRun (roster : List (Position α)) (hsize : roster.length = console.fleet.size) :
      Effect console (.roster roster)
        { console with fleet := console.fleet.replaceRoster roster, deferred := none }
        [.rosterReplaced roster.length]
  | rosterEndsRun (roster : List (Position α)) (hsize : roster.length ≠ console.fleet.size) :
      Effect console (.roster roster)
        { console with
          fleet := console.fleet.replaceRoster roster
          animator := { console.animator with run := none }
          deferred := none }
        ((console.animator.currentRun.map .animationCancelled).toList
          ++ [.rosterReplaced roster.length])
  | updated (index : Json.Number) (location : Position α) (slot : Nat)
      (hslot : index.slot? = some slot) (hhas : console.fleet.liveAt.has slot = true) :
      Effect console (.update index location)
        { console with
          fleet := { console.fleet with liveAt := console.fleet.liveAt.set slot location } }
        [.liveUpdated slot]
  | updateRefused (index : Json.Number) (location : Position α)
      (hslot : ∀ slot, index.slot? = some slot → console.fleet.liveAt.has slot = false) :
      Effect console (.update index location) console
        [.rejected (.outOfRange index.text console.fleet.size)]
  | planEmpty (told : Bool) : Effect console (.plan [] told) console []
  | planRefused (paths : List (List (Position α))) (told : Bool) (fault : PlanFault)
      (hne : paths ≠ []) (hsteps : Plan.steps? console.fleet.size paths = none) :
      Effect console (.plan paths told) console
        (if told then [.rejected (.invalidPlan fault.message)] else [])
  | planStarted (paths : List (List (Position α))) (told : Bool) (steps : Nat)
      (hsteps : Plan.steps? console.fleet.size paths = some steps) (hmoves : steps ≠ 0) :
      Effect console (.plan paths told)
        { console with
          animator := { console.animator with
            run := some ⟨console.animator.lastRun + 1, paths, 0⟩
            lastRun := console.animator.lastRun + 1 }
          deferred := none }
        [.animationStarted (console.animator.lastRun + 1) steps]
  | planDeferred (paths : List (List (Position α))) (told : Bool)
      (hsteps : Plan.steps? console.fleet.size paths = some 0) (hlocked : console.locked = true) :
      Effect console (.plan paths told)
        { console with
          animator := { console.animator with
            run := none
            lastRun := console.animator.lastRun + 1 }
          deferred := some (console.animator.lastRun + 1) }
        [.animationStarted (console.animator.lastRun + 1) 0,
          .animationCompleted (console.animator.lastRun + 1),
          .commitDeferred (console.animator.lastRun + 1)]
  | planReconciled (paths : List (List (Position α))) (told : Bool)
      (hsteps : Plan.steps? console.fleet.size paths = some 0) (hopen : console.locked = false) :
      Effect console (.plan paths told)
        { console with
          fleet := console.fleet.reconcile.1
          animator := { console.animator with
            run := none
            lastRun := console.animator.lastRun + 1 }
          deferred := none }
        [.animationStarted (console.animator.lastRun + 1) 0,
          .animationCompleted (console.animator.lastRun + 1),
          .reconciled console.fleet.reconcile.2]
  | readyAlone (hdeferred : console.deferred = none) :
      Effect console .ready { console with locked := false } [.controlsEnabled]
  | readyReconciled (run : Nat) (hdeferred : console.deferred = some run) :
      Effect console .ready
        { console with fleet := console.fleet.reconcile.1, locked := false, deferred := none }
        [.controlsEnabled, .reconciled console.fleet.reconcile.2]
  | unreadable (problem : Json.Problem) :
      Effect console (.unreadable problem) console
        [.rejected (.malformedMessage problem.message)]
  | tickIgnored (id : Nat) (hother : console.animator.currentRun ≠ some id) :
      Effect console (.tick id) console []
  | tickStepped (run next : Run α) (hrun : console.animator.run = some run)
      (hnext : Animator.advance console.animator.clock run = some next) :
      Effect console (.tick run.id)
        { console with
          fleet := console.fleet.shift (Animator.subMoves console.animator.clock run)
          animator := { console.animator with run := some next } } []
  | tickDeferred (run : Run α) (hrun : console.animator.run = some run)
      (hlast : Animator.advance console.animator.clock run = none)
      (hlocked : console.locked = true) :
      Effect console (.tick run.id)
        { console with
          fleet := console.fleet.shift (Animator.subMoves console.animator.clock run)
          animator := { console.animator with run := none }
          deferred := some run.id }
        [.animationCompleted run.id, .commitDeferred run.id]
  | tickReconciled (run : Run α) (hrun : console.animator.run = some run)
      (hlast : Animator.advance console.animator.clock run = none)
      (hopen : console.locked = false) :
      Effect console (.tick run.id)
        { console with
          fleet := (console.fleet.shift (Animator.subMoves console.animator.clock run)).reconcile.1
          animator := { console.animator with run := none }
          deferred := none }
        [.animationCompleted run.id,
          .reconciled
            (console.fleet.shift (Animator.subMoves console.animator.clock run)).reconcile.2]
  | commandLocks (hopen : console.locked = false) (hfleet : console.fleet.size ≠ 0) :
      Effect console .command { console with locked := true } []
  | commandRefused (hready : console.locked = true ∨ console.fleet.size = 0) :
      Effect console .command console []
  | operatorCommitted (hopen : console.locked = false) (hfleet : console.fleet.size ≠ 0) :
      Effect console .operatorCommit
        { console with fleet := console.fleet.reconcile.1, deferred := none }
        [.reconciled console.fleet.reconcile.2]
  | operatorRefused (hready : console.locked = true ∨ console.fleet.size = 0) :
      Effect console .operatorCommit console []
  | committed :
      Effect console .commit
        { console with fleet := console.fleet.reconcile.1, deferred := none }
        [.reconciled console.fleet.reconcile.2]

namespace Console

/-! ## The handlers, case by case -/

omit [Coordinate α] in
/-- Commands are possible, or one of two things keeps them from it. -/
theorem ready_cases (console : Console α) :
    (console.ready = .ok () ∧ console.locked = false ∧ console.fleet.size ≠ 0) ∨
      ∃ refusal, console.ready = .error refusal ∧
        (console.locked = true ∨ console.fleet.size = 0) := by
  by_cases hlocked : console.locked = true
  · exact .inr ⟨.commandsLocked, by simp [ready, hlocked], .inl hlocked⟩
  · by_cases hsize : console.fleet.size = 0
    · exact .inr ⟨.emptyFleet, by simp [ready, hlocked, hsize], .inr hsize⟩
    · exact .inl ⟨by simp [ready, hlocked, hsize], by simpa using hlocked, hsize⟩

/-- An index that names a slot. -/
theorem perform_update_of_some {index : Json.Number} {console : Console α} {slot : Nat}
    (hslot : index.slot?.filter console.fleet.liveAt.has = some slot) (location : Position α) :
    perform (.update index location) console =
      ({ console with
        fleet := { console.fleet with liveAt := console.fleet.liveAt.set slot location } },
        [.liveUpdated slot]) := by
  obtain ⟨-, hhas⟩ := Option.filter_eq_some_iff.mp hslot
  simp only [perform, takeUpdate, orReject, Fleet.slot, hslot]
  simp only [bind, Except.bind, Fleet.relocate, hhas, if_true]

/-- An index that names no slot. -/
theorem perform_update_of_none {index : Json.Number} {console : Console α}
    (hslot : index.slot?.filter console.fleet.liveAt.has = none) (location : Position α) :
    perform (.update index location) console =
      (console, [.rejected (.outOfRange index.text console.fleet.size)]) := by
  simp only [perform, takeUpdate, orReject, Fleet.slot, hslot]
  rfl

theorem perform_update_effect (index : Json.Number) (location : Position α)
    (console : Console α) :
    Effect console (.update index location) (perform (.update index location) console).1
      (perform (.update index location) console).2 := by
  cases hslot : index.slot?.filter console.fleet.liveAt.has with
  | none =>
      rw [perform_update_of_none hslot]
      refine .updateRefused index location fun slot hslot' => ?_
      simpa [hslot'] using hslot
  | some slot =>
      obtain ⟨hslot', hhas⟩ := Option.filter_eq_some_iff.mp hslot
      rw [perform_update_of_some hslot]
      exact .updated index location slot hslot' hhas

theorem perform_roster_effect (roster : List (Position α)) (console : Console α) :
    Effect console (.roster roster) (perform (.roster roster) console).1
      (perform (.roster roster) console).2 := by
  by_cases hsize : roster.length = console.fleet.size
  · have hkept : perform (.roster roster) console =
        ({ console with fleet := console.fleet.replaceRoster roster, deferred := none },
          [.rosterReplaced roster.length]) := by
      simp only [perform, takeRoster, if_pos hsize]
    rw [hkept]
    exact .rosterKeepsRun roster hsize
  · have hended : perform (.roster roster) console =
        ({ console with
          fleet := console.fleet.replaceRoster roster
          animator := { console.animator with run := none }
          deferred := none },
          (console.animator.currentRun.map .animationCancelled).toList
            ++ [.rosterReplaced roster.length]) := by
      simp only [perform, takeRoster, if_neg hsize, Animator.cancel]
    rw [hended]
    exact .rosterEndsRun roster hsize

theorem completeRun_of_locked {console : Console α} (hlocked : console.locked = true) (run : Nat) :
    completeRun run console =
      ({ console with deferred := some run },
        [.animationCompleted run, .commitDeferred run]) := by
  simp only [completeRun, if_pos hlocked]

theorem completeRun_of_open {console : Console α} (hopen : console.locked = false) (run : Nat) :
    completeRun run console =
      ({ console with fleet := console.fleet.reconcile.1, deferred := none },
        [.animationCompleted run, .reconciled console.fleet.reconcile.2]) := by
  have hnot : ¬ console.locked = true := by simp [hopen]
  rw [completeRun, if_neg hnot]
  rfl

/-- A plan without moves is completed as it is accepted. -/
theorem startPlan_of_steps?_zero {paths : List (List (Position α))} {console : Console α}
    (hsteps : Plan.steps? console.fleet.size paths = some 0) :
    startPlan paths console =
      (let run := console.animator.lastRun + 1
      let ended := completeRun run
        { console with
          animator := { console.animator with run := none, lastRun := run }
          deferred := none }
      .ok (ended.1, .animationStarted run 0 :: ended.2)) := by
  simp only [startPlan, Animator.start_of_steps? hsteps console.animator, if_true]

/-- A plan with moves is under way as it is accepted. -/
theorem startPlan_of_steps?_pos {paths : List (List (Position α))} {console : Console α}
    {steps : Nat} (hsteps : Plan.steps? console.fleet.size paths = some steps)
    (hmoves : steps ≠ 0) :
    startPlan paths console =
      .ok ({ console with
        animator := { console.animator with
          run := some ⟨console.animator.lastRun + 1, paths, 0⟩
          lastRun := console.animator.lastRun + 1 }
        deferred := none },
        [.animationStarted (console.animator.lastRun + 1) steps]) := by
  have hstart := Animator.start_of_steps? hsteps console.animator
  rw [if_neg hmoves] at hstart
  simp only [startPlan, hstart]

/-- Any other plan leaves the console as it is, and is refused unless it has no path. -/
theorem startPlan_of_steps?_eq_none {paths : List (List (Position α))} {console : Console α}
    (hsteps : Plan.steps? console.fleet.size paths = none) :
    (paths = [] ∧ startPlan paths console = .ok (console, [])) ∨
      paths ≠ [] ∧ ∃ fault : PlanFault,
        startPlan paths console = .error (.invalidPlan fault.message) := by
  rcases Animator.start_of_steps?_eq_none hsteps console.animator with
    ⟨rfl, hstart⟩ | ⟨hne, fault, hstart⟩
  · exact .inl ⟨rfl, by simp only [startPlan, hstart]⟩
  · exact .inr ⟨hne, fault, by simp only [startPlan, hstart]⟩

/-- Only of a refusal it matters whether it is told. -/
theorem perform_plan_of_ok {paths : List (List (Position α))} {console : Console α}
    {result : Console α × List (Event α)} (h : startPlan paths console = .ok result)
    (told : Bool) : perform (.plan paths told) console = result := by
  cases told <;> simp only [perform, orReject, orNothing, h]

private theorem perform_plan_of_error {paths : List (List (Position α))} {console : Console α}
    {refusal : Refusal} (h : startPlan paths console = .error refusal) (told : Bool) :
    perform (.plan paths told) console = (console, if told then [.rejected refusal] else []) := by
  cases told <;> simp only [perform, orReject, orNothing, h] <;> rfl

theorem perform_plan_effect (paths : List (List (Position α))) (told : Bool)
    (console : Console α) :
    Effect console (.plan paths told) (perform (.plan paths told) console).1
      (perform (.plan paths told) console).2 := by
  cases hsteps : Plan.steps? console.fleet.size paths with
  | none =>
      rcases startPlan_of_steps?_eq_none hsteps with ⟨rfl, hok⟩ | ⟨hne, fault, herror⟩
      · rw [perform_plan_of_ok hok]
        exact .planEmpty told
      · rw [perform_plan_of_error herror]
        exact .planRefused paths told fault hne hsteps
  | some steps =>
      by_cases hmoves : steps = 0
      · subst hmoves
        have hok := perform_plan_of_ok (startPlan_of_steps?_zero hsteps) told
        by_cases hlocked : console.locked = true
        · rw [hok, completeRun_of_locked]
          · exact .planDeferred paths told hsteps hlocked
          · exact hlocked
        · rw [Bool.not_eq_true] at hlocked
          rw [hok, completeRun_of_open]
          · exact .planReconciled paths told hsteps hlocked
          · exact hlocked
      · rw [perform_plan_of_ok (startPlan_of_steps?_pos hsteps hmoves) told]
        exact .planStarted paths told steps hsteps hmoves

theorem perform_ready_of_none {console : Console α} (hnone : console.deferred = none) :
    perform .ready console = ({ console with locked := false }, [.controlsEnabled]) := by
  simp only [perform, takeReady, hnone, Option.isSome_none, Bool.false_eq_true, if_false]

/-- The outcome that waits becomes live, right after the operator is told that controls are
enabled. -/
theorem perform_ready_of_some {console : Console α} {run : Nat}
    (hdeferred : console.deferred = some run) :
    perform .ready console =
      ({ console with
        fleet := console.fleet.reconcile.1, locked := false, deferred := none },
        [.controlsEnabled, .reconciled console.fleet.reconcile.2]) := by
  simp only [perform, takeReady, hdeferred, Option.isSome_some, if_true]
  rfl

theorem perform_ready_effect (console : Console α) :
    Effect console .ready (perform .ready console).1 (perform .ready console).2 := by
  cases hdeferred : console.deferred with
  | none =>
      rw [perform_ready_of_none hdeferred]
      exact .readyAlone hdeferred
  | some run =>
      rw [perform_ready_of_some hdeferred]
      exact .readyReconciled run hdeferred

/-- The last sub-step of a run completes it where the sub-step has led. -/
theorem perform_tick_of_last {console : Console α} {run : Run α}
    (hrun : console.animator.run = some run)
    (hlast : Animator.advance console.animator.clock run = none) :
    perform (.tick run.id) console =
      completeRun run.id
        { console with
          fleet := console.fleet.shift (Animator.subMoves console.animator.clock run)
          animator := { console.animator with run := none } } := by
  simp only [perform, Console.tick, Animator.tick, hrun, hlast, ne_eq, not_true_eq_false, if_false]

theorem perform_tick_effect (id : Nat) (console : Console α) :
    Effect console (.tick id) (perform (.tick id) console).1 (perform (.tick id) console).2 := by
  cases hrun : console.animator.run with
  | none =>
      have hidle : perform (.tick id) console = (console, []) := by
        simp only [perform, Console.tick, Animator.tick, hrun]
      rw [hidle]
      exact .tickIgnored id (by simp [Animator.currentRun, hrun])
  | some run =>
      by_cases hid : run.id = id
      · subst hid
        cases hnext : Animator.advance console.animator.clock run with
        | some next =>
            have hstepped : perform (.tick run.id) console =
                ({ console with
                  fleet := console.fleet.shift (Animator.subMoves console.animator.clock run)
                  animator := { console.animator with run := some next } }, []) := by
              simp only [perform, Console.tick, Animator.tick, hrun, hnext, ne_eq,
                not_true_eq_false, if_false]
            rw [hstepped]
            exact .tickStepped run next hrun hnext
        | none =>
            by_cases hlocked : console.locked = true
            · rw [perform_tick_of_last hrun hnext, completeRun_of_locked]
              · exact .tickDeferred run hrun hnext hlocked
              · exact hlocked
            · rw [Bool.not_eq_true] at hlocked
              rw [perform_tick_of_last hrun hnext, completeRun_of_open]
              · exact .tickReconciled run hrun hnext hlocked
              · exact hlocked
      · -- the tick was meant for another run
        have hstale : perform (.tick id) console = (console, []) := by
          simp only [perform, Console.tick, Animator.tick, hrun, ne_eq, hid, not_false_eq_true,
            if_true]
        rw [hstale]
        exact .tickIgnored id (by simpa [Animator.currentRun, hrun] using hid)

theorem perform_command_effect (console : Console α) :
    Effect console .command (perform .command console).1 (perform .command console).2 := by
  rcases ready_cases console with ⟨hready, hopen, hfleet⟩ | ⟨refusal, hready, hwhy⟩
  · have hlocks : perform .command console = ({ console with locked := true }, []) := by
      simp only [perform, orNothing, hready, bind, Except.bind]
    rw [hlocks]
    exact .commandLocks hopen hfleet
  · have hrefused : perform .command console = (console, []) := by
      simp only [perform, orNothing, hready, bind, Except.bind]
    rw [hrefused]
    exact .commandRefused hwhy

theorem perform_operatorCommit_of_ready {console : Console α} (hready : console.ready = .ok ()) :
    perform .operatorCommit console = commit console := by
  simp only [perform, orNothing, operatorCommit, hready, bind, Except.bind]
  rfl

theorem perform_operatorCommit_effect (console : Console α) :
    Effect console .operatorCommit (perform .operatorCommit console).1
      (perform .operatorCommit console).2 := by
  rcases ready_cases console with ⟨hready, hopen, hfleet⟩ | ⟨refusal, hready, hwhy⟩
  · rw [perform_operatorCommit_of_ready hready]
    exact .operatorCommitted hopen hfleet
  · have hrefused : perform .operatorCommit console = (console, []) := by
      simp only [perform, orNothing, operatorCommit, hready, bind, Except.bind]
    rw [hrefused]
    exact .operatorRefused hwhy

/-! ## All acts -/

/-- An act has one of the effects of the list. -/
theorem perform_effect (act : Act α) (console : Console α) :
    Effect console act (perform act console).1 (perform act console).2 := by
  cases act with
  | identifier identifier => exact .identified identifier
  | roster roster => exact perform_roster_effect roster console
  | update index location => exact perform_update_effect index location console
  | plan paths told => exact perform_plan_effect paths told console
  | ready => exact perform_ready_effect console
  | unreadable problem => exact .unreadable problem
  | tick id => exact perform_tick_effect id console
  | command => exact perform_command_effect console
  | operatorCommit => exact perform_operatorCommit_effect console
  | commit => exact .committed

/-- What every effect preserves, acts preserve. -/
theorem performAll_preserves {holds : Console α → Prop}
    (heffect : ∀ {console next : Console α} {act : Act α} {events : List (Event α)},
      holds console → Effect console act next events → holds next)
    (acts : List (Act α)) {console : Console α} (hstart : holds console) :
    holds (performAll acts console).1 := by
  induction acts generalizing console with
  | nil => exact hstart
  | cons act rest ih => exact ih (heffect hstart (perform_effect act console))

end Console

end FleetConsole
