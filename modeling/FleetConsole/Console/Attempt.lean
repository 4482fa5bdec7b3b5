import FleetConsole.Console.Operation

/-!
# Attempts that work in place

What is refused leaves the console as it was, and in `Console` this is so by the types: an attempt
that fails has no console to return.  Here the same attempts are made in place.  Each looks at the
console and changes it bit by bit, in the order in which things are done, and one that fails leaves
the console that it has come to, whatever has been changed by then.

* **Looking before changing.**  `Does` relates an attempt to the one of `Console`, and `Spares` says
  that it has changed nothing if it is refused.
* **Operations.**  `step_eq_attempt` says that an operation in place does what the operation does,
  and `Operation.attempt_spares` that none of them is refused half way.
* **Messages.**  Two fields of a message can be refused; `handle_eq_inPlace` says that a message
  does what it does with both in place.
-/

namespace FleetConsole

/-- Something that changes the console as it goes, and may be refused half way. -/
abbrev Attempt (α β : Type) := EStateM Refusal (Console α) β

namespace Attempt

variable {α β γ : Type}

/-- What comes of an attempt.  The console is the one that it has come to. -/
def conclude (outcome : β → Outcome α) :
    EStateM.Result Refusal (Console α) β → Console α × Outcome α
  | .ok result next => (next, outcome result)
  | .error refusal next => (next, .refused refusal)

/-- An attempt whose refusal is told as an event; whatever comes next finds the console that it has
come to. -/
def orReject (attempt : Attempt α (List (Event α))) : Console.Handler α := fun console =>
  match attempt.run console with
  | .ok events next => (next, events)
  | .error refusal next => (next, [.rejected refusal])

/-- What cannot be refused. -/
def told (handler : Console.Handler α) : Attempt α (List (Event α)) :=
  modifyGet fun console => (handler console).swap

/-! ## Looking before changing -/

/-- An attempt does what another one does that fails without a console: it comes to the same console
and the same result, or to the same refusal and the console of the start. -/
def Does (attempt : Attempt α β) (whole : Console α → Except Refusal (Console α × β)) : Prop :=
  ∀ console, attempt.run console =
    match whole console with
    | .ok (next, result) => .ok result next
    | .error refusal => .error refusal console

/-- An attempt that has changed nothing if it is refused. -/
def Spares (attempt : Attempt α β) : Prop :=
  ∀ console refusal next, attempt.run console = .error refusal next → next = console

section

variable {attempt : Attempt α β} {whole : Console α → Except Refusal (Console α × β)}

theorem Does.spares (h : attempt.Does whole) : attempt.Spares := by
  intro console refusal next hrefused
  rw [h] at hrefused
  cases hwhole : whole console with
  | ok result =>
      rw [hwhole] at hrefused
      cases hrefused
  | error other =>
      rw [hwhole] at hrefused
      cases hrefused
      rfl

theorem Does.conclude_eq (h : attempt.Does whole) (outcome : β → Outcome α) (console : Console α) :
    Console.conclude console outcome (whole console) = conclude outcome (attempt.run console) := by
  rw [h]
  cases whole console <;> rfl

theorem Does.orReject_eq {attempt : Attempt α (List (Event α))}
    {whole : Console α → Except Refusal (Console α × List (Event α))} (h : attempt.Does whole) :
    Console.orReject whole = attempt.orReject := by
  funext console
  rw [Console.orReject, orReject, h]
  cases whole console <;> rfl

theorem told_spares (handler : Console.Handler α) : (told handler).Spares := by
  intro console refusal next hrefused
  cases hrefused

theorem run_map (f : β → γ) (attempt : Attempt α β) (console : Console α) :
    (f <$> attempt).run console =
      match attempt.run console with
      | .ok result next => .ok (f result) next
      | .error refusal next => .error refusal next := by
  simp only [Functor.map, EStateM.map, EStateM.run]
  cases attempt console <;> rfl

theorem Spares.map (h : attempt.Spares) (f : β → γ) : Spares (f <$> attempt) := by
  intro console refusal next hrefused
  rw [run_map] at hrefused
  cases hattempt : attempt.run console with
  | ok result other =>
      rw [hattempt] at hrefused
      cases hrefused
  | error other reached =>
      rw [hattempt] at hrefused
      cases hrefused
      exact h console refusal next hattempt

theorem conclude_map (f : β → Outcome α) (attempt : Attempt α β) (console : Console α) :
    conclude id ((f <$> attempt).run console) = conclude f (attempt.run console) := by
  rw [run_map]
  cases attempt.run console <;> rfl

theorem run_ofExcept (value : Except Refusal β) (console : Console α) :
    (ofExcept value : Attempt α β).run console =
      match value with
      | .ok result => .ok result console
      | .error refusal => .error refusal console := by
  cases value <;> rfl

end

/-! ## Commands -/

/-- Commands need an open lock and a fleet. -/
def ready : Attempt α Unit := do
  if (← get).locked then throw .commandsLocked
  if (← get).fleet.size = 0 then throw .emptyFleet

theorem run_ready (console : Console α) :
    (ready (α := α)).run console =
      match console.ready with
      | .ok () => .ok () console
      | .error refusal => .error refusal console := by
  rw [Console.ready]
  by_cases hlocked : console.locked = true
  · simp [ready, hlocked]
  · by_cases hsize : console.fleet.size = 0
    · simp [ready, hlocked, hsize]
    · simp [ready, hlocked, hsize]

/-- The targets are built before the lock is taken. -/
def command (targets : Fleet α → List (Position α)) : Attempt α (List (Position α)) := do
  ready
  let built := targets (← get).fleet
  modify fun console => { console with locked := true }
  return built

theorem command_does (targets : Fleet α → List (Position α)) :
    (command targets).Does (fun console => do
      console.ready
      .ok ({ console with locked := true }, targets console.fleet)) := by
  intro console
  simp only [command, EStateM.run_bind, run_ready]
  cases console.ready <;> rfl

/-! ## Reports of drones -/

/-- The slot of a drone is looked up, then the drone is put there. -/
def update (index : Json.Number) (location : Position α) : Attempt α (List (Event α)) := do
  let slot ← ofExcept ((← get).fleet.slot index)
  let fleet ← ofExcept ((← get).fleet.relocate slot location)
  modify fun console => { console with fleet := fleet }
  return [.liveUpdated slot]

theorem update_does (index : Json.Number) (location : Position α) :
    (update index location).Does (fun console => do
      let slot ← console.fleet.slot index
      let fleet ← console.fleet.relocate slot location
      .ok ({ console with fleet := fleet }, [.liveUpdated slot])) := by
  intro console
  simp only [update, EStateM.run_bind, EStateM.run_get, run_ofExcept]
  cases console.fleet.slot index with
  | error refusal => rfl
  | ok slot =>
      simp only [bind, Except.bind]
      cases console.fleet.relocate slot location <;> rfl

/-! ## Plans -/

/-- The animator looks at a plan.  Only then it gives out a number, drops the run under way and
takes up the plan. -/
def startRun (paths : List (List (Position α))) : Attempt α RunStart := do
  match paths with
  | [] => return .empty
  | first :: _ =>
      let size := (← get).fleet.size
      if paths.length ≠ size then
        throw (.invalidPlan (PlanFault.pathCount paths.length size).message)
      if let some fault := Animator.lengthFault? first.length 0 paths then
        throw (.invalidPlan fault.message)
      modify fun console =>
        { console with
          animator := { console.animator with lastRun := console.animator.lastRun + 1 } }
      let run := (← get).animator.lastRun
      modify fun console => { console with animator := { console.animator with run := none } }
      if first.isEmpty then return .finished run
      modify fun console =>
        { console with animator := { console.animator with run := some ⟨run, paths, 0⟩ } }
      return .started run first.length

theorem run_startRun (paths : List (List (Position α))) (console : Console α) :
    (startRun paths).run console =
      match console.animator.start paths console.fleet.size with
      | .ok (animator, start) => .ok start { console with animator := animator }
      | .error fault => .error (.invalidPlan fault.message) console := by
  cases paths with
  | nil => rfl
  | cons first rest =>
      by_cases hsize : (first :: rest).length = console.fleet.size
      · cases hfault : Animator.lengthFault? first.length 0 (first :: rest) with
        | some fault => simp [startRun, Animator.start, hsize, hfault]
        | none =>
            by_cases hmoves : first.isEmpty = true
            · simp only [startRun, Animator.start, EStateM.run_bind, EStateM.run_get, hsize, hfault,
                hmoves, ne_eq, not_true_eq_false, if_false, if_true]
              rfl
            · simp only [startRun, Animator.start, EStateM.run_bind, EStateM.run_get, hsize, hfault,
                hmoves, ne_eq, not_true_eq_false, if_false, Bool.false_eq_true]
              rfl
      · rw [List.length_cons] at hsize
        simp [startRun, Animator.start, hsize]

variable [Coordinate α]

def startPlan (paths : List (List (Position α))) : Attempt α (List (Event α)) := do
  match ← startRun paths with
  | .started run steps =>
      modify fun console => { console with deferred := none }
      return [.animationStarted run steps]
  | .finished run =>
      modify fun console => { console with deferred := none }
      let events ← told (Console.completeRun run)
      return .animationStarted run 0 :: events
  | .empty => return []

theorem startPlan_does (paths : List (List (Position α))) :
    (startPlan paths).Does (Console.startPlan paths) := by
  intro console
  simp only [startPlan, EStateM.run_bind, run_startRun, Console.startPlan]
  cases console.animator.start paths console.fleet.size with
  | error fault => rfl
  | ok started =>
      obtain ⟨animator, start⟩ := started
      cases start <;> rfl

/-! ## The commit of the operator -/

/-- First no outcome waits any more, then the simulated positions become live. -/
def operatorCommit : Attempt α Reconciliation := do
  ready
  modify fun console => { console with deferred := none }
  let (fleet, outcome) := (← get).fleet.reconcile
  modify fun console => { console with fleet := fleet }
  return outcome

theorem operatorCommit_does : (operatorCommit (α := α)).Does Console.operatorCommit := by
  intro console
  simp only [operatorCommit, EStateM.run_bind, run_ready, Console.operatorCommit]
  cases console.ready <;> rfl

end Attempt

/-! ## Operations and messages -/

variable {α : Type} [Coordinate α]

open Attempt

/-- An operation in place. -/
def Operation.attempt : Operation α → Attempt α (Outcome α)
  | .lines batch => Outcome.events <$> told (Console.handleLines batch)
  | .startPlan paths => Outcome.events <$> Attempt.startPlan paths
  | .tick run => Outcome.events <$> told (Console.tick run)
  | .move step => Outcome.targets <$> command (Fleet.moveTargets step)
  | .goHome => Outcome.targets <$> command Fleet.homeTargets
  | .operatorCommit => (fun outcome => .events [.reconciled outcome]) <$> Attempt.operatorCommit
  | .commit => Outcome.events <$> told Console.commit

/-- An operation in place does what the operation does. -/
theorem Console.step_eq_attempt (console : Console α) (operation : Operation α) :
    console.step operation = Attempt.conclude id (operation.attempt.run console) := by
  cases operation with
  | lines | tick | commit => rfl
  | startPlan paths =>
      rw [Operation.attempt, conclude_map]
      exact (startPlan_does paths).conclude_eq .events console
  | move step =>
      rw [Operation.attempt, conclude_map]
      exact (command_does (Fleet.moveTargets step)).conclude_eq .targets console
  | goHome =>
      rw [Operation.attempt, conclude_map]
      exact (command_does Fleet.homeTargets).conclude_eq .targets console
  | operatorCommit =>
      rw [Operation.attempt, conclude_map]
      exact operatorCommit_does.conclude_eq _ console

/-- An operation that is refused has changed nothing. -/
theorem Operation.attempt_spares (operation : Operation α) : operation.attempt.Spares := by
  cases operation with
  | lines batch => exact (told_spares (Console.handleLines batch)).map _
  | startPlan paths => exact (startPlan_does paths).spares.map _
  | tick run => exact (told_spares (Console.tick run)).map _
  | move step => exact (command_does (Fleet.moveTargets step)).spares.map _
  | goHome => exact (command_does Fleet.homeTargets).spares.map _
  | operatorCommit => exact operatorCommit_does.spares.map _
  | commit => exact (told_spares Console.commit).map _

namespace Console

/-- A message, with the fields in place that can be refused. -/
def handleInPlace (message : Message α) : Handler α :=
  inTurn
    [takeIdentifier message.identifier, takeRoster message.drones,
      match message.droneId, message.location with
      | some index, some location => (update index location).orReject
      | _, _ => fun console => (console, []),
      match message.paths with
      | some paths => (Attempt.startPlan paths).orReject
      | none => fun console => (console, []),
      takeReady message.ready]

theorem handle_eq_inPlace (message : Message α) : handle message = handleInPlace message := by
  obtain ⟨identifier, drones, paths, droneId, location, ready⟩ := message
  have hupdate (index : Json.Number) (location : Position α) :
      takeUpdate (some index) (some location) = (update index location).orReject :=
    (update_does index location).orReject_eq
  have hplan (paths : List (List (Position α))) :
      takePlan (some paths) = (Attempt.startPlan paths).orReject :=
    (startPlan_does paths).orReject_eq
  cases paths <;> cases droneId <;> cases location <;>
    simp only [handle, handleInPlace, hupdate, hplan] <;> rfl

end Console

end FleetConsole
