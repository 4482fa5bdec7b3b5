import FleetConsole.Coordinate.Rational
import FleetConsole.Proofs.Effect

/-!
# The command lock

A command locks the console and only the swarm's ready unlocks it.  Between the two no outcome
becomes live: a run that is completed waits, and the operator is refused.  Live positions change
through the feed alone, by a roster or by the report of a single drone.

`locked_until_ready` says this of every operation, and of a ready that it unlocks, is told, and lets
at most the one outcome become live that waits when it is reached.
-/

namespace FleetConsole

open Console

variable {α : Type}

/-! ## What the feed says of live positions -/

/-- The report of a single drone, if its index names a slot of the table. -/
def liveAfterUpdate (droneId : Option Json.Number) (location : Option (Position α))
    (live : Slots (Position α)) : Slots (Position α) :=
  match droneId, location with
  | some index, some location =>
      match index.slot?.filter live.has with
      | some slot => live.set slot location
      | none => live
  | _, _ => live

def liveAfterRoster (drones : Option (List (Position α))) (live : Slots (Position α)) :
    Slots (Position α) :=
  match drones with
  | some roster => Slots.ofList roster
  | none => live

/-- The live positions that a message says: those of its roster, then the report of a drone. -/
def Message.liveAfter (message : Message α) (live : Slots (Position α)) : Slots (Position α) :=
  liveAfterUpdate message.droneId message.location (liveAfterRoster message.drones live)

def Act.liveAfter (live : Slots (Position α)) : Act α → Slots (Position α)
  | .roster drones => liveAfterRoster (some drones) live
  | .update droneId location => liveAfterUpdate (some droneId) (some location) live
  | _ => live

theorem Message.liveAfter_eq (message : Message α) (live : Slots (Position α)) :
    message.liveAfter live = message.acts.foldl Act.liveAfter live := by
  obtain ⟨identifier, drones, paths, droneId, location, ready⟩ := message
  -- three of the five fields say nothing of live positions
  have hidentifier : ∀ live : Slots (Position α),
      (identifier.map Act.identifier).toList.foldl Act.liveAfter live = live := by
    cases identifier <;> intro live <;> rfl
  have hpaths : ∀ live : Slots (Position α),
      (paths.map fun paths => Act.plan paths true).toList.foldl Act.liveAfter live = live := by
    cases paths <;> intro live <;> rfl
  have hready : ∀ live : Slots (Position α),
      (if ready = some true then [Act.ready] else []).foldl Act.liveAfter live = live := by
    intro live
    split <;> rfl
  simp only [Message.acts, List.foldl_append, hidentifier, hpaths, hready]
  cases drones <;> cases droneId <;> cases location <;> rfl

/-! ## The acts of a message -/

/-- Acts that neither report the swarm ready nor commit whatever there is. -/
def Act.IsHeld (act : Act α) : Prop := act ≠ .ready ∧ act ≠ .commit

theorem Message.isHeld_of_mem_acts {message : Message α} (hready : message.ready ≠ some true)
    {act : Act α} (hact : act ∈ message.acts) : act.IsHeld := by
  obtain ⟨identifier, drones, paths, droneId, location, ready⟩ := message
  have hnot : ¬ ready = some true := hready
  simp only [Message.acts, List.mem_append, Option.mem_toList, Option.map_eq_some_iff, if_neg hnot,
    List.not_mem_nil, or_false] at hact
  rcases hact with ⟨identifier, -, rfl⟩ | ⟨roster, -, rfl⟩ | hupdate | ⟨paths, -, rfl⟩
  · simp [Act.IsHeld]
  · simp [Act.IsHeld]
  · cases droneId <;> cases location <;>
      simp only [List.mem_singleton, List.not_mem_nil] at hupdate
    simp [hupdate, Act.IsHeld]
  · simp [Act.IsHeld]

/-- What a message says before its ready. -/
def Message.beforeReady (message : Message α) : Message α := { message with ready := none }

theorem Message.acts_of_ready {message : Message α} (hready : message.ready = some true) :
    message.acts = message.beforeReady.acts ++ [.ready] := by
  simp [Message.acts, Message.beforeReady, hready]

/-- What is done at the console itself: neither what the feed says nor the commit that asks for no
lock. -/
def Operation.IsLocal : Operation α → Prop
  | .startPlan _ | .tick _ | .move _ | .goHome | .operatorCommit => True
  | .lines _ | .commit => False

theorem Operation.isHeld_of_mem_acts {operation : Operation α} (hlocal : operation.IsLocal)
    {act : Act α} (hact : act ∈ operation.acts) : act.IsHeld := by
  cases operation with
  | lines | commit => exact hlocal.elim
  | startPlan | tick | move | goHome | operatorCommit =>
      obtain rfl := List.mem_singleton.mp hact
      simp [Act.IsHeld]

theorem Operation.liveAfter_eq {operation : Operation α} (hlocal : operation.IsLocal)
    (live : Slots (Position α)) : operation.acts.foldl Act.liveAfter live = live := by
  cases operation with
  | lines | commit => exact hlocal.elim
  | startPlan | tick | move | goHome | operatorCommit => rfl

/-! ## Locked consoles -/

variable [Coordinate α] {console next : Console α} {act : Act α} {events : List (Event α)}

/-- What leaves a console locked: no outcome becomes live by it, and `live` is what it says of live
positions. -/
structure KeepsLock (next : Console α) (events : List (Event α))
    (live : Slots (Position α)) : Prop where
  locked : next.locked = true
  not_reconciled : ∀ outcome, .reconciled outcome ∉ events
  live : next.fleet.liveAt = live

theorem Effect.keepsLock (hlocked : console.locked = true) (hheld : act.IsHeld)
    (heffect : Effect console act next events) :
    KeepsLock next events (act.liveAfter console.fleet.liveAt) := by
  cases heffect with
  | identified | planEmpty | planStarted | planDeferred | unreadable | tickIgnored | tickStepped
  | tickDeferred | commandRefused | operatorRefused => exact ⟨hlocked, by simp, rfl⟩
  | rosterKeepsRun | rosterEndsRun => exact ⟨hlocked, by simp, rfl⟩
  | updated index location slot hslot hhas =>
      refine ⟨hlocked, by simp, ?_⟩
      have hfound : index.slot?.filter console.fleet.liveAt.has = some slot :=
        Option.filter_eq_some_iff.mpr ⟨hslot, hhas⟩
      simp only [Act.liveAfter, liveAfterUpdate, hfound]
  | updateRefused index location hslot =>
      refine ⟨hlocked, by simp, ?_⟩
      have hfound : index.slot?.filter console.fleet.liveAt.has = none :=
        Option.filter_eq_none_iff.mpr fun slot hindex => by simp [hslot slot hindex]
      simp only [Act.liveAfter, liveAfterUpdate, hfound]
  | planRefused paths told fault hne hsteps =>
      refine ⟨hlocked, ?_, rfl⟩
      cases told <;> simp
  | readyAlone | readyReconciled => exact absurd rfl hheld.1
  | committed => exact absurd rfl hheld.2
  | planReconciled _ _ _ hopen | tickReconciled _ _ _ hopen | commandLocks hopen
  | operatorCommitted hopen =>
      -- these need an open console
      rw [hlocked] at hopen
      cases hopen

theorem Console.performAll_keepsLock (hlocked : console.locked = true) (acts : List (Act α))
    (hheld : ∀ act ∈ acts, act.IsHeld) :
    KeepsLock (performAll acts console).1 (performAll acts console).2
      (acts.foldl Act.liveAfter console.fleet.liveAt) := by
  induction acts generalizing console with
  | nil => exact ⟨hlocked, by simp, rfl⟩
  | cons act rest ih =>
      obtain ⟨hact, hlater⟩ := List.forall_mem_cons.mp hheld
      have hstep := (perform_effect act console).keepsLock hlocked hact
      have hrest := ih hstep.locked hlater
      refine ⟨hrest.locked, ?_, ?_⟩
      · intro outcome hmem
        rw [performAll_cons] at hmem
        rcases List.mem_append.mp hmem with hfirst | hsecond
        · exact hstep.not_reconciled outcome hfirst
        · exact hrest.not_reconciled outcome hsecond
      · rw [List.foldl_cons, ← hstep.live]
        exact hrest.live

theorem Console.handle_keepsLock (hlocked : console.locked = true) {message : Message α}
    (hready : message.ready ≠ some true) :
    KeepsLock (handle message console).1 (handle message console).2
      (message.liveAfter console.fleet.liveAt) := by
  rw [handle_eq, Message.liveAfter_eq]
  exact performAll_keepsLock hlocked message.acts fun act hact =>
    Message.isHeld_of_mem_acts hready hact

theorem Console.step_keepsLock (hlocked : console.locked = true) {operation : Operation α}
    (hlocal : operation.IsLocal) :
    KeepsLock (console.step operation).1 (console.step operation).2.told
      console.fleet.liveAt := by
  have hkeeps := performAll_keepsLock hlocked operation.acts fun act hact =>
    Operation.isHeld_of_mem_acts hlocal hact
  rw [performAll_operation, Operation.liveAfter_eq hlocal] at hkeeps
  exact hkeeps

/-! ## Ready -/

theorem Console.perform_ready_events (console : Console α) :
    (perform .ready console).2 =
      .controlsEnabled :: (console.deferred.map fun _ =>
        .reconciled console.fleet.reconcile.2).toList := by
  cases hdeferred : console.deferred with
  | none => rw [perform_ready_of_none hdeferred, Option.map_none, Option.toList_none]
  | some run => rw [perform_ready_of_some hdeferred, Option.map_some, Option.toList_some]

theorem Console.perform_ready_locked (console : Console α) :
    (perform .ready console).1.locked = false := by
  cases hdeferred : console.deferred with
  | none => rw [perform_ready_of_none hdeferred]
  | some run => rw [perform_ready_of_some hdeferred]

/-- Ready comes last in a message. -/
theorem Console.handle_of_ready {message : Message α} (hready : message.ready = some true)
    (console : Console α) :
    handle message console =
      ((perform .ready (handle message.beforeReady console).1).1,
        (handle message.beforeReady console).2
          ++ (perform .ready (handle message.beforeReady console).1).2) := by
  rw [handle_eq, handle_eq, Message.acts_of_ready hready, performAll_append, performAll_singleton]

/-- **The lock holds until ready.**  Nothing that is done at a locked console and no message without
ready makes an outcome live or unlocks it; live positions are what the message says.  A message with
ready unlocks the console, and makes an outcome live at most once, as the last thing it does, and
only if one waits when the ready is reached. -/
theorem locked_until_ready (console : Console α) (hlocked : console.locked = true) :
    (∀ operation : Operation α, operation.IsLocal →
      KeepsLock (console.step operation).1 (console.step operation).2.told
        console.fleet.liveAt) ∧
    (∀ message : Message α, message.ready ≠ some true →
      KeepsLock (handle message console).1 (handle message console).2
        (message.liveAfter console.fleet.liveAt)) ∧
    ∀ message : Message α, message.ready = some true →
      let reached := handle message.beforeReady console
      (handle message console).1.locked = false ∧
        (∀ outcome, .reconciled outcome ∉ reached.2) ∧
        (handle message console).2 =
          reached.2 ++ .controlsEnabled :: (reached.1.deferred.map fun _ =>
            .reconciled reached.1.fleet.reconcile.2).toList := by
  refine ⟨fun operation hlocal => step_keepsLock hlocked hlocal,
    fun message hready => handle_keepsLock hlocked hready, ?_⟩
  intro message hready reached
  have hbefore : message.beforeReady.ready ≠ some true := nofun
  have hreached := handle_keepsLock hlocked hbefore
  rw [handle_of_ready hready]
  refine ⟨perform_ready_locked reached.1, hreached.not_reconciled, ?_⟩
  rw [perform_ready_events]

/-- A drone has flown its only move, and the command before it is still out. -/
def waitingFlight : List (Operation Rat) :=
  [.lines [.ok { drones := some [⟨0, 0, 0⟩] }], .goHome, .startPlan [[⟨2, 0, 0⟩]], .tick 1]

theorem locked_until_ready_waitingFlight :
    let console := (fresh ⟨1000, 1, 1 / 2⟩).after waitingFlight
    let drifted : Message Rat := { droneId := some (.integer 0), location := some ⟨5, 0, 0⟩ }
    let arrived : Message Rat := { drifted with ready := some true }
    console.locked = true ∧
      KeepsLock (console.step .operatorCommit).1 (console.step .operatorCommit).2.told
        console.fleet.liveAt ∧
      KeepsLock (handle drifted console).1 (handle drifted console).2 (.ofList [⟨5, 0, 0⟩]) ∧
      (handle arrived console).1.locked = false ∧
      (handle arrived console).2 = [.liveUpdated 0, .controlsEnabled, .reconciled ⟨1, 1⟩] := by
  intro console drifted arrived
  have hlocked : console.locked = true := by decide +kernel
  obtain ⟨hlocal, hmessage, hready⟩ := locked_until_ready console hlocked
  have hdrifted : drifted.liveAfter console.fleet.liveAt = .ofList [⟨5, 0, 0⟩] := by
    decide +kernel
  have hreached : (handle arrived.beforeReady console).2 = [.liveUpdated 0] := by
    decide +kernel
  obtain ⟨hopen, -, hevents⟩ := hready arrived rfl
  refine ⟨hlocked, hlocal .operatorCommit trivial, hdrifted ▸ hmessage drifted nofun, hopen, ?_⟩
  rw [hevents, hreached]
  decide +kernel

end FleetConsole
