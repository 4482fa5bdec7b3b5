import FleetConsole.Proofs.Coherence
import FleetConsole.Proofs.Lock

/-!
# The outcome that waits

A run that is completed while commands are locked leaves its outcome waiting for the swarm's ready.
`deferred_outcome` says what the next ready then does.

* **Undisturbed.**  If neither a roster nor an accepted plan comes in between, the outcome of the
  run becomes live, as it was when the run was completed, and it does so once.
* **Disturbed.**  Otherwise that outcome is lost.  Either nothing becomes live, or a later run was
  completed on a locked console and undisturbed from then on, and its outcome becomes live.

Everything in between is one case analysis, `Effect.passes`: while commands are locked an act
completes a later run, or no outcome waits after it, or it leaves what waits alone.
-/

namespace FleetConsole

open Console

variable {α : Type}

/-! ## What drops an outcome -/

/-- A roster does, and a plan that the fleet can fly. -/
def Act.Supersedes (fleetSize : Nat) : Act α → Prop
  | .roster _ => True
  | .plan paths _ => Plan.steps? fleetSize paths ≠ none
  | _ => False

variable [Coordinate α]

/-- Acts that, done one after the other, drop no outcome. -/
def Undisturbed : List (Act α) → Console α → Prop
  | [], _ => True
  | act :: rest, console =>
      ¬ act.Supersedes console.fleet.size ∧ Undisturbed rest (perform act console).1

/-- An act by which a run is completed while commands are locked. -/
def CompletesLocked (run : Nat) (act : Act α) (console : Console α) : Prop :=
  console.locked = true ∧ .animationCompleted run ∈ (perform act console).2

/-- The run completed last in the course of some acts, if nothing drops its outcome any more: it is
completed while commands are locked, and `completed` is the console right after that. -/
def CompletedLast (run : Nat) (completed : Console α) (acts : List (Act α))
    (console : Console α) : Prop :=
  ∃ before act after, acts = before ++ act :: after ∧
    CompletesLocked run act (performAll before console).1 ∧
    completed = (perform act (performAll before console).1).1 ∧
    Undisturbed after completed

/-- By a ready, the outcome that a run had when it was completed becomes live, and waits no more:
every drone is then where the run left it, without the vertical offset and on whole units. -/
structure Delivers (yOffset : α) (completed : Console α)
    (ready : Console α × List (Event α)) : Prop where
  events : ∃ outcome, ready.2 = [.controlsEnabled, .reconciled outcome]
  live : ∀ slot, ready.1.fleet.liveAt.get? slot =
    (completed.fleet.simulatedAt.get? slot).map fun drone =>
      ⟨Coordinate.round drone.position.x, Coordinate.round (drone.position.y - yOffset),
        Coordinate.round drone.position.z⟩
  deferred : ready.1.deferred = none

/-! ## While an outcome waits -/

variable {settings : ConsoleSettings α} {console next : Console α} {act : Act α}
  {events : List (Event α)} {run : Nat} {outcome : Slots (Rendered α)}

/-- The outcome of a run waits, and the simulated drones are where the run left them. -/
structure Waits (settings : ConsoleSettings α) (run : Nat) (outcome : Slots (Rendered α))
    (console : Console α) : Prop where
  coherent : Coherent settings console
  deferred : console.deferred = some run
  simulated : console.fleet.simulatedAt = outcome

omit [Coordinate α] in
theorem Waits.locked (h : Waits settings run outcome console) : console.locked = true :=
  (h.coherent.deferred run h.deferred).1

/-- A run that is completed on a locked console waits. -/
theorem Effect.deferred_of_completed (hlocked : console.locked = true)
    (heffect : Effect console act next events) (hcompleted : .animationCompleted run ∈ events) :
    next.deferred = some run := by
  cases heffect with
  | planDeferred | tickDeferred =>
      simp only [List.mem_cons, reduceCtorEq, Event.animationCompleted.injEq, List.not_mem_nil,
        or_false, false_or] at hcompleted
      rw [hcompleted]
  | planReconciled _ _ _ hopen | tickReconciled _ _ _ hopen =>
      rw [hlocked] at hopen
      cases hopen
  | planRefused paths told => cases told <;> simp at hcompleted
  | _ => simp at hcompleted

theorem CompletesLocked.waits (h : CompletesLocked run act console)
    (hcoherent : Coherent settings console) :
    Waits settings run (perform act console).1.fleet.simulatedAt (perform act console).1 where
  coherent := (perform_effect act console).coherent hcoherent
  deferred := (perform_effect act console).deferred_of_completed h.1 h.2
  simulated := rfl

/-- What drops no outcome leaves it as it is: nobody flies while it waits. -/
theorem Effect.waits (h : Waits settings run outcome console) (hheld : act.IsHeld)
    (hkeeps : ¬ act.Supersedes console.fleet.size) (heffect : Effect console act next events) :
    Waits settings run outcome next := by
  have hlocked := h.locked
  have hidle : console.animator.run = none := (h.coherent.deferred run h.deferred).2.1
  have hcoherent : Coherent settings next := heffect.coherent h.coherent
  cases heffect with
  | identified | updated => exact ⟨hcoherent, h.deferred, h.simulated⟩
  | updateRefused | planEmpty | planRefused | unreadable | tickIgnored | commandRefused
  | operatorRefused => exact h
  | rosterKeepsRun | rosterEndsRun => exact absurd trivial hkeeps
  | planStarted _ _ _ hsteps | planDeferred _ _ hsteps | planReconciled _ _ hsteps =>
      refine absurd ?_ hkeeps
      simp [Act.Supersedes, hsteps]
  | tickStepped _ _ hrun | tickDeferred _ hrun | tickReconciled _ hrun =>
      -- every tick is stale
      rw [hidle] at hrun
      cases hrun
  | commandLocks hopen | operatorCommitted hopen =>
      rw [hlocked] at hopen
      cases hopen
  | readyAlone | readyReconciled => exact absurd rfl hheld.1
  | committed => exact absurd rfl hheld.2

theorem Waits.performAll (h : Waits settings run outcome console) {acts : List (Act α)}
    (hheld : ∀ act ∈ acts, act.IsHeld) (hundisturbed : Undisturbed acts console) :
    Waits settings run outcome (performAll acts console).1 := by
  induction acts generalizing console with
  | nil => exact h
  | cons act rest ih =>
      obtain ⟨hact, hlater⟩ := List.forall_mem_cons.mp hheld
      obtain ⟨hkeeps, hundisturbed⟩ := hundisturbed
      have hstep := (perform_effect act console).waits h hact hkeeps
      exact ih hstep hlater hundisturbed

/-- Ready makes the outcome that waits live. -/
theorem Waits.delivers {completed : Console α}
    (h : Waits settings run completed.fleet.simulatedAt console) :
    Delivers settings.yOffset completed (perform .ready console) := by
  rw [perform_ready_of_some h.deferred]
  refine ⟨⟨_, rfl⟩, ?_, rfl⟩
  intro slot
  show console.fleet.reconcile.1.liveAt.get? slot = _
  rw [h.coherent.aligned.liveAt_reconcile, Slots.get?_map, h.simulated, h.coherent.yOffset]
  rfl

/-! ## When the outcome is dropped -/

/-- A run that was completed is over: whatever is under way has a later number. -/
structure Completed (settings : ConsoleSettings α) (run : Nat) (console : Console α) : Prop where
  coherent : Coherent settings console
  locked : console.locked = true
  numbered : run ≤ console.animator.lastRun
  later : console.animator.run ≠ none → run < console.animator.lastRun

omit [Coordinate α] in
theorem Waits.completed (h : Waits settings run outcome console) :
    Completed settings run console := by
  obtain ⟨hlocked, hidle, hlast⟩ := h.coherent.deferred run h.deferred
  exact ⟨h.coherent, hlocked, Nat.le_of_eq hlast, fun hflying => absurd hidle hflying⟩

/-- What an act does after a run was completed: it completes a later run, or no outcome waits after
it, or it leaves what waits alone. -/
inductive Passes (run : Nat) (console next : Console α) (act : Act α)
    (events : List (Event α)) : Prop
  | completes (later : Nat) (hlater : run < later) (hevents : .animationCompleted later ∈ events)
  | drops (hdeferred : next.deferred = none)
  | keeps (hkeeps : ¬ act.Supersedes console.fleet.size)
      (hdeferred : next.deferred = console.deferred)

theorem Effect.passes (h : Completed settings run console) (hheld : act.IsHeld)
    (heffect : Effect console act next events) :
    Completed settings run next ∧ Passes run console next act events := by
  have hcoherent : Coherent settings next := heffect.coherent h.coherent
  have hlocked : next.locked = true := (heffect.keepsLock h.locked hheld).locked
  cases heffect with
  | identified | updated =>
      exact ⟨⟨hcoherent, hlocked, h.numbered, h.later⟩, .keeps id rfl⟩
  | rosterKeepsRun => exact ⟨⟨hcoherent, hlocked, h.numbered, h.later⟩, .drops rfl⟩
  | rosterEndsRun =>
      exact ⟨⟨hcoherent, hlocked, h.numbered, fun hflying => absurd rfl hflying⟩, .drops rfl⟩
  | updateRefused | unreadable | tickIgnored | commandRefused | operatorRefused =>
      exact ⟨h, .keeps id rfl⟩
  | planEmpty => exact ⟨h, .keeps (fun hflies => hflies rfl) rfl⟩
  | planRefused _ _ _ _ hsteps => exact ⟨h, .keeps (fun hflies => hflies hsteps) rfl⟩
  | planStarted =>
      have hnext : run < console.animator.lastRun + 1 := Nat.lt_succ_of_le h.numbered
      exact ⟨⟨hcoherent, hlocked, Nat.le_of_lt hnext, fun _ => hnext⟩, .drops rfl⟩
  | planDeferred =>
      have hnext : run < console.animator.lastRun + 1 := Nat.lt_succ_of_le h.numbered
      exact ⟨⟨hcoherent, hlocked, Nat.le_of_lt hnext, fun _ => hnext⟩,
        .completes (console.animator.lastRun + 1) hnext (by simp)⟩
  | tickStepped flight stepped hrun =>
      have hover : run < console.animator.lastRun := h.later (by simp [hrun])
      exact ⟨⟨hcoherent, hlocked, h.numbered, fun _ => hover⟩,
        .drops (h.coherent.deferred_eq_none_of_run hrun)⟩
  | tickDeferred flight hrun =>
      have hover : run < flight.id := by
        rw [(h.coherent.run flight hrun).2]
        exact h.later (by simp [hrun])
      exact ⟨⟨hcoherent, hlocked, h.numbered, fun hflying => absurd rfl hflying⟩,
        .completes flight.id hover (by simp)⟩
  | planReconciled _ _ _ hopen | tickReconciled _ _ _ hopen | commandLocks hopen
  | operatorCommitted hopen =>
      rw [h.locked] at hopen
      cases hopen
  | readyAlone | readyReconciled => exact absurd rfl hheld.1
  | committed => exact absurd rfl hheld.2

/-- After held acts no outcome waits, or the one that waited at first still does, or a later run is
the one completed last. -/
theorem Completed.performAll (h : Completed settings run console) {acts : List (Act α)}
    (hheld : ∀ act ∈ acts, act.IsHeld) :
    (performAll acts console).1.deferred = none ∨
      (Undisturbed acts console ∧ console.deferred ≠ none) ∨
      ∃ later completed, run < later ∧ CompletedLast later completed acts console := by
  induction acts generalizing console with
  | nil =>
      by_cases hdeferred : console.deferred = none
      · exact .inl hdeferred
      · exact .inr (.inl ⟨trivial, hdeferred⟩)
  | cons act rest ih =>
      obtain ⟨hact, hrest⟩ := List.forall_mem_cons.mp hheld
      obtain ⟨hnext, hpasses⟩ := (perform_effect act console).passes h hact
      rcases ih hnext hrest with hnone | ⟨hundisturbed, hwaits⟩ | ⟨later, completed, hlater, hlast⟩
      · exact .inl hnone
      · -- what waits after `act` waits to the end: it is of `act` or of before
        cases hpasses with
        | completes later hlater hevents =>
            exact .inr (.inr ⟨later, _, hlater, [], act, rest, rfl, ⟨h.locked, hevents⟩, rfl,
              hundisturbed⟩)
        | drops hdeferred => exact absurd hdeferred hwaits
        | keeps hkeeps hdeferred =>
            exact .inr (.inl ⟨⟨hkeeps, hundisturbed⟩, hdeferred ▸ hwaits⟩)
      · obtain ⟨before, last, after, rfl, hcompletes, hcompleted, hundisturbed⟩ := hlast
        exact .inr (.inr ⟨later, completed, hlater, act :: before, last, after, rfl, hcompletes,
          hcompleted, hundisturbed⟩)

/-- The outcome of the run that was completed last is the one that waits. -/
theorem CompletedLast.waits {completed : Console α} {acts : List (Act α)}
    (h : CompletedLast run completed acts console) (hcoherent : Coherent settings console)
    (hheld : ∀ act ∈ acts, act.IsHeld) :
    Waits settings run completed.fleet.simulatedAt (Console.performAll acts console).1 := by
  obtain ⟨before, last, after, rfl, hcompletes, rfl, hundisturbed⟩ := h
  have hreached := hcompletes.waits (performAll_coherent hcoherent before)
  have hafter : ∀ act ∈ after, act.IsHeld := by
    intro act hact
    apply hheld
    simp [hact]
  rw [performAll_append, performAll_cons]
  exact hreached.performAll hafter hundisturbed

/-! ## After the outcome was delivered -/

theorem Effect.deferred_eq_none (hnone : console.deferred = none)
    (heffect : Effect console act next events) (hevents : ∀ run, .commitDeferred run ∉ events) :
    next.deferred = none := by
  cases heffect with
  | planDeferred => exact absurd (by simp) (hevents (console.animator.lastRun + 1))
  | tickDeferred flight => exact absurd (by simp) (hevents flight.id)
  | _ => first | rfl | exact hnone

/-- Unless another run is completed while commands are locked, no outcome waits. -/
theorem Console.performAll_deferred_eq_none (hnone : console.deferred = none)
    (acts : List (Act α)) (hevents : ∀ run, .commitDeferred run ∉ (performAll acts console).2) :
    (performAll acts console).1.deferred = none := by
  induction acts generalizing console with
  | nil => exact hnone
  | cons act rest ih =>
      rw [performAll_cons] at hevents ⊢
      simp only [List.mem_append, not_or] at hevents
      have hnext := (perform_effect act console).deferred_eq_none hnone fun run => (hevents run).1
      exact ih hnext fun run => (hevents run).2

/-! ## What ready makes live -/

/-- **What becomes of an outcome that waits.**  After `past`, the act `last` completes a run while
commands are locked, and `between` goes from there to the next ready.  The acts of every history can
be cut so (`performAll_history`), also in the middle of a message.

If nothing between drops the outcome, it becomes live with the ready and not before, and no ready
after that makes anything live until another run has to wait.  If something does, the ready makes
nothing live or the outcome of a later run. -/
theorem deferred_outcome (settings : ConsoleSettings α) (past between : List (Act α)) (last : Act α)
    (run : Nat) (hcompletes : CompletesLocked run last (performAll past (fresh settings)).1)
    (hheld : ∀ act ∈ between, act.IsHeld) :
    let completed := (perform last (performAll past (fresh settings)).1).1
    let reached := performAll between completed
    let ready := perform .ready reached.1
    (Undisturbed between completed →
      (∀ outcome, .reconciled outcome ∉ reached.2) ∧
      Delivers settings.yOffset completed ready ∧
      ∀ more : List (Act α), (∀ later, .commitDeferred later ∉ (performAll more ready.1).2) →
        (perform .ready (performAll more ready.1).1).2 = [.controlsEnabled]) ∧
    (¬ Undisturbed between completed →
      (ready.2 = [.controlsEnabled] ∧ ready.1.fleet = reached.1.fleet) ∨
      ∃ later other, run < later ∧ CompletedLast later other between completed ∧
        Delivers settings.yOffset other ready) := by
  intro completed reached ready
  have hpast := performAll_coherent (fresh_coherent settings) past
  have hwaits : Waits settings run completed.fleet.simulatedAt completed := hcompletes.waits hpast
  constructor
  · intro hundisturbed
    have hreached : Waits settings run completed.fleet.simulatedAt reached.1 :=
      hwaits.performAll hheld hundisturbed
    have hdelivers : Delivers settings.yOffset completed ready := hreached.delivers
    refine ⟨(performAll_keepsLock hwaits.locked between hheld).not_reconciled, hdelivers, ?_⟩
    intro more hmore
    have hnone := performAll_deferred_eq_none hdelivers.deferred more hmore
    rw [perform_ready_of_none hnone]
  · intro hdisturbed
    -- the run itself counts as one that is over, and only later ones can wait
    rcases hwaits.completed.performAll hheld with
      hnone | ⟨hundisturbed, -⟩ | ⟨later, other, hlater, hlast⟩
    · have hready : ready = ({ reached.1 with locked := false }, [.controlsEnabled]) :=
        perform_ready_of_none hnone
      rw [hready]
      exact .inl ⟨rfl, rfl⟩
    · exact absurd hundisturbed hdisturbed
    · have hreached := hlast.waits hwaits.coherent hheld
      exact .inr ⟨later, other, hlater, hlast, hreached.delivers⟩

/-- A drone has one move to fly, which does not end on whole units, and a command is out. -/
def lockedFlight : List (Act Float) :=
  [.roster [⟨0, 0, 0⟩], .command, .plan [[⟨2.5, 1.25, -2.75⟩]] true]

/-- A report of the drone, a plan without paths and a tick of the run that is over. -/
def idleTalk : List (Act Float) :=
  [.update (.integer 0) ⟨5, 0, 0⟩, .plan [] true, .tick 1]

theorem deferred_outcome_lockedFlight :
    let settings : ConsoleSettings Float := ⟨1000, 1, 0.5⟩
    let flying := (performAll lockedFlight (fresh settings)).1
    let completed := (perform (.tick 1) flying).1
    let ready := perform .ready (performAll idleTalk completed).1
    CompletesLocked 1 (.tick 1) flying ∧ (∀ act ∈ idleTalk, act.IsHeld) ∧
      Undisturbed idleTalk completed ∧ Delivers settings.yOffset completed ready ∧
      completed.fleet.simulatedAt.get? 0 = some ⟨⟨2.5, 1.75, -2.75⟩⟩ ∧
      ready.1.fleet.liveAt.get? 0 = some ⟨3, 1, -3⟩ := by
  intro settings flying completed ready
  have hcompletes : CompletesLocked 1 (.tick 1) flying := ⟨by decide +kernel, by decide +kernel⟩
  have hheld : ∀ act ∈ idleTalk, act.IsHeld := by simp [idleTalk, Act.IsHeld]
  have hundisturbed : Undisturbed idleTalk completed := ⟨id, fun hflies => hflies rfl, id, trivial⟩
  obtain ⟨-, hdelivers, -⟩ :=
    (deferred_outcome settings lockedFlight idleTalk (.tick 1) 1 hcompletes hheld).1 hundisturbed
  have hflown : completed.fleet.simulatedAt.get? 0 = some ⟨⟨2.5, 1.75, -2.75⟩⟩ := by decide +kernel
  refine ⟨hcompletes, hheld, hundisturbed, hdelivers, hflown, ?_⟩
  rw [hdelivers.live, hflown]
  decide +kernel

end FleetConsole
