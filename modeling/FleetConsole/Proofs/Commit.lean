import FleetConsole.Coordinate.Rational
import FleetConsole.Proofs.Coherence

/-!
# Commits

A commit makes the simulated positions live.  It comes about in five ways: it is asked for without any
condition, or the operator asks for it, or a run ends with its last sub-step, or a plan has no moves,
or the swarm is ready for an outcome that waits.  `CommitsAt` lists them, each with the console at the
moment of the commit.

* **Complete and local.**  All five do the same (`Committed`).  Every live position becomes the one
  that is simulated at the same slot, rounded and without the offset, and nothing else changes.  The
  reconciliation goes through the values of two tables in their order and knows of no slots; it is the
  alignment of the tables that makes each drone meet itself.
* **Idempotent.**  What is live after a commit is what is simulated.  As long as both stay so, another
  commit moves no drone (`Fleet.Aligned.reconcile_of_live`).
-/

namespace FleetConsole

open Console

variable {α : Type} [Coordinate α]

/-! ## A fleet -/

namespace Fleet

variable {fleet : Fleet α}

theorem Aligned.drones_reconcile (h : fleet.Aligned) :
    fleet.reconcile.2.drones = fleet.size := by
  have hsizes : fleet.simulatedAt.size = fleet.size :=
    Slots.size_eq_of_numbers_eq (h.simulated.trans h.live.symm)
  show (fleet.live.zip (fleet.simulated.map fun drone => drone.toRaw fleet.yOffset)).length = _
  rw [List.length_zip, List.length_map, Fleet.live, Fleet.simulated, Slots.length_values,
    Slots.length_values, hsizes]
  exact Nat.min_self fleet.size

/-- A reconciliation moves no drone that is live where it is simulated. -/
theorem Aligned.reconcile_of_live (h : fleet.Aligned)
    (hlive : fleet.liveAt = fleet.simulatedAt.map fun drone => drone.toRaw fleet.yOffset)
    (hself : ∀ p : Position α, p.apart p = false) :
    fleet.reconcile = (fleet, { drones := fleet.size, changed := 0 }) := by
  have hvalues : fleet.live = fleet.simulated.map fun drone => drone.toRaw fleet.yOffset := by
    rw [Fleet.live, hlive, Slots.values_map]
    rfl
  -- every live position is compared with itself
  have hchanged : fleet.reconcile.2.changed = 0 := by
    show (fleet.live.zip (fleet.simulated.map fun drone => drone.toRaw fleet.yOffset)).countP _ = 0
    rw [← hvalues, List.countP_eq_zero]
    intro pair hpair
    rw [List.zip_eq_zipWith, List.zipWith_self] at hpair
    obtain ⟨p, -, rfl⟩ := List.mem_map.mp hpair
    simp [hself p]
  have hfleet : fleet.reconcile.1 = fleet := by
    calc fleet.reconcile.1
        = { fleet with liveAt := fleet.reconcile.1.liveAt } := rfl
      _ = fleet := by rw [h.liveAt_reconcile, ← hlive]
  calc fleet.reconcile
      = (fleet.reconcile.1, ⟨fleet.reconcile.2.drones, fleet.reconcile.2.changed⟩) := rfl
    _ = (fleet, { drones := fleet.size, changed := 0 }) := by
        rw [hfleet, h.drones_reconcile, hchanged]

end Fleet

/-! ## The moment of a commit -/

/-- The ways in which an act commits, with the console as it is at that moment. -/
inductive CommitsAt (console : Console α) : Act α → Console α → Prop
  | asked : CommitsAt console .commit console
  | byOperator (hopen : console.locked = false) (hfleet : console.fleet.size ≠ 0) :
      CommitsAt console .operatorCommit console
  | landed (run : Run α) (hrun : console.animator.run = some run)
      (hlast : Animator.advance console.animator.clock run = none)
      (hopen : console.locked = false) :
      CommitsAt console (.tick run.id)
        { console with
          fleet := console.fleet.shift (Animator.subMoves console.animator.clock run)
          animator := { console.animator with run := none } }
  | withoutMoves (paths : List (List (Position α))) (told : Bool)
      (hsteps : Plan.steps? console.fleet.size paths = some 0) (hopen : console.locked = false) :
      CommitsAt console (.plan paths told)
        { console with
          animator := { console.animator with
            run := none
            lastRun := console.animator.lastRun + 1 }
          deferred := none }
  | awaited (run : Nat) (hdeferred : console.deferred = some run) :
      CommitsAt console .ready { console with locked := false }

variable {settings : ConsoleSettings α} {console next moment : Console α} {act : Act α}
  {events : List (Event α)} {outcome : Reconciliation}

/-- Whatever is reconciled was committed in one of these ways. -/
theorem Effect.exists_commitsAt (heffect : Effect console act next events)
    (htold : .reconciled outcome ∈ events) : ∃ moment, CommitsAt console act moment := by
  cases heffect with
  | planReconciled paths told hsteps hopen => exact ⟨_, .withoutMoves paths told hsteps hopen⟩
  | readyReconciled run hdeferred => exact ⟨_, .awaited run hdeferred⟩
  | tickReconciled run hrun hlast hopen => exact ⟨_, .landed run hrun hlast hopen⟩
  | operatorCommitted hopen hfleet => exact ⟨_, .byOperator hopen hfleet⟩
  | committed => exact ⟨_, .asked⟩
  | planRefused paths told => cases told <;> simp at htold
  | _ => simp at htold

/-- The commit is the last thing that the act does. -/
theorem CommitsAt.perform_eq (h : CommitsAt console act moment) :
    ∃ earlier, (∀ outcome, .reconciled outcome ∉ earlier) ∧
      perform act console = ((commit moment).1, earlier ++ (commit moment).2) := by
  cases h with
  | asked => exact ⟨[], by simp, rfl⟩
  | byOperator hopen hfleet =>
      have hready : console.ready = .ok () := by simp [ready, hopen, hfleet]
      exact ⟨[], by simp, perform_operatorCommit_of_ready hready⟩
  | landed run hrun hlast hopen =>
      refine ⟨[.animationCompleted run.id], by simp, ?_⟩
      rw [perform_tick_of_last hrun hlast, completeRun_of_open]
      · rfl
      · exact hopen
  | withoutMoves paths told hsteps hopen =>
      refine ⟨[.animationStarted (console.animator.lastRun + 1) 0,
        .animationCompleted (console.animator.lastRun + 1)], by simp, ?_⟩
      rw [perform_plan_of_ok (startPlan_of_steps?_zero hsteps) told, completeRun_of_open]
      · rfl
      · exact hopen
  | awaited run hdeferred =>
      exact ⟨[.controlsEnabled], by simp, perform_ready_of_some hdeferred⟩

theorem CommitsAt.aligned (h : CommitsAt console act moment) (hcoherent : Coherent settings console) :
    moment.fleet.Aligned ∧ moment.fleet.yOffset = settings.yOffset := by
  cases h with
  | landed => exact ⟨hcoherent.aligned.shift _, hcoherent.yOffset⟩
  | asked | byOperator | withoutMoves | awaited => exact ⟨hcoherent.aligned, hcoherent.yOffset⟩

/-! ## What a commit does -/

/-- Every drone is live where it was simulated at the moment of the commit, and all else is as it was;
only the outcome that waits, if there is one, does not wait any more. -/
structure Committed (yOffset : α) (moment next : Console α) (outcome : Reconciliation) : Prop where
  live : ∀ slot < moment.fleet.size, ∃ drone, moment.fleet.simulatedAt.get? slot = some drone ∧
    next.fleet.liveAt.get? slot = some (drone.toRaw yOffset)
  slots : next.fleet.liveAt.numbers = moment.fleet.liveAt.numbers
  others : next = { moment with
    fleet := { moment.fleet with liveAt := next.fleet.liveAt }
    deferred := none }
  drones : outcome.drones = moment.fleet.size

theorem Fleet.Aligned.committed (h : moment.fleet.Aligned)
    (hoffset : moment.fleet.yOffset = settings.yOffset) :
    Committed settings.yOffset moment (commit moment).1 moment.fleet.reconcile.2 where
  live slot hslot := by
    obtain ⟨drone, hdrone⟩ := h.exists_simulated hslot
    refine ⟨drone, hdrone, ?_⟩
    show moment.fleet.reconcile.1.liveAt.get? slot = _
    rw [h.liveAt_reconcile, Slots.get?_map, hdrone, hoffset]
    rfl
  slots := Slots.numbers_renew _ moment.fleet.liveAt
  others := rfl
  drones := h.drones_reconcile

/-- As long as all drones are simulated and live as they were right after a commit, another one has
nothing to do. -/
theorem CommitsAt.again {past : Console α} (h : CommitsAt console act moment)
    (hcoherent : Coherent settings console) (hpast : past.fleet.Aligned)
    (hoffset : past.fleet.yOffset = settings.yOffset)
    (hsimulated : moment.fleet.simulatedAt = (commit past).1.fleet.simulatedAt)
    (hlive : moment.fleet.liveAt = (commit past).1.fleet.liveAt)
    (hself : ∀ p : Position α, p.apart p = false) :
    commit moment =
      ({ moment with deferred := none },
        [.reconciled { drones := moment.fleet.size, changed := 0 }]) := by
  obtain ⟨haligned, hmoment⟩ := h.aligned hcoherent
  have hkept : moment.fleet.simulatedAt = past.fleet.simulatedAt := hsimulated
  have hagrees : moment.fleet.liveAt =
      moment.fleet.simulatedAt.map fun drone => drone.toRaw moment.fleet.yOffset := by
    calc moment.fleet.liveAt
        = past.fleet.reconcile.1.liveAt := hlive
      _ = past.fleet.simulatedAt.map fun drone => drone.toRaw past.fleet.yOffset :=
          hpast.liveAt_reconcile
      _ = moment.fleet.simulatedAt.map fun drone => drone.toRaw moment.fleet.yOffset := by
          rw [hkept, hmoment, hoffset]
  have hreconciled := haligned.reconcile_of_live hagrees hself
  simp only [commit, reconcile, hreconciled]

/-- **Commits are complete, local and idempotent.**  After `past`, whatever is told to be reconciled was
committed in one of five ways.  However it comes about, the commit is the last thing that is done and
told; every drone is live where it was simulated at that moment, all drones are counted, and nothing
else changes but that no outcome waits any more.

If no place is apart from itself, another commit, in any of the five ways and after anything that has
left simulated and live positions as they are, does nothing more than that, and has moved no drone. -/
theorem every_commit_makes_simulated_live (settings : ConsoleSettings α) (past : List (Act α))
    (act : Act α) :
    let console := (performAll past (fresh settings)).1
    let next := (perform act console).1
    let events := (perform act console).2
    (∀ outcome, .reconciled outcome ∈ events → ∃ moment, CommitsAt console act moment) ∧
      ∀ moment, CommitsAt console act moment →
        (∃ earlier outcome, events = earlier ++ [.reconciled outcome] ∧
          (∀ other, .reconciled other ∉ earlier) ∧
          Committed settings.yOffset moment next outcome) ∧
        ((∀ p : Position α, p.apart p = false) →
          ∀ between again second,
            let later := (performAll between next).1
            CommitsAt later again second →
            second.fleet.simulatedAt = next.fleet.simulatedAt →
            second.fleet.liveAt = next.fleet.liveAt →
            (perform again later).1 = { second with deferred := none } ∧
              ∃ earlier, (perform again later).2 =
                earlier ++ [.reconciled { drones := second.fleet.size, changed := 0 }]) := by
  intro console next events
  have hcoherent : Coherent settings console := performAll_coherent (fresh_coherent settings) past
  refine ⟨fun outcome htold => (perform_effect act console).exists_commitsAt htold, ?_⟩
  intro moment hmoment
  obtain ⟨haligned, hoffset⟩ := hmoment.aligned hcoherent
  obtain ⟨earlier, hearlier, hperform⟩ := hmoment.perform_eq
  have hnext : next = (commit moment).1 := by
    show (perform act console).1 = _
    rw [hperform]
  have hevents : events = earlier ++ (commit moment).2 := by
    show (perform act console).2 = _
    rw [hperform]
  constructor
  · rw [hnext, hevents]
    exact ⟨earlier, _, rfl, hearlier, haligned.committed hoffset⟩
  · intro hself between again second later hsecond hsimulated hlive
    rw [hnext] at hsimulated hlive
    have hlater : Coherent settings later :=
      performAll_coherent ((perform_effect act console).coherent hcoherent) between
    have hagain := hsecond.again hlater haligned hoffset hsimulated hlive hself
    obtain ⟨before, -, hperforms⟩ := hsecond.perform_eq
    rw [hagain] at hperforms
    rw [hperforms]
    exact ⟨rfl, before, rfl⟩

/-- Two drones, of which one has a move to fly. -/
def oneFlies : List (Act Rat) :=
  [.roster [⟨0, 0, 0⟩, ⟨3, 0, 0⟩], .plan [[⟨0, 5 / 4, 0⟩], [⟨0, 0, 0⟩]] true]

/-- The run ends with its only sub-step, and is committed; the operator commits again on a console
with another identifier. -/
theorem every_commit_makes_simulated_live_oneFlies :
    let settings : ConsoleSettings Rat := ⟨1000, 1, 1 / 2⟩
    let console := (performAll oneFlies (fresh settings)).1
    let next := (perform (.tick 1) console).1
    let later := (performAll [.identifier "gs"] next).1
    (∀ p : Position Rat, p.apart p = false) ∧
      next.fleet.live = [⟨0, 1, 0⟩, ⟨3, 0, 0⟩] ∧
      (perform (.tick 1) console).2 =
        [.animationCompleted 1, .reconciled { drones := 2, changed := 1 }] ∧
      CommitsAt later .operatorCommit later ∧
      (∃ moment earlier outcome, CommitsAt console (.tick 1) moment ∧
        (perform (.tick 1) console).2 = earlier ++ [.reconciled outcome] ∧
        Committed settings.yOffset moment next outcome) ∧
      (perform .operatorCommit later).1 = { later with deferred := none } ∧
      ∃ earlier, (perform .operatorCommit later).2 =
        earlier ++ [.reconciled { drones := later.fleet.size, changed := 0 }] := by
  intro settings console next later
  have hself : ∀ p : Position Rat, p.apart p = false := by
    intro p
    simp only [Position.apart, Coordinate.displaced, Rat.sub_self]
    decide +kernel
  have hlands : CommitsAt console (.tick 1) _ :=
    .landed ⟨1, [[⟨0, 5 / 4, 0⟩], [⟨0, 0, 0⟩]], 0⟩ (by decide +kernel) (by decide +kernel) rfl
  have hagain : CommitsAt later .operatorCommit later := .byOperator rfl (by decide +kernel)
  obtain ⟨hcommits, hidempotent⟩ :=
    (every_commit_makes_simulated_live settings oneFlies (.tick 1)).2 _ hlands
  obtain ⟨earlier, outcome, hevents, -, hcommitted⟩ := hcommits
  exact ⟨hself, by decide +kernel, by decide +kernel, hagain,
    ⟨_, earlier, outcome, hlands, hevents, hcommitted⟩,
    hidempotent hself [.identifier "gs"] .operatorCommit later hagain rfl rfl⟩

end FleetConsole
