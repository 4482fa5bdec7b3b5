import FleetConsole.Proofs.Effect

/-!
# Coherence of a console

The fleet, the run under way, the lock and the outcome that waits are changed by many acts, and
always together.  `Coherent` says how they fit at all times.

* **The fleet.**  Its three tables have the same slots, the numbers below its size.
* **The run.**  It has a path for every drone of the fleet, with the same number of moves left on
  each, and it is the last one that was numbered.
* **The outcome that waits.**  It is that of the last run, which is over, and commands are locked.

`Effect.coherent` is the step and `coherent_after_fresh` the result for every history.
-/

namespace FleetConsole

variable {α : Type}

/-! ## Counts -/

/-- A count below another one does not wrap when one is added to it. -/
theorem toNat_add_one_of_lt {count limit : UInt32} (h : count < limit) :
    (count + 1).toNat = count.toNat + 1 := by
  have hbelow := UInt32.lt_iff_toNat_lt.mp h
  have hbound := limit.toNat_lt
  rw [UInt32.toNat_add, UInt32.toNat_one, Nat.mod_eq_of_lt (by omega)]

/-! ## A run under way -/

/-- The sub-steps of a move, at least one. -/
def ConsoleSettings.subSteps (settings : ConsoleSettings α) : UInt32 := max 1 settings.frequency

theorem Clock.frequency_ofFrequency (moveTime : Nat) (frequency : UInt32) :
    (Clock.ofFrequency moveTime frequency).frequency = max 1 frequency := by
  unfold Clock.ofFrequency
  split
  · rename_i hzero
    rw [hzero]
    rfl
  · rename_i hne
    have hpos : 1 ≤ frequency := by
      have htoNat : frequency.toNat ≠ 0 := fun h => hne (UInt32.toNat_inj.mp h)
      rw [UInt32.le_iff_toNat_le, UInt32.toNat_one]
      omega
    exact (if_pos hpos).symm

theorem ConsoleSettings.subSteps_pos (settings : ConsoleSettings α) :
    0 < settings.subSteps.toNat := by
  have hne := (Clock.ofFrequency settings.moveTime settings.frequency).frequency_ne_zero
  rw [Clock.frequency_ofFrequency] at hne
  exact Nat.pos_of_ne_zero fun h => hne (UInt32.toNat_inj.mp h)

/-- A run that fits a fleet and is somewhere on the way. -/
structure Run.UnderWay (frequency : Nat) (fleetSize : Nat) (run : Run α) : Prop where
  fleet_pos : 1 ≤ fleetSize
  pathCount : run.paths.length = fleetSize
  moves : ∃ moves, moves ≠ 0 ∧ ∀ path ∈ run.paths, path.length = moves
  subStep : run.subStep.toNat < frequency

/-- A sub-step in terms of numbers: it is one more of the same move, or the first of the next one,
or the run ends. -/
theorem Animator.advance_eq {clock : Clock} {run : Run α} {moves : Nat} (hpaths : run.paths ≠ [])
    (hmoves : ∀ path ∈ run.paths, path.length = moves)
    (hsub : run.subStep.toNat < clock.frequency.toNat) :
    Animator.advance clock run =
      if run.subStep.toNat + 1 < clock.frequency.toNat then
        some { run with subStep := run.subStep + 1 }
      else if moves ≤ 1 then none
      else some { run with paths := run.paths.map List.tail, subStep := 0 } := by
  -- the sub-step stays below the frequency, so that adding one to it does not wrap
  have hnext : run.subStep + 1 < clock.frequency ↔
      run.subStep.toNat + 1 < clock.frequency.toNat := by
    rw [UInt32.lt_iff_toNat_lt, toNat_add_one_of_lt (UInt32.lt_iff_toNat_lt.mpr hsub)]
  have hempty : (run.paths.map List.tail).all List.isEmpty = true ↔ moves ≤ 1 := by
    rw [List.all_eq_true]
    constructor
    · intro hall
      obtain ⟨path, hpath⟩ := List.exists_mem_of_ne_nil _ hpaths
      have htail := hall _ (List.mem_map_of_mem hpath)
      rw [List.isEmpty_iff, ← List.length_eq_zero_iff, List.length_tail, hmoves path hpath] at htail
      omega
    · intro hle path hmem
      obtain ⟨full, hfull, rfl⟩ := List.mem_map.mp hmem
      rw [List.isEmpty_iff, ← List.length_eq_zero_iff, List.length_tail, hmoves full hfull]
      omega
  simp only [Animator.advance, hnext, hempty]

/-- The moves still to make are those of any path. -/
theorem Animator.remainingMoves_of_run {animator : Animator α} {run : Run α} {moves : Nat}
    (hrun : animator.run = some run) (hpaths : run.paths ≠ [])
    (hmoves : ∀ path ∈ run.paths, path.length = moves) : animator.remainingMoves = moves := by
  obtain ⟨first, rest, hcons⟩ := List.exists_cons_of_ne_nil hpaths
  have hfirst : first.length = moves := hmoves first (hcons ▸ List.mem_cons_self)
  simp only [remainingMoves, hrun, hcons, List.head?_cons, Option.map_some, Option.getD_some,
    hfirst]

/-- A run keeps its number. -/
theorem Animator.id_of_advance {clock : Clock} {run next : Run α}
    (hnext : Animator.advance clock run = some next) : next.id = run.id := by
  simp only [Animator.advance] at hnext
  split at hnext
  · obtain rfl := Option.some.inj hnext
    rfl
  · split at hnext
    · cases hnext
    · obtain rfl := Option.some.inj hnext
      rfl

theorem Run.UnderWay.paths_ne_nil {frequency fleetSize : Nat} {run : Run α}
    (h : run.UnderWay frequency fleetSize) : run.paths ≠ [] := by
  have hcount := h.pathCount
  have hpos := h.fleet_pos
  intro hnil
  simp [hnil] at hcount
  omega

/-- A sub-step that does not end the run leaves it under way. -/
theorem Run.UnderWay.advance {clock : Clock} {fleetSize : Nat} {run next : Run α}
    (h : run.UnderWay clock.frequency.toNat fleetSize)
    (hnext : Animator.advance clock run = some next) :
    next.UnderWay clock.frequency.toNat fleetSize ∧ next.id = run.id := by
  obtain ⟨moves, hmoves, hpaths⟩ := h.moves
  rw [Animator.advance_eq h.paths_ne_nil hpaths h.subStep] at hnext
  split at hnext
  · rename_i hsame
    obtain rfl := Option.some.inj hnext
    refine ⟨⟨h.fleet_pos, h.pathCount, h.moves, ?_⟩, rfl⟩
    show (run.subStep + 1).toNat < clock.frequency.toNat
    rw [toNat_add_one_of_lt (UInt32.lt_iff_toNat_lt.mpr h.subStep)]
    exact hsame
  · split at hnext
    · cases hnext
    · rename_i hmore
      obtain rfl := Option.some.inj hnext
      have hfrequency : 0 < clock.frequency.toNat := by
        have := h.subStep
        omega
      refine ⟨⟨h.fleet_pos, ?_, ⟨moves - 1, by omega, ?_⟩, ?_⟩, rfl⟩
      · rw [List.length_map]
        exact h.pathCount
      · intro path hpath
        obtain ⟨full, hfull, rfl⟩ := List.mem_map.mp hpath
        rw [List.length_tail, hpaths full hfull]
      · simpa using hfrequency

/-- A plan that has just been accepted is under way. -/
theorem Run.underWay_of_steps? {frequency size steps id : Nat}
    {paths : List (List (Position α))} (hsteps : Plan.steps? size paths = some steps)
    (hmoves : steps ≠ 0) (hfrequency : 0 < frequency) :
    Run.UnderWay frequency size ⟨id, paths, 0⟩ := by
  obtain ⟨hne, hsize, hlengths⟩ := Plan.steps?_eq_some_iff.mp hsteps
  have hpos : 0 < paths.length := List.length_pos_iff.mpr hne
  exact ⟨by omega, hsize, ⟨steps, hmoves, hlengths⟩, by simpa using hfrequency⟩

/-! ## The tables of a fleet -/

/-- The three tables have the same slots, the numbers below the size of the fleet. -/
structure Fleet.Aligned (fleet : Fleet α) : Prop where
  live : fleet.liveAt.numbers = List.range fleet.size
  simulated : fleet.simulatedAt.numbers = List.range fleet.size
  initial : fleet.initialAt.numbers = List.range fleet.size

namespace Fleet

theorem aligned_empty (yOffset : α) : (Fleet.empty yOffset).Aligned := ⟨rfl, rfl, rfl⟩

theorem size_set (slot : Nat) (p : Position α) (fleet : Fleet α) :
    Fleet.size { fleet with liveAt := fleet.liveAt.set slot p } = fleet.size :=
  Slots.size_set slot p fleet.liveAt

theorem Aligned.set {fleet : Fleet α} (h : fleet.Aligned) (slot : Nat) (p : Position α) :
    Fleet.Aligned { fleet with liveAt := fleet.liveAt.set slot p } := by
  refine ⟨?_, ?_, ?_⟩ <;> rw [size_set]
  · rw [Slots.numbers_set, h.live]
  · exact h.simulated
  · exact h.initial

variable [Coordinate α]

@[simp] theorem size_replaceRoster (roster : List (Position α)) (fleet : Fleet α) :
    (fleet.replaceRoster roster).size = roster.length :=
  Slots.size_ofList roster

@[simp] theorem size_shift (moves : List (Option (Position α))) (fleet : Fleet α) :
    (fleet.shift moves).size = fleet.size :=
  rfl

@[simp] theorem size_reconcile (fleet : Fleet α) : fleet.reconcile.1.size = fleet.size :=
  Slots.size_renew _ fleet.liveAt

theorem aligned_replaceRoster (roster : List (Position α)) (fleet : Fleet α) :
    (fleet.replaceRoster roster).Aligned := by
  constructor <;> rw [size_replaceRoster] <;> simp [replaceRoster]

theorem Aligned.shift {fleet : Fleet α} (h : fleet.Aligned)
    (moves : List (Option (Position α))) : (fleet.shift moves).Aligned := by
  refine ⟨h.live, ?_, h.initial⟩
  rw [size_shift, ← h.simulated]
  exact Slots.numbers_mapSlots _ fleet.simulatedAt

theorem Aligned.reconcile {fleet : Fleet α} (h : fleet.Aligned) :
    fleet.reconcile.1.Aligned := by
  refine ⟨?_, ?_, ?_⟩ <;> rw [size_reconcile]
  · rw [← h.live]
    exact Slots.numbers_renew _ fleet.liveAt
  · exact h.simulated
  · exact h.initial

/-- The values of the simulated positions go to the slots that they come from. -/
theorem Aligned.liveAt_reconcile {fleet : Fleet α} (h : fleet.Aligned) :
    fleet.reconcile.1.liveAt = fleet.simulatedAt.map fun drone => drone.toRaw fleet.yOffset := by
  have hnumbers : fleet.liveAt.numbers = fleet.simulatedAt.numbers := h.live.trans h.simulated.symm
  have hlength : (fleet.simulated.map fun drone => drone.toRaw fleet.yOffset).length
      ≤ fleet.live.length := by
    apply Nat.le_of_eq
    rw [List.length_map, Fleet.simulated, Fleet.live, Slots.length_values, Slots.length_values,
      Slots.size_eq_of_numbers_eq hnumbers]
  show fleet.liveAt.renew ((fleet.live.zip _).map Prod.snd) = _
  rw [List.map_snd_zip hlength, Fleet.simulated, ← Slots.values_map]
  exact Slots.renew_values (hnumbers.trans (Slots.numbers_map _ _).symm)

/-! ### Positions in the order of the slots -/

omit [Coordinate α] in
theorem Aligned.getElem?_live {fleet : Fleet α} (h : fleet.Aligned) (slot : Nat) :
    fleet.live[slot]? = fleet.liveAt.get? slot :=
  Slots.getElem?_values h.live slot

omit [Coordinate α] in
/-- Every slot of the fleet has a simulated drone. -/
theorem Aligned.exists_simulated {fleet : Fleet α} (h : fleet.Aligned) {slot : Nat}
    (hslot : slot < fleet.size) : ∃ drone, fleet.simulatedAt.get? slot = some drone := by
  have hsize : fleet.simulatedAt.size = fleet.size := by
    rw [← Slots.length_numbers, h.simulated, List.length_range]
  have hvalue : slot < fleet.simulatedAt.values.length := by
    rw [Slots.length_values, hsize]
    exact hslot
  have hget := Slots.getElem?_values h.simulated slot
  rw [List.getElem?_eq_getElem hvalue] at hget
  exact ⟨_, hget.symm⟩

end Fleet

/-! ## The console -/

/-- How the parts of a console fit. -/
structure Coherent (settings : ConsoleSettings α) (console : Console α) : Prop where
  clock : console.animator.clock = .ofFrequency settings.moveTime settings.frequency
  yOffset : console.fleet.yOffset = settings.yOffset
  aligned : console.fleet.Aligned
  /-- the run under way fits the fleet and is the last one that was numbered -/
  run : ∀ run, console.animator.run = some run →
    run.UnderWay settings.subSteps.toNat console.fleet.size
      ∧ run.id = console.animator.lastRun
  /-- an outcome waits only while commands are locked and no run is under way -/
  deferred : ∀ run, console.deferred = some run →
    console.locked = true ∧ console.animator.run = none ∧ run = console.animator.lastRun

variable {settings : ConsoleSettings α} {console next : Console α}

theorem fresh_coherent (settings : ConsoleSettings α) : Coherent settings (.fresh settings) where
  clock := rfl
  yOffset := rfl
  aligned := Fleet.aligned_empty settings.yOffset
  run := by intro run hrun; cases hrun
  deferred := by intro run hrun; cases hrun

theorem Coherent.frequency (h : Coherent settings console) :
    console.animator.clock.frequency = settings.subSteps := by
  rw [h.clock, Clock.frequency_ofFrequency]
  rfl

/-- The outcome that waits goes away with the lock or with the run it belongs to. -/
theorem Coherent.deferred_eq_none_of_open (h : Coherent settings console)
    (hopen : console.locked = false) : console.deferred = none := by
  cases hdeferred : console.deferred with
  | none => rfl
  | some run =>
      have hlocked := (h.deferred run hdeferred).1
      rw [hopen] at hlocked
      cases hlocked

/-- No outcome waits while a run is under way. -/
theorem Coherent.deferred_eq_none_of_run (h : Coherent settings console) {run : Run α}
    (hrun : console.animator.run = some run) : console.deferred = none := by
  cases hdeferred : console.deferred with
  | none => rfl
  | some waiting =>
      have hnone := (h.deferred waiting hdeferred).2.1
      rw [hrun] at hnone
      cases hnone

variable [Coordinate α] {act : Act α} {events : List (Event α)}

/-- What an act does to a coherent console leaves it coherent. -/
theorem Effect.coherent (h : Coherent settings console)
    (heffect : Effect console act next events) : Coherent settings next := by
  cases heffect with
  | identified identifier => exact ⟨h.clock, h.yOffset, h.aligned, h.run, h.deferred⟩
  | rosterKeepsRun roster hsize =>
      refine ⟨h.clock, h.yOffset, Fleet.aligned_replaceRoster roster _, ?_, by simp⟩
      intro run hrun
      rw [Fleet.size_replaceRoster, hsize]
      exact h.run run hrun
  | rosterEndsRun roster hsize =>
      exact ⟨h.clock, h.yOffset, Fleet.aligned_replaceRoster roster _, by simp, by simp⟩
  | updated index location slot hslot hhas =>
      refine ⟨h.clock, h.yOffset, h.aligned.set slot location, ?_, h.deferred⟩
      intro run hrun
      rw [Fleet.size_set]
      exact h.run run hrun
  | updateRefused | planEmpty | planRefused | unreadable | tickIgnored | commandRefused
  | operatorRefused => exact h
  | planStarted paths told steps hsteps hmoves =>
      refine ⟨h.clock, h.yOffset, h.aligned, ?_, by simp⟩
      intro run hrun
      obtain rfl := Option.some.inj hrun
      exact ⟨Run.underWay_of_steps? hsteps hmoves settings.subSteps_pos, rfl⟩
  | planDeferred paths told hsteps hlocked =>
      refine ⟨h.clock, h.yOffset, h.aligned, by simp, ?_⟩
      intro run hrun
      exact ⟨hlocked, rfl, (Option.some.inj hrun).symm⟩
  | planReconciled paths told hsteps hopen =>
      exact ⟨h.clock, h.yOffset, h.aligned.reconcile, by simp, by simp⟩
  | readyAlone hdeferred =>
      exact ⟨h.clock, h.yOffset, h.aligned, h.run, by simp [hdeferred]⟩
  | readyReconciled run hdeferred | operatorCommitted hopen hfleet | committed =>
      refine ⟨h.clock, h.yOffset, h.aligned.reconcile, ?_, by simp⟩
      intro run hrun
      rw [Fleet.size_reconcile]
      exact h.run run hrun
  | tickStepped run stepped hrun hnext =>
      obtain ⟨hunderWay, hid⟩ := h.run run hrun
      rw [← h.frequency] at hunderWay
      obtain ⟨hnextUnderWay, hnextId⟩ := hunderWay.advance hnext
      refine ⟨h.clock, h.yOffset, h.aligned.shift _, ?_, ?_⟩
      · intro run' hrun'
        obtain rfl := Option.some.inj hrun'
        rw [Fleet.size_shift, ← h.frequency, hnextId]
        exact ⟨hnextUnderWay, hid⟩
      · intro waiting hwaiting
        rw [h.deferred_eq_none_of_run hrun] at hwaiting
        cases hwaiting
  | tickDeferred run hrun hlast hlocked =>
      refine ⟨h.clock, h.yOffset, h.aligned.shift _, by simp, ?_⟩
      intro waiting hwaiting
      obtain rfl := Option.some.inj hwaiting
      exact ⟨hlocked, rfl, (h.run run hrun).2⟩
  | tickReconciled run hrun hlast hopen =>
      exact ⟨h.clock, h.yOffset, (h.aligned.shift _).reconcile, by simp, by simp⟩
  | commandLocks hopen hfleet =>
      refine ⟨h.clock, h.yOffset, h.aligned, h.run, ?_⟩
      intro run hrun
      rw [h.deferred_eq_none_of_open hopen] at hrun
      cases hrun

/-! ### What a roster alone changes -/

theorem Effect.initialAt_eq (heffect : Effect console act next events)
    (hroster : ∀ drones, act ≠ .roster drones) :
    next.fleet.initialAt = console.fleet.initialAt := by
  cases heffect with
  | rosterKeepsRun roster | rosterEndsRun roster => exact absurd rfl (hroster roster)
  | _ => rfl

theorem Effect.size_eq (heffect : Effect console act next events)
    (hroster : ∀ drones, act ≠ .roster drones) : next.fleet.size = console.fleet.size := by
  cases heffect with
  | rosterKeepsRun roster | rosterEndsRun roster => exact absurd rfl (hroster roster)
  | updated index location slot => exact Fleet.size_set slot location console.fleet
  | planReconciled | readyReconciled | tickReconciled | operatorCommitted | committed =>
      exact Fleet.size_reconcile _
  | _ => rfl

/-! ### Where live positions come from -/

theorem Effect.fleet_of_roster {roster : List (Position α)}
    (heffect : Effect console (.roster roster) next events) :
    next.fleet = console.fleet.replaceRoster roster := by
  cases heffect <;> rfl

theorem Effect.liveAt_of_roster {roster : List (Position α)}
    (heffect : Effect console (.roster roster) next events) :
    next.fleet.liveAt = .ofList roster := by
  rw [heffect.fleet_of_roster]
  rfl

/-- What is told to be reconciled is live as it is simulated, wherever it was live before. -/
theorem Effect.liveAt_of_reconciled (heffect : Effect console act next events)
    (h : Coherent settings console) {outcome : Reconciliation}
    (htold : .reconciled outcome ∈ events) :
    next.fleet.liveAt = next.fleet.simulatedAt.map fun drone => drone.toRaw settings.yOffset := by
  rw [← h.yOffset]
  cases heffect with
  | planReconciled | readyReconciled | operatorCommitted | committed =>
      exact h.aligned.liveAt_reconcile
  | tickReconciled => exact (h.aligned.shift _).liveAt_reconcile
  | planRefused paths told => cases told <;> simp at htold
  | _ => simp at htold

theorem Console.performAll_coherent (h : Coherent settings console) (acts : List (Act α)) :
    Coherent settings (performAll acts console).1 :=
  performAll_preserves Effect.coherent acts h

/-- **Whatever is done to a fresh console, its parts fit.**  A text of the feed is the list of its
lines, so that no text is left out. -/
theorem coherent_after_fresh (settings : ConsoleSettings α) (history : List (Operation α)) :
    Coherent settings ((Console.fresh settings).after history) := by
  rw [Console.after_eq]
  exact Console.performAll_coherent (fresh_coherent settings) (acts history)

/-! ## Runs that are over -/

variable {run : Nat}

/-- A number that was given to a run which is not under way any more. -/
structure Over (run : Nat) (console : Console α) : Prop where
  numbered : run ≤ console.animator.lastRun
  past : console.animator.currentRun ≠ some run

omit [Coordinate α] in
/-- The run under way has the last number. -/
theorem Coherent.lastRun_of_currentRun (h : Coherent settings console)
    (hrun : console.animator.currentRun = some run) : run = console.animator.lastRun := by
  obtain ⟨flown, hflown, rfl⟩ := Option.map_eq_some_iff.mp hrun
  exact (h.run flown hflown).2

/-- Numbers are not taken back. -/
theorem Effect.lastRun_le (heffect : Effect console act next events) :
    console.animator.lastRun ≤ next.animator.lastRun := by
  cases heffect <;> first | exact Nat.le_refl _ | exact Nat.le_succ _

/-- A run that is over does not come back. -/
theorem Effect.over (h : Over run console) (heffect : Effect console act next events) :
    Over run next := by
  have hnumbered : run ≤ next.animator.lastRun := Nat.le_trans h.numbered heffect.lastRun_le
  refine ⟨hnumbered, ?_⟩
  cases heffect with
  | planStarted =>
      intro hcurrent
      have hsame : console.animator.lastRun + 1 = run := Option.some.inj hcurrent
      have hbefore := h.numbered
      omega
  | tickStepped flown stepped hrun hnext =>
      intro hcurrent
      have hsame : stepped.id = run := Option.some.inj hcurrent
      apply h.past
      rw [Animator.currentRun, hrun, ← hsame, Animator.id_of_advance hnext]
      rfl
  | rosterEndsRun | planDeferred | planReconciled | tickDeferred | tickReconciled =>
      intro hcurrent
      cases hcurrent
  | _ => exact h.past

theorem Console.performAll_over (h : Over run console) (acts : List (Act α)) :
    Over run (performAll acts console).1 :=
  performAll_preserves Effect.over acts h

theorem Console.lastRun_le_performAll (acts : List (Act α)) (console : Console α) :
    console.animator.lastRun ≤ (performAll acts console).1.animator.lastRun :=
  performAll_preserves
    (fun {_ _ _ _} hbefore heffect => Nat.le_trans hbefore (Effect.lastRun_le heffect)) acts
    (Nat.le_refl _)

end FleetConsole
