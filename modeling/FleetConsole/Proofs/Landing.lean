import FleetConsole.Coordinate.Rational
import FleetConsole.Proofs.Maneuver
import Mathlib.Algebra.Field.Rat
import Mathlib.Tactic.FieldSimp
import Mathlib.Tactic.Linarith
import Mathlib.Tactic.Ring

/-!
# Where a maneuver lands

With exact coordinates a maneuver of whole moves, begun at a roster of whole positions, lands where it
was planned to: where the roster has the drone, and from there by the sum of all its moves.  Every
move is made in equal parts, and all of them are made.  The vertical offset is added once and taken
off once, and the rounding at the end has nothing left to round.

`maneuver_lands` says so of the first commit after the landing and of every other that comes before
the next roster or plan.  The ticks are counted in the logbook (`Maneuver.ticks`); what is left is to
add up their moves (`Rendered.follow_parts`).
-/

namespace FleetConsole

open Console

/-! ## Whole moves in equal parts -/

namespace Position

/-- A whole number of units along every axis. -/
def IsWhole (p : Position Rat) : Prop := ∃ x y z : Int, p = ⟨x, y, z⟩

/-- The move that moves make together. -/
def total (moves : List (Position Rat)) : Position Rat :=
  ⟨(moves.map Position.x).sum, (moves.map Position.y).sum, (moves.map Position.z).sum⟩

variable {p q : Position Rat}

theorem IsWhole.add (hp : p.IsWhole) (hq : q.IsWhole) : (p.add q).IsWhole := by
  obtain ⟨x, y, z, rfl⟩ := hp
  obtain ⟨u, v, w, rfl⟩ := hq
  exact ⟨x + u, y + v, z + w, by simp [Position.add]⟩

theorem isWhole_total {moves : List (Position Rat)} (h : ∀ move ∈ moves, move.IsWhole) :
    (total moves).IsWhole := by
  induction moves with
  | nil => exact ⟨0, 0, 0, by simp [total]⟩
  | cons move rest ih =>
      obtain ⟨hmove, hrest⟩ := List.forall_mem_cons.mp h
      exact hmove.add (ih hrest)

theorem isWhole_iff : p.IsWhole ↔ p.x.den = 1 ∧ p.y.den = 1 ∧ p.z.den = 1 := by
  constructor
  · rintro ⟨x, y, z, rfl⟩
    exact ⟨rfl, rfl, rfl⟩
  · rintro ⟨hx, hy, hz⟩
    refine ⟨p.x.num, p.y.num, p.z.num, ?_⟩
    rw [Rat.coe_int_num_of_den_eq_one hx, Rat.coe_int_num_of_den_eq_one hy,
      Rat.coe_int_num_of_den_eq_one hz]

instance : DecidablePred IsWhole := fun _ => decidable_of_iff _ isWhole_iff.symm

theorem round_intCast (n : Int) : Coordinate.round (n : Rat) = n := by
  have hfloor : ((n : Rat) + 1 / 2).floor = n := by
    apply Int.le_antisymm
    · apply Int.lt_add_one_iff.mp
      rw [Rat.floor_lt_iff]
      push_cast
      linarith
    · rw [Rat.le_floor_iff]
      linarith
  show (((n : Rat) + 1 / 2).floor : Rat) = n
  rw [hfloor]

/-- A whole position is left as it is by rounding. -/
theorem IsWhole.round_eq (h : p.IsWhole) : p.round = p := by
  obtain ⟨x, y, z, rfl⟩ := h
  simp only [Position.round, round_intCast]

end Position

namespace Rendered

/-- The vertical offset goes as it came. -/
theorem toRaw_shift_ofRaw (origin move : Position Rat) (yOffset : Rat) :
    ((ofRaw origin yOffset).shift move).toRaw yOffset = (origin.add move).round := by
  have hheight : origin.y + yOffset + move.y - yOffset = origin.y + move.y := by ring
  simp only [toRaw, shift, ofRaw, Position.add, hheight]

/-- A move that is made in equal parts. -/
theorem follow_replicate (count : Nat) (part : Rat) (move : Position Rat) (start : Rendered Rat) :
    start.follow part (List.replicate count move) = start.shift (move.scale (count * part)) := by
  induction count generalizing start with
  | zero => simp [follow, shift, Position.add, Position.scale]
  | succ count ih =>
      have hrest := ih (start.shift (move.scale part))
      rw [List.replicate_succ]
      show (start.shift (move.scale part)).follow part (List.replicate count move) = _
      rw [hrest]
      simp only [shift, Position.add, Position.scale, Nat.cast_add, Nat.cast_one]
      congr 2 <;> ring

/-- Moves that are made one after the other, each in all of its parts. -/
theorem follow_parts {count : Nat} (hcount : count ≠ 0) (moves : List (Position Rat))
    (start : Rendered Rat) :
    start.follow (1 / (count : Rat)) (moves.flatMap (List.replicate count)) =
      start.shift (Position.total moves) := by
  induction moves generalizing start with
  | nil => simp [follow, shift, Position.add, Position.total]
  | cons move rest ih =>
      have hwhole : (count : Rat) * (1 / count) = 1 := by
        field_simp
      calc start.follow (1 / (count : Rat)) ((move :: rest).flatMap (List.replicate count))
          = (start.follow (1 / (count : Rat)) (List.replicate count move)).follow
              (1 / (count : Rat)) (rest.flatMap (List.replicate count)) := by
            rw [List.flatMap_cons, follow, List.foldl_append]
            rfl
        _ = (start.shift move).shift (Position.total rest) := by
            rw [ih, follow_replicate, hwhole]
            simp only [Position.scale, mul_one]
        _ = start.shift (Position.total (move :: rest)) := by
            simp only [shift, Position.add, Position.total, List.map_cons, List.sum_cons, add_assoc]

end Rendered

/-! ## The moves of a maneuver -/

variable {α : Type}

/-- The moves that plans have for the drone of a slot, one after the other. -/
def movesOf (slot : Nat) (plans : List (List (List (Position α)))) : List (Position α) :=
  plans.flatMap fun plan => plan[slot]?.getD []

/-- The ticks of a path go through its moves, as many of them to a move as it has parts. -/
theorem map_getElem?_div {β : Type} {count : Nat} (hcount : 0 < count) (path : List β) :
    ((List.range (path.length * count)).map fun tick => path[tick / count]?) =
      (path.flatMap (List.replicate count)).map some := by
  induction path with
  | nil => simp
  | cons move rest ih =>
      have hfirst : ((List.range count).map fun tick => (move :: rest)[tick / count]?) =
          (List.replicate count move).map some := by
        rw [List.map_replicate, List.eq_replicate_iff]
        refine ⟨by simp, ?_⟩
        intro entry hentry
        obtain ⟨tick, htick, rfl⟩ := List.mem_map.mp hentry
        rw [Nat.div_eq_of_lt (List.mem_range.mp htick)]
        rfl
      have hlater : ∀ tick, (move :: rest)[(count + tick) / count]? = rest[tick / count]? := by
        intro tick
        rw [Nat.add_div_left tick hcount, List.getElem?_cons_succ]
      rw [List.length_cons, Nat.succ_mul, Nat.add_comm, List.range_add, List.map_append, hfirst,
        List.map_map, List.flatMap_cons, List.map_append, ← ih]
      simp only [Function.comp_def, hlater]

/-- The ticks of accepted plans make all moves of a drone, each in all of its parts. -/
theorem map_move?_planTicks {count size slot : Nat} (hcount : 0 < count) (hslot : slot < size)
    {plans : List (List (List (Position α)))}
    (haccepted : ∀ plan ∈ plans, (Plan.steps? size plan).isSome) :
    (plans.flatMap (planTicks count size)).map (MadeTick.move? count slot) =
      ((movesOf slot plans).flatMap (List.replicate count)).map some := by
  have hplan : ∀ plan ∈ plans, (planTicks count size plan).map (MadeTick.move? count slot) =
      ((plan[slot]?.getD []).flatMap (List.replicate count)).map some := by
    intro plan hmem
    obtain ⟨steps, hsteps⟩ := Option.isSome_iff_exists.mp (haccepted plan hmem)
    obtain ⟨-, hsize, hlengths⟩ := Plan.steps?_eq_some_iff.mp hsteps
    have hpath : plan[slot]? = some plan[slot] := List.getElem?_eq_getElem (by omega)
    have hlength : steps = plan[slot].length := (hlengths _ (List.getElem_mem _)).symm
    rw [hpath, Option.getD_some, ← map_getElem?_div hcount, planTicks, hsteps, Option.getD_some,
      hlength, List.map_map]
    simp only [Function.comp_def, MadeTick.move?, hpath, Option.bind_some]
  rw [List.map_flatMap, List.flatMap_congr hplan, movesOf, List.flatMap_assoc, List.map_flatMap]

/-! ## Landing -/

variable {settings : ConsoleSettings Rat} {console : Console Rat}

/-- At the end of a maneuver a drone is simulated where it has gone by all its moves. -/
theorem Maneuver.simulated {log : Logbook Rat} {acts : List (Act Rat)} (h : Maneuver acts console)
    (hrecorded : Recorded settings console log) (hstart : log.ticks = [])
    (hidle : console.animator.run = none)
    (hended : (performAll acts console).1.animator.run = none) (slot : Nat)
    (origin : Position Rat) (horigin : log.roster[slot]? = some origin) :
    (performAll acts console).1.fleet.simulatedAt.get? slot =
      some ((Rendered.ofRaw origin settings.yOffset).shift
        (Position.total (movesOf slot (acceptedPlans log.roster.length acts)))) := by
  obtain ⟨hroster, hticks⟩ := h.ticks hrecorded hstart hidle hended
  have hslot : slot < log.roster.length := (List.getElem?_eq_some_iff.mp horigin).1
  obtain ⟨moves, hmoves, hdrone⟩ :=
    (performAll_recorded hrecorded acts).simulated slot origin (hroster ▸ horigin)
  rw [hticks, map_move?_planTicks settings.subSteps_pos hslot fun plan hplan =>
    isSome_of_mem_acceptedPlans hplan] at hmoves
  have hparts := List.map_injective_iff.mpr (Option.some_injective _) hmoves
  have hcount : settings.subSteps.toNat ≠ 0 := Nat.pos_iff_ne_zero.mp settings.subSteps_pos
  rw [hdrone, ← hparts]
  exact congrArg some (Rendered.follow_parts hcount _ _)

/-- The positions of a roster after some plans. -/
def plannedAt (roster : List (Position Rat)) (plans : List (List (List (Position Rat)))) :
    List (Position Rat) :=
  roster.mapIdx fun slot origin => origin.add (Position.total (movesOf slot plans))

theorem isWhole_add_total {plans : List (List (List (Position Rat)))} {origin : Position Rat}
    (horigin : origin.IsWhole)
    (hmoves : ∀ plan ∈ plans, ∀ path ∈ plan, ∀ move ∈ path, move.IsWhole) (slot : Nat) :
    (origin.add (Position.total (movesOf slot plans))).IsWhole := by
  apply horigin.add
  apply Position.isWhole_total
  intro move hmove
  obtain ⟨plan, hplan, hpath⟩ := List.mem_flatMap.mp hmove
  cases hentry : plan[slot]? with
  | none =>
      rw [hentry] at hpath
      cases hpath
  | some path =>
      rw [hentry] at hpath
      exact hmoves plan hplan path (List.mem_of_getElem? hentry) move hpath

/-- So the simulated drones are where they were planned to be, once the vertical offset is taken off
again: there is nothing left to round. -/
theorem Maneuver.map_toRaw_values {log : Logbook Rat} {acts : List (Act Rat)}
    (h : Maneuver acts console) (hrecorded : Recorded settings console log)
    (hstart : log.ticks = []) (hidle : console.animator.run = none)
    (hended : (performAll acts console).1.animator.run = none)
    (hroster : ∀ origin ∈ log.roster, origin.IsWhole)
    (hmoves : ∀ plan ∈ acceptedPlans log.roster.length acts, ∀ path ∈ plan, ∀ move ∈ path,
      move.IsWhole) :
    ((performAll acts console).1.fleet.simulatedAt.map fun drone =>
        drone.toRaw settings.yOffset).values =
      plannedAt log.roster (acceptedPlans log.roster.length acts) := by
  have haligned := (performAll_coherent hrecorded.coherent acts).aligned.simulated
  rw [(performAll_of_noRoster h.noRoster console).2, hrecorded.roster] at haligned
  have hsimulated := h.simulated hrecorded hstart hidle hended
  generalize (performAll acts console).1.fleet.simulatedAt = table at haligned hsimulated
  have hsize : table.size = log.roster.length := by
    rw [← Slots.length_numbers, haligned, List.length_range]
  have hvalues : ∀ slot, table.values[slot]? = table.get? slot := Slots.getElem?_values haligned
  apply List.ext_getElem?
  intro slot
  rw [Slots.values_map, List.getElem?_map, plannedAt, List.getElem?_mapIdx]
  cases horigin : log.roster[slot]? with
  | none =>
      have hnone : table.values[slot]? = none := by
        rw [List.getElem?_eq_none_iff] at horigin ⊢
        rwa [Slots.length_values, hsize]
      rw [hnone]
      rfl
  | some origin =>
      have hwhole := isWhole_add_total (hroster origin (List.mem_of_getElem? horigin)) hmoves slot
      rw [hvalues, hsimulated slot origin horigin, Option.map_some, Option.map_some,
        Rendered.toRaw_shift_ofRaw, hwhole.round_eq]

/-- No run is under way, and the simulated drones are where they were planned to be, once the vertical
offset is taken off again. -/
structure Landed (settings : ConsoleSettings Rat) (planned : List (Position Rat))
    (console : Console Rat) : Prop where
  parked : Parked settings console.fleet.simulatedAt console
  values : (console.fleet.simulatedAt.map fun drone => drone.toRaw settings.yOffset).values = planned

/-- Until the next roster or plan, every commit makes the planned positions live. -/
theorem Landed.live_of_reconciled {planned : List (Position Rat)} {later : List (Act Rat)}
    {act : Act Rat} {outcome : Reconciliation} (h : Landed settings planned console)
    (hundisturbed : Undisturbed (later ++ [act]) console)
    (htold : .reconciled outcome ∈ (perform act (performAll later console).1).2) :
    (perform act (performAll later console).1).1.fleet.live = planned := by
  obtain ⟨hlater, hkeeps, -⟩ := undisturbed_append.mp hundisturbed
  rw [Fleet.live, (h.parked.performAll hlater).liveAt_of_reconciled hkeeps htold]
  exact h.values

/-- **A whole maneuver lands where it was planned to.**  A roster of whole positions comes while no run
is under way and leaves the console as `start`.  From there on `acts` and then `last` are done, a
maneuver whose plans have whole moves, and `last` completes a run.  So every plan is flown to its end,
and anything else that is no roster may be done in between.  The acts of every history can be cut so
(`performAll_history`), also in the middle of a message.

Then the live positions become those of the roster, each with the sum of all moves of its drone added:
at once if commands are open, and with the next ready if they are locked.  Every other commit before
the next roster or plan says the same.  The vertical offset and the number of sub-steps do not
matter. -/
theorem maneuver_lands (settings : ConsoleSettings Rat) (past acts : List (Act Rat))
    (last : Act Rat) (roster : List (Position Rat)) (start : Console Rat) (run : Nat)
    (hidle : (performAll past (fresh settings)).1.animator.run = none)
    (hstart : start = (perform (.roster roster) (performAll past (fresh settings)).1).1)
    (hroster : ∀ origin ∈ roster, origin.IsWhole)
    (hmaneuver : Maneuver (acts ++ [last]) start)
    (hmoves : ∀ plan ∈ acceptedPlans roster.length (acts ++ [last]),
      ∀ path ∈ plan, ∀ move ∈ path, move.IsWhole)
    (hlast : .animationCompleted run ∈ (perform last (performAll acts start).1).2) :
    let flying := (performAll acts start).1
    let landed := (perform last flying).1
    let planned := plannedAt roster (acceptedPlans roster.length (acts ++ [last]))
    (flying.locked = false →
      (∃ outcome, .reconciled outcome ∈ (perform last flying).2) ∧
        landed.fleet.live = planned) ∧
    (flying.locked = true → ∀ between : List (Act Rat), (∀ act ∈ between, act.IsHeld) →
      Undisturbed between landed →
        let ready := perform .ready (performAll between landed).1
        (∃ outcome, ready.2 = [.controlsEnabled, .reconciled outcome]) ∧
          ready.1.fleet.live = planned) ∧
    ∀ (later : List (Act Rat)) (act : Act Rat) (outcome : Reconciliation),
      Undisturbed (later ++ [act]) landed →
        let reached := perform act (performAll later landed).1
        .reconciled outcome ∈ reached.2 → reached.1.fleet.live = planned := by
  intro flying landed planned
  have hpast := performAll_recorded (fresh_recorded settings) past
  have hbegin := perform_effect (.roster roster) (performAll past (fresh settings)).1
  have hrecorded := hbegin.recorded hpast
  have hstartIdle := hbegin.idle_of_roster hidle
  rw [← hstart] at hrecorded hstartIdle
  have hcoherent : Coherent settings flying := performAll_coherent hrecorded.coherent acts
  have hlanding := perform_effect last flying
  have hended : landed.animator.run = none := hlanding.idle_of_completed hlast
  have hreached : (performAll (acts ++ [last]) start).1 = landed := by
    rw [performAll_append, performAll_singleton]
  have hvalues := hmaneuver.map_toRaw_values hrecorded rfl hstartIdle (hreached ▸ hended) hroster
    hmoves
  rw [hreached] at hvalues
  have hlanded : Landed settings planned landed :=
    ⟨⟨hlanding.coherent hcoherent, hended, rfl⟩, hvalues⟩
  refine ⟨?_, ?_, ?_⟩
  · intro hopen
    obtain ⟨outcome, htold⟩ := hlanding.reconciled_of_completed hopen hlast
    refine ⟨⟨outcome, htold⟩, ?_⟩
    rw [Fleet.live, hlanding.liveAt_of_reconciled hcoherent htold]
    exact hlanded.values
  · intro hlocked between hheld hundisturbed ready
    have hcompletes : CompletesLocked run last flying := ⟨hlocked, hlast⟩
    have hwaits := (hcompletes.waits hcoherent).performAll hheld hundisturbed
    obtain ⟨outcome, htold⟩ := hwaits.delivers.events
    have hready : Undisturbed (between ++ [.ready]) landed :=
      undisturbed_append.mpr ⟨hundisturbed, id, trivial⟩
    have hmem : .reconciled outcome ∈ (perform .ready (performAll between landed).1).2 := by
      rw [htold]
      simp
    exact ⟨⟨outcome, htold⟩, hlanded.live_of_reconciled hready hmem⟩
  · intro later act outcome hundisturbed reached htold
    exact hlanded.live_of_reconciled hundisturbed htold

/-- Two drones fly one plan after the other while a command is out, three sub-steps to a move.  The
first one is reported to be elsewhere, and the live positions are committed half way. -/
def twoLegs : List (Act Rat) :=
  [.plan [[⟨2, 0, 0⟩], [⟨0, 0, 4⟩]] true, .tick 1, .update (.integer 0) ⟨7, 7, 7⟩, .tick 1, .commit,
    .tick 1, .plan [[⟨0, 1, 0⟩], [⟨0, -2, 0⟩]] true, .tick 1, .tick 2, .tick 2]

theorem maneuver_lands_twoLegs :
    let settings : ConsoleSettings Rat := ⟨1000, 3, 1 / 2⟩
    let past : List (Act Rat) := [.roster [⟨9, 9, 9⟩], .command]
    let roster : List (Position Rat) := [⟨0, 0, 0⟩, ⟨3, 0, 0⟩]
    let start := (perform (.roster roster) (performAll past (fresh settings)).1).1
    let landed := (perform (.tick 2) (performAll twoLegs start).1).1
    let ready := perform .ready (performAll [.update (.integer 1) ⟨5, 5, 5⟩, .tick 2] landed).1
    (performAll past (fresh settings)).1.animator.run = none ∧
      (∀ origin ∈ roster, origin.IsWhole) ∧ Maneuver (twoLegs ++ [.tick 2]) start ∧
      (∃ outcome, ready.2 = [.controlsEnabled, .reconciled outcome]) ∧
      ready.1.fleet.live = [⟨2, 1, 0⟩, ⟨3, -2, 4⟩] := by
  intro settings past roster start landed ready
  have hidle : (performAll past (fresh settings)).1.animator.run = none := by decide +kernel
  have hroster : ∀ origin ∈ roster, origin.IsWhole := by decide +kernel
  have htold : (performAll (twoLegs ++ [.tick 2]) start).2 =
      [.animationStarted 1 1, .liveUpdated 0, .reconciled ⟨2, 2⟩, .animationCompleted 1,
        .commitDeferred 1, .animationStarted 2 1, .animationCompleted 2, .commitDeferred 2] := by
    decide +kernel
  have hmaneuver : Maneuver (twoLegs ++ [.tick 2]) start := by
    constructor
    · intro drones hmem
      simp [twoLegs] at hmem
    · intro run steps hstarted
      rw [htold] at hstarted ⊢
      have hrun : run = 1 ∨ run = 2 := by
        simp at hstarted
        omega
      rcases hrun with rfl | rfl <;> simp
  have hmoves : ∀ plan ∈ acceptedPlans roster.length (twoLegs ++ [.tick 2]),
      ∀ path ∈ plan, ∀ move ∈ path, move.IsWhole := by decide +kernel
  have hlast : .animationCompleted 2 ∈ (perform (.tick 2) (performAll twoLegs start).1).2 := by
    decide +kernel
  have hlocked : (performAll twoLegs start).1.locked = true := by decide +kernel
  obtain ⟨-, hdeferred, -⟩ := maneuver_lands settings past twoLegs (.tick 2) roster start 2 hidle rfl
    hroster hmaneuver hmoves hlast
  obtain ⟨houtcome, hlive⟩ := hdeferred hlocked [.update (.integer 1) ⟨5, 5, 5⟩, .tick 2]
    (by simp [Act.IsHeld]) ⟨id, id, trivial⟩
  refine ⟨hidle, hroster, hmaneuver, houtcome, ?_⟩
  rw [hlive]
  decide +kernel

end FleetConsole
