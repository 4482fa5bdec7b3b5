import FleetConsole.Coordinate.Rational
import FleetConsole.Proofs.Trajectory

/-!
# How long a run takes

A plan of `L` moves is flown in `L * f` ticks, for `f` sub-steps to a move, and only the last of them
completes the run.  Whatever else happens in between does not count and does not hinder: reports,
readies, commands, commits, rosters of the same size, plans that are not accepted and ticks of other
runs.

`plan_lasts` says this of every plan, together with when a plan is accepted.  The number of ticks
made is in the logbook (`Proofs/Trajectory.lean`), so that the induction over what happens is one
over the log (`Logbook.Follows`) and never looks at a console.
-/

namespace FleetConsole

open Console

variable {α : Type}

/-! ## The ticks of a run -/

/-- What leaves a run alone: all acts but a roster of another size and a plan that the fleet can
fly. -/
def Act.Spares (fleetSize : Nat) : Act α → Prop
  | .roster drones => drones.length = fleetSize
  | .plan paths _ => Plan.steps? fleetSize paths = none
  | _ => True

def Act.isTickOf (run : Nat) : Act α → Bool
  | .tick id => id = run
  | _ => false

/-- The number of ticks of a run among some acts. -/
def ticksOf (run : Nat) (acts : List (Act α)) : Nat := acts.countP (Act.isTickOf run)

/-- A flight after a number of ticks, from its start on. -/
def Flight.after (frequency made : Nat) (flight : Flight α) : Option (Flight α) :=
  if made < flight.steps * frequency then some { flight with made := made } else none

/-! ## The flight in the log -/

variable {frequency size made : Nat} {log : Logbook α} {flight : Flight α}

theorem Flight.after_eq_some (hmade : made < flight.steps * frequency) :
    flight.after frequency made = some { flight with made := made } :=
  if_pos hmade

theorem Flight.after_eq_none (hmade : flight.steps * frequency ≤ made) :
    flight.after frequency made = none :=
  if_neg (Nat.not_lt.mpr hmade)

/-- The log of a flight after a number of its ticks, for a fleet that has kept its size. -/
structure Logbook.Follows (frequency size : Nat) (flight : Flight α) (made : Nat)
    (log : Logbook α) : Prop where
  size : log.roster.length = size
  flight : log.flight = flight.after frequency made

namespace Logbook.Follows

/-- A tick counts if it is one of the flight, and none is left to count once the flight is over. -/
theorem enter_tick (h : log.Follows frequency size flight made) (run : Nat) :
    (log.enter frequency (.tick run)).Follows frequency size flight
      (made + if run = flight.id then 1 else 0) := by
  have hlog := h.flight
  by_cases hmade : made < flight.steps * frequency
  · rw [Flight.after_eq_some hmade] at hlog
    by_cases hrun : run = flight.id
    · subst hrun
      have hcounted : log.enter frequency (.tick flight.id) =
          { log with
            flight := flight.after frequency (made + 1)
            ticks := log.ticks ++ [⟨flight.plan, made⟩] } := by
        simp only [enter, hlog, if_true]
        rfl
      rw [hcounted, if_pos rfl]
      exact ⟨h.size, rfl⟩
    · have hsame : log.enter frequency (.tick run) = log := by
        simp only [enter, hlog, if_neg (Ne.symm hrun)]
      rw [hsame, if_neg hrun]
      exact h
  · have hover : flight.steps * frequency ≤ made := Nat.not_lt.mp hmade
    rw [Flight.after_eq_none hover] at hlog
    have hsame : log.enter frequency (.tick run) = log := by
      simp only [enter, hlog]
    rw [hsame]
    exact ⟨h.size, hlog.trans (Flight.after_eq_none (Nat.le_add_right_of_le hover)).symm⟩

theorem enter {act : Act α} (h : log.Follows frequency size flight made)
    (hspares : act.Spares size) :
    (log.enter frequency act).Follows frequency size flight
      (made + if act.isTickOf flight.id then 1 else 0) := by
  cases act with
  | tick run =>
      simpa only [Act.isTickOf, decide_eq_true_eq] using h.enter_tick run
  | roster drones =>
      exact ⟨hspares, (if_pos (hspares.trans h.size.symm)).trans h.flight⟩
  | plan paths told =>
      have hsame : log.enter frequency (.plan paths told) = log := by
        have hsteps : Plan.steps? log.roster.length paths = none := h.size.symm ▸ hspares
        simp only [Logbook.enter, hsteps]
      rw [hsame]
      exact h
  | _ => exact h

/-- What spares a flight counts as many ticks as it has. -/
theorem foldl_enter {acts : List (Act α)} (h : log.Follows frequency size flight made)
    (hspares : ∀ act ∈ acts, act.Spares size) :
    (acts.foldl (Logbook.enter frequency) log).Follows frequency size flight
      (made + ticksOf flight.id acts) := by
  induction acts generalizing log made with
  | nil => exact h
  | cons act rest ih =>
      obtain ⟨hact, hrest⟩ := List.forall_mem_cons.mp hspares
      have hcount : made + ticksOf flight.id (act :: rest) =
          (made + if act.isTickOf flight.id then 1 else 0) + ticksOf flight.id rest := by
        rw [ticksOf, ticksOf, List.countP_cons]
        omega
      rw [hcount]
      exact ih (h.enter hact) hrest

end Logbook.Follows

/-! ## A run that is spared -/

/-- A run is on the way after a number of its ticks: as many moves are left on every path as have not
been made, and the sub-steps count the ticks of the next ones. -/
def Console.IsFlying (console : Console α) (run steps frequency made : Nat) : Prop :=
  ∃ flown, console.animator.run = some flown ∧ flown.id = run ∧
    flown.subStep.toNat = made % frequency ∧ flown.paths.length = console.fleet.size ∧
    ∀ path ∈ flown.paths, path.length = steps - made / frequency

variable [Coordinate α] {settings : ConsoleSettings α} {console next : Console α} {act : Act α}
  {events : List (Event α)}

theorem Recorded.isFlying (h : Recorded settings console log)
    (hfollows : log.Follows settings.subSteps.toNat size flight made)
    (hmade : made < flight.steps * settings.subSteps.toNat) :
    console.IsFlying flight.id flight.steps settings.subSteps.toNat made := by
  have hflight := hfollows.flight
  rw [Flight.after_eq_some hmade] at hflight
  have hflying := h.flying _ hflight
  obtain ⟨-, hsize, -⟩ := Plan.steps?_eq_some_iff.mp hflying.accepted
  refine ⟨_, by rw [h.run, hflight]; rfl, rfl, ?_, ?_, hflying.length_of_mem_run⟩
  · exact Flight.toNat_subStep_run settings.subSteps_pos settings.subSteps.toNat_lt_size _
  · rw [Flight.run, List.length_map, hsize, h.roster]

theorem Recorded.run_eq_none (h : Recorded settings console log)
    (hfollows : log.Follows settings.subSteps.toNat size flight made)
    (hmade : flight.steps * settings.subSteps.toNat ≤ made) : console.animator.run = none := by
  rw [h.run, hfollows.flight, Flight.after_eq_none hmade]
  rfl

/-- Of the acts that spare a run, a tick with which the run ends completes it, and nothing else
completes any. -/
theorem Effect.completes_iff (h : Effect console act next events)
    (hspares : act.Spares console.fleet.size) (id : Nat) :
    .animationCompleted id ∈ events ↔
      act = .tick id ∧ ∃ run, console.animator.run = some run ∧ run.id = id ∧
        Animator.advance console.animator.clock run = none := by
  cases h with
  | planStarted _ _ _ hsteps | planDeferred _ _ hsteps | planReconciled _ _ hsteps =>
      have hnone : Plan.steps? console.fleet.size _ = none := hspares
      rw [hnone] at hsteps
      cases hsteps
  | tickStepped run stepped hrun hnext =>
      refine ⟨nofun, ?_⟩
      rintro ⟨-, other, hother, -, hlast⟩
      obtain rfl := Option.some.inj (hrun.symm.trans hother)
      rw [hnext] at hlast
      cases hlast
  | tickDeferred run hrun hlast | tickReconciled run hrun hlast =>
      simp only [List.mem_cons, Event.animationCompleted.injEq, reduceCtorEq, List.not_mem_nil,
        or_false]
      constructor
      · rintro rfl
        exact ⟨rfl, run, hrun, rfl, hlast⟩
      · rintro ⟨htick, -⟩
        exact (Act.tick.inj htick).symm
  | tickIgnored other hother =>
      refine ⟨nofun, ?_⟩
      rintro ⟨htick, run, hrun, hid, -⟩
      obtain rfl := Act.tick.inj htick
      exact absurd (by rw [Animator.currentRun, hrun, Option.map_some, hid]) hother
  | rosterEndsRun drones hsize => exact absurd hspares hsize
  | planRefused paths told => cases told <;> simp
  | _ => simp

/-- The tick that completes a run is the one before which all others have been made. -/
theorem Recorded.completes_iff (h : Recorded settings console log)
    (hfollows : log.Follows settings.subSteps.toNat size flight made)
    (hspares : act.Spares size) (id : Nat) :
    .animationCompleted id ∈ (perform act console).2 ↔
      id = flight.id ∧ act = .tick flight.id ∧
        made + 1 = flight.steps * settings.subSteps.toNat := by
  have hsize : console.fleet.size = size := h.roster.trans hfollows.size
  rw [(perform_effect act console).completes_iff (hsize.symm ▸ hspares), h.run, hfollows.flight]
  have hadvance (hmade : made < flight.steps * settings.subSteps.toNat) :
      Animator.advance console.animator.clock
          (Flight.run settings.subSteps.toNat { flight with made := made }) =
        (flight.after settings.subSteps.toNat (made + 1)).map
          (Flight.run settings.subSteps.toNat) := by
    have hflying := h.flying _ (hfollows.flight.trans (Flight.after_eq_some hmade))
    rw [← h.coherent.frequency] at hflying ⊢
    exact Flight.advance_run hflying
  constructor
  · rintro ⟨htick, run, hrun, hid, hlast⟩
    by_cases hmade : made < flight.steps * settings.subSteps.toNat
    · rw [Flight.after_eq_some hmade, Option.map_some] at hrun
      obtain rfl := Option.some.inj hrun
      obtain rfl : flight.id = id := hid
      rw [hadvance hmade, Option.map_eq_none_iff] at hlast
      have hover : ¬ made + 1 < flight.steps * settings.subSteps.toNat := fun hmore => by
        rw [Flight.after_eq_some hmore] at hlast
        cases hlast
      exact ⟨rfl, htick, by omega⟩
    · rw [Flight.after_eq_none (Nat.not_lt.mp hmade)] at hrun
      cases hrun
  · rintro ⟨rfl, htick, hlast⟩
    have hmade : made < flight.steps * settings.subSteps.toNat := by omega
    refine ⟨htick, _, by rw [Flight.after_eq_some hmade]; rfl, rfl, ?_⟩
    rw [hadvance hmade, Flight.after_eq_none (Nat.le_of_eq hlast.symm)]
    rfl

/-! ## Plans -/

/-- A plan that has a path is accepted exactly if the fleet can fly it. -/
theorem exists_startPlan_iff {paths : List (List (Position α))} (hne : paths ≠ []) :
    (∃ result, startPlan paths console = .ok result) ↔
      ∃ steps, Plan.steps? console.fleet.size paths = some steps := by
  constructor
  · rintro ⟨result, hok⟩
    cases hsteps : Plan.steps? console.fleet.size paths with
    | some steps => exact ⟨steps, rfl⟩
    | none =>
        rcases startPlan_of_steps?_eq_none hsteps with ⟨hnil, -⟩ | ⟨-, fault, herror⟩
        · exact absurd hnil hne
        · rw [hok] at herror
          cases herror
  · rintro ⟨steps, hsteps⟩
    by_cases hmoves : steps = 0
    · exact ⟨_, startPlan_of_steps?_zero (hmoves ▸ hsteps)⟩
    · exact ⟨_, startPlan_of_steps?_pos hsteps hmoves⟩

/-- A plan without moves is completed as it is accepted. -/
theorem Effect.completed_of_steps?_zero {paths : List (List (Position α))} {told : Bool}
    (h : Effect console (.plan paths told) next events)
    (hsteps : Plan.steps? console.fleet.size paths = some 0) :
    .animationCompleted (console.animator.lastRun + 1) ∈ events ∧ next.animator.run = none := by
  cases h with
  | planDeferred | planReconciled => exact ⟨by simp, rfl⟩
  | planEmpty => cases hsteps
  | planRefused _ _ _ _ hnone =>
      rw [hsteps] at hnone
      cases hnone
  | planStarted _ _ steps hsome hmoves =>
      rw [hsteps] at hsome
      exact absurd (Option.some.inj hsome).symm hmoves

/-- A plan with moves begins a flight in the log. -/
theorem Recorded.planStarted (h : Recorded settings console log) {paths : List (List (Position α))}
    {steps : Nat} (hsteps : Plan.steps? console.fleet.size paths = some steps) (hmoves : steps ≠ 0)
    {started : Console α} (hstarted : startPlan paths console = .ok (started, events)) :
    ∃ log : Logbook α, Recorded settings started log ∧
      log.Follows settings.subSteps.toNat console.fleet.size
        ⟨console.animator.lastRun + 1, paths, steps, 0⟩ 0 := by
  have hrecorded := (perform_effect (.plan paths true) console).recorded h
  rw [perform_plan_of_ok hstarted true] at hrecorded
  refine ⟨_, hrecorded, ?_⟩
  have hpositive : 0 < steps * settings.subSteps.toNat :=
    Nat.mul_pos (Nat.pos_of_ne_zero hmoves) settings.subSteps_pos
  have hlog : Plan.steps? log.roster.length paths = some steps := h.roster ▸ hsteps
  simp only [Logbook.enter, hlog, if_neg hmoves]
  exact ⟨h.roster.symm, by rw [Flight.after_eq_some hpositive, h.accepted]⟩

/-- **How long a run takes.**  A plan that has a path is accepted exactly if it has one for every
drone of the fleet and all are equally long; one that has none is ignored.

An accepted plan without moves is completed at once.  One with moves is under way, and while nothing
comes that ends or replaces its run, all that counts are the ticks of this run: it is on the way until
the last of `steps * frequency` ticks, that tick alone completes it, and from then on no run is under
way. -/
theorem plan_lasts (settings : ConsoleSettings α) (past : List (Act α))
    (paths : List (List (Position α))) :
    let console := (performAll past (fresh settings)).1
    let frequency := settings.subSteps.toNat
    let run := console.animator.lastRun + 1
    startPlan [] console = .ok (console, []) ∧
      (paths ≠ [] → ((∃ result, startPlan paths console = .ok result) ↔
        paths.length = console.fleet.size ∧ ∃ steps, ∀ path ∈ paths, path.length = steps)) ∧
      ∀ started events, paths ≠ [] → startPlan paths console = .ok (started, events) →
        (∀ told, perform (.plan paths told) console = (started, events)) ∧
        ∀ steps, (∀ path ∈ paths, path.length = steps) →
          (steps = 0 → .animationCompleted run ∈ events ∧ started.animator.run = none) ∧
          (steps ≠ 0 → events = [.animationStarted run steps] ∧
            ∀ later, (∀ act ∈ later, act.Spares console.fleet.size) →
              let reached := (performAll later started).1
              let made := ticksOf run later
              (made < steps * frequency → reached.IsFlying run steps frequency made) ∧
              (steps * frequency ≤ made → reached.animator.run = none) ∧
              ∀ before act after, later = before ++ act :: after → ∀ id,
                (.animationCompleted id ∈ (perform act (performAll before started).1).2 ↔
                  id = run ∧ act = .tick run ∧
                    ticksOf run before + 1 = steps * frequency)) := by
  intro console frequency run
  have hrecorded := performAll_recorded (fresh_recorded settings) past
  have haccepted (hne : paths ≠ []) (steps : Nat) :
      Plan.steps? console.fleet.size paths = some steps ↔
        paths.length = console.fleet.size ∧ ∀ path ∈ paths, path.length = steps := by
    rw [Plan.steps?_eq_some_iff]
    exact ⟨fun h => h.2, fun h => ⟨hne, h⟩⟩
  refine ⟨rfl, fun hne => ?_, fun started events hne hok => ⟨perform_plan_of_ok hok, ?_⟩⟩
  · simp only [exists_startPlan_iff hne, haccepted hne, exists_and_left]
  · intro steps hlengths
    obtain ⟨other, hother⟩ := (exists_startPlan_iff hne).mp ⟨_, hok⟩
    have hsteps : Plan.steps? console.fleet.size paths = some steps :=
      (haccepted hne steps).mpr ⟨((haccepted hne other).mp hother).1, hlengths⟩
    refine ⟨fun hzero => ?_, fun hmoves => ⟨?_, fun later hspares => ?_⟩⟩
    · have heffect := perform_plan_effect paths true console
      rw [perform_plan_of_ok hok] at heffect
      exact heffect.completed_of_steps?_zero (hzero ▸ hsteps)
    · rw [startPlan_of_steps?_pos hsteps hmoves] at hok
      exact (congrArg Prod.snd (Except.ok.inj hok)).symm
    · obtain ⟨log, hlog, hfollows⟩ := hrecorded.planStarted hsteps hmoves hok
      have hlater (acts : List (Act α)) (hacts : ∀ act ∈ acts, act.Spares console.fleet.size) :=
        Nat.zero_add (ticksOf run acts) ▸ hfollows.foldl_enter hacts
      refine ⟨(performAll_recorded hlog later).isFlying (hlater later hspares),
        (performAll_recorded hlog later).run_eq_none (hlater later hspares), ?_⟩
      rintro before act after rfl id
      have hbefore : ∀ act ∈ before, act.Spares console.fleet.size := fun act hact =>
        hspares act (List.mem_append_left _ hact)
      exact (performAll_recorded hlog before).completes_iff (hlater before hbefore)
        (hspares act (by simp)) id

/-- Three ticks of a run with two moves of two sub-steps, among much that spares it. -/
def sparedFlight : List (Act Rat) :=
  [.tick 1, .update (.integer 0) ⟨5, 0, 0⟩, .tick 7, .command, .tick 1, .roster [⟨10, 0, 0⟩],
    .plan [] true, .ready, .plan [[], []] true, .tick 1]

theorem plan_lasts_sparedFlight :
    let settings : ConsoleSettings Rat := ⟨1000, 2, 1 / 2⟩
    let console := (performAll [.roster [⟨0, 0, 0⟩]] (fresh settings)).1
    (∀ act ∈ sparedFlight, act.Spares console.fleet.size) ∧
      ∃ started events,
        startPlan [[⟨2, 0, 0⟩, ⟨0, 2, 0⟩]] console = .ok (started, events) ∧
          (performAll sparedFlight started).1.IsFlying 1 2 2 3 ∧
          .animationCompleted 1 ∈ (perform (.tick 1) (performAll sparedFlight started).1).2 := by
  intro settings console
  have hspares : ∀ act ∈ sparedFlight ++ [.tick 1], act.Spares console.fleet.size := by
    have hsize : console.fleet.size = 1 := rfl
    simp [hsize, sparedFlight, Act.Spares, Plan.steps?]
  have hlengths : ∀ path ∈ [[(⟨2, 0, 0⟩ : Position Rat), ⟨0, 2, 0⟩]], path.length = 2 := by simp
  obtain ⟨-, haccepted, hlasts⟩ :=
    plan_lasts settings [.roster [⟨0, 0, 0⟩]] [[⟨2, 0, 0⟩, ⟨0, 2, 0⟩]]
  obtain ⟨⟨started, events⟩, hok⟩ := (haccepted (List.cons_ne_nil _ _)).mpr ⟨rfl, 2, hlengths⟩
  obtain ⟨-, hflown⟩ :=
    ((hlasts started events (List.cons_ne_nil _ _) hok).2 2 hlengths).2 (by decide)
  have hsplit : sparedFlight ++ [.tick 1] = sparedFlight ++ .tick 1 :: [] := rfl
  refine ⟨fun act hact => hspares act (List.mem_append_left _ hact), started, events, hok, ?_, ?_⟩
  · exact (hflown sparedFlight fun act hact => hspares act (List.mem_append_left _ hact)).1
      (by decide)
  · exact ((hflown _ hspares).2.2 sparedFlight (.tick 1) [] hsplit 1).mpr ⟨rfl, rfl, rfl⟩

end FleetConsole
