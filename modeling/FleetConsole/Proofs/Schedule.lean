import FleetConsole.Proofs.Turn
import Mathlib.Data.List.Chain

/-!
# The schedule of ticks

The session arms its timer anew after every input, from the run under way and from the tick that is
armed already.  `ticks_on_schedule` says what comes of that, for inputs of any kind and at any
times, even at times that go back.

* **Armed.**  A tick is armed just when a run is under way, and for that run.  So a timer that finds
  a tick due makes one sub-step of this run (`Run.Advances`), and never one of a run that is over.
* **Kept.**  Nothing but the tick itself moves the time at which it is due, as long as its run is
  under way.
* **Apart.**  From the step that arms the first tick of a run, and then from tick to tick, at least
  the waiting time goes by.

A number is given to one run only (`Over`), so a run that is under way after a step was so before it
or is new.  All that can become of the timer is in `armed_happen_of_firing`, `armed_happen_of_quiet`
and `armed_step_of_new`.
-/

namespace FleetConsole

open Console

/-! ## One sub-step of a run -/

section Advances

variable {α : Type} {run : Run α} {clock : Clock} {fleetSize : Nat}

/-- The ways in which a sub-step of a run can turn out, at so many sub-steps to a move: what is then
under way, and what is told of it.  It is one more of the same moves, or the last one of them with
others to follow on every path, or the last one of the run. -/
inductive Run.Advances (frequency : Nat) (run : Run α) : Option (Run α) → TickOutcome → Prop
  | within (hmore : run.subStep.toNat + 1 < frequency) :
      Advances frequency run (some { run with subStep := run.subStep + 1 }) (.stepped run.id)
  | lastOfMove (hlast : run.subStep.toNat + 1 = frequency) (hpaths : run.paths ≠ [])
      (hmore : ∀ path ∈ run.paths, 1 < path.length) :
      Advances frequency run (some { run with paths := run.paths.map List.tail, subStep := 0 })
        (.stepped run.id)
  | lastOfRun (hlast : run.subStep.toNat + 1 = frequency)
      (hdone : ∀ path ∈ run.paths, path.length = 1) :
      Advances frequency run none (.completed run.id)

/-- A sub-step is counted once. -/
theorem Run.UnderWay.advances (h : run.UnderWay clock.frequency.toNat fleetSize) :
    run.Advances clock.frequency.toNat (Animator.advance clock run)
      (if (Animator.advance clock run).isSome then .stepped run.id else .completed run.id) := by
  obtain ⟨moves, hne, hmoves⟩ := h.moves
  have hbelow := h.subStep
  rw [Animator.advance_eq h.paths_ne_nil hmoves hbelow]
  by_cases hmore : run.subStep.toNat + 1 < clock.frequency.toNat
  · rw [if_pos hmore]
    exact .within hmore
  · rw [if_neg hmore]
    have hlast : run.subStep.toNat + 1 = clock.frequency.toNat := by omega
    by_cases hdone : moves ≤ 1
    · rw [if_pos hdone]
      refine .lastOfRun hlast fun path hpath => ?_
      have hlength := hmoves path hpath
      omega
    · rw [if_neg hdone]
      refine .lastOfMove hlast h.paths_ne_nil fun path hpath => ?_
      have hlength := hmoves path hpath
      omega

/-- A tick of the run under way makes one sub-step of it, and the simulated drones go the part of
their moves that belongs to it. -/
theorem Animator.tick_of_underWay [Coordinate α] {animator : Animator α}
    (h : run.UnderWay animator.clock.frequency.toNat fleetSize) (hrun : animator.run = some run)
    (fleet : Fleet α) :
    ∃ next outcome, run.Advances animator.clock.frequency.toNat next outcome ∧
      animator.tick run.id fleet =
        ({ animator with run := next }, fleet.shift (subMoves animator.clock run), outcome) := by
  refine ⟨_, _, h.advances, ?_⟩
  simp only [tick, hrun, ne_eq, not_true_eq_false, if_false]
  cases advance animator.clock run <;> rfl

end Advances

/-! ## Ticks that are made -/

/-- A tick that is made, of a run and at a time. -/
structure Firing where
  run : Nat
  time : Nat
deriving DecidableEq

/-- The time between two sub-steps. -/
def ConsoleSettings.waitingTime {α : Type} (settings : ConsoleSettings α) : Nat :=
  (Clock.ofFrequency settings.moveTime settings.frequency).waitingTime

namespace Session

/-- The tick that is made when something happens: the one that is armed, if the timer finds it
due. -/
def firing? (session : Session) : Happening → Option Firing
  | .input now .timer =>
      (session.armed.filter fun tick => tick.due ≤ now).map fun tick => ⟨tick.run, now⟩
  | _ => none

/-- The ticks that are made while things happen. -/
def firings : List Happening → Session → List Firing
  | [], _ => []
  | happening :: rest, session =>
      (session.firing? happening).toList ++ firings rest (session.happen happening).1

/-- The times at which ticks of a run are made. -/
def firedAt (run : Nat) (happenings : List Happening) (session : Session) : List Nat :=
  ((firings happenings session).filter fun firing => firing.run = run).map Firing.time

variable {session : Session} {happening : Happening} {firing : Firing} {tick : ArmedTick}
  {now run : Nat} {input : Input}

theorem firings_append (first second : List Happening) (session : Session) :
    firings (first ++ second) session =
      firings first session ++ firings second (session.undergo first).1 := by
  induction first generalizing session with
  | nil => rfl
  | cons happening rest ih =>
      rw [List.cons_append, firings, firings, ih, List.append_assoc]
      rfl

theorem firedAt_append (run : Nat) (first second : List Happening) (session : Session) :
    firedAt run (first ++ second) session =
      firedAt run first session ++ firedAt run second (session.undergo first).1 := by
  rw [firedAt, firings_append, List.filter_append, List.map_append]
  rfl

theorem firedAt_cons_of_quiet (hquiet : session.firing? happening = none)
    (rest : List Happening) :
    firedAt run (happening :: rest) session = firedAt run rest (session.happen happening).1 := by
  rw [firedAt, firings, hquiet]
  rfl

theorem firedAt_cons_of_firing (hfiring : session.firing? happening = some firing)
    (rest : List Happening) :
    firedAt run (happening :: rest) session =
      if firing.run = run then firing.time :: firedAt run rest (session.happen happening).1
      else firedAt run rest (session.happen happening).1 := by
  rw [firedAt, firings, hfiring]
  show ((firing :: _).filter _).map _ = _
  rw [List.filter_cons]
  split
  · rename_i hrun
    rw [if_pos (by simpa using hrun)]
    rfl
  · rename_i hrun
    rw [if_neg (by simpa using hrun)]
    rfl

theorem firing?_eq_some_iff :
    session.firing? happening = some firing ↔
      ∃ tick, session.armed = some tick ∧ tick.due ≤ firing.time ∧ tick.run = firing.run ∧
        happening = .input firing.time .timer := by
  constructor
  · intro hfiring
    unfold firing? at hfiring
    split at hfiring
    · obtain ⟨tick, htick, rfl⟩ := Option.map_eq_some_iff.mp hfiring
      obtain ⟨harmed, hdue⟩ := Option.filter_eq_some_iff.mp htick
      exact ⟨tick, harmed, by simpa using hdue, rfl, rfl⟩
    · cases hfiring
  · rintro ⟨tick, harmed, hdue, hrun, rfl⟩
    obtain ⟨firedRun, time⟩ := firing
    obtain rfl : tick.run = firedRun := hrun
    simp only [firing?, harmed, Option.filter_some, decide_eq_true hdue, if_true, Option.map_some]

theorem firing?_of_due (harmed : session.armed = some tick) (hdue : tick.due ≤ now) :
    session.firing? (.input now .timer) = some ⟨tick.run, now⟩ :=
  firing?_eq_some_iff.mpr ⟨tick, harmed, hdue, rfl, rfl⟩

theorem firing?_of_early (hearly : ∀ tick, session.armed = some tick → now < tick.due) :
    session.firing? (.input now .timer) = none := by
  rw [Option.eq_none_iff_forall_ne_some]
  intro firing hfiring
  obtain ⟨tick, harmed, hdue, -, hinput⟩ := firing?_eq_some_iff.mp hfiring
  have hbefore := hearly tick harmed
  injection hinput with htime
  omega

/-! ## What becomes of the timer -/

/-- The timer does not depend on what is published. -/
theorem armed_step (now : Nat) (input : Input) (session : Session) :
    (session.step now input).1.armed = ((session.take now input).1.arm now).armed := by
  have hpublish (taken : Session) :
      ((taken.publish now).1.arm now).armed = (taken.arm now).armed := by
    unfold publish
    split <;> rfl
  rw [step_eq, hpublish]

theorem armed_arm_of_none (harmed : session.armed = none) :
    (session.arm now).armed = session.console.animator.currentRun.map fun run =>
      ⟨run, now + session.console.animator.clock.waitingTime⟩ := by
  simp only [arm, harmed]
  cases session.console.animator.currentRun <;> rfl

theorem armed_arm_of_current (harmed : session.armed = some tick)
    (hrun : session.console.animator.currentRun = some tick.run) :
    (session.arm now).armed = some tick := by
  simp only [arm, harmed, hrun, if_true]

theorem armed_arm_of_other (hrun : session.console.animator.currentRun = some run)
    (hother : ∀ tick, session.armed = some tick → tick.run ≠ run) :
    (session.arm now).armed =
      some ⟨run, now + session.console.animator.clock.waitingTime⟩ := by
  cases harmed : session.armed with
  | none => simp only [arm, harmed, hrun]
  | some tick => simp only [arm, harmed, hrun, if_neg (hother tick harmed)]

end Session

/-- A turn leaves the timer alone, unless it makes the tick that is armed. -/
theorem Turn.armed_eq {now : Nat} {session next : Session} {input : Input} {reply : Reply}
    {told : List (Event Float)} (h : Turn now session input next reply told) :
    next.armed = if (session.firing? (.input now input)).isSome then none else session.armed := by
  cases h with
  | ticked tick harmed hdue =>
      rw [Session.firing?_of_due harmed hdue]
      rfl
  | notDue hearly =>
      rw [Session.firing?_of_early hearly]
      rfl
  | _ => rfl

/-! ## Sessions in their course -/

namespace Session

variable {settings : ConsoleSettings Float} {pace : UInt32} {session : Session}
  {happening : Happening} {firing : Firing} {tick : ArmedTick} {now run : Nat} {input : Input}

theorem Settled.waitingTime (h : session.Settled settings pace) :
    session.console.animator.clock.waitingTime = settings.waitingTime := by
  rw [h.coherent.clock]
  rfl

/-- A tick is armed for the run under way alone. -/
theorem Settled.currentRun_of_armed (h : session.Settled settings pace)
    (harmed : session.armed = some tick) :
    session.console.animator.currentRun = some tick.run := by
  rw [← h.rest.armed, harmed]
  rfl

theorem Settled.exists_armed (h : session.Settled settings pace)
    (hrun : session.console.animator.currentRun = some run) :
    ∃ tick, session.armed = some tick ∧ tick.run = run := by
  rw [← h.rest.armed] at hrun
  exact Option.map_eq_some_iff.mp hrun

/-- The tick that is made is one of the run under way. -/
theorem Settled.currentRun_of_firing (h : session.Settled settings pace)
    (hfiring : session.firing? happening = some firing) :
    session.console.animator.currentRun = some firing.run := by
  obtain ⟨tick, harmed, -, hrun, -⟩ := firing?_eq_some_iff.mp hfiring
  rw [← hrun]
  exact h.currentRun_of_armed harmed

/-! ### Runs in the course of a session -/

theorem lastRun_le_undergo (happenings : List Happening) (session : Session) :
    session.console.animator.lastRun ≤
      (session.undergo happenings).1.console.animator.lastRun := by
  obtain ⟨acts, hacts⟩ := exists_acts_undergo happenings session
  rw [hacts]
  exact lastRun_le_performAll acts session.console

theorem over_undergo (h : Over run session.console) (happenings : List Happening) :
    Over run (session.undergo happenings).1.console := by
  obtain ⟨acts, hacts⟩ := exists_acts_undergo happenings session
  rw [hacts]
  exact performAll_over h acts

/-- A run that has its number already, and is under way later, has been so all the time. -/
theorem currentRun_of_undergo (hnumbered : run ≤ session.console.animator.lastRun)
    (happenings : List Happening)
    (hlater : (session.undergo happenings).1.console.animator.currentRun = some run) :
    session.console.animator.currentRun = some run := by
  by_cases hnow : session.console.animator.currentRun = some run
  · exact hnow
  · have hover : Over run session.console := ⟨hnumbered, hnow⟩
    exact absurd hlater (over_undergo hover happenings).past

/-- No tick is made of a run that is over. -/
theorem Settled.firing_run_ne (h : session.Settled settings pace)
    (hover : Over run session.console) (happenings : List Happening) :
    ∀ firing ∈ firings happenings session, firing.run ≠ run := by
  induction happenings generalizing session with
  | nil => simp [firings]
  | cons happening rest ih =>
      intro firing hmem
      rw [firings, List.mem_append] at hmem
      rcases hmem with hnow | hlater
      · have hfiring := Option.mem_toList.mp hnow
        intro hrun
        have hcurrent := h.currentRun_of_firing hfiring
        rw [hrun] at hcurrent
        exact hover.past hcurrent
      · exact ih (h.happen happening) (over_undergo hover [happening]) firing hlater

/-- A run of which a tick was made has its number. -/
theorem Settled.le_lastRun_of_firing (h : session.Settled settings pace)
    (happenings : List Happening) :
    ∀ firing ∈ firings happenings session,
      firing.run ≤ (session.undergo happenings).1.console.animator.lastRun := by
  induction happenings generalizing session with
  | nil => simp [firings]
  | cons happening rest ih =>
      intro firing hmem
      rw [firings, List.mem_append] at hmem
      rcases hmem with hnow | hlater
      · have hcurrent := h.currentRun_of_firing (Option.mem_toList.mp hnow)
        calc firing.run = session.console.animator.lastRun :=
              h.coherent.lastRun_of_currentRun hcurrent
          _ ≤ _ := lastRun_le_undergo (happening :: rest) session
      · exact ih (h.happen happening) firing hlater

/-! ### The timer in the course of a session -/

/-- After a tick was made, the next one is due when the waiting time has gone by. -/
theorem Settled.armed_happen_of_firing (h : session.Settled settings pace)
    (hfiring : session.firing? happening = some firing)
    (harmed : (session.happen happening).1.armed = some tick) :
    tick.due = firing.time + settings.waitingTime := by
  obtain ⟨-, -, -, -, rfl⟩ := firing?_eq_some_iff.mp hfiring
  have hsettled := h.happen (.input firing.time .timer)
  obtain ⟨told, hturn⟩ := session.take_turn firing.time .timer
  have hnone : (session.take firing.time .timer).1.armed = none := by
    rw [hturn.armed_eq, hfiring]
    rfl
  have harmed' : (session.step firing.time .timer).1.armed = some tick := harmed
  have hconsole := console_step firing.time .timer session
  rw [armed_step, armed_arm_of_none hnone, ← hconsole] at harmed'
  obtain ⟨flown, -, rfl⟩ := Option.map_eq_some_iff.mp harmed'
  exact congrArg (firing.time + ·) hsettled.waitingTime

/-- A tick that is not made stays armed while its run is under way. -/
theorem armed_happen_of_quiet (hquiet : session.firing? happening = none)
    (harmed : session.armed = some tick)
    (hrun : (session.happen happening).1.console.animator.currentRun = some tick.run) :
    (session.happen happening).1.armed = some tick := by
  cases happening with
  | input now input =>
      obtain ⟨told, hturn⟩ := session.take_turn now input
      have hkept : (session.take now input).1.armed = some tick := by
        rw [hturn.armed_eq, hquiet]
        exact harmed
      have hrun' : (session.step now input).1.console.animator.currentRun = some tick.run := hrun
      rw [console_step] at hrun'
      show (session.step now input).1.armed = some tick
      rw [armed_step]
      exact armed_arm_of_current hkept hrun'
  | commandsTaken | outboxAbandoned => exact harmed

/-- The first tick of a run is due when the waiting time has gone by. -/
theorem Settled.armed_step_of_new (h : session.Settled settings pace)
    (hbefore : session.console.animator.currentRun ≠ some run)
    (hafter : (session.step now input).1.console.animator.currentRun = some run) :
    (session.step now input).1.armed = some ⟨run, now + settings.waitingTime⟩ := by
  have hsettled : (session.step now input).1.Settled settings pace := h.happen (.input now input)
  obtain ⟨told, hturn⟩ := session.take_turn now input
  have hother : ∀ tick, (session.take now input).1.armed = some tick → tick.run ≠ run := by
    intro tick htick hrun
    rw [hturn.armed_eq] at htick
    split at htick
    · cases htick
    · apply hbefore
      rw [← hrun]
      exact h.currentRun_of_armed htick
  have hwaiting := hsettled.waitingTime
  rw [console_step] at hafter hwaiting
  rw [armed_step, armed_arm_of_other hafter hother, hwaiting]

/-- Whatever comes instead of the tick that is armed, the tick stays armed while its run is under
way. -/
theorem Settled.armed_undergo_of_quiet (h : session.Settled settings pace)
    (harmed : session.armed = some tick) (happenings : List Happening)
    (hquiet : firings happenings session = [])
    (hrun : (session.undergo happenings).1.console.animator.currentRun = some tick.run) :
    (session.undergo happenings).1.armed = some tick := by
  induction happenings generalizing session with
  | nil => exact harmed
  | cons happening rest ih =>
      rw [firings, List.append_eq_nil_iff] at hquiet
      obtain ⟨hnow, hlater⟩ := hquiet
      have hnumbered : tick.run ≤ (session.happen happening).1.console.animator.lastRun := by
        calc tick.run = session.console.animator.lastRun :=
              h.coherent.lastRun_of_currentRun (h.currentRun_of_armed harmed)
          _ ≤ _ := lastRun_le_undergo [happening] session
      have hstill := currentRun_of_undergo hnumbered rest hrun
      have hkept := armed_happen_of_quiet (Option.toList_eq_nil_iff.mp hnow) harmed hstill
      exact ih (h.happen happening) hkept hlater hrun

/-- A run that has a tick armed afterwards is new or was under way before. -/
theorem Settled.currentRun_of_armed_happen (h : session.Settled settings pace)
    (harmed : (session.happen happening).1.armed = some tick)
    (hnumbered : tick.run ≤ session.console.animator.lastRun) :
    session.console.animator.currentRun = some tick.run :=
  currentRun_of_undergo hnumbered [happening]
    ((h.happen happening).currentRun_of_armed harmed)

/-- If no tick was made, one that is armed for a run from before was armed before. -/
theorem Settled.armed_of_armed_happen (h : session.Settled settings pace)
    (hquiet : session.firing? happening = none)
    (harmed : (session.happen happening).1.armed = some tick)
    (hnumbered : tick.run ≤ session.console.animator.lastRun) :
    session.armed = some tick := by
  obtain ⟨kept, hkept, hrun⟩ := h.exists_armed (h.currentRun_of_armed_happen harmed hnumbered)
  have hcurrent := (h.happen happening).currentRun_of_armed harmed
  rw [← hrun] at hcurrent
  have hstill := armed_happen_of_quiet hquiet hkept hcurrent
  rw [hkept, ← hstill, harmed]

/-! ## The times of ticks -/

/-- The ticks of a run are the waiting time apart, from a time on that the next tick of the run
keeps this distance from. -/
theorem Settled.isChain_firedAt (h : session.Settled settings pace)
    (hnumbered : run ≤ session.console.animator.lastRun) {start : Nat}
    (hstart : ∀ tick, session.armed = some tick → tick.run = run →
      start + settings.waitingTime ≤ tick.due) (happenings : List Happening) :
    (start :: firedAt run happenings session).IsChain
      fun earlier later => earlier + settings.waitingTime ≤ later := by
  induction happenings generalizing session start with
  | nil => exact List.isChain_singleton start
  | cons happening rest ih =>
      have hnext := h.happen happening
      have hnumberedNext : run ≤ (session.happen happening).1.console.animator.lastRun :=
        Nat.le_trans hnumbered (lastRun_le_undergo [happening] session)
      cases hfiring : session.firing? happening with
      | none =>
          rw [firedAt_cons_of_quiet hfiring]
          apply ih hnext hnumberedNext
          intro tick htick hrun
          exact hstart tick (h.armed_of_armed_happen hfiring htick (hrun ▸ hnumbered)) hrun
      | some firing =>
          rw [firedAt_cons_of_firing hfiring]
          have hcurrent := h.currentRun_of_firing hfiring
          by_cases hrun : firing.run = run
          · -- the distance is kept by this tick, and then from this tick on
            rw [if_pos hrun, List.isChain_cons_cons]
            obtain ⟨armed, harmed, hdue, harmedRun, -⟩ := firing?_eq_some_iff.mp hfiring
            refine ⟨Nat.le_trans (hstart armed harmed (harmedRun.trans hrun)) hdue, ?_⟩
            apply ih hnext hnumberedNext
            intro tick htick _
            exact Nat.le_of_eq (h.armed_happen_of_firing hfiring htick).symm
          · -- another run is under way, so that no tick of this one is armed
            rw [if_neg hrun]
            apply ih hnext hnumberedNext
            intro tick htick htickRun
            have hflown := h.currentRun_of_armed_happen htick (htickRun ▸ hnumbered)
            rw [hcurrent, htickRun] at hflown
            exact absurd (Option.some.inj hflown) hrun

/-- Times that are a distance apart are as far from the start as there are distances between. -/
theorem add_mul_le_of_isChain {distance start time k : Nat} {times : List Nat}
    (h : (start :: times).IsChain fun earlier later => earlier + distance ≤ later)
    (htime : times[k]? = some time) : start + (k + 1) * distance ≤ time := by
  induction times generalizing start k with
  | nil => simp at htime
  | cons first rest ih =>
      obtain ⟨hfirst, hrest⟩ := List.isChain_cons_cons.mp h
      cases k with
      | zero =>
          obtain rfl : first = time := by simpa using htime
          rw [Nat.zero_add, Nat.one_mul]
          exact hfirst
      | succ k =>
          rw [List.getElem?_cons_succ] at htime
          calc start + (k + 1 + 1) * distance
              = start + distance + (k + 1) * distance := by
                rw [Nat.succ_mul, Nat.add_comm _ distance, Nat.add_assoc]
            _ ≤ first + (k + 1) * distance := Nat.add_le_add_right hfirst _
            _ ≤ time := ih hrest htime

/-! ## One sub-step for every tick -/

/-- A tick that is made is one sub-step of the run under way. -/
theorem Settled.tick_of_firing (h : session.Settled settings pace)
    (hfiring : session.firing? (.input now .timer) = some firing) :
    ∃ flown next outcome, session.console.animator.run = some flown ∧ flown.id = firing.run ∧
      flown.Advances settings.subSteps.toNat next outcome ∧
      session.console.animator.tick firing.run session.console.fleet =
        ({ session.console.animator with run := next },
          session.console.fleet.shift (Animator.subMoves session.console.animator.clock flown),
          outcome) ∧
      (session.step now .timer).1.console = (session.console.tick firing.run).1 := by
  obtain ⟨tick, harmed, hdue, hrun, hinput⟩ := firing?_eq_some_iff.mp hfiring
  obtain rfl : now = firing.time := by
    injection hinput
  obtain ⟨flown, hflown, hid⟩ := Option.map_eq_some_iff.mp (h.currentRun_of_firing hfiring)
  have hunderWay := (h.coherent.run flown hflown).1
  rw [← h.coherent.frequency] at hunderWay
  obtain ⟨next, outcome, hsub, htick⟩ :=
    Animator.tick_of_underWay hunderWay hflown session.console.fleet
  rw [h.coherent.frequency] at hsub
  rw [show flown.id = firing.run from hid] at htick
  refine ⟨flown, next, outcome, hflown, hid, hsub, htick, ?_⟩
  rw [console_step, ← hrun]
  simp only [take, fire, harmed, if_pos hdue]

theorem Settled.step_of_quiet (h : session.Settled settings pace)
    (hquiet : session.firing? (.input now .timer) = none) :
    session.step now .timer = (session, .done, none) := by
  apply h.rest.step_of_take
  simp only [take, fire]
  split
  · rfl
  · rename_i tick harmed
    by_cases hdue : tick.due ≤ now
    · rw [firing?_of_due harmed hdue] at hquiet
      cases hquiet
    · rw [if_neg hdue]

/-! ## The whole course -/

/-- A run that comes to be under way with an input has had no tick before it. -/
theorem Settled.firedAt_eq_nil (hstart : session.Settled settings pace)
    (happenings : List Happening) (happening : Happening)
    (hbefore : (session.undergo happenings).1.console.animator.currentRun ≠ some run)
    (hafter : ((session.undergo happenings).1.happen happening).1.console.animator.currentRun =
      some run) :
    firedAt run happenings session = [] := by
  have hnever : ∀ firing ∈ firings happenings session, ¬ firing.run = run := by
    intro firing hmem hrun
    have hnumbered := hstart.le_lastRun_of_firing happenings firing hmem
    rw [hrun] at hnumbered
    have hover : Over run (session.undergo happenings).1.console := ⟨hnumbered, hbefore⟩
    exact (over_undergo hover [happening]).past hafter
  rw [firedAt, List.map_eq_nil_iff, List.filter_eq_nil_iff]
  simpa using hnever

/-- From the step that brings a run on, its ticks are the waiting time apart. -/
theorem Settled.isChain_firedAt_of_new (h : session.Settled settings pace)
    (hbefore : session.console.animator.currentRun ≠ some run)
    (hafter : (session.step now input).1.console.animator.currentRun = some run)
    (later : List Happening) :
    (now :: firedAt run (.input now input :: later) session).IsChain
      fun earlier later => earlier + settings.waitingTime ≤ later := by
  have hnext : (session.step now input).1.Settled settings pace := h.happen (.input now input)
  have hnumbered := Nat.le_of_eq (hnext.coherent.lastRun_of_currentRun hafter)
  have harmed := h.armed_step_of_new hbefore hafter
  have hdue : ∀ tick, (session.step now input).1.armed = some tick → tick.run = run →
      now + settings.waitingTime ≤ tick.due := by
    intro tick htick _
    obtain rfl := Option.some.inj (harmed.symm.trans htick)
    exact Nat.le_refl _
  have hchain := hnext.isChain_firedAt hnumbered hdue later
  cases hfiring : session.firing? (.input now input) with
  | none =>
      rw [firedAt_cons_of_quiet hfiring]
      exact hchain
  | some firing =>
      -- the tick is one of the run before
      have hother : firing.run ≠ run := by
        intro hrun
        rw [← hrun] at hbefore
        exact hbefore (h.currentRun_of_firing hfiring)
      rw [firedAt_cons_of_firing hfiring, if_neg hother]
      exact hchain

end Session

/-- **The schedule of ticks.**  In any course of a session, a tick is armed for the run under way
and only then.  A timer that finds it due makes one sub-step of this run, whose outcome is neither
idle nor stale, and any other does nothing; of a run that is over no tick is made any more.
Whatever happens instead of the tick, a request or more of them, does not move the time at which it
is due while its run is under way.  And the ticks of a run, of which there is none before the step
that brings it on, are the waiting time apart from this step on, so that the one with index `k` is
made when as much time has gone by as `k + 1` ticks need. -/
theorem ticks_on_schedule (settings : ConsoleSettings Float) (viewRate : UInt32)
    (happenings : List Happening) :
    let start := Session.fresh settings viewRate
    let session := (start.undergo happenings).1
    session.armed.map ArmedTick.run = session.console.animator.currentRun ∧
      (∀ now, session.firing? (.input now .timer) = none →
        session.step now .timer = (session, .done, none)) ∧
      (∀ now firing, session.firing? (.input now .timer) = some firing →
        ∃ flown next outcome,
          session.console.animator.run = some flown ∧ flown.id = firing.run ∧
          flown.Advances settings.subSteps.toNat next outcome ∧
          session.console.animator.tick firing.run session.console.fleet =
            ({ session.console.animator with run := next },
              session.console.fleet.shift
                (Animator.subMoves session.console.animator.clock flown),
              outcome) ∧
          (session.step now .timer).1.console = (session.console.tick firing.run).1) ∧
      (∀ run later, run ≤ session.console.animator.lastRun →
        session.console.animator.currentRun ≠ some run →
        ∀ firing ∈ Session.firings later session, firing.run ≠ run) ∧
      (∀ tick later, session.armed = some tick → Session.firings later session = [] →
        (session.undergo later).1.console.animator.currentRun = some tick.run →
        (session.undergo later).1.armed = some tick) ∧
      ∀ now input run later, session.console.animator.currentRun ≠ some run →
        (session.step now input).1.console.animator.currentRun = some run →
        let times := Session.firedAt run (happenings ++ .input now input :: later) start
        ((now :: times).IsChain fun earlier later => earlier + settings.waitingTime ≤ later) ∧
          ∀ k time, times[k]? = some time → now + (k + 1) * settings.waitingTime ≤ time := by
  intro start session
  have hsettled := Session.undergo_settled settings viewRate happenings
  refine ⟨hsettled.rest.armed, fun now => hsettled.step_of_quiet, fun now firing =>
    hsettled.tick_of_firing, ?_, ?_, ?_⟩
  · intro run later hnumbered hpast
    exact hsettled.firing_run_ne ⟨hnumbered, hpast⟩ later
  · intro tick later harmed hquiet hrun
    exact hsettled.armed_undergo_of_quiet harmed later hquiet hrun
  · intro now input run later hbefore hafter times
    have hfresh := Session.undergo_settled settings viewRate []
    have hnone : Session.firedAt run happenings start = [] :=
      hfresh.firedAt_eq_nil happenings (.input now input) hbefore hafter
    have htimes : times = Session.firedAt run (.input now input :: later) session := by
      calc times
          = Session.firedAt run happenings start ++
              Session.firedAt run (.input now input :: later) session :=
            Session.firedAt_append run happenings _ start
        _ = Session.firedAt run (.input now input :: later) session := by
            rw [hnone, List.nil_append]
    have hchain := hsettled.isChain_firedAt_of_new hbefore hafter later
    rw [← htimes] at hchain
    exact ⟨hchain, fun k time htime => Session.add_mul_le_of_isChain hchain htime⟩

/-- A drone is there. -/
def oneDroneThere : List Happening :=
  [.input 0 (.request (.openFeed (.numbered 1) 8)),
    .input 10 (.request (.batch (.numbered 1) "\x7b\"Drones\":[[0,1,2]]\x7d"))]

/-- A plan of one move for one drone. -/
def shortPlan : Input :=
  .request (.batch (.numbered 1) "\x7b\"Paths\":[[[1,0,0]]]\x7d")

/-- The feed goes on, and the timer looks too early, until the tick is due. -/
def chatter : List Happening :=
  [.input 500 (.request (.batch (.numbered 1) "\x7b\"Ready\":true\x7d")),
    .input 1000000019 .timer, .input 1000000030 .timer]

theorem ticks_on_schedule_shortPlan :
    let settings : ConsoleSettings Float := ⟨1000000000, 1, 0.5⟩
    let start := Session.fresh settings 30
    let times := Session.firedAt 1 (oneDroneThere ++ .input 20 shortPlan :: chatter) start
    settings.waitingTime = 1000000000 ∧ times = [1000000030] ∧
      20 + (0 + 1) * settings.waitingTime ≤ 1000000030 := by
  intro settings start times
  have hbefore : (start.undergo oneDroneThere).1.console.animator.currentRun ≠ some 1 := by
    decide +kernel
  have hafter : ((start.undergo oneDroneThere).1.step 20
      shortPlan).1.console.animator.currentRun = some 1 := by
    decide +kernel
  have htimes : times = [1000000030] := by
    decide +kernel
  obtain ⟨-, -, -, -, -, hapart⟩ := ticks_on_schedule settings 30 oneDroneThere
  obtain ⟨-, hlate⟩ := hapart 20 shortPlan 1 chatter hbefore hafter
  refine ⟨by decide +kernel, htimes, hlate 0 1000000030 ?_⟩
  show times[0]? = _
  rw [htimes]
  rfl

end FleetConsole
