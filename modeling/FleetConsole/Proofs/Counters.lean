import FleetConsole.Proofs.Turn

/-!
# The counters of a session

The publisher counts the ticks since the last snapshot, and a run counts the sub-steps of the move
that it is in.  Both counts are words of 32 bits, and both are added to without a look at their size:
the ticks begin again because a snapshot is published in time, the sub-steps because a move ends in
time.

To say that neither wraps, the loop is followed once more with counts that are checked.  `oneMore?`
adds one only if there is room for it, and a session stops for good at the first count without room
(`Session.undergo?`).  `counters_never_wrap` says that this never happens: with checked counts a
session does what it does without, however long it goes on and whatever its settings are.

* **Ticks.**  Between inputs they are below the interval of the publisher (`Session.AtRest`).
* **Sub-steps.**  They are below the sub-steps of a move (`Coherent.subStep_lt`).
* **The loop.**  A tick is where both are counted (`Settled.fire?_eq`); no request counts anything.
-/

namespace FleetConsole

open Console

variable {α : Type}

/-! ## Checked counts -/

/-- The count after this one, if there is one. -/
def oneMore? (count : UInt32) : Option UInt32 :=
  if h : count.toNat + 1 < UInt32.size then some (.ofNatLT (count.toNat + 1) h) else none

/-- A count below another one has room for one more. -/
theorem oneMore?_of_lt {count limit : UInt32} (h : count < limit) :
    oneMore? count = some (count + 1) := by
  have hnext : (count + 1).toNat = count.toNat + 1 := toNat_add_one_of_lt h
  have hroom : count.toNat + 1 < UInt32.size := hnext ▸ (count + 1).toNat_lt
  rw [oneMore?, dif_pos hroom, Option.some.injEq, ← UInt32.toNat_inj, UInt32.toNat_ofNatLT, hnext]

/-- The last count has none after it. -/
example : oneMore? 4294967294 = some 4294967295 ∧ oneMore? 4294967295 = none := by decide

namespace Publisher

/-- Counts a tick, with a check, and keeps its events. -/
def recordTick? (events : List (Event α)) (publisher : Publisher α) : Option (Publisher α) :=
  (oneMore? publisher.ticks).map fun ticks => { publisher with ticks := ticks }.record events

theorem recordTick?_eq {publisher : Publisher α} (h : publisher.ticks < publisher.interval)
    (events : List (Event α)) :
    publisher.recordTick? events = some (publisher.recordTick events) := by
  rw [recordTick?, oneMore?_of_lt h]
  rfl

end Publisher

/-! ## Checked ticks of a console -/

namespace Animator

/-- The run after a sub-step that is counted with a check.  Without room for the sub-step there is
no answer; with room for it, there may be no run any more. -/
def advance? (clock : Clock) (run : Run α) : Option (Option (Run α)) :=
  (oneMore? run.subStep).map fun subStep =>
    if subStep < clock.frequency then some { run with subStep := subStep }
    else
      let paths := run.paths.map List.tail
      if paths.all List.isEmpty then none else some { run with paths := paths, subStep := 0 }

theorem advance?_eq {clock : Clock} {run : Run α} (h : run.subStep < clock.frequency) :
    advance? clock run = some (advance clock run) := by
  rw [advance?, oneMore?_of_lt h]
  rfl

variable [Coordinate α]

/-- One sub-step of a run, counted with a check, if it is the one under way. -/
def tick? (id : Nat) (animator : Animator α) (fleet : Fleet α) :
    Option (Animator α × Fleet α × TickOutcome) :=
  match animator.run with
  | none => some (animator, fleet, .idle)
  | some run =>
      if run.id ≠ id then some (animator, fleet, .stale)
      else
        (advance? animator.clock run).map fun advanced =>
          let fleet := fleet.shift (subMoves animator.clock run)
          match advanced with
          | none => ({ animator with run := none }, fleet, .completed id)
          | some next => ({ animator with run := some next }, fleet, .stepped id)

theorem tick?_eq {animator : Animator α}
    (h : ∀ run, animator.run = some run → run.subStep < animator.clock.frequency) (id : Nat)
    (fleet : Fleet α) : animator.tick? id fleet = some (animator.tick id fleet) := by
  cases hrun : animator.run with
  | none => simp only [tick?, tick, hrun]
  | some run =>
      by_cases hother : run.id ≠ id
      · simp only [tick?, tick, hrun, if_pos hother]
      · have hadvance := advance?_eq (h run hrun)
        cases hnext : advance animator.clock run <;>
          simp only [tick?, tick, hrun, if_neg hother, hadvance, hnext, Option.map_some]

end Animator

variable [Coordinate α]

/-- One sub-step of a run, counted with a check, and what follows if it was the last one. -/
def Console.tick? (run : Nat) (console : Console α) : Option (Console α × List (Event α)) :=
  (console.animator.tick? run console.fleet).map fun (animator, fleet, outcome) =>
    let console := { console with animator := animator, fleet := fleet }
    match outcome with
    | .completed run => completeRun run console
    | _ => (console, [])

variable {settings : ConsoleSettings α} {console : Console α}

omit [Coordinate α] in
/-- The sub-steps of a run under way are fewer than those of a move. -/
theorem Coherent.subStep_lt (h : Coherent settings console) {run : Run α}
    (hrun : console.animator.run = some run) : run.subStep < settings.subSteps :=
  UInt32.lt_iff_toNat_lt.mpr (h.run run hrun).1.subStep

theorem Coherent.tick?_eq (h : Coherent settings console) (run : Nat) :
    console.tick? run = some (console.tick run) := by
  have hroom : ∀ flown, console.animator.run = some flown →
      flown.subStep < console.animator.clock.frequency := by
    intro flown hflown
    rw [h.frequency]
    exact h.subStep_lt hflown
  rw [Console.tick?, Animator.tick?_eq hroom]
  rfl

/-! ## The loop with checked counts -/

namespace Session

/-- The tick that is armed is made, once it is due, and counted with a check. -/
def fire? (now : Nat) (session : Session) : Option Session :=
  match session.armed with
  | none => some session
  | some tick =>
      if tick.due ≤ now then do
        let (console, events) ← session.console.tick? tick.run
        let publisher ← session.publisher.recordTick? events
        some { session with console := console, publisher := publisher, armed := none }
      else some session

/-- An input, without what follows from it in any case; no request counts anything. -/
def take? (now : Nat) (input : Input) (session : Session) : Option (Session × Reply) :=
  match input with
  | .request request => some (session.handle now request)
  | .timer => (session.fire? now).map fun session => (session, .done)

/-- One input, at a time. -/
def step? (now : Nat) (input : Input) (session : Session) :
    Option (Session × Reply × Option (Publication Float)) :=
  (session.take? now input).map fun (session, reply) =>
    let (session, publication) := session.publish now
    (session.arm now, reply, publication)

/-- One thing that happens, with what is published. -/
def happen? : Happening → Session → Option (Session × Option (Publication Float))
  | .input now input, session =>
      (session.step? now input).map fun (next, _, publication) => (next, publication)
  | happening, session => some (session.happen happening)

/-- Things that happen one after the other, with all that is published, as long as every count has
room. -/
def undergo? : List Happening → Session → Option (Session × List (Publication Float))
  | [], session => some (session, [])
  | happening :: rest, session => do
      let first ← session.happen? happening
      let later ← undergo? rest first.1
      some (later.1, first.2.toList ++ later.2)

/-- A fresh session with an interval of its own, whatever the settings say about it. -/
def freshEvery (interval : UInt32) (settings : ConsoleSettings Float) : Session :=
  { fresh settings 0 with publisher := .every interval }

variable {settings : ConsoleSettings Float} {pace : UInt32} {session : Session}

theorem Settled.fire?_eq (h : session.Settled settings pace) (now : Nat) :
    session.fire? now = some (session.fire now) := by
  cases harmed : session.armed with
  | none => simp only [fire?, fire, harmed]
  | some tick =>
      by_cases hdue : tick.due ≤ now
      · -- the console makes its tick first, and leaves the count of the publisher as it was
        have hroom : session.publisher.ticks < session.publisher.interval :=
          h.rest.interval.symm ▸ h.rest.ticks
        simp only [fire?, fire, harmed, if_pos hdue, h.coherent.tick?_eq, Option.bind_eq_bind,
          Option.bind_some, Publisher.recordTick?_eq hroom]
      · simp only [fire?, fire, harmed, if_neg hdue]

theorem Settled.step?_eq (h : session.Settled settings pace) (now : Nat) (input : Input) :
    session.step? now input = some (session.step now input) := by
  cases input with
  | request request => rfl
  | timer =>
      rw [step?, take?, h.fire?_eq]
      rfl

theorem Settled.happen?_eq (h : session.Settled settings pace) (happening : Happening) :
    session.happen? happening = some (session.happen happening) := by
  cases happening with
  | input now input =>
      rw [happen?, h.step?_eq]
      rfl
  | commandsTaken | outboxAbandoned => rfl

/-- With checked counts a session in its course does what it does without. -/
theorem Settled.undergo?_eq (h : session.Settled settings pace) (happenings : List Happening) :
    session.undergo? happenings = some (session.undergo happenings) := by
  induction happenings generalizing session with
  | nil => rfl
  | cons happening rest ih =>
      simp only [undergo?, h.happen?_eq, ih (h.happen happening), Option.bind_eq_bind,
        Option.bind_some]
      rfl

/-- Whatever its interval is, a fresh session is settled. -/
theorem freshEvery_settled (interval : UInt32) (settings : ConsoleSettings Float) :
    (freshEvery interval settings).Settled settings (max interval 1) where
  rest := ⟨rfl, Publisher.interval_pos interval, rfl, rfl, rfl⟩
  coherent := fresh_coherent settings

end Session

/-- **The counters never wrap.**  A fresh session with any settings, and with the interval that
comes of them or any other, goes through any course.  Before its next input its publisher has
counted fewer ticks than the interval, nothing is forced and nothing is pending, and the run under
way, if there is one, has made fewer sub-steps than a move has.  So one more is in range for both
counts: the same course with checked counts does not stop anywhere, and comes to the same session
with the same publications. -/
theorem counters_never_wrap (settings : ConsoleSettings Float) (viewRate interval : UInt32)
    (happenings : List Happening) :
    ∀ start ∈ [Session.fresh settings viewRate, Session.freshEvery interval settings],
      let session := (start.undergo happenings).1
      session.publisher.interval = start.publisher.interval ∧
        session.publisher.ticks < session.publisher.interval ∧
        session.publisher.forced = false ∧
        session.publisher.pending = [] ∧
        (∀ run, session.console.animator.run = some run → run.subStep < max 1 settings.frequency) ∧
        start.undergo? happenings = some (start.undergo happenings) := by
  intro start hstart session
  have hsettled : start.Settled settings start.publisher.interval := by
    rcases List.mem_cons.mp hstart with rfl | hother
    · exact ⟨Session.fresh_atRest settings viewRate, fresh_coherent settings⟩
    · rw [List.mem_singleton.mp hother]
      exact Session.freshEvery_settled interval settings
  have hcourse : session.Settled settings start.publisher.interval := hsettled.undergo happenings
  have hinterval := hcourse.rest.interval
  refine ⟨hinterval, hinterval.symm ▸ hcourse.rest.ticks, hcourse.rest.forced,
    hcourse.rest.pending, fun run hrun => ?_, hsettled.undergo?_eq happenings⟩
  exact hcourse.coherent.subStep_lt hrun

/-- A drone takes off, and two ticks of its only move are made. -/
def slowFlight : List Happening :=
  [.input 0 (.request (.openFeed (.numbered 1) 8)),
    .input 10 (.request (.batch (.numbered 1)
      "\x7b\"Drones\":[[0,1,2]],\"Paths\":[[[1,0,0]]]\x7d")),
    .input 20 .timer,
    .input 30 .timer]

/-- Moves take no time and have as many sub-steps as there can be, and snapshots are as rare. -/
theorem counters_never_wrap_slowFlight :
    let settings : ConsoleSettings Float := ⟨0, 4294967295, 0.5⟩
    let start := Session.freshEvery 4294967295 settings
    let session := (start.undergo slowFlight).1
    start ∈ [Session.fresh settings 0, Session.freshEvery 4294967295 settings] ∧
      session.publisher.interval = 4294967295 ∧
      session.publisher.ticks = 2 ∧
      session.publisher.pending = [] ∧
      session.console.animator.run.map Run.subStep = some 2 ∧
      (2 : UInt32) < max 1 settings.frequency ∧
      (start.undergo? slowFlight).isSome = true := by
  intro settings start session
  have hstart : start ∈ [Session.fresh settings 0, Session.freshEvery 4294967295 settings] :=
    List.mem_cons_of_mem _ List.mem_cons_self
  obtain ⟨hinterval, -, -, hpending, hsubStep, hchecked⟩ :=
    counters_never_wrap settings 0 4294967295 slowFlight start hstart
  have hticks : session.publisher.ticks = 2 := by decide +kernel
  have hflown : session.console.animator.run.map Run.subStep = some 2 := by decide +kernel
  obtain ⟨run, hrun, htwo⟩ := Option.map_eq_some_iff.mp hflown
  refine ⟨hstart, hinterval, hticks, hpending, hflown, ?_, ?_⟩
  · rw [← htwo]
    exact hsubStep run hrun
  · rw [hchecked]
    rfl

end FleetConsole
