import FleetConsole.Proofs.Coherence

/-!
# The trajectory of a simulated drone

The animator keeps what is left of the paths and the sub-steps made of the next moves.  A `Logbook`
keeps neither.  It is written from the acts alone: the most recent roster, the plan in the air with
the number of ticks made of it, and every tick made since the roster, with the plan that it belongs
to and the number of earlier ticks of the same run.

`simulated_after_fresh` says where a drone is: where the roster has it, shifted once for every tick
of the log.  The move of a tick is the one at `earlier / f` on the path of the drone, for `f`
sub-steps to a move, and the tick makes one `f`-th of it.

The simulation is `Recorded`.  Its core is `Flight.advance_run`: the queues of a run are the paths
of the plan without the first `made / f` moves, and its sub-step is `made % f`.
-/

namespace FleetConsole

open Console

variable {α : Type}

/-! ## The logbook -/

/-- A plan in the air as it was accepted, and the number of ticks made of it. -/
structure Flight (α : Type) where
  id : Nat
  plan : List (List (Position α))
  /-- the moves of every path -/
  steps : Nat
  made : Nat

/-- A tick that was made. -/
structure MadeTick (α : Type) where
  plan : List (List (Position α))
  /-- the number of ticks of the same run before it -/
  earlier : Nat

structure Logbook (α : Type) where
  roster : List (Position α)
  /-- the number of plans that were accepted -/
  accepted : Nat
  flight : Option (Flight α)
  /-- the ticks made since the roster, in order -/
  ticks : List (MadeTick α)

/-- The move that a tick makes a part of. -/
def MadeTick.move? (frequency slot : Nat) (tick : MadeTick α) : Option (Position α) :=
  tick.plan[slot]?.bind fun path => path[tick.earlier / frequency]?

/-- The flight after one more tick; with the last tick of the last move it is over. -/
def Flight.next (frequency : Nat) (flight : Flight α) : Option (Flight α) :=
  if flight.made + 1 < flight.steps * frequency then some { flight with made := flight.made + 1 }
  else none

namespace Logbook

def blank : Logbook α := ⟨[], 0, none, []⟩

/-- What an act adds to the log.  A roster of the same size does not count the ticks of the flight
anew, and a plan that is not accepted leaves no trace. -/
def enter (frequency : Nat) (log : Logbook α) : Act α → Logbook α
  | .roster roster =>
      { log with
        roster := roster
        flight := if roster.length = log.roster.length then log.flight else none
        ticks := [] }
  | .plan paths _ =>
      match Plan.steps? log.roster.length paths with
      | none => log
      | some steps =>
          { log with
            accepted := log.accepted + 1
            flight := if steps = 0 then none else some ⟨log.accepted + 1, paths, steps, 0⟩ }
  | .tick run =>
      match log.flight with
      | none => log
      | some flight =>
          if flight.id = run then
            { log with
              flight := flight.next frequency
              ticks := log.ticks ++ [⟨flight.plan, flight.made⟩] }
          else log
  | _ => log

/-- The log of a list of acts. -/
def ofActs (frequency : Nat) (acts : List (Act α)) : Logbook α := acts.foldl (enter frequency) blank

end Logbook

/-- A drone makes a part of every move, in order. -/
def Rendered.follow [Coordinate α] (part : α) (start : Rendered α) (moves : List (Position α)) :
    Rendered α :=
  moves.foldl (fun drone move => drone.shift (move.scale part)) start

/-! ## The run of a flight -/

namespace Flight

/-- What the animator keeps of a flight. -/
def run (frequency : Nat) (flight : Flight α) : Run α where
  id := flight.id
  paths := flight.plan.map (List.drop (flight.made / frequency))
  subStep := UInt32.ofNat (flight.made % frequency)

theorem run_takeOff (frequency id steps : Nat) (plan : List (List (Position α))) :
    run frequency ⟨id, plan, steps, 0⟩ = ⟨id, plan, 0⟩ := by
  have hdrop : (List.drop 0 : List (Position α) → List (Position α)) = fun path => path := rfl
  simp only [run, Nat.zero_div, Nat.zero_mod, hdrop, List.map_id_fun']
  rfl

/-- A flight of an accepted plan before its last tick. -/
structure Flying (frequency size : Nat) (flight : Flight α) : Prop where
  accepted : Plan.steps? size flight.plan = some flight.steps
  made : flight.made < flight.steps * frequency

variable {frequency size : Nat} {flight : Flight α}

theorem Flying.div_lt (h : flight.Flying frequency size) :
    flight.made / frequency < flight.steps :=
  Nat.div_lt_of_lt_mul (Nat.mul_comm flight.steps frequency ▸ h.made)

theorem Flying.frequency_pos (h : flight.Flying frequency size) : 0 < frequency := by
  rcases Nat.eq_zero_or_pos frequency with hzero | hpos
  · have hmade := h.made
    rw [hzero, Nat.mul_zero] at hmade
    omega
  · exact hpos

theorem Flying.next {next : Flight α} (h : flight.Flying frequency size)
    (hnext : flight.next frequency = some next) : next.Flying frequency size := by
  unfold Flight.next at hnext
  split at hnext
  · rename_i hmade
    obtain rfl := Option.some.inj hnext
    exact ⟨h.accepted, hmade⟩
  · cases hnext

/-- The move of a tick is there. -/
theorem Flying.exists_move (h : flight.Flying frequency size) {slot : Nat} (hslot : slot < size) :
    ∃ move, MadeTick.move? frequency slot ⟨flight.plan, flight.made⟩ = some move := by
  obtain ⟨-, hsize, hlengths⟩ := Plan.steps?_eq_some_iff.mp h.accepted
  have hpath : slot < flight.plan.length := by omega
  have hlength := hlengths _ (List.getElem_mem hpath)
  have hmove : flight.made / frequency < (flight.plan[slot]).length := by
    rw [hlength]
    exact h.div_lt
  refine ⟨(flight.plan[slot])[flight.made / frequency], ?_⟩
  simp only [MadeTick.move?, List.getElem?_eq_getElem hpath, Option.bind_some,
    List.getElem?_eq_getElem hmove]

theorem toNat_subStep_run (hfrequency : 0 < frequency) (hbound : frequency < UInt32.size)
    (flight : Flight α) : (flight.run frequency).subStep.toNat = flight.made % frequency := by
  have hlt := Nat.mod_lt flight.made hfrequency
  exact UInt32.toNat_ofNat_of_lt' (by omega)

/-! ### One more tick

The ticks of a move are those with the same quotient by the frequency, and its last one is the one
with the greatest remainder. -/

private theorem divMod_succ_of_lt {made : Nat} (h : made % frequency + 1 < frequency) :
    (made + 1) / frequency = made / frequency ∧ (made + 1) % frequency = made % frequency + 1 := by
  have hdiv : frequency * (made / frequency) + made % frequency = made := Nat.div_add_mod _ _
  apply (Nat.div_mod_unique (by omega)).mpr
  exact ⟨by omega, h⟩

private theorem succ_eq_mul_of_last {made : Nat} (h : made % frequency + 1 = frequency) :
    made + 1 = (made / frequency + 1) * frequency := by
  calc made + 1 = frequency * (made / frequency) + made % frequency + 1 := by rw [Nat.div_add_mod]
    _ = made / frequency * frequency + frequency := by rw [Nat.add_assoc, h, Nat.mul_comm]
    _ = (made / frequency + 1) * frequency := (Nat.succ_mul _ _).symm

private theorem divMod_succ_of_last {made : Nat} (h : made % frequency + 1 = frequency) :
    (made + 1) / frequency = made / frequency + 1 ∧ (made + 1) % frequency = 0 := by
  rw [succ_eq_mul_of_last h]
  exact ⟨Nat.mul_div_cancel _ (by omega), Nat.mul_mod_left _ _⟩

/-- Before the last tick of a move the flight is not over. -/
theorem Flying.succ_lt (h : flight.Flying frequency size)
    (hsame : flight.made % frequency + 1 < frequency) :
    flight.made + 1 < flight.steps * frequency := by
  have hnext : (flight.made + 1) / frequency < flight.steps := by
    rw [(divMod_succ_of_lt hsame).1]
    exact h.div_lt
  exact (Nat.div_lt_iff_lt_mul h.frequency_pos).mp hnext

/-- With the last tick of a move the flight is over just when there is no other move. -/
theorem succ_lt_iff_of_last (hlast : flight.made % frequency + 1 = frequency) :
    flight.made + 1 < flight.steps * frequency ↔ 1 < flight.steps - flight.made / frequency := by
  have hpos : 0 < frequency := by omega
  rw [succ_eq_mul_of_last hlast, Nat.mul_lt_mul_right hpos]
  omega

/-- What is left of the paths is equally long for all drones. -/
theorem Flying.length_of_mem_run (h : flight.Flying frequency size) :
    ∀ path ∈ (flight.run frequency).paths,
      path.length = flight.steps - flight.made / frequency := by
  obtain ⟨-, -, hlengths⟩ := Plan.steps?_eq_some_iff.mp h.accepted
  intro path hpath
  obtain ⟨full, hfull, rfl⟩ := List.mem_map.mp hpath
  rw [List.length_drop, hlengths full hfull]

theorem Flying.paths_run_ne_nil (h : flight.Flying frequency size) :
    (flight.run frequency).paths ≠ [] := by
  obtain ⟨hne, -, -⟩ := Plan.steps?_eq_some_iff.mp h.accepted
  simpa [run] using hne

/-- Ticks count up the sub-step and take a move off the paths just when the flight has them so. -/
theorem advance_run {clock : Clock} (h : flight.Flying clock.frequency.toNat size) :
    Animator.advance clock (flight.run clock.frequency.toNat) =
      (flight.next clock.frequency.toNat).map (Flight.run clock.frequency.toNat) := by
  have hfrequency := h.frequency_pos
  have hremainder := Nat.mod_lt flight.made hfrequency
  have hsub := toNat_subStep_run hfrequency clock.frequency.toNat_lt_size flight
  rw [Animator.advance_eq h.paths_run_ne_nil h.length_of_mem_run (by rwa [hsub]), hsub]
  unfold Flight.next
  by_cases hsame : flight.made % clock.frequency.toNat + 1 < clock.frequency.toNat
  · -- the same moves go on
    obtain ⟨hquotient, hnext⟩ := divMod_succ_of_lt hsame
    rw [if_pos hsame, if_pos (h.succ_lt hsame)]
    simp only [Option.map_some, run, hquotient, hnext, UInt32.ofNat_add]
    rfl
  · have hlast : flight.made % clock.frequency.toNat + 1 = clock.frequency.toNat := by omega
    obtain ⟨hquotient, hzero⟩ := divMod_succ_of_last hlast
    rw [if_neg hsame]
    by_cases hmore : 1 < flight.steps - flight.made / clock.frequency.toNat
    · -- the next moves begin
      rw [if_neg (by omega), if_pos ((succ_lt_iff_of_last hlast).mpr hmore)]
      simp only [Option.map_some, run, hquotient, hzero, List.map_map, Function.comp_def,
        List.tail_drop]
      rfl
    · -- there are no others
      rw [if_pos (by omega), if_neg fun hmade => hmore ((succ_lt_iff_of_last hlast).mp hmade)]
      rfl

end Flight

/-! ## What the log records -/

variable [Coordinate α] {settings : ConsoleSettings α} {console next : Console α}
  {log : Logbook α} {flight : Flight α}

/-- A console that the log of its acts describes. -/
structure Recorded (settings : ConsoleSettings α) (console : Console α) (log : Logbook α) :
    Prop where
  coherent : Coherent settings console
  roster : console.fleet.size = log.roster.length
  accepted : console.animator.lastRun = log.accepted
  run : console.animator.run = log.flight.map (Flight.run settings.subSteps.toNat)
  flying : ∀ flight, log.flight = some flight →
    flight.Flying settings.subSteps.toNat log.roster.length
  simulated : ∀ (slot : Nat) origin, log.roster[slot]? = some origin →
    ∃ moves, log.ticks.map (MadeTick.move? settings.subSteps.toNat slot) = moves.map some ∧
      console.fleet.simulatedAt.get? slot =
        some ((Rendered.ofRaw origin settings.yOffset).follow
          (Coordinate.portion settings.subSteps) moves)

/-- What leaves the simulated drones and the animator alone needs no entry. -/
theorem Recorded.frame (h : Recorded settings console log) (hcoherent : Coherent settings next)
    (hsize : next.fleet.size = console.fleet.size) (hanimator : next.animator = console.animator)
    (hsimulated : next.fleet.simulatedAt = console.fleet.simulatedAt) :
    Recorded settings next log where
  coherent := hcoherent
  roster := hsize.trans h.roster
  accepted := by rw [hanimator, h.accepted]
  run := by rw [hanimator, h.run]
  flying := h.flying
  simulated := by rw [hsimulated]; exact h.simulated

/-- After a roster every drone is where the roster has it. -/
theorem get?_replaceRoster (roster : List (Position α)) (fleet : Fleet α) (slot : Nat) :
    (fleet.replaceRoster roster).simulatedAt.get? slot =
      roster[slot]?.map fun p => Rendered.ofRaw p fleet.yOffset := by
  simp only [Fleet.replaceRoster, Slots.get?_map, Slots.get?_ofList]

theorem Recorded.roster_entered (h : Recorded settings console log)
    (hcoherent : Coherent settings next) (roster : List (Position α))
    (hfleet : next.fleet = console.fleet.replaceRoster roster)
    (hlast : next.animator.lastRun = console.animator.lastRun)
    (hrun : next.animator.run =
      if roster.length = console.fleet.size then console.animator.run else none) :
    Recorded settings next (log.enter settings.subSteps.toNat (.roster roster)) where
  coherent := hcoherent
  roster := by rw [hfleet, Fleet.size_replaceRoster]; rfl
  accepted := hlast.trans h.accepted
  run := by
    rw [hrun, h.run, h.roster]
    simp only [Logbook.enter]
    split <;> rfl
  flying := by
    intro flight hflight
    simp only [Logbook.enter] at hflight ⊢
    split at hflight
    · rename_i hsize
      rw [hsize]
      exact h.flying flight hflight
    · cases hflight
  simulated := by
    intro slot origin horigin
    refine ⟨[], rfl, ?_⟩
    simp only [Logbook.enter] at horigin
    rw [hfleet, get?_replaceRoster, horigin, h.coherent.yOffset]
    rfl

/-! ### Ticks -/

/-- A tick shifts a drone by a part of the move that the log gives for it. -/
theorem get?_shift_subMoves {clock : Clock} {frequency slot : Nat} {move : Position α}
    (hmove : MadeTick.move? frequency slot ⟨flight.plan, flight.made⟩ = some move)
    (fleet : Fleet α) :
    (fleet.shift (Animator.subMoves clock (flight.run frequency))).simulatedAt.get? slot =
      (fleet.simulatedAt.get? slot).map fun drone =>
        drone.shift (move.scale (Coordinate.portion clock.frequency)) := by
  obtain ⟨path, hpath, hentry⟩ := Option.bind_eq_some_iff.mp hmove
  have hsub : (Animator.subMoves clock (flight.run frequency))[slot]? =
      some (some (move.scale (Coordinate.portion clock.frequency))) := by
    simp only [Animator.subMoves, Flight.run, List.getElem?_map, hpath, Option.map_some,
      List.head?_drop, hentry]
  simp only [Fleet.shift, Slots.get?_mapSlots, hsub]

theorem Recorded.tick_entered (h : Recorded settings console log)
    (hflight : log.flight = some flight) (hcoherent : Coherent settings next)
    (hsize : next.fleet.size = console.fleet.size)
    (hlast : next.animator.lastRun = console.animator.lastRun)
    (hrun : next.animator.run = Animator.advance console.animator.clock
      (flight.run settings.subSteps.toNat))
    (hsimulated : next.fleet.simulatedAt = (console.fleet.shift (Animator.subMoves
      console.animator.clock (flight.run settings.subSteps.toNat))).simulatedAt) :
    Recorded settings next (log.enter settings.subSteps.toNat (.tick flight.id)) := by
  have hflying := h.flying flight hflight
  have hentered : log.enter settings.subSteps.toNat (.tick flight.id) =
      { log with
        flight := flight.next settings.subSteps.toNat
        ticks := log.ticks ++ [⟨flight.plan, flight.made⟩] } := by
    simp only [Logbook.enter, hflight, if_true]
  rw [hentered]
  refine ⟨hcoherent, hsize.trans h.roster, hlast.trans h.accepted, ?_, ?_, ?_⟩
  · rw [← h.coherent.frequency] at hflying hrun ⊢
    rw [hrun, Flight.advance_run hflying]
  · intro later hlater
    exact hflying.next hlater
  · intro slot origin horigin
    obtain ⟨moves, hticks, hdrone⟩ := h.simulated slot origin horigin
    have hslot : slot < log.roster.length := (List.getElem?_eq_some_iff.mp horigin).1
    obtain ⟨move, hmove⟩ := hflying.exists_move hslot
    refine ⟨moves ++ [move], ?_, ?_⟩
    · simp only [List.map_append, hticks, List.map_cons, List.map_nil, hmove]
    · rw [hsimulated, get?_shift_subMoves hmove, hdrone, h.coherent.frequency, Rendered.follow,
        Rendered.follow, List.foldl_append]
      rfl

/-! ### Every act -/

/-- What an act does to a console that the log describes, its entry describes. -/
theorem Effect.recorded {act : Act α} {events : List (Event α)}
    (h : Recorded settings console log) (heffect : Effect console act next events) :
    Recorded settings next (log.enter settings.subSteps.toNat act) := by
  have hcoherent : Coherent settings next := heffect.coherent h.coherent
  cases heffect with
  | identified | readyAlone | commandLocks => exact h.frame hcoherent rfl rfl rfl
  | updated index location slot hslot hhas =>
      exact h.frame hcoherent (Fleet.size_set slot location console.fleet) rfl rfl
  | readyReconciled | operatorCommitted | committed =>
      exact h.frame hcoherent (Fleet.size_reconcile console.fleet) rfl rfl
  | updateRefused | unreadable | commandRefused | operatorRefused => exact h
  | rosterKeepsRun roster hsize =>
      exact h.roster_entered hcoherent roster rfl rfl (by rw [if_pos hsize])
  | rosterEndsRun roster hsize =>
      exact h.roster_entered hcoherent roster rfl rfl (by rw [if_neg hsize])
  | planEmpty told => exact h
  | planRefused paths told fault hne hsteps =>
      rw [h.roster] at hsteps
      simpa only [Logbook.enter, hsteps] using h
  | planStarted paths told steps hsteps hmoves =>
      rw [h.roster] at hsteps
      have hstart : Flight.Flying settings.subSteps.toNat log.roster.length
          ⟨log.accepted + 1, paths, steps, 0⟩ :=
        ⟨hsteps, Nat.mul_pos (Nat.pos_of_ne_zero hmoves) settings.subSteps_pos⟩
      simp only [Logbook.enter, hsteps, if_neg hmoves]
      refine ⟨hcoherent, h.roster, by rw [h.accepted], ?_, ?_, h.simulated⟩
      · rw [Option.map_some, Flight.run_takeOff, h.accepted]
      · intro flight hflight
        obtain rfl := Option.some.inj hflight
        exact hstart
  | planDeferred paths told hsteps hlocked =>
      rw [h.roster] at hsteps
      simp only [Logbook.enter, hsteps, if_true]
      exact ⟨hcoherent, h.roster, by rw [h.accepted], rfl, by simp, h.simulated⟩
  | planReconciled paths told hsteps hopen =>
      rw [h.roster] at hsteps
      simp only [Logbook.enter, hsteps, if_true]
      exact ⟨hcoherent, (Fleet.size_reconcile console.fleet).trans h.roster, by rw [h.accepted],
        rfl, by simp, h.simulated⟩
  | tickIgnored id hother =>
      cases hflight : log.flight with
      | none => simpa only [Logbook.enter, hflight] using h
      | some flight =>
          have hid : flight.id ≠ id := by
            simpa [Animator.currentRun, h.run, hflight, Flight.run] using hother
          simpa only [Logbook.enter, hflight, if_neg hid] using h
  | tickStepped run stepped hrun hnext =>
      obtain ⟨flight, hflight, rfl⟩ := Option.map_eq_some_iff.mp (h.run.symm.trans hrun)
      exact h.tick_entered hflight hcoherent rfl rfl hnext.symm rfl
  | tickDeferred run hrun hlast hlocked =>
      obtain ⟨flight, hflight, rfl⟩ := Option.map_eq_some_iff.mp (h.run.symm.trans hrun)
      exact h.tick_entered hflight hcoherent rfl rfl hlast.symm rfl
  | tickReconciled run hrun hlast hopen =>
      obtain ⟨flight, hflight, rfl⟩ := Option.map_eq_some_iff.mp (h.run.symm.trans hrun)
      exact h.tick_entered hflight hcoherent (Fleet.size_reconcile _) rfl hlast.symm rfl

theorem fresh_recorded (settings : ConsoleSettings α) :
    Recorded settings (.fresh settings) .blank where
  coherent := fresh_coherent settings
  roster := rfl
  accepted := rfl
  run := rfl
  flying := by intro flight hflight; cases hflight
  simulated := by intro slot origin horigin; cases horigin

theorem Console.performAll_recorded (h : Recorded settings console log) (acts : List (Act α)) :
    Recorded settings (performAll acts console).1
      (acts.foldl (Logbook.enter settings.subSteps.toNat) log) := by
  induction acts generalizing console log with
  | nil => exact h
  | cons act rest ih => exact ih ((perform_effect act console).recorded h)

/-- **Where a simulated drone is.**  It is where the most recent roster has it, shifted for every
tick made since, in order, by the sub-step of its move in the plan of that tick.  The ticks that
count are those of the flight in the air, which is the run under way. -/
theorem simulated_after_fresh (settings : ConsoleSettings α) (history : List (Operation α))
    (slot : Nat) (hslot : slot < ((fresh settings).after history).fleet.size) :
    let console := (fresh settings).after history
    let log := Logbook.ofActs settings.subSteps.toNat (acts history)
    console.animator.currentRun = log.flight.map Flight.id ∧
      ∃ origin moves, log.roster[slot]? = some origin ∧
        log.ticks.map (MadeTick.move? settings.subSteps.toNat slot) = moves.map some ∧
        console.fleet.simulatedAt.get? slot =
          some ((Rendered.ofRaw origin settings.yOffset).follow
            (Coordinate.portion settings.subSteps) moves) := by
  intro console log
  have hrecorded : Recorded settings console log := by
    have hall := performAll_recorded (fresh_recorded settings) (acts history)
    rw [← after_eq] at hall
    exact hall
  refine ⟨?_, ?_⟩
  · rw [Animator.currentRun, hrecorded.run, Option.map_map]
    rfl
  · have hroster : slot < log.roster.length := hrecorded.roster ▸ hslot
    obtain ⟨moves, hticks, hdrone⟩ :=
      hrecorded.simulated slot _ (List.getElem?_eq_getElem hroster)
    exact ⟨log.roster[slot], moves, List.getElem?_eq_getElem hroster, hticks, hdrone⟩

/-- Two drones fly two moves of two sub-steps; a roster comes after the third tick. -/
def rebasedFlight : List (Operation Float) :=
  [.lines [.ok { drones := some [⟨0, 0, 0⟩, ⟨3, 0, 0⟩] }],
    .startPlan [[⟨2, 0, 0⟩, ⟨0, 2, 0⟩], [⟨0, 0, 2⟩, ⟨0, 4, 0⟩]],
    .tick 1, .tick 1, .tick 1, .tick 7,
    .lines [.ok { drones := some [⟨10, 0, 0⟩, ⟨20, 0, 0⟩] }],
    .tick 1]

/-- One tick was made since that roster: half of the second move of the drone of slot one. -/
theorem simulated_after_rebasedFlight :
    let settings : ConsoleSettings Float := ⟨1000, 2, 0.5⟩
    let console := (fresh settings).after rebasedFlight
    let log := Logbook.ofActs settings.subSteps.toNat (acts rebasedFlight)
    1 < console.fleet.size ∧ console.animator.currentRun = log.flight.map Flight.id ∧
      log.roster[1]? = some ⟨20, 0, 0⟩ ∧
      log.ticks.map (MadeTick.move? settings.subSteps.toNat 1) = [some ⟨0, 4, 0⟩] ∧
      console.fleet.simulatedAt.get? 1 = some ⟨⟨20, 2.5, 0⟩⟩ := by
  intro settings console log
  have hslot : 1 < console.fleet.size := by decide
  obtain ⟨hrun, origin, moves, horigin, hmoves, hdrone⟩ :=
    simulated_after_fresh settings rebasedFlight 1 hslot
  have hroster : log.roster[1]? = some ⟨20, 0, 0⟩ := by decide +kernel
  have hmade : log.ticks.map (MadeTick.move? settings.subSteps.toNat 1) = [some ⟨0, 4, 0⟩] := by
    decide +kernel
  -- the roster and the ticks that the theorem speaks of are these
  obtain rfl := Option.some.inj (horigin.symm.trans hroster)
  obtain rfl : moves = [⟨0, 4, 0⟩] :=
    (List.map_inj_right fun _ _ => Option.some.inj).mp (hmoves.symm.trans hmade)
  refine ⟨hslot, hrun, hroster, hmade, ?_⟩
  rw [hdrone]
  decide +kernel

end FleetConsole
