import FleetConsole.Proofs.Coherence

/-!
# The last write

Initial positions are written by a roster alone, and live positions in three ways: by a roster, by
the report of a drone, and when the simulated positions become live.  What is written is read off the
events that are told, act by act (`writes`), with no regard to the tables of the fleet.

`live_is_last_write` says that nothing else counts.  Since the most recent roster the initial
positions are those of the roster, and the live position of every drone is the last one that was
written for it, or the one of the roster if none was.

The step is `Effect.get?_liveAt`.  It has two parts: a report writes to its own slot and no other, and
what becomes live at a slot is what is simulated at the same slot (`Effect.liveAt_of_reconciled`).
-/

namespace FleetConsole

open Console

variable {α : Type}

/-! ## What is written -/

/-- The position that is reported. -/
def Act.location? : Act α → Option (Position α)
  | .update _ location => some location
  | _ => none

section Writing

variable [Coordinate α]

/-- The live position that is written for the drone of a slot, as an event says that an act tells:
the one that is reported for this drone, or the one where it is simulated when that becomes live. -/
def Event.written? (slot : Nat) (act : Act α) (next : Console α) : Event α → Option (Position α)
  | .liveUpdated drone => if drone = slot then act.location? else none
  | .reconciled _ =>
      (next.fleet.simulatedAt.get? slot).map fun drone => drone.toRaw next.fleet.yOffset
  | _ => none

/-- All that is written for the drone of a slot while acts are done, in order. -/
def writes (slot : Nat) : List (Act α) → Console α → List (Position α)
  | [], _ => []
  | act :: rest, console =>
      (perform act console).2.filterMap (Event.written? slot act (perform act console).1)
        ++ writes slot rest (perform act console).1

end Writing

/-! ## The last of what is written -/

/-- What was the last thing written comes before what is written next. -/
theorem getLast?_cons_append {β : Type} {first middle : β} {earlier : List β}
    (h : (first :: earlier).getLast? = some middle) (later : List β) :
    (first :: (earlier ++ later)).getLast? = (middle :: later).getLast? := by
  rw [← List.cons_append, List.getLast?_append, h, List.getLast?_cons]
  cases later.getLast? <;> rfl

variable [Coordinate α] {settings : ConsoleSettings α} {console next : Console α} {act : Act α}
  {events : List (Event α)} {slot : Nat} {old : Position α}

omit [Coordinate α] in
theorem Coherent.slot_lt_of_live (h : Coherent settings console)
    (hold : console.fleet.liveAt.get? slot = some old) : slot < console.fleet.size := by
  rw [← h.aligned.getElem?_live] at hold
  have hlt := (List.getElem?_eq_some_iff.mp hold).1
  rwa [Fleet.live, Slots.length_values] at hlt

/-- Where an outcome becomes live, the position of a drone is the one that is written for it. -/
theorem Effect.get?_liveAt_of_reconciled (h : Coherent settings console)
    (heffect : Effect console act next events) (hslot : slot < next.fleet.size)
    {outcome : Reconciliation} (htold : .reconciled outcome ∈ events) :
    ∃ position, next.fleet.liveAt.get? slot = some position ∧
      [Event.reconciled outcome].filterMap (Event.written? slot act next) = [position] := by
  have hnext := heffect.coherent h
  obtain ⟨drone, hdrone⟩ := hnext.aligned.exists_simulated hslot
  have hwritten : Event.written? slot act next (.reconciled outcome) =
      some (drone.toRaw settings.yOffset) := by
    simp only [Event.written?, hdrone, hnext.yOffset, Option.map_some]
  refine ⟨drone.toRaw settings.yOffset, ?_, ?_⟩
  · rw [heffect.liveAt_of_reconciled h htold, Slots.get?_map, hdrone]
    rfl
  · rw [List.filterMap_cons_some hwritten, List.filterMap_nil]

/-- After an act the live position of a drone is the last one that the act writes for it, or the one
before if it writes none. -/
theorem Effect.get?_liveAt (h : Coherent settings console)
    (heffect : Effect console act next events) (hroster : ∀ drones, act ≠ .roster drones)
    (hold : console.fleet.liveAt.get? slot = some old) :
    next.fleet.liveAt.get? slot =
      (old :: events.filterMap (Event.written? slot act next)).getLast? := by
  have hslot : slot < next.fleet.size := by
    rw [heffect.size_eq hroster]
    exact h.slot_lt_of_live hold
  have hreconciled := fun (outcome : Reconciliation) (htold : .reconciled outcome ∈ events) =>
    heffect.get?_liveAt_of_reconciled h hslot htold
  cases heffect with
  | rosterKeepsRun roster | rosterEndsRun roster => exact absurd rfl (hroster roster)
  | updated index location reported =>
      show (console.fleet.liveAt.set reported location).get? slot = _
      rw [Slots.get?_set, hold, Option.map_some]
      by_cases hsame : slot = reported
      · subst hsame
        simp [Event.written?, Act.location?]
      · simp [Event.written?, hsame, Ne.symm hsame]
  | planReconciled | readyReconciled | tickReconciled | operatorCommitted | committed =>
      -- the reconciliation comes last, and what is told before it writes nothing
      obtain ⟨position, hlive, hwritten⟩ := hreconciled _ (List.mem_of_getLast? rfl)
      calc _ = some position := hlive
        _ = (old :: [position]).getLast? := rfl
        _ = _ := congrArg (fun written => (old :: written).getLast?) hwritten.symm
  | planRefused paths told => cases told <;> exact hold
  | _ => exact hold

/-! ## Since a roster -/

/-- No act is a roster. -/
def NoRoster (acts : List (Act α)) : Prop := ∀ drones, .roster drones ∉ acts

omit [Coordinate α] in
theorem NoRoster.of_cons {rest : List (Act α)} (h : NoRoster (act :: rest)) :
    (∀ drones, act ≠ .roster drones) ∧ NoRoster rest := by
  constructor
  · intro drones hact
    exact h drones (by simp [hact])
  · intro drones hmem
    exact h drones (List.mem_cons_of_mem _ hmem)

theorem Console.performAll_of_noRoster {acts : List (Act α)} (hroster : NoRoster acts)
    (console : Console α) :
    (performAll acts console).1.fleet.initialAt = console.fleet.initialAt ∧
      (performAll acts console).1.fleet.size = console.fleet.size := by
  induction acts generalizing console with
  | nil => exact ⟨rfl, rfl⟩
  | cons act rest ih =>
      obtain ⟨hact, hrest⟩ := hroster.of_cons
      have heffect := perform_effect act console
      obtain ⟨hinitial, hsize⟩ := ih hrest (perform act console).1
      exact ⟨hinitial.trans (heffect.initialAt_eq hact), hsize.trans (heffect.size_eq hact)⟩

theorem Console.get?_liveAt_performAll (h : Coherent settings console) {acts : List (Act α)}
    (hroster : NoRoster acts) (hold : console.fleet.liveAt.get? slot = some old) :
    (performAll acts console).1.fleet.liveAt.get? slot =
      (old :: writes slot acts console).getLast? := by
  induction acts generalizing console old with
  | nil => exact hold
  | cons act rest ih =>
      obtain ⟨hact, hrest⟩ := hroster.of_cons
      have heffect := perform_effect act console
      have hnow := heffect.get?_liveAt h hact hold
      rw [List.getLast?_cons] at hnow
      calc (performAll (act :: rest) console).1.fleet.liveAt.get? slot
          = (_ :: writes slot rest (perform act console).1).getLast? :=
            ih (heffect.coherent h) hrest hnow
        _ = (old :: writes slot (act :: rest) console).getLast? :=
            (getLast?_cons_append List.getLast?_cons _).symm

/-! ## Before a roster -/

omit [Coordinate α] in
/-- A fleet without drones has nothing in its tables. -/
theorem Fleet.Aligned.eq_empty {fleet : Fleet α} (h : fleet.Aligned) (hsize : fleet.size = 0) :
    fleet = .empty fleet.yOffset := by
  have hempty {β : Type} {table : Slots β} (hnumbers : table.numbers = List.range fleet.size) :
      table = .empty := by
    obtain ⟨entries, ascending⟩ := table
    rw [hsize] at hnumbers
    obtain rfl : entries = [] := List.map_eq_nil_iff.mp hnumbers
    rfl
  calc fleet
      = ⟨fleet.yOffset, fleet.liveAt, fleet.simulatedAt, fleet.initialAt⟩ := rfl
    _ = .empty fleet.yOffset := by
        rw [hempty h.live, hempty h.simulated, hempty h.initial]
        rfl

/-! ## Live and initial positions -/

omit [Coordinate α] in
/-- A command home is built from the initial positions, if commands are possible. -/
theorem Console.goHome_eq_ok_iff {targets : List (Position α)} :
    console.goHome = .ok (next, targets) ↔
      console.locked = false ∧ console.fleet.size ≠ 0 ∧
        next = { console with locked := true } ∧ targets = console.fleet.initial := by
  rcases ready_cases console with ⟨hready, hopen, hfleet⟩ | ⟨refusal, hready, hwhy⟩
  · have hok : console.goHome = .ok ({ console with locked := true }, console.fleet.initial) := by
      rw [goHome, hready]
      rfl
    rw [hok, Except.ok.injEq, Prod.mk.injEq]
    constructor
    · rintro ⟨rfl, rfl⟩
      exact ⟨hopen, hfleet, rfl, rfl⟩
    · rintro ⟨-, -, rfl, rfl⟩
      exact ⟨rfl, rfl⟩
  · have herror : console.goHome = .error refusal := by
      rw [goHome, hready]
      rfl
    rw [herror]
    constructor
    · intro hok
      cases hok
    · rintro ⟨hopen, hfleet, -, -⟩
      rcases hwhy with hlocked | hempty
      · rw [hopen] at hlocked
        cases hlocked
      · exact absurd hempty hfleet

theorem Console.fleet_performAll_roster (before : List (Act α)) (roster : List (Position α))
    (console : Console α) :
    (performAll (before ++ [.roster roster]) console).1.fleet =
      (performAll before console).1.fleet.replaceRoster roster := by
  rw [performAll_append, performAll_singleton]
  exact (perform_roster_effect roster _).fleet_of_roster

/-- **The last write.**  Before the first roster nobody is there.  After that, with the most recent
roster among what has been done and `since` all that was done after it, the fleet is as large as this
roster, and its initial positions are the roster, where a command sends everybody home.  Every drone
has as its live position the last one that was written for it since, by its own report or as it became
live where it was simulated, or the one of the roster if none was. -/
theorem live_is_last_write (settings : ConsoleSettings α) (history : List (Operation α)) :
    let console := (fresh settings).after history
    (NoRoster (acts history) → console.fleet = .empty settings.yOffset) ∧
      ∀ before roster since, acts history = before ++ .roster roster :: since → NoRoster since →
        let handled := (performAll (before ++ [.roster roster]) (fresh settings)).1
        console.fleet.size = roster.length ∧
          console.fleet.initial = roster ∧
          (∀ next targets, console.goHome = .ok (next, targets) ↔
            console.locked = false ∧ roster ≠ [] ∧
              next = { console with locked := true } ∧ targets = roster) ∧
          console.fleet.live.length = roster.length ∧
          ∀ slot origin, roster[slot]? = some origin →
            console.fleet.live[slot]? = (origin :: writes slot since handled).getLast? := by
  intro console
  have hcoherent : Coherent settings console := by
    have hall := performAll_coherent (fresh_coherent settings) (acts history)
    rwa [← after_eq] at hall
  constructor
  · intro hroster
    have hsize : console.fleet.size = 0 := by
      show ((fresh settings).after history).fleet.size = 0
      rw [after_eq, (performAll_of_noRoster hroster _).2]
      rfl
    rw [hcoherent.aligned.eq_empty hsize, hcoherent.yOffset]
  · intro before roster since hacts hroster handled
    have hconsole : console = (performAll since handled).1 := by
      show (fresh settings).after history = _
      rw [after_eq, hacts, List.append_cons, performAll_append]
    have hhandled : handled.fleet =
        (performAll before (fresh settings)).1.fleet.replaceRoster roster :=
      fleet_performAll_roster before roster (fresh settings)
    obtain ⟨hinitialAt, hsizes⟩ := performAll_of_noRoster hroster handled
    have hsize : console.fleet.size = roster.length := by
      rw [hconsole, hsizes, hhandled, Fleet.size_replaceRoster]
    have hinitial : console.fleet.initial = roster := by
      rw [hconsole, Fleet.initial, hinitialAt, hhandled]
      exact Slots.values_ofList roster
    refine ⟨hsize, hinitial, ?_, ?_, ?_⟩
    · intro next targets
      rw [goHome_eq_ok_iff, hinitial, hsize, ne_eq, List.length_eq_zero_iff]
    · rw [Fleet.live, Slots.length_values]
      exact hsize
    · intro slot origin horigin
      have hstart : handled.fleet.liveAt.get? slot = some origin := by
        rw [hhandled, ← horigin]
        exact Slots.get?_ofList slot roster
      have hcoherentHandled : Coherent settings handled :=
        performAll_coherent (fresh_coherent settings) _
      rw [hcoherent.aligned.getElem?_live, hconsole]
      exact get?_liveAt_performAll hcoherentHandled hroster hstart

/-- Two drones have flown one move each, the first one between whole units, when the second one
reports that it is elsewhere. -/
def strayingFlight : List (Operation Float) :=
  [.lines [.ok { drones := some [⟨0, 0, 0⟩, ⟨3, 0, 0⟩] }],
    .startPlan [[⟨0.5, 2.25, -2.75⟩], [⟨0, 4, 0⟩]], .tick 1,
    .lines [.ok { droneId := some (.integer 1), location := some ⟨5, 0, 0⟩ }]]

theorem live_is_last_write_strayingFlight :
    let settings : ConsoleSettings Float := ⟨1000, 1, 0.5⟩
    let console := (fresh settings).after strayingFlight
    let since : List (Act Float) := [.plan [[⟨0.5, 2.25, -2.75⟩], [⟨0, 4, 0⟩]] false, .tick 1,
      .update (.integer 1) ⟨5, 0, 0⟩]
    acts strayingFlight = [] ++ .roster [⟨0, 0, 0⟩, ⟨3, 0, 0⟩] :: since ∧ NoRoster since ∧
      console.fleet.initial = [⟨0, 0, 0⟩, ⟨3, 0, 0⟩] ∧
      console.fleet.live[0]? = some ⟨1, 2, -3⟩ ∧ console.fleet.live[1]? = some ⟨5, 0, 0⟩ := by
  intro settings console since
  have hacts : acts strayingFlight = [] ++ .roster [⟨0, 0, 0⟩, ⟨3, 0, 0⟩] :: since := rfl
  have hroster : NoRoster since := by
    intro drones hmem
    simp [since] at hmem
  obtain ⟨-, hinitial, -, -, hlive⟩ :=
    (live_is_last_write settings strayingFlight).2 [] _ since hacts hroster
  refine ⟨hacts, hroster, hinitial, ?_, ?_⟩
  · rw [hlive 0 ⟨0, 0, 0⟩ rfl]
    decide +kernel
  · rw [hlive 1 ⟨3, 0, 0⟩ rfl]
    decide +kernel

end FleetConsole
