import FleetConsole.Console.Attempt
import FleetConsole.Proofs.Effect

/-!
# A rejection changes nothing

Whatever is refused might as well not have been asked for.  An operation that is refused leaves the
console as it was; a message does the same without the fields of it that are rejected; and a text of
the feed does the same without the lines of it that cannot be read.  `rejection_changes_nothing`
says all three.

* **Operations** are made in place (`Console/Attempt.lean`), so that one could be refused half way.
* **Messages** and **texts** are compared with what is kept of them.  `without` takes events out of
  a result, and the equations here have the form `handle kept = without rejections (handle all)`:
  the console is the same, and so are all other events.  `inTurn_without` puts them together, one
  handler at a time.
-/

namespace FleetConsole

open Console

variable {α : Type}

/-! ## Events of rejections -/

namespace Event

def isRejection : Event α → Bool
  | .rejected _ => true
  | _ => false

/-- A line could not be read. -/
def isMalformed : Event α → Bool
  | .rejected (.malformedMessage _) => true
  | _ => false

end Event

/-- A result without some of its events. -/
def without (dropped : Event α → Bool) (result : Console α × List (Event α)) :
    Console α × List (Event α) :=
  (result.1, result.2.filter fun event => !dropped event)

namespace Console

/-- Whether a handler rejects something. -/
def rejects (handler : Handler α) (console : Console α) : Bool :=
  (handler console).2.any Event.isRejection

theorem without_eq_self {dropped : Event α → Bool} {result : Console α × List (Event α)}
    (h : result.2.any dropped = false) : without dropped result = result := by
  obtain ⟨console, events⟩ := result
  have hkept : (events.filter fun event => !dropped event) = events := by
    rw [List.filter_eq_self]
    intro event hevent
    rw [List.any_eq_false] at h
    simpa using h event hevent
  rw [without, hkept]

/-- Handlers that do the same but for some events do so one after the other too. -/
theorem inTurn_without {dropped : Event α → Bool} {first kept : Handler α}
    {rest others : List (Handler α)} {console : Console α}
    (hfirst : kept console = without dropped (first console))
    (hrest : inTurn others (first console).1 =
      without dropped (inTurn rest (first console).1)) :
    inTurn (kept :: others) console = without dropped (inTurn (first :: rest) console) := by
  have hconsole : (kept console).1 = (first console).1 := by rw [hfirst, without]
  simp only [inTurn, hconsole, hrest]
  simp only [without, List.filter_append, hfirst]

end Console

/-! ## Fields of a message -/

section Messages

variable [Coordinate α] {console next : Console α} {act : Act α} {events : List (Event α)}

/-- Acts that can be rejected. -/
def Act.canFail : Act α → Bool
  | .update .. | .plan .. | .unreadable _ => true
  | _ => false

/-- Whoever rejects something does nothing else. -/
theorem Effect.rejection (h : Effect console act next events)
    (hrejects : events.any Event.isRejection = true) :
    act.canFail = true ∧ next = console ∧ ∃ refusal, events = [.rejected refusal] := by
  cases h with
  | updateRefused | unreadable => exact ⟨rfl, rfl, _, rfl⟩
  | planRefused paths told fault =>
      cases told with
      | true => exact ⟨rfl, rfl, _, rfl⟩
      | false => simp at hrejects
  | rosterEndsRun roster hsize =>
      cases hrun : console.animator.currentRun <;> simp [hrun, Event.isRejection] at hrejects
  | _ => simp [Event.isRejection] at hrejects

namespace Console

/-- An act that is rejected leaves out nothing but its rejection. -/
theorem perform_without (act : Act α) (console : Console α) :
    (if rejects (perform act) console then (console, []) else perform act console) =
      without Event.isRejection (perform act console) := by
  by_cases hrejects : rejects (perform act) console = true
  · obtain ⟨-, hnext, refusal, hevents⟩ := (perform_effect act console).rejection hrejects
    rw [if_pos hrejects, without, hnext, hevents]
    rfl
  · rw [if_neg hrejects]
    exact (without_eq_self (Bool.eq_false_iff.mpr hrejects)).symm

/-- An act that cannot be rejected tells no rejection. -/
theorem perform_eq_without {act : Act α} (hact : act.canFail = false) (console : Console α) :
    perform act console = without Event.isRejection (perform act console) := by
  have hquiet : rejects (perform act) console = false := by
    rw [Bool.eq_false_iff]
    intro hrejects
    have hfails := ((perform_effect act console).rejection hrejects).1
    rw [hact] at hfails
    cases hfails
  exact (without_eq_self hquiet).symm

end Console

/-! ### The fields -/

/-- The console that the report of a drone finds. -/
def Message.atUpdate (message : Message α) (console : Console α) : Console α :=
  (takeRoster message.drones (takeIdentifier message.identifier console).1).1

/-- The console that the plan finds. -/
def Message.atPlan (message : Message α) (console : Console α) : Console α :=
  (takeUpdate message.droneId message.location (message.atUpdate console)).1

/-- A message without the report and the plan, each as far as it is rejected. -/
def Message.withoutRejected (message : Message α) (console : Console α) : Message α :=
  let updateFails :=
    rejects (takeUpdate message.droneId message.location) (message.atUpdate console)
  let planFails := rejects (takePlan message.paths) (message.atPlan console)
  { message with
    droneId := if updateFails then none else message.droneId
    location := if updateFails then none else message.location
    paths := if planFails then none else message.paths }

namespace Console

theorem takeIdentifier_without (identifier : Option String) (console : Console α) :
    takeIdentifier identifier console =
      without Event.isRejection (takeIdentifier identifier console) := by
  cases identifier with
  | none => rfl
  | some name =>
      have hact : Act.canFail (.identifier name : Act α) = false := rfl
      exact perform_eq_without hact console

theorem takeRoster_without (drones : Option (List (Position α))) (console : Console α) :
    takeRoster drones console = without Event.isRejection (takeRoster drones console) := by
  cases drones with
  | none => rfl
  | some roster =>
      have hact : Act.canFail (.roster roster) = false := rfl
      exact perform_eq_without hact console

theorem takeReady_without (ready : Option Bool) (console : Console α) :
    takeReady ready console = without Event.isRejection (takeReady ready console) := by
  rcases ready with _ | _ | _
  · rfl
  · rfl
  · have hact : Act.canFail (.ready : Act α) = false := rfl
    exact perform_eq_without hact console

theorem takeUpdate_without (droneId : Option Json.Number) (location : Option (Position α))
    (console : Console α) :
    let fails := rejects (takeUpdate droneId location) console
    takeUpdate (if fails then none else droneId) (if fails then none else location) console =
      without Event.isRejection (takeUpdate droneId location console) := by
  intro fails
  cases droneId with
  | none => simp only [ite_self]; rfl
  | some index =>
      cases location with
      | none => simp only [ite_self]; cases fails <;> rfl
      | some location =>
          have hupdate := perform_without (.update index location) console
          show _ = without Event.isRejection (perform (.update index location) console)
          rw [← hupdate]
          show _ = if fails then (console, []) else takeUpdate (some index) (some location) console
          cases fails <;> rfl

theorem takePlan_without (paths : Option (List (List (Position α)))) (console : Console α) :
    takePlan (if rejects (takePlan paths) console then none else paths) console =
      without Event.isRejection (takePlan paths console) := by
  cases paths with
  | none => simp only [ite_self]; rfl
  | some paths =>
      have hplan := perform_without (.plan paths true) console
      show takePlan (if rejects (perform (.plan paths true)) console then none else some paths)
          console = without Event.isRejection (perform (.plan paths true) console)
      rw [← hplan]
      cases rejects (perform (.plan paths true)) console <;> rfl

/-- A message does the same without the fields that are rejected. -/
theorem handle_withoutRejected (message : Message α) (console : Console α) :
    handle (message.withoutRejected console) console =
      without Event.isRejection (handle message console) := by
  apply inTurn_without (takeIdentifier_without message.identifier console)
  apply inTurn_without (takeRoster_without message.drones _)
  apply inTurn_without (takeUpdate_without message.droneId message.location _)
  apply inTurn_without (takePlan_without message.paths _)
  apply inTurn_without (takeReady_without message.ready _)
  rfl

end Console

end Messages

/-! ## Lines of a text -/

namespace Feed

/-- What keeps a line of a text from being read; a blank line is not read at all. -/
def problem? (line : List Char) : Option Json.Problem :=
  if (Text.trim line).isEmpty then none
  else
    match readLine (Text.trim line) with
    | .ok _ => none
    | .error problem => some problem

/-- A text without the lines of it that cannot be read. -/
def withoutMalformed (text : List Char) : List Char :=
  Text.joined ((Text.lines text).filter fun line => (problem? line).isNone)

/-- What is wrong with a line that has been read. -/
def fault? : Except Json.Problem (Message Float) → Option Json.Problem
  | .ok _ => none
  | .error problem => some problem

theorem problem?_of_blank {line : List Char} (hblank : (Text.trim line).isEmpty = true) :
    problem? line = none := by
  rw [problem?, if_pos hblank]

theorem problem?_of_filled {line : List Char} (hfilled : (Text.trim line).isEmpty = false) :
    problem? line = fault? (readLine (Text.trim line)) := by
  rw [problem?, hfilled]
  cases readLine (Text.trim line) <;> rfl

/-- The messages of the lines that are kept are the ones that could be read. -/
theorem readLines_withoutMalformed (text : List Char) :
    readLines (withoutMalformed text) =
      (readLines text).filter fun line => (fault? line).isNone := by
  rw [readLines, withoutMalformed, Text.filledLines_joined_filter, readLines, Text.filledLines]
  generalize Text.lines text = pieces
  induction pieces with
  | nil => rfl
  | cons line rest ih =>
      cases hblank : (Text.trim line).isEmpty with
      | true => simp [problem?_of_blank hblank, hblank, ih]
      | false =>
          cases hfault : fault? (readLine (Text.trim line)) with
          | none => simp [problem?_of_filled hblank, hblank, hfault, ih]
          | some problem => simp [problem?_of_filled hblank, hblank, hfault, ih]

/-- The faults of what is read are those of the lines. -/
theorem filterMap_fault?_readLines (text : List Char) :
    (readLines text).filterMap fault? = (Text.lines text).filterMap problem? := by
  simp only [readLines, Text.filledLines]
  generalize Text.lines text = pieces
  induction pieces with
  | nil => rfl
  | cons line rest ih =>
      cases hblank : (Text.trim line).isEmpty with
      | true => simp [problem?_of_blank hblank, hblank, ih]
      | false => simp [List.filterMap_cons, problem?_of_filled hblank, hblank, ih]

end Feed

/-! ### Malformed lines -/

section Lines

variable [Coordinate α] {console next : Console α} {act : Act α} {events : List (Event α)}

omit [Coordinate α] in
theorem unreadable_not_mem_acts (message : Message α) (problem : Json.Problem) :
    .unreadable problem ∉ message.acts := by
  obtain ⟨identifier, drones, paths, droneId, location, ready⟩ := message
  cases droneId <;> cases location <;> simp [Message.acts]

/-- Only a line that cannot be read is told to be one. -/
theorem Effect.exists_unreadable (h : Effect console act next events)
    (hmalformed : events.any Event.isMalformed = true) : ∃ problem, act = .unreadable problem := by
  cases h with
  | unreadable problem => exact ⟨problem, rfl⟩
  | planRefused paths told => cases told <;> simp [Event.isMalformed] at hmalformed
  | rosterEndsRun roster hsize =>
      cases hrun : console.animator.currentRun <;> simp [hrun, Event.isMalformed] at hmalformed
  | _ => simp [Event.isMalformed] at hmalformed

namespace Console

/-- A line that can be read tells of no malformed one. -/
theorem any_isMalformed_handle (message : Message α) (console : Console α) :
    (handle message console).2.any Event.isMalformed = false := by
  rw [Bool.eq_false_iff]
  intro hmalformed
  obtain ⟨event, hevent, hevent'⟩ := List.any_eq_true.mp hmalformed
  obtain ⟨before, after, hsplit⟩ := List.append_of_mem hevent
  rw [handle_eq] at hsplit
  obtain ⟨done, act, ⟨rest, hacts⟩, earlier, later, more, htold, -, -⟩ := exists_tells hsplit
  have hany : (perform act (performAll done console).1).2.any Event.isMalformed = true := by
    rw [htold]
    simp [hevent']
  obtain ⟨problem, rfl⟩ := (perform_effect act _).exists_unreadable hany
  apply unreadable_not_mem_acts message problem
  simp [hacts]

end Console

end Lines

namespace Console

open Feed

/-- Without the lines that cannot be read, everything is the same but for their rejections. -/
theorem handleLines_filter (batch : List (Except Json.Problem (Message Float)))
    (console : Console Float) :
    handleLines (batch.filter fun line => (fault? line).isNone) console =
      without Event.isMalformed (handleLines batch console) := by
  induction batch generalizing console with
  | nil => rfl
  | cons line rest ih =>
      cases line with
      | ok message =>
          have hmessage : handle message console =
              without Event.isMalformed (handle message console) :=
            (without_eq_self (any_isMalformed_handle message console)).symm
          exact inTurn_without hmessage (ih (handle message console).1)
      | error problem => exact ih console

/-- Every line that cannot be read is rejected once, in its place. -/
theorem filter_isMalformed_handleLines (batch : List (Except Json.Problem (Message Float)))
    (console : Console Float) :
    (handleLines batch console).2.filter Event.isMalformed =
      (batch.filterMap fault?).map fun problem =>
        .rejected (.malformedMessage problem.message) := by
  induction batch generalizing console with
  | nil => rfl
  | cons line rest ih =>
      have hsplit : (handleLines (line :: rest) console).2 =
          (handleLine line console).2 ++ (handleLines rest (handleLine line console).1).2 := rfl
      rw [hsplit, List.filter_append, ih]
      cases line with
      | ok message =>
          have hnone : (handle message console).2.filter Event.isMalformed = [] := by
            rw [List.filter_eq_nil_iff]
            exact fun event hevent => by
              simpa using List.any_eq_false.mp (any_isMalformed_handle message console) event hevent
          show (handle message console).2.filter Event.isMalformed ++ _ = _
          rw [hnone]
          rfl
      | error problem => rfl

end Console

/-- **A rejection changes nothing.**  An operation, made in place, comes to the console that it has
begun with if it is refused.  A message, with its report and its plan made in place, has the effect
of the message without those of the two that are rejected, and tells the same but for the
rejections.  A text of the feed has the effect of the text without the lines that cannot be read,
each of which is rejected once, in its place, and with its own fault. -/
theorem rejection_changes_nothing (console : Console Float) :
    (∀ operation : Operation Float,
      console.step operation = Attempt.conclude id (operation.attempt.run console) ∧
        ∀ refusal next, operation.attempt.run console = .error refusal next → next = console) ∧
    (∀ message : Message Float,
      handle message = handleInPlace message ∧
        handle (message.withoutRejected console) console =
          without Event.isRejection (handle message console)) ∧
    ∀ text : String,
      handleText (String.ofList (Feed.withoutMalformed text.toList)) console =
          without Event.isMalformed (handleText text console) ∧
        (handleText text console).2.filter Event.isMalformed =
          ((Text.lines text.toList).filterMap Feed.problem?).map fun problem =>
            .rejected (.malformedMessage problem.message) := by
  refine ⟨fun operation => ⟨step_eq_attempt console operation, ?_⟩,
    fun message => ⟨handle_eq_inPlace message, handle_withoutRejected message console⟩,
    fun text => ⟨?_, ?_⟩⟩
  · intro refusal next hrefused
    exact operation.attempt_spares console refusal next hrefused
  · rw [handleText, String.toList_ofList, Feed.readLines_withoutMalformed]
    exact handleLines_filter (Feed.readLines text.toList) console
  · rw [← Feed.filterMap_fault?_readLines]
    exact filter_isMalformed_handleLines (Feed.readLines text.toList) console

/-- A drone is half way through its only move, and a command is out. -/
def halfWay : Console Float :=
  (fresh ⟨1000000000, 2, 0.5⟩).after
    [.lines [.ok { drones := some [⟨0, 0, 0⟩] }], .goHome, .startPlan [[⟨2, 0, 0⟩]], .tick 1]

/-- What names a drone and a plan of another fleet. -/
def misled : Message Float :=
  { identifier := some "gs", droneId := some (.integer 7), location := some ⟨1, 1, 1⟩,
    paths := some [[], []] }

theorem rejection_changes_nothing_halfWay :
    halfWay.animator.subStep = 1 ∧
      (∃ refusal, (Operation.attempt (.startPlan [[], []])).run halfWay = .error refusal halfWay) ∧
      (∃ refusal, (Operation.attempt .goHome).run halfWay = .error refusal halfWay) ∧
      handle { identifier := some "gs" } halfWay =
        without Event.isRejection (handle misled halfWay) := by
  obtain ⟨hoperations, hmessages, -⟩ := rejection_changes_nothing halfWay
  have hplan : ∃ refusal next,
      (Operation.attempt (.startPlan [[], []])).run halfWay = .error refusal next := ⟨_, _, rfl⟩
  have hcommand : ∃ refusal next,
      (Operation.attempt .goHome).run halfWay = .error refusal next := ⟨_, _, rfl⟩
  obtain ⟨refusal, next, hrefused⟩ := hplan
  obtain ⟨other, reached, hlocked⟩ := hcommand
  have hnext : next = halfWay := (hoperations _).2 refusal next hrefused
  have hreached : reached = halfWay := (hoperations _).2 other reached hlocked
  have hkept : misled.withoutRejected halfWay = { identifier := some "gs" } := rfl
  refine ⟨rfl, ⟨refusal, hnext ▸ hrefused⟩, ⟨other, hreached ▸ hlocked⟩, ?_⟩
  rw [← hkept]
  exact (hmessages misled).2

end FleetConsole
