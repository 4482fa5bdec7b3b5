import FleetConsole.Console.Operation

/-!
# Histories as lists of acts

An operation can bring many things at once: a text has many lines, and every line many fields.  An
`Act` is one of them.  `after_eq` says that a history of operations is the list of its acts, done
one after the other, so that an induction over a history has one case for every kind of act and
none for texts, lines or messages.

`Effect` is the other half: all that one act can do to a console, with the condition under which it
does that.  `perform_effect` says that an act does nothing else.  What is preserved along a history
is read off the effects; nothing below unfolds a handler again.
-/

namespace FleetConsole

/-- One thing that happens to a console. -/
inductive Act (α : Type)
  | identifier (identifier : String)
  | roster (roster : List (Position α))
  | update (index : Json.Number) (location : Position α)
  /-- a plan, and whether a refusal of it is told as an event -/
  | plan (paths : List (List (Position α))) (told : Bool)
  | ready
  | unreadable (problem : Json.Problem)
  | tick (run : Nat)
  /-- a command of either kind; they differ only in the targets -/
  | command
  | operatorCommit
  | commit

variable {α : Type}

/-! ## The acts of an operation -/

/-- The fields of a message that are given, in the order in which they are handled. -/
def Message.acts (message : Message α) : List (Act α) :=
  (message.identifier.map Act.identifier).toList
    ++ ((message.drones.map Act.roster).toList
    ++ ((match message.droneId, message.location with
        | some index, some location => [Act.update index location]
        | _, _ => [])
    ++ ((message.paths.map fun paths => Act.plan paths true).toList
    ++ (if message.ready = some true then [Act.ready] else []))))

def lineActs : Except Json.Problem (Message α) → List (Act α)
  | .ok message => message.acts
  | .error problem => [.unreadable problem]

def Operation.acts : Operation α → List (Act α)
  | .lines batch => batch.flatMap lineActs
  | .startPlan paths => [.plan paths false]
  | .tick run => [.tick run]
  | .move _ => [.command]
  | .goHome => [.command]
  | .operatorCommit => [.operatorCommit]
  | .commit => [.commit]

/-- The events that come of an operation. -/
def Outcome.told : Outcome α → List (Event α)
  | .events happened => happened
  | .targets _ => []
  | .refused _ => []

/-- The acts of a history. -/
def acts (history : List (Operation α)) : List (Act α) := history.flatMap Operation.acts

/-! ## Doing acts -/

namespace Console

variable [Coordinate α]

/-- An attempt whose refusal is told by nothing. -/
def orNothing (attempt : Console α → Except Refusal (Console α × List (Event α))) : Handler α :=
  fun console =>
    match attempt console with
    | .ok result => result
    | .error _ => (console, [])

def perform : Act α → Handler α
  | .identifier identifier => takeIdentifier (some identifier)
  | .roster roster => takeRoster (some roster)
  | .update index location => takeUpdate (some index) (some location)
  | .plan paths true => orReject (startPlan paths)
  | .plan paths false => orNothing (startPlan paths)
  | .ready => takeReady (some true)
  | .unreadable problem => handleLine (.error problem)
  | .tick run => tick run
  | .command => orNothing fun console => do
      console.ready
      .ok ({ console with locked := true }, [])
  | .operatorCommit => orNothing fun console => do
      let (console, outcome) ← console.operatorCommit
      .ok (console, [.reconciled outcome])
  | .commit => commit

/-- Acts one after the other. -/
def performAll (acts : List (Act α)) : Handler α := inTurn (acts.map perform)

@[simp] theorem performAll_nil (console : Console α) : performAll [] console = (console, []) := rfl

theorem performAll_cons (act : Act α) (rest : List (Act α)) (console : Console α) :
    performAll (act :: rest) console =
      ((performAll rest (perform act console).1).1,
        (perform act console).2 ++ (performAll rest (perform act console).1).2) :=
  rfl

theorem performAll_append (first second : List (Act α)) (console : Console α) :
    performAll (first ++ second) console =
      ((performAll second (performAll first console).1).1,
        (performAll first console).2 ++ (performAll second (performAll first console).1).2) := by
  simp [performAll, inTurn_append]

theorem performAll_singleton (act : Act α) (console : Console α) :
    performAll [act] console = perform act console := by
  simp [performAll_cons]

/-! ### The act that tells an event -/

/-- An event is told between others, and this is the act that tells it: `done` is done before, and
the act finds the console as it is then. -/
structure Tells (console : Console α) (acts done : List (Act α)) (act : Act α)
    (before : List (Event α)) (event : Event α) (after : List (Event α)) : Prop where
  acts : ∃ rest, acts = done ++ act :: rest
  events : ∃ earlier later more,
    (perform act (performAll done console).1).2 = earlier ++ event :: later ∧
      before = (performAll done console).2 ++ earlier ∧ after = later ++ more

/-- What another act has told before comes before. -/
theorem Tells.cons {first act : Act α} {rest done : List (Act α)} {console : Console α}
    {before after : List (Event α)} {event : Event α}
    (h : Tells (perform first console).1 rest done act before event after) :
    Tells console (first :: rest) (first :: done) act ((perform first console).2 ++ before) event
      after := by
  obtain ⟨⟨others, hacts⟩, earlier, later, more, htold, hbefore, hafter⟩ := h
  refine ⟨⟨others, by rw [hacts, List.cons_append]⟩, earlier, later, more, htold, ?_, hafter⟩
  rw [hbefore, performAll_cons, List.append_assoc]

/-- Every event is told by some act. -/
theorem exists_tells {acts : List (Act α)} {console : Console α} {before after : List (Event α)}
    {event : Event α} (h : (performAll acts console).2 = before ++ event :: after) :
    ∃ done act, Tells console acts done act before event after := by
  induction acts generalizing console before with
  | nil => simp at h
  | cons first rest ih =>
      rw [performAll_cons] at h
      rcases List.append_eq_append_iff.mp h with ⟨left, hbefore, hlater⟩ | ⟨left, hfirst, hafter⟩
      · -- the first act has told its events before
        obtain ⟨done, act, htells⟩ := ih hlater
        rw [hbefore]
        exact ⟨first :: done, act, htells.cons⟩
      · cases left with
        | nil =>
            -- the event is the first one that the others tell
            have hothers : (performAll rest (perform first console).1).2 = [] ++ event :: after :=
              hafter.symm
            obtain ⟨done, act, htells⟩ := ih hothers
            have hall := htells.cons
            rw [List.append_nil] at hfirst hall
            rw [hfirst] at hall
            exact ⟨first :: done, act, hall⟩
        | cons told left =>
            rw [List.cons_append, List.cons.injEq] at hafter
            obtain ⟨rfl, hlater⟩ := hafter
            exact ⟨[], first, ⟨rest, rfl⟩, before, left, _, hfirst, rfl, hlater⟩

/-! ### Handling is doing the acts -/

private theorem inTurn_takeIdentifier (identifier : Option String) :
    inTurn [takeIdentifier identifier] =
      performAll (α := α) (identifier.map Act.identifier).toList := by
  cases identifier <;> rfl

private theorem inTurn_takeRoster (drones : Option (List (Position α))) :
    inTurn [takeRoster drones] = performAll (drones.map Act.roster).toList := by
  cases drones <;> rfl

private theorem inTurn_takeUpdate (droneId : Option Json.Number) (location : Option (Position α)) :
    inTurn [takeUpdate droneId location] =
      performAll (match droneId, location with
        | some index, some location => [Act.update index location]
        | _, _ => []) := by
  cases droneId <;> cases location <;> rfl

private theorem inTurn_takePlan (paths : Option (List (List (Position α)))) :
    inTurn [takePlan paths] =
      performAll (paths.map fun paths => Act.plan paths true).toList := by
  cases paths <;> rfl

private theorem inTurn_takeReady (ready : Option Bool) :
    inTurn [takeReady ready] =
      performAll (α := α) (if ready = some true then [Act.ready] else []) := by
  rcases ready with _ | _ | _ <;> rfl

theorem handle_eq (message : Message α) : handle message = performAll message.acts := by
  funext console
  have hsplit : handle message =
      inTurn ([takeIdentifier message.identifier] ++ ([takeRoster message.drones]
        ++ ([takeUpdate message.droneId message.location] ++ ([takePlan message.paths]
        ++ [takeReady message.ready])))) := rfl
  rw [hsplit]
  simp only [inTurn_append, inTurn_takeIdentifier, inTurn_takeRoster, inTurn_takeUpdate,
    inTurn_takePlan, inTurn_takeReady, Message.acts, performAll_append]

theorem handleLine_eq (line : Except Json.Problem (Message α)) :
    handleLine line = performAll (lineActs line) := by
  cases line with
  | ok message => exact handle_eq message
  | error problem => rfl

theorem handleLines_eq (lines : List (Except Json.Problem (Message α))) :
    handleLines lines = performAll (lines.flatMap lineActs) := by
  funext console
  induction lines generalizing console with
  | nil => rfl
  | cons line lines ih =>
      simp only [handleLines, List.map_cons, inTurn] at ih ⊢
      simp only [List.flatMap_cons, performAll_append, handleLine_eq, ih]

/-- An operation does its acts, and tells the events of them. -/
theorem performAll_operation (operation : Operation α) (console : Console α) :
    performAll operation.acts console =
      ((console.step operation).1, (console.step operation).2.told) := by
  cases operation with
  | lines batch => simp only [Operation.acts, step, handleLines_eq, Prod.map, id, Outcome.told]
  | startPlan paths =>
      rw [Operation.acts, performAll_singleton]
      simp only [perform, orNothing, step, conclude]
      cases startPlan paths console <;> rfl
  | tick run => rw [Operation.acts, performAll_singleton]; rfl
  | move step =>
      rw [Operation.acts, performAll_singleton]
      simp only [perform, orNothing, Console.step, conclude, move]
      cases console.ready <;> rfl
  | goHome =>
      rw [Operation.acts, performAll_singleton]
      simp only [perform, orNothing, step, conclude, goHome]
      cases console.ready <;> rfl
  | operatorCommit =>
      rw [Operation.acts, performAll_singleton]
      simp only [perform, orNothing, step, conclude, operatorCommit]
      cases console.ready <;> rfl
  | commit => rw [Operation.acts, performAll_singleton]; rfl

/-- A history does its acts, and tells the events of them. -/
theorem performAll_history (history : List (Operation α)) (console : Console α) :
    performAll (acts history) console =
      ((console.run history).1, (console.run history).2.flatMap Outcome.told) := by
  induction history generalizing console with
  | nil => rfl
  | cons operation rest ih =>
      simp only [acts, List.flatMap_cons] at ih ⊢
      rw [performAll_append, performAll_operation, ih]
      rfl

theorem after_eq (history : List (Operation α)) (console : Console α) :
    console.after history = (performAll (acts history) console).1 := by
  rw [performAll_history]
  rfl

end Console

/-! ## Plans that are accepted -/

/-- The number of moves of every path, for a plan that a fleet of some size can fly: it has a path
for every drone, at least one, and all paths have the same number of moves. -/
def Plan.steps? (size : Nat) (paths : List (List (Position α))) : Option Nat :=
  match paths with
  | [] => none
  | first :: _ =>
      if paths.length = size ∧ ∀ path ∈ paths, path.length = first.length then some first.length
      else none

theorem Plan.steps?_eq_some_iff {size steps : Nat} {paths : List (List (Position α))} :
    steps? size paths = some steps ↔
      paths ≠ [] ∧ paths.length = size ∧ ∀ path ∈ paths, path.length = steps := by
  cases paths with
  | nil => simp [steps?]
  | cons first rest =>
      simp only [steps?]
      constructor
      · intro h
        split at h
        · rename_i hfits
          obtain rfl : first.length = steps := Option.some.inj h
          exact ⟨by simp, hfits⟩
        · cases h
      · rintro ⟨-, hsize, hlengths⟩
        obtain rfl := hlengths first List.mem_cons_self
        rw [if_pos ⟨hsize, hlengths⟩]

namespace Animator

theorem lengthFault?_eq_none_iff {steps drone : Nat} {paths : List (List (Position α))} :
    lengthFault? steps drone paths = none ↔ ∀ path ∈ paths, path.length = steps := by
  induction paths generalizing drone with
  | nil => simp [lengthFault?]
  | cons path paths ih =>
      by_cases h : path.length = steps
      · simp [lengthFault?, h, ih]
      · simp [lengthFault?, h]

/-- A plan that the fleet can fly takes the next number, and is under way unless it has no moves. -/
theorem start_of_steps? {size steps : Nat} {paths : List (List (Position α))}
    (h : Plan.steps? size paths = some steps) (animator : Animator α) :
    animator.start paths size =
      if steps = 0 then
        .ok ({ animator with run := none, lastRun := animator.lastRun + 1 },
          .finished (animator.lastRun + 1))
      else
        .ok ({ animator with
            run := some ⟨animator.lastRun + 1, paths, 0⟩
            lastRun := animator.lastRun + 1 },
          .started (animator.lastRun + 1) steps) := by
  obtain ⟨hne, hsize, hlengths⟩ := Plan.steps?_eq_some_iff.mp h
  cases paths with
  | nil => exact absurd rfl hne
  | cons first rest =>
      obtain rfl := hlengths first List.mem_cons_self
      simp only [start, hsize, lengthFault?_eq_none_iff.mpr hlengths, List.isEmpty_iff,
        List.length_eq_zero_iff, ne_eq, not_true_eq_false, if_false]

/-- Any other plan leaves the animator as it is: one without paths says nothing, and the rest are
at fault. -/
theorem start_of_steps?_eq_none {size : Nat} {paths : List (List (Position α))}
    (h : Plan.steps? size paths = none) (animator : Animator α) :
    (paths = [] ∧ animator.start paths size = .ok (animator, .empty)) ∨
      paths ≠ [] ∧ ∃ fault, animator.start paths size = .error fault := by
  cases paths with
  | nil => exact .inl ⟨rfl, rfl⟩
  | cons first rest =>
      refine .inr ⟨by simp, ?_⟩
      by_cases hsize : (first :: rest).length = size
      · have hfault : lengthFault? first.length 0 (first :: rest) ≠ none := by
          intro hnone
          have hsome := Plan.steps?_eq_some_iff.mpr
            ⟨List.cons_ne_nil first rest, hsize, lengthFault?_eq_none_iff.mp hnone⟩
          rw [h] at hsome
          cases hsome
        obtain ⟨fault, hfault⟩ := Option.ne_none_iff_exists'.mp hfault
        exact ⟨fault, by simp only [start, hsize, hfault, ne_eq, not_true_eq_false, if_false]⟩
      · exact ⟨.pathCount (first :: rest).length size, by
          simp only [start, ne_eq, hsize, not_false_eq_true, if_true]⟩

end Animator

end FleetConsole
