import FleetConsole.Proofs.Turn

/-!
# The story that events tell

A view that hears all events knows without any snapshot who is flying, how many drones there are,
whether a command is out, which run is under way and how the feed is.  `Story` is what it knows, and
`hear` how it learns.

`Effect.story` says that every act tells its console's story on, `Turn.story` that every input tells
that of the session.  So a snapshot and all events up to it tell the same (`events_tell_snapshot`):
every field is what the last event about it says.
-/

namespace FleetConsole

open Console

variable {α : Type}

/-! ## Stories -/

/-- The connection to the swarm, without its times. -/
inductive Link
  | waiting
  | connected (session : SessionId)
  | closed
deriving DecidableEq

def FeedStatus.link : FeedStatus → Link
  | .waiting => .waiting
  | .connected session _ => .connected session
  | .closed _ => .closed

structure Story where
  identifier : Option String
  droneCount : Nat
  /-- a command is out -/
  running : Bool
  /-- the run under way -/
  run : Option Nat
  feed : Link
deriving DecidableEq

namespace Story

def beginning : Story := ⟨none, 0, false, none, .waiting⟩

/-- The story with one more event. -/
def hear (story : Story) : Event α → Story
  | .identifierChanged identifier => { story with identifier := some identifier }
  | .rosterReplaced droneCount => { story with droneCount := droneCount }
  | .commandSent _ => { story with running := true }
  | .controlsEnabled => { story with running := false }
  | .animationStarted run steps => { story with run := if steps = 0 then none else some run }
  | .animationCompleted _ | .animationCancelled _ => { story with run := none }
  | .feedConnected session => { story with feed := .connected session }
  | .feedClosed => { story with feed := .closed }
  | .liveUpdated _ | .commitDeferred _ | .reconciled _ | .rejected _ => story

/-- The story with some more events. -/
def hearAll (story : Story) (events : List (Event α)) : Story := events.foldl hear story

@[simp] theorem hearAll_nil (story : Story) : story.hearAll ([] : List (Event α)) = story := rfl

@[simp] theorem hearAll_cons (story : Story) (event : Event α) (events : List (Event α)) :
    story.hearAll (event :: events) = (story.hear event).hearAll events :=
  rfl

theorem hearAll_append (story : Story) (first second : List (Event α)) :
    story.hearAll (first ++ second) = (story.hearAll first).hearAll second :=
  List.foldl_append

end Story

/-! ## What the last event says -/

/-- The last thing that some events say, in a reading that finds something in a few of them. -/
def lastOf {β : Type} (reads : Event α → Option β) (events : List (Event α)) : Option β :=
  (events.filterMap reads).getLast?

theorem lastOf_map {β γ : Type} (f : β → γ) (reads : Event α → Option β)
    (events : List (Event α)) :
    lastOf (fun event => (reads event).map f) events = (lastOf reads events).map f := by
  rw [lastOf, lastOf, ← List.getLast?_map, List.map_filterMap]

namespace Event

def identifier? : Event α → Option String
  | .identifierChanged identifier => some identifier
  | _ => none

def droneCount? : Event α → Option Nat
  | .rosterReplaced droneCount => some droneCount
  | _ => none

/-- Whether a command goes out or controls come back. -/
def locks? : Event α → Option Bool
  | .commandSent _ => some true
  | .controlsEnabled => some false
  | _ => none

/-- The run that an event leaves under way; a run without steps never is. -/
def run? : Event α → Option (Option Nat)
  | .animationStarted run steps => some (if steps = 0 then none else some run)
  | .animationCompleted _ | .animationCancelled _ => some none
  | _ => none

def link? : Event α → Option Link
  | .feedConnected session => some (.connected session)
  | .feedClosed => some .closed
  | _ => none

end Event

/-- A part of the story that every event sets to what it says, or leaves alone, is what the last
event says. -/
theorem Story.hearAll_eq_lastOf {β : Type} (part : Story → β) (reads : Event α → Option β)
    (hhear : ∀ (story : Story) (event : Event α),
      part (story.hear event) = (reads event).getD (part story))
    (events : List (Event α)) (story : Story) :
    part (story.hearAll events) = (lastOf reads events).getD (part story) := by
  induction events generalizing story with
  | nil => rfl
  | cons event events ih =>
      rw [hearAll_cons, ih, hhear, lastOf, lastOf]
      cases hread : reads event with
      | none => rw [List.filterMap_cons_none hread, Option.getD_none]
      | some value =>
          rw [List.filterMap_cons_some hread, List.getLast?_cons, Option.getD_some,
            Option.getD_some]

def Console.story (feed : FeedStatus) (console : Console α) : Story :=
  ⟨console.identifier, console.fleet.size, console.locked, console.animator.currentRun, feed.link⟩

def Snapshot.story (snapshot : Snapshot α) : Story :=
  ⟨snapshot.identifier, snapshot.droneCount, snapshot.running, snapshot.animation.run,
    snapshot.feed.link⟩

/-! ## What an act tells -/

section Acts

variable [Coordinate α] {console next : Console α} {act : Act α} {events : List (Event α)}
  {feed : FeedStatus}

/-- An act tells the story of its console on.  Only a command does not: that it was sent is for the
session to tell. -/
theorem Effect.story (hact : act ≠ .command) (heffect : Effect console act next events) :
    next.story feed = (console.story feed).hearAll events := by
  cases heffect with
  | identified | readyAlone | unreadable | updateRefused | planEmpty | tickIgnored
  | operatorRefused => rfl
  | rosterKeepsRun roster hsize =>
      simp only [Console.story, Fleet.size_replaceRoster]
      rfl
  | rosterEndsRun roster hsize =>
      -- the end of the run is told only if there is one
      simp only [Console.story, Fleet.size_replaceRoster, Animator.currentRun]
      cases console.animator.run <;> rfl
  | updated index location slot => simp only [Console.story, Fleet.size_set]; rfl
  | planRefused paths told => cases told <;> rfl
  | planStarted paths told steps hsteps hmoves =>
      simp only [Story.hearAll_cons, Story.hearAll_nil, Story.hear, if_neg hmoves]
      rfl
  | planDeferred => rfl
  | planReconciled | readyReconciled | operatorCommitted | committed =>
      simp only [Console.story, Fleet.size_reconcile]
      rfl
  | tickStepped run stepped hrun hnext =>
      simp only [Console.story, Animator.currentRun, Option.map_some,
        Animator.id_of_advance hnext, hrun]
      rfl
  | tickDeferred => rfl
  | tickReconciled => simp only [Console.story, Fleet.size_reconcile]; rfl
  | commandLocks | commandRefused => exact absurd rfl hact

theorem Console.performAll_story {acts : List (Act α)} (hacts : .command ∉ acts)
    (console : Console α) :
    (performAll acts console).1.story feed =
      (console.story feed).hearAll (performAll acts console).2 := by
  induction acts generalizing console with
  | nil => rfl
  | cons act rest ih =>
      simp only [List.mem_cons, not_or] at hacts
      rw [performAll_cons, ih hacts.2, Story.hearAll_append]
      exact congrArg (Story.hearAll · _) ((perform_effect act console).story (Ne.symm hacts.1))

omit [Coordinate α] in
/-- The feed gives no commands. -/
theorem command_not_mem_lineActs (line : Except Json.Problem (Message α)) :
    .command ∉ lineActs line := by
  cases line with
  | error problem => simp [lineActs]
  | ok message =>
      obtain ⟨identifier, drones, paths, droneId, location, ready⟩ := message
      cases droneId <;> cases location <;> simp [lineActs, Message.acts]

end Acts

/-! ## What an input tells -/

/-- What a session knows of itself. -/
def Session.story (session : Session) : Story := session.console.story session.feed

variable {now : Nat} {session next : Session} {input : Input} {reply : Reply}
  {told : List (Event Float)}

theorem Console.handleText_story (text : String) (console : Console Float) {feed : FeedStatus} :
    (handleText text console).1.story feed =
      (console.story feed).hearAll (handleText text console).2 := by
  rw [handleText, handleLines_eq]
  refine performAll_story (fun hmem => ?_) console
  obtain ⟨line, -, hcommand⟩ := List.mem_flatMap.mp hmem
  exact command_not_mem_lineActs line hcommand

/-- An input tells the story of its session on. -/
theorem Turn.story (h : Turn now session input next reply told) :
    next.story = session.story.hearAll told := by
  cases h with
  | opened | closed | sent => rfl
  | openRefused | batchDropped | closeIgnored | sendRefused | commitRefused | notDue => rfl
  | batchTaken id text hfeed => exact Console.handleText_story text session.console
  | committed hready =>
      exact (perform_effect .commit session.console).story (by nofun)
  | ticked tick harmed hdue =>
      exact (perform_tick_effect tick.run session.console).story (by nofun)

/-! ## The course of a session -/

/-- A round tells the story on in what it publishes, and the snapshot of that shows the story of its
time. -/
theorem Round.story {after : Session} {publication : Option (Publication Float)}
    (hround : Round now session input after reply publication) :
    after.story = session.story.hearAll (publication.toList.flatMap Publication.events) ∧
      ∀ published, publication = some published → published.snapshot.story = after.story := by
  cases hround with
  | published next reply told hturn hdue =>
      refine ⟨?_, fun published hpublished => ?_⟩
      · rw [Option.toList_some, List.flatMap_singleton]
        exact hturn.story
      · obtain rfl := Option.some.inj hpublished
        rfl
  | quiet next reply hturn hdue => exact ⟨hturn.story, by nofun⟩

namespace Session

variable {pace : UInt32}

theorem AtRest.happen_story (h : session.AtRest pace) (happening : Happening) :
    (session.happen happening).1.story =
        session.story.hearAll ((session.happen happening).2.toList.flatMap Publication.events) ∧
      ∀ published, (session.happen happening).2 = some published →
        published.snapshot.story = (session.happen happening).1.story := by
  cases happening with
  | commandsTaken | outboxAbandoned => exact ⟨rfl, by nofun⟩
  | input now input => exact (step_round h now input).story

/-- A snapshot that is published shows the story of all events up to its own. -/
theorem AtRest.undergo_story (h : session.AtRest pace) {happenings : List Happening}
    {before after : List (Publication Float)} {publication : Publication Float}
    (hsplit : (session.undergo happenings).2 = before ++ publication :: after) :
    publication.snapshot.story =
      session.story.hearAll ((before ++ [publication]).flatMap Publication.events) := by
  -- the induction goes from the start on: what is published first is the first of `before`, or it is
  -- the publication itself
  induction happenings generalizing session before with
  | nil => simp [Session.undergo] at hsplit
  | cons happening rest ih =>
      obtain ⟨hstory, hshown⟩ := h.happen_story happening
      have hnext : (session.happen happening).1.AtRest pace := h.undergo [happening]
      simp only [Session.undergo] at hsplit
      cases hpublished : (session.happen happening).2 with
      | none =>
          rw [hpublished] at hsplit hstory
          rw [ih hnext hsplit]
          exact congrArg (Story.hearAll · _) hstory
      | some first =>
          rw [hpublished, Option.toList_some] at hsplit hstory
          rw [List.flatMap_singleton] at hstory
          cases before with
          | nil =>
              obtain ⟨rfl, -⟩ := List.cons.inj hsplit
              rw [hshown first hpublished, hstory, List.nil_append, List.flatMap_singleton]
          | cons other before =>
              obtain ⟨rfl, hrest⟩ := List.cons.inj hsplit
              rw [ih hnext hrest, hstory, List.cons_append, List.flatMap_cons,
                Story.hearAll_append]

end Session

/-- **Events and snapshots tell the same.**  Of any snapshot that a session publishes, the identifier,
the number of drones, the lock, the run under way and the connection are what the last event about
them has said, of all that were published before it or with it; where none has said anything they
are as at the beginning. -/
theorem events_tell_snapshot (settings : ConsoleSettings Float) (viewRate : UInt32)
    (happenings : List Happening) (before after : List (Publication Float))
    (publication : Publication Float)
    (hsplit : ((Session.fresh settings viewRate).undergo happenings).2 =
      before ++ publication :: after) :
    let told := (before ++ [publication]).flatMap Publication.events
    publication.snapshot.identifier = lastOf Event.identifier? told ∧
      publication.snapshot.droneCount = (lastOf Event.droneCount? told).getD 0 ∧
      publication.snapshot.running = (lastOf Event.locks? told).getD false ∧
      publication.snapshot.animation.run = (lastOf Event.run? told).getD none ∧
      publication.snapshot.feed.link = (lastOf Event.link? told).getD .waiting := by
  intro told
  have hstory : publication.snapshot.story = Story.beginning.hearAll told :=
    (Session.fresh_atRest settings viewRate).undergo_story hsplit
  -- every part of the story is what the last event about it says
  have hlast {β : Type} (part : Story → β) (reads : Event Float → Option β)
      (hhear : ∀ (story : Story) (event : Event Float),
        part (story.hear event) = (reads event).getD (part story)) :
      part publication.snapshot.story = (lastOf reads told).getD (part .beginning) := by
    rw [hstory]
    exact Story.hearAll_eq_lastOf part reads hhear told .beginning
  refine ⟨?_, hlast Story.droneCount Event.droneCount? fun _ event => ?_,
    hlast Story.running Event.locks? fun _ event => ?_,
    hlast Story.run Event.run? fun _ event => ?_,
    hlast Story.feed Event.link? fun _ event => ?_⟩
  · have hidentifier := hlast Story.identifier (fun event => event.identifier?.map some)
      fun _ event => by cases event <;> rfl
    rw [lastOf_map] at hidentifier
    refine Eq.trans hidentifier ?_
    cases lastOf Event.identifier? told <;> rfl
  all_goals cases event <;> rfl

/-- A feed names itself, brings one drone, is sent home and goes away without an answer. -/
def sentHome : List Happening :=
  [.input 0 (.request (.openFeed (.numbered 1) 8)),
    .input 10 (.request (.batch (.numbered 1)
      "\x7b\"Identifier\":\"ada\",\"Drones\":[[0,1,2]]\x7d")),
    .input 20 (.request .goHome), .commandsTaken,
    .input 30 (.request (.closeFeed (.numbered 1)))]

theorem events_tell_snapshot_sentHome :
    ∃ opened named sent closed,
      ((Session.fresh ⟨1000000000, 30, 0.5⟩ 30).undergo sentHome).2 =
          [opened, named, sent, closed] ∧
        closed.events = [.feedClosed] ∧ closed.snapshot.identifier = some "ada" ∧
        closed.snapshot.droneCount = 1 ∧ closed.snapshot.running = true ∧
        closed.snapshot.animation.run = none ∧ closed.snapshot.feed.link = .closed :=
  ⟨_, _, _, _, rfl, rfl,
    events_tell_snapshot ⟨1000000000, 30, 0.5⟩ 30 sentHome [_, _, _] [] _ rfl⟩

end FleetConsole
