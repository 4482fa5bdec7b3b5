import FleetConsole.Proofs.Coherence
import FleetConsole.Session

/-!
# The turns of a session

A step of the session has three parts: it takes an input, publishes if something is due, and arms
the timer.  `Turn` lists all that taking an input can do, with the condition under which it does that
and the events that are told; `take_turn` says that nothing else happens.

`Round` adds the other two parts.  It is about sessions at rest, whose publisher has nothing due and
nothing pending.  Such a session publishes all that an input tells, and is at rest again.  Every
session is at rest between its inputs (`undergo_atRest`), and the parts of its console fit
(`undergo_coherent`); `Settled` is both.
-/

namespace FleetConsole

open Console

/-! ## What happens to a session -/

/-- An input at a time, or something at the far end of the outbox. -/
inductive Happening
  | input (now : Nat) (input : Input)
  | commandsTaken
  | outboxAbandoned

/-- The targets of a command. -/
def Request.targets? : Request → Option (Fleet Float → List (Position Float))
  | .move step => some (Fleet.moveTargets step)
  | .goHome => some Fleet.homeTargets
  | _ => none

/-- Why no feed can open any more. -/
def FeedStatus.refusal? : FeedStatus → Option Refusal
  | .waiting => none
  | .connected _ _ => some .feedBusy
  | .closed _ => some .transportClosed

namespace Session

/-- An input, without what follows from it in any case. -/
def take (now : Nat) (input : Input) (session : Session) : Session × Reply :=
  match input with
  | .request request => session.handle now request
  | .timer => (session.fire now, .done)

theorem step_eq (now : Nat) (input : Input) (session : Session) :
    session.step now input =
      ((((session.take now input).1.publish now).1.arm now), (session.take now input).2,
        ((session.take now input).1.publish now).2) := by
  cases input <;> rfl

/-- One thing that happens, with what is published. -/
def happen : Happening → Session → Session × Option (Publication Float)
  | .input now input, session => ((session.step now input).1, (session.step now input).2.2)
  | .commandsTaken, session => (session.takeCommands.1, none)
  | .outboxAbandoned, session => (session.abandonOutbox, none)

/-- Things that happen one after the other, with all that is published. -/
def undergo : List Happening → Session → Session × List (Publication Float)
  | [], session => (session, [])
  | happening :: rest, session =>
      let (next, publication) := session.happen happening
      let (last, publications) := undergo rest next
      (last, publication.toList ++ publications)

theorem undergo_append (first second : List Happening) (session : Session) :
    session.undergo (first ++ second) =
      (((session.undergo first).1.undergo second).1,
        (session.undergo first).2 ++ ((session.undergo first).1.undergo second).2) := by
  induction first generalizing session with
  | nil => rfl
  | cons happening rest ih => simp [undergo, ih]

/-- What a command needs: a way to the swarm, an open lock and a fleet. -/
def clearance (session : Session) : Except Refusal Unit := do
  session.canSend
  session.console.ready

/-- A command is built and put into the outbox. -/
def send (targets : List (Position Float)) (session : Session) : Session :=
  { session with
    console := { session.console with locked := true }
    outbox := session.outbox.push targets }.record [.commandSent targets]

theorem command_eq
    {build : Console Float → Except Refusal (Console Float × List (Position Float))}
    {targets : Fleet Float → List (Position Float)}
    (hbuild : ∀ console : Console Float, build console = do
      console.ready
      .ok ({ console with locked := true }, targets console.fleet)) (session : Session) :
    session.command build =
      match session.clearance with
      | .ok () =>
          (session.send (targets session.console.fleet), .targets (targets session.console.fleet))
      | .error refusal => (session, .refused refusal) := by
  simp only [command, clearance, hbuild]
  cases session.canSend with
  | error refusal => rfl
  | ok => cases session.console.ready <;> rfl

/-- Commands differ in their targets alone. -/
theorem take_command {command : Request} {targets : Fleet Float → List (Position Float)}
    (htargets : command.targets? = some targets) (now : Nat) (session : Session) :
    session.take now (.request command) =
      match session.clearance with
      | .ok () =>
          (session.send (targets session.console.fleet), .targets (targets session.console.fleet))
      | .error refusal => (session, .refused refusal) := by
  cases command with
  | move step =>
      obtain rfl := Option.some.inj htargets
      exact command_eq (fun _ => rfl) session
  | goHome =>
      obtain rfl := Option.some.inj htargets
      exact command_eq (fun _ => rfl) session
  | openFeed | batch | closeFeed | commit => cases htargets

end Session

/-! ## Taking an input -/

/-- One case for every way in which an input can turn out: the session before it, the input, the
session after it, the reply and the events that are told. -/
inductive Turn (now : Nat) (session : Session) :
    Input → Session → Reply → List (Event Float) → Prop
  | opened (id : SessionId) (capacity : Nat) (hwaiting : session.feed = .waiting) :
      Turn now session (.request (.openFeed id capacity))
        ({ session with
          feed := .connected id now, outbox := .ofCapacity capacity }.record [.feedConnected id])
        .done [.feedConnected id]
  | openRefused (id : SessionId) (capacity : Nat) (refusal : Refusal)
      (hfeed : session.feed.refusal? = some refusal) :
      Turn now session (.request (.openFeed id capacity)) session (.refused refusal) []
  | batchTaken (id : SessionId) (text : String) (hfeed : session.feed.isSession id = true) :
      Turn now session (.request (.batch id text))
        { session with
          console := (handleText text session.console).1
          publisher := (session.publisher.record (handleText text session.console).2).force }
        .done (handleText text session.console).2
  | batchDropped (id : SessionId) (text : String) (hfeed : session.feed.isSession id = false) :
      Turn now session (.request (.batch id text)) session .done []
  | closed (id : SessionId) (hfeed : session.feed.isSession id = true) :
      Turn now session (.request (.closeFeed id))
        ({ session with feed := .closed now }.record [.feedClosed]) .done [.feedClosed]
  | closeIgnored (id : SessionId) (hfeed : session.feed.isSession id = false) :
      Turn now session (.request (.closeFeed id)) session .done []
  | sent (request : Request) (targets : Fleet Float → List (Position Float))
      (htargets : request.targets? = some targets) (hclear : session.clearance = .ok ()) :
      Turn now session (.request request) (session.send (targets session.console.fleet))
        (.targets (targets session.console.fleet))
        [.commandSent (targets session.console.fleet)]
  | sendRefused (request : Request) (refusal : Refusal) (htargets : request.targets? ≠ none)
      (hclear : session.clearance = .error refusal) :
      Turn now session (.request request) session (.refused refusal) []
  | committed (hready : session.console.ready = .ok ()) :
      Turn now session (.request .commit)
        ({ session with
          console := session.console.reconcile.1 }.record
            [.reconciled session.console.reconcile.2])
        (.reconciled session.console.reconcile.2) [.reconciled session.console.reconcile.2]
  | commitRefused (refusal : Refusal) (hready : session.console.ready = .error refusal) :
      Turn now session (.request .commit) session (.refused refusal) []
  | ticked (tick : ArmedTick) (harmed : session.armed = some tick) (hdue : tick.due ≤ now) :
      Turn now session .timer
        { session with
          console := (session.console.tick tick.run).1
          publisher := session.publisher.recordTick (session.console.tick tick.run).2
          armed := none }
        .done (session.console.tick tick.run).2
  | notDue (hearly : ∀ tick, session.armed = some tick → now < tick.due) :
      Turn now session .timer session .done []

namespace Session

variable (now : Nat) (session : Session)

theorem openFeed_turn (id : SessionId) (capacity : Nat) :
    ∃ told, Turn now session (.request (.openFeed id capacity))
      (session.openFeed now id capacity).1 (session.openFeed now id capacity).2 told := by
  cases hfeed : session.feed with
  | waiting =>
      rw [openFeed, hfeed]
      exact ⟨_, .opened id capacity hfeed⟩
  | connected other since =>
      rw [openFeed, hfeed]
      exact ⟨_, .openRefused id capacity .feedBusy (by rw [hfeed]; rfl)⟩
  | closed since =>
      rw [openFeed, hfeed]
      exact ⟨_, .openRefused id capacity .transportClosed (by rw [hfeed]; rfl)⟩

theorem batch_turn (id : SessionId) (text : String) :
    ∃ told, Turn now session (.request (.batch id text)) (session.batch id text).1
      (session.batch id text).2 told := by
  cases hfeed : session.feed.isSession id with
  | true =>
      simp only [batch, hfeed, if_true]
      exact ⟨_, .batchTaken id text hfeed⟩
  | false =>
      simp only [batch, hfeed, Bool.false_eq_true, if_false]
      exact ⟨_, .batchDropped id text hfeed⟩

theorem closeFeed_turn (id : SessionId) :
    ∃ told, Turn now session (.request (.closeFeed id)) (session.closeFeed now id).1
      (session.closeFeed now id).2 told := by
  cases hfeed : session.feed.isSession id with
  | true =>
      simp only [closeFeed, hfeed, if_true]
      exact ⟨_, .closed id hfeed⟩
  | false =>
      simp only [closeFeed, hfeed, Bool.false_eq_true, if_false]
      exact ⟨_, .closeIgnored id hfeed⟩

theorem command_turn {request : Request} {targets : Fleet Float → List (Position Float)}
    (htargets : request.targets? = some targets) :
    ∃ told, Turn now session (.request request) (session.take now (.request request)).1
      (session.take now (.request request)).2 told := by
  rw [take_command htargets]
  cases hclear : session.clearance with
  | ok => exact ⟨_, .sent request targets htargets hclear⟩
  | error refusal => exact ⟨_, .sendRefused request refusal (by rw [htargets]; nofun) hclear⟩

theorem commit_turn :
    ∃ told, Turn now session (.request .commit) session.commit.1 session.commit.2 told := by
  cases hready : session.console.ready with
  | ok =>
      simp only [commit, operatorCommit, hready]
      exact ⟨_, .committed hready⟩
  | error refusal =>
      simp only [commit, operatorCommit, hready]
      exact ⟨_, .commitRefused refusal hready⟩

theorem fire_turn : ∃ told, Turn now session .timer (session.fire now) .done told := by
  cases harmed : session.armed with
  | none =>
      simp only [fire, harmed]
      exact ⟨_, .notDue (by simp [harmed])⟩
  | some tick =>
      by_cases hdue : tick.due ≤ now
      · simp only [fire, harmed, if_pos hdue]
        exact ⟨_, .ticked tick harmed hdue⟩
      · simp only [fire, harmed, if_neg hdue]
        refine ⟨_, .notDue fun other hother => ?_⟩
        rw [harmed] at hother
        obtain rfl := Option.some.inj hother
        exact Nat.lt_of_not_le hdue

/-- Taking an input is one of the turns of the list. -/
theorem take_turn (input : Input) :
    ∃ told, Turn now session input (session.take now input).1 (session.take now input).2 told := by
  cases input with
  | timer => exact session.fire_turn now
  | request request =>
      cases request with
      | openFeed id capacity => exact session.openFeed_turn now id capacity
      | batch id text => exact session.batch_turn now id text
      | closeFeed id => exact session.closeFeed_turn now id
      | move step => exact session.command_turn now rfl
      | goHome => exact session.command_turn now rfl
      | commit => exact session.commit_turn now

end Session

/-! ## The console after a turn -/

section Consoles

variable {now : Nat} {session next : Session} {input : Input} {reply : Reply}
  {told : List (Event Float)}

theorem Session.ready_of_clearance (hclear : session.clearance = .ok ()) :
    session.console.ready = .ok () := by
  simp only [Session.clearance] at hclear
  cases hsend : session.canSend with
  | ok =>
      rw [hsend] at hclear
      exact hclear
  | error refusal =>
      rw [hsend] at hclear
      cases hclear

/-- A turn does some acts to the console, and nothing else. -/
theorem Turn.exists_acts (h : Turn now session input next reply told) :
    ∃ acts, next.console = (performAll acts session.console).1 := by
  cases h with
  | opened | closed => exact ⟨[], rfl⟩
  | openRefused | batchDropped | closeIgnored | sendRefused | commitRefused | notDue =>
      exact ⟨[], rfl⟩
  | batchTaken id text hfeed =>
      exact ⟨(Feed.readLines text.toList).flatMap lineActs, by rw [← handleLines_eq]; rfl⟩
  | sent request targets htargets hclear =>
      refine ⟨[.command], ?_⟩
      simp only [performAll_singleton, perform, orNothing, Session.ready_of_clearance hclear]
      rfl
  | committed hready => exact ⟨[.commit], by rw [performAll_singleton]; rfl⟩
  | ticked tick harmed hdue => exact ⟨[.tick tick.run], by rw [performAll_singleton]; rfl⟩

end Consoles

/-! ## The publisher after a turn -/

namespace Publisher

variable {α : Type}

@[simp] theorem record_nil (publisher : Publisher α) : publisher.record [] = publisher := by
  simp [record]

/-- The interval of a publisher is a tick at least. -/
theorem interval_pos (interval : UInt32) : 0 < max interval 1 := by
  show 0 < if interval ≤ 1 then 1 else interval
  split
  · decide
  · rename_i hmore
    rw [UInt32.not_le] at hmore
    exact UInt32.lt_of_le_of_lt UInt32.zero_le hmore

theorem isDue_eq_false_iff {publisher : Publisher α} :
    publisher.isDue = false ↔ publisher.forced = false ∧ publisher.ticks < publisher.interval := by
  simp [isDue, UInt32.not_le]

/-- The ways in which a publisher takes the events of a turn. -/
inductive Takes (publisher : Publisher α) (told : List (Event α)) : Publisher α → Prop
  | recorded : Takes publisher told (publisher.record told)
  | forced : Takes publisher told (publisher.record told).force
  | ticked : Takes publisher told (publisher.recordTick told)

variable {publisher next : Publisher α} {told : List (Event α)}

theorem Takes.pending (h : publisher.Takes told next) : next.pending = publisher.pending ++ told := by
  cases h <;> rfl

theorem Takes.interval (h : publisher.Takes told next) : next.interval = publisher.interval := by
  cases h <;> rfl

theorem Takes.seq (h : publisher.Takes told next) : next.seq = publisher.seq := by
  cases h <;> rfl

/-- Whatever is told is due at once. -/
theorem Takes.told_eq_nil (h : publisher.Takes told next) (hdue : next.isDue = false) :
    told = [] := by
  have hforced : next.forced = false := (isDue_eq_false_iff.mp hdue).1
  cases h with
  | forced => cases hforced
  | recorded | ticked =>
      have hneither : (publisher.forced || !told.isEmpty) = false := hforced
      simpa using (Bool.or_eq_false_iff.mp hneither).2

end Publisher

variable {now : Nat} {session next : Session} {input : Input} {reply : Reply}
  {told : List (Event Float)}

theorem Turn.takes (h : Turn now session input next reply told) :
    session.publisher.Takes told next.publisher := by
  have hunchanged : session.publisher.Takes [] session.publisher := by
    have hnil : session.publisher.Takes [] (session.publisher.record []) := .recorded
    rwa [Publisher.record_nil] at hnil
  cases h with
  | opened | closed | sent | committed => exact .recorded
  | batchTaken => exact .forced
  | ticked => exact .ticked
  | openRefused | batchDropped | closeIgnored | sendRefused | commitRefused | notDue =>
      exact hunchanged

/-! ## Sessions at rest -/

/-- A session that has nothing left to do before its next input: nothing is due, nothing is pending,
and the timer is armed for the run under way, if there is one.  Its pace is the number of ticks after
which a snapshot is due. -/
structure Session.AtRest (pace : UInt32) (session : Session) : Prop where
  interval : session.publisher.interval = pace
  ticks : session.publisher.ticks < pace
  forced : session.publisher.forced = false
  pending : session.publisher.pending = []
  armed : session.armed.map ArmedTick.run = session.console.animator.currentRun

/-- A session with a new snapshot. -/
def Session.renewed (session : Session) : Session :=
  { session with
    publisher := { session.publisher with
      ticks := 0, forced := false, seq := session.publisher.seq + 1, pending := [] }
    latest := session.console.snapshot (session.publisher.seq + 1) session.feed }

/-- What a step of a session at rest does: a turn, a publication of all that was told if one is due,
and the timer. -/
inductive Round (now : Nat) (session : Session) (input : Input) :
    Session → Reply → Option (Publication Float) → Prop
  | published (next : Session) (reply : Reply) (told : List (Event Float))
      (hturn : Turn now session input next reply told) (hdue : next.publisher.isDue = true) :
      Round now session input (next.renewed.arm now) reply
        (some { time := now, snapshot := next.renewed.latest, events := told })
  | quiet (next : Session) (reply : Reply) (hturn : Turn now session input next reply [])
      (hdue : next.publisher.isDue = false) :
      Round now session input (next.arm now) reply none

namespace Session

variable {pace : UInt32}

theorem step_round (h : session.AtRest pace) (now : Nat) (input : Input) :
    Round now session input (session.step now input).1 (session.step now input).2.1
      (session.step now input).2.2 := by
  rw [step_eq]
  obtain ⟨told, hturn⟩ := session.take_turn now input
  generalize session.take now input = taken at hturn
  obtain ⟨next, reply⟩ := taken
  simp only at hturn ⊢
  have hpending : next.publisher.pending = told := by
    rw [hturn.takes.pending, h.pending, List.nil_append]
  cases hdue : next.publisher.isDue with
  | true =>
      simp only [publish, hdue, if_true, Publisher.publish, hpending]
      exact .published next reply told hturn hdue
  | false =>
      obtain rfl := hturn.takes.told_eq_nil hdue
      simp only [publish, hdue, Bool.false_eq_true, if_false]
      exact .quiet next reply hturn hdue

theorem armed_arm (now : Nat) (session : Session) :
    (session.arm now).armed.map ArmedTick.run = session.console.animator.currentRun := by
  unfold arm
  cases hrun : session.console.animator.currentRun with
  | none => rfl
  | some run =>
      cases session.armed with
      | none => rfl
      | some tick =>
          by_cases htick : tick.run = run
          · simp [htick]
          · simp [htick]

/-- The timer of a session at rest is left alone. -/
theorem AtRest.arm (h : session.AtRest pace) (now : Nat) : session.arm now = session := by
  obtain ⟨console, publisher, feed, outbox, armed, latest⟩ := session
  have harmed : armed.map ArmedTick.run = console.animator.currentRun := h.armed
  cases armed with
  | none => simp only [Session.arm, ← harmed, Option.map_none]
  | some tick => simp only [Session.arm, ← harmed, Option.map_some, if_true]

theorem AtRest.isDue (h : session.AtRest pace) : session.publisher.isDue = false :=
  Publisher.isDue_eq_false_iff.mpr ⟨h.forced, h.interval.symm ▸ h.ticks⟩

/-- An input that leaves a session at rest as it is has nothing to follow from it. -/
theorem AtRest.step_of_take (h : session.AtRest pace)
    (htake : session.take now input = (session, reply)) :
    session.step now input = (session, reply, none) := by
  rw [step_eq, htake]
  simp only [publish, h.isDue, Bool.false_eq_true, if_false, h.arm]

/-- After a round a session is at rest again. -/
theorem AtRest.round (h : session.AtRest pace) {after : Session}
    {publication : Option (Publication Float)}
    (hround : Round now session input after reply publication) : after.AtRest pace := by
  cases hround with
  | published next reply told hturn hdue =>
      -- a pace that ticks can stay below is not zero
      have hpositive : 0 < pace := UInt32.lt_of_le_of_lt UInt32.zero_le h.ticks
      exact ⟨hturn.takes.interval.trans h.interval, hpositive, rfl, rfl, armed_arm now _⟩
  | quiet next reply hturn hdue =>
      obtain ⟨hforced, hticks⟩ := Publisher.isDue_eq_false_iff.mp hdue
      have hinterval := hturn.takes.interval.trans h.interval
      refine ⟨hinterval, hinterval ▸ hticks, hforced, ?_, armed_arm now _⟩
      show next.publisher.pending = []
      rw [hturn.takes.pending, h.pending, List.append_nil]

theorem AtRest.step (h : session.AtRest pace) (now : Nat) (input : Input) :
    (session.step now input).1.AtRest pace :=
  h.round (step_round h now input)

theorem fresh_atRest (settings : ConsoleSettings Float) (viewRate : UInt32) :
    (fresh settings viewRate).AtRest (max (snapshotInterval settings viewRate) 1) := by
  exact ⟨rfl, Publisher.interval_pos _, rfl, rfl, rfl⟩

/-! ## The course of a session -/

/-- What steps preserve, and what does not depend on the outbox, is preserved. -/
theorem undergo_preserves (holds : Session → Prop)
    (hstep : ∀ (session : Session) (now : Nat) (input : Input),
      holds session → holds (session.step now input).1)
    (houtbox : ∀ (session : Session) (outbox : Outbox),
      holds session → holds { session with outbox := outbox })
    (happenings : List Happening) {session : Session} (hstart : holds session) :
    holds (session.undergo happenings).1 := by
  induction happenings generalizing session with
  | nil => exact hstart
  | cons happening rest ih =>
      apply ih
      cases happening with
      | input now input => exact hstep session now input hstart
      | commandsTaken => exact houtbox session _ hstart
      | outboxAbandoned => exact houtbox session _ hstart

theorem AtRest.undergo (h : session.AtRest pace) (happenings : List Happening) :
    (session.undergo happenings).1.AtRest pace :=
  undergo_preserves (AtRest pace) (fun _ now input hrest => hrest.step now input)
    (fun _ _ hrest => ⟨hrest.interval, hrest.ticks, hrest.forced, hrest.pending, hrest.armed⟩)
    happenings h

/-- Between its inputs a session is at rest. -/
theorem undergo_atRest (settings : ConsoleSettings Float) (viewRate : UInt32)
    (happenings : List Happening) :
    ((fresh settings viewRate).undergo happenings).1.AtRest
      (max (snapshotInterval settings viewRate) 1) :=
  (fresh_atRest settings viewRate).undergo happenings

theorem console_step (now : Nat) (input : Input) (session : Session) :
    (session.step now input).1.console = (session.take now input).1.console := by
  rw [step_eq]
  simp only [arm, publish]
  split <;> rfl

theorem outbox_step (now : Nat) (input : Input) (session : Session) :
    (session.step now input).1.outbox = (session.take now input).1.outbox := by
  rw [step_eq]
  simp only [arm, publish]
  split <;> rfl

/-- What happens to a session is some acts for its console. -/
theorem exists_acts_happen (happening : Happening) (session : Session) :
    ∃ acts, (session.happen happening).1.console = (performAll acts session.console).1 := by
  cases happening with
  | input now input =>
      obtain ⟨told, hturn⟩ := session.take_turn now input
      obtain ⟨acts, hacts⟩ := hturn.exists_acts
      exact ⟨acts, (console_step now input session).trans hacts⟩
  | commandsTaken | outboxAbandoned => exact ⟨[], rfl⟩

theorem exists_acts_undergo (happenings : List Happening) (session : Session) :
    ∃ acts, (session.undergo happenings).1.console = (performAll acts session.console).1 := by
  induction happenings generalizing session with
  | nil => exact ⟨[], rfl⟩
  | cons happening rest ih =>
      obtain ⟨first, hfirst⟩ := exists_acts_happen happening session
      obtain ⟨later, hlater⟩ := ih (session.happen happening).1
      refine ⟨first ++ later, ?_⟩
      rw [performAll_append, ← hfirst]
      exact hlater

/-- The parts of the console fit, whatever a session has gone through. -/
theorem undergo_coherent (settings : ConsoleSettings Float) (viewRate : UInt32)
    (happenings : List Happening) :
    Coherent settings ((fresh settings viewRate).undergo happenings).1.console := by
  obtain ⟨acts, hacts⟩ := exists_acts_undergo happenings (fresh settings viewRate)
  rw [hacts]
  exact performAll_coherent (fresh_coherent settings) acts

/-- A session in its course: it is at rest, and the parts of its console fit. -/
structure Settled (settings : ConsoleSettings Float) (pace : UInt32) (session : Session) :
    Prop where
  rest : session.AtRest pace
  coherent : Coherent settings session.console

theorem Settled.happen {settings : ConsoleSettings Float} (h : session.Settled settings pace)
    (happening : Happening) : (session.happen happening).1.Settled settings pace where
  rest := h.rest.undergo [happening]
  coherent := by
    obtain ⟨acts, hacts⟩ := exists_acts_happen happening session
    rw [hacts]
    exact performAll_coherent h.coherent acts

theorem Settled.undergo {settings : ConsoleSettings Float} (h : session.Settled settings pace)
    (happenings : List Happening) : (session.undergo happenings).1.Settled settings pace := by
  induction happenings generalizing session with
  | nil => exact h
  | cons happening rest ih => exact ih (h.happen happening)

theorem undergo_settled (settings : ConsoleSettings Float) (viewRate : UInt32)
    (happenings : List Happening) :
    ((fresh settings viewRate).undergo happenings).1.Settled settings
      (max (snapshotInterval settings viewRate) 1) :=
  ⟨undergo_atRest settings viewRate happenings, undergo_coherent settings viewRate happenings⟩

end Session

end FleetConsole
