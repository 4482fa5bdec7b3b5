import FleetConsole.Proofs.Story
import Mathlib.Data.List.Chain
import Mathlib.Data.List.Induction

/-!
# Commands and their acknowledgements

A command goes into the outbox, and the swarm acknowledges it with a ready.  The exchange with the
swarm is the log of both, in order: every command that has been put into the outbox, and every
message handled that says ready.

`commands_wait_for_ready` says that the lock is what the log says: it is taken exactly if the last
entry is a command.  So there is never a second command without a ready in between, whatever the feed
sends and however the session ends.

The log is read off the outbox and off the lines of the feed, not off the lock.  `step_exchanged` is
the step: it adds nothing and leaves the lock alone, or adds one command to an open console, or
readies alone.
-/

namespace FleetConsole

open Console

/-! ## The log -/

/-- An entry of the log. -/
inductive Exchange
  | command (targets : List (Position Float))
  | ready
deriving DecidableEq

def Exchange.isCommand : Exchange → Bool
  | .command _ => true
  | .ready => false

/-- The entry of a line: a message that says ready has one. -/
def lineExchange? : Except Json.Problem (Message Float) → Option Exchange
  | .ok message => if message.ready = some true then some .ready else none
  | .error _ => none

/-- The entries of some lines. -/
def readies (lines : List (Except Json.Problem (Message Float))) : List Exchange :=
  lines.filterMap lineExchange?

/-- Whether the last entry is a command. -/
def commandOut (log : List Exchange) : Bool := (log.getLast?.map Exchange.isCommand).getD false

namespace Session

/-- The lines of the connected feed that an input brings. -/
def linesTaken (session : Session) : Input → List (Except Json.Problem (Message Float))
  | .request (.batch id text) =>
      if session.feed.isSession id then Feed.readLines text.toList else []
  | _ => []

/-- The commands that an input puts into the outbox, after those that wait there already. -/
def commandsPut (now : Nat) (input : Input) (session : Session) : List (List (Position Float)) :=
  (session.step now input).1.outbox.waiting.drop session.outbox.waiting.length

/-- The entries of an input. -/
def exchanged (now : Nat) (input : Input) (session : Session) : List Exchange :=
  readies (session.linesTaken input) ++ (session.commandsPut now input).map .command

/-- The entries of all that happens to a session. -/
def exchanges : List Happening → Session → List Exchange
  | [], _ => []
  | happening :: rest, session =>
      (match happening with
        | .input now input => session.exchanged now input
        | .commandsTaken | .outboxAbandoned => [])
        ++ exchanges rest (session.happen happening).1

end Session

/-! ### The last entry -/

@[simp] theorem commandOut_nil : commandOut [] = false := rfl

@[simp] theorem commandOut_append_singleton (log : List Exchange) (entry : Exchange) :
    commandOut (log ++ [entry]) = entry.isCommand := by
  simp [commandOut]

theorem eq_ready_of_mem_readies {lines : List (Except Json.Problem (Message Float))}
    {entry : Exchange} (hentry : entry ∈ readies lines) : entry = .ready := by
  obtain ⟨line, -, hline⟩ := List.mem_filterMap.mp hentry
  cases line with
  | error problem => cases hline
  | ok message =>
      simp only [lineExchange?] at hline
      split at hline
      · exact (Option.some.inj hline).symm
      · cases hline

/-- After readies, if there are any, no command is out. -/
theorem commandOut_append_readies (log : List Exchange)
    (lines : List (Except Json.Problem (Message Float))) :
    commandOut (log ++ readies lines) = (commandOut log && (readies lines).isEmpty) := by
  cases hlines : readies lines using List.reverseRecOn with
  | nil => simp
  | append_singleton before last =>
      have hmem : last ∈ readies lines := by simp [hlines]
      have hlast : last = .ready := eq_ready_of_mem_readies hmem
      rw [← List.append_assoc, commandOut_append_singleton, hlast]
      simp [Exchange.isCommand]

/-! ## What the feed does to the lock -/

section Lines

variable {α : Type} [Coordinate α] {console next : Console α} {act : Act α}
  {events : List (Event α)}

/-- Of all acts but commands, ready alone touches the lock. -/
theorem Effect.locked (h : Effect console act next events) (hact : act ≠ .command) :
    (act = .ready → next.locked = false) ∧ (act ≠ .ready → next.locked = console.locked) := by
  cases h with
  | commandLocks | commandRefused => exact absurd rfl hact
  | readyAlone | readyReconciled => exact ⟨fun _ => rfl, fun hnot => absurd rfl hnot⟩
  | _ => exact ⟨nofun, fun _ => rfl⟩

theorem Console.performAll_locked {acts : List (Act α)} (hacts : .command ∉ acts)
    (console : Console α) :
    (.ready ∈ acts → (performAll acts console).1.locked = false) ∧
      (.ready ∉ acts → (performAll acts console).1.locked = console.locked) := by
  induction acts generalizing console with
  | nil => exact ⟨nofun, fun _ => rfl⟩
  | cons act rest ih =>
      simp only [List.mem_cons, not_or] at hacts
      obtain ⟨hready, hother⟩ := (perform_effect act console).locked (Ne.symm hacts.1)
      obtain ⟨hlater, hnever⟩ := ih hacts.2 (perform act console).1
      rw [performAll_cons]
      by_cases hrest : .ready ∈ rest
      · exact ⟨fun _ => hlater hrest, fun hnot => absurd (List.mem_cons_of_mem act hrest) hnot⟩
      · refine ⟨fun hmem => ?_, fun hnot => ?_⟩
        · have hact : act = .ready := by
            rcases List.mem_cons.mp hmem with hact | hmem
            · exact hact.symm
            · exact absurd hmem hrest
          exact (hnever hrest).trans (hready hact)
        · have hact : act ≠ .ready := fun hact => hnot (hact ▸ List.mem_cons_self)
          exact (hnever hrest).trans (hother hact)

end Lines

theorem ready_mem_lineActs_iff (line : Except Json.Problem (Message Float)) :
    .ready ∈ lineActs line ↔ lineExchange? line = some .ready := by
  cases line with
  | error problem => simp [lineActs, lineExchange?]
  | ok message =>
      obtain ⟨identifier, drones, paths, droneId, location, ready⟩ := message
      by_cases hready : ready = some true
      · simp [lineActs, Message.acts, lineExchange?, hready]
      · cases droneId <;> cases location <;>
          simp [lineActs, Message.acts, lineExchange?, hready]

/-- Lines open the lock exactly if one of them says ready. -/
theorem Console.handleLines_locked (lines : List (Except Json.Problem (Message Float)))
    (console : Console Float) :
    (handleLines lines console).1.locked = (console.locked && (readies lines).isEmpty) := by
  have hcommand : .command ∉ lines.flatMap lineActs := fun hmem => by
    obtain ⟨line, -, hline⟩ := List.mem_flatMap.mp hmem
    exact command_not_mem_lineActs line hline
  obtain ⟨hready, hnever⟩ := performAll_locked hcommand console
  rw [handleLines_eq]
  cases hlines : readies lines with
  | nil =>
      have hnone : ∀ line ∈ lines, lineExchange? line = none :=
        List.filterMap_eq_nil_iff.mp hlines
      rw [hnever]
      · simp
      · intro hmem
        obtain ⟨line, hline, hact⟩ := List.mem_flatMap.mp hmem
        rw [ready_mem_lineActs_iff, hnone line hline] at hact
        cases hact
  | cons entry rest =>
      have hentry : entry ∈ readies lines := by simp [hlines]
      obtain ⟨line, hline, hsome⟩ := List.mem_filterMap.mp hentry
      rw [eq_ready_of_mem_readies hentry, ← ready_mem_lineActs_iff] at hsome
      rw [hready (List.mem_flatMap.mpr ⟨line, hline, hsome⟩)]
      simp

/-! ## One step -/

/-- What an input adds to the log, and what becomes of the lock. -/
inductive Exchanged (locked after : Bool) : List Exchange → Prop
  | nothing (hsame : after = locked) : Exchanged locked after []
  /-- a command, which needs an open lock and takes it -/
  | command (targets : List (Position Float)) (hopen : locked = false) (hlocked : after = true) :
      Exchanged locked after [.command targets]
  /-- the readies of a text -/
  | readies (lines : List (Except Json.Problem (Message Float)))
      (hafter : after = (locked && (FleetConsole.readies lines).isEmpty)) :
      Exchanged locked after (FleetConsole.readies lines)

variable {now : Nat} {session next : Session} {input : Input} {reply : Reply}
  {told : List (Event Float)}

/-- A turn that brings no lines and leaves the outbox and the lock alone adds nothing. -/
theorem Exchanged.of_same (hlines : session.linesTaken input = [])
    (houtbox : next.outbox = session.outbox)
    (hlocked : next.console.locked = session.console.locked) :
    Exchanged session.console.locked next.console.locked
      (FleetConsole.readies (session.linesTaken input) ++
        (next.outbox.waiting.drop session.outbox.waiting.length).map .command) := by
  rw [hlines, houtbox, List.drop_length]
  exact .nothing hlocked

theorem Session.open_of_clearance (hclear : session.clearance = .ok ()) :
    session.console.locked = false := by
  have hready := ready_of_clearance hclear
  rcases ready_cases session.console with ⟨-, hopen, -⟩ | ⟨refusal, hrefused, -⟩
  · exact hopen
  · rw [hready] at hrefused
    cases hrefused

theorem Session.linesTaken_command {command : Request} (hcommand : command.targets? ≠ none) :
    session.linesTaken (.request command) = [] := by
  cases command with
  | batch => exact absurd rfl hcommand
  | _ => rfl

/-- What a turn adds to the log. -/
theorem Turn.exchanged (h : Turn now session input next reply told) :
    Exchanged session.console.locked next.console.locked
      (readies (session.linesTaken input) ++
        (next.outbox.waiting.drop session.outbox.waiting.length).map .command) := by
  cases h with
  | opened id capacity hwaiting =>
      -- the outbox of the feed is a new one
      have hempty : ([] : List (List (Position Float))).drop session.outbox.waiting.length = [] :=
        List.drop_nil
      show Exchanged _ _ (([].drop session.outbox.waiting.length).map .command)
      rw [hempty]
      exact .nothing rfl
  | batchTaken id text hfeed =>
      have hlines : session.linesTaken (.request (.batch id text)) = Feed.readLines text.toList := by
        simp only [Session.linesTaken, hfeed, if_true]
      rw [hlines, List.drop_length, List.map_nil, List.append_nil]
      exact .readies _ (handleLines_locked _ session.console)
  | batchDropped id text hfeed =>
      have hlines : session.linesTaken (.request (.batch id text)) = [] := by
        simp only [Session.linesTaken, hfeed, Bool.false_eq_true, if_false]
      exact .of_same hlines rfl rfl
  | sent command targets htargets hclear =>
      have hput : (session.send (targets session.console.fleet)).outbox.waiting.drop
          session.outbox.waiting.length = [targets session.console.fleet] :=
        List.drop_left
      rw [Session.linesTaken_command (by rw [htargets]; nofun), hput]
      exact .command _ (Session.open_of_clearance hclear) rfl
  | sendRefused command refusal hcommand hclear =>
      exact .of_same (Session.linesTaken_command hcommand) rfl rfl
  | closed | closeIgnored | openRefused | committed | commitRefused | notDue =>
      exact .of_same rfl rfl rfl
  | ticked tick harmed hdue =>
      exact .of_same rfl rfl
        (((perform_tick_effect tick.run session.console).locked nofun).2 nofun)

/-- A refusal leaves the session as it was. -/
theorem Turn.eq_of_refused {refusal : Refusal}
    (h : Turn now session input next (.refused refusal) told) :
    next = session ∧ session.linesTaken input = [] := by
  cases h with
  | openRefused | commitRefused => exact ⟨rfl, rfl⟩
  | sendRefused command refusal hcommand => exact ⟨rfl, Session.linesTaken_command hcommand⟩

namespace Session

/-- What a step adds to the log. -/
theorem step_exchanged (now : Nat) (input : Input) (session : Session) :
    Exchanged session.console.locked (session.step now input).1.console.locked
      (session.exchanged now input) := by
  obtain ⟨told, hturn⟩ := session.take_turn now input
  rw [console_step, exchanged, commandsPut, outbox_step]
  exact hturn.exchanged

/-- A text of the connected feed adds what its lines say, any other text nothing. -/
theorem exchanged_batch (now : Nat) (id : SessionId) (text : String) (session : Session) :
    session.exchanged now (.request (.batch id text)) =
      if session.feed.isSession id then readies (Feed.readLines text.toList) else [] := by
  have hput : session.commandsPut now (.request (.batch id text)) = [] := by
    have houtbox : (session.take now (.request (.batch id text))).1.outbox = session.outbox := by
      show (session.batch id text).1.outbox = session.outbox
      rw [batch]
      split <;> rfl
    rw [commandsPut, outbox_step, houtbox, List.drop_length]
  rw [exchanged, hput, List.map_nil, List.append_nil]
  simp only [linesTaken]
  split <;> rfl

/-- What is refused adds nothing. -/
theorem exchanged_of_refused {refusal : Refusal}
    (hreply : (session.step now input).2.1 = .refused refusal) :
    session.exchanged now input = [] := by
  obtain ⟨told, hturn⟩ := session.take_turn now input
  have htake : (session.take now input).2 = .refused refusal := by
    rw [← hreply, step_eq]
  rw [htake] at hturn
  obtain ⟨hnext, hlines⟩ := hturn.eq_of_refused
  rw [exchanged, commandsPut, outbox_step, hnext, hlines, List.drop_length]
  rfl

end Session

/-! ## The course of a session -/

/-- Not both of two entries are commands. -/
def Exchange.Apart (first second : Exchange) : Prop :=
  first.isCommand = false ∨ second.isCommand = false

/-- A log without two commands in a row, and the lock that it leaves. -/
structure Acknowledged (locked : Bool) (log : List Exchange) : Prop where
  lock : locked = commandOut log
  apart : log.IsChain Exchange.Apart

variable {locked after : Bool} {log added : List Exchange}

theorem isChain_readies (lines : List (Except Json.Problem (Message Float))) :
    (readies lines).IsChain Exchange.Apart := by
  rw [List.isChain_iff_forall_rel_of_append_cons_cons]
  intro first second before after hsplit
  have hmem : first ∈ readies lines := by simp [hsplit]
  have hfirst : first = .ready := eq_ready_of_mem_readies hmem
  exact .inl (by rw [hfirst]; rfl)

theorem Acknowledged.append (h : Acknowledged locked log) (hadded : Exchanged locked after added) :
    Acknowledged after (log ++ added) := by
  cases hadded with
  | nothing hsame =>
      rw [List.append_nil, hsame]
      exact h
  | command targets hopen hlocked =>
      refine ⟨by rw [hlocked, commandOut_append_singleton]; rfl, ?_⟩
      refine h.apart.append (List.isChain_singleton _) fun last hlast _ _ => .inl ?_
      -- the lock is open, so the log does not end with a command
      have hout : commandOut log = false := h.lock.symm.trans hopen
      rw [Option.mem_def] at hlast
      simpa [commandOut, hlast] using hout
  | readies lines hafter =>
      refine ⟨by rw [hafter, h.lock, commandOut_append_readies], ?_⟩
      refine h.apart.append (isChain_readies lines) fun _ _ first hfirst => .inr ?_
      rw [eq_ready_of_mem_readies (List.mem_of_head? hfirst)]
      rfl

namespace Session

theorem exchanges_append (first second : List Happening) (session : Session) :
    exchanges (first ++ second) session =
      exchanges first session ++ exchanges second (session.undergo first).1 := by
  induction first generalizing session with
  | nil => rfl
  | cons happening rest ih => simp only [List.cons_append, exchanges, ih, undergo, List.append_assoc]

/-- The log keeps up with the lock. -/
theorem undergo_acknowledged (settings : ConsoleSettings Float) (viewRate : UInt32)
    (happenings : List Happening) :
    Acknowledged ((fresh settings viewRate).undergo happenings).1.console.locked
      (exchanges happenings (fresh settings viewRate)) := by
  induction happenings using List.reverseRecOn with
  | nil => exact ⟨rfl, .nil⟩
  | append_singleton happenings happening ih =>
      rw [undergo_append, exchanges_append]
      cases happening with
      | input now input =>
          have hadded := ih.append (step_exchanged now input _)
          simpa only [undergo, exchanges, happen, List.append_nil] using hadded
      | commandsTaken | outboxAbandoned =>
          simp only [exchanges, List.append_nil]
          exact ih

end Session

/-- **Commands wait for ready.**  Whatever a session goes through, its log has no two commands in a
row, and the lock is taken exactly if the last entry of the log is a command; this holds part way
through a text of the feed too.  What another feed sends adds no entry, nor does a line that cannot be
read or does not say ready, nor a request that is refused. -/
theorem commands_wait_for_ready (settings : ConsoleSettings Float) (viewRate : UInt32)
    (happenings : List Happening) :
    let session := ((Session.fresh settings viewRate).undergo happenings).1
    let log := Session.exchanges happenings (Session.fresh settings viewRate)
    (∀ before first second after,
        log ≠ before ++ .command first :: .command second :: after) ∧
      session.console.locked = commandOut log ∧
      (∀ lines, (handleLines lines session.console).1.locked = commandOut (log ++ readies lines)) ∧
      (∀ now id text, session.exchanged now (.request (.batch id text)) =
        if session.feed.isSession id then readies (Feed.readLines text.toList) else []) ∧
      (∀ before line after, (∀ message, line = .ok message → message.ready ≠ some true) →
        readies (before ++ line :: after) = readies (before ++ after)) ∧
      ∀ now request refusal, (session.step now (.request request)).2.1 = .refused refusal →
        session.exchanged now (.request request) = [] := by
  intro session log
  have hlog := Session.undergo_acknowledged settings viewRate happenings
  refine ⟨fun before first second after hsplit => ?_, hlog.lock, fun lines => ?_,
    fun now id text => session.exchanged_batch now id text, fun before line after hline => ?_,
    fun now request refusal => Session.exchanged_of_refused⟩
  · have hapart : Exchange.Apart (.command first) (.command second) :=
      List.isChain_iff_forall_rel_of_append_cons_cons.mp hlog.apart hsplit
    rcases hapart with hfirst | hsecond
    · cases hfirst
    · cases hsecond
  · exact (hlog.append (.readies lines (handleLines_locked lines session.console))).lock
  · have hnone : lineExchange? line = none := by
      cases line with
      | error problem => rfl
      | ok message => exact if_neg (hline message rfl)
    simp only [readies, List.filterMap_append, List.filterMap_cons, hnone]

/-- A drone is sent home twice, and the swarm reports ready in between. -/
def sentHomeTwice : List Happening :=
  [.input 0 (.request (.openFeed (.numbered 1) 8)),
    .input 10 (.request (.batch (.numbered 1) "\x7b\"Drones\":[[0,1,2]]\x7d")),
    .input 20 (.request .goHome), .input 30 (.request .goHome), .commandsTaken,
    .input 40 (.request (.batch (.numbered 1) "\x7b\"Ready\":true\x7d")),
    .input 50 (.request .goHome)]

/-- The second of three commands is refused, since the first is still out. -/
example : (Session.exchanges sentHomeTwice (Session.fresh ⟨1000000000, 30, 0.5⟩ 30)).map
    Exchange.isCommand = [true, false, true] := by
  decide +kernel

end FleetConsole
