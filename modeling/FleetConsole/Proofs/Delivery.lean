import FleetConsole.Proofs.Schedule

/-!
# From an event to its publication

Events come of ticks, of what a feed sends and of requests.  The publisher keeps them until a
snapshot is due; a flag and a count of ticks say when that is.  `every_event_published_once` says
that none of this shows: what is told while something happens (`Session.tells`) is what is published
right after it, all of it and in order, and nothing is kept for later.

The snapshots are numbered without gap, each of them is the latest one from then on, and in between
there are no more ticks than the interval of the publisher.

The step is `Delivery`, all that the publication after one happening can be.  Over a whole course
`AtRest.flatMap_events` and `AtRest.map_seq` put the steps together, and `AtRest.ticks_undergo`
counts the ticks of a stretch without publications.
-/

namespace FleetConsole

open Console

/-! ## What is told -/

namespace Session

/-- The events that a request tells. -/
def tellsOfRequest (session : Session) : Request → List (Event Float)
  | .openFeed id _ =>
      match session.feed with
      | .waiting => [.feedConnected id]
      | _ => []
  | .batch id text =>
      if session.feed.isSession id then (session.console.handleText text).2 else []
  | .closeFeed id => if session.feed.isSession id then [.feedClosed] else []
  | .commit =>
      match session.console.operatorCommit with
      | .ok (_, outcome) => [.reconciled outcome]
      | .error _ => []
  | command =>
      match command.targets?, session.clearance with
      | some targets, .ok () => [.commandSent (targets session.console.fleet)]
      | _, _ => []

/-- The events that are told when something happens: those of a request, or of the tick that is
made. -/
def tells (session : Session) : Happening → List (Event Float)
  | .input _ (.request request) => session.tellsOfRequest request
  | happening =>
      match session.firing? happening with
      | some firing => (session.console.tick firing.run).2
      | none => []

/-- All events that are told while things happen. -/
def tellsAll : List Happening → Session → List (Event Float)
  | [], _ => []
  | happening :: rest, session =>
      session.tells happening ++ tellsAll rest (session.happen happening).1

end Session

variable {now : Nat} {session next : Session} {input : Input} {reply : Reply}
  {told : List (Event Float)}

/-- The events of a turn depend on nothing but the session before it. -/
theorem Turn.told_eq (h : Turn now session input next reply told) :
    told = session.tells (.input now input) := by
  cases h with
  | opened id capacity hwaiting =>
      simp only [Session.tells, Session.tellsOfRequest, hwaiting]
  | openRefused id capacity refusal hfeed =>
      cases hlink : session.feed with
      | waiting =>
          rw [hlink] at hfeed
          cases hfeed
      | connected | closed => simp only [Session.tells, Session.tellsOfRequest, hlink]
  | batchTaken id text hfeed => exact (if_pos hfeed).symm
  | batchDropped id text hfeed | closeIgnored id hfeed =>
      have hother : ¬ session.feed.isSession id = true := by simp [hfeed]
      exact (if_neg hother).symm
  | closed id hfeed => exact (if_pos hfeed).symm
  | sent request targets htargets hclear =>
      cases request with
      | move | goHome =>
          obtain rfl := Option.some.inj htargets
          simp only [Session.tells, Session.tellsOfRequest, Request.targets?, hclear]
      | openFeed | batch | closeFeed | commit => cases htargets
  | sendRefused request refusal htargets hclear =>
      cases request with
      | move | goHome =>
          simp only [Session.tells, Session.tellsOfRequest, Request.targets?, hclear]
      | openFeed | batch | closeFeed | commit => exact absurd rfl htargets
  | committed hready =>
      simp only [Session.tells, Session.tellsOfRequest, operatorCommit, hready]
      rfl
  | commitRefused refusal hready =>
      simp only [Session.tells, Session.tellsOfRequest, operatorCommit, hready]
      rfl
  | ticked tick harmed hdue => simp only [Session.tells, Session.firing?_of_due harmed hdue]
  | notDue hearly => simp only [Session.tells, Session.firing?_of_early hearly]

/-! ## The publication after one happening -/

theorem Turn.latest_eq (h : Turn now session input next reply told) :
    next.latest = session.latest := by
  cases h <;> rfl

/-- Only the tick that is made counts. -/
theorem Turn.ticks_eq (h : Turn now session input next reply told) :
    next.publisher.ticks =
      if (session.firing? (.input now input)).isSome then session.publisher.ticks + 1
      else session.publisher.ticks := by
  cases h with
  | ticked tick harmed hdue =>
      rw [Session.firing?_of_due harmed hdue]
      rfl
  | notDue hearly =>
      rw [Session.firing?_of_early hearly]
      rfl
  | _ => rfl

/-- What is published after something has happened: nothing, if nothing was told, or a message with
all that was told and with a snapshot of the session as it is then, which is the latest from now
on. -/
inductive Delivery (session : Session) (happening : Happening) (next : Session) :
    Option (Publication Float) → Prop
  | silent (hevents : session.tells happening = [])
      (hlatest : next.latest = session.latest)
      (hseq : next.publisher.seq = session.publisher.seq) :
      Delivery session happening next none
  | published (publication : Publication Float)
      (hevents : publication.events = session.tells happening)
      (hsnapshot : publication.snapshot =
        next.console.snapshot (session.publisher.seq + 1) next.feed)
      (hlatest : next.latest = publication.snapshot)
      (hseq : next.publisher.seq = session.publisher.seq + 1) :
      Delivery session happening next (some publication)

variable {pace : UInt32} {publication : Option (Publication Float)} {happening : Happening}

theorem Round.delivery (hround : Round now session input next reply publication) :
    Delivery session (.input now input) next publication := by
  cases hround with
  | published taken reply told hturn hdue =>
      -- the number of the snapshot is counted from the publisher before the turn
      have hseq : taken.publisher.seq = session.publisher.seq := hturn.takes.seq
      refine .published _ hturn.told_eq ?_ rfl ?_
      · rw [← hseq]
        rfl
      · rw [← hseq]
        rfl
  | quiet taken reply hturn hdue =>
      exact .silent hturn.told_eq.symm hturn.latest_eq hturn.takes.seq

theorem Delivery.flatMap_events (h : Delivery session happening next publication) :
    publication.toList.flatMap Publication.events = session.tells happening := by
  cases h with
  | silent hevents => exact hevents.symm
  | published publication hevents => simpa using hevents

theorem Delivery.seq_eq (h : Delivery session happening next publication) :
    next.publisher.seq = session.publisher.seq + publication.toList.length := by
  cases h with
  | silent hevents hlatest hseq => exact hseq
  | published publication hevents hsnapshot hlatest hseq => exact hseq

theorem Delivery.map_seq (h : Delivery session happening next publication) :
    (publication.toList.map fun publication => publication.snapshot.seq) =
      List.range' (session.publisher.seq + 1) publication.toList.length := by
  cases h with
  | silent => rfl
  | published publication hevents hsnapshot =>
      show [publication.snapshot.seq] = [session.publisher.seq + 1]
      rw [hsnapshot]
      rfl

/-- A round without a publication counts the tick that it makes. -/
theorem Round.ticks_of_silent (hround : Round now session input next reply none) :
    next.publisher.ticks =
      if (session.firing? (.input now input)).isSome then session.publisher.ticks + 1
      else session.publisher.ticks := by
  cases hround with
  | quiet taken reply hturn hdue => exact hturn.ticks_eq

namespace Session

theorem AtRest.delivery (h : session.AtRest pace) (happening : Happening) :
    Delivery session happening (session.happen happening).1 (session.happen happening).2 := by
  cases happening with
  | input now input => exact (step_round h now input).delivery
  | commandsTaken | outboxAbandoned => exact .silent rfl rfl rfl

theorem AtRest.ticks_happen (h : session.AtRest pace) (happening : Happening)
    (hsilent : (session.happen happening).2 = none) :
    (session.happen happening).1.publisher.ticks.toNat =
      session.publisher.ticks.toNat + (session.firing? happening).toList.length := by
  cases happening with
  | input now input =>
      have hround := step_round h now input
      have hnone : (session.step now input).2.2 = none := hsilent
      rw [hnone] at hround
      show (session.step now input).1.publisher.ticks.toNat = _
      rw [hround.ticks_of_silent]
      cases session.firing? (.input now input) with
      | none => rfl
      | some firing =>
          show (session.publisher.ticks + 1).toNat = session.publisher.ticks.toNat + 1
          exact toNat_add_one_of_lt h.ticks
  | commandsTaken | outboxAbandoned => rfl

/-! ## Whole courses -/

/-- What is published is all that was told. -/
theorem AtRest.flatMap_events (h : session.AtRest pace) (happenings : List Happening) :
    (session.undergo happenings).2.flatMap Publication.events =
      tellsAll happenings session := by
  induction happenings generalizing session with
  | nil => rfl
  | cons happening rest ih =>
      have hrest : (session.happen happening).1.AtRest pace := h.undergo [happening]
      rw [Session.undergo, List.flatMap_append, ih hrest, (h.delivery happening).flatMap_events]
      rfl

/-- Snapshots are numbered one after the other. -/
theorem AtRest.map_seq (h : session.AtRest pace) (happenings : List Happening) :
    ((session.undergo happenings).2.map fun publication => publication.snapshot.seq) =
      List.range' (session.publisher.seq + 1) (session.undergo happenings).2.length := by
  induction happenings generalizing session with
  | nil => rfl
  | cons happening rest ih =>
      have hrest : (session.happen happening).1.AtRest pace := h.undergo [happening]
      have hdelivery := h.delivery happening
      rw [Session.undergo, List.map_append, ih hrest, hdelivery.map_seq, hdelivery.seq_eq,
        List.length_append, ← List.range'_append_1, Nat.add_right_comm]

/-- While nothing is published, every tick is counted. -/
theorem AtRest.ticks_undergo (h : session.AtRest pace) (happenings : List Happening)
    (hsilent : (session.undergo happenings).2 = []) :
    (session.undergo happenings).1.publisher.ticks.toNat =
      session.publisher.ticks.toNat + (firings happenings session).length := by
  induction happenings generalizing session with
  | nil => rfl
  | cons happening rest ih =>
      have hrest : (session.happen happening).1.AtRest pace := h.undergo [happening]
      obtain ⟨hnow, hlater⟩ := List.append_eq_nil_iff.mp hsilent
      have hfirst := h.ticks_happen happening (Option.toList_eq_nil_iff.mp hnow)
      calc (session.undergo (happening :: rest)).1.publisher.ticks.toNat
          = (session.happen happening).1.publisher.ticks.toNat +
              (firings rest (session.happen happening).1).length := ih hrest hlater
        _ = session.publisher.ticks.toNat +
              ((session.firing? happening).toList.length +
                (firings rest (session.happen happening).1).length) := by
            rw [hfirst, Nat.add_assoc]
        _ = session.publisher.ticks.toNat + (firings (happening :: rest) session).length := by
            rw [firings, List.length_append]

/-- Ticks that make no snapshot due are fewer than the interval. -/
theorem AtRest.length_firings_lt (h : session.AtRest pace) (happenings : List Happening)
    (hsilent : (session.undergo happenings).2 = []) :
    (firings happenings session).length < pace.toNat := by
  have hcounted := h.ticks_undergo happenings hsilent
  have hbelow := UInt32.lt_iff_toNat_lt.mp (h.undergo happenings).ticks
  omega

end Session

/-- **Every event is published once, in order and at once.**  In any course of a session, the events
of all messages, one message after the other, are all that was told by ticks, by texts of the feed
and by requests.  Nothing is left over between inputs: whatever happens next, what it tells is in
the message that is published right after it, whose snapshot becomes the latest; without a message,
nothing was told.  The snapshots are numbered one, two, three and so on.  And from one message to
the next, that of `next` included, there are no more ticks than the interval between snapshots. -/
theorem every_event_published_once (settings : ConsoleSettings Float) (viewRate : UInt32)
    (happenings : List Happening) :
    let start := Session.fresh settings viewRate
    let session := (start.undergo happenings).1
    let publications := (start.undergo happenings).2
    publications.flatMap Publication.events = Session.tellsAll happenings start ∧
      session.publisher.pending = [] ∧
      (∀ happening, Delivery session happening (session.happen happening).1
        (session.happen happening).2) ∧
      (publications.map fun publication => publication.snapshot.seq) =
        List.range' 1 publications.length ∧
      ∀ between next, (session.undergo between).2 = [] →
        (Session.firings (between ++ [next]) session).length ≤
          (max (snapshotInterval settings viewRate) 1).toNat := by
  intro start session publications
  have hfresh := Session.fresh_atRest settings viewRate
  have hrest := Session.undergo_atRest settings viewRate happenings
  refine ⟨hfresh.flatMap_events happenings, hrest.pending, hrest.delivery,
    hfresh.map_seq happenings, ?_⟩
  intro between next hsilent
  have hbetween : (Session.firings between session).length <
      (max (snapshotInterval settings viewRate) 1).toNat := hrest.length_firings_lt between hsilent
  have hnext : (Session.firings [next] (session.undergo between).1).length ≤ 1 := by
    rw [Session.firings]
    cases (session.undergo between).1.firing? next with
    | none => exact Nat.zero_le 1
    | some firing => exact Nat.le_refl 1
  rw [Session.firings_append, List.length_append]
  omega

/-- A drone is sent home, and has a move to fly. -/
def flyingHome : List Happening :=
  [.input 0 (.request (.openFeed (.numbered 1) 8)),
    .input 10 (.request (.batch (.numbered 1) "\x7b\"Drones\":[[0,1,2]]\x7d")),
    .input 20 (.request .goHome),
    .input 30 (.request (.batch (.numbered 1) "\x7b\"Paths\":[[[1,0,0]]]\x7d"))]

/-- Nothing is published when the command is taken, and the tick after that ends the run. -/
theorem every_event_published_once_flyingHome :
    let settings : ConsoleSettings Float := ⟨1000000000, 1, 0.5⟩
    let start := Session.fresh settings 30
    let session := (start.undergo flyingHome).1
    let tick := Happening.input 1000000030 .timer
    ((start.undergo flyingHome).2.map fun publication => publication.snapshot.seq) = [1, 2, 3, 4] ∧
      (start.undergo flyingHome).2.flatMap Publication.events =
        Session.tellsAll flyingHome start ∧
      (session.undergo [.commandsTaken]).2 = [] ∧
      (Session.firings [.commandsTaken, tick] session).length = 1 ∧
      1 ≤ (max (snapshotInterval settings 30) 1).toNat ∧
      ∃ publication, (session.happen tick).2 = some publication ∧
        publication.events = [.animationCompleted 1, .commitDeferred 1] := by
  intro settings start session tick
  obtain ⟨hevents, -, hdelivery, hseq, hticks⟩ := every_event_published_once settings 30 flyingHome
  have hlength : (start.undergo flyingHome).2.length = 4 := by
    decide +kernel
  rw [hlength] at hseq
  have hsilent : (session.undergo [.commandsTaken]).2 = [] := rfl
  have hcount : (Session.firings [.commandsTaken, tick] session).length = 1 := by
    decide +kernel
  have hinterval : (Session.firings ([.commandsTaken] ++ [tick]) session).length ≤ _ :=
    hticks [.commandsTaken] tick hsilent
  have htold : session.tells tick = [.animationCompleted 1, .commitDeferred 1] := by
    decide +kernel
  refine ⟨hseq, hevents, hsilent, hcount, hcount ▸ hinterval, ?_⟩
  have htick := hdelivery tick
  generalize (session.happen tick).2 = published at htick ⊢
  cases htick with
  | silent hnone =>
      rw [htold] at hnone
      cases hnone
  | published publication hmessage => exact ⟨publication, rfl, hmessage.trans htold⟩

end FleetConsole
