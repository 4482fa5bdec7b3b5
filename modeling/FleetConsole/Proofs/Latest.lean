import FleetConsole.Proofs.Turn
import Mathlib.Data.List.Induction

/-!
# What the latest snapshot shows

A session publishes when something was told or forced, and otherwise only after so many ticks.  So
the latest snapshot can be old, but only as far as an animation goes: since it was taken nothing has
happened to the console but ticks of the run under way, fewer of them than make a snapshot due.
`latest_behind_by_ticks` says this of every session.

* **Snapshots.**  `Snapshot.Shows` says of every part of a snapshot what it is in the console, but
  for the progress of the animation, and `Snapshot.ShowsProgress` of that progress.  A snapshot of a
  coherent console shows both (`Coherent.shows_snapshot`, `Coherent.showsProgress_snapshot`).
* **Consoles.**  What a snapshot shows besides progress is the same after a tick that tells nothing
  (`Console.SameButProgress`, `Ticked`).
* **Sessions.**  `Behind` relates the session that published last and the one of now.  An input that
  publishes brings both together (`Round.behind`); one that does not is a tick or leaves the session
  as it was (`Turn.quiet`).
-/

namespace FleetConsole

open Console

variable {α : Type}

/-! ## What a snapshot shows -/

/-- A snapshot shows a console and a feed as they are, but for the progress of the animation. -/
structure Snapshot.Shows (snapshot : Snapshot α) (seq : Nat) (feed : FeedStatus)
    (console : Console α) : Prop where
  seq : snapshot.seq = seq
  identifier : snapshot.identifier = console.identifier
  droneCount : snapshot.droneCount = console.fleet.size
  live : ∀ slot, snapshot.live[slot]? = console.fleet.liveAt.get? slot
  initial : ∀ slot, snapshot.initial[slot]? = console.fleet.initialAt.get? slot
  yOffset : snapshot.yOffset = console.fleet.yOffset
  running : snapshot.running = console.locked
  controlsEnabled : snapshot.controlsEnabled = !console.locked
  animating : snapshot.animation.running = console.animator.run.isSome
  run : snapshot.animation.run = console.animator.run.map Run.id
  feed : snapshot.feed = feed

/-- A snapshot shows how far the animation of a console is: where it has the drones, the moves that
are left on every path, and the sub-steps made of the next ones. -/
structure Snapshot.ShowsProgress (snapshot : Snapshot α) (console : Console α) : Prop where
  simulated : ∀ slot, snapshot.simulated[slot]? = console.fleet.simulatedAt.get? slot
  underWay : ∀ run, console.animator.run = some run →
    run.paths ≠ [] ∧ (∀ path ∈ run.paths, path.length = snapshot.animation.remainingMoves) ∧
      snapshot.animation.subStep = run.subStep
  idle : console.animator.run = none →
    snapshot.animation.remainingMoves = 0 ∧ snapshot.animation.subStep = 0

variable {settings : ConsoleSettings α} {console : Console α}

theorem Coherent.shows_snapshot (h : Coherent settings console) (seq : Nat) (feed : FeedStatus) :
    (console.snapshot seq feed).Shows seq feed console where
  seq := rfl
  identifier := rfl
  droneCount := rfl
  live := Slots.getElem?_values h.aligned.live
  initial := Slots.getElem?_values h.aligned.initial
  yOffset := rfl
  running := rfl
  controlsEnabled := rfl
  animating := Option.isSome_map
  run := rfl
  feed := rfl

theorem Coherent.showsProgress_snapshot (h : Coherent settings console) (seq : Nat)
    (feed : FeedStatus) : (console.snapshot seq feed).ShowsProgress console where
  simulated := Slots.getElem?_values h.aligned.simulated
  underWay := by
    intro run hrun
    obtain ⟨hunderWay, -⟩ := h.run run hrun
    obtain ⟨moves, -, hmoves⟩ := hunderWay.moves
    have hpaths := hunderWay.paths_ne_nil
    have hremaining := Animator.remainingMoves_of_run hrun hpaths hmoves
    refine ⟨hpaths, fun path hpath => (hmoves path hpath).trans hremaining.symm, ?_⟩
    show console.animator.subStep = run.subStep
    rw [Animator.subStep, hrun]
  idle := by
    intro hidle
    show console.animator.remainingMoves = 0 ∧ console.animator.subStep = 0
    rw [Animator.remainingMoves, Animator.subStep, hidle]
    exact ⟨rfl, rfl⟩

/-- Two consoles that differ at most in how far the animation is. -/
structure Console.SameButProgress (first second : Console α) : Prop where
  identifier : first.identifier = second.identifier
  live : first.fleet.liveAt = second.fleet.liveAt
  initial : first.fleet.initialAt = second.fleet.initialAt
  yOffset : first.fleet.yOffset = second.fleet.yOffset
  locked : first.locked = second.locked
  run : first.animator.currentRun = second.animator.currentRun

theorem Console.SameButProgress.trans {first second third : Console α}
    (h : first.SameButProgress second) (hnext : second.SameButProgress third) :
    first.SameButProgress third :=
  ⟨h.identifier.trans hnext.identifier, h.live.trans hnext.live, h.initial.trans hnext.initial,
    h.yOffset.trans hnext.yOffset, h.locked.trans hnext.locked, h.run.trans hnext.run⟩

theorem Snapshot.Shows.of_same {snapshot : Snapshot α} {seq : Nat} {feed : FeedStatus}
    {first second : Console α} (h : snapshot.Shows seq feed first)
    (hsame : first.SameButProgress second) : snapshot.Shows seq feed second where
  seq := h.seq
  identifier := h.identifier.trans hsame.identifier
  droneCount := h.droneCount.trans (congrArg Slots.size hsame.live)
  live slot := (h.live slot).trans (congrArg (Slots.get? slot) hsame.live)
  initial slot := (h.initial slot).trans (congrArg (Slots.get? slot) hsame.initial)
  yOffset := h.yOffset.trans hsame.yOffset
  running := h.running.trans hsame.locked
  controlsEnabled := h.controlsEnabled.trans (congrArg not hsame.locked)
  animating := by
    have hrun := congrArg Option.isSome hsame.run
    rw [Animator.currentRun, Animator.currentRun, Option.isSome_map, Option.isSome_map] at hrun
    exact h.animating.trans hrun
  run := h.run.trans hsame.run
  feed := h.feed

/-! ## Ticks that tell nothing -/

section Ticks

variable [Coordinate α] {first second third : Console α} {count : Nat}

/-- One console is the other after a number of sub-steps of the run under way, which is not over
yet. -/
structure Ticked (count : Nat) (first second : Console α) : Prop where
  ticks : ∃ run, performAll (List.replicate count (.tick run)) first = (second, []) ∧
    (count ≠ 0 → first.animator.currentRun = some run ∧ second.animator.currentRun = some run)
  same : first.SameButProgress second

theorem Ticked.refl (console : Console α) : Ticked 0 console console where
  ticks := ⟨0, rfl, fun hne => absurd rfl hne⟩
  same := ⟨rfl, rfl, rfl, rfl, rfl, rfl⟩

/-- A tick that tells nothing does nothing, or makes one more sub-step of the run under way. -/
theorem Ticked.tick (h : Ticked count first second) {run : Nat}
    (htick : perform (.tick run) second = (third, [])) :
    third = second ∨ Ticked (count + 1) first third := by
  obtain ⟨flown, hticks, hrun⟩ := h.ticks
  have heffect := perform_effect (.tick run) second
  rw [htick] at heffect
  simp only at heffect
  cases heffect with
  | tickIgnored => exact .inl rfl
  | tickStepped flight next hflight hnext =>
      have hsecond : second.animator.currentRun = some flight.id := by
        rw [Animator.currentRun, hflight]
        rfl
      -- all ticks were meant for the run that is under way now
      have hall : performAll (List.replicate count (.tick flight.id)) first = (second, []) ∧
          first.animator.currentRun = some flight.id := by
        cases count with
        | zero =>
            obtain rfl : first = second := congrArg Prod.fst hticks
            exact ⟨rfl, hsecond⟩
        | succ count =>
            obtain ⟨hfirst, hflown⟩ := hrun (Nat.succ_ne_zero count)
            obtain rfl := Option.some.inj (hflown.symm.trans hsecond)
            exact ⟨hticks, hfirst⟩
      have hthird : (next.id : Nat) = flight.id := Animator.id_of_advance hnext
      refine .inr ⟨⟨flight.id, ?_, fun _ => ⟨hall.2, congrArg some hthird⟩⟩, ?_⟩
      · rw [List.replicate_succ', performAll_append, hall.1, performAll_singleton, htick]
        rfl
      · have hrun : second.animator.currentRun = some next.id := hthird ▸ hsecond
        exact h.same.trans ⟨rfl, rfl, rfl, rfl, rfl, hrun⟩

end Ticks

/-! ## Turns after which nothing is due -/

variable {now : Nat} {session next : Session} {input : Input} {reply : Reply}
  {told : List (Event Float)}

/-- A turn after which nothing is due leaves the session as it was, or is a tick that tells
nothing. -/
theorem Turn.quiet (h : Turn now session input next reply told)
    (hdue : next.publisher.isDue = false) :
    next = session ∨ ∃ run, (session.console.tick run).2 = [] ∧
      next = { session with
        console := (session.console.tick run).1
        publisher := session.publisher.recordTick []
        armed := none } := by
  have hforced := (Publisher.isDue_eq_false_iff.mp hdue).1
  have htold := h.takes.told_eq_nil hdue
  cases h with
  | opened | closed | sent | committed => cases htold
  | batchTaken => cases hforced
  | ticked tick => exact .inr ⟨tick.run, htold, by rw [htold]⟩
  | openRefused | batchDropped | closeIgnored | sendRefused | commitRefused | notDue =>
      exact .inl rfl

/-! ## From one publication to the next -/

/-- A session that has published nothing since another one: its console is so many ticks ahead. -/
structure Behind (count : Nat) (published session : Session) : Prop where
  latest : session.latest = published.console.snapshot session.publisher.seq session.feed
  ticked : Ticked count published.console session.console
  counted : count ≤ session.publisher.ticks.toNat

variable {pace : UInt32} {published after : Session} {count : Nat}
  {publication : Option (Publication Float)}

/-- A round brings the latest snapshot and the session together, or they are one tick further apart
at most. -/
theorem Round.behind (h : Behind count published session) (hrest : session.AtRest pace)
    (hround : Round now session input after reply publication) :
    Behind 0 after after ∨ ∃ count, Behind count published after := by
  cases hround with
  | published next reply told hturn hdue => exact .inl ⟨rfl, .refl _, Nat.zero_le _⟩
  | quiet next reply hturn hdue =>
      refine .inr ?_
      rcases hturn.quiet hdue with rfl | ⟨run, htold, rfl⟩
      · exact ⟨count, h.latest, h.ticked, h.counted⟩
      · have hticks : (session.publisher.ticks + 1).toNat = session.publisher.ticks.toNat + 1 :=
          toNat_add_one_of_lt hrest.ticks
        have hcounted := h.counted
        have htick : perform (.tick run) session.console =
            ((session.console.tick run).1, []) := Prod.ext rfl htold
        rcases h.ticked.tick htick with hsame | hticked
        · refine ⟨count, h.latest, ?_, ?_⟩
          · show Ticked count published.console (session.console.tick run).1
            rw [hsame]
            exact h.ticked
          · show count ≤ (session.publisher.ticks + 1).toNat
            omega
        · refine ⟨count + 1, h.latest, hticked, ?_⟩
          show count + 1 ≤ (session.publisher.ticks + 1).toNat
          omega

/-- Whatever has happened to a session, there is a point from which on it has published nothing. -/
theorem Session.undergo_behind (settings : ConsoleSettings Float) (viewRate : UInt32)
    (happenings : List Happening) :
    ∃ before later count, happenings = before ++ later ∧
      Behind count ((fresh settings viewRate).undergo before).1
        ((fresh settings viewRate).undergo happenings).1 := by
  induction happenings using List.reverseRecOn with
  | nil => exact ⟨[], [], 0, rfl, rfl, .refl _, Nat.zero_le _⟩
  | append_singleton happenings happening ih =>
      obtain ⟨before, later, count, hsplit, hbehind⟩ := ih
      have hrest := undergo_atRest settings viewRate happenings
      have hsplit' : happenings ++ [happening] = before ++ (later ++ [happening]) := by
        rw [hsplit, List.append_assoc]
      have hlast : ((fresh settings viewRate).undergo (happenings ++ [happening])).1 =
          (((fresh settings viewRate).undergo happenings).1.happen happening).1 := by
        rw [undergo_append]
        rfl
      cases happening with
      | input now input =>
          rcases (step_round hrest now input).behind hbehind hrest with hnow | ⟨count, hlater⟩
          · refine ⟨_, [], 0, (List.append_nil _).symm, ?_⟩
            rw [hlast]
            exact hnow
          · exact ⟨before, _, count, hsplit', hlast ▸ hlater⟩
      | commandsTaken | outboxAbandoned =>
          refine ⟨before, _, count, hsplit', ?_⟩
          rw [hlast]
          exact ⟨hbehind.latest, hbehind.ticked, hbehind.counted⟩

/-- **The latest snapshot is behind by a few ticks at most.**  Whatever a session has gone through, its
latest snapshot shows everything but the progress of the animation as it is now.  That progress is
what it was when the snapshot was taken, after `before`, and a number of ticks of the run that was
under way then and still is; they are fewer than make a snapshot due. -/
theorem latest_behind_by_ticks (settings : ConsoleSettings Float) (viewRate : UInt32)
    (happenings : List Happening) :
    let session := ((Session.fresh settings viewRate).undergo happenings).1
    session.latest.Shows session.publisher.seq session.feed session.console ∧
      ∃ before later count, happenings = before ++ later ∧
        count < (max (snapshotInterval settings viewRate) 1).toNat ∧
        let published := ((Session.fresh settings viewRate).undergo before).1
        session.latest.Shows session.publisher.seq session.feed published.console ∧
          session.latest.ShowsProgress published.console ∧
          ∃ run, performAll (List.replicate count (.tick run)) published.console =
              (session.console, []) ∧
            (count ≠ 0 → published.console.animator.currentRun = some run ∧
              session.console.animator.currentRun = some run) := by
  intro session
  obtain ⟨before, later, count, hsplit, hbehind⟩ :=
    Session.undergo_behind settings viewRate happenings
  have hticks := UInt32.lt_iff_toNat_lt.mp
    (Session.undergo_atRest settings viewRate happenings).ticks
  have hpublished := Session.undergo_coherent settings viewRate before
  have hshown := hpublished.shows_snapshot session.publisher.seq session.feed
  have hprogress := hpublished.showsProgress_snapshot session.publisher.seq session.feed
  rw [← hbehind.latest] at hshown hprogress
  exact ⟨hshown.of_same hbehind.ticked.same, before, later, count, hsplit,
    Nat.lt_of_le_of_lt hbehind.counted hticks, hshown, hprogress, hbehind.ticked.ticks⟩

/-- A drone is told to fly a move, and its first tick is made. -/
def firstTick : List Happening :=
  [.input 0 (.request (.openFeed (.numbered 1) 8)),
    .input 10 (.request (.batch (.numbered 1)
      "\x7b\"Drones\":[[0,1,2]],\"Paths\":[[[60,0,0]]]\x7d")),
    .input 1000000010 .timer]

/-- With three ticks to a snapshot this one is not shown yet. -/
example :
    let settings : ConsoleSettings Float := ⟨1000000000, 60, 0.5⟩
    let session := ((Session.fresh settings 20).undergo firstTick).1
    snapshotInterval settings 20 = 3 ∧ session.latest.animation = ⟨some 1, 1, 0⟩ ∧
      session.latest.simulated = [⟨⟨0, 1.5, 2⟩⟩] ∧ session.console.animator.subStep = 1 ∧
      session.console.fleet.simulated = [⟨⟨1, 1.5, 2⟩⟩] := by
  decide +kernel

end FleetConsole
