import FleetConsole.Proofs.Delivery
import FleetConsole.Proofs.Lock
import FleetConsole.Proofs.OneFeed

/-!
# A closed feed

When the feed of a session closes, the session goes on, and so does the run that is under way.  But
nothing new begins.  No feed opens again, no command is sent, no text is read.  What is left to do at
the console is to fly the run to its end and to let the operator commit, and `WindsUp` says what that
can change.  `closed_feed_is_terminal` says it of every course that follows, in whatever state the
feed has closed: with a run under way, with an outcome that waits, or locked.

A locked console stays so for good, as the ready that would unlock it can never come.  Its live
positions are those of the closing.

The step is `Turn.windsUp`, by the turns that a session can still take, and `WindsUp.trans` puts the
steps of a course together.
-/

namespace FleetConsole

open Console

variable {α : Type}

/-! ## What is left to do -/

/-- The ticks that the run under way still needs. -/
def Animator.ticksLeft (animator : Animator α) : Nat :=
  animator.remainingMoves * animator.clock.frequency.toNat - animator.subStep.toNat

def Act.isTick : Act α → Bool
  | .tick _ => true
  | _ => false

/-- A tick of the run under way, or a commit of the operator. -/
def Act.IsLeft (console : Console α) : Act α → Prop
  | .tick run => console.animator.currentRun = some run
  | .operatorCommit => True
  | _ => False

namespace Act.IsLeft

variable {console later : Console α} {act : Act α}

/-- What is left to do later is left to do now, as no run is under way later that is not now. -/
theorem of_later (hleft : act.IsLeft later)
    (hruns : ∀ run, later.animator.currentRun = some run →
      console.animator.currentRun = some run) : act.IsLeft console := by
  cases act with
  | tick run => exact hruns run hleft
  | operatorCommit => trivial
  | _ => exact hleft.elim

theorem ne_roster (hleft : act.IsLeft console) (drones : List (Position α)) :
    act ≠ .roster drones := by
  rintro rfl
  exact hleft

theorem isHeld (hleft : act.IsLeft console) : act.IsHeld := by
  constructor
  · rintro rfl
    exact hleft
  · rintro rfl
    exact hleft

theorem liveAfter_eq (hleft : act.IsLeft console) (live : Slots (Position α)) :
    act.liveAfter live = live := by
  cases act with
  | tick | operatorCommit => rfl
  | _ => exact hleft.elim

end Act.IsLeft

/-- The events of such acts. -/
def Event.IsLeft (console : Console α) : Event α → Prop
  | .animationCompleted run | .commitDeferred run => console.animator.currentRun = some run
  | .reconciled _ => True
  | _ => False

theorem Event.IsLeft.of_later {console later : Console α} {event : Event α}
    (hleft : event.IsLeft later)
    (hruns : ∀ run, later.animator.currentRun = some run →
      console.animator.currentRun = some run) : event.IsLeft console := by
  cases event with
  | animationCompleted run | commitDeferred run => exact hruns run hleft
  | reconciled => trivial
  | _ => exact hleft.elim

namespace Animator

variable {animator : Animator α} {run : Run α}

theorem ticksLeft_of_run {moves : Nat} (hrun : animator.run = some run) (hpaths : run.paths ≠ [])
    (hmoves : ∀ path ∈ run.paths, path.length = moves) :
    animator.ticksLeft = moves * animator.clock.frequency.toNat - run.subStep.toNat := by
  simp only [ticksLeft, remainingMoves_of_run hrun hpaths hmoves, subStep, hrun]

theorem ticksLeft_of_none (hrun : animator.run = none) : animator.ticksLeft = 0 := by
  simp only [ticksLeft, remainingMoves, hrun, Nat.zero_mul, Nat.zero_sub]

/-- A sub-step takes one from the ticks that are left. -/
theorem ticksLeft_advance {fleetSize : Nat} (hrun : animator.run = some run)
    (h : run.UnderWay animator.clock.frequency.toNat fleetSize) :
    1 + ticksLeft { animator with run := advance animator.clock run } = animator.ticksLeft := by
  obtain ⟨moves, hmoves, hpaths⟩ := h.moves
  have hsub := h.subStep
  have hbefore := ticksLeft_of_run hrun h.paths_ne_nil hpaths
  have hmove : animator.clock.frequency.toNat ≤ moves * animator.clock.frequency.toNat :=
    Nat.le_mul_of_pos_left _ (Nat.pos_of_ne_zero hmoves)
  rw [advance_eq h.paths_ne_nil hpaths hsub, hbefore]
  split
  · -- the move goes on
    have hnext : ticksLeft { animator with run := some { run with subStep := run.subStep + 1 } } =
        moves * animator.clock.frequency.toNat - (run.subStep + 1).toNat :=
      ticksLeft_of_run (show _ = some { run with subStep := run.subStep + 1 } from rfl)
        h.paths_ne_nil hpaths
    rw [hnext, toNat_add_one_of_lt (UInt32.lt_iff_toNat_lt.mpr hsub)]
    omega
  · rename_i hlast
    split
    · -- there was but one move left
      rename_i hone
      obtain rfl : moves = 1 := by omega
      have hnext : ({ animator with run := none } : Animator α).ticksLeft = 0 :=
        ticksLeft_of_none rfl
      omega
    · have htails : ∀ path ∈ run.paths.map List.tail, path.length = moves - 1 := by
        intro path hpath
        obtain ⟨full, hfull, rfl⟩ := List.mem_map.mp hpath
        rw [List.length_tail, hpaths full hfull]
      have hnext : ticksLeft { animator with
            run := some { run with paths := run.paths.map List.tail, subStep := 0 } } =
          (moves - 1) * animator.clock.frequency.toNat - (0 : UInt32).toNat :=
        ticksLeft_of_run
          (show _ = some { run with paths := run.paths.map List.tail, subStep := 0 } from rfl)
          (by simpa using h.paths_ne_nil) htails
      rw [hnext, UInt32.toNat_zero, Nat.sub_mul]
      omega

end Animator

/-! ## Winding up -/

variable [Coordinate α]

/-- How a console is wound up: it does what is left to do, with so many ticks, and tells the events of
that.  All else stays as it is, and a locked console keeps its live positions as well. -/
structure WindsUp (first last : Console α) (told : List (Event α)) (ticks : Nat) : Prop where
  acts : ∃ acts, performAll acts first = (last, told) ∧ (∀ act ∈ acts, act.IsLeft first) ∧
    acts.countP Act.isTick = ticks
  told : ∀ event ∈ told, event.IsLeft first
  ticksLeft : ticks + last.animator.ticksLeft = first.animator.ticksLeft
  /-- no run starts -/
  currentRun : ∀ run, last.animator.currentRun = some run → first.animator.currentRun = some run
  lastRun : last.animator.lastRun = first.animator.lastRun
  locked : last.locked = first.locked
  identifier : last.identifier = first.identifier
  initialAt : last.fleet.initialAt = first.fleet.initialAt
  size : last.fleet.size = first.fleet.size
  liveAt : first.locked = true → last.fleet.liveAt = first.fleet.liveAt

namespace WindsUp

variable {first between last : Console α} {told more : List (Event α)} {ticks others : Nat}

theorem refl (console : Console α) : WindsUp console console [] 0 where
  acts := ⟨[], rfl, by simp, rfl⟩
  told := by simp
  ticksLeft := Nat.zero_add _
  currentRun := fun _ hrun => hrun
  lastRun := rfl
  locked := rfl
  identifier := rfl
  initialAt := rfl
  size := rfl
  liveAt := fun _ => rfl

theorem trans (h : WindsUp first between told ticks) (hmore : WindsUp between last more others) :
    WindsUp first last (told ++ more) (ticks + others) where
  acts := by
    obtain ⟨acts, hdone, hleft, hcount⟩ := h.acts
    obtain ⟨later, hlater, hlaterLeft, hlaterCount⟩ := hmore.acts
    refine ⟨acts ++ later, ?_, ?_, ?_⟩
    · rw [performAll_append, hdone, hlater]
    · intro act hact
      rcases List.mem_append.mp hact with hearly | hlate
      · exact hleft act hearly
      · exact (hlaterLeft act hlate).of_later h.currentRun
    · rw [List.countP_append, hcount, hlaterCount]
  told := by
    intro event hevent
    rcases List.mem_append.mp hevent with hearly | hlate
    · exact h.told event hearly
    · exact (hmore.told event hlate).of_later h.currentRun
  ticksLeft := by rw [Nat.add_assoc, hmore.ticksLeft, h.ticksLeft]
  currentRun := fun run hrun => h.currentRun run (hmore.currentRun run hrun)
  lastRun := hmore.lastRun.trans h.lastRun
  locked := hmore.locked.trans h.locked
  identifier := hmore.identifier.trans h.identifier
  initialAt := hmore.initialAt.trans h.initialAt
  size := hmore.size.trans h.size
  liveAt := fun hlocked => (hmore.liveAt (h.locked.trans hlocked)).trans (h.liveAt hlocked)

end WindsUp

variable {settings : ConsoleSettings α} {console next : Console α} {act : Act α}
  {events : List (Event α)}

namespace Effect

theorem told_of_left (heffect : Effect console act next events) (hleft : act.IsLeft console) :
    ∀ event ∈ events, event.IsLeft console := by
  cases heffect with
  | tickIgnored | tickStepped | operatorRefused => simp
  | tickDeferred run hrun | tickReconciled run hrun =>
      have hcurrent : console.animator.currentRun = some run.id := hleft
      simp [Event.IsLeft, hcurrent]
  | operatorCommitted => simp [Event.IsLeft]
  | _ => exact hleft.elim

theorem ticksLeft_of_left (heffect : Effect console act next events) (hleft : act.IsLeft console)
    (h : Coherent settings console) :
    (if act.isTick then 1 else 0) + next.animator.ticksLeft = console.animator.ticksLeft := by
  cases heffect with
  | tickIgnored id hother => exact absurd hleft hother
  | tickStepped run _ hrun hadvance | tickDeferred run hrun hadvance
  | tickReconciled run hrun hadvance =>
      have hunderWay := (h.run run hrun).1
      rw [← h.frequency] at hunderWay
      rw [← Animator.ticksLeft_advance hrun hunderWay, hadvance]
      rfl
  | operatorCommitted | operatorRefused => exact Nat.zero_add _
  | _ => exact hleft.elim

theorem currentRun_of_left (heffect : Effect console act next events)
    (hleft : act.IsLeft console) {run : Nat} (hrun : next.animator.currentRun = some run) :
    console.animator.currentRun = some run := by
  cases heffect with
  | tickStepped flown stepped hflown hnext =>
      have hsame : stepped.id = run := Option.some.inj hrun
      rw [Animator.currentRun, hflown, ← hsame, Animator.id_of_advance hnext]
      rfl
  | tickDeferred | tickReconciled => cases hrun
  | tickIgnored | operatorCommitted | operatorRefused => exact hrun
  | _ => exact hleft.elim

theorem unchanged_of_left (heffect : Effect console act next events)
    (hleft : act.IsLeft console) :
    next.animator.lastRun = console.animator.lastRun ∧ next.locked = console.locked ∧
      next.identifier = console.identifier := by
  cases heffect with
  | tickIgnored | tickStepped | tickDeferred | tickReconciled | operatorCommitted
  | operatorRefused => exact ⟨rfl, rfl, rfl⟩
  | _ => exact hleft.elim

end Effect

/-- What is left to do winds a console up. -/
theorem windsUp_perform (h : Coherent settings console) (hleft : act.IsLeft console) :
    WindsUp console (perform act console).1 (perform act console).2
      (if act.isTick then 1 else 0) := by
  have heffect := perform_effect act console
  obtain ⟨hlastRun, hlocked, hidentifier⟩ := heffect.unchanged_of_left hleft
  exact {
    acts := ⟨[act], performAll_singleton act console, by simpa using hleft,
      List.countP_singleton⟩
    told := heffect.told_of_left hleft
    ticksLeft := heffect.ticksLeft_of_left hleft h
    currentRun := fun run => heffect.currentRun_of_left hleft
    lastRun := hlastRun
    locked := hlocked
    identifier := hidentifier
    initialAt := heffect.initialAt_eq hleft.ne_roster
    size := heffect.size_eq hleft.ne_roster
    liveAt := fun hlocked => by
      rw [(heffect.keepsLock hlocked hleft.isHeld).live, hleft.liveAfter_eq] }

/-! ## A session without a feed -/

/-- A session whose feed has closed.  No feed opens again, no command is sent, and what a feed says is
dropped, with nothing that changes and nothing that is published.  No input puts anything into the
outbox. -/
structure Session.Offline (since : Nat) (session : Session) : Prop where
  feed : session.feed = .closed since
  openFeed : ∀ now id capacity, session.step now (.request (.openFeed id capacity)) =
    (session, .refused .transportClosed, none)
  move : ∀ now step, session.step now (.request (.move step)) =
    (session, .refused .transportClosed, none)
  goHome : ∀ now, session.step now (.request .goHome) =
    (session, .refused .transportClosed, none)
  batch : ∀ now id text, session.step now (.request (.batch id text)) = (session, .done, none)
  closeFeed : ∀ now id, session.step now (.request (.closeFeed id)) = (session, .done, none)
  outbox : ∀ now input, (session.step now input).1.outbox = session.outbox

variable {session after : Session} {happening : Happening} {input : Input} {reply : Reply}
  {told : List (Event Float)} {since now : Nat} {pace : UInt32}

theorem Session.clearance_of_closed (hclosed : session.feed = .closed since) :
    session.clearance = .error .transportClosed := by
  simp only [clearance, canSend, hclosed]
  rfl

/-- The turns that are left once the feed has closed. -/
theorem Turn.windsUp {settings : ConsoleSettings Float}
    (h : Turn now session input after reply told) (hclosed : session.feed = .closed since)
    (hsettled : session.Settled settings pace) :
    WindsUp session.console after.console told
        (session.firing? (.input now input)).toList.length ∧
      after.outbox = session.outbox := by
  cases h with
  | opened id capacity hwaiting =>
      rw [hclosed] at hwaiting
      cases hwaiting
  | batchTaken id text hfeed | closed id hfeed =>
      rw [hclosed] at hfeed
      cases hfeed
  | sent request targets htargets hclear =>
      rw [Session.clearance_of_closed hclosed] at hclear
      cases hclear
  | openRefused | batchDropped | closeIgnored | sendRefused | commitRefused =>
      exact ⟨.refl session.console, rfl⟩
  | notDue hearly =>
      rw [Session.firing?_of_early hearly]
      exact ⟨.refl session.console, rfl⟩
  | committed hready =>
      have hcommit : perform .operatorCommit session.console =
          (session.console.reconcile.1, [.reconciled session.console.reconcile.2]) := by
        simp only [perform, orNothing, operatorCommit, hready, bind, Except.bind]
      have hleft : Act.operatorCommit.IsLeft session.console := trivial
      have hwinds := windsUp_perform hsettled.coherent hleft
      rw [hcommit] at hwinds
      exact ⟨hwinds, rfl⟩
  | ticked tick harmed hdue =>
      have hleft : (Act.tick tick.run).IsLeft session.console := hsettled.currentRun_of_armed harmed
      rw [Session.firing?_of_due harmed hdue]
      exact ⟨windsUp_perform hsettled.coherent hleft, rfl⟩

namespace Session

variable {settings : ConsoleSettings Float}

theorem Settled.offline (h : session.Settled settings pace) (hclosed : session.feed = .closed since) :
    session.Offline since where
  feed := hclosed
  openFeed := by
    intro now id capacity
    apply h.rest.step_of_take
    simp only [take, handle, Session.openFeed, hclosed]
  move := by
    intro now step
    apply h.rest.step_of_take
    rw [take_command rfl, clearance_of_closed hclosed]
  goHome := by
    intro now
    apply h.rest.step_of_take
    rw [take_command rfl, clearance_of_closed hclosed]
  batch := by
    intro now id text
    apply h.rest.step_of_take
    simp only [take, handle, Session.batch, hclosed, FeedStatus.isSession, Bool.false_eq_true,
      if_false]
  closeFeed := by
    intro now id
    apply h.rest.step_of_take
    simp only [take, handle, Session.closeFeed, hclosed, FeedStatus.isSession, Bool.false_eq_true,
      if_false]
  outbox := by
    intro now input
    obtain ⟨told, hturn⟩ := session.take_turn now input
    rw [outbox_step, (hturn.windsUp hclosed h).2]

theorem Settled.windsUp_happen (h : session.Settled settings pace)
    (hclosed : session.feed = .closed since) (happening : Happening) :
    WindsUp session.console (session.happen happening).1.console (session.tells happening)
      (session.firing? happening).toList.length := by
  cases happening with
  | commandsTaken | outboxAbandoned => exact .refl session.console
  | input now input =>
      obtain ⟨told, hturn⟩ := session.take_turn now input
      rw [Session.happen, console_step, ← hturn.told_eq]
      exact (hturn.windsUp hclosed h).1

theorem Settled.windsUp_undergo (h : session.Settled settings pace)
    (hclosed : session.feed = .closed since) (later : List Happening) :
    WindsUp session.console (session.undergo later).1.console (tellsAll later session)
      (firings later session).length := by
  induction later generalizing session with
  | nil => exact .refl session.console
  | cons happening rest ih =>
      have hfirst := h.windsUp_happen hclosed happening
      have hrest := ih (h.happen happening) (closed_happen hclosed happening)
      rw [firings, List.length_append]
      exact hfirst.trans hrest

/-- The operator of a locked console is refused. -/
theorem AtRest.step_commit_of_locked (h : session.AtRest pace)
    (hlocked : session.console.locked = true) (now : Nat) :
    session.step now (.request .commit) = (session, .refused .commandsLocked, none) := by
  apply h.step_of_take
  simp only [take, handle, commit, operatorCommit, ready, hlocked, if_true, bind, Except.bind]

end Session

/-- **A closed feed is the end of it.**  In any course of a session after its feed has closed, the feed
stays closed since the same time.  Whoever wants to open a feed or to send a command is told so, texts
are dropped, and nothing is put into the outbox (`Session.Offline`).  What the console does is fly the
run that was under way, each tick that is made being one of those that it had left, and let the
operator commit; nothing else changes, and nothing else is published (`WindsUp`).  And if the console
was locked when the feed closed, then no commit is possible any more. -/
theorem closed_feed_is_terminal (settings : ConsoleSettings Float) (viewRate : UInt32)
    (past : List Happening) {since : Nat}
    (hclosed : ((Session.fresh settings viewRate).undergo past).1.feed = .closed since)
    (later : List Happening) :
    let session := ((Session.fresh settings viewRate).undergo past).1
    let reached := session.undergo later
    reached.1.Offline since ∧
      WindsUp session.console reached.1.console (reached.2.flatMap Publication.events)
        (Session.firings later session).length ∧
      (session.console.locked = true → ∀ now, reached.1.step now (.request .commit) =
        (reached.1, .refused .commandsLocked, none)) := by
  intro session reached
  have hsettled := Session.undergo_settled settings viewRate past
  have hlater : reached.1.Settled settings (max (snapshotInterval settings viewRate) 1) := by
    have hboth := Session.undergo_settled settings viewRate (past ++ later)
    rwa [Session.undergo_append] at hboth
  have hwinds : WindsUp session.console reached.1.console _ _ :=
    hsettled.windsUp_undergo hclosed later
  rw [← hsettled.rest.flatMap_events later] at hwinds
  refine ⟨hlater.offline (Session.closed_undergo hclosed later), hwinds, ?_⟩
  intro hlocked now
  exact hlater.rest.step_commit_of_locked (hwinds.locked.trans hlocked) now

/-- The feed closes while a plan is flown and a command is out. -/
def closedInFlight : List Happening :=
  oneDroneThere ++ [.input 20 shortPlan, .input 30 (.request .goHome),
    .input 40 (.request (.closeFeed (.numbered 1)))]

/-- The run is flown to its end, while everybody asks for something. -/
def afterwards : List Happening :=
  [.input 50 (.request .goHome), .input 500000020 .timer, .input 500000030 (.request .commit),
    .input 1000000020 .timer, .input 1000000030 (.request (.openFeed (.numbered 2) 8)),
    .input 2000000000 .timer]

theorem closed_feed_is_terminal_closedInFlight :
    let settings : ConsoleSettings Float := ⟨1000000000, 2, 0.5⟩
    let session := ((Session.fresh settings 30).undergo closedInFlight).1
    let reached := (session.undergo afterwards).1
    session.feed = .closed 40 ∧ session.console.locked = true ∧
      session.console.animator.ticksLeft = 2 ∧ reached.Offline 40 ∧
      reached.console.animator.ticksLeft = 0 ∧
      reached.console.fleet.liveAt = session.console.fleet.liveAt ∧
      ∀ now, reached.step now (.request .commit) = (reached, .refused .commandsLocked, none) := by
  intro settings session reached
  have hclosed : session.feed = .closed 40 := by decide +kernel
  have hlocked : session.console.locked = true := by decide +kernel
  have hticks : session.console.animator.ticksLeft = 2 := by decide +kernel
  have hfirings : (Session.firings afterwards session).length = 2 := by decide +kernel
  have hsession : ((Session.fresh settings 30).undergo closedInFlight).1 = session := rfl
  have hreached : (session.undergo afterwards).1 = reached := rfl
  have hterminal := closed_feed_is_terminal settings 30 closedInFlight hclosed afterwards
  simp only [hsession, hreached] at hterminal
  obtain ⟨hoffline, hwinds, hcommit⟩ := hterminal
  have hleft := hwinds.ticksLeft
  rw [hfirings, hticks] at hleft
  have hnone : reached.console.animator.ticksLeft = 0 := by omega
  exact ⟨hclosed, hlocked, hticks, hoffline, hnone, hwinds.liveAt hlocked, hcommit hlocked⟩

end FleetConsole
