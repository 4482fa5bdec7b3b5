import FleetConsole.Proofs.Turn

/-!
# Only one feed counts

The first feed that opens is the only one that a session ever listens to.  Any other may open, send
and close as it likes: it is refused or ignored, and neither the console nor the timer nor the views
can tell that it was there.  The same goes for whatever a feed sends before the first one opens.

`only_first_feed_counts` compares a course of a session with its `essential` part, from which all this
has been deleted.  Both end in the same session, publish the same, and give the same answers to all
that is left.

A session at rest that ignores an input is left exactly as it was (`AtRest.step_of_take`), which is
why nothing has to be compared but one step.
-/

namespace FleetConsole

/-! ## What is deleted -/

/-- The feed that a request speaks for. -/
def Request.feed? : Request → Option SessionId
  | .openFeed id _ | .batch id _ | .closeFeed id => some id
  | .move _ | .goHome | .commit => none

namespace Happening

def feed? : Happening → Option SessionId
  | .input _ (.request request) => request.feed?
  | _ => none

/-- The feed that wants to open. -/
def opens? : Happening → Option SessionId
  | .input _ (.request (.openFeed id _)) => some id
  | _ => none

/-- When a feed closes. -/
def closes? (id : SessionId) : Happening → Option Nat
  | .input now (.request (.closeFeed other)) => if other = id then some now else none
  | _ => none

/-- What no other feed says. -/
def concerns (id : SessionId) (happening : Happening) : Bool :=
  happening.feed?.all fun other => other = id

theorem exists_of_concerns_eq_false {id : SessionId} {happening : Happening}
    (h : happening.concerns id = false) : ∃ other, happening.feed? = some other ∧ other ≠ id := by
  unfold concerns at h
  cases hfeed : happening.feed? with
  | none =>
      rw [hfeed] at h
      cases h
  | some other =>
      rw [hfeed] at h
      exact ⟨other, rfl, of_decide_eq_false h⟩

theorem eq_of_opens? {id : SessionId} {happening : Happening} (h : happening.opens? = some id) :
    ∃ now capacity, happening = .input now (.request (.openFeed id capacity)) := by
  unfold opens? at h
  split at h
  · obtain rfl := Option.some.inj h
    exact ⟨_, _, rfl⟩
  · cases h

end Happening

/-- What is left of a course when everything is deleted that a feed says before the first one opens,
and everything that another feed says after that. -/
def essentialBy {β : Type} (happening : β → Happening) : List β → List β
  | [] => []
  | entry :: rest =>
      match (happening entry).opens? with
      | some id => entry :: rest.filter fun later => (happening later).concerns id
      | none =>
          if (happening entry).feed? = none then entry :: essentialBy happening rest
          else essentialBy happening rest

def essential (happenings : List Happening) : List Happening := essentialBy id happenings

namespace Session

/-- The reply to what is asked for. -/
def reply? : Happening → Session → Option Reply
  | .input now input, session => some (session.step now input).2.1
  | _, _ => none

/-- All that happens, with the replies. -/
def answers : List Happening → Session → List (Happening × Option Reply)
  | [], _ => []
  | happening :: rest, session =>
      (happening, session.reply? happening) :: answers rest (session.happen happening).1

end Session

/-! ## The feed of a session -/

/-- The status of the feed after an input. -/
def FeedStatus.next (now : Nat) (feed : FeedStatus) : Input → FeedStatus
  | .request (.openFeed id _) =>
      match feed with
      | .waiting => .connected id now
      | _ => feed
  | .request (.closeFeed id) => if feed.isSession id then .closed now else feed
  | _ => feed

variable {now : Nat} {session next : Session} {input : Input} {reply : Reply}
  {told : List (Event Float)} {id : SessionId}

theorem Turn.feed (h : Turn now session input next reply told) :
    next.feed = session.feed.next now input := by
  cases h with
  | opened id capacity hwaiting =>
      rw [hwaiting]
      rfl
  | openRefused id capacity refusal hfeed =>
      cases hstatus : session.feed with
      | waiting =>
          rw [hstatus] at hfeed
          cases hfeed
      | connected | closed => rfl
  | closed id hfeed =>
      simp only [FeedStatus.next, hfeed, if_true]
      rfl
  | closeIgnored id hfeed => simp only [FeedStatus.next, hfeed, Bool.false_eq_true, if_false]
  | sent command targets htargets => cases command <;> first | rfl | cases htargets
  | sendRefused command refusal htargets =>
      cases command <;> first | rfl | exact absurd rfl htargets
  | batchTaken | batchDropped | committed | commitRefused | ticked | notDue => rfl

namespace Session

theorem feed_step (now : Nat) (input : Input) (session : Session) :
    (session.step now input).1.feed = session.feed.next now input := by
  obtain ⟨told, hturn⟩ := session.take_turn now input
  rw [← hturn.feed, step_eq]
  simp only [arm, publish]
  split <;> rfl

theorem feed_happen (happening : Happening) (session : Session) :
    (session.happen happening).1.feed =
      match happening with
      | .input now input => session.feed.next now input
      | .commandsTaken | .outboxAbandoned => session.feed := by
  cases happening with
  | input now input => exact feed_step now input session
  | commandsTaken | outboxAbandoned => rfl

end Session

/-- The feed is that of a session, or it was. -/
def FeedStatus.Belongs (id : SessionId) : FeedStatus → Prop
  | .waiting => False
  | .connected current _ => current = id
  | .closed _ => True

theorem FeedStatus.Belongs.ne_waiting {feed : FeedStatus} (h : feed.Belongs id) :
    feed ≠ .waiting := by
  rintro rfl
  exact h

theorem FeedStatus.Belongs.isSession_eq_false {feed : FeedStatus} (h : feed.Belongs id)
    {other : SessionId} (hother : other ≠ id) : feed.isSession other = false := by
  cases feed with
  | waiting | closed => rfl
  | connected current since =>
      obtain rfl : current = id := h
      exact decide_eq_false (Ne.symm hother)

theorem FeedStatus.Belongs.after_input {feed : FeedStatus} (h : feed.Belongs id) (now : Nat)
    (input : Input) : (feed.next now input).Belongs id := by
  cases feed with
  | waiting => exact h.elim
  | connected | closed =>
      unfold FeedStatus.next
      split
      · exact h
      · split
        · trivial
        · exact h
      · exact h

namespace Session

variable {pace : UInt32} {since : Nat}

/-- Once a feed has opened, the session never waits for one again. -/
theorem belongs_happen (h : session.feed.Belongs id) (happening : Happening) :
    (session.happen happening).1.feed.Belongs id := by
  rw [feed_happen]
  cases happening with
  | input now input => exact h.after_input now input
  | commandsTaken | outboxAbandoned => exact h

/-- Unless a feed opens, the session goes on waiting for one. -/
theorem waiting_happen (h : session.feed = .waiting) {happening : Happening}
    (hopens : happening.opens? = none) : (session.happen happening).1.feed = .waiting := by
  rw [feed_happen]
  cases happening with
  | commandsTaken | outboxAbandoned => exact h
  | input now input =>
      rw [h]
      cases input with
      | timer => rfl
      | request request =>
          cases request with
          | openFeed => cases hopens
          | _ => rfl

/-- The first feed that opens is connected. -/
theorem opens_happen (h : session.feed = .waiting) (now : Nat) (id : SessionId) (capacity : Nat) :
    (session.happen (.input now (.request (.openFeed id capacity)))).1.feed =
      .connected id now := by
  rw [feed_happen, h]
  rfl

theorem connected_happen (h : session.feed = .connected id since) {happening : Happening}
    (hcloses : happening.closes? id = none) :
    (session.happen happening).1.feed = .connected id since := by
  rw [feed_happen]
  cases happening with
  | commandsTaken | outboxAbandoned => exact h
  | input now input =>
      rw [h]
      cases input with
      | timer => rfl
      | request request =>
          cases request with
          | closeFeed other =>
              have hother : id ≠ other := by
                rintro rfl
                simp [Happening.closes?] at hcloses
              simp [FeedStatus.next, FeedStatus.isSession, hother]
          | _ => rfl

theorem closes_happen (h : session.feed = .connected id since) {happening : Happening}
    (hcloses : happening.closes? id = some now) :
    (session.happen happening).1.feed = .closed now := by
  unfold Happening.closes? at hcloses
  split at hcloses
  · split at hcloses
    · cases hcloses
      subst_vars
      simp [feed_happen, h, FeedStatus.next, FeedStatus.isSession]
    · cases hcloses
  · cases hcloses

theorem closed_happen (h : session.feed = .closed since) (happening : Happening) :
    (session.happen happening).1.feed = .closed since := by
  rw [feed_happen]
  cases happening with
  | commandsTaken | outboxAbandoned => exact h
  | input now input =>
      rw [h]
      cases input with
      | timer => rfl
      | request request => cases request <;> rfl

theorem closed_undergo (h : session.feed = .closed since) (happenings : List Happening) :
    (session.undergo happenings).1.feed = .closed since := by
  induction happenings generalizing session with
  | nil => exact h
  | cons happening rest ih => exact ih (closed_happen h happening)

/-- A feed that is connected stays so until it closes, and then no other opens. -/
theorem feed_undergo (h : session.feed = .connected id since) (happenings : List Happening) :
    (session.undergo happenings).1.feed =
      match happenings.findSome? (Happening.closes? id) with
      | none => .connected id since
      | some now => .closed now := by
  induction happenings generalizing session with
  | nil => exact h
  | cons happening rest ih =>
      rw [List.findSome?_cons]
      cases hcloses : happening.closes? id with
      | none => exact ih (connected_happen h hcloses)
      | some now => exact closed_undergo (closes_happen h hcloses) rest

theorem waiting_undergo (h : session.feed = .waiting) {happenings : List Happening}
    (hopens : ∀ happening ∈ happenings, happening.opens? = none) :
    (session.undergo happenings).1.feed = .waiting := by
  induction happenings generalizing session with
  | nil => exact h
  | cons happening rest ih =>
      exact ih (waiting_happen h (hopens happening (List.mem_cons_self ..)))
        fun later hlater => hopens later (List.mem_cons_of_mem _ hlater)

/-! ## Opening -/

theorem reply?_input (now : Nat) (input : Input) (session : Session) :
    session.reply? (.input now input) = some (session.take now input).2 := by
  rw [reply?, step_eq]

theorem reply?_open_waiting (h : session.feed = .waiting) (now : Nat) (id : SessionId)
    (capacity : Nat) :
    session.reply? (.input now (.request (.openFeed id capacity))) = some .done := by
  rw [reply?_input]
  simp only [take, handle, openFeed, h]

theorem reply?_open_refused {refusal : Refusal} (h : session.feed.refusal? = some refusal)
    (now : Nat) (id : SessionId) (capacity : Nat) :
    session.reply? (.input now (.request (.openFeed id capacity))) =
      some (.refused refusal) := by
  rw [reply?_input]
  cases hstatus : session.feed with
  | waiting =>
      rw [hstatus] at h
      cases h
  | connected | closed =>
      rw [hstatus] at h
      obtain rfl := Option.some.inj h
      simp only [take, handle, openFeed, hstatus]

/-! ## What is ignored -/

/-- A session ignores what a feed says that is not the connected one, unless it is the first that
opens. -/
theorem take_of_other {request : Request} (hfeed : request.feed? = some id)
    (hother : session.feed.isSession id = false)
    (hopens : (Happening.input now (.request request)).opens? ≠ none → session.feed ≠ .waiting) :
    (session.take now (.request request)).1 = session := by
  cases request with
  | move | goHome | commit => cases hfeed
  | openFeed other capacity =>
      cases hstatus : session.feed with
      | waiting => exact absurd hstatus (hopens nofun)
      | connected | closed => simp only [take, handle, openFeed, hstatus]
  | batch other text =>
      obtain rfl := Option.some.inj hfeed
      simp only [take, handle, batch, hother, Bool.false_eq_true, if_false]
  | closeFeed other =>
      obtain rfl := Option.some.inj hfeed
      simp only [take, handle, closeFeed, hother, Bool.false_eq_true, if_false]

theorem AtRest.happen_of_other (h : session.AtRest pace) {happening : Happening}
    (hfeed : happening.feed? = some id) (hother : session.feed.isSession id = false)
    (hopens : happening.opens? ≠ none → session.feed ≠ .waiting) :
    session.happen happening = (session, none) := by
  cases happening with
  | commandsTaken | outboxAbandoned => cases hfeed
  | input now input =>
      cases input with
      | timer => cases hfeed
      | request request =>
          have htake := h.step_of_take (Prod.ext (take_of_other hfeed hother hopens) rfl)
          rw [happen, htake]

theorem AtRest.happen (h : session.AtRest pace) (happening : Happening) :
    (session.happen happening).1.AtRest pace :=
  h.undergo [happening]

/-! ## Deleting what does not count -/

/-- Once the first feed has opened, nothing that another one says makes a difference. -/
theorem AtRest.undergo_filter (h : session.AtRest pace) (hfeed : session.feed.Belongs id)
    (happenings : List Happening) :
    session.undergo (happenings.filter (Happening.concerns id)) = session.undergo happenings ∧
      answers (happenings.filter (Happening.concerns id)) session =
        (answers happenings session).filter fun entry => entry.1.concerns id := by
  induction happenings generalizing session with
  | nil => exact ⟨rfl, rfl⟩
  | cons happening rest ih =>
      cases hconcerns : happening.concerns id with
      | true =>
          obtain ⟨hsame, hanswers⟩ := ih (h.happen happening) (belongs_happen hfeed happening)
          simp only [List.filter_cons, hconcerns, if_true, Session.undergo, answers, hsame,
            hanswers, and_self]
      | false =>
          obtain ⟨other, hother, hne⟩ := Happening.exists_of_concerns_eq_false hconcerns
          have hignored := h.happen_of_other hother (hfeed.isSession_eq_false hne)
            fun _ => hfeed.ne_waiting
          obtain ⟨hsame, hanswers⟩ := ih h hfeed
          simp only [List.filter_cons, hconcerns, Bool.false_eq_true, if_false, Session.undergo,
            answers, hignored, hsame, hanswers, Option.toList_none, List.nil_append, Prod.eta,
            and_self]

/-- Nothing that is deleted makes a difference. -/
theorem AtRest.undergo_essential (h : session.AtRest pace) (hfeed : session.feed = .waiting)
    (happenings : List Happening) :
    session.undergo (essential happenings) = session.undergo happenings ∧
      answers (essential happenings) session = essentialBy Prod.fst (answers happenings session) := by
  unfold essential
  induction happenings generalizing session with
  | nil => exact ⟨rfl, rfl⟩
  | cons happening rest ih =>
      cases hopens : happening.opens? with
      | some id =>
          obtain ⟨now, capacity, rfl⟩ := Happening.eq_of_opens? hopens
          obtain ⟨hsame, hanswers⟩ := (h.happen _).undergo_filter
            (by rw [opens_happen hfeed now id capacity]; rfl) rest
          simp only [essentialBy, id_eq, hopens, Session.undergo, answers, hsame, hanswers, and_self]
      | none =>
          by_cases hnone : happening.feed? = none
          · obtain ⟨hsame, hanswers⟩ := ih (h.happen happening) (waiting_happen hfeed hopens)
            simp only [essentialBy, id_eq, hopens, hnone, if_true, Session.undergo, answers, hsame,
              hanswers, and_self]
          · obtain ⟨other, hother⟩ := Option.ne_none_iff_exists'.mp hnone
            have hignored := h.happen_of_other hother (by rw [hfeed]; rfl)
              fun hsome => absurd hopens hsome
            obtain ⟨hsame, hanswers⟩ := ih h hfeed
            simp only [essentialBy, id_eq, hopens, hnone, if_false, Session.undergo, answers, hignored,
              hsame, hanswers, Option.toList_none, List.nil_append, Prod.eta, and_self]

end Session

/-! ## One feed -/

/-- **Only the first feed counts.**  It opens, and no other does: each later one is refused, as the
session is busy while the first one is connected and closed after that.  And if everything is deleted
that a feed has said before it, and that another feed says after it, then the session ends in the
same state, publishes the same, and gives the same answer to all that is left. -/
theorem only_first_feed_counts (settings : ConsoleSettings Float) (viewRate : UInt32)
    {before : List Happening} (hbefore : ∀ happening ∈ before, happening.opens? = none)
    (now : Nat) (id : SessionId) (capacity : Nat) (after : List Happening) :
    let start := Session.fresh settings viewRate
    let opening := Happening.input now (.request (.openFeed id capacity))
    let course := before ++ opening :: after
    start.undergo (essential course) = start.undergo course ∧
      start.answers (essential course) = essentialBy Prod.fst (start.answers course) ∧
      (start.undergo before).1.reply? opening = some .done ∧
      ∀ (between rest : List Happening) (later : Nat) (other : SessionId) (room : Nat),
        let again := Happening.input later (.request (.openFeed other room))
        after = between ++ again :: rest →
        let reached := (start.undergo (before ++ opening :: between)).1
        match between.findSome? (Happening.closes? id) with
        | none =>
            reached.feed = .connected id now ∧ reached.reply? again = some (.refused .feedBusy)
        | some closing =>
            reached.feed = .closed closing ∧
              reached.reply? again = some (.refused .transportClosed) := by
  intro start opening course
  have hwaiting : (start.undergo before).1.feed = .waiting := Session.waiting_undergo rfl hbefore
  obtain ⟨hsame, hanswers⟩ :=
    (Session.fresh_atRest settings viewRate).undergo_essential rfl course
  refine ⟨hsame, hanswers, Session.reply?_open_waiting hwaiting now id capacity, ?_⟩
  intro between rest later other room again _ reached
  have hreached : reached.feed =
      match between.findSome? (Happening.closes? id) with
      | none => .connected id now
      | some closing => .closed closing := by
    rw [← Session.feed_undergo (Session.opens_happen hwaiting now id capacity) between]
    show ((start.undergo (before ++ opening :: between)).1).feed = _
    rw [Session.undergo_append]
    rfl
  cases hclosing : between.findSome? (Happening.closes? id) with
  | none =>
      rw [hclosing] at hreached
      exact ⟨hreached, Session.reply?_open_refused (by rw [hreached]; rfl) later other room⟩
  | some closing =>
      rw [hclosing] at hreached
      exact ⟨hreached, Session.reply?_open_refused (by rw [hreached]; rfl) later other room⟩

/-- A second feed brings a drone before the first one opens, and opens after the first has closed. -/
theorem only_first_feed_counts_secondFeed :
    let start := Session.fresh ⟨1000000000, 30, 1 / 2⟩ 30
    let first := SessionId.socket 1
    let second := SessionId.socket 2
    let drone := Happening.input 10 (.request (.batch second "\x7b\"Drones\":[[0,1,2]]\x7d"))
    let opening := Happening.input 20 (.request (.openFeed first 8))
    let closing := Happening.input 30 (.request (.closeFeed first))
    let again := Happening.input 40 (.request (.openFeed second 8))
    let course := [drone, opening, drone, closing, again]
    (∀ happening ∈ [drone], happening.opens? = none) ∧
      start.undergo [opening, closing] = start.undergo course ∧
      (start.undergo [drone]).1.reply? opening = some .done ∧
      (start.undergo [drone, opening, drone, closing]).1.reply? again =
        some (.refused .transportClosed) := by
  intro start first second drone opening closing again course
  have hdrone : ∀ happening ∈ [drone], happening.opens? = none := by
    intro happening hmem
    obtain rfl := List.mem_singleton.mp hmem
    rfl
  obtain ⟨hsame, -, hopened, hlater⟩ := only_first_feed_counts ⟨1000000000, 30, 1 / 2⟩ 30 hdrone
    20 first 8 [drone, closing, again]
  exact ⟨hdrone, hsame, hopened, (hlater [drone, closing] [] 40 second 8 rfl).2⟩

end FleetConsole
