import FleetConsole.Proofs.Delivery
import FleetConsole.Service.Socket

/-!
# A view that arrives

A session publishes in two steps: the snapshot of a message is stored as the latest one, and then the
message is sent to all views.  A view begins in two steps as well: it subscribes, and then it reads the
latest snapshot.  The steps of both may come in any order, with any number of others between them.
`new_view_misses_nothing` says that the order of the two steps on either side is the right one: no
message is newer than the snapshot that the view has read and does not come to it after that.

## Strategy

An `Arrival` is a session, its gallery and one view, and a `Move` is one step of any of them; `Makes`
lists all that a move can do.  The messages that have come to the view, wait for it or are on their way
make one list, `arrived`.  The invariant is `Kept`: that list is all that was published since the view
has read the latest snapshot, with some messages before it that were published earlier (`Covers`).
Subscribing makes it true, since whatever is sent from then on comes to the view, and no move undoes it
(`Kept.step`).  Both hold as long as nothing is dropped for the view, and nothing is if it keeps up
(`undropped_run`).
-/

namespace FleetConsole

/-! ## One view among others -/

/-- If nothing has been dropped, nothing was dropped before and the message waits with the others. -/
theorem View.backlog_push {capacity : Nat} {publication : Publication Float} {view : View}
    (h : (view.push capacity publication).missed = 0) :
    view.missed = 0 ∧
      (view.push capacity publication).backlog = view.backlog ++ [publication] := by
  obtain ⟨hmissed, hroom⟩ := Nat.add_eq_zero_iff.mp h
  exact ⟨hmissed, by simp only [push, hroom, List.drop_zero]⟩

theorem View.missed_push {capacity : Nat} {view : View} (h : view.backlog.length < capacity)
    (publication : Publication Float) : (view.push capacity publication).missed = view.missed := by
  have hroom : (view.backlog ++ [publication]).length - capacity = 0 := by
    rw [List.length_append, List.length_singleton]
    omega
  simp only [push, hroom, Nat.add_zero]

namespace Gallery

variable {id other : Nat} {gallery : Gallery}

/-- The view of a number. -/
def view? (id : Nat) (gallery : Gallery) : Option View := gallery.views.find? (·.id = id)

/-- A view looks at the oldest message that waits for it. -/
def look (id : Nat) (gallery : Gallery) : Gallery :=
  { gallery with
    views := gallery.views.map fun view =>
      if view.id = id then { view with backlog := view.backlog.tail } else view }

theorem view?_send (publication : Publication Float) :
    (gallery.send publication).view? id =
      (gallery.view? id).map (View.push gallery.capacity publication) :=
  List.find?_map

theorem view?_look :
    (gallery.look id).view? id =
      (gallery.view? id).map fun view => { view with backlog := view.backlog.tail } := by
  have hkeeps : ((fun view : View => decide (view.id = id)) ∘ fun view =>
      if view.id = id then { view with backlog := view.backlog.tail } else view) =
        fun view => decide (view.id = id) := by
    funext view
    by_cases h : view.id = id <;> simp [h]
  rw [view?, look, List.find?_map, hkeeps]
  cases hview : gallery.views.find? fun view => decide (view.id = id) with
  | none => simp [view?, hview]
  | some view =>
      have hid : view.id = id := by simpa using List.find?_some hview
      simp [view?, hview, hid]

theorem view?_subscribe (h : gallery.view? id = none) :
    (gallery.subscribe id).view? id = some ⟨id, [], 0⟩ := by
  rw [view?, subscribe, List.find?_append, show gallery.views.find? _ = none from h]
  simp

theorem view?_subscribe_of_ne (h : other ≠ id) :
    (gallery.subscribe other).view? id = gallery.view? id := by
  rw [view?, subscribe, List.find?_append]
  simp [h, view?]

theorem view?_unsubscribe_of_ne (h : other ≠ id) :
    (gallery.unsubscribe other).view? id = gallery.view? id := by
  rw [view?, unsubscribe, List.find?_filter, view?]
  congr 1
  funext view
  by_cases hid : view.id = id <;> simp [hid, Ne.symm h]

end Gallery

/-! ## Moves -/

/-- A session, its gallery, and one view on its way into it. -/
structure Arrival where
  session : Session
  gallery : Gallery
  /-- a message whose snapshot is stored and that has not been sent -/
  unsent : Option (Publication Float)
  /-- what has happened to the session, until the view has read the latest snapshot -/
  before : List Happening
  /-- what has happened since then -/
  since : List Happening
  /-- the snapshot that the view has read -/
  initial : Option (Snapshot Float)
  /-- the messages that the view has looked at -/
  seen : List (Publication Float)

/-- One step of a session or of a view. -/
inductive Move
  /-- something happens to the session; if it is to publish a message, its snapshot is stored -/
  | turn (happening : Happening)
  /-- the message is sent -/
  | send
  | subscribe
  /-- the view reads the latest snapshot -/
  | read
  /-- the view looks at the next message -/
  | look
  /-- another view subscribes -/
  | join (other : Nat)
  /-- another view goes away -/
  | leave (other : Nat)

namespace Arrival

/-- A session whose gallery has just been opened. -/
def opened (start : Session) : Arrival := ⟨start, .opened start.latest, none, [], [], none, []⟩

def turn (happening : Happening) (a : Arrival) : Arrival :=
  let (session, publication) := a.session.happen happening
  { a with
    session := session
    gallery := publication.elim a.gallery fun publication => a.gallery.store publication.snapshot
    unsent := publication
    before := if a.initial.isNone then a.before ++ [happening] else a.before
    since := if a.initial.isNone then a.since else a.since ++ [happening] }

/-- A move is made in its turn: a message is sent before anything else happens to the session, and a
view subscribes before it reads and reads before it looks.  A move out of turn does nothing. -/
def step (id : Nat) (a : Arrival) : Move → Arrival
  | .turn happening =>
      match a.unsent with
      | some _ => a
      | none => a.turn happening
  | .send =>
      match a.unsent with
      | some publication => { a with gallery := a.gallery.send publication, unsent := none }
      | none => a
  | .subscribe =>
      match a.gallery.view? id with
      | some _ => a
      | none => { a with gallery := a.gallery.subscribe id }
  | .read =>
      match a.gallery.view? id, a.initial with
      | some _, none => { a with initial := some a.gallery.latest }
      | _, _ => a
  | .look =>
      match a.gallery.view? id, a.initial with
      | some view, some _ =>
          { a with gallery := a.gallery.look id, seen := a.seen ++ view.backlog.take 1 }
      | _, _ => a
  | .join other => if other = id then a else { a with gallery := a.gallery.subscribe other }
  | .leave other => if other = id then a else { a with gallery := a.gallery.unsubscribe other }

/-- Moves one after the other. -/
def run (id : Nat) (moves : List Move) (a : Arrival) : Arrival := moves.foldl (step id) a

/-- The messages that the view has looked at, those that wait for it, and the one that is on its
way. -/
def arrived (view : View) (a : Arrival) : List (Publication Float) :=
  a.seen ++ (view.backlog ++ a.unsent.toList)

/-! ### What a move does -/

/-- One case for everything that a move can do. -/
inductive Makes (id : Nat) (a : Arrival) : Move → Arrival → Prop
  | turned (happening : Happening) (hunsent : a.unsent = none) :
      Makes id a (.turn happening) (a.turn happening)
  | sent (publication : Publication Float) (hunsent : a.unsent = some publication) :
      Makes id a .send { a with gallery := a.gallery.send publication, unsent := none }
  | subscribed (hview : a.gallery.view? id = none) :
      Makes id a .subscribe { a with gallery := a.gallery.subscribe id }
  | read (view : View) (hview : a.gallery.view? id = some view) (hinitial : a.initial = none) :
      Makes id a .read { a with initial := some a.gallery.latest }
  | looked (view : View) (hview : a.gallery.view? id = some view) :
      Makes id a .look
        { a with gallery := a.gallery.look id, seen := a.seen ++ view.backlog.take 1 }
  /-- another view subscribes or goes away -/
  | elsewhere (move : Move) (gallery : Gallery) (hlatest : gallery.latest = a.gallery.latest)
      (hcapacity : gallery.capacity = a.gallery.capacity)
      (hview : gallery.view? id = a.gallery.view? id) :
      Makes id a move { a with gallery := gallery }
  | outOfTurn (move : Move) : Makes id a move a

theorem step_makes (id : Nat) (a : Arrival) (move : Move) : Makes id a move (a.step id move) := by
  cases move with
  | turn happening =>
      simp only [step]
      split
      · exact .outOfTurn _
      · exact .turned happening ‹_›
  | send =>
      simp only [step]
      split
      · exact .sent _ ‹_›
      · exact .outOfTurn _
  | subscribe =>
      simp only [step]
      split
      · exact .outOfTurn _
      · exact .subscribed ‹_›
  | read =>
      simp only [step]
      split
      · exact .read _ ‹_› ‹_›
      · exact .outOfTurn _
  | look =>
      simp only [step]
      split
      · exact .looked _ ‹_›
      · exact .outOfTurn _
  | join other =>
      simp only [step]
      split
      · exact .outOfTurn _
      · exact .elsewhere _ _ rfl rfl (Gallery.view?_subscribe_of_ne ‹_›)
  | leave other =>
      simp only [step]
      split
      · exact .outOfTurn _
      · exact .elsewhere _ _ rfl rfl (Gallery.view?_unsubscribe_of_ne ‹_›)

end Arrival

/-- Whether a message is newer than a snapshot. -/
def Publication.isNewer (snapshot : Snapshot Float) (publication : Publication Float) : Bool :=
  snapshot.seq < publication.snapshot.seq

/-! ## Numbers of messages -/

theorem getLastD_append {β : Type} (first second : List β) (other : β) :
    (first ++ second).getLastD other = second.getLastD (first.getLastD other) := by
  rw [List.getLastD_eq_getLast?, List.getLastD_eq_getLast?, List.getLastD_eq_getLast?,
    List.getLast?_append, Option.getD_or]

/-- The last of some last elements is the last of all. -/
theorem getLastD_of_suffix {β : Type} {last all : List β} (h : last <:+ all) (other : β) :
    last.getLastD (all.getLastD other) = all.getLastD other := by
  obtain ⟨earlier, rfl⟩ := h
  rw [getLastD_append]
  cases last using List.reverseRecOn with
  | nil => rfl
  | append_singleton last element => rw [List.getLastD_concat, List.getLastD_concat]

namespace Session

variable {session : Session} {pace : UInt32}

theorem undergo_concat (happenings : List Happening) (happening : Happening) (session : Session) :
    session.undergo (happenings ++ [happening]) =
      (((session.undergo happenings).1.happen happening).1,
        (session.undergo happenings).2 ++
          ((session.undergo happenings).1.happen happening).2.toList) := by
  rw [undergo_append]
  simp [undergo]

theorem AtRest.seq_undergo (h : session.AtRest pace) (happenings : List Happening) :
    (session.undergo happenings).1.publisher.seq =
      session.publisher.seq + (session.undergo happenings).2.length := by
  induction happenings using List.reverseRecOn with
  | nil => rfl
  | append_singleton happenings happening ih =>
      have hdelivery := (h.undergo happenings).delivery happening
      rw [undergo_concat, List.length_append, hdelivery.seq_eq, ih, Nat.add_assoc]

/-- The latest snapshot is that of the last message. -/
theorem AtRest.latest_undergo (h : session.AtRest pace) (happenings : List Happening) :
    (session.undergo happenings).1.latest =
      ((session.undergo happenings).2.map Publication.snapshot).getLastD session.latest := by
  induction happenings using List.reverseRecOn with
  | nil => rfl
  | append_singleton happenings happening ih =>
      have hdelivery := (h.undergo happenings).delivery happening
      rw [undergo_concat]
      generalize ((session.undergo happenings).1.happen happening).2 = publication at hdelivery
      cases hdelivery with
      | silent _ hsame =>
          simp only [Option.toList_none, List.append_nil]
          rw [hsame, ih]
      | published publication _ _ hnew =>
          simp only [Option.toList_some, List.map_append, List.map_singleton,
            List.getLastD_concat]
          exact hnew

/-- The numbers of what is published go on from where they were. -/
theorem AtRest.seq_of_mem (h : session.AtRest pace) {happenings : List Happening}
    {publication : Publication Float} (hmem : publication ∈ (session.undergo happenings).2) :
    session.publisher.seq < publication.snapshot.seq ∧
      publication.snapshot.seq ≤ (session.undergo happenings).1.publisher.seq := by
  have hseq : publication.snapshot.seq ∈
      (session.undergo happenings).2.map fun publication => publication.snapshot.seq :=
    List.mem_map_of_mem hmem
  rw [h.map_seq, List.mem_range'_1] at hseq
  rw [h.seq_undergo]
  omega

/-- The latest snapshot has the number of the last one. -/
theorem seq_latest_undergo (settings : ConsoleSettings Float) (viewRate : UInt32)
    (happenings : List Happening) :
    ((fresh settings viewRate).undergo happenings).1.latest.seq =
      ((fresh settings viewRate).undergo happenings).1.publisher.seq := by
  induction happenings using List.reverseRecOn with
  | nil => rfl
  | append_singleton happenings happening ih =>
      have hdelivery := (undergo_atRest settings viewRate happenings).delivery happening
      rw [undergo_concat]
      generalize (((fresh settings viewRate).undergo happenings).1.happen happening).2 =
        publication at hdelivery
      cases hdelivery with
      | silent _ hlatest hseq => rw [hlatest, hseq, ih]
      | published publication _ hsnapshot hlatest hseq =>
          rw [hlatest, hsnapshot, hseq]
          rfl

variable {settings : ConsoleSettings Float} {viewRate : UInt32} {before since : List Happening}
  {publication : Publication Float}

/-- What has been published is not newer than the latest snapshot. -/
theorem isNewer_of_mem_before
    (hmem : publication ∈ ((fresh settings viewRate).undergo before).2) :
    publication.isNewer ((fresh settings viewRate).undergo before).1.latest = false := by
  have hseq := ((fresh_atRest settings viewRate).seq_of_mem hmem).2
  rw [← seq_latest_undergo] at hseq
  exact decide_eq_false (Nat.not_lt.mpr hseq)

/-- What is published from now on is newer. -/
theorem isNewer_of_mem_since
    (hmem : publication ∈ (((fresh settings viewRate).undergo before).1.undergo since).2) :
    publication.isNewer ((fresh settings viewRate).undergo before).1.latest = true := by
  have hseq := ((undergo_atRest settings viewRate before).seq_of_mem hmem).1
  rw [← seq_latest_undergo] at hseq
  exact decide_eq_true hseq

/-- Of messages of which some are old, those published since the latest snapshot are the newer
ones. -/
theorem filter_isNewer {older : List (Publication Float)}
    (hsuffix : older <:+ ((fresh settings viewRate).undergo before).2) :
    (older ++ (((fresh settings viewRate).undergo before).1.undergo since).2).filter
        (Publication.isNewer ((fresh settings viewRate).undergo before).1.latest) =
      (((fresh settings viewRate).undergo before).1.undergo since).2 := by
  have holder : older.filter
      (Publication.isNewer ((fresh settings viewRate).undergo before).1.latest) = [] :=
    List.filter_eq_nil_iff.mpr fun publication hmem => by
      simp [isNewer_of_mem_before (hsuffix.subset hmem)]
  rw [List.filter_append, holder, List.nil_append]
  exact List.filter_eq_self.mpr fun publication hmem => isNewer_of_mem_since hmem

/-- Old messages do not change which snapshot is the last. -/
theorem getLastD_snapshot {older : List (Publication Float)}
    (hsuffix : older <:+ ((fresh settings viewRate).undergo before).2) :
    ((older ++ (((fresh settings viewRate).undergo before).1.undergo since).2).map
        Publication.snapshot).getLastD ((fresh settings viewRate).undergo before).1.latest =
      ((fresh settings viewRate).undergo (before ++ since)).1.latest := by
  have hbefore := (fresh_atRest settings viewRate).latest_undergo before
  have hsince := (undergo_atRest settings viewRate before).latest_undergo since
  have holder : (older.map Publication.snapshot).getLastD
      ((fresh settings viewRate).undergo before).1.latest =
        ((fresh settings viewRate).undergo before).1.latest := by
    rw [hbefore]
    exact getLastD_of_suffix (hsuffix.map _) _
  rw [List.map_append, getLastD_append, holder, undergo_append, hsince]

end Session

/-! ## What a view is kept told -/

namespace Arrival

variable {start : Session} {id : Nat} {a : Arrival} {pace : UInt32}

/-- Messages are all that is published while some things happen, with some of those before them that
were published earlier. -/
def Covers (start : Session) (before since : List Happening) (come : List (Publication Float)) :
    Prop :=
  ∃ older, older <:+ (start.undergo before).2 ∧
    come = older ++ ((start.undergo before).1.undergo since).2

/-- What is published before the view has read goes with what was published earlier. -/
theorem Covers.before_concat {before : List Happening} {come : List (Publication Float)}
    (h : Covers start before [] come) (happening : Happening) :
    Covers start (before ++ [happening]) []
      (come ++ ((start.undergo before).1.happen happening).2.toList) := by
  obtain ⟨older, ⟨earlier, hearlier⟩, rfl⟩ := h
  refine ⟨older ++ ((start.undergo before).1.happen happening).2.toList, ⟨earlier, ?_⟩, ?_⟩
  · rw [Session.undergo_concat, ← List.append_assoc, hearlier]
  · simp [Session.undergo]

/-- What is published after the view has read goes with what was published since. -/
theorem Covers.since_concat {before since : List Happening} {come : List (Publication Float)}
    (h : Covers start before since come) (happening : Happening) :
    Covers start before (since ++ [happening])
      (come ++ ((start.undergo (before ++ since)).1.happen happening).2.toList) := by
  obtain ⟨older, hsuffix, rfl⟩ := h
  refine ⟨older, hsuffix, ?_⟩
  rw [Session.undergo_concat, Session.undergo_append, List.append_assoc]

/-- How an arrival has come about, and what the view will know as long as it misses nothing. -/
structure Kept (start : Session) (id : Nat) (a : Arrival) : Prop where
  session : a.session = (start.undergo (a.before ++ a.since)).1
  latest : a.gallery.latest = a.session.latest
  unsent : a.unsent.toList <:+ (start.undergo (a.before ++ a.since)).2
  unread : a.initial = none → a.since = []
  initial : ∀ snapshot, a.initial = some snapshot → snapshot = (start.undergo a.before).1.latest
  absent : a.gallery.view? id = none → a.seen = [] ∧ a.initial = none
  arrived : ∀ view, a.gallery.view? id = some view → view.missed = 0 →
    Covers start a.before a.since (a.arrived view)

theorem kept_opened (start : Session) (id : Nat) : Kept start id (opened start) where
  session := rfl
  latest := rfl
  unsent := List.suffix_rfl
  unread _ := rfl
  initial := nofun
  absent _ := ⟨rfl, rfl⟩
  arrived := nofun

/-- The snapshot of a message is the latest one, in the session and for everyone to read. -/
theorem latest_turn (hrest : a.session.AtRest pace) (hlatest : a.gallery.latest = a.session.latest)
    (happening : Happening) :
    (a.turn happening).gallery.latest = (a.turn happening).session.latest := by
  have hdelivery := hrest.delivery happening
  simp only [turn]
  generalize (a.session.happen happening).2 = publication at hdelivery
  cases hdelivery with
  | silent _ hsame => exact hlatest.trans hsame.symm
  | published publication _ _ hnew => exact hnew.symm

theorem view?_turn (happening : Happening) :
    (a.turn happening).gallery.view? id = a.gallery.view? id := by
  simp only [turn]
  cases (a.session.happen happening).2 <;> rfl

theorem capacity_turn (happening : Happening) :
    (a.turn happening).gallery.capacity = a.gallery.capacity := by
  simp only [turn]
  cases (a.session.happen happening).2 <;> rfl

/-- What happens before the view has read is before it, and all else is after it. -/
theorem before_append_since_turn (h : a.initial = none → a.since = []) (happening : Happening) :
    (a.turn happening).before ++ (a.turn happening).since =
      a.before ++ a.since ++ [happening] := by
  simp only [turn]
  cases hinitial : a.initial with
  | none => simp [h hinitial]
  | some snapshot => simp

theorem Kept.turn (h : Kept start id a) (hrest : start.AtRest pace) (hunsent : a.unsent = none)
    (happening : Happening) : Kept start id (a.turn happening) := by
  have hsession : a.session.AtRest pace := by
    rw [h.session]
    exact hrest.undergo _
  have hall := before_append_since_turn h.unread happening
  have hconcat := Session.undergo_concat (a.before ++ a.since) happening start
  rw [← h.session] at hconcat
  constructor
  case session =>
    rw [hall, hconcat]
    rfl
  case latest => exact latest_turn hsession h.latest happening
  case unsent =>
    rw [hall, hconcat]
    exact List.suffix_append _ _
  case unread =>
    intro hinitial
    have hnone : a.initial = none := hinitial
    simp only [Arrival.turn, hnone, Option.isNone_none, if_true, h.unread hnone]
  case initial =>
    intro snapshot hinitial
    have hsome : a.initial = some snapshot := hinitial
    simp only [Arrival.turn, hsome, Option.isNone_some, Bool.false_eq_true, if_false]
    exact h.initial snapshot hsome
  case absent =>
    intro hview
    rw [view?_turn] at hview
    exact h.absent hview
  case arrived =>
    intro view hview hmissed
    rw [view?_turn] at hview
    have hcovers := h.arrived view hview hmissed
    have hnew : (a.turn happening).arrived view =
        a.arrived view ++ (a.session.happen happening).2.toList := by
      simp [Arrival.arrived, Arrival.turn, hunsent]
    rw [hnew, h.session]
    cases hinitial : a.initial with
    | none =>
        have hsince := h.unread hinitial
        rw [hsince] at hcovers
        simpa [Arrival.turn, hinitial, hsince] using hcovers.before_concat happening
    | some snapshot => simpa [Arrival.turn, hinitial] using hcovers.since_concat happening

/-! ### The other moves -/

theorem Kept.send (h : Kept start id a) {publication : Publication Float}
    (hunsent : a.unsent = some publication) :
    Kept start id { a with gallery := a.gallery.send publication, unsent := none } where
  session := h.session
  latest := h.latest
  unsent := List.nil_suffix
  unread := h.unread
  initial := h.initial
  absent hview := by
    rw [Gallery.view?_send, Option.map_eq_none_iff] at hview
    exact h.absent hview
  arrived view hview hmissed := by
    rw [Gallery.view?_send] at hview
    obtain ⟨waiting, hwaiting, rfl⟩ := Option.map_eq_some_iff.mp hview
    obtain ⟨hbefore, hbacklog⟩ := View.backlog_push hmissed
    have hsame : a.arrived waiting =
        a.seen ++ ((View.push a.gallery.capacity publication waiting).backlog ++ []) := by
      simp [Arrival.arrived, hbacklog, hunsent]
    have hcovers := h.arrived waiting hwaiting hbefore
    rw [hsame] at hcovers
    exact hcovers

theorem Kept.subscribe (h : Kept start id a) (hview : a.gallery.view? id = none) :
    Kept start id { a with gallery := a.gallery.subscribe id } := by
  obtain ⟨hseen, hinitial⟩ := h.absent hview
  have hsince := h.unread hinitial
  refine ⟨h.session, h.latest, h.unsent, h.unread, h.initial, ?_, ?_⟩
  · intro hnone
    rw [Gallery.view?_subscribe hview] at hnone
    cases hnone
  · intro view hsome _
    rw [Gallery.view?_subscribe hview] at hsome
    obtain rfl := Option.some.inj hsome
    have hunsent := h.unsent
    rw [hsince, List.append_nil] at hunsent
    -- whatever is sent from now on comes to the view
    refine ⟨a.unsent.toList, hunsent, ?_⟩
    simp [Arrival.arrived, hseen, hsince, Session.undergo]

theorem Kept.read (h : Kept start id a) {view : View} (hview : a.gallery.view? id = some view)
    (hinitial : a.initial = none) :
    Kept start id { a with initial := some a.gallery.latest } := by
  have hsince := h.unread hinitial
  refine ⟨h.session, h.latest, h.unsent, nofun, ?_, ?_, h.arrived⟩
  · intro snapshot hsnapshot
    obtain rfl := Option.some.inj hsnapshot
    rw [h.latest, h.session, hsince, List.append_nil]
  · intro hnone
    rw [show a.gallery.view? id = none from hnone] at hview
    cases hview

theorem Kept.look (h : Kept start id a) {view : View}
    (hview : a.gallery.view? id = some view) :
    Kept start id { a with
      gallery := a.gallery.look id
      seen := a.seen ++ view.backlog.take 1 } := by
  refine ⟨h.session, h.latest, h.unsent, h.unread, h.initial, ?_, ?_⟩
  · intro hnone
    rw [Gallery.view?_look, hview] at hnone
    cases hnone
  · intro next hnext hmissed
    rw [Gallery.view?_look, hview] at hnext
    obtain rfl := Option.some.inj hnext
    have hfirst : view.backlog.take 1 ++ view.backlog.tail = view.backlog := by
      rw [← List.drop_one, List.take_append_drop]
    have hsame : a.arrived view = a.seen ++ view.backlog.take 1 ++
        (view.backlog.tail ++ a.unsent.toList) := by
      rw [List.append_assoc, ← List.append_assoc (view.backlog.take 1), hfirst]
      rfl
    have hcovers := h.arrived view hview hmissed
    rw [hsame] at hcovers
    exact hcovers

/-- Other views make no difference. -/
theorem Kept.of_view?_eq (h : Kept start id a) {gallery : Gallery}
    (hlatest : gallery.latest = a.gallery.latest)
    (hview : gallery.view? id = a.gallery.view? id) :
    Kept start id { a with gallery := gallery } := by
  refine ⟨h.session, hlatest.trans h.latest, h.unsent, h.unread, h.initial, ?_, ?_⟩
  · exact fun hnone => h.absent (hview.symm.trans hnone)
  · exact fun view hsome => h.arrived view (hview.symm.trans hsome)

/-- **No move undoes what a view is kept told.** -/
theorem Kept.step (h : Kept start id a) (hrest : start.AtRest pace) (move : Move) :
    Kept start id (a.step id move) := by
  have hmakes := step_makes id a move
  generalize a.step id move = next at hmakes
  cases hmakes with
  | turned happening hunsent => exact h.turn hrest hunsent happening
  | sent publication hunsent => exact h.send hunsent
  | subscribed hview => exact h.subscribe hview
  | read view hview hinitial => exact h.read hview hinitial
  | looked view hview => exact h.look hview
  | elsewhere _ gallery hlatest _ hview => exact h.of_view?_eq hlatest hview
  | outOfTurn => exact h

theorem kept_run (hrest : start.AtRest pace) (id : Nat) (moves : List Move) :
    Kept start id (run id moves (opened start)) := by
  induction moves using List.reverseRecOn with
  | nil => exact kept_opened start id
  | append_singleton moves move ih =>
      rw [run, List.foldl_append]
      exact ih.step hrest move

/-! ### A view that keeps up -/

/-- Whenever a message is sent, there is room for it in the backlog of the view. -/
def KeepsUp (start : Session) (id : Nat) (moves : List Move) : Prop :=
  ∀ earlier, earlier ++ [.send] <+: moves →
    let a := (opened start).run id earlier
    a.unsent ≠ none → ∀ view, a.gallery.view? id = some view →
      view.backlog.length < Gallery.viewCapacity

/-- Nothing has been dropped for the view. -/
structure Undropped (id : Nat) (a : Arrival) : Prop where
  capacity : a.gallery.capacity = Gallery.viewCapacity
  missed : ∀ view, a.gallery.view? id = some view → view.missed = 0

theorem Undropped.step (h : Undropped id a) (move : Move)
    (hroom : move = .send → a.unsent ≠ none → ∀ view, a.gallery.view? id = some view →
      view.backlog.length < Gallery.viewCapacity) : Undropped id (a.step id move) := by
  have hmakes := step_makes id a move
  generalize a.step id move = next at hmakes
  cases hmakes with
  | turned happening _ =>
      refine ⟨(capacity_turn happening).trans h.capacity, fun view hview => h.missed view ?_⟩
      rwa [view?_turn] at hview
  | sent publication hunsent =>
      refine ⟨h.capacity, fun view hview => ?_⟩
      rw [Gallery.view?_send] at hview
      obtain ⟨waiting, hwaiting, rfl⟩ := Option.map_eq_some_iff.mp hview
      have hless := hroom rfl (by simp [hunsent]) waiting hwaiting
      rw [← h.capacity] at hless
      rw [View.missed_push hless, h.missed waiting hwaiting]
  | subscribed hnone =>
      refine ⟨h.capacity, fun view hview => ?_⟩
      rw [Gallery.view?_subscribe hnone] at hview
      obtain rfl := Option.some.inj hview
      rfl
  | read => exact ⟨h.capacity, h.missed⟩
  | looked =>
      refine ⟨h.capacity, fun view hview => ?_⟩
      rw [Gallery.view?_look] at hview
      obtain ⟨waiting, hwaiting, rfl⟩ := Option.map_eq_some_iff.mp hview
      exact h.missed waiting hwaiting
  | elsewhere _ gallery _ hcapacity hsame =>
      exact ⟨hcapacity.trans h.capacity, fun view hview => h.missed view (hsame.symm.trans hview)⟩
  | outOfTurn => exact h

/-- For a view that keeps up nothing is dropped. -/
theorem undropped_run {moves : List Move} (h : KeepsUp start id moves) :
    Undropped id ((opened start).run id moves) := by
  induction moves using List.reverseRecOn with
  | nil => exact ⟨rfl, nofun⟩
  | append_singleton moves move ih =>
      have hearlier : KeepsUp start id moves := fun earlier hbegins =>
        h earlier (hbegins.trans (List.prefix_append _ _))
      rw [run, List.foldl_append]
      refine (ih hearlier).step move fun hsend => ?_
      subst hsend
      exact h moves List.prefix_rfl

/-! ### Moves of a service

A service makes its moves two at a time, so that nothing comes between the two steps of either
side. -/

/-- An input is a turn, and its message is sent. -/
theorem run_turn_send {service : Service} (hsession : a.session = service.session)
    (hgallery : a.gallery = service.gallery) (hunsent : a.unsent = none)
    (hrunning : service.stopped = false) (input : Input) :
    let next := a.run id [.turn (.input service.now input), .send]
    next.session = (service.input input).1.session ∧
      next.gallery = (service.input input).1.gallery ∧ next.unsent = none := by
  simp only [run, List.foldl_cons, List.foldl_nil, step, hunsent, turn, Session.happen,
    Service.input, hrunning, hsession, hgallery, Bool.false_eq_true, if_false]
  cases (service.session.step service.now input).2.2 with
  | none => exact ⟨rfl, rfl, rfl⟩
  | some publication => exact ⟨rfl, rfl, rfl⟩

/-- A view that is served subscribes and reads. -/
theorem run_subscribe_read {service : Service} (hgallery : a.gallery = service.gallery)
    (hnew : a.gallery.view? id = none) (hinitial : a.initial = none) :
    let next := a.run id [.subscribe, .read]
    next.gallery = (service.serveView id).gallery ∧
      next.initial = some (service.serveView id).gallery.latest := by
  have hsubscribed := Gallery.view?_subscribe hnew
  simp only [run, List.foldl_cons, List.foldl_nil, step, hnew, hsubscribed, hinitial]
  rw [hgallery]
  exact ⟨rfl, rfl⟩

end Arrival

/-- **A new view misses nothing.**  Let a session and a view make any moves in any order, with other
views that come and go.  The session is where its happenings have brought it, and everyone can read its
latest snapshot.  Once the view has read it, it has the snapshot of the moment.  Nothing is dropped for
it as long as it keeps up, that is, as long as its backlog has room for every message that is sent.  And
if nothing was dropped:

* every message that is published is not newer than that snapshot, or has come to the view;
* the newer ones have come without a gap and in their order, as the last part of all that has come,
  and that is the last part of all that is published;
* when nothing waits for the view and nothing is on its way, the last snapshot that it has looked at is
  the latest one of the session, and the events of the newer messages are all events that were told
  since the moment at which it read its first snapshot. -/
theorem new_view_misses_nothing (settings : ConsoleSettings Float) (viewRate : UInt32) (id : Nat)
    (moves : List Move) :
    let start := Session.fresh settings viewRate
    let a := (Arrival.opened start).run id moves
    let published := (start.undergo (a.before ++ a.since)).2
    a.session = (start.undergo (a.before ++ a.since)).1 ∧
      a.gallery.latest = a.session.latest ∧
      ∀ snapshot, a.initial = some snapshot →
        snapshot = (start.undergo a.before).1.latest ∧
          ∃ view, a.gallery.view? id = some view ∧
            (Arrival.KeepsUp start id moves → view.missed = 0) ∧
            (view.missed = 0 →
              (∀ publication ∈ published,
                publication.snapshot.seq ≤ snapshot.seq ∨ publication ∈ a.arrived view) ∧
              published.filter (Publication.isNewer snapshot) <:+ a.arrived view ∧
              a.arrived view <:+ published ∧
              (view.backlog = [] → a.unsent = none →
                (a.seen.map Publication.snapshot).getLastD snapshot = a.session.latest ∧
                  (a.seen.filter (Publication.isNewer snapshot)).flatMap Publication.events =
                    Session.tellsAll a.since (start.undergo a.before).1)) := by
  intro start a published
  have hkept : a.Kept start id :=
    Arrival.kept_run (Session.fresh_atRest settings viewRate) id moves
  refine ⟨hkept.session, hkept.latest, fun snapshot hinitial => ?_⟩
  obtain rfl := hkept.initial snapshot hinitial
  obtain ⟨view, hview⟩ : ∃ view, a.gallery.view? id = some view := by
    refine Option.ne_none_iff_exists'.mp fun hnone => ?_
    rw [(hkept.absent hnone).2] at hinitial
    cases hinitial
  refine ⟨rfl, view, hview, ?_, fun hmissed => ?_⟩
  · exact fun hkeepsUp => (Arrival.undropped_run hkeepsUp).missed view hview
  obtain ⟨older, hsuffix, harrived⟩ := hkept.arrived view hview hmissed
  have hpublished : published =
      (start.undergo a.before).2 ++ ((start.undergo a.before).1.undergo a.since).2 := by
    simp only [published, Session.undergo_append]
  have hnewer : published.filter (Publication.isNewer (start.undergo a.before).1.latest) =
      ((start.undergo a.before).1.undergo a.since).2 := by
    rw [hpublished]
    exact Session.filter_isNewer List.suffix_rfl
  have hcome : published.filter (Publication.isNewer (start.undergo a.before).1.latest) <:+
      a.arrived view := by
    rw [hnewer, harrived]
    exact List.suffix_append _ _
  refine ⟨?_, hcome, ?_, ?_⟩
  · intro publication hmem
    by_cases hseq : publication.snapshot.seq ≤ (start.undergo a.before).1.latest.seq
    · exact .inl hseq
    · have hisNewer : publication.isNewer (start.undergo a.before).1.latest = true :=
        decide_eq_true (Nat.not_le.mp hseq)
      exact .inr (hcome.subset (List.mem_filter.mpr ⟨hmem, hisNewer⟩))
  · obtain ⟨earlier, hearlier⟩ := hsuffix
    exact ⟨earlier, by rw [harrived, hpublished, ← List.append_assoc, hearlier]⟩
  · intro hbacklog hunsent
    have hseen : a.seen = older ++ ((start.undergo a.before).1.undergo a.since).2 := by
      rw [← harrived]
      simp [Arrival.arrived, hbacklog, hunsent]
    refine ⟨?_, ?_⟩
    · rw [hseen, hkept.session]
      exact Session.getLastD_snapshot hsuffix
    · rw [hseen, Session.filter_isNewer hsuffix]
      exact (Session.undergo_atRest settings viewRate a.before).flatMap_events a.since

/-- A view subscribes and reads while the first message is stored and not sent; there is a second
one after that. -/
def betweenStoreAndSend : List Move :=
  [.turn (.input 0 (.request (.openFeed (.numbered 1) 8))), .subscribe, .read, .send,
    .turn (.input 10 (.request (.batch (.numbered 1) "\x7b\"Drones\":[[0,1,2]]\x7d"))), .join 5,
    .send, .look, .look]

theorem new_view_misses_nothing_betweenStoreAndSend :
    let start := Session.fresh ⟨1000000000, 1, 0.5⟩ 30
    let a := (Arrival.opened start).run 4 betweenStoreAndSend
    ∃ snapshot view, a.initial = some snapshot ∧ snapshot.seq = 1 ∧
      a.gallery.view? 4 = some view ∧ view.missed = 0 ∧
      (a.seen.map fun publication => publication.snapshot.seq) = [1, 2] ∧
      (a.seen.map Publication.snapshot).getLastD snapshot = a.session.latest := by
  intro start a
  obtain ⟨-, -, hview⟩ :=
    new_view_misses_nothing ⟨1000000000, 1, 0.5⟩ 30 4 betweenStoreAndSend
  have hread : a.initial.map Snapshot.seq = some 1 := by decide +kernel
  have hfound : (a.gallery.view? 4).map (fun view => (view.missed, view.backlog)) =
      some (0, []) := by decide +kernel
  have hunsent : a.unsent = none := by decide +kernel
  have hseen : (a.seen.map fun publication => publication.snapshot.seq) = [1, 2] := by
    decide +kernel
  obtain ⟨snapshot, hinitial, hseq⟩ := Option.map_eq_some_iff.mp hread
  obtain ⟨-, view, hsome, -, hnothing⟩ := hview snapshot hinitial
  rw [hsome, Option.map_some, Option.some.injEq, Prod.mk.injEq] at hfound
  obtain ⟨hmissed, hbacklog⟩ := hfound
  obtain ⟨-, -, -, hall⟩ := hnothing hmissed
  obtain ⟨hlast, -⟩ := hall hbacklog hunsent
  refine ⟨snapshot, view, hinitial, hseq, hsome, hmissed, hseen, ?_⟩
  simpa only [a, start] using hlast

end FleetConsole
