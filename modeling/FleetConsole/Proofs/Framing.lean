import FleetConsole.Proofs.Delivery
import FleetConsole.Proofs.OneFeed

/-!
# Frames of the feed

A feed sends its lines in frames of text, and a frame may end anywhere between two lines.  Nothing
depends on where: `framing_makes_no_difference` says that frames taken one after the other come to
the same as one text that has a line feed between any two of them.  It says so of the console and of
a session, and of all frames, whatever is blank about them or about their ends.

The reason is that a line feed keeps the lines on its two sides apart (`Text.filledLines_append`),
and that nothing else belongs to the end of a line.  A carriage return before the line feed goes with
the blank characters around the line, and what stands after the last line feed is a line like all
others.  `Text.filledLines_eq_endedLines` says that these are the lines as they are usually counted,
by their ends.
-/

namespace FleetConsole

open Console

/-! ## Lines by their ends -/

namespace Text

/-- A line without the carriage return that ends it together with a line feed. -/
def withoutReturn (line : List Char) : List Char :=
  if line.getLast? = some '\r' then line.dropLast else line

/-- The lines of a text by their ends: a line feed ends one, with or without a carriage return before
it, and what is left after the last line feed is one more line, if there is anything left. -/
def endedLines (text : List Char) : List (List Char) :=
  (lines text).dropLast.map withoutReturn
    ++ ((lines text).getLast?.filter fun rest => !rest.isEmpty).toList

/-- A blank character at the end of a line makes no difference to what is left after trimming. -/
theorem trim_concat {c : Char} (h : isBlank c = true) (line : List Char) :
    trim (line ++ [c]) = trim line := by
  have hend : [c].dropWhile isBlank = [] := by simp [h]
  unfold trim
  rw [List.dropWhile_append]
  split
  · rename_i hblank
    rw [List.isEmpty_iff] at hblank
    rw [hend, hblank]
  · rw [List.reverse_append, List.reverse_singleton, List.singleton_append,
      List.dropWhile_cons_of_pos h]

theorem trim_withoutReturn (line : List Char) : trim (withoutReturn line) = trim line := by
  unfold withoutReturn
  split
  · rename_i hreturn
    obtain ⟨before, rfl⟩ := List.getLast?_eq_some_iff.mp hreturn
    rw [List.dropLast_concat]
    exact (trim_concat rfl before).symm
  · rfl

/-- Whichever way the lines of a text are counted, the same is left of them. -/
theorem filledLines_eq_endedLines (text : List Char) :
    filledLines text = ((endedLines text).map trim).filter (! ·.isEmpty) := by
  have hne : lines text ≠ [] := split_ne_nil '\n' text
  have hlast := List.getLast?_eq_some_getLast hne
  have hreturns : (lines text).dropLast.map (trim ∘ withoutReturn) =
      (lines text).dropLast.map trim :=
    List.map_congr_left fun line _ => trim_withoutReturn line
  -- an empty rest is left out here before trimming, and there after it
  have hrest : ((((some ((lines text).getLast hne)).filter fun rest => !rest.isEmpty).toList).map
        trim).filter (! ·.isEmpty) =
      [trim ((lines text).getLast hne)].filter (! ·.isEmpty) := by
    cases (lines text).getLast hne <;> rfl
  calc filledLines text
      = (((lines text).dropLast ++ [(lines text).getLast hne]).map trim).filter (! ·.isEmpty) := by
        rw [List.dropLast_append_getLast hne, filledLines]
    _ = _ := by
        rw [endedLines, hlast, List.map_append, List.map_append, List.map_map, hreturns,
          List.filter_append, List.filter_append, hrest]
        rfl

end Text

/-! ## Frames at a console -/

/-- A line feed between two texts keeps what they say apart. -/
theorem Console.handleText_joined (first second : String) (console : Console Float) :
    handleText (first ++ "\n" ++ second) console =
      ((handleText second (handleText first console).1).1,
        (handleText first console).2
          ++ (handleText second (handleText first console).1).2) := by
  have hlines : (first ++ "\n" ++ second).toList = first.toList ++ '\n' :: second.toList := by
    simp
  unfold handleText
  rw [hlines, Feed.readLines_append, handleLines_append]

/-- Frames one after the other are one text with a line feed between any two of them. -/
theorem Console.inTurn_handleText (frames : List String) (console : Console Float) :
    inTurn (frames.map handleText) console = handleText ("\n".intercalate frames) console := by
  induction frames generalizing console with
  | nil => rfl
  | cons frame rest ih =>
      by_cases hrest : rest = []
      · subst hrest
        simp [inTurn]
      · rw [String.intercalate_cons_of_ne_nil hrest, handleText_joined, List.map_cons, inTurn]
        simp only [ih]

/-! ## Frames at a session -/

/-- Frames of a feed at their times, with nothing in between. -/
def batches (id : SessionId) (frames : List (Nat × String)) : List Happening :=
  frames.map fun frame => .input frame.1 (.request (.batch id frame.2))

namespace Session

variable {session : Session} {id : SessionId} {pace : UInt32}

/-- A frame of the feed that is connected is handled by the console. -/
theorem console_happen_batch (hfeed : session.feed.isSession id = true) (now : Nat)
    (text : String) :
    (session.happen (.input now (.request (.batch id text)))).1.console =
      (handleText text session.console).1 := by
  show (session.step now (.request (.batch id text))).1.console = _
  rw [console_step]
  simp only [take, handle, Session.batch, hfeed, if_true]

theorem undergo_batches (hfeed : session.feed.isSession id = true)
    (frames : List (Nat × String)) :
    ((session.undergo (batches id frames)).1.console, tellsAll (batches id frames) session) =
      inTurn ((frames.map Prod.snd).map handleText) session.console := by
  induction frames generalizing session with
  | nil => rfl
  | cons frame rest ih =>
      have hkept : (session.happen (.input frame.1 (.request (.batch id frame.2)))).1.feed =
          session.feed := feed_step frame.1 (.request (.batch id frame.2)) session
      have htells : session.tells (.input frame.1 (.request (.batch id frame.2))) =
          (handleText frame.2 session.console).2 := if_pos hfeed
      have hrest := ih (hkept.symm ▸ hfeed)
      rw [console_happen_batch hfeed] at hrest
      rw [List.map_cons, List.map_cons, inTurn]
      simp only [← hrest, ← htells]
      rfl

end Session

/-! ## Framing -/

/-- **Framing makes no difference.**  A text that has a line feed between two others leaves the console
as these leave it one after the other, and tells the events of the first and then those of the second.
So frames of any number come to what their lines come to in one text.  And in any course of a session,
frames of the connected feed leave the console, and have events published, as this one text says. -/
theorem framing_makes_no_difference :
    (∀ (console : Console Float) (first second : String),
      handleText (first ++ "\n" ++ second) console =
        ((handleText second (handleText first console).1).1,
          (handleText first console).2
            ++ (handleText second (handleText first console).1).2)) ∧
    (∀ (console : Console Float) (frames : List String),
      inTurn (frames.map handleText) console = handleText ("\n".intercalate frames) console) ∧
    ∀ (settings : ConsoleSettings Float) (viewRate : UInt32) (past : List Happening)
      (id : SessionId),
      let session := ((Session.fresh settings viewRate).undergo past).1
      session.feed.isSession id = true → ∀ frames : List (Nat × String),
        let reached := session.undergo (batches id frames)
        (reached.1.console, reached.2.flatMap Publication.events) =
          handleText ("\n".intercalate (frames.map Prod.snd)) session.console := by
  refine ⟨fun console first second => handleText_joined first second console,
    fun console frames => inTurn_handleText frames console, ?_⟩
  intro settings viewRate past id session hfeed frames reached
  have hrest := Session.undergo_atRest settings viewRate past
  rw [hrest.flatMap_events, ← inTurn_handleText]
  exact Session.undergo_batches hfeed frames

/-- The roster ends in a carriage return, and the next frame begins with the line feed. -/
theorem framing_makes_no_difference_cutRoster :
    let id := SessionId.numbered 1
    let session := ((Session.fresh ⟨1000000000, 30, 1 / 2⟩ 30).undergo
      [.input 0 (.request (.openFeed id 8))]).1
    let reached := session.undergo
      (batches id [(10, "\x7b\"Drones\":[[0,1,2]]\x7d\r"), (20, "\n \x7b\"Ready\":true\x7d\n")])
    session.feed.isSession id = true ∧
      (reached.1.console, reached.2.flatMap Publication.events) =
        handleText "\x7b\"Drones\":[[0,1,2]]\x7d\r\n\n \x7b\"Ready\":true\x7d\n" session.console := by
  intro id session reached
  have hfeed : session.feed.isSession id = true := by decide +kernel
  exact ⟨hfeed, framing_makes_no_difference.2.2 ⟨1000000000, 30, 1 / 2⟩ 30 _ id hfeed _⟩

end FleetConsole
