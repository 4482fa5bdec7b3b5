import FleetConsole.Proofs.Record
import Mathlib.Logic.Relation

/-!
# Open records

A message of the feed is an open record: whoever writes one may put its members into any order, leave
members out that say nothing, write nothing for members that are absent, and add members of their
own.  `Edit` has one case for each of these changes and one for white space between lexemes.
`messages_are_open_records` says that no number of them makes a difference to the message that is
read, and that the one thing that is not allowed is to write a field twice.

## Strategy

* **Texts.**  A text that begins with a brace and can be read is the text of some members
  (`exists_members`), so there is always something that the edits apply to.
* **Members.**  A member may be moved to the front (`putMembers_perm`).  There an unknown one is
  skipped, and a null one sets its field to what it is in a message that says nothing; whether that
  field has come then matters to no other member (`putMembers_cons_seen`).
* **White space.**  A message depends only on the lexemes of its text, and white space between two
  of them is a separator (`lexemes_spaced`).
-/

namespace FleetConsole

open Json

namespace Feed

/-! ## Edits -/

/-- A member is of a field. -/
def Names (member : Member) (field : Field) : Prop := member.key.text = .ok field.name

/-- Nobody knows a member: its key has a text, which is the name of no field.  Its value may be any
complete document. -/
def IsUnknown (member : Member) : Prop :=
  ∃ name, member.key.text = .ok name ∧ ∀ field : Field, field.name ≠ name

/-- The ways in which a text may be changed. -/
inductive Edit : List Char → List Char → Prop
  | reordered (margins : Margins) {members others : List Member} (h : members.Perm others) :
      Edit (objectText margins members) (objectText margins others)
  | added (margins : Margins) (front back : List Member) {member : Member}
      (h : IsUnknown member) :
      Edit (objectText margins (front ++ back)) (objectText margins (front ++ member :: back))
  | dropped (margins : Margins) (front back : List Member) {member : Member}
      (h : IsUnknown member) :
      Edit (objectText margins (front ++ member :: back)) (objectText margins (front ++ back))
  | nullAdded (margins : Margins) (front back : List Member) {member : Member} {field : Field}
      (hname : Names member field) (hnull : member.value = .null)
      (habsent : ∀ other ∈ front ++ back, ¬ Names other field) :
      Edit (objectText margins (front ++ back)) (objectText margins (front ++ member :: back))
  | nullDropped (margins : Margins) (front back : List Member) {member : Member} {field : Field}
      (hname : Names member field) (hnull : member.value = .null) :
      Edit (objectText margins (front ++ member :: back)) (objectText margins (front ++ back))
  /-- white space where one lexeme has ended and the next one has not begun -/
  | spaced (front back : List Char) {blank : List Char} (hblank : ∀ c ∈ blank, isSpace c = true)
      (hbetween : lexemes (front ++ back) = lexemes front ++ lexemes back) :
      Edit (front ++ back) (front ++ blank ++ back)

/-! ## Members -/

section Members

variable {member : Member} {field : Field} {message : Message Float}

theorem Names.names? (h : Names member field) : messageShape.names? member.key = some field := by
  apply Reader.Shape.names?_of_text h
  cases field <;> rfl

/-- An unknown member is passed over. -/
theorem IsUnknown.putMembers_cons (h : IsUnknown member) (seen : List Field)
    (record : Message Float) (rest : List (Quotation × Document)) :
    messageShape.putMembers seen record (member.pair :: rest) =
      messageShape.putMembers seen record rest := by
  obtain ⟨name, htext, hnone⟩ := h
  have hfield : messageShape.field? name = none :=
    List.find?_eq_none.mpr fun field _ hname => hnone field (of_decide_eq_true hname)
  exact (Reader.Shape.Takes.skipped htext hfield member.value_flaw).putMembers_cons rest

/-- Null says what a message that has been told nothing says already. -/
theorem Names.putMembers_null_cons (h : Names member field) (hnull : member.value = .null)
    (rest : List (Quotation × Document)) :
    messageShape.putMembers [] {} (member.pair :: rest) =
      messageShape.putMembers [field] {} rest := by
  obtain ⟨name, htext, hfield⟩ := Reader.Shape.exists_of_names? h.names?
  have hput : messageShape.put field {} member.value = .ok {} := by
    rw [hnull]
    cases field <;> rfl
  exact (Reader.Shape.Takes.put htext hfield List.not_mem_nil hput).putMembers_cons rest

/-- A member may as well stand before all others. -/
theorem readLine_middle (margins : Margins) (front back : List Member) :
    readLine (objectText margins (front ++ member :: back)) = .ok message ↔
      messageShape.putMembers [] {} (member.pair :: (front ++ back).map Member.pair) =
        .ok message := by
  have hperm : ((front ++ member :: back).map Member.pair).Perm
      (member.pair :: (front ++ back).map Member.pair) := List.perm_middle.map Member.pair
  rw [readLine_objectText]
  exact ⟨Reader.Shape.putMembers_perm messageShape_independent hperm,
    Reader.Shape.putMembers_perm messageShape_independent hperm.symm⟩

theorem IsUnknown.readLine_iff (h : IsUnknown member) (margins : Margins)
    (front back : List Member) :
    readLine (objectText margins (front ++ member :: back)) = .ok message ↔
      readLine (objectText margins (front ++ back)) = .ok message := by
  rw [readLine_middle, h.putMembers_cons, readLine_objectText]

theorem Names.readLine_of_absent (h : Names member field) (hnull : member.value = .null)
    {margins : Margins} {front back : List Member}
    (habsent : ∀ other ∈ front ++ back, ¬ Names other field)
    (hread : readLine (objectText margins (front ++ back)) = .ok message) :
    readLine (objectText margins (front ++ member :: back)) = .ok message := by
  rw [readLine_middle, h.putMembers_null_cons hnull,
    Reader.Shape.putMembers_cons_seen (names?_ne_of_text habsent), ← readLine_objectText margins,
    hread]

theorem Names.readLine_of_null (h : Names member field) (hnull : member.value = .null)
    {margins : Margins} {front back : List Member}
    (hread : readLine (objectText margins (front ++ member :: back)) = .ok message) :
    readLine (objectText margins (front ++ back)) = .ok message := by
  rw [readLine_middle, h.putMembers_null_cons hnull] at hread
  have hnew := Reader.Shape.names?_ne_of_mem_seen (List.mem_singleton_self field) hread
  rw [Reader.Shape.putMembers_cons_seen hnew] at hread
  rw [readLine_objectText, hread]

/-- A field that is written twice takes the line with it. -/
theorem exists_error_of_twice {first second : Member} (hfirst : Names first field)
    (hsecond : Names second field) (margins : Margins) (front middle back : List Member) :
    ∃ problem, readLine (objectText margins (front ++ first :: (middle ++ second :: back))) =
      .error problem := by
  rw [readLine_objectText]
  cases hread : messageShape.putMembers [] {}
      ((front ++ first :: (middle ++ second :: back)).map Member.pair) with
  | error problem => exact ⟨problem, rfl⟩
  | ok message =>
      rw [List.map_append, List.map_cons, List.map_append, List.map_cons] at hread
      exact absurd hread
        (Reader.Shape.putMembers_ne_ok_of_twice hfirst.names? hsecond.names? _ _ _)

end Members

/-! ## White space -/

/-- White space where a text can be cut makes no difference. -/
theorem lexemes_spaced {front back blank : List Char} (hblank : ∀ c ∈ blank, isSpace c = true)
    (hsound : ∀ l ∈ lexemes (front ++ back), l.isSound = true)
    (hbetween : lexemes (front ++ back) = lexemes front ++ lexemes back) :
    lexemes (front ++ blank ++ back) = lexemes (front ++ back) := by
  cases blank with
  | nil => rw [List.append_nil]
  | cons c rest =>
      obtain ⟨hc, hrest⟩ := List.forall_mem_cons.mp hblank
      have hfront : ∀ l ∈ lexemes front, l.isSound = true := by
        rw [hbetween] at hsound
        exact fun l hl => hsound l (List.mem_append_left _ hl)
      calc lexemes (front ++ c :: rest ++ back)
          = lexemes (front ++ c :: (rest ++ back)) := by
            rw [List.append_assoc, List.cons_append]
        _ = lexemes front ++ lexemes (rest ++ back) := by
            rw [lexemes_append_separator hfront (separator?_of_isSpace hc), List.nil_append]
        _ = lexemes (front ++ back) := by
            rw [lexemes_blank_append ((lexemes_eq_nil_iff rest).mpr hrest), hbetween]

/-- There is nothing in a text that can be read at which the reading stops. -/
theorem isSound_of_readLine {text : List Char} {message : Message Float}
    (h : readLine text = .ok message) : ∀ l ∈ lexemes text, l.isSound = true := by
  obtain ⟨document, hread, hflaw, -⟩ := exists_document h
  exact Document.isSound_of_ofLexemes hread hflaw

/-- A message depends only on the lexemes of its text. -/
theorem readLine_eq_of_lexemes {text other : List Char} (h : lexemes text = lexemes other) :
    readLine text = readLine other := by
  rw [readLine, readLine, readText, readText, Document.read, Document.read, h]

/-! ## Texts -/

theorem isBlank_of_isSpace {c : Char} (h : isSpace c = true) : Text.isBlank c = true := by
  simp only [isSpace, Bool.or_eq_true, decide_eq_true_eq] at h
  rcases h with ((rfl | rfl) | rfl) | rfl <;> rfl

/-- The text of an object is one line if it has no line feed. -/
theorem readLines_objectText {margins : Margins} {members : List Member}
    (h : '\n' ∉ objectText margins members) :
    readLines (objectText margins members) = [readLine (objectText margins members)] := by
  have hblank {text : List Char} (htext : lexemes text = []) :
      ∀ c ∈ text, Text.isBlank c = true := fun c hc =>
    isBlank_of_isSpace ((lexemes_eq_nil_iff text).mp htext c hc)
  have htrim : Text.trim (objectText margins members) =
      objectText ⟨[], margins.inner, [], rfl, margins.lexemes_inner, rfl⟩ members := by
    have htrimmed : Text.trim
        (margins.lead ++ '{' :: ((margins.inner ++ membersText members) ++ '}' :: margins.trail)) =
          '{' :: ((margins.inner ++ membersText members) ++ ['}']) :=
      Text.trim_append (hblank margins.lexemes_lead) (hblank margins.lexemes_trail) rfl rfl
    simpa only [objectText, List.append_assoc, List.nil_append] using htrimmed
  have hfilled : (Text.trim (objectText margins members)).isEmpty = false := by
    rw [htrim]
    rfl
  rw [readLines, Text.filledLines, Text.lines_of_not_mem h, List.map_singleton]
  simp only [List.filter_cons, hfilled, Bool.not_false, if_true, List.filter_nil,
    List.map_singleton]
  rw [htrim, readLine_objectText, readLine_objectText]

/-- A text is an object, and is read as a message. -/
structure IsRecord (text : List Char) (message : Message Float) : Prop where
  brace : (lexemes text).head? = some .openBrace
  read : readLine text = .ok message

variable {text other : List Char} {message : Message Float}

/-- One edit leaves the message. -/
theorem Edit.isRecord (h : Edit text other) (hrecord : IsRecord text message) :
    IsRecord other message := by
  obtain ⟨hbrace, hread⟩ := hrecord
  cases h with
  | reordered margins hperm =>
      refine ⟨head?_lexemes_objectText margins _, ?_⟩
      rw [readLine_objectText] at hread ⊢
      exact Reader.Shape.putMembers_perm messageShape_independent (hperm.map Member.pair) hread
  | added margins front back hunknown =>
      exact ⟨head?_lexemes_objectText margins _, (hunknown.readLine_iff margins front back).mpr hread⟩
  | dropped margins front back hunknown =>
      exact ⟨head?_lexemes_objectText margins _, (hunknown.readLine_iff margins front back).mp hread⟩
  | nullAdded margins front back hname hnull habsent =>
      exact ⟨head?_lexemes_objectText margins _, hname.readLine_of_absent hnull habsent hread⟩
  | nullDropped margins front back hname hnull =>
      exact ⟨head?_lexemes_objectText margins _, hname.readLine_of_null hnull hread⟩
  | spaced front back hblank hbetween =>
      have hlexemes := lexemes_spaced hblank (isSound_of_readLine hread) hbetween
      exact ⟨hlexemes ▸ hbrace, (readLine_eq_of_lexemes hlexemes).trans hread⟩

/-- Any number of edits leaves the message. -/
theorem IsRecord.of_edits (hrecord : IsRecord text message)
    (h : Relation.ReflTransGen Edit text other) : IsRecord other message := by
  induction h with
  | refl => exact hrecord
  | tail _ hedit ih => exact hedit.isRecord ih

end Feed

/-- **Messages of the feed are open records.**  A text that is an object and can be read is the text of
some members.  However many edits are made of it, the same message is read from it; and if it is in
one line then, so it is from all of its lines.  But wherever two members of an object are of the same
field, nothing is read from it. -/
theorem messages_are_open_records {text : List Char} {message : Message Float}
    (hrecord : Feed.IsRecord text message) :
    (∃ margins members, text = objectText margins members) ∧
      (∀ other, Relation.ReflTransGen Feed.Edit text other →
        Feed.readLine other = .ok message ∧
          ('\n' ∉ other → Feed.readLines other = [.ok message])) ∧
      ∀ margins front middle back first second field,
        Feed.Names first field → Feed.Names second field →
        let repeated := objectText margins (front ++ first :: (middle ++ second :: back))
        ∃ problem, Feed.readLine repeated = .error problem ∧
          ('\n' ∉ repeated → Feed.readLines repeated = [.error problem]) := by
  refine ⟨Feed.exists_members hrecord.brace hrecord.read, ?_, ?_⟩
  · intro other hedits
    have hother := hrecord.of_edits hedits
    refine ⟨hother.read, fun hline => ?_⟩
    obtain ⟨margins, members, rfl⟩ := Feed.exists_members hother.brace hother.read
    rw [Feed.readLines_objectText hline, hother.read]
  · intro margins front middle back first second field hfirst hsecond repeated
    obtain ⟨problem, hproblem⟩ :=
      Feed.exists_error_of_twice hfirst hsecond margins front middle back
    refine ⟨problem, hproblem, fun hline => ?_⟩
    rw [Feed.readLines_objectText hline, hproblem]

/-- Nothing said of being ready. -/
def nothingReady : Member :=
  ⟨"\"Ready\"".toList, "null".toList, plainText "Ready", .null, rfl, rfl, rfl, rfl⟩

/-- A member of no field, with a list in a list in it. -/
def battery : Member :=
  ⟨"\"Battery\"".toList, "[[]]".toList, plainText "Battery", .list [.list [] none] none,
    rfl, rfl, rfl, rfl⟩

theorem messages_are_open_records_rewritten :
    let text := "\x7b\"Identifier\":\"gs\",\"Ready\":null\x7d".toList
    let other := "\x7b \t\"Battery\":[[]],\"Identifier\":\"gs\"\x7d".toList
    let message : Message Float := { identifier := some "gs" }
    Feed.IsRecord text message ∧ Feed.readLines other = [.ok message] := by
  intro text other message
  let margins : Margins := ⟨[], [], [], rfl, rfl, rfl⟩
  have hrecord : Feed.IsRecord text message := ⟨by decide +kernel, rfl⟩
  have htext : text = objectText margins [greeting, nothingReady] := by decide +kernel
  have hreordered : Feed.Edit (objectText margins [greeting, nothingReady])
      (objectText margins [nothingReady, greeting]) :=
    .reordered margins (.swap nothingReady greeting [])
  have hdropped : Feed.Edit (objectText margins [nothingReady, greeting])
      (objectText margins [greeting]) :=
    .nullDropped margins [] [greeting] (show Feed.Names nothingReady .ready from rfl) rfl
  have hunknown : Feed.IsUnknown battery := by
    refine ⟨"Battery", rfl, fun field => ?_⟩
    cases field <;> decide
  have hadded : Feed.Edit (objectText margins [greeting]) (objectText margins [battery, greeting]) :=
    .added margins [] [greeting] hunknown
  have hspaced : Feed.Edit (objectText margins [battery, greeting]) other := by
    have hcut : objectText margins [battery, greeting] =
        ['{'] ++ (objectText margins [battery, greeting]).tail := by decide +kernel
    have hother : other = ['{'] ++ [' ', '\t'] ++ (objectText margins [battery, greeting]).tail := by
      decide +kernel
    rw [hother, hcut]
    exact .spaced _ _ (by simp [isSpace]) (by decide +kernel)
  have hedits : Relation.ReflTransGen Feed.Edit text other := by
    rw [htext]
    exact (((Relation.ReflTransGen.single hreordered).tail hdropped).tail hadded).tail hspaced
  exact ⟨hrecord, ((messages_are_open_records hrecord).2.1 other hedits).2 (by decide +kernel)⟩

end FleetConsole
