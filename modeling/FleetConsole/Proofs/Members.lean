import FleetConsole.Proofs.Nesting

/-!
# The text of an object

A member of an object is a key and a value, each with its text and the white space around it.
`objectText` puts members into one text.  That text has the members in their order
(`read_objectText`), and there is no other way to spell an object (`exists_objectText`).  So what is
said of all texts of members is said of all objects.
-/

namespace FleetConsole.Json

/-- A member of an object, with the texts of its key and its value. -/
structure Member where
  keyText : List Char
  valueText : List Char
  key : Quotation
  value : Document
  lexemes_keyText : lexemes keyText = [.string key]
  key_flaw : key.flaw = none
  read_valueText : Document.read valueText = (value, [])
  value_flaw : value.flaw? = none

/-- The white space around an object and after its opening brace. -/
structure Margins where
  lead : List Char
  inner : List Char
  trail : List Char
  lexemes_lead : lexemes lead = []
  lexemes_inner : lexemes inner = []
  lexemes_trail : lexemes trail = []

namespace Member

def pair (member : Member) : Quotation × Document := (member.key, member.value)

def text (member : Member) : List Char := member.keyText ++ ':' :: member.valueText

/-- The lexemes of a member. -/
def lexemes (member : Member) : List Lexeme :=
  .string member.key :: .colon :: Json.lexemes member.valueText

end Member

/-- Members with commas between them. -/
def membersText : List Member → List Char
  | [] => []
  | first :: rest => first.text ++ rest.flatMap fun member => ',' :: member.text

def objectText (margins : Margins) (members : List Member) : List Char :=
  margins.lead ++
    '{' :: (margins.inner ++ (membersText members ++ '}' :: margins.trail))

/-! ## From members to an object -/

namespace Member

variable (member : Member)

theorem isSound_of_mem_keyText {l : Lexeme} (hl : l ∈ Json.lexemes member.keyText) :
    l.isSound = true := by
  rw [member.lexemes_keyText] at hl
  obtain rfl := List.mem_singleton.mp hl
  simp [Lexeme.isSound, member.key_flaw]

theorem isSound_of_mem_valueText {l : Lexeme} (hl : l ∈ Json.lexemes member.valueText) :
    l.isSound = true :=
  Document.isSound_of_ofLexemes member.read_valueText member.value_flaw l hl

/-- The lexemes of a member with a mark after it. -/
theorem lexemes_text_append {c : Char} {mark : Lexeme} (h : mark? c = some mark)
    (rest : List Char) :
    Json.lexemes (member.text ++ c :: rest) = member.lexemes ++ mark :: Json.lexemes rest := by
  rw [text, List.append_assoc, List.cons_append,
    lexemes_append_separator (fun _ hl => member.isSound_of_mem_keyText hl) (separator?_of_mark? rfl),
    lexemes_append_separator (fun _ hl => member.isSound_of_mem_valueText hl)
      (separator?_of_mark? h), member.lexemes_keyText]
  rfl

/-- A member is read where a key is due. -/
theorem read_nextKey (done : List (Quotation × Document)) (rest : List Lexeme) :
    (Document.Due.nextKey done []).read (member.lexemes ++ rest) =
      (Document.Due.afterMember (member.pair :: done) []).read rest := by
  have hkey : (Document.Due.nextKey done []).step (.string member.key) =
      .colon done member.key [] := by
    simp only [Document.Due.step, Document.Due.atKey, member.key_flaw]
  calc (Document.Due.nextKey done []).read (member.lexemes ++ rest)
      = ((Document.Due.nextKey done []).step (.string member.key)).read
          (.colon :: (Json.lexemes member.valueText ++ rest)) := rfl
    _ = (Document.Due.value [.member done member.key]).read
          (Json.lexemes member.valueText ++ rest) := by rw [hkey]; rfl
    _ = (Document.Due.afterMember (member.pair :: done) []).read rest :=
        Document.read_of_ofLexemes member.read_valueText member.value_flaw _ rest

end Member

theorem lexemes_membersText (first : Member) (rest : List Member) (trail : List Char) :
    lexemes (membersText (first :: rest) ++ '}' :: trail) =
      first.lexemes ++ ((rest.flatMap fun member => .comma :: member.lexemes) ++
        .closeBrace :: lexemes trail) := by
  unfold membersText
  induction rest generalizing first with
  | nil =>
      simp only [List.flatMap_nil, List.append_nil, List.nil_append]
      exact first.lexemes_text_append rfl trail
  | cons second rest ih =>
      simp only [List.flatMap_cons, List.append_assoc, List.cons_append]
      rw [first.lexemes_text_append rfl, ← List.append_assoc second.text, ih second]

/-- The members after the first one, up to the end of the object. -/
theorem read_afterMember (done : List (Quotation × Document)) (rest : List Member)
    (ls : List Lexeme) :
    (Document.Due.afterMember done []).read
        ((rest.flatMap fun member => .comma :: member.lexemes) ++ .closeBrace :: ls) =
      (.object (done.reverse ++ rest.map Member.pair) none, ls) := by
  induction rest generalizing done with
  | nil =>
      rw [List.map_nil, List.append_nil]
      exact Document.Due.read_nothing _ ls
  | cons member rest ih =>
      rw [List.flatMap_cons, List.append_assoc]
      show (Document.Due.nextKey done []).read (member.lexemes ++ _) = _
      rw [member.read_nextKey, ih, List.reverse_cons, List.append_assoc, List.map_cons]
      rfl

/-- **The text of an object has its members, in their order.** -/
theorem read_objectText (margins : Margins) (members : List Member) :
    Document.read (objectText margins members) = (.object (members.map Member.pair) none, []) := by
  rw [objectText, Document.read, lexemes_blank_append margins.lexemes_lead, lexemes_cons_mark rfl,
    lexemes_blank_append margins.lexemes_inner]
  cases members with
  | nil =>
      rw [membersText, List.nil_append, lexemes_cons_mark rfl, margins.lexemes_trail]
      rfl
  | cons first rest =>
      rw [lexemes_membersText, margins.lexemes_trail]
      -- only a closing brace tells the first key from any other
      show (Document.Due.nextKey [] []).read (first.lexemes ++ _) = _
      rw [first.read_nextKey, read_afterMember]
      rfl

/-! ## From an object to its members -/

section Lexemes

variable {done : List (Quotation × Document)} {ls : List Lexeme} {document : Document}

theorem flaw?_of_read_stop {d : Document} {flaw : Flaw} {stack : List Document.Frame}
    (hd : d.flaw? = some flaw) (h : (Document.stop d flaw stack).read ls = (document, [])) :
    document.flaw? ≠ none := by
  rw [Document.stop, Document.Due.read_nothing] at h
  obtain ⟨rfl, -⟩ := Prod.mk.inj h
  exact Document.Due.flaw?_enclose_ne_none hd stack

theorem exists_of_colon {key : Quotation} (hdocument : document.flaw? = none)
    (h : (Document.Due.colon done key []).read ls = (document, [])) :
    ∃ rest, ls = .colon :: rest ∧
      (Document.Due.value [.member done key]).read rest = (document, []) := by
  obtain ⟨l, rest, rfl, hrest⟩ := Document.Due.exists_cons_of_read h trivial hdocument
  cases l with
  | colon => exact ⟨rest, rfl, hrest⟩
  | _ => exact absurd hdocument (flaw?_of_read_stop rfl hrest)

/-- Where a key was due, there is a key and a colon. -/
theorem exists_key (hdocument : document.flaw? = none)
    (h : (Document.Due.nextKey done []).read ls = (document, [])) :
    ∃ key rest, ls = .string key :: .colon :: rest ∧ key.flaw = none ∧
      (Document.Due.value [.member done key]).read rest = (document, []) := by
  obtain ⟨l, rest, rfl, hrest⟩ := Document.Due.exists_cons_of_read h trivial hdocument
  cases l with
  | string key =>
      have hkeyed : (Document.Due.atKey done [] (.string key)).read rest = (document, []) := hrest
      cases hkey : key.flaw with
      | some flaw =>
          rw [Document.Due.atKey, hkey] at hkeyed
          exact absurd hdocument (flaw?_of_read_stop rfl hkeyed)
      | none =>
          rw [Document.Due.atKey, hkey] at hkeyed
          obtain ⟨tail, rfl, htail⟩ := exists_of_colon hdocument hkeyed
          exact ⟨key, tail, rfl, hkey, htail⟩
  | _ => exact absurd hdocument (flaw?_of_read_stop rfl hrest)

/-- After a member there is a comma and the next one, or the object ends. -/
theorem exists_of_afterMember (hdocument : document.flaw? = none)
    (h : (Document.Due.afterMember done []).read ls = (document, [])) :
    (∃ rest, ls = .comma :: rest ∧
      (Document.Due.nextKey done []).read rest = (document, [])) ∨
    (ls = [.closeBrace] ∧ document = .object done.reverse none) := by
  obtain ⟨l, rest, rfl, hrest⟩ := Document.Due.exists_cons_of_read h trivial hdocument
  cases l with
  | comma => exact .inl ⟨rest, rfl, hrest⟩
  | closeBrace =>
      obtain ⟨rfl, rfl⟩ := Prod.mk.inj ((Document.Due.read_nothing _ rest).symm.trans hrest)
      exact .inr ⟨rfl, rfl⟩
  | _ => exact absurd hdocument (flaw?_of_read_stop rfl hrest)

end Lexemes

/-- The text of a member, from its lexemes and the mark after it. -/
theorem exists_member_text {text : List Char} {key : Quotation} {value : Document}
    {front back : List Lexeme} {c : Char} {mark : Lexeme} (hmark : mark? c = some mark)
    (hkey : key.flaw = none) (hfront : Document.ofLexemes front = (value, []))
    (hvalue : value.flaw? = none)
    (h : lexemes text = .string key :: .colon :: (front ++ mark :: back)) :
    ∃ (member : Member) (rest : List Char), text = member.text ++ c :: rest ∧
      member.pair = (key, value) ∧ lexemes rest = back := by
  have hsplit : lexemes text = [.string key] ++ .colon :: (front ++ mark :: back) := h
  obtain ⟨keyText, colon, tail, rfl, hcolon, hkeyText, htail⟩ := exists_of_lexemes_eq rfl hsplit
  obtain ⟨valueText, other, rest, rfl, hother, hvalueText, hrest⟩ :=
    exists_of_lexemes_eq (isMark_of_mark? hmark) htail
  obtain rfl : ':' = colon := eq_of_mark? rfl hcolon
  obtain rfl := eq_of_mark? hmark hother
  have hread : Document.read valueText = (value, []) := by
    rw [Document.read, hvalueText, hfront]
  refine ⟨⟨keyText, valueText, key, value, hkeyText, hkey, hread, hvalue⟩, rest, ?_, rfl, hrest⟩
  rw [Member.text, List.append_assoc, List.cons_append]

/-- A member is spelled wherever a key was due, with a comma or a closing brace after it. -/
theorem exists_member {done : List (Quotation × Document)} {text : List Char}
    {document : Document} (hdocument : document.flaw? = none)
    (h : (Document.Due.nextKey done []).read (lexemes text) = (document, [])) :
    ∃ (member : Member) (rest : List Char),
      (text = member.text ++ ',' :: rest ∧
        (Document.Due.nextKey (member.pair :: done) []).read (lexemes rest) = (document, [])) ∨
      (text = member.text ++ '}' :: rest ∧ lexemes rest = [] ∧
        document = .object (member.pair :: done).reverse none) := by
  obtain ⟨key, ls, hls, hkey, hread⟩ := exists_key hdocument h
  obtain ⟨front, value, back, rfl, hfront, hvalue, hback⟩ :=
    Document.exists_of_read hread hdocument
  obtain ⟨after, rfl, hafter⟩ | ⟨rfl, hend⟩ := exists_of_afterMember hdocument hback
  · have hcomma : mark? ',' = some .comma := rfl
    obtain ⟨member, rest, rfl, hpair, rfl⟩ := exists_member_text hcomma hkey hfront hvalue hls
    exact ⟨member, rest, .inl ⟨rfl, by rw [hpair, hafter]⟩⟩
  · have hbrace : mark? '}' = some .closeBrace := rfl
    obtain ⟨member, rest, rfl, hpair, hrest⟩ := exists_member_text hbrace hkey hfront hvalue hls
    exact ⟨member, rest, .inr ⟨rfl, hrest, by rw [hpair, hend]⟩⟩

theorem membersText_cons_cons (first second : Member) (rest : List Member) :
    membersText (first :: second :: rest) = first.text ++ ',' :: membersText (second :: rest) := by
  simp [membersText]

/-- Members are spelled from where a key was due up to the end of the object. -/
theorem exists_membersText {done : List (Quotation × Document)} {text : List Char}
    {document : Document} (hdocument : document.flaw? = none)
    (h : (Document.Due.nextKey done []).read (lexemes text) = (document, [])) :
    ∃ (first : Member) (rest : List Member) (trail : List Char),
      text = membersText (first :: rest) ++ '}' :: trail ∧ lexemes trail = [] ∧
        document = .object (done.reverse ++ (first :: rest).map Member.pair) none := by
  -- the rest after a member is some part of the text, hence the induction on the length
  induction hlength : text.length using Nat.strongRecOn generalizing text done with
  | ind length ih =>
      obtain ⟨member, tail, ⟨rfl, hnext⟩ | ⟨rfl, htrail, rfl⟩⟩ := exists_member hdocument h
      · have hshorter : tail.length < length := by
          rw [← hlength, List.length_append, List.length_cons]
          omega
        obtain ⟨second, rest, trail, rfl, htrail, rfl⟩ := ih _ hshorter hnext rfl
        refine ⟨member, second :: rest, trail, ?_, htrail, ?_⟩
        · rw [membersText_cons_cons, List.append_assoc, List.cons_append]
        · rw [List.reverse_cons, List.append_assoc, List.singleton_append]
          rfl
      · exact ⟨member, [], tail, by simp [membersText], htrail, by simp⟩

/-- **A complete document that begins with a brace is the text of an object.** -/
theorem exists_objectText {text : List Char} {document : Document}
    (h : Document.read ('{' :: text) = (document, [])) (hdocument : document.flaw? = none) :
    ∃ (margins : Margins) (members : List Member),
      '{' :: text = objectText margins members ∧
        document = .object (members.map Member.pair) none := by
  have hread : (Document.Due.firstKey []).read (lexemes text) = (document, []) := by
    rw [Document.read, lexemes_cons_mark rfl] at h
    exact h
  by_cases hclose : ∃ ls, lexemes text = [] ++ .closeBrace :: ls
  · obtain ⟨ls, hls⟩ := hclose
    obtain ⟨inner, c, trail, rfl, hc, hinner, htrail⟩ := exists_of_lexemes_eq rfl hls
    obtain rfl : '}' = c := eq_of_mark? rfl hc
    rw [hls] at hread
    obtain ⟨rfl, rfl⟩ := Prod.mk.inj ((Document.Due.read_nothing _ ls).symm.trans hread)
    exact ⟨⟨[], inner, trail, rfl, hinner, htrail⟩, [], rfl, rfl⟩
  · have hnext : (Document.Due.nextKey [] []).read (lexemes text) = (document, []) := by
      obtain ⟨l, ls, hls, -⟩ := Document.Due.exists_cons_of_read hread trivial hdocument
      have hne : l ≠ .closeBrace := by
        rintro rfl
        exact hclose ⟨ls, hls⟩
      rw [hls, ← Document.Due.read_firstKey hne, ← hls, hread]
    obtain ⟨first, rest, trail, rfl, htrail, hmembers⟩ := exists_membersText hdocument hnext
    exact ⟨⟨[], [], trail, rfl, rfl, htrail⟩, first :: rest, rfl, hmembers⟩

/-- There may be white space before the brace. -/
theorem exists_objectText_of_head {text : List Char} {document : Document}
    (hhead : (lexemes text).head? = some .openBrace)
    (h : Document.read text = (document, [])) (hdocument : document.flaw? = none) :
    ∃ (margins : Margins) (members : List Member),
      text = objectText margins members ∧ document = .object (members.map Member.pair) none := by
  obtain ⟨tail, htail⟩ := List.head?_eq_some_iff.mp hhead
  obtain ⟨lead, c, rest, rfl, hc, hlead, -⟩ :=
    exists_of_lexemes_eq rfl (show lexemes text = [] ++ .openBrace :: tail from htail)
  obtain rfl : '{' = c := eq_of_mark? rfl hc
  rw [Document.read, lexemes_blank_append hlead] at h
  obtain ⟨margins, members, htext, hmembers⟩ := exists_objectText h hdocument
  refine ⟨⟨lead ++ margins.lead, margins.inner, margins.trail, ?_, margins.lexemes_inner,
    margins.lexemes_trail⟩, members, ?_, hmembers⟩
  · rw [lexemes_blank_append hlead, margins.lexemes_lead]
  · rw [htext]
    simp only [objectText, List.append_assoc]

theorem head?_lexemes_objectText (margins : Margins) (members : List Member) :
    (lexemes (objectText margins members)).head? = some .openBrace := by
  rw [objectText, lexemes_blank_append margins.lexemes_lead, lexemes_cons_mark rfl]
  rfl

end FleetConsole.Json
