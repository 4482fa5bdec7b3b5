import FleetConsole.Proofs.Members
import FleetConsole.Proofs.Fields
import FleetConsole.Feed.Message

/-!
# Messages as records

Each field of a message is read for itself, so a message is a record in the sense of
`putMembers_perm`: its members may come in any order.  A line that can be read is a complete document
with nothing after it (`exists_document`); if it begins with a brace, it is the text of some members.
-/

namespace FleetConsole

open Json

namespace Feed

/-! ## The fields of a message -/

/-- A message with one field of another. -/
def withField (message : Message Float) (other : Message Float) : Field → Message Float
  | .identifier => { message with identifier := other.identifier }
  | .drones => { message with drones := other.drones }
  | .paths => { message with paths := other.paths }
  | .droneId => { message with droneId := other.droneId }
  | .location => { message with location := other.location }
  | .ready => { message with ready := other.ready }

/-- The value of a field does not depend on the message that it is read into. -/
theorem put_eq (field : Field) (message : Message Float) (d : Document) :
    messageShape.put field message d =
      (messageShape.put field {} d).map fun other => withField message other field := by
  cases field with
  | identifier =>
      simp only [messageShape]
      cases Reader.optional Reader.text d <;> rfl
  | drones =>
      simp only [messageShape]
      cases Reader.optional (Reader.list readPosition) d <;> rfl
  | paths =>
      simp only [messageShape]
      cases Reader.optional (Reader.list (Reader.list readPosition)) d <;> rfl
  | droneId =>
      simp only [messageShape]
      cases Reader.optional (Reader.number "a JSON number") d <;> rfl
  | location =>
      simp only [messageShape]
      cases Reader.optional readPosition d <;> rfl
  | ready =>
      simp only [messageShape]
      cases Reader.optional Reader.boolean d <;> rfl

theorem withField_comm {field other : Field} (h : field ≠ other) (message m n : Message Float) :
    withField (withField message m field) n other =
      withField (withField message n other) m field := by
  cases field <;> cases other <;> first | rfl | exact absurd rfl h

theorem exists_of_put {field : Field} {message next : Message Float} {d : Document}
    (h : messageShape.put field message d = .ok next) :
    ∃ other, messageShape.put field {} d = .ok other ∧ next = withField message other field := by
  rw [put_eq] at h
  obtain ⟨other, hput, rfl⟩ := Reader.exists_of_map_eq_ok h
  exact ⟨other, hput, rfl⟩

theorem messageShape_independent : messageShape.Independent := by
  intro field other d e message next last hne hput hthen
  obtain ⟨m, hm, rfl⟩ := exists_of_put hput
  obtain ⟨n, hn, rfl⟩ := exists_of_put hthen
  refine ⟨withField message n other, by rw [put_eq, hn]; rfl, ?_⟩
  rw [put_eq, hm, withField_comm hne]
  rfl

/-! ## Lines -/

/-- A line that can be read is one complete document. -/
theorem exists_document {line : List Char} {message : Message Float}
    (h : readLine line = .ok message) :
    ∃ document, Document.read line = (document, []) ∧ document.flaw? = none ∧
      readMessage document = .ok message := by
  obtain ⟨message, hmessage, hrest⟩ := Reader.exists_of_bind_eq_ok h
  split at hrest
  · rename_i hempty
    obtain rfl := Except.ok.inj hrest
    obtain ⟨result, hshape, -⟩ := Reader.exists_of_bind_eq_ok hmessage
    refine ⟨(Document.read line).1, ?_, Reader.Shape.flaw?_of_read hshape, hmessage⟩
    exact Prod.ext rfl (List.isEmpty_iff.mp hempty)
  · cases hrest

/-- A line that is an object is read from its members. -/
theorem readLine_objectText (margins : Margins) (members : List Member) :
    readLine (objectText margins members) =
      messageShape.putMembers [] {} (members.map Member.pair) := by
  rw [readLine, readText, read_objectText]
  simp only [readMessage, Reader.Shape.read]
  cases messageShape.putMembers [] {} (members.map Member.pair) <;> rfl

/-- A line that can be read and begins with a brace is spelled by members. -/
theorem exists_members {line : List Char} {message : Message Float}
    (hbrace : (lexemes line).head? = some .openBrace) (h : readLine line = .ok message) :
    ∃ margins members, line = objectText margins members := by
  obtain ⟨document, hread, hflaw, -⟩ := exists_document h
  obtain ⟨margins, members, hline, -⟩ := exists_objectText_of_head hbrace hread hflaw
  exact ⟨margins, members, hline⟩

/-! ## Fields that do not come -/

/-- Members of other names are of other fields. -/
theorem names?_ne_of_text {field : Field} {members : List Member}
    (h : ∀ member ∈ members, member.key.text ≠ .ok field.name) :
    ∀ pair ∈ members.map Member.pair, messageShape.names? pair.1 ≠ some field := by
  intro pair hpair hnames
  obtain ⟨member, hmember, rfl⟩ := List.mem_map.mp hpair
  exact h member hmember (Reader.Shape.text_of_names? hnames)

/-- Members without a name have not brought the field of that name. -/
theorem not_mem_come {field : Field} {members : List Member}
    (h : ∀ member ∈ members, member.key.text ≠ .ok field.name) :
    field ∉ messageShape.come [] (members.map Member.pair) := by
  rw [Reader.Shape.mem_come_iff]
  rintro (hnone | ⟨pair, hpair, hnames⟩)
  · cases hnone
  · exact names?_ne_of_text h pair hpair hnames

theorem droneId_of_put_ne {field : Field} {message next : Message Float} {d : Document}
    (h : messageShape.put field message d = .ok next) (hfield : field ≠ .droneId) :
    next.droneId = message.droneId := by
  obtain ⟨other, -, rfl⟩ := exists_of_put h
  cases field <;> first | rfl | exact absurd rfl hfield

/-- An index that does not come is what it was. -/
theorem droneId_of_putMembers {seen : List Field} {start message : Message Float}
    {members : List (Quotation × Document)}
    (h : messageShape.putMembers seen start members = .ok message)
    (hnew : ∀ member ∈ members, messageShape.names? member.1 ≠ some .droneId) :
    message.droneId = start.droneId := by
  induction members generalizing seen start with
  | nil =>
      obtain rfl := Except.ok.inj h
      rfl
  | cons member rest ih =>
      obtain ⟨hmember, hothers⟩ := List.forall_mem_cons.mp hnew
      obtain ⟨after, next, htakes, hrest⟩ := Reader.Shape.exists_takes h
      rw [ih hrest hothers]
      cases htakes with
      | skipped => rfl
      | put hname hfield hfresh hput =>
          apply droneId_of_put_ne hput
          rintro rfl
          exact hmember (Reader.Shape.names?_of_text hname hfield)

theorem droneId_of_putElements {flaw : Option Flaw} {fields : List Field}
    {start message : Message Float} {elements : List Document}
    (h : messageShape.putElements flaw fields start elements = .ok message)
    (hnew : .droneId ∉ fields) : message.droneId = start.droneId := by
  induction elements generalizing fields start with
  | nil => rw [Reader.Shape.eq_of_putElements_nil h]
  | cons d rest ih =>
      cases fields with
      | nil => cases h
      | cons field fields =>
          obtain ⟨hfield, hfields⟩ := not_or.mp (mt List.mem_cons.mpr hnew)
          obtain ⟨next, hput, hrest⟩ := Reader.Shape.exists_of_putElements_cons h
          rw [ih hrest hfields, droneId_of_put_ne hput (Ne.symm hfield)]

end Feed

/-! ## Plain members -/

/-- A string of plain characters. -/
def plainText (text : String) : Quotation := ⟨text.toList.map .char, none⟩

/-- An identifier. -/
def greeting : Member :=
  ⟨"\"Identifier\"".toList, "\"gs\"".toList, plainText "Identifier", .string (plainText "gs"),
    rfl, rfl, rfl, rfl⟩

end FleetConsole
