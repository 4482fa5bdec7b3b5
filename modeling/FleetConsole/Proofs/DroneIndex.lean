import FleetConsole.Proofs.NumberLiteral
import FleetConsole.Proofs.Record
import FleetConsole.Proofs.Effect

/-!
# A drone index that names no slot

An index of the feed may be any number of the grammar.  If it names no slot, its update is rejected
and nothing else of its line is lost.  That holds up to the range of doubles: a number beyond it
cannot be read at all, and takes its line with it.

## Strategy

* **Lines.**  A line that begins with a brace is the text of some members (`exists_members`), and is
  read from them in any order (`putMembers_perm`).
* **The update.**  `WithUpdate` adds an index and a location to members that have neither.  Reading
  them last changes two fields of the message (`readLine_withUpdate`); wherever they stand, the
  message is the same.
* **Handling.**  The update is the third thing that is done with a message, and one that names no
  slot leaves the console as it is (`handle_bad_index`).
-/

namespace FleetConsole

open Json

namespace Feed

/-! ## An update in an object -/

/-- The value of a member has a text, with white space around it. -/
def HasText (member : Member) (text : List Char) : Prop :=
  ∃ lead trail, lexemes lead = [] ∧ lexemes trail = [] ∧ member.valueText = lead ++ text ++ trail

/-- Members with an update among them: a drone index, which is a number of the grammar, and a
location.  The others are known and in any order. -/
structure WithUpdate (literal : NumberLiteral) (p : Position Float) (others all : List Member) :
    Prop where
  absent : ∀ member ∈ others,
    member.key.text ≠ .ok "DroneId" ∧ member.key.text ≠ .ok "Location"
  present : ∃ index location : Member,
    index.key.text = .ok "DroneId" ∧ HasText index literal.text ∧
      location.key.text = .ok "Location" ∧ readPosition location.value = .ok p ∧
      all.Perm (index :: location :: others)

theorem value_of_hasText {member : Member} {literal : NumberLiteral}
    (h : HasText member literal.text) : member.value = .number literal.numeral := by
  obtain ⟨lead, trail, hlead, htrail, htext⟩ := h
  have hsound : ∀ l ∈ lexemes literal.text, l.isSound = true := by
    rw [lexemes_text]
    intro l hl
    obtain rfl := List.mem_singleton.mp hl
    rfl
  have hread := member.read_valueText
  rw [Document.read, htext, List.append_assoc, lexemes_blank_append hlead,
    lexemes_append_blank hsound htrail, lexemes_text] at hread
  exact (Prod.mk.inj hread).1.symm

section Reading

variable {message : Message Float} {p : Position Float} {d : Document} {n : Numeral}

theorem put_index (message : Message Float) (n : Numeral) :
    messageShape.put .droneId message (.number n) =
      match n.value? with
      | some value => .ok { message with droneId := some value }
      | none => .error .numberOutOfRange := by
  simp only [messageShape, Reader.optional, Reader.number]
  cases n.value? <;> rfl

theorem put_location (h : readPosition d = .ok p) (message : Message Float) :
    messageShape.put .location message d = .ok { message with location := some p } := by
  have hread : Reader.optional readPosition d = .ok (some p) := by
    cases d with
    | null => cases h
    | _ =>
        rw [Reader.optional, h]
        · rfl
        · nofun
  simp only [messageShape, hread]
  rfl

variable {others all : List Member} {literal : NumberLiteral}

/-- **An update in range is all that it adds to a line; one out of range takes the line with it.** -/
theorem readLine_withUpdate {margins around : Margins} (h : WithUpdate literal p others all)
    (hothers : readLine (objectText margins others) = .ok message) :
    readLine (objectText around all) =
      match literal.numeral.value? with
      | some value => .ok { message with droneId := some value, location := some p }
      | none => .error .numberOutOfRange := by
  obtain ⟨habsent, index, location, hindex, htext, hlocation, hp, hall⟩ := h
  rw [readLine_objectText] at hothers ⊢
  have hindexName : messageShape.names? index.key = some .droneId :=
    Reader.Shape.names?_of_text hindex rfl
  have hlocationName : messageShape.names? location.key = some .location :=
    Reader.Shape.names?_of_text hlocation rfl
  have hpairs : (all.map Member.pair).Perm
      (index.pair :: (others.map Member.pair ++ [location.pair])) :=
    (hall.map Member.pair).trans ((List.perm_append_singleton ..).symm.cons _)
  -- the location comes after the other members, the index after the location
  have hlocated : messageShape.putMembers [] {} (others.map Member.pair ++ [location.pair]) =
      .ok { message with location := some p } :=
    Reader.Shape.putMembers_concat hothers hlocationName
      (not_mem_come fun member hmember => (habsent member hmember).2) (put_location hp message)
  have hnew : .droneId ∉ messageShape.come [] ((others ++ [location]).map Member.pair) := by
    refine not_mem_come fun member hmember => ?_
    obtain hmember | hmember := List.mem_append.mp hmember
    · exact (habsent member hmember).1
    · obtain rfl := List.mem_singleton.mp hmember
      rw [hlocation]
      exact fun hsame => absurd (Except.ok.inj hsame) (by decide)
  rw [List.map_append] at hnew
  have hput (message : Message Float) := put_index message literal.numeral
  rw [← value_of_hasText htext] at hput
  cases hvalue : literal.numeral.value? with
  | some value =>
      rw [hvalue] at hput
      refine Reader.Shape.putMembers_perm messageShape_independent ?_
        (Reader.Shape.putMembers_concat hlocated hindexName hnew (hput _))
      exact (List.perm_append_singleton ..).trans hpairs.symm
  | none =>
      rw [hvalue] at hput
      exact Reader.Shape.putMembers_error messageShape_independent hlocated hpairs hindexName hnew hput

end Reading

end Feed

/-! ## Handling -/

namespace Console

/-- The identifier is taken before the roster, and the fleet does not know of it. -/
theorem fleet_before_update {α : Type} [Coordinate α] (message : Message α)
    (console : Console α) :
    (performAll ((message.identifier.map Act.identifier).toList ++
        (message.drones.map Act.roster).toList) console).1.fleet =
      (takeRoster message.drones console).1.fleet := by
  cases message.identifier with
  | none => cases message.drones <;> rfl
  | some identifier =>
      cases message.drones with
      | none => rfl
      | some roster =>
          show (takeRoster (some roster) { console with identifier := some identifier }).1.fleet = _
          simp only [takeRoster]
          split <;> rfl

/-- An index that names no slot is rejected, and nothing else comes of the update. -/
theorem handle_bad_index {message : Message Float} (habsent : message.droneId = none)
    {value : Json.Number} (p : Position Float) {console : Console Float}
    (hslot : ∀ slot, value.slot? = some slot →
      (takeRoster message.drones console).1.fleet.liveAt.has slot = false) :
    ∃ before after, (handle message console).2 = before ++ after ∧
      handle { message with droneId := some value, location := some p } console =
        ((handle message console).1,
          before ++ .rejected (.outOfRange value.text
            (takeRoster message.drones console).1.fleet.size) :: after) := by
  have hfleet := fleet_before_update message console
  have hacts : message.acts =
      ((message.identifier.map Act.identifier).toList ++ (message.drones.map Act.roster).toList)
        ++ ((message.paths.map fun paths => Act.plan paths true).toList
          ++ if message.ready = some true then [Act.ready] else []) := by
    simp [Message.acts, habsent]
  have hupdated : ({ message with droneId := some value, location := some p }).acts =
      ((message.identifier.map Act.identifier).toList ++ (message.drones.map Act.roster).toList)
        ++ (.update value p :: ((message.paths.map fun paths => Act.plan paths true).toList
          ++ if message.ready = some true then [Act.ready] else [])) := by
    simp [Message.acts]
  rw [handle_eq, handle_eq, hacts, hupdated]
  generalize (message.identifier.map Act.identifier).toList ++
    (message.drones.map Act.roster).toList = first at hfleet
  generalize (message.paths.map fun paths => Act.plan paths true).toList ++
    (if message.ready = some true then [Act.ready] else []) = second
  have hslot' : value.slot?.filter (performAll first console).1.fleet.liveAt.has = none := by
    rw [hfleet, Option.filter_eq_none_iff]
    intro slot hsome
    rw [hslot slot hsome]
    exact Bool.false_ne_true
  have hrejected : perform (.update value p) (performAll first console).1 =
      ((performAll first console).1, [.rejected (.outOfRange value.text
        (takeRoster message.drones console).1.fleet.size)]) := by
    rw [← hfleet]
    exact perform_update_of_none hslot' p
  refine ⟨(performAll first console).2, (performAll second (performAll first console).1).2, ?_, ?_⟩
  · rw [performAll_append]
  · rw [performAll_append, performAll_append, performAll_cons, hrejected]
    rfl

end Console

/-! ## Lines with an index -/

/-- **A bad index fails alone, as long as it is in range.**  A line that can be read and begins with a
brace is spelled by members.  An update can be put among them, wherever its index and its location
stand and whatever number of the grammar the index is.  If the number is in the range of doubles, the
line can be read; and if it then names no slot of the fleet, after the roster of the same line, all
else is done and told as without the update, and the update is rejected as out of range.  If the
number is beyond the doubles, the line is lost with all that it says. -/
theorem bad_index_fails_alone {text : List Char} {message : Message Float}
    (hline : Feed.readLine ('{' :: text) = .ok message) :
    (∃ margins others, '{' :: text = objectText margins others) ∧
      ∀ margins others, '{' :: text = objectText margins others →
        ∀ literal p all around, Feed.WithUpdate literal p others all →
          let line := Feed.readLine (objectText around all)
          match literal.numeral.value? with
          | some value =>
              (∃ updated, line = .ok updated) ∧
                ∀ console : Console Float,
                  let fleet := (Console.takeRoster message.drones console).1.fleet
                  let (next, events) := Console.handle message console
                  (∀ slot, value.slot? = some slot → fleet.liveAt.has slot = false) →
                  ∃ before after, events = before ++ after ∧
                    Console.handleLine line console =
                      (next, before ++
                        .rejected (.outOfRange value.text fleet.size) :: after)
          | none =>
              ∀ console : Console Float, Console.handleLine line console =
                (console, [.rejected (.malformedMessage "number out of range")]) := by
  have hbrace : (lexemes ('{' :: text)).head? = some .openBrace := by
    rw [lexemes_cons_mark rfl]
    rfl
  refine ⟨Feed.exists_members hbrace hline, ?_⟩
  intro margins others hothers literal p all around hupdate line
  rw [hothers] at hline
  have hread : line = _ := Feed.readLine_withUpdate hupdate hline
  have habsent : message.droneId = none := by
    rw [Feed.readLine_objectText] at hline
    exact Feed.droneId_of_putMembers hline
      (Feed.names?_ne_of_text fun member hmember => (hupdate.absent member hmember).1)
  cases hvalue : literal.numeral.value? with
  | none =>
      rw [hvalue] at hread
      rw [hread]
      exact fun console => rfl
  | some value =>
      rw [hvalue] at hread
      refine ⟨⟨_, hread⟩, fun console hslot => ?_⟩
      rw [hread]
      exact Console.handle_bad_index habsent p hslot

/-- A location. -/
def somewhere : Member :=
  let one := Document.number ⟨false, [⟨1, by decide⟩], [], none⟩
  ⟨"\"Location\"".toList, "[1,1,1]".toList, plainText "Location", .list [one, one, one] none,
    rfl, rfl, rfl, rfl⟩

/-- The index -2. -/
def negativeIndex : Member :=
  ⟨"\"DroneId\"".toList, " -2".toList, plainText "DroneId", .number ⟨true, [⟨2, by decide⟩], [], none⟩,
    rfl, rfl, rfl, rfl⟩

theorem bad_index_fails_alone_negative :
    let margins : Margins := ⟨[], [], [], rfl, rfl, rfl⟩
    let line := objectText margins [somewhere, greeting, negativeIndex]
    let console : Console Float := Console.fresh ⟨1000000000, 30, 1 / 2⟩
    Feed.readLine "\x7b\"Identifier\":\"gs\"\x7d".toList = .ok { identifier := some "gs" } ∧
      line = "\x7b\"Location\":[1,1,1],\"Identifier\":\"gs\",\"DroneId\": -2\x7d".toList ∧
      ∃ before after, [.identifierChanged "gs"] = before ++ after ∧
        (Console.handleLine (Feed.readLine line) console).2 =
          before ++ .rejected (.outOfRange "-2" 0) :: after := by
  intro margins line console
  have hread : Feed.readLine ('{' :: "\"Identifier\":\"gs\"\x7d".toList) =
      .ok { identifier := some "gs" } := rfl
  have htext : '{' :: "\"Identifier\":\"gs\"\x7d".toList = objectText margins [greeting] := by
    decide +kernel
  obtain ⟨p, hp⟩ : ∃ p, Feed.readPosition somewhere.value = .ok p := ⟨_, rfl⟩
  have hupdate : Feed.WithUpdate ⟨true, [2], [], none, by decide, by decide⟩ p [greeting]
      [somewhere, greeting, negativeIndex] := by
    refine ⟨?_, negativeIndex, somewhere, rfl, ⟨[' '], [], rfl, rfl, rfl⟩, rfl, hp, ?_⟩
    · intro member hmember
      obtain rfl := List.mem_singleton.mp hmember
      have hname : greeting.key.text = .ok "Identifier" := rfl
      rw [hname]
      exact ⟨fun h => absurd (Except.ok.inj h) (by decide),
        fun h => absurd (Except.ok.inj h) (by decide)⟩
    · show ([somewhere, greeting] ++ [negativeIndex]).Perm ([negativeIndex] ++ [somewhere, greeting])
      exact List.perm_append_comm
  obtain ⟨-, hfails⟩ := (bad_index_fails_alone hread).2 margins [greeting] htext _ p _ margins hupdate
  obtain ⟨before, after, hsplit, hevents⟩ := hfails console nofun
  exact ⟨hread, by decide +kernel, before, after, hsplit, congrArg Prod.snd hevents⟩

/-- **A boundless index takes its line with it.**  Its line has an identifier, which is lost. -/
theorem boundless_index_breaks_line :
    let plain := "\x7b\"Identifier\":\"gs\"\x7d"
    let indexed := "\x7b\"DroneId\":1e9999999999,\"Location\":\x7b\"X\":0,\"Y\":0,\"Z\":0\x7d," ++
      "\"Identifier\":\"gs\"\x7d"
    let console : Console Float := Console.fresh ⟨1000000000, 30, 1 / 2⟩
    (Console.handleText plain console).1.identifier = some "gs" ∧
      (Console.handleText plain console).2 = [.identifierChanged "gs"] ∧
      (Console.handleText indexed console).1.identifier = none ∧
      (Console.handleText indexed console).2 =
        [.rejected (.malformedMessage "number out of range")] := by
  decide +kernel

end FleetConsole
