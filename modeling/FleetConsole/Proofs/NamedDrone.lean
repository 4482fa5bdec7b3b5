import FleetConsole.Proofs.DroneIndex
import FleetConsole.Proofs.Coherence

/-!
# The drone that an update names

The index of an update goes through three forms: a numeral of the document, the number that it is
read as, and the slot of a table.  `update_hits_named_drone` follows it from one end to the other.  An
update is taken exactly if its index is written as the number of a drone, in plain digits, and it then
changes the live position of that drone and nothing else.  The drones are those of the roster that
comes in the same document, if one does.

## Strategy

* **Numbers.**  `Numeral.Spells` says of the digits of a document which natural number they are.  A
  number that has been read from a numeral names a slot exactly if the numeral spells it
  (`slot?_eq_some_iff`); a sign, a point or an exponent makes it a number of another kind.
* **Documents.**  `writtenIndex?` finds the numeral in a document, which is an object or a list.  The
  number of a message has been read from it (`droneId_of_readLine`).
* **Slots.**  The slots of a console that can be reached are the numbers below the size of its fleet
  (`Aligned.has_iff`).
-/

namespace FleetConsole

open Json

/-! ## Numbers -/

namespace Json.Numeral

/-- A numeral is a natural number in plain digits: there is no sign, no point and no exponent. -/
structure Spells (n : Numeral) (value : Nat) : Prop where
  negative : n.negative = false
  fraction : n.fraction = []
  exponent : n.exponent = none
  whole : Text.digitsValue n.whole = value

variable {n : Numeral} {value : Nat}

theorem Spells.integer? (h : n.Spells value) (hvalue : value < UInt64.size) :
    n.integer? = some (value : Int) := by
  obtain ⟨hnegative, hfraction, hexponent, rfl⟩ := h
  simp [Numeral.integer?, hnegative, hfraction, hexponent, hvalue]

/-- An integer is negative, or spelled in plain digits. -/
theorem exists_of_integer? {i : Int} (h : n.integer? = some i) :
    i < 0 ∨ ∃ value, n.Spells value ∧ i = value := by
  unfold integer? at h
  split at h
  · cases h
  · rename_i hplain
    obtain ⟨hfraction, hexponent⟩ := not_or.mp hplain
    cases hnegative : n.negative with
    | true =>
        simp only [hnegative, if_true] at h
        split at h
        · obtain rfl := Option.some.inj h
          omega
        · cases h
    | false =>
        simp only [hnegative, Bool.false_eq_true, if_false] at h
        split at h
        · obtain rfl := Option.some.inj h
          exact .inr ⟨_, ⟨hnegative, Decidable.not_not.mp hfraction, Decidable.not_not.mp hexponent, rfl⟩, rfl⟩
        · cases h

/-- **A number names a slot exactly if its numeral spells it**, within the range of slots. -/
theorem slot?_eq_some_iff {number : Number} (h : n.value? = some number) {slot : Nat} :
    number.slot? = some slot ↔ n.Spells slot ∧ slot < UInt32.size := by
  have hsizes : UInt32.size ≤ UInt64.size := by decide
  rw [value?] at h
  cases hinteger : n.integer? with
  | none =>
      rw [hinteger] at h
      obtain ⟨x, -, rfl⟩ := Option.map_eq_some_iff.mp h
      refine ⟨nofun, fun ⟨hspells, hslot⟩ => ?_⟩
      rw [hspells.integer? (by omega)] at hinteger
      cases hinteger
  | some i =>
      rw [hinteger] at h
      obtain rfl := Option.some.inj h
      constructor
      · intro hnumber
        simp only [Number.slot?] at hnumber
        split at hnumber
        · rename_i hrange
          obtain rfl := Option.some.inj hnumber
          obtain hnegative | ⟨value, hspells, rfl⟩ := exists_of_integer? hinteger
          · omega
          · exact ⟨hspells, by omega⟩
        · cases hnumber
      · rintro ⟨hspells, hslot⟩
        rw [hspells.integer? (by omega)] at hinteger
        obtain rfl := Option.some.inj hinteger
        have hrange : (0 : Int) ≤ (slot : Int) ∧ (slot : Int) < UInt32.size := by omega
        simp only [Number.slot?, if_pos hrange, Int.toNat_natCast]

end Json.Numeral

/-! ## Documents -/

namespace Feed

/-- The numeral that a document is. -/
def numeral? : Document → Option Numeral
  | .number n => some n
  | _ => none

/-- The numeral that is written for the index of a drone: in an object it has a key, in a list its
place. -/
def writtenIndex? : Document → Option Numeral
  | .object members _ =>
      (members.find? fun member => messageShape.names? member.1 = some .droneId).bind
        fun member => numeral? member.2
  | .list elements _ => elements[messageShape.fields.idxOf .droneId]?.bind numeral?
  | _ => none

variable {message next : Message Float} {d : Document}

/-- An index is read from a numeral, or from null. -/
theorem droneId_of_optional {value : Option Number}
    (h : Reader.optional (Reader.number "a JSON number") d = .ok value) :
    value = (numeral? d).bind Numeral.value? := by
  cases d with
  | null =>
      obtain rfl := Except.ok.inj h
      rfl
  | number n =>
      simp only [Reader.optional, Reader.number] at h
      cases hvalue : n.value? with
      | none =>
          rw [hvalue] at h
          cases h
      | some number =>
          rw [hvalue] at h
          obtain rfl := Except.ok.inj h
          exact hvalue.symm
  | boolean | string | list | object | broken =>
      simp only [Reader.optional, Reader.number] at h
      obtain ⟨number, hwrong, -⟩ := Reader.exists_of_map_eq_ok h
      exact absurd hwrong (Reader.Shape.mismatch_ne_ok _ _ _)

theorem droneId_of_put (h : messageShape.put .droneId message d = .ok next) :
    next.droneId = (numeral? d).bind Numeral.value? := by
  obtain ⟨value, hvalue, hnext⟩ := Reader.exists_of_bind_eq_ok h
  obtain rfl := Except.ok.inj hnext
  exact droneId_of_optional hvalue

/-- The index of an object is read from the member with its key, wherever that stands. -/
theorem droneId_of_members {members : List (Quotation × Document)} {flaw : Option Flaw}
    (h : messageShape.putMembers [] {} members = .ok message) :
    message.droneId = (writtenIndex? (.object members flaw)).bind Numeral.value? := by
  rw [writtenIndex?]
  cases hfind : members.find? fun member => messageShape.names? member.1 = some .droneId with
  | none =>
      refine droneId_of_putMembers h fun member hmember hnames => ?_
      exact List.find?_eq_none.mp hfind member hmember (decide_eq_true hnames)
  | some member =>
      obtain ⟨hnames, front, back, rfl, -⟩ := List.find?_eq_some_iff_append.mp hfind
      -- the member may as well come first
      have hfirst := Reader.Shape.putMembers_perm messageShape_independent List.perm_middle h
      obtain ⟨after, between, htakes, hrest⟩ := Reader.Shape.exists_takes hfirst
      have hafter := htakes.after_eq
      rw [of_decide_eq_true hnames] at hafter
      obtain rfl : after = [.droneId] := hafter
      have hothers := Reader.Shape.names?_ne_of_mem_seen (List.mem_singleton_self Field.droneId) hrest
      rw [droneId_of_putMembers hrest hothers]
      cases htakes with
      | put hname hfield hfresh hput => exact droneId_of_put hput

/-- The index of a list is read from the element at its place. -/
theorem droneId_of_elements {flaw : Option Flaw} {before after : List Field}
    (hbefore : .droneId ∉ before) (hafter : .droneId ∉ after) {start : Message Float}
    (hstart : start.droneId = none) {elements : List Document}
    (h : messageShape.putElements flaw (before ++ .droneId :: after) start elements =
      .ok message) :
    message.droneId = (elements[before.length]?.bind numeral?).bind Numeral.value? := by
  induction before generalizing start elements with
  | nil =>
      cases elements with
      | nil => rw [Reader.Shape.eq_of_putElements_nil h, hstart]; rfl
      | cons d rest =>
          obtain ⟨next, hput, hrest⟩ := Reader.Shape.exists_of_putElements_cons h
          rw [droneId_of_putElements hrest hafter]
          exact droneId_of_put hput
  | cons field before ih =>
      obtain ⟨hfield, hothers⟩ := not_or.mp (mt List.mem_cons.mpr hbefore)
      cases elements with
      | nil => rw [Reader.Shape.eq_of_putElements_nil h, hstart]; rfl
      | cons d rest =>
          obtain ⟨next, hput, hrest⟩ := Reader.Shape.exists_of_putElements_cons h
          have hnext : next.droneId = none :=
            (droneId_of_put_ne hput (Ne.symm hfield)).trans hstart
          exact ih hothers hnext hrest

/-- **The index of a message is the number that is written for it.** -/
theorem droneId_of_readLine {line : List Char} (h : readLine line = .ok message) :
    message.droneId = (writtenIndex? (Document.read line).1).bind Numeral.value? := by
  obtain ⟨document, hread, -, hmessage⟩ := exists_document h
  obtain ⟨result, hshape, hresult⟩ := Reader.exists_of_bind_eq_ok hmessage
  obtain rfl : result.1 = message := Except.ok.inj hresult
  rw [hread]
  cases document with
  | object members flaw => exact droneId_of_members (Reader.Shape.putMembers_of_read hshape).2
  | list elements flaw =>
      have hbefore : Field.droneId ∉ [Field.identifier, .drones, .paths] := by decide
      have hafter : Field.droneId ∉ [Field.location, .ready] := by decide
      exact droneId_of_elements hbefore hafter rfl (Reader.Shape.putElements_of_read hshape)
  | _ => exact absurd hshape (Reader.Shape.mismatch_ne_ok _ _ _)

end Feed

/-! ## Slots -/

theorem Fleet.Aligned.has_iff {α : Type} {fleet : Fleet α} (h : fleet.Aligned) (slot : Nat) :
    fleet.liveAt.has slot = true ↔ slot < fleet.size := by
  rw [Slots.has, ← h.getElem?_live, Option.isSome_iff_ne_none, Ne, List.getElem?_eq_none_iff,
    Fleet.live, Slots.length_values]
  exact Nat.not_le

theorem Slots.get?_set_self {β : Type} {slot : Nat} {table : Slots β}
    (h : table.has slot = true) (value : β) : (table.set slot value).get? slot = some value := by
  obtain ⟨old, hold⟩ := Option.isSome_iff_exists.mp h
  rw [get?_set, hold, Option.map_some, if_pos rfl]

theorem Slots.get?_set_of_ne {β : Type} {slot other : Nat} (h : other ≠ slot) (value : β)
    (table : Slots β) : (table.set slot value).get? other = table.get? other := by
  rw [get?_set]
  cases table.get? other with
  | none => rfl
  | some old => rw [Option.map_some, if_neg h]

/-! ## Parts of a message -/

namespace Message

variable {α : Type}

/-- What is handled before an update. -/
def opening (message : Message α) : Message α :=
  { identifier := message.identifier, drones := message.drones }

/-- An update alone. -/
def update (message : Message α) : Message α :=
  { droneId := message.droneId, location := message.location }

/-- What is handled after an update. -/
def closing (message : Message α) : Message α :=
  { paths := message.paths, ready := message.ready }

theorem acts_opening (message : Message α) :
    message.opening.acts =
      (message.identifier.map Act.identifier).toList ++ (message.drones.map Act.roster).toList := by
  simp [Message.acts, Message.opening]

theorem acts_update {message : Message α} {index : Json.Number} {p : Position α}
    (hindex : message.droneId = some index) (hlocation : message.location = some p) :
    message.update.acts = [.update index p] := by
  simp [Message.acts, Message.update, hindex, hlocation]

theorem acts_parts (message : Message α) :
    message.acts = message.opening.acts ++ (message.update.acts ++ message.closing.acts) := by
  simp only [Message.acts, Message.opening, Message.update, Message.closing, Option.map_none,
    Option.toList_none, List.nil_append, List.append_assoc]
  rfl

end Message

namespace Console

variable {α : Type} [Coordinate α]

/-- A message is handled in three parts. -/
theorem handle_parts (message : Message α) (console : Console α) :
    handle message console =
      inTurn [handle message.opening, handle message.update, handle message.closing] console := by
  simp only [inTurn, handle_eq]
  rw [message.acts_parts, performAll_append, performAll_append, List.append_nil]

/-- The roster of a document is there before its update. -/
theorem size_opening (message : Message α) (console : Console α) :
    (handle message.opening console).1.fleet.size =
      (message.drones.map List.length).getD console.fleet.size := by
  rw [handle_eq, message.acts_opening, fleet_before_update]
  cases message.drones with
  | none => rfl
  | some roster =>
      simp only [takeRoster]
      split <;> exact Fleet.size_replaceRoster roster console.fleet

end Console

/-- **An update hits the drone that it names, and no other.**  Take any console that can be reached
and any document with an index and a position for it.  Its update is handled after its roster and
before its plan.  The index has been read from a numeral of the document.  If that is the number of a
drone of the fleet in plain digits, the live position of the drone is changed and its slot is told; no
other live position and nothing else of the console is touched.  If it is anything else, nothing
changes at all and the update is rejected as out of range, with the size of the fleet.  A slot is a
number of 32 bits, however large the fleet. -/
theorem update_hits_named_drone (settings : ConsoleSettings Float)
    (history : List (Operation Float)) {line : List Char} {message : Message Float}
    {index : Json.Number} {p : Position Float} (hread : Feed.readLine line = .ok message)
    (hindex : message.droneId = some index) (hlocation : message.location = some p) :
    let console := (Console.fresh settings).after history
    let reached := (Console.handle message.opening console).1
    let live := reached.fleet.liveAt
    let size := (message.drones.map List.length).getD console.fleet.size
    Console.handle message console =
        Console.inTurn [Console.handle message.opening, Console.handle message.update,
          Console.handle message.closing] console ∧
      reached.fleet.size = size ∧
      ∃ written, Feed.writtenIndex? (Document.read line).1 = some written ∧
        (∀ slot, written.Spells slot → slot < size → slot < UInt32.size →
          Console.handle message.update reached =
              ({ reached with fleet := { reached.fleet with liveAt := live.set slot p } },
                [.liveUpdated slot]) ∧
            (live.set slot p).get? slot = some p ∧
            ∀ other, other ≠ slot → (live.set slot p).get? other = live.get? other) ∧
        ((¬ ∃ slot, written.Spells slot ∧ slot < size ∧ slot < UInt32.size) →
          Console.handle message.update reached =
            (reached, [.rejected (.outOfRange index.text size)])) := by
  intro console reached live size
  have hsize : reached.fleet.size = size := Console.size_opening message console
  have haligned : reached.fleet.Aligned := by
    have hcoherent := Console.performAll_coherent (coherent_after_fresh settings history)
      message.opening.acts
    rw [← Console.handle_eq] at hcoherent
    exact hcoherent.aligned
  have hhas (slot : Nat) : live.has slot = true ↔ slot < size := by
    rw [← hsize]
    exact haligned.has_iff slot
  have hupdate : Console.handle message.update reached =
      Console.perform (.update index p) reached := by
    rw [Console.handle_eq, Message.acts_update hindex hlocation, Console.performAll_singleton]
  -- the number has been read from a numeral
  have hnumber := Feed.droneId_of_readLine hread
  rw [hindex] at hnumber
  obtain ⟨written, hwritten, hvalue⟩ := Option.bind_eq_some_iff.mp hnumber.symm
  have hnames (slot : Nat) :
      index.slot? = some slot ↔ written.Spells slot ∧ slot < UInt32.size :=
    Numeral.slot?_eq_some_iff hvalue
  refine ⟨Console.handle_parts message console, hsize, written, hwritten, ?_, ?_⟩
  · intro slot hspells hslot hbits
    have hlive : live.has slot = true := (hhas slot).mpr hslot
    have hsome : index.slot?.filter live.has = some slot :=
      Option.filter_eq_some_iff.mpr ⟨(hnames slot).mpr ⟨hspells, hbits⟩, hlive⟩
    refine ⟨?_, Slots.get?_set_self hlive p, fun other hother => Slots.get?_set_of_ne hother p live⟩
    rw [hupdate, Console.perform_update_of_some hsome]
  · intro hnone
    have hfilter : index.slot?.filter live.has = none := by
      refine Option.filter_eq_none_iff.mpr fun slot hslot hlive => hnone ⟨slot, ?_⟩
      obtain ⟨hspells, hbits⟩ := (hnames slot).mp hslot
      exact ⟨hspells, (hhas slot).mp hlive, hbits⟩
    rw [hupdate, Console.perform_update_of_none hfilter, hsize]

theorem update_hits_named_drone_newRoster :
    let line := ("\x7b\"DroneId\":1,\"Location\":[4,5,6]," ++
      "\"Drones\":[[0,0,0],[1,0,0]],\"Ready\":true\x7d").toList
    let console : Console Float := (Console.fresh ⟨1000000000, 30, 1 / 2⟩).after []
    ∃ message index p, Feed.readLine line = .ok message ∧ message.droneId = some index ∧
      message.location = some p ∧
      let reached := (Console.handle message.opening console).1
      reached.fleet.size = 2 ∧ (Console.handle message.update reached).2 = [.liveUpdated 1] := by
  intro line console
  obtain ⟨first, second, p, hread⟩ : ∃ first second p, Feed.readLine line =
      .ok { drones := some [first, second], droneId := some (.integer 1), location := some p,
            ready := some true } := ⟨_, _, _, rfl⟩
  refine ⟨_, .integer 1, p, hread, rfl, rfl, ?_⟩
  obtain ⟨-, hsize, written, hwritten, hhits, -⟩ :=
    update_hits_named_drone ⟨1000000000, 30, 1 / 2⟩ [] hread rfl rfl
  have hnumeral : Feed.writtenIndex? (Document.read line).1 = some ⟨false, [1], [], none⟩ := rfl
  obtain rfl := Option.some.inj (hwritten.symm.trans hnumeral)
  obtain ⟨hupdate, -, -⟩ := hhits 1 ⟨rfl, rfl, rfl, rfl⟩ (show 1 < 2 by decide) (by decide)
  exact ⟨hsize, congrArg Prod.snd hupdate⟩

end FleetConsole
