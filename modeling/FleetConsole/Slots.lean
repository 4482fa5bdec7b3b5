/-!
# Tables by slot

A table has a value for each of its slots and goes through them in the order of their numbers.
Working on a table changes its values and keeps its slots; only a new table has other ones.

Values come back into a table in that order too, with nothing said about the slots they came from.
`renew_values` says when this gives every slot its own: when both tables have the same slots.
-/

namespace FleetConsole

/-- The values of some slots, in the order of the slots. -/
structure Slots (β : Type) where
  entries : List (Nat × β)
  ascending : (entries.map Prod.fst).Pairwise (· < ·)
deriving DecidableEq

namespace Slots

variable {β γ : Type}

def empty : Slots β := ⟨[], .nil⟩

/-- The slots of a table. -/
def numbers (table : Slots β) : List Nat := table.entries.map Prod.fst

def values (table : Slots β) : List β := table.entries.map Prod.snd

def size (table : Slots β) : Nat := table.entries.length

def get? (slot : Nat) (table : Slots β) : Option β := table.entries.lookup slot

def has (slot : Nat) (table : Slots β) : Bool := (table.get? slot).isSome

/-- The table that numbers values from zero on. -/
def ofList (values : List β) : Slots β where
  entries := (List.range values.length).zip values
  ascending := by
    rw [List.map_fst_zip (by simp)]
    exact List.pairwise_lt_range

/-- Every value changes, by its slot. -/
def mapSlots (f : Nat → β → γ) (table : Slots β) : Slots γ where
  entries := table.entries.map fun entry => (entry.1, f entry.1 entry.2)
  ascending := by simpa [Function.comp_def] using table.ascending

/-- Every value changes. -/
def map (f : β → γ) (table : Slots β) : Slots γ := table.mapSlots fun _ => f

/-- One slot has another value; a slot that is not there stays away. -/
def set (slot : Nat) (value : β) (table : Slots β) : Slots β :=
  table.mapSlots fun s old => if s = slot then value else old

/-- The entries with other values, as far as there are any. -/
def renewed : List (Nat × β) → List β → List (Nat × β)
  | entry :: entries, value :: values => (entry.1, value) :: renewed entries values
  | entries, _ => entries

theorem map_fst_renewed (entries : List (Nat × β)) (values : List β) :
    (renewed entries values).map Prod.fst = entries.map Prod.fst := by
  fun_induction renewed entries values with
  | case1 entry entries value values ih => simp [ih]
  | case2 => rfl

/-- Values take the places of the first ones of a table, in order. -/
def renew (values : List β) (table : Slots β) : Slots β where
  entries := renewed table.entries values
  ascending := map_fst_renewed table.entries values ▸ table.ascending

/-! ## The slots of a table -/

@[simp] theorem numbers_ofList (values : List β) :
    (ofList values).numbers = List.range values.length :=
  List.map_fst_zip (by simp)

@[simp] theorem numbers_mapSlots (f : Nat → β → γ) (table : Slots β) :
    (table.mapSlots f).numbers = table.numbers := by
  simp [numbers, mapSlots]

@[simp] theorem numbers_map (f : β → γ) (table : Slots β) :
    (table.map f).numbers = table.numbers :=
  numbers_mapSlots _ table

@[simp] theorem numbers_set (slot : Nat) (value : β) (table : Slots β) :
    (table.set slot value).numbers = table.numbers :=
  numbers_mapSlots _ table

@[simp] theorem numbers_renew (values : List β) (table : Slots β) :
    (table.renew values).numbers = table.numbers :=
  map_fst_renewed table.entries values

@[simp] theorem length_numbers (table : Slots β) : table.numbers.length = table.size := by
  simp [numbers, size]

@[simp] theorem length_values (table : Slots β) : table.values.length = table.size := by
  simp [values, size]

theorem size_eq_of_numbers_eq {first : Slots β} {second : Slots γ}
    (h : first.numbers = second.numbers) : first.size = second.size := by
  rw [← length_numbers, ← length_numbers, h]

@[simp] theorem size_ofList (values : List β) : (ofList values).size = values.length := by
  rw [← length_numbers, numbers_ofList, List.length_range]

@[simp] theorem size_set (slot : Nat) (value : β) (table : Slots β) :
    (table.set slot value).size = table.size :=
  size_eq_of_numbers_eq (numbers_set slot value table)

@[simp] theorem size_renew (values : List β) (table : Slots β) :
    (table.renew values).size = table.size :=
  size_eq_of_numbers_eq (numbers_renew values table)

/-! ## The values of a table -/

@[simp] theorem values_ofList (values : List β) : (ofList values).values = values :=
  List.map_snd_zip (by simp)

@[simp] theorem values_map (f : β → γ) (table : Slots β) :
    (table.map f).values = table.values.map f := by
  simp [values, map, mapSlots]

theorem lookup_mapSlots (f : Nat → β → γ) (slot : Nat) (entries : List (Nat × β)) :
    (entries.map fun entry => (entry.1, f entry.1 entry.2)).lookup slot =
      (entries.lookup slot).map (f slot) := by
  induction entries with
  | nil => rfl
  | cons entry entries ih =>
      obtain ⟨number, value⟩ := entry
      cases h : slot == number with
      | true => simp [eq_of_beq h]
      | false => simp [List.lookup_cons, h, ih]

@[simp] theorem get?_mapSlots (f : Nat → β → γ) (slot : Nat) (table : Slots β) :
    (table.mapSlots f).get? slot = (table.get? slot).map (f slot) :=
  lookup_mapSlots f slot table.entries

@[simp] theorem get?_map (f : β → γ) (slot : Nat) (table : Slots β) :
    (table.map f).get? slot = (table.get? slot).map f :=
  get?_mapSlots (fun _ => f) slot table

theorem get?_set (slot other : Nat) (value : β) (table : Slots β) :
    (table.set slot value).get? other =
      (table.get? other).map fun old => if other = slot then value else old :=
  get?_mapSlots _ other table

theorem lookup_zip_range' (start slot : Nat) (values : List β) :
    ((List.range' start values.length).zip values).lookup (start + slot) = values[slot]? := by
  induction values generalizing start slot with
  | nil => rfl
  | cons value values ih =>
      cases slot with
      | zero => simp [List.range'_succ]
      | succ slot =>
          have hne : (start + (slot + 1) == start) = false := by simp
          have hnext := ih (start + 1) slot
          rw [show start + 1 + slot = start + (slot + 1) by omega] at hnext
          simp [List.range'_succ, List.lookup_cons, hne, hnext]

theorem get?_ofList (slot : Nat) (values : List β) : (ofList values).get? slot = values[slot]? := by
  simpa [get?, ofList, List.range_eq_range'] using lookup_zip_range' 0 slot values

/-- In a table whose slots are the numbers from zero on every value stands at its slot. -/
theorem getElem?_values {table : Slots β} {count : Nat} (h : table.numbers = List.range count)
    (slot : Nat) : table.values[slot]? = table.get? slot := by
  have hcount : count = table.values.length := by
    rw [length_values, ← length_numbers, h, List.length_range]
  have hentries : table.entries = (ofList table.values).entries :=
    List.zip_of_prod (hcount ▸ h) rfl
  rw [← get?_ofList, get?, get?, hentries]

/-- Values that a table with the same slots has go to the slots that they have there. -/
theorem renew_values {table other : Slots β} (h : table.numbers = other.numbers) :
    table.renew other.values = other := by
  obtain ⟨entries, hentries⟩ := table
  obtain ⟨others, hothers⟩ := other
  simp only [numbers, renew, values, mk.injEq] at h ⊢
  clear hentries hothers
  induction entries generalizing others with
  | nil => simp_all [renewed]
  | cons entry entries ih =>
      cases others with
      | nil => simp at h
      | cons first others =>
          simp only [List.map_cons, List.cons.injEq] at h
          simp [renewed, h.1, ih others h.2]

end Slots

end FleetConsole
