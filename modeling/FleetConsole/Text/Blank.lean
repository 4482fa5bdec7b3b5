/-!
# Blank characters

The white space of Unicode and the trimming that goes by it.  Neither the zero-width characters
nor the byte order mark are blank.

`trim_eq_nil_iff` says which texts have nothing left: those of blank characters only.
-/

namespace FleetConsole.Text

/-- A character is blank if Unicode calls it white space. -/
def isBlank (c : Char) : Bool :=
  let n := c.toNat
  (0x09 ≤ n && n ≤ 0x0D) || n == 0x20 || n == 0x85 || n == 0xA0 || n == 0x1680
    || (0x2000 ≤ n && n ≤ 0x200A) || n == 0x2028 || n == 0x2029 || n == 0x202F || n == 0x205F
    || n == 0x3000

/-- A text without the blank characters at its two ends. -/
def trim (text : List Char) : List Char :=
  ((text.dropWhile isBlank).reverse.dropWhile isBlank).reverse

private theorem dropWhile_isBlank_eq_nil (text : List Char) :
    text.dropWhile isBlank = [] ↔ ∀ c ∈ text, isBlank c = true := by
  induction text with
  | nil => simp
  | cons c rest ih =>
      by_cases h : isBlank c = true
      · simp [h, ih]
      · simp [h]

/-- Nothing is left of a text exactly when all of it is blank. -/
theorem trim_eq_nil_iff (text : List Char) : trim text = [] ↔ ∀ c ∈ text, isBlank c = true := by
  simp only [trim, List.reverse_eq_nil_iff, dropWhile_isBlank_eq_nil, List.mem_reverse]
  constructor
  · intro h
    rw [← dropWhile_isBlank_eq_nil]
    cases hrest : text.dropWhile isBlank with
    | nil => rfl
    | cons c rest =>
        have hhead : isBlank c = false := by
          have := List.head?_dropWhile_not isBlank text
          rw [hrest] at this
          simpa using this
        have := h c (by simp [hrest])
        simp [hhead] at this
  · intro h c hc
    exact h c ((List.dropWhile_sublist isBlank).subset hc)

/-- What is left of a text begins and ends with characters that are not blank. -/
theorem trim_append {lead body trail : List Char} {first last : Char}
    (hlead : ∀ c ∈ lead, isBlank c = true) (htrail : ∀ c ∈ trail, isBlank c = true)
    (hfirst : isBlank first = false) (hlast : isBlank last = false) :
    trim (lead ++ first :: (body ++ last :: trail)) = first :: (body ++ [last]) := by
  have hreverse : (first :: (body ++ last :: trail)).reverse =
      trail.reverse ++ last :: (first :: body).reverse := by simp
  have hblank : ∀ c ∈ trail.reverse, isBlank c = true := fun c hc =>
    htrail c (List.mem_reverse.mp hc)
  rw [trim, List.dropWhile_append_of_pos hlead, List.dropWhile_cons_of_neg (by simp [hfirst]),
    hreverse, List.dropWhile_append_of_pos hblank, List.dropWhile_cons_of_neg (by simp [hlast])]
  simp

end FleetConsole.Text
