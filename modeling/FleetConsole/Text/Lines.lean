import FleetConsole.Text.Blank

/-!
# Lines of a text

A text is a sequence of lines with a line feed between any two.  What counts of a line is what is
left after trimming, and only if something is left; a carriage return before the line feed is blank
and goes with the rest.

`filledLines_append` says that joining two texts by a line feed joins their lines, and
`lines_joined` that a text can be put together from any lines.
-/

namespace FleetConsole.Text

/-- The pieces of a text between the occurrences of a character; there is always at least one. -/
def split (separator : Char) : List Char → List (List Char)
  | [] => [[]]
  | c :: rest =>
      if c = separator then [] :: split separator rest
      else
        match split separator rest with
        | [] => [[c]]
        | piece :: others => (c :: piece) :: others

/-- The lines of a text. -/
def lines (text : List Char) : List (List Char) := split '\n' text

/-- The lines of a text that are not blank, trimmed. -/
def filledLines (text : List Char) : List (List Char) :=
  ((lines text).map trim).filter (! ·.isEmpty)

theorem split_ne_nil (separator : Char) (text : List Char) : split separator text ≠ [] := by
  cases text with
  | nil => simp [split]
  | cons c rest =>
      rw [split]
      split
      · simp
      · cases split separator rest <;> simp

/-- A separator between two texts keeps their pieces apart. -/
theorem split_append (separator : Char) (first second : List Char) :
    split separator (first ++ separator :: second) =
      split separator first ++ split separator second := by
  induction first with
  | nil => simp [split]
  | cons c rest ih =>
      simp only [List.cons_append, split, ih]
      split
      · rfl
      · cases h : split separator rest with
        | nil => exact absurd h (split_ne_nil separator rest)
        | cons piece others => rfl

/-! ### Texts put together from lines -/

theorem split_eq_splitOn (separator : Char) (text : List Char) :
    split separator text = text.splitOn separator := by
  induction text with
  | nil => rfl
  | cons c rest ih =>
      simp only [List.splitOn] at ih
      simp only [split, ih, List.splitOn, List.splitOnP_cons_eq_if_modifyHead, beq_iff_eq]
      by_cases h : c = separator
      · rw [if_pos h, if_pos h]
      · rw [if_neg h, if_neg h]
        cases hpieces : List.splitOnP (· == separator) rest with
        | nil => exact absurd (ih.trans hpieces) (split_ne_nil separator rest)
        | cons piece others => rfl

/-- No piece has a separator in it. -/
theorem not_mem_of_mem_split {separator : Char} {text piece : List Char}
    (h : piece ∈ split separator text) : separator ∉ piece := by
  induction text generalizing piece with
  | nil =>
      obtain rfl := List.mem_singleton.mp h
      exact List.not_mem_nil
  | cons c rest ih =>
      rw [split] at h
      by_cases hc : c = separator
      · rw [if_pos hc] at h
        rcases List.mem_cons.mp h with rfl | hrest
        · exact List.not_mem_nil
        · exact ih hrest
      · rw [if_neg hc] at h
        cases hsplit : split separator rest with
        | nil => exact absurd hsplit (split_ne_nil separator rest)
        | cons first others =>
            rw [hsplit] at h
            rcases List.mem_cons.mp h with rfl | hothers
            · have hfirst : separator ∉ first := ih (by simp [hsplit])
              simp [Ne.symm hc, hfirst]
            · exact ih (by simp [hsplit, hothers])

/-- A text of the given lines. -/
def joined (pieces : List (List Char)) : List Char := ['\n'].intercalate pieces

theorem lines_joined {pieces : List (List Char)} (hne : pieces ≠ [])
    (hpieces : ∀ piece ∈ pieces, '\n' ∉ piece) : lines (joined pieces) = pieces := by
  rw [lines, split_eq_splitOn]
  exact List.splitOn_intercalate '\n' hpieces hne

/-- A text without a line feed is one line. -/
theorem lines_of_not_mem {text : List Char} (h : '\n' ∉ text) : lines text = [text] := by
  have hjoined := lines_joined (List.cons_ne_nil text []) (by simpa using h)
  simpa [joined, List.intercalate] using hjoined

/-- The lines that are left of a text make a text of their own, even if there are none. -/
theorem filledLines_joined_filter (keep : List Char → Bool) (text : List Char) :
    filledLines (joined ((lines text).filter keep)) =
      (((lines text).filter keep).map trim).filter (! ·.isEmpty) := by
  by_cases hnone : (lines text).filter keep = []
  · rw [hnone]
    rfl
  · have hpieces : ∀ piece ∈ (lines text).filter keep, '\n' ∉ piece := fun piece hpiece =>
      not_mem_of_mem_split (List.mem_filter.mp hpiece).1
    rw [filledLines, lines_joined hnone hpieces]

/-- Joining two texts by a line feed joins their lines. -/
theorem filledLines_append (first second : List Char) :
    filledLines (first ++ '\n' :: second) = filledLines first ++ filledLines second := by
  simp [filledLines, lines, split_append]

end FleetConsole.Text
