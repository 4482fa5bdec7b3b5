import FleetConsole.Proofs.Joining

/-!
# The text of a number

A literal is a number as the grammar of documents has it: a sign, digits without a leading zero, a
fraction and an exponent, of which only the digits must be there.  Every literal is one lexeme,
however long its parts are (`lexemes_text`).  Whether the number is in range is another matter.
-/

namespace FleetConsole.Json

open Text (digit?)

/-- An exponent: its letter, its sign, which may be negative, and its digits. -/
structure Exponent where
  capital : Bool
  sign : Option Bool
  digits : List (Fin 10)
  digits_ne_nil : digits ≠ []

/-- A number of the grammar.  There is a point exactly if `fraction` has digits. -/
structure NumberLiteral where
  negative : Bool
  whole : List (Fin 10)
  fraction : List (Fin 10)
  exponent : Option Exponent
  whole_ne_nil : whole ≠ []
  whole_of_leading_zero : whole.head? = some 0 → whole = [0]

def digitsText (ds : List (Fin 10)) : List Char := ds.map fun d => Nat.digitChar d.val

namespace Exponent

def signText : Option Bool → List Char
  | none => []
  | some false => ['+']
  | some true => ['-']

def text (e : Exponent) : List Char :=
  (if e.capital then 'E' else 'e') :: (signText e.sign ++ digitsText e.digits)

/-- Whether an exponent is negative, and its digits. -/
def value (e : Exponent) : Bool × List (Fin 10) := (e.sign = some true, e.digits)

end Exponent

def fractionText : List (Fin 10) → List Char
  | [] => []
  | ds => '.' :: digitsText ds

def exponentText : Option Exponent → List Char
  | none => []
  | some e => e.text

namespace NumberLiteral

def text (literal : NumberLiteral) : List Char :=
  (if literal.negative then ['-'] else []) ++
    (digitsText literal.whole ++ (fractionText literal.fraction ++ exponentText literal.exponent))

/-- The number that a literal spells. -/
def numeral (literal : NumberLiteral) : Numeral :=
  ⟨literal.negative, literal.whole, literal.fraction, literal.exponent.map Exponent.value⟩

end NumberLiteral

/-! ## Digits -/

theorem digit?_digitChar : ∀ d : Fin 10, digit? (Nat.digitChar d.val) = some d := by
  decide

theorem digitChar_ne_sign :
    ∀ d : Fin 10, Nat.digitChar d.val ≠ '+' ∧ Nat.digitChar d.val ≠ '-' := by
  decide

namespace Mode

/-- Digits are taken one by one where digits are read. -/
theorem lexemes_digits {reading : List (Fin 10) → Mode}
    (hreading : ∀ done d c, digit? c = some d →
      (reading done).step c = ([], reading (d :: done)))
    (done ds : List (Fin 10)) (text : List Char) :
    (reading done).lexemes (digitsText ds ++ text) =
      (reading (ds.reverse ++ done)).lexemes text := by
  induction ds generalizing done with
  | nil => rfl
  | cons d ds ih =>
      rw [digitsText, List.map_cons, List.cons_append, Mode.lexemes,
        hreading done d _ (digit?_digitChar d), List.nil_append, List.reverse_cons,
        List.append_assoc]
      exact ih (d :: done)

theorem step_whole (negative : Bool) (done : List (Fin 10)) (d : Fin 10) (c : Char)
    (h : digit? c = some d) : (whole negative done).step c = ([], whole negative (d :: done)) := by
  simp only [step, h]

theorem step_fraction (n : Numeral) (done : List (Fin 10)) (d : Fin 10) (c : Char)
    (h : digit? c = some d) : (fraction n done).step c = ([], fraction n (d :: done)) := by
  simp only [step, h]

theorem step_exponent (n : Numeral) (negative : Bool) (done : List (Fin 10)) (d : Fin 10)
    (c : Char) (h : digit? c = some d) :
    (exponent n negative done).step c = ([], exponent n negative (d :: done)) := by
  simp only [step, h]

/-! ## Parts of a literal -/

/-- A number may end, or go on with an exponent. -/
structure Ends (mode : Mode) (n : Numeral) : Prop where
  finish : mode.finish = [.number n]
  mark : ∀ c, c = 'e' ∨ c = 'E' → mode.step c = ([], .mark n)

variable {mode : Mode} {n : Numeral}

theorem lexemes_exponent (n : Numeral) (negative : Bool) (d : Fin 10) (ds : List (Fin 10)) :
    (exponent n negative [d]).lexemes (digitsText ds) =
      [.number { n with exponent := some (negative, d :: ds) }] := by
  have hdigits := lexemes_digits (step_exponent n negative) [d] ds []
  rw [List.append_nil] at hdigits
  rw [hdigits, Mode.lexemes, Mode.finish, List.reverse_append, List.reverse_reverse]
  rfl

theorem lexemes_sign (n : Numeral) (negative : Bool) (d : Fin 10) (ds : List (Fin 10)) :
    (sign n negative).lexemes (digitsText (d :: ds)) =
      [.number { n with exponent := some (negative, d :: ds) }] := by
  have hstep : (sign n negative).step (Nat.digitChar d.val) = ([], exponent n negative [d]) := by
    simp only [step, digit?_digitChar]
  rw [digitsText, List.map_cons, Mode.lexemes, hstep]
  exact lexemes_exponent n negative d ds

theorem lexemes_mark (n : Numeral) (sign : Option Bool) {ds : List (Fin 10)} (hds : ds ≠ []) :
    (mark n).lexemes (Exponent.signText sign ++ digitsText ds) =
      [.number { n with exponent := some (decide (sign = some true), ds) }] := by
  cases ds with
  | nil => exact absurd rfl hds
  | cons d ds =>
      cases sign with
      | none =>
          obtain ⟨hplus, hminus⟩ := digitChar_ne_sign d
          have hstep : (mark n).step (Nat.digitChar d.val) = ([], exponent n false [d]) := by
            simp only [step, hplus, hminus, if_false, digit?_digitChar]
          rw [Exponent.signText, List.nil_append, digitsText, List.map_cons, Mode.lexemes, hstep]
          exact lexemes_exponent n false d ds
      | some negative =>
          cases negative with
          | false => exact lexemes_sign n false d ds
          | true => exact lexemes_sign n true d ds

theorem Ends.lexemes_exponentText (h : mode.Ends n) (hn : n.exponent = none)
    (e : Option Exponent) :
    mode.lexemes (exponentText e) = [.number { n with exponent := e.map Exponent.value }] := by
  cases e with
  | none =>
      rw [Option.map_none, ← hn]
      exact h.finish
  | some e =>
      have hmark : mode.step (if e.capital then 'E' else 'e') = ([], .mark n) :=
        h.mark _ (by cases e.capital <;> simp)
      rw [exponentText, Exponent.text, Mode.lexemes, hmark]
      exact lexemes_mark n e.sign e.digits_ne_nil

theorem ends_fraction (n : Numeral) (ds : List (Fin 10)) :
    (fraction n ds).Ends { n with fraction := ds.reverse } where
  finish := rfl
  mark c hc := by
    rcases hc with rfl | rfl <;> rfl

theorem lexemes_fractionText (h : mode.Ends n) (hpoint : mode.step '.' = ([], .point n))
    (hfraction : n.fraction = []) (hexponent : n.exponent = none) (ds : List (Fin 10))
    (e : Option Exponent) :
    mode.lexemes (fractionText ds ++ exponentText e) =
      [.number { n with fraction := ds, exponent := e.map Exponent.value }] := by
  cases ds with
  | nil =>
      simpa only [fractionText, List.nil_append, hfraction] using h.lexemes_exponentText hexponent e
  | cons d ds =>
      have hstep : (point n).step (Nat.digitChar d.val) = ([], fraction n [d]) := by
        simp only [step, digit?_digitChar]
      calc mode.lexemes (fractionText (d :: ds) ++ exponentText e)
          = (point n).lexemes (digitsText (d :: ds) ++ exponentText e) := by
            rw [fractionText, List.cons_append, Mode.lexemes, hpoint]
            · rfl
            · exact List.cons_ne_nil d ds
        _ = (fraction n [d]).lexemes (digitsText ds ++ exponentText e) := by
            rw [digitsText, List.map_cons, List.cons_append, Mode.lexemes, hstep]
            rfl
        _ = (fraction n (ds.reverse ++ [d])).lexemes (exponentText e) :=
            lexemes_digits (step_fraction n) [d] ds _
        _ = [.number { n with fraction := d :: ds, exponent := e.map Exponent.value }] := by
            rw [(ends_fraction n _).lexemes_exponentText hexponent, List.reverse_append,
              List.reverse_reverse]
            rfl

/-! ## The whole literal -/

/-- The mode after the first digit of a number. -/
def first (negative : Bool) (d : Fin 10) : Mode :=
  if d.val = 0 then zero negative else whole negative [d]

theorem begin_digit : ∀ d : Fin 10, begin (Nat.digitChar d.val) = ([], first false d)
  | 0 | 1 | 2 | 3 | 4 | 5 | 6 | 7 | 8 | 9 => rfl

theorem step_minus : ∀ d : Fin 10, minus.step (Nat.digitChar d.val) = ([], first true d)
  | 0 | 1 | 2 | 3 | 4 | 5 | 6 | 7 | 8 | 9 => rfl

theorem ends_zero (negative : Bool) : (zero negative).Ends ⟨negative, [0], [], none⟩ where
  finish := rfl
  mark c hc := by
    rcases hc with rfl | rfl <;> rfl

theorem ends_whole (negative : Bool) (ds : List (Fin 10)) :
    (whole negative ds).Ends ⟨negative, ds.reverse, [], none⟩ where
  finish := rfl
  mark c hc := by
    rcases hc with rfl | rfl <;> rfl

/-- What follows the first digit of a literal. -/
theorem lexemes_first (literal : NumberLiteral) {d : Fin 10} {ds : List (Fin 10)}
    (hwhole : literal.whole = d :: ds) :
    (first literal.negative d).lexemes
        (digitsText ds ++ (fractionText literal.fraction ++ exponentText literal.exponent)) =
      [.number literal.numeral] := by
  unfold first
  split
  · rename_i hzero
    obtain rfl : d = 0 := Fin.ext hzero
    have halone : literal.whole = [0] := literal.whole_of_leading_zero (by rw [hwhole]; rfl)
    obtain rfl : ds = [] := by
      rw [hwhole] at halone
      exact (List.cons.inj halone).2
    rw [NumberLiteral.numeral, halone]
    exact lexemes_fractionText (ends_zero literal.negative) rfl rfl rfl _ _
  · rw [lexemes_digits (step_whole literal.negative), NumberLiteral.numeral, hwhole]
    have hread := lexemes_fractionText (ends_whole literal.negative (ds.reverse ++ [d])) rfl rfl rfl
      literal.fraction literal.exponent
    rw [List.reverse_append, List.reverse_reverse] at hread
    exact hread

end Mode

/-- **Every literal is one lexeme.** -/
theorem lexemes_text (literal : NumberLiteral) :
    lexemes literal.text = [.number literal.numeral] := by
  cases hwhole : literal.whole with
  | nil => exact absurd hwhole literal.whole_ne_nil
  | cons d ds =>
      have hfirst := Mode.lexemes_first literal hwhole
      rw [NumberLiteral.text, hwhole, lexemes]
      cases hnegative : literal.negative with
      | false =>
          rw [hnegative] at hfirst
          show (Mode.begin (Nat.digitChar d.val)).1 ++
            (Mode.begin (Nat.digitChar d.val)).2.lexemes _ = _
          rw [Mode.begin_digit]
          exact hfirst
      | true =>
          rw [hnegative] at hfirst
          show (Mode.minus.step (Nat.digitChar d.val)).1 ++
            (Mode.minus.step (Nat.digitChar d.val)).2.lexemes _ = _
          rw [Mode.step_minus]
          exact hfirst

end FleetConsole.Json
