/-!
# Digits

Decimal and hexadecimal digits of ASCII, and the numbers that rows of them spell.
-/

namespace FleetConsole.Text

/-- The digit that a character stands for. -/
def digit? (c : Char) : Option (Fin 10) :=
  if h : '0' ≤ c ∧ c ≤ '9' then
    some ⟨c.toNat - 48, by
      have : c.toNat ≤ 57 := h.2
      omega⟩
  else none

/-- The value of a hexadecimal digit. -/
def hexDigit? (c : Char) : Option Nat :=
  if '0' ≤ c ∧ c ≤ '9' then some (c.toNat - 48)
  else if 'a' ≤ c ∧ c ≤ 'f' then some (c.toNat - 87)
  else if 'A' ≤ c ∧ c ≤ 'F' then some (c.toNat - 55)
  else none

/-- The number that a row of digits spells. -/
def digitsValue (ds : List (Fin 10)) : Nat := ds.foldl (fun n d => 10 * n + d.val) 0

/-- The digits at the beginning of a text, and the text after them. -/
def leadingDigits : List Char → List (Fin 10) × List Char
  | [] => ([], [])
  | c :: rest =>
      match digit? c with
      | some d =>
          let (ds, rest) := leadingDigits rest
          (d :: ds, rest)
      | none => ([], c :: rest)

/-- The hexadecimal digits of a number, in small letters and without leading zeros. -/
def hexDigits (n : Nat) : String := String.ofList (Nat.toDigits 16 n)

end FleetConsole.Text
