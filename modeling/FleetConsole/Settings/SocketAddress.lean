import FleetConsole.Text.Digits

/-!
# Socket addresses

An address of the internet protocol, of version four or six, with a port.  One of version six stands
in brackets; the longest row of two or more zero groups is written as a double colon, and one that
holds an address of version four shows it.  There are no host names.
-/

namespace FleetConsole

/-- An address of version four, octet by octet. -/
structure IpV4 where
  a : Nat
  b : Nat
  c : Nat
  d : Nat
deriving DecidableEq

inductive SocketAddress
  | v4 (ip : IpV4) (port : Nat)
  /-- eight groups of sixteen bits; the scope is the interface of a local address -/
  | v6 (groups : List Nat) (scope : Nat) (port : Nat)
deriving DecidableEq

namespace SocketAddress

/-! ## Reading -/

/-- What takes something from the beginning of a text, and leaves the rest. -/
abbrev Scanner (β : Type) := List Char → Option (β × List Char)

def char (expected : Char) : Scanner Unit
  | c :: rest => if c = expected then some ((), rest) else none
  | [] => none

/-- The digits of a row, in a radix, as long as it goes on. -/
def digitRow (radix : Nat) : List Char → List Nat × List Char
  | [] => ([], [])
  | c :: rest =>
      match (Text.hexDigit? c).filter (· < radix) with
      | some d =>
          let (ds, rest) := digitRow radix rest
          (d :: ds, rest)
      | none => ([], c :: rest)

/-- A number below a bound, of at most so many digits. -/
def number (radix : Nat) (maxDigits : Option Nat) (leadingZeros : Bool) (bound : Nat) :
    Scanner Nat := fun text =>
  let (ds, rest) := digitRow radix text
  let value := ds.foldl (fun n d => radix * n + d) 0
  let tooLong := maxDigits.any (· < ds.length)
  let zeroFirst := ds.head? = some 0 && 1 < ds.length
  if ds.isEmpty || tooLong || (zeroFirst && !leadingZeros) || bound ≤ value then none
  else some (value, rest)

def octet : Scanner Nat := number 10 (some 3) false 256

def ipV4 : Scanner IpV4 := fun text => do
  let (a, text) ← octet text
  let (_, text) ← char '.' text
  let (b, text) ← octet text
  let (_, text) ← char '.' text
  let (c, text) ← octet text
  let (_, text) ← char '.' text
  let (d, text) ← octet text
  some (⟨a, b, c, d⟩, text)

/-- Something after a colon, which is left out before the first group. -/
def separated {β : Type} (first : Bool) (scan : Scanner β) : Scanner β := fun text => do
  let text ← if first then some text else (char ':' text).map (·.2)
  scan text

/-- At most so many groups; the last two may be an address of version four, which is told. -/
def groups : Nat → Bool → List Char → List Nat × Bool × List Char
  | 0, _, text => ([], false, text)
  | left + 1, first, text =>
      match if 1 ≤ left then separated first ipV4 text else none with
      | some (ip, text) => ([256 * ip.a + ip.b, 256 * ip.c + ip.d], true, text)
      | none =>
          match separated first (number 16 (some 4) true 65536) text with
          | some (group, text) =>
              let (more, embedded, text) := groups left false text
              (group :: more, embedded, text)
          | none => ([], false, text)

/-- Eight groups, or fewer on both sides of a double colon that stands for at least one. -/
def ipV6 : Scanner (List Nat) := fun text => do
  let (front, embedded, text) := groups 8 true text
  if front.length = 8 then some (front, text)
  else if embedded then none
  else
    let (_, text) ← char ':' text
    let (_, text) ← char ':' text
    let (back, _, text) := groups (7 - front.length) true text
    some (front ++ List.replicate (8 - front.length - back.length) 0 ++ back, text)

def port : Scanner Nat := fun text => do
  let (_, text) ← char ':' text
  number 10 none true 65536 text

def scope : Scanner Nat := fun text =>
  match char '%' text with
  | some (_, text) => number 10 none true UInt32.size text
  | none => some (0, text)

def scanV4 : Scanner SocketAddress := fun text => do
  let (ip, text) ← ipV4 text
  let (port, text) ← port text
  some (v4 ip port, text)

def scanV6 : Scanner SocketAddress := fun text => do
  let (_, text) ← char '[' text
  let (groups, text) ← ipV6 text
  let (scope, text) ← scope text
  let (_, text) ← char ']' text
  let (port, text) ← port text
  some (v6 groups scope port, text)

/-- The address that is the whole of a text. -/
def read? (text : List Char) : Option SocketAddress :=
  match (scanV4 text).or (scanV6 text) with
  | some (address, []) => some address
  | _ => none

/-! ## Writing -/

def ipV4Text (ip : IpV4) : String := s!"{ip.a}.{ip.b}.{ip.c}.{ip.d}"

/-- Where the first of the longest rows of zeros begins, and its length. -/
def longestZeros (groups : List Nat) : Nat × Nat :=
  let rowAt (start : Nat) : Nat := ((groups.drop start).takeWhile (· = 0)).length
  (List.range groups.length).foldl
    (fun (best : Nat × Nat) start => if best.2 < rowAt start then (start, rowAt start) else best)
    (0, 0)

def groupsText (groups : List Nat) : String := ":".intercalate (groups.map Text.hexDigits)

/-- The text of an address of version six, without its brackets. -/
def ipV6Text (groups : List Nat) : String :=
  match groups with
  | [0, 0, 0, 0, 0, 0xFFFF, high, low] =>
      "::ffff:" ++ ipV4Text ⟨high / 256, high % 256, low / 256, low % 256⟩
  | _ =>
      let (start, length) := longestZeros groups
      if 1 < length then
        groupsText (groups.take start) ++ "::" ++ groupsText (groups.drop (start + length))
      else groupsText groups

def text : SocketAddress → String
  | v4 ip port => s!"{ipV4Text ip}:{port}"
  | v6 groups scope port =>
      "[" ++ ipV6Text groups ++ (if scope = 0 then "" else s!"%{scope}") ++ s!"]:{port}"

end SocketAddress

end FleetConsole
