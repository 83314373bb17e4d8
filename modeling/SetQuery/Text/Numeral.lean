/-!
# Reading numerals

A numeral is a non-empty run of digits in a radix, with an optional plus sign, whose value lies
below a bound. There is no other form: no minus sign, no separator, no blanks.
-/

namespace SetQuery.Text

/-- The value of a digit in the radix; letters of either case stand for ten and up. -/
def digit? (radix : Nat) (c : Char) : Option Nat :=
  let value :=
    if '0' ≤ c ∧ c ≤ '9' then c.toNat - '0'.toNat
    else if 'a' ≤ c ∧ c ≤ 'z' then c.toNat - 'a'.toNat + 10
    else if 'A' ≤ c ∧ c ≤ 'Z' then c.toNat - 'A'.toNat + 10
    else radix
  if value < radix then some value else none

/-- The value of a run of digits, most significant first, added to the digits already read. -/
def digitsFrom? (radix : Nat) (value : Nat) : List Char → Option Nat
  | [] => some value
  | c :: r => (digit? radix c).bind fun d => digitsFrom? radix (value * radix + d) r

/-- The value of a non-empty run of digits. -/
def digits? (radix : Nat) (s : List Char) : Option Nat :=
  if s.isEmpty then none else digitsFrom? radix 0 s

/-- The text without one leading plus sign. -/
def dropPlus : List Char → List Char
  | '+' :: r => r
  | s => s

/-- The value of a numeral in the radix, if it is below the bound. -/
def numeral? (radix bound : Nat) (s : List Char) : Option Nat :=
  (digits? radix (dropPlus s)).filter (· < bound)

/-- The value of a decimal numeral, if it is below the bound. -/
def decimal? (bound : Nat) (s : List Char) : Option Nat := numeral? 10 bound s

end SetQuery.Text
