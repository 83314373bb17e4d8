import SetQuery.Shape
import SetQuery.Decimal.Shortest
import SetQuery.Text.Numeral

/-!
# What plain scalars stand for

A scalar without quotes may stand for a null, a truth value, an integer or a number with a fraction.
Integers are decimal, or have a radix in front; a decimal one with a leading zero is text, and so is
every number that is too large to be finite.
-/

namespace SetQuery.Yaml

/-- Whether the text stands for a null. -/
def isNull (text : String) : Bool := text ∈ ["", "~", "null", "Null", "NULL"]

/-- The truth value that a text stands for. -/
def boolean? (text : String) : Option Bool :=
  if text ∈ ["true", "True", "TRUE"] then some true
  else if text ∈ ["false", "False", "FALSE"] then some false
  else none

/-! ## Integers -/

/-- The text without one leading sign. -/
def dropSign : List Char → List Char
  | '+' :: r => r
  | '-' :: r => r
  | s => s

/-- Whether the text has the form of a decimal integer with a leading zero. -/
def hasLeadingZero (s : List Char) : Bool :=
  match dropSign s with
  | '0' :: c :: r => (c :: r).all Char.isDigit
  | _ => false

/-- The number that digits stand for which may have a radix in front. -/
def magnitude? : List Char → Option Nat
  | '0' :: 'x' :: r => Text.digits? 16 r
  | '0' :: 'o' :: r => Text.digits? 8 r
  | '0' :: 'b' :: r => Text.digits? 2 r
  | s => if hasLeadingZero s then none else Text.digits? 10 s

/-- The integer that a text stands for. -/
def integer? : List Char → Option Int
  | '-' :: r => (magnitude? r).map fun n => -(n : Int)
  | s => (magnitude? (Text.dropPlus s)).map fun n => (n : Int)

/-- The natural number below `2 ^ 64` that a text stands for. -/
def natural? (text : String) : Option Nat :=
  match text.toList with
  | '-' :: _ => none
  | s => (magnitude? (Text.dropPlus s)).filter (· < UInt64.size)

/-! ## Numbers with a fraction -/

/-- A run of digits and what follows it. -/
def takeDigits (s : List Char) : List Char × List Char := s.span Char.isDigit

/-- The exponent that a text has to be, which may be absent. -/
def exponent? : List Char → Option Int
  | [] => some 0
  | c :: r =>
    if c = 'e' ∨ c = 'E' then
      match r with
      | '-' :: r => (Text.digits? 10 r).map fun n => -(n : Int)
      | r => (Text.digits? 10 (Text.dropPlus r)).map fun n => (n : Int)
    else none

/-- The digits and the power of ten of a number without a sign. -/
def scientific? (s : List Char) : Option (List Char × Int) :=
  let (whole, rest) := takeDigits s
  let (fraction, rest) := match rest with
    | '.' :: rest => takeDigits rest
    | rest => ([], rest)
  if whole.isEmpty && fraction.isEmpty then none
  else (exponent? rest).map fun e => (whole ++ fraction, e - fraction.length)

/-- The double-precision number nearest to `digits · 10 ^ power`, if it is finite. -/
def nearest? (digits : List Char) (power : Int) : Option Float :=
  match Text.digits? 10 digits with
  | none => none
  | some 0 => some 0
  | some mantissa =>
    let size := (Nat.toDigits 10 mantissa).length + power
    if size > 310 then none
    else if size < -400 then some 0
    else
      let x := Float.ofScientific mantissa (decide (power < 0)) power.natAbs
      if x.isFinite then some x else none

/-- The number that a text stands for. -/
def number? (text : String) : Option Float :=
  let s := text.toList
  let unsigned := Text.dropPlus s
  if String.ofList unsigned ∈ [".inf", ".Inf", ".INF"] then some (1 / 0)
  else if text ∈ ["-.inf", "-.Inf", "-.INF"] then some (-(1 / 0))
  else if text ∈ [".nan", ".NaN", ".NAN"] then some (0 / 0)
  else match s with
    | '-' :: r => ((scientific? r).bind fun (digits, power) => nearest? digits power).map (- ·)
    | _ => (scientific? unsigned).bind fun (digits, power) => nearest? digits power

/-! ## What is found -/

/-- What an integer is taken for. -/
def foundInteger (n : Int) : Option Found :=
  let word : Int := UInt64.size
  let doubleWord := word * word
  if -(word / 2) ≤ n ∧ n < word then some (.integer n)
  else if -(doubleWord / 2) ≤ n ∧ n < doubleWord then some (.wideInteger n)
  else none

/-- What a scalar stands for; a quoted one is text. -/
def foundScalar (text : String) (plain : Bool) : Found :=
  if !plain then .string text
  else if isNull text then .unit
  else match boolean? text with
    | some b => .boolean b
    | none =>
      match (integer? text.toList).bind foundInteger with
      | some found => found
      | none =>
        if hasLeadingZero text.toList then .string text
        else match number? text with
          | some x => .number (NumberStyle.plain.text x)
          | none => .string text

end SetQuery.Yaml
