/-!
# The shortest decimal of a binary fraction

A finite double-precision number is `mantissa · 2 ^ exponent`. Every decimal in an interval around
it reads back as the same number; the ends of the interval belong to it when the mantissa is even.
`Dyadic.shortest` gives the decimal of the interval with the fewest digits, and of those the
nearest to the number.

The search looks, for one digit, two digits and so on up to seventeen, at the two neighbours of the
number on the grid of decimals with that many digits.
-/

namespace SetQuery

/-- A positive binary fraction `mantissa · 2 ^ exponent`. -/
structure Dyadic where
  mantissa : Nat
  exponent : Int
deriving Repr, DecidableEq

/-- A decimal `digits · 10 ^ exponent`. -/
structure Decimal where
  digits : Nat
  exponent : Int
deriving Repr, DecidableEq

namespace Dyadic

/-- `base ^ n` for a positive `n`, and one otherwise. -/
def powUp (base : Nat) (n : Int) : Nat := base.pow n.toNat

/-- The magnitude of a finite double-precision number with the given bits. -/
def ofBits? (bits : UInt64) : Option Dyadic :=
  let fraction := bits.toNat % Nat.pow 2 52
  let scale : Nat := bits.toNat / Nat.pow 2 52 % Nat.pow 2 11
  if scale = 2047 then none
  else if scale = 0 then some ⟨fraction, -1074⟩
  else some ⟨fraction + Nat.pow 2 52, (scale : Int) - 1075⟩

/-- Whether `a · 2 ^ p ≤ b · 10 ^ q`. -/
def leDecimal (a : Nat) (p : Int) (b : Nat) (q : Int) : Bool :=
  a * powUp 2 p * powUp 10 (-q) ≤ b * powUp 10 q * powUp 2 (-p)

/-- Whether `b · 10 ^ q ≤ a · 2 ^ p`. -/
def decimalLe (b : Nat) (q : Int) (a : Nat) (p : Int) : Bool :=
  b * powUp 10 q * powUp 2 (-p) ≤ a * powUp 2 p * powUp 10 (-q)

/-- The largest integer `b` with `b · 10 ^ q` at most the number. -/
def quotient (x : Dyadic) (q : Int) : Nat :=
  x.mantissa * powUp 2 x.exponent * powUp 10 (-q) / (powUp 2 (-x.exponent) * powUp 10 q)

/-- The exponent of the highest power of ten that is at most the number. -/
def magnitude (x : Dyadic) : Int :=
  let guess := ((Nat.log2 x.mantissa : Int) + x.exponent) * 30103 / 100000
  if decimalLe 1 (guess + 1) x.mantissa x.exponent then guess + 1
  else if decimalLe 1 guess x.mantissa x.exponent then guess
  else guess - 1

/-- Whether a decimal reads back as the number. The interval is counted in quarters of the last
binary place, since below a power of two the numbers lie twice as close. -/
def readsBack (x : Dyadic) (b : Nat) (q : Int) : Bool :=
  let quarters := 4 * x.mantissa
  let below := if x.mantissa = Nat.pow 2 52 ∧ x.exponent ≠ -1074 then 1 else 2
  let p := x.exponent - 2
  if x.mantissa % 2 = 0 then
    leDecimal (quarters - below) p b q && decimalLe b q (quarters + 2) p
  else
    !decimalLe b q (quarters - below) p && !leDecimal (quarters + 2) p b q

/-- Whether the upper of two neighbours on the grid is nearer to the number. -/
def upperNearer (x : Dyadic) (b : Nat) (q : Int) : Bool :=
  !leDecimal (2 * x.mantissa) x.exponent (2 * b + 1) q

/-- The decimal with `n` digits that reads back, if there is one. -/
def onGrid? (x : Dyadic) (n : Nat) : Option Decimal :=
  let q := x.magnitude - n + 1
  let b := x.quotient q
  match x.readsBack b q, x.readsBack (b + 1) q with
  | true, true => some ⟨if x.upperNearer b q then b + 1 else b, q⟩
  | true, false => some ⟨b, q⟩
  | false, true => some ⟨b + 1, q⟩
  | false, false => none

/-- The decimal with the fewest digits that reads back. -/
def shortest (x : Dyadic) : Decimal :=
  ((List.range 17).findSome? fun n => x.onGrid? (n + 1)).getD ⟨x.quotient 0, 0⟩

end Dyadic

/-! ## Written forms -/

/-- The decimal without trailing zeros among its digits; the count bounds their number. -/
def Decimal.reduced (d : Decimal) : Nat → Decimal
  | 0 => d
  | n + 1 =>
    if d.digits ≠ 0 ∧ d.digits % 10 = 0 then Decimal.reduced ⟨d.digits / 10, d.exponent + 1⟩ n
    else d

/-- All places written out, with at least one place after the point. -/
def Decimal.positional (d : Decimal) : String :=
  let digits := Nat.toDigits 10 d.digits
  let point := digits.length + d.exponent
  let chars :=
    if 0 ≤ d.exponent then digits ++ List.replicate d.exponent.toNat '0' ++ ['.', '0']
    else if 0 < point then digits.take point.toNat ++ '.' :: digits.drop point.toNat
    else '0' :: '.' :: List.replicate (-point).toNat '0' ++ digits
  String.ofList chars

/-- The first digit before the point and a power of ten after an `e`. -/
def Decimal.scientific (d : Decimal) : String :=
  let digits := Nat.toDigits 10 d.digits
  let fraction := if digits.length ≤ 1 then [] else '.' :: digits.drop 1
  String.ofList (digits.take 1 ++ fraction) ++ "e" ++ toString (digits.length + d.exponent - 1)

/-- How a number is written: which positions of the point, counted from the first digit, are
written out in full. -/
structure NumberStyle where
  full : Int → Bool

/-- Every number is written out in full. -/
def NumberStyle.plain : NumberStyle := ⟨fun _ => true⟩

/-- Numbers below one hundred-thousandth and from ten quadrillion on have a power of ten. -/
def NumberStyle.compact : NumberStyle := ⟨fun point => -5 < point && point ≤ 16⟩

/-- The text of a finite number, or of an infinity or undefined result by name. -/
def NumberStyle.text (style : NumberStyle) (x : Float) : String :=
  let sign := if x.toBits.toNat / Nat.pow 2 63 = 1 then "-" else ""
  match Dyadic.ofBits? x.toBits with
  | none => if x.isNaN then "NaN" else sign ++ "inf"
  | some ⟨0, _⟩ => sign ++ "0.0"
  | some d =>
    let decimal := d.shortest.reduced 17
    let point := (Nat.toDigits 10 decimal.digits).length + decimal.exponent
    sign ++ if style.full point then decimal.positional else decimal.scientific

end SetQuery
