import SetQuery.SqlType

/-!
# Arrays over a scalar type

A type is a scalar with arrays around it, and `arrayOf` puts them there. Neither the scalar nor the
number of arrays can be told in two ways (`arrayOf_eq_arrayOf_iff`).
-/

namespace SetQuery.SqlType

/-- Arrays in arrays, so many deep, over a type. -/
def arrayOf : Nat → SqlType → SqlType
  | 0, t => t
  | depth + 1, t => .array (arrayOf depth t)

/-- The type is no array. -/
def IsScalar (t : SqlType) : Prop := ∀ element, t ≠ .array element

/-- Arrays over scalars are equal if both their depths and their scalars are. -/
theorem arrayOf_eq_arrayOf_iff {m n : Nat} {x y : SqlType} (hx : x.IsScalar) (hy : y.IsScalar) :
    arrayOf m x = arrayOf n y ↔ m = n ∧ x = y := by
  induction m generalizing n with
  | zero =>
    cases n with
    | zero => simp [arrayOf]
    | succ n => simp [arrayOf, hx _]
  | succ m ih =>
    cases n with
    | zero => simp [arrayOf, Ne.symm (hy _)]
    | succ n => simp [arrayOf, ih]

end SetQuery.SqlType
