import Mathlib.Order.Bounds.Basic
import SetQuery.Proofs.Schema.Widening

/-!
# Widening is a partial join

The widening rules are a partial order on types, in which the types above a given one form a chain
(`Widens.total`): a type can be widened in one direction only.

**Theorem (`widen_partial_join`).** Two types have a common type exactly when they are bounded above,
and it is their least upper bound. From this alone `widen` is idempotent, commutative and
associative wherever either side is defined, and because of the chains "has a common type with" is
transitive, so types fall into classes within which everything can be merged in any order.
-/

namespace SetQuery

theorem IntWidth.eq_of_bits_eq {v w : IntWidth} (h : v.bits = w.bits) : v = w := by
  cases v <;> cases w <;> first | rfl | cases h

namespace SqlType

/-! ## The order -/

theorem Widens.antisymm {a b : SqlType} (hab : a.Widens b) (hba : b.Widens a) : a = b := by
  induction hab with
  | refl => rfl
  | integer h =>
    cases hba with
    | refl => rfl
    | integer h' => exact congrArg _ (IntWidth.eq_of_bits_eq (Nat.le_antisymm h h'))
  | hugeInt => cases hba
  | float => cases hba
  | decimal h =>
    cases hba with
    | refl => rfl
    | decimal h' => rw [UInt16.le_antisymm h h']
  | text h =>
    cases hba with
    | refl => rfl
    | text h' => rw [UInt32.le_antisymm h h']
  | unbounded => cases hba
  | array _ ih =>
    obtain ⟨_, heq, h'⟩ := array_widens_iff.1 hba
    cases heq
    rw [ih h']

/-- Types are ordered by widening. -/
instance : PartialOrder SqlType where
  le := Widens
  le_refl := .refl
  le_trans _ _ _ := .trans
  le_antisymm _ _ := Widens.antisymm

theorem le_iff_widen_eq_some {t u : SqlType} : t ≤ u ↔ t.widen u = some u :=
  widens_iff_widen_eq_some

/-- Of two types to which a type widens, one widens to the other. -/
theorem Widens.total {a b c : SqlType} (hab : a.Widens b) (hac : a.Widens c) :
    b.Widens c ∨ c.Widens b := by
  induction hab generalizing c with
  | refl => exact .inl hac
  | @integer v w h =>
    rcases integer_widens_iff.1 hac with rfl | ⟨x, rfl, -⟩
    · exact .inl (.hugeInt w)
    · exact (Nat.le_total w.bits x.bits).imp .integer .integer
  | hugeInt v =>
    rcases integer_widens_iff.1 hac with rfl | ⟨x, rfl, -⟩
    · exact .inl (.refl _)
    · exact .inr (.hugeInt x)
  | float =>
    cases hac with
    | refl => exact .inr .float
    | float => exact .inl (.refl _)
  | @decimal p q s h =>
    obtain ⟨r, rfl, -⟩ := decimal_widens_iff.1 hac
    exact (UInt16.le_total q r).imp .decimal .decimal
  | @text m n h =>
    rcases text_widens_iff.1 hac with rfl | ⟨x, rfl, -⟩
    · exact .inl (.unbounded n)
    · exact (UInt32.le_total n x).imp .text .text
  | unbounded m =>
    rcases text_widens_iff.1 hac with rfl | ⟨x, rfl, -⟩
    · exact .inl (.refl _)
    · exact .inr (.unbounded x)
  | array _ ih =>
    obtain ⟨d, rfl, had⟩ := array_widens_iff.1 hac
    exact (ih had).imp .array .array

/-! ## When two types have a common type -/

theorem exists_decimal_of_widens {p s : Option UInt16} {t : SqlType}
    (h : (decimal p s).Widens t) : ∃ q, t = .decimal q s := by
  cases h <;> exact ⟨_, rfl⟩

/-- Types below a common one have a common type that `widen` finds. -/
theorem isSome_widen_of_le {a b t : SqlType} (ha : a ≤ t) (hb : b ≤ t) :
    (a.widen b).isSome := by
  change a.Widens t at ha
  change b.Widens t at hb
  fun_induction widen a b generalizing t with
  | case6 p q s =>
    cases p <;> cases q
    · rfl
    · cases ha; cases hb
    · cases hb; cases ha
    · rfl
  | case7 p s q t' hne =>
    obtain ⟨r, rfl⟩ := exists_decimal_of_widens ha
    obtain ⟨r', heq⟩ := exists_decimal_of_widens hb
    cases heq
    exact absurd rfl hne
  | case9 x y _ ih =>
    obtain ⟨u, rfl, hx⟩ := array_widens_iff.1 ha
    obtain ⟨_, heq, hy⟩ := array_widens_iff.1 hb
    cases heq
    rw [Option.isSome_map]
    exact ih hx hy
  | case10 a b hne =>
    -- a type is below itself and below wider types of its own kind only
    cases ha <;> cases hb <;> grind
  | _ => rfl

/-- The type that `widen` computes is the least upper bound, and it is found when there is one. -/
theorem widen_eq_some_iff_isLUB {a b c : SqlType} : a.widen b = some c ↔ IsLUB {a, b} c := by
  have hpair : ∀ t, t ∈ upperBounds {a, b} ↔ a ≤ t ∧ b ≤ t := fun t => by simp
  have least : ∀ {d}, a.widen b = some d → IsLUB {a, b} d := fun h =>
    ⟨(hpair _).2 ⟨widens_left h, widens_right h⟩, fun t ht =>
      widens_of_widen_of_widens h ((hpair t).1 ht).1 ((hpair t).1 ht).2⟩
  refine ⟨least, fun h => ?_⟩
  obtain ⟨hac, hbc⟩ := (hpair c).1 h.1
  obtain ⟨d, hd⟩ := Option.isSome_iff_exists.1 (isSome_widen_of_le hac hbc)
  rw [hd, (least hd).unique h]

theorem isSome_widen_iff {a b : SqlType} : (a.widen b).isSome ↔ BddAbove {a, b} := by
  constructor
  · intro h
    obtain ⟨c, hc⟩ := Option.isSome_iff_exists.1 h
    exact ⟨c, (widen_eq_some_iff_isLUB.1 hc).1⟩
  · rintro ⟨t, ht⟩
    exact isSome_widen_of_le (ht (by simp)) (ht (by simp))

/-! ## Laws of widening -/

theorem widen_comm (a b : SqlType) : a.widen b = b.widen a := by
  ext c
  rw [widen_eq_some_iff_isLUB, widen_eq_some_iff_isLUB, Set.pair_comm]

/-- Widening two types and then a third gives the least upper bound of the three. -/
theorem bind_widen_eq_some_iff {a b c d : SqlType} :
    ((a.widen b).bind fun e => e.widen c) = some d ↔ IsLUB {a, b, c} d := by
  have hbounds : ∀ {e}, IsLUB {a, b} e → upperBounds {e, c} = upperBounds {a, b, c} := by
    intro e he
    ext t
    have hle : e ≤ t ↔ a ≤ t ∧ b ≤ t := by simpa using isLUB_le_iff he
    simp [hle, and_assoc]
  rw [Option.bind_eq_some_iff]
  constructor
  · rintro ⟨e, he, hd⟩
    rw [widen_eq_some_iff_isLUB] at he hd
    rwa [IsLUB, hbounds he] at hd
  · intro h
    obtain ⟨e, he⟩ := Option.isSome_iff_exists.1 (isSome_widen_of_le (h.1 (by simp : a ∈ _))
      (h.1 (by simp : b ∈ _)))
    refine ⟨e, he, widen_eq_some_iff_isLUB.2 ?_⟩
    rwa [IsLUB, hbounds (widen_eq_some_iff_isLUB.1 he)]

theorem widen_assoc (a b c : SqlType) :
    ((a.widen b).bind fun d => d.widen c) = (b.widen c).bind fun d => a.widen d := by
  ext d
  simp only [widen_comm a]
  rw [bind_widen_eq_some_iff, bind_widen_eq_some_iff, Set.pair_comm a c]

/-- Having a common type is an equivalence. -/
theorem equivalence_isSome_widen : Equivalence fun a b : SqlType => (a.widen b).isSome where
  refl a := by rw [widen_self]; rfl
  symm h := by rwa [widen_comm]
  trans {a b c} hab hbc := by
    obtain ⟨t, ht⟩ := Option.isSome_iff_exists.1 hab
    obtain ⟨u, hu⟩ := Option.isSome_iff_exists.1 hbc
    rcases (widens_right ht).total (widens_left hu) with htu | hut
    · exact isSome_widen_of_le ((widens_left ht).trans htu) (widens_right hu)
    · exact isSome_widen_of_le (widens_left ht) ((widens_right hu).trans hut)

/-- **Widening is a partial join.** -/
theorem widen_partial_join :
    (∀ a : SqlType, a.widen a = some a) ∧ (∀ a b : SqlType, a.widen b = b.widen a) ∧
    (∀ a b c : SqlType,
      ((a.widen b).bind fun d => d.widen c) = (b.widen c).bind fun d => a.widen d) ∧
    (Equivalence fun a b : SqlType => (a.widen b).isSome) ∧
    (∀ t u : SqlType, t ≤ u ↔ t.widen u = some u) ∧ IsPartialOrder SqlType (· ≤ ·) ∧
    (∀ a b c : SqlType, a.widen b = some c ↔ IsLUB {a, b} c) ∧
    ∀ a b : SqlType, a.widen b = none ↔ ¬ BddAbove {a, b} := by
  refine ⟨widen_self, widen_comm, widen_assoc, equivalence_isSome_widen,
    fun _ _ => le_iff_widen_eq_some, inferInstance, fun _ _ _ => widen_eq_some_iff_isLUB,
    fun a b => ?_⟩
  rw [← isSome_widen_iff, Option.not_isSome_iff_eq_none]

end SqlType

end SetQuery
