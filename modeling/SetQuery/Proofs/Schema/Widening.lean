import SetQuery.SqlType

/-!
# The order of types

`SqlType.Widens a b` lists the widening rules: integers by width, `HUGEINT` above all of them,
`FLOAT` below `DOUBLE`, decimals of one scale by precision, texts by length, arrays element by
element. The rules compose (`Widens.trans`), and the function `widen` gives the least type above both
of its arguments (`widens_left`, `widens_right`, `widens_of_widen_of_widens`), so it decides the
order (`widens_iff_widen_eq_some`).
-/

namespace SetQuery

/-! ## Widths -/

instance instLawfulOrderSupUInt16 : Std.LawfulOrderSup UInt16 where
  max_le_iff a b c := by
    show (if a ≤ b then b else a) ≤ c ↔ _
    split <;> grind

instance instLawfulOrderSupUInt32 : Std.LawfulOrderSup UInt32 where
  max_le_iff a b c := by
    show (if a ≤ b then b else a) ≤ c ↔ _
    split <;> grind

theorem IntWidth.bits_max_le {v w x : IntWidth} :
    (v.max w).bits ≤ x.bits ↔ v.bits ≤ x.bits ∧ w.bits ≤ x.bits := by
  unfold IntWidth.max
  split <;> omega

namespace SqlType

/-! ## The widening rules -/

/-- A type widens to another when every value of the first is a value of the second. -/
inductive Widens : SqlType → SqlType → Prop
  | refl (a : SqlType) : Widens a a
  | integer {v w : IntWidth} : v.bits ≤ w.bits → Widens (.integer v) (.integer w)
  | hugeInt (v : IntWidth) : Widens (.integer v) .hugeInt
  | float : Widens (.float .single) (.float .double)
  | decimal {p q : UInt16} {s : Option UInt16} :
      p ≤ q → Widens (.decimal (some p) s) (.decimal (some q) s)
  | text {m n : UInt32} : m ≤ n → Widens (.text (some m)) (.text (some n))
  | unbounded (m : UInt32) : Widens (.text (some m)) (.text none)
  | array {a b : SqlType} : Widens a b → Widens (.array a) (.array b)

theorem Widens.trans {a b c : SqlType} (hab : a.Widens b) (hbc : b.Widens c) : a.Widens c := by
  induction hab generalizing c with
  | refl => exact hbc
  | integer h =>
    cases hbc with
    | refl => exact .integer h
    | integer h' => exact .integer (Nat.le_trans h h')
    | hugeInt => exact .hugeInt _
  | hugeInt v => cases hbc; exact .hugeInt v
  | float => cases hbc; exact .float
  | decimal h =>
    cases hbc with
    | refl => exact .decimal h
    | decimal h' => exact .decimal (UInt16.le_trans h h')
  | text h =>
    cases hbc with
    | refl => exact .text h
    | text h' => exact .text (UInt32.le_trans h h')
    | unbounded => exact .unbounded _
  | unbounded m => cases hbc; exact .unbounded m
  | array hab ih =>
    cases hbc with
    | refl => exact .array hab
    | array h' => exact .array (ih h')

/-! ## Widening is an upper bound -/

/-- Both types widen to the type that `widen` computes. -/
theorem widens_of_widen_eq_some {a b c : SqlType} (h : a.widen b = some c) :
    a.Widens c ∧ b.Widens c := by
  fun_induction widen a b generalizing c with
  | case1 => cases h; exact ⟨.refl _, .refl _⟩
  | case2 v w =>
    cases h
    have hle := IntWidth.bits_max_le.1 (Nat.le_refl (v.max w).bits)
    exact ⟨.integer hle.1, .integer hle.2⟩
  | case3 w => cases h; exact ⟨.refl _, .hugeInt w⟩
  | case4 v => cases h; exact ⟨.hugeInt v, .refl _⟩
  | case5 v w hne =>
    cases h
    cases v <;> cases w <;> first | exact absurd rfl hne | exact ⟨.float, .refl _⟩ |
      exact ⟨.refl _, .float⟩
  | case6 p q s =>
    obtain ⟨r, hr, rfl⟩ := Option.map_eq_some_iff.1 h
    cases p <;> cases q <;> cases hr
    · exact ⟨.refl _, .refl _⟩
    · exact ⟨.decimal Std.left_le_max, .decimal Std.right_le_max⟩
  | case8 m n =>
    cases h
    cases m <;> cases n
    · exact ⟨.refl _, .refl _⟩
    · exact ⟨.refl _, .unbounded _⟩
    · exact ⟨.unbounded _, .refl _⟩
    · exact ⟨.text Std.left_le_max, .text Std.right_le_max⟩
  | case9 x y _ ih =>
    obtain ⟨z, hz, rfl⟩ := Option.map_eq_some_iff.1 h
    exact ⟨.array (ih hz).1, .array (ih hz).2⟩
  | case7 => cases h
  | case10 => cases h

theorem widens_left {a b c : SqlType} (h : a.widen b = some c) : a.Widens c :=
  (widens_of_widen_eq_some h).1

theorem widens_right {a b c : SqlType} (h : a.widen b = some c) : b.Widens c :=
  (widens_of_widen_eq_some h).2

/-! ## What a type widens to -/

theorem integer_widens_iff {v : IntWidth} {t : SqlType} :
    (integer v).Widens t ↔ t = .hugeInt ∨ ∃ w, t = .integer w ∧ v.bits ≤ w.bits := by
  constructor
  · intro h
    cases h with
    | refl => exact .inr ⟨v, rfl, Nat.le_refl _⟩
    | integer h => exact .inr ⟨_, rfl, h⟩
    | hugeInt => exact .inl rfl
  · rintro (rfl | ⟨w, rfl, h⟩)
    · exact .hugeInt v
    · exact .integer h

theorem decimal_widens_iff {p : UInt16} {s : Option UInt16} {t : SqlType} :
    (decimal (some p) s).Widens t ↔ ∃ q, t = .decimal (some q) s ∧ p ≤ q := by
  constructor
  · intro h
    cases h with
    | refl => exact ⟨p, rfl, UInt16.le_refl _⟩
    | decimal h => exact ⟨_, rfl, h⟩
  · rintro ⟨q, rfl, h⟩
    exact .decimal h

theorem text_widens_iff {m : UInt32} {t : SqlType} :
    (text (some m)).Widens t ↔ t = .text none ∨ ∃ n, t = .text (some n) ∧ m ≤ n := by
  constructor
  · intro h
    cases h with
    | refl => exact .inr ⟨m, rfl, UInt32.le_refl _⟩
    | text h => exact .inr ⟨_, rfl, h⟩
    | unbounded => exact .inl rfl
  · rintro (rfl | ⟨n, rfl, h⟩)
    · exact .unbounded m
    · exact .text h

theorem array_widens_iff {a t : SqlType} :
    (array a).Widens t ↔ ∃ b, t = .array b ∧ a.Widens b := by
  constructor
  · intro h
    cases h with
    | refl => exact ⟨a, rfl, .refl a⟩
    | array h => exact ⟨_, rfl, h⟩
  · rintro ⟨b, rfl, h⟩
    exact .array h

/-! ## Widening is the least upper bound -/

/-- What both types widen to, the type that `widen` computes widens to. -/
theorem widens_of_widen_of_widens {a b c t : SqlType} (h : a.widen b = some c)
    (ha : a.Widens t) (hb : b.Widens t) : c.Widens t := by
  fun_induction widen a b generalizing c t with
  | case1 => cases h; exact ha
  | case2 v w =>
    cases h
    rcases integer_widens_iff.1 ha with rfl | ⟨x, rfl, hv⟩
    · exact .hugeInt _
    · obtain ⟨_, heq, hw⟩ := (integer_widens_iff.1 hb).resolve_left nofun
      cases heq
      exact .integer (IntWidth.bits_max_le.2 ⟨hv, hw⟩)
  | case3 w => cases h; exact ha
  | case4 v => cases h; exact hb
  | case5 v w hne =>
    cases h
    cases v <;> cases w <;> first | exact absurd rfl hne | exact ha | exact hb
  | case6 p q s =>
    obtain ⟨r, hr, rfl⟩ := Option.map_eq_some_iff.1 h
    cases p <;> cases q <;> cases hr
    · exact ha
    · obtain ⟨x, rfl, hp⟩ := decimal_widens_iff.1 ha
      obtain ⟨_, heq, hq⟩ := decimal_widens_iff.1 hb
      cases heq
      exact .decimal (Std.max_le_iff.2 ⟨hp, hq⟩)
  | case8 m n =>
    cases h
    cases m <;> cases n
    · exact ha
    · exact ha
    · exact hb
    · rcases text_widens_iff.1 ha with rfl | ⟨x, rfl, hm⟩
      · exact .unbounded _
      · obtain ⟨_, heq, hn⟩ := (text_widens_iff.1 hb).resolve_left nofun
        cases heq
        exact .text (Std.max_le_iff.2 ⟨hm, hn⟩)
  | case9 x y _ ih =>
    obtain ⟨z, hz, rfl⟩ := Option.map_eq_some_iff.1 h
    obtain ⟨u, rfl, hx⟩ := array_widens_iff.1 ha
    obtain ⟨_, heq, hy⟩ := array_widens_iff.1 hb
    cases heq
    exact .array (ih hz hx hy)
  | case7 => cases h
  | case10 => cases h

/-- A type widens to another exactly when the other is what `widen` computes for both. -/
theorem widens_iff_widen_eq_some {a b : SqlType} : a.Widens b ↔ a.widen b = some b := by
  refine ⟨fun h => ?_, widens_left⟩
  induction h with
  | refl a => exact widen_self a
  | integer h => unfold widen; simp [IntWidth.max, h]
  | hugeInt v => rfl
  | float => rfl
  | @decimal p q s h =>
    have hmax : max p q = q := by
      show (if p ≤ q then q else p) = q
      exact if_pos h
    have hwiden : widenPrecision (some p) (some q) = some (some q) := congrArg (some ∘ some) hmax
    unfold widen
    simp [hwiden]
  | @text m n h =>
    have hmax : max m n = n := if_pos h
    unfold widen
    simp [widenLength, hmax]
  | unbounded m => rfl
  | array _ ih => unfold widen; simp [ih]

end SqlType

end SetQuery
