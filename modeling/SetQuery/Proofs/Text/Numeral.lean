import SetQuery.Proofs.Text.Trim
import SetQuery.Text.Numeral

/-!
# Numerals

A numeral is a non-empty run of digits behind one plus sign at most.

Main statements: `decimal?_eq_some_iff` (a text is read as a number exactly when it is a numeral of
the number, which is below the bound) and `decimal?_toString` (written numbers are read back).
-/

namespace SetQuery.Text

theorem digit?_of_isDigit {c : Char} (h : c.isDigit = true) :
    digit? 10 c = some (c.toNat - '0'.toNat) := by
  rw [Char.isDigit, Bool.and_eq_true, decide_eq_true_eq, decide_eq_true_eq] at h
  obtain ⟨hlow, hhigh⟩ : '0' ≤ c ∧ c ≤ '9' := h
  have hvalue : c.toNat ≤ '9'.toNat := hhigh
  have hlt : c.toNat - '0'.toNat < 10 := by
    have : '9'.toNat = 57 := rfl
    have : '0'.toNat = 48 := rfl
    omega
  simp only [digit?, hlow, hhigh, and_self, if_true, if_pos hlt]

theorem digitsFrom?_of_isDigit {s : List Char} (h : ∀ c ∈ s, c.isDigit = true) (value : Nat) :
    digitsFrom? 10 value s = some (Nat.ofDigitChars 10 s value) := by
  induction s generalizing value with
  | nil => rfl
  | cons c r ih =>
    obtain ⟨hc, hr⟩ := List.forall_mem_cons.1 h
    rw [digitsFrom?, digit?_of_isDigit hc, Option.bind_some, ih hr, Nat.ofDigitChars_cons,
      Nat.mul_comm]

theorem isDigit_of_digit? {c : Char} {d : Nat} (h : digit? 10 c = some d) : c.isDigit = true := by
  by_cases hc : '0' ≤ c ∧ c ≤ '9'
  · rw [Char.isDigit, Bool.and_eq_true, decide_eq_true_eq, decide_eq_true_eq]
    exact hc
  · have hlarge : ¬ (if 'a' ≤ c ∧ c ≤ 'z' then c.toNat - 'a'.toNat + 10
        else if 'A' ≤ c ∧ c ≤ 'Z' then c.toNat - 'A'.toNat + 10 else 10) < 10 := by
      split
      · omega
      · split <;> omega
    simp only [digit?, if_neg hc, if_neg hlarge] at h
    cases h

theorem isDigit_of_digitsFrom? {s : List Char} {value n : Nat}
    (h : digitsFrom? 10 value s = some n) : ∀ c ∈ s, c.isDigit = true := by
  induction s generalizing value with
  | nil => exact fun _ hc => absurd hc List.not_mem_nil
  | cons c r ih =>
    obtain ⟨d, hd, hr⟩ := Option.bind_eq_some_iff.1 h
    exact List.forall_mem_cons.2 ⟨isDigit_of_digit? hd, ih hr⟩

theorem digits?_eq_some_iff {s : List Char} {n : Nat} : digits? 10 s = some n ↔
    s ≠ [] ∧ (∀ c ∈ s, c.isDigit = true) ∧ Nat.ofDigitChars 10 s 0 = n := by
  rw [digits?]
  split
  · next hnil => simp [List.isEmpty_iff.1 hnil]
  · next hne =>
    rw [List.isEmpty_iff] at hne
    constructor
    · intro h
      have hdigits := isDigit_of_digitsFrom? h
      rw [digitsFrom?_of_isDigit hdigits] at h
      exact ⟨hne, hdigits, Option.some.inj h⟩
    · rintro ⟨-, hdigits, rfl⟩
      exact digitsFrom?_of_isDigit hdigits 0

/-! ## What is a numeral -/

/-- The text is a numeral of the number. -/
def IsNumeral (n : Nat) (s : List Char) : Prop :=
  ∃ digits, (s = digits ∨ s = '+' :: digits) ∧ digits ≠ [] ∧ (∀ c ∈ digits, c.isDigit = true) ∧
    Nat.ofDigitChars 10 digits 0 = n

theorem dropPlus_of_isDigit {s : List Char} (h : ∀ c ∈ s, c.isDigit = true) : dropPlus s = s := by
  unfold dropPlus
  split
  · exact absurd (h '+' List.mem_cons_self) (by decide)
  · rfl

theorem digits?_dropPlus_eq_some_iff {s : List Char} {n : Nat} :
    digits? 10 (dropPlus s) = some n ↔ IsNumeral n s := by
  rw [digits?_eq_some_iff]
  constructor
  · intro h
    unfold dropPlus at h
    split at h
    · exact ⟨_, .inr rfl, h⟩
    · exact ⟨_, .inl rfl, h⟩
  · rintro ⟨digits, rfl | rfl, hne, hdigits, hvalue⟩
    · rw [dropPlus_of_isDigit hdigits]
      exact ⟨hne, hdigits, hvalue⟩
    · exact ⟨hne, hdigits, hvalue⟩

/-- What is read as a number. -/
theorem decimal?_eq_some_iff {bound n : Nat} {s : List Char} :
    decimal? bound s = some n ↔ IsNumeral n s ∧ n < bound := by
  rw [decimal?, numeral?, Option.filter_eq_some_iff, digits?_dropPlus_eq_some_iff,
    decide_eq_true_eq]

theorem IsNumeral.eq_plus_or_isDigit {n : Nat} {s : List Char} (h : IsNumeral n s) :
    ∀ c ∈ s, c = '+' ∨ c.isDigit = true := by
  obtain ⟨digits, rfl | rfl, -, hdigits, -⟩ := h
  · exact fun c hc => .inr (hdigits c hc)
  · exact List.forall_mem_cons.2 ⟨.inl rfl, fun c hc => .inr (hdigits c hc)⟩

theorem decimal?_eq_none_of_mem {bound : Nat} {s : List Char} {c : Char} (hc : c ∈ s)
    (hplus : c ≠ '+') (hdigit : ¬ c.isDigit = true) : decimal? bound s = none :=
  Option.eq_none_iff_forall_ne_some.2 fun _ h =>
    ((decimal?_eq_some_iff.1 h).1.eq_plus_or_isDigit c hc).elim hplus hdigit

/-! ## Written numbers -/

theorem isDigit_of_mem_toString {n : Nat} {c : Char} (h : c ∈ (toString n).toList) :
    c.isDigit = true := by
  rw [Nat.toString_eq_repr, Nat.toList_repr] at h
  exact Nat.isDigit_of_mem_toDigits (by decide) (by decide) h

theorem notMem_toString {c : Char} (h : ¬c.isDigit = true) (n : Nat) : c ∉ (toString n).toList :=
  fun hc => h (isDigit_of_mem_toString hc)

theorem toList_toString_ne_nil (n : Nat) : (toString n).toList ≠ [] := by
  rw [Nat.toString_eq_repr, Nat.toList_repr]
  exact Nat.toDigits_ne_nil

theorem ofDigitChars_toString (n : Nat) : Nat.ofDigitChars 10 (toString n).toList 0 = n := by
  rw [Nat.toString_eq_repr, Nat.toList_repr, Nat.ofDigitChars_ten_toDigits]

theorem isNumeral_toString (n : Nat) : IsNumeral n (toString n).toList :=
  ⟨_, .inl rfl, toList_toString_ne_nil n, fun _ => isDigit_of_mem_toString,
    ofDigitChars_toString n⟩

theorem digits?_toString (n : Nat) : digits? 10 (toString n).toList = some n :=
  digits?_eq_some_iff.2 ⟨toList_toString_ne_nil n, fun _ => isDigit_of_mem_toString,
    ofDigitChars_toString n⟩

theorem decimal?_toString {bound n : Nat} (h : n < bound) :
    decimal? bound (toString n).toList = some n :=
  decimal?_eq_some_iff.2 ⟨isNumeral_toString n, h⟩

theorem isBlank_of_isDigit {c : Char} (h : c.isDigit = true) : isBlank c = false := by
  rw [Char.isDigit, Bool.and_eq_true, decide_eq_true_eq, decide_eq_true_eq] at h
  have hfirst : 48 ≤ c.toNat := h.1
  have hlast : c.toNat ≤ 57 := h.2
  simp only [isBlank, Bool.or_eq_false_iff, Bool.and_eq_false_iff, decide_eq_false_iff_not,
    beq_eq_false_iff_ne]
  omega

theorem isTrimmed_toString {n : Nat} : IsTrimmed (toString n).toList :=
  ⟨fun _ hc => isBlank_of_isDigit (isDigit_of_mem_toString (List.mem_of_head? hc)),
    fun _ hc => isBlank_of_isDigit (isDigit_of_mem_toString (List.mem_of_getLast? hc))⟩

end SetQuery.Text
