import Mathlib.Data.String.Basic
import SetQuery.Backend
import SetQuery.Proofs.Text.CaseTable
import SetQuery.Proofs.Text.Trim

/-!
# Lower case is a normal form

A text in lower case without blanks at its ends stays as it is when it is normalized again, so a
backend is found under its own name.

**Theorem (`BackendName.normalized_normalized`).** Normalizing is idempotent. No image of a
character is a character that lower case would change, and none is a blank. Both are facts about
the tables, and both are decided at once (`lowerImages_disjoint`).
-/

namespace SetQuery

namespace Text

/-! ## The tables of lower case -/

/-- The runs of lower case, with that of the letters A to Z. -/
def allLowerRuns : List CaseRun := ⟨0x41, 0x5A, 1, true, 0x20⟩ :: lowerRuns

/-- The code points that lower case changes. -/
def lowerable : List (List Nat) := changedPoints lowerExpansions allLowerRuns

/-- The code points that it may put in their place, with those of both sigmas. The first stands for
numbers that are no code points. -/
def lowerImages : List (List Nat) :=
  [0, 0x3C2, 0x3C3] :: imagePoints lowerExpansions allLowerRuns

/-- **Lower case changes none of its images, and none is a blank.** -/
theorem lowerImages_disjoint :
    bitsOfAll lowerImages &&& bitsOfAll (blankPoints :: lowerable) = 0 := by decide +kernel

/-! ## Characters -/

/-- Lower case leaves the character as it is. -/
def IsLower (c : Char) : Prop := c ≠ 'Σ' ∧ lowerChar c = [c]

/-- What may stand for a character in lower case. -/
structure LowersTo (c d : Char) : Prop where
  isLower : IsLower d
  isBlank : isBlank d = true → isBlank c = true

/-- Lower case of a letter from A to Z adds to its number, and any other character of ASCII is left
alone. -/
theorem toLower_cases (c : Char) : c.toLower = c ∨
    (CaseRun.mk 0x41 0x5A 1 true 0x20).image? c.toNat = some c.toLower.toNat := by
  unfold Char.toLower
  split
  · next hupper =>
    have hfirst : 0x41 ≤ c.toNat := hupper.1
    have hlast : c.toNat ≤ 0x5A := hupper.2
    have hadd : (c.val + ('a'.val - 'A'.val)).toNat = c.toNat + 0x20 := by
      have hsmall : c.val.toNat + 0x20 < 2 ^ 32 := by
        change c.toNat + 0x20 < 2 ^ 32
        omega
      exact Nat.mod_eq_of_lt hsmall
    refine .inr (Eq.trans ?_ (congrArg some hadd.symm))
    simp [CaseRun.image?, hfirst, hlast, Nat.mod_one]
  · exact .inl rfl

theorem caseMapping_lowerChar :
    CaseMapping lowerChar ⟨0x41, 0x5A, 1, true, 0x20⟩ lowerExpansions lowerRuns where
  ascii c hc := by
    rw [lowerChar, if_pos hc]
    exact (toLower_cases c).imp (congrArg ([·])) fun h => ⟨_, rfl, h⟩
  table c hc := by rw [lowerChar, if_neg hc]
  ne_nil := by decide

theorem sigma_mem_lowerable : 'Σ'.toNat ∈ lowerable.flatten := by
  have hany : lowerRuns.any (fun r => (r.image? 0x3A3).isSome) = true := by decide +kernel
  obtain ⟨r, hr, hsome⟩ := List.any_eq_true.1 hany
  obtain ⟨m, hm⟩ := Option.isSome_iff_exists.1 hsome
  exact mem_changedPoints (List.mem_cons_of_mem _ hr) hm

theorem isLower_of_notMem {c : Char} (h : c.toNat ∉ lowerable.flatten) : IsLower c :=
  ⟨fun hsigma => h (hsigma ▸ sigma_mem_lowerable), caseMapping_lowerChar.image_of_notMem h⟩

theorem lowersTo_of_mem {c d : Char} (h : d.toNat ∈ lowerImages.flatten) : LowersTo c d := by
  have hnot := notMem_of_bitsOfAll lowerImages_disjoint h
  rw [List.flatten_cons, List.mem_append, not_or] at hnot
  exact ⟨isLower_of_notMem hnot.2, fun hblank => absurd (mem_blankPoints hblank) hnot.1⟩

/-- Every character has a form in lower case. -/
theorem lowerChar_lowersTo {c : Char} (hc : c ≠ 'Σ') :
    lowerChar c ≠ [] ∧ ∀ d ∈ lowerChar c, LowersTo c d := by
  rcases caseMapping_lowerChar.image_cases c with hself | ⟨hne, himages⟩
  · rw [hself]
    exact ⟨List.cons_ne_nil _ _, List.forall_mem_singleton.2 ⟨⟨hc, hself⟩, id⟩⟩
  · refine ⟨hne, fun d hd => lowersTo_of_mem (List.mem_append.2 ?_)⟩
    exact (himages d hd).imp_left fun hzero => List.mem_cons.2 (.inl hzero)

/-! ## Texts -/

/-- One character of a text in lower case, whatever stands around it. -/
theorem lowerAfter_cons (before : List Char) (c : Char) (rest : List Char) :
    ∃ image, lowerAfter before (c :: rest) = image ++ lowerAfter (c :: before) rest ∧
      image ≠ [] ∧ ∀ d ∈ image, LowersTo c d := by
  refine ⟨_, rfl, ?_⟩
  split
  · have hsigma {d : Char} (h : d.toNat ∈ [0, 0x3C2, 0x3C3]) : LowersTo c d :=
      lowersTo_of_mem (List.mem_flatten.2 ⟨_, List.mem_cons_self, h⟩)
    split
    · exact ⟨List.cons_ne_nil _ _, List.forall_mem_singleton.2 (hsigma (by decide))⟩
    · exact ⟨List.cons_ne_nil _ _, List.forall_mem_singleton.2 (hsigma (by decide))⟩
  · next hc => exact lowerChar_lowersTo hc

theorem isBlank_of_getLast?_lowerAfter {s : List Char}
    (h : ∀ c, s.getLast? = some c → isBlank c = false) {before : List Char} {d : Char}
    (hd : (lowerAfter before s).getLast? = some d) : isBlank d = false := by
  induction s generalizing before with
  | nil => cases hd
  | cons c rest ih =>
    obtain ⟨image, heq, -, himage⟩ := lowerAfter_cons before c rest
    rw [heq, List.getLast?_append] at hd
    cases rest with
    | nil =>
      have hmem : d ∈ image := List.mem_of_getLast? (by simpa [lowerAfter] using hd)
      exact Bool.eq_false_iff.2 fun hblank =>
        Bool.eq_false_iff.1 (h c rfl) ((himage d hmem).isBlank hblank)
    | cons c' rest =>
      -- the text behind the first character is not empty, so its last character is the last one
      obtain ⟨image', heq', hne, -⟩ := lowerAfter_cons (c :: before) c' rest
      have hsome : ((lowerAfter (c :: before) (c' :: rest)).getLast?).isSome := by
        rw [heq', List.getLast?_isSome]
        simp [hne]
      obtain ⟨e, he⟩ := Option.isSome_iff_exists.1 hsome
      rw [he, Option.some_or] at hd
      refine ih (fun e he => h e ?_) (he.trans hd)
      rwa [List.getLast?_cons_cons]

theorem IsTrimmed.lower {s : List Char} (h : IsTrimmed s) : IsTrimmed (lower s) := by
  refine ⟨fun d hd => ?_, fun d => isBlank_of_getLast?_lowerAfter h.2⟩
  cases s with
  | nil => cases hd
  | cons c rest =>
    obtain ⟨image, heq, hne, himage⟩ := lowerAfter_cons [] c rest
    obtain ⟨e, image, rfl⟩ := List.exists_cons_of_ne_nil hne
    rw [Text.lower, heq] at hd
    obtain rfl : e = d := Option.some.inj hd
    exact Bool.eq_false_iff.2 fun hblank =>
      Bool.eq_false_iff.1 (h.1 c rfl) ((himage e List.mem_cons_self).isBlank hblank)

end Text

end SetQuery
