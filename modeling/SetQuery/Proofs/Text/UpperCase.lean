import Mathlib.Data.String.Basic
import SetQuery.Proofs.Text.CaseTable

/-!
# Upper case is a normal form

A text in upper case stays as it is, and upper case keeps the shape of a text: what stands for a
character is never empty, a blank or a square bracket stands for itself alone, and nothing else
becomes one. These are facts about the tables (`upperImages_disjoint`, `marks_disjoint`), and each
is decided at once.

Main statements: `upper_upper` and `dropWhile_upper`.
-/

namespace SetQuery.Text

/-! ## The tables of upper case -/

/-- The runs of upper case, with that of the letters a to z. -/
def allUpperRuns : List CaseRun := ⟨0x61, 0x7A, 1, false, 0x20⟩ :: upperRuns

/-- The code points that upper case changes. -/
def upperable : List (List Nat) := changedPoints upperExpansions allUpperRuns

/-- The code points that it may put in their place. The first stands for numbers that are no code
points. -/
def upperImages : List (List Nat) := [0] :: imagePoints upperExpansions allUpperRuns

/-- A blank or a square bracket. -/
def isMark (c : Char) : Bool := isBlank c || c == '[' || c == ']'

/-- The blanks and the square brackets. -/
def markPoints : List Nat := 0x5B :: 0x5D :: blankPoints

theorem isMark_of_isBlank {c : Char} (h : isBlank c = true) : isMark c = true := by
  rw [isMark, h, Bool.true_or, Bool.true_or]

theorem mem_markPoints {c : Char} (h : isMark c = true) : c.toNat ∈ markPoints := by
  rw [isMark, Bool.or_eq_true, Bool.or_eq_true, beq_iff_eq, beq_iff_eq] at h
  obtain (h | rfl) | rfl := h
  · exact List.mem_cons_of_mem _ (List.mem_cons_of_mem _ (mem_blankPoints h))
  · exact List.mem_cons_self
  · exact List.mem_cons_of_mem _ List.mem_cons_self

/-- **Upper case changes none of its images, and none is a mark.** -/
theorem upperImages_disjoint :
    bitsOfAll upperImages &&& bitsOfAll (markPoints :: upperable) = 0 := by decide +kernel

/-- Upper case changes no mark. -/
theorem marks_disjoint : bitsOfAll [markPoints] &&& bitsOfAll upperable = 0 := by decide +kernel

/-! ## Characters -/

/-- Upper case leaves the character as it is. -/
def IsUpper (c : Char) : Prop := upperChar c = [c]

instance : DecidablePred IsUpper := fun c => inferInstanceAs (Decidable (upperChar c = [c]))

/-- What may stand for a character in upper case. -/
structure UppersTo (c d : Char) : Prop where
  isUpper : IsUpper d
  eq_of_isMark : isMark d = true → d = c

/-- Upper case of a letter from a to z subtracts from its number, and any other character of ASCII
is left alone. -/
theorem toUpper_cases (c : Char) : c.toUpper = c ∨
    (CaseRun.mk 0x61 0x7A 1 false 0x20).image? c.toNat = some c.toUpper.toNat := by
  unfold Char.toUpper
  split
  · next hlower =>
    have hfirst : 0x61 ≤ c.toNat := hlower.1
    have hlast : c.toNat ≤ 0x7A := hlower.2
    have hsub : (c.val + ('A'.val - 'a'.val)).toNat = c.toNat - 0x20 := by
      have hdiff : ('A'.val - 'a'.val).toNat = 4294967264 := rfl
      rw [UInt32.toNat_add, hdiff]
      have hval : c.val.toNat = c.toNat := rfl
      omega
    refine .inr (Eq.trans ?_ (congrArg some hsub.symm))
    simp [CaseRun.image?, hfirst, hlast, Nat.mod_one]
  · exact .inl rfl

theorem caseMapping_upperChar :
    CaseMapping upperChar ⟨0x61, 0x7A, 1, false, 0x20⟩ upperExpansions upperRuns where
  ascii c hc := by
    rw [upperChar, if_pos hc]
    exact (toUpper_cases c).imp (congrArg ([·])) fun h => ⟨_, rfl, h⟩
  table c hc := by rw [upperChar, if_neg hc]
  ne_nil := by decide

theorem isUpper_of_notMem {c : Char} (h : c.toNat ∉ upperable.flatten) : IsUpper c :=
  caseMapping_upperChar.image_of_notMem h

theorem isUpper_of_isMark {c : Char} (h : isMark c = true) : IsUpper c := by
  refine isUpper_of_notMem (notMem_of_bitsOfAll marks_disjoint ?_)
  exact List.mem_flatten.2 ⟨_, List.mem_cons_self, mem_markPoints h⟩

theorem isUpper_of_isDigit {c : Char} (h : c.isDigit = true) : IsUpper c := by
  rw [Char.isDigit, Bool.and_eq_true, decide_eq_true_eq, decide_eq_true_eq] at h
  have hlast : c.toNat ≤ 57 := h.2
  have hsmall : c.toNat < 0x80 := by omega
  rw [IsUpper, upperChar, if_pos hsmall]
  rcases toUpper_cases c with heq | hm
  · rw [heq]
  · have hfirst : ¬(0x61 ≤ c.toNat) := by omega
    simp [CaseRun.image?, hfirst] at hm

theorem uppersTo_of_mem {c d : Char} (h : d.toNat ∈ upperImages.flatten) : UppersTo c d := by
  have hnot := notMem_of_bitsOfAll upperImages_disjoint h
  rw [List.flatten_cons, List.mem_append, not_or] at hnot
  exact ⟨isUpper_of_notMem hnot.2, fun hmark => absurd (mem_markPoints hmark) hnot.1⟩

/-- Every character has a form in upper case. -/
theorem upperChar_uppersTo (c : Char) : upperChar c ≠ [] ∧ ∀ d ∈ upperChar c, UppersTo c d := by
  rcases caseMapping_upperChar.image_cases c with hself | ⟨hne, himages⟩
  · rw [hself]
    exact ⟨List.cons_ne_nil _ _, List.forall_mem_singleton.2 ⟨hself, fun _ => rfl⟩⟩
  · refine ⟨hne, fun d hd => uppersTo_of_mem (List.mem_append.2 ?_)⟩
    exact (himages d hd).imp_left List.mem_singleton.2

/-! ## Texts -/

@[simp] theorem upper_nil : upper [] = [] := rfl

theorem upper_cons (c : Char) (s : List Char) : upper (c :: s) = upperChar c ++ upper s := by
  rw [upper, List.flatMap_cons, upper]

theorem upper_append (s r : List Char) : upper (s ++ r) = upper s ++ upper r :=
  List.flatMap_append

theorem upper_of_isUpper {s : List Char} (h : ∀ c ∈ s, IsUpper c) : upper s = s := by
  induction s with
  | nil => rfl
  | cons c s ih =>
    obtain ⟨hc, hs⟩ := List.forall_mem_cons.1 h
    rw [upper_cons, hc, ih hs, List.singleton_append]

/-- A text in upper case stays as it is. -/
theorem upper_upper (s : List Char) : upper (upper s) = upper s := by
  refine upper_of_isUpper fun d hd => ?_
  obtain ⟨c, -, hd⟩ := List.mem_flatMap.1 hd
  exact ((upperChar_uppersTo c).2 d hd).isUpper

theorem reverse_upper_cons (c : Char) (r : List Char) :
    (upper (c :: r).reverse).reverse = (upperChar c).reverse ++ (upper r.reverse).reverse := by
  rw [List.reverse_cons, upper_append, upper_cons, upper_nil, List.append_nil, List.reverse_append]

/-- The last character in upper case comes from the last character. -/
theorem exists_reverse_upper_cons (c : Char) (r : List Char) :
    ∃ d rest, (upper (c :: r).reverse).reverse = d :: rest ∧ UppersTo c d := by
  obtain ⟨hne, himage⟩ := upperChar_uppersTo c
  obtain ⟨d, image, heq⟩ := List.exists_cons_of_ne_nil (mt List.reverse_eq_nil_iff.1 hne)
  refine ⟨d, image ++ (upper r.reverse).reverse, by rw [reverse_upper_cons, heq, List.cons_append],
    himage d ?_⟩
  exact List.mem_reverse.1 (heq ▸ List.mem_cons_self)

/-- A text that ends in a mark when it is in upper case ends in it. -/
theorem exists_eq_of_reverse_upper {r rest : List Char} {d : Char}
    (h : (upper r.reverse).reverse = d :: rest) (hd : isMark d = true) :
    ∃ front, r = d :: front ∧ rest = (upper front.reverse).reverse := by
  cases r with
  | nil => cases h
  | cons c r =>
    obtain ⟨e, rest', heq, he⟩ := exists_reverse_upper_cons c r
    obtain ⟨rfl, rfl⟩ := List.cons.inj (heq.symm.trans h)
    obtain rfl := he.eq_of_isMark hd
    have hupper : upperChar e = [e] := isUpper_of_isMark hd
    rw [reverse_upper_cons, hupper] at h
    exact ⟨r, rfl, (List.cons.inj h).2.symm⟩

/-- Upper case keeps the blanks in front of a text. -/
theorem dropWhile_upper (s : List Char) :
    (upper s).dropWhile isBlank = upper (s.dropWhile isBlank) := by
  induction s with
  | nil => rfl
  | cons c s ih =>
    by_cases hblank : isBlank c = true
    · have hupper : upperChar c = [c] := isUpper_of_isMark (isMark_of_isBlank hblank)
      rw [upper_cons, hupper, List.singleton_append, List.dropWhile_cons_of_pos hblank,
        List.dropWhile_cons_of_pos hblank, ih]
    · obtain ⟨hne, himage⟩ := upperChar_uppersTo c
      obtain ⟨d, image, heq⟩ := List.exists_cons_of_ne_nil hne
      have hd : ¬isBlank d = true := fun hd => hblank <|
        (himage d (heq ▸ List.mem_cons_self)).eq_of_isMark (isMark_of_isBlank hd) ▸ hd
      rw [List.dropWhile_cons_of_neg hblank, upper_cons, heq, List.cons_append,
        List.dropWhile_cons_of_neg hd]

end SetQuery.Text
