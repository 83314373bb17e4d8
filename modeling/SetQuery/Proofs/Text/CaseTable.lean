import Mathlib.Data.Nat.Bitwise
import SetQuery.Text.Case

/-!
# What the case tables change and produce

A case mapping is given by expansions and runs. `changedPoints` are the code points that it lists,
`imagePoints` those that it puts in their place: a point that is not listed stays as it is
(`caseImage_of_notMem`), and what stands for a listed one is an image (`caseImage_cases`). The same
holds of the characters that upper and lower case put in the place of a character: both are a
`CaseMapping`.

Facts about a table compare such sets. A set of code points is a number with one bit for each of
them, so that two sets are disjoint when no bit is set in both numbers (`notMem_of_bitsOfAll`),
which is decided at once.
-/

namespace SetQuery.Text

/-! ## Sets of code points -/

/-- The number with the bits of a list. -/
def bitsOf (points : List Nat) : Nat := points.foldr (2 ^ · ||| ·) 0

theorem testBit_bitsOf {points : List Nat} {n : Nat} :
    (bitsOf points).testBit n = true ↔ n ∈ points := by
  induction points with
  | nil => simp [bitsOf]
  | cons a points ih =>
    have hcons : bitsOf (a :: points) = 2 ^ a ||| bitsOf points := rfl
    rw [hcons, Nat.testBit_or, Bool.or_eq_true, ih, Nat.testBit_two_pow]
    simp [eq_comm]

/-- The number with the bits of some lists. -/
def bitsOfAll (groups : List (List Nat)) : Nat := groups.foldr (bitsOf · ||| ·) 0

theorem testBit_bitsOfAll {groups : List (List Nat)} {n : Nat} :
    (bitsOfAll groups).testBit n = true ↔ n ∈ groups.flatten := by
  induction groups with
  | nil => simp [bitsOfAll]
  | cons points groups ih =>
    have hcons : bitsOfAll (points :: groups) = bitsOf points ||| bitsOfAll groups := rfl
    rw [hcons, Nat.testBit_or, Bool.or_eq_true, ih, testBit_bitsOf, List.flatten_cons,
      List.mem_append]

theorem notMem_of_bitsOfAll {groups groups' : List (List Nat)}
    (h : bitsOfAll groups &&& bitsOfAll groups' = 0) {n : Nat} (hn : n ∈ groups.flatten) :
    n ∉ groups'.flatten := by
  intro hn'
  have hbit := congrArg (·.testBit n) h
  simp [testBit_bitsOfAll.2 hn, testBit_bitsOfAll.2 hn'] at hbit

/-- The blanks. -/
def blankPoints : List Nat :=
  [9, 0xA, 0xB, 0xC, 0xD, 0x20, 0x85, 0xA0, 0x1680, 0x2000, 0x2001, 0x2002, 0x2003, 0x2004, 0x2005,
    0x2006, 0x2007, 0x2008, 0x2009, 0x200A, 0x2028, 0x2029, 0x202F, 0x205F, 0x3000]

theorem mem_blankPoints {c : Char} (h : isBlank c = true) : c.toNat ∈ blankPoints := by
  simp only [isBlank, Bool.or_eq_true, Bool.and_eq_true, decide_eq_true_eq, beq_iff_eq] at h
  simp only [blankPoints, List.mem_cons, List.not_mem_nil, or_false]
  omega

/-! ## Runs -/

/-- The code points of a run. -/
def CaseRun.points (r : CaseRun) : List Nat :=
  (List.range ((r.last - r.first) / r.stride + 1)).map (r.first + · * r.stride)

/-- The images of the code points of a run. -/
def CaseRun.images (r : CaseRun) : List Nat :=
  r.points.map fun n => if r.up then n + r.shift else n - r.shift

theorem CaseRun.mem_of_image? {r : CaseRun} {n m : Nat} (h : r.image? n = some m) :
    n ∈ r.points ∧ m ∈ r.images := by
  unfold image? at h
  split at h
  · next hrun =>
    obtain rfl := Option.some.inj h
    simp only [Bool.and_eq_true, decide_eq_true_eq, beq_iff_eq] at hrun
    obtain ⟨⟨hfirst, hlast⟩, hstride⟩ := hrun
    have hpoint : n ∈ r.points := by
      refine List.mem_map.2 ⟨(n - r.first) / r.stride, List.mem_range.2 ?_, ?_⟩
      · exact Nat.lt_succ_of_le (Nat.div_le_div_right (Nat.sub_le_sub_right hlast _))
      · have hmul := Nat.div_mul_cancel (Nat.dvd_of_mod_eq_zero hstride)
        omega
    exact ⟨hpoint, List.mem_map_of_mem hpoint⟩
  · cases h

/-! ## Tables -/

section

variable (expansions : List (Nat × List Nat)) (runs : List CaseRun)

/-- The code points that a table lists. -/
def changedPoints : List (List Nat) := expansions.map (·.1) :: runs.map CaseRun.points

/-- The code points that it puts in their place. -/
def imagePoints : List (List Nat) := expansions.map (·.2) ++ runs.map CaseRun.images

variable {expansions runs} {n m : Nat}

theorem mem_changedPoints {r : CaseRun} (hr : r ∈ runs) (h : r.image? n = some m) :
    n ∈ (changedPoints expansions runs).flatten :=
  List.mem_flatten.2 ⟨_, List.mem_cons_of_mem _ (List.mem_map_of_mem hr), (r.mem_of_image? h).1⟩

theorem mem_imagePoints {r : CaseRun} (hr : r ∈ runs) (h : r.image? n = some m) :
    m ∈ (imagePoints expansions runs).flatten := by
  refine List.mem_flatten.2 ⟨r.images, ?_, (r.mem_of_image? h).2⟩
  exact List.mem_append_right _ (List.mem_map_of_mem hr)

theorem caseImage_of_notMem (h : n ∉ (changedPoints expansions runs).flatten) :
    caseImage expansions runs n = [n] := by
  have hlookup : expansions.lookup n = none := by
    refine List.lookup_eq_none_iff.2 fun e he => bne_iff_ne.2 fun heq => h ?_
    exact List.mem_flatten.2 ⟨_, List.mem_cons_self, heq ▸ List.mem_map_of_mem he⟩
  have hruns : runs.findSome? (·.image? n) = none := by
    refine List.findSome?_eq_none_iff.2 fun r hr => Option.eq_none_iff_forall_ne_some.2 ?_
    exact fun m hm => h (mem_changedPoints hr hm)
  rw [caseImage, hlookup, hruns]
  simp

/-- The image of a code point: itself, or what the table lists for it. -/
theorem caseImage_cases (hne : ∀ e ∈ expansions, e.2 ≠ []) (n : Nat) :
    caseImage expansions runs n = [n] ∨ (caseImage expansions runs n ≠ [] ∧
      ∀ m ∈ caseImage expansions runs n, m ∈ (imagePoints expansions runs).flatten) := by
  unfold caseImage
  split
  · next image hlookup =>
    obtain ⟨before, after, heq, -⟩ := List.lookup_eq_some_iff.1 hlookup
    have hmem : (n, image) ∈ expansions := heq ▸ List.mem_append_right _ List.mem_cons_self
    refine .inr ⟨hne _ hmem, fun m hm => List.mem_flatten.2 ⟨image, ?_, hm⟩⟩
    exact List.mem_append_left _ (List.mem_map.2 ⟨_, hmem, rfl⟩)
  · cases hrun : runs.findSome? (·.image? n) with
    | none => exact .inl rfl
    | some m =>
      obtain ⟨r, hr, hm⟩ := List.exists_of_findSome?_eq_some hrun
      exact .inr ⟨List.cons_ne_nil _ _, List.forall_mem_singleton.2 (mem_imagePoints hr hm)⟩

end

/-! ## Mappings -/

/-- A number that is no code point stands for the first one. -/
theorem toNat_ofNat (n : Nat) : (Char.ofNat n).toNat = 0 ∨ (Char.ofNat n).toNat = n := by
  by_cases hvalid : n.isValidChar
  · rw [Char.ofNat, dif_pos hvalid]
    exact .inr rfl
  · rw [Char.ofNat, dif_neg hvalid]
    exact .inl rfl

/-- A mapping of characters that moves letters of ASCII by a run and looks up all characters outside
of it in a table. -/
structure CaseMapping (image : Char → List Char) (letters : CaseRun)
    (expansions : List (Nat × List Nat)) (runs : List CaseRun) : Prop where
  ascii : ∀ c : Char, c.toNat < 0x80 →
    image c = [c] ∨ ∃ d, image c = [d] ∧ letters.image? c.toNat = some d.toNat
  table : ∀ c : Char, ¬c.toNat < 0x80 →
    image c = (caseImage expansions runs c.toNat).map Char.ofNat
  ne_nil : ∀ e ∈ expansions, e.2 ≠ []

namespace CaseMapping

variable {image : Char → List Char} {letters : CaseRun} {expansions : List (Nat × List Nat)}
  {runs : List CaseRun} (h : CaseMapping image letters expansions runs)

include h

theorem image_of_notMem {c : Char}
    (hc : c.toNat ∉ (changedPoints expansions (letters :: runs)).flatten) : image c = [c] := by
  by_cases hascii : c.toNat < 0x80
  · refine (h.ascii c hascii).resolve_right fun ⟨_, _, hd⟩ => hc ?_
    exact mem_changedPoints List.mem_cons_self hd
  · have hruns : c.toNat ∉ (changedPoints expansions runs).flatten := by
      simp only [changedPoints, List.map_cons, List.flatten_cons, List.mem_append, not_or] at hc ⊢
      exact ⟨hc.1, hc.2.2⟩
    rw [h.table c hascii, caseImage_of_notMem hruns, List.map_singleton, Char.ofNat_toNat]

/-- What stands for a character is the character, or consists of images. -/
theorem image_cases (c : Char) : image c = [c] ∨ (image c ≠ [] ∧ ∀ d ∈ image c,
    d.toNat = 0 ∨ d.toNat ∈ (imagePoints expansions (letters :: runs)).flatten) := by
  by_cases hascii : c.toNat < 0x80
  · refine (h.ascii c hascii).imp_right fun ⟨d, heq, hd⟩ => ?_
    rw [heq]
    refine ⟨List.cons_ne_nil _ _, List.forall_mem_singleton.2 (.inr ?_)⟩
    exact mem_imagePoints List.mem_cons_self hd
  · rw [h.table c hascii]
    rcases caseImage_cases h.ne_nil c.toNat with heq | ⟨hne, hmem⟩
    · exact .inl (by rw [heq, List.map_singleton, Char.ofNat_toNat])
    · refine .inr ⟨fun hnil => hne (List.map_eq_nil_iff.1 hnil), fun d hd => ?_⟩
      obtain ⟨n, hn, rfl⟩ := List.mem_map.1 hd
      refine (toNat_ofNat n).imp_right fun heq => ?_
      have himage := hmem n hn
      simp only [imagePoints, List.map_cons, List.flatten_append, List.flatten_cons,
        List.mem_append] at himage ⊢
      rw [heq]
      exact himage.imp_right .inr

end CaseMapping

end SetQuery.Text
