import Mathlib.Data.List.Basic
import SetQuery.Text.Blank

/-!
# Pieces and words

Main statements: `eq_append_of_dropWhile_ne` (a text up to a character), `intercalate_pieces` and
`notMem_of_mem_pieces` (the pieces of a text are what stands between its separators) and
`words_flatMap` (words with a blank in front of each are the words of the text).
-/

namespace SetQuery.Text

/-! ## Up to a character -/

theorem forall_bne_of_notMem {c : Char} {s : List Char} (h : c ∉ s) : ∀ d ∈ s, (d != c) = true :=
  fun _ hd => bne_iff_ne.2 fun heq => h (heq ▸ hd)

theorem takeWhile_ne {c : Char} {front : List Char} (h : c ∉ front) (back : List Char) :
    (front ++ c :: back).takeWhile (· != c) = front := by
  rw [List.takeWhile_append_of_pos (forall_bne_of_notMem h),
    List.takeWhile_cons_of_neg (by simp), List.append_nil]

theorem dropWhile_ne {c : Char} {front : List Char} (h : c ∉ front) (back : List Char) :
    (front ++ c :: back).dropWhile (· != c) = c :: back := by
  rw [List.dropWhile_append_of_pos (forall_bne_of_notMem h),
    List.dropWhile_cons_of_neg (by simp)]

/-- A text up to the first occurrence of a character, and what follows it. -/
theorem eq_append_of_dropWhile_ne {c d : Char} {s r : List Char}
    (h : s.dropWhile (· != c) = d :: r) :
    s = s.takeWhile (· != c) ++ c :: r ∧ c ∉ s.takeWhile (· != c) := by
  have hd : d = c := by
    have hhead := List.head?_dropWhile_not (· != c) s
    rw [h] at hhead
    simpa using hhead
  subst hd
  refine ⟨?_, fun hd => ?_⟩
  · rw [← h, List.takeWhile_append_dropWhile]
  · have hne := List.all_eq_true.1 (List.all_takeWhile (l := s)) d hd
    exact bne_iff_ne.1 hne rfl

theorem split_eq_splitOnP (p : Char → Bool) (s : List Char) : split p s = s.splitOnP p := by
  induction s with
  | nil => rfl
  | cons c r ih =>
    rw [split, List.splitOnP_cons_eq_if_modifyHead, ih]
    by_cases hc : p c = true
    · simp [hc]
    · cases hr : r.splitOnP p with
      | nil => exact absurd hr (List.splitOnP_ne_nil p r)
      | cons first rest => simp [hc]

/-! ## Pieces -/

theorem forall_beq_of_notMem {sep : Char} {s : List Char} (h : sep ∉ s) :
    ∀ c ∈ s, (c == sep) = false :=
  fun _ hc => beq_eq_false_iff_ne.2 fun heq => h (heq ▸ hc)

theorem split_of_notMem {sep : Char} {s : List Char} (h : sep ∉ s) : split (· == sep) s = [s] := by
  rw [split_eq_splitOnP]
  exact List.splitOnP_eq_singleton (forall_beq_of_notMem h)

theorem split_append {sep : Char} {s : List Char} (h : sep ∉ s) (r : List Char) :
    split (· == sep) (s ++ sep :: r) = s :: split (· == sep) r := by
  rw [split_eq_splitOnP, split_eq_splitOnP]
  exact List.splitOnP_append_cons_of_forall_mem (forall_beq_of_notMem h) sep (beq_self_eq_true _) r

/-- No piece of a text has a separator. -/
theorem notMem_of_mem_split {sep : Char} {s piece : List Char} (h : piece ∈ split (· == sep) s) :
    sep ∉ piece := by
  induction s generalizing piece with
  | nil =>
    rw [List.mem_singleton.1 h]
    exact List.not_mem_nil
  | cons c r ih =>
    rw [split] at h
    by_cases hc : c = sep
    · rw [if_pos (by simpa using hc)] at h
      rcases List.mem_cons.1 h with rfl | h
      · exact List.not_mem_nil
      · exact ih h
    · rw [if_neg (by simpa using hc)] at h
      cases hr : split (· == sep) r with
      | nil => exact absurd hr (split_ne_nil _ r)
      | cons first rest =>
        rw [hr] at h
        rcases List.mem_cons.1 h with rfl | h
        · have hfirst := ih (hr ▸ List.mem_cons_self)
          simp [hfirst, Ne.symm hc]
        · exact ih (hr ▸ List.mem_cons_of_mem _ h)

theorem notMem_of_mem_pieces {sep : Char} {s piece : String} (h : piece ∈ pieces sep s) :
    sep ∉ piece.toList := by
  obtain ⟨chars, hchars, rfl⟩ := List.mem_map.1 h
  rw [String.toList_ofList]
  exact notMem_of_mem_split hchars

theorem toList_pieces (sep : Char) (s : String) :
    (pieces sep s).map String.toList = s.toList.splitOn sep := by
  rw [pieces, List.map_map, split_eq_splitOnP, ← List.splitOn_eq_splitOnP]
  exact List.map_id'' (fun _ => String.toList_ofList) _

/-- The pieces with the separator between them are the text. -/
theorem intercalate_pieces (sep : Char) (s : String) :
    (String.singleton sep).intercalate (pieces sep s) = s := by
  apply String.toList_injective
  rw [String.toList_intercalate, String.toList_singleton, toList_pieces]
  exact List.intercalate_splitOn sep

theorem pieces_ne_nil (sep : Char) (s : String) : pieces sep s ≠ [] := by
  intro h
  exact split_ne_nil _ _ (List.map_eq_nil_iff.1 h)

/-! ## Words -/

/-- A run of characters other than blanks. -/
def IsWord (w : List Char) : Prop := w ≠ [] ∧ ∀ c ∈ w, isBlank c = false

instance (w : List Char) : Decidable (IsWord w) :=
  decidable_of_iff (w ≠ [] ∧ (w.all fun c => !isBlank c) = true) (by simp [IsWord])

theorem words_blank (s : List Char) : words (' ' :: s) = words s := rfl

theorem words_append {w : List Char} (h : IsWord w) (s : List Char) :
    words (w ++ ' ' :: s) = w :: words s := by
  have hw : w.isEmpty = false := List.isEmpty_eq_false_iff.2 h.1
  rw [words, split_eq_splitOnP, List.splitOnP_append_cons_of_forall_mem h.2 ' ' rfl,
    ← split_eq_splitOnP]
  simp [hw, words]

theorem words_of_isWord {w : List Char} (h : IsWord w) : words w = [w] := by
  have hw : w.isEmpty = false := List.isEmpty_eq_false_iff.2 h.1
  rw [words, split_eq_splitOnP, List.splitOnP_eq_singleton h.2]
  simp [hw]

/-- The words of a text that has a blank in front of each of them. -/
theorem words_flatMap {ws : List (List Char)} (h : ∀ w ∈ ws, IsWord w) :
    words (ws.flatMap (' ' :: ·)) = ws := by
  induction ws with
  | nil => rfl
  | cons w ws ih =>
    obtain ⟨hw, hws⟩ := List.forall_mem_cons.1 h
    rw [List.flatMap_cons, List.cons_append, words_blank]
    cases ws with
    | nil => rw [List.flatMap_nil, List.append_nil, words_of_isWord hw]
    | cons w' ws =>
      rw [List.flatMap_cons, List.cons_append, words_append hw, ← words_blank, ← List.cons_append,
        ← List.flatMap_cons, ih hws]

end SetQuery.Text
