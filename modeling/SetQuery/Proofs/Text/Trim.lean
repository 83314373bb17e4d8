import Mathlib.Data.List.DropRight
import SetQuery.Text.Blank

/-!
# Blanks at the ends

Main statements: `exists_eq_trim` (a text is its trimmed form between blanks), `isTrimmed_trim` and
`IsTrimmed.trim_eq` (trimming gives a text without blanks at its ends, and keeps such a text).
-/

namespace SetQuery.Text

/-! ## Dropping at the end -/

section

variable {p : Char → Bool} {s r : List Char}

theorem dropEndWhile_eq_rdropWhile : dropEndWhile p s = s.rdropWhile p := rfl

theorem dropEndWhile_prefix : dropEndWhile p s <+: s := List.rdropWhile_prefix p s

theorem dropEndWhile_append (h : ∀ c ∈ r, p c = true) :
    dropEndWhile p (s ++ r) = dropEndWhile p s := by
  have hr : ∀ c ∈ r.reverse, p c = true := fun c hc => h c (List.mem_reverse.1 hc)
  rw [dropEndWhile, List.reverse_append, List.dropWhile_append_of_pos hr, dropEndWhile]

theorem eq_false_of_getLast?_dropEndWhile {c : Char} (h : (dropEndWhile p s).getLast? = some c) :
    p c = false := by
  rw [dropEndWhile, List.getLast?_reverse] at h
  have hhead := List.head?_dropWhile_not p s.reverse
  rw [h] at hhead
  simpa using hhead

theorem dropEndWhile_eq_self_iff :
    dropEndWhile p s = s ↔ ∀ c, s.getLast? = some c → p c = false := by
  refine ⟨fun h c hc => eq_false_of_getLast?_dropEndWhile (h.symm ▸ hc), fun h => ?_⟩
  rw [dropEndWhile_eq_rdropWhile, List.rdropWhile_eq_self_iff]
  intro hne
  rw [h _ (List.getLast?_eq_getLast_of_ne_nil hne)]
  exact Bool.false_ne_true

end

/-! ## Trimmed texts -/

/-- Neither the first nor the last character is a blank. -/
def IsTrimmed (s : List Char) : Prop :=
  (∀ c, s.head? = some c → isBlank c = false) ∧ ∀ c, s.getLast? = some c → isBlank c = false

theorem isBlank_of_head?_dropWhile {s : List Char} {c : Char}
    (h : (s.dropWhile isBlank).head? = some c) : isBlank c = false := by
  have hhead := List.head?_dropWhile_not isBlank s
  rw [h] at hhead
  simpa using hhead

theorem isTrimmed_trim (s : List Char) : IsTrimmed (trim s) := by
  refine ⟨fun c hc => ?_, fun c => eq_false_of_getLast?_dropEndWhile⟩
  obtain ⟨r, hr, -⟩ := exists_eq_dropEndWhile_append isBlank (s.dropWhile isBlank)
  refine isBlank_of_head?_dropWhile (s := s) ?_
  rw [hr, List.head?_append]
  exact congrArg (Option.or · _) hc

theorem dropWhile_isBlank_eq {s : List Char} (h : ∀ c, s.head? = some c → isBlank c = false) :
    s.dropWhile isBlank = s := by
  cases s with
  | nil => rfl
  | cons c rest => exact List.dropWhile_cons_of_neg (by simp [h c rfl])

theorem IsTrimmed.trim_eq {s : List Char} (h : IsTrimmed s) : trim s = s := by
  rw [trim, dropWhile_isBlank_eq h.1]
  exact dropEndWhile_eq_self_iff.2 h.2

/-- What trimming removes are blanks. -/
theorem exists_eq_trim (s : List Char) : ∃ front back, s = front ++ (trim s ++ back) ∧
    (∀ c ∈ front, isBlank c = true) ∧ ∀ c ∈ back, isBlank c = true := by
  obtain ⟨back, hback, hblank⟩ := exists_eq_dropEndWhile_append isBlank (s.dropWhile isBlank)
  refine ⟨s.takeWhile isBlank, back, ?_, List.all_eq_true.1 List.all_takeWhile, hblank⟩
  exact (List.takeWhile_append_dropWhile ..).symm.trans (congrArg _ hback)

/-- Trimming keeps every character that is no blank. -/
theorem mem_trim {s : List Char} {c : Char} (hc : c ∈ s) (hblank : isBlank c = false) :
    c ∈ trim s := by
  obtain ⟨front, back, hs, hfront, hback⟩ := exists_eq_trim s
  rw [hs, List.mem_append, List.mem_append] at hc
  obtain hc | hc | hc := hc
  · exact absurd (hfront c hc) (Bool.eq_false_iff.1 hblank)
  · exact hc
  · exact absurd (hback c hc) (Bool.eq_false_iff.1 hblank)

/-- Blanks around a text make no difference to its trimmed form. -/
theorem trim_append {front back : List Char} (hfront : ∀ c ∈ front, isBlank c = true)
    (hback : ∀ c ∈ back, isBlank c = true) (s : List Char) :
    trim (front ++ (s ++ back)) = trim s := by
  rw [trim, List.dropWhile_append_of_pos hfront, List.dropWhile_append]
  split
  · next hall =>
    rw [trim, List.isEmpty_iff.1 hall, List.dropWhile_eq_nil_iff.2 hback]
  · exact dropEndWhile_append hback

end SetQuery.Text
