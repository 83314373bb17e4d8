import Mathlib.Data.List.Infix
import SetQuery.Proofs.Text.Split

/-!
# Comments to the end of the line

Two hyphens start a comment that ends with the line. `ClosesComments` holds of a text in which
every comment ends, so that what is written behind it stands in none, and `outsideComments` is the
text without its comments. Quotes are not known here, as they are not to whoever reads a text for
hyphens only.

Main statements: `closesComments_iff` (the last line decides) and `mem_outsideComments_append_iff`
(a text that opens no comment may be taken away from the front).
-/

namespace SetQuery.Text

/-! ## Two hyphens in a row -/

theorem hasDoubleDash_iff {s : List Char} : hasDoubleDash s = true ↔ ['-', '-'] <:+: s := by
  fun_induction hasDoubleDash s with
  | case1 r => exact iff_of_true rfl ⟨[], r, rfl⟩
  | case2 c r hne ih =>
    rw [ih, List.infix_cons_iff]
    refine ⟨.inr, fun h => h.resolve_left fun ⟨rest, heq⟩ => ?_⟩
    obtain ⟨rfl, rfl⟩ := List.cons.inj heq
    exact hne rest rfl rfl
  | case3 => simp

/-! ## The last line -/

theorem lastLine_append {l r : List Char} (h : '\n' ∉ r) : lastLine (l ++ r) = lastLine l ++ r := by
  have hr := forall_bne_of_notMem (mt List.mem_reverse.1 h)
  rw [lastLine, List.reverse_append, List.takeWhile_append_of_pos hr, List.reverse_append,
    List.reverse_reverse, lastLine]

theorem notMem_lastLine (s : List Char) : '\n' ∉ lastLine s := by
  intro h
  have hne := List.all_eq_true.1 List.all_takeWhile _ (List.mem_reverse.1 h)
  exact bne_iff_ne.1 hne rfl

theorem lastLine_suffix (s : List Char) : lastLine s <:+ s := by
  have hprefix := List.takeWhile_prefix (· != '\n') (l := s.reverse)
  rwa [← List.reverse_suffix, List.reverse_reverse] at hprefix

/-! ## Comments that end -/

/-- Every comment that the text opens ends in it: a newline stands somewhere behind its hyphens. -/
def ClosesComments (s : List Char) : Prop := ∀ l r, s = l ++ '-' :: '-' :: r → '\n' ∈ r

/-- Every comment ends exactly when none is opened on the last line. -/
theorem closesComments_iff {s : List Char} :
    ClosesComments s ↔ hasDoubleDash (lastLine s) = false := by
  rw [← Bool.not_eq_true, hasDoubleDash_iff]
  constructor
  · rintro h ⟨l, r, hline⟩
    obtain ⟨front, hfront⟩ := lastLine_suffix s
    have hmem : '\n' ∈ r := h (front ++ l) r (by rw [← hfront, ← hline]; simp)
    exact notMem_lastLine s (hline ▸ List.mem_append_right _ hmem)
  · intro h l r hs
    by_contra hr
    have hline : lastLine s = lastLine l ++ '-' :: '-' :: r := by
      rw [hs, lastLine_append (by simp [hr])]
    exact h ⟨lastLine l, r, by simp [hline]⟩

/-- A character that is no hyphen neither opens a comment nor makes one with what is beside it. -/
theorem ClosesComments.cons {c : Char} {s : List Char} (h : ClosesComments s) (hc : c ≠ '-') :
    ClosesComments (c :: s) := by
  intro l r heq
  cases l with
  | nil => exact absurd (List.cons.inj heq).1 hc
  | cons d l => exact h l r (List.cons.inj heq).2

theorem ClosesComments.concat {c : Char} {s : List Char} (h : ClosesComments s) (hc : c ≠ '-') :
    ClosesComments (s ++ [c]) := by
  intro l r heq
  rcases r.eq_nil_or_concat' with rfl | ⟨r, d, rfl⟩
  · have hlast := congrArg List.getLast? heq
    simp [hc] at hlast
  · have heq' : s ++ [c] = (l ++ '-' :: '-' :: r) ++ [d] := by simp [heq]
    obtain ⟨hs, -⟩ := List.append_inj' heq' rfl
    exact List.mem_append_left _ (h l r hs)

/-! ## Outside comments -/

/-- The characters outside comments, when the text starts inside one or not. -/
def outsideComments : Bool → List Char → List Char
  | _, [] => []
  | true, c :: r => if c = '\n' then c :: outsideComments false r else outsideComments true r
  | false, '-' :: '-' :: r => outsideComments true r
  | false, c :: r => c :: outsideComments false r

theorem mem_of_mem_outsideComments {inside : Bool} {s : List Char} {c : Char}
    (h : c ∈ outsideComments inside s) : c ∈ s := by
  fun_induction outsideComments inside s with
  | case1 => exact h
  | case2 r ih => exact (List.mem_cons.1 h).elim (· ▸ List.mem_cons_self) (.tail _ <| ih ·)
  | case3 d r _ ih => exact .tail _ (ih h)
  | case4 r ih => exact .tail _ (.tail _ (ih h))
  | case5 d r _ ih => exact (List.mem_cons.1 h).elim (· ▸ List.mem_cons_self) (.tail _ <| ih ·)

theorem outsideComments_cons {c : Char} {r : List Char} (h : ¬ ['-', '-'] <+: c :: r) :
    outsideComments false (c :: r) = c :: outsideComments false r := by
  rw [outsideComments.eq_4]
  rintro r' rfl rfl
  exact h ⟨r', rfl⟩

theorem outsideComments_append {s : List Char} (h : '-' ∉ s) (r : List Char) :
    outsideComments false (s ++ r) = s ++ outsideComments false r := by
  induction s with
  | nil => rfl
  | cons c s ih =>
    rw [List.mem_cons, not_or] at h
    have hc : ¬ ['-', '-'] <+: c :: (s ++ r) := fun hp => h.1 (List.cons_prefix_cons.1 hp).1
    rw [List.cons_append, outsideComments_cons hc, ih h.2, List.cons_append]

/-- Two texts put together open a comment in front where the first does, or where it is a single
hyphen and the second starts with another. -/
theorem opens_append {c : Char} {s r : List Char} (h : ['-', '-'] <+: c :: (s ++ r)) :
    ['-', '-'] <+: c :: s ∨ s = [] ∧ c = '-' ∧ ['-'] <+: r := by
  rw [List.cons_prefix_cons] at h ⊢
  cases s with
  | nil => exact .inr ⟨rfl, h.1.symm, h.2⟩
  | cons d s => exact .inl ⟨h.1, by simpa [List.cons_prefix_cons] using h.2⟩

/-- What stands outside comments still does when more text follows, hyphens apart: the last of them
may come to open a comment. -/
theorem mem_outsideComments_append {inside : Bool} {s : List Char} {c : Char} (hc : c ≠ '-')
    (h : c ∈ outsideComments inside s) (r : List Char) : c ∈ outsideComments inside (s ++ r) := by
  fun_induction outsideComments inside s with
  | case1 => cases h
  | case2 s ih =>
    rw [List.cons_append, outsideComments, if_pos rfl]
    exact (List.mem_cons.1 h).elim (· ▸ List.mem_cons_self) (.tail _ <| ih ·)
  | case3 d s hd ih =>
    rw [List.cons_append, outsideComments, if_neg hd]
    exact ih h
  | case4 s ih => exact ih h
  | case5 d s hopens ih =>
    have hopens' : ¬ ['-', '-'] <+: d :: (s ++ r) := by
      intro hp
      rcases opens_append hp with ⟨s', heq⟩ | ⟨rfl, rfl, -⟩
      · obtain ⟨rfl, rfl⟩ := List.cons.inj heq
        exact hopens s' rfl rfl
      · exact hc (List.mem_singleton.1 h)
    rw [List.cons_append, outsideComments_cons hopens']
    exact (List.mem_cons.1 h).elim (· ▸ List.mem_cons_self) (.tail _ <| ih ·)

/-- And what more text brings stands in that text. -/
theorem mem_outsideComments_of_append {inside : Bool} {s r : List Char} {c : Char}
    (h : c ∈ outsideComments inside (s ++ r)) : c ∈ outsideComments inside s ∨ c ∈ r := by
  fun_induction outsideComments inside s with
  | case1 => exact .inr (mem_of_mem_outsideComments h)
  | case2 s ih =>
    rw [List.cons_append, outsideComments, if_pos rfl] at h
    rcases List.mem_cons.1 h with rfl | h
    · exact .inl List.mem_cons_self
    · exact (ih h).imp_left (.tail _)
  | case3 d s hd ih =>
    rw [List.cons_append, outsideComments, if_neg hd] at h
    exact ih h
  | case4 s ih => exact ih h
  | case5 d s hopens ih =>
    by_cases hp : ['-', '-'] <+: d :: (s ++ r)
    · rcases opens_append hp with ⟨s', heq⟩ | ⟨rfl, rfl, r', rfl⟩
      · obtain ⟨rfl, rfl⟩ := List.cons.inj heq
        exact (hopens s' rfl rfl).elim
      · exact .inr (.tail _ (mem_of_mem_outsideComments h))
    · rw [List.cons_append, outsideComments_cons hp] at h
      rcases List.mem_cons.1 h with rfl | h
      · exact .inl List.mem_cons_self
      · exact (ih h).imp_left (.tail _)

/-- A text that opens no comment may be taken away from the front, if a hyphen with which the rest
starts is one of two. -/
theorem mem_outsideComments_append_iff {s r : List Char} {c : Char} (hs : hasDoubleDash s = false)
    (hc : c ∉ s) (hr : ['-'] <+: r → ['-', '-'] <+: r) :
    c ∈ outsideComments false (s ++ r) ↔ c ∈ outsideComments false r := by
  rw [← Bool.not_eq_true, hasDoubleDash_iff] at hs
  induction s with
  | nil => rfl
  | cons d s ih =>
    rw [List.infix_cons_iff, not_or] at hs
    rw [List.mem_cons, not_or] at hc
    rw [List.cons_append]
    by_cases hp : ['-', '-'] <+: d :: (s ++ r)
    · -- the last hyphen of the text opens the comment that the rest would open
      obtain ⟨rfl, rfl, hhyphen⟩ := (opens_append hp).resolve_left hs.1
      obtain ⟨r', rfl⟩ := hr hhyphen
      rfl
    · rw [outsideComments_cons hp, List.mem_cons, or_iff_right hc.1, ih hs.2 hc.2]

end SetQuery.Text
