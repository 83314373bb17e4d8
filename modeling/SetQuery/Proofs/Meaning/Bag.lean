import Mathlib.Data.Multiset.Fintype
import SetQuery.SetOp

/-!
# Set operations on bags

A relation is a bag of rows. `SetOp.combine` is what the six operations do to bags, and
`count_combine` says it by numbers of copies.

Numbering the copies of each row turns a bag into a set of pairs.

**Theorem (`map_fst_combine_numbered`).** The operation on sets, applied to two numbered bags, keeps
as many copies of each row as the operation on bags: `min m n` for an intersection and `m - n` for a
difference.
-/

namespace SetQuery

variable {α β : Type} [DecidableEq α] [DecidableEq β]

namespace SetOp

/-! ## The operations -/

/-- The rows of two bags combined by an operation. -/
def combine (op : SetOp) (a b : Multiset α) : Multiset α :=
  match op.kind, op.multiplicity with
  | .union, .distinct => (a + b).dedup
  | .union, .all => a + b
  | .intersect, .distinct => (a ∩ b).dedup
  | .intersect, .all => a ∩ b
  | .except, .distinct => a.dedup - b
  | .except, .all => a - b

/-- How many copies of a row are in the result, of which there are so many on either side. -/
def copies (op : SetOp) (m n : Nat) : Nat :=
  match op.kind, op.multiplicity with
  | .union, .distinct => min 1 (m + n)
  | .union, .all => m + n
  | .intersect, .distinct => min 1 (min m n)
  | .intersect, .all => min m n
  | .except, .distinct => min 1 m - n
  | .except, .all => m - n

theorem count_dedup_eq_min (x : α) (a : Multiset α) : a.dedup.count x = min 1 (a.count x) := by
  rw [Multiset.count_dedup]
  split
  · next h =>
    have hpos := Multiset.count_pos.2 h
    omega
  · next h => rw [Multiset.count_eq_zero_of_notMem h, Nat.min_zero]

theorem count_combine (op : SetOp) (a b : Multiset α) (x : α) :
    (op.combine a b).count x = op.copies (a.count x) (b.count x) := by
  obtain ⟨kind, multiplicity⟩ := op
  cases kind <;> cases multiplicity <;>
    simp only [combine, copies, count_dedup_eq_min, Multiset.count_add, Multiset.count_inter,
      Multiset.count_sub]

theorem mem_of_mem_combine {op : SetOp} {a b : Multiset α} {x : α} (h : x ∈ op.combine a b) :
    x ∈ a ∨ x ∈ b := by
  by_contra hne
  obtain ⟨ha, hb⟩ := not_or.1 hne
  have hcount := count_combine op a b x
  rw [Multiset.count_eq_zero_of_notMem ha, Multiset.count_eq_zero_of_notMem hb] at hcount
  refine Multiset.count_eq_zero.1 (hcount.trans ?_) h
  obtain ⟨kind, multiplicity⟩ := op
  cases kind <;> cases multiplicity <;> rfl

/-! ## Renaming rows -/

theorem count_map_of_injOn {f : α → β} {p : α → Prop}
    (hf : ∀ x y, p x → p y → f x = f y → x = y) {a : Multiset α} (ha : ∀ x ∈ a, p x) {x : α}
    (hx : p x) : (a.map f).count (f x) = a.count x := by
  have hsame : a.filter (fun y => f x = f y) = a.filter (x = ·) :=
    Multiset.filter_congr fun y hy => ⟨hf _ _ hx (ha y hy), congrArg f⟩
  rw [Multiset.count_map, hsame, Multiset.count_eq_card_filter_eq]

/-- Where no two rows become one, the operations see no difference. -/
theorem map_combine {f : α → β} {p : α → Prop} (hf : ∀ x y, p x → p y → f x = f y → x = y)
    (op : SetOp) {a b : Multiset α} (ha : ∀ x ∈ a, p x) (hb : ∀ x ∈ b, p x) :
    (op.combine a b).map f = op.combine (a.map f) (b.map f) := by
  have hc : ∀ x ∈ op.combine a b, p x := fun x hx =>
    (mem_of_mem_combine hx).elim (ha x) (hb x)
  ext y
  by_cases hy : ∃ x, p x ∧ f x = y
  · obtain ⟨x, hx, rfl⟩ := hy
    rw [count_map_of_injOn hf hc hx, count_combine, count_combine, count_map_of_injOn hf ha hx,
      count_map_of_injOn hf hb hx]
  · have hnot : ∀ {c : Multiset α}, (∀ x ∈ c, p x) → y ∉ c.map f := by
      intro c hc hmem
      obtain ⟨x, hx, rfl⟩ := Multiset.mem_map.1 hmem
      exact hy ⟨x, hc x hx, rfl⟩
    have hright : y ∉ op.combine (a.map f) (b.map f) := fun hmem =>
      (mem_of_mem_combine hmem).elim (hnot ha) (hnot hb)
    rw [Multiset.count_eq_zero_of_notMem (hnot hc), Multiset.count_eq_zero_of_notMem hright]

/-! ## Numbered rows -/

/-- The rows with a number for each copy, from 0 on. -/
def numbered (a : Multiset α) : Multiset (α × Nat) := a.toEnumFinset.val

theorem mem_numbered {a : Multiset α} {x : α × Nat} : x ∈ numbered a ↔ x.2 < a.count x.1 :=
  Multiset.mem_toEnumFinset a x

theorem nodup_numbered (a : Multiset α) : (numbered a).Nodup := a.toEnumFinset.nodup

theorem map_fst_numbered (a : Multiset α) : (numbered a).map Prod.fst = a :=
  Multiset.map_toEnumFinset_fst a

/-- Numbered rows of either bag are the rows of which either has so many. -/
theorem dedup_add_numbered (a b : Multiset α) :
    (numbered a + numbered b).dedup = numbered (a ∪ b) := by
  refine (Multiset.Nodup.ext (Multiset.nodup_dedup _) (nodup_numbered _)).2 fun x => ?_
  rw [Multiset.mem_dedup, Multiset.mem_add, mem_numbered, mem_numbered, mem_numbered,
    Multiset.count_union, lt_sup_iff]

theorem inter_numbered (a b : Multiset α) : numbered a ∩ numbered b = numbered (a ∩ b) := by
  refine (Multiset.Nodup.ext (Multiset.nodup_of_le Multiset.inter_le_left (nodup_numbered a))
    (nodup_numbered _)).2 fun x => ?_
  simp only [Multiset.mem_inter, mem_numbered, Multiset.count_inter, lt_min_iff]

/-- **Counting copies by a set operation.** -/
theorem map_fst_combine_numbered {kind : OpKind} (hkind : kind ≠ .union) (a b : Multiset α) :
    (combine ⟨kind, .distinct⟩ (numbered a) (numbered b)).map Prod.fst =
      combine ⟨kind, .all⟩ a b := by
  cases kind with
  | union => exact absurd rfl hkind
  | intersect =>
    simp only [combine]
    rw [inter_numbered, (nodup_numbered _).dedup, map_fst_numbered]
  | except =>
    simp only [combine]
    rw [(nodup_numbered a).dedup]
    -- what is left out is the intersection, which is numbered from 0 on as well
    have hsplit := congrArg (Multiset.map Prod.fst)
      (Multiset.sub_add_inter (numbered a) (numbered b))
    rw [Multiset.map_add, inter_numbered, map_fst_numbered, map_fst_numbered] at hsplit
    ext x
    have hcount := congrArg (Multiset.count x) hsplit
    rw [Multiset.count_add, Multiset.count_inter] at hcount
    rw [Multiset.count_sub]
    omega

end SetOp

/-! ## Numbering a list -/

/-- What a function gives for each element of a list and the elements before it. -/
def mapEarlier (f : List α → α → β) (earlier : List α) : List α → List β
  | [] => []
  | x :: rest => f earlier x :: mapEarlier f (earlier ++ [x]) rest

omit [DecidableEq α] [DecidableEq β] in
theorem mapEarlier_eq_map (g : α → β) (earlier l : List α) :
    mapEarlier (fun _ => g) earlier l = l.map g := by
  induction l generalizing earlier with
  | nil => rfl
  | cons x l ih => rw [mapEarlier, ih, List.map_cons]

omit [DecidableEq α] [DecidableEq β] in
theorem map_mapEarlier {γ : Type} (g : β → γ) (f : List α → α → β) (earlier l : List α) :
    (mapEarlier f earlier l).map g = mapEarlier (fun earlier x => g (f earlier x)) earlier l := by
  induction l generalizing earlier with
  | nil => rfl
  | cons x l ih => rw [mapEarlier, mapEarlier, List.map_cons, ih]

omit [DecidableEq α] [DecidableEq β] in
theorem mapEarlier_congr {p : α → Prop} {f g : List α → α → β}
    (h : ∀ earlier x, (∀ y ∈ earlier, p y) → p x → f earlier x = g earlier x) {earlier l : List α}
    (he : ∀ y ∈ earlier, p y) (hl : ∀ y ∈ l, p y) :
    mapEarlier f earlier l = mapEarlier g earlier l := by
  induction l generalizing earlier with
  | nil => rfl
  | cons x l ih =>
    obtain ⟨hx, hl⟩ := List.forall_mem_cons.1 hl
    rw [mapEarlier, mapEarlier, h earlier x he hx, ih (fun y hy => ?_) hl]
    rcases List.mem_append.1 hy with hy | hy
    · exact he y hy
    · rw [List.mem_singleton.1 hy]; exact hx

/-- A copy occurs once, under the number of equal elements before it. -/
theorem count_mapEarlier (earlier l : List α) (x : α) (k : Nat) :
    (mapEarlier (fun earlier x => (x, Multiset.count x earlier)) earlier l :
      Multiset (α × Nat)).count (x, k) =
      if earlier.count x ≤ k ∧ k < earlier.count x + l.count x then 1 else 0 := by
  induction l generalizing earlier with
  | nil =>
    rw [mapEarlier, Multiset.coe_nil, Multiset.count_zero, if_neg]
    rw [List.count_nil]
    omega
  | cons y l ih =>
    rw [mapEarlier, ← Multiset.cons_coe, Multiset.count_cons, ih, Multiset.coe_count,
      List.count_append]
    by_cases hy : x = y
    · subst hy
      rw [List.count_cons_self, List.count_cons_self, List.count_nil]
      by_cases hk : k = earlier.count x
      · rw [if_neg (by omega), if_pos (by rw [hk]), if_pos (by omega)]
      · rw [if_neg (fun h => hk (Prod.mk.inj h).2), Nat.add_zero]
        congr 1
        rw [eq_iff_iff]
        omega
    · rw [List.count_cons_of_ne (Ne.symm hy), List.count_cons_of_ne (Ne.symm hy), List.count_nil,
        if_neg (fun h => hy (Prod.mk.inj h).1)]
      rfl

/-- However a bag is listed, its copies get the same numbers. -/
theorem coe_mapEarlier_count (l : List α) :
    (mapEarlier (fun earlier x => (x, Multiset.count x earlier)) [] l : Multiset (α × Nat)) =
      SetOp.numbered (l : Multiset α) := by
  ext ⟨x, k⟩
  rw [count_mapEarlier, Multiset.count_eq_of_nodup (SetOp.nodup_numbered _)]
  simp only [SetOp.mem_numbered, Multiset.coe_count, List.count_nil, Nat.zero_le, true_and,
    Nat.zero_add]

end SetQuery
