import SetQuery.Capability
import SetQuery.Proofs.Meaning.Bag

/-!
# What an emulation computes

`Emulation.combine` is what the rewriting of an operation does to two bags: it numbers the rows of
both, combines them as sets and takes the numbers away again, or it joins both and drops duplicates.
The kind of the operation enters in the first case only, and its multiplicity in neither.

**Theorem (`Emulation.right_iff`).** An emulation computes an operation exactly when it is the one
that is made for the operation.
-/

namespace SetQuery

variable {α : Type} [DecidableEq α]

namespace Emulation

/-- The rows of two bags as the emulation of a kind combines them. -/
def combine (emulation : Emulation) (kind : OpKind) (a b : Multiset α) : Multiset α :=
  match emulation with
  | .rowNumber =>
    (SetOp.combine ⟨kind, .distinct⟩ (SetOp.numbered a) (SetOp.numbered b)).map Prod.fst
  | .distinctOverUnionAll => (SetOp.combine ⟨.union, .all⟩ a b).dedup

/-- How many copies of a row the emulation leaves, of which there are so many on either side. -/
def copies : Emulation → OpKind → Nat → Nat → Nat
  | .rowNumber, .union, m, n => max m n
  | .rowNumber, .intersect, m, n => min m n
  | .rowNumber, .except, m, n => m - n
  | .distinctOverUnionAll, _, m, n => min 1 (m + n)

theorem count_combine (emulation : Emulation) (kind : OpKind) (a b : Multiset α) (x : α) :
    (emulation.combine kind a b).count x = emulation.copies kind (a.count x) (b.count x) := by
  cases emulation with
  | rowNumber =>
    rw [combine]
    cases kind with
    | union =>
      rw [SetOp.combine, SetOp.dedup_add_numbered, SetOp.map_fst_numbered, Multiset.count_union]
      rfl
    | intersect => rw [SetOp.map_fst_combine_numbered (by decide), SetOp.count_combine]; rfl
    | except => rw [SetOp.map_fst_combine_numbered (by decide), SetOp.count_combine]; rfl
  | distinctOverUnionAll =>
    rw [combine, SetOp.count_dedup_eq_min, SetOp.count_combine]
    rfl

theorem mem_of_mem_combine {emulation : Emulation} {kind : OpKind} {a b : Multiset α} {x : α}
    (h : x ∈ emulation.combine kind a b) : x ∈ a ∨ x ∈ b := by
  cases emulation with
  | rowNumber =>
    obtain ⟨y, hy, rfl⟩ := Multiset.mem_map.1 h
    exact (SetOp.mem_of_mem_combine hy).imp Multiset.mem_of_mem_toEnumFinset
      Multiset.mem_of_mem_toEnumFinset
  | distinctOverUnionAll => exact SetOp.mem_of_mem_combine (Multiset.mem_dedup.1 h)

/-- The emulation computes the operation, whatever the rows are. -/
def Right (emulation : Emulation) (op : SetOp) : Prop :=
  ∀ (α : Type) [DecidableEq α] (a b : Multiset α), emulation.combine op.kind a b = op.combine a b

/-- It is enough to count the copies of one row. -/
theorem right_iff_copies {emulation : Emulation} {op : SetOp} :
    emulation.Right op ↔ ∀ m n, emulation.copies op.kind m n = op.copies m n := by
  constructor
  · intro h m n
    have hcount := congrArg (Multiset.count ())
      (h Unit (Multiset.replicate m ()) (Multiset.replicate n ()))
    rwa [count_combine, SetOp.count_combine, Multiset.count_replicate_self,
      Multiset.count_replicate_self] at hcount
  · intro h α _ a b
    ext x
    rw [count_combine, SetOp.count_combine, h]

/-- **An emulation computes the operations for which it is made, and no others.** -/
theorem right_iff {emulation : Emulation} {op : SetOp} :
    emulation.Right op ↔ ofOp? op = some emulation := by
  rw [right_iff_copies]
  constructor
  · intro h
    -- a few numbers of copies tell the emulation from the operations that it does not compute
    have hboth := h 1 1
    have htwice := h 2 2
    have hleft := h 1 0
    have hleftTwice := h 2 0
    obtain ⟨kind, multiplicity⟩ := op
    cases emulation <;> cases kind <;> cases multiplicity <;>
      first
      | rfl
      | exact absurd hboth (by decide)
      | exact absurd htwice (by decide)
      | exact absurd hleft (by decide)
      | exact absurd hleftTwice (by decide)
  · intro h m n
    obtain ⟨kind, multiplicity⟩ := op
    cases kind <;> cases multiplicity <;> cases h <;> rfl

end Emulation

/-- The rows of two bags as the method combines them. -/
def Method.combine (method : Method) (op : SetOp) (a b : Multiset α) : Multiset α :=
  match method with
  | .native => op.combine a b
  | .emulated emulation => emulation.combine op.kind a b

theorem Method.combine_eq {method : Method} {op : SetOp}
    (h : ∀ emulation, method = .emulated emulation → Emulation.ofOp? op = some emulation)
    (a b : Multiset α) : method.combine op a b = op.combine a b := by
  cases method with
  | native => rfl
  | emulated emulation => exact Emulation.right_iff.2 (h emulation rfl) α a b

end SetQuery
