import Mathlib.Data.List.Nodup
import Mathlib.Data.List.Perm.Subperm
import SetQuery.Resolved.Query

/-!
# Generated names are fresh

The search for a free number makes one try more than there are reserved names. The names of
different numbers differ, so the search ends at a name that is not reserved, and where it ends
depends only on which names are reserved, not on their order or their number of occurrences.

Main statements: `helperColumn_not_mem` and `Resolved.toQuery_congr`.
-/

namespace SetQuery

namespace Sql

/-! ## The search ends -/

variable {name : Nat → String} {reserved reserved' : List String}

theorem name_freeNumber_not_reserved (hname : Function.Injective name) (reserved : List String)
    (n : Nat) : name (freeNumber name reserved (reserved.length + 1) n) ∉ reserved := by
  refine name_freeNumber_not_mem (Nat.lt_of_not_le fun hle => ?_)
  -- a search that is given up has found more different names than are reserved
  have hnodup : ((List.range (reserved.length + 1)).map fun i => name (n + i)).Nodup :=
    List.Nodup.map (fun i j h => Nat.add_left_cancel (hname h)) List.nodup_range
  have hsubset : ((List.range (reserved.length + 1)).map fun i => name (n + i)) ⊆ reserved := by
    intro x hx
    obtain ⟨i, hi, rfl⟩ := List.mem_map.1 hx
    have hi := List.mem_range.1 hi
    exact mem_of_lt_freeNumber (Nat.le_add_right n i) (Nat.lt_of_lt_of_le (by omega) hle)
  have hlength := (hnodup.subperm hsubset).length_le
  simp only [List.length_map, List.length_range] at hlength
  omega

theorem freeNumber_le {tries n k : Nat} (hn : n ≤ k) (hk : name k ∉ reserved) :
    freeNumber name reserved tries n ≤ k :=
  Nat.le_of_not_lt fun hlt => hk (mem_of_lt_freeNumber hn hlt)

/-- Where the search ends depends only on which names are reserved. -/
theorem freeNumber_congr (hname : Function.Injective name)
    (h : ∀ x, x ∈ reserved ↔ x ∈ reserved') (n : Nat) :
    freeNumber name reserved (reserved.length + 1) n =
      freeNumber name reserved' (reserved'.length + 1) n := by
  refine Nat.le_antisymm (freeNumber_le (le_freeNumber ..) fun hmem => ?_)
    (freeNumber_le (le_freeNumber ..) fun hmem => ?_)
  · exact name_freeNumber_not_reserved hname reserved' n ((h _).1 hmem)
  · exact name_freeNumber_not_reserved hname reserved n ((h _).2 hmem)

/-! ## Aliases and helper columns -/

theorem toString_injective : Function.Injective (toString : Nat → String) := by
  intro m n h
  have hdigits : Nat.toDigits 10 m = Nat.toDigits 10 n := by
    rw [← Nat.toList_repr, ← Nat.toList_repr]
    exact congrArg String.toList h
  have hvalue := congrArg (Nat.ofDigitChars 10 · 0) hdigits
  simpa using hvalue

theorem aliasName_injective : Function.Injective aliasName := fun _ _ h =>
  toString_injective ((String.append_right_inj "_sw_").1 h)

theorem helperName_injective : Function.Injective helperName := by
  intro m n h
  have hlength : ∀ k, helperName 0 ≠ helperName (k + 1) := by
    intro k hk
    have hk : ("_sw_rn" : String).length = ("_sw_rn_" ++ toString (k + 1)).length :=
      congrArg String.length hk
    rw [String.length_append] at hk
    have h6 : "_sw_rn".length = 6 := rfl
    have h7 : "_sw_rn_".length = 7 := rfl
    omega
  cases m with
  | zero =>
    cases n with
    | zero => rfl
    | succ n => exact absurd h (hlength n)
  | succ m =>
    cases n with
    | zero => exact absurd h.symm (hlength m)
    | succ n => exact toString_injective ((String.append_right_inj "_sw_rn_").1 h)

/-- The helper column is not reserved. -/
theorem helperColumn_not_mem (reserved : List String) : helperColumn reserved ∉ reserved :=
  name_freeNumber_not_reserved helperName_injective reserved 0

theorem helperColumn_congr (h : ∀ x, x ∈ reserved ↔ x ∈ reserved') :
    helperColumn reserved = helperColumn reserved' := by
  rw [helperColumn, helperColumn, freeNumber_congr helperName_injective h]

theorem freshAlias_congr (h : ∀ x, x ∈ reserved ↔ x ∈ reserved') (n : Nat) :
    freshAlias reserved n = freshAlias reserved' n := by
  rw [freshAlias, freshAlias, freeNumber_congr aliasName_injective h]

theorem Query.wrap_congr (h : ∀ x, x ∈ reserved ↔ x ∈ reserved') (head : Head) (q : Query)
    (next : Nat) : q.wrap reserved head next = q.wrap reserved' head next := by
  rw [Query.wrap, Query.wrap, freshAlias_congr h]

end Sql

/-! ## Queries -/

open Sql

variable {reserved reserved' : List String}

theorem Progress.step_congr (h : ∀ x, x ∈ reserved ↔ x ∈ reserved') (columns : List String) :
    Progress.step reserved columns = Progress.step reserved' columns := by
  funext p s
  unfold Progress.step
  cases s.method with
  | native => simp only [native, Query.wrap_congr h]
  | emulated emulation =>
    cases emulation with
    | rowNumber => simp only [numbered, numberingHead, Query.wrap_congr h, helperColumn_congr h]
    | distinctOverUnionAll => simp only [deduplicated, Query.wrap_congr h]

namespace Resolved

mutual

/-- The query depends only on which names are reserved. -/
theorem toQuery_congr (h : ∀ x, x ∈ reserved ↔ x ∈ reserved') :
    ∀ (r : Resolved) (next : Nat), r.toQuery reserved next = r.toQuery reserved' next
  | .table _ _, _ => rfl
  | .query _, _ => rfl
  | .page input _ _ _, next => by
    simp only [toQuery, toQuery_congr h input, Query.wrap_congr h]
  | .chain _ first rest, next => by
    simp only [toQuery, operandQuery_congr h first, restQueries_congr h rest,
      Progress.step_congr h]

theorem operandQuery_congr (h : ∀ x, x ∈ reserved ↔ x ∈ reserved') :
    ∀ (operand : Operand Resolved) (next : Nat),
      operandQuery reserved operand next = operandQuery reserved' operand next
  | .table _ _, next => by simp only [operandQuery, freshAlias_congr h]
  | .relation input _ _, next => by
    simp only [operandQuery, toQuery_congr h input, Query.wrap_congr h]

theorem restQueries_congr (h : ∀ x, x ∈ reserved ↔ x ∈ reserved') :
    ∀ (rest : List (ResolvedStep Resolved)) (next : Nat),
      restQueries reserved rest next = restQueries reserved' rest next
  | [], _ => rfl
  | ⟨_, _, operand⟩ :: rest, next => by
    simp only [restQueries, operandQuery_congr h operand, restQueries_congr h rest]

end

end Resolved

end SetQuery
