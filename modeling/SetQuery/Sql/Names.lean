/-!
# Generated names

A statement names every relation it reads from in parentheses, and an emulation may add a column.
Such names are numbered, and numbers whose name a user chose for a column are passed over.

Main statements: `name_freeNumber_not_mem` (a search that is not given up ends at a name that is not
reserved) and `mem_of_lt_freeNumber` (the names it passes over are reserved).
-/

namespace SetQuery.Sql

/-- The first number from a start on whose name is not reserved; the search gives up after a
bounded number of tries. -/
def freeNumber (name : Nat → String) (reserved : List String) : Nat → Nat → Nat
  | 0, n => n
  | tries + 1, n => if name n ∈ reserved then freeNumber name reserved tries (n + 1) else n

theorem le_freeNumber (name : Nat → String) (reserved : List String) (tries n : Nat) :
    n ≤ freeNumber name reserved tries n := by
  induction tries generalizing n with
  | zero => exact Nat.le_refl n
  | succ tries ih =>
    rw [freeNumber]
    split
    · exact Nat.le_trans (Nat.le_succ n) (ih (n + 1))
    · exact Nat.le_refl n

/-- A search that is not given up ends at a number whose name is not reserved. -/
theorem name_freeNumber_not_mem {name : Nat → String} {reserved : List String} {tries n : Nat}
    (h : freeNumber name reserved tries n < n + tries) :
    name (freeNumber name reserved tries n) ∉ reserved := by
  induction tries generalizing n with
  | zero => exact absurd h (Nat.lt_irrefl n)
  | succ tries ih =>
    rw [freeNumber] at h ⊢
    split at h
    · next hmem => rw [if_pos hmem]; exact ih (by omega)
    · next hmem => rw [if_neg hmem]; exact hmem

/-- All numbers before the end of a search have reserved names. -/
theorem mem_of_lt_freeNumber {name : Nat → String} {reserved : List String} {tries n k : Nat}
    (hn : n ≤ k) (hk : k < freeNumber name reserved tries n) : name k ∈ reserved := by
  induction tries generalizing n with
  | zero => exact absurd hk (Nat.not_lt.2 hn)
  | succ tries ih =>
    rw [freeNumber] at hk
    split at hk
    · next hmem =>
      rcases Nat.eq_or_lt_of_le hn with rfl | hlt
      · exact hmem
      · exact ih hlt hk
    · exact absurd hk (Nat.not_lt.2 hn)

/-! ## Aliases and helper columns -/

/-- The alias of a number. -/
def aliasName (n : Nat) : String := "_sw_" ++ toString n

/-- The helper column of a number. -/
def helperName : Nat → String
  | 0 => "_sw_rn"
  | n + 1 => "_sw_rn_" ++ toString (n + 1)

/-- The first alias from a number on that is not reserved, and the number behind it. -/
def freshAlias (reserved : List String) (n : Nat) : String × Nat :=
  let k := freeNumber aliasName reserved (reserved.length + 1) n
  (aliasName k, k + 1)

/-- The first helper column that is not reserved. -/
def helperColumn (reserved : List String) : String :=
  helperName (freeNumber helperName reserved (reserved.length + 1) 0)

end SetQuery.Sql
