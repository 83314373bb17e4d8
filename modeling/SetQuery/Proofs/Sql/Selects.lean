import SetQuery.Proofs.Sql.Enclosed

/-!
# The SELECTs of a statement

`Query.selects` lists the SELECTs of a query at whatever depth they stand, with the text of each in
the text of the query (`Query.select_infix`). What holds of all of them is `Query.AllSelects`.

Main statement: `Progress.allSelects_foldl` (the steps of a chain add two kinds of SELECTs: those
that read the columns of the chain, and those that number rows).
-/

namespace SetQuery

namespace Sql.Query

/-- The heads of all SELECTs of a query. -/
def selects : Query → List Head
  | .verbatim _ => []
  | .ofTable head _ _ => [head]
  | .ofQuery head source _ => head :: source.selects
  | .compound left _ right => left.selects ++ right.selects

/-- The text of a SELECT is a piece of the text of the query. -/
theorem select_infix (d : Dialect) {q : Query} {head : Head} (h : head ∈ q.selects) :
    ∃ source, (head.select d source).parts d <:+: q.parts d := by
  induction q with
  | verbatim sql => cases h
  | ofTable head' table label? =>
    obtain rfl := List.mem_singleton.1 h
    exact ⟨_, List.infix_refl _⟩
  | ofQuery head' source label ih =>
    rcases List.mem_cons.1 h with rfl | h
    · exact ⟨_, List.infix_refl _⟩
    · obtain ⟨inner, hinner⟩ := ih h
      have henclosed := enclosed_infix d (q := .ofQuery head' source label) List.mem_cons_self
      exact ⟨inner, hinner.trans (.trans ⟨[.opening], [.closing], rfl⟩ henclosed)⟩
  | compound left op right ihl ihr =>
    rcases List.mem_append.1 h with h | h
    · obtain ⟨source, hsource⟩ := ihl h
      exact ⟨source, hsource.trans (List.prefix_append _ _).isInfix⟩
    · obtain ⟨source, hsource⟩ := ihr h
      exact ⟨source, hsource.trans (List.suffix_append_of_suffix (List.suffix_cons _ _)).isInfix⟩

/-! ## What holds of all SELECTs -/

/-- Something holds of every SELECT of a query. -/
def AllSelects (P : Head → Prop) (q : Query) : Prop := ∀ head ∈ q.selects, P head

variable {P : Head → Prop}

theorem allSelects_verbatim (sql : String) : (verbatim sql).AllSelects P := fun _ h => nomatch h

theorem allSelects_ofTable {head : Head} {table : String} {label? : Option String} :
    (ofTable head table label?).AllSelects P ↔ P head := List.forall_mem_singleton

theorem allSelects_wrap {reserved : List String} {head : Head} {q : Query} {next : Nat} :
    (q.wrap reserved head next).1.AllSelects P ↔ P head ∧ q.AllSelects P := List.forall_mem_cons

theorem allSelects_compound {left right : Query} {op : SetOp} :
    (compound left op right).AllSelects P ↔ left.AllSelects P ∧ right.AllSelects P :=
  List.forall_mem_append

end Sql.Query

open Sql

namespace Progress

variable {reserved columns : List String} {P : Head → Prop}

theorem allSelects_step {p : Progress} {s : QueryStep}
    (hcolumns : ∀ distinct, P { Head.columns columns with distinct := distinct })
    (hnumbering : P (numberingHead reserved columns)) (hp : p.query.AllSelects P)
    (hs : s.right.AllSelects P) : (p.step reserved columns s).query.AllSelects P := by
  unfold step
  cases s.method with
  | native =>
    simp only [native]
    split
    · exact Query.allSelects_compound.2 ⟨Query.allSelects_wrap.2 ⟨hcolumns false, hp⟩, hs⟩
    · exact Query.allSelects_compound.2 ⟨hp, hs⟩
  | emulated emulation =>
    cases emulation with
    | rowNumber =>
      refine Query.allSelects_wrap.2 ⟨hcolumns false, Query.allSelects_compound.2 ⟨?_, ?_⟩⟩
      · exact Query.allSelects_wrap.2 ⟨hnumbering, hp⟩
      · exact Query.allSelects_wrap.2 ⟨hnumbering, hs⟩
    | distinctOverUnionAll =>
      exact Query.allSelects_wrap.2 ⟨hcolumns true, Query.allSelects_compound.2 ⟨hp, hs⟩⟩

/-- What holds of the SELECTs of the operands, of those that read the columns of the chain and of
those that number its rows holds of all SELECTs of the chain. -/
theorem allSelects_foldl {p : Progress} {steps : List QueryStep}
    (hcolumns : ∀ distinct, P { Head.columns columns with distinct := distinct })
    (hnumbering : P (numberingHead reserved columns)) (hp : p.query.AllSelects P)
    (hs : ∀ s ∈ steps, s.right.AllSelects P) :
    (steps.foldl (step reserved columns) p).query.AllSelects P := by
  induction steps generalizing p with
  | nil => exact hp
  | cons s steps ih =>
    obtain ⟨hfirst, hrest⟩ := List.forall_mem_cons.1 hs
    exact ih (allSelects_step hcolumns hnumbering hp hfirst) hrest

end Progress

end SetQuery
