import SetQuery.Proofs.Sql.Outermost
import SetQuery.Resolved.Query

/-!
# Texts of users in a statement

A query that a user wrote becomes one part of a statement. `Query.texts` lists these texts from left
to right, and `EnclosesTexts` says that each of them stands alone in a pair of parentheses.

Main statements: `Query.enclosesTexts_parts` (texts that are sources of SELECTs stand in
parentheses), `Progress.texts_foldl` and `Progress.enclosesTexts_foldl` (the steps of a chain have
the texts of its operands, and take none of them out of its parentheses).
-/

namespace SetQuery

namespace Sql

/-- The text, if a user wrote it. -/
def Part.userText? : Part → Option String
  | .verbatim sql => some sql
  | _ => none

theorem skipsWords_userText : SkipsWords Part.userText? := ⟨fun _ => rfl, fun _ => rfl⟩

theorem filterMap_userText_item (d : Dialect) (item : SelectItem) :
    (item.parts d).filterMap Part.userText? = [] := by
  cases item with
  | rowNumber columns name =>
    simp only [SelectItem.parts, List.filterMap_append, skipsWords_userText.filterMap_columnParts]
    rfl
  | _ => rfl

/-! ## Parts -/

/-- Every text that a user wrote stands alone in parentheses. -/
def EnclosesTexts (parts : List Part) : Prop :=
  ∀ before t after, parts = before ++ .verbatim t :: after →
    ∃ front back, before = front ++ [.opening] ∧ after = .closing :: back

namespace EnclosesTexts

variable {l r parts rest : List Part}

theorem append (hl : EnclosesTexts l) (hr : EnclosesTexts r) : EnclosesTexts (l ++ r) := by
  intro before t after heq
  rcases List.append_eq_append_iff.1 heq with ⟨front, rfl, hright⟩ | ⟨cut, hleft, hcut⟩
  · obtain ⟨front', back, rfl, rfl⟩ := hr front t after hright
    exact ⟨l ++ front', back, (List.append_assoc ..).symm, rfl⟩
  · cases cut with
    | nil =>
      -- no text stands first on the right, so that none is cut off from its parenthesis
      obtain ⟨front, back, hnil, -⟩ := hr [] t after hcut.symm
      exact absurd hnil.symm (by simp)
    | cons p cut =>
      obtain ⟨rfl, rfl⟩ := List.cons.inj hcut
      obtain ⟨front, back, rfl, rfl⟩ := hl before t cut hleft
      exact ⟨front, back ++ r, rfl, rfl⟩

/-- Parts without a text of a user. -/
theorem of_filterMap (h : parts.filterMap Part.userText? = []) : EnclosesTexts parts := by
  rintro before t after rfl
  have hnone := List.filterMap_eq_nil_iff.1 h (.verbatim t)
    (List.mem_append_right _ List.mem_cons_self)
  cases hnone

theorem group (h : EnclosesTexts parts) (hrest : EnclosesTexts rest) :
    EnclosesTexts (.opening :: parts ++ .closing :: rest) := by
  have hopening : EnclosesTexts [.opening] := of_filterMap rfl
  have hclosing : EnclosesTexts [.closing] := of_filterMap rfl
  exact (hopening.append h).append (hclosing.append hrest)

/-- One text in parentheses. -/
theorem text (sql : String) (hrest : EnclosesTexts rest) :
    EnclosesTexts (.opening :: [.verbatim sql] ++ .closing :: rest) := by
  have hone : EnclosesTexts [.opening, .verbatim sql, .closing] := by
    intro before t after heq
    match before, heq with
    | [.opening], heq =>
      obtain ⟨rfl, rfl⟩ : sql = t ∧ [.closing] = after := by simpa using heq
      exact ⟨[], [], rfl, rfl⟩
    | [_, _], heq => simp at heq
    | _ :: _ :: _ :: _, heq => simp at heq
  exact hone.append hrest

theorem select {source : List Part} (h : EnclosesTexts source) (d : Dialect) (head : Head) :
    EnclosesTexts ((head.select d source).parts d) := by
  have hitems : (commaSeparated (head.items.map (·.parts d))).filterMap Part.userText? = [] := by
    rw [skipsWords_userText.filterMap_commaSeparated, List.flatMap_map]
    exact List.flatMap_eq_nil_iff.2 fun item _ => filterMap_userText_item d item
  have hwords : ∀ texts : List String, EnclosesTexts (texts.map Part.word) := fun texts =>
    of_filterMap (skipsWords_userText.filterMap_words texts)
  have hclauses := hwords ((d.paging head.limit head.offset).clauses.map (·.text))
  rw [List.map_map] at hclauses
  have htail := (of_filterMap (skipsWords_userText.filterMap_orderParts head.orderBy
    (d.paging head.limit head.offset).needsOrder)).append hclauses
  rw [head.parts_select]
  exact (of_filterMap (skipsWords_userText.filterMap_leadParts _ _)).append
    ((of_filterMap hitems).append ((hwords [" FROM "]).append (h.append htail)))

end EnclosesTexts

/-! ## Queries -/

namespace Query

/-- The texts that users wrote, from left to right. -/
def texts : Query → List String
  | .verbatim sql => [sql]
  | .ofTable _ _ _ => []
  | .ofQuery _ source _ => source.texts
  | .compound left _ right => left.texts ++ right.texts

/-- The texts of a query are those in its text. -/
theorem filterMap_userText_parts (d : Dialect) (q : Query) :
    (q.parts d).filterMap Part.userText? = q.texts := by
  have hselect : ∀ (head : Head) source, ((head.select d source).parts d).filterMap
      Part.userText? = source.filterMap Part.userText? := by
    intro head source
    rw [skipsWords_userText.filterMap_select,
      List.flatMap_eq_nil_iff.2 fun item _ => filterMap_userText_item d item, List.nil_append]
  induction q with
  | verbatim sql => rfl
  | ofTable head table label? =>
    rw [parts, hselect]
    cases label? <;> rfl
  | ofQuery head source label ih =>
    rw [parts, hselect, List.filterMap_append, List.filterMap_cons_none rfl, ih]
    exact List.append_nil _
  | compound left op right ihl ihr =>
    rw [parts, List.filterMap_append, List.filterMap_cons_none rfl, ihl, ihr, texts]

/-- The query is a text that a user wrote. -/
def IsText (q : Query) : Prop := ∃ sql, q = .verbatim sql

/-- Every text that a user wrote is the source of a SELECT. -/
def EnclosesTexts : Query → Prop
  | .verbatim _ => False
  | .ofTable _ _ _ => True
  | .ofQuery _ source _ => source.IsText ∨ source.EnclosesTexts
  | .compound left _ right => left.EnclosesTexts ∧ right.EnclosesTexts

/-- Texts that are sources of SELECTs stand in parentheses. -/
theorem enclosesTexts_parts {q : Query} (h : q.EnclosesTexts) (d : Dialect) :
    Sql.EnclosesTexts (q.parts d) := by
  induction q with
  | verbatim sql => exact h.elim
  | ofTable head table label? =>
    refine .select (.of_filterMap ?_) d head
    cases label? <;> rfl
  | ofQuery head source label ih =>
    have halias : Sql.EnclosesTexts (aliasParts d label) := .of_filterMap rfl
    rcases h with ⟨sql, rfl⟩ | h
    · exact (Sql.EnclosesTexts.text sql halias).select d head
    · exact ((ih h).group halias).select d head
  | compound left op right ihl ihr =>
    have hoperator : Sql.EnclosesTexts [.operator op] := .of_filterMap rfl
    exact (ihl h.1).append (hoperator.append (ihr h.2))

/-- A text of a user in a statement is the whole statement or stands in parentheses. -/
theorem parts_of_isText_or_enclosesTexts {q : Query} (h : q.IsText ∨ q.EnclosesTexts)
    {d : Dialect} {before after : List Part} {t : String}
    (heq : q.parts d = before ++ .verbatim t :: after) :
    (before = [] ∧ after = []) ∨
      ∃ front back, before = front ++ [.opening] ∧ after = .closing :: back := by
  rcases h with ⟨sql, rfl⟩ | h
  · cases before with
    | nil => exact .inl ⟨rfl, (List.cons.inj heq).2.symm⟩
    | cons p before => simp [Query.parts] at heq
  · exact .inr (enclosesTexts_parts h d before t after heq)

end Query

end Sql

open Sql

/-! ## Steps -/

namespace Progress

variable {reserved columns : List String}

theorem texts_step (p : Progress) (s : QueryStep) :
    (p.step reserved columns s).query.texts = p.query.texts ++ s.right.texts := by
  unfold step
  cases s.method with
  | native =>
    simp only [native]
    split <;> rfl
  | emulated emulation => cases emulation <;> rfl

theorem texts_foldl (p : Progress) (steps : List QueryStep) :
    (steps.foldl (step reserved columns) p).query.texts =
      p.query.texts ++ steps.flatMap (·.right.texts) := by
  induction steps generalizing p with
  | nil => simp
  | cons s steps ih => rw [List.foldl_cons, ih, texts_step, List.append_assoc, List.flatMap_cons]

theorem enclosesTexts_step {p : Progress} {s : QueryStep} (hp : p.query.EnclosesTexts)
    (hs : s.right.EnclosesTexts) : (p.step reserved columns s).query.EnclosesTexts := by
  unfold step
  cases s.method with
  | native =>
    simp only [native]
    split
    · exact ⟨.inr hp, hs⟩
    · exact ⟨hp, hs⟩
  | emulated emulation =>
    cases emulation with
    | rowNumber => exact .inr ⟨.inr hp, .inr hs⟩
    | distinctOverUnionAll => exact .inr ⟨hp, hs⟩

theorem enclosesTexts_foldl {p : Progress} {steps : List QueryStep}
    (hp : p.query.EnclosesTexts) (hs : ∀ s ∈ steps, s.right.EnclosesTexts) :
    (steps.foldl (step reserved columns) p).query.EnclosesTexts := by
  induction steps generalizing p with
  | nil => exact hp
  | cons s steps ih =>
    obtain ⟨hfirst, hrest⟩ := List.forall_mem_cons.1 hs
    exact ih (enclosesTexts_step hp hfirst) hrest

end Progress

end SetQuery
