import SetQuery.Proofs.Sql.Picking

/-!
# Operators between the same parentheses

Two operators of a text stand at one level if what stands between them closes all parentheses that
it opens and no others (`Balanced`). `TightFirst` says that at no level an intersection follows a
union or a difference.

A text is checked for that by reading it once (`track`). What is kept is, for each pair of
parentheses that is open, whether a union or a difference stands in it.

**Theorem (`tightFirst_of_track`).** A text that is read to its end has intersections first at every
level.
-/

namespace SetQuery.Sql

/-- All parentheses that are opened are closed, and no others are. -/
inductive Balanced : List Part → Prop
  | nil : Balanced []
  | plain {p : Part} {rest : List Part} (hopening : p ≠ .opening) (hclosing : p ≠ .closing)
      (h : Balanced rest) : Balanced (p :: rest)
  | group {inner rest : List Part} (hinner : Balanced inner) (h : Balanced rest) :
      Balanced (.opening :: (inner ++ .closing :: rest))

/-- No intersection stands to the right of a union or a difference at the same level. -/
def TightFirst (parts : List Part) : Prop :=
  ∀ before a mid b after, parts = before ++ .operator a :: (mid ++ .operator b :: after) →
    Balanced mid → a.kind ≠ .intersect → b.kind ≠ .intersect

/-! ## Reading a text -/

/-- Whether a union or a difference was seen in each of the open parentheses, the innermost first,
after one more part. An intersection behind one is not accepted. -/
def trackPart : List Bool → Part → Option (List Bool)
  | stack, .opening => some (false :: stack)
  | _ :: stack, .closing => some stack
  | [], .closing => none
  | loose :: stack, .operator op =>
    if op.kind ≠ .intersect then some (true :: stack)
    else if loose then none else some (false :: stack)
  | [], .operator _ => none
  | stack, _ => some stack

/-- The same after some parts. -/
def track (stack : List Bool) (parts : List Part) : Option (List Bool) :=
  parts.foldlM trackPart stack

theorem track_nil (stack : List Bool) : track stack [] = some stack := rfl

theorem track_cons (stack : List Bool) (p : Part) (rest : List Part) :
    track stack (p :: rest) = (trackPart stack p).bind (track · rest) := rfl

theorem track_append (stack : List Bool) (l r : List Part) :
    track stack (l ++ r) = (track stack l).bind (track · r) := List.foldlM_append

/-- What is balanced leaves the parentheses around it as they are. -/
theorem Balanced.of_track {parts : List Part} (h : Balanced parts) {loose : Bool}
    {stack stack' : List Bool} (htrack : track (loose :: stack) parts = some stack') :
    ∃ loose', stack' = loose' :: stack ∧ (loose = true → loose' = true) := by
  induction h generalizing loose stack stack' with
  | nil => exact ⟨loose, (Option.some.inj htrack).symm, id⟩
  | @plain p rest hopening hclosing _ ih =>
    rw [track_cons, Option.bind_eq_some_iff] at htrack
    obtain ⟨next, hpart, htrack⟩ := htrack
    obtain ⟨loose', rfl, hmono⟩ :
        ∃ loose', next = loose' :: stack ∧ (loose = true → loose' = true) := by
      cases p with
      | opening => exact absurd rfl hopening
      | closing => exact absurd rfl hclosing
      | operator op =>
        simp only [trackPart] at hpart
        split at hpart
        · exact ⟨true, (Option.some.inj hpart).symm, fun _ => rfl⟩
        · split at hpart
          · cases hpart
          · next hloose => exact ⟨false, (Option.some.inj hpart).symm, fun h => absurd h hloose⟩
      | _ => exact ⟨loose, (Option.some.inj hpart).symm, id⟩
    obtain ⟨loose'', rfl, hmono'⟩ := ih htrack
    exact ⟨loose'', rfl, hmono' ∘ hmono⟩
  | group _ _ ihinner ih =>
    rw [track_cons, Option.bind_eq_some_iff] at htrack
    obtain ⟨_, ⟨⟩, htrack⟩ := htrack
    rw [track_append, Option.bind_eq_some_iff] at htrack
    obtain ⟨next, hinner, htrack⟩ := htrack
    obtain ⟨inside, rfl, -⟩ := ihinner hinner
    exact ih htrack

/-- **A text that is read to its end has intersections first.** -/
theorem tightFirst_of_track {parts : List Part} {stack stack' : List Bool}
    (h : track stack parts = some stack') : TightFirst parts := by
  rintro before a mid b after rfl hmid ha hb
  rw [track_append, Option.bind_eq_some_iff] at h
  obtain ⟨stack₁, -, h⟩ := h
  rw [track_cons, Option.bind_eq_some_iff] at h
  obtain ⟨stack₂, hpart, h⟩ := h
  rw [track_append, Option.bind_eq_some_iff] at h
  obtain ⟨stack₃, htrack, h⟩ := h
  rw [track_cons, Option.bind_eq_some_iff] at h
  obtain ⟨stack₄, hlast, -⟩ := h
  cases stack₁ with
  | nil => cases hpart
  | cons loose stack₁ =>
    simp only [trackPart, if_pos ha, Option.some.injEq] at hpart
    subst hpart
    obtain ⟨loose', rfl, hloose⟩ := hmid.of_track htrack
    simp [trackPart, hb, hloose rfl] at hlast

/-! ## What passes through unseen -/

/-- Reading the parts changes nothing at the level where they stand. -/
def Steady (parts : List Part) : Prop :=
  ∀ loose stack, track (loose :: stack) parts = some (loose :: stack)

theorem Steady.append {l r : List Part} (hl : Steady l) (hr : Steady r) : Steady (l ++ r) := by
  intro loose stack
  rw [track_append, hl]
  exact hr loose stack

/-- What stands in parentheses is not seen outside of them. -/
theorem steady_group {inner : List Part}
    (h : ∀ stack, ∃ loose, track (false :: stack) inner = some (loose :: stack)) :
    Steady (.opening :: (inner ++ [.closing])) := by
  intro loose stack
  obtain ⟨inside, hinner⟩ := h (loose :: stack)
  simp [track_cons, trackPart, track_append, hinner, track_nil]

/-- A parenthesis or an operator. -/
def Part.frame? : Part → Option Part
  | .opening => some .opening
  | .closing => some .closing
  | .operator op => some (.operator op)
  | _ => none

theorem skipsWords_frame : SkipsWords Part.frame? where
  word _ := rfl
  column _ := rfl

/-- Only parentheses and operators are looked at. -/
theorem track_filterMap_frame (stack : List Bool) (parts : List Part) :
    track stack (parts.filterMap Part.frame?) = track stack parts := by
  induction parts generalizing stack with
  | nil => rfl
  | cons p rest ih =>
    cases p <;> simp [List.filterMap_cons, Part.frame?, track_cons, trackPart, ih]

theorem steady_of_filterMap {parts : List Part} (h : Steady (parts.filterMap Part.frame?)) :
    Steady parts := by
  intro loose stack
  rw [← track_filterMap_frame]
  exact h loose stack

/-- An item has no operators, and parentheses only in pairs. -/
theorem SelectItem.steady_parts (d : Dialect) (item : SelectItem) : Steady (item.parts d) := by
  refine steady_of_filterMap fun loose stack => ?_
  have hcolumns : ∀ names, (columnParts names).filterMap Part.frame? = [] :=
    skipsWords_frame.filterMap_columnParts
  cases item <;>
    simp [parts, List.filterMap_cons, Part.frame?, hcolumns, track_cons, trackPart, track_nil]

/-- A SELECT shows nothing but its source. -/
theorem Head.steady_select (d : Dialect) (head : Head) {source : List Part} (h : Steady source) :
    Steady ((head.select d source).parts d) := by
  refine steady_of_filterMap fun loose stack => ?_
  have hitems : Steady (head.items.flatMap fun item => (item.parts d).filterMap Part.frame?) := by
    generalize head.items = items
    intro loose stack
    induction items with
    | nil => rfl
    | cons item items ih =>
      rw [List.flatMap_cons, track_append, track_filterMap_frame, item.steady_parts d]
      exact ih
  rw [skipsWords_frame.filterMap_select, track_append, hitems, Option.bind_some,
    track_filterMap_frame]
  exact h loose stack

end SetQuery.Sql
