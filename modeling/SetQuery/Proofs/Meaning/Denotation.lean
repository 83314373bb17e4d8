import Mathlib.Data.Rat.Cast.CharZero
import Mathlib.Data.Set.Image
import SetQuery.Proofs.Meaning.Outcome

/-!
# What a schema promises

A type denotes a set of values (`Denotation.values`). Integers, texts, arrays and decimals with a
precision and a scale have the values that their names say; what the other types denote is left
open, but that `FLOAT` is part of `DOUBLE`. A schema promises that the values of a column are nulls
or belong to its type, and that a column declared `NOT NULL` has no nulls (`Denotation.Typed`).

Types widen to types that denote more (`Denotation.values_subset`), with one proviso: how many
digits a decimal may have says nothing about its values when it states no scale, so these types have
to be given sets that grow with the precision.

**Theorem (`Expr.Built.outcomes_typed`).** If the sources keep the promises of their schemas, then
the value of an expression keeps those of its schema.
-/

namespace SetQuery

/-! ## Values -/

/-- A value other than the null. -/
inductive Value (α : Type)
  | number (q : ℚ)
  | text (s : String)
  | list (elements : List (Value α))
  /-- A date, a document, or whatever else there is. -/
  | other (x : α)

/-- What the types denote whose values are not given by their names. -/
structure Denotation (α : Type) where
  scalar : SqlType → Set (Value α)
  single_subset_double : scalar (.float .single) ⊆ scalar (.float .double)

namespace Denotation

variable {α : Type} (D : Denotation α)

/-- The values that a type denotes. -/
def values : SqlType → Set (Value α)
  | .integer width =>
    (fun i : Int => .number i) '' {i | Engine.Bounded (2 ^ (width.bits - 1)) i}
  | .hugeInt => (fun i : Int => .number i) '' {i | Engine.Bounded (2 ^ 127) i}
  | .decimal (some precision) (some scale) =>
    (fun digits : Int => .number (digits / 10 ^ scale.toNat)) ''
      {digits | digits.natAbs < 10 ^ precision.toNat}
  | .text (some length) => .text '' {s | s.length ≤ length.toNat}
  | .text none => Set.range .text
  | .array element => .list '' {elements | ∀ v ∈ elements, v ∈ values element}
  | type => D.scalar type

/-- A decimal that states no scale may have more values when it has more digits. -/
def GrowsWithPrecision : Prop :=
  ∀ p q : UInt16, p ≤ q → D.scalar (.decimal (some p) none) ⊆ D.scalar (.decimal (some q) none)

variable {D}

/-- **A wider type denotes more values.** -/
theorem values_subset (hD : D.GrowsWithPrecision) {a b : SqlType} (h : a.Widens b) :
    D.values a ⊆ D.values b := by
  induction h with
  | refl a => exact Set.Subset.rfl
  | integer hbits =>
    apply Set.image_mono
    intro i hi
    exact hi.mono (Nat.pow_le_pow_right (by decide) (Nat.sub_le_sub_right hbits 1))
  | hugeInt width =>
    apply Set.image_mono
    intro i hi
    exact hi.mono (Nat.pow_le_pow_right (by decide) (by cases width <;> decide))
  | float => exact D.single_subset_double
  | @decimal p q scale hle =>
    cases scale with
    | none => exact hD p q hle
    | some scale =>
      apply Set.image_mono
      intro digits hdigits
      exact Nat.lt_of_lt_of_le hdigits (Nat.pow_le_pow_right (by decide) hle)
  | text hle =>
    apply Set.image_mono
    intro s hs
    exact Nat.le_trans hs hle
  | unbounded length => exact Set.image_subset_range _ _
  | array _ ih =>
    apply Set.image_mono
    intro elements helements v hv
    exact ih (helements v hv)

end Denotation

/-! ## Promises -/

/-- An order of values, ascending or not. -/
structure Ranking (V : Type) where
  precedes : Bool → V → V → Prop
  total (ascending : Bool) (v w : V) : precedes ascending v w ∨ precedes ascending w v
  trans {ascending : Bool} {u v w : V} :
    precedes ascending u v → precedes ascending v w → precedes ascending u w

/-- Values are combined as they are; casting changes nothing, whatever the types are. -/
def Engine.uncast {α : Type} (ranking : Ranking (Option (Value α))) :
    Engine (Option (Value α)) where
  null := none
  number n := some (.number n)
  fits _ _ := True
  cast _ v := v
  precedes := ranking.precedes
  number_injective m n h := by
    have h : (m : ℚ) = n := Value.number.inj (Option.some.inj h)
    exact Nat.cast_injective h
  cast_of_fits _ := rfl
  fits_cast _ _ := trivial
  cast_cast _ _ _ := rfl
  cast_injective _ _ _ h := h
  precedes_total := ranking.total
  precedes_trans := ranking.trans

/-- The relation that a source stands for. -/
def Database.relation {V : Type} (db : Database V) : Source → Relation V
  | .table name => db.table name
  | .query sql => db.answer sql

namespace Denotation

variable {α : Type} {D : Denotation α}

/-- The row keeps the promises of the schema. -/
structure Typed (D : Denotation α) (s : Schema) (r : Row (Option (Value α))) : Prop where
  values : ∀ c ∈ s.columns, ∀ v, r c.name = some v → v ∈ D.values c.type
  notNull : ∀ c ∈ s.columns, c.nullability = .notNull → r c.name ≠ none

/-- The rows of the sources of an expression keep the promises of their schemas. -/
def Holds (D : Denotation α) (ranking : Ranking (Option (Value α)))
    (db : Database (Option (Value α))) (e : Expr) : Prop :=
  ∀ origin schema, Expr.source origin schema ∈ e.nodes →
    ∀ r ∈ (db.relation origin).named (.uncast ranking) schema.names, D.Typed schema r

/-- What a row keeps of a schema, it keeps of one that promises no more. -/
theorem Typed.conform (hD : D.GrowsWithPrecision) (ranking : Ranking (Option (Value α)))
    {s t : Schema} {r : Row (Option (Value α))} (hst : s.RelaxesTo t) (hr : D.Typed s r) :
    D.Typed t ((Engine.uncast ranking).conform t r) where
  values d hd v hv := by
    obtain ⟨c, hc, hname, hw⟩ := hst.widens.exists_column hd
    rw [Engine.conform_of_mem hd, ← hname] at hv
    exact values_subset hD hw (hr.values c hc v hv)
  notNull d hd hnull := by
    obtain ⟨c, hc, hname, -⟩ := hst.widens.exists_column hd
    rw [Engine.conform_of_mem hd, ← hname]
    exact hr.notNull c hc (hst.notNull c hc d hd hname hnull)

end Denotation

namespace Expr

variable {α : Type} {D : Denotation α} {ranking : Ranking (Option (Value α))}
  {db : Database (Option (Value α))}

/-- **The schema of an expression is sound.** An expression has a value, and whatever it is, its
rows keep the promises of the schema. -/
theorem Built.outcomes_typed (hD : D.GrowsWithPrecision) {e : Expr} (h : Built e)
    (hdb : D.Holds ranking db e) : (e.outcomes (.uncast ranking) db).Nonempty ∧
      ∀ rows ∈ e.outcomes (.uncast ranking) db, ∀ r ∈ rows, D.Typed e.schema r := by
  refine ⟨outcomes_nonempty _ db e, ?_⟩
  refine h.valid.forall_outcomes (P := D.Typed) (fun hst hr => hr.conform hD ranking hst) ?_
  intro origin schema hmem rows hrows
  have hholds := hdb origin schema hmem
  cases origin <;>
  · rw [outcomes] at hrows
    rw [hrows]
    exact hholds

/-! ## An example -/

/-- One column of decimals without a scale. -/
def amountSchema (digits : UInt16) : Schema where
  columns := [⟨"d", .decimal (some digits) none, .notNull⟩]
  nodup := List.nodup_singleton _
  named := by simp

/-- The rows of two tables, one of which has shorter decimals. -/
def amounts : Expr :=
  .chain (.table "l" (amountSchema 5)) [⟨⟨.union, .all⟩, .table "r" (amountSchema 7)⟩]
    (amountSchema 7)

theorem built_amounts : Built amounts := by
  have hunion : combineTwo ⟨.union, .all⟩ (.table "l" (amountSchema 5))
      (.table "r" (amountSchema 7)) = .ok amounts := rfl
  exact .combineTwo (.table ..) (.table ..) hunion

/-- The table with the shorter decimals has a row, and nothing else has one. -/
def oneAmount : Database (Option (Value Unit)) :=
  let row : Relation (Option (Value Unit)) :=
    { columns := ["d"], rows := {[some (.number 1)]}, width := by simp }
  let nothing : Relation (Option (Value Unit)) := { columns := ["d"], rows := 0, width := by simp }
  ⟨fun name => if name = "l" then row else nothing, fun _ => nothing⟩

/-- Nothing comes before anything else. -/
def anyOrder : Ranking (Option (Value Unit)) where
  precedes _ _ _ := True
  total _ _ _ := .inl trivial
  trans _ _ := trivial

/-- Sources keep their promises if the one row does. -/
theorem holds_oneAmount {D : Denotation Unit}
    (h : Value.number 1 ∈ D.scalar (.decimal (some 5) none)) :
    D.Holds anyOrder oneAmount amounts := by
  intro origin schema hmem r hr
  have hmem : Expr.source origin schema = .table "l" (amountSchema 5) ∨
      Expr.source origin schema = .table "r" (amountSchema 7) := by
    simpa [amounts, nodes, stepNodes, table] using hmem
  rcases hmem with hmem | hmem
  · cases hmem
    obtain ⟨row, hrow, rfl⟩ := Multiset.mem_map.1 hr
    obtain rfl : row = [some (.number 1)] := by simpa [Database.relation, oneAmount] using hrow
    have hvalue : (if "d" ∈ (amountSchema 5).names then (Engine.uncast anyOrder).value
        ["d"] [some (.number 1)] "d" else none) = some (.number 1) := rfl
    constructor
    · intro c hc v hv
      cases List.mem_singleton.1 hc
      cases hvalue.symm.trans hv
      exact h
    · intro c hc _ hnull
      cases List.mem_singleton.1 hc
      cases hvalue.symm.trans hnull
  · cases hmem
    simp [Database.relation, oneAmount, Relation.named] at hr

/-- A decimal without a scale is a whole number. -/
def wholeDecimals : Denotation Unit where
  scalar
    | .decimal (some precision) none =>
      (fun i : Int => .number i) '' {i | i.natAbs < 10 ^ precision.toNat}
    | _ => ∅
  single_subset_double := Set.Subset.rfl

theorem wholeDecimals_growsWithPrecision : wholeDecimals.GrowsWithPrecision := by
  intro p q hle
  apply Set.image_mono
  intro i hi
  exact Nat.lt_of_lt_of_le hi (Nat.pow_le_pow_right (by decide) hle)

/-- The shorter decimals are decimals of the wider type, and none of them is null. -/
theorem amounts_typed : wholeDecimals.Holds anyOrder oneAmount amounts ∧
    ∀ rows ∈ amounts.outcomes (.uncast anyOrder) oneAmount, ∀ r ∈ rows,
      wholeDecimals.Typed (amountSchema 7) r := by
  have hone : Value.number 1 ∈ wholeDecimals.scalar (.decimal (some 5) none) :=
    ⟨1, by decide, by simp⟩
  have hdb : wholeDecimals.Holds anyOrder oneAmount amounts := holds_oneAmount hone
  exact ⟨hdb, (Built.outcomes_typed wholeDecimals_growsWithPrecision built_amounts hdb).2⟩

/-- Decimals of five digits are all values, and there are no others. -/
def fiveDigits : Denotation Unit where
  scalar type := {_v | type = .decimal (some 5) none}
  single_subset_double := by
    intro _ h
    cases h

/-- So it matters what decimals without a scale denote: the values of such a type need not be values
of the one to which it widens. -/
theorem exists_untyped_outcome : ¬ ∀ (α : Type) (D : Denotation α)
    (ranking : Ranking (Option (Value α))) (db : Database (Option (Value α))) (e : Expr),
    Built e → D.Holds ranking db e →
      ∀ rows ∈ e.outcomes (.uncast ranking) db, ∀ r ∈ rows, D.Typed e.schema r := by
  intro h
  have htyped := h Unit fiveDigits anyOrder oneAmount amounts built_amounts (holds_oneAmount rfl)
  let E := Engine.uncast anyOrder
  let cast := Multiset.map (E.conform (amountSchema 7))
  have hrows : cast ((oneAmount.table "l").named E ["d"]) +
      cast ((oneAmount.table "r").named E ["d"]) ∈ amounts.outcomes E oneAmount := by
    rw [amounts, outcomes, stepOutcomes, stepOutcomes, table, outcomes, table, outcomes]
    exact Set.mem_image2_of_mem (Set.mem_image_of_mem _ rfl) (Set.mem_image_of_mem _ rfl)
  have hrow : [some (.number 1)] ∈ (oneAmount.table "l").rows := Multiset.mem_singleton_self _
  have hr := htyped _ hrows _ (Multiset.mem_add.2
    (.inl (Multiset.mem_map_of_mem _ (Multiset.mem_map_of_mem _ hrow))))
  have hvalue : Value.number 1 ∈ fiveDigits.values (.decimal (some 7) none) :=
    hr.values _ (List.mem_singleton_self _) _ rfl
  cases hvalue

end Expr

end SetQuery
