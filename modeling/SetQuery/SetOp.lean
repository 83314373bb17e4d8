/-!
# Set operations

A set operation has a kind (union, intersection, difference) and a multiplicity: it treats its
operands as sets, or as bags in which a row may occur several times. `PerOp α` holds one value for
each of the six operations.
-/

namespace SetQuery

/-- What a set operation does. -/
inductive OpKind
  | union | intersect | except
deriving DecidableEq, Repr, Inhabited

/-- Whether rows count once or as often as they occur. -/
inductive Multiplicity
  | distinct | all
deriving DecidableEq, Repr, Inhabited

/-- A set operation. -/
structure SetOp where
  kind : OpKind
  multiplicity : Multiplicity
deriving DecidableEq, Repr, Inhabited

/-- The keyword of the kind. -/
def OpKind.keyword : OpKind → String
  | .union => "UNION"
  | .intersect => "INTERSECT"
  | .except => "EXCEPT"

/-- The name of the kind in data. -/
def OpKind.name : OpKind → String
  | .union => "union"
  | .intersect => "intersect"
  | .except => "except"

/-- The keyword of the multiplicity. -/
def Multiplicity.keyword : Multiplicity → String
  | .distinct => "DISTINCT"
  | .all => "ALL"

/-- The name of the multiplicity in data. -/
def Multiplicity.name : Multiplicity → String
  | .distinct => "distinct"
  | .all => "all"

/-- The multiplicity that a flag asks for. -/
def Multiplicity.ofDistinct (distinct : Bool) : Multiplicity := if distinct then .distinct else .all

namespace SetOp

/-- Kind and multiplicity, both spelled out. -/
def title (op : SetOp) : String := op.kind.keyword ++ " " ++ op.multiplicity.keyword

/-- All six operations, by kind and then by multiplicity. -/
def every : List SetOp :=
  [⟨.union, .distinct⟩, ⟨.union, .all⟩, ⟨.intersect, .distinct⟩, ⟨.intersect, .all⟩,
    ⟨.except, .distinct⟩, ⟨.except, .all⟩]

theorem mem_every (op : SetOp) : op ∈ every := by
  obtain ⟨kind, multiplicity⟩ := op
  cases kind <;> cases multiplicity <;> decide

end SetOp

/-! ## A value for each operation -/

/-- One value for each of the six operations. -/
structure PerOp (α : Type) where
  unionDistinct : α
  unionAll : α
  intersectDistinct : α
  intersectAll : α
  exceptDistinct : α
  exceptAll : α
deriving DecidableEq, Repr, Inhabited

namespace PerOp

variable {α β : Type}

/-- The same value for every operation. -/
def const (value : α) : PerOp α := ⟨value, value, value, value, value, value⟩

/-- The values of a function. -/
def ofFn (f : SetOp → α) : PerOp α :=
  ⟨f ⟨.union, .distinct⟩, f ⟨.union, .all⟩, f ⟨.intersect, .distinct⟩, f ⟨.intersect, .all⟩,
    f ⟨.except, .distinct⟩, f ⟨.except, .all⟩⟩

/-- The value for an operation. -/
def get (t : PerOp α) (op : SetOp) : α :=
  match op.kind, op.multiplicity with
  | .union, .distinct => t.unionDistinct
  | .union, .all => t.unionAll
  | .intersect, .distinct => t.intersectDistinct
  | .intersect, .all => t.intersectAll
  | .except, .distinct => t.exceptDistinct
  | .except, .all => t.exceptAll

/-- The table with another value for one operation. -/
def set (t : PerOp α) (op : SetOp) (value : α) : PerOp α :=
  match op.kind, op.multiplicity with
  | .union, .distinct => { t with unionDistinct := value }
  | .union, .all => { t with unionAll := value }
  | .intersect, .distinct => { t with intersectDistinct := value }
  | .intersect, .all => { t with intersectAll := value }
  | .except, .distinct => { t with exceptDistinct := value }
  | .except, .all => { t with exceptAll := value }

/-- The values in the order of `SetOp.every`. -/
def toList (t : PerOp α) : List α := SetOp.every.map t.get

@[simp] theorem get_const (value : α) (op : SetOp) : (const value).get op = value := by
  obtain ⟨kind, multiplicity⟩ := op
  cases kind <;> cases multiplicity <;> rfl

@[simp] theorem get_ofFn (f : SetOp → α) (op : SetOp) : (ofFn f).get op = f op := by
  obtain ⟨kind, multiplicity⟩ := op
  cases kind <;> cases multiplicity <;> rfl

theorem get_set (t : PerOp α) (op op' : SetOp) (value : α) :
    (t.set op value).get op' = if op' = op then value else t.get op' := by
  obtain ⟨kind, multiplicity⟩ := op
  obtain ⟨kind', multiplicity'⟩ := op'
  cases kind <;> cases multiplicity <;> cases kind' <;> cases multiplicity' <;> rfl

end PerOp

end SetQuery
