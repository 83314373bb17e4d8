import SetQuery.Proofs.Renaming.Query

/-!
# Names in the text of a statement

A template is a text with slots for names of columns and tables. To fill it, each slot gets the
quoted new name of the column or the table.

**Theorem (`Built.names_fill_template`).** An expression has one template from which the statements
under all names come: under new names the expression compiles to the same template, filled with the
new names, and with the same steps, or it fails with the same error. So nothing is done with a name
that a user chose but to quote it; it is not pasted, cut, ordered or compared with a keyword, and a
name with quotes, dots or a comment mark in it changes nothing around it.

What is asked of the new names is that different columns get different ones, and that neither the
old nor the new ones look like generated names.
-/

namespace SetQuery

namespace Sql

/-! ## Templates -/

/-- A piece of a template. -/
inductive Slot
  | literal (text : String)
  | column (name : String)
  | table (name : String)
deriving DecidableEq, Repr

/-- What stands in the piece under new names. -/
def Slot.fill (d : Dialect) (ρ : Renaming) : Slot → String
  | .literal text => text
  | .column name => d.quoteIdent (ρ.column name)
  | .table name => d.quoteQualified (ρ.table name)

/-- The text of a template under new names. -/
def fill (d : Dialect) (ρ : Renaming) (template : List Slot) : String :=
  String.join (template.map (·.fill d ρ))

/-- The piece for a part of a statement: a slot for a name that a user chose, and otherwise the
text of the part. -/
def Part.slot (d : Dialect) : Part → Slot
  | .column name => .column name
  | .table name => .table name
  | part => .literal (part.spell d)

theorem Part.fill_slot (d : Dialect) (ρ : Renaming) (part : Part) :
    (part.slot d).fill d ρ = (part.rename ρ).spell d := by
  cases part <;> rfl

/-- Spelling out renamed parts is filling the template of the parts. -/
theorem fill_slots (d : Dialect) (ρ : Renaming) (parts : List Part) :
    fill d ρ (parts.map (·.slot d)) = spell d (parts.map (·.rename ρ)) := by
  rw [fill, spell, List.map_map, List.map_map]
  exact congrArg String.join (List.map_congr_left fun part _ => part.fill_slot d ρ)

theorem Part.rename_same (part : Part) : part.rename .same = part := by
  cases part <;> rfl

/-- The template of a query. -/
def Query.template (d : Dialect) (q : Query) : List Slot := (q.parts d).map (·.slot d)

theorem Query.text_eq_fill (d : Dialect) (q : Query) : q.text d = fill d .same (q.template d) := by
  rw [template, fill_slots, List.map_congr_left fun part _ => part.rename_same, List.map_id', text]

theorem Query.text_rename (d : Dialect) (ρ : Renaming) (q : Query) :
    (q.rename ρ).text d = fill d ρ (q.template d) := by
  rw [template, fill_slots, text, parts_rename]

end Sql

open Sql

/-! ## Compiling -/

/-- The new names keep the columns of the expression apart and look like no generated names. -/
structure Renaming.Fits (ρ : Renaming) (e : Expr) : Prop extends
    ρ.Separates e.columnNames where
  noneGenerated : NoneGenerated (e.columnNames.map ρ.column)

namespace Expr

variable {ρ : Renaming} {c : Capabilities} {policy : OrderPolicy}

theorem Valid.compileFor_rename_error {e : Expr} (hv : e.Valid) (hρ : ρ.Separates e.columnNames)
    {err : PlanError} :
    (e.rename ρ).compileFor c policy = .error err ↔ e.compileFor c policy = .error err := by
  unfold compileFor
  rw [Except.map_eq_error_iff, Except.map_eq_error_iff, hv.resolve_rename hρ,
    Except.map_eq_error_iff]

theorem Valid.compileFor_rename {e : Expr} (hv : e.Valid) (hnames : NoneGenerated e.columnNames)
    (hρ : ρ.Fits e) {compiled : Compiled} (h : e.compileFor c policy = .ok compiled) :
    ∃ renamed, (e.rename ρ).compileFor c policy = .ok renamed ∧
      renamed.dialect = compiled.dialect ∧ renamed.query = compiled.query.rename ρ ∧
      renamed.steps = compiled.steps := by
  obtain ⟨r, hr, rfl⟩ := Except.map_eq_ok_iff.1 h
  have hrenamed : (e.rename ρ).resolve c policy = .ok (r.rename ρ) := by
    rw [hv.resolve_rename hρ.toSeparates, hr]
    rfl
  have hnames' : NoneGenerated (e.rename ρ).columnNames := by
    rw [columnNames_rename hρ.toSeparates]
    exact hρ.noneGenerated
  refine ⟨_, Except.map_eq_ok_iff.2 ⟨_, hrenamed, rfl⟩, rfl, ?_, Resolved.steps_rename ρ r⟩
  show ((r.rename ρ).toQuery (e.rename ρ).columnNames 0).1 = _
  rw [Resolved.toQuery_rename hnames hnames']
  rfl

/-- **Names only fill the slots of a template.** -/
theorem Built.names_fill_template {e : Expr} (h : Built e)
    (hnames : NoneGenerated e.columnNames) (c : Capabilities) (policy : OrderPolicy) :
    (∀ ρ : Renaming, ρ.Fits e → Built (e.rename ρ) ∧ ∀ err,
      (e.rename ρ).compileFor c policy = .error err ↔ e.compileFor c policy = .error err) ∧
    ∀ compiled, e.compileFor c policy = .ok compiled → ∃ template : List Slot,
      compiled.sql = fill c.dialect .same template ∧ ∀ ρ : Renaming, ρ.Fits e →
        ∃ renamed, (e.rename ρ).compileFor c policy = .ok renamed ∧
          renamed.sql = fill c.dialect ρ template ∧ renamed.steps = compiled.steps := by
  refine ⟨fun ρ hρ => ⟨h.rename hρ.toSeparates, fun err =>
    h.valid.compileFor_rename_error hρ.toSeparates⟩, fun compiled hok => ?_⟩
  have hdialect : compiled.dialect = c.dialect := by
    obtain ⟨r, -, rfl⟩ := Except.map_eq_ok_iff.1 hok
    rfl
  refine ⟨compiled.query.template c.dialect, ?_, fun ρ hρ => ?_⟩
  · rw [Compiled.sql, hdialect]
    exact Query.text_eq_fill c.dialect compiled.query
  · obtain ⟨renamed, hrenamed, hdialect', hquery, hsteps⟩ :=
      h.valid.compileFor_rename hnames hρ hok
    refine ⟨renamed, hrenamed, ?_, hsteps⟩
    rw [Compiled.sql, hdialect', hdialect, hquery]
    exact Query.text_rename c.dialect ρ compiled.query

/-! ## An example -/

/-- One column of integers. -/
def keySchema : Schema where
  columns := [⟨"id", .integer .i32, .unknown⟩]
  nodup := List.nodup_singleton _
  named := by simp

/-- The rows of two tables. -/
def bothShops : Expr :=
  .chain (.table "shop.old" keySchema) [⟨⟨.union, .all⟩, .table "shop.new" keySchema⟩] keySchema

theorem built_bothShops : Built bothShops := by
  have hunion : combineTwo ⟨.union, .all⟩ (.table "shop.old" keySchema)
      (.table "shop.new" keySchema) = .ok bothShops := rfl
  exact .combineTwo (.table ..) (.table ..) hunion

/-- Names with a closing delimiter and the mark of a comment. -/
def hostile : Renaming := ⟨fun _ => "id] --", fun name => name ++ "]"⟩

theorem fits_hostile : hostile.Fits bothShops where
  injective := by
    have hid : ∀ x ∈ bothShops.columnNames, x = "id" := by decide
    intro x hx y hy _
    rw [hid x hx, hid y hy]
  named := by decide
  noneGenerated := by
    intro name hname hgenerated
    have hname : name = "id] --" := by
      obtain ⟨_, _, rfl⟩ := List.mem_map.1 hname
      rfl
    rw [hname] at hgenerated
    exact absurd hgenerated.isPrefix (by decide)

theorem noneGenerated_bothShops : NoneGenerated bothShops.columnNames := by
  have hid : ∀ x ∈ bothShops.columnNames, x = "id" := by decide
  intro name hname hgenerated
  rw [hid name hname] at hgenerated
  exact absurd hgenerated.isPrefix (by decide)

/-- The names stay between their delimiters. -/
theorem bothShops_renamed :
    let c := Capabilities.native ⟨"mssql"⟩ .msSql
    ∃ template, (∃ compiled, bothShops.compileFor c .drop = .ok compiled ∧
      compiled.sql = fill .msSql .same template) ∧
      fill .msSql hostile template = "SELECT [id]] --] FROM [shop].[old]]] AS [_sw_0] UNION ALL " ++
        "SELECT [id]] --] FROM [shop].[new]]] AS [_sw_1]" := by
  intro c
  have hsteps : (bothShops.compileFor c .drop).map (·.steps) = .ok [⟨⟨.union, .all⟩, .native⟩] := by
    decide +kernel
  have hsql : ((bothShops.rename hostile).compileFor c .drop).map (·.sql) =
      .ok ("SELECT [id]] --] FROM [shop].[old]]] AS [_sw_0] UNION ALL " ++
        "SELECT [id]] --] FROM [shop].[new]]] AS [_sw_1]") := by
    decide +kernel
  obtain ⟨compiled, hok, -⟩ := Except.map_eq_ok_iff.1 hsteps
  obtain ⟨template, hsame, hρ⟩ := (Built.names_fill_template built_bothShops
    noneGenerated_bothShops c .drop).2 compiled hok
  obtain ⟨renamed, hrenamed, htext, -⟩ := hρ hostile fits_hostile
  refine ⟨template, ⟨compiled, hok, hsame⟩, ?_⟩
  rw [hrenamed] at hsql
  exact htext.symm.trans (Except.ok.inj hsql)

end Expr

end SetQuery
