import SetQuery.Capability.Registry
import SetQuery.Proofs.Except

/-!
# Standard capability tables

A table is **standard** if every emulation in it is made for its operation. The built-in tables are
standard, and a configuration keeps them so (`Registry.standard_of_ofConfig`), because it may only
ask for an emulation and never choose one.
-/

namespace SetQuery

theorem Support.ofOp?_of_ofSetting {op : SetOp} {setting : Setting} {emulation : Emulation}
    (h : ofSetting op setting = .emulated emulation) : Emulation.ofOp? op = some emulation := by
  cases setting with
  | supported => cases h
  | unsupported => cases h
  | emulated =>
    rw [ofSetting] at h
    cases hop : Emulation.ofOp? op with
    | none => rw [hop] at h; cases h
    | some emulation' => rw [hop] at h; cases h; rfl

namespace Capabilities

/-- What emulates an operation on the backend is made for it. -/
def Standard (c : Capabilities) : Prop :=
  ∀ op emulation, c.support.get op = .emulated emulation → Emulation.ofOp? op = some emulation

theorem standard_of_native {c : Capabilities} (h : ∀ op, c.support.get op = .native) :
    c.Standard := by
  intro op emulation hop
  rw [h op] at hop
  cases hop

theorem standard_native (name : BackendName) (dialect : Dialect) : (native name dialect).Standard :=
  standard_of_native (PerOp.get_const _)

theorem Standard.setSupport {c : Capabilities} (hc : c.Standard) {op : SetOp} {support : Support}
    (h : ∀ emulation, support = .emulated emulation → Emulation.ofOp? op = some emulation) :
    (c.setSupport op support).Standard := by
  intro op' emulation hget
  rw [Capabilities.setSupport, PerOp.get_set] at hget
  split at hget
  · next heq => exact heq ▸ h emulation hget
  · exact hc op' emulation hget

theorem Standard.apply {c : Capabilities} (hc : c.Standard) (o : Override) :
    (c.apply o).Standard := by
  intro op emulation hget
  rw [Capabilities.apply, PerOp.get_ofFn] at hget
  cases hsetting : o.settings.get op with
  | none => rw [hsetting] at hget; exact hc op emulation hget
  | some setting => rw [hsetting] at hget; exact Support.ofOp?_of_ofSetting hget

/-- What a backend emulates is marked so in its table. -/
theorem get_of_resolve_eq_ok {c : Capabilities} {op : SetOp} {emulation : Emulation}
    (h : c.resolve op = .ok (.emulated emulation)) : c.support.get op = .emulated emulation := by
  unfold resolve at h
  split at h
  · cases h
  · cases h
  · next heq =>
    split at h <;> cases h
    exact heq

end Capabilities

namespace Registry

/-- All tables of the registry are standard. -/
def Standard (r : Registry) : Prop :=
  ∀ name c, r.tables.get? name = some c → c.Standard

theorem Standard.insert {r : Registry} (hr : r.Standard) {c : Capabilities} (hc : c.Standard) :
    (r.insert c).Standard := by
  intro name c' hget
  by_cases hname : name = c.name.text
  · rw [Registry.insert, hname, SortedMap.get?_insert_self] at hget
    cases hget
    exact hc
  · rw [Registry.insert, SortedMap.get?_insert_of_ne _ _ hname] at hget
    exact hr name c' hget

theorem standard_withBags (name : String) (dialect : Dialect) {bags : Support}
    (h : ∀ emulation, bags = .emulated emulation → emulation = .rowNumber) :
    (withBags name dialect bags).Standard :=
  ((Capabilities.standard_native _ _).setSupport fun emulation hbags => by
    rw [h emulation hbags]; rfl).setSupport fun emulation hbags => by
    rw [h emulation hbags]; rfl

theorem standard_of_mem_builtinTables {c : Capabilities} (h : c ∈ builtinTables) : c.Standard := by
  have hnone (name : String) (dialect : Dialect) :
      (withBags name dialect .unsupported).Standard :=
    standard_withBags name dialect fun _ h => nomatch h
  have hnumbered (name : String) (dialect : Dialect) :
      (withBags name dialect (.emulated .rowNumber)).Standard :=
    standard_withBags name dialect fun _ h => by cases h; rfl
  simp only [builtinTables, List.mem_cons, List.not_mem_nil, or_false] at h
  rcases h with rfl | rfl | rfl | rfl | rfl | rfl | rfl | rfl | rfl | rfl | rfl | rfl | rfl |
    rfl | rfl
  iterate 5 exact Capabilities.standard_native _ _
  iterate 4 exact hnone _ _
  iterate 4 exact hnumbered _ _
  · exact hnumbered "mssql" .msSql
  · refine (((hnone _ _).setSupport ?_).setSupport ?_).setSupport ?_
    · rintro _ ⟨⟩; rfl
    · rintro _ ⟨⟩
    · rintro _ ⟨⟩

theorem Standard.override {r r' : Registry} (hr : r.Standard) {name : String} {o : Override}
    (h : r.override name o = .ok r') : r'.Standard := by
  unfold Registry.override at h
  split at h
  · next hget =>
    cases h
    exact hr.insert ((hr _ _ hget).apply o)
  · cases h
    exact hr.insert ((Capabilities.standard_native _ _).apply o)
  · cases h

theorem Standard.of_find {r : Registry} (hr : r.Standard) {text : String} {c : Capabilities}
    (h : r.find text = .ok c) : c.Standard := by
  unfold find at h
  split at h
  · next hget =>
    cases h
    obtain ⟨name, -, hget⟩ := Option.bind_eq_some_iff.1 hget
    exact hr _ _ hget
  · cases h

end Registry

end SetQuery
