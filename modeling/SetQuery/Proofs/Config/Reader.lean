import SetQuery.Capability
import SetQuery.Config.Reader
import SetQuery.Proofs.Text.LowerCase
import SetQuery.Proofs.Yaml.Reader

/-!
# Configurations that were read

A configuration that was read has normal names in ascending order and asks for no emulation that
does not exist.

**Theorem (`Config.wellFormed_of_ofYaml`).** Every configuration that is read is well-formed.
-/

namespace SetQuery

/-- The name is the normal form of a text. -/
def BackendName.Normal (name : BackendName) : Prop := ∃ text, ofText? text = some name

namespace Config

/-! ## The check -/

/-- What holds of a configuration that was read and checked. -/
structure WellFormed (config : Config) : Prop where
  ascending : config.backends.Ascending
  normal : ∀ name ∈ config.backends.names, BackendName.Normal ⟨name⟩
  checked : config.check = .ok config

/-- A check passes exactly when nothing is asked for that does not exist, and changes nothing. -/
theorem check_eq_ok_iff {config config' : Config} : config.check = .ok config' ↔
    config' = config ∧ ∀ entry ∈ config.backends.entries, badEmulation? entry.2 = none := by
  simp only [check]
  split
  · next fault hfault =>
    obtain ⟨entry, hentry, hbad⟩ := List.exists_of_findSome?_eq_some hfault
    constructor
    · intro h; cases h
    · rintro ⟨-, hnone⟩
      simp [hnone entry hentry] at hbad
  · next hfault =>
    have hnone : ∀ entry ∈ config.backends.entries, badEmulation? entry.2 = none := by
      simpa [List.findSome?_eq_none_iff] using hfault
    constructor
    · intro h; cases h; exact ⟨rfl, hnone⟩
    · rintro ⟨rfl, -⟩; rfl

/-! ## Reading -/

theorem normal_of_readBackendName {c : Yaml.Cursor} {text name : String}
    (h : readBackendName c text = .ok name) : BackendName.Normal ⟨name⟩ := by
  unfold readBackendName at h
  split at h
  · next hname =>
    obtain rfl := Except.ok.inj h
    exact ⟨text, hname⟩
  · cases h

/-- **Every configuration that is read is well-formed.** -/
theorem wellFormed_of_ofYaml {text : String} {config : Config} (h : ofYaml text = .ok config) :
    config.WellFormed := by
  simp only [ofYaml] at h
  split at h
  · cases h
  · next config' hread =>
    obtain ⟨rfl, -⟩ := check_eq_ok_iff.1 h
    obtain ⟨c, hread⟩ := Yaml.exists_of_read hread
    have hkeys : config.backends.Ascending ∧
        ∀ name ∈ config.backends.names, BackendName.Normal ⟨name⟩ := by
      refine Yaml.Cursor.of_readRecord (P := fun config : Config => config.backends.Ascending ∧
        ∀ name ∈ config.backends.names, BackendName.Normal ⟨name⟩) ?_ hread
        ⟨SortedMap.ascending_empty, fun _ hname => absurd hname List.not_mem_nil⟩
      intro field hfield config c config' hconfig hvalue
      simp only [fields, List.mem_cons, List.not_mem_nil, or_false] at hfield
      rcases hfield with rfl | rfl
      · obtain ⟨backends, hbackends, rfl⟩ := Except.map_eq_ok_iff.1 hvalue
        obtain ⟨hascending, hnames⟩ := Yaml.Cursor.of_readMapAs hbackends
        refine ⟨hascending, fun name hname => ?_⟩
        obtain ⟨c, text, hname⟩ := hnames name hname
        exact normal_of_readBackendName hname
      · obtain ⟨policy, -, rfl⟩ := Except.map_eq_ok_iff.1 hvalue
        exact hconfig
    exact ⟨hkeys.1, hkeys.2, h⟩

end Config

end SetQuery
