import SetQuery.Proofs.Except
import SetQuery.Proofs.SortedMap
import SetQuery.Yaml.Reader

/-!
# What readers return

A record is read field by field, so what every field keeps holds of the whole record
(`Cursor.of_readRecord`). A map is read entry by entry; it is in ascending order, and its names are
those that the reader of names gave (`Cursor.of_readMapAs`).
-/

namespace SetQuery.Yaml

theorem exists_of_read {α : Type} {reader : Reader α} {text : String} {value : α}
    (h : read reader text = .ok value) : ∃ c, reader c = .ok value := by
  simp only [read] at h
  split at h
  · cases h
  · next heq =>
    split at h
    · exact ⟨_, heq.trans h⟩
    · cases h

namespace Cursor

theorem unexpected_ne_ok {α : Type} (c : Cursor) (expected : String) (value : α) :
    c.unexpected expected ≠ .ok value := by
  intro h
  unfold unexpected at h
  split at h <;> cases h

/-! ## Maps -/

section Maps

variable {α : Type} {name : Cursor → String → Except Error String} {read : Reader α} {c : Cursor}

theorem of_mem_readEntries {entries : List (Node × Node)} {result : List (String × α)}
    (h : readEntries name read c entries = .ok result) :
    ∀ entry ∈ result, ∃ text, name c text = .ok entry.1 := by
  induction entries generalizing result with
  | nil =>
    obtain rfl := Except.ok.inj h
    exact fun _ hentry => absurd hentry List.not_mem_nil
  | cons entry entries ih =>
    obtain ⟨text, -, h⟩ := Except.bind_eq_ok_iff.1 h
    obtain ⟨key, hkey, h⟩ := Except.bind_eq_ok_iff.1 h
    obtain ⟨value, -, h⟩ := Except.bind_eq_ok_iff.1 h
    obtain ⟨rest, hrest, h⟩ := Except.bind_eq_ok_iff.1 h
    obtain rfl := Except.ok.inj h
    exact List.forall_mem_cons.2 ⟨⟨text, hkey⟩, ih hrest⟩

theorem of_readMapAs {m : SortedMap α} (h : readMapAs name read c = .ok m) :
    m.Ascending ∧ ∀ key ∈ m.names, ∃ c text, name c text = .ok key := by
  simp only [readMapAs] at h
  split at h
  · obtain ⟨entries, hentries, rfl⟩ := Except.map_eq_ok_iff.1 h
    refine ⟨SortedMap.ascending_ofList entries, fun key hkey => ?_⟩
    obtain ⟨entry, hentry, rfl⟩ := List.mem_map.1 hkey
    exact ⟨_, of_mem_readEntries hentries entry (SortedMap.mem_of_mem_ofList hentry)⟩
  · obtain rfl := Except.ok.inj h
    exact ⟨SortedMap.ascending_empty, fun _ hkey => absurd hkey List.not_mem_nil⟩
  · exact absurd h (unexpected_ne_ok _ _ _)

end Maps

/-! ## Records -/

section Records

variable {σ : Type} {P : σ → Prop} {fields : List (RecordField σ)} {c : Cursor}

theorem of_readFields (hfields : ∀ field ∈ fields, ∀ record c record', P record →
      field.read record c = .ok record' → P record')
    {entries : List (Node × Node)} {seen : List String} {record : σ} {result : List String × σ}
    (h : readFields fields c seen record entries = .ok result) (hrecord : P record) :
    P result.2 := by
  induction entries generalizing seen record with
  | nil =>
    obtain rfl := Except.ok.inj h
    exact hrecord
  | cons entry entries ih =>
    obtain ⟨name, -, h⟩ := Except.bind_eq_ok_iff.1 h
    split at h
    · cases h
    · next field hfield =>
      split at h
      · cases h
      · obtain ⟨record', hread, h⟩ := Except.bind_eq_ok_iff.1 h
        exact ih h (hfields field (List.mem_of_find?_eq_some hfield) _ _ _ hrecord hread)

theorem of_requireFields {seen : List String} {record record' : σ}
    (h : requireFields fields c seen record = .ok record') : record' = record := by
  unfold requireFields at h
  split at h
  · cases h
  · exact (Except.ok.inj h).symm

theorem of_readRecord (hfields : ∀ field ∈ fields, ∀ record c record', P record →
      field.read record c = .ok record' → P record')
    {title : String} {start record : σ} (h : readRecord title fields start c = .ok record)
    (hstart : P start) : P record := by
  simp only [readRecord] at h
  split at h
  · obtain ⟨result, hread, h⟩ := Except.bind_eq_ok_iff.1 h
    exact of_requireFields h ▸ of_readFields hfields hread hstart
  · exact of_requireFields h ▸ hstart
  · exact absurd h (unexpected_ne_ok _ _ _)

end Records

end Cursor

end SetQuery.Yaml
