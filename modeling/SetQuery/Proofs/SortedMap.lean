import Mathlib.Data.List.Basic
import Mathlib.Data.String.Basic
import SetQuery.SortedMap

/-!
# Laws of maps sorted by name

A map made by `insert` has its names in ascending order, so no two entries share one, and what is
found under a name is the one entry of that name.
-/

namespace SetQuery.SortedMap

variable {α : Type}

/-- The entries stand in ascending order of their names, without two of one name. -/
def Ascending (m : SortedMap α) : Prop := m.entries.Pairwise (·.1 < ·.1)

theorem ascending_empty : (empty : SortedMap α).Ascending := .nil

theorem mem_names_iff {m : SortedMap α} {name : String} :
    name ∈ m.names ↔ ∃ value, m.get? name = some value := by
  rw [← Option.isSome_iff_exists, get?, List.lookup_isSome_iff, names, List.mem_map]
  exact exists_congr fun entry => and_congr_right fun _ => eq_comm.trans beq_iff_eq.symm

theorem mem_of_get?_eq_some {m : SortedMap α} {name : String} {value : α}
    (h : m.get? name = some value) : (name, value) ∈ m.entries := by
  obtain ⟨before, after, heq, -⟩ := List.lookup_eq_some_iff.1 h
  exact heq ▸ List.mem_append_right _ List.mem_cons_self

theorem mem_insertEntry {name : String} {value : α} {entry : String × α}
    {entries : List (String × α)} (h : entry ∈ insertEntry name value entries) :
    entry = (name, value) ∨ entry ∈ entries := by
  induction entries with
  | nil => exact .inl (List.mem_singleton.1 h)
  | cons e rest ih =>
    simp only [insertEntry] at h
    split at h
    · exact (List.mem_cons.1 h).imp_right (List.mem_cons_of_mem _)
    · split at h
      · exact List.mem_cons.1 h
      · rcases List.mem_cons.1 h with rfl | h
        · exact .inr List.mem_cons_self
        · exact (ih h).imp_right (List.mem_cons_of_mem _)

theorem Ascending.insert {m : SortedMap α} (hm : m.Ascending) (name : String) (value : α) :
    (m.insert name value).Ascending := by
  obtain ⟨entries⟩ := m
  simp only [Ascending, SortedMap.insert] at hm ⊢
  induction entries with
  | nil => exact List.pairwise_singleton _ _
  | cons e rest ih =>
    obtain ⟨hhead, hrest⟩ := List.pairwise_cons.1 hm
    simp only [insertEntry]
    split
    · next heq => exact List.pairwise_cons.2 ⟨fun e' he' => heq ▸ hhead e' he', hrest⟩
    · next hne =>
      split
      · next hlt =>
        refine List.pairwise_cons.2 ⟨fun e' he' => ?_, hm⟩
        rcases List.mem_cons.1 he' with rfl | he'
        · exact hlt
        · exact hlt.trans (hhead e' he')
      · next hle =>
        refine List.pairwise_cons.2 ⟨fun e' he' => ?_, ih hrest⟩
        rcases mem_insertEntry he' with rfl | he'
        · exact lt_of_le_of_ne (not_lt.1 hle) (Ne.symm hne)
        · exact hhead e' he'

theorem ascending_ofList (entries : List (String × α)) : (ofList entries).Ascending :=
  List.foldlRecOn entries _ ascending_empty fun _ hm _ _ => hm.insert _ _

theorem mem_of_mem_ofList {entries : List (String × α)} {entry : String × α}
    (h : entry ∈ (ofList entries).entries) : entry ∈ entries := by
  refine List.foldlRecOn (motive := fun m : SortedMap α => ∀ e ∈ m.entries, e ∈ entries) entries _
    (fun _ he => absurd he List.not_mem_nil) (fun m hm inserted hinserted e he => ?_) entry h
  rcases mem_insertEntry he with rfl | he
  · exact hinserted
  · exact hm e he

end SetQuery.SortedMap
