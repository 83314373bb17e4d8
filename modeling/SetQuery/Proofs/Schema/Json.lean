import SetQuery.Proofs.SqlType.Json
import SetQuery.Schema.Json

/-!
# Schemas are read back from JSON

Reading a schema is reading a list of columns and checking it, so data is no way around the check.
`FirstFault` says what the check finds: the first column, in the order of the list, that has no name
or has the name of a column in front of it.

**Theorem (`Column.ofJson_object_iff`).** An object stands for a column exactly when it has no field
twice and its members can be read as the parts of the column, in whichever order they stand.

**Theorem (`Schema.ofJson_exact`).** The JSON of a schema stands for the schema. A value stands for
a schema exactly when it lists the columns of the schema; and where a value lists columns that are
no schema, the first fault of the list is reported.
-/

namespace SetQuery

namespace Column

theorem readName_nullability (n : Nullability) :
    Json.readName Nullability.options (.string n.name) = .ok n := by
  cases n <;> rfl

/-- The JSON of a column stands for the column. -/
theorem ofJson_toJson (c : Column) : ofJson c.toJson = .ok c := by
  refine Except.bind_eq_ok_iff.2 ⟨⟨some c.name, some c.type, c.nullability⟩, ?_, rfl⟩
  refine Json.readFields_cons rfl List.not_mem_nil (Json.readString_string c.name) ?_
  refine Json.readFields_cons rfl (by simp) c.type.ofJson_toJson ?_
  exact Json.readFields_cons rfl (by simp) (readName_nullability c.nullability) rfl

/-- Each field changes its own part of a draft only. -/
theorem onlyChangedBy {β : Type} {get : Draft → β} {name : String}
    (hname : "name" ≠ name → ∀ (d : Draft) a, get { d with name := some a } = get d)
    (htype : "sql_type" ≠ name → ∀ (d : Draft) a, get { d with type := some a } = get d)
    (hnullability : "nullability" ≠ name →
      ∀ (d : Draft) a, get { d with nullability := a } = get d) :
    Json.OnlyChangedBy fields get name := by
  intro field hfield hne d value d' hread
  simp only [fields, List.mem_cons, List.not_mem_nil, or_false] at hfield
  obtain rfl | rfl | rfl := hfield
  · exact Json.get_of_read_of (hname hne) hread
  · exact Json.get_of_read_of (htype hne) hread
  · exact Json.get_of_read_of (hnullability hne) hread

/-- What is read into a draft from the members of an object. -/
theorem reads_of_readFields {members : List (String × Json)} {draft : Draft}
    (h : Json.readFields fields [] {} members = .ok draft) :
    Json.Reads Json.readString (.object members) "name" draft.name ∧
      Json.Reads SqlType.ofJson (.object members) "sql_type" draft.type ∧
      ∃ nullability, Json.Reads (Json.readName Nullability.options) (.object members) "nullability"
        nullability ∧ draft.nullability = nullability.getD .unknown := by
  obtain ⟨name, hname, hname'⟩ := Json.reads_of_readFields Draft.name some rfl (fun _ _ => rfl)
    (onlyChangedBy (fun h => absurd rfl h) (fun _ _ _ => rfl) fun _ _ _ => rfl) h List.not_mem_nil
  obtain ⟨type, htype, htype'⟩ := Json.reads_of_readFields Draft.type some rfl (fun _ _ => rfl)
    (onlyChangedBy (fun _ _ _ => rfl) (fun h => absurd rfl h) fun _ _ _ => rfl) h List.not_mem_nil
  obtain ⟨nullability, hnullability, hnullability'⟩ :=
    Json.reads_of_readFields Draft.nullability id rfl (fun _ _ => rfl)
      (onlyChangedBy (fun _ _ _ => rfl) (fun _ _ _ => rfl) fun h => absurd rfl h) h
      List.not_mem_nil
  rw [hname', htype', hnullability']
  refine ⟨?_, ?_, nullability, hnullability, ?_⟩
  · cases name <;> exact hname
  · cases type <;> exact htype
  · cases nullability <;> rfl

theorem ofMembers_eq_ok_iff {members : List (String × Json)} {c : Column} :
    ofMembers members = .ok c ↔
      Json.readFields fields [] {} members = .ok ⟨some c.name, some c.type, c.nullability⟩ := by
  constructor
  · intro h
    obtain ⟨draft, hdraft, h⟩ := Except.bind_eq_ok_iff.1 h
    split at h
    · cases h
      exact hdraft
    · cases h
    · cases h
  · exact fun h => Except.bind_eq_ok_iff.2 ⟨_, h, rfl⟩

/-- **Which objects stand for a column.** Each field is there once at most, a name and a type are
there and can be read, and so can the nullability if it is there. -/
theorem ofJson_object_iff {members : List (String × Json)} {c : Column} :
    ofJson (.object members) = .ok c ↔
      (∀ field ∈ fields, (members.map (·.1)).count field.name ≤ 1) ∧
        Json.Reads Json.readString (.object members) "name" (some c.name) ∧
        Json.Reads SqlType.ofJson (.object members) "sql_type" (some c.type) ∧
        ∃ nullability, Json.Reads (Json.readName Nullability.options) (.object members)
          "nullability" nullability ∧ c.nullability = nullability.getD .unknown := by
  constructor
  · intro h
    have hdraft := ofMembers_eq_ok_iff.1 h
    exact ⟨fun field hfield => by simpa using Json.count_le_of_readFields hdraft hfield,
      reads_of_readFields hdraft⟩
  · rintro ⟨hcount, hname, htype, nullability, hnullability, hn⟩
    obtain ⟨draft, hdraft⟩ : ∃ draft, Json.readFields fields [] {} members = .ok draft := by
      refine Json.exists_readFields (by simpa using hcount) fun field hfield value hmem d => ?_
      have hfield' := hcount field hfield
      simp only [fields, List.mem_cons, List.not_mem_nil, or_false] at hfield
      obtain rfl | rfl | rfl := hfield
      · exact hname.exists_read hfield' hmem _ d
      · exact htype.exists_read hfield' hmem _ d
      · exact hnullability.exists_read hfield' hmem _ d
    obtain ⟨hname', htype', nullability', hnullability', hn'⟩ := reads_of_readFields hdraft
    obtain rfl := hnullability.unique hnullability'
    refine ofMembers_eq_ok_iff.2 (hdraft.trans ?_)
    rw [hname.unique hname', htype.unique htype', hn, ← hn']

/-- A repeated name is refused, and what follows it is not looked at. -/
example : ofJson (.object [("name", .string "id"), ("name", .string "no"), ("sql_type", .null)]) =
    .error (.duplicateField "name") := rfl

end Column

namespace Schema

/-! ## The first fault -/

/-- The columns are those of a schema. -/
def AreColumns (columns : List Column) : Prop :=
  (columns.map (·.name)).Nodup ∧ ∀ c ∈ columns, c.name ≠ ""

/-- What is wrong with a list of columns at the first position where something is wrong. -/
inductive FirstFault : List Column → SchemaError → Prop
  | emptyName {front back : List Column} {c : Column} : AreColumns front → c.name = "" →
      FirstFault (front ++ c :: back) (.emptyName front.length)
  | duplicate {front back : List Column} {c : Column} : AreColumns front → c.name ≠ "" →
      c.name ∈ front.map (·.name) → FirstFault (front ++ c :: back) (.duplicate c.name)

theorem areColumns_iff {columns : List Column} :
    AreColumns columns ↔ firstFault [] 0 columns = none := by
  simp [AreColumns, firstFault_eq_none_iff]

section

variable {seen : List String} {position : Nat}

/-- Behind columns without a fault, the check goes on with their names and number. -/
theorem firstFault_append {front : List Column} (h : firstFault seen position front = none)
    (back : List Column) : firstFault seen position (front ++ back) =
      firstFault ((front.map (·.name)).reverse ++ seen) (position + front.length) back := by
  induction front generalizing seen position with
  | nil => rfl
  | cons c front ih =>
    simp only [firstFault] at h
    split at h
    · cases h
    · next hname =>
      split at h
      · cases h
      · next hseen =>
        rw [List.cons_append, firstFault, if_neg hname, if_neg hseen, ih h, List.map_cons,
          List.reverse_cons, List.append_assoc, List.singleton_append, List.length_cons,
          Nat.add_assoc, Nat.add_comm 1]

/-- A fault is found behind columns without one. -/
theorem exists_of_firstFault {columns : List Column} {fault : SchemaError}
    (h : firstFault seen position columns = some fault) :
    ∃ front c back, columns = front ++ c :: back ∧ firstFault seen position front = none ∧
      (c.name = "" ∧ fault = .emptyName (position + front.length) ∨
        c.name ≠ "" ∧ c.name ∈ (front.map (·.name)).reverse ++ seen ∧
          fault = .duplicate c.name) := by
  induction columns generalizing seen position with
  | nil => cases h
  | cons c columns ih =>
    simp only [firstFault] at h
    split at h
    · next hname => exact ⟨[], c, columns, rfl, rfl, .inl ⟨hname, (Option.some.inj h).symm⟩⟩
    · next hname =>
      split at h
      · next hseen =>
        exact ⟨[], c, columns, rfl, rfl, .inr ⟨hname, hseen, (Option.some.inj h).symm⟩⟩
      · next hseen =>
        obtain ⟨front, d, back, rfl, hfront, hfault⟩ := ih h
        refine ⟨c :: front, d, back, rfl, ?_, ?_⟩
        · rw [firstFault, if_neg hname, if_neg hseen, hfront]
        · rwa [List.length_cons, ← Nat.add_assoc, Nat.add_right_comm, List.map_cons,
            List.reverse_cons, List.append_assoc, List.singleton_append]

end

theorem firstFault_eq_some_iff {columns : List Column} {fault : SchemaError} :
    firstFault [] 0 columns = some fault ↔ FirstFault columns fault := by
  constructor
  · intro h
    obtain ⟨front, c, back, rfl, hfront, hfault⟩ := exists_of_firstFault h
    rw [Nat.zero_add, List.append_nil, List.mem_reverse] at hfault
    obtain ⟨hname, rfl⟩ | ⟨hname, hmem, rfl⟩ := hfault
    · exact .emptyName (areColumns_iff.2 hfront) hname
    · exact .duplicate (areColumns_iff.2 hfront) hname hmem
  · intro h
    cases h with
    | emptyName hfront hname =>
      rw [firstFault_append (areColumns_iff.1 hfront), firstFault, if_pos hname, Nat.zero_add]
    | duplicate hfront hname hmem =>
      rw [firstFault_append (areColumns_iff.1 hfront), firstFault, if_neg hname, List.append_nil,
        if_pos (List.mem_reverse.2 hmem)]

theorem ofColumns_eq_error_iff {columns : List Column} {fault : SchemaError} :
    ofColumns columns = .error fault ↔ FirstFault columns fault := by
  rw [← firstFault_eq_some_iff]
  unfold ofColumns
  split
  · next h => rw [h, Except.error.injEq, Option.some.injEq]
  · next h => simp [h]

theorem exists_ofColumns_iff {columns : List Column} :
    (∃ s, ofColumns columns = .ok s) ↔ AreColumns columns := by
  constructor
  · rintro ⟨s, h⟩
    obtain rfl := columns_of_ofColumns h
    exact ⟨s.nodup, s.named⟩
  · intro h
    exact ⟨⟨columns, h.1, h.2⟩, ofColumns_columns ⟨columns, h.1, h.2⟩⟩

/-! ## Reading -/

theorem columnsOfJson_toJson (s : Schema) : columnsOfJson s.toJson = .ok s.columns := by
  refine Except.mapM_eq_ok_iff.2 (List.forall₂_map_left_iff.2 ?_)
  exact List.forall₂_same.2 fun c _ => c.ofJson_toJson

/-- A value that lists columns is read as the check of the list says. -/
theorem ofJson_of_columnsOfJson {value : Json} {columns : List Column}
    (h : columnsOfJson value = .ok columns) :
    ofJson value = (ofColumns columns).mapError .schema := by
  rw [ofJson, h]

theorem ofJson_eq_ok_iff {value : Json} {s : Schema} :
    ofJson value = .ok s ↔ columnsOfJson value = .ok s.columns := by
  cases h : columnsOfJson value with
  | error fault => simp [ofJson, h]
  | ok columns =>
    rw [ofJson_of_columnsOfJson h, Except.mapError_eq_ok_iff, Except.ok.injEq]
    constructor
    · exact fun hs => (columns_of_ofColumns hs).symm
    · rintro rfl
      exact ofColumns_columns s

/-- **Schemas are read back from JSON, and data is no way around the check of a schema.** -/
theorem ofJson_exact :
    (∀ s : Schema, ofJson s.toJson = .ok s) ∧
      (∀ value s, ofJson value = .ok s ↔ columnsOfJson value = .ok s.columns) ∧
      ∀ value columns, columnsOfJson value = .ok columns →
        ((∃ s, ofJson value = .ok s) ↔
          (columns.map (·.name)).Nodup ∧ ∀ c ∈ columns, c.name ≠ "") ∧
        ∀ fault, ofJson value = .error fault ↔
          ∃ schemaFault, fault = .schema schemaFault ∧ FirstFault columns schemaFault := by
  refine ⟨fun s => ofJson_eq_ok_iff.2 s.columnsOfJson_toJson, fun _ _ => ofJson_eq_ok_iff,
    fun value columns h => ⟨?_, fun fault => ?_⟩⟩
  · simp only [ofJson_of_columnsOfJson h, Except.mapError_eq_ok_iff]
    exact exists_ofColumns_iff
  · rw [ofJson_of_columnsOfJson h]
    simp only [← ofColumns_eq_error_iff]
    cases ofColumns columns <;> simp [Except.mapError, eq_comm]

/-- Three columns, written in two forms, of which the second repeats a name and the third has
none. -/
def looseColumns : Json :=
  .array [.object [("name", .string "id"), ("sql_type", .string "Date")],
    .array [.string "id", SqlType.tagged "Array" (SqlType.tagged "Unknown" (.string "POINT"))],
    .object [("comment", .null), ("name", .string ""), ("sql_type", .string "Uuid")]]

/-- The repeated name is reported, because it comes first. -/
theorem looseColumns_refused :
    columnsOfJson looseColumns = .ok [⟨"id", .date, .unknown⟩,
        ⟨"id", .array (.unknown "POINT"), .unknown⟩, ⟨"", .uuid, .unknown⟩] ∧
      (¬ ∃ s, ofJson looseColumns = .ok s) ∧
      ofJson looseColumns = .error (.schema (.duplicate "id")) := by
  have hread : columnsOfJson looseColumns = .ok [⟨"id", .date, .unknown⟩,
      ⟨"id", .array (.unknown "POINT"), .unknown⟩, ⟨"", .uuid, .unknown⟩] := rfl
  obtain ⟨hschema, hfault⟩ := ofJson_exact.2.2 _ _ hread
  have hfront : AreColumns [⟨"id", .date, .unknown⟩] := by simp [AreColumns]
  exact ⟨hread, fun h => absurd (hschema.1 h) (by decide),
    (hfault _).2 ⟨_, rfl, .duplicate hfront (by decide) (by decide)⟩⟩

end Schema

end SetQuery
