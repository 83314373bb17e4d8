import SetQuery.Json.Reader
import SetQuery.Proofs.Except

/-!
# Written values are read back

A number below its bound, an optional value and a named alternative are read as what was written.

A record is read member by member. It is read exactly when each field is there once at most and all
of them can be read (`count_le_of_readFields`, `exists_readFields`), and what a field sets is what
its one member is read as (`reads_of_readFields`).
-/

namespace SetQuery.Json

theorem found_int {n : Nat} (h : n < UInt64.size) : found (.int n) = .integer n := by
  have hlow : -(UInt64.size / 2 : Int) ≤ n := by
    have : (0 : Int) ≤ UInt64.size / 2 := by decide
    omega
  have hhigh : (n : Int) < (UInt64.size : Int) := Int.ofNat_lt.2 h
  rw [found, if_pos ⟨hlow, hhigh⟩]

theorem readNat_int {bound n : Nat} (h : n < bound) (hbound : bound ≤ UInt64.size)
    (kind : String) : readNat bound kind (.int n) = .ok n := by
  have hrange : (0 : Int) ≤ n ∧ (n : Int) < (bound : Int) :=
    ⟨Int.natCast_nonneg n, Int.ofNat_lt.2 h⟩
  have hfound := found_int (Nat.lt_of_lt_of_le h hbound)
  rw [readNat.eq_def, hfound]
  exact (if_pos hrange).trans (congrArg Except.ok (Int.toNat_natCast n))

theorem readString_string (s : String) : readString (.string s) = .ok s := rfl

/-- An alternative is read from its bare name. -/
theorem readName_string {α : Type} {options : List (String × α)} {name : String} {value : α}
    (h : options.lookup name = some value) : readName options (.string name) = .ok value := by
  simp only [readName, alternative, h]

section

variable {α : Type} {read : Json → Except ShapeError α} {write : α → Json}

/-- A value that may be absent is read back, if what is written for it is never null. -/
theorem readOption_ofOption (hread : ∀ a, read (write a) = .ok a) (hnull : ∀ a, write a ≠ .null)
    (value : Option α) : readOption read (ofOption write value) = .ok value := by
  cases value with
  | none => rfl
  | some a =>
    rw [ofOption, readOption]
    · rw [hread]
      rfl
    · exact hnull a

end

/-! ## Records -/

section

variable {σ : Type} {fields : List (RecordField σ)} {seen : List String} {record record' : σ}
  {members : List (String × Json)}

/-- A member is passed over, or it is that of a field, which was not read before. -/
theorem readFields_cons_eq_ok_iff {name : String} {value : Json} :
    readFields fields seen record ((name, value) :: members) = .ok record' ↔
      fields.find? (·.name = name) = none ∧ readFields fields seen record members = .ok record' ∨
      ∃ field, fields.find? (·.name = name) = some field ∧ name ∉ seen ∧
        ∃ next, field.read record value = .ok next ∧
          readFields fields (name :: seen) next members = .ok record' := by
  rw [readFields]
  cases hfind : fields.find? (·.name = name) with
  | none => simp
  | some field =>
    by_cases hseen : name ∈ seen
    · simp [hseen]
    · simp [hseen, Except.bind_eq_ok_iff]

/-- The member of a field that was not read before is put into the record. -/
theorem readFields_cons {α : Type} {name : String} {read : Json → Except ShapeError α}
    {put : σ → α → σ} {value : Json} {a : α}
    (hfield : fields.find? (·.name = name) = some (.of name read put)) (hseen : name ∉ seen)
    (hread : read value = .ok a)
    (hrest : readFields fields (name :: seen) (put record a) members = .ok record') :
    readFields fields seen record ((name, value) :: members) = .ok record' :=
  readFields_cons_eq_ok_iff.2
    (.inr ⟨_, hfield, hseen, _, Except.map_eq_ok_iff.2 ⟨a, hread, rfl⟩, hrest⟩)

theorem name_of_find? {name : String} {field : RecordField σ}
    (h : fields.find? (·.name = name) = some field) : field.name = name := by
  simpa using List.find?_some h

theorem name_ne_of_find? {name : String} (h : fields.find? (·.name = name) = none)
    {field : RecordField σ} (hfield : field ∈ fields) : name ≠ field.name := by
  have hname : ¬field.name = name := by simpa using List.find?_eq_none.1 h field hfield
  exact Ne.symm hname

/-- A field that is read is there once, and not again if it was read before. -/
theorem count_le_of_readFields (h : readFields fields seen record members = .ok record')
    {field : RecordField σ} (hfield : field ∈ fields) :
    (members.map (·.1)).count field.name ≤ if field.name ∈ seen then 0 else 1 := by
  induction members generalizing seen record with
  | nil => exact Nat.zero_le _
  | cons member members ih =>
    obtain ⟨name, value⟩ := member
    rw [List.map_cons, List.count_cons]
    obtain ⟨hnone, h⟩ | ⟨-, -, hseen, next, -, h⟩ := readFields_cons_eq_ok_iff.1 h
    · simpa [name_ne_of_find? hnone hfield] using ih h
    · have hcount := ih h
      by_cases hname : name = field.name
      · subst hname
        simpa [hseen] using hcount
      · simpa [hname, Ne.symm hname] using hcount

/-- A member that is there once is the one that is found. -/
theorem lookup_eq_some_of_mem {name : String} {value : Json}
    (hcount : (members.map (·.1)).count name ≤ 1) (h : (name, value) ∈ members) :
    members.lookup name = some value := by
  induction members with
  | nil => cases h
  | cons member members ih =>
    obtain ⟨name', value'⟩ := member
    rw [List.map_cons, List.count_cons] at hcount
    by_cases hname : name = name'
    · subst hname
      obtain h | h := List.mem_cons.1 h
      · cases h
        simp
      · have hpos : 0 < (members.map (·.1)).count name :=
          List.count_pos_iff.2 (List.mem_map_of_mem h)
        simp only [beq_self_eq_true, if_true] at hcount
        omega
    · have hmem : (name, value) ∈ members :=
        (List.mem_cons.1 h).resolve_left fun heq => hname (congrArg Prod.fst heq)
      rw [List.lookup_cons, beq_eq_false_iff_ne.2 hname]
      exact ih (Nat.le_trans (Nat.le_add_right _ _) hcount) hmem

/-- A record is read if every field is there once at most and all its members can be read. -/
theorem exists_readFields
    (hcount : ∀ field ∈ fields,
      (members.map (·.1)).count field.name ≤ if field.name ∈ seen then 0 else 1)
    (hread : ∀ field ∈ fields, ∀ value, (field.name, value) ∈ members →
      ∀ record, ∃ next, field.read record value = .ok next) :
    ∃ record', readFields fields seen record members = .ok record' := by
  induction members generalizing seen record with
  | nil => exact ⟨record, rfl⟩
  | cons member members ih =>
    obtain ⟨name, value⟩ := member
    simp only [List.map_cons, List.count_cons] at hcount
    have hreads : ∀ field ∈ fields, ∀ value, (field.name, value) ∈ members →
        ∀ record, ∃ next, field.read record value = .ok next :=
      fun field hfield value hmem => hread field hfield value (List.mem_cons_of_mem _ hmem)
    simp only [readFields_cons_eq_ok_iff]
    cases hfind : fields.find? (·.name = name) with
    | none =>
      have hrest : ∀ field ∈ fields,
          (members.map (·.1)).count field.name ≤ if field.name ∈ seen then 0 else 1 :=
        fun field hfield => Nat.le_trans (Nat.le_add_right _ _) (hcount field hfield)
      exact (ih hrest hreads).imp fun record' h => .inl ⟨rfl, h⟩
    | some field =>
      have hfield := List.mem_of_find?_eq_some hfind
      obtain rfl := name_of_find? hfind
      obtain ⟨next, hnext⟩ := hread field hfield value List.mem_cons_self record
      have hseen : field.name ∉ seen := fun hmem => by
        simpa [hmem] using hcount field hfield
      have hrest : ∀ other ∈ fields, (members.map (·.1)).count other.name ≤
          if other.name ∈ field.name :: seen then 0 else 1 := by
        intro other hother
        have hother := hcount other hother
        by_cases hname : field.name = other.name
        · simpa [← hname, hseen] using hother
        · simpa [hname, Ne.symm hname] using hother
      exact (ih hrest hreads).imp fun record' h => .inr ⟨field, rfl, hseen, next, hnext, h⟩

/-! ## Members -/

/-- What is read from the member of a name, if the object has one. -/
inductive Reads {α : Type} (read : Json → Except ShapeError α) (object : Json) (name : String) :
    Option α → Prop
  | absent : object.member? name = none → Reads read object name none
  | present {value : Json} {a : α} : object.member? name = some value → read value = .ok a →
      Reads read object name (some a)

theorem Reads.unique {α : Type} {read : Json → Except ShapeError α} {object : Json} {name : String}
    {a b : Option α} (ha : Reads read object name a) (hb : Reads read object name b) : a = b := by
  cases ha with
  | absent ha =>
    cases hb with
    | absent => rfl
    | present hb => rw [ha] at hb; cases hb
  | present ha ha' =>
    cases hb with
    | absent hb => rw [ha] at hb; cases hb
    | present hb hb' =>
      rw [ha] at hb
      cases hb
      rw [ha'] at hb'
      rw [Except.ok.inj hb']

/-- Members of other names are not looked at. -/
theorem Reads.cons {α : Type} {read : Json → Except ShapeError α} {name other : String}
    {a : Option α} (h : Reads read (.object members) name a) (hname : name ≠ other)
    (value : Json) : Reads read (.object ((other, value) :: members)) name a := by
  have hmember : (object ((other, value) :: members)).member? name =
      (object members).member? name := by
    simp only [member?, List.lookup_cons, beq_eq_false_iff_ne.2 hname]
  cases h with
  | absent hnone => exact .absent (hmember.trans hnone)
  | present hsome ha => exact .present (hmember.trans hsome) ha

section

variable {α β : Type} {name : String} {read : Json → Except ShapeError α} {put : σ → α → σ}
  {get : σ → β}

/-- A member that is there once can be read, if what is found under its name can be. -/
theorem Reads.exists_read {a : Option α} (h : Reads read (.object members) name a)
    (hcount : (members.map (·.1)).count name ≤ 1) {value : Json} (hmem : (name, value) ∈ members)
    (put : σ → α → σ) (record : σ) :
    ∃ next, (RecordField.of name read put).read record value = .ok next := by
  have hlookup : (object members).member? name = some value := lookup_eq_some_of_mem hcount hmem
  cases h with
  | absent hnone =>
    rw [hlookup] at hnone
    cases hnone
  | @present value' a hsome ha =>
    rw [hlookup] at hsome
    cases hsome
    exact ⟨put record a, Except.map_eq_ok_iff.2 ⟨a, ha, rfl⟩⟩

/-- A field leaves the parts of a record alone that its value is not put into. -/
theorem get_of_read_of (hput : ∀ r a, get (put r a) = get r) {value : Json}
    (h : (RecordField.of name read put).read record value = .ok record') :
    get record' = get record := by
  obtain ⟨a, -, rfl⟩ := Except.map_eq_ok_iff.1 h
  exact hput record a

/-- No field but that of the name changes the part of a record. -/
def OnlyChangedBy (fields : List (RecordField σ)) (get : σ → β) (name : String) : Prop :=
  ∀ field ∈ fields, field.name ≠ name →
    ∀ record value record', field.read record value = .ok record' → get record' = get record

/-- What no other field changes stays as it is once its own field has been read. -/
theorem get_of_readFields_of_mem
    (hframe : OnlyChangedBy fields get name)
    (h : readFields fields seen record members = .ok record') (hseen : name ∈ seen) :
    get record' = get record := by
  induction members generalizing seen record with
  | nil =>
    cases h
    rfl
  | cons member members ih =>
    obtain ⟨name', value⟩ := member
    obtain ⟨-, h⟩ | ⟨other, hother, hnew, next, hnext, h⟩ := readFields_cons_eq_ok_iff.1 h
    · exact ih h hseen
    · have hname : other.name ≠ name := by
        rw [name_of_find? hother]
        exact Ne.symm (ne_of_mem_of_not_mem hseen hnew)
      rw [ih h (List.mem_cons_of_mem _ hseen),
        hframe other (List.mem_of_find?_eq_some hother) hname _ _ _ hnext]

/-- A part of a record that one field sets and no other changes is what that field is read as. -/
theorem reads_of_readFields (get : σ → β) (set : α → β)
    (hfield : fields.find? (·.name = name) = some (.of name read put))
    (hput : ∀ r a, get (put r a) = set a)
    (hframe : OnlyChangedBy fields get name)
    (h : readFields fields seen record members = .ok record') (hseen : name ∉ seen) :
    ∃ a, Reads read (.object members) name a ∧ get record' = a.elim (get record) set := by
  induction members generalizing seen record with
  | nil =>
    cases h
    exact ⟨none, .absent rfl, rfl⟩
  | cons member members ih =>
    obtain ⟨name', value⟩ := member
    by_cases hname : name = name'
    · subst hname
      obtain ⟨hnone, -⟩ | ⟨field, hsome, -, next, hnext, h⟩ := readFields_cons_eq_ok_iff.1 h
      · rw [hfield] at hnone
        cases hnone
      · rw [hfield] at hsome
        cases hsome
        obtain ⟨a, ha, rfl⟩ := Except.map_eq_ok_iff.1 hnext
        refine ⟨some a, .present (by simp [member?]) ha, ?_⟩
        rw [get_of_readFields_of_mem hframe h List.mem_cons_self, hput, Option.elim_some]
    · obtain ⟨-, h⟩ | ⟨other, hother, -, next, hnext, h⟩ := readFields_cons_eq_ok_iff.1 h
      · obtain ⟨a, ha, hget⟩ := ih h hseen
        exact ⟨a, ha.cons hname value, hget⟩
      · obtain ⟨a, ha, hget⟩ := ih h (List.not_mem_cons_of_ne_of_not_mem hname hseen)
        have hother' : other.name ≠ name := by
          rw [name_of_find? hother]
          exact Ne.symm hname
        refine ⟨a, ha.cons hname value, ?_⟩
        rw [hget, hframe other (List.mem_of_find?_eq_some hother) hother' _ _ _ hnext]

end

end

end SetQuery.Json
