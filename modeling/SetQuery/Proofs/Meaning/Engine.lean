import Mathlib.Algebra.Group.Nat.Defs
import Mathlib.Data.Multiset.MapFold
import SetQuery.Expr
import SetQuery.Proofs.Schema.Alignment

/-!
# Values and rows

What a backend does with values is known only by its laws. An `Engine` casts values between types
and orders them. Casting along the widening rules loses nothing: it may be done in one step or in
several (`cast_cast`), and no two values become one (`cast_injective`).

A row gives a value to each column name; names that a schema lacks have the null. `Conforms` says
that the values of a row have the types of a schema, and `conform` casts a row to a schema.

Two engines show that the laws hold of real values: `Engine.integers` has integers of any type as
numbers, and `Engine.words` has them as words of bits, which a cast makes wider.
-/

namespace SetQuery

/-- How a backend computes with values. -/
structure Engine (V : Type) where
  null : V
  /-- The value of a row number. -/
  number : Nat → V
  /-- Whether a value belongs to a type. -/
  fits : SqlType → V → Prop
  cast : SqlType → V → V
  /-- Whether a value may stand before another, in ascending order or not. -/
  precedes : Bool → V → V → Prop
  number_injective : Function.Injective number
  cast_of_fits {t : SqlType} {v : V} : fits t v → cast t v = v
  fits_cast {a b : SqlType} {v : V} : fits a v → a.Widens b → fits b (cast b v)
  cast_cast {a b c : SqlType} {v : V} :
    fits a v → a.Widens b → b.Widens c → cast c (cast b v) = cast c v
  cast_injective {a b : SqlType} {v w : V} :
    fits a v → fits a w → a.Widens b → cast b v = cast b w → v = w
  precedes_total (ascending : Bool) (v w : V) : precedes ascending v w ∨ precedes ascending w v
  precedes_trans {ascending : Bool} {u v w : V} :
    precedes ascending u v → precedes ascending v w → precedes ascending u w

/-- The value of each column. -/
abbrev Row (V : Type) := String → V

noncomputable instance {V : Type} : DecidableEq (Row V) := Classical.decEq _

/-- So many elements after so many have been skipped. -/
def page {α : Type} (most skipped : Option Nat) (l : List α) : List α :=
  match most with
  | some n => (l.drop (skipped.getD 0)).take n
  | none => l.drop (skipped.getD 0)

theorem map_page {α β : Type} (f : α → β) (most skipped : Option Nat) (l : List α) :
    (page most skipped l).map f = page most skipped (l.map f) := by
  cases most <;> simp [page, List.map_take, List.map_drop]

theorem mem_of_mem_page {α : Type} {most skipped : Option Nat} {l : List α} {x : α}
    (h : x ∈ page most skipped l) : x ∈ l := by
  cases most with
  | none => exact List.mem_of_mem_drop h
  | some n => exact List.mem_of_mem_drop (List.mem_of_mem_take h)

namespace Engine

variable {V : Type} (E : Engine V)

/-! ## Orderings -/

/-- Whether a row may stand before another in the order of the keys. -/
def NotAfter : List SortKey → Row V → Row V → Prop
  | [], _, _ => True
  | key :: keys, r, s => E.precedes key.ascending (r key.column) (s key.column) ∧
      (E.precedes key.ascending (s key.column) (r key.column) → NotAfter keys r s)

theorem notAfter_total (keys : List SortKey) (r s : Row V) :
    E.NotAfter keys r s ∨ E.NotAfter keys s r := by
  induction keys with
  | nil => exact .inl trivial
  | cons key keys ih =>
    by_cases hr : E.precedes key.ascending (r key.column) (s key.column)
    · by_cases hs : E.precedes key.ascending (s key.column) (r key.column)
      · exact ih.imp (fun h => ⟨hr, fun _ => h⟩) fun h => ⟨hs, fun _ => h⟩
      · exact .inl ⟨hr, fun h => absurd h hs⟩
    · have hs := (E.precedes_total key.ascending _ _).resolve_left hr
      exact .inr ⟨hs, fun h => absurd h hr⟩

theorem notAfter_trans {keys : List SortKey} {r s t : Row V} (hrs : E.NotAfter keys r s)
    (hst : E.NotAfter keys s t) : E.NotAfter keys r t := by
  induction keys with
  | nil => trivial
  | cons key keys ih =>
    obtain ⟨hrs, hrs'⟩ := hrs
    obtain ⟨hst, hst'⟩ := hst
    refine ⟨E.precedes_trans hrs hst, fun htr => ih (hrs' ?_) (hst' ?_)⟩
    · exact E.precedes_trans hst htr
    · exact E.precedes_trans htr hrs

theorem exists_arrangement (keys : List SortKey) (rows : Multiset (Row V)) :
    ∃ listed : List (Row V), (listed : Multiset (Row V)) = rows ∧
      listed.Pairwise (E.NotAfter keys) := by
  classical
  induction rows using Quotient.inductionOn with
  | h l =>
    let le : Row V → Row V → Bool := fun r s => decide (E.NotAfter keys r s)
    have htrans : ∀ r s t, le r s = true → le s t = true → le r t = true := fun r s t hrs hst =>
      decide_eq_true (E.notAfter_trans (of_decide_eq_true hrs) (of_decide_eq_true hst))
    have htotal : ∀ r s, (le r s || le s r) = true := fun r s => by
      simpa [le] using E.notAfter_total keys r s
    exact ⟨_, Quotient.sound (List.mergeSort_perm l le),
      (List.pairwise_mergeSort htrans htotal l).imp of_decide_eq_true⟩

/-- The rows that are left of others when they are ordered by keys, some are skipped and so many of
the rest are kept. Rows that the keys do not tell apart stand in any order. -/
def Takes (keys : List SortKey) (most skipped : Option Nat) (rows kept : Multiset (Row V)) : Prop :=
  ∃ listed : List (Row V), (listed : Multiset (Row V)) = rows ∧
    listed.Pairwise (E.NotAfter keys) ∧ kept = page most skipped listed

theorem exists_takes (keys : List SortKey) (most skipped : Option Nat) (rows : Multiset (Row V)) :
    ∃ kept, E.Takes keys most skipped rows kept := by
  obtain ⟨listed, hrows, hsorted⟩ := E.exists_arrangement keys rows
  exact ⟨_, listed, hrows, hsorted, rfl⟩

theorem mem_of_takes {keys : List SortKey} {most skipped : Option Nat}
    {rows kept : Multiset (Row V)} (h : E.Takes keys most skipped rows kept) {r : Row V}
    (hr : r ∈ kept) : r ∈ rows := by
  obtain ⟨listed, rfl, -, rfl⟩ := h
  exact mem_of_mem_page hr

/-- An ordering alone keeps all rows. -/
theorem takes_all_iff {keys : List SortKey} {rows kept : Multiset (Row V)} :
    E.Takes keys none none rows kept ↔ kept = rows := by
  constructor
  · rintro ⟨listed, rfl, -, rfl⟩
    rfl
  · rintro rfl
    obtain ⟨listed, rfl, hsorted⟩ := E.exists_arrangement keys kept
    exact ⟨listed, rfl, hsorted, rfl⟩

/-! ## Rows of a schema -/

/-- The row has no values but those of the names. -/
def Within (names : List String) (r : Row V) : Prop := ∀ name ∉ names, r name = E.null

/-- The values of the row have the types of the schema, and there are no others. -/
structure Conforms (s : Schema) (r : Row V) : Prop where
  fits : ∀ c ∈ s.columns, E.fits c.type (r c.name)
  within : E.Within s.names r

/-- The row with its values cast to the types of the schema. -/
def conform (s : Schema) (r : Row V) : Row V := fun name =>
  match s.find? name with
  | some c => E.cast c.type (r name)
  | none => E.null

variable {E} {s t u : Schema} {r r' : Row V}

theorem conform_of_mem {c : Column} (hc : c ∈ s.columns) :
    E.conform s r c.name = E.cast c.type (r c.name) := by
  rw [conform, Schema.find?_eq_some_iff.2 ⟨hc, rfl⟩]

theorem conform_of_notMem {name : String} (h : name ∉ s.names) : E.conform s r name = E.null := by
  unfold conform
  split
  · next c hc => exact absurd (Schema.mem_names.2 ⟨c, Schema.find?_eq_some_iff.1 hc⟩) h
  · rfl

/-- Rows are equal if they agree inside and outside of a schema. -/
theorem row_ext (s : Schema) (hin : ∀ c ∈ s.columns, r c.name = r' c.name)
    (hout : ∀ name ∉ s.names, r name = r' name) : r = r' := by
  funext name
  by_cases h : name ∈ s.names
  · obtain ⟨c, hc, rfl⟩ := Schema.mem_names.1 h
    exact hin c hc
  · exact hout name h

end Engine

theorem Schema.Widens.exists_column {s t : Schema} (h : s.Widens t) {d : Column}
    (hd : d ∈ t.columns) : ∃ c ∈ s.columns, c.name = d.name ∧ c.type.Widens d.type := by
  obtain ⟨c, hc, hname⟩ := mem_names.1 ((h.names _).2 (mem_names.2 ⟨d, hd, rfl⟩))
  exact ⟨c, hc, hname, h.types c hc d hd hname⟩

namespace Engine.Conforms

variable {V : Type} {E : Engine V} {s t u : Schema} {r r' : Row V}

/-- The value of a column in the wider schema, with the narrower type that it has. -/
theorem exists_fits (hr : E.Conforms s r) (h : s.Widens t) {d : Column} (hd : d ∈ t.columns) :
    ∃ type, E.fits type (r d.name) ∧ type.Widens d.type := by
  obtain ⟨c, hc, hname, hw⟩ := h.exists_column hd
  exact ⟨c.type, hname ▸ hr.fits c hc, hw⟩

theorem conform (hr : E.Conforms s r) (h : s.Widens t) : E.Conforms t (E.conform t r) where
  fits d hd := by
    obtain ⟨type, hfits, hw⟩ := hr.exists_fits h hd
    rw [conform_of_mem hd]
    exact E.fits_cast hfits hw
  within _ hname := conform_of_notMem hname

theorem conform_self (hr : E.Conforms s r) : E.conform s r = r := by
  refine row_ext s (fun c hc => ?_) fun name hname => ?_
  · rw [conform_of_mem hc, E.cast_of_fits (hr.fits c hc)]
  · rw [conform_of_notMem hname, hr.within name hname]

/-- Casting to a schema between is no loss. -/
theorem conform_conform (hr : E.Conforms s r) (hst : s.Widens t) (htu : t.Widens u) :
    E.conform u (E.conform t r) = E.conform u r := by
  refine row_ext u (fun e he => ?_) fun name hname => ?_
  · obtain ⟨d, hd, hname, htype⟩ := htu.exists_column he
    obtain ⟨type, hfits, hw⟩ := hr.exists_fits hst hd
    rw [conform_of_mem he, conform_of_mem he, ← hname, conform_of_mem hd,
      E.cast_cast hfits hw htype]
  · rw [conform_of_notMem hname, conform_of_notMem hname]

/-- No two rows become one. -/
theorem conform_injective (hr : E.Conforms s r) (hr' : E.Conforms s r') (h : s.Widens t)
    (heq : E.conform t r = E.conform t r') : r = r' := by
  refine row_ext s (fun c hc => ?_) fun name hname => ?_
  · obtain ⟨d, hd, hname⟩ := Schema.mem_names.1 ((h.names _).1 (Schema.mem_names.2 ⟨c, hc, rfl⟩))
    have hcast := congrFun heq d.name
    rw [conform_of_mem hd, conform_of_mem hd, hname] at hcast
    exact E.cast_injective (hr.fits c hc) (hr'.fits c hc) (h.types c hc d hd hname.symm) hcast
  · rw [hr.within name hname, hr'.within name hname]

end Engine.Conforms

/-! ## Numbers -/

namespace Engine

/-- The integers that fit below a bound in two's complement. -/
def Bounded (bound : Nat) (i : Int) : Prop := -(bound : Int) ≤ i ∧ i < bound

/-- The nulls and integers of a type. -/
def IntegerFits : SqlType → Option Int → Prop
  | _, none => True
  | .integer width, some i => Bounded (2 ^ (width.bits - 1)) i
  | .hugeInt, some i => Bounded (2 ^ 127) i
  | _, some _ => False

/-- Nulls stand before integers. -/
def IntegerLe : Option Int → Option Int → Prop
  | none, _ => True
  | some _, none => False
  | some i, some j => i ≤ j

theorem IntegerLe.total (v w : Option Int) : IntegerLe v w ∨ IntegerLe w v := by
  cases v with
  | none => exact .inl trivial
  | some i =>
    cases w with
    | none => exact .inr trivial
    | some j => exact Int.le_total i j

theorem IntegerLe.trans {u v w : Option Int} (huv : IntegerLe u v) (hvw : IntegerLe v w) :
    IntegerLe u w := by
  cases u with
  | none => trivial
  | some i =>
    cases v with
    | none => cases huv
    | some j =>
      cases w with
      | none => cases hvw
      | some k => exact Int.le_trans huv hvw

/-- Numbers stand in the order of a key, in which nulls are the least. -/
def KeyLe (ascending : Bool) (v w : Option Int) : Prop :=
  if ascending then IntegerLe v w else IntegerLe w v

theorem KeyLe.total (ascending : Bool) (v w : Option Int) :
    KeyLe ascending v w ∨ KeyLe ascending w v := by
  cases ascending with
  | true => exact IntegerLe.total v w
  | false => exact IntegerLe.total w v

theorem KeyLe.trans {ascending : Bool} {u v w : Option Int} (huv : KeyLe ascending u v)
    (hvw : KeyLe ascending v w) : KeyLe ascending u w := by
  cases ascending with
  | true => exact IntegerLe.trans huv hvw
  | false => exact IntegerLe.trans hvw huv

theorem Bounded.mono {m n : Nat} {i : Int} (h : Bounded m i) (hmn : m ≤ n) : Bounded n i := by
  obtain ⟨hlow, hhigh⟩ := h
  exact ⟨by omega, by omega⟩

theorem IntegerFits.widens {a b : SqlType} {v : Option Int} (h : IntegerFits a v)
    (hw : a.Widens b) : IntegerFits b v := by
  cases v with
  | none => cases b <;> trivial
  | some i =>
    cases hw with
    | refl => exact h
    | integer hbits =>
      exact h.mono (Nat.pow_le_pow_right (by decide) (Nat.sub_le_sub_right hbits 1))
    | hugeInt x => exact h.mono (Nat.pow_le_pow_right (by decide) (by cases x <;> decide))
    | _ => cases h

/-- Integers, for which a cast to a wider type changes nothing. -/
def integers : Engine (Option Int) where
  null := none
  number n := some n
  fits := IntegerFits
  cast _ v := v
  precedes := KeyLe
  number_injective _ _ h := Int.ofNat.inj (Option.some.inj h)
  cast_of_fits _ := rfl
  fits_cast h hw := h.widens hw
  cast_cast _ _ _ := rfl
  cast_injective _ _ _ h := h
  precedes_total := KeyLe.total
  precedes_trans := KeyLe.trans

end Engine

/-! ## Words of bits -/

/-- The number of bits of an integer type. -/
def SqlType.bits? : SqlType → Option Nat
  | .integer width => some width.bits
  | .hugeInt => some 128
  | _ => none

/-- A wider integer type has no fewer bits. -/
theorem SqlType.Widens.exists_bits {a b : SqlType} (h : a.Widens b) {m : Nat}
    (ha : a.bits? = some m) : ∃ n, b.bits? = some n ∧ m ≤ n := by
  cases h with
  | refl => exact ⟨m, ha, Nat.le_refl m⟩
  | integer hle =>
    cases ha
    exact ⟨_, rfl, hle⟩
  | hugeInt v =>
    cases ha
    exact ⟨128, rfl, by cases v <;> decide⟩
  | _ => cases ha

namespace Engine

/-- A null, a row number, or an integer in two's complement. -/
inductive Word
  | null
  | number (n : Nat)
  | bits (size : Nat) (value : BitVec size)
deriving DecidableEq

namespace Word

/-- A word belongs to the integer type of its size, and a null to every type. -/
inductive Fits (t : SqlType) : Word → Prop
  | null : Fits t .null
  | bits {size : Nat} (value : BitVec size) : t.bits? = some size → Fits t (.bits size value)

/-- The word in the size of the type, with copies of its sign in front. -/
def cast (t : SqlType) : Word → Word
  | .bits size value =>
    match t.bits? with
    | some wider => .bits wider (value.signExtend wider)
    | none => .bits size value
  | other => other

/-- The number that the word stands for. -/
def number? : Word → Option Int
  | .null => none
  | .number n => some n
  | .bits _ value => some value.toInt

theorem cast_bits {t : SqlType} {size wider : Nat} (h : t.bits? = some wider)
    (value : BitVec size) : cast t (.bits size value) = .bits wider (value.signExtend wider) := by
  simp only [cast, h]

/-- A cast to a wider type keeps the number. -/
theorem Fits.number?_cast {a b : SqlType} {v : Word} (h : Fits a v) (hw : a.Widens b) :
    (cast b v).number? = v.number? := by
  cases h with
  | null => rfl
  | bits value ha =>
    obtain ⟨wider, hb, hle⟩ := hw.exists_bits ha
    rw [cast_bits hb, number?, number?, BitVec.toInt_signExtend_of_le hle]

theorem Fits.cast {a b : SqlType} {v : Word} (h : Fits a v) (hw : a.Widens b) :
    Fits b (cast b v) := by
  cases h with
  | null => exact .null
  | bits value ha =>
    obtain ⟨wider, hb, -⟩ := hw.exists_bits ha
    rw [cast_bits hb]
    exact .bits _ hb

/-- Words of one type are known by their numbers. -/
theorem Fits.eq_of_number? {t : SqlType} {v w : Word} (hv : Fits t v) (hw : Fits t w)
    (h : v.number? = w.number?) : v = w := by
  cases hv with
  | null =>
    cases hw with
    | null => rfl
    | bits => cases h
  | bits value ht =>
    cases hw with
    | null => cases h
    | bits value' ht' =>
      obtain rfl := Option.some.inj (ht.symm.trans ht')
      rw [BitVec.eq_of_toInt_eq (Option.some.inj h)]

end Word

/-- Integers in words, which a cast to a wider type fills up with their signs. -/
def words : Engine Word where
  null := .null
  number := .number
  fits := Word.Fits
  cast := Word.cast
  precedes ascending v w := KeyLe ascending v.number? w.number?
  number_injective _ _ h := Word.number.inj h
  cast_of_fits h := (h.cast (.refl _)).eq_of_number? h (h.number?_cast (.refl _))
  fits_cast h hw := h.cast hw
  cast_cast h hab hbc := by
    refine ((h.cast hab).cast hbc).eq_of_number? (h.cast (hab.trans hbc)) ?_
    rw [(h.cast hab).number?_cast hbc, h.number?_cast hab, h.number?_cast (hab.trans hbc)]
  cast_injective hv hw hab h := by
    refine hv.eq_of_number? hw ?_
    rw [← hv.number?_cast hab, ← hw.number?_cast hab, h]
  precedes_total ascending v w := KeyLe.total ascending v.number? w.number?
  precedes_trans := KeyLe.trans

/-- A cast to a wider type makes another word of a negative number. -/
example : words.cast (.integer .i32) (.bits 16 0xFFFE#16) = .bits 32 0xFFFFFFFE#32 := by decide

end Engine

end SetQuery
