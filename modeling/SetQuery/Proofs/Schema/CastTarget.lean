import SetQuery.Proofs.Schema.Canonical
import SetQuery.Proofs.SqlType.Nesting
import SetQuery.Resolved

/-!
# What columns are cast to

A column is cast where its type differs from the canonical one. The canonical type is then strictly
wider, and only few types are wider than another: `SqlType.CastsTo` says that both types are arrays
of the same depth over scalars, the wider of which is one of those few (`CastsTo.of_widens`).

Main statements: `align_casts` (every cast that an alignment asks for is one of these) and
`castsTo_of_mem_columnReads` (so is every cast with which an operand is read).
-/

namespace SetQuery

namespace SqlType

/-- The scalar types that are wider than another type. -/
inductive IsWider : SqlType → Prop
  | integer {width : IntWidth} : width ≠ .i8 → IsWider (.integer width)
  | hugeInt : IsWider .hugeInt
  | double : IsWider (.float .double)
  | decimal (precision : UInt16) (scale : Option UInt16) : IsWider (.decimal (some precision) scale)
  | text (maxLength : Option UInt32) : IsWider (.text maxLength)

theorem IsWider.isScalar {t : SqlType} (h : IsWider t) : t.IsScalar := by
  intro element heq
  cases h <;> cases heq

/-- A column of the first type may be cast to the second, which is strictly wider. -/
structure CastsTo (a b : SqlType) : Prop where
  widen_eq : a.widen b = some b
  ne : a ≠ b
  shape : ∃ depth x y, a = arrayOf depth x ∧ b = arrayOf depth y ∧ x.IsScalar ∧ y.IsWider

/-- **What is strictly wider has a known name.** -/
theorem CastsTo.of_widens {a b : SqlType} (h : a.Widens b) (hne : a ≠ b) : a.CastsTo b where
  widen_eq := widens_iff_widen_eq_some.1 h
  ne := hne
  shape := by
    induction h with
    | refl a => exact absurd rfl hne
    | @integer v w hle =>
      refine ⟨0, .integer v, .integer w, rfl, rfl, nofun, .integer ?_⟩
      rintro rfl
      cases v with
      | i8 => exact hne rfl
      | _ => exact absurd hle (by decide)
    | hugeInt v => exact ⟨0, .integer v, .hugeInt, rfl, rfl, nofun, .hugeInt⟩
    | float => exact ⟨0, _, _, rfl, rfl, nofun, .double⟩
    | decimal _ => exact ⟨0, _, _, rfl, rfl, nofun, .decimal _ _⟩
    | text _ => exact ⟨0, _, _, rfl, rfl, nofun, .text _⟩
    | unbounded m => exact ⟨0, _, _, rfl, rfl, nofun, .text none⟩
    | array _ ih =>
      obtain ⟨depth, x, y, rfl, rfl, hx, hy⟩ := ih fun heq => hne (congrArg array heq)
      exact ⟨depth + 1, x, y, rfl, rfl, hx, hy⟩

/-- Nothing is cast to an unknown type, or to arrays of one. -/
theorem CastsTo.ne_unknown {a b : SqlType} (h : a.CastsTo b) (depth : Nat) (name : String) :
    b ≠ arrayOf depth (.unknown name) := by
  obtain ⟨depth', x, y, -, rfl, -, hy⟩ := h.shape
  intro heq
  have hunknown : IsScalar (.unknown name) := nofun
  obtain ⟨-, rfl⟩ := (arrayOf_eq_arrayOf_iff hy.isScalar hunknown).1 heq
  cases hy

end SqlType

open SqlType

/-! ## The casts of an alignment -/

/-- **A column that needs a cast has a strictly narrower type.** -/
theorem align_casts {schemas : List Schema} {a : Alignment} (h : align schemas = .ok a)
    {i pos : Nat} {s : Schema} {o : OperandAlignment} (hs : schemas[i]? = some s)
    (ho : a.operands[i]? = some o) (hcast : (o.casts a.canonical)[pos]? = some true) :
    ∃ x ∈ s.columns, ∃ c, a.canonical.columns[pos]? = some c ∧ x.name = c.name ∧
      o.declared[pos]? = some x.type ∧ x.type.CastsTo c.type := by
  cases schemas with
  | nil => cases hs
  | cons first rest =>
    obtain ⟨hne, hmerges, hoperands⟩ := align_cons_eq_ok_iff.1 h
    have hwidens := (alignsTo_cons_iff.2 ⟨hne, hmerges⟩).widens s (List.mem_of_getElem? hs)
    obtain rfl : o = .ofSchema a.canonical s := by
      rw [hoperands, List.getElem?_map, hs] at ho
      exact (Option.some.inj ho).symm
    rw [OperandAlignment.casts_ofSchema hwidens.names, List.getElem?_ofFn] at hcast
    split at hcast
    · next hpos =>
      have hdiffers := bne_iff_ne.1 (Option.some.inj hcast)
      have hname := Schema.name_matching hwidens.names
        ((Schema.matching hwidens.names).symm ⟨pos, hpos⟩)
      rw [Equiv.apply_symm_apply] at hname
      refine ⟨_, s.columnAt_mem _, _, List.getElem?_eq_getElem hpos, hname.symm, ?_,
        .of_widens (hwidens.types _ (s.columnAt_mem _) _ (a.canonical.columnAt_mem ⟨pos, hpos⟩)
          hname.symm) hdiffers⟩
      rw [OperandAlignment.declared_ofSchema hwidens.names, List.getElem?_ofFn, dif_pos hpos]
    · cases hcast

/-- So has one that is cast when an operand is read. -/
theorem castsTo_of_mem_columnReads {canonical s : Schema} (h : s.Widens canonical)
    {read : ColumnRead} (hread : read ∈ columnReads canonical s) {declared target : SqlType}
    (hcast : read.cast = some (declared, target)) : declared.CastsTo target := by
  obtain ⟨c, hc, rfl⟩ := List.mem_map.1 hread
  split at hcast
  · next x hfind =>
    obtain ⟨hx, hname⟩ := Schema.find?_eq_some_iff.1 hfind
    split at hcast
    · cases hcast
    · next hne =>
      cases hcast
      exact .of_widens (h.types x hx c hc hname) hne
  · cases hcast

end SetQuery
