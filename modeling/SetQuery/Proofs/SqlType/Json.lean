import SetQuery.Proofs.Except
import SetQuery.Proofs.Json.Reader
import SetQuery.SqlType.Json

/-!
# Types are read back from JSON

**Theorem (`SqlType.ofJson_toJson`).** The JSON of a type stands for the type. The induction is on
the nesting of arrays; all other types are read in one step.
-/

namespace SetQuery

theorem IntWidth.lookup_name (width : IntWidth) :
    IntWidth.options.lookup width.name = some width := by
  cases width <;> rfl

theorem FloatWidth.lookup_name (width : FloatWidth) :
    FloatWidth.options.lookup width.name = some width := by
  cases width <;> rfl

namespace SqlType

theorem readDigitCount_int (n : UInt16) : readDigitCount (.int n.toNat) = .ok n := by
  rw [readDigitCount, Json.readNat_int n.toNat_lt (by decide), Except.map, UInt16.ofNat_toNat]

theorem readLength_int (n : UInt32) : readLength (.int n.toNat) = .ok n := by
  rw [readLength, Json.readNat_int n.toNat_lt (by decide), Except.map, UInt32.ofNat_toNat]

theorem readWidth_bits {α : Type} {options : List (String × α)} {name : String} {width : α}
    (h : options.lookup name = some width) :
    readWidth options (.object [("bits", .string name)]) = .ok width := by
  refine Except.bind_eq_ok_iff.2 ⟨some width, ?_, rfl⟩
  rw [readParameters]
  exact Json.readFields_cons rfl List.not_mem_nil (Json.readName_string h) rfl

/-- The parameters of a decimal type are read back. -/
theorem readParameters_digits (precision scale : Option UInt16) :
    readParameters digitFields (none, none) (.object
      [("precision", Json.ofOption (fun n => .int n.toNat) precision),
        ("scale", Json.ofOption (fun n => .int n.toNat) scale)]) = .ok (precision, scale) := by
  have hdigits := Json.readOption_ofOption readDigitCount_int (by simp)
  rw [readParameters]
  refine Json.readFields_cons rfl List.not_mem_nil (hdigits precision) ?_
  exact Json.readFields_cons rfl (by simp) (hdigits scale) rfl

/-- The parameter of a text type is read back. -/
theorem readParameters_length (maxLength : Option UInt32) :
    readParameters lengthFields none (.object
      [("max_length", Json.ofOption (fun n => .int n.toNat) maxLength)]) = .ok maxLength := by
  have hlength := Json.readOption_ofOption readLength_int (by simp) maxLength
  rw [readParameters]
  exact Json.readFields_cons rfl List.not_mem_nil hlength rfl

/-- **The JSON of a type stands for the type.** -/
theorem ofJson_toJson (t : SqlType) : ofJson t.toJson = .ok t := by
  induction t with
  | integer width =>
    rw [toJson, tagged, ofJson, readWidth_bits width.lookup_name]
    rfl
  | float width =>
    rw [toJson, tagged, ofJson, readWidth_bits width.lookup_name]
    rfl
  | decimal precision scale =>
    rw [toJson, tagged, ofJson, readParameters_digits]
    rfl
  | text maxLength =>
    rw [toJson, tagged, ofJson, readParameters_length]
    rfl
  | array element ih =>
    rw [toJson, tagged, ofJson, ih]
    rfl
  | unknown name =>
    rw [toJson, tagged, ofJson, Json.readString_string]
    rfl
  | _ => rfl

end SqlType

end SetQuery
