import SetQuery.Dialect.Identifier
import SetQuery.Proofs.Text.Split

/-!
# Reading quoted identifiers

A backend reads an identifier from its opening delimiter on. Two closing delimiters in a row stand
for one of them, and a single one ends the identifier (`Delimiters.read?`). A qualified name is a
sequence of identifiers with dots between them (`Delimiters.readQualified?`).

**Theorem (`Dialect.quoted_reads_back`).** In every dialect, what is read of a quoted name is the
name, and what is read of a quoted qualified name are the parts between its dots, whatever they
contain. Behind them may follow anything that does not go on with them.

Whether a closing delimiter ends the identifier depends on the character behind it. So the induction
over the name is about the name in front of any text that does not start with one.
-/

namespace SetQuery

/-! ## Readers -/

namespace Delimiters

/-- The rest of an identifier behind its opening delimiter, and the text behind the identifier. -/
def readRest? (closing : Char) : List Char → Option (List Char × List Char)
  | [] => none
  | c :: text =>
    if c = closing then
      match text with
      | [] => some ([], [])
      | c' :: text' =>
        if c' = closing then (readRest? closing text').map fun (s, after) => (closing :: s, after)
        else some ([], c' :: text')
    else (readRest? closing text).map fun (s, after) => (c :: s, after)

/-- The identifier at the start of a text, and the text behind it. -/
def read? (d : Delimiters) : List Char → Option (List Char × List Char)
  | [] => none
  | c :: text => if c = d.opening then readRest? d.closing text else none

theorem length_readRest?_lt {closing : Char} {text s after : List Char}
    (h : readRest? closing text = some (s, after)) : after.length < text.length := by
  fun_induction readRest? closing text generalizing s after with
  | case1 => cases h
  | case2 => simp_all
  | case3 text' ih =>
    obtain ⟨⟨s', after'⟩, hread, heq⟩ := Option.map_eq_some_iff.1 h
    cases heq
    have := ih hread
    simp only [List.length_cons]
    omega
  | case4 c' text' hc' =>
    cases h
    simp
  | case5 c text hc ih =>
    obtain ⟨⟨s', after'⟩, hread, heq⟩ := Option.map_eq_some_iff.1 h
    cases heq
    exact Nat.lt_succ_of_lt (ih hread)

theorem length_read?_lt {d : Delimiters} {text s after : List Char}
    (h : d.read? text = some (s, after)) : after.length < text.length := by
  cases text with
  | nil => cases h
  | cons c text =>
    rw [read?] at h
    split at h
    · exact Nat.lt_succ_of_lt (length_readRest?_lt h)
    · cases h

/-- The identifiers at the start of a text, with dots between them, and the text behind them. -/
def readQualified? (d : Delimiters) (text : List Char) : Option (List (List Char) × List Char) :=
  match _h : d.read? text with
  | none => none
  | some (s, '.' :: text') =>
    (d.readQualified? text').map fun (parts, after) => (s :: parts, after)
  | some (s, after) => some ([s], after)
termination_by text.length
decreasing_by
  have := length_read?_lt _h
  simp only [List.length_cons] at this
  omega

/-! ## Reading back -/

theorem readRest?_cons_of_ne {closing c : Char} (h : c ≠ closing) (text : List Char) :
    readRest? closing (c :: text) =
      (readRest? closing text).map fun (s, after) => (c :: s, after) := by
  cases text <;> simp [readRest?, h]

/-- What is written behind the opening delimiter is read to its end. -/
theorem readRest?_doubled {closing : Char} {after : List Char} (h : after.head? ≠ some closing)
    (s : List Char) : readRest? closing (doubled closing s ++ closing :: after) =
      some (s, after) := by
  induction s with
  | nil =>
    cases after with
    | nil => simp [doubled, readRest?]
    | cons c after =>
      have hc : c ≠ closing := by simpa using h
      simp [doubled, readRest?, hc]
  | cons c s ih =>
    rw [doubled] at ih
    by_cases hc : c = closing
    · simp [doubled, readRest?, hc, ih]
    · simp [doubled, readRest?_cons_of_ne hc, hc, ih]

theorem read?_quote {d : Delimiters} {after : List Char} (h : after.head? ≠ some d.closing)
    (s : List Char) : d.read? (d.quote s ++ after) = some (s, after) := by
  simp [quote, read?, readRest?_doubled h]

theorem readQualified?_of_read? {d : Delimiters} {text s after : List Char}
    (h : d.read? text = some (s, after)) (hdot : after.head? ≠ some '.') :
    d.readQualified? text = some ([s], after) := by
  rw [readQualified?, h]
  cases after with
  | nil => rfl
  | cons c after =>
    have hc : c ≠ '.' := by simpa using hdot
    simp [hc]

theorem readQualified?_of_read?_dot {d : Delimiters} {text s text' : List Char}
    (h : d.read? text = some (s, '.' :: text')) :
    d.readQualified? text =
      (d.readQualified? text').map fun (parts, after) => (s :: parts, after) := by
  rw [readQualified?, h]
  rfl

/-- The dots between quoted parts are the ones at which a qualified name is read. -/
theorem readQualified?_intercalate {d : Delimiters} {after : List Char} (hd : d.closing ≠ '.')
    (hclosing : after.head? ≠ some d.closing) (hdot : after.head? ≠ some '.')
    {parts : List (List Char)} (hparts : parts ≠ []) :
    d.readQualified? (List.intercalate ['.'] (parts.map d.quote) ++ after) =
      some (parts, after) := by
  induction parts with
  | nil => exact absurd rfl hparts
  | cons s rest ih =>
    cases rest with
    | nil =>
      rw [List.map_singleton, List.intercalate_singleton]
      exact readQualified?_of_read? (read?_quote hclosing s) hdot
    | cons s' rest =>
      have hdotted : d.read? (List.intercalate ['.'] ((s :: s' :: rest).map d.quote) ++ after) =
          some (s, '.' :: (List.intercalate ['.'] ((s' :: rest).map d.quote) ++ after)) := by
        rw [List.map_cons, List.intercalate_cons_of_ne_nil (by simp), List.append_assoc,
          List.append_assoc]
        exact read?_quote (by simpa using hd.symm) s
      rw [readQualified?_of_read?_dot hdotted, ih (List.cons_ne_nil _ _)]
      rfl

end Delimiters

/-! ## Names in the dialects -/

namespace Dialect

theorem closing_ne_dot (d : Dialect) : d.delimiters.closing ≠ '.' := by
  cases d <;> decide

theorem toList_quoteIdent (d : Dialect) (s : String) :
    (d.quoteIdent s).toList = d.delimiters.quote s.toList := String.toList_ofList

theorem toList_quoteQualified (d : Dialect) (name : String) : (d.quoteQualified name).toList =
    List.intercalate ['.'] (((Text.pieces '.' name).map String.toList).map d.delimiters.quote) := by
  rw [quoteQualified, String.toList_intercalate, List.map_map, List.map_map]
  congr 1
  exact List.map_congr_left fun s _ => d.toList_quoteIdent s

theorem read?_quoteIdent (d : Dialect) (s : String) {w : String}
    (h : w.toList.head? ≠ some d.delimiters.closing) :
    d.delimiters.read? (d.quoteIdent s ++ w).toList = some (s.toList, w.toList) := by
  rw [String.toList_append, toList_quoteIdent]
  exact Delimiters.read?_quote h s.toList

theorem readQualified?_quoteQualified (d : Dialect) (name : String) {w : String}
    (hclosing : w.toList.head? ≠ some d.delimiters.closing) (hdot : w.toList.head? ≠ some '.') :
    d.delimiters.readQualified? (d.quoteQualified name ++ w).toList =
      some ((Text.pieces '.' name).map String.toList, w.toList) := by
  rw [String.toList_append, toList_quoteQualified]
  refine Delimiters.readQualified?_intercalate d.closing_ne_dot hclosing hdot ?_
  intro h
  exact Text.pieces_ne_nil '.' name (List.map_eq_nil_iff.1 h)

/-- Names that are quoted alike are read alike. -/
theorem quoteIdent_injective (d : Dialect) : Function.Injective d.quoteIdent := by
  intro s t h
  have hs := d.read?_quoteIdent s (w := "") (by simp)
  rw [h, d.read?_quoteIdent t (by simp)] at hs
  exact String.toList_injective (congrArg Prod.fst (Option.some.inj hs)).symm

theorem quoteQualified_injective (d : Dialect) : Function.Injective d.quoteQualified := by
  intro m n h
  have hm := d.readQualified?_quoteQualified m (w := "") (by simp) (by simp)
  rw [h, d.readQualified?_quoteQualified n (by simp) (by simp)] at hm
  have hpieces : Text.pieces '.' n = Text.pieces '.' m :=
    List.map_injective_iff.2 (fun _ _ h => String.toList_injective h)
      (congrArg Prod.fst (Option.some.inj hm))
  rw [← Text.intercalate_pieces '.' m, ← hpieces, Text.intercalate_pieces]

/-- **Quoted names are read back exactly.** -/
theorem quoted_reads_back (d : Dialect) :
    d.delimiters = (if d = .msSql then ⟨'[', ']'⟩
      else if d ∈ [.bigQuery, .mySql, .hive] then ⟨'\x60', '\x60'⟩ else ⟨'"', '"'⟩) ∧
    (∀ s w : String, w.toList.head? ≠ some d.delimiters.closing →
      d.delimiters.read? (d.quoteIdent s ++ w).toList = some (s.toList, w.toList)) ∧
    (∀ name w : String, w.toList.head? ≠ some d.delimiters.closing →
      w.toList.head? ≠ some '.' → ∃ parts : List String,
        d.delimiters.readQualified? (d.quoteQualified name ++ w).toList =
          some (parts.map String.toList, w.toList) ∧
        (∀ part ∈ parts, '.' ∉ part.toList) ∧ ".".intercalate parts = name) ∧
    Function.Injective d.quoteIdent ∧ Function.Injective d.quoteQualified := by
  refine ⟨?_, fun s w h => d.read?_quoteIdent s h, fun name w hclosing hdot => ?_,
    d.quoteIdent_injective, d.quoteQualified_injective⟩
  · cases d <;> rfl
  · exact ⟨Text.pieces '.' name, d.readQualified?_quoteQualified name hclosing hdot,
      fun part => Text.notMem_of_mem_pieces, Text.intercalate_pieces '.' name⟩

/-- Brackets and dots inside a name do not end it, nor does an alias behind it go on with it. -/
theorem quoted_bracket_reads_back :
    Dialect.msSql.delimiters.read? "[a]]b.]]]]] AS [x]".toList =
      some ("a]b.]]".toList, " AS [x]".toList) ∧
    ∃ parts : List String, Dialect.msSql.delimiters.readQualified?
        (Dialect.msSql.quoteQualified "a]b.]]" ++ " AS [x]").toList =
          some (parts.map String.toList, " AS [x]".toList) ∧
      (∀ part ∈ parts, '.' ∉ part.toList) ∧ ".".intercalate parts = "a]b.]]" := by
  obtain ⟨-, hident, hqualified, -⟩ := quoted_reads_back .msSql
  have hquoted : Dialect.msSql.quoteIdent "a]b.]]" ++ " AS [x]" = "[a]]b.]]]]] AS [x]" := by
    decide +kernel
  constructor
  · rw [← hquoted]
    exact hident "a]b.]]" " AS [x]" (by decide)
  · exact hqualified "a]b.]]" " AS [x]" (by decide) (by decide)

end Dialect

end SetQuery
