import SetQuery.Proofs.Text.Numeral
import SetQuery.Proofs.Text.Split
import SetQuery.Proofs.Text.Trim
import SetQuery.Proofs.Text.UpperCase
import SetQuery.SqlType.Reader

/-!
# Type names are read back

Reading a type gives it a standard name, and the standard name is read as the same type. Blanks
around a type, and the case in which it is written, make no difference.

**Theorem (`SqlType.ofText_stable`).** All of this holds of every text, so that two texts that name
different types have different standard names. A text is read from its end, where an array has its
brackets, so the proofs follow that reading: a blank is skipped, brackets are taken off, and any
other text is a keyword, a type with parameters, or an unknown name. The standard names of keywords
are finitely many (`ofText_name_of_keyword`); a number in parentheses is read back as itself
(`ofText_text`, `ofText_decimal`); and the name of an unknown type is its text in upper case, which
is read as the text is (`ofReversed_upper`).
-/

namespace SetQuery.SqlType

open Text

/-! ## Reading from the end -/

theorem ofReversed_cons (c : Char) (r : List Char) :
    ofReversed (c :: r) =
      if isBlank c then ofReversed r
      else match c, r with
        | ']', '[' :: inner => .array (ofReversed inner)
        | _, _ => ofScalarText ((c :: r).reverse.dropWhile isBlank) :=
  ofReversed.eq_def (c :: r)

theorem ofReversed_of_isBlank {c : Char} (h : isBlank c = true) (r : List Char) :
    ofReversed (c :: r) = ofReversed r := by
  rw [ofReversed_cons, if_pos h]

theorem ofReversed_brackets (inner : List Char) :
    ofReversed (']' :: '[' :: inner) = .array (ofReversed inner) := by
  rw [ofReversed_cons, if_neg (by decide)]
  rfl

theorem ofReversed_scalar {c : Char} {r : List Char} (h : ¬isBlank c = true)
    (harray : ∀ inner, c = ']' → r = '[' :: inner → False) :
    ofReversed (c :: r) = ofScalarText ((c :: r).reverse.dropWhile isBlank) := by
  rw [ofReversed_cons, if_neg h]
  split
  · exact (harray _ rfl rfl).elim
  · rfl

/-- A reading skips a blank, takes off brackets, or ends. -/
theorem reading_induction {motive : List Char → Prop} (nil : motive [])
    (blank : ∀ c r, isBlank c = true → motive r → motive (c :: r))
    (array : ∀ inner, motive inner → motive (']' :: '[' :: inner))
    (scalar : ∀ c r, ¬isBlank c = true → (∀ inner, c = ']' → r = '[' :: inner → False) →
      motive (c :: r)) : ∀ r, motive r := by
  intro r
  induction hn : r.length using Nat.strongRecOn generalizing r with
  | ind n ih =>
    subst hn
    cases r with
    | nil => exact nil
    | cons c r =>
      by_cases hblank : isBlank c = true
      · exact blank c r hblank (ih r.length (Nat.lt_succ_self _) r rfl)
      · by_cases harray : ∃ inner, c = ']' ∧ r = '[' :: inner
        · obtain ⟨inner, rfl, rfl⟩ := harray
          exact array inner (ih inner.length (by simp only [List.length_cons]; omega) inner rfl)
        · exact scalar c r hblank fun inner hc hr => harray ⟨inner, hc, hr⟩

/-! ## Blanks around a type -/

section

variable {blanks : List Char} (h : ∀ c ∈ blanks, isBlank c = true)

include h

/-- Blanks behind a type are skipped. -/
theorem ofReversed_blanks_append (r : List Char) : ofReversed (blanks ++ r) = ofReversed r := by
  induction blanks with
  | nil => rfl
  | cons c blanks ih =>
    obtain ⟨hc, hblanks⟩ := List.forall_mem_cons.1 h
    rw [List.cons_append, ofReversed_of_isBlank hc, ih hblanks]

/-- Blanks in front of a type are skipped. -/
theorem ofReversed_append_blanks (r : List Char) : ofReversed (r ++ blanks) = ofReversed r := by
  induction r using reading_induction with
  | nil =>
    have hskip := ofReversed_blanks_append h []
    rwa [List.append_nil] at hskip
  | blank c r hc ih =>
    rw [List.cons_append, ofReversed_of_isBlank hc, ofReversed_of_isBlank hc, ih]
  | array inner ih =>
    rw [List.cons_append, List.cons_append, ofReversed_brackets, ofReversed_brackets, ih]
  | scalar c r hc harray =>
    have harray' : ∀ inner, c = ']' → r ++ blanks = '[' :: inner → False := by
      intro inner hbracket heq
      cases r with
      | nil =>
        rw [List.nil_append] at heq
        have hblank := h '[' (heq ▸ List.mem_cons_self)
        exact absurd hblank (by decide)
      | cons d r =>
        obtain ⟨rfl, -⟩ := List.cons.inj heq
        exact harray r hbracket rfl
    rw [List.cons_append, ofReversed_scalar hc harray', ofReversed_scalar hc harray,
      ← List.cons_append, List.reverse_append,
      List.dropWhile_append_of_pos fun d hd => h d (List.mem_reverse.1 hd)]

end

/-! ## Upper case -/

theorem ofScalarText_upper (s : List Char) : ofScalarText (upper s) = ofScalarText s := by
  rw [ofScalarText, upper_upper, ofScalarText]

/-- A text in upper case names the same type. -/
theorem ofReversed_upper (r : List Char) : ofReversed (upper r.reverse).reverse = ofReversed r := by
  induction r using reading_induction with
  | nil => rfl
  | blank c r hc ih =>
    have hupper : upperChar c = [c] := isUpper_of_isMark (isMark_of_isBlank hc)
    rw [reverse_upper_cons, hupper, List.reverse_singleton, List.singleton_append,
      ofReversed_of_isBlank hc, ofReversed_of_isBlank hc, ih]
  | array inner ih =>
    have hclose : upperChar ']' = [']'] := by decide
    have hopen : upperChar '[' = ['['] := by decide
    rw [reverse_upper_cons, reverse_upper_cons, hclose, hopen, List.reverse_singleton,
      List.reverse_singleton, List.singleton_append, List.singleton_append, ofReversed_brackets,
      ofReversed_brackets, ih]
  | scalar c r hc harray =>
    obtain ⟨d, rest, heq, hd⟩ := exists_reverse_upper_cons c r
    have hblank : ¬isBlank d = true := fun hblank =>
      hc (hd.eq_of_isMark (isMark_of_isBlank hblank) ▸ hblank)
    -- brackets at the end of the text in upper case were brackets before
    have harray' : ∀ inner, d = ']' → rest = '[' :: inner → False := by
      rintro inner rfl rfl
      obtain ⟨front, hfront, hrest⟩ := exists_eq_of_reverse_upper heq rfl
      obtain ⟨inner', rfl, -⟩ := exists_eq_of_reverse_upper hrest.symm rfl
      obtain ⟨rfl, rfl⟩ := List.cons.inj hfront
      exact harray inner' rfl rfl
    rw [heq, ofReversed_scalar hblank harray', ← heq, List.reverse_reverse, dropWhile_upper,
      ofScalarText_upper, ofReversed_scalar hc harray]

/-! ## Keywords -/

/-- The types that keywords stand for. -/
def keywordTypes : List SqlType :=
  [.boolean, .integer .i8, .integer .i16, .integer .i32, .integer .i64, .hugeInt, .float .single,
    .float .double, .decimal none none, .text none, .date, .time, .timestamp, .interval, .binary,
    .json, .uuid]

theorem mem_keywordTypes {s : String} {t : SqlType} (h : ofKeyword? s = some t) :
    t ∈ keywordTypes := by
  unfold ofKeyword? at h
  split at h <;> cases h <;> decide

theorem ofText_name_of_keyword : ∀ t ∈ keywordTypes, ofText t.name = t := by decide +kernel

/-- No keyword has parameters. -/
theorem notMem_of_ofKeyword? {s : String} {t : SqlType} (h : ofKeyword? s = some t) :
    '(' ∉ s.toList := by
  unfold ofKeyword? at h
  split at h
  all_goals first
    | decide
    | cases h

/-! ## Parameters -/

/-- A text with an opening parenthesis is no keyword. -/
theorem ofScalarText_of_mem {text : List Char} (h : '(' ∈ upper text) :
    ofScalarText text =
      (ofParameterized? (upper text)).getD (.unknown (String.ofList (upper text))) := by
  have hkeyword : ofKeyword? (String.ofList (upper text)) = none := by
    refine Option.eq_none_iff_forall_ne_some.2 fun t ht => notMem_of_ofKeyword? ht ?_
    rwa [String.toList_ofList]
  simp only [ofScalarText, hkeyword]

/-- Parameters reach from the first opening parenthesis to the last closing one. -/
theorem parameters?_eq_some_iff {s base params : List Char} :
    parameters? s = some (base, params) ↔
      ∃ rest, '(' ∉ base ∧ ')' ∉ rest ∧ s = base ++ '(' :: (params ++ ')' :: rest) := by
  constructor
  · intro h
    unfold parameters? at h
    split at h
    · cases h
    · next hopen =>
      split at h
      · cases h
      · next hclose =>
        cases h
        obtain ⟨hs, hbase⟩ := eq_append_of_dropWhile_ne hopen
        obtain ⟨hbehind, hrest⟩ := eq_append_of_dropWhile_ne hclose
        refine ⟨_, hbase, fun hmem => hrest (List.mem_reverse.1 hmem), hs.trans ?_⟩
        rw [← List.reverse_reverse (List.reverse _ ++ _), List.reverse_append, List.reverse_cons,
          List.reverse_reverse, List.reverse_reverse, List.append_assoc, List.singleton_append,
          ← hbehind, List.reverse_reverse]
  · rintro ⟨rest, hbase, hrest, rfl⟩
    have hreverse : (params ++ ')' :: rest).reverse = rest.reverse ++ ')' :: params.reverse := by
      simp
    rw [parameters?, dropWhile_ne hbase, takeWhile_ne hbase]
    simp only [hreverse, dropWhile_ne (mt List.mem_reverse.1 hrest), List.reverse_reverse]

/-- The words of text types. -/
def textWords : List String := ["VARCHAR", "CHAR", "CHARACTER VARYING", "TEXT", "STRING"]

/-- The words of decimal types. -/
def decimalWords : List String := ["DECIMAL", "NUMERIC"]

theorem ofParameterized?_text {s word params : List Char} (h : parameters? s = some (word, params))
    (hword : String.ofList (trim word) ∈ textWords) :
    ofParameterized? s = (length? params).map fun n => .text (some n) := by
  rw [ofParameterized?, h, Option.bind_some]
  simp only [textWords, List.mem_cons, List.not_mem_nil, or_false] at hword
  obtain hword | hword | hword | hword | hword := hword <;> simp only [hword]

theorem ofParameterized?_decimal {s word params : List Char}
    (h : parameters? s = some (word, params)) (hword : String.ofList (trim word) ∈ decimalWords) :
    ofParameterized? s = decimalOf? params := by
  rw [ofParameterized?, h, Option.bind_some]
  simp only [decimalWords, List.mem_cons, List.not_mem_nil, or_false] at hword
  obtain hword | hword := hword <;> simp only [hword]

/-- The word in front of parameters that are read. -/
theorem exists_of_ofParameterized? {s : List Char} {t : SqlType}
    (h : ofParameterized? s = some t) : ∃ word params, parameters? s = some (word, params) ∧
      (String.ofList (trim word) ∈ textWords ∨ String.ofList (trim word) ∈ decimalWords) := by
  obtain ⟨⟨word, params⟩, hparams, h⟩ := Option.bind_eq_some_iff.1 h
  refine ⟨word, params, hparams, ?_⟩
  simp only at h
  split at h
  case h_8 => cases h
  all_goals
    next hword =>
      rw [hword]
      decide

/-- A text with parameters, as standard names have them. -/
def withParameters (word : String) (params : List Char) : List Char :=
  word.toList ++ '(' :: (params ++ [')'])

theorem parameters?_withParameters (word : String) (hword : '(' ∉ word.toList)
    (params : List Char) :
    parameters? (withParameters word params) = some (word.toList, params) :=
  parameters?_eq_some_iff.2 ⟨[], hword, List.not_mem_nil, rfl⟩

/-- It is read as a type with parameters. -/
theorem ofText_withParameters {word : String} {params : List Char}
    (hword : word = "VARCHAR" ∨ word = "DECIMAL") (hparams : ∀ c ∈ params, IsUpper c) :
    ofText (String.ofList (withParameters word params)) =
      (ofParameterized? (withParameters word params)).getD
        (.unknown (String.ofList (withParameters word params))) := by
  have hreverse : (withParameters word params).reverse =
      ')' :: (word.toList ++ '(' :: params).reverse := by simp [withParameters]
  have hstart : ∀ c, (withParameters word params).head? = some c → isBlank c = false := by
    obtain rfl | rfl := hword
    all_goals
      rintro c ⟨⟩
      decide
  have hupper : upper (withParameters word params) = withParameters word params := by
    have hopen : upperChar '(' = ['('] := by decide
    have hclose : upper [')'] = [')'] := by decide
    have hupperword : upper word.toList = word.toList := by obtain rfl | rfl := hword <;> decide
    rw [withParameters, upper_append, upper_cons, upper_append, hupperword, hopen, hclose,
      upper_of_isUpper hparams, List.singleton_append]
  have hopen : '(' ∈ upper (withParameters word params) := by
    rw [hupper]
    exact List.mem_append_right _ List.mem_cons_self
  rw [ofText, String.toList_ofList, hreverse, ofReversed_scalar (by decide) (by simp), ← hreverse,
    List.reverse_reverse, dropWhile_isBlank_eq hstart, ofScalarText_of_mem hopen, hupper]

/-! ## Numbers in parentheses -/

theorem isUpper_of_mem_toString {n : Nat} {c : Char} (h : c ∈ (toString n).toList) : IsUpper c :=
  isUpper_of_isDigit (isDigit_of_mem_toString h)

theorem length?_eq_some_iff {params : List Char} {n : UInt32} :
    length? params = some n ↔ IsNumeral n.toNat (trim params) := by
  rw [length?, Option.map_eq_some_iff]
  constructor
  · rintro ⟨m, hm, rfl⟩
    obtain ⟨hnumeral, hlt⟩ := decimal?_eq_some_iff.1 hm
    rwa [UInt32.toNat_ofNat_of_lt' hlt]
  · exact fun h => ⟨n.toNat, decimal?_eq_some_iff.2 ⟨h, n.toNat_lt⟩, UInt32.ofNat_toNat⟩

theorem digitCount?_eq_some_iff {param : List Char} {n : UInt16} :
    digitCount? param = some n ↔ IsNumeral n.toNat (trim param) := by
  rw [digitCount?, Option.map_eq_some_iff]
  constructor
  · rintro ⟨m, hm, rfl⟩
    obtain ⟨hnumeral, hlt⟩ := decimal?_eq_some_iff.1 hm
    rwa [UInt16.toNat_ofNat_of_lt' hlt]
  · exact fun h => ⟨n.toNat, decimal?_eq_some_iff.2 ⟨h, n.toNat_lt⟩, UInt16.ofNat_toNat⟩

theorem isNumeral_trim_toString (n : Nat) : IsNumeral n (trim (toString n).toList) := by
  rw [isTrimmed_toString.trim_eq]
  exact isNumeral_toString n

theorem digitCount?_toString (n : UInt16) : digitCount? (toString n.toNat).toList = some n :=
  digitCount?_eq_some_iff.2 (isNumeral_trim_toString _)

theorem length?_toString (n : UInt32) : length? (toString n.toNat).toList = some n :=
  length?_eq_some_iff.2 (isNumeral_trim_toString _)

/-! ## Parameters of a decimal type -/

/-- One parameter is a precision. -/
theorem decimalOf?_of_notMem {p : List Char} (h : ',' ∉ p) :
    decimalOf? p = (digitCount? p).map fun precision => .decimal (some precision) none := by
  rw [decimalOf?, split_of_notMem h]
  rfl

/-- Of several parameters the second is a scale. -/
theorem decimalOf?_append {p q behind : List Char} (hp : ',' ∉ p) (hq : ',' ∉ q)
    (hbehind : ∀ c, behind.head? = some c → c = ',') :
    decimalOf? (p ++ ',' :: (q ++ behind)) =
      (digitCount? p).map fun precision => .decimal (some precision) (digitCount? q) := by
  have hsecond : (split (· == ',') (q ++ behind)).head? = some q := by
    cases behind with
    | nil => rw [List.append_nil, split_of_notMem hq, List.head?_cons]
    | cons c more => rw [hbehind c rfl, split_append hq, List.head?_cons]
  rw [decimalOf?, split_append hp]
  simp only [hsecond, Option.bind_some]

/-- The parameters of a decimal type. -/
def decimalParameters (precision : UInt16) : Option UInt16 → List Char
  | none => (toString precision.toNat).toList
  | some scale => (toString precision.toNat).toList ++ ',' :: (toString scale.toNat).toList

theorem decimalOf?_decimalParameters (precision : UInt16) (scale : Option UInt16) :
    decimalOf? (decimalParameters precision scale) = some (.decimal (some precision) scale) := by
  cases scale with
  | none =>
    rw [decimalParameters, decimalOf?_of_notMem (notMem_toString (by decide) _), digitCount?_toString,
      Option.map_some]
  | some scale =>
    have hbehind : ∀ c, ([] : List Char).head? = some c → c = ',' := nofun
    rw [decimalParameters, ← List.append_nil (toString scale.toNat).toList,
      decimalOf?_append (notMem_toString (by decide) _) (notMem_toString (by decide) _) hbehind,
      digitCount?_toString, digitCount?_toString, Option.map_some]

theorem isUpper_of_mem_decimalParameters {precision : UInt16} {scale : Option UInt16} {c : Char}
    (h : c ∈ decimalParameters precision scale) : IsUpper c := by
  cases scale with
  | none => exact isUpper_of_mem_toString h
  | some scale =>
    rw [decimalParameters, List.mem_append, List.mem_cons] at h
    obtain h | rfl | h := h
    · exact isUpper_of_mem_toString h
    · decide
    · exact isUpper_of_mem_toString h

theorem ofText_text (n : UInt32) : ofText (SqlType.text (some n)).name = .text (some n) := by
  have hname : (SqlType.text (some n)).name =
      String.ofList (withParameters "VARCHAR" (toString n.toNat).toList) := by
    apply String.toList_injective
    rw [String.toList_ofList]
    simp [name, withParameters]
  have hparams := parameters?_withParameters "VARCHAR" (by decide)
    (toString n.toNat).toList
  have hread : ofParameterized? (withParameters "VARCHAR" (toString n.toNat).toList) =
      some (.text (some n)) := by
    rw [ofParameterized?_text hparams (by decide), length?_toString, Option.map_some]
  rw [hname, ofText_withParameters (.inl rfl) fun _ => isUpper_of_mem_toString, hread,
    Option.getD_some]

theorem ofText_decimal (precision : UInt16) (scale : Option UInt16) :
    ofText (SqlType.decimal (some precision) scale).name = .decimal (some precision) scale := by
  have hname : (SqlType.decimal (some precision) scale).name =
      String.ofList (withParameters "DECIMAL" (decimalParameters precision scale)) := by
    apply String.toList_injective
    rw [String.toList_ofList]
    cases scale <;> simp [name, withParameters, decimalParameters]
  have hparams := parameters?_withParameters "DECIMAL" (by decide)
    (decimalParameters precision scale)
  have hread : ofParameterized? (withParameters "DECIMAL" (decimalParameters precision scale)) =
      some (.decimal (some precision) scale) := by
    rw [ofParameterized?_decimal hparams (by decide), decimalOf?_decimalParameters]
  rw [hname, ofText_withParameters (.inr rfl) fun _ => isUpper_of_mem_decimalParameters, hread,
    Option.getD_some]

/-! ## Standard names -/

/-- What a text with parameters may name. -/
theorem ofText_name_of_ofParameterized? {s : List Char} {t : SqlType}
    (h : ofParameterized? s = some t) : ofText t.name = t := by
  obtain ⟨word, params, hparams, hword | hword⟩ := exists_of_ofParameterized? h
  · rw [ofParameterized?_text hparams hword] at h
    obtain ⟨n, -, rfl⟩ := Option.map_eq_some_iff.1 h
    exact ofText_text n
  · rw [ofParameterized?_decimal hparams hword] at h
    unfold decimalOf? at h
    split at h
    · cases h
    · obtain ⟨precision, -, rfl⟩ := Option.map_eq_some_iff.1 h
      exact ofText_decimal precision _

/-- A text without brackets names a type that is read back, or an unknown one, whose name is the
text in upper case. -/
theorem ofScalarText_cases (s : List Char) : ofText (ofScalarText s).name = ofScalarText s ∨
    ofScalarText s = .unknown (String.ofList (upper s)) := by
  simp only [ofScalarText]
  cases hkeyword : ofKeyword? (String.ofList (upper s)) with
  | some t => exact .inl (ofText_name_of_keyword t (mem_keywordTypes hkeyword))
  | none =>
    cases hparams : ofParameterized? (upper s) with
    | none => exact .inr rfl
    | some t => exact .inl (ofText_name_of_ofParameterized? hparams)

/-- The standard name of what a text names is read as the text is. -/
theorem ofText_name_ofReversed (r : List Char) :
    ofText (ofReversed r).name = ofReversed r := by
  induction r using reading_induction with
  | nil => decide +kernel
  | blank c r hc ih => rwa [ofReversed_of_isBlank hc]
  | array inner ih =>
    have hreverse : ((ofReversed inner).array.name).toList.reverse =
        ']' :: '[' :: (ofReversed inner).name.toList.reverse := by simp [name]
    rw [ofReversed_brackets, ofText, hreverse, ofReversed_brackets, ← ofText, ih]
  | scalar c r hc harray =>
    set text := (c :: r).reverse.dropWhile isBlank with htext
    obtain hread | hunknown := ofScalarText_cases text
    · rwa [ofReversed_scalar hc harray]
    · have hblanks : ∀ d ∈ ((c :: r).reverse.takeWhile isBlank).reverse, isBlank d = true :=
        fun d hd => List.all_eq_true.1 List.all_takeWhile d (List.mem_reverse.1 hd)
      calc ofText (ofReversed (c :: r)).name
          = ofReversed (upper text).reverse := by
            rw [ofReversed_scalar hc harray, ← htext, hunknown, name, ofText, String.toList_ofList]
        _ = ofReversed text.reverse := by
            rw [← ofReversed_upper text.reverse, List.reverse_reverse]
        _ = ofReversed (c :: r) := by
            rw [← ofReversed_append_blanks hblanks, ← List.reverse_append,
              List.takeWhile_append_dropWhile, List.reverse_reverse]

/-- **Type names are stable.** What the standard name of a type is read as is the type; blanks
around a text and its case make no difference; and different types have different names. -/
theorem ofText_stable (s : String) :
    ofText (ofText s).name = ofText s ∧
      (∀ front back : String, (∀ c ∈ front.toList, isBlank c = true) →
        (∀ c ∈ back.toList, isBlank c = true) → ofText (front ++ s ++ back) = ofText s) ∧
      ofText (String.ofList (upper s.toList)) = ofText s ∧
      ∀ s', ofText s ≠ ofText s' → (ofText s).name ≠ (ofText s').name := by
  have hread (s : String) : ofText (ofText s).name = ofText s := ofText_name_ofReversed _
  refine ⟨hread s, fun front back hfront hback => ?_, ?_, fun s' hne hname => hne ?_⟩
  · have hback' : ∀ c ∈ back.toList.reverse, isBlank c = true := fun c hc =>
      hback c (List.mem_reverse.1 hc)
    have hfront' : ∀ c ∈ front.toList.reverse, isBlank c = true := fun c hc =>
      hfront c (List.mem_reverse.1 hc)
    rw [ofText, String.toList_append, String.toList_append, List.reverse_append,
      List.reverse_append, ofReversed_blanks_append hback', ofReversed_append_blanks hfront',
      ofText]
  · have hupper := ofReversed_upper s.toList.reverse
    rw [List.reverse_reverse] at hupper
    rw [ofText, String.toList_ofList, hupper, ofText]
  · rw [← hread s, hname, hread s']

/-- An array of a decimal type, whose numbers are written with a sign, zeros and blanks. -/
theorem paddedDecimal_stable :
    ofText "decimal( +010 ,02)[]" = .array (.decimal (some 10) (some 2)) ∧
      ofText (ofText "decimal( +010 ,02)[]").name = ofText "decimal( +010 ,02)[]" ∧
      ofText (" " ++ "decimal( +010 ,02)[]" ++ "\t\n") = ofText "decimal( +010 ,02)[]" ∧
      ofText (String.ofList (upper "decimal( +010 ,02)[]".toList)) =
        ofText "decimal( +010 ,02)[]" ∧
      (ofText "decimal( +010 ,02)[]").name ≠ (ofText "decimal(10,2)").name := by
  obtain ⟨hread, hblanks, hupper, hname⟩ := ofText_stable "decimal( +010 ,02)[]"
  exact ⟨by decide +kernel, hread,
    hblanks " " "\t\n" (List.all_eq_true.1 (by decide)) (List.all_eq_true.1 (by decide)), hupper,
    hname "decimal(10,2)" (by decide +kernel)⟩

end SetQuery.SqlType
