import SetQuery.Proofs.SqlType.Nesting
import SetQuery.Proofs.SqlType.Reader

/-!
# Types with parameters

A text type may state its length, and a decimal type its precision and its scale. `Documented` gives
the forms that these take: a word, and in parentheses one number or, for a decimal type, two with a
comma between them, with blanks around each part.

**Theorem (`SqlType.ofText_parameters`).** A reading takes every text of these forms as the type
that it states, but not these alone. It passes over what stands behind the last closing
parenthesis, every parameter behind a scale, and a second parameter that is no number, with all
that follows it. Nothing else is passed over, so the text is of the form of the type it is read as
exactly when it ends in a parenthesis and has no comma but that in front of the scale. A text with
an opening parenthesis that is read in no such way is the name of an unknown type.

The brackets of arrays are taken off first, and what is said of the text without them holds of the
type inside the arrays (`Bracketed`, `ofReversed_of_bracketed`).
-/

namespace SetQuery.SqlType

open Text

/-! ## Brackets -/

/-- The text with pairs of brackets behind it, and blanks around each. The text itself has no blanks
at its ends, and no brackets at its end. -/
inductive Bracketed (text : List Char) : Nat → List Char → Prop
  | bare : IsTrimmed text → ¬['[', ']'] <:+ text → Bracketed text 0 text
  | blanks {n : Nat} {front s back : List Char} : (∀ c ∈ front, isBlank c = true) →
      (∀ c ∈ back, isBlank c = true) → Bracketed text n s → Bracketed text n (front ++ (s ++ back))
  | brackets {n : Nat} {s : List Char} : Bracketed text n s →
      Bracketed text (n + 1) (s ++ ['[', ']'])

/-- Every text has this form. -/
theorem exists_bracketed (s : List Char) : ∃ text n, Bracketed text n s := by
  rw [← s.reverse_reverse]
  induction s.reverse using reading_induction with
  | nil => exact ⟨[], 0, .bare ⟨nofun, nofun⟩ (by decide)⟩
  | blank c r hc ih =>
    obtain ⟨text, n, h⟩ := ih
    have hblanks : Bracketed text n ([] ++ (r.reverse ++ [c])) :=
      .blanks (fun _ h => absurd h List.not_mem_nil) (List.forall_mem_singleton.2 hc) h
    refine ⟨text, n, ?_⟩
    rwa [List.reverse_cons]
  | array inner ih =>
    obtain ⟨text, n, h⟩ := ih
    refine ⟨text, n + 1, ?_⟩
    rw [List.reverse_cons, List.reverse_cons, List.append_assoc]
    exact .brackets h
  | scalar c r hc harray =>
    set s := (c :: r).reverse with hs
    have hsuffix : s.dropWhile isBlank <:+ s := List.dropWhile_suffix isBlank
    have htrimmed : IsTrimmed (s.dropWhile isBlank) := by
      refine ⟨fun d => isBlank_of_head?_dropWhile, fun d hd => ?_⟩
      have hlast : s.getLast? = some d := by
        obtain ⟨front, hfront⟩ := hsuffix
        rw [← hfront, List.getLast?_append, hd, Option.some_or]
      rw [hs, List.getLast?_reverse, List.head?_cons] at hlast
      exact Option.some.inj hlast ▸ Bool.eq_false_iff.2 hc
    have hbrackets : ¬['[', ']'] <:+ s.dropWhile isBlank := by
      intro h
      obtain ⟨inner, hinner⟩ := List.reverse_prefix.2 (h.trans hsuffix)
      rw [hs, List.reverse_reverse] at hinner
      obtain ⟨rfl, rfl⟩ := List.cons.inj hinner
      exact harray inner rfl rfl
    have hbare : Bracketed _ 0 (s.takeWhile isBlank ++ (s.dropWhile isBlank ++ [])) :=
      .blanks (List.all_eq_true.1 List.all_takeWhile) (fun _ h => absurd h List.not_mem_nil)
        (.bare htrimmed hbrackets)
    rw [List.append_nil, List.takeWhile_append_dropWhile] at hbare
    exact ⟨_, 0, hbare⟩

/-- A text in brackets names arrays of what the text names. -/
theorem ofReversed_of_bracketed {text s : List Char} {n : Nat} (h : Bracketed text n s) :
    ofReversed s.reverse = arrayOf n (ofScalarText text) := by
  induction h with
  | bare htrimmed hbrackets =>
    cases hreverse : text.reverse with
    | nil =>
      rw [List.reverse_eq_nil_iff.1 hreverse]
      rfl
    | cons c r =>
      have htext : text = (c :: r).reverse := by rw [← hreverse, List.reverse_reverse]
      have hc : ¬isBlank c = true := by
        refine Bool.eq_false_iff.1 (htrimmed.2 c ?_)
        rw [htext, List.getLast?_reverse, List.head?_cons]
      have harray : ∀ inner, c = ']' → r = '[' :: inner → False := by
        rintro inner rfl rfl
        exact hbrackets (htext ▸ ⟨inner.reverse, by simp⟩)
      rw [ofReversed_scalar hc harray, ← htext, dropWhile_isBlank_eq htrimmed.1]
      rfl
  | blanks hfront hback h ih =>
    rw [List.reverse_append, List.reverse_append, List.append_assoc,
      ofReversed_blanks_append fun c hc => hback c (List.mem_reverse.1 hc),
      ofReversed_append_blanks fun c hc => hfront c (List.mem_reverse.1 hc), ih]
  | brackets h ih =>
    rw [List.reverse_append, arrayOf, ← ih]
    exact ofReversed_brackets _

/-! ## Documented forms -/

/-- The type is stated by the word and what is in parentheses behind it. -/
inductive Declares : SqlType → List Char → List Char → Prop
  | text {n : UInt32} {word k : List Char} : String.ofList (trim word) ∈ textWords →
      IsNumeral n.toNat (trim k) → Declares (.text (some n)) word k
  | decimal {precision : UInt16} {word p : List Char} : String.ofList (trim word) ∈ decimalWords →
      IsNumeral precision.toNat (trim p) → Declares (.decimal (some precision) none) word p
  | scaled {precision scale : UInt16} {word p q : List Char} :
      String.ofList (trim word) ∈ decimalWords → IsNumeral precision.toNat (trim p) →
      IsNumeral scale.toNat (trim q) →
      Declares (.decimal (some precision) (some scale)) word (p ++ ',' :: q)

/-- The text is of a form that states the type, and has nothing else. -/
def Documented (t : SqlType) (s : List Char) : Prop :=
  ∃ word params, Declares t word params ∧ s = word ++ '(' :: (params ++ [')'])

/-- The commas in the form of a type. -/
def commas : SqlType → Nat
  | .decimal _ (some _) => 1
  | _ => 0

theorem notMem_of_isNumeral {n : Nat} {s : List Char} {c : Char} (h : IsNumeral n (trim s))
    (hblank : isBlank c = false) (hplus : c ≠ '+') (hdigit : ¬c.isDigit = true) : c ∉ s :=
  fun hc => (h.eq_plus_or_isDigit c (mem_trim hc hblank)).elim hplus hdigit

theorem notMem_of_mem_words {words : List String} {word : List Char} {c : Char}
    (h : String.ofList (trim word) ∈ words) (hblank : isBlank c = false)
    (hwords : ∀ w ∈ words, c ∉ w.toList) : c ∉ word := by
  intro hc
  refine hwords _ h ?_
  rw [String.toList_ofList]
  exact mem_trim hc hblank

/-- Neither a parenthesis nor a comma stands in the word. -/
theorem Declares.notMem_word {t : SqlType} {word params : List Char} (h : Declares t word params)
    {c : Char} (hc : c = '(' ∨ c = ',') : c ∉ word := by
  have hblank : isBlank c = false := by obtain rfl | rfl := hc <;> decide
  have hwords : ∀ w ∈ textWords ++ decimalWords, c ∉ w.toList := by
    obtain rfl | rfl := hc <;> decide
  cases h with
  | text hword _ => exact notMem_of_mem_words (List.mem_append_left _ hword) hblank hwords
  | decimal hword _ => exact notMem_of_mem_words (List.mem_append_right _ hword) hblank hwords
  | scaled hword _ _ => exact notMem_of_mem_words (List.mem_append_right _ hword) hblank hwords

theorem comma_notMem_of_isNumeral {n : Nat} {s : List Char} (h : IsNumeral n (trim s)) : ',' ∉ s :=
  notMem_of_isNumeral h (by decide) (by decide) (by decide)

theorem Declares.count_params {t : SqlType} {word params : List Char}
    (h : Declares t word params) : params.count ',' = commas t := by
  cases h with
  | text _ hk => exact List.count_eq_zero.2 (comma_notMem_of_isNumeral hk)
  | decimal _ hp => exact List.count_eq_zero.2 (comma_notMem_of_isNumeral hp)
  | scaled _ hp hq =>
    rw [List.count_append, List.count_cons_self,
      List.count_eq_zero.2 (comma_notMem_of_isNumeral hp),
      List.count_eq_zero.2 (comma_notMem_of_isNumeral hq)]
    rfl

theorem Documented.getLast? {t : SqlType} {s : List Char} (h : Documented t s) :
    s.getLast? = some ')' := by
  obtain ⟨word, params, -, rfl⟩ := h
  rw [← List.cons_append, ← List.append_assoc, List.getLast?_concat]

theorem Documented.count_comma {t : SqlType} {s : List Char} (h : Documented t s) :
    s.count ',' = commas t := by
  obtain ⟨word, params, h, rfl⟩ := h
  have hword : word.count ',' = 0 := List.count_eq_zero.2 (h.notMem_word (.inr rfl))
  simp [hword, h.count_params]

/-! ## What is passed over -/

/-- What a reading of the type passes over between its parameters and the closing parenthesis:
every parameter behind a scale, and a second one that is no scale, with all that follows it. -/
inductive PassedOver : SqlType → List Char → Prop
  | nothing {t : SqlType} : PassedOver t []
  | further {precision scale : UInt16} {more : List Char} :
      PassedOver (.decimal (some precision) (some scale)) (',' :: more)
  | second {precision : UInt16} {q behind : List Char} : ',' ∉ q →
      (∀ scale : UInt16, ¬IsNumeral scale.toNat (trim q)) →
      (∀ c, behind.head? = some c → c = ',') →
      PassedOver (.decimal (some precision) none) (',' :: (q ++ behind))

theorem PassedOver.eq_nil {t : SqlType} {extra : List Char} (h : PassedOver t extra)
    (hcomma : ',' ∉ extra) : extra = [] := by
  cases h with
  | nothing => rfl
  | further => exact absurd List.mem_cons_self hcomma
  | second => exact absurd List.mem_cons_self hcomma

/-- A text up to its first comma. -/
theorem exists_eq_append_behind (s : List Char) :
    ∃ q behind, s = q ++ behind ∧ ',' ∉ q ∧ ∀ c, behind.head? = some c → c = ',' := by
  by_cases h : ',' ∈ s
  · obtain ⟨q, more, rfl, hq⟩ := List.eq_append_cons_of_mem h
    exact ⟨q, ',' :: more, rfl, hq, fun c hc => (Option.some.inj hc).symm⟩
  · exact ⟨s, [], (List.append_nil s).symm, h, nofun⟩

theorem exists_of_decimalOf? {word all : List Char} {t : SqlType}
    (hword : String.ofList (trim word) ∈ decimalWords) (h : decimalOf? all = some t) :
    ∃ params extra, Declares t word params ∧ PassedOver t extra ∧ all = params ++ extra := by
  by_cases hcomma : ',' ∈ all
  · obtain ⟨p, more, rfl, hp⟩ := List.eq_append_cons_of_mem hcomma
    obtain ⟨q, behind, rfl, hq, hbehind⟩ := exists_eq_append_behind more
    rw [decimalOf?_append hp hq hbehind] at h
    obtain ⟨precision, hprecision, rfl⟩ := Option.map_eq_some_iff.1 h
    have hprecision := digitCount?_eq_some_iff.1 hprecision
    cases hscale : digitCount? q with
    | none =>
      refine ⟨p, _, .decimal hword hprecision, .second hq (fun scale hnumeral => ?_) hbehind, rfl⟩
      rw [digitCount?_eq_some_iff.2 hnumeral] at hscale
      cases hscale
    | some scale =>
      refine ⟨_, behind, .scaled hword hprecision (digitCount?_eq_some_iff.1 hscale), ?_, by simp⟩
      cases behind with
      | nil => exact .nothing
      | cons c more =>
        rw [hbehind c rfl]
        exact .further
  · rw [decimalOf?_of_notMem hcomma] at h
    obtain ⟨precision, hprecision, rfl⟩ := Option.map_eq_some_iff.1 h
    exact ⟨all, [], .decimal hword (digitCount?_eq_some_iff.1 hprecision), .nothing,
      (List.append_nil all).symm⟩

/-- What is behind a precision that is read without a scale. -/
theorem decimalOf?_precision {precision : UInt16} {p extra : List Char}
    (hp : IsNumeral precision.toNat (trim p))
    (h : PassedOver (.decimal (some precision) none) extra) :
    decimalOf? (p ++ extra) = some (.decimal (some precision) none) := by
  have hcomma := comma_notMem_of_isNumeral hp
  cases h with
  | nothing =>
    rw [List.append_nil, decimalOf?_of_notMem hcomma, digitCount?_eq_some_iff.2 hp, Option.map_some]
  | @second _ q behind hq hscale hbehind =>
    have hnone : digitCount? q = none := Option.eq_none_iff_forall_ne_some.2 fun scale heq =>
      hscale scale (digitCount?_eq_some_iff.1 heq)
    rw [decimalOf?_append hcomma hq hbehind, digitCount?_eq_some_iff.2 hp, hnone, Option.map_some]

theorem decimalOf?_scale {precision scale : UInt16} {p q extra : List Char}
    (hp : IsNumeral precision.toNat (trim p)) (hq : IsNumeral scale.toNat (trim q))
    (h : PassedOver (.decimal (some precision) (some scale)) extra) :
    decimalOf? ((p ++ ',' :: q) ++ extra) = some (.decimal (some precision) (some scale)) := by
  have hbehind : ∀ c, extra.head? = some c → c = ',' := by
    cases h with
    | nothing => nofun
    | further => exact fun c hc => (Option.some.inj hc).symm
  rw [List.append_assoc, List.cons_append, decimalOf?_append (comma_notMem_of_isNumeral hp)
    (comma_notMem_of_isNumeral hq) hbehind, digitCount?_eq_some_iff.2 hp,
    digitCount?_eq_some_iff.2 hq, Option.map_some]

/-! ## What is read as a type with parameters -/

/-- A type with parameters is read where its form stands, whatever is passed over. -/
theorem ofParameterized?_eq_some_iff {s : List Char} {t : SqlType} :
    ofParameterized? s = some t ↔ ∃ word params extra rest, Declares t word params ∧
      PassedOver t extra ∧ ')' ∉ rest ∧ s = word ++ '(' :: (params ++ extra ++ ')' :: rest) := by
  constructor
  · intro h
    obtain ⟨word, all, hall, hword⟩ := exists_of_ofParameterized? h
    obtain ⟨rest, -, hrest, hs⟩ := parameters?_eq_some_iff.1 hall
    obtain hword | hword := hword
    · rw [ofParameterized?_text hall hword] at h
      obtain ⟨n, hn, rfl⟩ := Option.map_eq_some_iff.1 h
      refine ⟨word, all, [], rest, .text hword (length?_eq_some_iff.1 hn), .nothing, hrest, ?_⟩
      rw [hs, List.append_nil]
    · rw [ofParameterized?_decimal hall hword] at h
      obtain ⟨params, extra, hdeclares, hextra, rfl⟩ := exists_of_decimalOf? hword h
      exact ⟨word, params, extra, rest, hdeclares, hextra, hrest, hs⟩
  · rintro ⟨word, params, extra, rest, hdeclares, hextra, hrest, hs⟩
    have hparams : parameters? s = some (word, params ++ extra) :=
      parameters?_eq_some_iff.2 ⟨rest, hdeclares.notMem_word (.inl rfl), hrest, hs⟩
    cases hdeclares with
    | text hword hk =>
      cases hextra
      rw [ofParameterized?_text hparams hword, List.append_nil, length?_eq_some_iff.2 hk,
        Option.map_some]
    | decimal hword hp =>
      rw [ofParameterized?_decimal hparams hword, decimalOf?_precision hp hextra]
    | scaled hword hp hq =>
      rw [ofParameterized?_decimal hparams hword, decimalOf?_scale hp hq hextra]

/-! ## The reading -/

/-- The type states a length or a precision. -/
inductive HasParameters : SqlType → Prop
  | text (n : UInt32) : HasParameters (.text (some n))
  | decimal (precision : UInt16) (scale : Option UInt16) :
      HasParameters (.decimal (some precision) scale)

theorem Declares.hasParameters {t : SqlType} {word params : List Char}
    (h : Declares t word params) : HasParameters t := by
  cases h with
  | text => exact .text _
  | decimal => exact .decimal _ none
  | scaled => exact .decimal _ (some _)

theorem HasParameters.isScalar {t : SqlType} (h : HasParameters t) : t.IsScalar := by
  cases h <;> nofun

theorem HasParameters.notMem_keywordTypes {t : SqlType} (h : HasParameters t) :
    t ∉ keywordTypes := by
  cases h <;> simp [keywordTypes]

theorem hasParameters_of_ofParameterized? {s : List Char} {t : SqlType}
    (h : ofParameterized? s = some t) : HasParameters t := by
  obtain ⟨word, params, extra, rest, hdeclares, -⟩ := ofParameterized?_eq_some_iff.1 h
  exact hdeclares.hasParameters

theorem isScalar_ofScalarText (text : List Char) : (ofScalarText text).IsScalar := by
  intro e
  simp only [ofScalarText]
  cases hkeyword : ofKeyword? (String.ofList (upper text)) with
  | some t =>
    rintro rfl
    exact absurd (mem_keywordTypes hkeyword) (by simp [keywordTypes])
  | none =>
    cases hparams : ofParameterized? (upper text) with
    | none =>
      intro h
      cases h
    | some t => exact (hasParameters_of_ofParameterized? hparams).isScalar e

theorem ofScalarText_eq_iff {text : List Char} {t : SqlType} (ht : HasParameters t) :
    ofScalarText text = t ↔ ofParameterized? (upper text) = some t := by
  constructor
  · rintro rfl
    simp only [ofScalarText] at ht ⊢
    cases hkeyword : ofKeyword? (String.ofList (upper text)) with
    | some t =>
      rw [hkeyword] at ht
      exact absurd (mem_keywordTypes hkeyword) ht.notMem_keywordTypes
    | none =>
      rw [hkeyword] at ht
      cases hparams : ofParameterized? (upper text) with
      | none =>
        rw [hparams] at ht
        cases ht
      | some t => rfl
  · intro h
    obtain ⟨word, params, extra, rest, -, -, -, htext⟩ := ofParameterized?_eq_some_iff.1 h
    have hopen : '(' ∈ upper text := htext ▸ List.mem_append_right _ List.mem_cons_self
    rw [ofScalarText_of_mem hopen, h, Option.getD_some]

/-- A text is of a form that states a type exactly when it is read as the type, ends in a
parenthesis, and has no comma but that of the form. -/
theorem documented_iff {s : List Char} {t : SqlType} : Documented t s ↔
    ofParameterized? s = some t ∧ s.getLast? = some ')' ∧ s.count ',' = commas t := by
  constructor
  · intro h
    refine ⟨?_, h.getLast?, h.count_comma⟩
    obtain ⟨word, params, hdeclares, rfl⟩ := h
    exact ofParameterized?_eq_some_iff.2
      ⟨word, params, [], [], hdeclares, .nothing, List.not_mem_nil, by rw [List.append_nil]⟩
  · rintro ⟨h, hlast, hcount⟩
    obtain ⟨word, params, extra, rest, hdeclares, hextra, hrest, rfl⟩ :=
      ofParameterized?_eq_some_iff.1 h
    have hrest : rest = [] := by
      obtain rfl | ⟨front, c, rfl⟩ := List.eq_nil_or_concat' rest
      · rfl
      · have hshape : word ++ '(' :: (params ++ extra ++ ')' :: (front ++ [c])) =
            (word ++ '(' :: (params ++ extra ++ ')' :: front)) ++ [c] := by simp
        rw [hshape, List.getLast?_concat] at hlast
        have hmem : c ∈ front ++ [c] := List.mem_append_right _ List.mem_cons_self
        exact absurd (Option.some.inj hlast ▸ hmem) hrest
    have hextra : extra = [] := by
      have hsum : params.count ',' + extra.count ',' ≤ commas t := by
        rw [← hcount]
        simp only [List.count_append, List.count_cons]
        omega
      rw [hdeclares.count_params] at hsum
      exact hextra.eq_nil (List.count_eq_zero.1 (by omega))
    exact ⟨word, params, hdeclares, by rw [hrest, hextra, List.append_nil]⟩

/-- **What is read as a type with parameters.** Every text is one without brackets at its end and a
number of brackets behind it. The text without brackets is read as a type with parameters exactly
when it has the form of the type up to what is passed over; it has the form and nothing else exactly
when, besides, it ends in a parenthesis and has no comma but that of the form; and any other text
with a parenthesis is the name of an unknown type. -/
theorem ofText_parameters (s : String) : (∃ text n, Bracketed text n s.toList) ∧
    ∀ text n, Bracketed text n s.toList →
      (∀ m t, HasParameters t → (ofText s = arrayOf m t ↔ m = n ∧
        ∃ word params extra rest, Declares t word params ∧ PassedOver t extra ∧ ')' ∉ rest ∧
          upper text = word ++ '(' :: (params ++ extra ++ ')' :: rest))) ∧
        (∀ t, Documented t (upper text) ↔ HasParameters t ∧ ofText s = arrayOf n t ∧
          (upper text).getLast? = some ')' ∧ (upper text).count ',' = commas t) ∧
        ('(' ∈ upper text → (∀ t, HasParameters t → ofText s ≠ arrayOf n t) →
          ofText s = arrayOf n (.unknown (String.ofList (upper text)))) := by
  refine ⟨exists_bracketed s.toList, fun text n h => ?_⟩
  have hread : ofText s = arrayOf n (ofScalarText text) := ofReversed_of_bracketed h
  have hiff (m : Nat) {t : SqlType} (ht : HasParameters t) :
      ofText s = arrayOf m t ↔ m = n ∧ ofParameterized? (upper text) = some t := by
    rw [hread, arrayOf_eq_arrayOf_iff (isScalar_ofScalarText text) ht.isScalar,
      ofScalarText_eq_iff ht, eq_comm (a := n)]
  refine ⟨fun m t ht => ?_, fun t => ?_, fun hopen hnone => ?_⟩
  · rw [hiff m ht, ofParameterized?_eq_some_iff]
  · rw [documented_iff]
    constructor
    · rintro ⟨hparams, hend⟩
      have ht := hasParameters_of_ofParameterized? hparams
      exact ⟨ht, (hiff n ht).2 ⟨rfl, hparams⟩, hend⟩
    · rintro ⟨ht, htext, hend⟩
      exact ⟨((hiff n ht).1 htext).2, hend⟩
  · have hparams : ofParameterized? (upper text) = none :=
      Option.eq_none_iff_forall_ne_some.2 fun t ht =>
        have hparameters := hasParameters_of_ofParameterized? ht
        hnone t hparameters ((hiff n hparameters).2 ⟨rfl, ht⟩)
    rw [hread, ofScalarText_of_mem hopen, hparams, Option.getD_none]

/-- A second parameter that is no number, and a word behind the parenthesis, in an array. -/
theorem malformedDecimal_read :
    Bracketed "decimal( +010 , x ) y".toList 1 " decimal( +010 , x ) y [] ".toList ∧
      HasParameters (.decimal (some 10) none) ∧
      ofText " decimal( +010 , x ) y [] " = arrayOf 1 (.decimal (some 10) none) ∧
      ¬Documented (.decimal (some 10) none) (upper "decimal( +010 , x ) y".toList) := by
  have htrimmed : IsTrimmed "decimal( +010 , x ) y".toList := by
    have htrim : trim "decimal( +010 , x ) y".toList = "decimal( +010 , x ) y".toList := by
      decide +kernel
    exact htrim ▸ isTrimmed_trim _
  have hblank : ∀ c ∈ [' '], isBlank c = true := List.all_eq_true.1 (by decide)
  have hempty : ∀ c ∈ ([] : List Char), isBlank c = true := List.all_eq_true.1 (by decide)
  have hs : " decimal( +010 , x ) y [] ".toList =
      [' '] ++ ((([] ++ ("decimal( +010 , x ) y".toList ++ [' '])) ++ ['[', ']']) ++ [' ']) := by
    decide +kernel
  have hbracketed : Bracketed "decimal( +010 , x ) y".toList 1
      " decimal( +010 , x ) y [] ".toList := by
    rw [hs]
    exact .blanks hblank hblank (.brackets (.blanks hempty hblank (.bare htrimmed (by decide))))
  obtain ⟨hread, hdocumented, -⟩ := (ofText_parameters _).2 _ _ hbracketed
  have ht : HasParameters (.decimal (some 10) none) := .decimal 10 none
  have hprecision : IsNumeral (10 : UInt16).toNat (trim " +010 ".toList) :=
    ⟨"010".toList, .inr (by decide +kernel), by decide, List.all_eq_true.1 (by decide), by decide⟩
  have hsecond : PassedOver (.decimal (some 10) none) (',' :: (" X ".toList ++ [])) :=
    .second (by decide) (fun _ h => notMem_of_isNumeral h (c := 'X') (by decide) (by decide)
      (by decide) (by decide)) nofun
  exact ⟨hbracketed, ht, (hread 1 _ ht).2 ⟨rfl, "DECIMAL".toList, " +010 ".toList, _, " Y".toList,
    .decimal (by decide +kernel) hprecision, hsecond, by decide, by decide +kernel⟩,
    fun h => absurd ((hdocumented _).1 h).2.2.1 (by decide +kernel)⟩

/-- The text is read as a type with parameters of whose form it is not. -/
def Misread (s : String) : Prop :=
  ∃ text n t, Bracketed text n s.toList ∧ HasParameters t ∧ ofText s = arrayOf n t ∧
    ¬Documented t (upper text)

theorem misread_of {s : String} {t : SqlType} (htrim : trim s.toList = s.toList)
    (hbrackets : ¬['[', ']'] <:+ s.toList) (ht : HasParameters t) (hread : ofText s = t)
    (hform : ¬((upper s.toList).getLast? = some ')' ∧ (upper s.toList).count ',' = commas t)) :
    Misread s := by
  have hbare : Bracketed s.toList 0 s.toList := .bare (htrim ▸ isTrimmed_trim _) hbrackets
  exact ⟨_, 0, t, hbare, ht, hread, fun h => hform ⟨h.getLast?, h.count_comma⟩⟩

/-- Texts of which a part is dropped: a scale that is no number, a third parameter, a word behind
the parenthesis, and brackets that are not those of an array. -/
theorem misread_texts : Misread "DECIMAL(10,x)" ∧ Misread "DECIMAL(10,2,3)" ∧
    Misread "VARCHAR(10) x" ∧ Misread "VARCHAR(10)[3]" :=
  ⟨misread_of (by decide +kernel) (by decide) (.decimal 10 none) (by decide +kernel)
      (by decide +kernel),
    misread_of (by decide +kernel) (by decide) (.decimal 10 (some 2)) (by decide +kernel)
      (by decide +kernel),
    misread_of (by decide +kernel) (by decide) (.text 10) (by decide +kernel) (by decide +kernel),
    misread_of (by decide +kernel) (by decide) (.text 10) (by decide +kernel) (by decide +kernel)⟩

end SetQuery.SqlType
