import SetQuery.Proofs.Text.LineComment
import SetQuery.Proofs.Text.Trim
import SetQuery.Sql.QueryText

/-!
# What is kept of the text of a query

A query loses the blanks at its ends and one run of semicolons, and may get a newline. What is kept
opens no comment on its last line (`closesComments_queryText`), so what follows it in a larger
statement is not commented out; and it is what the user wrote (`isMiddleOf_queryText`).

**Theorem (`queryText_terminator_iff`).** Behind the statement of a query its user may write blanks,
semicolons and comments. A semicolon outside of comments is left over exactly when one of them has
anything but semicolons and blanks at the end behind it: the text is trimmed once, so that a second
run of semicolons hides the first, and so does a comment. Reading a text twice gives the same as
reading it once exactly when it does not end in a semicolon.
-/

namespace SetQuery.Sql

open Text

/-! ## What is removed -/

/-- Semicolons with blanks behind them. -/
def IsTerminator (s : List Char) : Prop :=
  ∃ n back, s = List.replicate n ';' ++ back ∧ ∀ c ∈ back, isBlank c = true

theorem IsTerminator.mem {s : List Char} (h : IsTerminator s) :
    ∀ c ∈ s, isBlank c = true ∨ c = ';' := by
  obtain ⟨n, back, rfl, hback⟩ := h
  intro c hc
  rcases List.mem_append.1 hc with hc | hc
  · exact .inr (List.eq_of_mem_replicate hc)
  · exact .inl (hback c hc)

/-- The text is what is kept, behind blanks and in front of blanks and a terminator. -/
theorem exists_eq_withoutTerminator (s : List Char) : ∃ front blanks back,
    s = front ++ (withoutTerminator s ++ (blanks ++ back)) ∧ (∀ c ∈ front, isBlank c = true) ∧
      (∀ c ∈ blanks, isBlank c = true) ∧ IsTerminator back := by
  obtain ⟨front, back, hs, hfront, hback⟩ := exists_eq_trim s
  obtain ⟨ending, hending, hsemicolons⟩ := exists_eq_dropEndWhile_append (· == ';') (trim s)
  obtain ⟨blanks, hkept, hblanks⟩ :=
    exists_eq_dropEndWhile_append isBlank (dropEndWhile (· == ';') (trim s))
  have hreplicate : ending = List.replicate ending.length ';' :=
    List.eq_replicate_of_mem fun c hc => by simpa using hsemicolons c hc
  have htrim : trim s = withoutTerminator s ++ blanks ++ ending :=
    hending.trans (congrArg (· ++ ending) hkept)
  have hterminator : IsTerminator (ending ++ back) :=
    ⟨ending.length, back, congrArg (· ++ back) hreplicate, hback⟩
  refine ⟨front, blanks, ending ++ back, ?_, hfront, hblanks, hterminator⟩
  rw [htrim, List.append_assoc, List.append_assoc] at hs
  exact hs

theorem isTrimmed_withoutTerminator (s : List Char) : IsTrimmed (withoutTerminator s) := by
  refine ⟨fun c hc => ?_, fun c => eq_false_of_getLast?_dropEndWhile⟩
  -- what is kept is the front of the trimmed text
  have hprefix : withoutTerminator s <+: trim s := dropEndWhile_prefix.trans dropEndWhile_prefix
  obtain ⟨r, hr⟩ := hprefix
  refine (isTrimmed_trim s).1 c ?_
  rw [← hr, List.head?_append, hc, Option.some_or]

/-- A terminator is removed as a whole, if there is anything but blanks in front of it. -/
theorem withoutTerminator_prefix {s back : List Char} (hs : s.dropWhile isBlank ≠ [])
    (h : IsTerminator back) : withoutTerminator (s ++ back) <+: s.dropWhile isBlank := by
  obtain ⟨n, blanks, rfl, hblanks⟩ := h
  have htrim : trim (s ++ (List.replicate n ';' ++ blanks)) =
      trimEnd (s.dropWhile isBlank ++ List.replicate n ';') := by
    rw [trim, List.dropWhile_append, if_neg (by simpa using hs), ← List.append_assoc]
    exact dropEndWhile_append hblanks
  have hsemicolons : ∀ c ∈ List.replicate n ';', (c == ';') = true := fun c hc =>
    beq_iff_eq.2 (List.eq_of_mem_replicate hc)
  rw [withoutTerminator, htrim]
  refine dropEndWhile_prefix.trans ?_
  cases n with
  | zero =>
    rw [List.replicate_zero, List.append_nil]
    exact dropEndWhile_prefix.trans dropEndWhile_prefix
  | succ n =>
    -- the blanks at the end stand in front of semicolons, so trimming removes none of them
    have hlast : trimEnd (s.dropWhile isBlank ++ List.replicate (n + 1) ';') =
        s.dropWhile isBlank ++ List.replicate (n + 1) ';' := by
      refine dropEndWhile_eq_self_iff.2 fun c hc => ?_
      rw [List.replicate_succ', ← List.append_assoc, List.getLast?_concat] at hc
      rw [← Option.some.inj hc]
      rfl
    rw [hlast, dropEndWhile_append hsemicolons]
    exact dropEndWhile_prefix

/-! ## What is added -/

theorem closeComment_cases (s : List Char) : closeComment s = s ∨ closeComment s = s ++ ['\n'] := by
  unfold closeComment
  split
  · exact .inr rfl
  · exact .inl rfl

theorem toList_queryText (sql : String) :
    (queryText sql).toList = closeComment (withoutTerminator sql.toList) := String.toList_ofList

/-- **No comment of the text goes on behind it.** -/
theorem closesComments_closeComment (s : List Char) : ClosesComments (closeComment s) := by
  unfold closeComment
  split
  · rw [closesComments_iff, lastLine, List.reverse_append]
    rfl
  · next h => exact closesComments_iff.2 (Bool.not_eq_true _ ▸ h)

/-- One text is what another has between blanks in front and blanks and semicolons behind, with at
most a newline added to it. -/
def IsMiddleOf (t s : List Char) : Prop :=
  ∃ front middle back, s = front ++ (middle ++ back) ∧ (∀ c ∈ front, isBlank c = true) ∧
    (∀ c ∈ back, isBlank c = true ∨ c = ';') ∧ (t = middle ∨ t = middle ++ ['\n'])

/-- Nothing else of the text is changed, added or lost. -/
theorem isMiddleOf_queryText (sql : String) : IsMiddleOf (queryText sql).toList sql.toList := by
  obtain ⟨front, blanks, back, heq, hfront, hblanks, hback⟩ :=
    exists_eq_withoutTerminator sql.toList
  refine ⟨front, withoutTerminator sql.toList, blanks ++ back, heq, hfront, fun c hc => ?_, ?_⟩
  · exact (List.mem_append.1 hc).elim (fun hc => .inl (hblanks c hc)) (hback.mem c)
  · rw [toList_queryText]
    exact closeComment_cases _

theorem closesComments_queryText (sql : String) : ClosesComments (queryText sql).toList := by
  rw [toList_queryText]
  exact closesComments_closeComment _

/-- Under the newline at the end the text is as it was. -/
theorem trim_closeComment {s : List Char} (h : IsTrimmed s) : trim (closeComment s) = s := by
  rcases closeComment_cases s with heq | heq
  · rw [heq, h.trim_eq]
  · have hnewline : ∀ c ∈ ['\n'], isBlank c = true := List.forall_mem_singleton.2 rfl
    rw [heq, ← List.nil_append (s ++ _), trim_append (by simp) hnewline, h.trim_eq]

/-! ## A statement and what follows it -/

/-- A statement without a terminator, quotes and comments, and not followed by blanks. -/
structure IsBody (s : List Char) : Prop where
  terminator : ';' ∉ s
  quotes : ∀ quote ∈ ['\'', '"', '\x60'], quote ∉ s
  comments : ∀ mark ∈ [['-', '-'], ['/', '*'], ['*', '/']], ¬ mark <:+: s
  ends : ∃ c, s.getLast? = some c ∧ isBlank c = false

/-- What may follow a statement: blanks, semicolons and comments, each of which ends with its line
or with the text. -/
inductive IsTail : List Char → Prop
  | nil : IsTail []
  | blank {c : Char} {s : List Char} : isBlank c = true → IsTail s → IsTail (c :: s)
  | semicolon {s : List Char} : IsTail s → IsTail (';' :: s)
  | comment {text s : List Char} : '\n' ∉ text → IsTail s →
      IsTail ('-' :: '-' :: (text ++ '\n' :: s))
  | lastComment {text : List Char} : '\n' ∉ text → IsTail ('-' :: '-' :: text)

/-- Hyphens in a tail come in twos, wherever a terminator is cut off. -/
theorem IsTail.opens {s r : List Char} (h : IsTail (s ++ r))
    (hr : ∀ c ∈ r, isBlank c = true ∨ c = ';') (hs : ['-'] <+: s) : ['-', '-'] <+: s := by
  obtain ⟨s, rfl⟩ := hs
  generalize heq : ['-'] ++ s ++ r = tail at h
  have hpair {rest : List Char} (hrest : s ++ r = '-' :: rest) : ['-', '-'] <+: ['-'] ++ s := by
    cases s with
    | nil =>
      obtain rfl : r = '-' :: rest := hrest
      exact absurd (hr '-' List.mem_cons_self) (by decide)
    | cons c s =>
      obtain ⟨rfl, -⟩ := List.cons.inj hrest
      exact ⟨s, rfl⟩
  cases h with
  | nil => cases heq
  | blank hblank =>
    obtain ⟨rfl, -⟩ := List.cons.inj heq
    exact absurd hblank (by decide)
  | semicolon => exact absurd (List.cons.inj heq).1 (by decide)
  | comment => exact hpair (List.cons.inj heq).2
  | lastComment => exact hpair (List.cons.inj heq).2

section

variable {body tail : List Char} (hbody : IsBody body) (htail : IsTail tail)

include hbody

theorem IsBody.hasDoubleDash_eq_false : hasDoubleDash body = false := by
  rw [← Bool.not_eq_true, hasDoubleDash_iff]
  exact hbody.comments _ List.mem_cons_self

theorem IsBody.dropWhile_ne_nil : body.dropWhile isBlank ≠ [] := by
  obtain ⟨c, hc, hblank⟩ := hbody.ends
  intro h
  have hall := List.dropWhile_eq_nil_iff.1 h c (List.mem_of_getLast? hc)
  exact absurd hall (Bool.eq_false_iff.1 hblank)

/-- What is kept is the statement with a front of the tail, behind which blanks and a terminator
follow. -/
theorem IsBody.exists_kept (tail : List Char) : ∃ front kept blanks back,
    front ++ withoutTerminator (body ++ tail) = body ++ kept ∧ tail = kept ++ (blanks ++ back) ∧
      (∀ c ∈ front, isBlank c = true) ∧ (∀ c ∈ blanks, isBlank c = true) ∧ IsTerminator back := by
  obtain ⟨front, blanks, back, heq, hfront, hblanks, hback⟩ :=
    exists_eq_withoutTerminator (body ++ tail)
  rw [← List.append_assoc] at heq
  rcases List.append_eq_append_iff.1 heq with ⟨kept, hkept, htail⟩ | ⟨rest, hrest, hremoved⟩
  · exact ⟨front, kept, blanks, back, hkept, htail, hfront, hblanks, hback⟩
  · -- the last character of the statement is none that is removed
    have hnil : rest = [] := by
      by_contra hne
      obtain ⟨c, hc, hblank⟩ := hbody.ends
      rw [hrest, List.getLast?_append, List.getLast?_eq_getLast_of_ne_nil hne, Option.some_or] at hc
      have hmem : c ∈ rest := Option.some.inj hc ▸ List.getLast_mem hne
      have hcases : isBlank c = true ∨ c = ';' := by
        have hremoved' : c ∈ blanks ++ back := hremoved ▸ List.mem_append_left _ hmem
        exact (List.mem_append.1 hremoved').elim (fun h => .inl (hblanks c h)) (hback.mem c)
      rcases hcases with h | rfl
      · exact absurd h (Bool.eq_false_iff.1 hblank)
      · exact hbody.terminator (hrest ▸ List.mem_append_right _ hmem)
    subst hnil
    refine ⟨front, [], blanks, back, ?_, hremoved.symm, hfront, hblanks, hback⟩
    rw [List.append_nil] at hrest ⊢
    exact hrest.symm

include htail

/-- A semicolon that is kept stands in front of the terminator. -/
theorem IsBody.mem_of_mem_kept {front back : List Char} (heq : tail = front ++ back)
    (hback : IsTerminator back)
    (h : ';' ∈ outsideComments false (withoutTerminator (body ++ tail))) :
    ';' ∈ outsideComments false front := by
  have hdrop : (body ++ front).dropWhile isBlank = body.dropWhile isBlank ++ front := by
    rw [List.dropWhile_append, if_neg (by simpa using hbody.dropWhile_ne_nil)]
  have hprefix : withoutTerminator (body ++ tail) <+: body.dropWhile isBlank ++ front := by
    rw [heq, ← List.append_assoc, ← hdrop]
    refine withoutTerminator_prefix ?_ hback
    rw [hdrop]
    exact List.append_ne_nil_of_left_ne_nil hbody.dropWhile_ne_nil front
  obtain ⟨r, hr⟩ := hprefix
  have hkept := mem_outsideComments_append (by decide) h r
  have hsuffix : body.dropWhile isBlank <:+ body := List.dropWhile_suffix isBlank
  have hdashes : hasDoubleDash (body.dropWhile isBlank) = false := by
    rw [← Bool.not_eq_true, hasDoubleDash_iff]
    exact fun hdashes => hbody.comments _ List.mem_cons_self (hdashes.trans hsuffix.isInfix)
  rw [hr] at hkept
  exact (mem_outsideComments_append_iff hdashes (fun hmem => hbody.terminator (hsuffix.subset hmem))
    ((heq ▸ htail).opens hback.mem)).1 hkept

/-- **When a semicolon is kept.** None is, if all of the tail that is no comment has its semicolons
in one run at the end. -/
theorem IsBody.notMem_kept_iff : ';' ∉ outsideComments false (withoutTerminator (body ++ tail)) ↔
    ∃ front back, tail = front ++ back ∧ IsTerminator back ∧ ';' ∉ outsideComments false front := by
  constructor
  · intro h
    obtain ⟨blanks, kept, blanks', back, hkept, heq, hblank, hends, hback⟩ :=
      hbody.exists_kept tail
    refine ⟨kept ++ blanks', back, by rw [heq, List.append_assoc], hback, fun hmem => h ?_⟩
    have hmem' : ';' ∈ outsideComments false kept := by
      refine (mem_outsideComments_of_append hmem).resolve_right fun hsemicolon => ?_
      exact absurd (hends ';' hsemicolon) (by decide)
    have hopens := (heq ▸ htail).opens fun c hc =>
      (List.mem_append.1 hc).elim (fun hc => .inl (hends c hc)) (hback.mem c)
    have hbehind := (mem_outsideComments_append_iff hbody.hasDoubleDash_eq_false hbody.terminator
      hopens).2 hmem'
    have hhyphen : '-' ∉ blanks := fun hc => absurd (hblank '-' hc) (by decide)
    rw [← hkept, outsideComments_append hhyphen, List.mem_append] at hbehind
    exact hbehind.resolve_left fun hc => absurd (hblank ';' hc) (by decide)
  · rintro ⟨front, back, heq, hback, hfront⟩ h
    exact hfront (hbody.mem_of_mem_kept htail heq hback h)

end

/-! ## Embedded texts -/

theorem mem_outsideComments_closeComment_iff {s : List Char} :
    ';' ∈ outsideComments false (closeComment s) ↔ ';' ∈ outsideComments false s := by
  rcases closeComment_cases s with heq | heq
  · rw [heq]
  · rw [heq]
    refine ⟨fun h => ?_, fun h => mem_outsideComments_append (by decide) h _⟩
    exact (mem_outsideComments_of_append h).resolve_right (by decide)

/-- A text that was trimmed once is kept exactly when it does not end in a semicolon. -/
theorem closeComment_withoutTerminator_iff {s : List Char} (h : IsTrimmed s) :
    closeComment (withoutTerminator (closeComment s)) = closeComment s ↔
      s.getLast? ≠ some ';' := by
  have hagain : withoutTerminator (closeComment s) = trimEnd (dropEndWhile (· == ';') s) := by
    rw [withoutTerminator, trim_closeComment h]
  constructor
  · intro heq hlast
    have hsame := congrArg trim heq
    rw [trim_closeComment h, trim_closeComment (isTrimmed_withoutTerminator _), hagain] at hsame
    have hprefix : s <+: dropEndWhile (· == ';') s := by
      conv_lhs => rw [← hsame]
      exact dropEndWhile_prefix
    have hkept := dropEndWhile_prefix.eq_of_length_le hprefix.length_le
    exact absurd (dropEndWhile_eq_self_iff.1 hkept ';' hlast) (by decide)
  · intro hlast
    have hkept : dropEndWhile (· == ';') s = s :=
      dropEndWhile_eq_self_iff.2 fun c hc => beq_eq_false_iff_ne.2 fun heq => hlast (heq ▸ hc)
    rw [hagain, hkept, trimEnd, dropEndWhile_eq_self_iff.2 h.2]

/-- **When a terminator is left over.** -/
theorem queryText_terminator_iff {body tail : String} (hbody : IsBody body.toList)
    (htail : IsTail tail.toList) (sql : String) :
    (';' ∉ outsideComments false (queryText (body ++ tail)).toList ↔
      ∃ front back, tail.toList = front ++ back ∧ IsTerminator back ∧
        ';' ∉ outsideComments false front) ∧
    (queryText (queryText sql) = queryText sql ↔
      (trim (queryText sql).toList).getLast? ≠ some ';') := by
  constructor
  · rw [toList_queryText, String.toList_append, mem_outsideComments_closeComment_iff]
    exact hbody.notMem_kept_iff htail
  · have htrimmed := isTrimmed_withoutTerminator sql.toList
    rw [← String.toList_inj, toList_queryText (queryText sql), toList_queryText sql,
      trim_closeComment htrimmed]
    exact closeComment_withoutTerminator_iff htrimmed

theorem isBody_selectOne : IsBody "SELECT 1".toList where
  terminator := by decide
  quotes := by simp
  comments := by decide
  ends := ⟨'1', rfl, rfl⟩

/-- A comment in front of the semicolons does not keep them. -/
theorem commented_terminator_removed :
    ';' ∉ outsideComments false (queryText "SELECT 1 -- one; row\n ;; \n").toList ∧
      queryText (queryText "SELECT 1 -- one; row\n ;; \n") =
        queryText "SELECT 1 -- one; row\n ;; \n" := by
  have hcomment : IsTail ('-' :: '-' :: (" one; row".toList ++ '\n' :: " ;; \n".toList)) :=
    .comment (by decide) (.blank rfl (.semicolon (.semicolon (.blank rfl (.blank rfl .nil)))))
  have htail : IsTail " -- one; row\n ;; \n".toList := .blank rfl hcomment
  have hblanks : ∀ c ∈ " \n".toList, isBlank c = true := List.all_eq_true.1 (by decide)
  obtain ⟨hkept, hagain⟩ := queryText_terminator_iff isBody_selectOne htail
    "SELECT 1 -- one; row\n ;; \n"
  refine ⟨hkept.2 ?_, hagain.2 (by decide +kernel)⟩
  exact ⟨" -- one; row\n ".toList, ";; \n".toList, by decide, ⟨2, " \n".toList, rfl, hblanks⟩,
    by decide⟩

/-- A blank between two semicolons is enough for the first to be left over, until the text is read
once more. -/
theorem exists_terminator_left :
    (¬ ∀ body tail : String, IsBody body.toList → IsTail tail.toList →
      ';' ∉ outsideComments false (queryText (body ++ tail)).toList) ∧
    ¬ ∀ sql, trim (queryText (queryText sql)).toList = trim (queryText sql).toList := by
  have htail : IsTail "; ;".toList := .semicolon (.blank rfl (.semicolon .nil))
  constructor
  · intro h
    exact h "SELECT 1" "; ;" isBody_selectOne htail (by decide +kernel)
  · intro h
    exact absurd (h "SELECT 1; ;") (by decide +kernel)

end SetQuery.Sql
