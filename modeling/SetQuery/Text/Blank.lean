/-!
# Blanks, trimming and splitting

Text is taken apart as a list of characters. A *blank* is a character with the Unicode property
White_Space; `trim` removes blanks at both ends and `words` are the runs between blanks.

Main statements: `exists_eq_dropEndWhile_append` (dropping at the end removes characters of the
dropped class and nothing else) and `split_ne_nil` (a text always has a first piece).
-/

namespace SetQuery.Text

/-! ## Blanks -/

/-- The characters with the property White_Space. -/
def isBlank (c : Char) : Bool :=
  let n := c.toNat
  (9 ≤ n && n ≤ 13) || n == 0x20 || n == 0x85 || n == 0xA0 || n == 0x1680 ||
    (0x2000 ≤ n && n ≤ 0x200A) || n == 0x2028 || n == 0x2029 || n == 0x202F || n == 0x205F ||
    n == 0x3000

/-- The text without the trailing characters that satisfy `p`. -/
def dropEndWhile (p : Char → Bool) (s : List Char) : List Char :=
  (s.reverse.dropWhile p).reverse

/-- The text without its trailing blanks. -/
def trimEnd (s : List Char) : List Char := dropEndWhile isBlank s

/-- The text without the blanks at its two ends. -/
def trim (s : List Char) : List Char := trimEnd (s.dropWhile isBlank)

theorem dropEndWhile_append_takeWhile (p : Char → Bool) (s : List Char) :
    dropEndWhile p s ++ (s.reverse.takeWhile p).reverse = s := by
  rw [dropEndWhile, ← List.reverse_append, List.takeWhile_append_dropWhile, List.reverse_reverse]

/-- What `dropEndWhile` removes is a run of characters of the dropped class. -/
theorem exists_eq_dropEndWhile_append (p : Char → Bool) (s : List Char) :
    ∃ r, s = dropEndWhile p s ++ r ∧ ∀ c ∈ r, p c = true := by
  refine ⟨(s.reverse.takeWhile p).reverse, (dropEndWhile_append_takeWhile p s).symm, fun c hc => ?_⟩
  exact List.all_eq_true.1 List.all_takeWhile c (List.mem_reverse.1 hc)

@[simp] theorem trimEnd_nil : trimEnd [] = [] := rfl

@[simp] theorem trim_nil : trim [] = [] := rfl

/-! ## Splitting -/

/-- The pieces of a text between the characters that satisfy `p`. A text without such a character
is one piece, so there is always at least one. -/
def split (p : Char → Bool) : List Char → List (List Char)
  | [] => [[]]
  | c :: r =>
    if p c then [] :: split p r
    else match split p r with
      | [] => [[c]]
      | w :: ws => (c :: w) :: ws

theorem split_ne_nil (p : Char → Bool) (s : List Char) : split p s ≠ [] := by
  cases s with
  | nil => simp [split]
  | cons c r =>
    rw [split]
    split
    · simp
    · split <;> simp

/-- The runs of characters between blanks. -/
def words (s : List Char) : List (List Char) := (split isBlank s).filter (!·.isEmpty)

/-- Whether the text has two hyphens in a row. -/
def hasDoubleDash : List Char → Bool
  | '-' :: '-' :: _ => true
  | _ :: r => hasDoubleDash r
  | [] => false

/-- What follows the last newline. -/
def lastLine (s : List Char) : List Char := (s.reverse.takeWhile (· != '\n')).reverse

/-! ## On strings -/

/-- The pieces of a string between the occurrences of a character. -/
def pieces (sep : Char) (s : String) : List String :=
  (split (· == sep) s.toList).map String.ofList

end SetQuery.Text
