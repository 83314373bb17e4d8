import SetQuery.Text.CaseTable
import SetQuery.Text.Blank

/-!
# Upper and lower case

The full case mappings: a character maps to a list of characters, a text to the concatenation of
the images. One character depends on its neighbours: a capital sigma at the end of a word becomes
the final form in lower case.
-/

namespace SetQuery.Text

/-- Look a code point up in runs and expansions; a point in neither maps to itself. -/
def caseImage (expansions : List (Nat × List Nat)) (runs : List CaseRun) (n : Nat) : List Nat :=
  match expansions.lookup n with
  | some image => image
  | none => [(runs.findSome? (·.image? n)).getD n]

/-- The upper-case form of a character. -/
def upperChar (c : Char) : List Char :=
  if c.toNat < 0x80 then [c.toUpper]
  else (caseImage upperExpansions upperRuns c.toNat).map Char.ofNat

/-- The lower-case form of a character that stands inside a word. -/
def lowerChar (c : Char) : List Char :=
  if c.toNat < 0x80 then [c.toLower]
  else (caseImage lowerExpansions lowerRuns c.toNat).map Char.ofNat

/-- The text in upper case. -/
def upper (s : List Char) : List Char := s.flatMap upperChar

/-! ## The final sigma -/

/-- Whether a code point lies in one of the runs. -/
def inRuns (runs : List (Nat × Nat)) (n : Nat) : Bool :=
  runs.any fun (first, last) => first ≤ n && n ≤ last

/-- Whether the first character that is not ignorable is a letter with case. -/
def startsCased : List Char → Bool
  | [] => false
  | c :: r => if inRuns caseIgnorableRuns c.toNat then startsCased r else inRuns casedRuns c.toNat

/-- Lower case of a text, given the reversed text before it. A capital sigma is final if a letter
with case comes before it and none after it. -/
def lowerAfter (before : List Char) : List Char → List Char
  | [] => []
  | c :: r =>
    let image :=
      if c = 'Σ' then
        if startsCased before && !startsCased r then ['ς'] else ['σ']
      else lowerChar c
    image ++ lowerAfter (c :: before) r

/-- The text in lower case. -/
def lower (s : List Char) : List Char := lowerAfter [] s

/-- The string in lower case for the letters A to Z only. -/
def asciiLower (s : String) : String := s.map Char.toLower

end SetQuery.Text
