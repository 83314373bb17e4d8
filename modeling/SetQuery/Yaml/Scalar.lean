import SetQuery.Text.Numeral
import SetQuery.Yaml.Token

/-!
# Scalars of YAML

A scalar may go on over several lines. Line ends inside plain and quoted scalars are folded: one of
them becomes a space, and of several the first is dropped. The blanks around them are dropped too.
A scalar in block form keeps its lines, or folds those that are not indented further.
-/

namespace SetQuery.Yaml

/-! ## Gaps -/

/-- The blanks and line ends between two words of a scalar. -/
inductive Gap
  /-- Blanks on one line. -/
  | blanks (s : List Char)
  /-- Line ends; the first one is absent if it was escaped. -/
  | breaks (first : Option Char) (more : List Char)
deriving Repr

namespace Gap

/-- The gap with one more blank. -/
def addBlank (c : Char) : Gap → Gap
  | .blanks s => .blanks (s ++ [c])
  | gap => gap

/-- The gap with one more line end. -/
def addBreak (c : Char) : Gap → Gap
  | .blanks _ => .breaks (some c) []
  | .breaks first more => .breaks first (more ++ [c])

/-- Whether there is nothing between the words. -/
def isEmpty : Gap → Bool
  | .blanks s => s.isEmpty
  | .breaks _ _ => false

/-- Whether there is a line end between the words. -/
def hasBreak : Gap → Bool
  | .blanks _ => false
  | .breaks _ _ => true

/-- What the gap becomes in the scalar. -/
def folded : Gap → List Char
  | .blanks s => s
  | .breaks none more => more
  | .breaks (some first) more =>
    if first ≠ '\n' then first :: more
    else if more.isEmpty then [' '] else more

end Gap

/-! ## Plain scalars -/

/-- A scalar and what follows it. -/
structure Scanned where
  text : List Char
  /-- Whether the scanner went past a line end behind the scalar. -/
  pastBreak : Bool := false
  rest : List Char
deriving Repr

/-- Whether a plain scalar ends at a gap, before the given text. -/
def endsAtGap (inFlow : Bool) (indent : Nat) (p : Place) (s : List Char) : Bool :=
  (!inFlow && p.column < indent) || (p.column == 0 && atMarker s) || s.head? == some '#'

/-- Whether the character separates items of a flow collection. -/
def isFlowIndicator (c : Char) : Bool := c ∈ [',', '[', ']', '{', '}']

/-- Whether a plain scalar ends inside a line, before the given text. -/
def endsInLine (inFlow : Bool) : List Char → Bool
  | ':' :: r => atGap r
  | c :: _ => inFlow && isFlowIndicator c
  | [] => true

/-- Whether a colon stands where it is neither text nor the mark of a value. -/
def isStrayColon (inFlow : Bool) : List Char → Bool
  | ':' :: c :: _ => inFlow && (isFlowIndicator c || c == '?')
  | _ => false

/-- The rest of a plain scalar, given the part before in reverse and the gap behind that part. -/
def plainFrom (inFlow : Bool) (indent : Nat) (before : List Char) (gap : Gap) (p : Place) :
    List Char → Option Scanned
  | [] => some ⟨before.reverse, gap.hasBreak, []⟩
  | c :: r =>
    if isBlank c then
      if gap.hasBreak && p.column < indent && c == '\t' then none
      else plainFrom inFlow indent before (gap.addBlank c) (p.next c) r
    else if isBreak c then plainFrom inFlow indent before (gap.addBreak c) (p.next c) r
    else if !gap.isEmpty && endsAtGap inFlow indent p (c :: r) then
      some ⟨before.reverse, gap.hasBreak, c :: r⟩
    else if isStrayColon inFlow (c :: r) then none
    else if endsInLine inFlow (c :: r) then some ⟨before.reverse, gap.hasBreak, c :: r⟩
    else plainFrom inFlow indent (c :: gap.folded.reverse ++ before) (.blanks []) (p.next c) r

/-- The plain scalar at the start of a text. -/
def plainScalar (inFlow : Bool) (indent : Nat) (p : Place) (s : List Char) : Option Scanned :=
  plainFrom inFlow indent [] (.blanks []) p s

/-! ## Quoted scalars -/

/-- What stands before the closing quote and what stands behind it. A quote is no closing one if it
is doubled, between single quotes, or follows a backslash, between double quotes. -/
def toClosing (quote : Char) : List Char → Option (List Char × List Char)
  | [] => none
  | [c] => if c = quote then some ([], []) else none
  | c :: d :: r =>
    if (quote = '\'' ∧ c = '\'' ∧ d = '\'') ∨ (quote = '"' ∧ c = '\\') then
      (toClosing quote r).map fun (inside, rest) => (c :: d :: inside, rest)
    else if c = quote then some ([], d :: r)
    else (toClosing quote (d :: r)).map fun (inside, rest) => (c :: inside, rest)

/-- The character that a letter behind a backslash stands for. -/
def namedEscape? : Char → Option Char
  | '0' => some '\x00'
  | 'a' => some '\x07'
  | 'b' => some '\x08'
  | 't' | '\t' => some '\t'
  | 'n' => some '\n'
  | 'v' => some '\x0B'
  | 'f' => some '\x0C'
  | 'r' => some '\r'
  | 'e' => some '\x1B'
  | ' ' => some ' '
  | '"' => some '"'
  | '/' => some '/'
  | '\\' => some '\\'
  | 'N' => some '\u0085'
  | '_' => some '\u00A0'
  | 'L' => some '\u2028'
  | 'P' => some '\u2029'
  | _ => none

/-- The number of hexadecimal digits that follow a letter behind a backslash. -/
def codeLength : Char → Nat
  | 'x' => 2
  | 'u' => 4
  | 'U' => 8
  | _ => 0

/-- The character of a code in hexadecimal. -/
def codeEscape? (digits : List Char) : Option Char :=
  match Text.digits? 16 digits with
  | some n => if h : n.isValidChar then some (Char.ofNatAux n h) else none
  | none => none

/-- The character for what follows a backslash, and how many more characters belong to it. -/
def escape? (letter : Char) (r : List Char) : Option (Char × Nat) :=
  let n := codeLength letter
  if n = 0 then (namedEscape? letter).map fun c => (c, 0)
  else if r.length < n then none
  else (codeEscape? (r.take n)).map fun c => (c, n)

/-- The text of what stands between quotes, given the gap before it. A mark between documents at
the start of a line is a fault. -/
def unquoted (quote : Char) (lineStart : Bool) (gap : Gap) : List Char → Option (List Char)
  | [] => some gap.folded
  | c :: r =>
    if isBlank c then unquoted quote false (gap.addBlank c) r
    else if isBreak c then unquoted quote true (gap.addBreak c) r
    else if lineStart && r.length ≥ 3 && atMarker (c :: r) then none
    else if quote == '\'' then
      let doubled := if c = '\'' then 1 else 0
      (unquoted quote false (.blanks []) (r.drop doubled)).map (gap.folded ++ c :: ·)
    else if c == '\\' then
      match r with
      | [] => none
      | d :: r =>
        if isBreak d then (unquoted quote true (.breaks none []) r).map (gap.folded ++ ·)
        else (escape? d r).bind fun (x, n) =>
          (unquoted quote false (.blanks []) (r.drop n)).map (gap.folded ++ x :: ·)
    else (unquoted quote false (.blanks []) r).map (gap.folded ++ c :: ·)
termination_by s => s.length
decreasing_by all_goals simp only [List.length_drop, List.length_cons]; omega

/-- The quoted scalar whose opening quote stands before a text. -/
def quotedScalar (quote : Char) (s : List Char) : Option Scanned := do
  let (inside, rest) ← toClosing quote s
  let text ← unquoted quote false (.blanks []) inside
  return { text := text, rest := rest }

/-! ## Scalars in block form -/

/-- A line and the character that ends it, which the last line may lack. -/
structure Line where
  content : List Char
  ending : Option Char
deriving Repr

/-- The characters of the line. -/
def Line.chars (l : Line) : List Char := l.content ++ l.ending.toList

/-- The number of spaces at the start of the line. -/
def Line.spaces (l : Line) : Nat := (l.content.takeWhile (· == ' ')).length

/-- The lines of a text. -/
def linesOf : List Char → List Line
  | [] => []
  | c :: r =>
    if isBreak c then ⟨[], some c⟩ :: linesOf r
    else match linesOf r with
      | [] => [⟨[c], none⟩]
      | l :: rest => ⟨c :: l.content, l.ending⟩ :: rest

/-- What happens to the line ends at the end of a scalar in block form. -/
inductive Chomping
  | strip | clip | keep
deriving DecidableEq, Repr

/-- The first line of a scalar in block form. -/
structure BlockHeader where
  chomping : Chomping := .clip
  /-- The stated indentation of the content, if any. -/
  increment : Option Nat := none
deriving Repr

/-- The chomping that a character asks for. -/
def chomping? : Char → Option Chomping
  | '-' => some .strip
  | '+' => some .keep
  | _ => none

/-- The header with what a character asks for, if it asks for something new. -/
def BlockHeader.add? (h : BlockHeader) (c : Char) : Option BlockHeader :=
  match chomping? c with
  | some chomping => if h.chomping = .clip then some { h with chomping := chomping } else none
  | none => if h.increment.isNone ∧ c.isDigit ∧ c ≠ '0' then
      some { h with increment := some (c.toNat - '0'.toNat) } else none

/-- The header that the rest of a first line gives. -/
def blockHeader? (h : BlockHeader) : List Char → Option BlockHeader
  | [] => some h
  | c :: r =>
    match h.add? c with
    | some h => blockHeader? h r
    | none =>
      match (c :: r).dropWhile isBlank with
      | [] => some h
      | d :: _ => if d = '#' then some h else none

/-- Whether a tab stands where the line should be indented. -/
def Line.tabIndented (l : Line) (indent : Option Nat) : Bool :=
  (indent.all (l.spaces < ·)) && (l.content.drop l.spaces).head? == some '\t'

/-- Whether the line has no content at an indentation. -/
def Line.isEmpty (l : Line) (indent : Nat) : Bool :=
  l.spaces == l.content.length && l.spaces ≤ indent && l.ending.isSome

/-- The indentation of a scalar: the largest number of spaces on its first lines, up to the first
one with content. -/
def firstIndent (indent : Nat) : List Line → Option Nat
  | [] => some indent
  | l :: rest =>
    if l.tabIndented none then none
    else if l.isEmpty l.spaces then firstIndent (max indent l.spaces) rest
    else some (max indent l.spaces)

/-- A line of a scalar in block form: the ends of the empty lines before it, its content, and its
own end. -/
structure BlockLine where
  emptyBefore : List Char
  content : List Char
  ending : Option Char
deriving Repr

/-- The content of a scalar in block form, the ends of the empty lines behind it, and the lines
behind those. -/
def blockLines (indent : Nat) (empty : List Char) :
    List Line → Option (List BlockLine × List Char × List Line)
  | [] => some ([], empty, [])
  | l :: rest =>
    if l.tabIndented (some indent) then none
    else if l.isEmpty indent then blockLines indent (empty ++ l.ending.toList) rest
    else if l.spaces < indent ∨ l.content.length = indent then some ([], empty, l :: rest)
    else (blockLines indent [] rest).map fun (lines, after) =>
      (⟨empty, l.content.drop indent, l.ending⟩ :: lines, after)

/-- Whether the content of a line starts with a blank. -/
def BlockLine.isIndented (l : BlockLine) : Bool := l.content.head?.any isBlank

/-- What stands between two lines: in a folded scalar a single line end becomes a space, unless one
of the lines is indented further. -/
def blockGap (fold : Bool) (before : BlockLine) (l : BlockLine) : List Char :=
  if fold && before.ending == some '\n' && !before.isIndented && !l.isIndented then
    if l.emptyBefore.isEmpty then [' '] else l.emptyBefore
  else before.ending.toList ++ l.emptyBefore

/-- The text of the lines behind a line. -/
def blockTextFrom (fold : Bool) (before : BlockLine) : List BlockLine → List Char
  | [] => []
  | l :: rest => blockGap fold before l ++ l.content ++ blockTextFrom fold l rest

/-- The text of some lines and the empty lines behind them. -/
def blockText (fold : Bool) (chomping : Chomping) (lines : List BlockLine) (empty : List Char) :
    List Char :=
  let body := blockTextFrom fold ⟨[], [], none⟩ lines
  let ending := (lines.getLast?.bind (·.ending)).toList
  match chomping with
  | .strip => body
  | .clip => body ++ ending
  | .keep => body ++ ending ++ empty

/-- The scalar in block form whose indicator stands before a text. The least indentation is that of
the surrounding block and one more. -/
def blockScalar (fold : Bool) (least : Nat) (s : List Char) : Option Scanned :=
  match linesOf s with
  | [] => some { text := [], rest := [] }
  | first :: rest => do
    let header ← blockHeader? {} first.content
    let indent ← match header.increment with
      | some n => some (least - 1 + n)
      | none => firstIndent (max least 1) rest
    let (lines, empty, rest) ← blockLines indent [] rest
    return {
      text := blockText fold header.chomping lines empty
      pastBreak := true
      rest := rest.flatMap (·.chars) }

end SetQuery.Yaml
