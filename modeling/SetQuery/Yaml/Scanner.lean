import SetQuery.Yaml.Scalar

/-!
# Cutting YAML into tokens

The scanner tracks how far blocks are indented and where a key may have started. A key without a
question mark in front of it is found only when the colon behind it is met: then the tokens that
open the mapping and mark the key are put in front of it. Until then the tokens from a possible key
on are not settled.

A text with a fault gives the tokens that are settled before the fault is met, and no end of the
stream.
-/

namespace SetQuery.Yaml

/-- A place where a key may have started. -/
structure PossibleKey where
  /-- The number of tokens before it. -/
  number : Nat
  place : Place
  /-- Whether nothing but a key may stand there. -/
  required : Bool
deriving Repr

/-- The state of the scanner. -/
structure Scanner where
  rest : List Char
  place : Place := {}
  /-- The tokens so far, the latest first. -/
  tokens : List Token := []
  /-- The columns of the open blocks, the innermost first. -/
  indents : List Nat := []
  /-- Whether a key may start here. -/
  keyAllowed : Bool := true
  /-- The possible keys in the open flow collections, the innermost first, and outside them. -/
  keys : List (Option PossibleKey) := [none]
deriving Repr

namespace Scanner

/-! ## Small steps -/

/-- Whether a flow collection is open. -/
def inFlow (s : Scanner) : Bool := s.keys.length > 1

/-- The least indentation of content inside the innermost block. -/
def leastIndent (s : Scanner) : Nat := (s.indents.head?.map (· + 1)).getD 0

/-- The scanner behind the next characters. -/
def skip (s : Scanner) (n : Nat) : Scanner :=
  { s with rest := s.rest.drop n, place := s.place.after (s.rest.take n) }

/-- The scanner where only the given part of the text is left. -/
def skipTo (s : Scanner) (rest : List Char) : Scanner := s.skip (s.rest.length - rest.length)

/-- The scanner with one more token. -/
def push (s : Scanner) (t : Token) : Scanner := { s with tokens := t :: s.tokens }

/-- The scanner with a token behind the first so many. -/
def insertAt (s : Scanner) (number : Nat) (t : Token) : Scanner :=
  let later := s.tokens.length - number
  { s with tokens := s.tokens.take later ++ t :: s.tokens.drop later }

/-- The scanner after the blocks whose columns satisfy a condition have ended. -/
def closeBlocks (s : Scanner) (closes : Nat → Bool) : Scanner :=
  if s.inFlow then s
  else
    let closed := (s.indents.takeWhile closes).length
    { s with
      tokens := List.replicate closed .blockEnd ++ s.tokens
      indents := s.indents.dropWhile closes }

/-- The scanner in a block that starts at a column; the token stands behind the first so many. -/
def openBlock (s : Scanner) (column : Nat) (number : Nat) (t : Token) : Scanner :=
  if s.inFlow || !s.indents.head?.all (· < column) then s
  else { s.insertAt number t with indents := column :: s.indents }

/-- Whether a possible key cannot be one any more: it has to end on its line, and soon. -/
def isStale (s : Scanner) (key : PossibleKey) : Bool :=
  key.place.line < s.place.line || key.place.column + 1024 < s.place.column

/-- The scanner without the possible keys that cannot be keys any more. -/
def dropStaleKeys (s : Scanner) : Option Scanner :=
  if s.keys.any (·.any fun key => s.isStale key && key.required) then none
  else some { s with keys := s.keys.map (·.filter fun key => !s.isStale key) }

/-- The scanner without the possible key in the innermost collection. -/
def dropKey (s : Scanner) : Option Scanner :=
  match s.keys with
  | some key :: outer => if key.required then none else some { s with keys := none :: outer }
  | _ => some s

/-- The scanner with a possible key at its place, if a key may start there. -/
def saveKey (s : Scanner) : Option Scanner :=
  if s.keyAllowed then
    let required := !s.inFlow && s.indents.head? == some s.place.column
    s.dropKey.map fun s =>
      { s with keys := some ⟨s.tokens.length, s.place, required⟩ :: s.keys.drop 1 }
  else some s

/-- The scanner with another answer to whether a key may start. -/
def allowKey (s : Scanner) (allowed : Bool) : Scanner := { s with keyAllowed := allowed }

/-! ## Blanks and comments -/

/-- What is left behind blanks, comments and line ends, and whether a key may start there. A tab is
no blank where a key may start, except in a flow collection. -/
def behindBlanks (inFlow inComment allowed : Bool) (p : Place) : List Char → Bool × List Char
  | [] => (allowed, [])
  | c :: r =>
    if isBreak c then behindBlanks inFlow false (allowed || !inFlow) (p.next c) r
    else if inComment || c == ' ' || (c == '\t' && (inFlow || !allowed)) ||
        (c == '\uFEFF' && p.column == 0) then
      behindBlanks inFlow inComment allowed (p.next c) r
    else if c == '#' then behindBlanks inFlow true allowed (p.next c) r
    else (allowed, c :: r)

/-- The scanner behind blanks, comments and line ends. -/
def skipBlanks (s : Scanner) : Scanner :=
  let (allowed, rest) := behindBlanks s.inFlow false s.keyAllowed s.place s.rest
  (s.skipTo rest).allowKey allowed

/-! ## Tokens -/

/-- The scanner at the start of a line; it goes to the next one if it is inside a line. -/
def endLine (s : Scanner) : Scanner :=
  if s.place.column = 0 then s else { s with place := ⟨s.place.line + 1, 0⟩ }

/-- The end of the stream, which ends the last line as well. -/
def fetchEnd (s : Scanner) : Option Scanner := do
  let s ← (s.endLine.closeBlocks fun _ => true).dropKey
  return s.push .streamEnd

/-- A mark between documents. -/
def fetchMarker (s : Scanner) (t : Token) : Option Scanner := do
  let s ← (s.closeBlocks fun _ => true).dropKey
  return ((s.skip 3).push t).allowKey false

/-- A line that states the version of the language, with its end. -/
def fetchDirective (s : Scanner) : Option Scanner := do
  let s ← (s.closeBlocks fun _ => true).dropKey
  let line := s.rest.takeWhile (!isBreak ·)
  let words := (line.takeWhile (· != '#')).splitBy fun a b => isBlank a == isBlank b
  match words.filter (!·.all isBlank) with
  | [name, version] =>
    if name = "%YAML".toList ∧ (version = "1.1".toList ∨ version = "1.2".toList) then
      some (((s.skip (line.length + 1)).push .directive).allowKey false)
    else none
  | _ => none

/-- The start of a flow collection. -/
def fetchFlowStart (s : Scanner) (t : Token) : Option Scanner := do
  let s ← s.saveKey
  return (({ s with keys := none :: s.keys }.skip 1).push t).allowKey true

/-- The end of a flow collection. -/
def fetchFlowEnd (s : Scanner) (t : Token) : Option Scanner := do
  let s ← s.dropKey
  let keys := if s.inFlow then s.keys.drop 1 else s.keys
  return (({ s with keys := keys }.skip 1).push t).allowKey false

/-- A comma between the items of a flow collection. -/
def fetchFlowEntry (s : Scanner) : Option Scanner := do
  let s ← s.dropKey
  return ((s.skip 1).push .flowEntry).allowKey true

/-- A hyphen in front of an item. -/
def fetchBlockEntry (s : Scanner) : Option Scanner := do
  if !s.inFlow && !s.keyAllowed then none
  else
    let s ← (s.openBlock s.place.column s.tokens.length .blockSequenceStart).dropKey
    return ((s.skip 1).push .blockEntry).allowKey true

/-- A question mark in front of a key. -/
def fetchKey (s : Scanner) : Option Scanner := do
  if !s.inFlow && !s.keyAllowed then none
  else
    let s ← (s.openBlock s.place.column s.tokens.length .blockMappingStart).dropKey
    return ((s.skip 1).push .key).allowKey !s.inFlow

/-- A colon in front of a value. -/
def fetchValue (s : Scanner) : Option Scanner :=
  match s.keys with
  | some key :: outer =>
    let s := { s.insertAt key.number .key with keys := none :: outer }
    let s := s.openBlock key.place.column key.number .blockMappingStart
    some (((s.skip 1).push .value).allowKey false)
  | _ =>
    if !s.inFlow && !s.keyAllowed then none
    else
      let s := s.openBlock s.place.column s.tokens.length .blockMappingStart
      some (((s.skip 1).push .value).allowKey !s.inFlow)

/-- Whether the character may stand in the name of an anchor. -/
def isNameChar (c : Char) : Bool := c.isAlphanum || c == '_' || c == '-'

/-- An anchor or a reference to one. -/
def fetchAnchor (s : Scanner) (token : String → Token) : Option Scanner := do
  let s ← s.saveKey
  let name := (s.rest.drop 1).takeWhile isNameChar
  let s := s.skip (1 + name.length)
  if name.isEmpty || !(atGap s.rest || s.rest.head?.any (· ∈ "?:,]\x7d%@\x60".toList)) then none
  else some ((s.push (token (String.ofList name))).allowKey false)

/-- A tag. -/
def fetchTag (s : Scanner) : Option Scanner := do
  let s ← s.saveKey
  let tag := s.rest.takeWhile fun c => !isBlank c && !isBreak c && !(s.inFlow && isFlowIndicator c)
  return ((s.skip tag.length).push .tag).allowKey false

/-- A scalar in block form. -/
def fetchBlockScalar (s : Scanner) (fold : Bool) : Option Scanner := do
  let s ← s.dropKey
  let scanned ← blockScalar fold s.leastIndent (s.rest.drop 1)
  return ((s.skipTo scanned.rest).push (.scalar (String.ofList scanned.text) false)).allowKey true

/-- A scalar in quotes. -/
def fetchQuoted (s : Scanner) (quote : Char) : Option Scanner := do
  let s ← s.saveKey
  let scanned ← quotedScalar quote (s.rest.drop 1)
  return ((s.skipTo scanned.rest).push (.scalar (String.ofList scanned.text) false)).allowKey false

/-- A scalar without quotes. -/
def fetchPlain (s : Scanner) : Option Scanner := do
  let s ← s.saveKey
  let scanned ← plainScalar s.inFlow s.leastIndent s.place s.rest
  return ((s.skipTo scanned.rest).push (.scalar (String.ofList scanned.text) true)).allowKey
    scanned.pastBreak

/-- Whether a plain scalar may start with a character. -/
def startsPlain (inFlow : Bool) (c : Char) (r : List Char) : Bool :=
  c ∉ "-?:,[]\x7b\x7d#&*!|>'\"%@\x60 \t".toList || (c == '-' && !atGap r) ||
    (!inFlow && (c == '?' || c == ':') && !atGap r)

/-- The token at the scanner's place, which is behind all blanks. -/
def fetchHere (s : Scanner) : Option Scanner :=
  match s.rest with
  | [] => s.fetchEnd
  | c :: r =>
    if s.place.column == 0 && c == '%' then s.fetchDirective
    else if s.place.column == 0 && atMarker (c :: r) then
      s.fetchMarker (if c = '-' then .documentStart else .documentEnd)
    else if c == '[' then s.fetchFlowStart .flowSequenceStart
    else if c == '\x7b' then s.fetchFlowStart .flowMappingStart
    else if c == ']' then s.fetchFlowEnd .flowSequenceEnd
    else if c == '\x7d' then s.fetchFlowEnd .flowMappingEnd
    else if c == ',' then s.fetchFlowEntry
    else if c == '-' && atGap r then s.fetchBlockEntry
    else if c == '?' && (s.inFlow || atGap r) then s.fetchKey
    else if c == ':' && (s.inFlow || atGap r) then s.fetchValue
    else if c == '*' then s.fetchAnchor .aliasOf
    else if c == '&' then s.fetchAnchor .anchor
    else if c == '!' then s.fetchTag
    else if c == '|' && !s.inFlow then s.fetchBlockScalar false
    else if c == '>' && !s.inFlow then s.fetchBlockScalar true
    else if c == '\'' || c == '"' then s.fetchQuoted c
    else if startsPlain s.inFlow c r then s.fetchPlain
    else none

/-- The scanner behind the next token. -/
def fetch (s : Scanner) : Option Scanner := do
  let s ← s.skipBlanks.dropStaleKeys
  let s ← (s.closeBlocks (s.place.column < ·)).fetchHere
  s.dropStaleKeys

/-! ## All tokens -/

/-- The tokens that are settled: those before the first possible key. -/
def settled (s : Scanner) : List Token :=
  let first := s.keys.foldl (fun n key => (key.map (min n ·.number)).getD n) s.tokens.length
  s.tokens.reverse.take first

/-- The tokens from the scanner's state on, for a bounded number of steps. -/
def run : Nat → Scanner → List Token
  | 0, s => s.settled
  | steps + 1, s =>
    match s.fetch with
    | none => s.settled
    | some next =>
      if next.tokens.head? == some .streamEnd then next.tokens.reverse else run steps next

end Scanner

/-- The tokens of a text. Every step but the last takes at least one character. -/
def tokens (text : String) : List Token :=
  if text.toList.all isPrintable then
    Scanner.run (text.length + 1) { rest := unifyBreaks text.toList }
  else []

end SetQuery.Yaml
