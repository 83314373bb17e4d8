import SetQuery.Text.Blank

/-!
# Tokens of SQL

A text is cut into tokens with their positions. Blanks and comments only separate tokens. A quoted
token reaches to its closing quote, a doubled quote inside standing for one.
-/

namespace SetQuery.Sql

/-- A place in a text; both numbers start at 1. -/
structure Position where
  line : Nat
  column : Nat
deriving DecidableEq, Repr, Inhabited

namespace Position

/-- The first place of a text. -/
def start : Position := ⟨1, 1⟩

/-- The place behind a character. -/
def next (p : Position) (c : Char) : Position :=
  if c = '\n' then ⟨p.line + 1, 1⟩ else ⟨p.line, p.column + 1⟩

/-- The place behind a run of characters. -/
def after (p : Position) (s : List Char) : Position := s.foldl next p

end Position

/-- What a token is. -/
inductive TokenKind
  | word | number | quoted | symbol
deriving DecidableEq, Repr

/-- A token, with the text by which messages show it. -/
structure Token where
  kind : TokenKind
  text : String
  position : Position
deriving DecidableEq, Repr

/-! ## How far a token reaches -/

/-- Whether a word may start with the character. -/
def startsWord (c : Char) : Bool := c.isAlpha || c == '_'

/-- Whether a word may go on with the character. -/
def continuesWord (c : Char) : Bool := c.isAlphanum || c == '_'

/-- The number of characters up to and with the closing quote, or of all if there is none. -/
def quotedLength (closing : Char) : List Char → Nat
  | [] => 0
  | [_] => 1
  | c :: d :: r =>
    if c ≠ closing then 1 + quotedLength closing (d :: r)
    else if d = closing then 2 + quotedLength closing r
    else 1

/-- The number of characters up to and with the end of a comment that is open the given number of
times; comments nest. -/
def commentLength : Nat → List Char → Nat
  | _, [] => 0
  | depth, '/' :: '*' :: r => 2 + commentLength (depth + 1) r
  | depth, '*' :: '/' :: r => if depth = 1 then 2 else 2 + commentLength (depth - 1) r
  | depth, _ :: r => 1 + commentLength depth r

/-- The number of leading digits. -/
def digitsLength (s : List Char) : Nat := (s.takeWhile Char.isDigit).length

/-- The number of characters of an exponent at the start of a text. -/
def exponentLength : List Char → Nat
  | c :: r =>
    let sign := match r with
      | '+' :: _ | '-' :: _ => 1
      | _ => 0
    let digits := digitsLength (r.drop sign)
    if (c = 'e' ∨ c = 'E') ∧ digits ≠ 0 then 1 + sign + digits else 0
  | [] => 0

/-- The number of characters of a fraction at the start of a text. -/
def fractionLength : List Char → Nat
  | '.' :: r => 1 + digitsLength r
  | _ => 0

/-- The number of characters of a number at the start of a text. -/
def numberLength (s : List Char) : Nat :=
  let whole := digitsLength s
  let fraction := fractionLength (s.drop whole)
  whole + fraction + exponentLength (s.drop (whole + fraction))

/-- The symbols of more than one character, longer ones first. -/
def longSymbols : List String :=
  ["<=>", "->>", "<>", "<=", ">=", "!=", "==", "=>", "||", "::", ":=", "->", "<<", ">>", "&&"]

/-- The number of characters of a symbol at the start of a text. -/
def symbolLength (s : List Char) : Nat :=
  ((longSymbols.find? fun symbol => symbol.toList.isPrefixOf s).map String.length).getD 1

/-- The text that a quoted token shows: doubled quotes inside count once. -/
def undoubled (closing : Char) : List Char → List Char
  | c :: d :: r => if c = closing ∧ d = closing then c :: undoubled closing r
      else c :: undoubled closing (d :: r)
  | s => s

/-- The kind and the length of what starts a text; blanks and comments have no kind. -/
def scan (c : Char) (r : List Char) : Option TokenKind × Nat :=
  match c, r with
  | '-', '-' :: rest => (none, 1 + (rest.takeWhile (· != '\n')).length)
  | '/', '*' :: rest => (none, 1 + commentLength 1 rest)
  | '\'', r => (some .quoted, quotedLength '\'' r)
  | '"', r => (some .quoted, quotedLength '"' r)
  | '\x60', r => (some .quoted, quotedLength '\x60' r)
  | c, r =>
    if Text.isBlank c then (none, 0)
    else if startsWord c then (some .word, (r.takeWhile continuesWord).length)
    else if c.isDigit || (c == '.' && digitsLength r != 0) then
      (some .number, numberLength (c :: r) - 1)
    else (some .symbol, symbolLength (c :: r) - 1)

/-- The text by which messages show a token. -/
def shown (kind : TokenKind) (source : List Char) : String :=
  match kind, source with
  | .quoted, c :: r => String.ofList (c :: undoubled c r.dropLast ++ r.drop (r.length - 1))
  | .symbol, ['!', '='] => "<>"
  | _, source => String.ofList source

/-- The tokens of a text that starts at a position. -/
def tokensFrom (p : Position) : List Char → List Token
  | [] => []
  | c :: r =>
    let (kind?, length) := scan c r
    let source := c :: r.take length
    let rest := tokensFrom (p.after source) (r.drop length)
    match kind? with
    | some kind => ⟨kind, shown kind source, p⟩ :: rest
    | none => rest
termination_by s => s.length
decreasing_by simp only [List.length_drop, List.length_cons]; omega

/-- The tokens of a text. -/
def tokens (sql : String) : List Token := tokensFrom .start sql.toList

end SetQuery.Sql
