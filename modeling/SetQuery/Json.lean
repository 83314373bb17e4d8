import SetQuery.Shape

/-!
# JSON values

The members of an object keep their order: written objects list their members as they were put
together, and read ones in ascending order of the names. `Json.pretty` writes one value or member
per line, two blanks deeper for each level; `Json.compact` writes everything on one line.
-/

namespace SetQuery

/-- A JSON value. -/
inductive Json
  | null
  | bool (value : Bool)
  | int (value : Int)
  /-- A number with a fraction: `mantissa · 10 ^ -places`. -/
  | fraction (mantissa : Int) (places : Nat)
  | string (value : String)
  | array (items : List Json)
  | object (members : List (String × Json))
deriving Repr, Inhabited

namespace Json

/-! ## Writing -/

/-- A character inside a JSON string. -/
def escaped (c : Char) : List Char :=
  match c with
  | '"' => ['\\', '"']
  | '\\' => ['\\', '\\']
  | '\n' => ['\\', 'n']
  | '\r' => ['\\', 'r']
  | '\t' => ['\\', 't']
  | '\x08' => ['\\', 'b']
  | '\x0C' => ['\\', 'f']
  | _ =>
    if c.toNat < 0x20 then
      '\\' :: 'u' :: '0' :: '0' :: Nat.digitChar (c.toNat / 16) :: [Nat.digitChar (c.toNat % 16)]
    else [c]

/-- The string in quotes. -/
def quote (s : String) : String := String.ofList ('"' :: s.toList.flatMap escaped ++ ['"'])

/-- The text of `mantissa · 10 ^ -places`. -/
def fractionText (mantissa : Int) (places : Nat) : String :=
  let digits := Nat.toDigits 10 mantissa.natAbs
  let digits := List.replicate (places + 1 - digits.length) '0' ++ digits
  let cut := digits.length - places
  (if mantissa < 0 then "-" else "") ++
    String.ofList (digits.take cut ++ '.' :: digits.drop cut)

/-- The text of a value without parts; the text is empty for an array or object. -/
def atom : Json → String
  | .null => "null"
  | .bool true => "true"
  | .bool false => "false"
  | .int value => toString value
  | .fraction mantissa places => fractionText mantissa places
  | .string value => quote value
  | .array _ => ""
  | .object _ => ""

mutual

/-- The text of a value on lines that start with the indentation. -/
def prettyAt (indent : String) : Json → String
  | .array [] => "[]"
  | .array items => "[\n" ++ prettyItems (indent ++ "  ") items ++ "\n" ++ indent ++ "]"
  | .object [] => "\x7b\x7d"
  | .object members =>
    "\x7b\n" ++ prettyMembers (indent ++ "  ") members ++ "\n" ++ indent ++ "\x7d"
  | value => value.atom

/-- The items of an array, each on its own line. -/
def prettyItems (indent : String) : List Json → String
  | [] => ""
  | [item] => indent ++ prettyAt indent item
  | item :: rest => indent ++ prettyAt indent item ++ ",\n" ++ prettyItems indent rest

/-- The members of an object, each on its own line. -/
def prettyMembers (indent : String) : List (String × Json) → String
  | [] => ""
  | [(name, value)] => indent ++ quote name ++ ": " ++ prettyAt indent value
  | (name, value) :: rest =>
    indent ++ quote name ++ ": " ++ prettyAt indent value ++ ",\n" ++ prettyMembers indent rest

end

/-- The value over several lines. -/
def pretty (value : Json) : String := prettyAt "" value

mutual

/-- The value on one line. -/
def compact : Json → String
  | .array items => "[" ++ compactItems items ++ "]"
  | .object members => "\x7b" ++ compactMembers members ++ "\x7d"
  | value => value.atom

/-- The items of an array with commas between them. -/
def compactItems : List Json → String
  | [] => ""
  | [item] => compact item
  | item :: rest => compact item ++ "," ++ compactItems rest

/-- The members of an object with commas between them. -/
def compactMembers : List (String × Json) → String
  | [] => ""
  | [(name, value)] => quote name ++ ":" ++ compact value
  | (name, value) :: rest => quote name ++ ":" ++ compact value ++ "," ++ compactMembers rest

end

/-- A value that may be absent; an absent one is written as null. -/
def ofOption {α : Type} (f : α → Json) : Option α → Json
  | some value => f value
  | none => .null

end Json

end SetQuery
