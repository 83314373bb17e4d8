import SetQuery.SortedMap
import SetQuery.Yaml.Document
import SetQuery.Yaml.Error
import SetQuery.Yaml.Value

/-!
# Reading typed data from YAML

A cursor stands at a node of a document and knows the path to it. The readers accept a node of the
expected shape and otherwise say what they found where. Nodes are read in the order of the text, and
the first fault ends the reading.

Nothing at all is a null, an empty sequence, an empty mapping or an empty record, whichever is
expected.
-/

namespace SetQuery.Yaml

/-- A place in a document. -/
structure Cursor where
  root : Node
  path : List Step
  node : Node

/-- A reader of the data at a place. -/
abbrev Reader (α : Type) := Cursor → Except Error α

namespace Cursor

/-- The cursor at the node that an alias refers to; any other node is as it is, without its
anchor. -/
def follow (c : Cursor) : Cursor :=
  match c.node with
  | .aliasOf id => { c with node := (c.root.named? id).getD .broken }
  | .anchored _ node => { c with node := node }
  | _ => c

/-- The cursor at a node inside, one step further. -/
def inside (c : Cursor) (step : Step) (node : Node) : Cursor := ⟨c.root, c.path ++ [step], node⟩

/-- The fault of data of the wrong shape at the place. -/
def fault {α : Type} (c : Cursor) (e : ShapeError) : Except Error α := .error (.shape c.path e)

/-- The fault of finding something else than expected. -/
def unexpected {α : Type} (c : Cursor) (expected : String) : Except Error α :=
  match c.node with
  | .scalar text plain => c.fault (.invalidType (foundScalar text plain) expected)
  | .sequence _ => c.fault (.invalidType .sequence expected)
  | .mapping _ => c.fault (.invalidType .map expected)
  | .anchored _ _ => .error .syntaxFault
  | .aliasOf _ => .error .syntaxFault
  | .broken => .error .syntaxFault

/-! ## Scalars -/

/-- The text of a scalar of any kind. -/
def readTextAs (expected : String) : Reader String := fun c =>
  let c := c.follow
  match c.node with
  | .scalar text _ => .ok text
  | _ => c.unexpected expected

/-- A text. -/
def readText : Reader String := readTextAs "a string"

/-- A truth value. -/
def readBool : Reader Bool := fun c =>
  let c := c.follow
  match c.node with
  | .scalar text true =>
    match boolean? text with
    | some value => .ok value
    | none => c.unexpected "a boolean"
  | _ => c.unexpected "a boolean"

/-- A natural number below `2 ^ 64`. -/
def readNatural : Reader Nat := fun c =>
  let c := c.follow
  match c.node with
  | .scalar text true =>
    match natural? text with
    | some value => .ok value
    | none => c.unexpected "u64"
  | _ => c.unexpected "u64"

/-- One of several names. -/
def readName {α : Type} (options : List (String × α)) : Reader α := fun c =>
  let c := c.follow
  match c.node with
  | .scalar text _ =>
    match alternative options text with
    | .ok value => .ok value
    | .error e => c.fault e
  | _ => c.unexpected "a YAML tag starting with '!'"

/-- A value that may be null. -/
def readOption {α : Type} (read : Reader α) : Reader (Option α) := fun c =>
  let c := c.follow
  match c.node with
  | .scalar text true => if isNull text then .ok none else (read c).map some
  | _ => (read c).map some

/-! ## Collections -/

/-- The items of a list, each with its position. -/
def readItems {α : Type} (read : Reader α) (c : Cursor) (position : Nat) :
    List Node → Except Error (List α)
  | [] => .ok []
  | item :: rest => do
    let value ← read (c.inside (.index position) item)
    let values ← readItems read c (position + 1) rest
    return value :: values

/-- A list. -/
def readList {α : Type} (read : Reader α) : Reader (List α) := fun c =>
  let c := c.follow
  match c.node with
  | .sequence items => readItems read c 0 items
  | .scalar "" true => .ok []
  | _ => c.unexpected "a sequence"

/-- The step to the value of a key. -/
def keyStep : Node → Step
  | .scalar text _ => .key text
  | .anchored _ (.scalar text _) => .key text
  | _ => .unnamedKey

/-- The entries of a mapping; the reader of keys is given the text of each. -/
def readEntries {α : Type} (name : Cursor → String → Except Error String) (read : Reader α)
    (c : Cursor) : List (Node × Node) → Except Error (List (String × α))
  | [] => .ok []
  | (key, value) :: rest => do
    let text ← readText { c with node := key }
    let key' ← name c text
    let value ← read (c.inside (keyStep key) value)
    let values ← readEntries name read c rest
    return (key', value) :: values

/-- A mapping from names to values; of two entries for a name the later one counts. -/
def readMapAs {α : Type} (name : Cursor → String → Except Error String) (read : Reader α) :
    Reader (SortedMap α) := fun c =>
  let c := c.follow
  match c.node with
  | .mapping entries => (readEntries name read c entries).map SortedMap.ofList
  | .scalar "" true => .ok .empty
  | _ => c.unexpected "a map"

/-- A mapping from texts to values. -/
def readMap {α : Type} (read : Reader α) : Reader (SortedMap α) := readMapAs (fun _ => .ok) read

/-! ## Records -/

/-- A field of a record: its key, and how its value changes the record. -/
structure RecordField (σ : Type) where
  key : String
  read : σ → Reader σ
  required : Bool := false

/-- A field whose value is put into the record. -/
def RecordField.of {σ α : Type} (key : String) (read : Reader α) (put : σ → α → σ) :
    RecordField σ where
  key := key
  read := fun record c => (read c).map (put record)

/-- A field that must be there. -/
def RecordField.mustBe {σ : Type} (f : RecordField σ) : RecordField σ := { f with required := true }

/-- The record after the given entries, behind fields that were read already; and all fields that
were read. -/
def readFields {σ : Type} (fields : List (RecordField σ)) (c : Cursor) (seen : List String)
    (record : σ) :
    List (Node × Node) → Except Error (List String × σ)
  | [] => .ok (seen, record)
  | (key, value) :: rest => do
    let name ← readTextAs "field identifier" { c with node := key }
    match fields.find? (·.key = name) with
    | none => c.fault (.unknownField name (fields.map (·.key)))
    | some field =>
      if name ∈ seen then c.fault (.duplicateField name)
      else
        let record ← field.read record (c.inside (keyStep key) value)
        readFields fields c (name :: seen) record rest

/-- The record, if all required fields were read. -/
def requireFields {σ : Type} (fields : List (RecordField σ)) (c : Cursor) (seen : List String)
    (record : σ) : Except Error σ :=
  match fields.find? fun field => field.required && field.key ∉ seen with
  | some field => c.fault (.missingField field.key)
  | none => .ok record

/-- A record of the given title, which starts from what it is without any field. -/
def readRecord {σ : Type} (title : String) (fields : List (RecordField σ)) (start : σ) : Reader σ :=
  fun c =>
    let c := c.follow
    match c.node with
    | .mapping entries => do
      let (seen, record) ← readFields fields c [] start entries
      requireFields fields c seen record
    | .scalar "" true => requireFields fields c [] start
    | _ => c.unexpected ("struct " ++ title)

end Cursor

/-- The data that a text gives, if it is a single well-formed document of the expected shape. A
fault in the shape of the document is reported before a fault behind the document. -/
def read {α : Type} (reader : Reader α) (text : String) : Except Error α :=
  let d := document text
  match reader ⟨d.root, [], d.root⟩ with
  | .error e => .error e
  | .ok value => if d.complete then .ok value else .error .syntaxFault

end SetQuery.Yaml
