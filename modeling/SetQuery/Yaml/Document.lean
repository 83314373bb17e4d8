import SetQuery.Yaml.Scanner

/-!
# Documents of YAML

A document is a tree of scalars, sequences and mappings in which a node may be named by an anchor
and referred to by an alias. Where the text is not well formed the tree ends in `Node.broken`, so
that whoever reads the tree in the order of the text notices a fault in the data before it, and only
then the fault in the text.

Anchors are numbered by how many names are known when they are met. A number that is given twice
belongs to the later node.
-/

namespace SetQuery.Yaml

/-- A node of a document. -/
inductive Node
  /-- A scalar, and whether it is written without quotes. -/
  | scalar (text : String) (plain : Bool)
  | sequence (items : List Node)
  | mapping (entries : List (Node × Node))
  | anchored (id : Nat) (node : Node)
  | aliasOf (id : Nat)
  /-- The place where the text stops to be well formed. -/
  | broken
deriving Repr, Inhabited

/-- The node of nothing. -/
def Node.nothing : Node := .scalar "" true

namespace Node

mutual

/-- The last node that an anchor of the given number names. -/
def named? (id : Nat) : Node → Option Node
  | .scalar _ _ => none
  | .sequence items => namedInItems? id items
  | .mapping entries => namedInEntries? id entries
  | .anchored k node =>
    match node.named? id with
    | some found => some found
    | none => if k = id then some node else none
  | .aliasOf _ => none
  | .broken => none

/-- The last node of some items that an anchor of the given number names. -/
def namedInItems? (id : Nat) : List Node → Option Node
  | [] => none
  | item :: rest =>
    match namedInItems? id rest with
    | some found => some found
    | none => item.named? id

/-- The last node of some entries that an anchor of the given number names. -/
def namedInEntries? (id : Nat) : List (Node × Node) → Option Node
  | [] => none
  | (key, value) :: rest =>
    match namedInEntries? id rest with
    | some found => some found
    | none =>
      match value.named? id with
      | some found => some found
      | none => key.named? id

end

end Node

/-! ## Reading nodes -/

/-- The tokens that are left, and the numbers of the anchors that are known. -/
structure Stream where
  tokens : List Token
  names : List (String × Nat) := []
deriving Repr

namespace Stream

/-- The stream behind its first token. -/
def next (s : Stream) : Stream := { s with tokens := s.tokens.drop 1 }

/-- The stream behind which nothing can be read. -/
def stop (s : Stream) : Stream := { s with tokens := [] }

/-- The number for an anchor, and the stream in which its name is known. -/
def declare (s : Stream) (name : String) : Nat × Stream :=
  let id := s.names.length
  (id, { s with names := (name, id) :: s.names.filter (·.1 ≠ name) })

/-- The anchor in front of a node, whether there is an anchor or a tag, and what is behind them. -/
def properties (s : Stream) : Option String × Bool × Stream :=
  match s.tokens with
  | .anchor name :: .tag :: rest => (some name, true, { s with tokens := rest })
  | .tag :: .anchor name :: rest => (some name, true, { s with tokens := rest })
  | .anchor name :: rest => (some name, true, { s with tokens := rest })
  | .tag :: rest => (none, true, { s with tokens := rest })
  | _ => (none, false, s)

/-- Whether the next token satisfies a condition. -/
def followedBy (s : Stream) (p : Token → Bool) : Bool := s.tokens.head?.any p

end Stream

/-- What kinds of nodes may stand at a place. -/
structure Context where
  /-- Whether blocks may stand there. -/
  block : Bool
  /-- Whether a sequence may stand there that is not indented. -/
  unindented : Bool := false

/-- Whether a token ends an item of a block sequence. -/
def endsBlockItem (t : Token) : Bool := t ∈ [.blockEntry, .blockEnd]

/-- Whether a token ends an item of a sequence that is not indented. -/
def endsUnindentedItem (t : Token) : Bool := t ∈ [.blockEntry, .key, .value, .blockEnd]

/-- Whether a token ends a key or a value of a block mapping. -/
def endsBlockMember (t : Token) : Bool := t ∈ [.key, .value, .blockEnd]

/-- Whether a token ends a key of a flow mapping. -/
def endsFlowKey (t : Token) : Bool := t ∈ [.value, .flowEntry, .flowMappingEnd]

/-- Whether a token ends a value of a flow mapping. -/
def endsFlowValue (t : Token) : Bool := t ∈ [.flowEntry, .flowMappingEnd]

/-- Whether a token ends a key of a pair in a flow sequence. -/
def endsPairKey (t : Token) : Bool := t ∈ [.value, .flowEntry, .flowSequenceEnd]

/-- Whether a token ends a value of a pair in a flow sequence. -/
def endsPairValue (t : Token) : Bool := t ∈ [.flowEntry, .flowSequenceEnd]

mutual

/-- The node at the start of a stream. -/
def readNode (fuel : Nat) (c : Context) (s : Stream) : Node × Stream :=
  match fuel with
  | 0 => (.broken, s.stop)
  | fuel + 1 =>
    match s.tokens with
    | .aliasOf name :: _ =>
      match s.names.lookup name with
      | some id => (.aliasOf id, s.next)
      | none => (.broken, s.stop)
    | _ =>
      let (name?, hasProperties, s) := s.properties
      match name? with
      | some name =>
        let (id, s) := s.declare name
        let (node, s) := readContent fuel c true s
        (.anchored id node, s)
      | none => readContent fuel c hasProperties s

/-- The node at the start of a stream behind its anchor and tag, which may stand for nothing. -/
def readContent (fuel : Nat) (c : Context) (mayBeNothing : Bool) (s : Stream) : Node × Stream :=
  match fuel with
  | 0 => (.broken, s.stop)
  | fuel + 1 =>
    match s.tokens with
    | [] => (.broken, s)
    | .scalar text plain :: _ => (.scalar text plain, s.next)
    | .flowSequenceStart :: _ =>
      let (items, s) := readFlowItems fuel true s.next
      (.sequence items, s)
    | .flowMappingStart :: _ =>
      let (entries, s) := readFlowEntries fuel true s.next
      (.mapping entries, s)
    | t :: _ =>
      if c.unindented && t == .blockEntry then
        let (items, s) := readUnindentedItems fuel s
        (.sequence items, s)
      else if c.block && t == .blockSequenceStart then
        let (items, s) := readBlockItems fuel s.next
        (.sequence items, s)
      else if c.block && t == .blockMappingStart then
        let (entries, s) := readBlockEntries fuel s.next
        (.mapping entries, s)
      else if mayBeNothing then (.nothing, s)
      else (.broken, s.stop)

/-- The node at the start of a stream, which is nothing if its end follows at once. -/
def readOptional (fuel : Nat) (c : Context) (ends : Token → Bool) (s : Stream) : Node × Stream :=
  match fuel with
  | 0 => (.broken, s.stop)
  | fuel + 1 => if s.followedBy ends then (.nothing, s) else readNode fuel c s

/-- The items of a block sequence. -/
def readBlockItems (fuel : Nat) (s : Stream) : List Node × Stream :=
  match fuel with
  | 0 => ([.broken], s.stop)
  | fuel + 1 =>
    match s.tokens with
    | .blockEntry :: _ =>
      let (item, s) := readOptional fuel { block := true } endsBlockItem s.next
      let (items, s) := readBlockItems fuel s
      (item :: items, s)
    | .blockEnd :: _ => ([], s.next)
    | _ => ([.broken], s.stop)

/-- The items of a sequence that is not indented. -/
def readUnindentedItems (fuel : Nat) (s : Stream) : List Node × Stream :=
  match fuel with
  | 0 => ([.broken], s.stop)
  | fuel + 1 =>
    match s.tokens with
    | .blockEntry :: _ =>
      let (item, s) := readOptional fuel { block := true } endsUnindentedItem s.next
      let (items, s) := readUnindentedItems fuel s
      (item :: items, s)
    | [] => ([.broken], s)
    | _ => ([], s)

/-- The entries of a block mapping. -/
def readBlockEntries (fuel : Nat) (s : Stream) : List (Node × Node) × Stream :=
  match fuel with
  | 0 => ([(.broken, .broken)], s.stop)
  | fuel + 1 =>
    match s.tokens with
    | .key :: _ =>
      let context := { block := true, unindented := true }
      let (key, s) := readOptional fuel context endsBlockMember s.next
      let (value, s) := readValue fuel context endsBlockMember s
      let (entries, s) := readBlockEntries fuel s
      ((key, value) :: entries, s)
    | .blockEnd :: _ => ([], s.next)
    | _ => ([(.broken, .broken)], s.stop)

/-- The value of a mapping at the start of a stream, which is nothing if there is no mark of one. -/
def readValue (fuel : Nat) (c : Context) (ends : Token → Bool) (s : Stream) : Node × Stream :=
  match fuel with
  | 0 => (.broken, s.stop)
  | fuel + 1 =>
    match s.tokens with
    | [] => (.broken, s)
    | .value :: _ => readOptional fuel c ends s.next
    | _ => (.nothing, s)

/-- The items of a flow sequence; all but the first one follow a comma. -/
def readFlowItems (fuel : Nat) (first : Bool) (s : Stream) : List Node × Stream :=
  match fuel with
  | 0 => ([.broken], s.stop)
  | fuel + 1 =>
    let here := if !first && s.followedBy (· == .flowEntry) then s.next else s
    match here.tokens with
    | .flowSequenceEnd :: _ => ([], here.next)
    | t :: _ =>
      if !first && !s.followedBy (· == .flowEntry) then ([.broken], s.stop)
      else
        let (item, s) :=
          if t = .key then readPair fuel here.next else readNode fuel { block := false } here
        let (items, s) := readFlowItems fuel false s
        (item :: items, s)
    | [] => ([.broken], s.stop)

/-- A pair of a flow sequence: a mapping with one entry. A key that is absent takes the token in its
place with it. -/
def readPair (fuel : Nat) (s : Stream) : Node × Stream :=
  match fuel with
  | 0 => (.broken, s.stop)
  | fuel + 1 =>
    let (key, s) :=
      if s.followedBy endsPairKey then (.nothing, s.next) else readNode fuel { block := false } s
    let (value, s) := readValue fuel { block := false } endsPairValue s
    (.mapping [(key, value)], s)

/-- The entries of a flow mapping; all but the first one follow a comma. -/
def readFlowEntries (fuel : Nat) (first : Bool) (s : Stream) : List (Node × Node) × Stream :=
  match fuel with
  | 0 => ([(.broken, .broken)], s.stop)
  | fuel + 1 =>
    let here := if !first && s.followedBy (· == .flowEntry) then s.next else s
    match here.tokens with
    | .flowMappingEnd :: _ => ([], here.next)
    | t :: _ =>
      if !first && !s.followedBy (· == .flowEntry) then ([(.broken, .broken)], s.stop)
      else
        let ((key, value), s) :=
          if t = .key then
            let (key, s) := readOptional fuel { block := false } endsFlowKey here.next
            let (value, s) := readValue fuel { block := false } endsFlowValue s
            ((key, value), s)
          else
            let (key, s) := readNode fuel { block := false } here
            ((key, if s.tokens.isEmpty then .broken else .nothing), s)
        let (entries, s) := readFlowEntries fuel false s
        ((key, value) :: entries, s)
    | [] => ([(.broken, .broken)], s.stop)

end

/-! ## Whole documents -/

/-- The first document of a text. -/
structure Document where
  root : Node
  /-- Whether the text is well formed to its end and has no other document. -/
  complete : Bool
deriving Repr

/-- Whether a token ends a document before it has begun. -/
def endsDocument (t : Token) : Bool := t ∈ [.directive, .documentStart, .documentEnd, .streamEnd]

/-- The root of the first document in a stream. An empty stream has nothing for a root. -/
def readRoot (fuel : Nat) (s : Stream) : Node × Stream :=
  match s.tokens with
  | [] => (.broken, s)
  | .streamEnd :: _ => (.nothing, s)
  | .directive :: .documentStart :: rest | .documentStart :: rest =>
    readOptional fuel { block := true } endsDocument { s with tokens := rest }
  | .directive :: _ => (.broken, s.stop)
  | _ => readNode fuel { block := true } s

/-- The first document of a text. Reading takes at most four calls in a row for each token. -/
def document (text : String) : Document :=
  let found := tokens text
  let (root, s) := readRoot (4 * found.length + 4) { tokens := found }
  ⟨root, s.tokens.dropWhile (· == .documentEnd) == [.streamEnd]⟩

/-- Whether a text is a single well-formed document, whatever its data are. -/
def isWellFormed (text : String) : Bool := (document text).complete

end SetQuery.Yaml
