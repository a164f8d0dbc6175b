import LoadBalancer.Document.Node
import LoadBalancer.Document.Yaml.Token
import LoadBalancer.Table

/-!
# Trees of YAML tokens

* `Source` – the tokens that are left, and the names and nodes that references go by;
* `readNode` – the node that begins here;
* `Yaml.read` – the first document of a text.

Tokens end with the end of the text, so where there is no token the text is malformed; after a fault
all tokens that are left are dropped.

A name gets a number when a node is named by it: the number of different names before. An alias is a
reference to the number that its name has there. Of the nodes with one number, the one that begins
last counts. So a name that is used again may take the number of the next new name.

Lists never stand for records.
-/

namespace LoadBalancer.Document.Yaml

/-- The tokens that are left, with what is known before them. -/
structure Source where
  tokens : List Token
  /-- What the handles of tags stand for. -/
  handles : Handles
  /-- The numbers of the names so far. -/
  names : Table String Nat
  /-- The named nodes so far, the one that began last first. -/
  named : List (Nat × Node)

namespace Source

/-- The source in front of a document. -/
def start (handles : Handles) (tokens : List Token) : Source :=
  ⟨tokens, handles, Table.empty, []⟩

/-- The source without its first token. -/
def drop (s : Source) : Source := { s with tokens := s.tokens.drop 1 }

/-- The source after a fault. -/
def fail (s : Source) : Source := { s with tokens := [] }

/-- The next token is one of these. -/
def sees (s : Source) (ts : List Token) : Bool :=
  s.tokens.head?.any ts.contains

/-- There is one more token. -/
def goesOn (s : Source) : Bool := !s.tokens.isEmpty

end Source

/-- Nothing where a value is expected. -/
def absent : Node := .scalar (.plain "")

/-- Nothing, if there is one more token to show it. -/
def readAbsent (s : Source) : Node × Source :=
  (if s.goesOn then absent else .broken, s)

/-- Name and tag of the node here, which may come in either order, and the tokens after them. -/
def properties : List Token → Option String × Option TagText × List Token
  | .anchor a :: .tag t :: rest => (some a, some t, rest)
  | .tag t :: .anchor a :: rest => (some a, some t, rest)
  | .anchor a :: rest => (some a, none, rest)
  | .tag t :: rest => (none, some t, rest)
  | rest => (none, none, rest)

/-- A scalar with its tag, if it has one. -/
def scalarNode (tag : Option (Option String)) (style : Style) (text : String) : Node :=
  .scalar (match tag, style with
    | some t, _ => .tagged t style text
    | none, .plain => .plain text
    | none, _ => .text text)

/-- A node under its name, which already stands for it inside of it. -/
def withName (name : Option String) (s : Source) (read : Source → Node × Source) : Node × Source :=
  match name with
  | none => read s
  | some a =>
    let number := s.names.size
    let (node, t) := read { s with names := s.names.put a number, named := [] }
    let named := match node with
      | .broken => s.named
      | _ => (number, node) :: s.named
    (node, { t with named := t.named ++ named })

mutual

/-- The node that begins here. Inside of brackets there are no blocks; as a key or a value of a block,
a list need not be indented. Every call takes a token or is made by one that does, so `fuel` may be
four times the number of tokens. -/
def readNode (block indentless : Bool) : Nat → Source → Node × Source
  | 0, s => (.broken, s.fail)
  | fuel + 1, s =>
    match s.tokens with
    | .alias name :: _ =>
      match s.names.get? name with
      | some number => (.reference number, s.drop)
      | none => (.broken, s.fail)
    | tokens =>
      let (name, written, rest) := properties tokens
      let described := name.isSome || written.isSome
      match written.mapM s.handles.meaning with
      | none => (.broken, s.fail)
      | some tag =>
        withName name { s with tokens := rest } fun s =>
          match s.tokens with
          | .scalar style t :: _ => (scalarNode tag style t, s.drop)
          | .flowSequence :: _ =>
            let (items, closed, s) := readFlowItems true fuel s.drop
            (.list false items closed, s)
          | .flowMapping :: _ =>
            let (entries, closed, s) := readFlowEntries true fuel s.drop
            (.record entries closed, s)
          | t :: _ =>
            if indentless && t == .blockEntry then
              let (items, closed, s) := readLooseItems fuel s
              (.list false items closed, s)
            else if block && t == .blockSequence then
              let (items, closed, s) := readBlockItems fuel s.drop
              (.list false items closed, s)
            else if block && t == .blockMapping then
              let (entries, closed, s) := readBlockEntries fuel s.drop
              (.record entries closed, s)
            else if described then (scalarNode tag .plain "", s)
            else (.broken, s.fail)
          | [] => (.broken, s)

/-- A node, or nothing if one of the tokens `ends` comes at once. -/
def readMaybe (block indentless : Bool) (ends : List Token) : Nat → Source → Node × Source
  | 0, s => (.broken, s.fail)
  | fuel + 1, s =>
    if s.sees ends then (absent, s) else readNode block indentless fuel s

/-- The items of an indented list, and whether its end was reached. -/
def readBlockItems : Nat → Source → List Node × Bool × Source
  | 0, s => ([], false, s.fail)
  | fuel + 1, s =>
    match s.tokens with
    | .blockEntry :: _ =>
      let (item, s) := readMaybe true false [.blockEntry, .blockEnd] fuel s.drop
      let (items, closed, s) := readBlockItems fuel s
      (item :: items, closed, s)
    | .blockEnd :: _ => ([], true, s.drop)
    | _ => ([], false, s.fail)

/-- The items of a list that is no deeper than what holds it. -/
def readLooseItems : Nat → Source → List Node × Bool × Source
  | 0, s => ([], false, s.fail)
  | fuel + 1, s =>
    match s.tokens with
    | .blockEntry :: _ =>
      let (item, s) := readMaybe true false [.blockEntry, .key, .value, .blockEnd] fuel s.drop
      let (items, closed, s) := readLooseItems fuel s
      (item :: items, closed, s)
    | _ => ([], s.goesOn, s)

/-- The entries of an indented record. -/
def readBlockEntries : Nat → Source → List (Node × Node) × Bool × Source
  | 0, s => ([], false, s.fail)
  | fuel + 1, s =>
    match s.tokens with
    | .key :: _ =>
      let (key, s) := readMaybe true true [.key, .value, .blockEnd] fuel s.drop
      let (value, s) :=
        if s.sees [.value] then readMaybe true true [.key, .value, .blockEnd] fuel s.drop
        else readAbsent s
      let (entries, closed, s) := readBlockEntries fuel s
      ((key, value) :: entries, closed, s)
    | .blockEnd :: _ => ([], true, s.drop)
    | _ => ([], false, s.fail)

/-- The items of a list in brackets; between two of them stands a comma. An item may be a record of
one entry without braces of its own. -/
def readFlowItems (first : Bool) : Nat → Source → List Node × Bool × Source
  | 0, s => ([], false, s.fail)
  | fuel + 1, s =>
    if s.sees [.flowSequenceEnd] then ([], true, s.drop)
    else if !first && !s.sees [.flowEntry] then ([], false, s.fail)
    else
      let s := if first then s else s.drop
      if s.sees [.flowSequenceEnd] then ([], true, s.drop)
      else if !s.goesOn then ([], false, s)
      else
        let (item, s) :=
          if s.sees [.key] then readPair fuel s.drop else readNode false false fuel s
        let (items, closed, s) := readFlowItems false fuel s
        (item :: items, closed, s)

/-- A record of one entry, after the mark of its key. A key that is missing takes the token that
stands in its place with it. -/
def readPair : Nat → Source → Node × Source
  | 0, s => (.broken, s.fail)
  | fuel + 1, s =>
    let (key, s) :=
      if s.sees [.value, .flowEntry, .flowSequenceEnd] then (absent, s.drop)
      else readNode false false fuel s
    let (value, s) :=
      if s.sees [.value] then readMaybe false false [.flowEntry, .flowSequenceEnd] fuel s.drop
      else readAbsent s
    (.record [(key, value)] s.goesOn, s)

/-- The entries of a record in braces; between two of them stands a comma. -/
def readFlowEntries (first : Bool) : Nat → Source → List (Node × Node) × Bool × Source
  | 0, s => ([], false, s.fail)
  | fuel + 1, s =>
    if s.sees [.flowMappingEnd] then ([], true, s.drop)
    else if !first && !s.sees [.flowEntry] then ([], false, s.fail)
    else
      let s := if first then s else s.drop
      if s.sees [.flowMappingEnd] then ([], true, s.drop)
      else if !s.goesOn then ([], false, s)
      else
        let marked := s.sees [.key]
        let (key, s) :=
          if marked then readMaybe false false [.value, .flowEntry, .flowMappingEnd] fuel s.drop
          else readNode false false fuel s
        let (value, s) :=
          if marked && s.sees [.value] then
            readMaybe false false [.flowEntry, .flowMappingEnd] fuel s.drop
          else readAbsent s
        let (entries, closed, s) := readFlowEntries false fuel s
        ((key, value) :: entries, closed, s)

end

/-! ### Documents -/

/-- A text without any value. -/
def malformed : Whole := ⟨.broken, [], false⟩

/-- A document that begins here. A document that is announced may be empty. -/
def readContent (announced : Bool) (s : Source) : Whole :=
  let isEmpty := announced && s.tokens.head?.any fun t =>
    match t with
    | .directive _ => true
    | t => [.documentStart, .documentEnd, .textEnd].contains t
  let (root, s) := if isEmpty then (absent, s) else readNode true false (4 * s.tokens.length + 8) s
  ⟨root, s.named, s.tokens.dropWhile (· == .documentEnd) != [.textEnd]⟩

/-- The first document among the tokens of a text. -/
def readDocument (tokens : List Token) : Whole :=
  let directive? (t : Token) : Option Directive := match t with
    | .directive d => some d
    | _ => none
  let directives := tokens.takeWhile fun t => (directive? t).isSome
  match tokens.drop directives.length, Handles.ofDirectives (directives.filterMap directive?) with
  | .documentStart :: rest, some handles => readContent true (Source.start handles rest)
  | .textEnd :: _, _ => if directives.isEmpty then ⟨absent, [], false⟩ else malformed
  | rest, _ =>
    if directives.isEmpty then readContent false (Source.start Handles.default rest) else malformed

/-- The first document of a text. -/
def read (s : String) : Whole :=
  readDocument (Token.scan s.toList)

end LoadBalancer.Document.Yaml
