import LoadBalancer.Document.Yaml.Tag

/-!
# Tokens of YAML

A YAML text as a list of tokens, in which indentation has become brackets of its own.

* `Token` – one token;
* `Scanner` – where the scanner stands: position, indentation, flow brackets, the tokens that wait,
  and the places where a key without a mark may have begun;
* `Scanner.step` – the next token is passed on, or one more piece of the text is scanned;
* `Token.scan` – the tokens of a text, up to its end or to the place where it is malformed.

A key is recognised by the colon behind it, so the token that marks it is put in before tokens that
are there already. Therefore a token waits as long as a key may begin with it. Tokens that wait
when the text turns out to be malformed do not count.
-/

namespace LoadBalancer.Document.Yaml

open LoadBalancer.Text

/-- A token. -/
inductive Token where
  | directive (d : Directive)
  | documentStart
  | documentEnd
  | blockSequence
  | blockMapping
  | blockEnd
  | flowSequence
  | flowSequenceEnd
  | flowMapping
  | flowMappingEnd
  | blockEntry
  | flowEntry
  | key
  | value
  | anchor (name : String)
  | alias (name : String)
  | tag (t : TagText)
  | scalar (style : Style) (text : String)
  /-- The text ends. -/
  | textEnd
  deriving DecidableEq, Repr

/-- A place where a key without a mark may have begun. -/
structure KeyPlace where
  /-- Nothing but a key may stand there. -/
  required : Bool
  /-- The number of tokens before it. -/
  number : Nat
  index : Nat
  line : Nat
  column : Nat
  deriving Repr

/-- Where the scanner stands. -/
structure Scanner where
  cursor : Cursor
  /-- The text goes on behind what is there, and cannot be read. -/
  cut : Bool
  /-- The column of the innermost block, and those of the blocks around it. -/
  indent : Int
  outer : List Int
  /-- A key without a mark may begin here. -/
  keyAllowed : Bool
  /-- The possible key on the level of the text around all brackets. -/
  blockKey : Option KeyPlace
  /-- The possible keys inside the open brackets, the innermost first. -/
  flowKeys : List (Option KeyPlace)
  /-- The tokens that were passed on. -/
  passed : Array Token
  /-- The tokens that wait, in order. -/
  waiting : List Token

namespace Scanner

/-- The scanner in front of a text. -/
def start (s : List Char) (cut : Bool) : Scanner :=
  ⟨Cursor.start s, cut, -1, [], true, none, [], #[], []⟩

/-- The scanner stands inside of brackets. -/
def inFlow (s : Scanner) : Bool := !s.flowKeys.isEmpty

/-- The number of tokens so far. -/
def count (s : Scanner) : Nat := s.passed.size + s.waiting.length

/-- The scanner with one more token. -/
def push (t : Token) (s : Scanner) : Scanner :=
  { s with waiting := s.waiting ++ [t] }

/-- The scanner with a token put in after the first `n`, of which none waits behind it. -/
def insertAt (n : Nat) (t : Token) (s : Scanner) : Scanner :=
  let before := n - s.passed.size
  { s with waiting := s.waiting.take before ++ t :: s.waiting.drop before }

/-- The scanner some characters on. -/
def skip (n : Nat) (s : Scanner) : Scanner :=
  { s with cursor := s.cursor.skip n }

/-- The scanner with another answer to whether a key may begin. -/
def allowKey (allowed : Bool) (s : Scanner) : Scanner :=
  { s with keyAllowed := allowed }

/-! ### Possible keys -/

/-- The possible key on the innermost level. -/
def currentKey (s : Scanner) : Option KeyPlace :=
  match s.flowKeys with
  | k :: _ => k
  | [] => s.blockKey

/-- The scanner with another possible key on the innermost level. -/
def setKey (k : Option KeyPlace) (s : Scanner) : Scanner :=
  match s.flowKeys with
  | _ :: rest => { s with flowKeys := k :: rest }
  | [] => { s with blockKey := k }

/-- The scanner without the possible key, which must not be a required one. -/
def dropKey (s : Scanner) : Option Scanner :=
  if s.currentKey.any (·.required) then none else some (s.setKey none)

/-- The scanner with a possible key here, if one may begin. -/
def saveKey (s : Scanner) : Option Scanner :=
  if s.keyAllowed then
    s.dropKey.map fun t =>
      t.setKey (some ⟨!s.inFlow && s.indent == s.cursor.column, s.count, s.cursor.index,
        s.cursor.line, s.cursor.column⟩)
  else some s

/-- The greatest distance between the start of a key and its colon. -/
def keyReach : Nat := 1024

/-- A key that began there cannot have its colon here. -/
def isStale (c : Cursor) (k : KeyPlace) : Bool :=
  k.line < c.line || k.index + keyReach < c.index

/-- A possible key, unless it is out of reach; a required one must not be. -/
def freshKey (c : Cursor) : Option KeyPlace → Option (Option KeyPlace)
  | none => some none
  | some k =>
    if isStale c k then if k.required then none else some none
    else some (some k)

/-- The scanner without the possible keys that are out of reach. -/
def dropStale (s : Scanner) : Option Scanner := do
  let blockKey ← freshKey s.cursor s.blockKey
  let flowKeys ← s.flowKeys.mapM (freshKey s.cursor)
  return { s with blockKey, flowKeys }

/-! ### Indentation -/

/-- The scanner with the blocks closed that are deeper than a column. -/
def unroll (column : Int) (s : Scanner) : Scanner :=
  if s.inFlow then s
  else
    let rec close : Int → List Int → Nat → Int × List Int × Nat
      | indent, [], n => (indent, [], n)
      | indent, up :: outer, n =>
        if column < indent then close up outer (n + 1) else (indent, up :: outer, n)
    let (indent, outer, n) := close s.indent s.outer 0
    { s with indent, outer, waiting := s.waiting ++ List.replicate n .blockEnd }

/-- The scanner with a block opened after the first `n` tokens, if a column is deeper than the
innermost block. -/
def roll (column n : Nat) (t : Token) (s : Scanner) : Scanner :=
  if s.inFlow || (column : Int) ≤ s.indent then s
  else { s.insertAt n t with indent := column, outer := s.indent :: s.outer }

/-! ### Blanks -/

/-- The scanner past blanks, comments and line breaks. A mark of the byte order is a blank where a
line begins. Every step takes a character, so `fuel` may be the length of the text. -/
def skipBlanks : Nat → Scanner → Scanner
  | 0, s => s
  | fuel + 1, s =>
    let tabs := s.inFlow || !s.keyAllowed
    let c := if s.cursor.column == 0 && s.cursor.sees (Char.ofNat 0xFEFF) then s.cursor.next
      else s.cursor
    let c := c.skipWhile fun x => x == ' ' || (tabs && x == '\t')
    let c := if c.sees '#' then c.restOfLine else c
    if c.atBreak then
      skipBlanks fuel
        { s with cursor := c.nextLine, keyAllowed := s.keyAllowed || !s.inFlow }
    else { s with cursor := c }

/-! ### Pieces -/

/-- A character that a plain scalar cannot begin with. -/
def isIndicator (c : Char) : Bool :=
  isFlowMark c ||
    ['-', '?', ':', '#', '&', '*', '!', '|', '>', '\'', '"', '%', '@', Char.ofNat 0x60].contains c

/-- A plain scalar begins here. -/
def atPlain (s : Scanner) : Bool :=
  match s.cursor.peek 0 with
  | none => false
  | some c =>
    !(isSpace c || isBreak c || isIndicator c) ||
      (c == '-' && !(s.cursor.peek 1).any isSpace) ||
      (!s.inFlow && (c == '?' || c == ':') && !s.cursor.blankAt 1)

/-- A bracket opens. -/
def openFlow (t : Token) (s : Scanner) : Option Scanner := do
  let s ← s.saveKey
  return { (s.push t).skip 1 with flowKeys := none :: s.flowKeys, keyAllowed := true }

/-- A bracket closes. -/
def closeFlow (t : Token) (s : Scanner) : Option Scanner := do
  let s ← s.dropKey
  return { (s.push t).skip 1 with flowKeys := s.flowKeys.drop 1, keyAllowed := false }

/-- A mark that begins an item or a key of a block. -/
def blockMark (block t : Token) (allowed : Bool) (s : Scanner) : Option Scanner := do
  if !s.inFlow && !s.keyAllowed then none
  let s ← (s.roll s.cursor.column s.count block).dropKey
  return ((s.push t).allowKey allowed).skip 1

/-- The colon between a key and its value. If a key may have begun, it has. -/
def valueMark (s : Scanner) : Option Scanner :=
  match s.currentKey with
  | some k =>
    let s := (s.insertAt k.number .key).roll k.column k.number .blockMapping
    some ((((s.setKey none).push .value).allowKey false).skip 1)
  | none =>
    if !s.inFlow && !s.keyAllowed then none
    else
      let s := s.roll s.cursor.column s.count .blockMapping
      some (((s.push .value).allowKey !s.inFlow).skip 1)

/-- A line that begins or ends a document. -/
def documentMark (t : Token) (s : Scanner) : Option Scanner := do
  let s ← (s.unroll (-1)).dropKey
  return ((s.push t).allowKey false).skip 3

/-- A directive. -/
def directive (s : Scanner) : Option Scanner := do
  let s ← (s.unroll (-1)).dropKey
  let (d, cursor) ← readDirective (s.cursor.skip 1)
  return { (s.push (.directive d)).allowKey false with cursor }

/-- An anchor or an alias. -/
def named (make : String → Token) (s : Scanner) : Option Scanner := do
  let s ← s.saveKey
  let (name, cursor) ← readName (s.cursor.skip 1)
  return { (s.push (make name)).allowKey false with cursor }

/-- A tag. -/
def tag (s : Scanner) : Option Scanner := do
  let s ← s.saveKey
  let (tag, cursor) ← readTag s.inFlow s.cursor
  return { (s.push (.tag tag)).allowKey false with cursor }

/-- A block scalar. -/
def block (literal : Bool) (s : Scanner) : Option Scanner := do
  let s ← s.dropKey
  let (text, cursor) ← readBlock literal s.indent s.cursor
  return { (s.push (.scalar (if literal then .literal else .quoted) text)).allowKey true with cursor }

/-- A quoted scalar. -/
def quoted (single : Bool) (s : Scanner) : Option Scanner := do
  let s ← s.saveKey
  let (text, cursor) ← readQuoted single s.cursor
  return { (s.push (.scalar .quoted text)).allowKey false with cursor }

/-- A plain scalar. -/
def plain (s : Scanner) : Option Scanner := do
  let s ← s.saveKey
  let (text, cursor, ended) ← readPlain s.inFlow (s.indent + 1).toNat s.cursor
  return { (s.push (.scalar .plain text)).allowKey ended with cursor }

/-- The token that begins here, after blanks; there is at least one more character. -/
def piece (s : Scanner) : Option Scanner :=
  let c := s.cursor
  if c.column == 0 && c.sees '%' then s.directive
  else if c.atMark then s.documentMark (if c.sees '-' then .documentStart else .documentEnd)
  else if c.sees '[' then s.openFlow .flowSequence
  else if c.sees '{' then s.openFlow .flowMapping
  else if c.sees ']' then s.closeFlow .flowSequenceEnd
  else if c.sees '}' then s.closeFlow .flowMappingEnd
  else if c.sees ',' then
    s.dropKey.map fun s => ((s.push .flowEntry).allowKey true).skip 1
  else if c.sees '-' && c.blankAt 1 then s.blockMark .blockSequence .blockEntry true
  else if c.sees '?' && (s.inFlow || c.blankAt 1) then s.blockMark .blockMapping .key !s.inFlow
  else if c.sees ':' && (s.inFlow || c.blankAt 1) then s.valueMark
  else if c.sees '*' then s.named .alias
  else if c.sees '&' then s.named .anchor
  else if c.sees '!' then s.tag
  else if c.sees '|' && !s.inFlow then s.block true
  else if c.sees '>' && !s.inFlow then s.block false
  else if c.sees '\'' then s.quoted true
  else if c.sees '"' then s.quoted false
  else if s.atPlain then s.plain
  else none

/-! ### Steps -/

/-- The scanner at the end of the text, which ends its last line. -/
def finish (s : Scanner) : Option Scanner := do
  let c := s.cursor
  let c := if c.column = 0 then c else { c with line := c.line + 1, column := 0 }
  let s ← ({ s with cursor := c }.unroll (-1)).dropKey
  return s.push .textEnd

/-- The scanner looks at `n` characters, which have to be there unless the text ends. -/
def lookAhead (n : Nat) (s : Scanner) : Option Scanner :=
  if s.cut && (s.cursor.peek (n - 1)).isNone then none else some s

/-- The scanner after the next piece, before which blocks may end. -/
def fetch (s : Scanner) : Option Scanner := do
  let s ← (s.skipBlanks (s.cursor.rest.length + 1)).dropStale
  let s ← (s.unroll s.cursor.column).lookAhead 4
  if s.cursor.atEnd then s.finish else (← s.piece).lookAhead 1

/-- A key may begin with the token that is next. -/
def holdsKey (s : Scanner) : Bool :=
  (s.blockKey :: s.flowKeys).any fun k => k.any (·.number == s.passed.size)

/-- One step: the next token is passed on, or one more piece is scanned if no token waits or a key
may begin with the next one. -/
def step (s : Scanner) : Option Scanner :=
  match s.waiting with
  | [] => s.fetch
  | t :: rest => do
    let s ← s.dropStale
    if s.holdsKey then s.fetch else return { s with passed := s.passed.push t, waiting := rest }

/-- The tokens that are passed on from here until the text ends or is malformed. A piece takes a
character and gives few tokens, so `fuel` may be a multiple of the length of the text. -/
def run : Nat → Scanner → List Token
  | 0, s => s.passed.toList
  | fuel + 1, s =>
    if s.passed.back? == some .textEnd then s.passed.toList
    else
      match s.step with
      | none => s.passed.toList
      | some s => run fuel s

end Scanner

/-- A character that may stand in a text. -/
def isAllowed (c : Char) : Bool :=
  let n := c.toNat
  n == 9 || n == 10 || n == 13 || (0x20 ≤ n && n ≤ 0x7E) || n == 0x85 || (0xA0 ≤ n && n ≤ 0xFFFD) ||
    0x10000 ≤ n

/-- The number of octets that are read at once. -/
def blockSize : Nat := 16384

/-- The blocks of a text before the first one in which a character may not stand there, and whether
these are all. `block` is what has been read of the block here, backwards, and `room` is what is left
of its size. -/
def readBlocks : Nat → List Char → List Char → List Char × Bool
  | _, block, [] => (block.reverse, true)
  | room, block, c :: rest =>
    if c.utf8Size ≤ room then
      if isAllowed c then readBlocks (room - c.utf8Size) (c :: block) rest else ([], false)
    else
      let (later, whole) :=
        if isAllowed c then readBlocks (blockSize - c.utf8Size) [c] rest else ([], false)
      (block.reverse ++ later, whole)

/-- The tokens of a text. -/
def Token.scan (s : List Char) : List Token :=
  let (text, whole) := readBlocks blockSize [] s
  (Scanner.start text !whole).run (8 * s.length + 8)

end LoadBalancer.Document.Yaml
