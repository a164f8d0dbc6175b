import LoadBalancer.Document.Yaml.Cursor
import LoadBalancer.Text.Numeral

/-!
# Scalars of YAML

* `readPlain` – text without quotes, over several lines if they are indented far enough;
* `readQuoted` – text between single or double quotes;
* `readBlock` – a literal or folded block;
* `readName` – the name of an anchor.

Each yields the text and the position after it, or nothing if the text is malformed.
-/

namespace LoadBalancer.Document.Yaml

open LoadBalancer.Text

/-! ### Plain scalars -/

/-- Brackets, braces and the comma, which end a plain scalar inside of them. -/
def isFlowMark (c : Char) : Bool :=
  [',', '[', ']', Char.ofNat 0x7B, Char.ofNat 0x7D].contains c

/-- The characters of a plain scalar up to a blank or a mark that ends it. -/
def readPlainPiece (flow : Bool) : List Char → Option (List Char)
  | [] => some []
  | c :: rest =>
    if isSpace c || isBreak c then some []
    else if flow && c == ':' && rest.head?.any (fun d => isFlowMark d || d == '?') then none
    else if c == ':' && rest.head?.all (fun d => isSpace d || isBreak d) then some []
    else if flow && isFlowMark c then some []
    else (readPlainPiece flow rest).map (c :: ·)

/-- A plain scalar from the piece here on: its text, the position after it, and whether a line ended
on the way there. Lines have to be indented to column `edge` outside of brackets. -/
def readPlainFrom (flow : Bool) (edge : Nat) :
    Nat → List Char → Gap → Cursor → Option (List Char × Cursor × Bool)
  | 0, acc, gap, c => some (acc, c, gap.broken)
  | fuel + 1, acc, gap, c =>
    if c.atMark || c.sees '#' then some (acc, c, gap.broken)
    else
      match readPlainPiece flow c.rest with
      | none => none
      | some piece =>
        let after := c.skip piece.length
        let (acc, gap) := if piece.isEmpty then (acc, gap) else (acc ++ gap.text ++ piece, Gap.none)
        if after.atSpace || after.atBreak then
          match Gap.read edge after.rest.length gap after with
          | none => none
          | some (gap, next) =>
            if !flow && next.column < edge then some (acc, next, gap.broken)
            else readPlainFrom flow edge fuel acc gap next
        else some (acc, after, gap.broken)

/-- A plain scalar. -/
def readPlain (flow : Bool) (edge : Nat) (c : Cursor) : Option (String × Cursor × Bool) :=
  (readPlainFrom flow edge (c.rest.length + 1) [] Gap.none c).map fun p =>
    (String.ofList p.1, p.2)

/-! ### Quoted scalars -/

/-- The character that a letter after a backslash stands for. -/
def escaped? : Char → Option Char
  | '0' => some '\x00'
  | 'a' => some '\x07'
  | 'b' => some '\x08'
  | 't' => some '\t'
  | '\t' => some '\t'
  | 'n' => some '\n'
  | 'v' => some '\x0b'
  | 'f' => some '\x0c'
  | 'r' => some '\r'
  | 'e' => some '\x1b'
  | ' ' => some ' '
  | '"' => some '"'
  | '/' => some '/'
  | '\\' => some '\\'
  | 'N' => some (Char.ofNat 0x85)
  | '_' => some (Char.ofNat 0xA0)
  | 'L' => some (Char.ofNat 0x2028)
  | 'P' => some (Char.ofNat 0x2029)
  | _ => none

/-- The number of hexadecimal digits after a letter that is followed by a code point. -/
def escapeWidth? : Char → Option Nat
  | 'x' => some 2
  | 'u' => some 4
  | 'U' => some 8
  | _ => none

/-- The character with a code point in `n` hexadecimal digits. -/
def readCodePoint (n : Nat) (s : List Char) : Option Char :=
  let ds := (s.take n).map hexDigit?
  if ds.length = n && ds.all Option.isSome then
    let v := ds.foldl (fun v d => 16 * v + d.getD 0) 0
    if v.isValidChar then some (Char.ofNat v) else none
  else none

/-- How the characters of a quoted scalar stopped. -/
inductive QuotedStop where
  /-- At a blank, a line break or the end. -/
  | gap
  /-- At the closing quote. -/
  | quote
  /-- Behind a line break that a backslash hides. -/
  | hidden
  deriving DecidableEq, Repr

/-- The characters of a quoted scalar up to a blank, a line break or the closing quote. `acc` is what
has been read, backwards. -/
def readQuotedPiece (single : Bool) :
    Nat → List Char → Cursor → Option (List Char × Cursor × QuotedStop)
  | 0, acc, c => some (acc.reverse, c, .gap)
  | fuel + 1, acc, c =>
    match c.rest with
    | [] => some (acc.reverse, c, .gap)
    | x :: rest =>
      if isSpace x || isBreak x then some (acc.reverse, c, .gap)
      else if single && x == '\'' && rest.head? == some '\'' then
        readQuotedPiece single fuel ('\'' :: acc) (c.skip 2)
      else if x == (if single then '\'' else '"') then some (acc.reverse, c, .quote)
      else if !single && x == '\\' then
        match rest with
        | [] => none
        | e :: more =>
          if isBreak e then some (acc.reverse, c.next.nextLine, .hidden)
          else
            match escaped? e, escapeWidth? e with
            | some y, _ => readQuotedPiece single fuel (y :: acc) (c.skip 2)
            | none, some n =>
              match readCodePoint n more with
              | some y => readQuotedPiece single fuel (y :: acc) (c.skip (n + 2))
              | none => none
            | none, none => none
      else readQuotedPiece single fuel (x :: acc) c.next

/-- A quoted scalar after its opening quote. -/
def readQuotedFrom (single : Bool) : Nat → List Char → Cursor → Option (List Char × Cursor)
  | 0, _, _ => none
  | fuel + 1, acc, c =>
    if c.atMark || c.atEnd then none
    else
      match readQuotedPiece single (c.rest.length + 1) [] c with
      | none => none
      | some (piece, after, .quote) => some (acc ++ piece, after.next)
      | some (piece, after, stop) =>
        match Gap.read 0 (after.rest.length + 1) { Gap.none with broken := stop = .hidden } after with
        | none => none
        | some (gap, next) => readQuotedFrom single fuel (acc ++ piece ++ gap.text) next

/-- A quoted scalar, from its opening quote on. -/
def readQuoted (single : Bool) (c : Cursor) : Option (String × Cursor) :=
  (readQuotedFrom single (c.rest.length + 1) [] c.next).map fun p => (String.ofList p.1, p.2)

/-! ### Block scalars -/

/-- What becomes of the line breaks at the end of a block. -/
inductive Chomp where
  /-- The last one is dropped. -/
  | strip
  /-- The last one is kept, and no more. -/
  | clip
  /-- All are kept. -/
  | keep
  deriving DecidableEq, Repr

/-- Chomping and indentation from the two marks behind the sign, which may come in either order. -/
def readHeader (c : Cursor) : Option (Chomp × Option Nat × Cursor) :=
  let chomp? (c : Cursor) : Option Chomp :=
    if c.sees '+' then some .keep else if c.sees '-' then some .strip else none
  let width? (c : Cursor) : Option Nat := (c.peek 0).bind digit?
  match chomp? c with
  | some k =>
    match width? c.next with
    | some 0 => none
    | some n => some (k, some n, c.skip 2)
    | none => some (k, none, c.next)
  | none =>
    match width? c with
    | some 0 => none
    | some n =>
      match chomp? c.next with
      | some k => some (k, some n, c.skip 2)
      | none => some (.clip, some n, c.next)
    | none => some (.clip, none, c)

/-- Empty lines and the indentation of the line after them. While the indentation is open (`none`),
`deepest` is the deepest column seen so far. -/
def readIndent (indent : Option Nat) :
    Nat → Nat → List Char → Cursor → Option (Nat × List Char × Cursor)
  | 0, deepest, breaks, c => some (deepest, breaks, c)
  | fuel + 1, deepest, breaks, c =>
    let spaces := (c.rest.takeWhile (· == ' ')).length
    let c := match indent with
      | some n => c.skip (min spaces (n - c.column))
      | none => c.skip spaces
    let deepest := max deepest c.column
    if c.sees '\t' && indent.all (c.column < ·) then none
    else if c.atBreak then readIndent indent fuel deepest (breaks ++ c.lineText) c.nextLine
    else some (deepest, breaks, c)

/-- The lines of a block that are indented to column `indent`. `pending` is the break before the
line here, `breaks` are the empty lines before it, and `blank` says that the last line began with a
blank. -/
def readLines (literal : Bool) (indent : Nat) :
    Nat → List Char → List Char → List Char → Bool → Cursor →
    Option (List Char × List Char × List Char × Cursor)
  | 0, acc, pending, breaks, _, c => some (acc, pending, breaks, c)
  | fuel + 1, acc, pending, breaks, blank, c =>
    if c.column = indent && !c.atEnd then
      let folds := !literal && pending.head? = some '\n' && !blank && !c.atSpace
      let joint := if folds then if breaks.isEmpty then [' '] else breaks else pending ++ breaks
      let line := c.rest.takeWhile fun x => !isBreak x
      let after := c.skip line.length
      let pending := after.lineText
      match readIndent (some indent) (after.rest.length + 1) 0 [] after.nextLine with
      | none => none
      | some (_, breaks, next) =>
        readLines literal indent fuel (acc ++ joint ++ line) pending breaks c.atSpace next
    else some (acc, pending, breaks, c)

/-- A block scalar, from its sign on. `parent` is the indentation around it. -/
def readBlock (literal : Bool) (parent : Int) (c : Cursor) : Option (String × Cursor) := do
  let (chomp, width, c) ← readHeader c.next
  let c := c.skipWhile isSpace
  let c := if c.sees '#' then c.restOfLine else c
  if !c.atBreak && !c.atEnd then none
  else
    let c := c.nextLine
    let given := width.map fun n => (max parent 0).toNat + n
    let (deepest, breaks, c) ← readIndent given (c.rest.length + 1) 0 [] c
    let indent := given.getD (max deepest (max (parent + 1) 1).toNat)
    let (text, pending, breaks, c) ←
      readLines literal indent (c.rest.length + 1) [] [] breaks false c
    let tail := match chomp with
      | .strip => []
      | .clip => pending
      | .keep => pending ++ breaks
    return (String.ofList (text ++ tail), c)

/-! ### Names -/

/-- A character of a name. -/
def isNameChar (c : Char) : Bool :=
  c.isAlphanum || c == '_' || c == '-'

/-- The name of an anchor or an alias, after its sign. -/
def readName (c : Cursor) : Option (String × Cursor) :=
  let name := c.rest.takeWhile isNameChar
  let after := c.skip name.length
  let ends := after.blankAt 0 || (after.peek 0).any fun x =>
    ['?', ':', ',', ']', Char.ofNat 0x7D, '%', '@', Char.ofNat 0x60].contains x
  if name.isEmpty || !ends then none else some (String.ofList name, after)

end LoadBalancer.Document.Yaml
