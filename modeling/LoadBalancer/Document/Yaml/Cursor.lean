/-!
# Positions in a YAML text

* `Cursor` – the text from a position on, with the line and the column of the position;
* `isBreak`, `isSpace` – line breaks, and the blanks inside a line;
* `Gap` – blanks and line breaks between two pieces of a scalar, and what they are folded into.
-/

namespace LoadBalancer.Document.Yaml

/-- A character that ends a line. -/
def isBreak (c : Char) : Bool :=
  ['\n', '\r', Char.ofNat 0x85, Char.ofNat 0x2028, Char.ofNat 0x2029].contains c

/-- A space or a tab. -/
def isSpace (c : Char) : Bool :=
  c == ' ' || c == '\t'

/-- The text from a position on. -/
structure Cursor where
  rest : List Char
  /-- The number of octets before it. -/
  index : Nat
  line : Nat
  column : Nat
  deriving Repr

namespace Cursor

/-- The start of a text. -/
def start (s : List Char) : Cursor := ⟨s, 0, 0, 0⟩

/-- The character at a distance, if the text goes on that far. -/
def peek (c : Cursor) (n : Nat) : Option Char := c.rest[n]?

/-- The character here is `x`. -/
def sees (c : Cursor) (x : Char) : Bool := c.rest.head? == some x

/-- The text ends here. -/
def atEnd (c : Cursor) : Bool := c.rest.isEmpty

/-- There is a line break here. -/
def atBreak (c : Cursor) : Bool := (c.peek 0).any isBreak

/-- There is a space or a tab here. -/
def atSpace (c : Cursor) : Bool := (c.peek 0).any isSpace

/-- At a distance there is a blank, a line break, or the end. -/
def blankAt (c : Cursor) (n : Nat) : Bool :=
  (c.peek n).all fun x => isSpace x || isBreak x

/-- One character on, in the same line. -/
def next (c : Cursor) : Cursor :=
  match c.rest with
  | [] => c
  | x :: rest => ⟨rest, c.index + x.utf8Size, c.line, c.column + 1⟩

/-- Some characters on, in the same line. -/
def skip (c : Cursor) (n : Nat) : Cursor :=
  ⟨c.rest.drop n, (c.rest.take n).foldl (fun i x => i + x.utf8Size) c.index, c.line, c.column + n⟩

/-- Past the line break here. -/
def nextLine (c : Cursor) : Cursor :=
  match c.rest with
  | '\r' :: '\n' :: rest => ⟨rest, c.index + 2, c.line + 1, 0⟩
  | x :: rest => ⟨rest, c.index + x.utf8Size, c.line + 1, 0⟩
  | [] => c

/-- What the line break here means inside a scalar. -/
def lineText (c : Cursor) : List Char :=
  match c.rest with
  | x :: _ => if x.toNat = 0x2028 || x.toNat = 0x2029 then [x] else ['\n']
  | [] => []

/-- Past the rest of the line. -/
def restOfLine (c : Cursor) : Cursor :=
  c.skip (c.rest.takeWhile fun x => !isBreak x).length

/-- Past the characters with a property. -/
def skipWhile (c : Cursor) (p : Char → Bool) : Cursor :=
  c.skip (c.rest.takeWhile p).length

/-- A line that begins or ends a document. -/
def atMark (c : Cursor) : Bool :=
  c.column == 0 && (c.rest.take 3 == ['-', '-', '-'] || c.rest.take 3 == ['.', '.', '.']) &&
    c.blankAt 3

end Cursor

/-- Blanks and line breaks between two pieces of a scalar. -/
structure Gap where
  /-- Blanks before the first line break. -/
  spaces : List Char
  /-- The first line break. -/
  first : List Char
  /-- The line breaks after it. -/
  more : List Char
  /-- A line has ended. -/
  broken : Bool
  deriving Repr

namespace Gap

/-- Nothing in between. -/
def none : Gap := ⟨[], [], [], false⟩

/-- What stands for the gap: one space for one line break, the further breaks for several. -/
def text (g : Gap) : List Char :=
  if g.broken then
    if g.first = ['\n'] then if g.more.isEmpty then [' '] else g.more
    else g.first ++ g.more
  else g.spaces

/-- The gap with the blanks and line breaks that follow. A tab before column `edge` of a new line is
refused. Every step takes a character, so `fuel` may be the length of the text. -/
def read (edge : Nat) : Nat → Gap → Cursor → Option (Gap × Cursor)
  | 0, g, c => some (g, c)
  | fuel + 1, g, c =>
    match c.peek 0 with
    | Option.none => some (g, c)
    | some x =>
      if isSpace x then
        if g.broken then
          if x = '\t' && c.column < edge then Option.none else read edge fuel g c.next
        else read edge fuel { g with spaces := g.spaces ++ [x] } c.next
      else if isBreak x then
        if g.broken then read edge fuel { g with more := g.more ++ c.lineText } c.nextLine
        else
          read edge fuel { g with spaces := [], first := c.lineText, broken := true } c.nextLine
      else some (g, c)

end Gap

end LoadBalancer.Document.Yaml
