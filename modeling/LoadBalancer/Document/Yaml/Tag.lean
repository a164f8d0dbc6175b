import LoadBalancer.Document.Node
import LoadBalancer.Document.Yaml.Scalar

/-!
# Tags and directives of YAML

* `TagText` – a tag as it is written: in full, or as a handle with an ending;
* `readUri` – the octets of a tag, some of which may be escaped;
* `readTag`, `readDirective` – a tag, and a line in front of a document;
* `Handles` – what the handles stand for;
* `Handles.meaning` – the tag that is meant.

Escaped octets have to come in the groups that characters are encoded in, but need not be characters.
What follows a zero octet does not count.
-/

namespace LoadBalancer.Document.Yaml

open LoadBalancer.Text

/-- A tag as it is written. -/
inductive TagText where
  | full (octets : List UInt8)
  | short (handle : String) (octets : List UInt8)
  deriving DecidableEq, Repr

/-! ### Octets -/

/-- An octet as a percent sign and two hexadecimal digits. -/
def readOctet : List Char → Option (Nat × List Char)
  | '%' :: a :: b :: rest => do return (16 * (← hexDigit? a) + (← hexDigit? b), rest)
  | _ => none

/-- The number of octets that follow the first one of a character. -/
def octetsAfter (first : Nat) : Option Nat :=
  if first < 0x80 then some 0
  else if first < 0xC0 then none
  else if first < 0xE0 then some 1
  else if first < 0xF0 then some 2
  else if first < 0xF8 then some 3
  else none

/-- Some more octets of a character. -/
def readMoreOctets : Nat → List Char → Option (List Nat × List Char)
  | 0, s => some ([], s)
  | n + 1, s => do
    let (o, s) ← readOctet s
    if o / 64 ≠ 2 then none
    let (more, s) ← readMoreOctets n s
    return (o :: more, s)

/-- The octets of an escaped character. -/
def readEscaped (s : List Char) : Option (List Nat × List Char) := do
  let (first, s) ← readOctet s
  let (more, s) ← readMoreOctets (← octetsAfter first) s
  return (first :: more, s)

/-- A character of a tag; commas and brackets only stand in tags that are written in full. -/
def isTagChar (wide : Bool) (c : Char) : Bool :=
  isNameChar c || ";/?:@&=+$.!~*'()".toList.contains c || (wide && [',', '[', ']'].contains c)

/-- The octets of a tag, and the text after them. Every step takes a character, so `fuel` may be the
length of the text. -/
def readOctets (wide : Bool) : Nat → List Char → Option (List Nat × List Char)
  | 0, s => some ([], s)
  | fuel + 1, s =>
    match s with
    | [] => some ([], [])
    | c :: rest =>
      if c = '%' then do
        let (octets, s) ← readEscaped s
        let (more, s) ← readOctets wide fuel s
        return (octets ++ more, s)
      else if isTagChar wide c then do
        let (more, s) ← readOctets wide fuel rest
        return (c.toNat :: more, s)
      else some ([], s)

/-- The octets of a tag up to a zero octet. -/
def readUri (wide : Bool) (c : Cursor) : Option (List UInt8 × Cursor) := do
  let (octets, rest) ← readOctets wide (c.rest.length + 1) c.rest
  return ((octets.takeWhile (· ≠ 0)).map UInt8.ofNat, c.skip (c.rest.length - rest.length))

/-- The octets of a tag, for which there is at least one character. -/
def readSomeUri (wide : Bool) (c : Cursor) : Option (List UInt8 × Cursor) := do
  let (octets, after) ← readUri wide c
  if after.index = c.index then none else return (octets, after)

/-! ### Tags -/

/-- The handle here: an exclamation mark, and a name with another one if they are there. -/
def readHandle (c : Cursor) : Option (List Char × Cursor) :=
  if c.sees '!' then
    let name := '!' :: c.next.rest.takeWhile isNameChar
    let after := c.skip name.length
    if after.sees '!' then some (name ++ ['!'], after.next) else some (name, after)
  else none

/-- The handle has an exclamation mark at both ends. -/
def isClosedHandle (handle : List Char) : Bool :=
  1 < handle.length && handle.getLast? == some '!'

/-- A tag, from its exclamation mark on, without regard to what follows. A mark alone is a tag in
full. -/
def readTagText (c : Cursor) : Option (TagText × Cursor) :=
  if c.peek 1 = some '<' then do
    let (octets, after) ← readSomeUri true (c.skip 2)
    if after.sees '>' then return (.full octets, after.next) else none
  else do
    let (handle, after) ← readHandle c
    if isClosedHandle handle then
      let (octets, after) ← readSomeUri false after
      return (.short (String.ofList handle) octets, after)
    else
      let (octets, after) ← readUri false after
      match (handle.drop 1).map (fun x => UInt8.ofNat x.toNat) ++ octets with
      | [] => return (.full "!".toUTF8.toList, after)
      | octets => return (.short "!" octets, after)

/-- A tag, from its exclamation mark on. -/
def readTag (flow : Bool) (c : Cursor) : Option (TagText × Cursor) := do
  let (tag, after) ← readTagText c
  if after.blankAt 0 || (flow && after.sees ',') then return (tag, after) else none

/-! ### Directives -/

/-- A line in front of a document. -/
inductive Directive where
  | version (major minor : Nat)
  | handle (name : String) (octets : List UInt8)
  deriving DecidableEq, Repr

/-- A number of at most nine digits. -/
def readVersionNumber (c : Cursor) : Option (Nat × Cursor) :=
  let ds := c.rest.takeWhile Char.isDigit
  if ds.isEmpty || 9 < ds.length then none
  else some (ds.foldl (fun n d => 10 * n + (digit? d).getD 0) 0, c.skip ds.length)

/-- Past the rest of a line, in which only a comment may stand. -/
def endLine (c : Cursor) : Option Cursor :=
  let c := c.skipWhile isSpace
  let c := if c.sees '#' then c.restOfLine else c
  if c.atBreak then some c.nextLine else if c.atEnd then some c else none

/-- A directive, after its percent sign, with its line. -/
def readDirective (c : Cursor) : Option (Directive × Cursor) := do
  let name := c.rest.takeWhile isNameChar
  let c := c.skip name.length
  if !c.blankAt 0 then none
  let c := c.skipWhile isSpace
  if name = ['Y', 'A', 'M', 'L'] then
    let (major, c) ← readVersionNumber c
    if !c.sees '.' then none
    let (minor, c) ← readVersionNumber c.next
    return (.version major minor, ← endLine c)
  else if name = ['T', 'A', 'G'] then
    let (handle, c) ← readHandle c
    if handle ≠ ['!'] && !isClosedHandle handle then none
    if !c.atSpace then none
    let (octets, c) ← readSomeUri true (c.skipWhile isSpace)
    if !c.blankAt 0 then none
    return (.handle (String.ofList handle) octets, ← endLine c)
  else none

/-! ### Meanings -/

/-- What handles stand for; the first entry of a handle counts. -/
abbrev Handles := List (String × List UInt8)

namespace Handles

/-- What handles stand for unless a directive says otherwise. -/
def default : Handles :=
  [("!", "!".toUTF8.toList), ("!!", Scalar.commonTag.toUTF8.toList)]

/-- The tag that is meant, as text if its octets are text. A handle must have a meaning. -/
def meaning (hs : Handles) (t : TagText) : Option (Option String) :=
  let text (octets : List UInt8) : Option String := String.fromUTF8? ⟨octets.toArray⟩
  match t with
  | .full octets => some (text octets)
  | .short handle octets =>
    (hs.find? (·.1 == handle)).map fun h => text (h.2 ++ octets)

/-- The handles after the directives of a document: the version is declared once at most, and is one
of two, and no handle is declared twice. -/
def ofDirectives (ds : List Directive) : Option Handles :=
  let versions := ds.filterMap fun d => match d with
    | .version major minor => some (major, minor)
    | _ => none
  let handles := ds.filterMap fun d => match d with
    | .handle name octets => some (name, octets)
    | _ => none
  if versions.length ≤ 1 && versions.all [(1, 1), (1, 2)].contains &&
      (handles.map Prod.fst).eraseDups.length = handles.length then
    some (handles ++ default)
  else none

end Handles

end LoadBalancer.Document.Yaml
