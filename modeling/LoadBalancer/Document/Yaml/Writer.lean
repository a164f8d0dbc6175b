import LoadBalancer.Document.Node

/-!
# Writing YAML

* `writeText` – a text between double quotes;
* `write` – a tree in one line, with its lists and records in brackets and braces.

Reading gives a written tree back, up to the form of its scalars.
-/

namespace LoadBalancer.Document.Yaml

/-- A character that may stand for itself between double quotes. -/
def isPrintable (c : Char) : Bool :=
  let n := c.toNat
  (0x20 ≤ n && n ≤ 0x7E && c != '"' && c != '\\') || (0xA0 ≤ n && n ≤ 0xD7FF && n / 2 != 0x1014)

/-- Hexadecimal digits, at least `width` of them. -/
def hexDigits (width n : Nat) : List Char :=
  let ds := Nat.toDigits 16 n
  List.replicate (width - ds.length) '0' ++ ds

/-- A character between double quotes. -/
def writeChar (c : Char) : List Char :=
  if isPrintable c then [c] else '\\' :: 'U' :: hexDigits 8 c.toNat

/-- A text between double quotes. -/
def writeText (s : String) : String :=
  "\"" ++ String.ofList (s.toList.flatMap writeChar) ++ "\""

/-- A scalar. -/
def writeScalar : Scalar → String
  | .null => "null"
  | .flag b => if b then "true" else "false"
  | .integer i => toString i
  | .number x => x.text
  | .text s => writeText s
  | .plain s => writeText s
  | .tagged _ _ s => writeText s
  | .unusable => "null"

/-- Parts with a comma between them, between two brackets. -/
def enclose (opening closing : Char) (parts : List String) : String :=
  opening.toString ++ ", ".intercalate parts ++ closing.toString

mutual

/-- A tree in one line. The mark in front of keys lets them be of any length. -/
def write : Node → String
  | .scalar s => writeScalar s
  | .list _ items _ => enclose '[' ']' (writeItems items)
  | .record entries _ => enclose (Char.ofNat 0x7B) (Char.ofNat 0x7D) (writeEntries entries)
  | .reference _ => "null"
  | .broken => "null"

/-- The items of a list. -/
def writeItems : List Node → List String
  | [] => []
  | n :: rest => write n :: writeItems rest

/-- The entries of a record. -/
def writeEntries : List (Node × Node) → List String
  | [] => []
  | (k, v) :: rest => ("? " ++ write k ++ " : " ++ write v) :: writeEntries rest

end

end LoadBalancer.Document.Yaml
