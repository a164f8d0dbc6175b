import LoadBalancer.Text.Cut
import LoadBalancer.Url.Percent

/-!
# Paths of URLs

* `Path` – a list of segments, or the bare text of a URL without a hierarchy;
* `Path.text` – the written form, with a slash before every segment;
* `Path.readSegments` – segments from a text, with the dot segments resolved;
* `Path.readFileSegments` – the same for files, where a disk may stand in front.
-/

namespace LoadBalancer.Url

open LoadBalancer.Text

/-- A tab or a line break. -/
def isBreak (c : Char) : Bool :=
  c == '\t' || c == '\n' || c == '\r'

/-- A text without tabs and line breaks. -/
def unbroken (s : List Char) : List Char :=
  s.filter fun c => !isBreak c

/-- A path. -/
inductive Path where
  | bare (s : String)
  | segments (ss : List String)
  deriving DecidableEq, Repr

namespace Path

/-- The written form. -/
def text : Path → String
  | .bare s => s
  | .segments ss => String.join (ss.map fun s => "/" ++ s)

/-- A segment that stands for the one it is in; the dot may be a percent triple. -/
def isSingleDot (s : List Char) : Bool :=
  s = ['.'] || s = ['%', '2', 'e'] || s = ['%', '2', 'E']

/-- A segment that stands for the one above; each dot may be a percent triple. -/
def isDoubleDot (s : List Char) : Bool :=
  match s with
  | '.' :: rest => isSingleDot rest
  | '%' :: '2' :: e :: rest => (e == 'e' || e == 'E') && isSingleDot rest
  | _ => false

/-- A letter and a colon or a bar, as a disk is named. -/
def isDrive (s : List Char) : Bool :=
  match s with
  | [c, d] => c.isAlpha && (d == ':' || d == '|')
  | _ => false

/-- The segments one level up; a disk is never left. -/
def parent (ss : List String) : List String :=
  if ss.getLast?.any fun s => isDrive s.toList then ss else ss.dropLast

/-- The segments after one more piece. `last` says that no slash follows it. -/
def push (last : Bool) (ss : List String) (piece : List Char) : List String :=
  if isDoubleDot piece then if last then parent ss ++ [""] else parent ss
  else if isSingleDot piece then if last then ss ++ [""] else ss
  else ss ++ [Percent.encodeText Percent.inPath piece]

/-- The segments after all pieces, each put on by `step`. -/
def pushAll (step : Bool → List String → List Char → List String) (ss : List String) :
    List (List Char) → List String
  | [] => ss
  | [piece] => step true ss piece
  | piece :: pieces => pushAll step (step false ss piece) pieces

/-- A text with its backslashes turned, if the scheme takes them for slashes. -/
def turnSlashes (turn : Bool) (s : List Char) : List Char :=
  if turn then s.map fun c => if c = '\\' then '/' else c else s

/-- The segments of a text that follows the first slash. -/
def readSegments (turn : Bool) (s : List Char) : List String :=
  pushAll push [] (fields '/' (turnSlashes turn s))

/-! ### Files -/

/-- The disk in front of a piece and what follows it: the disk is all of the piece, or a tab or a
line break parts its colon from the rest. -/
def cutDisk (piece : List Char) : Option (Char × List Char) :=
  match unbroken piece, piece.dropWhile fun c => c ≠ ':' with
  | [letter, mark], _ => if isDrive [letter, mark] then some (letter, []) else none
  | letter :: ':' :: rest, _ :: c :: _ =>
    if letter.isAlpha && isBreak c then some (letter, rest) else none
  | _, _ => none

/-- The segments of a file after one more piece. A disk in front is written with a colon, and what
is parted from it is a segment of its own, dots or not. -/
def pushFile (last : Bool) (ss : List String) (piece : List Char) : List String :=
  match if ss.isEmpty then cutDisk piece else none with
  | some (letter, rest) =>
    let disk := String.ofList [letter, ':']
    if rest.isEmpty then [disk] else [disk, Percent.encodeText Percent.inPath rest]
  | none => push last ss (unbroken piece)

/-- The segments of a file from a text that follows the first slash. -/
def readFileSegments (s : List Char) : List String :=
  pushAll pushFile [] (fields '/' (turnSlashes true s))

end Path

end LoadBalancer.Url
