import LoadBalancer.Url.Basic

/-!
# Reading URLs

Absolute URLs of the URL standard, for any tables of international names.

* `Url.clean` – a text without controls and spaces at its ends;
* `Url.readScheme` – the scheme and what follows its colon;
* `Url.readAuthority` – user, host and port, with the text that the path is read from;
* `Url.read` – the whole URL.
-/

namespace LoadBalancer.Url

open LoadBalancer.Text

variable [DomainNames]

/-- A control character or a space. -/
def isEdge (c : Char) : Bool :=
  c.toNat ≤ 0x20

/-- The text without controls and spaces at its ends. -/
def clean (s : List Char) : List Char :=
  ((s.dropWhile isEdge).reverse.dropWhile isEdge).reverse

/-- A character that a scheme may have after its first letter. -/
def isSchemeChar (c : Char) : Bool :=
  c.isAlphanum || c == '+' || c == '-' || c == '.'

/-- The scheme in small letters, and what follows the colon. Tabs and line breaks in the scheme do not
count. -/
def readScheme (s : List Char) : Option (String × List Char) :=
  match cutAt ':' s with
  | some (before, rest) =>
    let front := unbroken before
    if front.head?.any Char.isAlpha && front.all isSchemeChar then
      some (String.ofList (lowerList front), rest)
    else none
  | none => none

/-- What stands before and after the last `@`, if there is one. -/
def cutUser (s : List Char) : Option (List Char × List Char) :=
  (cutAt '@' s.reverse).map fun p => (p.2.reverse, p.1.reverse)

/-- User name and password, written with percent triples. -/
def readUser (s : List Char) : String × String :=
  match cutAt ':' s with
  | some (user, password) =>
    (Percent.encodeText Percent.inUserinfo user, Percent.encodeText Percent.inUserinfo password)
  | none => (Percent.encodeText Percent.inUserinfo s, "")

/-- The host and, if a colon follows it, what stands after that. A colon between brackets belongs
to the host. -/
def cutPort (inside : Bool) : List Char → List Char × Option (List Char)
  | [] => ([], none)
  | c :: rest =>
    if c = ':' && !inside then ([], some rest)
    else
      let next := if c = '[' then true else if c = ']' then false else inside
      let p := cutPort next rest
      (c :: p.1, p.2)

/-- A port: digits up to the end or a backslash, with what remains. No digit at all is no port, and
neither is the port that the scheme has anyway. -/
def readPort (scheme : String) (s : List Char) : Option (Option UInt16 × List Char) :=
  let ds := s.takeWhile Char.isDigit
  let rest := s.dropWhile Char.isDigit
  if rest.isEmpty || rest.head? = some '\\' then
    if ds.isEmpty then some (none, rest)
    else
      match readDigits size16 0 ds with
      | .error _ => none
      | .ok n =>
        let port := UInt16.ofNat n
        some (if defaultPort? scheme = some port then none else some port, rest)
  else none

/-- User, host and port of a text that has no slash, with what is left of it for the path. `followed`
says that the text does not end the URL: then the host must not be missing after a mark of an empty
user. -/
def readAuthority (scheme : String) (followed : Bool) (s : List Char) :
    Option (Authority × List Char) := do
  let special := SchemeKind.ofScheme scheme = .special
  let (userPart, hostPart) := (cutUser s).getD ([], s)
  let (user, password) := readUser userPart
  let (hostText, portText) := cutPort false hostPart
  let host ← if special then Host.readSpecial hostText else Host.readPlain hostText
  let (port, rest) ← match portText with
    | some t => readPort scheme t
    | none => some (none, [])
  let authority : Authority := ⟨user, password, host, port⟩
  let lone := followed && cutUser s = some ([], [])
  if host.isNone && (special || portText.isSome || authority.hasUser || lone) then none
  else return (authority, rest)

/-- The path after an authority. It is never empty under a special scheme. -/
def readPath (kind : SchemeKind) (s : List Char) : Path :=
  match kind, s with
  | .plain, [] => .segments []
  | .plain, '/' :: rest => .segments (Path.readSegments false rest)
  | .plain, cs => .segments (Path.readSegments false cs)
  | _, '/' :: rest => .segments (Path.readSegments true rest)
  | _, '\\' :: rest => .segments (Path.readSegments true rest)
  | _, cs => .segments (Path.readSegments true cs)

/-- A slash, or a backslash where it is one. -/
def isSlash (turn : Bool) (c : Char) : Bool :=
  c == '/' || (turn && c == '\\')

/-- Authority and path of a text that follows two slashes. `followed` says that a query or a fragment
comes after it. -/
def readHierarchy (scheme : String) (followed : Bool) (s : List Char) :
    Option (Option Authority × Path) := do
  let kind := SchemeKind.ofScheme scheme
  let front := s.takeWhile fun c => !isSlash kind.turnsSlashes c
  let back := s.dropWhile fun c => !isSlash kind.turnsSlashes c
  let (authority, rest) ← readAuthority scheme (followed || !back.isEmpty) front
  return (some authority, readPath kind (rest ++ back))

/-- The path of a file: no segment in front is empty, save one that is all there is. -/
def filePath (ss : List String) : Path :=
  let kept := ss.dropWhile String.isEmpty
  .segments (if kept.isEmpty then [""] else kept)

/-- What follows a slash, if one stands in front, save for tabs and line breaks. -/
def cutSlash (s : List Char) : Option (List Char) :=
  match s.dropWhile isBreak with
  | c :: rest => if isSlash true c then some rest else none
  | [] => none

/-- Host and path of a file from what follows two slashes. A disk in place of the host or behind it
leaves the host empty, unless a tab or a line break parts the disk from more text, and so does the
local host. Where there is no host, the slash that ends it makes an empty segment before the first
one, so what follows is not in front. -/
def readFileHost (s : List Char) : Option (Option Authority × Path) := do
  let name := unbroken (s.takeWhile fun c => !isSlash true c)
  let back := s.dropWhile fun c => !isSlash true c
  if Path.isDrive name then
    return (some Authority.empty, filePath (Path.readFileSegments s))
  let host ← if name.isEmpty then some Host.none else Host.readSpecial name
  if host = .none || host = .name "localhost" then
    return (some Authority.empty, filePath (Path.readFileSegments back))
  let behind := (cutSlash back).getD back
  let front := (Path.readFileSegments (unbroken behind)).head?
  let onDisk := front.any fun t => Path.isDrive t.toList
  return (some { Authority.empty with host := if onDisk then Host.none else host },
    filePath (Path.readFileSegments behind))

/-- Host and path of a file. The text may have tabs and line breaks. -/
def readFile (s : List Char) : Option (Option Authority × Path) :=
  match cutSlash s with
  | none => some (some Authority.empty, filePath (Path.readFileSegments s))
  | some rest =>
    match cutSlash rest with
    | none => some (some Authority.empty, filePath (Path.readFileSegments rest))
    | some text => readFileHost text

/-- Authority and path of what stands between the scheme and the query. `followed` says that a query
or a fragment comes after it. Tabs and line breaks matter in files only. -/
def readBody (scheme : String) (followed : Bool) (s : List Char) :
    Option (Option Authority × Path) :=
  match SchemeKind.ofScheme scheme with
  | .special => readHierarchy scheme followed ((unbroken s).dropWhile (isSlash true))
  | .file => readFile s
  | .plain =>
    match unbroken s with
    | '/' :: '/' :: rest => readHierarchy scheme followed rest
    | '/' :: rest => some (none, .segments (Path.readSegments false rest))
    | cs => some (none, .bare (Percent.encodeText Percent.inControls cs))

/-- What stands before a mark, and what stands after it if it is there. -/
def cutMark (mark : Char) (s : List Char) : List Char × Option (List Char) :=
  match cutAt mark s with
  | some (front, back) => (front, some back)
  | none => (s, none)

/-- An absolute URL. -/
def read (s : String) : Option Url := do
  let (scheme, rest) ← readScheme (clean s.toList)
  let (front, fragment) := cutMark '#' rest
  let (body, query) := cutMark '?' front
  let (authority, path) ← readBody scheme (query.isSome || fragment.isSome) body
  let querySet :=
    if SchemeKind.ofScheme scheme = .plain then Percent.inQuery else Percent.inSpecialQuery
  return {
    scheme, authority, path
    query := query.map fun s => Percent.encodeText querySet (unbroken s)
    fragment := fragment.map fun s => Percent.encodeText Percent.inFragment (unbroken s) }

end LoadBalancer.Url
