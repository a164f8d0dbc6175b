import LoadBalancer.Url.Host
import LoadBalancer.Url.Path

/-!
# URLs

* `Url` – scheme, authority, path, query and fragment, each in its written form;
* `Url.text` – the whole written form;
* `Url.hostText?` – the host, unless it is empty;
* `SchemeKind` – what the standard knows about a scheme.
-/

namespace LoadBalancer

/-- The three ways in which schemes are read. -/
inductive SchemeKind where
  /-- A scheme whose host is an internet host. -/
  | special
  /-- The scheme of local files. -/
  | file
  /-- Any other scheme. -/
  | plain
  deriving DecidableEq, Repr

namespace SchemeKind

/-- The kind of a scheme, which is in small letters. -/
def ofScheme (scheme : String) : SchemeKind :=
  if ["http", "https", "ws", "wss", "ftp"].contains scheme then .special
  else if scheme = "file" then .file
  else .plain

/-- In URLs of this kind a backslash is a slash. -/
def turnsSlashes : SchemeKind → Bool
  | .plain => false
  | _ => true

end SchemeKind

/-- The port that a scheme has when none is written. -/
def defaultPort? (scheme : String) : Option UInt16 :=
  if scheme = "http" || scheme = "ws" then some 80
  else if scheme = "https" || scheme = "wss" then some 443
  else if scheme = "ftp" then some 21
  else none

/-- What stands between the two slashes and the path. -/
structure Authority where
  user : String
  password : String
  host : Url.Host
  port : Option UInt16
  deriving DecidableEq, Repr

namespace Authority

/-- The authority without user, host and port. -/
def empty : Authority := ⟨"", "", .none, none⟩

/-- There is a user name or a password. -/
def hasUser (a : Authority) : Bool :=
  !a.user.isEmpty || !a.password.isEmpty

/-- The written user part, with its `@`. -/
def userText (a : Authority) : String :=
  if a.hasUser then
    a.user ++ (if a.password.isEmpty then "" else ":" ++ a.password) ++ "@"
  else ""

/-- The written port, with its colon. -/
def portText (a : Authority) : String :=
  match a.port with
  | some p => s!":{p.toNat}"
  | none => ""

/-- The written form. -/
def text (a : Authority) : String :=
  a.userText ++ a.host.text ++ a.portText

end Authority

/-- A URL. -/
structure Url where
  scheme : String
  authority : Option Authority
  path : Url.Path
  query : Option String
  fragment : Option String
  deriving DecidableEq, Repr

namespace Url

/-- How the scheme is read. -/
def kind (u : Url) : SchemeKind :=
  SchemeKind.ofScheme u.scheme

/-- The host, unless there is none or it is empty. -/
def hostText? (u : Url) : Option String :=
  match u.authority with
  | some a => if a.host.isNone then none else some a.host.text
  | none => none

/-- The port that is meant: the written one, or that of the scheme. -/
def port? (u : Url) : Option UInt16 :=
  (u.authority.bind (·.port)).or (defaultPort? u.scheme)

/-- The written path. -/
def pathText (u : Url) : String :=
  u.path.text

/-- What stands between the scheme and the path. A path that begins with two slashes would look
like an authority, so a dot segment stands before it. -/
def authorityText (u : Url) : String :=
  match u.authority with
  | some a => "//" ++ a.text
  | none => if u.pathText.startsWith "//" then "/." else ""

/-- A written part with its mark, if there is one. -/
def marked (mark : String) : Option String → String
  | some s => mark ++ s
  | none => ""

/-- The written form. -/
def text (u : Url) : String :=
  u.scheme ++ ":" ++ u.authorityText ++ u.pathText ++ marked "?" u.query ++ marked "#" u.fragment

end Url

end LoadBalancer
