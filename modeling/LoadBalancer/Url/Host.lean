import LoadBalancer.Net.Address
import LoadBalancer.Text.Fold
import LoadBalancer.Url.Percent

/-!
# Hosts of URLs

* `Host` – a name, or an address of one of the two versions;
* `DomainNames` – the tables of international names;
* `Host.readSpecial` – the host of a special scheme: percent triples are decoded, the name is brought
  into ASCII and small letters, and a name that ends in a number is an address of version 4;
* `Host.readPlain` – the host of any other scheme: a name stays as it is written.

The tables belong to Unicode, not to this library, and so URLs are read with any tables that are at hand.
They are asked about international names only; every other name is its own form in ASCII, up to capitals.
-/

namespace LoadBalancer.Url

open LoadBalancer.Text LoadBalancer.Net

/-- A host. -/
inductive Host where
  | name (s : String)
  | v4 (ip : Ipv4)
  | v6 (ip : Ipv6)
  deriving DecidableEq, Repr

namespace Host

/-- The written form; an address of version 6 stands in brackets. -/
def text : Host → String
  | .name s => s
  | .v4 ip => ip.text
  | .v6 ip => s!"[{ip.text}]"

/-- The host that is an empty name. -/
def none : Host := .name ""

/-- An empty name. -/
def isNone : Host → Bool
  | .name s => s.isEmpty
  | _ => false

/-- Characters that no host has. -/
def isForbidden (c : Char) : Bool :=
  ['\x00', '\t', '\n', '\r', ' ', '#', '/', ':', '<', '>', '?', '@', '[', '\\', ']', '^',
    '|'].contains c

/-- Characters that no name under a special scheme has. -/
def isForbiddenInName (c : Char) : Bool :=
  isForbidden c || c.toNat < 0x20 || c == '%' || 0x7F ≤ c.toNat

end Host

/-! ### International names -/

/-- The tables of international names: the form in ASCII of a name that has characters beyond, or labels
that stand for such, if it has a form. A character that no host has stays what it is in every form, so
a name with one is refused. -/
class DomainNames where
  toAscii : List Char → Option (List Char)
  refuses : ∀ {name : List Char} {c : Char}, c ∈ name → Host.isForbidden c = true →
    toAscii name = none

/-- No tables at all: every international name is refused. -/
instance (priority := low) DomainNames.without : DomainNames := ⟨fun _ => none, fun _ _ => rfl⟩

/-- Tables of some names, none of which has a character that no host has. -/
@[reducible] def DomainNames.ofList (names : List (String × String))
    (h : ∀ e ∈ names, e.1.toList.any Host.isForbidden = false) : DomainNames where
  toAscii name := (names.find? (·.1.toList == name)).map (·.2.toList)
  refuses := by
    intro name c hc hforbidden
    rw [Option.map_eq_none_iff, List.find?_eq_none]
    intro e he heq
    have hany := h e he
    rw [beq_iff_eq.mp heq, List.any_eq_false] at hany
    exact hany c hc hforbidden

namespace Host

/-- The label stands for characters beyond ASCII. -/
def isEncoded (label : List Char) : Bool :=
  "xn--".toList.isPrefixOf (lowerList label)

/-- The name has characters beyond ASCII, or a label that stands for such. -/
def isInternational (s : List Char) : Bool :=
  (s.any fun c => 0x7F < c.toNat) || (fields '.' s).any isEncoded

/-! ### Numbers in names -/

/-- The value of digits in a base. -/
def valueIn (base : Nat) (ds : List Nat) : Nat :=
  ds.foldl (fun n d => base * n + d) 0

/-- Digits of a base, if all characters are such; no character at all is zero. -/
def readBase (base : Nat) (s : List Char) : Option Nat :=
  let ds := s.map hexDigit?
  if ds.all fun d => d.any (· < base) then some (valueIn base (ds.map (·.getD 0))) else Option.none

/-- A number as hosts have it: hexadecimal after `0x`, octal after another `0`, else decimal. -/
def readNumber : List Char → Option Nat
  | [] => Option.none
  | '0' :: 'x' :: rest => readBase 16 rest
  | '0' :: 'X' :: rest => readBase 16 rest
  | '0' :: c :: rest => readBase 8 (c :: rest)
  | cs => readBase 10 cs

/-- The labels of a name, without the empty one after a final dot. -/
def labels (s : List Char) : List (List Char) :=
  let all := fields '.' s
  if all.getLast? = some [] then all.dropLast else all

/-- The last label is a number, so the name has to be an address. -/
def endsInNumber (s : List Char) : Bool :=
  match (labels s).getLast? with
  | Option.none => false
  | some label => (!label.isEmpty && label.all Char.isDigit) || (readNumber label).isSome

/-- An address from one to four numbers: the last fills the octets that the others leave. -/
def ofNumbers (ns : List Nat) : Option Ipv4 :=
  match ns.reverse with
  | [] => Option.none
  | last :: before =>
    let front := before.reverse
    if 4 ≤ front.length || front.any (255 < ·) || Nat.pow 256 (4 - front.length) ≤ last then Option.none
    else some (Ipv4.ofNat (valueIn 256 front * Nat.pow 256 (4 - front.length) + last))

/-- The address that a name ending in a number stands for. -/
def readNumeric (s : List Char) : Option Ipv4 :=
  ((labels s).mapM readNumber).bind ofNumbers

/-! ### Reading -/

/-- An address of version 6 between brackets; `s` is what follows the opening one. -/
def readBracketed (s : List Char) : Option Host :=
  match s.reverse with
  | ']' :: inside => (Ipv6.read inside.reverse).map .v6
  | _ => Option.none

section

variable [DomainNames]

/-- A name in ASCII and in small letters. -/
def asciiName (s : List Char) : Option (List Char) :=
  if isInternational s then DomainNames.toAscii s else some (lowerList s)

/-- The name as it is compared: decoded, and in ASCII. -/
def normalName (s : List Char) : Option (List Char) :=
  (String.fromUTF8? (ByteArray.mk (Percent.decode s).toArray)).bind fun t => asciiName t.toList

/-- The host of a special scheme. -/
def readSpecial : List Char → Option Host
  | '[' :: rest => readBracketed rest
  | cs =>
    match normalName cs with
    | Option.none => Option.none
    | some n =>
      if n.isEmpty || n.any isForbiddenInName then Option.none
      else if endsInNumber n then (readNumeric n).map .v4
      else some (.name (String.ofList n))

end

/-- The host of a scheme that is not special. -/
def readPlain : List Char → Option Host
  | '[' :: rest => readBracketed rest
  | cs =>
    if cs.any isForbidden then Option.none
    else some (.name (Percent.encodeText Percent.inControls cs))

end Host

end LoadBalancer.Url
