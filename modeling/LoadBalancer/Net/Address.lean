import LoadBalancer.Text.Cut
import LoadBalancer.Text.Numeral

/-!
# Internet addresses

Addresses of the two versions, their written forms, and reading them.

* `Ipv4`, `Ipv4.text`, `Ipv4.read` – four octets, in decimal and without leading zeros;
* `Ipv6`, `Ipv6.text`, `Ipv6.read` – eight groups; `text` leaves out the first longest run of at
  least two zero groups, and `read` takes `::` for one group or more and a dotted tail for the last
  two groups;
* `Ipv6.mappedText` – as `text`, with the dotted tail for addresses below `::ffff:0:0/96`.
-/

namespace LoadBalancer.Net

open LoadBalancer.Text

/-- An address of version 4. -/
structure Ipv4 where
  a : UInt8
  b : UInt8
  c : UInt8
  d : UInt8
  deriving DecidableEq, Repr

namespace Ipv4

/-- The dotted decimal form. -/
def text (ip : Ipv4) : String :=
  s!"{ip.a.toNat}.{ip.b.toNat}.{ip.c.toNat}.{ip.d.toNat}"

/-- The address with the number `n`. -/
def ofNat (n : Nat) : Ipv4 :=
  ⟨UInt8.ofNat (n / 16777216), UInt8.ofNat (n / 65536), UInt8.ofNat (n / 256), UInt8.ofNat n⟩

/-- One octet in decimal, without leading zeros. -/
def readOctet (s : List Char) : Option UInt8 :=
  match s with
  | [] => none
  | '0' :: _ :: _ => none
  | cs =>
    match readDigits 256 0 cs with
    | .ok n => some (UInt8.ofNat n)
    | .error _ => none

/-- The dotted form of exactly four octets. -/
def read (s : List Char) : Option Ipv4 :=
  match fields '.' s with
  | [a, b, c, d] => do
    return ⟨← readOctet a, ← readOctet b, ← readOctet c, ← readOctet d⟩
  | _ => none

end Ipv4

/-- An address of version 6. -/
structure Ipv6 where
  groups : List UInt16
  length_groups : groups.length = 8
  deriving DecidableEq, Repr

namespace Ipv6

/-- The number of zero groups at the front. -/
def zeroRun : List UInt16 → Nat
  | 0 :: rest => zeroRun rest + 1
  | _ => 0

/-- Start and length of the first longest run of zero groups, positions counted from `i`. -/
def longestRun : Nat → List UInt16 → Nat × Nat
  | _, [] => (0, 0)
  | i, g :: rest =>
    let later := longestRun (i + 1) rest
    let here := zeroRun (g :: rest)
    if later.2 ≤ here then (i, here) else later

/-- Groups in hexadecimal with a colon between them. -/
def hexGroups (gs : List UInt16) : String :=
  ":".intercalate (gs.map fun g => hexText g.toNat)

/-- The compressed form, in small hexadecimal digits. -/
def text (ip : Ipv6) : String :=
  let run := longestRun 0 ip.groups
  if run.2 < 2 then hexGroups ip.groups
  else hexGroups (ip.groups.take run.1) ++ "::" ++ hexGroups (ip.groups.drop (run.1 + run.2))

/-- The version 4 address inside a mapped one. -/
def mapped? (ip : Ipv6) : Option Ipv4 :=
  match ip.groups with
  | [0, 0, 0, 0, 0, 0xffff, hi, lo] => some (Ipv4.ofNat (hi.toNat * 65536 + lo.toNat))
  | _ => none

/-- The compressed form, with a dotted tail for a mapped address. -/
def mappedText (ip : Ipv6) : String :=
  match ip.mapped? with
  | some v4 => "::ffff:" ++ v4.text
  | none => ip.text

/-- One to four hexadecimal digits. -/
def readGroup (s : List Char) : Option UInt16 :=
  if s.isEmpty || 4 < s.length then none
  else
    let digits := s.map hexDigit?
    if digits.all Option.isSome then
      some (UInt16.ofNat (digits.foldl (fun n d => 16 * n + d.getD 0) 0))
    else none

/-- The groups of pieces between colons; if `dotted`, the last piece may be a dotted address. -/
def readPieces (dotted : Bool) : List (List Char) → Option (List UInt16)
  | [] => some []
  | [s] =>
    match readGroup s with
    | some g => some [g]
    | none =>
      if dotted then
        (Ipv4.read s).map fun v4 =>
          [UInt16.ofNat (v4.a.toNat * 256 + v4.b.toNat), UInt16.ofNat (v4.c.toNat * 256 + v4.d.toNat)]
      else none
  | s :: rest => do
    let g ← readGroup s
    let gs ← readPieces dotted rest
    return g :: gs

/-- The groups of one side of a `::`, which may be empty. -/
def readSide (dotted : Bool) (s : List Char) : Option (List UInt16) :=
  if s.isEmpty then some [] else readPieces dotted (fields ':' s)

/-- What stands before the first `::` and what stands after it. -/
def cutDouble : List Char → Option (List Char × List Char)
  | ':' :: ':' :: rest => some ([], rest)
  | c :: rest => (cutDouble rest).map fun p => (c :: p.1, p.2)
  | [] => none

/-- The address with these groups, if there are eight. -/
def ofGroups? (gs : List UInt16) : Option Ipv6 :=
  if h : gs.length = 8 then some ⟨gs, h⟩ else none

/-- A written address: eight groups, or fewer with one `::`. -/
def read (s : List Char) : Option Ipv6 :=
  match cutDouble s with
  | none => (readPieces true (fields ':' s)).bind ofGroups?
  | some (left, right) => do
    let front ← readSide false left
    let back ← readSide true right
    if 7 < front.length + back.length then none
    else ofGroups? (front ++ List.replicate (8 - (front.length + back.length)) 0 ++ back)

end Ipv6

end LoadBalancer.Net
