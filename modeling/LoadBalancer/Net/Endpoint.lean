import LoadBalancer.Net.Address

/-!
# Endpoints

An address with a port, as a peer or a listener has it.

* `Endpoint.read` – `a.b.c.d:port`, or `[address]:port` with an optional numeric `%scope`;
* `Endpoint.text` – the written form, with the scope unless it is zero;
* `Endpoint.host` – the address alone.
-/

namespace LoadBalancer.Net

open LoadBalancer.Text

/-- An address with a port. -/
inductive Endpoint where
  | v4 (ip : Ipv4) (port : UInt16)
  | v6 (ip : Ipv6) (scope : UInt32) (port : UInt16)
  deriving DecidableEq, Repr

namespace Endpoint

/-- The address alone, without port and scope. -/
def host : Endpoint → String
  | .v4 ip _ => ip.text
  | .v6 ip _ _ => ip.mappedText

/-- The written form. -/
def text : Endpoint → String
  | .v4 ip port => s!"{ip.text}:{port.toNat}"
  | .v6 ip scope port =>
    if scope = 0 then s!"[{ip.mappedText}]:{port.toNat}"
    else s!"[{ip.mappedText}%{scope.toNat}]:{port.toNat}"

/-- Decimal digits with a value below `bound`; leading zeros are allowed. -/
def readNumber (bound : Nat) (s : List Char) : Option Nat :=
  if s.isEmpty then none else (readDigits bound 0 s).toOption

/-- A port number. -/
def readPort (s : List Char) : Option UInt16 :=
  (readNumber size16 s).map UInt16.ofNat

/-- What stands between the brackets: an address, and a scope after a percent sign. -/
def readScoped (s : List Char) : Option (Ipv6 × UInt32) :=
  match cutAt '%' s with
  | none => (Ipv6.read s).map fun ip => (ip, 0)
  | some (ip, scope) => do
    return (← Ipv6.read ip, UInt32.ofNat (← readNumber size32 scope))

/-- A written endpoint of either version. -/
def read (s : String) : Option Endpoint :=
  match s.toList with
  | '[' :: rest => do
    let (inside, after) ← cutAt ']' rest
    let (ip, scope) ← readScoped inside
    match after with
    | ':' :: port => return .v6 ip scope (← readPort port)
    | _ => none
  | cs => do
    let (ip, port) ← cutAt ':' cs
    return .v4 (← Ipv4.read ip) (← readPort port)

end Endpoint

end LoadBalancer.Net
