import LoadBalancer.Headers
import LoadBalancer.Labels
import LoadBalancer.Net.Endpoint
import LoadBalancer.Text.Blank
import LoadBalancer.Url.Reader

/-!
# Requests

What selection gets to see of a request.

* `Request` – target, headers, peer and attributes;
* `RequestText`, `Request.read` – a request as it is written down, and reading it;
* `Request.service?` – the service that is asked for: the host of the target;
* `Request.source?`, `Request.destination?` – where the request comes from and where it goes to.
-/

namespace LoadBalancer

open LoadBalancer.Text

/-- What selection gets to see of a request. -/
structure Request where
  /-- Where the request goes: at first to a service, after selection to an instance. -/
  target : Url
  headers : Headers
  /-- The other end of the connection, if it is known. -/
  peer : Option Net.Endpoint
  /-- What earlier stages have noted. -/
  attributes : Labels
  deriving DecidableEq, Repr

namespace Request

/-- A request without headers, peer and attributes. -/
def ofTarget (target : Url) : Request :=
  ⟨target, Headers.empty, none, Labels.empty⟩

/-- The service that is asked for. -/
def service? (r : Request) : Option String :=
  r.target.hostText?

/-- The first of several hops, which commas divide. -/
def firstHop (s : String) : String :=
  trim (String.ofList (s.toList.takeWhile (· != ',')))

/-- Where the request comes from: the address of the peer, or else the first hop of the header that
proxies add. -/
def source? (r : Request) : Option String :=
  match r.peer with
  | some e => some e.host
  | none => ((r.headers.text? "x-forwarded-for").map firstHop).filter (!·.isEmpty)

/-- Where the request goes to. -/
def destination? (r : Request) : Option String :=
  r.target.hostText?

end Request

/-! ### Written requests -/

/-- A request as it is written down. -/
structure RequestText where
  target : String
  headers : List (String × String)
  peer : Option String
  attributes : Labels
  deriving DecidableEq, Repr

/-- Which part of a written request is malformed. -/
inductive RequestFault where
  | target
  | header
  | peer
  deriving DecidableEq, Repr

namespace Request

/-- A part of a request, or the fault that it is malformed. -/
def orFault {α : Type} (f : RequestFault) : Option α → Except RequestFault α
  | some a => .ok a
  | none => .error f

/-- Headers added one by one. -/
def addHeaders (h : Headers) : List (String × String) → Option Headers
  | [] => some h
  | (name, value) :: rest => (h.add? name value).bind fun h => addHeaders h rest

variable [Url.DomainNames] in
/-- A request from its written form; of several malformed parts the target counts first, then the
headers. -/
def read (t : RequestText) : Except RequestFault Request := do
  let target ← orFault .target (Url.read t.target)
  let headers ← orFault .header (addHeaders .empty t.headers)
  let peer ← match t.peer with
    | none => .ok none
    | some s => (orFault .peer (Net.Endpoint.read s)).map some
  return { target, headers, peer, attributes := t.attributes }

end Request

end LoadBalancer
