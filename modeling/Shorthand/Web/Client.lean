import Shorthand.Address
import Shorthand.Web.Server

set_option autoImplicit false
set_option relaxedAutoImplicit false

/-!
# Clients of the server

A client names what it asks for by an address, which has to be made a path before anything is sent.
It reads the responses one after the other, and goes no further when it has to send something that
cannot be sent, or to read something that is not there.

## Main definitions

* `Shorthand.Web.Call` — what a client is to ask.
* `Shorthand.Web.ClientFault` — why it goes no further.
* `Shorthand.Web.Call.sent` — what it sends.
* `Shorthand.Web.callAll` — calls one after the other.
-/

namespace Shorthand.Web

/-- What a client is to ask. Without a body it brings no bytes. -/
structure Call where
  method : Text
  address : Text
  body : List UInt8 := []

/-- Why a client goes no further. -/
inductive ClientFault where
  /-- The address cannot be used. -/
  | address (fault : Address.Fault)
  /-- The response has no body to read. -/
  | noBody
  deriving DecidableEq, Repr

/-- The words of a fault. -/
def ClientFault.message : ClientFault → Text
  | .address fault => fault.message
  | .noBody => "Expecting value: line 1 column 1 (char 0)".toList

namespace Call

/-- A method as it is sent: in capitals. Some other letters have capitals in ASCII. -/
def capitals (method : Text) : Text :=
  method.flatMap fun c =>
    if c = 'ſ' then ['S']
    else if c = 'ﬅ' || c = 'ﬆ' then ['S', 'T']
    else [c.toUpper]

/-- The request of a call. -/
def request (c : Call) : Except ClientFault Request :=
  match Address.target c.address with
  | .ok path => .ok ⟨capitals c.method, path, c.body⟩
  | .error fault => .error (.address fault)

/-- The requests that are sent for calls, and the fault that ends them. The response to a `HEAD`
request has no body. -/
def sent : List Call → List Request × Option ClientFault
  | [] => ([], none)
  | c :: rest =>
    match c.request with
    | .error fault => ([], some fault)
    | .ok r =>
      if r.method = "HEAD".toList then ([r], some .noBody)
      else
        let (requests, fault) := sent rest
        (r :: requests, fault)

end Call

/-- Calls one after the other. -/
def callAll (ready : Bool) (calls : List Call) : Run (Except ClientFault (List Response)) := do
  let (requests, fault) := Call.sent calls
  let responses ← serve ready requests
  match fault with
  | none => return .ok responses
  | some fault => return .error fault

end Shorthand.Web
