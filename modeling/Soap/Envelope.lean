import Soap.Schema.Description
import Soap.Value

/-!
# Envelopes

What is exchanged is an envelope with an optional header and a body, or a fault in place of the
body's content. `Envelope.overlay` is the shape that every envelope has.
-/

namespace Soap

structure Fault where
  code : String
  message : String
  detail : Option Value
deriving Inhabited

def Fault.render (f : Fault) : String :=
  f.code ++ ": " ++ f.message ++
    (match f.detail with
      | some detail => ": " ++ detail.display
      | none => "")

structure Envelope where
  header : Option Value
  body : Value
deriving Inhabited

namespace Envelope

def space : String := "http://schemas.xmlsoap.org/soap/envelope/"

def bodyElement? (e : Envelope) : Option (String × Value) := e.body.fields?.bind List.head?

def security? (e : Envelope) : Option Value := e.header.bind (·.get? "Security")

/-- The shape of every envelope: what a security block and a fault hold is text. -/
def overlay : Description :=
  let text : Description := .leaf "string"
  .fields [("Envelope", .fields [
    ("Header", .fields [("Security", .fields [("UsernameToken", .fields [
      ("Username", text), ("Password", text)])])]),
    ("Body", .fields [("Fault", .fields [
      ("faultcode", text), ("faultstring", text), ("detail", text)])])])]

end Envelope

end Soap
