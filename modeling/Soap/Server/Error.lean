import Soap.Envelope.Decoder

/-!
# What can go wrong with a request

Each error knows its text and whether the request or the server is to blame, which is what a fault
tells the client.
-/

namespace Soap

inductive AuthError where
  | missingSecurityHeader
  | invalidCredentials
deriving DecidableEq, Repr

def AuthError.message : AuthError → String
  | .missingSecurityHeader => "No security header"
  | .invalidCredentials => "Invalid username or password"

/-- Why a request cannot be answered. -/
inductive ServerError where
  /-- The body cannot be decompressed. -/
  | inflation (reason : String)
  | decode (e : DecodeError)
  | auth (e : AuthError)
  /-- The body is no text. -/
  | body (reason : String)
  | unsupportedEncoding (encoding : String)
  | unknownPath (path : String)
  | unknownBinding (name : String)
  | emptyBody
  | unknownElement (element : String)
  | handler (reason : String)
deriving Inhabited

namespace ServerError

def message : ServerError → String
  | inflation reason => "IO error: " ++ reason
  | decode e => "codec error: " ++ e.message
  | auth e => "authentication error: " ++ e.message
  | body reason => "request body error: " ++ reason
  | unsupportedEncoding encoding => "unsupported content encoding '" ++ encoding ++ "'"
  | unknownPath path => "no port bound to path '" ++ path ++ "'"
  | unknownBinding name => "unknown binding '" ++ name ++ "'"
  | emptyBody => "request body is empty"
  | unknownElement element => "no operation takes element '" ++ element ++ "'"
  | handler reason => "handler error: " ++ reason

/-- Is the request to blame? -/
def isClientFault : ServerError → Bool
  | decode _ | auth _ | body _ | unsupportedEncoding _ | emptyBody | unknownElement _ => true
  | inflation _ | unknownPath _ | unknownBinding _ | handler _ => false

def faultCode (e : ServerError) : String := if e.isClientFault then "soap:Client" else "soap:Server"

end ServerError

end Soap
