import Soap.Server.Dispatcher

/-!
# Servers

A server answers requests over HTTP: it hands out its description on a `GET` with the query `wsdl`
and dispatches what is posted. Requests for paths that it does not serve are left to others.

Every error in a posted request is answered with a fault under status 500, except an encoding that
the server cannot undo.
-/

namespace Soap

def envelopeContentType : String := "text/xml; charset=utf-8"

structure Server where
  dispatcher : Dispatcher
  /-- The one path that is served, without a final slash; without it, the paths of all ports are. -/
  path : Option String := none
  /-- Is a request answered at all? -/
  authorizer : Option (HttpRequest → Bool) := none
  /-- Undo a content encoding. -/
  decompressor : Option (String → List UInt8 → Except String (List UInt8)) := none

namespace Server

def atPath (s : Server) (path : String) : Server := { s with path := some (normalizePath path) }

def serves (s : Server) (path : String) : Bool :=
  let path := normalizePath path
  match s.path with
  | some own => own == path
  | none => (s.dispatcher.portFor? path).isSome

def asksForDescription (query : String) : Bool :=
  (Text.pieces (· == '&') query.toList).any fun piece => Text.lower (String.ofList piece) == "wsdl"

def describe (s : Server) (request : HttpRequest) : HttpResponse :=
  .ofText 200 [("content-type", "application/xml")]
    (if request.method = "HEAD" then "" else s.dispatcher.wsdl.source)

def encodingOf? (request : HttpRequest) : Option String :=
  ((request.header? "content-encoding").map Text.trim).filter fun encoding =>
    encoding != "" && Text.lower encoding != "identity"

def bodyBytes (s : Server) (request : HttpRequest) : Except ServerError (List UInt8) :=
  match encodingOf? request, s.decompressor with
  | none, _ => .ok request.body
  | some encoding, some decompress => (decompress encoding request.body).mapError .inflation
  | some encoding, none => .error (.unsupportedEncoding encoding)

def bodyText (s : Server) (request : HttpRequest) : Except ServerError String := do
  let bytes ← s.bodyBytes request
  (Utf8.decode bytes).mapError fun e => .body e.message

/-- The content type of the answer to a request: its own. -/
def contentType (request : HttpRequest) : String :=
  (request.header? "content-type").getD envelopeContentType

def failure (request : HttpRequest) (e : ServerError) : HttpResponse :=
  match e with
  | .unsupportedEncoding _ => .ofText 415 [] e.message
  | _ =>
    .ofText 500 [("content-type", contentType request)]
      (Envelope.render (encodeFault e.faultCode e.message).render .empty none)

def answerPost (s : Server) (request : HttpRequest) (text : String) : Traced HttpResponse :=
  let dispatched := s.dispatcher.dispatch request.path text
  let happened := .logged "received" text :: dispatched.activities
  match dispatched.result with
  | .ok reply =>
    { activities := happened ++ [.logged "replied" reply]
      result := .ofText 200 [("content-type", contentType request)] reply }
  | .error e =>
    { activities := happened ++ [.logged "error" e.message], result := failure request e }

def post (s : Server) (request : HttpRequest) : Traced HttpResponse :=
  match s.bodyText request with
  | .ok text => s.answerPost request text
  | .error e => { activities := [.logged "error" e.message], result := failure request e }

def respond (s : Server) (request : HttpRequest) : Traced HttpResponse :=
  if (request.method = "GET" ∨ request.method = "HEAD") ∧ request.query?.any asksForDescription then
    .quiet (s.describe request)
  else if request.method = "POST" then s.post request
  else .quiet (.ofText 405 [("allow", "GET, HEAD, POST")] "")

def handle (s : Server) (request : HttpRequest) : Traced (Option HttpResponse) :=
  if s.serves request.path then
    if s.authorizer.all (· request) then
      let responded := s.respond request
      { responded with result := some responded.result }
    else .quiet (some (.ofText 403 [] ""))
  else .quiet none

def summarize (s : Server) : String :=
  "SoapServer \x7b path: " ++ Text.quoteOption s.path ++ ", dispatcher: " ++ s.dispatcher.summarize ++
    ", .. \x7d"

end Server

end Soap
