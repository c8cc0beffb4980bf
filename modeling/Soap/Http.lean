import Soap.OrderedMap
import Soap.Text.Split
import Soap.Text.Utf8

/-!
# Requests and responses

Whatever accepts connections hands a request over with its whole body and writes the response back.
Header names are kept in lower case, so they are found however they are spelt; a repeated header
takes the last value.
-/

namespace Soap

/-- Headers by their names in lower case. -/
abbrev Headers := OrderedMap String String

namespace Headers

def set (h : Headers) (name value : String) : Headers := OrderedMap.insert h (Text.lower name) value

def find? (h : Headers) (name : String) : Option String := OrderedMap.get? h (Text.lower name)

def ofList (headers : List (String × String)) : Headers :=
  headers.foldl (fun h entry => h.set entry.1 entry.2) []

end Headers

structure HttpRequest where
  /-- In upper case. -/
  method : String
  /-- Path, query and fragment. -/
  target : String
  headers : Headers
  body : List UInt8
deriving DecidableEq, Repr

namespace HttpRequest

/-- A request with the given method, in whatever case. -/
def ofParts (method target : String) (headers : List (String × String)) (body : List UInt8) :
    HttpRequest :=
  { method := Text.upper method, target, headers := .ofList headers, body }

/-- A request whose body arrives in chunks; the first that fails is reported. -/
def ofChunks (method target : String) (headers : List (String × String))
    (chunks : List (Except ε (List UInt8))) : Except ε HttpRequest := do
  return ofParts method target headers (← chunks.mapM id).flatten

def header? (r : HttpRequest) (name : String) : Option String := r.headers.find? name

def pathOf (target : String) : String :=
  String.ofList (Text.before (fun c => c == '?' || c == '#') target.toList)

def path (r : HttpRequest) : String := pathOf r.target

def query? (r : HttpRequest) : Option String :=
  (Text.splitFirst (· == '?') r.target.toList).map fun (_, rest) =>
    String.ofList (Text.before (· == '#') rest)

end HttpRequest

structure HttpResponse where
  status : Nat
  headers : Headers := []
  body : List UInt8
deriving DecidableEq, Repr

namespace HttpResponse

def ofText (status : Nat) (headers : List (String × String)) (text : String) : HttpResponse :=
  { status, headers := .ofList headers, body := Utf8.encode text }

def header? (r : HttpResponse) (name : String) : Option String := r.headers.find? name

def text (r : HttpResponse) : String := Utf8.decodeLossy r.body

end HttpResponse

end Soap
