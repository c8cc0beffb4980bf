import Soap.Text.Integer

/-!
# What can be wrong with a document's text

Each way in which the text of a document can fail to be markup is a constructor; the wording is in
one function per type. Positions are byte offsets.
-/

namespace Soap.Xml

/-- Why an attribute cannot be read. Positions count from the name of the tag. -/
inductive AttributeError where
  | expectedEquals (position : Nat)
  | expectedValue (position : Nat)
  | unquotedValue (position : Nat)
  | unclosedValue (position : Nat) (quote : Char)
  | duplicated (position previous : Nat)
deriving DecidableEq, Repr

def AttributeError.message : AttributeError → String
  | .expectedEquals p =>
    "position " ++ toString p ++ ": attribute key must be directly followed by `=` or space"
  | .expectedValue p => "position " ++ toString p ++ ": `=` must be followed by an attribute value"
  | .unquotedValue p =>
    "position " ++ toString p ++ ": attribute value must be enclosed in `\"` or `'`"
  | .unclosedValue p quote =>
    "position " ++ toString p ++ ": missing closing quote `" ++ quote.toString ++
      "` in attribute value"
  | .duplicated p previous =>
    "position " ++ toString p ++ ": duplicated attribute, previous declaration at position " ++
      toString previous

inductive CharRefError where
  | sign
  | number (e : Text.NumberError)
  | invalidCodePoint (n : Nat)
  | illegal (n : Nat)
deriving DecidableEq, Repr

def CharRefError.message : CharRefError → String
  | .sign => "unexpected number sign"
  | .number e => e.message
  | .invalidCodePoint n => "`" ++ toString n ++ "` is not a valid codepoint"
  | .illegal n =>
    "0x" ++ String.ofList (Nat.toDigits 16 n) ++ " character is not permitted in XML"

/-- Why an attribute value cannot be unescaped. The range counts from the value's start. -/
inductive UnescapeError where
  | unknownEntity (start stop : Nat) (name : String)
  | unterminated (start stop : Nat)
  | charRef (e : CharRefError)
deriving DecidableEq, Repr

def UnescapeError.message : UnescapeError → String
  | .unknownEntity start stop name =>
    "at " ++ toString start ++ ".." ++ toString stop ++ ": unrecognized entity `" ++ name ++ "`"
  | .unterminated start stop =>
    "Error while escaping character at range " ++ toString start ++ ".." ++ toString stop ++
      ": Cannot find ';' after '&'"
  | .charRef e => "invalid character reference: " ++ e.message

/-- Markup that must be closed. -/
inductive Construct where
  | instruction
  | declaration
  | comment
  | doctype
  | cdata
  | tag
  | attributeValue (quote : Char)
deriving DecidableEq, Repr

/-- What a construct is called, and the text that would close it. -/
def Construct.describe : Construct → String × String
  | .instruction => ("processing instruction", "?>")
  | .declaration => ("XML declaration", "?>")
  | .comment => ("comment", "-->")
  | .doctype => ("DOCTYPE", ">")
  | .cdata => ("CDATA", "]]>")
  | .tag => ("tag", ">")
  | .attributeValue quote => ("attribute value", quote.toString)

/-- Why a text is not a document. -/
inductive Cause where
  /-- `<!` followed by what begins no construct. -/
  | badMarkup
  /-- A construct that is not closed, or closed but misspelt. -/
  | unclosed (what : Construct)
  | mismatchedEnd (expected found : String)
  | unmatchedEnd (found : String)
  | missingDoctypeName
  | unclosedReference
  | unknownReference (name : String)
  | attribute (e : AttributeError)
  | value (e : UnescapeError)
  /-- A reason given by someone else. -/
  | foreign (message : String)
deriving DecidableEq, Repr

def Cause.message : Cause → String
  | .badMarkup => "syntax error: unknown or missed symbol in markup"
  | .unclosed what =>
    let (name, close) := what.describe
    "syntax error: " ++ name ++ " not closed: `" ++ close ++ "` not found before end of input"
  | .mismatchedEnd expected found =>
    "ill-formed document: expected `</" ++ expected ++ ">`, but `</" ++ found ++ ">` was found"
  | .unmatchedEnd found =>
    "ill-formed document: close tag `</" ++ found ++ ">` does not match any open tag"
  | .missingDoctypeName =>
    "ill-formed document: `<!DOCTYPE>` declaration does not contain a name of a document type"
  | .unclosedReference =>
    "ill-formed document: entity or character reference not closed: `;` not found before end of input"
  | .unknownReference name => "unknown entity reference '&" ++ name ++ ";'"
  | .attribute e => e.message
  | .value e => e.message
  | .foreign message => message

/-- An error in the text of a document. -/
structure Error where
  position : Nat
  cause : Cause
deriving DecidableEq, Repr

def Error.message (e : Error) : String :=
  "XML error at byte " ++ toString e.position ++ ": " ++ e.cause.message

end Soap.Xml
