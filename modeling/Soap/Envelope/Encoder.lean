import Soap.Envelope
import Soap.Namespace
import Soap.Schema.Registry
import Soap.Xml.Markup

/-!
# Writing envelopes

A value is written in one of two ways. As a *document* it is an element of a schema: every element
is qualified by the namespace that owns its declaration, or by its parent's if it has none. As a
*call* it is a wrapper, qualified if a namespace is given, around unqualified parameters.

Prefixes come from a namespace table that is threaded through the writing; `Envelope.render` then
declares on the root what was used. `null` is never written, and a list is written as its items.
-/

namespace Soap

open Xml (Markup)

/-- The prefix that an unbound namespace gets if it is free. -/
def preferredPrefix : String := "tns"

/-- The content model that the children of an element are written by. -/
def SchemaRegistry.contentModel? (reg : SchemaRegistry) (decl : ElementDecl) : Option ComplexType :=
  match decl.inline with
  | some inline => some inline
  | none =>
    match decl.typeRef.bind (reg.lookupType? decl.owner) with
    | some (.complex ct, _) => some ct
    | _ => none

/-- The tag of an element in a namespace, and the table in which its prefix is used. -/
def qualify (table : NamespaceTable) (space : Option String) (name : String) :
    String × NamespaceTable :=
  match space with
  | some ns =>
    let (p, table) := table.prefixFor ns (some preferredPrefix)
    (p ++ ":" ++ name, table)
  | none => (name, table)

/-- The namespace of an element: its declaration's, or else its parent's. -/
def elementSpace (decl : Option ElementDecl) (parent : Option String) : Option String :=
  decl.bind ElementDecl.owner <|> parent

mutual

def encodeElement (reg : SchemaRegistry) (table : NamespaceTable) (name : String)
    (decl : Option ElementDecl) (parent : Option String) : Value → List Markup × NamespaceTable
  | .null => ([], table)
  | .list items => encodeItems reg table name decl parent items
  | .object fields =>
    let space := elementSpace decl parent
    let (tag, table) := qualify table space name
    let (content, table) := encodeFields reg table (decl.bind reg.contentModel?) space fields
    ([.plain tag content], table)
  | v@(.string _) | v@(.int _) | v@(.float _) | v@(.bool _) | v@(.dateTime _) =>
    let (tag, table) := qualify table (elementSpace decl parent) name
    ([.plain tag (v.scalarText?.map Markup.text).toList], table)

def encodeItems (reg : SchemaRegistry) (table : NamespaceTable) (name : String)
    (decl : Option ElementDecl) (parent : Option String) : List Value → List Markup × NamespaceTable
  | [] => ([], table)
  | item :: rest =>
    let (first, table) := encodeElement reg table name decl parent item
    let (later, table) := encodeItems reg table name decl parent rest
    (first ++ later, table)

/-- Write the fields of an object as the children of an element with the content model `model`. -/
def encodeFields (reg : SchemaRegistry) (table : NamespaceTable) (model : Option ComplexType)
    (space : Option String) : List (String × Value) → List Markup × NamespaceTable
  | [] => ([], table)
  | (key, v) :: rest =>
    let (first, table) := encodeElement reg table key (model.bind (·.field? key)) space v
    let (later, table) := encodeFields reg table model space rest
    (first ++ later, table)

end

/-- Write a value as the element that `decl` declares, under `name`. -/
def encodeDocument (reg : SchemaRegistry) (table : NamespaceTable) (name : String)
    (decl : ElementDecl) (v : Value) : List Markup × NamespaceTable :=
  encodeElement reg table name (some decl) none v

/-! ### Calls -/

mutual

/-- Write a value by its shape, as the unqualified element `name`. -/
def encodeShape (name : String) : Value → List Markup
  | .null => []
  | .list items => encodeShapes name items
  | .object fields => [.plain name (encodeParameters fields)]
  | v@(.string _) | v@(.int _) | v@(.float _) | v@(.bool _) | v@(.dateTime _) =>
    [.plain name (v.scalarText?.map Markup.text).toList]

def encodeShapes (name : String) : List Value → List Markup
  | [] => []
  | item :: rest => encodeShape name item ++ encodeShapes name rest

/-- Write fields by their shape, each as an element. -/
def encodeParameters : List (String × Value) → List Markup
  | [] => []
  | (key, v) :: rest => encodeShape key v ++ encodeParameters rest

end

mutual

/-- What stands inside the wrapper of a call. -/
def encodeContent : Value → List Markup
  | .null => []
  | .object fields => encodeParameters fields
  | .list items => encodeContents items
  | v@(.string _) | v@(.int _) | v@(.float _) | v@(.bool _) | v@(.dateTime _) =>
    (v.scalarText?.map Markup.text).toList

def encodeContents : List Value → List Markup
  | [] => []
  | item :: rest => encodeContent item ++ encodeContents rest

end

/-- Write parameters or results inside the wrapper `name`. -/
def encodeCall (table : NamespaceTable) (name : String) (space : Option String) (params : Value) :
    List Markup × NamespaceTable :=
  let (tag, table) := qualify table space name
  ([.plain tag (encodeContent params)], table)

/-! ### The envelope around a body -/

/-- An envelope around the text of a body, and of a header if there is one. The root declares the
namespaces that the table was asked for. -/
def Envelope.render (body : String) (table : NamespaceTable) (header : Option String) : String :=
  let header :=
    match header with
    | some h => "<soap:Header>" ++ h ++ "</soap:Header>"
    | none => ""
  "<?xml version=\"1.0\" encoding=\"utf-8\"?><soap:Envelope xmlns:soap=\"" ++ Envelope.space ++ "\"" ++
    table.toAttributes ++ ">" ++ header ++ "<soap:Body>" ++ body ++ "</soap:Body></soap:Envelope>"

def encodeFault (code message : String) : Markup :=
  .plain "soap:Fault" [.plain "faultcode" [.text code], .plain "faultstring" [.text message]]

def securitySpace : String :=
  "http://docs.oasis-open.org/wss/2004/01/oasis-200401-wss-wssecurity-secext-1.0.xsd"

/-- A user name and a password as the content of a header. -/
def encodeSecurity (username password : String) : Markup :=
  .element "wsse:Security" [("xmlns:wsse", securitySpace)]
    [.plain "wsse:UsernameToken"
      [.plain "wsse:Username" [.text username], .plain "wsse:Password" [.text password]]]

end Soap
