/-!
# Kinds of elements

Every element of a description or schema document has a kind, which its parent's kind and its own
local name determine: `Kind.allowedChildren` is the grammar. A root is a `definitions` or a `schema`
element; what the grammar does not allow is `generic`, and a generic element allows nothing.
-/

namespace Soap

inductive Kind where
  | definitions
  | types
  | schema
  | element
  | complexType
  | simpleType
  | restriction
  | enumeration
  | sequence
  | all
  | choice
  | schemaInclude
  | schemaImport
  | annotationNode
  | documentation
  | appInfo
  | message
  | part
  | portType
  /-- An operation of a port type. -/
  | operation
  /-- An operation of a binding. -/
  | bindingOperation
  | input
  | output
  | fault
  | binding
  | soapBinding
  | soapOperation
  | soapBody
  | soapHeader
  | soapFault
  /-- A reference to a security policy. -/
  | securitySpecRef
  | service
  | port
  | address
  /-- What its parent does not allow. -/
  | generic
deriving DecidableEq, Repr

namespace Kind

def name : Kind → String
  | definitions => "Definitions"
  | types => "Types"
  | schema => "Schema"
  | element => "Element"
  | complexType => "ComplexType"
  | simpleType => "SimpleType"
  | restriction => "Restriction"
  | enumeration => "Enumeration"
  | sequence => "Sequence"
  | all => "All"
  | choice => "Choice"
  | schemaInclude => "Include"
  | schemaImport => "Import"
  | annotationNode => "Annotation"
  | documentation => "Documentation"
  | appInfo => "AppInfo"
  | message => "Message"
  | part => "Part"
  | portType => "PortType"
  | operation => "Operation"
  | bindingOperation => "BindingOperation"
  | input => "Input"
  | output => "Output"
  | fault => "Fault"
  | binding => "Binding"
  | soapBinding => "SoapBinding"
  | soapOperation => "SoapOperation"
  | soapBody => "SoapBody"
  | soapHeader => "SoapHeader"
  | soapFault => "SoapFault"
  | securitySpecRef => "SecuritySpecRef"
  | service => "Service"
  | port => "Port"
  | address => "Address"
  | generic => "Generic"

def every : List Kind :=
  [definitions, types, schema, element, complexType, simpleType, restriction, enumeration, sequence,
    all, choice, schemaInclude, schemaImport, annotationNode, documentation, appInfo, message, part,
    portType, operation, bindingOperation, input, output, fault, binding, soapBinding, soapOperation,
    soapBody, soapHeader, soapFault, securitySpecRef, service, port, address, generic]

/-- The children an element of this kind may have: local names and the kinds they have there. -/
def allowedChildren : Kind → List (String × Kind)
  | definitions =>
    [("types", types), ("message", message), ("portType", portType), ("binding", binding),
      ("service", service)]
  | types => [("schema", schema)]
  | schema =>
    [("element", element), ("complexType", complexType), ("simpleType", simpleType),
      ("include", schemaInclude), ("import", schemaImport)]
  | element => [("annotation", annotationNode), ("complexType", complexType)]
  | complexType =>
    [("annotation", annotationNode), ("sequence", sequence), ("all", all), ("choice", choice)]
  | simpleType => [("restriction", restriction)]
  | restriction => [("enumeration", enumeration)]
  | sequence => [("element", element), ("sequence", sequence), ("choice", choice)]
  | choice => [("element", element), ("sequence", sequence)]
  | all => [("element", element)]
  | annotationNode => [("documentation", documentation), ("appinfo", appInfo)]
  | message => [("part", part), ("documentation", documentation)]
  | portType => [("operation", operation)]
  | operation =>
    [("documentation", documentation), ("input", input), ("output", output), ("fault", fault)]
  | bindingOperation =>
    [("documentation", documentation), ("input", input), ("output", output), ("fault", fault),
      ("operation", soapOperation)]
  | input | output =>
    [("body", soapBody), ("header", soapHeader), ("documentation", documentation),
      ("SecuritySpecRef", securitySpecRef)]
  | fault => [("fault", soapFault)]
  | binding => [("binding", soapBinding), ("operation", bindingOperation)]
  | service => [("port", port), ("documentation", documentation)]
  | port => [("address", address)]
  | enumeration | schemaInclude | schemaImport | documentation | appInfo | part | soapBinding
  | soapOperation | soapBody | soapHeader | soapFault | securitySpecRef | address | generic => []

def root? (name : String) : Option Kind :=
  if name = "definitions" then some definitions
  else if name = "schema" then some schema
  else none

/-- The kind of a child with this local name, if it is allowed. -/
def child? (parent : Kind) (name : String) : Option Kind :=
  (parent.allowedChildren.find? fun entry => entry.1 == name).map Prod.snd

/-- Is this a group of elements, which a content model lists in place? -/
def isGroup : Kind → Bool
  | sequence | all | choice => true
  | _ => false

/-- A generic element allows no children. -/
@[simp] theorem child?_generic (name : String) : generic.child? name = none := rfl

end Kind

end Soap
