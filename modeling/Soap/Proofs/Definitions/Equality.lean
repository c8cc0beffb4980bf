import Soap.Proofs.Document
import Soap.Proofs.Except
import Soap.Wsdl

/-!
# Comparing definitions

Whether two descriptions are the same can be decided, so that what a given document is loaded as can
be computed and compared. Declarations of elements nest in content models; the comparison follows
them.
-/

namespace Soap

open Xml (Markup)

mutual

/-- Are two declarations the same? -/
def ElementDecl.decEq : (a b : ElementDecl) → Decidable (a = b)
  | ⟨name, occurs, typeRef, inline, owner⟩, ⟨name', occurs', typeRef', inline', owner'⟩ =>
    have := decEqInline inline inline'
    decidable_of_iff (name = name' ∧ occurs = occurs' ∧ typeRef = typeRef' ∧ inline = inline' ∧ owner = owner')
      (by simp)

/-- Are two inline types the same? -/
def decEqInline : (a b : Option (ContentModel ElementDecl)) → Decidable (a = b)
  | none, none => isTrue rfl
  | none, some _ | some _, none => isFalse (by simp)
  | some ⟨name, content⟩, some ⟨name', content'⟩ =>
    have := decEqContent content content'
    decidable_of_iff (name = name' ∧ content = content') (by simp)

/-- Are two contents the same? -/
def decEqContent : (a b : List ElementDecl) → Decidable (a = b)
  | [], [] => isTrue rfl
  | [], _ :: _ | _ :: _, [] => isFalse (by simp)
  | first :: rest, first' :: rest' =>
    have := ElementDecl.decEq first first'
    have := decEqContent rest rest'
    decidable_of_iff (first = first' ∧ rest = rest') (by simp)

end

instance : DecidableEq ElementDecl := ElementDecl.decEq

deriving instance DecidableEq for SchemaDocument, SchemaRegistry
deriving instance DecidableEq for ElementRef, MessageBody, Message, Operation, PortType, Binding, Definitions
deriving instance DecidableEq for Declarations, Wsdl

/-- Are two outcomes the same? -/
instance decidableEqExcept {ε : Type u} {α : Type v} [DecidableEq ε] [DecidableEq α] :
    DecidableEq (Except ε α)
  | .ok a, .ok b => decidable_of_iff (a = b) (by simp)
  | .error e, .error e' => decidable_of_iff (e = e') (by simp)
  | .ok _, .error _ | .error _, .ok _ => isFalse (by simp)

/-! ## A service that takes orders -/

/-- A declaration of the service. -/
def ordersDecl (name : String) (typeRef : Option String) (maxOccurs : Option String) :
    ElementDecl :=
  { name, occurs := ⟨none, maxOccurs⟩, typeRef, inline := none, owner := some "urn:orders" }

/-- An order has a number, a flag and any number of lines. -/
def orderDecl : ElementDecl :=
  { ordersDecl "order" none none with
    inline := some ⟨none, [ordersDecl "id" (some "xsd:int") none, ordersDecl "paid" (some "xsd:boolean") none,
      ordersDecl "line" (some "xsd:string") (some "unbounded")]⟩ }

/-- A receipt is a number. -/
def receiptDecl : ElementDecl := ordersDecl "receipt" (some "xsd:int") none

/-- The message that carries a declared element. -/
def messageOf (name : String) (decl : ElementDecl) : Message :=
  { name, body := .element { decl, qualifier := some "o", space := some "urn:orders" } }

/-- The message that carries an order. -/
def orderMessage : Message := messageOf "Order" orderDecl

/-- The message that carries a receipt. -/
def receiptMessage : Message := messageOf "Receipt" receiptDecl

/-- The message of a call that cancels an order. -/
def cancelMessage : Message :=
  { name := "cancel", body := .parts [("id", { typeRef := "xsd:int", space := none })] }

/-- An order is answered with a receipt. -/
def placeOrder : Operation :=
  { name := "place", style := .document, soapAction := "", input := some orderMessage
    output := some receiptMessage, inputBody := none, outputBody := none, documentation := none }

/-- The one port of the service. -/
def ordersPort : Port :=
  { name := "Main", location := some "http://localhost/orders", binding := "OrdersSoap" }

/-- The binding of the port. -/
def ordersBinding : Binding :=
  { name := "OrdersSoap", transport := "http://schemas.xmlsoap.org/soap/http", style := .document
    portType := "Orders", methods := [("place", placeOrder)] }

/-- A description of the service. -/
def orders : Definitions :=
  { name := none, targetNamespace := some "urn:orders", namespaces := [("o", "urn:orders")]
    schemas := {
      schemas := [("urn:orders", {
        targetNamespace := some "urn:orders", namespaces := [("o", "urn:orders")]
        elements := [("order", orderDecl), ("receipt", receiptDecl)] })]
      namespaces := [("o", "urn:orders")] }
    messages := [("Order", orderMessage), ("Receipt", receiptMessage), ("cancel", cancelMessage)]
    portTypes := [("Orders", { name := "Orders", operations := [("place", placeOrder)] })]
    bindings := [("OrdersSoap", ordersBinding)]
    services := [("OrderService",
      { name := "OrderService", ports := [("Main", ordersPort)], documentation := none })] }

/-- An element without content. -/
def leafMarkup (tag : String) (attributes : List (String × String)) : Markup :=
  .element tag attributes []

/-- The schema of orders and receipts. -/
def ordersSchema : Markup :=
  .element "schema" [("targetNamespace", "urn:orders")]
    [.element "element" [("name", "order")]
      [.plain "complexType" [.plain "sequence"
        [leafMarkup "element" [("name", "id"), ("type", "xsd:int")],
          leafMarkup "element" [("name", "paid"), ("type", "xsd:boolean")],
          leafMarkup "element" [("name", "line"), ("type", "xsd:string"), ("maxOccurs", "unbounded")]]]],
      leafMarkup "element" [("name", "receipt"), ("type", "xsd:int")]]

/-- The document that describes the service. -/
def ordersMarkup : Markup :=
  .element "definitions" [("xmlns:o", "urn:orders"), ("targetNamespace", "urn:orders")]
    [.plain "types" [ordersSchema],
      .element "message" [("name", "Order")] [leafMarkup "part" [("name", "body"), ("element", "o:order")]],
      .element "message" [("name", "Receipt")] [leafMarkup "part" [("name", "body"), ("element", "o:receipt")]],
      .element "message" [("name", "cancel")] [leafMarkup "part" [("name", "id"), ("type", "xsd:int")]],
      .element "portType" [("name", "Orders")]
        [.element "operation" [("name", "place")]
          [leafMarkup "input" [("message", "o:Order")], leafMarkup "output" [("message", "o:Receipt")]]],
      .element "binding" [("name", "OrdersSoap"), ("type", "o:Orders")]
        [leafMarkup "binding" [("transport", "http://schemas.xmlsoap.org/soap/http")]],
      .element "service" [("name", "OrderService")]
        [.element "port" [("name", "Main"), ("binding", "o:OrdersSoap")]
          [leafMarkup "address" [("location", "http://localhost/orders")]]]]

/-- The loaded description. -/
def ordersWsdl : Wsdl := { definitions := orders, source := ordersMarkup.render, location := none }

/-- The document is loaded as the description. -/
theorem parse_orders : Wsdl.parse ordersMarkup.render {} = .ok ordersWsdl := by
  have hw : ordersMarkup.IsWritable := by decide +kernel
  rw [Wsdl.parse, Declarations.parse, ordersMarkup, Document.parse_render hw]
  decide +kernel

end Soap
