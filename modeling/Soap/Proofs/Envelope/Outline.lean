import Soap.Proofs.Definitions.Equality
import Soap.Proofs.Envelope.Shape
import Soap.Proofs.Value.Complete
import Soap.Proofs.Xml.Outline

/-!
# Texts are not markup

Documents, calls, faults and security headers hold the texts of their values and messages where the same
without texts has gaps, and nothing else differs. Their elements therefore depend on the shape of the value
alone, whatever its strings are (`texts_inject_nothing`).
-/

namespace Soap

open Xml (Markup IsTag isTagChar)
open Xml.Markup (IsFilled ReadsAs tags?)

namespace Value

/-! ## Shapes -/

/-- The shape of a value: its keys, its lists and its `null`s, with all scalars left blank. -/
def blank (v : Value) : Value := v.mapScalars fun _ => .string ""

def blankItems (items : List Value) : List Value := mapItems (fun _ => .string "") items

def blankFields (fields : List (String × Value)) : List (String × Value) := mapFields (fun _ => .string "") fields

mutual

/-- The texts of the scalars in a value, in the order in which they are written. -/
def texts : Value → List String
  | .null => []
  | .list items => textsOfItems items
  | .object fields => textsOfFields fields
  | v@(.string _) | v@(.int _) | v@(.float _) | v@(.bool _) | v@(.dateTime _) => v.scalarText?.toList

def textsOfItems : List Value → List String
  | [] => []
  | item :: rest => texts item ++ textsOfItems rest

def textsOfFields : List (String × Value) → List String
  | [] => []
  | (_, v) :: rest => texts v ++ textsOfFields rest

end

mutual

/-- The keys of all objects in a value. -/
def allKeys : Value → List String
  | .null => []
  | .list items => keysOfItems items
  | .object fields => keysOfFields fields
  | .string _ | .int _ | .float _ | .bool _ | .dateTime _ => []

def keysOfItems : List Value → List String
  | [] => []
  | item :: rest => allKeys item ++ keysOfItems rest

def keysOfFields : List (String × Value) → List String
  | [] => []
  | (key, v) :: rest => key :: allKeys v ++ keysOfFields rest

end

mutual

theorem allKeys_blank (v : Value) : v.blank.allKeys = v.allKeys := by
  match v with
  | .list items => exact keysOfItems_blank items
  | .object fields => exact keysOfFields_blank fields
  | .null | .string _ | .int _ | .float _ | .bool _ | .dateTime _ => rfl

theorem keysOfItems_blank (items : List Value) : keysOfItems (blankItems items) = keysOfItems items := by
  match items with
  | [] => rfl
  | item :: rest =>
    show item.blank.allKeys ++ keysOfItems (blankItems rest) = item.allKeys ++ keysOfItems rest
    rw [allKeys_blank item, keysOfItems_blank rest]

theorem keysOfFields_blank (fields : List (String × Value)) :
    keysOfFields (blankFields fields) = keysOfFields fields := by
  match fields with
  | [] => rfl
  | (key, v) :: rest =>
    show key :: v.blank.allKeys ++ keysOfFields (blankFields rest) = key :: v.allKeys ++ keysOfFields rest
    rw [allKeys_blank v, keysOfFields_blank rest]

end

/-- Values of one shape have the same keys. -/
theorem allKeys_of_blank_eq {v w : Value} (h : w.blank = v.blank) : w.allKeys = v.allKeys := by
  rw [← allKeys_blank w, h, allKeys_blank]

theorem ne_list_of_blank_eq {v w : Value} (h : w.blank = v.blank) (hv : ∀ items, v ≠ .list items) (items : List Value) :
    w ≠ .list items := by
  rintro rfl
  cases v with
  | list items => exact hv items rfl
  | _ => cases h

end Value

/-! ## Documents -/

theorem areReadable_nil : Xml.AreReadable [] := by decide

/-- What is written of a value has its texts where what is written of its shape has gaps, and the two
need the same prefixes. -/
structure IsWrittenAs (shape : List Markup × NamespaceTable) (texts : List String)
    (written : List Markup × NamespaceTable) : Prop where
  filled : IsFilled shape.1 texts written.1
  table_eq : shape.2 = written.2
  isWritable : written.2.IsWritable

/-- One after the other, with the prefixes that are left. -/
theorem IsWrittenAs.append {shape written : List Markup × NamespaceTable} {texts texts' : List String}
    (shape' written' : NamespaceTable → List Markup × NamespaceTable) (h : IsWrittenAs shape texts written)
    (h' : IsWrittenAs (shape' written.2) texts' (written' written.2)) :
    IsWrittenAs (shape.1 ++ (shape' shape.2).1, (shape' shape.2).2) (texts ++ texts')
      (written.1 ++ (written' written.2).1, (written' written.2).2) := by
  rw [h.table_eq]
  exact ⟨h.filled.append h'.filled, h'.table_eq, h'.isWritable⟩

/-- Inside an element. -/
theorem IsWrittenAs.element {shape written : List Markup × NamespaceTable} {texts : List String}
    (h : IsWrittenAs shape texts written) {tag : String} (htag : IsTag tag.toList) :
    IsWrittenAs ([.plain tag shape.1], shape.2) texts ([.plain tag written.1], written.2) :=
  ⟨h.filled.element htag areReadable_nil, h.table_eq, h.isWritable⟩

section Document

variable (reg : SchemaRegistry)

mutual

theorem isWrittenAs_encodeElement {table : NamespaceTable} (ht : table.IsWritable) {name : String}
    (hname : IsTag name.toList) (decl : Option ElementDecl) (parent : Option String) (v : Value)
    (hkeys : ∀ key ∈ v.allKeys, IsTag key.toList) :
    IsWrittenAs (encodeElement reg table name decl parent v.blank) v.texts
      (encodeElement reg table name decl parent v) := by
  obtain ⟨htag, hq⟩ := isTag_qualify ht hname (elementSpace decl parent)
  match v with
  | .null => exact ⟨.nil, rfl, ht⟩
  | .list items => exact isWrittenAs_encodeItems ht hname decl parent items hkeys
  | .object fields =>
    have hinside :=
      isWrittenAs_encodeFields hq (decl.bind reg.contentModel?) (elementSpace decl parent) fields hkeys
    exact hinside.element htag
  | .string _ | .int _ | .float _ | .bool _ | .dateTime _ => exact ⟨.leaf htag areReadable_nil _ .nil, rfl, hq⟩

theorem isWrittenAs_encodeItems {table : NamespaceTable} (ht : table.IsWritable) {name : String}
    (hname : IsTag name.toList) (decl : Option ElementDecl) (parent : Option String) (items : List Value)
    (hkeys : ∀ key ∈ Value.keysOfItems items, IsTag key.toList) :
    IsWrittenAs (encodeItems reg table name decl parent (Value.blankItems items)) (Value.textsOfItems items)
      (encodeItems reg table name decl parent items) := by
  match items with
  | [] => exact ⟨.nil, rfl, ht⟩
  | item :: rest =>
    have hfirst := isWrittenAs_encodeElement ht hname decl parent item
      fun key hkey => hkeys key (List.mem_append_left _ hkey)
    have hlater := isWrittenAs_encodeItems hfirst.isWritable hname decl parent rest
      fun key hkey => hkeys key (List.mem_append_right _ hkey)
    exact hfirst.append (fun table => encodeItems reg table name decl parent (Value.blankItems rest))
      (fun table => encodeItems reg table name decl parent rest) hlater

theorem isWrittenAs_encodeFields {table : NamespaceTable} (ht : table.IsWritable) (model : Option ComplexType)
    (space : Option String) (fields : List (String × Value))
    (hkeys : ∀ key ∈ Value.keysOfFields fields, IsTag key.toList) :
    IsWrittenAs (encodeFields reg table model space (Value.blankFields fields)) (Value.textsOfFields fields)
      (encodeFields reg table model space fields) := by
  match fields with
  | [] => exact ⟨.nil, rfl, ht⟩
  | (key, v) :: rest =>
    have hkey : IsTag key.toList := hkeys key List.mem_cons_self
    have hfirst := isWrittenAs_encodeElement ht hkey (model.bind (·.field? key)) space v
      fun key hkey => hkeys key (List.mem_cons_of_mem _ (List.mem_append_left _ hkey))
    have hlater := isWrittenAs_encodeFields hfirst.isWritable model space rest
      fun key hkey => hkeys key (List.mem_cons_of_mem _ (List.mem_append_right _ hkey))
    exact hfirst.append (fun table => encodeFields reg table model space (Value.blankFields rest))
      (fun table => encodeFields reg table model space rest) hlater

end

end Document

/-! ## Calls -/

mutual

theorem isFilled_encodeShape {name : String} (hname : IsTag name.toList) (v : Value)
    (hkeys : ∀ key ∈ v.allKeys, IsTag key.toList) :
    IsFilled (encodeShape name v.blank) v.texts (encodeShape name v) := by
  match v with
  | .null => exact .nil
  | .list items => exact isFilled_encodeShapes hname items hkeys
  | .object fields => exact (isFilled_encodeParameters fields hkeys).element hname areReadable_nil
  | .string _ | .int _ | .float _ | .bool _ | .dateTime _ => exact .leaf hname areReadable_nil _ .nil

theorem isFilled_encodeShapes {name : String} (hname : IsTag name.toList) (items : List Value)
    (hkeys : ∀ key ∈ Value.keysOfItems items, IsTag key.toList) :
    IsFilled (encodeShapes name (Value.blankItems items)) (Value.textsOfItems items) (encodeShapes name items) := by
  match items with
  | [] => exact .nil
  | item :: rest =>
    have hfirst := isFilled_encodeShape hname item fun key hkey => hkeys key (List.mem_append_left _ hkey)
    have hlater := isFilled_encodeShapes hname rest fun key hkey => hkeys key (List.mem_append_right _ hkey)
    exact hfirst.append hlater

theorem isFilled_encodeParameters (fields : List (String × Value))
    (hkeys : ∀ key ∈ Value.keysOfFields fields, IsTag key.toList) :
    IsFilled (encodeParameters (Value.blankFields fields)) (Value.textsOfFields fields) (encodeParameters fields) := by
  match fields with
  | [] => exact .nil
  | (key, v) :: rest =>
    have hkey : IsTag key.toList := hkeys key List.mem_cons_self
    have hfirst := isFilled_encodeShape hkey v
      fun key hkey => hkeys key (List.mem_cons_of_mem _ (List.mem_append_left _ hkey))
    have hlater := isFilled_encodeParameters rest
      fun key hkey => hkeys key (List.mem_cons_of_mem _ (List.mem_append_right _ hkey))
    exact hfirst.append hlater

end

/-- The wrapper of a call is filled too. Several parameters without names would run together. -/
theorem isFilled_encodeCall {table : NamespaceTable} (ht : table.IsWritable) {name : String}
    (hname : IsTag name.toList) (space : Option String) (params : Value)
    (hkeys : ∀ key ∈ params.allKeys, IsTag key.toList) (hlist : ∀ items, params ≠ .list items) :
    IsFilled (encodeCall table name space params.blank).1 params.texts (encodeCall table name space params).1 := by
  obtain ⟨htag, -⟩ := isTag_qualify ht hname space
  match params with
  | .null => exact IsFilled.nil.element htag areReadable_nil
  | .list items => exact absurd rfl (hlist items)
  | .object fields => exact (isFilled_encodeParameters fields hkeys).element htag areReadable_nil
  | .string _ | .int _ | .float _ | .bool _ | .dateTime _ => exact .leaf htag areReadable_nil _ .nil

/-! ## Faults and security headers -/

theorem isFilled_encodeFault (code message : String) :
    IsFilled [encodeFault "" ""] [code, message] [encodeFault code message] := by
  have htags : IsTag "soap:Fault".toList ∧ IsTag "faultcode".toList ∧ IsTag "faultstring".toList := by decide
  obtain ⟨hfault, hcode, hmessage⟩ := htags
  have hinside := IsFilled.leaf hcode areReadable_nil code (.leaf hmessage areReadable_nil message .nil)
  exact hinside.element hfault areReadable_nil

theorem isFilled_encodeSecurity (username password : String) :
    IsFilled [encodeSecurity "" ""] [username, password] [encodeSecurity username password] := by
  have htags : IsTag "wsse:Security".toList ∧ IsTag "wsse:UsernameToken".toList ∧ IsTag "wsse:Username".toList ∧
      IsTag "wsse:Password".toList := by decide
  obtain ⟨hsecurity, htoken, hname, hword⟩ := htags
  have hspace : Xml.AreReadable [("xmlns:wsse", securitySpace)] := by decide
  have hinside := IsFilled.leaf hname areReadable_nil username (.leaf hword areReadable_nil password .nil)
  exact (hinside.element htoken areReadable_nil).element hsecurity hspace

/-! ## All that is written -/

/-- Documents, calls, faults and security headers are read to their end. Their tags are those of the same with
every text left out, and nest; each text stands in the place of its scalar, trimmed. So values of one
shape have the same tags. Prefixes, the names of elements and keys are written as they are, and have to be
names. -/
theorem texts_inject_nothing :
    (∀ (reg : SchemaRegistry) (table : NamespaceTable) (name : String) (v : Value),
      table.IsWritable → IsTag name.toList → (∀ key ∈ v.allKeys, IsTag key.toList) →
      (∀ decl,
        ReadsAs (Markup.renderAll (encodeDocument reg table name decl v).1)
          (encodeDocument reg table name decl v.blank).1 v.texts ∧
        ∀ w : Value, w.blank = v.blank → tags? (Markup.renderAll (encodeDocument reg table name decl w).1) =
          tags? (Markup.renderAll (encodeDocument reg table name decl v).1)) ∧
      ((∀ items, v ≠ .list items) → ∀ space,
        ReadsAs (Markup.renderAll (encodeCall table name space v).1) (encodeCall table name space v.blank).1 v.texts ∧
        ∀ w : Value, w.blank = v.blank → tags? (Markup.renderAll (encodeCall table name space w).1) =
          tags? (Markup.renderAll (encodeCall table name space v).1))) ∧
    (∀ code message, ReadsAs (encodeFault code message).render [encodeFault "" ""] [code, message]) ∧
    ∀ username password,
      ReadsAs (encodeSecurity username password).render [encodeSecurity "" ""] [username, password] := by
  have hsingle : ∀ piece : Markup, Markup.renderAll [piece] = piece.render := fun piece => String.append_empty
  refine ⟨?_, ?_, ?_⟩
  · intro reg table name v ht hname hkeys
    have hsame : ∀ w : Value, w.blank = v.blank → ∀ key ∈ w.allKeys, IsTag key.toList := by
      intro w hw
      rwa [Value.allKeys_of_blank_eq hw]
    constructor
    · intro decl
      have hreads := (isWrittenAs_encodeElement reg ht hname (some decl) none v hkeys).filled.readsAs
      refine ⟨hreads, fun w hw => ?_⟩
      have hother := (isWrittenAs_encodeElement reg ht hname (some decl) none w (hsame w hw)).filled.readsAs
      rw [hw] at hother
      exact hother.tags?_eq hreads
    · intro hlist space
      have hreads := (isFilled_encodeCall ht hname space v hkeys hlist).readsAs
      refine ⟨hreads, fun w hw => ?_⟩
      have hother :=
        (isFilled_encodeCall ht hname space w (hsame w hw) (Value.ne_list_of_blank_eq hw hlist)).readsAs
      rw [hw] at hother
      exact hother.tags?_eq hreads
  · intro code message
    rw [← hsingle]
    exact (isFilled_encodeFault code message).readsAs
  · intro username password
    rw [← hsingle]
    exact (isFilled_encodeSecurity username password).readsAs

/-! ### A hostile order -/

/-- An order that tries to end its own element and to open others. -/
def hostileOrder : Value :=
  .object [("id", .string "7</id></order><admin>1</admin>"), ("paid", .null),
    ("line", .list [.string "]]> &amp; <!--", .string " \"'> ", .string ""])]

/-- Only the texts differ from an order without any. -/
theorem texts_inject_nothing_order :
    let table := NamespaceTable.ofDeclarations orders.namespaces
    let texts := ["7</id></order><admin>1</admin>", "]]> &amp; <!--", " \"'> ", ""]
    ReadsAs (Markup.renderAll (encodeDocument orders.schemas table "order" orderDecl hostileOrder).1)
      (encodeDocument orders.schemas table "order" orderDecl hostileOrder.blank).1 texts ∧
    ReadsAs (Markup.renderAll (encodeCall table "cancel" (some "urn:orders") hostileOrder).1)
      (encodeCall table "cancel" (some "urn:orders") hostileOrder.blank).1 texts ∧
    ReadsAs (encodeFault "a</faultcode>" "&b;").render [encodeFault "" ""] ["a</faultcode>", "&b;"] := by
  obtain ⟨hvalues, hfaults, -⟩ := texts_inject_nothing
  have ht : (NamespaceTable.ofDeclarations orders.namespaces).IsWritable := ⟨by decide, by decide, by decide⟩
  have hkeys : ∀ key ∈ hostileOrder.allKeys, IsTag key.toList := by decide
  have hlist : ∀ items, hostileOrder ≠ .list items := by rintro items ⟨⟩
  exact ⟨((hvalues orders.schemas _ "order" _ ht (by decide) hkeys).1 orderDecl).1,
    ((hvalues orders.schemas _ "cancel" _ ht (by decide) hkeys).2 hlist (some "urn:orders")).1, hfaults _ _⟩

end Soap
