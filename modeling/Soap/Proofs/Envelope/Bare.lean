import Soap.Proofs.Envelope.Qualification
import Soap.Proofs.Envelope.Reading

/-!
# Elements without attributes

Documents and calls are written without attributes: only the root of an envelope and a security block declare
namespaces. So no element of a body has a name and none refers to another, and the body is complete as soon as it
is read: it reads as one value, wherever it stands and whatever was read before (`exists_readsBody`). Tags must be
names, but nothing is asked of the values that were written.
-/

namespace Soap

open Xml (Markup Event IsTag flushed openEvent)
open Xml.Markup (events happen happenAll startTags startTagsAll)
open Decoder (Frame Progress step body)

/-! ## What is written without attributes -/

namespace Xml.Markup

mutual

/-- No element in the piece has attributes. -/
def IsBare : Markup → Prop
  | .text _ => True
  | .element _ attributes content => attributes = [] ∧ AreBare content

def AreBare : List Markup → Prop
  | [] => True
  | piece :: rest => IsBare piece ∧ AreBare rest

end

theorem AreBare.append {a b : List Markup} (ha : AreBare a) (hb : AreBare b) : AreBare (a ++ b) := by
  induction a with
  | nil => exact hb
  | cons piece rest ih => exact ⟨ha.1, ih ha.2⟩

theorem AreBare.plain {content : List Markup} (h : AreBare content) (tag : String) : AreBare [.plain tag content] :=
  ⟨⟨rfl, h⟩, trivial⟩

theorem areBare_text (text? : Option String) : AreBare (text?.map Markup.text).toList := by
  cases text? with
  | none => exact trivial
  | some text => exact ⟨trivial, trivial⟩

mutual

/-- Bare markup can be written if its tags are names. -/
theorem IsBare.isWritable {piece : Markup} (h : piece.IsBare) (htags : ∀ tag ∈ piece.startTags, IsTag tag.toList) :
    piece.IsWritable := by
  match piece with
  | .text _ => exact trivial
  | .element tag attributes content =>
    obtain ⟨rfl, hcontent⟩ := h
    refine ⟨htags tag List.mem_cons_self, by decide, ?_⟩
    exact hcontent.areWritable fun tag htag => htags tag (List.mem_cons_of_mem _ htag)

theorem AreBare.areWritable {content : List Markup} (h : AreBare content)
    (htags : ∀ tag ∈ startTagsAll content, IsTag tag.toList) : AreWritable content := by
  match content with
  | [] => exact trivial
  | piece :: rest =>
    exact ⟨h.1.isWritable fun tag htag => htags tag (List.mem_append_left _ htag),
      h.2.areWritable fun tag htag => htags tag (List.mem_append_right _ htag)⟩

end

end Xml.Markup

open Xml.Markup (IsBare AreBare areBare_text)

section Document

variable (reg : SchemaRegistry)

mutual

theorem areBare_encodeElement (table : NamespaceTable) (name : String) (decl : Option ElementDecl)
    (parent : Option String) (v : Value) : AreBare (encodeElement reg table name decl parent v).1 := by
  match v with
  | .null => exact trivial
  | .list items => exact areBare_encodeItems table name decl parent items
  | .object fields => exact (areBare_encodeFields _ _ _ fields).plain _
  | .string _ | .int _ | .float _ | .bool _ | .dateTime _ => exact (areBare_text _).plain _

theorem areBare_encodeItems (table : NamespaceTable) (name : String) (decl : Option ElementDecl)
    (parent : Option String) (items : List Value) : AreBare (encodeItems reg table name decl parent items).1 := by
  match items with
  | [] => exact trivial
  | item :: rest =>
    exact (areBare_encodeElement table name decl parent item).append (areBare_encodeItems _ name decl parent rest)

theorem areBare_encodeFields (table : NamespaceTable) (model : Option ComplexType) (space : Option String)
    (fields : List (String × Value)) : AreBare (encodeFields reg table model space fields).1 := by
  match fields with
  | [] => exact trivial
  | (key, v) :: rest =>
    exact (areBare_encodeElement table key _ space v).append (areBare_encodeFields _ model space rest)

end

end Document

mutual

theorem areBare_encodeShape (name : String) (v : Value) : AreBare (encodeShape name v) := by
  match v with
  | .null => exact trivial
  | .list items => exact areBare_encodeShapes name items
  | .object fields => exact (areBare_encodeParameters fields).plain name
  | .string _ | .int _ | .float _ | .bool _ | .dateTime _ => exact (areBare_text _).plain name

theorem areBare_encodeShapes (name : String) (items : List Value) : AreBare (encodeShapes name items) := by
  match items with
  | [] => exact trivial
  | item :: rest => exact (areBare_encodeShape name item).append (areBare_encodeShapes name rest)

theorem areBare_encodeParameters (fields : List (String × Value)) : AreBare (encodeParameters fields) := by
  match fields with
  | [] => exact trivial
  | (key, v) :: rest => exact (areBare_encodeShape key v).append (areBare_encodeParameters rest)

end

mutual

theorem areBare_encodeContent (v : Value) : AreBare (encodeContent v) := by
  match v with
  | .null => exact trivial
  | .list items => exact areBare_encodeContents items
  | .object fields => exact areBare_encodeParameters fields
  | .string _ | .int _ | .float _ | .bool _ | .dateTime _ =>
    rw [encodeContent]
    exact areBare_text _

theorem areBare_encodeContents (items : List Value) : AreBare (encodeContents items) := by
  match items with
  | [] => exact trivial
  | item :: rest => exact (areBare_encodeContent item).append (areBare_encodeContents rest)

end

theorem areBare_encodeCall (table : NamespaceTable) (name : String) (space : Option String) (params : Value) :
    AreBare (encodeCall table name space params).1 :=
  (areBare_encodeContent params).plain _

/-! ## Reading on from an open element -/

/-- No text comes to be a reference. -/
theorem Partial.IsWhole.addText {node : Partial} (h : node.IsWhole) (kind : ScalarKind) (text : String) :
    (node.addText kind text).IsWhole := by
  have hcoerce : IsWhole (.scalar (.coerce kind text)) := ⟨_, (ofValue_coerce kind text).symm⟩
  obtain ⟨v, rfl⟩ := h
  cases v with
  | null => exact hcoerce
  | list items => exact ⟨.list items, rfl⟩
  | object fields => exact ⟨.object fields, rfl⟩
  | string existing =>
    cases kind with
    | text => exact ⟨.string (existing ++ text), rfl⟩
    | integer | boolean | dateTime => exact hcoerce
  | int _ | float _ | bool _ | dateTime _ => cases kind <;> exact hcoerce

namespace Decoder

/-- The events leave an element that is open, and whole so far, open and whole, and nothing that can be referred to.
What they make of it does not depend on what is around it. -/
def KeepsWhole (defs : Option Definitions) (events : List Event) : Prop :=
  ∀ (f : Frame) (met : Bool), f.node.IsWhole → ∃ node met', node.IsWhole ∧
    ∀ outer, events.foldl (step defs) ⟨f :: outer, met, []⟩ = ⟨f.holding node :: outer, met', []⟩

variable {defs : Option Definitions}

theorem KeepsWhole.append {a b : List Event} (ha : KeepsWhole defs a) (hb : KeepsWhole defs b) :
    KeepsWhole defs (a ++ b) := by
  intro f met hf
  obtain ⟨between, met', hbetween, hfirst⟩ := ha f met hf
  obtain ⟨node, met'', hnode, hlater⟩ := hb (f.holding between) met' hbetween
  refine ⟨node, met'', hnode, fun outer => ?_⟩
  rw [List.foldl_append, hfirst, hlater]
  rfl

theorem keepsWhole_nil : KeepsWhole defs [] := fun f met hf => ⟨f.node, met, hf, fun _ => rfl⟩

theorem keepsWhole_flushed (run : List Char) : KeepsWhole defs (flushed run) := by
  unfold flushed Xml.flush
  split
  · exact keepsWhole_nil
  · exact fun f met hf => ⟨_, met, hf.addText f.scalarKind _, fun _ => rfl⟩

/-- How an element without attributes is read depends on the one around it, and not on what is around that. -/
theorem exists_openElement (defs : Option Definitions) (parent : Frame) (met : Bool) (name : String) :
    ∃ schema typed met', ∀ outer, openElement defs ⟨parent :: outer, met, []⟩ name [] =
      ⟨Frame.opening name schema typed :: parent :: outer, met', []⟩ := by
  have hcarries : ∀ outer, carriesMessage ⟨parent :: outer, met, []⟩ parent name =
      (parent.name == "Body" && name != "Fault" && !met) := fun _ => rfl
  -- Whether the element carries the message is told from its parent alone.
  cases hcase : parent.name == "Body" && name != "Fault" && !met with
  | true =>
    refine ⟨some (messageSchema defs name).description, (messageSchema defs name).typed, true, fun outer => ?_⟩
    simp [openElement, hcarries, hcase, localAttribute?, Frame.opening]
  | false =>
    refine ⟨parent.schema.bind (·.child? name), parent.typed, met, fun outer => ?_⟩
    simp [openElement, hcarries, hcase, localAttribute?, Frame.opening]

/-- An element without attributes joins the one around it as a whole child, if its content leaves it whole. -/
theorem KeepsWhole.element {inside : List Event} (hinside : KeepsWhole defs inside) (tag : String) :
    KeepsWhole defs (openEvent tag [] :: inside ++ [.stop (QName.parse tag)]) := by
  intro f met hf
  let name := (QName.parse tag).localName
  obtain ⟨schema, typed, met', hopen⟩ := exists_openElement defs f met name
  obtain ⟨node, met'', hnode, hfold⟩ := hinside (Frame.opening name schema typed) met' Partial.isWhole_empty
  have hchild := hf.addChild (hnode.close (schema.any Description.isLeaf)) name (f.schema.any (·.isRepeated name))
  refine ⟨_, met'', hchild, fun outer => ?_⟩
  have hstart : step defs ⟨f :: outer, met, []⟩ (openEvent tag []) = openElement defs ⟨f :: outer, met, []⟩ name [] := rfl
  rw [List.cons_append, List.foldl_cons, hstart, hopen, List.foldl_append, hfold]
  rfl

mutual

theorem keepsWhole_happen {piece : Markup} (h : piece.IsBare) (run : List Char) :
    KeepsWhole defs (happen run piece).1 := by
  match piece with
  | .text _ => exact keepsWhole_nil
  | .element tag attributes content =>
    obtain ⟨rfl, hcontent⟩ := h
    have hinside := (keepsWhole_happenAll hcontent []).append (keepsWhole_flushed (happenAll [] content).2)
    simpa [happen] using (keepsWhole_flushed run).append (hinside.element tag)

theorem keepsWhole_happenAll {content : List Markup} (h : AreBare content) (run : List Char) :
    KeepsWhole defs (happenAll run content).1 := by
  match content with
  | [] => exact keepsWhole_nil
  | piece :: rest => exact (keepsWhole_happen h.1 run).append (keepsWhole_happenAll h.2 (happen run piece).2)

end

/-- Nothing that is written without attributes leaves a reference. -/
theorem keepsWhole_events {content : List Markup} (h : AreBare content) : KeepsWhole defs (events content) :=
  (keepsWhole_happenAll h []).append (keepsWhole_flushed (happenAll [] content).2)

end Decoder

/-- A body without attributes reads as one value, wherever it stands. -/
theorem exists_readsBody (defs : Option Definitions) {content : List Markup} (h : AreBare content) :
    ∃ v, ReadsBody defs content v := by
  obtain ⟨node, met, hnode, hfold⟩ := Decoder.keepsWhole_events h body false Partial.isWhole_empty
  obtain ⟨v, hv⟩ := hnode.close false
  exact ⟨v, fun outer => ⟨node, met, hfold outer, hv⟩⟩

end Soap
