import Soap.Xml.Attribute

/-!
# Markup trees

What is put on the wire is built as a tree of elements and text, and `render` is the only place
where such a tree becomes text. Text is escaped there, so what stands in it cannot open or close an
element; names and attributes are written as they are.
-/

namespace Soap.Xml

/-- A piece of a document. -/
inductive Markup where
  | text (content : String)
  | element (tag : String) (attributes : List (String × String)) (content : List Markup)
deriving Inhabited

namespace Markup

def plain (tag : String) (content : List Markup) : Markup := .element tag [] content

def renderAttributes (attributes : List (String × String)) : String :=
  String.join (attributes.map fun (name, value) => " " ++ name ++ "=\"" ++ value ++ "\"")

mutual

def render : Markup → String
  | .text content => escape content
  | .element tag attributes content =>
    "<" ++ tag ++ renderAttributes attributes ++ ">" ++ renderAll content ++ "</" ++ tag ++ ">"

def renderAll : List Markup → String
  | [] => ""
  | piece :: rest => render piece ++ renderAll rest

end

theorem renderAll_append (a b : List Markup) : renderAll (a ++ b) = renderAll a ++ renderAll b := by
  induction a with
  | nil => simp [renderAll]
  | cons piece rest ih => simp [renderAll, ih, String.append_assoc]

end Markup

end Soap.Xml
