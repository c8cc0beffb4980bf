import Soap.Text.Split

/-!
# Qualified names

A name such as `tns:GetPrice` is cut at its first colon into a prefix and a local part. A name
without a colon has no prefix; an empty prefix (`:x`) is a prefix all the same.
-/

namespace Soap

/-- A possibly prefixed XML name. -/
structure QName where
  qualifier : Option String
  localName : String
deriving DecidableEq, Repr

namespace QName

def unqualified (name : String) : QName := ⟨none, name⟩

/-- Cut a name at its first colon. -/
def parse (name : String) : QName :=
  match Text.splitFirst (· == ':') name.toList with
  | some (qualifier, localName) => ⟨some (String.ofList qualifier), String.ofList localName⟩
  | none => unqualified name

def render (q : QName) : String :=
  match q.qualifier with
  | some p => p ++ ":" ++ q.localName
  | none => q.localName

/-- The prefix, empty for the default namespace. -/
def qualifierOrDefault (q : QName) : String := q.qualifier.getD ""

/-- A parsed name is written as it was read. -/
theorem render_parse (name : String) : (parse name).render = name := by
  unfold parse
  split
  · next a b h =>
    obtain ⟨c, hc, heq, _⟩ := Text.splitFirst_eq_some h
    have hc : c = ':' := by simpa using hc
    subst hc
    rw [← String.toList_inj]
    simp [render, heq, String.toList_append]
  · rfl

theorem parse_eq_unqualified {name : String} (h : ∀ c ∈ name.toList, c ≠ ':') :
    parse name = unqualified name := by
  have : Text.splitFirst (· == ':') name.toList = none :=
    Text.splitFirst_eq_none.2 fun c hc => by simpa using h c hc
  simp [parse, this]

end QName

def localPart (name : String) : String := (QName.parse name).localName

end Soap
