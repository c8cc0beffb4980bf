import Soap.Proofs.Envelope.Conformance
import Soap.Proofs.OrderedMap
import Soap.Proofs.Xml.Element

/-!
# What an envelope means

An envelope is a tree of elements, and what stands in an element is told by recursion over the tree
(`Xml.Element.content`): from how the element is expected to look, its text and what its children
are. Nothing here follows events or keeps a stack.

Elements are numbered in the order of their start tags. The message is the first one, by these
numbers, that stands in a `Body` and is no `Fault` (`Xml.Element.message?`); it is expected to look
as its message says, and any other element as the one around it says.
-/

namespace Soap

namespace Xml.Element

/-! ## Numbers -/

mutual

/-- The number of elements in an element, itself among them. -/
def size : Element → Nat
  | ⟨_, _, _, _, children⟩ => 1 + totalSize children

def totalSize : List (Element × Option String) → Nat
  | [] => 0
  | (child, _) :: rest => child.size + totalSize rest

end

/-- The number of an element if it may carry the message. -/
def ownOffer (parent : String) (n : Nat) (name : String) : List Nat :=
  if parent = "Body" ∧ name ≠ "Fault" then [n] else []

mutual

/-- The numbers of the elements that may carry the message, among an element with the number `n` and
those in it. -/
def offers (parent : String) (n : Nat) : Element → List Nat
  | ⟨name, _, _, _, children⟩ =>
    ownOffer parent n name.localName ++ childOffers name.localName (n + 1) children

/-- The numbers of those among children, the first of which has the number `n`. -/
def childOffers (parent : String) (n : Nat) : List (Element × Option String) → List Nat
  | [] => []
  | (child, _) :: rest => offers parent n child ++ childOffers parent (n + child.size) rest

end

/-- The number of the element that carries the message. -/
def message? (root : Element) : Option Nat := (root.offers "" 0).head?

end Xml.Element

/-! ## Expectations -/

/-- How an element is read: what describes it, and whether its leaves are read by their types. -/
structure Expectation where
  schema : Option Description
  typed : Bool

namespace Expectation

/-- Around the root. -/
def outermost : Expectation := { schema := some Envelope.overlay, typed := true }

/-- A child is described by the element around it. -/
def child (x : Expectation) (name : String) : Expectation :=
  { x with schema := x.schema.bind (·.child? name) }

/-- What carries the message is read as the message says. -/
def ofMessage (s : MessageSchema) : Expectation := { schema := some s.description, typed := s.typed }

/-- How the element with the number `n` is read inside another. -/
def inside (defs : Option Definitions) (message : Option Nat) (x : Expectation) (n : Nat)
    (name : String) : Expectation :=
  if message = some n then .ofMessage (messageSchema defs name) else x.child name

end Expectation

/-! ## Values -/

namespace Partial

/-- The children of one name: a list if they are declared to repeat or do so. -/
def gather (repeatable : Bool) : List Partial → Partial
  | [child] => if repeatable then .list [child] else child
  | children => .list children

/-- The children of a name, in order. -/
def named (name : String) (children : List (String × Partial)) : List Partial :=
  (children.filter fun child => child.1 == name).map Prod.snd

/-- The fields of an element with the given children: one for each name, in the order in which the
names occur first, with all children of this name. -/
def collect (schema : Option Description) (children : List (String × Partial)) :
    OrderedMap String Partial :=
  (children.map Prod.fst).eraseDups.map fun name =>
    (name, gather (schema.any (·.isRepeated name)) (named name children))

end Partial

/-- What stands in an element that has the given text and children. -/
def Expectation.content (x : Expectation) (text : Option String) :
    (children : List (String × Partial)) → Partial
  | [] =>
    match text with
    | some text => .scalar (.coerce (leafKind x.typed x.schema) text)
    | none => if x.schema.any Description.isLeaf then .scalar (.string "") else .object []
  | first :: rest => .object (Partial.collect x.schema (first :: rest))

namespace Xml.Element

/-- What an element is to the one around it: a reference if it has an `href`, and else what stands in
it. -/
def standIn (e : Element) (content : Partial) : Partial :=
  match Decoder.localAttribute? e.attributes "href" with
  | some href => .ref (String.ofList (href.toList.dropWhile (· == '#')))
  | none => content

section

variable (defs : Option Definitions) (message : Option Nat)

mutual

/-- What stands in the element with the number `n`, read as `x` says. -/
def content (x : Expectation) (n : Nat) : Element → Partial
  | ⟨_, _, _, text, children⟩ => x.content text (childValues x (n + 1) children)

/-- What children are to the element around them, which is read as `x` says; the first one has the
number `n`. -/
def childValues (x : Expectation) (n : Nat) :
    List (Element × Option String) → List (String × Partial)
  | [] => []
  | (child, _) :: rest =>
    (child.localName,
        child.standIn (content (x.inside defs message n child.localName) n child)) ::
      childValues x (n + child.size) rest

end

end

end Xml.Element

/-- An element that was closed: its `id`, what stands in it, and what it is to the element around
it. -/
structure Closing where
  id : Option String
  content : Partial
  value : Partial

/-- The elements that can be referred to. A later one of the same `id` counts. -/
def registered (closings : List Closing) : List (String × Partial) :=
  closings.filterMap fun closing => closing.id.map fun id => (id, closing.content)

theorem registered_append (a b : List Closing) : registered (a ++ b) = registered a ++ registered b :=
  List.filterMap_append

namespace Xml.Element

def closing (e : Element) (content : Partial) : Closing :=
  { id := Decoder.localAttribute? e.attributes "id", content, value := e.standIn content }

section

variable (defs : Option Definitions) (message : Option Nat)

mutual

/-- An element and those in it, in the order of their end tags. -/
def closings (x : Expectation) (n : Nat) : Element → List Closing
  | ⟨name, attributes, declarations, text, children⟩ =>
    let e : Element := ⟨name, attributes, declarations, text, children⟩
    childClosings x (n + 1) children ++ [e.closing (e.content defs message x n)]

def childClosings (x : Expectation) (n : Nat) : List (Element × Option String) → List Closing
  | [] => []
  | (child, _) :: rest =>
    closings (x.inside defs message n child.localName) n child ++ childClosings x (n + child.size) rest

end

end

/-- All elements of an envelope, in the order of their end tags. -/
def allClosings (defs : Option Definitions) (root : Element) : List Closing :=
  root.closings defs root.message? (Expectation.outermost.child root.localName) 0

/-- What an envelope means before references are followed. -/
def value (defs : Option Definitions) (root : Element) : Partial :=
  root.standIn
    (root.content defs root.message? (Expectation.outermost.child root.localName) 0)

end Xml.Element

/-! ## Laws of collecting -/

theorem Expectation.content_ne_list (x : Expectation) (text : Option String)
    (children : List (String × Partial)) (items : List Partial) :
    x.content text children ≠ .list items := by
  unfold content
  split
  · split
    · simp
    · split <;> simp
  · simp

/-- No element is a list by itself. -/
theorem Xml.Element.standIn_content_ne_list (defs : Option Definitions) (message : Option Nat)
    (x : Expectation) (n : Nat) (e : Element) (items : List Partial) :
    e.standIn (e.content defs message x n) ≠ .list items := by
  unfold standIn
  split
  · simp
  · obtain ⟨name, attributes, declarations, text, children⟩ := e
    rw [content]
    exact x.content_ne_list _ _ items

theorem Xml.Element.childValues_ne_list (defs : Option Definitions) (message : Option Nat)
    (x : Expectation) (n : Nat) (children : List (Element × Option String)) :
    ∀ child ∈ childValues defs message x n children, ∀ items, child.2 ≠ .list items := by
  induction children generalizing n with
  | nil => simp [childValues]
  | cons first rest ih =>
    obtain ⟨e, text⟩ := first
    intro child hchild
    rw [childValues] at hchild
    rcases List.mem_cons.mp hchild with rfl | hchild
    · exact standIn_content_ne_list defs message _ n e
    · exact ih _ child hchild

namespace Partial

/-- No name is listed twice. -/
theorem nodup_eraseDups (names : List String) : names.eraseDups.Nodup := by
  match names with
  | [] => exact List.nodup_nil
  | name :: rest =>
    rw [List.eraseDups_cons, List.nodup_cons]
    refine ⟨fun h => ?_, nodup_eraseDups _⟩
    have hne := (List.mem_filter.mp (List.mem_eraseDups.mp h)).2
    simp at hne
termination_by names.length
decreasing_by exact Nat.lt_succ_of_le (List.length_filter_le ..)

/-- One more child of a name. -/
theorem gather_append {children : List Partial} (hne : children ≠ [])
    (hlist : ∀ child ∈ children, ∀ items, child ≠ .list items) (repeatable : Bool) (child : Partial) :
    gather repeatable (children ++ [child]) =
      child.addTo repeatable (some (gather repeatable children)) := by
  match children with
  | [] => exact absurd rfl hne
  | [first] =>
    cases repeatable with
    | true => rfl
    | false =>
      show .list [first, child] = child.addTo false (some first)
      unfold addTo
      split
      · next items he => exact absurd (Option.some.inj he) (hlist first (by simp) items)
      · next he =>
        obtain rfl := Option.some.inj he
        rfl
      · next he => cases he
  | first :: second :: rest => rfl

/-! ### One more child -/

section

variable {children : List (String × Partial)} {name : String}

theorem named_append (other : String) (child : Partial) :
    named other (children ++ [(name, child)]) =
      named other children ++ if other = name then [child] else [] := by
  rw [named, List.filter_append, List.map_append]
  congr 1
  by_cases h : other = name
  · simp [h]
  · simp [h, Ne.symm h]

theorem mem_named {child : Partial} : child ∈ named name children ↔ (name, child) ∈ children := by
  simp only [named, List.mem_map, List.mem_filter, beq_iff_eq]
  constructor
  · rintro ⟨⟨_, _⟩, ⟨h, rfl⟩, rfl⟩
    exact h
  · intro h
    exact ⟨_, ⟨h, rfl⟩, rfl⟩

theorem named_eq_nil_iff : named name children = [] ↔ name ∉ children.map Prod.fst := by
  rw [List.eq_nil_iff_forall_not_mem]
  constructor
  · intro h hname
    obtain ⟨⟨_, child⟩, hchild, rfl⟩ := List.mem_map.mp hname
    exact h child (mem_named.mpr hchild)
  · intro h child hchild
    exact h (List.mem_map.mpr ⟨_, mem_named.mp hchild, rfl⟩)

variable (schema : Option Description)

theorem keys_collect : (collect schema children).keys = (children.map Prod.fst).eraseDups := by
  rw [collect, OrderedMap.keys, List.map_map]
  exact List.map_id' _

/-- A child of a known name joins those of this name. -/
theorem collect_append_of_mem (h : name ∈ children.map Prod.fst) (child : Partial) :
    collect schema (children ++ [(name, child)]) =
      (collect schema children).insert name
        (gather (schema.any (·.isRepeated name)) (named name children ++ [child])) := by
  have hknown : [name].removeAll (children.map Prod.fst) = [] := by simp [List.removeAll, h]
  rw [collect, collect, OrderedMap.insert_map_of_mem (nodup_eraseDups _) _ (List.mem_eraseDups.mpr h),
    List.map_append, List.eraseDups_append, List.map_cons, List.map_nil, hknown, List.eraseDups_nil,
    List.append_nil]
  refine List.map_congr_left fun other _ => ?_
  rw [named_append]
  split
  · next he => rw [he]
  · rw [List.append_nil]

/-- A child of a new name is the last field. -/
theorem collect_append_of_not_mem (h : name ∉ children.map Prod.fst) (child : Partial) :
    collect schema (children ++ [(name, child)]) =
      collect schema children ++ [(name, gather (schema.any (·.isRepeated name)) [child])] := by
  have hnew : ([name].removeAll (children.map Prod.fst)).eraseDups = [name] := by
    simp [List.removeAll, h, List.eraseDups_cons]
  rw [collect, List.map_append, List.eraseDups_append, List.map_cons, List.map_nil, hnew,
    List.map_append, List.map_cons, List.map_nil, named_append, if_pos rfl, named_eq_nil_iff.mpr h,
    List.nil_append]
  congr 1
  refine List.map_congr_left fun other hother => ?_
  have hne : other ≠ name := by
    rintro rfl
    exact h (List.mem_eraseDups.mp hother)
  rw [named_append, if_neg hne, List.append_nil]

/-- Collecting goes child by child. -/
theorem collect_append (hlist : ∀ child ∈ children, ∀ items, child.2 ≠ .list items) (child : Partial) :
    collect schema (children ++ [(name, child)]) =
      (collect schema children).insert name
        (child.addTo (schema.any (·.isRepeated name)) ((collect schema children).get? name)) := by
  by_cases h : name ∈ children.map Prod.fst
  · have hget : (collect schema children).get? name =
        some (gather (schema.any (·.isRepeated name)) (named name children)) :=
      OrderedMap.get?_map_of_mem _ (List.mem_eraseDups.mpr h)
    have hne : named name children ≠ [] := fun hnil => named_eq_nil_iff.mp hnil h
    rw [collect_append_of_mem schema h, hget,
      gather_append hne fun child hchild => hlist _ (mem_named.mp hchild)]
  · have hkey : name ∉ (collect schema children).keys := by
      rw [keys_collect, List.mem_eraseDups]
      exact h
    rw [collect_append_of_not_mem schema h, OrderedMap.get?_eq_none_iff.mpr hkey,
      OrderedMap.insert_of_not_mem hkey]
    rfl

/-! ### Fields -/

/-- The children of a name are its field. -/
theorem get?_collect (name : String) :
    (collect schema children).get? name =
      if named name children = [] then none
      else some (gather (schema.any (·.isRepeated name)) (named name children)) := by
  by_cases h : name ∈ children.map Prod.fst
  · rw [if_neg fun hnil => named_eq_nil_iff.mp hnil h]
    exact OrderedMap.get?_map_of_mem _ (List.mem_eraseDups.mpr h)
  · rw [if_pos (named_eq_nil_iff.mpr h), OrderedMap.get?_eq_none_iff, keys_collect, List.mem_eraseDups]
    exact h

end

/-- The first child has the first field. -/
theorem head?_collect_cons (schema : Option Description) (name : String) (child : Partial)
    (rest : List (String × Partial)) :
    (collect schema ((name, child) :: rest)).head? =
      some (name, gather (schema.any (·.isRepeated name)) (child :: named name rest)) := by
  rw [collect, List.map_cons, List.eraseDups_cons, List.map_cons, List.head?_cons, named,
    List.filter_cons_of_pos (by rw [beq_self_eq_true]), List.map_cons, ← named]

end Partial

end Soap
