import Soap.Proofs.Envelope.Document

/-!
# Numbers and names of elements

What an element means depends on its number in one way only: the number tells whether the element, or
one in it, carries the message. So an element means the same under two numberings in which the same
element carries the message (`Xml.Element.content_congr`), and elements after the one that carries it
mean the same wherever they stand (`Xml.Element.childValues_after_message`).
-/

namespace Soap.Xml.Element

/-! ## Elements by their parts -/

def text : Element → Option String
  | ⟨_, _, _, text, _⟩ => text

def children : Element → List (Element × Option String)
  | ⟨_, _, _, _, children⟩ => children

def id? (e : Element) : Option String := Decoder.localAttribute? e.attributes "id"

def href? (e : Element) : Option String := Decoder.localAttribute? e.attributes "href"

/-- The element with other children. -/
def withChildren (children : List (Element × Option String)) : Element → Element
  | ⟨name, attributes, declarations, text, _⟩ => ⟨name, attributes, declarations, text, children⟩

/-- The children of a name. -/
def called (name : String) (children : List (Element × Option String)) : List Element :=
  (children.map Prod.fst).filter fun child => child.localName == name

section

variable (e : Element) (inside : List (Element × Option String))

@[simp] theorem localName_withChildren : (e.withChildren inside).localName = e.localName := by
  cases e; rfl

@[simp] theorem id?_withChildren : (e.withChildren inside).id? = e.id? := by cases e; rfl

@[simp] theorem href?_withChildren : (e.withChildren inside).href? = e.href? := by cases e; rfl

@[simp] theorem text_withChildren : (e.withChildren inside).text = e.text := by cases e; rfl

@[simp] theorem children_withChildren : (e.withChildren inside).children = inside := by cases e; rfl

theorem size_eq : e.size = 1 + totalSize e.children := by
  cases e
  rw [size, children]

theorem offers_eq (parent : String) (n : Nat) :
    e.offers parent n = ownOffer parent n e.localName ++ childOffers e.localName (n + 1) e.children := by
  cases e
  rw [offers, localName, children]

theorem standIn_of_href? {href : String} (h : e.href? = some href) (content : Partial) :
    e.standIn content = .ref (String.ofList (href.toList.dropWhile (· == '#'))) := by
  rw [href?] at h
  rw [standIn, h]

theorem standIn_of_href?_eq_none (h : e.href? = none) (content : Partial) :
    e.standIn content = content := by
  rw [href?] at h
  rw [standIn, h]

variable (defs : Option Definitions) (message : Option Nat) (x : Expectation) (n : Nat)

theorem content_eq :
    e.content defs message x n = x.content e.text (childValues defs message x (n + 1) e.children) := by
  cases e
  rw [content, text, children]

theorem closings_eq :
    e.closings defs message x n =
      childClosings defs message x (n + 1) e.children ++ [e.closing (e.content defs message x n)] := by
  cases e
  rw [closings, children]

/-- What an envelope refers to has nothing to do with what stands in it. -/
theorem value_of_href? {href : String} (h : e.href? = some href) :
    e.value defs = .ref (String.ofList (href.toList.dropWhile (· == '#'))) :=
  e.standIn_of_href? h _

theorem value_of_href?_eq_none (h : e.href? = none) :
    e.value defs =
      let x := Expectation.outermost.child e.localName
      x.content e.text (childValues defs e.message? x 1 e.children) := by
  rw [value, e.standIn_of_href?_eq_none h, content_eq]

end

/-! ## Children one after the other -/

theorem totalSize_eq_foldr (children : List (Element × Option String)) :
    totalSize children = (children.map Prod.fst).foldr (fun e n => e.size + n) 0 := by
  induction children with
  | nil => rfl
  | cons first rest ih => rw [totalSize, ih, List.map_cons, List.foldr_cons]

/-- The order of the children does not matter. -/
theorem totalSize_perm {children children' : List (Element × Option String)}
    (h : (children.map Prod.fst).Perm (children'.map Prod.fst)) : totalSize children = totalSize children' := by
  rw [totalSize_eq_foldr, totalSize_eq_foldr]
  apply h.foldr_eq'
  intro x _ y _ n
  omega

theorem childOffers_append (parent : String) (n : Nat) (a b : List (Element × Option String)) :
    childOffers parent n (a ++ b) = childOffers parent n a ++ childOffers parent (n + totalSize a) b := by
  induction a generalizing n with
  | nil => simp [childOffers, totalSize]
  | cons first rest ih =>
    rw [List.cons_append, childOffers, childOffers, ih, totalSize, List.append_assoc, Nat.add_assoc]

section

variable (defs : Option Definitions) (message : Option Nat) (x : Expectation)

theorem childValues_append (n : Nat) (a b : List (Element × Option String)) :
    childValues defs message x n (a ++ b) =
      childValues defs message x n a ++ childValues defs message x (n + totalSize a) b := by
  induction a generalizing n with
  | nil => simp [childValues, totalSize]
  | cons first rest ih =>
    rw [List.cons_append, childValues, childValues, ih, totalSize, List.cons_append, Nat.add_assoc]

theorem childClosings_append (n : Nat) (a b : List (Element × Option String)) :
    childClosings defs message x n (a ++ b) =
      childClosings defs message x n a ++ childClosings defs message x (n + totalSize a) b := by
  induction a generalizing n with
  | nil => simp [childClosings, totalSize]
  | cons first rest ih =>
    rw [List.cons_append, childClosings, childClosings, ih, totalSize, List.append_assoc, Nat.add_assoc]

theorem map_fst_childValues (n : Nat) (children : List (Element × Option String)) :
    (childValues defs message x n children).map Prod.fst = children.map fun child => child.1.localName := by
  induction children generalizing n with
  | nil => rfl
  | cons first rest ih => rw [childValues, List.map_cons, List.map_cons, ih]

/-- Children of a name are read under this name. -/
theorem named_childValues_eq_nil_iff (name : String) (n : Nat) (children : List (Element × Option String)) :
    Partial.named name (childValues defs message x n children) = [] ↔ called name children = [] := by
  rw [Partial.named_eq_nil_iff, map_fst_childValues, called, List.filter_eq_nil_iff]
  simp only [List.mem_map, beq_iff_eq]
  constructor
  · rintro h _ ⟨child, hchild, rfl⟩ hname
    exact h ⟨child, hchild, hname⟩
  · rintro h ⟨child, hchild, hname⟩
    exact h _ ⟨child, hchild, rfl⟩ hname

end

/-! ## Names -/

mutual

/-- The names that are given in an element, in the order of end tags. -/
def ids : Element → List String
  | ⟨_, attributes, _, _, children⟩ =>
    childIds children ++ (Decoder.localAttribute? attributes "id").toList

def childIds : List (Element × Option String) → List String
  | [] => []
  | (child, _) :: rest => child.ids ++ childIds rest

end

theorem ids_eq (e : Element) : e.ids = childIds e.children ++ e.id?.toList := by
  cases e
  rw [ids, children, id?, attributes]

theorem childIds_eq_flatMap (children : List (Element × Option String)) :
    childIds children = (children.map Prod.fst).flatMap ids := by
  induction children with
  | nil => rfl
  | cons first rest ih => rw [childIds, List.map_cons, List.flatMap_cons, ih]

theorem childIds_append (a b : List (Element × Option String)) :
    childIds (a ++ b) = childIds a ++ childIds b := by
  rw [childIds_eq_flatMap, childIds_eq_flatMap, childIds_eq_flatMap, List.map_append, List.flatMap_append]

theorem registered_closing (e : Element) (content : Partial) :
    registered [e.closing content] = (e.id?.map fun id => (id, content)).toList := by
  unfold registered closing
  rw [← id?]
  cases e.id? <;> rfl

/-- An element is registered under its own name only. -/
theorem not_mem_registered_closing {e : Element} {id : String} (h : e.id? ≠ some id) (content : Partial) :
    id ∉ (registered [e.closing content]).map Prod.fst := by
  rw [registered_closing]
  intro hmem
  obtain ⟨entry, hentry, rfl⟩ := List.mem_map.mp hmem
  obtain ⟨id, hid, rfl⟩ := Option.map_eq_some_iff.mp (Option.mem_toList.mp hentry)
  exact h hid

section

variable (defs : Option Definitions) (message : Option Nat)

mutual

/-- Elements are registered under the names that are given. -/
theorem keys_registered_closings (x : Expectation) (n : Nat) (e : Element) :
    (registered (e.closings defs message x n)).map Prod.fst = e.ids := by
  match e with
  | ⟨name, attributes, declarations, text, children⟩ =>
    rw [closings, registered_append, List.map_append, keys_registered_childClosings x (n + 1) children,
      registered_closing, ids, id?, Element.attributes]
    cases Decoder.localAttribute? attributes "id" <;> rfl

theorem keys_registered_childClosings (x : Expectation) (n : Nat)
    (children : List (Element × Option String)) :
    (registered (childClosings defs message x n children)).map Prod.fst = childIds children := by
  match children with
  | [] => rfl
  | (child, _) :: rest =>
    rw [childClosings, registered_append, List.map_append, childIds, keys_registered_closings _ n child,
      keys_registered_childClosings x (n + child.size) rest]

end

end

/-! ## Offers -/

mutual

/-- Offers are counted from the first element. -/
theorem offers_add (parent : String) (n k : Nat) (e : Element) :
    e.offers parent (n + k) = (e.offers parent n).map (· + k) := by
  match e with
  | ⟨name, _, _, _, children⟩ =>
    have hown : ownOffer parent (n + k) name.localName = (ownOffer parent n name.localName).map (· + k) := by
      unfold ownOffer
      split <;> rfl
    rw [offers, offers, List.map_append, hown, Nat.add_right_comm, childOffers_add name.localName _ k children]

theorem childOffers_add (parent : String) (n k : Nat) (children : List (Element × Option String)) :
    childOffers parent (n + k) children = (childOffers parent n children).map (· + k) := by
  match children with
  | [] => rfl
  | (child, _) :: rest =>
    rw [childOffers, childOffers, List.map_append, offers_add parent n k child, Nat.add_right_comm,
      childOffers_add parent _ k rest]

end

/-- The number of a child of anything but a body is not offered. -/
theorem not_mem_childOffers {parent : String} (h : parent ≠ "Body") (n : Nat)
    (before : List (Element × Option String)) (child : Element) (text : Option String)
    (after : List (Element × Option String)) :
    n + totalSize before ∉ childOffers parent n (before ++ (child, text) :: after) := by
  intro hmem
  rw [childOffers_append, childOffers, offers_eq, ownOffer, if_neg fun hbody => h hbody.1, List.nil_append] at hmem
  rcases List.mem_append.mp hmem with hmem | hmem
  · have := mem_childOffers before hmem
    omega
  rcases List.mem_append.mp hmem with hmem | hmem
  · have := mem_childOffers child.children hmem
    omega
  · have hle := (mem_childOffers after hmem).1
    rw [size_eq] at hle
    omega

/-! ## The same message -/

/-- Among as many elements, numbered from `n` and from `n'`, the same one carries the message. -/
def SameMessage (message message' : Option Nat) (n n' size : Nat) : Prop :=
  ∀ i < size, message = some (n + i) ↔ message' = some (n' + i)

variable {defs : Option Definitions} {message message' : Option Nat}

/-- The same holds among those from the one that comes `k` later. -/
theorem SameMessage.drop {n n' size : Nat} (h : SameMessage message message' n n' size) (k : Nat)
    {size' : Nat} (hle : k + size' ≤ size) : SameMessage message message' (n + k) (n' + k) size' := by
  intro i hi
  rw [Nat.add_assoc, Nat.add_assoc]
  exact h (k + i) (by omega)

theorem SameMessage.inside_eq {n n' size : Nat} (h : SameMessage message message' n n' size)
    (hsize : 0 < size) (x : Expectation) (name : String) :
    x.inside defs message n name = x.inside defs message' n' name := by
  have hiff : message = some n ↔ message' = some n' := h 0 hsize
  unfold Expectation.inside
  by_cases hmessage : message = some n
  · rw [if_pos hmessage, if_pos (hiff.mp hmessage)]
  · rw [if_neg hmessage, if_neg fun hmessage' => hmessage (hiff.mpr hmessage')]

theorem size_pos (e : Element) : 0 < e.size := by
  rw [size_eq]
  omega

mutual

/-- An element means the same under two numberings in which the same element carries the message. -/
theorem content_congr (x : Expectation) {n n' : Nat} (e : Element)
    (h : SameMessage message message' n n' e.size) :
    e.content defs message x n = e.content defs message' x n' := by
  match e with
  | ⟨name, _, _, text, children⟩ =>
    rw [size] at h
    rw [content, content, childValues_congr x children (h.drop 1 (Nat.le_refl _))]

theorem childValues_congr (x : Expectation) {n n' : Nat} (children : List (Element × Option String))
    (h : SameMessage message message' n n' (totalSize children)) :
    childValues defs message x n children = childValues defs message' x n' children := by
  match children with
  | [] => rfl
  | (child, _) :: rest =>
    rw [totalSize] at h
    have hchild : SameMessage message message' n n' child.size := h.drop 0 (by omega)
    rw [childValues, childValues, hchild.inside_eq child.size_pos, content_congr _ child hchild,
      childValues_congr x rest (h.drop child.size (by omega))]

end

mutual

theorem closings_congr (x : Expectation) {n n' : Nat} (e : Element)
    (h : SameMessage message message' n n' e.size) :
    e.closings defs message x n = e.closings defs message' x n' := by
  match e with
  | ⟨name, _, _, text, children⟩ =>
    rw [closings, closings, content_congr x _ h]
    rw [size] at h
    rw [childClosings_congr x children (h.drop 1 (Nat.le_refl _))]

theorem childClosings_congr (x : Expectation) {n n' : Nat} (children : List (Element × Option String))
    (h : SameMessage message message' n n' (totalSize children)) :
    childClosings defs message x n children = childClosings defs message' x n' children := by
  match children with
  | [] => rfl
  | (child, _) :: rest =>
    rw [totalSize] at h
    have hchild : SameMessage message message' n n' child.size := h.drop 0 (by omega)
    rw [childClosings, childClosings, hchild.inside_eq child.size_pos, closings_congr _ child hchild,
      childClosings_congr x rest (h.drop child.size (by omega))]

end

/-! ## After the message -/

section

variable (defs : Option Definitions) (x : Expectation)

/-- What an element is to the one around it, which is read as `x` says, if the message comes before. -/
def valueAfterMessage (e : Element) : String × Partial :=
  (e.localName, e.standIn (e.content defs none (x.child e.localName) 0))

/-- An element and those in it, if the message comes before. -/
def closingsAfterMessage (e : Element) : List Closing :=
  e.closings defs none (x.child e.localName) 0

end

theorem SameMessage.none {n : Nat} (h : ∀ k, message = some k → k < n) (size : Nat) :
    SameMessage message none n 0 size := by
  intro i _
  constructor
  · intro hmessage
    have := h _ hmessage
    omega
  · intro hnone
    cases hnone

/-- Where an element after the message stands does not matter. -/
theorem childValues_after_message (x : Expectation) {n : Nat} (h : ∀ k, message = some k → k < n)
    (children : List (Element × Option String)) :
    childValues defs message x n children = (children.map Prod.fst).map (valueAfterMessage defs x) := by
  induction children generalizing n with
  | nil => rfl
  | cons first rest ih =>
    obtain ⟨child, text⟩ := first
    have hsame : SameMessage message Option.none n 0 child.size := .none h _
    rw [childValues, hsame.inside_eq child.size_pos, content_congr _ child hsame,
      ih fun k hk => Nat.lt_of_lt_of_le (h k hk) (Nat.le_add_right ..)]
    rfl

theorem childClosings_after_message (x : Expectation) {n : Nat} (h : ∀ k, message = some k → k < n)
    (children : List (Element × Option String)) :
    childClosings defs message x n children =
      (children.map Prod.fst).flatMap (closingsAfterMessage defs x) := by
  induction children generalizing n with
  | nil => rfl
  | cons first rest ih =>
    obtain ⟨child, text⟩ := first
    have hsame : SameMessage message Option.none n 0 child.size := .none h _
    rw [childClosings, hsame.inside_eq child.size_pos, closings_congr _ child hsame,
      ih fun k hk => Nat.lt_of_lt_of_le (h k hk) (Nat.le_add_right ..)]
    rfl

end Soap.Xml.Element
