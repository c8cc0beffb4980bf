import Soap.Proofs.Envelope.Following

/-!
# Reading envelopes that were rendered

An envelope rendered around a body reads back as what its body reads as (`decode_render_body`), and a
body around one element as that element's value (`decode_render`), under any header that reads back by
itself. The header with credentials does: what is read of a user name and a password is the two
strings, trimmed (`readsHeader_security`).
-/

namespace Soap

open Xml (Markup Event isLocalName)
open Xml.Markup (events)
open Decoder (Frame Progress step outermost)

/-! ## The frames around a message -/

/-- The open root of an envelope, with the fields that it has so far. -/
def Decoder.root (fields : List (String × Value)) : Frame :=
  (Frame.opening "Envelope" (Envelope.overlay.child? "Envelope") true).holding (Partial.empty.putAll fields)

/-- The open body of an envelope. -/
def Decoder.body : Frame :=
  Frame.opening "Body" ((Envelope.overlay.child? "Envelope").bind (·.child? "Body")) true

open Decoder (root body)

theorem Partial.putAll_append (node : Partial) (a b : List (String × Value)) :
    node.putAll (a ++ b) = (node.putAll a).putAll b := List.foldl_append

/-- A new field of the envelope stands last. -/
theorem root_adding {fields : List (String × Value)} (key : String) (v : Value)
    (hnew : key ∉ fields.map Prod.fst)
    (hrepeat : (Envelope.overlay.child? "Envelope").any (·.isRepeated key) = false) :
    (root fields).adding key (.ofValue v) = root (fields ++ [(key, v)]) := by
  have hfields : (root fields).node.fields = Partial.ofFields fields := by
    cases fields with
    | nil => rfl
    | cons first rest => exact congrArg Partial.fields (Partial.putAll_cons .empty first rest)
  have hkey : key ∉ (root fields).node.fields.keys := by
    rw [hfields, OrderedMap.keys, Partial.keys_ofFields]
    exact hnew
  rw [adding_field hkey hrepeat, root, root, Partial.putAll_append]
  rfl

/-- No name is the key of a repeatable element in a body. -/
theorem body_isRepeated (name : String) : body.schema.any (·.isRepeated name) = false := by
  have hkey : "Fault" ≠ Description.repeatedKey name := by
    intro h
    have hlast := congrArg (fun s => s.toList.getLast?) h
    simp [Description.repeatedKey, String.toList_append] at hlast
  show (OrderedMap.get? _ (Description.repeatedKey name)).isSome = false
  rw [OrderedMap.get?, if_neg hkey]
  rfl

/-! ## The whole envelope -/

/-- What stands in an envelope. -/
def envelopeContent (header : Option Markup) (content : List Markup) : List Markup :=
  (header.map fun h => Markup.plain "soap:Header" [h]).toList ++ [.plain "soap:Body" content]

/-- The markup of an envelope. -/
def envelopeMarkup (table : NamespaceTable) (header : Option Markup) (content : List Markup) :
    Markup :=
  .element "soap:Envelope" table.rootAttributes
    ((header.map fun h => Markup.plain "soap:Header" [h]).toList ++ [.plain "soap:Body" content])

/-- The declaration in front of an envelope. -/
def xmlDeclaration : String := "<?xml version=\"1.0\" encoding=\"utf-8\"?>"

/-- An envelope is rendered as its markup, behind the declaration. -/
theorem render_eq (table : NamespaceTable) (header : Option Markup) (content : List Markup) :
    Envelope.render (Markup.renderAll content) table (header.map Markup.render) =
      xmlDeclaration ++ Markup.renderAll [envelopeMarkup table header content] := by
  have hroot : "<?xml version=\"1.0\" encoding=\"utf-8\"?><soap:Envelope xmlns:soap=\"" =
      xmlDeclaration ++ ("<" ++ ("soap:Envelope" ++ " xmlns:soap=\"")) := by decide
  have hbody : "<soap:Body>" = "<" ++ ("soap:Body" ++ ">") := by decide
  have hclose : "</soap:Body></soap:Envelope>" =
      "</" ++ ("soap:Body" ++ (">" ++ ("</" ++ ("soap:Envelope" ++ ">")))) := by decide
  have hplain : Markup.renderAttributes [] = "" := rfl
  unfold Envelope.render envelopeMarkup
  rw [hroot, hclose]
  cases header with
  | none =>
    simp only [Markup.render, Markup.renderAll, Markup.plain, hplain, hbody, Option.map_none,
      Option.toList_none, List.nil_append, NamespaceTable.renderAttributes_rootAttributes,
      String.append_assoc, String.append_empty]
  | some h =>
    have hopen : "<soap:Header>" = "<" ++ ("soap:Header" ++ ">") := by decide
    have hend : "</soap:Header>" = "</" ++ ("soap:Header" ++ ">") := by decide
    simp only [Markup.render, Markup.renderAll, Markup.plain, hplain, hbody, hopen, hend,
      Option.map_some, Option.toList_some, List.cons_append, List.nil_append,
      NamespaceTable.renderAttributes_rootAttributes, String.append_assoc, String.append_empty]

/-- The root of an envelope declares namespaces only. -/
theorem areDeclarations_root {table : NamespaceTable} (ht : table.IsClean) :
    AreDeclarations table.rootAttributes := by
  refine ⟨ht.areReadable, fun a ha => ?_⟩
  rcases List.mem_cons.mp ha with rfl | ha
  · exact ⟨"soap", by decide⟩
  · obtain ⟨entry, -, rfl⟩ := List.mem_map.mp ha
    exact ⟨entry.1, rfl⟩

/-- A name behind the prefix of envelopes. -/
theorem isTagOf_soap (name : String) {tag : String} (h : tag = "soap" ++ ":" ++ name) :
    IsTagOf tag name :=
  .inr ⟨"soap", by decide, h⟩

theorem areWritable_envelopeContent {header : Option Markup} (hheader : ∀ h ∈ header, h.IsWritable)
    {content : List Markup} (hcontent : Markup.AreWritable content) :
    Markup.AreWritable (envelopeContent header content) := by
  have hbody : Markup.AreWritable [.plain "soap:Body" content] :=
    areWritable_element (isTagOf_soap "Body" (by decide)) (by decide) .nil hcontent
  refine Xml.Markup.areWritable_append.mpr ⟨?_, hbody⟩
  cases header with
  | none => trivial
  | some h =>
    exact areWritable_element (isTagOf_soap "Header" (by decide)) (by decide) .nil
      ⟨hheader h rfl, trivial⟩

theorem areWritable_envelope {table : NamespaceTable} (ht : table.IsClean) {header : Option Markup}
    (hheader : ∀ h ∈ header, h.IsWritable) {content : List Markup}
    (hcontent : Markup.AreWritable content) :
    Markup.AreWritable [envelopeMarkup table header content] :=
  areWritable_element (isTagOf_soap "Envelope" (by decide)) (by decide)
    (areDeclarations_root ht) (areWritable_envelopeContent hheader hcontent)

/-- A reading that came to its end is followed from the start. -/
theorem ofReading_eq (defs : Option Definitions) {r : Xml.Reading} {events : List Event}
    (h : r.events? = some events) :
    Decoder.ofReading defs r = Decoder.finish (events.foldl (step defs) Decoder.start) := by
  obtain ⟨occurrences, ending⟩ := r
  cases ending with
  | failed _ => cases h
  | done _ =>
    obtain rfl := Option.some.inj h
    rw [List.foldl_map]
    rfl

/-- In front of its markup, an envelope has an instruction. -/
theorem exists_toList_render (table : NamespaceTable) (header : Option Markup) (content : List Markup) :
    ∃ body, '>' ∉ body ∧
      (Envelope.render (Markup.renderAll content) table (header.map Markup.render)).toList =
        '<' :: '?' :: body ++ '?' :: '>' :: (Markup.renderAll [envelopeMarkup table header content]).toList := by
  let body := "xml version=\"1.0\" encoding=\"utf-8\"".toList
  have hbody : '>' ∉ body := by decide
  have hchars : xmlDeclaration.toList = '<' :: '?' :: body ++ ['?', '>'] := by decide
  refine ⟨body, hbody, ?_⟩
  rw [render_eq, String.toList_append, hchars]
  simp

/-- An envelope is read as its markup is: the instruction leaves no trace. -/
theorem events?_read_envelope {table : NamespaceTable} {header : Option Markup} {content : List Markup}
    {events : List Event} (h : Xml.Reads [] [] (Markup.renderAll [envelopeMarkup table header content]).toList events) :
    (Xml.read (Envelope.render (Markup.renderAll content) table (header.map Markup.render))).events? = some events := by
  obtain ⟨body, hbody, htext⟩ := exists_toList_render table header content
  apply Xml.events?_read
  · rw [htext]
    exact Xml.Reads.instruction hbody h
  · rw [htext]
    simp

/-- To decode a rendered envelope is to follow the events of its markup. -/
theorem decode_render_eq_finish (defs : Option Definitions) {table : NamespaceTable}
    {header : Option Markup} {content : List Markup}
    (hw : Markup.AreWritable [envelopeMarkup table header content]) :
    Envelope.decode defs
      (Envelope.render (Markup.renderAll content) table (header.map Markup.render)) =
      Decoder.finish ((events [envelopeMarkup table header content]).foldl (step defs) Decoder.start) := by
  rw [Envelope.decode]
  exact ofReading_eq defs (events?_read_envelope (Xml.Markup.reads_document hw))

/-! ## The message -/

/-- The first element of a body is read by the schema of the message it carries. -/
theorem openElement_message (defs : Option Definitions) {name : String} (hfault : name ≠ "Fault")
    (outer : List Frame) :
    Decoder.openElement defs ⟨body :: outer, false, []⟩ name [] =
      ⟨Frame.opening name (some (messageSchema defs name).description) (messageSchema defs name).typed ::
        body :: outer, true, []⟩ := by
  have hcarries : Decoder.carriesMessage ⟨body :: outer, false, []⟩ body name = true := by
    simp [Decoder.carriesMessage, hfault, body, Frame.opening]
  simp [Decoder.openElement, hcarries, Decoder.localAttribute?, Frame.opening]

/-- The header reads as the value `h`, whatever comes after. -/
structure ReadsHeader (defs : Option Definitions) (header : Option Markup) (h : Option Value) : Prop where
  writable : ∀ m ∈ header, m.IsWritable
  follow : ∀ more,
    (events ((header.map fun m => Markup.plain "soap:Header" [m]).toList ++ more)).foldl (step defs)
        ⟨[root [], outermost], false, []⟩ =
      (events more).foldl (step defs) ⟨[root (h.map fun v => ("Header", v)).toList, outermost], false, []⟩

theorem readsHeader_none (defs : Option Definitions) : ReadsHeader defs none none :=
  ⟨by simp, fun _ => rfl⟩

/-! ## Credentials -/

/-- Where text is expected, it is read without the blanks around it. -/
theorem readText_string (text : String) :
    readText true (some (.leaf "string")) text = .ofValue (.string (Text.trim text)) := by
  unfold readText Text.trim
  cases Text.trimChars text.toList with
  | nil => rfl
  | cons c rest => rfl

/-- A name behind the prefix of security blocks. -/
theorem isTagOf_wsse (name : String) {tag : String} (h : tag = "wsse" ++ ":" ++ name) :
    IsTagOf tag name :=
  .inr ⟨"wsse", by decide, h⟩

/-- A child with text is put under its name. -/
theorem follow_string (defs : Option Definitions) (parent : Frame) (name : String)
    (hname : isLocalName name = true) (htyped : parent.typed = true)
    (hparent : parent.IsInside false)
    (hschema : parent.schema.bind (·.child? name) = some (.leaf "string"))
    (hnew : name ∉ parent.node.fields.keys)
    (hrepeat : parent.schema.any (·.isRepeated name) = false) {tag : String}
    (htag : IsTagOf tag name) (text : String) (outer : List Frame) (more : List Markup) :
    (events (.plain tag [.text text] :: more)).foldl (step defs) ⟨parent :: outer, false, []⟩ =
      (events more).foldl (step defs)
        ⟨parent.holding (parent.node.put name (.ofValue (.string (Text.trim text)))) :: outer, false, []⟩ := by
  have htext := closesAs_text defs true name (some (.leaf "string")) (parent :: outer) false [] text
  rw [readText_string, ← hschema, ← htyped] at htext
  rw [Markup.plain, follow_element hname hparent htext htag .nil, adding_field hnew hrepeat]

/-- Under `schema`, a child of this name is one string. -/
structure IsString (schema : Option Description) (name : String) : Prop where
  isName : isLocalName name = true
  child : schema.bind (·.child? name) = some (.leaf "string")
  single : schema.any (·.isRepeated name) = false

/-- An element around two texts closes as the object with the two strings. -/
theorem closesAs_strings (defs : Option Definitions) (name : String) (hname : name ≠ "Body")
    {schema : Option Description} {first second : String} (hfirst : IsString schema first)
    (hsecond : IsString schema second) (hne : second ≠ first) {tag tag' : String} (htag : IsTagOf tag first)
    (htag' : IsTagOf tag' second) (a b : String) (outer : List Frame) :
    ClosesAs defs true name schema outer false [] [.plain tag [.text a], .plain tag' [.text b]]
      (.ofValue (.object [(first, .string (Text.trim a)), (second, .string (Text.trim b))])) := by
  let opened := Frame.opening name schema true
  let named := opened.holding (opened.node.put first (.ofValue (.string (Text.trim a))))
  have hnew : first ∉ opened.node.fields.keys := List.not_mem_nil
  have hother : second ∉ named.node.fields.keys := by
    show second ∉ [first]
    simpa using hne
  refine ⟨named.node.put second (.ofValue (.string (Text.trim b))), ?_, rfl⟩
  rw [follow_string defs opened first hfirst.isName rfl (.inr hname) hfirst.child hnew hfirst.single htag a]
  exact follow_string defs named second hsecond.isName rfl (.inr hname) hsecond.child hother hsecond.single
    htag' b outer []

/-- An element around one other closes as the object with this one field. -/
theorem closesAs_only {defs : Option Definitions} {typed : Bool} {name key : String}
    (hkey : isLocalName key = true) {schema : Option Description} {outer : List Frame} (hname : name ≠ "Body")
    (hrepeat : schema.any (·.isRepeated key) = false) {inside : List Markup} {v : Value}
    (hinside : ClosesAs defs typed key (schema.bind (·.child? key)) (Frame.opening name schema typed :: outer)
      false [] inside (.ofValue v))
    {tag : String} {attributes : List (String × String)} (htag : IsTagOf tag key)
    (hattributes : AreDeclarations attributes) :
    ClosesAs defs typed name schema outer false [] [.element tag attributes inside]
      (.ofValue (.object [(key, v)])) := by
  have hnew : key ∉ (Frame.opening name schema typed).node.fields.keys := by
    simp [Frame.opening, Partial.fields]
  refine ⟨Partial.empty.put key (.ofValue v), ?_, rfl⟩
  rw [follow_element hkey (.inr hname) hinside htag hattributes, adding_field hnew hrepeat]
  rfl

/-- What is read of a user name and a password. -/
def securityOf (username password : String) : Value :=
  .object [("UsernameToken", .object
    [("Username", .string (Text.trim username)), ("Password", .string (Text.trim password))])]

/-- The shape of a header. -/
def headerOverlay : Option Description :=
  (Envelope.overlay.child? "Envelope").bind (·.child? "Header")

/-- The shape of a security block. -/
def securityOverlay : Option Description := headerOverlay.bind (·.child? "Security")

theorem closesAs_security (defs : Option Definitions) (username password : String)
    (outer : List Frame) :
    ClosesAs defs true "Security" securityOverlay outer false []
      [.plain "wsse:UsernameToken"
        [.plain "wsse:Username" [.text username], .plain "wsse:Password" [.text password]]]
      (.ofValue (securityOf username password)) := by
  let token := securityOverlay.bind (·.child? "UsernameToken")
  have huserTag : IsTagOf "wsse:Username" "Username" := isTagOf_wsse _ (by decide)
  have hpasswordTag : IsTagOf "wsse:Password" "Password" := isTagOf_wsse _ (by decide)
  have husername : IsString token "Username" := ⟨by decide, rfl, rfl⟩
  have hpassword : IsString token "Password" := ⟨by decide, rfl, rfl⟩
  have hinside := closesAs_strings defs "UsernameToken" (by decide) husername hpassword (by decide)
    huserTag hpasswordTag username password (Frame.opening "Security" securityOverlay true :: outer)
  exact closesAs_only (by decide) (by decide) rfl hinside (isTagOf_wsse _ (by decide)) .nil

theorem areDeclarations_security : AreDeclarations [("xmlns:wsse", securitySpace)] :=
  ⟨by decide +kernel, fun a ha => ⟨"wsse", by rw [List.mem_singleton.mp ha]; decide⟩⟩

theorem isWritable_security (username password : String) :
    (encodeSecurity username password).IsWritable := by
  have htoken : Markup.AreWritable
      [.plain "wsse:Username" [.text username], .plain "wsse:Password" [.text password]] :=
    ⟨⟨by decide, by decide, trivial, trivial⟩, ⟨by decide, by decide, trivial, trivial⟩, trivial⟩
  exact ⟨by decide, areDeclarations_security.readable, ⟨by decide, by decide, htoken⟩, trivial⟩

/-- Credentials are read without the blanks around them. -/
theorem readsHeader_security (defs : Option Definitions) (username password : String) :
    ReadsHeader defs (some (encodeSecurity username password))
      (some (.object [("Security", securityOf username password)])) := by
  refine ⟨fun m hm => ?_, fun more => ?_⟩
  · rw [← Option.some.inj hm]
    exact isWritable_security username password
  · have hheader : ClosesAs defs true "Header" headerOverlay [root [], outermost] false []
        [encodeSecurity username password] (.ofValue (.object [("Security", securityOf username password)])) :=
      closesAs_only (by decide) (by decide) (by decide) (closesAs_security defs username password _)
        (isTagOf_wsse _ (by decide)) areDeclarations_security
    have hroot : (root []).IsInside false := .inr (by decide)
    rw [Option.map_some, Option.toList_some, List.singleton_append, Markup.plain,
      follow_element (by decide) hroot hheader (isTagOf_soap "Header" (by decide)) .nil,
      root_adding "Header" _ (by decide) (by decide)]
    rfl

/-- The header that a client sends, if any. -/
theorem readsHeader_credentials (defs : Option Definitions) (security : Option (String × String)) :
    ReadsHeader defs (security.map fun (username, password) => encodeSecurity username password)
      (security.map fun (username, password) => .object [("Security", securityOf username password)]) := by
  cases security with
  | none => exact readsHeader_none defs
  | some credentials => exact readsHeader_security defs credentials.1 credentials.2

/-! ## The body -/

/-- The body reads as the value `v`, wherever it stands. -/
def ReadsBody (defs : Option Definitions) (content : List Markup) (v : Value) : Prop :=
  ∀ outer, ∃ node met,
    (events content).foldl (step defs) ⟨body :: outer, false, []⟩ = ⟨body.holding node :: outer, met, []⟩ ∧
      node.close false = .ofValue v

/-- A body around one element reads as the object with this one field, however the element is opened. -/
theorem readsBody_only {defs : Option Definitions} {name : String} (hname : isLocalName name = true)
    {schema : Option Description} {typed met : Bool}
    (hopen : ∀ outer, Decoder.openElement defs ⟨body :: outer, false, []⟩ name [] =
      ⟨Frame.opening name schema typed :: body :: outer, met, []⟩)
    {tag : String} {attributes : List (String × String)} {inside : List Markup} (htag : IsTagOf tag name)
    (hattributes : AreDeclarations attributes) {w : Value}
    (hinside : ∀ outer, ClosesAs defs typed name schema outer met [] inside (.ofValue w)) :
    ReadsBody defs [.element tag attributes inside] (.object [(name, w)]) := by
  intro outer
  have hnew : name ∉ body.node.fields.keys := List.not_mem_nil
  refine ⟨Partial.empty.put name (.ofValue w), met, ?_, rfl⟩
  rw [follow_opened hname (hopen outer) (hinside (body :: outer)) htag hattributes,
    adding_field hnew (body_isRepeated name)]
  rfl

/-- The body joins the root. -/
theorem follow_body {defs : Option Definitions} {content : List Markup} {v : Value}
    (hbody : ReadsBody defs content v) {fields : List (String × Value)} (hfields : "Body" ∉ fields.map Prod.fst) :
    ∃ met, (events [.plain "soap:Body" content]).foldl (step defs) ⟨[root fields, outermost], false, []⟩ =
      ⟨[root (fields ++ [("Body", v)]), outermost], met, []⟩ := by
  obtain ⟨node, met, hfold, hclose⟩ := hbody [root fields, outermost]
  have hopen : Decoder.openElement defs ⟨[root fields, outermost], false, []⟩ "Body" [] =
      ⟨[body, root fields, outermost], false, []⟩ := rfl
  have hstop : step defs ⟨[body.holding node, root fields, outermost], met, []⟩ (.stop (QName.parse "soap:Body")) =
      ⟨[(root fields).adding "Body" (node.close false), outermost], met, []⟩ := rfl
  refine ⟨met, ?_⟩
  rw [Markup.plain, Xml.Markup.events_element, List.cons_append, List.foldl_cons,
    step_openEvent defs _ (isTagOf_soap "Body" (by decide)) (by decide) .nil, hopen, List.foldl_append, hfold,
    List.foldl_cons, hstop, hclose, root_adding "Body" v hfields (by decide)]
  rfl

/-- At the end, the root is the envelope, unless its body carries a fault. -/
theorem finish_root (h : Option Value) (v : Value) (defs : Option Definitions) (met : Bool) (tag : QName) :
    Decoder.finish (step defs
        ⟨[root ((h.map fun v => ("Header", v)).toList ++ [("Body", v)]), outermost], met, []⟩ (.stop tag)) =
      (Decoder.faultOf? v).elim (.ok { header := h, body := v }) fun f => .error (.fault f) := by
  let fields := (h.map fun v => ("Header", v)).toList ++ [("Body", v)]
  let envelope := Value.object fields
  have hclose : (Partial.empty.putAll fields).close false = .ofValue envelope :=
    Partial.close_putAll fun _ => rfl
  have henvelope : (outermost.adding "Envelope" (.ofValue envelope)).node.fields.get? "Envelope" =
      some (.ofValue envelope) := rfl
  have hheader : envelope.get? "Header" = h := by cases h <;> rfl
  have hbody : envelope.get? "Body" = some v := by cases h <;> rfl
  show Decoder.finish ⟨[outermost.adding "Envelope" ((Partial.empty.putAll fields).close false)], met, []⟩ = _
  rw [hclose]
  simp only [Decoder.finish, List.reverse_singleton, henvelope, Partial.resolve_ofValue, hheader, hbody,
    Option.getD_some]
  cases Decoder.faultOf? v <;> rfl

/-- Whatever opens the root without attributes of its own, an envelope reads as its header and its body do. -/
theorem finish_envelope {defs : Option Definitions} {header : Option Markup} {h : Option Value}
    (hheader : ReadsHeader defs header h) {content : List Markup} {v : Value} (hbody : ReadsBody defs content v)
    {event : Event} (hevent : step defs Decoder.start event = Decoder.openElement defs Decoder.start "Envelope" [])
    (tag : QName) :
    Decoder.finish
        ((event :: (events (envelopeContent header content) ++ [.stop tag])).foldl (step defs) Decoder.start) =
      (Decoder.faultOf? v).elim (.ok { header := h, body := v }) fun f => .error (.fault f) := by
  have hstart : Decoder.openElement defs Decoder.start "Envelope" [] =
    ⟨[root [], outermost], false, []⟩ := rfl
  have hfields : "Body" ∉ ((h.map fun v => ("Header", v)).toList).map Prod.fst := by
    cases h <;> simp
  obtain ⟨met, hfollow⟩ := follow_body hbody hfields
  rw [List.foldl_cons, hevent, hstart, List.foldl_append, envelopeContent, hheader.follow, hfollow]
  exact finish_root h v defs met tag

/-- An envelope rendered around a body reads back as what its body reads as. -/
theorem decode_render_body {defs : Option Definitions} {table : NamespaceTable} (ht : table.IsClean)
    {header : Option Markup} {h : Option Value} (hheader : ReadsHeader defs header h) {content : List Markup}
    (hwritable : Markup.AreWritable content) {v : Value} (hbody : ReadsBody defs content v) :
    Envelope.decode defs (Envelope.render (Markup.renderAll content) table (header.map Markup.render)) =
      (Decoder.faultOf? v).elim (.ok { header := h, body := v }) fun f => .error (.fault f) := by
  have hevent : step defs Decoder.start (Xml.openEvent "soap:Envelope" table.rootAttributes) =
      Decoder.openElement defs Decoder.start "Envelope" [] :=
    step_openEvent defs _ (isTagOf_soap "Envelope" (by decide)) (by decide) (areDeclarations_root ht)
  rw [decode_render_eq_finish defs (areWritable_envelope ht hheader.writable hwritable), envelopeMarkup,
    Xml.Markup.events_element]
  exact finish_envelope hheader hbody hevent (QName.parse "soap:Envelope")

/-- An envelope rendered around a body with one field, which is no fault, reads back as this field. -/
theorem decode_render_field {defs : Option Definitions} {table : NamespaceTable} (ht : table.IsClean)
    {header : Option Markup} {h : Option Value} (hheader : ReadsHeader defs header h) {content : List Markup}
    (hwritable : Markup.AreWritable content) {name : String} (hfault : name ≠ "Fault") {w : Value}
    (hbody : ReadsBody defs content (.object [(name, w)])) :
    Envelope.decode defs (Envelope.render (Markup.renderAll content) table (header.map Markup.render)) =
      .ok { header := h, body := .object [(name, w)] } := by
  have hnone : Decoder.faultOf? (.object [(name, w)]) = none := by
    show Option.map _ (OrderedMap.get? [(name, w)] "Fault") = none
    rw [OrderedMap.get?, if_neg hfault]
    rfl
  rw [decode_render_body ht hheader hwritable hbody, hnone]
  rfl

/-- An envelope rendered around the element of a message reads back as the value of that element. -/
theorem decode_render {defs : Option Definitions} {table : NamespaceTable} (ht : table.IsClean)
    {header : Option Markup} {h : Option Value} (hheader : ReadsHeader defs header h) {name : String}
    (hname : isLocalName name = true) (hfault : name ≠ "Fault") {tag : String}
    {attributes : List (String × String)} {inside : List Markup} (htag : IsTagOf tag name)
    (hattributes : AreDeclarations attributes) (hwritable : Markup.AreWritable inside) {w : Value}
    (hinside : ∀ outer, ClosesAs defs (messageSchema defs name).typed name
      (some (messageSchema defs name).description) outer true [] inside (.ofValue w)) :
    Envelope.decode defs (Envelope.render (Markup.renderAll [.element tag attributes inside]) table
        (header.map Markup.render)) =
      .ok { header := h, body := .object [(name, w)] } := by
  have hcontent := areWritable_element htag hname hattributes hwritable
  have hbody := readsBody_only hname (openElement_message defs hfault) htag hattributes hinside
  exact decode_render_field ht hheader hcontent hfault hbody

end Soap
