import Mathlib.Data.Bool.AllAny
import MaxKey.CasEndpoints
import MaxKey.JsonReader
import MaxKey.XmlReader

namespace MaxKey.ServiceDocuments
open CasEndpoints Scanning

/-- What a response tells: who has logged in, or why nobody has. -/
inductive Fields
  | success (user : String) (ticket : Option String) (attributes : List (String × List String))
      (proxies : List String)
  | failure (code description : String)

/-- The fields are the ones that were set, and none of them is null. -/
def Fields.SetIn (r : CasServiceResponse) (attributes : List (String × List (Option String))) :
    Fields → Prop
  | .success user ticket values proxies =>
    r.result = true ∧ r.user = some user ∧ r.ticket = ticket ∧
      attributes = values.map (fun entry => (entry.1, entry.2.map some)) ∧ r.proxies = proxies
  | .failure code description =>
    r.result = false ∧ r.code = some code ∧ r.description = some description

/-- One pair for each value of an attribute. -/
def pairs (attributes : List (String × List String)) : List (String × String) :=
  attributes.flatMap fun entry => entry.2.map (entry.1, ·)

/-! ### XML -/

namespace Xml
open XmlReader

def casName (name : String) : List Char := "cas:".toList ++ name.toList

def namespaceOf : List Char × List Char :=
  ("xmlns:cas".toList, "http://www.yale.edu/tp/cas".toList)

def ticketEvents (ticket : Option String) : List Event :=
  ticket.elim [] fun ticket => elementEvents (casName "proxyGrantingTicket") ticket.toList

def lineEvents (attributes : List (String × String)) : List Event :=
  attributes.flatMap fun a => elementEvents (casName a.1) a.2.toList ++ [.characters ['\n']]

def attributeEvents (attributes : List (String × List String)) : List Event :=
  if attributes = [] then []
  else [.startElement (casName "attributes") []] ++
    (lineEvents (pairs attributes) ++ [.endElement (casName "attributes")])

def proxyEvents (proxies : List String) : List Event :=
  if proxies = [] then []
  else [.startElement (casName "proxies") []] ++
    (proxies.flatMap (fun proxy => elementEvents (casName "proxy") proxy.toList) ++
      [.endElement (casName "proxies")])

def body : Fields → List Event
  | .success user ticket attributes proxies =>
    [.startElement (casName "authenticationSuccess") []] ++
      (elementEvents (casName "user") user.toList ++
        (ticketEvents ticket ++ (attributeEvents attributes ++
          (proxyEvents proxies ++ [.endElement (casName "authenticationSuccess")]))))
  | .failure code description =>
    [.startElement (casName "authenticationFailure") [("code".toList, code.toList)]] ++
      (textEvents description.toList ++ [.endElement (casName "authenticationFailure")])

/-- A document that tells the fields. -/
def events (f : Fields) : List Event :=
  [.startElement (casName "serviceResponse") [namespaceOf]] ++
    (body f ++ [.endElement (casName "serviceResponse")])

/-- Everything stands for itself: no markup in a text, and names where there are to be names. -/
def Clean : Fields → Prop
  | .success user ticket attributes proxies =>
    IsText user.toList ∧ (∀ t ∈ ticket, IsText t.toList) ∧
      (∀ a ∈ pairs attributes, isNCName a.1.toList ∧ IsText a.2.toList) ∧
      ∀ proxy ∈ proxies, IsText proxy.toList
  | .failure code description => IsValue code.toList ∧ IsText description.toList

def ticketText (ticket : Option String) : List Char :=
  ticket.elim [] fun ticket => element (casName "proxyGrantingTicket") ticket.toList

def line (a : String × String) : List Char := element (casName a.1) a.2.toList ++ ['\r', '\n']

def attributeText (attributes : List (String × List String)) : List Char :=
  if attributes = [] then []
  else startTag (casName "attributes") ++
    ((pairs attributes).flatMap line ++ endTag (casName "attributes"))

def proxyText (proxies : List String) : List Char :=
  if proxies = [] then []
  else startTag (casName "proxies") ++
    (proxies.flatMap (fun proxy => element (casName "proxy") proxy.toList) ++
      endTag (casName "proxies"))

/-- A start tag with one attribute. -/
def tagWith (name : List Char) (a : List Char × List Char) : List Char :=
  '<' :: (name ++ ' ' :: (a.1 ++ '=' :: '"' :: (a.2 ++ ['"', '>'])))

def bodyText : Fields → List Char
  | .success user ticket attributes proxies =>
    startTag (casName "authenticationSuccess") ++
      (element (casName "user") user.toList ++
        (ticketText ticket ++ (attributeText attributes ++
          (proxyText proxies ++ endTag (casName "authenticationSuccess")))))
  | .failure code description =>
    tagWith (casName "authenticationFailure") ("code".toList, code.toList) ++
      (description.toList ++ endTag (casName "authenticationFailure"))

def documentText (f : Fields) : List Char :=
  tagWith (casName "serviceResponse") namespaceOf ++
    (bodyText f ++ endTag (casName "serviceResponse"))

/-! #### The builder writes this text -/

section Builder

variable {r : CasServiceResponse} {attributes : List (String × List (Option String))}

theorem toList_startTags :
    "<cas:authenticationSuccess>".toList = startTag (casName "authenticationSuccess") ∧
    "<cas:user>".toList = startTag (casName "user") ∧
    "<cas:proxyGrantingTicket>".toList = startTag (casName "proxyGrantingTicket") ∧
    "<cas:attributes>".toList = startTag (casName "attributes") ∧
    "<cas:proxies>".toList = startTag (casName "proxies") ∧
    "<cas:proxy>".toList = startTag (casName "proxy") := by
  decide +kernel

theorem toList_endTags :
    "</cas:authenticationSuccess>".toList = endTag (casName "authenticationSuccess") ∧
    "</cas:user>".toList = endTag (casName "user") ∧
    "</cas:proxyGrantingTicket>".toList = endTag (casName "proxyGrantingTicket") ∧
    "</cas:attributes>".toList = endTag (casName "attributes") ∧
    "</cas:proxies>".toList = endTag (casName "proxies") ∧
    "</cas:proxy>".toList = endTag (casName "proxy") ∧
    "</cas:authenticationFailure>".toList = endTag (casName "authenticationFailure") ∧
    "</cas:serviceResponse>".toList = endTag (casName "serviceResponse") := by
  decide +kernel

theorem toList_root : "<cas:serviceResponse xmlns:cas=\"http://www.yale.edu/tp/cas\">".toList =
    tagWith (casName "serviceResponse") namespaceOf := by
  decide +kernel

theorem toList_failure (code : String) :
    ("<cas:authenticationFailure code=\"" ++ code ++ "\">").toList =
      tagWith (casName "authenticationFailure") ("code".toList, code.toList) := by
  have hbefore : "<cas:authenticationFailure code=\"".toList =
      '<' :: (casName "authenticationFailure" ++ ' ' :: ("code".toList ++ ['=', '"'])) := by
    decide +kernel
  unfold tagWith
  simp only [String.toList_append, hbefore, List.cons_append, List.append_assoc, List.nil_append]
  rfl

theorem toList_textOfAll (texts : List String) :
    (textOfAll texts).toList = texts.flatMap String.toList := by
  induction texts with
  | nil => rfl
  | cons text texts ih =>
    unfold textOfAll at ih ⊢
    rw [List.foldr_cons, String.toList_append, List.flatMap_cons, ih]

theorem toList_xmlAttribute (key value : String) :
    (CasServiceResponse.xmlAttribute key (some value)).toList = line (key, value) := by
  unfold CasServiceResponse.xmlAttribute line element startTag endTag casName
  simp [text]

/-- The lines of all values of all attributes. -/
theorem toList_xmlAttributes (values : List (String × List String)) :
    (textOfAll ((values.map fun entry => (entry.1, entry.2.map some)).map fun entry =>
      textOfAll (entry.2.map (CasServiceResponse.xmlAttribute entry.1)))).toList =
        (pairs values).flatMap line := by
  unfold pairs
  rw [toList_textOfAll, List.map_map, List.flatMap_map, List.flatMap_assoc]
  apply List.flatMap_congr
  intro entry _
  show (textOfAll ((entry.2.map some).map (CasServiceResponse.xmlAttribute entry.1))).toList = _
  rw [toList_textOfAll, List.map_map, List.flatMap_map, List.flatMap_map]
  apply List.flatMap_congr
  intro value _
  exact toList_xmlAttribute entry.1 value

theorem toList_xmlAfterUser {values : List (String × List String)}
    (h : attributes = values.map (fun entry => (entry.1, entry.2.map some))) :
    (r.xmlAfterUser attributes).toList =
      ticketText r.ticket ++ (attributeText values ++ proxyText r.proxies) := by
  obtain ⟨-, -, hticketEnd, hattributesEnd, hproxiesEnd, hproxyEnd, -⟩ := toList_endTags
  obtain ⟨-, -, hticket, hattributes, hproxies, hproxy⟩ := toList_startTags
  have hnone : attributes = [] ↔ values = [] := by rw [h, List.map_eq_nil_iff]
  have hgranted : (r.ticket.elim "" fun ticket =>
      "<cas:proxyGrantingTicket>" ++ ticket ++ "</cas:proxyGrantingTicket>").toList =
        ticketText r.ticket := by
    cases r.ticket with
    | none => rfl
    | some ticket =>
      unfold ticketText
      simp only [Option.elim_some, String.toList_append, hticket, hticketEnd, List.append_assoc, element]
  unfold CasServiceResponse.xmlAfterUser
  rw [String.toList_append, String.toList_append, List.append_assoc, hgranted]
  apply congrArg (ticketText r.ticket ++ ·)
  apply congrArg₂ (· ++ ·)
  · unfold attributeText
    by_cases hempty : values = []
    · rw [if_pos (hnone.mpr hempty), if_pos hempty]
      rfl
    · rw [if_neg (mt hnone.mp hempty), if_neg hempty, String.toList_append, String.toList_append,
        hattributes, hattributesEnd, h, toList_xmlAttributes, List.append_assoc]
  · unfold proxyText
    by_cases hempty : r.proxies = []
    · rw [if_pos hempty, if_pos hempty]
      rfl
    · rw [if_neg hempty, if_neg hempty, String.toList_append, String.toList_append, hproxies,
        hproxiesEnd, toList_textOfAll, List.flatMap_map, List.append_assoc]
      simp only [String.toList_append, hproxy, hproxyEnd, List.append_assoc, element]

theorem toList_serviceResponseXmlBuilder {f : Fields} (h : f.SetIn r attributes) :
    (r.serviceResponseXmlBuilder attributes).toList = documentText f := by
  obtain ⟨hend, huserEnd, -, -, -, -, hfailureEnd, hrootEnd⟩ := toList_endTags
  obtain ⟨hsuccess, huser, -⟩ := toList_startTags
  unfold CasServiceResponse.serviceResponseXmlBuilder documentText
  rw [String.toList_append, String.toList_append, toList_root, hrootEnd, List.append_assoc]
  cases f with
  | success user ticket values proxies =>
    obtain ⟨hresult, hname, hticket, hattributes, hproxies⟩ := h
    rw [hresult, if_pos rfl, hname]
    simp only [String.toList_append, toList_xmlAfterUser hattributes, hsuccess, huser, huserEnd, hend,
      hticket, hproxies, List.append_assoc, bodyText, element, text, Option.getD_some]
  | failure code description =>
    obtain ⟨hresult, hcode, hdescription⟩ := h
    rw [hresult, if_neg Bool.false_ne_true, hcode, hdescription]
    rw [String.toList_append, String.toList_append]
    rw [toList_failure, hfailureEnd]
    simp only [bodyText, text, Option.getD_some, List.append_assoc]

end Builder

/-! #### What is read -/

section Reading

variable {outer : List (List Char)}

theorem isQName_casName (name : String) : isQName (casName name) = isNCName name.toList := by
  have hcas : casName name = ['c', 'a', 's'] ++ ':' :: name.toList := by
    unfold casName
    rfl
  rw [hcas, isQName_append (by decide), show isNCName ['c', 'a', 's'] = true by decide, Bool.true_and]

/-- The names that the builder writes out. -/
theorem names : isQName (casName "serviceResponse") ∧ isQName (casName "authenticationSuccess") ∧
    isQName (casName "authenticationFailure") ∧ isQName (casName "user") ∧
    isQName (casName "proxyGrantingTicket") ∧ isQName (casName "attributes") ∧
    isQName (casName "proxies") ∧ isQName (casName "proxy") := by
  decide +kernel

theorem exact_ticket (hne : outer ≠ []) (ticket : Option String) :
    reader.Exact (within outer) (ticketText ticket) (ticketEvents ticket) (within outer)
      (∀ t ∈ ticket, IsText t.toList) := by
  have hname : isQName (casName "proxyGrantingTicket") := names.2.2.2.2.1
  cases ticket with
  | none => exact Scanner.Exact.nil.congr (iff_of_true trivial fun _ h => nomatch h)
  | some ticket =>
    apply (exact_element hne).congr
    simp only [Option.mem_some_iff, forall_eq', hname, true_and]

/-- The lines go on to the end tag, and each of them is read as it was meant. -/
theorem exact_lines {n : List Char} (hn : isQName n) (attributes : List (String × String)) :
    reader.Exact (within (n :: outer)) (attributes.flatMap line ++ endTag n)
      (lineEvents attributes ++ [.endElement n]) (within outer)
      (∀ a ∈ attributes, isNCName a.1.toList ∧ IsText a.2.toList) := by
  have hne : n :: outer ≠ [] := List.cons_ne_nil _ _
  induction attributes with
  | nil =>
    apply Scanner.Exact.congr (exact_endTag rfl rfl hn)
    exact iff_of_true trivial (List.forall_mem_nil _)
  | cons a attributes ih =>
    have hnext : ∃ text, attributes.flatMap line ++ endTag n = '<' :: text := by
      cases attributes with
      | nil => exact ⟨_, rfl⟩
      | cons b bs => exact ⟨_, rfl⟩
    obtain ⟨text, htext⟩ := hnext
    rw [htext] at ih
    have helement : reader.Exact (within (n :: outer)) (element (casName a.1) a.2.toList)
      (elementEvents (casName a.1) a.2.toList) (within (n :: outer))
      (isQName (casName a.1) ∧ IsText a.2.toList) := exact_element hne
    have hline := helement.append (exact_lineEnd hne ih)
    have hlines : (a :: attributes).flatMap line ++ endTag n =
        element (casName a.1) a.2.toList ++ '\r' :: '\n' :: '<' :: text := by
      rw [← htext, List.flatMap_cons, line]
      simp only [List.append_assoc, List.cons_append, List.nil_append]
    have hevents : lineEvents (a :: attributes) ++ [.endElement n] =
        elementEvents (casName a.1) a.2.toList ++
          .characters ['\n'] :: (lineEvents attributes ++ [.endElement n]) := by
      unfold lineEvents
      rw [List.flatMap_cons]
      simp only [List.append_assoc, List.cons_append, List.nil_append]
    rw [hlines, hevents]
    apply hline.congr
    rw [isQName_casName, List.forall_mem_cons]

theorem exact_attributes (hne : outer ≠ []) (attributes : List (String × List String)) :
    reader.Exact (within outer) (attributeText attributes) (attributeEvents attributes) (within outer)
      (∀ a ∈ pairs attributes, isNCName a.1.toList ∧ IsText a.2.toList) := by
  have hname : isQName (casName "attributes") := names.2.2.2.2.2.1
  unfold attributeText attributeEvents
  by_cases hempty : attributes = []
  · rw [if_pos hempty, if_pos hempty, hempty]
    exact Scanner.Exact.nil.congr (iff_of_true trivial (List.forall_mem_nil _))
  · rw [if_neg hempty, if_neg hempty]
    have hopen : reader.Exact (within outer) (startTag (casName "attributes"))
      [.startElement (casName "attributes") []] (within (casName "attributes" :: outer))
      (isQName (casName "attributes")) := exact_startTag (open_within hne)
    apply (hopen.append (exact_lines hname (pairs attributes))).congr
    exact and_iff_right hname

theorem exact_proxies (hne : outer ≠ []) (proxies : List String) :
    reader.Exact (within outer) (proxyText proxies) (proxyEvents proxies) (within outer)
      (∀ proxy ∈ proxies, IsText proxy.toList) := by
  obtain ⟨-, -, -, -, -, -, hname, hproxy⟩ := names
  unfold proxyText proxyEvents
  by_cases hempty : proxies = []
  · rw [if_pos hempty, if_pos hempty, hempty]
    exact Scanner.Exact.nil.congr (iff_of_true trivial (List.forall_mem_nil _))
  · rw [if_neg hempty, if_neg hempty]
    have hopen : reader.Exact (within outer) (startTag (casName "proxies"))
      [.startElement (casName "proxies") []] (within (casName "proxies" :: outer))
      (isQName (casName "proxies")) := exact_startTag (open_within hne)
    have hclose : reader.Exact (within (casName "proxies" :: outer)) (endTag (casName "proxies"))
      [.endElement (casName "proxies")] (within outer) True := exact_endTag rfl rfl hname
    have hinside : casName "proxies" :: outer ≠ [] := List.cons_ne_nil _ _
    have hproxies : reader.Exact (within (casName "proxies" :: outer))
        (proxies.flatMap fun proxy => element (casName "proxy") proxy.toList)
        (proxies.flatMap fun proxy => elementEvents (casName "proxy") proxy.toList)
        (within (casName "proxies" :: outer)) (∀ proxy ∈ proxies, IsText proxy.toList) := by
      apply Scanner.Exact.flatMap
      intro proxy _
      apply (exact_element hinside).congr
      exact and_iff_right hproxy
    apply (hopen.append (hproxies.append hclose)).congr
    rw [and_true]
    exact and_iff_right hname

theorem exact_body (f : Fields) : reader.Exact (within [casName "serviceResponse"]) (bodyText f)
    (body f) (within [casName "serviceResponse"]) (Clean f) := by
  obtain ⟨-, hsuccess, hfailure, huser, -⟩ := names
  have hne : [casName "serviceResponse"] ≠ [] := List.cons_ne_nil _ _
  cases f with
  | success user ticket attributes proxies =>
    have hinside : [casName "authenticationSuccess", casName "serviceResponse"] ≠ [] :=
      List.cons_ne_nil _ _
    have hopen : reader.Exact (within [casName "serviceResponse"])
      (startTag (casName "authenticationSuccess"))
      [.startElement (casName "authenticationSuccess") []]
      (within [casName "authenticationSuccess", casName "serviceResponse"])
      (isQName (casName "authenticationSuccess")) := exact_startTag (open_within hne)
    have hclose : reader.Exact (within [casName "authenticationSuccess", casName "serviceResponse"])
      (endTag (casName "authenticationSuccess")) [.endElement (casName "authenticationSuccess")]
      (within [casName "serviceResponse"]) True := exact_endTag rfl rfl hsuccess
    apply (hopen.append ((exact_element hinside).append ((exact_ticket hinside ticket).append
      ((exact_attributes hinside attributes).append
        ((exact_proxies hinside proxies).append hclose))))).congr
    simp only [hsuccess, huser, true_and, and_true, Clean]
  | failure code description =>
    have hcode : isQName "code".toList := by decide +kernel
    have hopen : reader.Exact (within [casName "serviceResponse"])
      (tagWith (casName "authenticationFailure") ("code".toList, code.toList))
      [.startElement (casName "authenticationFailure") [("code".toList, code.toList)]]
      (within [casName "authenticationFailure", casName "serviceResponse"])
      (IsValue code.toList) := exact_attribute (open_within hne) hfailure hcode
    have hclose : reader.Exact (within [casName "authenticationFailure", casName "serviceResponse"])
      (description.toList ++ endTag (casName "authenticationFailure"))
      (textEvents description.toList ++ [.endElement (casName "authenticationFailure")])
      (within [casName "serviceResponse"]) (IsText description.toList) := exact_text rfl rfl hfailure
    exact hopen.append hclose

/-- The document is read as one that tells the fields exactly if everything stands for itself. -/
theorem read_iff (f : Fields) : read (documentText f) = some (events f) ↔ Clean f := by
  obtain ⟨hroot, -⟩ := names
  have hname : isQName namespaceOf.1 := by decide +kernel
  have hvalue : IsValue namespaceOf.2 := by
    refine ⟨by decide +kernel, by decide +kernel, List.all_iff_forall_prop.mp ?_⟩
    decide +kernel
  have hopen : reader.Exact {} (tagWith (casName "serviceResponse") namespaceOf)
    [.startElement (casName "serviceResponse") [namespaceOf]]
    (within [casName "serviceResponse"]) (IsValue namespaceOf.2) :=
    exact_attribute ⟨rfl, .inr rfl⟩ hroot hname
  have hclose : reader.Exact (within [casName "serviceResponse"])
    (endTag (casName "serviceResponse")) [.endElement (casName "serviceResponse")] (within []) True :=
    exact_endTag rfl rfl hroot
  have hwhole := hopen.append ((exact_body f).append hclose)
  apply (hwhole.read_iff (by rfl)).trans
  rw [and_true]
  exact and_iff_right hvalue

end Reading

end Xml

/-! ### JSON -/

namespace Json
open JsonReader

def quote (text : List Char) : List Char := '"' :: (text ++ ['"'])

/-- The name of a field, with the blanks around its colon. -/
def field (name : String) (before after : List Char) : List Char :=
  quote name.toList ++ (before ++ ([':'] ++ after))

/-- A field that is a string, after a comma. -/
def member (name : String) (value : String) : List Char :=
  [','] ++ (field name [' '] [' '] ++ quote value.toList)

def memberEvents (name : String) (value : String) : List Event :=
  [.fieldName name.toList] ++ [.valueString value.toList]

def valueText : List String → List Char
  | [value] => quote value.toList
  | values => ['['] ++ ([','].intercalate (values.map fun value => quote value.toList) ++ [']'])

/-- A single value is no array. -/
def valueEvents : List String → List Event
  | [value] => [.valueString value.toList]
  | values =>
    [.startArray] ++ (values.flatMap (fun value => [.valueString value.toList]) ++ [.endArray])

def attributeText (attributes : List (String × List String)) : List Char :=
  if attributes = [] then []
  else [','] ++ (field "attributes" [' '] [' '] ++ (['\x7b'] ++
    ([','].intercalate (attributes.map fun a => field a.1 [] [] ++ valueText a.2) ++ ['\x7d'])))

def attributeEvents (attributes : List (String × List String)) : List Event :=
  if attributes = [] then []
  else [.fieldName "attributes".toList] ++ ([.startObject] ++
    (attributes.flatMap (fun a => [.fieldName a.1.toList] ++ valueEvents a.2) ++ [.endObject]))

def proxyText (proxies : List String) : List Char :=
  if proxies = [] then []
  else [','] ++ (field "proxies" [' '] [' '] ++ (['['] ++ ([' '] ++
    ([','].intercalate (proxies.map fun proxy => quote proxy.toList) ++ [']']))))

def proxyEvents (proxies : List String) : List Event :=
  if proxies = [] then []
  else [.fieldName "proxies".toList] ++ ([.startArray] ++
    (proxies.flatMap (fun proxy => [.valueString proxy.toList]) ++ [.endArray]))

def bodyText : Fields → List Char
  | .success user ticket attributes proxies =>
    field "authenticationSuccess" [' '] [' '] ++ (['\x7b'] ++ (field "user" [' '] [' '] ++
      (quote user.toList ++ (ticket.elim [] (member "proxyGrantingTicket") ++
        (attributeText attributes ++ (proxyText proxies ++ ['\x7d']))))))
  | .failure code description =>
    field "authenticationFailure" [' '] [' '] ++ (['\x7b'] ++ (field "code" [' '] [' '] ++
      (quote code.toList ++ (member "description" description ++ ['\x7d']))))

def body : Fields → List Event
  | .success user ticket attributes proxies =>
    [.fieldName "authenticationSuccess".toList] ++ ([.startObject] ++ ([.fieldName "user".toList] ++
      ([.valueString user.toList] ++ (ticket.elim [] (memberEvents "proxyGrantingTicket") ++
        (attributeEvents attributes ++ (proxyEvents proxies ++ [.endObject]))))))
  | .failure code description =>
    [.fieldName "authenticationFailure".toList] ++ ([.startObject] ++ ([.fieldName "code".toList] ++
      ([.valueString code.toList] ++ (memberEvents "description" description ++ [.endObject]))))

def documentText (f : Fields) : List Char :=
  ['\x7b'] ++ (field "serviceResponse" [' '] [] ++ (['\x7b'] ++ (bodyText f ++ (['\x7d'] ++ ['\x7d']))))

/-- A document that tells the fields. -/
def events (f : Fields) : List Event :=
  [.startObject] ++ ([.fieldName "serviceResponse".toList] ++ ([.startObject] ++
    (body f ++ ([.endObject] ++ [.endObject]))))

def IsText (text : String) : Prop := ∀ c ∈ text.toList, IsPlain c

/-- Everything stands for itself. -/
def Clean : Fields → Prop
  | .success user ticket attributes proxies =>
    IsText user ∧ (∀ t ∈ ticket, IsText t) ∧
      (∀ a ∈ attributes, IsText a.1 ∧ ∀ value ∈ a.2, IsText value) ∧ ∀ proxy ∈ proxies, IsText proxy
  | .failure code description => IsText code ∧ IsText description

/-! #### The builder writes this text -/

section Builder

variable {r : CasServiceResponse} {attributes : List (String × List (Option String))}

theorem toList_fields :
    "\x7b\"serviceResponse\" :\x7b".toList =
      ['\x7b'] ++ (field "serviceResponse" [' '] [] ++ ['\x7b']) ∧
    "\"authenticationSuccess\" : \x7b".toList =
      field "authenticationSuccess" [' '] [' '] ++ ['\x7b'] ∧
    "\"authenticationFailure\" : \x7b".toList =
      field "authenticationFailure" [' '] [' '] ++ ['\x7b'] ∧
    "\"user\" : ".toList = field "user" [' '] [' '] ∧
    "\"code\" : ".toList = field "code" [' '] [' '] ∧
    ",\"description\" : ".toList = [','] ++ field "description" [' '] [' '] ∧
    ",\"proxyGrantingTicket\" : ".toList = [','] ++ field "proxyGrantingTicket" [' '] [' '] ∧
    ",\"attributes\" : \x7b".toList = [','] ++ (field "attributes" [' '] [' '] ++ ['\x7b']) ∧
    ",\"proxies\" : [ ".toList =
      [','] ++ (field "proxies" [' '] [' '] ++ (['['] ++ [' '])) := by
  decide +kernel

theorem toList_quoted (value : String) :
    (CasServiceResponse.quoted (some value)).toList = quote value.toList := by
  unfold CasServiceResponse.quoted quote
  rw [String.toList_append, String.toList_append]
  rfl

theorem toList_jsonValues (values : List String) :
    (CasServiceResponse.jsonValues (values.map some)).toList = valueText values := by
  have hquoted : ∀ values : List String,
      ((values.map some).map CasServiceResponse.quoted).map String.toList =
        values.map fun value => quote value.toList := by
    intro values
    rw [List.map_map, List.map_map]
    apply List.map_congr_left
    intro value _
    exact toList_quoted value
  match values with
  | [] => rfl
  | [value] => exact toList_quoted value
  | first :: second :: rest =>
    show ("[" ++ ",".intercalate (((first :: second :: rest).map some).map
      CasServiceResponse.quoted) ++ "]").toList = _
    rw [String.toList_append, String.toList_append, String.toList_intercalate, hquoted,
      List.append_assoc]
    rfl

theorem toList_proxies (proxies : List String) :
    (if proxies = [] then "" else ",\"proxies\" : [ " ++
      ",".intercalate (proxies.map fun proxy => CasServiceResponse.quoted (some proxy)) ++ "]").toList =
        proxyText proxies := by
  obtain ⟨-, -, -, -, -, -, -, -, hname⟩ := toList_fields
  unfold proxyText
  by_cases hempty : proxies = []
  · rw [if_pos hempty, if_pos hempty]
    rfl
  · rw [if_neg hempty, if_neg hempty, String.toList_append, String.toList_append, hname,
      String.toList_intercalate, List.map_map]
    have hproxies : proxies.map (String.toList ∘ fun proxy => CasServiceResponse.quoted (some proxy)) =
        proxies.map fun proxy => quote proxy.toList :=
      List.map_congr_left fun proxy _ => toList_quoted proxy
    rw [hproxies]
    simp only [List.append_assoc]
    rfl

theorem toList_attributes {values : List (String × List String)}
    (h : attributes = values.map fun entry => (entry.1, entry.2.map some)) :
    (if attributes = [] then "" else ",\"attributes\" : \x7b" ++
      ",".intercalate (attributes.map fun entry =>
        "\"" ++ entry.1 ++ "\":" ++ CasServiceResponse.jsonValues entry.2) ++ "\x7d").toList =
          attributeText values := by
  obtain ⟨-, -, -, -, -, -, -, hname, -⟩ := toList_fields
  have hnone : attributes = [] ↔ values = [] := by rw [h, List.map_eq_nil_iff]
  have hvalue : ∀ entry : String × List String,
      ("\"" ++ entry.1 ++ "\":" ++ CasServiceResponse.jsonValues (entry.2.map some)).toList =
        field entry.1 [] [] ++ valueText entry.2 := by
    intro entry
    rw [String.toList_append, String.toList_append, String.toList_append, toList_jsonValues]
    unfold field quote
    simp
  unfold attributeText
  by_cases hempty : values = []
  · rw [if_pos (hnone.mpr hempty), if_pos hempty]
    rfl
  · rw [if_neg (mt hnone.mp hempty), if_neg hempty, String.toList_append, String.toList_append, hname,
      String.toList_intercalate, h, List.map_map, List.map_map]
    have hvalues := List.map_congr_left fun entry (_ : entry ∈ values) => hvalue entry
    simp only [List.append_assoc]
    exact congrArg (fun texts => [','] ++ (field "attributes" [' '] [' '] ++ (['\x7b'] ++
      ([','].intercalate texts ++ ['\x7d'])))) hvalues

theorem toList_serviceResponseJsonBuilder {f : Fields} (h : f.SetIn r attributes) :
    (r.serviceResponseJsonBuilder attributes).toList = documentText f := by
  obtain ⟨hroot, hsuccess, hfailure, huser, hcode, hdescription, hticket, -⟩ := toList_fields
  have hclose : "\x7d".toList = ['\x7d'] := rfl
  unfold CasServiceResponse.serviceResponseJsonBuilder documentText
  rw [String.toList_append, String.toList_append, String.toList_append, hroot, hclose]
  cases f with
  | success user ticket values proxies =>
    obtain ⟨hresult, hname, hset, hattributes, hproxies⟩ := h
    have hnamed := toList_attributes hattributes
    have hlisted := toList_proxies r.proxies
    have hgranted : (r.ticket.elim "" fun ticket => ",\"proxyGrantingTicket\" : " ++
        CasServiceResponse.quoted (some ticket)).toList =
          r.ticket.elim [] (member "proxyGrantingTicket") := by
      cases r.ticket with
      | none => rfl
      | some ticket =>
        rw [Option.elim_some, String.toList_append, toList_quoted, hticket, List.append_assoc]
        rfl
    rw [hresult, if_pos rfl, hname]
    simp only [String.toList_append, hsuccess, huser, toList_quoted, bodyText, hclose, List.append_assoc]
    rw [hgranted, hnamed, hlisted, hset, hproxies]
  | failure code description =>
    obtain ⟨hresult, hset, htext⟩ := h
    rw [hresult, if_neg Bool.false_ne_true, hset, htext]
    simp only [String.toList_append, hfailure, hcode, toList_quoted, hdescription, hclose, bodyText, member,
      List.append_assoc]

end Builder

/-! #### What is read -/

section Reading

variable {contexts : List Context} {expected : Expected}

theorem exact_field (hvalue : (State.mk contexts expected).takesValue = false)
    (hname : (State.mk contexts expected).takesName) (name : String) {before after : List Char}
    (hbefore : ∀ c ∈ before, isSpace c) (hafter : ∀ c ∈ after, isSpace c) :
    reader.Exact ⟨contexts, expected⟩ (field name before after) [.fieldName name.toList]
      ⟨contexts, .value⟩ (IsText name) := by
  have hcolon : reader.Exact ⟨contexts, .colon⟩ [':'] [] ⟨contexts, .value⟩ True :=
    exact_punctuation (by decide) (by decide) rfl
  apply ((exact_name hvalue hname).append ((exact_spaces hbefore).append
    (hcolon.append (exact_spaces hafter)))).congr
  rw [true_and, true_and, and_true]
  rfl

theorem exact_quote (hvalue : (State.mk contexts expected).takesValue) (text : String) :
    reader.Exact ⟨contexts, expected⟩ (quote text.toList) [.valueString text.toList]
      ⟨contexts, .separator⟩ (IsText text) := exact_value hvalue

variable (contexts)

theorem exact_openObject : reader.Exact ⟨contexts, .value⟩ ['\x7b'] [.startObject]
    ⟨.object :: contexts, .nameOrEnd⟩ True :=
  exact_punctuation (by decide) (by decide) rfl

theorem exact_closeObject : reader.Exact ⟨.object :: contexts, .separator⟩ ['\x7d'] [.endObject]
    ⟨contexts, .separator⟩ True :=
  exact_punctuation (by decide) (by decide) rfl

theorem exact_openArray : reader.Exact ⟨contexts, .value⟩ ['['] [.startArray]
    ⟨.array :: contexts, .valueOrEnd⟩ True :=
  exact_punctuation (by decide) (by decide) rfl

theorem exact_closeArray (hend : expected = .separator ∨ expected = .valueOrEnd) :
    reader.Exact ⟨.array :: contexts, expected⟩ [']'] [.endArray] ⟨contexts, .separator⟩ True := by
  apply exact_punctuation (by decide) (by decide)
  rcases hend with rfl | rfl
  · rfl
  · rfl

theorem exact_comma (context : Context) : reader.Exact ⟨context :: contexts, .separator⟩ [','] []
    ⟨context :: contexts, if context = .object then .name else .value⟩ True :=
  exact_punctuation (by decide) (by decide) rfl

theorem exact_member (name value : String) :
    reader.Exact ⟨.object :: contexts, .separator⟩ (member name value) (memberEvents name value)
      ⟨.object :: contexts, .separator⟩ (IsText name ∧ IsText value) := by
  have hblank : ∀ c ∈ [' '], isSpace c := List.forall_mem_singleton.mpr rfl
  apply ((exact_comma contexts .object).append ((exact_field rfl rfl name hblank hblank).append
    (exact_quote rfl value))).congr
  rw [true_and]

/-- The strings of an array that is not empty. -/
theorem exact_strings (first : String) (rest : List String) :
    reader.Exact ⟨.array :: contexts, .valueOrEnd⟩
      ([','].intercalate ((first :: rest).map fun value => quote value.toList))
      ((first :: rest).flatMap fun value => [.valueString value.toList])
      ⟨.array :: contexts, .separator⟩ (∀ value ∈ first :: rest, IsText value) := by
  have hfirst : reader.Exact ⟨.array :: contexts, .valueOrEnd⟩ (quote first.toList)
    [.valueString first.toList] ⟨.array :: contexts, .separator⟩ (IsText first) := exact_quote rfl first
  have hrest : ∀ value ∈ rest, reader.Exact ⟨.array :: contexts, .value⟩ (quote value.toList)
      [.valueString value.toList] ⟨.array :: contexts, .separator⟩ (IsText value) :=
    fun value _ => exact_quote rfl value
  exact Scanner.Exact.intercalate (exact_comma contexts .array) hfirst hrest

theorem exact_values (values : List String) :
    reader.Exact ⟨contexts, .value⟩ (valueText values) (valueEvents values) ⟨contexts, .separator⟩
      (∀ value ∈ values, IsText value) := by
  match values with
  | [] =>
    apply ((exact_openArray contexts).append (exact_closeArray contexts (.inr rfl))).congr
    exact iff_of_true ⟨trivial, trivial⟩ (List.forall_mem_nil _)
  | [value] => exact (exact_quote rfl value).congr List.forall_mem_singleton.symm
  | first :: second :: rest =>
    apply ((exact_openArray contexts).append ((exact_strings contexts first (second :: rest)).append
      (exact_closeArray contexts (.inl rfl)))).congr
    rw [true_and, and_true]

theorem exact_attributes (attributes : List (String × List String)) :
    reader.Exact ⟨.object :: contexts, .separator⟩ (attributeText attributes)
      (attributeEvents attributes) ⟨.object :: contexts, .separator⟩
      (∀ a ∈ attributes, IsText a.1 ∧ ∀ value ∈ a.2, IsText value) := by
  have hblank : ∀ c ∈ [' '], isSpace c := List.forall_mem_singleton.mpr rfl
  have hnone : ∀ c ∈ [], isSpace c := List.forall_mem_nil _
  have hname : IsText "attributes" := List.all_iff_forall_prop.mp (by decide +kernel)
  unfold attributeText attributeEvents
  match attributes with
  | [] => exact Scanner.Exact.nil.congr (iff_of_true trivial (List.forall_mem_nil _))
  | first :: rest =>
    have hfirst : reader.Exact ⟨.object :: .object :: contexts, .nameOrEnd⟩
        (field first.1 [] [] ++ valueText first.2)
        ([.fieldName first.1.toList] ++ valueEvents first.2) ⟨.object :: .object :: contexts, .separator⟩
        (IsText first.1 ∧ ∀ value ∈ first.2, IsText value) :=
      (exact_field rfl rfl first.1 hnone hnone).append (exact_values _ first.2)
    have hrest : ∀ a ∈ rest, reader.Exact ⟨.object :: .object :: contexts, .name⟩
        (field a.1 [] [] ++ valueText a.2) ([.fieldName a.1.toList] ++ valueEvents a.2)
        ⟨.object :: .object :: contexts, .separator⟩ (IsText a.1 ∧ ∀ value ∈ a.2, IsText value) :=
      fun a _ => (exact_field rfl rfl a.1 hnone hnone).append (exact_values _ a.2)
    have hlist := Scanner.Exact.intercalate (exact_comma (.object :: contexts) .object) hfirst hrest
    rw [if_neg (List.cons_ne_nil _ _), if_neg (List.cons_ne_nil _ _)]
    apply ((exact_comma contexts .object).append ((exact_field rfl rfl "attributes" hblank hblank).append
      ((exact_openObject (.object :: contexts)).append
        (hlist.append (exact_closeObject (.object :: contexts)))))).congr
    simp only [hname, true_and, and_true]

theorem exact_proxies (proxies : List String) :
    reader.Exact ⟨.object :: contexts, .separator⟩ (proxyText proxies) (proxyEvents proxies)
      ⟨.object :: contexts, .separator⟩ (∀ proxy ∈ proxies, IsText proxy) := by
  have hblank : ∀ c ∈ [' '], isSpace c := List.forall_mem_singleton.mpr rfl
  have hname : IsText "proxies" := List.all_iff_forall_prop.mp (by decide +kernel)
  unfold proxyText proxyEvents
  match proxies with
  | [] => exact Scanner.Exact.nil.congr (iff_of_true trivial (List.forall_mem_nil _))
  | first :: rest =>
    rw [if_neg (List.cons_ne_nil _ _), if_neg (List.cons_ne_nil _ _)]
    apply ((exact_comma contexts .object).append ((exact_field rfl rfl "proxies" hblank hblank).append
      ((exact_openArray (.object :: contexts)).append ((exact_spaces hblank).append
        ((exact_strings (.object :: contexts) first rest).append
          (exact_closeArray (.object :: contexts) (.inl rfl))))))).congr
    simp only [hname, true_and, and_true]

theorem exact_body (f : Fields) : reader.Exact ⟨.object :: contexts, .nameOrEnd⟩ (bodyText f) (body f)
    ⟨.object :: contexts, .separator⟩ (Clean f) := by
  have hblank : ∀ c ∈ [' '], isSpace c := List.forall_mem_singleton.mpr rfl
  have hsuccess : IsText "authenticationSuccess" := List.all_iff_forall_prop.mp (by decide +kernel)
  have hfailure : IsText "authenticationFailure" := List.all_iff_forall_prop.mp (by decide +kernel)
  have huser : IsText "user" := List.all_iff_forall_prop.mp (by decide +kernel)
  have hcode : IsText "code" := List.all_iff_forall_prop.mp (by decide +kernel)
  have hdescription : IsText "description" := List.all_iff_forall_prop.mp (by decide +kernel)
  have hticket : IsText "proxyGrantingTicket" := List.all_iff_forall_prop.mp (by decide +kernel)
  cases f with
  | success user ticket attributes proxies =>
    have hgranted : reader.Exact ⟨.object :: .object :: contexts, .separator⟩
        (ticket.elim [] (member "proxyGrantingTicket"))
        (ticket.elim [] (memberEvents "proxyGrantingTicket"))
        ⟨.object :: .object :: contexts, .separator⟩ (∀ t ∈ ticket, IsText t) := by
      cases ticket with
      | none => exact Scanner.Exact.nil.congr (iff_of_true trivial fun _ h => nomatch h)
      | some ticket =>
        apply (exact_member (.object :: contexts) "proxyGrantingTicket" ticket).congr
        simp only [Option.mem_some_iff, forall_eq', hticket, true_and]
    apply ((exact_field rfl rfl "authenticationSuccess" hblank hblank).append
      ((exact_openObject (.object :: contexts)).append
        ((exact_field rfl rfl "user" hblank hblank).append ((exact_quote rfl user).append
          (hgranted.append ((exact_attributes (.object :: contexts) attributes).append
            ((exact_proxies (.object :: contexts) proxies).append
              (exact_closeObject (.object :: contexts))))))))).congr
    simp only [hsuccess, huser, true_and, and_true, Clean]
  | failure code description =>
    apply ((exact_field rfl rfl "authenticationFailure" hblank hblank).append
      ((exact_openObject (.object :: contexts)).append
        ((exact_field rfl rfl "code" hblank hblank).append ((exact_quote rfl code).append
          ((exact_member (.object :: contexts) "description" description).append
            (exact_closeObject (.object :: contexts))))))).congr
    simp only [hfailure, hcode, hdescription, true_and, and_true, Clean]

omit contexts in
/-- The document is read as one that tells the fields exactly if everything stands for itself. -/
theorem read_iff (f : Fields) : read (documentText f) = some (events f) ↔ Clean f := by
  have hblank : ∀ c ∈ [' '], isSpace c := List.forall_mem_singleton.mpr rfl
  have hnone : ∀ c ∈ [], isSpace c := List.forall_mem_nil _
  have hname : IsText "serviceResponse" := List.all_iff_forall_prop.mp (by decide +kernel)
  have hwhole := (exact_openObject []).append
    ((exact_field rfl rfl "serviceResponse" hblank hnone).append ((exact_openObject [.object]).append
      ((exact_body [.object] f).append
        ((exact_closeObject [.object]).append (exact_closeObject [])))))
  apply (hwhole.read_iff (by rfl)).trans
  simp only [hname, true_and, and_true]

end Reading

end Json

/-! ### The documents of the builder -/

/-- Both documents are read as telling the fields that were set, and nothing else. -/
def ReadsBack (r : CasServiceResponse) (attributes : List (String × List (Option String))) : Prop :=
  ∃ f : Fields, f.SetIn r attributes ∧
    XmlReader.read (r.serviceResponseXmlBuilder attributes).toList = some (Xml.events f) ∧
    JsonReader.read (r.serviceResponseJsonBuilder attributes).toList = some (Json.events f)

/-- The fields are set, and none of them has a character that is special in one of the formats. -/
def Unspecial (r : CasServiceResponse) (attributes : List (String × List (Option String))) : Prop :=
  ∃ f : Fields, f.SetIn r attributes ∧ Xml.Clean f ∧ Json.Clean f

/-- The documents are read back exactly if there was nothing to escape. -/
theorem serviceResponse_readsBack_iff (r : CasServiceResponse) (attributes : List (String × List (Option String))) :
    ReadsBack r attributes ↔ Unspecial r attributes := by
  apply exists_congr
  intro f
  apply and_congr_right
  intro hset
  rw [Xml.toList_serviceResponseXmlBuilder hset, Json.toList_serviceResponseJsonBuilder hset]
  exact and_congr (Xml.read_iff f) (Json.read_iff f)

/-- No success is told with a failure. -/
theorem success_not_mem (code description : String) (attributes : XmlReader.Attributes) :
    .startElement (Xml.casName "authenticationSuccess") attributes ∉
      Xml.events (.failure code description) := by
  have hroot : Xml.casName "authenticationSuccess" ≠ Xml.casName "serviceResponse" := by
    decide +kernel
  have hfailure : Xml.casName "authenticationSuccess" ≠ Xml.casName "authenticationFailure" := by
    decide +kernel
  unfold Xml.events Xml.body XmlReader.textEvents
  by_cases hempty : description.toList = []
  · simp [hempty, hroot, hfailure]
  · simp [hempty, hroot, hfailure]

/-- Ends the failure and goes on with a success. -/
def injection : List Char :=
  XmlReader.endTag (Xml.casName "authenticationFailure") ++
    (XmlReader.startTag (Xml.casName "authenticationSuccess") ++
      (XmlReader.element (Xml.casName "user") "admin".toList ++
        (XmlReader.endTag (Xml.casName "authenticationSuccess") ++
          Xml.tagWith (Xml.casName "authenticationFailure") ("code".toList, []))))

def crafted : String := String.ofList injection

def told : Fields := .failure "INVALID_TICKET" ("Ticket " ++ crafted ++ " not recognized")

theorem toList_crafted : ("Ticket " ++ crafted ++ " not recognized").toList =
    "Ticket ".toList ++ injection ++ " not recognized".toList := by
  have hcrafted : crafted.toList = injection := String.toList_ofList
  rw [String.toList_append, String.toList_append, hcrafted]

/-- The failure is read as a document that logs in the administrator. -/
theorem crafted_logs_in : ¬ReadsBack (notRecognized crafted) [] ∧
    ∃ before after, XmlReader.read ((notRecognized crafted).serviceResponseXmlBuilder []).toList =
      some (before ++ ([.startElement (Xml.casName "authenticationSuccess") []] ++
        (XmlReader.elementEvents (Xml.casName "user") "admin".toList ++ after))) := by
  have htext : ((notRecognized crafted).serviceResponseXmlBuilder []).toList =
    Xml.documentText told := Xml.toList_serviceResponseXmlBuilder ⟨rfl, rfl, rfl⟩
  constructor
  · intro ⟨f, hset, hread, _⟩
    have hfields : f = told := by
      cases f with
      | success user ticket attributes proxies => cases hset.1
      | failure code description =>
        obtain ⟨-, hcode, hdescribed⟩ := hset
        rw [← Option.some.inj hcode, ← Option.some.inj hdescribed]
        rfl
    rw [htext, hfields, Xml.read_iff] at hread
    apply hread.2.1
    rw [toList_crafted]
    exact List.mem_append_left _ (List.mem_append_right _ List.mem_cons_self)
  · have hbody : Xml.bodyText told =
        Xml.tagWith (Xml.casName "authenticationFailure") ("code".toList, "INVALID_TICKET".toList) ++
          ("Ticket ".toList ++ injection ++ " not recognized".toList ++
            XmlReader.endTag (Xml.casName "authenticationFailure")) := by
      rw [← toList_crafted]
      rfl
    rw [htext, Xml.documentText, hbody]
    refine ⟨[.startElement (Xml.casName "serviceResponse") [Xml.namespaceOf],
      .startElement (Xml.casName "authenticationFailure") [("code".toList, "INVALID_TICKET".toList)],
      .characters "Ticket ".toList, .endElement (Xml.casName "authenticationFailure")],
      [.endElement (Xml.casName "authenticationSuccess"),
      .startElement (Xml.casName "authenticationFailure") [("code".toList, [])],
      .characters " not recognized".toList, .endElement (Xml.casName "authenticationFailure"),
      .endElement (Xml.casName "serviceResponse")], ?_⟩
    decide +kernel

end MaxKey.ServiceDocuments
