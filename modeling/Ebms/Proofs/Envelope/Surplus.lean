import Ebms.Proofs.Markup.Children
import Ebms.Proofs.Received

/-! # What a message holds beside what is read of it

The reader takes the first header of a document, the first messaging header in it and the
first body; of a messaging header the first user message, else the first signal; of a signal
the first pull request, else the first receipt, else the errors.  It looks at no text in the
body.  `Element.pruned` is a root element without all that this passes over: it is read as the
same envelope, and it is the root element itself exactly when the document has one messaging
header in one header, which holds one unit with one kind of signal, and one body, which is
empty. -/

set_option autoImplicit false

namespace Ebms

open Markup

namespace Element

variable {names : List String} {name : String} {e kept : Element} {change : Element → Element}

theorem requiredChild_eq_ok : e.requiredChild name = .ok kept ↔ e.child? name = some kept := by
  unfold requiredChild
  cases e.child? name <;> simp

theorem requiredChild_congr (sameName : e.localName = kept.localName)
    (sameChild : e.child? name = kept.child? name) :
    e.requiredChild name = kept.requiredChild name := by
  rw [requiredChild, requiredChild, sameName, sameChild]

theorem requiredAttribute_congr (sameName : e.localName = kept.localName)
    (sameAttributes : e.attributes = kept.attributes) :
    e.requiredAttribute name = kept.requiredAttribute name := by
  rw [requiredAttribute, requiredAttribute, attribute?, attribute?, sameName, sameAttributes]

theorem requiredChild_bind {α : Type} {old new : Element}
    {first second : Element → Except DecodeError α} (sameName : new.localName = old.localName)
    (changed : new.child? name = (old.child? name).map change)
    (same : ∀ e, first (change e) = second e) :
    (new.requiredChild name >>= first) = (old.requiredChild name >>= second) := by
  rw [requiredChild, requiredChild, changed, sameName]
  cases old.child? name with
  | none => rfl
  | some found => exact same found

/-! ## One unit above an empty body -/

def unitNames : List String := ["UserMessage", "SignalMessage"]

def signalNames : List String := ["PullRequest", "Receipt", "Error"]

/-- The signal is of one kind: one pull request, or one receipt, or nothing but errors. -/
def HoldsOneSignal (signal : Element) : Prop :=
  let kinds := (signal.among signalNames).map localName
  kinds = ["PullRequest"] ∨ kinds = ["Receipt"] ∨ (kinds ≠ [] ∧ ∀ kind ∈ kinds, kind = "Error")

/-- One user message, or one signal message with one kind of signal. -/
def HoldsOneUnit (messaging : Element) : Prop :=
  ∃ unit, messaging.among unitNames = [unit] ∧
    (unit.localName = "SignalMessage" → unit.HoldsOneSignal)

def IsEmptyBody (body : Element) : Prop := body.children = [] ∧ Text.isAllBlank body.text = true

/-- A root element with one message unit in its only messaging header and nothing in its only
body. -/
def HoldsOneMessage (root : Element) : Prop :=
  ∃ header messaging body, root.among ["Header"] = [header] ∧
    header.among ["Messaging"] = [messaging] ∧ root.among ["Body"] = [body] ∧
    messaging.HoldsOneUnit ∧ body.IsEmptyBody

/-! ## What is read of a root element -/

def prunedSignal (signal : Element) : Element :=
  match signal.child? "PullRequest" with
  | some _ => signal.keepOne signalNames "PullRequest"
  | none =>
    match signal.child? "Receipt" with
    | some _ => signal.keepOne signalNames "Receipt"
    | none => signal

def prunedMessaging (messaging : Element) : Element :=
  match messaging.child? "UserMessage" with
  | some _ => messaging.keepOne unitNames "UserMessage"
  | none => (messaging.keepOne unitNames "SignalMessage").changeChild "SignalMessage" prunedSignal

def prunedBody (body : Element) : Element :=
  if Text.isAllBlank body.text then body else { body with text := "" }

def prunedHeader (header : Element) : Element := header.soleChild "Messaging" prunedMessaging

/-- A root element without what the reader of envelopes passes over in silence. -/
def pruned (root : Element) : Element :=
  (root.soleChild "Header" prunedHeader).soleChild "Body" prunedBody

theorem localName_prunedHeader (header : Element) :
    header.prunedHeader.localName = header.localName := rfl

@[simp] theorem localName_prunedSignal (signal : Element) :
    signal.prunedSignal.localName = signal.localName := by
  unfold prunedSignal
  split
  · rfl
  · split <;> rfl

@[simp] theorem localName_prunedMessaging (messaging : Element) :
    messaging.prunedMessaging.localName = messaging.localName := by
  unfold prunedMessaging
  split <;> rfl

@[simp] theorem localName_prunedBody (body : Element) :
    body.prunedBody.localName = body.localName := by
  unfold prunedBody
  split <;> rfl

theorem readSignal_prunedSignal (signal : Element) :
    readSignal signal.prunedSignal = readSignal signal := by
  have info : signal.prunedSignal.requiredChild "MessageInfo" =
      signal.requiredChild "MessageInfo" := by
    apply requiredChild_congr signal.localName_prunedSignal
    unfold prunedSignal
    split
    · exact child?_keepOne_of_not_mem (by decide)
    · split
      · exact child?_keepOne_of_not_mem (by decide)
      · rfl
  rw [readSignal, readSignal, info]
  unfold prunedSignal
  cases pull : signal.child? "PullRequest" with
  | some request => simp only [child?_keepOne_self, pull]
  | none =>
      cases receipt : signal.child? "Receipt" with
      | some confirmed =>
          simp only [child?_keepOne_of_none pull, child?_keepOne_self, receipt]
      | none => simp only [pull, receipt]

theorem ofElement_prunedMessaging (messaging : Element) :
    MessageUnit.ofElement messaging.prunedMessaging = MessageUnit.ofElement messaging := by
  rw [MessageUnit.ofElement, MessageUnit.ofElement]
  unfold prunedMessaging
  cases user : messaging.child? "UserMessage" with
  | some message => simp only [child?_keepOne_self, user]
  | none =>
      have noUser : ((messaging.keepOne unitNames "SignalMessage").changeChild "SignalMessage"
          prunedSignal).child? "UserMessage" = none := by
        rw [child?_changeChild_of_ne localName_prunedSignal (by decide),
          child?_keepOne_of_none user]
      simp only [noUser, child?_changeChild_self localName_prunedSignal, child?_keepOne_self]
      cases messaging.child? "SignalMessage" with
      | none => rfl
      | some signal => exact readSignal_prunedSignal signal

theorem child?_pruned (root : Element) :
    root.pruned.child? "Header" = (root.child? "Header").map prunedHeader ∧
      root.pruned.child? "Body" = (root.child? "Body").map prunedBody := by
  constructor
  · rw [pruned, child?_soleChild_of_ne localName_prunedBody (by decide),
      child?_soleChild_self localName_prunedHeader]
  · rw [pruned, child?_soleChild_self localName_prunedBody,
      child?_soleChild_of_ne localName_prunedHeader (by decide)]

theorem prunedBody_eq (body : Element) :
    body.prunedBody.children = body.children ∧ body.prunedBody.attributes = body.attributes := by
  unfold prunedBody
  split <;> exact ⟨rfl, rfl⟩

theorem attributes_prunedMessaging (messaging : Element) :
    messaging.prunedMessaging.attributes = messaging.attributes := by
  unfold prunedMessaging
  split <;> rfl

/-- Whatever is left out makes no difference to what is read. -/
theorem ofElement_pruned (root : Element) :
    Envelope.ofElement root.pruned = Envelope.ofElement root := by
  obtain ⟨header, body⟩ := root.child?_pruned
  have name : root.pruned.localName = root.localName := rfl
  have xmlNamespace : root.pruned.declaredNamespace? root.pruned.namespaceLabel? =
      root.declaredNamespace? root.namespaceLabel? := rfl
  rw [Envelope.ofElement, Envelope.ofElement, name, xmlNamespace]
  split
  · rfl
  split
  · rfl
  refine requiredChild_bind name body fun plain => ?_
  obtain ⟨children, attributes⟩ := plain.prunedBody_eq
  have fault : plain.prunedBody.child? "Fault" = plain.child? "Fault" := by
    rw [child?, child?, children]
  rw [fault, children, requiredAttribute_congr plain.localName_prunedBody attributes]
  split
  · rfl
  split
  · rfl
  refine requiredChild_bind name header fun found => ?_
  have security : found.prunedHeader.child? "Security" = found.child? "Security" :=
    child?_soleChild_of_ne localName_prunedMessaging (by decide)
  rw [security]
  refine requiredChild_bind rfl (child?_soleChild_self localName_prunedMessaging)
    fun messaging => ?_
  rw [ofElement_prunedMessaging, requiredAttribute_congr messaging.localName_prunedMessaging
    messaging.attributes_prunedMessaging]

/-! ## What is left is one message -/

theorem holdsOneSignal_of_errors {signal : Element} {unit : MessageUnit}
    (pull : signal.child? "PullRequest" = none) (receipt : signal.child? "Receipt" = none)
    (read : readSignal signal = .ok unit) : signal.HoldsOneSignal := by
  refine .inr (.inr ⟨?_, fun kind member => ?_⟩)
  · unfold readSignal at read
    obtain ⟨_, -, read⟩ := bind_eq_ok.mp read
    obtain ⟨info, -, read⟩ := bind_eq_ok.mp read
    rw [pull, receipt] at read
    obtain ⟨errors, made, read⟩ := bind_eq_ok.mp read
    cases named : signal.childrenNamed "Error" with
    | nil =>
        rw [named] at made
        cases made
        cases read
    | cons first rest =>
        have member : first ∈ signal.childrenNamed "Error" := by
          rw [named]
          exact List.mem_cons_self
        obtain ⟨child, error⟩ := List.mem_filter.mp member
        have listed : first ∈ signal.among signalNames :=
          mem_among.mpr ⟨child, by simp [signalNames, beq_iff_eq.mp error]⟩
        exact List.ne_nil_of_mem (List.mem_map_of_mem listed)
  · obtain ⟨element, chosen, rfl⟩ := List.mem_map.mp member
    obtain ⟨child, listed⟩ := mem_among.mp chosen
    have noPull := localName_ne_of_child?_eq_none pull child
    have noReceipt := localName_ne_of_child?_eq_none receipt child
    simpa [signalNames, noPull, noReceipt] using listed

theorem holdsOneSignal_prunedSignal {signal : Element} {unit : MessageUnit}
    (read : readSignal signal = .ok unit) : signal.prunedSignal.HoldsOneSignal := by
  unfold prunedSignal
  cases pull : signal.child? "PullRequest" with
  | some request =>
      left
      rw [among_keepOne (by decide) pull, List.map_singleton, localName_of_child? pull]
  | none =>
      cases receipt : signal.child? "Receipt" with
      | some confirmed =>
          right
          left
          rw [among_keepOne (by decide) receipt, List.map_singleton, localName_of_child? receipt]
      | none => exact holdsOneSignal_of_errors pull receipt read

theorem holdsOneUnit_prunedMessaging {messaging : Element} {unit : MessageUnit}
    (read : MessageUnit.ofElement messaging = .ok unit) :
    messaging.prunedMessaging.HoldsOneUnit := by
  unfold prunedMessaging
  unfold MessageUnit.ofElement at read
  cases user : messaging.child? "UserMessage" with
  | some message =>
      refine ⟨message, among_keepOne (by decide) user, fun signal => ?_⟩
      rw [localName_of_child? user] at signal
      exact absurd signal (by decide)
  | none =>
      rw [user] at read
      cases found : messaging.child? "SignalMessage" with
      | none =>
          rw [found] at read
          cases read
      | some signal =>
          rw [found] at read
          exact ⟨signal.prunedSignal,
            among_changeChild_keepOne localName_prunedSignal (by decide) found,
            fun _ => holdsOneSignal_prunedSignal read⟩

theorem isEmptyBody_prunedBody {body : Element} (noChildren : body.children = []) :
    body.prunedBody.IsEmptyBody := by
  unfold prunedBody
  split
  case isTrue blank => exact ⟨noChildren, blank⟩
  case isFalse => exact ⟨noChildren, rfl⟩

/-! ## Nothing is left out of one message -/

theorem prunedSignal_eq_self {signal : Element} (one : signal.HoldsOneSignal) :
    signal.prunedSignal = signal := by
  have lone {kind : String} {found : Element} (listed : kind ∈ signalNames)
      (present : signal.child? kind = some found) (noError : kind ≠ "Error") :
      (signal.among signalNames).length = 1 := by
    have member : kind ∈ (signal.among signalNames).map localName :=
      List.mem_map.mpr ⟨found, mem_among_of_child? listed present, localName_of_child? present⟩
    rw [← List.length_map localName]
    rcases one with pull | receipt | ⟨-, errors⟩
    · rw [pull, List.length_singleton]
    · rw [receipt, List.length_singleton]
    · exact absurd (errors kind member) noError
  unfold prunedSignal
  split
  case h_1 pull =>
    exact keepOne_eq_self_of_length (by decide) pull (lone (by decide) pull (by decide))
  case h_2 =>
    split
    case h_1 receipt =>
      exact keepOne_eq_self_of_length (by decide) receipt (lone (by decide) receipt (by decide))
    case h_2 => rfl

theorem prunedMessaging_eq_self {messaging : Element} (one : messaging.HoldsOneUnit) :
    messaging.prunedMessaging = messaging := by
  obtain ⟨unit, all, signal⟩ := one
  have single : (messaging.among unitNames).length = 1 := by rw [all, List.length_singleton]
  unfold prunedMessaging
  split
  case h_1 user => exact keepOne_eq_self_of_length (by decide) user single
  case h_2 noUser =>
    have listed : unit ∈ messaging.among unitNames := by
      rw [all]
      exact List.mem_singleton_self unit
    obtain ⟨child, kind⟩ := mem_among.mp listed
    have named : unit.localName = "SignalMessage" := by
      have different := localName_ne_of_child?_eq_none noUser child
      simpa [unitNames, different] using kind
    have found := child?_of_among all
    rw [named] at found
    rw [keepOne_eq_self named all, changeChild_eq_self (prunedSignal_eq_self (signal named)) found]

theorem prunedBody_eq_self {body : Element} (empty : body.IsEmptyBody) :
    body.prunedBody = body := if_pos empty.2

theorem pruned_of_children {root header body : Element} {bodies : List Element}
    (children : root.children = header :: body :: bodies) (isHeader : header.localName = "Header")
    (isBody : body.localName = "Body") (areBodies : ∀ body ∈ bodies, body.localName = "Body") :
    root.pruned = { root with children := [header.prunedHeader, body.prunedBody] } := by
  have others : ∀ element ∈ body :: bodies, element.localName ≠ "Header" := by
    intro element member
    have named : element.localName = "Body" := by
      rcases List.mem_cons.mp member with rfl | further
      · exact isBody
      · exact areBodies element further
    rw [named]
    decide
  have first : header.prunedHeader.localName ≠ "Body" := by
    rw [localName_prunedHeader, isHeader]
    decide
  rw [pruned, soleChild_of_cons children isHeader, filter_not_isAmong_of_unnamed others,
    soleChild_of_cons_cons rfl first isBody, filter_not_isAmong_of_named areBodies]

theorem pruned_eq_self {root : Element} (one : root.HoldsOneMessage) : root.pruned = root := by
  obtain ⟨header, messaging, body, oneHeader, oneMessaging, oneBody, unit, empty⟩ := one
  have same : header.prunedHeader = header :=
    soleChild_eq_self oneMessaging (prunedMessaging_eq_self unit)
  rw [pruned, soleChild_eq_self oneHeader same,
    soleChild_eq_self oneBody (prunedBody_eq_self empty)]

end Element

namespace Envelope

theorem parts_of_ofElement {root : Element} {e : Envelope} (read : ofElement root = .ok e) :
    ∃ header messaging body, root.child? "Header" = some header ∧
      header.child? "Messaging" = some messaging ∧ root.child? "Body" = some body ∧
      MessageUnit.ofElement messaging = .ok e.unit ∧ body.children = [] := by
  unfold ofElement at read
  split at read
  · cases read
  split at read
  · cases read
  obtain ⟨body, foundBody, read⟩ := bind_eq_ok.mp read
  split at read
  · cases read
  split at read
  · cases read
  rename_i noChildren
  obtain ⟨header, foundHeader, read⟩ := bind_eq_ok.mp read
  obtain ⟨messaging, foundMessaging, read⟩ := bind_eq_ok.mp read
  obtain ⟨unit, made, read⟩ := bind_eq_ok.mp read
  obtain ⟨security, -, read⟩ := bind_eq_ok.mp read
  obtain ⟨messagingId, -, read⟩ := bind_eq_ok.mp read
  obtain ⟨bodyId, -, read⟩ := bind_eq_ok.mp read
  cases read
  exact ⟨header, messaging, body, Element.requiredChild_eq_ok.mp foundHeader,
    Element.requiredChild_eq_ok.mp foundMessaging, Element.requiredChild_eq_ok.mp foundBody, made,
    by simpa using noChildren⟩

theorem holdsOneMessage_pruned {root : Element} {e : Envelope} (read : ofElement root = .ok e) :
    root.pruned.HoldsOneMessage := by
  obtain ⟨header, messaging, body, foundHeader, foundMessaging, foundBody, made, noChildren⟩ :=
    parts_of_ofElement read
  have oneHeader : root.pruned.among ["Header"] = [header.prunedHeader] := by
    rw [Element.pruned, Element.among_soleChild_of_ne Element.localName_prunedBody (by decide),
      Element.among_soleChild_self Element.localName_prunedHeader foundHeader]
  have found : (root.soleChild "Header" Element.prunedHeader).child? "Body" = some body := by
    rw [Element.child?_soleChild_of_ne Element.localName_prunedHeader (by decide), foundBody]
  exact ⟨header.prunedHeader, messaging.prunedMessaging, body.prunedBody, oneHeader,
    Element.among_soleChild_self Element.localName_prunedMessaging foundMessaging,
    Element.among_soleChild_self Element.localName_prunedBody found,
    Element.holdsOneUnit_prunedMessaging made, Element.isEmptyBody_prunedBody noChildren⟩

/-! ## Received messages -/

def soapDocument? (contentType : Option String) (body : Bytes) : Option Bytes :=
  match contentType.filter Multipart.isMultipart with
  | some contentType => (Multipart.read contentType body).toOption.map (·.root)
  | none => some body

def soapRoot? (contentType : Option String) (body : Bytes) : Option Element :=
  (soapDocument? contentType body).bind fun document => (readDocument document).toOption.join

theorem soapDocument?_of_decode {contentType : Option String} {body : Bytes} {e : Envelope}
    (received : decode contentType body = .ok (some e)) :
    ∃ document, soapDocument? contentType body = some document ∧
      ofDocument document = .ok { e with attachments := [] } := by
  unfold decode at received
  unfold soapDocument?
  split at received
  · cases received
  cases type : contentType.filter Multipart.isMultipart with
  | none =>
      rw [type] at received
      obtain ⟨envelope, read, same⟩ := map_eq_ok.mp received
      cases same
      refine ⟨body, rfl, ?_⟩
      rw [read, ← (of_ofDocument read).2.2]
  | some multipart =>
      rw [type] at received
      obtain ⟨envelope, read, same⟩ := map_eq_ok.mp received
      cases same
      obtain ⟨related, plain, parts, document, rfl⟩ := decodeRelated_eq_ok.mp read
      refine ⟨related.root, ?_, ?_⟩
      · simp only [parts, Except.toOption, Option.map_some]
      · rw [document, ← (of_ofDocument document).2.2]

theorem soapRoot?_of_decode {contentType : Option String} {body : Bytes} {e : Envelope}
    (received : decode contentType body = .ok (some e)) :
    ∃ root, soapRoot? contentType body = some root ∧
      ofElement root = .ok { e with attachments := [] } := by
  obtain ⟨document, carried, read⟩ := soapDocument?_of_decode received
  obtain ⟨root, found, understood⟩ := ofDocument_eq_ok_iff.mp read
  refine ⟨root, ?_, understood⟩
  simp only [soapRoot?, carried, Option.bind_some, found, Except.toOption, Option.join_some]

/-! ## Messages with more in them -/

/-- What a document may hold beside one envelope. -/
structure Surplus where
  units : List MessageUnit
  /-- The units of further messaging headers. -/
  headers : List (List MessageUnit)
  text : String
  bodies : List String

def Surplus.none : Surplus := { units := [], headers := [], text := "", bodies := [] }

def messagingWith (others : List MessageUnit) (e : Envelope) : Markup :=
  .node "eb:Messaging" [e.soap.demand, ("wsu:Id", e.messagingId)]
    (e.unit.toMarkup :: others.map MessageUnit.toMarkup)

def furtherMessaging (units : List MessageUnit) : Markup :=
  .node "eb:Messaging" [] (units.map MessageUnit.toMarkup)

def furtherBody (soap : SoapVersion) (text : String) : Markup :=
  .leaf (soap.shortName ++ ":Body") [] text

def headerWith (more : Surplus) (e : Envelope) : Markup :=
  .node (e.soap.shortName ++ ":Header") []
    (e.messagingWith more.units :: (more.headers.map furtherMessaging ++
      (e.security.map (SecurityHeader.toMarkup e.soap)).toList))

def withSurplus (more : Surplus) (e : Envelope) : Markup :=
  .node (e.soap.shortName ++ ":Envelope")
    [("xmlns:" ++ e.soap.shortName, e.soap.xmlNamespace), ("xmlns:eb", Namespace.ebms),
      ("xmlns:wsse", Namespace.security), ("xmlns:wsu", Namespace.utility),
      ("xmlns:ds", Namespace.signature)]
    (e.headerWith more :: .leaf (e.soap.shortName ++ ":Body") [("wsu:Id", e.bodyId)] more.text ::
      more.bodies.map (furtherBody e.soap))

variable {e : Envelope} {more : Surplus} {m : UserMessage}

theorem isWellFormed_furtherMessaging (units : List MessageUnit) :
    (furtherMessaging units).isWellFormed = true := by
  have plain : isTag "eb:Messaging" [] = true := by decide
  simp only [furtherMessaging, isWellFormed, plain,
    areWellFormed_map MessageUnit.isWellFormed_toMarkup, Bool.and_self]

theorem isWellFormed_furtherBody (soap : SoapVersion) (text : String) :
    (furtherBody soap text).isWellFormed = true := by
  have plain : isTag (soap.shortName ++ ":Body") [] = true := by cases soap <;> decide
  simp only [furtherBody, isWellFormed, plain]

theorem isWellFormed_withSurplus (e : Envelope) (more : Surplus) :
    (e.withSurplus more).isWellFormed = true := by
  have whole := e.isWellFormed_toMarkup
  simp only [toMarkup, messagingMarkup, bodyMarkup, isWellFormed, areWellFormed,
    Bool.and_eq_true] at whole
  simp only [withSurplus, headerWith, messagingWith, isWellFormed, areWellFormed,
    areWellFormed_append, Bool.and_eq_true, whole,
    areWellFormed_map MessageUnit.isWellFormed_toMarkup,
    areWellFormed_map isWellFormed_furtherMessaging,
    areWellFormed_map (isWellFormed_furtherBody e.soap), and_self]

theorem isAmong_unit (unit : MessageUnit) :
    Element.isAmong Element.unitNames unit.toMarkup.toElement = true := by
  have user : Element.localPart "eb:UserMessage" = "UserMessage" := by decide
  have signal : Element.localPart "eb:SignalMessage" = "SignalMessage" := by decide
  rw [Element.isAmong_iff, Element.localName]
  cases unit with
  | user message =>
      have name : (MessageUnit.user message).toMarkup.toElement.name = "eb:UserMessage" := rfl
      rw [name, user]
      decide
  | _ =>
      rw [name_signal (by intro message same; cases same), signal]
      decide

theorem prunedMessaging_messagingWith (user : e.unit = .user m) (others : List MessageUnit) :
    (e.messagingWith others).toElement.prunedMessaging = e.messagingMarkup.toElement := by
  have named : e.unit.toMarkup.toElement.localName = "UserMessage" := by
    have name : e.unit.toMarkup.toElement.name = "eb:UserMessage" := by
      rw [user]
      rfl
    rw [Element.localName, name]
    decide
  have none : (toElements (others.map MessageUnit.toMarkup)).filter
      (!Element.isAmong Element.unitNames ·) = [] := by
    rw [toElements_eq_map, List.map_map, List.filter_eq_nil_iff]
    intro element member
    obtain ⟨unit, -, rfl⟩ := List.mem_map.mp member
    simp [isAmong_unit]
  simp only [messagingWith, messagingMarkup, toElement, toElements, Element.prunedMessaging,
    Element.child?, List.find?_cons, named, beq_self_eq_true, Element.keepOne, Element.keepFirst,
    if_true, none]

theorem prunedHeader_headerWith (user : e.unit = .user m) (more : Surplus) :
    (e.headerWith more).toElement.prunedHeader = (e.headerWith .none).toElement := by
  have messaging : Element.localPart "eb:Messaging" = "Messaging" := localPart_headers.1
  have own : (e.messagingWith more.units).toElement.localName = "Messaging" := messaging
  have further : ∀ element ∈ toElements (more.headers.map furtherMessaging),
      element.localName = "Messaging" := by
    intro element member
    rw [toElements_eq_map, List.map_map] at member
    obtain ⟨units, -, rfl⟩ := List.mem_map.mp member
    exact messaging
  have security : ∀ element ∈
      toElements (e.security.map (SecurityHeader.toMarkup e.soap)).toList,
      element.localName ≠ "Messaging" := by
    intro element member
    cases stated : e.security with
    | none =>
        rw [stated] at member
        cases member
    | some header =>
        rw [stated] at member
        obtain rfl := List.mem_singleton.mp member
        have named : (SecurityHeader.toMarkup e.soap header).toElement.localName = "Security" :=
          localPart_headers.2
        rw [named]
        decide
  have kept : (e.messagingWith more.units).toElement.prunedMessaging =
      (e.messagingWith []).toElement := prunedMessaging_messagingWith user more.units
  have children : (e.headerWith more).toElement.children =
      (e.messagingWith more.units).toElement ::
        (toElements (more.headers.map furtherMessaging) ++
          toElements (e.security.map (SecurityHeader.toMarkup e.soap)).toList) := by
    simp only [headerWith, toElement, toElements, toElements_eq_map, List.map_append]
  rw [Element.prunedHeader, Element.soleChild_of_cons children own, List.filter_append,
    Element.filter_not_isAmong_of_named further, Element.filter_not_isAmong_of_unnamed security,
    kept]
  rfl

theorem pruned_withSurplus (user : e.unit = .user m)
    (counts : Text.isAllBlank more.text = true → more.text = "") :
    (e.withSurplus more).toElement.pruned = e.toMarkup.toElement := by
  obtain ⟨-, header, body, -⟩ := e.soap.localPart_shortName
  have bodies : ∀ element ∈ toElements (more.bodies.map (furtherBody e.soap)),
      element.localName = "Body" := by
    intro element member
    rw [toElements_eq_map, List.map_map] at member
    obtain ⟨text, -, rfl⟩ := List.mem_map.mp member
    exact body
  have emptied : Element.prunedBody
      { name := e.soap.shortName ++ ":Body", attributes := [("wsu:Id", e.bodyId)],
        children := [], text := more.text } = e.bodyMarkup.toElement := by
    unfold Element.prunedBody
    split
    case isTrue blank =>
      rw [counts blank]
      rfl
    case isFalse => rfl
  have children : (e.withSurplus more).toElement.children = (e.headerWith more).toElement ::
      { name := e.soap.shortName ++ ":Body", attributes := [("wsu:Id", e.bodyId)],
        children := [], text := more.text } ::
      toElements (more.bodies.map (furtherBody e.soap)) := rfl
  rw [Element.pruned_of_children children header body bodies, prunedHeader_headerWith user,
    emptied]
  rfl

theorem eq_none_of_holdsOneMessage (user : e.unit = .user m)
    (counts : Text.isAllBlank more.text = true → more.text = "")
    (one : (e.withSurplus more).toElement.HoldsOneMessage) : more = .none := by
  have same := Element.pruned_eq_self one
  rw [pruned_withSurplus user counts] at same
  simp only [toMarkup, withSurplus, headerWith, messagingMarkup, messagingWith, bodyMarkup,
    toElement, toElements_eq_map, List.map_cons, List.map_append, List.map_map,
    Element.mk.injEq, List.cons.injEq, true_and, and_true] at same
  obtain ⟨⟨units, headers⟩, text, bodies⟩ := same
  have noUnits : more.units = [] := by simpa using units.symm
  have noHeaders : more.headers = [] := by simpa using headers
  have noBodies : more.bodies = [] := by simpa using bodies.symm
  cases more
  simp only at noUnits noHeaders text noBodies
  rw [Surplus.none, noUnits, noHeaders, ← text, noBodies]

/-- A document with more in it is received as if it held the first user message alone. -/
theorem decode_withSurplus (user : e.unit = .user m) (fourDigits : e.HasFourDigitYears)
    (noAttachments : e.attachments = [])
    (counts : Text.isAllBlank more.text = true → more.text = "") :
    decode (some (e.soap.mediaType ++ "; charset=UTF-8")) (e.withSurplus more).document =
        .ok (some e.asWritten) ∧
      soapRoot? (some (e.soap.mediaType ++ "; charset=UTF-8"))
        (e.withSurplus more).document = some (e.withSurplus more).toElement := by
  have found := readDocument_document _ (e.isWellFormed_withSurplus more)
  have single : (some (e.soap.mediaType ++ "; charset=UTF-8")).filter Multipart.isMultipart =
      none := by
    rw [Option.filter_some, isMultipart_mediaType]
    rfl
  have nonblank : (e.withSurplus more).document.all isBlankByte = false := by
    have start : (e.withSurplus more).document.head? = some 0x3C := by
      have declaration : declaration = 0x3C :: declaration.tail := by decide
      rw [Markup.document, declaration]
      rfl
    exact not_all_isBlankByte start (by decide)
  have read : ofElement (e.withSurplus more).toElement = .ok e.asWritten := by
    have statesErrors : e.unit.StatesErrors := by
      rw [user]
      trivial
    have without : { e.asWritten with attachments := [] } = e.asWritten := by
      rw [← noAttachments]
      rfl
    rw [← Element.ofElement_pruned, pruned_withSurplus user counts,
      ofElement_toMarkup fourDigits statesErrors, without]
  constructor
  · rw [decode, if_neg (by simp [nonblank]), single]
    simp only [ofDocument, found, read, Except.map]
  · simp only [soapRoot?, soapDocument?, single, Option.bind_some, found, Except.toOption,
      Option.join_some]

def sampleNotice : Envelope := { sampleOrder with attachments := [] }

def sampleComplaint : MessageUnit :=
  .errorSignal
    { timestamp := { seconds := 1700000000, nanos := 250000000 }, messageId := "e-1",
      refToMessageId := none }
    [{ code := "EBMS:0004", severity := .failure, category := none, refToMessage := none,
       shortDescription := none, description := none }]

/-! ## One message or more -/

/-- A message that is received need not hold one message alone.  It does exactly when there is
nothing to leave out of it; whatever else it holds is dropped in silence. -/
theorem holdsOneMessage_iff_of_decode {contentType : Option String} {body : Bytes} {e : Envelope}
    (received : decode contentType body = .ok (some e)) :
    ∃ root, soapRoot? contentType body = some root ∧ root.pruned.HoldsOneMessage ∧
      ofElement root.pruned = .ok { e with attachments := [] } ∧
      (root.HoldsOneMessage ↔ root.pruned = root) := by
  obtain ⟨root, found, understood⟩ := soapRoot?_of_decode received
  have one := holdsOneMessage_pruned understood
  refine ⟨root, found, one, ?_, Element.pruned_eq_self, fun same => same ▸ one⟩
  rw [Element.ofElement_pruned, understood]

def sampleNoticeType : String := SoapVersion.v12.mediaType ++ "; charset=UTF-8"

theorem hasFourDigitYears_sampleNotice : sampleNotice.HasFourDigitYears := by
  refine ⟨⟨by decide, by decide⟩, ?_⟩
  intro header present
  cases present

def sampleSurplus : Surplus :=
  { units := [sampleComplaint], headers := [[sampleComplaint]], text := "lost",
    bodies := ["lost"] }

theorem holdsOneMessage_iff_of_decode_sampleNotice :
    decode (some sampleNoticeType) (sampleNotice.withSurplus sampleSurplus).document =
        .ok (some sampleNotice.asWritten) ∧
      ∃ root,
        soapRoot? (some sampleNoticeType) (sampleNotice.withSurplus sampleSurplus).document =
            some root ∧
          root.pruned.HoldsOneMessage ∧
          ofElement root.pruned = .ok { sampleNotice.asWritten with attachments := [] } ∧
          (root.HoldsOneMessage ↔ root.pruned = root) := by
  have counts : Text.isAllBlank sampleSurplus.text = true → sampleSurplus.text = "" := by decide
  have received := (decode_withSurplus (e := sampleNotice) rfl hasFourDigitYears_sampleNotice rfl
    counts).1
  exact ⟨received, holdsOneMessage_iff_of_decode received⟩

def DropsSurplus (more : Surplus) : Prop :=
  ∃ root,
    decode (some sampleNoticeType) (sampleNotice.withSurplus more).document =
        .ok (some sampleNotice.asWritten) ∧
      soapRoot? (some sampleNoticeType) (sampleNotice.withSurplus more).document = some root ∧
      ¬ root.HoldsOneMessage

theorem dropsSurplus {more : Surplus} (counts : Text.isAllBlank more.text = true → more.text = "")
    (further : more ≠ .none) : DropsSurplus more := by
  obtain ⟨received, found⟩ := decode_withSurplus (e := sampleNotice) rfl
    hasFourDigitYears_sampleNotice rfl counts
  exact ⟨_, received, found, fun one => further (eq_none_of_holdsOneMessage rfl counts one)⟩

/-- An error signal beside a user message, or in a second messaging header, and text in the
body, or in a second one, are dropped in silence. -/
theorem not_holdsOneMessage_sampleNotice :
    DropsSurplus { Surplus.none with units := [sampleComplaint] } ∧
      DropsSurplus { Surplus.none with headers := [[sampleComplaint]] } ∧
      DropsSurplus { Surplus.none with text := "lost" } ∧
      DropsSurplus { Surplus.none with bodies := ["lost"] } := by
  refine ⟨dropsSurplus (by decide) ?_, dropsSurplus (by decide) ?_, dropsSurplus (by decide) ?_,
    dropsSurplus (by decide) ?_⟩
  all_goals simp [Surplus.none]

end Envelope
end Ebms
