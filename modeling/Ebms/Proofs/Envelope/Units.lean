import Ebms.Envelope.Reading
import Ebms.Proofs.Outcome
import Ebms.Proofs.Markup.Documents
import Ebms.Proofs.Envelope.Written

/-! # Message units are read as they were written

Each element of a message unit gives back the value it was written for, with an
optional part present exactly when it was, and an empty text kept apart from a
missing one. -/

set_option autoImplicit false

namespace Ebms

open Markup Element

theorem localPart_unit :
    localPart "eb:UserMessage" = "UserMessage" ∧
      localPart "eb:SignalMessage" = "SignalMessage" ∧
      localPart "eb:MessageInfo" = "MessageInfo" ∧
      localPart "eb:Timestamp" = "Timestamp" ∧
      localPart "eb:MessageId" = "MessageId" ∧
      localPart "eb:RefToMessageId" = "RefToMessageId" ∧
      localPart "eb:PartyInfo" = "PartyInfo" ∧
      localPart "eb:From" = "From" ∧
      localPart "eb:To" = "To" ∧
      localPart "eb:PartyId" = "PartyId" ∧
      localPart "eb:Role" = "Role" ∧
      localPart "eb:CollaborationInfo" = "CollaborationInfo" ∧
      localPart "eb:AgreementRef" = "AgreementRef" ∧
      localPart "eb:Service" = "Service" ∧
      localPart "eb:Action" = "Action" ∧
      localPart "eb:ConversationId" = "ConversationId" ∧
      localPart "eb:MessageProperties" = "MessageProperties" ∧
      localPart "eb:PartProperties" = "PartProperties" ∧
      localPart "eb:Property" = "Property" ∧
      localPart "eb:PayloadInfo" = "PayloadInfo" ∧
      localPart "eb:PartInfo" = "PartInfo" ∧
      localPart "eb:PullRequest" = "PullRequest" ∧
      localPart "eb:Receipt" = "Receipt" ∧
      localPart "eb:Error" = "Error" ∧
      localPart "eb:Description" = "Description" := by decide

/-- The names of attributes carry no label, and none of them declares a namespace. -/
theorem localPart_attribute :
    localPart "type" = "type" ∧ localPart "name" = "name" ∧ localPart "href" = "href" ∧
      localPart "mpc" = "mpc" ∧ localPart "errorCode" = "errorCode" ∧
      localPart "severity" = "severity" ∧ localPart "category" = "category" ∧
      localPart "refToMessageInError" = "refToMessageInError" ∧
      localPart "shortDescription" = "shortDescription" := by decide

theorem isDeclaration_attribute :
    isDeclaration "type" = false ∧ isDeclaration "name" = false ∧
      isDeclaration "href" = false ∧ isDeclaration "mpc" = false ∧
      isDeclaration "errorCode" = false ∧ isDeclaration "severity" = false ∧
      isDeclaration "category" = false ∧ isDeclaration "refToMessageInError" = false ∧
      isDeclaration "shortDescription" = false := by decide

theorem readInstant_millisecondText {t : Instant} (fourDigits : t.HasFourDigitYear) :
    readInstant t.millisecondText = .ok t.asWritten := by
  simp only [readInstant, Instant.trim_millisecondText,
    Instant.ofText?_millisecondText fourDigits]

/-! ## Parts of a message unit -/

theorem requiredChild_of_child? {e found : Element} {name : String}
    (present : e.child? name = some found) : e.requiredChild name = .ok found := by
  rw [requiredChild, present]

theorem requiredText_of_childText? {e : Element} {name text : String}
    (present : e.childText? name = some text) : e.requiredText name = .ok text := by
  rw [childText?, Option.map_eq_some_iff] at present
  obtain ⟨found, exact, rfl⟩ := present
  rw [requiredText, requiredChild_of_child? exact]
  rfl

theorem MessageInfo.childText?_toMarkup (info : MessageInfo) :
    info.toMarkup.toElement.childText? "Timestamp" = some info.timestamp.millisecondText ∧
      info.toMarkup.toElement.childText? "MessageId" = some info.messageId ∧
      info.toMarkup.toElement.childText? "RefToMessageId" = info.refToMessageId := by
  cases present : info.refToMessageId <;>
    simp [MessageInfo.toMarkup, present, toElement, toElements, childText?, child?, localName,
      localPart_unit, optionalLeaf]

theorem MessageInfo.ofElement_toMarkup {info : MessageInfo}
    (fourDigits : info.timestamp.HasFourDigitYear) :
    MessageInfo.ofElement info.toMarkup.toElement = .ok (info.withTimes .asWritten) := by
  obtain ⟨timestamp, messageId, reference⟩ := info.childText?_toMarkup
  rw [MessageInfo.ofElement, requiredText_of_childText? timestamp, ok_bind,
    readInstant_millisecondText fourDigits, ok_bind, requiredText_of_childText? messageId,
    ok_bind, reference]
  rfl

theorem attribute?_optional {name : String} (plain : isDeclaration name = false)
    (unlabelled : localPart name = name) (tag : String) (value : Option String)
    (children : List Element) (text : String) :
    attribute? { name := tag, attributes := optionalAttribute name value, children, text } name =
      value := by
  cases value <;> simp [attribute?, optionalAttribute, plain, unlabelled]

theorem Party.ofElement_toMarkup (name : String) (party : Party) :
    Party.ofElement (party.toMarkup name).toElement = .ok party := by
  have id : (party.toMarkup name).toElement.requiredChild "PartyId" =
      .ok { name := "eb:PartyId", attributes := optionalAttribute "type" party.idType
            children := [], text := party.id } := by
    simp [Party.toMarkup, toElement, toElements, requiredChild, child?, localName,
      localPart_unit]
  have role : (party.toMarkup name).toElement.requiredText "Role" = .ok party.role := by
    simp [Party.toMarkup, toElement, toElements, requiredText, requiredChild, child?,
      localName, localPart_unit, Except.map]
  have kind := attribute?_optional isDeclaration_attribute.1 localPart_attribute.1
    "eb:PartyId" party.idType [] party.id
  rw [Party.ofElement, id, ok_bind, role, ok_bind, kind]

theorem Property.ofElement_toMarkup (property : Property) :
    Property.ofElement property.toMarkup.toElement = .ok property := by
  simp [Property.ofElement, Property.toMarkup, toElement, requiredAttribute, attribute?,
    localPart_attribute, isDeclaration_attribute]

theorem childrenNamed_map {α : Type} {toMarkup : α → Markup} {tag label : String}
    (named : ∀ item, (toMarkup item).toElement.name = tag) (unlabelled : localPart tag = label)
    (items : List α)
    (name text : String) (attributes : List (String × String)) :
    childrenNamed { name, attributes, children := toElements (items.map toMarkup), text } label =
      items.map fun item => (toMarkup item).toElement := by
  rw [childrenNamed, toElements_eq_map, List.map_map]
  apply List.filter_eq_self.mpr
  intro child member
  obtain ⟨item, -, rfl⟩ := List.mem_map.mp member
  simp [localName, named item, unlabelled]

theorem readProperties_propertiesMarkup (heading : String) (properties : List Property) :
    readProperties ((propertiesMarkup heading properties).head?.map toElement) =
      .ok properties := by
  rw [propertiesMarkup]
  cases properties with
  | nil => rfl
  | cons first others =>
      have named : ∀ property : Property, property.toMarkup.toElement.name = "eb:Property" := by
        intro property
        rfl
      have label : localPart "eb:Property" = "Property" := by simp [localPart_unit]
      simp only [List.isEmpty_cons, Bool.false_eq_true, if_false, List.head?_cons,
        Option.map_some, toElement, readProperties, childrenNamed_map named label]
      apply mapM_map_self
      intro property _
      exact Property.ofElement_toMarkup property

theorem PartInfo.ofElement_toMarkup (part : PartInfo) :
    PartInfo.ofElement part.toMarkup.toElement = .ok part := by
  have href : part.toMarkup.toElement.requiredAttribute "href" = .ok part.href := by
    simp [PartInfo.toMarkup, toElement, requiredAttribute, attribute?, localPart_attribute,
      isDeclaration_attribute]
  have properties : part.toMarkup.toElement.child? "PartProperties" =
      (propertiesMarkup "eb:PartProperties" part.properties).head?.map toElement := by
    rw [PartInfo.toMarkup, propertiesMarkup]
    split <;> simp [toElement, toElements, child?, localName, localPart_unit]
  rw [PartInfo.ofElement, href, ok_bind, properties, readProperties_propertiesMarkup, ok_bind]

/-! ## The user message -/

def partsMarkup (parts : List PartInfo) : List Markup :=
  if parts.isEmpty then [] else [.node "eb:PayloadInfo" [] (parts.map PartInfo.toMarkup)]

theorem readParts_partsMarkup (parts : List PartInfo) :
    readParts ((partsMarkup parts).head?.map toElement) = .ok parts := by
  rw [partsMarkup]
  cases parts with
  | nil => rfl
  | cons first others =>
      have named : ∀ part : PartInfo, part.toMarkup.toElement.name = "eb:PartInfo" := by
        intro part
        rfl
      have label : localPart "eb:PartInfo" = "PartInfo" := by simp [localPart_unit]
      simp only [List.isEmpty_cons, Bool.false_eq_true, if_false, List.head?_cons,
        Option.map_some, toElement, readParts, childrenNamed_map named label]
      apply mapM_map_self
      intro part _
      exact PartInfo.ofElement_toMarkup part

def collaborationMarkup (m : UserMessage) : Markup :=
  .node "eb:CollaborationInfo" []
    (optionalLeaf "eb:AgreementRef" m.agreement
      ++ [.leaf "eb:Service" (optionalAttribute "type" m.serviceType) m.service,
        .leaf "eb:Action" [] m.action,
        .leaf "eb:ConversationId" [] m.conversation])

def partiesMarkup (m : UserMessage) : Markup :=
  .node "eb:PartyInfo" [] [m.sender.toMarkup "eb:From", m.receiver.toMarkup "eb:To"]

theorem UserMessage.toMarkup_eq (m : UserMessage) :
    m.toMarkup = .node "eb:UserMessage" (optionalAttribute "mpc" m.channel)
      (m.info.toMarkup :: partiesMarkup m :: collaborationMarkup m
        :: (propertiesMarkup "eb:MessageProperties" m.properties ++ partsMarkup m.parts)) := rfl

@[simp] theorem MessageInfo.name_toElement (info : MessageInfo) :
    info.toMarkup.toElement.name = "eb:MessageInfo" := rfl

@[simp] theorem name_parties (m : UserMessage) :
    (partiesMarkup m).toElement.name = "eb:PartyInfo" := rfl

@[simp] theorem name_collaboration (m : UserMessage) :
    (collaborationMarkup m).toElement.name = "eb:CollaborationInfo" := rfl

theorem UserMessage.child?_toMarkup (m : UserMessage) :
    m.toMarkup.toElement.child? "MessageInfo" = some m.info.toMarkup.toElement ∧
      m.toMarkup.toElement.child? "PartyInfo" = some (partiesMarkup m).toElement ∧
      m.toMarkup.toElement.child? "CollaborationInfo" = some (collaborationMarkup m).toElement ∧
      m.toMarkup.toElement.child? "MessageProperties" =
        (propertiesMarkup "eb:MessageProperties" m.properties).head?.map toElement ∧
      m.toMarkup.toElement.child? "PayloadInfo" = (partsMarkup m.parts).head?.map toElement := by
  rw [UserMessage.toMarkup_eq, propertiesMarkup, partsMarkup]
  split <;> split <;>
    simp [toElement, toElements, child?, localName, localPart_unit]

theorem child?_parties (m : UserMessage) :
    (partiesMarkup m).toElement.child? "From" = some (m.sender.toMarkup "eb:From").toElement ∧
      (partiesMarkup m).toElement.child? "To" =
        some (m.receiver.toMarkup "eb:To").toElement := by
  simp [partiesMarkup, Party.toMarkup, toElement, toElements, child?, localName, localPart_unit]

theorem child?_collaboration (m : UserMessage) :
    (collaborationMarkup m).toElement.childText? "AgreementRef" = m.agreement ∧
      (collaborationMarkup m).toElement.child? "Service" =
        some { name := "eb:Service", attributes := optionalAttribute "type" m.serviceType
               children := [], text := m.service } ∧
      (collaborationMarkup m).toElement.childText? "Action" = some m.action ∧
      (collaborationMarkup m).toElement.childText? "ConversationId" = some m.conversation := by
  cases present : m.agreement <;>
    simp [collaborationMarkup, present, optionalLeaf, toElement, toElements, childText?, child?,
      localName, localPart_unit]

theorem UserMessage.attribute?_toMarkup (m : UserMessage) :
    m.toMarkup.toElement.attribute? "mpc" = m.channel := by
  rw [UserMessage.toMarkup_eq, toElement]
  exact attribute?_optional (by simp [isDeclaration_attribute]) (by simp [localPart_attribute])
    _ _ _ _

theorem UserMessage.attribute?_service (m : UserMessage) :
    attribute? { name := "eb:Service", attributes := optionalAttribute "type" m.serviceType
                 children := [], text := m.service } "type" = m.serviceType :=
  attribute?_optional isDeclaration_attribute.1 localPart_attribute.1 _ _ _ _

theorem UserMessage.ofElement_toMarkup {m : UserMessage}
    (fourDigits : m.info.timestamp.HasFourDigitYear) :
    UserMessage.ofElement m.toMarkup.toElement =
      .ok { m with info := m.info.withTimes .asWritten } := by
  obtain ⟨info, parties, collaboration, properties, parts⟩ := m.child?_toMarkup
  obtain ⟨sender, receiver⟩ := child?_parties m
  obtain ⟨agreement, service, action, conversation⟩ := child?_collaboration m
  rw [UserMessage.ofElement, requiredChild_of_child? parties, ok_bind,
    requiredChild_of_child? collaboration, ok_bind, requiredChild_of_child? service, ok_bind,
    parts, readParts_partsMarkup, ok_bind, requiredChild_of_child? info, ok_bind,
    MessageInfo.ofElement_toMarkup fourDigits, ok_bind, requiredChild_of_child? sender, ok_bind,
    Party.ofElement_toMarkup, ok_bind, requiredChild_of_child? receiver, ok_bind,
    Party.ofElement_toMarkup, ok_bind, requiredText_of_childText? action, ok_bind,
    requiredText_of_childText? conversation, ok_bind, properties,
    readProperties_propertiesMarkup, ok_bind, m.attribute?_toMarkup, agreement,
    m.attribute?_service]

/-! ## Signals -/

theorem Severity.ofText_label (severity : Severity) :
    Severity.ofText severity.label = .ok severity := by
  cases severity <;> rfl

theorem EbmsError.attribute?_toMarkup (error : EbmsError) :
    error.toMarkup.toElement.attribute? "errorCode" = some error.code ∧
      error.toMarkup.toElement.attribute? "severity" = some error.severity.label ∧
      error.toMarkup.toElement.attribute? "category" = error.category ∧
      error.toMarkup.toElement.attribute? "refToMessageInError" = error.refToMessage ∧
      error.toMarkup.toElement.attribute? "shortDescription" = error.shortDescription := by
  cases category : error.category <;> cases reference : error.refToMessage <;>
    cases short : error.shortDescription <;>
    simp [EbmsError.toMarkup, category, reference, short, toElement, attribute?,
      optionalAttribute, localPart_attribute, isDeclaration_attribute]

theorem EbmsError.ofElement_toMarkup (error : EbmsError) :
    EbmsError.ofElement error.toMarkup.toElement = .ok error := by
  obtain ⟨code, severity, category, reference, short⟩ := error.attribute?_toMarkup
  have description : error.toMarkup.toElement.childText? "Description" = error.description := by
    cases present : error.description <;>
      simp [EbmsError.toMarkup, present, toElement, toElements, childText?, child?, localName,
        localPart_unit]
  simp only [EbmsError.ofElement, requiredAttribute, code, severity, category, reference, short,
    description, ok_bind, Severity.ofText_label]

theorem child?_signal (unit : MessageUnit) (signal : ∀ message, unit ≠ .user message) :
    unit.toMarkup.toElement.child? "MessageInfo" = some unit.info.toMarkup.toElement := by
  cases unit with
  | user message => exact absurd rfl (signal message)
  | pullRequest info channel =>
      simp [MessageUnit.toMarkup, MessageUnit.info, toElement, toElements, child?, localName,
        localPart_unit]
  | receipt info =>
      simp [MessageUnit.toMarkup, MessageUnit.info, toElement, toElements, child?, localName,
        localPart_unit]
  | errorSignal info errors =>
      simp [MessageUnit.toMarkup, MessageUnit.info, toElement, toElements, child?, localName,
        localPart_unit]

theorem readErrors_toMarkup (info : MessageInfo) (errors : List EbmsError) :
    ((MessageUnit.errorSignal info errors).toMarkup.toElement.childrenNamed "Error").mapM
      EbmsError.ofElement = .ok errors := by
  have named : ∀ error : EbmsError, error.toMarkup.toElement.name = "eb:Error" := by
    intro error
    rfl
  have label : localPart "eb:Error" = "Error" := by simp [localPart_unit]
  have others := childrenNamed_map named label errors "eb:SignalMessage" "" []
  have children : (MessageUnit.errorSignal info errors).toMarkup.toElement.childrenNamed "Error" =
      errors.map fun error => error.toMarkup.toElement := by
    rw [← others]
    simp [MessageUnit.toMarkup, toElement, toElements, childrenNamed, localName, localPart_unit]
  rw [children]
  apply mapM_map_self
  intro error _
  exact error.ofElement_toMarkup

theorem child?_errorSignal {name : String} (noInfo : name ≠ "MessageInfo")
    (noError : name ≠ "Error") (info : MessageInfo) (errors : List EbmsError) :
    (MessageUnit.errorSignal info errors).toMarkup.toElement.child? name = none := by
  rw [child?, List.find?_eq_none]
  intro child member
  simp only [MessageUnit.toMarkup, toElement, toElements, toElements_eq_map, List.map_map,
    List.mem_cons, List.mem_map, Function.comp_apply] at member
  rcases member with same | ⟨error, -, same⟩
  · simp [same, localName, localPart_unit, noInfo.symm]
  · simp [← same, EbmsError.toMarkup, toElement, localName, localPart_unit, noError.symm]

theorem readSignal_toMarkup {unit : MessageUnit} (signal : ∀ message, unit ≠ .user message)
    (fourDigits : unit.info.timestamp.HasFourDigitYear) (errors : unit.StatesErrors) :
    readSignal unit.toMarkup.toElement = .ok (unit.withTimes .asWritten) := by
  rw [readSignal, requiredChild_of_child? (child?_signal unit signal), ok_bind,
    MessageInfo.ofElement_toMarkup fourDigits, ok_bind]
  cases unit with
  | user message => exact absurd rfl (signal message)
  | pullRequest info channel =>
      have pull : (MessageUnit.pullRequest info channel).toMarkup.toElement.child? "PullRequest" =
          some (Markup.empty "eb:PullRequest" [("mpc", channel)]).toElement := by
        simp [MessageUnit.toMarkup, toElement, toElements, child?, localName, localPart_unit]
      have stated : (Markup.empty "eb:PullRequest" [("mpc", channel)]).toElement.attribute? "mpc" =
          some channel := by
        simp [toElement, attribute?, localPart_attribute, isDeclaration_attribute]
      simp only [pull, stated, Option.getD_some]
      rfl
  | receipt info =>
      have noPull : (MessageUnit.receipt info).toMarkup.toElement.child? "PullRequest" = none := by
        simp [MessageUnit.toMarkup, toElement, toElements, child?, localName, localPart_unit]
      have receipt : (MessageUnit.receipt info).toMarkup.toElement.child? "Receipt" =
          some (Markup.empty "eb:Receipt" []).toElement := by
        simp [MessageUnit.toMarkup, toElement, toElements, child?, localName, localPart_unit]
      simp only [noPull, receipt]
      rfl
  | errorSignal info stated =>
      have noPull := child?_errorSignal (by decide : "PullRequest" ≠ "MessageInfo")
        (by decide) info stated
      have noReceipt := child?_errorSignal (by decide : "Receipt" ≠ "MessageInfo")
        (by decide) info stated
      have nonempty : stated.isEmpty = false := List.isEmpty_eq_false_iff.mpr errors
      simp only [noPull, noReceipt, readErrors_toMarkup, ok_bind, nonempty, Bool.false_eq_true,
        if_false]
      rfl

/-! ## The header of a message -/

theorem name_signal {unit : MessageUnit} (signal : ∀ message, unit ≠ .user message) :
    unit.toMarkup.toElement.name = "eb:SignalMessage" := by
  cases unit with
  | user message => exact absurd rfl (signal message)
  | pullRequest info channel => rfl
  | receipt info => rfl
  | errorSignal info errors => rfl

section Header

variable (name text : String) (attributes : List (String × String))

theorem MessageUnit.ofElement_user (message : UserMessage) :
    MessageUnit.ofElement
        { name, attributes, children := [(MessageUnit.user message).toMarkup.toElement], text } =
      (UserMessage.ofElement message.toMarkup.toElement).map .user := by
  have same : (MessageUnit.user message).toMarkup = message.toMarkup := rfl
  have tag : message.toMarkup.toElement.name = "eb:UserMessage" := rfl
  simp [MessageUnit.ofElement, child?, localName, same, tag, localPart_unit]

theorem MessageUnit.ofElement_signal {unit : MessageUnit}
    (signal : ∀ message, unit ≠ .user message) :
    MessageUnit.ofElement
        { name, attributes, children := [unit.toMarkup.toElement], text } =
      readSignal unit.toMarkup.toElement := by
  have tag := name_signal signal
  simp [MessageUnit.ofElement, child?, localName, tag, localPart_unit]

/-- The message unit inside its header, its instant as written. -/
theorem MessageUnit.ofElement_header {unit : MessageUnit}
    (fourDigits : unit.info.timestamp.HasFourDigitYear) (errors : unit.StatesErrors) :
    MessageUnit.ofElement
        { name, attributes, children := [unit.toMarkup.toElement], text } =
      .ok (unit.withTimes .asWritten) := by
  by_cases user : ∃ message, unit = .user message
  · obtain ⟨message, rfl⟩ := user
    rw [MessageUnit.ofElement_user, UserMessage.ofElement_toMarkup fourDigits]
    rfl
  · have signal : ∀ message, unit ≠ .user message := by
      intro message same
      exact user ⟨message, same⟩
    rw [MessageUnit.ofElement_signal _ _ _ signal, readSignal_toMarkup signal fourDigits errors]

end Header

end Ebms
