import Ebms.Proofs.Envelope.Documents

/-! # Digested parts tell what they were written for

The bytes of a messaging header fix the SOAP version, the id and the message
unit, its instant as written; those of a body fix version and id; those of a timestamp
and a signed info fix all that these hold; and no part has the bytes of another
kind of part.  None of this asks for years of four digits or for errors in an error
signal: it is the bytes that are compared, not what a reader makes of them. -/

set_option autoImplicit false

namespace Ebms

open Markup Element

/-! ## Message units -/

theorem MessageInfo.eq_of_toElement_eq {first second : MessageInfo}
    (same : first.toMarkup.toElement = second.toMarkup.toElement) :
    first.withTimes .asWritten = second.withTimes .asWritten := by
  obtain ⟨firstTime, firstId, firstReference⟩ := first.childText?_toMarkup
  obtain ⟨secondTime, secondId, secondReference⟩ := second.childText?_toMarkup
  rw [same, secondTime] at firstTime
  rw [same, secondId] at firstId
  rw [same, secondReference] at firstReference
  have time : second.timestamp.asWritten = first.timestamp.asWritten :=
    Instant.millisecondText_injective (Option.some.inj firstTime)
  rw [MessageInfo.withTimes, MessageInfo.withTimes, time, Option.some.inj firstId,
    firstReference]

theorem Party.eq_of_toElement_eq {name : String} {first second : Party}
    (same : (first.toMarkup name).toElement = (second.toMarkup name).toElement) :
    first = second := by
  have read := Party.ofElement_toMarkup name first
  rw [same, Party.ofElement_toMarkup] at read
  exact (Except.ok.inj read).symm

theorem UserMessage.eq_of_toElement_eq {first second : UserMessage}
    (same : first.toMarkup.toElement = second.toMarkup.toElement) :
    ({ first with info := first.info.withTimes .asWritten } : UserMessage) =
      { second with info := second.info.withTimes .asWritten } := by
  obtain ⟨firstInfo, firstParties, firstCollaboration, firstProperties, firstParts⟩ :=
    first.child?_toMarkup
  obtain ⟨info, parties, collaboration, properties, parts⟩ := second.child?_toMarkup
  have channel := first.attribute?_toMarkup
  rw [same, info] at firstInfo
  rw [same, parties] at firstParties
  rw [same, collaboration] at firstCollaboration
  rw [same, properties] at firstProperties
  rw [same, parts] at firstParts
  rw [same, second.attribute?_toMarkup] at channel
  have infoSame := MessageInfo.eq_of_toElement_eq (Option.some.inj firstInfo)
  -- The parties stand under the names of their sides.
  obtain ⟨firstSender, firstReceiver⟩ := child?_parties first
  obtain ⟨sender, receiver⟩ := child?_parties second
  rw [← Option.some.inj firstParties, sender] at firstSender
  rw [← Option.some.inj firstParties, receiver] at firstReceiver
  have senderSame := Party.eq_of_toElement_eq (Option.some.inj firstSender)
  have receiverSame := Party.eq_of_toElement_eq (Option.some.inj firstReceiver)
  obtain ⟨firstAgreement, firstService, firstAction, firstConversation⟩ :=
    child?_collaboration first
  obtain ⟨agreement, service, action, conversation⟩ := child?_collaboration second
  rw [← Option.some.inj firstCollaboration, agreement] at firstAgreement
  rw [← Option.some.inj firstCollaboration, service] at firstService
  rw [← Option.some.inj firstCollaboration, action] at firstAction
  rw [← Option.some.inj firstCollaboration, conversation] at firstConversation
  have serviceKind := first.attribute?_service
  rw [← Option.some.inj firstService, second.attribute?_service] at serviceKind
  have serviceSame : second.service = first.service :=
    congrArg Element.text (Option.some.inj firstService)
  -- Properties and parts are what their readers find.
  have propertiesRead := readProperties_propertiesMarkup "eb:MessageProperties" first.properties
  rw [← firstProperties, readProperties_propertiesMarkup] at propertiesRead
  have partsRead := readParts_partsMarkup first.parts
  rw [← firstParts, readParts_partsMarkup] at partsRead
  rw [infoSame, ← channel, ← senderSame, ← receiverSame, ← firstAgreement, ← serviceSame,
    ← serviceKind, ← Option.some.inj firstAction, ← Option.some.inj firstConversation,
    Except.ok.inj propertiesRead, Except.ok.inj partsRead]

def unitKind (e : Element) : String :=
  if e.name = "eb:UserMessage" then "UserMessage"
  else if (e.child? "PullRequest").isSome then "PullRequest"
  else if (e.child? "Receipt").isSome then "Receipt"
  else "Error"

theorem unitKind_toMarkup (unit : MessageUnit) :
    unitKind unit.toMarkup.toElement = unit.kind := by
  cases unit with
  | user message => rfl
  | pullRequest info channel =>
      simp [unitKind, MessageUnit.kind, MessageUnit.toMarkup, toElement, toElements, child?,
        localName, localPart_unit]
  | receipt info =>
      simp [unitKind, MessageUnit.kind, MessageUnit.toMarkup, toElement, toElements, child?,
        localName, localPart_unit]
  | errorSignal info errors =>
      have noPull := child?_errorSignal (by decide : "PullRequest" ≠ "MessageInfo")
        (by decide) info errors
      have noReceipt := child?_errorSignal (by decide : "Receipt" ≠ "MessageInfo")
        (by decide) info errors
      have name : (MessageUnit.errorSignal info errors).toMarkup.toElement.name =
          "eb:SignalMessage" := rfl
      simp [unitKind, MessageUnit.kind, noPull, noReceipt, name]

theorem info_eq_of_signal {first second : MessageUnit}
    (same : first.toMarkup.toElement = second.toMarkup.toElement)
    (firstSignal : ∀ message, first ≠ .user message)
    (secondSignal : ∀ message, second ≠ .user message) :
    first.info.withTimes .asWritten = second.info.withTimes .asWritten := by
  have firstInfo := child?_signal first firstSignal
  rw [same, child?_signal second secondSignal] at firstInfo
  exact (MessageInfo.eq_of_toElement_eq (Option.some.inj firstInfo)).symm

theorem MessageUnit.eq_of_toElement_eq {first second : MessageUnit}
    (same : first.toMarkup.toElement = second.toMarkup.toElement) :
    first.withTimes .asWritten = second.withTimes .asWritten := by
  have kinds : first.kind = second.kind := by
    rw [← unitKind_toMarkup, same, unitKind_toMarkup]
  cases first with
  | user message =>
      cases second with
      | user other =>
          rw [MessageUnit.withTimes, MessageUnit.withTimes,
            UserMessage.eq_of_toElement_eq same]
      | _ => simp [MessageUnit.kind] at kinds
  | pullRequest info channel =>
      cases second with
      | pullRequest otherInfo otherChannel =>
          have infos := info_eq_of_signal same (by simp) (by simp)
          have channels : channel = otherChannel := by
            simp only [MessageUnit.toMarkup, toElement, toElements, Element.mk.injEq,
              List.cons.injEq, Prod.mk.injEq, true_and, and_true] at same
            exact same.2
          rw [MessageUnit.withTimes, MessageUnit.withTimes, channels]
          exact congrArg (MessageUnit.pullRequest · otherChannel) infos
      | _ => simp [MessageUnit.kind] at kinds
  | receipt info =>
      cases second with
      | receipt otherInfo =>
          exact congrArg MessageUnit.receipt (info_eq_of_signal same (by simp) (by simp))
      | _ => simp [MessageUnit.kind] at kinds
  | errorSignal info errors =>
      cases second with
      | errorSignal otherInfo otherErrors =>
          have infos := info_eq_of_signal same (by simp) (by simp)
          have read := readErrors_toMarkup info errors
          rw [same, readErrors_toMarkup] at read
          rw [MessageUnit.withTimes, MessageUnit.withTimes, Except.ok.inj read]
          exact congrArg (MessageUnit.errorSignal · errors) infos
      | _ => simp [MessageUnit.kind] at kinds

/-! ## Timestamps and signed infos -/

theorem SecurityTimestamp.eq_of_toElement_eq {first second : SecurityTimestamp}
    (same : first.toMarkup.toElement = second.toMarkup.toElement) :
    first.withTimes .asWritten = second.withTimes .asWritten := by
  obtain ⟨firstCreated, firstExpires⟩ := first.childText?_toMarkup
  obtain ⟨created, expires⟩ := second.childText?_toMarkup
  have firstId := first.attribute?_toMarkup
  rw [same, second.attribute?_toMarkup] at firstId
  rw [same, created] at firstCreated
  rw [same, expires] at firstExpires
  have createdSame : second.created.asWritten = first.created.asWritten :=
    Instant.millisecondText_injective (Option.some.inj firstCreated)
  have expiresSame : second.expires.map Instant.asWritten =
      first.expires.map Instant.asWritten := by
    cases expiry : second.expires with
    | none =>
        cases other : first.expires with
        | none => rfl
        | some _ => simp [expiry, other] at firstExpires
    | some _ =>
        cases other : first.expires with
        | none => simp [expiry, other] at firstExpires
        | some _ =>
            rw [expiry, other, Option.map_some, Option.map_some, Option.some.injEq] at firstExpires
            exact congrArg some (Instant.millisecondText_injective firstExpires)
  rw [SecurityTimestamp.withTimes, SecurityTimestamp.withTimes, createdSame, expiresSame,
    Option.some.inj firstId]

theorem SignedInfo.eq_of_toElement_eq {first second : SignedInfo}
    (same : first.toMarkup.toElement = second.toMarkup.toElement) : first = second := by
  have read := first.ofElement_toMarkup
  rw [same, second.ofElement_toMarkup] at read
  exact (Except.ok.inj read).symm

/-! ## The parts that are digested -/

/-- A part of a message with a written form of its own, to be digested or signed. -/
inductive Fragment where
  | messaging (envelope : Envelope)
  | body (envelope : Envelope)
  | timestamp (timestamp : SecurityTimestamp)
  | signedInfo (info : SignedInfo)

namespace Fragment

def bytes : Fragment → Bytes
  | .messaging e => e.messagingBytes
  | .body e => e.bodyBytes
  | .timestamp t => t.bytes
  | .signedInfo info => info.bytes

def toMarkup : Fragment → Markup
  | .messaging e => e.messagingMarkup
  | .body e => e.bodyMarkup
  | .timestamp t => t.toMarkup
  | .signedInfo info => info.toMarkup

def label : Fragment → String
  | .messaging _ => "Messaging"
  | .body _ => "Body"
  | .timestamp _ => "Timestamp"
  | .signedInfo _ => "SignedInfo"

theorem bytes_eq_render (f : Fragment) : f.bytes = f.toMarkup.render := by
  cases f <;> rfl

theorem isWellFormed_toMarkup (f : Fragment) : f.toMarkup.isWellFormed = true := by
  cases f with
  | messaging e => exact e.isWellFormed_messagingMarkup
  | body e => exact e.isWellFormed_bodyMarkup
  | timestamp t => exact t.isWellFormed_toMarkup
  | signedInfo info => exact info.isWellFormed_toMarkup

theorem localName_toMarkup (f : Fragment) : f.toMarkup.toElement.localName = f.label := by
  cases f with
  | messaging e => exact localPart_headers.1
  | body e => exact e.soap.localPart_shortName.2.2.1
  | timestamp t => exact localPart_header.1
  | signedInfo info =>
      show localPart "ds:SignedInfo" = "SignedInfo"
      simp [localPart_header]

theorem toElement_eq_of_bytes_eq (first second : Fragment) (same : first.bytes = second.bytes) :
    first.toMarkup.toElement = second.toMarkup.toElement := by
  rw [bytes_eq_render, bytes_eq_render] at same
  exact toElement_eq_of_render_eq first.isWellFormed_toMarkup second.isWellFormed_toMarkup same

theorem label_eq_of_bytes_eq (first second : Fragment) (same : first.bytes = second.bytes) :
    first.label = second.label := by
  rw [← localName_toMarkup, ← localName_toMarkup, toElement_eq_of_bytes_eq first second same]

end Fragment

/-- The bytes of a messaging header fix version, id and unit. -/
theorem Envelope.eq_of_messagingBytes_eq {first second : Envelope}
    (same : first.messagingBytes = second.messagingBytes) :
    first.soap = second.soap ∧ first.messagingId = second.messagingId ∧
      first.unit.withTimes .asWritten = second.unit.withTimes .asWritten := by
  have element := Fragment.toElement_eq_of_bytes_eq (.messaging first) (.messaging second) same
  have id := first.attribute?_messagingMarkup
  simp only [Fragment.toMarkup] at element
  rw [element, second.attribute?_messagingMarkup] at id
  simp only [Envelope.messagingMarkup, toElement, toElements, Element.mk.injEq, List.cons.injEq,
    and_true, true_and] at element
  obtain ⟨⟨demand, -⟩, unit⟩ := element
  have soap : first.soap = second.soap := by
    revert demand
    cases first.soap <;> cases second.soap <;> decide
  exact ⟨soap, (Option.some.inj id).symm, MessageUnit.eq_of_toElement_eq unit⟩

theorem Envelope.eq_of_bodyBytes_eq {first second : Envelope}
    (same : first.bodyBytes = second.bodyBytes) :
    first.soap = second.soap ∧ first.bodyId = second.bodyId := by
  have element := Fragment.toElement_eq_of_bytes_eq (.body first) (.body second) same
  have id := first.attribute?_bodyMarkup
  simp only [Fragment.toMarkup] at element
  rw [element, second.attribute?_bodyMarkup] at id
  have name : first.soap.shortName ++ ":Body" = second.soap.shortName ++ ":Body" :=
    congrArg Element.name element
  have soap : first.soap = second.soap := by
    revert name
    cases first.soap <;> cases second.soap <;> decide
  exact ⟨soap, (Option.some.inj id).symm⟩

theorem Envelope.bodyBytes_ne_messagingBytes (first second : Envelope) :
    first.bodyBytes ≠ second.messagingBytes := by
  intro same
  have labels : "Body" = "Messaging" :=
    Fragment.label_eq_of_bytes_eq (.body first) (.messaging second) same
  exact absurd labels (by decide)

theorem Envelope.messagingBytes_ne_timestamp (e : Envelope) (t : SecurityTimestamp) :
    e.messagingBytes ≠ t.bytes := by
  intro same
  have labels : "Messaging" = "Timestamp" :=
    Fragment.label_eq_of_bytes_eq (.messaging e) (.timestamp t) same
  exact absurd labels (by decide)

theorem Envelope.bodyBytes_ne_timestamp (e : Envelope) (t : SecurityTimestamp) :
    e.bodyBytes ≠ t.bytes := by
  intro same
  have labels : "Body" = "Timestamp" :=
    Fragment.label_eq_of_bytes_eq (.body e) (.timestamp t) same
  exact absurd labels (by decide)

/-! ## What a fragment states -/

/-- What the bytes of a fragment say. -/
inductive FragmentContent where
  | messaging (soap : SoapVersion) (id : String) (unit : MessageUnit)
  | body (soap : SoapVersion) (id : String)
  | timestamp (timestamp : SecurityTimestamp)
  | signedInfo (info : SignedInfo)

namespace Fragment

def content (change : Instant → Instant) : Fragment → FragmentContent
  | .messaging e => .messaging e.soap e.messagingId (e.unit.withTimes change)
  | .body e => .body e.soap e.bodyId
  | .timestamp t => .timestamp (t.withTimes change)
  | .signedInfo info => .signedInfo info

def instants : Fragment → List Instant
  | .messaging e => [e.unit.info.timestamp]
  | .body _ => []
  | .timestamp t => t.instants
  | .signedInfo _ => []

def IsRegular (f : Fragment) : Prop := ∀ t ∈ f.instants, t.IsRegular

theorem content_eq_of_isRegular {f : Fragment} (regular : f.IsRegular) :
    f.content .asWritten = f.content .toMilliseconds := by
  have same : ∀ t ∈ f.instants, t.asWritten = t.toMilliseconds := fun t member =>
    (Instant.asWritten_eq_toMilliseconds_iff t).mpr (regular t member)
  cases f with
  | messaging e =>
      have unit := e.unit.withTimes_eq_iff.mpr (same _ (List.mem_singleton_self _))
      rw [content, content, unit]
  | body e => rfl
  | timestamp t => rw [content, content, t.withTimes_eq_iff.mpr same]
  | signedInfo info => rfl

theorem content_eq_of_bytes_eq {first second : Fragment} (same : first.bytes = second.bytes) :
    first.content .asWritten = second.content .asWritten := by
  have labels := label_eq_of_bytes_eq _ _ same
  have element := toElement_eq_of_bytes_eq _ _ same
  cases first with
  | messaging e =>
      cases second with
      | messaging other =>
          obtain ⟨soap, id, unit⟩ := Envelope.eq_of_messagingBytes_eq same
          rw [content, content, soap, id, unit]
      | _ => exact absurd labels (by simp [label])
  | body e =>
      cases second with
      | body other =>
          obtain ⟨soap, id⟩ := Envelope.eq_of_bodyBytes_eq same
          rw [content, content, soap, id]
      | _ => exact absurd labels (by simp [label])
  | timestamp t =>
      cases second with
      | timestamp other => rw [content, content, SecurityTimestamp.eq_of_toElement_eq element]
      | _ => exact absurd labels (by simp [label])
  | signedInfo info =>
      cases second with
      | signedInfo other => rw [content, content, SignedInfo.eq_of_toElement_eq element]
      | _ => exact absurd labels (by simp [label])

theorem bytes_eq_of_content_eq {first second : Fragment} (same : first.content .asWritten = second.content .asWritten) :
    first.bytes = second.bytes := by
  cases first with
  | messaging e =>
      cases second with
      | messaging other =>
          obtain ⟨soap, id, unit⟩ := FragmentContent.messaging.inj same
          have written : e.unit.toMarkup = other.unit.toMarkup := by
            rw [← e.unit.toMarkup_asWritten, unit, MessageUnit.toMarkup_asWritten]
          simp only [bytes, Envelope.messagingBytes, Envelope.messagingMarkup, soap, id, written]
      | _ => cases same
  | body e =>
      cases second with
      | body other =>
          obtain ⟨soap, id⟩ := FragmentContent.body.inj same
          simp only [bytes, Envelope.bodyBytes, Envelope.bodyMarkup, soap, id]
      | _ => cases same
  | timestamp t =>
      cases second with
      | timestamp other =>
          have cut := FragmentContent.timestamp.inj same
          simp only [bytes]
          rw [← t.bytes_asWritten, cut, SecurityTimestamp.bytes_asWritten]
      | _ => cases same
  | signedInfo info =>
      cases second with
      | signedInfo other => rw [FragmentContent.signedInfo.inj same]
      | _ => cases same

/-- Fragments have the same bytes exactly when they are of the same kind and say the same, as
their instants are written.  If these are regular, it is to the millisecond. -/
theorem bytes_eq_iff_content_eq (first second : Fragment) :
    (first.bytes = second.bytes ↔ first.content .asWritten = second.content .asWritten) ∧
      (first.IsRegular → second.IsRegular →
        (first.bytes = second.bytes ↔
          first.content .toMilliseconds = second.content .toMilliseconds)) := by
  have same : first.bytes = second.bytes ↔
      first.content .asWritten = second.content .asWritten :=
    ⟨content_eq_of_bytes_eq, bytes_eq_of_content_eq⟩
  refine ⟨same, fun firstRegular secondRegular => ?_⟩
  rw [same, content_eq_of_isRegular firstRegular, content_eq_of_isRegular secondRegular]

def sampleStamp (created : Instant) : Fragment :=
  .timestamp { id := "TS-1", created, expires := none }

/-- Stamps a microsecond apart. -/
theorem bytes_eq_iff_content_eq_sampleStamp :
    (sampleStamp { seconds := 1700006164, nanos := 333000000 }).IsRegular ∧
      (sampleStamp { seconds := 1700006164, nanos := 333001000 }).IsRegular ∧
      ((sampleStamp { seconds := 1700006164, nanos := 333000000 }).bytes =
          (sampleStamp { seconds := 1700006164, nanos := 333001000 }).bytes ↔
        (sampleStamp { seconds := 1700006164, nanos := 333000000 }).content .toMilliseconds =
          (sampleStamp { seconds := 1700006164, nanos := 333001000 }).content
            .toMilliseconds) := by
  have regular (nanos : Nat) (few : nanos < 1000000000) :
      (sampleStamp { seconds := 1700006164, nanos, nanos_bound := by omega }).IsRegular := by
    intro t member
    rw [List.mem_singleton.mp member]
    exact .inl few
  have one := regular 333000000 (by decide)
  have other := regular 333001000 (by decide)
  exact ⟨one, other, (bytes_eq_iff_content_eq _ _).2 one other⟩

/-- A billion nanoseconds too many are written as a second more. -/
theorem bytes_eq_sampleOverfull :
    (sampleStamp .sampleOverfull).bytes =
        (sampleStamp { seconds := 1700006165, nanos := 333000000 }).bytes ∧
      (sampleStamp .sampleOverfull).content .toMilliseconds ≠
        (sampleStamp { seconds := 1700006165, nanos := 333000000 }).content .toMilliseconds := by
  constructor
  · exact bytes_eq_of_content_eq rfl
  · intro same
    have seconds := congrArg SecurityTimestamp.created (FragmentContent.timestamp.inj same)
    exact absurd seconds (by decide)

end Fragment

end Ebms
