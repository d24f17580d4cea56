import Ebms.Proofs.Envelope.Units

/-! # Every written tag is in order

The names that messages use are plain, and no tag has two attributes of one
name, whatever values stand in the envelope.  So every part of an envelope can
be read back as it was written. -/

set_option autoImplicit false

namespace Ebms

open Markup

theorem areWellFormed_append (first second : List Markup) :
    areWellFormed (first ++ second) = (areWellFormed first && areWellFormed second) := by
  simp [areWellFormed_eq_all]

theorem areWellFormed_map {α : Type} {toMarkup : α → Markup}
    (each : ∀ item, (toMarkup item).isWellFormed = true) (items : List α) :
    areWellFormed (items.map toMarkup) = true := by
  simp [areWellFormed_eq_all, each]

theorem isTag_plain {name : String} (valid : isName name = true) : isTag name [] = true := by
  simp [isTag, valid]

theorem isTag_optional {name label : String} (valid : isName name = true)
    (validLabel : isName label = true) (value : Option String) :
    isTag name (optionalAttribute label value) = true := by
  cases value <;> simp [isTag, optionalAttribute, valid, validLabel]

theorem areWellFormed_optionalLeaf {name : String} (valid : isName name = true)
    (text : Option String) : areWellFormed (optionalLeaf name text) = true := by
  cases text <;> simp [optionalLeaf, areWellFormed, isWellFormed, isTag_plain valid]

/-! ## Message units -/

theorem MessageInfo.isWellFormed_toMarkup (info : MessageInfo) :
    info.toMarkup.isWellFormed = true := by
  have reference := areWellFormed_optionalLeaf (by decide : isName "eb:RefToMessageId" = true)
    info.refToMessageId
  simp +decide [MessageInfo.toMarkup, isWellFormed, areWellFormed, reference, isTag]

theorem Party.isWellFormed_toMarkup {name : String} (valid : isName name = true)
    (party : Party) : (party.toMarkup name).isWellFormed = true := by
  have id := isTag_optional (by decide : isName "eb:PartyId" = true)
    (by decide : isName "type" = true) party.idType
  have role := isTag_plain (by decide : isName "eb:Role" = true)
  simp [Party.toMarkup, isWellFormed, areWellFormed, isTag_plain valid, id, role]

theorem Property.isWellFormed_toMarkup (property : Property) :
    property.toMarkup.isWellFormed = true := by
  simp +decide [Property.toMarkup, isWellFormed, isTag]

theorem areWellFormed_propertiesMarkup {name : String} (valid : isName name = true)
    (properties : List Property) : areWellFormed (propertiesMarkup name properties) = true := by
  rw [propertiesMarkup]
  split
  case isTrue => rfl
  case isFalse =>
    simp [areWellFormed, isWellFormed, isTag_plain valid,
      areWellFormed_map Property.isWellFormed_toMarkup]

theorem PartInfo.isWellFormed_toMarkup (part : PartInfo) :
    part.toMarkup.isWellFormed = true := by
  have properties := areWellFormed_propertiesMarkup
    (by decide : isName "eb:PartProperties" = true) part.properties
  simp +decide [PartInfo.toMarkup, isWellFormed, properties, isTag]

theorem areWellFormed_partsMarkup (parts : List PartInfo) :
    areWellFormed (partsMarkup parts) = true := by
  have tag := isTag_plain (by decide : isName "eb:PayloadInfo" = true)
  rw [partsMarkup]
  split
  case isTrue => rfl
  case isFalse =>
    simp [areWellFormed, isWellFormed, tag, areWellFormed_map PartInfo.isWellFormed_toMarkup]

theorem isWellFormed_partiesMarkup (m : UserMessage) :
    (partiesMarkup m).isWellFormed = true := by
  have sender := m.sender.isWellFormed_toMarkup (by decide : isName "eb:From" = true)
  have receiver := m.receiver.isWellFormed_toMarkup (by decide : isName "eb:To" = true)
  simp +decide [partiesMarkup, isWellFormed, areWellFormed, sender, receiver, isTag]

theorem isWellFormed_collaborationMarkup (m : UserMessage) :
    (collaborationMarkup m).isWellFormed = true := by
  have agreement := areWellFormed_optionalLeaf (by decide : isName "eb:AgreementRef" = true)
    m.agreement
  have service := isTag_optional (by decide : isName "eb:Service" = true)
    (by decide : isName "type" = true) m.serviceType
  simp +decide [collaborationMarkup, isWellFormed, areWellFormed, areWellFormed_append,
    agreement, service, isTag_plain]

theorem UserMessage.isWellFormed_toMarkup (m : UserMessage) :
    m.toMarkup.isWellFormed = true := by
  have tag := isTag_optional (by decide : isName "eb:UserMessage" = true)
    (by decide : isName "mpc" = true) m.channel
  have properties := areWellFormed_propertiesMarkup
    (by decide : isName "eb:MessageProperties" = true) m.properties
  simp [UserMessage.toMarkup_eq, isWellFormed, areWellFormed, areWellFormed_append, tag,
    MessageInfo.isWellFormed_toMarkup, isWellFormed_partiesMarkup,
    isWellFormed_collaborationMarkup, properties, areWellFormed_partsMarkup]

theorem EbmsError.isWellFormed_toMarkup (error : EbmsError) :
    error.toMarkup.isWellFormed = true := by
  rw [EbmsError.toMarkup, isWellFormed, Bool.and_eq_true]
  constructor
  · cases error.category <;> cases error.refToMessage <;> cases error.shortDescription <;>
      simp +decide [optionalAttribute, isTag]
  · cases error.description <;> simp +decide [areWellFormed, isWellFormed, isTag]

theorem MessageUnit.isWellFormed_toMarkup (unit : MessageUnit) :
    unit.toMarkup.isWellFormed = true := by
  cases unit with
  | user message => exact message.isWellFormed_toMarkup
  | pullRequest info channel =>
      simp +decide [MessageUnit.toMarkup, isWellFormed, areWellFormed,
        MessageInfo.isWellFormed_toMarkup, isTag]
  | receipt info =>
      simp +decide [MessageUnit.toMarkup, isWellFormed, areWellFormed,
        MessageInfo.isWellFormed_toMarkup, isTag]
  | errorSignal info errors =>
      simp +decide [MessageUnit.toMarkup, isWellFormed, areWellFormed,
        MessageInfo.isWellFormed_toMarkup, areWellFormed_map EbmsError.isWellFormed_toMarkup,
        isTag]

/-! ## The security header -/

theorem SecurityTimestamp.isWellFormed_toMarkup (t : SecurityTimestamp) :
    t.toMarkup.isWellFormed = true := by
  have expires := areWellFormed_optionalLeaf (by decide : isName "wsu:Expires" = true)
    (t.expires.map Instant.millisecondText)
  simp +decide [SecurityTimestamp.toMarkup, isWellFormed, areWellFormed, expires, isTag]

theorem SecurityToken.isWellFormed_toMarkup (token : SecurityToken) :
    token.toMarkup.isWellFormed = true := by
  simp +decide [SecurityToken.toMarkup, isWellFormed, isTag]

theorem PartDigest.isWellFormed_toMarkup (digest : PartDigest) :
    digest.toMarkup.isWellFormed = true := by
  simp +decide [PartDigest.toMarkup, isWellFormed, areWellFormed, isTag]

theorem SignedInfo.isWellFormed_toMarkup (info : SignedInfo) :
    info.toMarkup.isWellFormed = true := by
  simp +decide [SignedInfo.toMarkup, isWellFormed, areWellFormed,
    areWellFormed_map PartDigest.isWellFormed_toMarkup, isTag]

theorem KeyReference.isWellFormed_toMarkup (key : KeyReference) :
    key.toMarkup.isWellFormed = true := by
  cases key <;> simp +decide [KeyReference.toMarkup, isWellFormed, areWellFormed, isTag]

theorem Signature.isWellFormed_toMarkup (signature : Signature) :
    signature.toMarkup.isWellFormed = true := by
  simp +decide [Signature.toMarkup, isWellFormed, areWellFormed,
    SignedInfo.isWellFormed_toMarkup, KeyReference.isWellFormed_toMarkup, isTag]

theorem SecurityHeader.isWellFormed_toMarkup (soap : SoapVersion) (header : SecurityHeader) :
    (header.toMarkup soap).isWellFormed = true := by
  have tag : isTag "wsse:Security" [soap.demand] = true := by cases soap <;> decide
  rw [SecurityHeader.toMarkup, isWellFormed, tag, areWellFormed_append, areWellFormed_append]
  cases header.timestamp <;> cases header.token <;> cases header.signature <;>
    simp [areWellFormed, SecurityTimestamp.isWellFormed_toMarkup,
      SecurityToken.isWellFormed_toMarkup, Signature.isWellFormed_toMarkup]

/-! ## The envelope -/

theorem Envelope.isWellFormed_messagingMarkup (e : Envelope) :
    e.messagingMarkup.isWellFormed = true := by
  have tag : isTag "eb:Messaging" [e.soap.demand, ("wsu:Id", e.messagingId)] = true := by
    cases e.soap <;> simp +decide [isTag, SoapVersion.demand]
  simp [Envelope.messagingMarkup, isWellFormed, areWellFormed, tag,
    MessageUnit.isWellFormed_toMarkup]

theorem Envelope.isWellFormed_bodyMarkup (e : Envelope) : e.bodyMarkup.isWellFormed = true := by
  cases soap : e.soap <;> simp +decide [Envelope.bodyMarkup, soap, isWellFormed, isTag]

theorem Envelope.isWellFormed_toMarkup (e : Envelope) : e.toMarkup.isWellFormed = true := by
  have tag : isTag (e.soap.shortName ++ ":Envelope")
      [("xmlns:" ++ e.soap.shortName, e.soap.xmlNamespace), ("xmlns:eb", Namespace.ebms),
        ("xmlns:wsse", Namespace.security), ("xmlns:wsu", Namespace.utility),
        ("xmlns:ds", Namespace.signature)] = true := by
    cases e.soap <;> decide
  have header : isTag (e.soap.shortName ++ ":Header") [] = true := by cases e.soap <;> decide
  have security : areWellFormed (e.security.map (SecurityHeader.toMarkup e.soap)).toList =
      true := by
    cases e.security <;> simp [areWellFormed, SecurityHeader.isWellFormed_toMarkup]
  simp only [Envelope.toMarkup, isWellFormed, areWellFormed, tag, header, security,
    Envelope.isWellFormed_messagingMarkup, Envelope.isWellFormed_bodyMarkup, Bool.and_self]

end Ebms
