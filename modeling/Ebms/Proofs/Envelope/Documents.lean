import Ebms.Proofs.Envelope.Headers
import Ebms.Proofs.Envelope.Tags

/-! # Envelopes are read as they were written

Reading the SOAP document of an envelope gives the envelope back, its instants as
written and without the attachments, which travel beside the document. -/

set_option autoImplicit false

namespace Ebms

open Markup Element

theorem SoapVersion.localPart_shortName (soap : SoapVersion) :
    localPart (soap.shortName ++ ":Envelope") = "Envelope" ∧
      localPart (soap.shortName ++ ":Header") = "Header" ∧
      localPart (soap.shortName ++ ":Body") = "Body" ∧
      localPart soap.demand.1 = "mustUnderstand" := by
  cases soap <;> decide

theorem SoapVersion.ofNamespace?_xmlNamespace (soap : SoapVersion) :
    SoapVersion.ofNamespace? soap.xmlNamespace = some soap := by
  cases soap <;> decide

theorem localPart_headers :
    localPart "eb:Messaging" = "Messaging" ∧ localPart "wsse:Security" = "Security" := by
  decide

namespace Envelope

variable (e : Envelope)

theorem declaredNamespace_toMarkup :
    (e.toMarkup.toElement.declaredNamespace? e.toMarkup.toElement.namespaceLabel?).bind
      SoapVersion.ofNamespace? = some e.soap := by
  have label : e.toMarkup.toElement.namespaceLabel? = some e.soap.shortName := by
    have name : e.toMarkup.toElement.name = e.soap.shortName ++ ":Envelope" := rfl
    rw [namespaceLabel?, name]
    cases e.soap <;> decide
  have declared : e.toMarkup.toElement.declaredNamespace? (some e.soap.shortName) =
      some e.soap.xmlNamespace := by
    simp [Envelope.toMarkup, toElement, declaredNamespace?]
  rw [label, declared, Option.bind_some, SoapVersion.ofNamespace?_xmlNamespace]

def headerMarkup : Markup :=
  .node (e.soap.shortName ++ ":Header") []
    (e.messagingMarkup :: (e.security.map (SecurityHeader.toMarkup e.soap)).toList)

theorem child?_toMarkup :
    e.toMarkup.toElement.child? "Header" = some e.headerMarkup.toElement ∧
      e.toMarkup.toElement.child? "Body" = some e.bodyMarkup.toElement := by
  obtain ⟨-, header, body, -⟩ := e.soap.localPart_shortName
  simp [Envelope.toMarkup, headerMarkup, bodyMarkup, toElement, toElements, child?, localName,
    header, body]

theorem child?_headerMarkup :
    e.headerMarkup.toElement.child? "Messaging" = some e.messagingMarkup.toElement ∧
      e.headerMarkup.toElement.child? "Security" =
        e.security.map fun header => (header.toMarkup e.soap).toElement := by
  cases present : e.security <;>
    simp [headerMarkup, present, messagingMarkup, SecurityHeader.toMarkup, toElement, toElements,
      child?, localName, localPart_headers]

theorem attribute?_messagingMarkup :
    e.messagingMarkup.toElement.attribute? "Id" = some e.messagingId := by
  obtain ⟨-, -, -, demand⟩ := e.soap.localPart_shortName
  simp [messagingMarkup, toElement, attribute?, demand, localPart_headerAttribute,
    isDeclaration_headerAttribute]

theorem attribute?_bodyMarkup : e.bodyMarkup.toElement.attribute? "Id" = some e.bodyId := by
  simp [bodyMarkup, toElement, attribute?, localPart_headerAttribute,
    isDeclaration_headerAttribute]

/-- The root is always in order; what is left to read are the unit and the security header. -/
theorem ofElement_toMarkup_eq :
    Envelope.ofElement e.toMarkup.toElement =
      (do
        let unit ← MessageUnit.ofElement e.messagingMarkup.toElement
        let security ← readOptional SecurityHeader.ofElement
          (e.security.map fun header => (header.toMarkup e.soap).toElement)
        .ok
          { soap := e.soap
            messagingId := e.messagingId
            bodyId := e.bodyId
            unit
            security
            attachments := [] }) := by
  obtain ⟨header, body⟩ := e.child?_toMarkup
  obtain ⟨messaging, security⟩ := e.child?_headerMarkup
  have name : e.toMarkup.toElement.localName = "Envelope" := by
    rw [localName]
    exact e.soap.localPart_shortName.1
  have noFault : e.bodyMarkup.toElement.child? "Fault" = none := rfl
  have noChildren : e.bodyMarkup.toElement.children.isEmpty = true := rfl
  rw [Envelope.ofElement, if_neg (by simp [name]), declaredNamespace_toMarkup]
  simp only [requiredChild_of_child? body, ok_bind, noFault, noChildren, Bool.not_true,
    Bool.false_eq_true, if_false, requiredChild_of_child? header,
    requiredChild_of_child? messaging, security,
    requiredAttribute_of_attribute? e.attribute?_messagingMarkup,
    requiredAttribute_of_attribute? e.attribute?_bodyMarkup]

variable {e}

theorem ofElement_toMarkup (fourDigits : e.HasFourDigitYears) (errors : e.unit.StatesErrors) :
    Envelope.ofElement e.toMarkup.toElement = .ok { e.asWritten with attachments := [] } := by
  have unit : MessageUnit.ofElement e.messagingMarkup.toElement = .ok (e.unit.withTimes .asWritten) :=
    MessageUnit.ofElement_header _ _ _ fourDigits.1 errors
  have security : readOptional SecurityHeader.ofElement
      (e.security.map fun header => (header.toMarkup e.soap).toElement) =
        .ok (e.security.map (SecurityHeader.withTimes .asWritten)) :=
    readOptional_map fun header present =>
      header.ofElement_toMarkup e.soap (fourDigits.2 header present)
  rw [ofElement_toMarkup_eq, unit, ok_bind, security, ok_bind]
  rfl

theorem ofDocument_eq_ok_iff {document : Bytes} :
    ofDocument document = .ok e ↔
      ∃ root, readDocument document = .ok (some root) ∧ ofElement root = .ok e := by
  unfold ofDocument
  split
  case h_1 fault read => simp [read]
  case h_2 read => simp [read]
  case h_3 root read => simp [read]

theorem ofDocument_document (fourDigits : e.HasFourDigitYears)
    (errors : e.unit.StatesErrors) :
    Envelope.ofDocument e.document = .ok { e.asWritten with attachments := [] } := by
  rw [Envelope.ofDocument, Envelope.document, readDocument_document _ e.isWellFormed_toMarkup]
  exact ofElement_toMarkup fourDigits errors

end Envelope

end Ebms
