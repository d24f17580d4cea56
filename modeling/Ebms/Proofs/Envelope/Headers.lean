import Ebms.Proofs.Base64
import Ebms.Proofs.Envelope.Units

/-! # Security headers are read as they were written

Timestamp, token and signature give back the values they were written for, so
that a receiver sees the digests and the signature value that the sender made. -/

set_option autoImplicit false

namespace Ebms

open Markup Element

theorem localPart_header :
    localPart "wsu:Timestamp" = "Timestamp" ∧ localPart "wsu:Created" = "Created" ∧
      localPart "wsu:Expires" = "Expires" ∧
      localPart "wsse:BinarySecurityToken" = "BinarySecurityToken" ∧
      localPart "ds:Signature" = "Signature" ∧ localPart "ds:SignedInfo" = "SignedInfo" ∧
      localPart "ds:CanonicalizationMethod" = "CanonicalizationMethod" ∧
      localPart "ds:SignatureMethod" = "SignatureMethod" ∧
      localPart "ds:Reference" = "Reference" ∧ localPart "ds:DigestMethod" = "DigestMethod" ∧
      localPart "ds:DigestValue" = "DigestValue" ∧
      localPart "ds:SignatureValue" = "SignatureValue" ∧ localPart "ds:KeyInfo" = "KeyInfo" ∧
      localPart "wsse:SecurityTokenReference" = "SecurityTokenReference" ∧
      localPart "wsse:Reference" = "Reference" ∧ localPart "ds:X509Data" = "X509Data" ∧
      localPart "ds:X509IssuerSerial" = "X509IssuerSerial" ∧
      localPart "ds:X509IssuerName" = "X509IssuerName" ∧
      localPart "ds:X509SerialNumber" = "X509SerialNumber" ∧
      localPart "wsse:KeyIdentifier" = "KeyIdentifier" := by decide

theorem localPart_headerAttribute :
    localPart "wsu:Id" = "Id" ∧ localPart "Id" = "Id" ∧ localPart "URI" = "URI" ∧
      localPart "Algorithm" = "Algorithm" ∧ localPart "EncodingType" = "EncodingType" ∧
      localPart "ValueType" = "ValueType" := by decide

theorem isDeclaration_headerAttribute :
    isDeclaration "wsu:Id" = false ∧ isDeclaration "Id" = false ∧
      isDeclaration "URI" = false ∧ isDeclaration "Algorithm" = false ∧
      isDeclaration "EncodingType" = false ∧ isDeclaration "ValueType" = false := by decide

theorem readBase64_encode (part : String) (bytes : Bytes) :
    readBase64 part (Base64.encode bytes) = .ok bytes := by
  simp only [readBase64, Base64.trim_encode, Base64.decode?_encode]

theorem requiredAttribute_of_attribute? {e : Element} {name value : String}
    (present : e.attribute? name = some value) : e.requiredAttribute name = .ok value := by
  rw [requiredAttribute, present]

/-! ## Timestamp and token -/

theorem SecurityTimestamp.childText?_toMarkup (t : SecurityTimestamp) :
    t.toMarkup.toElement.childText? "Created" = some t.created.millisecondText ∧
      t.toMarkup.toElement.childText? "Expires" = t.expires.map Instant.millisecondText := by
  cases present : t.expires <;>
    simp [SecurityTimestamp.toMarkup, present, optionalLeaf, toElement, toElements, childText?,
      child?, localName, localPart_header]

theorem SecurityTimestamp.attribute?_toMarkup (t : SecurityTimestamp) :
    t.toMarkup.toElement.attribute? "Id" = some t.id := by
  simp [SecurityTimestamp.toMarkup, toElement, attribute?, localPart_headerAttribute,
    isDeclaration_headerAttribute]

theorem SecurityTimestamp.ofElement_toMarkup {t : SecurityTimestamp}
    (fourDigits : t.HasFourDigitYears) :
    SecurityTimestamp.ofElement t.toMarkup.toElement = .ok (t.withTimes .asWritten) := by
  obtain ⟨created, expires⟩ := t.childText?_toMarkup
  rw [SecurityTimestamp.ofElement, requiredAttribute_of_attribute? t.attribute?_toMarkup,
    ok_bind, requiredText_of_childText? created, ok_bind,
    readInstant_millisecondText fourDigits.1, ok_bind, expires]
  cases present : t.expires with
  | none => simp [SecurityTimestamp.withTimes, present]
  | some expiry =>
      have read := readInstant_millisecondText (fourDigits.2 expiry (by simp [present]))
      simp [SecurityTimestamp.withTimes, present, read, Except.map]

theorem SecurityToken.ofElement_toMarkup (token : SecurityToken) :
    SecurityToken.ofElement token.toMarkup.toElement = .ok token := by
  have id : token.toMarkup.toElement.requiredAttribute "Id" = .ok token.id := by
    simp [SecurityToken.toMarkup, toElement, requiredAttribute, attribute?,
      localPart_headerAttribute, isDeclaration_headerAttribute]
  have value : token.toMarkup.toElement.text = Base64.encode token.value := rfl
  rw [SecurityToken.ofElement, id, ok_bind, value, readBase64_encode, ok_bind]

/-! ## The signed info -/

theorem DigestAlgorithm.ofUri?_uri (algorithm : DigestAlgorithm) :
    DigestAlgorithm.ofUri? algorithm.uri = some algorithm := by
  cases algorithm <;> decide

theorem SignatureAlgorithm.ofUri?_uri (algorithm : SignatureAlgorithm) :
    SignatureAlgorithm.ofUri? algorithm.uri = some algorithm := by
  cases algorithm
  decide

theorem PartDigest.ofElement_toMarkup (digest : PartDigest) :
    PartDigest.ofElement digest.toMarkup.toElement = .ok digest := by
  have method : digest.toMarkup.toElement.child? "DigestMethod" =
      some (Markup.empty "ds:DigestMethod" [("Algorithm", digest.algorithm.uri)]).toElement := by
    simp [PartDigest.toMarkup, toElement, toElements, child?, localName, localPart_header]
  have algorithm :
      (Markup.empty "ds:DigestMethod" [("Algorithm", digest.algorithm.uri)]).toElement.attribute?
        "Algorithm" = some digest.algorithm.uri := by
    simp [toElement, attribute?, localPart_headerAttribute, isDeclaration_headerAttribute]
  have uri : digest.toMarkup.toElement.attribute? "URI" = some digest.uri := by
    simp [PartDigest.toMarkup, toElement, attribute?, localPart_headerAttribute,
      isDeclaration_headerAttribute]
  have value : digest.toMarkup.toElement.childText? "DigestValue" =
      some (Base64.encode digest.value) := by
    simp [PartDigest.toMarkup, toElement, toElements, childText?, child?, localName,
      localPart_header]
  rw [PartDigest.ofElement, requiredChild_of_child? method, ok_bind,
    requiredAttribute_of_attribute? algorithm, ok_bind, requiredAttribute_of_attribute? uri,
    ok_bind, DigestAlgorithm.ofUri?_uri]
  simp only [ok_bind, requiredText_of_childText? value, readBase64_encode]

theorem readReferences_toMarkup (info : SignedInfo) :
    (info.toMarkup.toElement.childrenNamed "Reference").mapM PartDigest.ofElement =
      .ok info.references := by
  have named : ∀ digest : PartDigest, digest.toMarkup.toElement.name = "ds:Reference" := by
    intro digest
    rfl
  have label : localPart "ds:Reference" = "Reference" := by simp [localPart_header]
  have others := childrenNamed_map named label info.references "ds:SignedInfo" "" []
  have children : info.toMarkup.toElement.childrenNamed "Reference" =
      info.references.map fun digest => digest.toMarkup.toElement := by
    rw [← others]
    simp [SignedInfo.toMarkup, toElement, toElements, childrenNamed, localName, localPart_header]
  rw [children]
  apply mapM_map_self
  intro digest _
  exact digest.ofElement_toMarkup

theorem SignedInfo.ofElement_toMarkup (info : SignedInfo) :
    SignedInfo.ofElement info.toMarkup.toElement = .ok info := by
  have canonical : info.toMarkup.toElement.child? "CanonicalizationMethod" =
      some (Markup.empty "ds:CanonicalizationMethod"
        [("Algorithm", TokenUri.exclusiveCanonical)]).toElement := by
    simp [SignedInfo.toMarkup, toElement, toElements, child?, localName, localPart_header]
  have method : info.toMarkup.toElement.child? "SignatureMethod" =
      some (Markup.empty "ds:SignatureMethod" [("Algorithm", info.algorithm.uri)]).toElement := by
    simp [SignedInfo.toMarkup, toElement, toElements, child?, localName, localPart_header]
  have stated (name value : String) :
      (Markup.empty name [("Algorithm", value)]).toElement.attribute? "Algorithm" =
        some value := by
    simp [toElement, attribute?, localPart_headerAttribute, isDeclaration_headerAttribute]
  rw [SignedInfo.ofElement, requiredChild_of_child? canonical, ok_bind,
    requiredAttribute_of_attribute? (stated _ _), ok_bind, if_neg (by simp),
    requiredChild_of_child? method, ok_bind, requiredAttribute_of_attribute? (stated _ _),
    ok_bind, SignatureAlgorithm.ofUri?_uri]
  simp only [ok_bind, readReferences_toMarkup]

/-! ## The key reference -/

theorem readSerial_ofNat (serial : UInt64) :
    readSerial (Text.ofNat serial.toNat) = .ok serial := by
  have digits : ∀ c ∈ (Text.ofNat serial.toNat).toList, c.isDigit = true := by
    intro c member
    rw [Text.toList_ofNat] at member
    exact Text.isDigit_of_mem_toDigits member
  have trimmed : Text.trim (Text.ofNat serial.toNat) = Text.ofNat serial.toNat := by
    apply Text.trim_eq_self
    intro c member
    exact Text.isBlank_of_isDigit (digits c member)
  have read := Text.decimal?_ofNat serial.toNat
  have bound : serial.toNat < UInt64.size := serial.toNat_lt
  rw [readSerial, trimmed]
  cases shape : (Text.ofNat serial.toNat).toList with
  | nil =>
      rw [shape] at read
      cases read
  | cons first others =>
      have noSign : first ≠ '+' := by
        intro same
        have digit := digits first (by simp [shape])
        rw [same] at digit
        exact absurd digit (by decide)
      rw [shape] at read
      split
      case h_1 value found =>
        split at found
        case h_1 rest same => exact absurd (List.cons.inj same).1 noSign
        case h_2 =>
          rw [found] at read
          rw [Option.some.inj read, if_pos bound, UInt64.ofNat_toNat]
      case h_2 found =>
        split at found
        case h_1 rest same => exact absurd (List.cons.inj same).1 noSign
        case h_2 =>
          rw [found] at read
          cases read

theorem KeyReference.ofElement_toMarkup (key : KeyReference) (name text : String)
    (attributes : List (String × String)) :
    KeyReference.ofElement { name, attributes, children := [key.toMarkup.toElement], text } =
      .ok key := by
  cases key with
  | direct uri =>
      simp [KeyReference.ofElement, KeyReference.toMarkup, toElement, child?, localName,
        localPart_header, requiredAttribute, attribute?, localPart_headerAttribute,
        isDeclaration_headerAttribute, Except.map]
  | issuerSerial issuer serial =>
      simp [KeyReference.ofElement, KeyReference.toMarkup, toElement, toElements, child?,
        localName, localPart_header, requiredChild, requiredText, Except.map, readSerial_ofNat]
  | keyIdentifier value =>
      simp [KeyReference.ofElement, KeyReference.toMarkup, toElement, child?, localName,
        localPart_header, readBase64_encode, Except.map]

theorem Signature.ofElement_toMarkup (signature : Signature) :
    Signature.ofElement signature.toMarkup.toElement = .ok signature := by
  have info : signature.toMarkup.toElement.child? "SignedInfo" =
      some signature.signedInfo.toMarkup.toElement := by
    simp [Signature.toMarkup, SignedInfo.toMarkup, toElement, toElements, child?, localName,
      localPart_header]
  have keyInfo : signature.toMarkup.toElement.child? "KeyInfo" =
      some (Markup.node "ds:KeyInfo" []
        [.node "wsse:SecurityTokenReference" [] [signature.key.toMarkup]]).toElement := by
    simp [Signature.toMarkup, SignedInfo.toMarkup, toElement, toElements, child?, localName,
      localPart_header]
  have reference : (Markup.node "ds:KeyInfo" []
        [.node "wsse:SecurityTokenReference" [] [signature.key.toMarkup]]).toElement.child?
          "SecurityTokenReference" =
      some (Markup.node "wsse:SecurityTokenReference" []
        [signature.key.toMarkup]).toElement := by
    simp [toElement, toElements, child?, localName, localPart_header]
  have key : KeyReference.ofElement (Markup.node "wsse:SecurityTokenReference" []
      [signature.key.toMarkup]).toElement = .ok signature.key := by
    simp only [toElement, toElements]
    exact signature.key.ofElement_toMarkup _ _ _
  have value : signature.toMarkup.toElement.childText? "SignatureValue" =
      some (Base64.encode signature.value) := by
    simp [Signature.toMarkup, SignedInfo.toMarkup, toElement, toElements, childText?, child?,
      localName, localPart_header]
  have id : signature.toMarkup.toElement.attribute? "Id" = some signature.id := by
    simp [Signature.toMarkup, toElement, attribute?, localPart_headerAttribute,
      isDeclaration_headerAttribute]
  rw [Signature.ofElement, requiredChild_of_child? info, ok_bind,
    SignedInfo.ofElement_toMarkup, ok_bind, requiredChild_of_child? keyInfo, ok_bind,
    requiredChild_of_child? reference, ok_bind, key, ok_bind, requiredText_of_childText? value,
    ok_bind, readBase64_encode, ok_bind, id]
  rfl

/-! ## The whole header -/

theorem SecurityHeader.child?_toMarkup (soap : SoapVersion) (header : SecurityHeader) :
    (header.toMarkup soap).toElement.child? "Timestamp" =
        header.timestamp.map (fun t => t.toMarkup.toElement) ∧
      (header.toMarkup soap).toElement.child? "BinarySecurityToken" =
        header.token.map (fun token => token.toMarkup.toElement) ∧
      (header.toMarkup soap).toElement.child? "Signature" =
        header.signature.map fun signature => signature.toMarkup.toElement := by
  cases timestamp : header.timestamp <;> cases token : header.token <;>
    cases signature : header.signature <;>
    simp [SecurityHeader.toMarkup, timestamp, token, signature, SecurityTimestamp.toMarkup,
      SecurityToken.toMarkup, Signature.toMarkup, toElement, toElements, child?, localName,
      localPart_header]

theorem readOptional_map {α β : Type} {read : Element → Except DecodeError β}
    {written : α → Element} {value : α → β} {present : Option α}
    (each : ∀ item ∈ present, read (written item) = .ok (value item)) :
    readOptional read (present.map written) = .ok (present.map value) := by
  cases present with
  | none => rfl
  | some item =>
      rw [Option.map_some, readOptional, each item rfl]
      rfl

theorem SecurityHeader.ofElement_toMarkup (soap : SoapVersion) {header : SecurityHeader}
    (fourDigits : ∀ timestamp ∈ header.timestamp, timestamp.HasFourDigitYears) :
    SecurityHeader.ofElement (header.toMarkup soap).toElement = .ok (header.withTimes .asWritten) := by
  obtain ⟨timestamp, token, signature⟩ := header.child?_toMarkup soap
  have readTimestamp : readOptional SecurityTimestamp.ofElement
      (header.timestamp.map fun t => t.toMarkup.toElement) =
        .ok (header.timestamp.map (SecurityTimestamp.withTimes .asWritten)) :=
    readOptional_map fun t present => t.ofElement_toMarkup (fourDigits t present)
  have readToken : readOptional SecurityToken.ofElement
      (header.token.map fun token => token.toMarkup.toElement) = .ok (header.token.map id) :=
    readOptional_map fun token _ => token.ofElement_toMarkup
  have readSignature : readOptional Signature.ofElement
      (header.signature.map fun signature => signature.toMarkup.toElement) =
        .ok (header.signature.map id) :=
    readOptional_map fun signature _ => signature.ofElement_toMarkup
  rw [Option.map_id_fun, id] at readToken readSignature
  rw [SecurityHeader.ofElement, timestamp, readTimestamp, ok_bind, token, readToken, ok_bind,
    signature, readSignature, ok_bind]
  rfl

end Ebms
