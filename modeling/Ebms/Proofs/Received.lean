import Ebms.Proofs.Multipart.Received
import Ebms.Proofs.Wire

/-! # Messages that are received can be sent on

The reader of messages accepts more than the writer produces: other prefixes, blanks,
attribute orders, references and boundaries.  Still, whatever it makes of them is an
envelope that the writer can write so that it is read back. -/

set_option autoImplicit false

namespace Ebms

open Multipart

/-! ## Instants -/

theorem isRegular_of_readInstant {text : String} {t : Instant}
    (read : readInstant text = .ok t) : t.IsRegular := by
  unfold readInstant at read
  split at read
  case h_1 found =>
    cases read
    exact Instant.isRegular_of_ofText? found
  case h_2 => cases read

theorem MessageInfo.isRegular_of_ofElement {element : Element} {info : MessageInfo}
    (read : MessageInfo.ofElement element = .ok info) : info.timestamp.IsRegular := by
  unfold MessageInfo.ofElement at read
  obtain ⟨text, -, read⟩ := bind_eq_ok.mp read
  obtain ⟨timestamp, instant, read⟩ := bind_eq_ok.mp read
  obtain ⟨messageId, -, read⟩ := bind_eq_ok.mp read
  cases read
  exact isRegular_of_readInstant instant

theorem UserMessage.isRegular_of_ofElement {element : Element} {message : UserMessage}
    (read : UserMessage.ofElement element = .ok message) : message.info.timestamp.IsRegular := by
  unfold UserMessage.ofElement at read
  obtain ⟨parties, -, read⟩ := bind_eq_ok.mp read
  obtain ⟨collaboration, -, read⟩ := bind_eq_ok.mp read
  obtain ⟨service, -, read⟩ := bind_eq_ok.mp read
  obtain ⟨parts, -, read⟩ := bind_eq_ok.mp read
  obtain ⟨stated, -, read⟩ := bind_eq_ok.mp read
  obtain ⟨info, regular, read⟩ := bind_eq_ok.mp read
  obtain ⟨party, -, read⟩ := bind_eq_ok.mp read
  obtain ⟨sender, -, read⟩ := bind_eq_ok.mp read
  obtain ⟨party, -, read⟩ := bind_eq_ok.mp read
  obtain ⟨receiver, -, read⟩ := bind_eq_ok.mp read
  obtain ⟨action, -, read⟩ := bind_eq_ok.mp read
  obtain ⟨conversation, -, read⟩ := bind_eq_ok.mp read
  obtain ⟨properties, -, read⟩ := bind_eq_ok.mp read
  cases read
  exact MessageInfo.isRegular_of_ofElement regular

theorem isRegular_of_readSignal {element : Element} {unit : MessageUnit}
    (read : readSignal element = .ok unit) : unit.info.timestamp.IsRegular := by
  unfold readSignal at read
  obtain ⟨stated, -, read⟩ := bind_eq_ok.mp read
  obtain ⟨info, regular, read⟩ := bind_eq_ok.mp read
  have kept : unit.info = info := by
    split at read
    · cases read
      rfl
    · split at read
      · cases read
        rfl
      · obtain ⟨errors, -, read⟩ := bind_eq_ok.mp read
        split at read
        · cases read
        · cases read
          rfl
  rw [kept]
  exact MessageInfo.isRegular_of_ofElement regular

theorem MessageUnit.isRegular_of_ofElement {element : Element} {unit : MessageUnit}
    (read : MessageUnit.ofElement element = .ok unit) : unit.info.timestamp.IsRegular := by
  unfold MessageUnit.ofElement at read
  split at read
  · obtain ⟨user, made, rfl⟩ := map_eq_ok.mp read
    exact UserMessage.isRegular_of_ofElement made
  · split at read
    · exact isRegular_of_readSignal read
    · cases read

theorem SecurityTimestamp.isRegular_of_ofElement {element : Element} {t : SecurityTimestamp}
    (read : SecurityTimestamp.ofElement element = .ok t) :
    ∀ instant ∈ t.instants, instant.IsRegular := by
  unfold SecurityTimestamp.ofElement at read
  obtain ⟨id, -, read⟩ := bind_eq_ok.mp read
  obtain ⟨text, -, read⟩ := bind_eq_ok.mp read
  obtain ⟨created, createdRead, read⟩ := bind_eq_ok.mp read
  have regular := isRegular_of_readInstant createdRead
  split at read
  · cases read
    simpa [instants] using regular
  · obtain ⟨expires, expiresRead, read⟩ := bind_eq_ok.mp read
    obtain ⟨expiry, stated, rfl⟩ := map_eq_ok.mp expiresRead
    cases read
    simpa [instants, regular] using isRegular_of_readInstant stated

theorem SecurityHeader.isRegular_of_ofElement {element : Element} {header : SecurityHeader}
    (read : SecurityHeader.ofElement element = .ok header) :
    ∀ t ∈ header.timestamp, ∀ instant ∈ t.instants, instant.IsRegular := by
  unfold SecurityHeader.ofElement at read
  obtain ⟨timestamp, timestampRead, read⟩ := bind_eq_ok.mp read
  obtain ⟨token, -, read⟩ := bind_eq_ok.mp read
  obtain ⟨signature, -, read⟩ := bind_eq_ok.mp read
  cases read
  rintro t stated
  unfold readOptional at timestampRead
  split at timestampRead
  · cases timestampRead
    cases stated
  · obtain ⟨found, made, rfl⟩ := map_eq_ok.mp timestampRead
    cases stated
    exact SecurityTimestamp.isRegular_of_ofElement made

/-! ## Documents -/

theorem statesErrors_of_readSignal {element : Element} {unit : MessageUnit}
    (read : readSignal element = .ok unit) : unit.StatesErrors := by
  unfold readSignal at read
  obtain ⟨_, -, read⟩ := bind_eq_ok.mp read
  obtain ⟨info, -, read⟩ := bind_eq_ok.mp read
  split at read
  · cases read
    trivial
  · split at read
    · cases read
      trivial
    · obtain ⟨errors, -, read⟩ := bind_eq_ok.mp read
      split at read
      · cases read
      · rename_i stated
        cases read
        exact fun none => stated (by rw [none]; rfl)

theorem statesErrors_of_ofElement {element : Element} {unit : MessageUnit}
    (read : MessageUnit.ofElement element = .ok unit) : unit.StatesErrors := by
  unfold MessageUnit.ofElement at read
  split at read
  · obtain ⟨user, -, rfl⟩ := map_eq_ok.mp read
    trivial
  · split at read
    · exact statesErrors_of_readSignal read
    · cases read

namespace Envelope

theorem isRegular_of_parts {e : Envelope} {messaging : Element} {header : Option Element}
    (unit : MessageUnit.ofElement messaging = .ok e.unit)
    (security : readOptional SecurityHeader.ofElement header = .ok e.security) : e.IsRegular := by
  intro instant member
  rcases List.mem_cons.mp member with rfl | stamped
  · exact MessageUnit.isRegular_of_ofElement unit
  · obtain ⟨t, stated, among⟩ := List.mem_flatMap.mp stamped
    obtain ⟨header, present, timestamp⟩ :=
      Option.bind_eq_some_iff.mp (Option.mem_toList.mp stated)
    unfold readOptional at security
    split at security
    · rw [present] at security
      cases security
    · obtain ⟨found, made, same⟩ := map_eq_ok.mp security
      rw [present] at same
      cases same
      exact SecurityHeader.isRegular_of_ofElement made t timestamp instant among

theorem of_ofElement {root : Element} {e : Envelope} (read : ofElement root = .ok e) :
    e.unit.StatesErrors ∧ e.IsRegular ∧ e.attachments = [] := by
  unfold ofElement at read
  split at read
  · cases read
  · split at read
    · cases read
    · obtain ⟨body, -, read⟩ := bind_eq_ok.mp read
      split at read
      · cases read
      · split at read
        · cases read
        · obtain ⟨header, -, read⟩ := bind_eq_ok.mp read
          obtain ⟨messaging, -, read⟩ := bind_eq_ok.mp read
          obtain ⟨unit, made, read⟩ := bind_eq_ok.mp read
          obtain ⟨security, secured, read⟩ := bind_eq_ok.mp read
          obtain ⟨messagingId, -, read⟩ := bind_eq_ok.mp read
          obtain ⟨bodyId, -, read⟩ := bind_eq_ok.mp read
          cases read
          exact ⟨statesErrors_of_ofElement made, isRegular_of_parts made secured, rfl⟩

theorem of_ofDocument {document : Bytes} {e : Envelope} (read : ofDocument document = .ok e) :
    e.unit.StatesErrors ∧ e.IsRegular ∧ e.attachments = [] := by
  unfold ofDocument at read
  split at read
  · cases read
  · cases read
  · exact of_ofElement read

theorem of_decodeRelated {contentType : String} {body : Bytes} {e : Envelope}
    (received : decodeRelated contentType body = .ok e) :
    e.unit.StatesErrors ∧ e.IsRegular ∧ ∀ a ∈ e.attachments, a.IsPlain := by
  obtain ⟨related, envelope, parts, document, rfl⟩ := decodeRelated_eq_ok.mp received
  obtain ⟨statesErrors, regular, -⟩ := of_ofDocument document
  exact ⟨statesErrors, regular, isPlain_of_read parts⟩

/-- What the reader makes of any message is in the domain of the writer, as far as errors,
instants and attachments go. -/
theorem of_decode {contentType : Option String} {body : Bytes} {e : Envelope}
    (received : decode contentType body = .ok (some e)) :
    e.unit.StatesErrors ∧ e.IsRegular ∧ ∀ a ∈ e.attachments, a.IsPlain := by
  unfold decode at received
  split at received
  · cases received
  · split at received
    · obtain ⟨envelope, read, same⟩ := map_eq_ok.mp received
      cases same
      exact of_decodeRelated read
    · obtain ⟨envelope, read, same⟩ := map_eq_ok.mp received
      cases same
      obtain ⟨statesErrors, regular, none⟩ := of_ofDocument read
      refine ⟨statesErrors, regular, fun a member => ?_⟩
      rw [none] at member
      cases member

/-- Writing what was received and reading it again changes nothing but cuts its instants
to the millisecond. -/
theorem decode_encode_of_decode {contentType : Option String} {body : Bytes} {e : Envelope}
    {boundary : String} (received : decode contentType body = .ok (some e))
    (fourDigitYears : e.HasFourDigitYears) (validBoundary : IsBoundary boundary)
    (absentFromDocument : IsAbsent boundary e.document)
    (absentFromAttachments : ∀ a ∈ e.attachments, IsAbsent boundary a.data) :
    decode (some (e.encode boundary).contentType) (e.encode boundary).body =
      .ok (some e.toMilliseconds) := by
  obtain ⟨statesErrors, regular, plainAttachments⟩ := of_decode received
  rw [← e.asWritten_eq_toMilliseconds_iff.mpr regular]
  exact decode_encode_eq
    { fourDigitYears, statesErrors, plainAttachments, validBoundary, absentFromDocument,
      absentFromAttachments }

/-! A message as the writer would not write it: default namespace, undeclared prefix, single
quotes, character reference, time zone, quoted parameters in another order, text around the
parts, and a part without media type whose id stands in doubled brackets. -/

def sampleForeignType : String :=
  "Multipart/Related; BOUNDARY=cut; type=\"application/soap+xml\""

def sampleForeignBody : Bytes := Bytes.ofText <|
  "preamble\r\n--cut\r\ncontent-type : application/soap+xml\r\n\r\n" ++
  "<Envelope xmlns='http://www.w3.org/2003/05/soap-envelope'>\r\n" ++
  " <Header><m:Messaging Id='m'><m:SignalMessage><m:MessageInfo>" ++
  "<m:Timestamp> 2023-11-14T23:13:20.5006+01:00 </m:Timestamp>" ++
  "<m:MessageId>r&#45;1</m:MessageId></m:MessageInfo><m:Receipt/>" ++
  "</m:SignalMessage></m:Messaging></Header><Body xml:space='x' Id=\"b\"/></Envelope>" ++
  "\r\n--cut\r\nX-Note: none\r\nContent-Id:  <<p1@test>>\t\r\n\r\nhi\r\n--cut--\r\nepilogue"

def sampleReceived : Envelope where
  soap := .v12
  messagingId := "m"
  bodyId := "b"
  unit := .receipt
    { timestamp := { seconds := 1700000000, nanos := 500600000 }, messageId := "r-1",
      refToMessageId := none }
  security := none
  attachments :=
    [{ contentId := "p1@test", mediaType := "application/octet-stream", data := [0x68, 0x69] }]

theorem decode_encode_of_decode_sampleReceived :
    decode (some sampleForeignType) sampleForeignBody = .ok (some sampleReceived) ∧
      sampleReceived.HasFourDigitYears ∧ IsBoundary "MIMEBoundary_7f" ∧
      IsAbsent "MIMEBoundary_7f" sampleReceived.document ∧
      (∀ a ∈ sampleReceived.attachments, IsAbsent "MIMEBoundary_7f" a.data) ∧
      decode (some (sampleReceived.encode "MIMEBoundary_7f").contentType)
          (sampleReceived.encode "MIMEBoundary_7f").body =
        .ok (some { sampleReceived with
          unit := .receipt
            { timestamp := { seconds := 1700000000, nanos := 500000000 }, messageId := "r-1",
              refToMessageId := none } }) := by
  have received :
      decode (some sampleForeignType) sampleForeignBody = .ok (some sampleReceived) := by
    have read : (decode (some sampleForeignType) sampleForeignBody).toOption =
        some (some sampleReceived) := by
      decide +kernel
    exact eq_ok_of_toOption read
  have fourDigitYears : sampleReceived.HasFourDigitYears := by
    refine ⟨⟨by decide, by decide⟩, ?_⟩
    intro header present
    cases present
  have validBoundary : IsBoundary "MIMEBoundary_7f" := isBoundary_of_word (by decide)
  have absentFromDocument : IsAbsent "MIMEBoundary_7f" sampleReceived.document :=
    isAbsent_of_byte (by decide : 0x5F ∈ Bytes.ofText "MIMEBoundary_7f") (by decide +kernel)
  have absentFromAttachments :
      ∀ a ∈ sampleReceived.attachments, IsAbsent "MIMEBoundary_7f" a.data := by
    intro a member
    rw [sampleReceived, List.mem_singleton] at member
    subst member
    exact isAbsent_of_byte (by decide : 0x5F ∈ Bytes.ofText "MIMEBoundary_7f") (by decide)
  exact ⟨received, fourDigitYears, validBoundary, absentFromDocument, absentFromAttachments,
    decode_encode_of_decode received fourDigitYears validBoundary absentFromDocument
      absentFromAttachments⟩

end Envelope

end Ebms
