import Ebms.Proofs.Envelope.Documents

/-! # Which written envelopes are read back

A year outside 0 to 9999 is written with a sign, and a signal of errors that states none
cannot be told from an empty one: the reader refuses both.  Every other envelope is read
as it was written, so a document that can be read at all gives its own envelope. -/

set_option autoImplicit false

namespace Ebms

open Markup Element

/-! ## Message units -/

theorem hasFourDigitYear_of_readInstant {t read : Instant}
    (success : readInstant t.millisecondText = .ok read) : t.HasFourDigitYear := by
  rw [readInstant, Instant.trim_millisecondText] at success
  split at success
  case h_1 found => exact Instant.hasFourDigitYear_of_ofText? found
  case h_2 => cases success

theorem MessageInfo.hasFourDigitYear_of_ofElement {info read : MessageInfo}
    (success : MessageInfo.ofElement info.toMarkup.toElement = .ok read) :
    info.timestamp.HasFourDigitYear := by
  obtain ⟨timestamp, -, -⟩ := info.childText?_toMarkup
  rw [MessageInfo.ofElement, requiredText_of_childText? timestamp, ok_bind, bind_eq_ok] at success
  obtain ⟨instant, success, -⟩ := success
  exact hasFourDigitYear_of_readInstant success

theorem UserMessage.hasFourDigitYear_of_ofElement {m read : UserMessage}
    (success : UserMessage.ofElement m.toMarkup.toElement = .ok read) :
    m.info.timestamp.HasFourDigitYear := by
  obtain ⟨info, parties, collaboration, -, parts⟩ := m.child?_toMarkup
  obtain ⟨-, service, -, -⟩ := child?_collaboration m
  rw [UserMessage.ofElement, requiredChild_of_child? parties, ok_bind,
    requiredChild_of_child? collaboration, ok_bind, requiredChild_of_child? service, ok_bind,
    parts, readParts_partsMarkup, ok_bind, requiredChild_of_child? info, ok_bind,
    bind_eq_ok] at success
  obtain ⟨readInfo, success, -⟩ := success
  exact MessageInfo.hasFourDigitYear_of_ofElement success

theorem of_readSignal_toMarkup {unit read : MessageUnit}
    (signal : ∀ message, unit ≠ .user message)
    (success : readSignal unit.toMarkup.toElement = .ok read) :
    unit.info.timestamp.HasFourDigitYear ∧ unit.StatesErrors := by
  rw [readSignal, requiredChild_of_child? (child?_signal unit signal), ok_bind,
    bind_eq_ok] at success
  obtain ⟨readInfo, infoRead, success⟩ := success
  refine ⟨MessageInfo.hasFourDigitYear_of_ofElement infoRead, ?_⟩
  cases unit with
  | user message => exact absurd rfl (signal message)
  | pullRequest info channel => trivial
  | receipt info => trivial
  | errorSignal info stated =>
      rintro rfl
      have noPull := child?_errorSignal (by decide : "PullRequest" ≠ "MessageInfo")
        (by decide) info []
      have noReceipt := child?_errorSignal (by decide : "Receipt" ≠ "MessageInfo")
        (by decide) info []
      simp only [noPull, noReceipt, readErrors_toMarkup, ok_bind, List.isEmpty_nil,
        if_true] at success
      cases success

theorem MessageUnit.of_ofElement_header {unit read : MessageUnit} {name text : String}
    {attributes : List (String × String)}
    (success : MessageUnit.ofElement
      { name, attributes, children := [unit.toMarkup.toElement], text } = .ok read) :
    unit.info.timestamp.HasFourDigitYear ∧ unit.StatesErrors := by
  by_cases user : ∃ message, unit = .user message
  · obtain ⟨message, rfl⟩ := user
    rw [MessageUnit.ofElement_user, map_eq_ok] at success
    obtain ⟨readMessage, success, -⟩ := success
    exact ⟨UserMessage.hasFourDigitYear_of_ofElement success, trivial⟩
  · have signal : ∀ message, unit ≠ .user message := by
      intro message same
      exact user ⟨message, same⟩
    rw [MessageUnit.ofElement_signal _ _ _ signal] at success
    exact of_readSignal_toMarkup signal success

/-! ## Security headers -/

theorem SecurityTimestamp.hasFourDigitYears_of_ofElement {t read : SecurityTimestamp}
    (success : SecurityTimestamp.ofElement t.toMarkup.toElement = .ok read) :
    t.HasFourDigitYears := by
  obtain ⟨created, expires⟩ := t.childText?_toMarkup
  unfold SecurityTimestamp.ofElement at success
  obtain ⟨id, -, success⟩ := bind_eq_ok.mp success
  rw [requiredText_of_childText? created, ok_bind, bind_eq_ok, expires] at success
  obtain ⟨readCreated, createdRead, success⟩ := success
  refine ⟨hasFourDigitYear_of_readInstant createdRead, ?_⟩
  intro expiry present
  rw [Option.mem_def.mp present] at success
  obtain ⟨readExpires, success, -⟩ := bind_eq_ok.mp success
  obtain ⟨readExpiry, success, -⟩ := map_eq_ok.mp success
  exact hasFourDigitYear_of_readInstant success

theorem of_readOptional_map {α β : Type} {read : Element → Except DecodeError β}
    {written : α → Element} {present : Option α} {found : Option β}
    (success : readOptional read (present.map written) = .ok found) :
    ∀ item ∈ present, ∃ value, read (written item) = .ok value := by
  intro item member
  rw [Option.mem_def.mp member, Option.map_some, readOptional, map_eq_ok] at success
  obtain ⟨value, success, -⟩ := success
  exact ⟨value, success⟩

theorem SecurityHeader.hasFourDigitYears_of_ofElement {soap : SoapVersion}
    {header read : SecurityHeader}
    (success : SecurityHeader.ofElement (header.toMarkup soap).toElement = .ok read) :
    ∀ timestamp ∈ header.timestamp, timestamp.HasFourDigitYears := by
  intro timestamp present
  obtain ⟨child, -, -⟩ := header.child?_toMarkup soap
  rw [SecurityHeader.ofElement, child, bind_eq_ok] at success
  obtain ⟨readTimestamp, success, -⟩ := success
  obtain ⟨value, success⟩ := of_readOptional_map success timestamp present
  exact SecurityTimestamp.hasFourDigitYears_of_ofElement success

/-! ## Documents -/

namespace Envelope

variable {e read : Envelope}

theorem of_ofElement_toMarkup (success : ofElement e.toMarkup.toElement = .ok read) :
    e.HasFourDigitYears ∧ e.unit.StatesErrors := by
  rw [ofElement_toMarkup_eq] at success
  obtain ⟨unit, unitRead, success⟩ := bind_eq_ok.mp success
  obtain ⟨headers, headersRead, -⟩ := bind_eq_ok.mp success
  obtain ⟨year, errors⟩ := MessageUnit.of_ofElement_header unitRead
  refine ⟨⟨year, fun header present => ?_⟩, errors⟩
  obtain ⟨value, headerRead⟩ := of_readOptional_map headersRead header present
  exact SecurityHeader.hasFourDigitYears_of_ofElement headerRead

/-- A written document is read exactly when its years have four digits and a signal of
errors states some, and then it gives the envelope back. -/
theorem ofDocument_document_eq_ok :
    ofDocument e.document = .ok read ↔
      (e.HasFourDigitYears ∧ e.unit.StatesErrors) ∧
        read = { e.asWritten with attachments := [] } := by
  constructor
  · intro success
    have element : ofElement e.toMarkup.toElement = .ok read := by
      rwa [ofDocument, document, readDocument_document _ e.isWellFormed_toMarkup] at success
    obtain ⟨fourDigits, errors⟩ := of_ofElement_toMarkup element
    rw [ofDocument_document fourDigits errors] at success
    exact ⟨⟨fourDigits, errors⟩, (Except.ok.inj success).symm⟩
  · rintro ⟨⟨fourDigits, errors⟩, rfl⟩
    exact ofDocument_document fourDigits errors

end Envelope

end Ebms
