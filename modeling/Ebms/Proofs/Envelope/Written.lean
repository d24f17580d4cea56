import Ebms.Envelope.Markup
import Ebms.Proofs.Time.Written

/-! # Envelopes as written

A message carries its instants as they are written, to the millisecond, and nothing else of it
is lost on the way.  The envelope with its instants as written has the same written parts, so
that digests do not see the difference.  It is the envelope with its instants cut to
milliseconds, exactly if they are regular. -/

set_option autoImplicit false

namespace Ebms

/-! ## The instants of an envelope -/

def MessageInfo.withTimes (change : Instant → Instant) (info : MessageInfo) : MessageInfo :=
  { info with timestamp := change info.timestamp }

def MessageUnit.withTimes (change : Instant → Instant) : MessageUnit → MessageUnit
  | .user message => .user { message with info := message.info.withTimes change }
  | .pullRequest info channel => .pullRequest (info.withTimes change) channel
  | .receipt info => .receipt (info.withTimes change)
  | .errorSignal info errors => .errorSignal (info.withTimes change) errors

def SecurityTimestamp.withTimes (change : Instant → Instant) (t : SecurityTimestamp) :
    SecurityTimestamp :=
  { t with created := change t.created, expires := t.expires.map change }

def SecurityHeader.withTimes (change : Instant → Instant) (header : SecurityHeader) :
    SecurityHeader :=
  { header with timestamp := header.timestamp.map (SecurityTimestamp.withTimes change) }

def Envelope.withTimes (change : Instant → Instant) (e : Envelope) : Envelope :=
  { e with
    unit := e.unit.withTimes change
    security := e.security.map (SecurityHeader.withTimes change) }

def SecurityTimestamp.instants (t : SecurityTimestamp) : List Instant :=
  t.created :: t.expires.toList

namespace Envelope

def instants (e : Envelope) : List Instant :=
  e.unit.info.timestamp ::
    (e.security.bind (·.timestamp)).toList.flatMap SecurityTimestamp.instants

/-- Only leap seconds of the envelope have a billion nanoseconds or more. -/
def IsRegular (e : Envelope) : Prop := ∀ t ∈ e.instants, t.IsRegular

def toMilliseconds (e : Envelope) : Envelope := e.withTimes Instant.toMilliseconds

/-- The envelope with every instant as its text names it. -/
def asWritten (e : Envelope) : Envelope := e.withTimes Instant.asWritten

end Envelope

section Changes

variable {first second : Instant → Instant}

theorem MessageUnit.withTimes_eq_iff (unit : MessageUnit) :
    unit.withTimes first = unit.withTimes second ↔
      first unit.info.timestamp = second unit.info.timestamp := by
  cases unit <;> simp [withTimes, MessageInfo.withTimes, MessageUnit.info]

theorem SecurityTimestamp.withTimes_eq_iff (t : SecurityTimestamp) :
    t.withTimes first = t.withTimes second ↔ ∀ instant ∈ t.instants, first instant = second instant := by
  cases expiry : t.expires <;> simp [withTimes, instants, expiry]

theorem Envelope.withTimes_eq_iff (e : Envelope) :
    e.withTimes first = e.withTimes second ↔ ∀ t ∈ e.instants, first t = second t := by
  cases security : e.security with
  | none => simp [withTimes, instants, security, MessageUnit.withTimes_eq_iff]
  | some header =>
      cases timestamp : header.timestamp <;>
        simp [withTimes, instants, security, timestamp, MessageUnit.withTimes_eq_iff,
          SecurityHeader.withTimes, SecurityTimestamp.withTimes_eq_iff]

end Changes

theorem Envelope.asWritten_eq_toMilliseconds_iff (e : Envelope) :
    e.asWritten = e.toMilliseconds ↔ e.IsRegular := by
  simp only [asWritten, toMilliseconds, withTimes_eq_iff,
    Instant.asWritten_eq_toMilliseconds_iff, IsRegular]

theorem MessageUnit.asWritten_eq_of_isRegular {unit : MessageUnit}
    (regular : unit.info.timestamp.IsRegular) :
    unit.withTimes .asWritten = unit.withTimes .toMilliseconds :=
  unit.withTimes_eq_iff.mpr ((Instant.asWritten_eq_toMilliseconds_iff _).mpr regular)

/-! ## What a message can state -/

def SecurityTimestamp.HasFourDigitYears (t : SecurityTimestamp) : Prop :=
  t.created.HasFourDigitYear ∧ ∀ expires ∈ t.expires, expires.HasFourDigitYear

def Envelope.HasFourDigitYears (e : Envelope) : Prop :=
  e.unit.info.timestamp.HasFourDigitYear ∧
    ∀ header ∈ e.security, ∀ timestamp ∈ header.timestamp, timestamp.HasFourDigitYears

def MessageUnit.StatesErrors : MessageUnit → Prop
  | .errorSignal _ errors => errors ≠ []
  | _ => True

/-! ## The same written parts -/

@[simp] theorem MessageInfo.toMarkup_asWritten (info : MessageInfo) :
    (info.withTimes .asWritten).toMarkup = info.toMarkup := by
  simp [MessageInfo.toMarkup, MessageInfo.withTimes]

@[simp] theorem MessageUnit.toMarkup_asWritten (unit : MessageUnit) :
    (unit.withTimes .asWritten).toMarkup = unit.toMarkup := by
  cases unit with
  | user message => simp [MessageUnit.withTimes, MessageUnit.toMarkup, UserMessage.toMarkup]
  | pullRequest info channel => simp [MessageUnit.withTimes, MessageUnit.toMarkup]
  | receipt info => simp [MessageUnit.withTimes, MessageUnit.toMarkup]
  | errorSignal info errors => simp [MessageUnit.withTimes, MessageUnit.toMarkup]

@[simp] theorem SecurityTimestamp.toMarkup_asWritten (t : SecurityTimestamp) :
    (t.withTimes .asWritten).toMarkup = t.toMarkup := by
  have expires : (t.expires.map Instant.asWritten).map Instant.millisecondText =
      t.expires.map Instant.millisecondText := by
    cases t.expires <;> simp
  simp only [SecurityTimestamp.toMarkup, SecurityTimestamp.withTimes,
    Instant.millisecondText_asWritten, expires]

@[simp] theorem SecurityTimestamp.bytes_asWritten (t : SecurityTimestamp) :
    (t.withTimes .asWritten).bytes = t.bytes := by
  rw [SecurityTimestamp.bytes, SecurityTimestamp.toMarkup_asWritten]
  rfl

@[simp] theorem Envelope.messagingBytes_asWritten (e : Envelope) :
    e.asWritten.messagingBytes = e.messagingBytes := by
  simp [Envelope.messagingBytes, Envelope.messagingMarkup, Envelope.asWritten, Envelope.withTimes]

@[simp] theorem Envelope.bodyBytes_asWritten (e : Envelope) :
    e.asWritten.bodyBytes = e.bodyBytes := rfl

end Ebms
