import Ebms.Proofs.Exchange.Outgoing
import Ebms.Proofs.Exchange.RetryBudget
import Ebms.Proofs.Sending.Finishing

/-! # What an exchange goes by

Each parameter of an exchange is taken from the first place that states it: the draft, the
mode, the sender.  One message id names the message wherever it is named.  All of this is
settled with the request of the exchange, whatever the network does afterwards. -/

set_option autoImplicit false

namespace Ebms

/-- What the first of several places states, or `last` if none of them states anything. -/
def prevailing {α : Type} (places : List (Option α)) (last : α) : α :=
  (places.findSome? id).getD last

/-- The number that is stated.  One below zero states nothing. -/
def statedNumber (number : Option Int) : Option Nat := (number.filter (0 ≤ ·)).map Int.toNat

/-- Two occasions are the same until the message is built. -/
structure Occasion.AgreesUntilBuilt (o later : Occasion) : Prop where
  builtAt : later.builtAt = o.builtAt
  freshMessageId : later.freshMessageId = o.freshMessageId
  freshConversation : later.freshConversation = o.freshConversation
  seed : later.seed = o.seed

def Draft.Awaits : Draft → ExchangeRequest → Prop
  | .user _, r => r.expected = .receiptFor r.envelope.messageId
  | .pull _, r => ∃ info channel, r.envelope.unit = .pullRequest info channel ∧
      r.expected = .pulledMessage channel

/-- The policy of retries with a mode: the numbers as the draft states them, or else, each
for itself, as the mode has them, or else as the sender has them. -/
structure RetryPolicy.IsEffective (policy : RetryPolicy) (options : Options)
    (mode : Option ProcessingMode) (defaults : RetryPolicy) : Prop where
  maxRetries : policy.maxRetries.toNat =
    prevailing [(statedNumber options.maxRetries).map (min · (2 ^ 32 - 1)),
      (mode.bind (·.retry)).map (·.maxRetries.toNat)] defaults.maxRetries.toNat
  interval : policy.interval =
    prevailing [(statedNumber options.retryMilliseconds).map Span.ofMilliseconds,
      (mode.bind (·.retry)).map (·.interval)] defaults.interval
  backoff : policy.backoff =
    prevailing [(mode.bind (·.retry)).map (·.backoff)] defaults.backoff

/-- A request goes by what its draft states, then by what a mode has, then by what its
sender has. -/
structure ExchangeRequest.IsEffective (s : Sender) (o : Occasion) (draft : Draft)
    (mode : Option ProcessingMode) (r : ExchangeRequest) : Prop where
  messageId : r.envelope.messageId =
    prevailing [notBlank draft.options.messageId] (o.freshMessageId ++ "@" ++ s.idEnding)
  awaits : draft.Awaits r
  soap : r.envelope.soap = prevailing [draft.options.soap, mode.bind (·.soap)] .v12
  credentials : r.credentials = [draft.options.credentials, s.credentials].findSome? id
  signsByMode : ∀ agreed, mode = some agreed → r.sign = agreed.security.sign
  signsWithoutMode : mode = none → (r.sign = true ↔ r.credentials.isSome)
  retry : r.retry.IsEffective draft.options mode s.retryDefaults

structure ExchangeRequest.IsSentAs (r : ExchangeRequest) (envelope : Envelope) : Prop where
  unit : envelope.unit = r.envelope.unit
  soap : envelope.soap = r.envelope.soap
  signed : envelope.isSigned = r.sign

/-- A sending goes by a request.  A message that can be prepared is transmitted in one
encoding, no more often than the policy of retries allows and with the waits of this policy.
Each transmission has the message id of the request, and so has an answer. -/
structure Sender.Sent.GoesBy (sent : Sender.Sent) (c : Circumstances) (r : ExchangeRequest)
    (start : Journal) : Prop where
  transmitted : ∀ envelope, r.IsPrepared c envelope → r.IsSentAs envelope ∧
    ∃ attempts pauses, attempts ≤ r.retry.maxAttempts ∧
      Exchange.HasTransmitted c r envelope attempts pauses start sent.journal
  untransmitted : (∀ envelope, ¬ r.IsPrepared c envelope) → sent.journal.sent = []
  transmissionId : ∀ t ∈ sent.journal.sent, t.messageId = r.envelope.messageId
  answerId : ∀ answer, sent.result = .ok answer →
    answer.requestMessageId = r.envelope.messageId

/-! ## Places -/

section Places

variable {α : Type}

@[simp] theorem prevailing_nil (last : α) : prevailing [] last = last := rfl

@[simp] theorem prevailing_cons (place : Option α) (places : List (Option α)) (last : α) :
    prevailing (place :: places) last = place.getD (prevailing places last) := by
  cases place <;> rfl

theorem statedNumber_ofNat (count : Nat) : statedNumber (some (.ofNat count)) = some count := by
  simp [statedNumber, Option.filter]

theorem statedNumber_negSucc (count : Nat) : statedNumber (some (.negSucc count)) = none := by
  simp [statedNumber, Option.filter]

end Places

/-! ## Retries -/

section Retries

variable (options : Options) (mode : Option ProcessingMode) (defaults : RetryPolicy)

theorem prevailing_retry {β : Type} (field : RetryPolicy → β) :
    prevailing [(mode.bind (·.retry)).map field] (field defaults) =
      field ((mode.bind (·.retry)).getD defaults) := by
  rw [prevailing_cons, prevailing_nil, Option.getD_map]

theorem RetryPolicy.isEffective_resolveRetry :
    (options.resolveRetry mode defaults).IsEffective options mode defaults where
  maxRetries := by
    rw [prevailing_cons, prevailing_retry mode defaults (·.maxRetries.toNat)]
    unfold Options.resolveRetry
    rcases stated : options.maxRetries with _ | (count | count)
    · rfl
    · rw [statedNumber_ofNat]
      have small : min count (2 ^ 32 - 1) < 2 ^ 32 := by omega
      exact UInt32.toNat_ofNat_of_lt small
    · rw [statedNumber_negSucc]
      rfl
  interval := by
    rw [prevailing_cons, prevailing_retry mode defaults (·.interval)]
    unfold Options.resolveRetry
    rcases stated : options.retryMilliseconds with _ | (count | count)
    · rfl
    · rw [statedNumber_ofNat]
      rfl
    · rw [statedNumber_negSucc]
      rfl
  backoff := (prevailing_retry mode defaults (·.backoff)).symm

end Retries

/-! ## Requests -/

theorem Sender.isEffective_request (s : Sender) (o : Occasion) (draft : Draft) (url : Url) :
    (s.request o draft url).IsEffective s o draft draft.mode where
  messageId := by
    rw [prevailing_cons, prevailing_nil]
    exact (draft.info_unit _).1
  awaits := by
    cases draft with
    | pull d => exact ⟨_, _, rfl, rfl⟩
    | user d => rfl
  soap := by
    rw [prevailing_cons, prevailing_cons, prevailing_nil, ← Option.getD_or]
    rfl
  credentials := by
    show draft.options.credentials.or s.credentials = _
    cases draft.options.credentials <;> cases s.credentials <;> rfl
  signsByMode := by
    intro agreed same
    simp only [request, same]
  signsWithoutMode := by
    intro without
    simp only [request, without]
  retry := RetryPolicy.isEffective_resolveRetry draft.options draft.mode s.retryDefaults

namespace Draft.Becomes

variable {directory : Directory} {draft ready : Draft} {named : Option ProcessingMode}

theorem mode_customize (becomes : Becomes directory named draft ready) (fresh : String) :
    (ready.customize fresh).mode = named.or draft.mode := by
  cases becomes with
  | @pull d => cases named <;> rfl
  | user d =>
      refine Eq.trans ?_ (d.mode_adopting named)
      show ((d.adopting named).customize fresh).mode = (d.adopting named).mode
      unfold UserDraft.customize
      split <;> rfl

theorem awaits_iff (becomes : Becomes directory named draft ready) (fresh : String)
    (r : ExchangeRequest) : (ready.customize fresh).Awaits r ↔ draft.Awaits r := by
  cases becomes <;> rfl

/-- A request that goes by what becomes of a draft goes by the draft: the mode adds nothing to
its options but an endpoint. -/
theorem isEffective {s : Sender} {o : Occasion} {mode : Option ProcessingMode}
    {r : ExchangeRequest} (becomes : Becomes directory named draft ready) {fresh : String}
    (effective : r.IsEffective s o (ready.customize fresh) mode) :
    r.IsEffective s o draft mode := by
  obtain ⟨endpoint, options⟩ := draft.options.stated_adopting named
  replace options : (ready.customize fresh).options = { draft.options with endpoint } := by
    rw [options_customize, becomes.options, options]
  obtain ⟨messageId, awaits, soap, credentials, signsByMode, signsWithoutMode, retry⟩ := effective
  rw [options] at messageId soap credentials retry
  exact ⟨messageId, (becomes.awaits_iff fresh r).mp awaits, soap, credentials, signsByMode,
    signsWithoutMode, retry.maxRetries, retry.interval, retry.backoff⟩

end Draft.Becomes

/-! ## Exchanges -/

theorem ExchangeRequest.IsPrepared.isSentAs {c : Circumstances} {r : ExchangeRequest}
    {envelope : Envelope} (prepared : r.IsPrepared c envelope)
    (unsigned : r.envelope.isSigned = false) : r.IsSentAs envelope := by
  cases sign : r.sign with
  | false =>
      obtain rfl := prepared.unsigned sign
      exact ⟨rfl, rfl, unsigned.trans sign.symm⟩
  | true =>
      obtain ⟨credentials, -, made, -⟩ := prepared.signed sign
      cases loads : credentials.signingEntry with
      | error error => simp [Envelope.sign, unsigned, loads] at made
      | ok entry =>
          rw [Envelope.sign_eq unsigned loads] at made
          obtain rfl := Except.ok.inj made
          exact ⟨rfl, rfl, sign.symm⟩

namespace Sender

theorem goesBy_exchange (s : Sender) (o : Occasion) (start : Journal) (fresh : start.sent = [])
    {r : ExchangeRequest} (unsigned : r.envelope.isSigned = false) :
    (s.exchange o .working start r).GoesBy (s.circumstances o) r start := by
  obtain ⟨envelope, attempts, _, goesOut, prepared, -⟩ :=
    Exchange.exists_goesOut_run (s.circumstances o) r start
  unfold exchange
  rw [Exchange.executeKept_eq]
  have sent : (Exchange.execute (s.circumstances o) r start).2.sent =
      List.replicate attempts
        (Exchange.transmissionOf r (envelope.encode (s.circumstances o).boundary)) := by
    refine goesOut.sent.trans ?_
    rw [fresh, List.nil_append]
  refine ⟨?_, ?_, ?_, ?_⟩
  · intro envelope prepared
    obtain ⟨causes, ending, course, done, -⟩ := Exchange.execute_of_prepared prepared start
    have budget := r.retry.one_le_maxAttempts
    have allowed := course.allowed
    refine ⟨prepared.isSentAs unsigned, 1 + causes.length, (ending.paused causes).length,
      by omega, ?_⟩
    exact ⟨done.sent, done.told, done.elapsed, done.ticked, done.lasted⟩
  · intro unprepared
    have none : attempts = 0 := by
      by_contra some
      exact unprepared envelope (prepared (Nat.pos_of_ne_zero some))
    exact sent.trans (by rw [none, List.replicate_zero])
  · intro t transmitted
    have member : t ∈ (Exchange.execute (s.circumstances o) r start).2.sent := transmitted
    rw [sent] at member
    rw [List.eq_of_mem_replicate member]
    rfl
  · intro answer answered
    obtain ⟨_, _, _, _, -, -, rfl⟩ := Exchange.accepts_of_execute_eq_ok answered
    rfl

/-- The request of a draft is settled when its message is built. -/
theorem requestOf_congr {o later : Occasion} (agrees : o.AgreesUntilBuilt later) (s : Sender)
    (draft : Draft) : s.requestOf later draft = s.requestOf o draft := by
  have request (ready : Draft) (url : Url) : s.request later ready url = s.request o ready url := by
    unfold Sender.request
    rw [agrees.builtAt, agrees.freshMessageId, agrees.seed]
  unfold requestOf prepare
  rw [agrees.freshConversation]
  simp only [request]

/-- A draft without a flaw leads to an exchange whose request goes by the draft, then by its
mode, then by its sender, and the exchange goes by this request if the disk works.  Nothing
that happens once the message is built has a part in the request. -/
theorem send_isEffective (s : Sender) (o : Occasion) (tracker : Tracker) (folder : SpoolFolder)
    (draft : Draft) (sound : ¬ draft.IsFlawed s.directory) :
    ∃ named r, draft.namedMode s.directory = .ok named ∧
      r.IsEffective s o draft (named.or draft.mode) ∧
      ∀ later, o.AgreesUntilBuilt later →
        (∀ disk, s.send later disk tracker folder draft =
          s.exchange later disk (Journal.start (.opened tracker folder s.spoolThreshold)) r) ∧
        (s.send later .working tracker folder draft).GoesBy (s.circumstances later) r
          (Journal.start (.opened tracker folder s.spoolThreshold)) := by
  obtain ⟨r, made⟩ := exists_requestOf_iff (o := o).mpr sound
  obtain ⟨named, url, ready, isSound, becomes, rfl⟩ := isSound_of_requestOf made
  have effective := s.isEffective_request o (ready.customize o.freshConversation) url
  rw [becomes.mode_customize] at effective
  refine ⟨named, _, isSound.found, becomes.isEffective effective, fun later agrees => ?_⟩
  have exchanged (disk : Disk) : s.send later disk tracker folder draft =
      s.exchange later disk (Journal.start (.opened tracker folder s.spoolThreshold))
        (s.request o (ready.customize o.freshConversation) url) := by
    rw [send_eq, requestOf_congr agrees, made]
  refine ⟨exchanged, ?_⟩
  rw [exchanged]
  exact s.goesBy_exchange later _ rfl rfl

/-! ## A sample draft -/

def sampleSeller : Sender := { sampleSender with directory := Draft.sampleDirectory }

def sampleInvoice : Draft :=
  .user
    { Draft.sampleUser with
      options :=
        { Options.none with
          messageId := some " ", modeId := some "partner", maxRetries := some (-1)
          retryMilliseconds := some 500 } }

theorem exists_isSound_sampleInvoice :
    ∃ url, sampleInvoice.IsSound sampleSeller.directory (some Draft.samplePartner) url := by
  obtain ⟨url, sound⟩ := exists_isSound_samplePull
  obtain ⟨endpoint, stated, read⟩ := sound.endpoint
  have agreed : sampleInvoice.options.endpointWith (some Draft.samplePartner) = some endpoint :=
    (filled_none _).symm.trans stated
  have service : (filled (some " ") (some "invoices")).isSome := by decide +kernel
  have action : (filled (some "cancel") (some "submit")).isSome := by decide +kernel
  exact ⟨url, rfl, trivial, ⟨rfl, Option.isSome_of_eq_some agreed, rfl, rfl, service, action⟩,
    endpoint, agreed, read⟩

theorem send_isEffective_sampleInvoice :
    ∃ r : ExchangeRequest, r.envelope.messageId = "1@as4-core" ∧
      r.expected = .receiptFor "1@as4-core" ∧ r.envelope.soap = .v11 ∧ r.credentials = none ∧
      r.sign = false ∧ r.retry.maxRetries.toNat = 5 ∧
      r.retry.interval = Span.ofMilliseconds 500 ∧
      sampleSeller.send sampleOccasion .working .empty .empty sampleInvoice =
        sampleSeller.exchange sampleOccasion .working
          (Journal.start (.opened .empty .empty sampleSeller.spoolThreshold)) r := by
  obtain ⟨url, sound⟩ := exists_isSound_sampleInvoice
  obtain ⟨named, r, found, effective, goes⟩ :=
    send_isEffective sampleSeller sampleOccasion .empty .empty sampleInvoice sound.not_isFlawed
  obtain rfl : some Draft.samplePartner = named := Except.ok.inj found
  have blank : notBlank (some " ") = none := by decide +kernel
  have messageId : r.envelope.messageId = "1@as4-core" := by
    refine effective.messageId.trans ?_
    show prevailing [notBlank (some " ")] ("1" ++ "@" ++ "as4-core") = _
    rw [blank]
    decide
  refine ⟨r, messageId, ?_, effective.soap, effective.credentials,
    effective.signsByMode _ rfl, effective.retry.maxRetries, effective.retry.interval,
    (goes sampleOccasion ⟨rfl, rfl, rfl, rfl⟩).1 .working⟩
  rw [← messageId]
  exact effective.awaits

end Sender

end Ebms
