import Ebms.Proofs.Exchange.Opening
import Ebms.Proofs.Sending.Validation

/-! # What becomes of a draft

A draft with a flaw is refused, and the refusal is all that comes of it: nobody is told,
nothing is sent and no resource is acquired.  Any other draft becomes a message that
carries what the draft states itself, and whoever watches messages being built sees it
before anything else happens. -/

set_option autoImplicit false

namespace Ebms

structure UserDraft.IsCarriedBy (d : UserDraft) (m : UserMessage) : Prop where
  refToMessageId : m.info.refToMessageId = d.refToMessageId
  sender : ∀ party, d.sender = some party → m.sender = party
  receiver : ∀ party, d.receiver = some party → m.receiver = party
  service : ∀ service, notBlank d.service = some service → m.service = service
  serviceType : ∀ type, d.serviceType = some type → m.serviceType = some type
  action : ∀ action, notBlank d.action = some action → m.action = action
  agreement : ∀ agreement, d.agreement = some agreement → m.agreement = some agreement
  conversation : ∀ id, notBlank d.conversation = some id → m.conversation = id
  channel : ∀ channel, d.channel = some channel → m.channel = some channel
  properties : m.properties = d.properties
  parts : m.parts = d.payloads.map fun payload =>
    { href := payload.href
      properties := [{ name := UserDraft.mediaTypeProperty, value := payload.mediaType }] }

def Draft.IsUnit : Draft → MessageUnit → Prop
  | .pull d, unit => ∃ info channel, unit = .pullRequest info channel ∧
      ∀ stated, d.channelId = some stated → channel = stated
  | .user d, unit => ∃ message, unit = .user message ∧ d.IsCarriedBy message

/-- A message carries what a draft states. -/
structure Draft.IsCarriedBy (draft : Draft) (e : Envelope) : Prop where
  messageId : ∀ id, draft.options.explicitMessageId = some id → e.messageId = id
  timestamp : ∀ time, draft.options.sendingTime = some time → e.unit.info.timestamp = time
  soap : ∀ soap, draft.options.soap = some soap → e.soap = soap
  unit : draft.IsUnit e.unit
  attachments : e.attachments = draft.attachments

/-- What a sending opens with: the notice of the message that was built, if anybody watches
for it.  If that is refused, it is all that has happened. -/
structure Sender.Sent.OpensWith (sent : Sender.Sent) (held : Holding) (o : Observers)
    (envelope : Envelope) : Prop where
  first : o.watches .build = true → ∃ later, sent.journal.notices = .built envelope :: later
  refused : o.watches .build = true → ∀ refusal, o.reply (.built envelope) = .error refusal →
    sent.result = .error refusal.toError ∧ sent.journal.notices = [.built envelope] ∧
      sent.journal.sent = [] ∧ sent.journal.elapsed = ⟨0⟩ ∧ sent.journal.held = held

/-! ## The message -/

theorem filled_of_stated {stated fallback : Option String} {text : String}
    (present : notBlank stated = some text) : filled stated fallback = some text := by
  rw [filled, present, Option.some_or]

namespace UserDraft

variable (d : UserDraft) (named : Option ProcessingMode)

theorem message_customize (fresh : String) (info : MessageInfo) :
    (d.customize fresh).message info =
      { d.message info with conversation := (notBlank d.conversation).getD fresh } := by
  unfold customize
  cases present : notBlank d.conversation with
  | none => rfl
  | some id =>
      have stated := notBlank_eq_some present
      simp [message, stated]

theorem own_adopting :
    (d.adopting named).refToMessageId = d.refToMessageId ∧
      (d.adopting named).conversation = d.conversation ∧
      (d.adopting named).properties = d.properties ∧
      (d.adopting named).payloads = d.payloads := by
  cases named <;> exact ⟨rfl, rfl, rfl, rfl⟩

theorem optional_adopting :
    (d.adopting named).serviceType = d.serviceType.or (named.bind (·.serviceType)) ∧
      (d.adopting named).agreement = d.agreement.or (named.bind (·.agreement)) ∧
      (d.adopting named).channel = d.channel.or (named.bind (·.channel)) := by
  cases named <;> simp [adopting, adopt]

theorem isCarriedBy (fresh : String) (info : MessageInfo) :
    d.IsCarriedBy (((d.adopting named).customize fresh).message info) := by
  obtain ⟨reference, conversation, properties, payloads⟩ := d.own_adopting named
  obtain ⟨sender, receiver⟩ := d.parties_adopting named
  obtain ⟨service, action⟩ := d.texts_adopting named
  obtain ⟨serviceType, agreement, channel⟩ := d.optional_adopting named
  rw [message_customize]
  exact
    { refToMessageId := reference
      sender := by
        intro party stated
        simp [message, sender, stated]
      receiver := by
        intro party stated
        simp [message, receiver, stated]
      service := by
        intro text stated
        simp [message, notBlank_eq_some (service.trans (filled_of_stated stated))]
      serviceType := by
        intro text stated
        simp [message, serviceType, stated]
      action := by
        intro text stated
        simp [message, notBlank_eq_some (action.trans (filled_of_stated stated))]
      agreement := by
        intro text stated
        simp [message, agreement, stated]
      conversation := by
        intro text stated
        simp [conversation, stated]
      channel := by
        intro text stated
        simp [message, channel, stated]
      properties := properties
      parts := by
        simp [message, payloads] }

end UserDraft

/-- With a mode, only the endpoint of the options can change. -/
theorem Options.stated_adopting (o : Options) (named : Option ProcessingMode) :
    ∃ endpoint, o.adopting named = { o with endpoint } := by
  cases named with
  | none => exact ⟨o.endpoint, rfl⟩
  | some mode =>
      rw [adopting]
      by_cases has : o.hasEndpoint = true
      · rw [if_pos has]
        exact ⟨o.endpoint, rfl⟩
      · rw [if_neg has]
        exact ⟨mode.endpoint, rfl⟩

theorem Draft.info_unit (draft : Draft) (info : MessageInfo) :
    (draft.unit info).info.messageId = info.messageId ∧
      (draft.unit info).info.timestamp = info.timestamp := by
  cases draft <;> exact ⟨rfl, rfl⟩

namespace Draft.Becomes

variable {directory : Directory} {draft ready : Draft} {named : Option ProcessingMode}

theorem options (becomes : Becomes directory named draft ready) :
    ready.options = draft.options.adopting named := by
  cases becomes with
  | @pull d => exact d.options_adopting named
  | user d => exact d.options_adopting named

theorem attachments (becomes : Becomes directory named draft ready) (fresh : String) :
    (ready.customize fresh).attachments = draft.attachments := by
  cases becomes with
  | pull resolved known => rfl
  | user d =>
      show ((d.adopting named).customize fresh).payloads = d.payloads
      rw [← (d.own_adopting named).2.2.2]
      unfold UserDraft.customize
      split <;> rfl

theorem isUnit (becomes : Becomes directory named draft ready) (fresh : String)
    (info : MessageInfo) : draft.IsUnit ((ready.customize fresh).unit info) := by
  cases becomes with
  | user d => exact ⟨_, rfl, d.isCarriedBy named fresh info⟩
  | @pull d =>
      refine ⟨info, _, rfl, fun stated asked => ?_⟩
      show (d.adopting named).channelId.getD "" = stated
      rw [d.channelId_adopting, PullDraft.channelWith, filled_of_stated asked, Option.getD_some]

end Draft.Becomes

namespace Sender

variable {s : Sender} {o : Occasion} {draft ready : Draft} {named : Option ProcessingMode}
  {url : Url} {r : ExchangeRequest}

theorem isCarriedBy_request (s : Sender) (o : Occasion)
    (becomes : draft.Becomes s.directory named ready) (url : Url) :
    draft.IsCarriedBy (s.request o (ready.customize o.freshConversation) url).envelope ∧
      (s.request o (ready.customize o.freshConversation) url).observers =
        draft.options.observers := by
  obtain ⟨endpoint, options⟩ := draft.options.stated_adopting named
  replace options : (ready.customize o.freshConversation).options =
      { draft.options with endpoint } := by
    rw [Draft.options_customize, becomes.options, options]
  have unit (info : MessageInfo) := becomes.isUnit o.freshConversation info
  refine ⟨⟨?_, ?_, ?_, unit _, becomes.attachments o.freshConversation⟩, ?_⟩
  · intro id stated
    have explicit : (ready.customize o.freshConversation).options.explicitMessageId = some id := by
      rw [options]
      exact stated
    refine (Draft.info_unit _ _).1.trans ?_
    simp only [explicit, Option.getD_some]
  · intro time stated
    refine (Draft.info_unit _ _).2.trans ?_
    simp only [options, stated, Option.getD_some]
  · intro soap stated
    simp [request, Envelope.ofUnit, options, stated]
  · simp [request, options]

theorem opensWith_exchange (s : Sender) (o : Occasion) (disk : Disk) (tracker : Tracker)
    (folder : SpoolFolder) (r : ExchangeRequest) :
    (s.exchange o disk (Journal.start (.opened tracker folder s.spoolThreshold)) r).OpensWith
      (.opened tracker folder s.spoolThreshold) r.observers r.envelope where
  first watched := (Exchange.built_first watched _).imp fun later same => same.symm
  refused watched refusal refused := by
    unfold exchange Exchange.executeKept
    rw [Exchange.runKept_of_built_refused watched refused]
    exact ⟨rfl, rfl, rfl, rfl, rfl⟩

/-- Sending a flawed draft fails with what is wrong with it, and does nothing else.  Any
other draft becomes a message with what the draft states, and the sending opens with the
notice of that message. -/
theorem send_refuses_or_opens (s : Sender) (o : Occasion) (disk : Disk) (tracker : Tracker)
    (folder : SpoolFolder) (draft : Draft) :
    let held := Holding.opened tracker folder s.spoolThreshold
    (draft.IsFlawed s.directory →
      ∃ error, (s.send o disk tracker folder draft).result = .error (.validation error) ∧
        (s.send o disk tracker folder draft).journal = Journal.start held) ∧
    (¬ draft.IsFlawed s.directory →
      ∃ envelope, draft.IsCarriedBy envelope ∧
        (s.send o disk tracker folder draft).OpensWith held draft.options.observers envelope) := by
  intro held
  rw [send_eq]
  constructor
  · intro flawed
    cases made : s.requestOf o draft with
    | ok r => exact absurd flawed (exists_requestOf_iff.mp ⟨r, made⟩)
    | error error => exact ⟨error, rfl, rfl⟩
  · intro sound
    obtain ⟨r, made⟩ := exists_requestOf_iff.mpr sound
    obtain ⟨named, url, ready, -, becomes, rfl⟩ := isSound_of_requestOf made
    obtain ⟨carried, observers⟩ := s.isCarriedBy_request o becomes url
    rw [made, ← observers]
    exact ⟨_, carried, s.opensWith_exchange o disk tracker folder _⟩

/-! ## Sample drafts -/

def samplePull (channel : String) : Draft :=
  .pull
    { channel := some channel, mode := none, resolved := none
      options :=
        { Options.none with
          messageId := some "pull@test", endpoint := some " https://partner.example/as4 "
          observers :=
            { watches := fun slot => slot == .build, reply := fun _ => .error (.other "no") } } }

def sampleOccasion : Occasion :=
  { clock := Exchange.sampleClock
    builtAt := default, signedAt := default, verifiedAt := default
    freshMessageId := "1", freshConversation := "2", seed := "3", boundary := "4"
    outcome := fun _ => default, cancelled := fun _ => false }

def sampleSender : Sender := standard Suite.standard

theorem exists_isSound_samplePull :
    ∃ url, (samplePull defaultChannel).IsSound sampleSender.directory none url := by
  have known : filled (some defaultChannel) none = some defaultChannel := by decide +kernel
  have url : (Url.ofText (Text.trim " https://partner.example/as4 ")).toOption.isSome := by
    decide +kernel
  obtain ⟨url, read⟩ := Option.isSome_iff_exists.mp url
  refine ⟨url, rfl, ?_, ⟨?_, by decide⟩, _, rfl, ?_⟩
  · intro id asked
    obtain rfl := Option.some.inj (known.symm.trans asked)
    exact ⟨⟨defaultChannel⟩, by decide +kernel⟩
  · exact Option.isSome_iff_exists.mpr ⟨_, known⟩
  · cases found : Url.ofText (Text.trim " https://partner.example/as4 ") with
    | error fault => simp [found, Except.toOption] at read
    | ok other =>
        rw [found] at read
        exact congrArg Except.ok (Option.some.inj read)

theorem send_refuses_or_opens_samplePull :
    (∃ error, (sampleSender.send sampleOccasion .working .empty .empty (samplePull " ")).result =
      .error (.validation error)) ∧
    ∃ envelope, envelope.messageId = "pull@test" ∧
      (sampleSender.send sampleOccasion .working .empty .empty (samplePull defaultChannel)).result =
        .error (.wrapped "no") ∧
      (sampleSender.send sampleOccasion .working .empty .empty (samplePull defaultChannel)).journal.notices =
        [.built envelope] := by
  constructor
  · have aimless : (samplePull " ").IsFlawed sampleSender.directory :=
      .incomplete rfl fun complete => absurd complete.channel (by decide)
    obtain ⟨error, refused, -⟩ := (send_refuses_or_opens _ sampleOccasion .working .empty .empty _).1 aimless
    exact ⟨error, refused⟩
  · obtain ⟨url, sound⟩ := exists_isSound_samplePull
    obtain ⟨envelope, carried, opens⟩ :=
      (send_refuses_or_opens _ sampleOccasion .working .empty .empty _).2 sound.not_isFlawed
    obtain ⟨result, notices, -⟩ := opens.refused rfl (.other "no") rfl
    exact ⟨envelope, carried.messageId _ rfl, result, notices⟩

end Sender

end Ebms
