import Ebms.Exchange.Retained
import Ebms.Sending.Draft
import Ebms.Url

/-! # Sending

A sender holds what its messages have in common.  Sending a draft finishes and
checks it before anything else happens; then the exchange runs with a scope of
its own, which is closed whatever the outcome. -/

set_option autoImplicit false

namespace Ebms

/-- What all messages of one sender have in common. -/
structure Sender where
  directory : Directory
  suite : Suite
  timeToLive : Span
  credentials : Option Credentials
  retryDefaults : RetryPolicy
  attemptLimit : Span
  spoolThreshold : Nat
  /-- What follows the at sign in generated message ids. -/
  idEnding : String

namespace Sender

def standardTimeToLive : Span := Span.ofSeconds 300

def standardIdEnding : String := "as4-core"

def standardRetry : RetryPolicy :=
  { maxRetries := 1, interval := Span.ofSeconds 10, backoff := .fixed }

def standard (suite : Suite) : Sender :=
  { directory := .ofRegistries .empty .standard
    suite
    timeToLive := standardTimeToLive
    credentials := none
    retryDefaults := standardRetry
    attemptLimit := Span.ofSeconds 60
    spoolThreshold := defaultSpoolThreshold
    idEnding := standardIdEnding }

end Sender

/-- What a single sending meets with: the clock, fresh names, the network. -/
structure Occasion where
  clock : Clock
  builtAt : Instant
  signedAt : Instant
  verifiedAt : Instant
  freshMessageId : String
  freshConversation : String
  /-- What the ids of a fresh envelope end in. -/
  seed : String
  boundary : String
  outcome : Nat → Outcome
  cancelled : Nat → Bool

def generatedMessageId (fresh ending : String) : String := fresh ++ "@" ++ ending

namespace Sender

def circumstances (s : Sender) (o : Occasion) : Circumstances :=
  { suite := s.suite, clock := o.clock, timeToLive := s.timeToLive,
    attemptLimit := s.attemptLimit, signedAt := o.signedAt, verifiedAt := o.verifiedAt,
    boundary := o.boundary, outcome := o.outcome, cancelled := o.cancelled }

def endpointOf (draft : Draft) : Except ValidationError Url :=
  match Url.ofText (Text.trim (draft.options.endpoint.getD "")) with
  | .ok url => .ok url
  | .error fault => .error (.invalidField "endpoint_url" fault.message)

def request (s : Sender) (o : Occasion) (draft : Draft) (endpoint : Url) : ExchangeRequest :=
  let options := draft.options
  let messageId := options.explicitMessageId.getD (generatedMessageId o.freshMessageId s.idEnding)
  let soap := (options.soap.or (draft.mode.bind (·.soap))).getD .v12
  let credentials := options.credentials.or s.credentials
  let info : MessageInfo :=
    { timestamp := options.sendingTime.getD o.builtAt, messageId, refToMessageId := none }
  { envelope := Envelope.ofUnit o.seed soap (draft.unit info) draft.attachments
    endpoint := endpoint.text
    expected := draft.expected messageId
    credentials
    sign := match draft.mode with
      | some mode => mode.security.sign
      | none => credentials.isSome
    requireSignedResponse := draft.mode.any (·.security.requireSignedResponse)
    retry := options.resolveRetry draft.mode s.retryDefaults
    observers := options.observers }

/-- A draft made ready to be sent: finished, checked and customized. -/
def prepare (s : Sender) (o : Occasion) (draft : Draft) : Except ValidationError Draft :=
  match draft.finish s.directory with
  | (_, .error error) => .error (.lookup error)
  | (draft, .ok ()) =>
    if draft.missing.isEmpty then .ok (draft.customize o.freshConversation)
    else .error (.missingFields draft.missing)

/-- What a sending leaves behind: its outcome, and the journal of the exchange
with its scope closed. -/
structure Sent where
  result : Except ExchangeError Answer
  journal : Journal

def refused (held : Holding) (error : ValidationError) : Sent :=
  { result := .error (.validation error), journal := Journal.start held }

def exchange (s : Sender) (o : Occasion) (disk : Disk) (start : Journal) (r : ExchangeRequest) :
    Sent :=
  let (result, journal) := Exchange.executeKept disk (s.circumstances o) r start
  { result, journal := { journal with held := journal.held.close } }

/-- Sends a draft, with a new scope over a tracker and a folder. -/
def send (s : Sender) (o : Occasion) (disk : Disk) (tracker : Tracker) (folder : SpoolFolder)
    (draft : Draft) : Sent :=
  let held := Holding.opened tracker folder s.spoolThreshold
  match s.prepare o draft with
  | .error error => refused held error
  | .ok draft =>
    match endpointOf draft with
    | .error error => refused held error
    | .ok endpoint => s.exchange o disk (Journal.start held) (s.request o draft endpoint)

end Sender

end Ebms
