import Ebms.Exchange.Acceptance
import Ebms.Mode.Registry
import Ebms.Sending.Options

/-! # Drafts

A draft is a message that is being put together: a pull request or a user
message, with options.  Finishing a draft takes from its processing mode what it
leaves open. -/

set_option autoImplicit false

namespace Ebms

/-- Where processing modes and channels are looked up. -/
structure Directory where
  mode : String → Except LookupError ProcessingMode
  channel : String → Except LookupError Channel

def Directory.ofRegistries (modes : ModeRegistry) (channels : ChannelRegistry) : Directory :=
  { mode := modes.resolve, channel := channels.resolve }

/-- A request for the next user message of a channel. -/
structure PullDraft where
  options : Options
  channel : Option String
  mode : Option ProcessingMode
  resolved : Option Channel
  deriving Inhabited

namespace PullDraft

def channelId (d : PullDraft) : Option String := notBlank d.channel

def adopt (d : PullDraft) (mode : ProcessingMode) : PullDraft :=
  { d with
    channel := if d.channelId.isNone then mode.channel else d.channel
    options := if d.options.hasEndpoint then d.options
      else { d.options with endpoint := mode.endpoint }
    mode := some mode }

def resolveChannel (d : PullDraft) (directory : Directory) :
    PullDraft × Except LookupError Unit :=
  match d.channelId with
  | none => (d, .ok ())
  | some id =>
    match directory.channel id with
    | .ok channel => ({ d with resolved := some channel }, .ok ())
    | .error error => (d, .error error)

/-- Takes what is left open from the mode, then looks the channel up. -/
def finish (d : PullDraft) (directory : Directory) : PullDraft × Except LookupError Unit :=
  match d.options.modeId with
  | none => d.resolveChannel directory
  | some id =>
    match directory.mode id with
    | .error error => (d, .error error)
    | .ok mode => (d.adopt mode).resolveChannel directory

def missing (d : PullDraft) : List String :=
  (if d.channelId.isNone then ["mpc"] else [])
    ++ (if d.options.hasEndpoint then [] else ["endpoint_url"])

end PullDraft

structure UserDraft where
  options : Options
  sender : Option Party
  receiver : Option Party
  service : Option String
  serviceType : Option String
  action : Option String
  agreement : Option String
  conversation : Option String
  refToMessageId : Option String
  channel : Option String
  properties : List Property
  payloads : List Attachment
  mode : Option ProcessingMode
  deriving Inhabited

namespace UserDraft

def mediaTypeProperty : String := "MimeType"

def adopt (d : UserDraft) (mode : ProcessingMode) : UserDraft :=
  { d with
    sender := d.sender.or mode.initiator
    receiver := d.receiver.or mode.responder
    service := if (notBlank d.service).isNone then mode.service else d.service
    serviceType := d.serviceType.or mode.serviceType
    action := if (notBlank d.action).isNone then mode.action else d.action
    agreement := d.agreement.or mode.agreement
    channel := d.channel.or mode.channel
    options := if d.options.hasEndpoint then d.options
      else { d.options with endpoint := mode.endpoint }
    mode := some mode }

def finish (d : UserDraft) (directory : Directory) : UserDraft × Except LookupError Unit :=
  match d.options.modeId with
  | none => (d, .ok ())
  | some id =>
    match directory.mode id with
    | .error error => (d, .error error)
    | .ok mode => (d.adopt mode, .ok ())

def missing (d : UserDraft) : List String :=
  (if d.mode.isNone then ["pmode"] else [])
    ++ (if d.options.hasEndpoint then [] else ["endpoint_url"])
    ++ (if d.sender.isNone then ["from_party"] else [])
    ++ (if d.receiver.isNone then ["to_party"] else [])
    ++ (if (notBlank d.service).isNone then ["service"] else [])
    ++ (if (notBlank d.action).isNone then ["action"] else [])

/-- The draft in a conversation: a fresh one, unless one is stated. -/
def customize (d : UserDraft) (freshId : String) : UserDraft :=
  if (notBlank d.conversation).isNone then { d with conversation := some freshId } else d

def unknownParty : Party := { id := "", idType := none, role := "" }

def message (d : UserDraft) (info : MessageInfo) : UserMessage :=
  { info := { info with refToMessageId := d.refToMessageId }
    channel := d.channel
    sender := d.sender.getD unknownParty
    receiver := d.receiver.getD unknownParty
    agreement := d.agreement
    service := d.service.getD ""
    serviceType := d.serviceType
    action := d.action.getD ""
    conversation := d.conversation.getD ""
    properties := d.properties
    parts := d.payloads.map fun payload =>
      { href := payload.href
        properties := [{ name := mediaTypeProperty, value := payload.mediaType }] } }

end UserDraft

inductive Draft where
  | pull (draft : PullDraft)
  | user (draft : UserDraft)
  deriving Inhabited

namespace Draft

def kind : Draft → String
  | .pull _ => "PullRequest"
  | .user _ => "UserMessage"

def options : Draft → Options
  | .pull d => d.options
  | .user d => d.options

def mode : Draft → Option ProcessingMode
  | .pull d => d.mode
  | .user d => d.mode

/-- Takes what is left open from the mode.  What was found before a lookup
failed stays. -/
def finish (draft : Draft) (directory : Directory) : Draft × Except LookupError Unit :=
  match draft with
  | .pull d => let (d, result) := d.finish directory; (.pull d, result)
  | .user d => let (d, result) := d.finish directory; (.user d, result)

def missing : Draft → List String
  | .pull d => d.missing
  | .user d => d.missing

def customize (draft : Draft) (freshId : String) : Draft :=
  match draft with
  | .pull d => .pull d
  | .user d => .user (d.customize freshId)

def unit (draft : Draft) (info : MessageInfo) : MessageUnit :=
  match draft with
  | .pull d => .pullRequest info (d.channelId.getD "")
  | .user d => .user (d.message info)

def expected (draft : Draft) (messageId : String) : Expectation :=
  match draft with
  | .pull d => .pulledMessage (d.channelId.getD "")
  | .user _ => .receiptFor messageId

def attachments : Draft → List Attachment
  | .pull _ => []
  | .user d => d.payloads

end Draft

end Ebms
