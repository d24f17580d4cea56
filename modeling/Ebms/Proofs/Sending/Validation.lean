import Ebms.Proofs.Exchange.Opening
import Ebms.Proofs.Sending.Resources

/-! # Drafts that cannot be sent

A draft is checked before anything else happens.  One that names an unknown mode, asks an
unknown channel, leaves open what it has to state, or has no URL as its endpoint is
refused, and the refusal is all that comes of it.  Any other draft becomes a message, and
the first that can be seen of it is the notice to whoever watches messages being built;
it carries what the draft states. -/

set_option autoImplicit false

namespace Ebms

/-! ## What a draft ends up with -/

/-- What is stated in the end: the text itself, or else what stands in for it.  Blank
texts state nothing. -/
def filled (stated fallback : Option String) : Option String :=
  (notBlank stated).or (notBlank fallback)

def Draft.namedMode (draft : Draft) (directory : Directory) :
    Except LookupError (Option ProcessingMode) :=
  match draft.options.modeId with
  | none => .ok none
  | some id => (directory.mode id).map some

def Options.endpointWith (o : Options) (named : Option ProcessingMode) : Option String :=
  filled o.endpoint (named.bind (·.endpoint))

def PullDraft.channelWith (d : PullDraft) (named : Option ProcessingMode) : Option String :=
  filled d.channel (named.bind (·.channel))

/-- With the mode that it names, a pull request has all that it needs. -/
structure PullDraft.IsComplete (d : PullDraft) (named : Option ProcessingMode) : Prop where
  channel : (d.channelWith named).isSome
  endpoint : (d.options.endpointWith named).isSome

structure UserDraft.IsComplete (d : UserDraft) (named : Option ProcessingMode) : Prop where
  mode : (named.or d.mode).isSome
  endpoint : (d.options.endpointWith named).isSome
  sender : (d.sender.or (named.bind (·.initiator))).isSome
  receiver : (d.receiver.or (named.bind (·.responder))).isSome
  service : (filled d.service (named.bind (·.service))).isSome
  action : (filled d.action (named.bind (·.action))).isSome

namespace Draft

def IsComplete : Draft → Option ProcessingMode → Prop
  | .pull d, named => d.IsComplete named
  | .user d, named => d.IsComplete named

def AsksKnown (directory : Directory) (named : Option ProcessingMode) : Draft → Prop
  | .pull d => ∀ id, d.channelWith named = some id → ∃ channel, directory.channel id = .ok channel
  | .user _ => True

/-- Why a draft cannot be sent. -/
inductive IsFlawed (directory : Directory) : Draft → Prop where
  | unknownMode {draft : Draft} {error : LookupError}
      (unknown : draft.namedMode directory = .error error) : IsFlawed directory draft
  | unknownChannel {d : PullDraft} {named : Option ProcessingMode} {id : String}
      {error : LookupError} (found : (Draft.pull d).namedMode directory = .ok named)
      (stated : d.channelWith named = some id) (unknown : directory.channel id = .error error) :
      IsFlawed directory (.pull d)
  | incomplete {draft : Draft} {named : Option ProcessingMode}
      (found : draft.namedMode directory = .ok named) (incomplete : ¬ draft.IsComplete named) :
      IsFlawed directory draft
  | noUrl {draft : Draft} {named : Option ProcessingMode} {endpoint : String}
      (found : draft.namedMode directory = .ok named)
      (stated : draft.options.endpointWith named = some endpoint)
      (noUrl : ∀ url, Url.ofText (Text.trim endpoint) ≠ .ok url) : IsFlawed directory draft

structure IsSound (directory : Directory) (draft : Draft) (named : Option ProcessingMode)
    (url : Url) : Prop where
  found : draft.namedMode directory = .ok named
  channel : draft.AsksKnown directory named
  complete : draft.IsComplete named
  endpoint : ∃ endpoint, draft.options.endpointWith named = some endpoint ∧
    Url.ofText (Text.trim endpoint) = .ok url

theorem isSome_endpoint {draft : Draft} {named : Option ProcessingMode}
    (complete : draft.IsComplete named) : (draft.options.endpointWith named).isSome := by
  cases draft with
  | pull d => exact complete.endpoint
  | user d => exact complete.endpoint

theorem exists_isSound {directory : Directory} {draft : Draft}
    (sound : ¬ draft.IsFlawed directory) : ∃ named url, draft.IsSound directory named url := by
  cases found : draft.namedMode directory with
  | error error => exact absurd (.unknownMode found) sound
  | ok named =>
      have complete : draft.IsComplete named := by
        by_cases complete : draft.IsComplete named
        · exact complete
        · exact absurd (.incomplete found complete) sound
      obtain ⟨endpoint, stated⟩ := Option.isSome_iff_exists.mp (isSome_endpoint complete)
      cases read : Url.ofText (Text.trim endpoint) with
      | error fault =>
          refine absurd (.noUrl found stated fun url same => ?_) sound
          rw [read] at same
          cases same
      | ok url =>
          refine ⟨named, url, found, ?_, complete, endpoint, stated, read⟩
          cases draft with
          | user d => trivial
          | pull d =>
              intro id asked
              cases known : directory.channel id with
              | error error => exact absurd (.unknownChannel found asked known) sound
              | ok channel => exact ⟨channel, rfl⟩

theorem IsSound.not_isFlawed {directory : Directory} {draft : Draft}
    {named : Option ProcessingMode} {url : Url} (sound : draft.IsSound directory named url) :
    ¬ draft.IsFlawed directory := by
  have found := sound.found
  intro flawed
  cases flawed with
  | unknownMode unknown =>
      rw [found] at unknown
      cases unknown
  | unknownChannel same stated unknown =>
      obtain rfl := Except.ok.inj (found.symm.trans same)
      obtain ⟨channel, known⟩ := sound.channel _ stated
      rw [known] at unknown
      cases unknown
  | incomplete same incomplete =>
      obtain rfl := Except.ok.inj (found.symm.trans same)
      exact incomplete sound.complete
  | noUrl same stated noUrl =>
      obtain rfl := Except.ok.inj (found.symm.trans same)
      obtain ⟨endpoint, known, read⟩ := sound.endpoint
      obtain rfl := Option.some.inj (known.symm.trans stated)
      exact noUrl _ read

end Draft

/-! ## Finishing a draft -/

theorem notBlank_eq_some {stated : Option String} {text : String}
    (present : notBlank stated = some text) : stated = some text :=
  (Option.filter_eq_some_iff.mp present).1

theorem notBlank_ite_isNone (stated fallback : Option String) :
    notBlank (if (notBlank stated).isNone then fallback else stated) = filled stated fallback := by
  cases present : notBlank stated <;> simp [filled, present]

@[simp] theorem filled_none (stated : Option String) : filled stated none = notBlank stated := by
  simp [filled, notBlank]

theorem ite_isNone_eq_nil {α : Type} (value : Option α) (name : String) :
    (if value.isNone then [name] else []) = [] ↔ value.isSome := by
  cases value <;> simp

theorem ite_isSome_eq_nil {α : Type} (value : Option α) (name : String) :
    (if value.isSome then [] else [name]) = [] ↔ value.isSome := by
  cases value <;> simp

/-- The options with the endpoint of a mode, if they leave it open. -/
def Options.adopting (o : Options) : Option ProcessingMode → Options
  | .none => o
  | .some mode => if o.hasEndpoint then o else { o with endpoint := mode.endpoint }

theorem Options.notBlank_endpoint_adopting (o : Options) (named : Option ProcessingMode) :
    notBlank (o.adopting named).endpoint = o.endpointWith named := by
  cases named with
  | none => simp [adopting, endpointWith]
  | some mode =>
      unfold adopting hasEndpoint endpointWith filled
      cases present : notBlank o.endpoint <;> simp [present]

theorem Options.hasEndpoint_adopting (o : Options) (named : Option ProcessingMode) :
    (o.adopting named).hasEndpoint = (o.endpointWith named).isSome := by
  rw [hasEndpoint, notBlank_endpoint_adopting]

namespace PullDraft

def adopting (d : PullDraft) : Option ProcessingMode → PullDraft
  | none => d
  | some mode => d.adopt mode

variable (d : PullDraft) (named : Option ProcessingMode)

theorem options_adopting : (d.adopting named).options = d.options.adopting named := by
  cases named <;> rfl

theorem channelId_adopting : (d.adopting named).channelId = d.channelWith named := by
  cases named with
  | none => simp [adopting, channelWith, channelId]
  | some mode => exact notBlank_ite_isNone d.channel mode.channel

theorem finish_eq (directory : Directory) :
    d.finish directory =
      match (Draft.pull d).namedMode directory with
      | .error error => (d, .error error)
      | .ok named => (d.adopting named).resolveChannel directory := by
  unfold finish Draft.namedMode Draft.options
  cases d.options.modeId with
  | none => rfl
  | some id => cases found : directory.mode id <;> simp only [found, Except.map, adopting]

theorem resolveChannel_eq (directory : Directory) :
    (∃ resolved, d.resolveChannel directory = ({ d with resolved }, .ok ()) ∧
        ∀ id, d.channelId = some id → ∃ channel, directory.channel id = .ok channel) ∨
      ∃ id error, d.channelId = some id ∧ directory.channel id = .error error ∧
        d.resolveChannel directory = (d, .error error) := by
  unfold resolveChannel
  cases d.channelId with
  | none => exact .inl ⟨d.resolved, rfl, nofun⟩
  | some id =>
      cases known : directory.channel id with
      | ok channel =>
          refine .inl ⟨some channel, by simp only [known], ?_⟩
          rintro _ ⟨⟩
          exact ⟨channel, known⟩
      | error error => exact .inr ⟨id, error, rfl, known, by simp only [known]⟩

theorem missing_adopting : (d.adopting named).missing = [] ↔ d.IsComplete named := by
  unfold missing
  rw [channelId_adopting, options_adopting, Options.hasEndpoint_adopting,
    List.append_eq_nil_iff, ite_isNone_eq_nil, ite_isSome_eq_nil]
  exact ⟨fun ⟨channel, endpoint⟩ => ⟨channel, endpoint⟩,
    fun ⟨channel, endpoint⟩ => ⟨channel, endpoint⟩⟩

end PullDraft

namespace UserDraft

def adopting (d : UserDraft) : Option ProcessingMode → UserDraft
  | none => d
  | some mode => d.adopt mode

variable (d : UserDraft) (named : Option ProcessingMode)

theorem options_adopting : (d.adopting named).options = d.options.adopting named := by
  cases named <;> rfl

theorem finish_eq (directory : Directory) :
    d.finish directory =
      match (Draft.user d).namedMode directory with
      | .error error => (d, .error error)
      | .ok named => (d.adopting named, .ok ()) := by
  unfold finish Draft.namedMode Draft.options
  cases d.options.modeId with
  | none => rfl
  | some id => cases found : directory.mode id <;> simp only [found, Except.map, adopting]

theorem mode_adopting : (d.adopting named).mode = named.or d.mode := by
  cases named <;> rfl

theorem parties_adopting :
    (d.adopting named).sender = d.sender.or (named.bind (·.initiator)) ∧
      (d.adopting named).receiver = d.receiver.or (named.bind (·.responder)) := by
  cases named <;> simp [adopting, adopt]

theorem texts_adopting :
    notBlank (d.adopting named).service = filled d.service (named.bind (·.service)) ∧
      notBlank (d.adopting named).action = filled d.action (named.bind (·.action)) := by
  cases named with
  | none => simp [adopting]
  | some mode =>
      exact ⟨notBlank_ite_isNone d.service mode.service, notBlank_ite_isNone d.action mode.action⟩

theorem missing_adopting : (d.adopting named).missing = [] ↔ d.IsComplete named := by
  obtain ⟨sender, receiver⟩ := d.parties_adopting named
  obtain ⟨service, action⟩ := d.texts_adopting named
  unfold missing
  rw [mode_adopting, options_adopting, Options.hasEndpoint_adopting, sender, receiver, service,
    action]
  simp only [List.append_eq_nil_iff, ite_isNone_eq_nil, ite_isSome_eq_nil]
  constructor
  · rintro ⟨⟨⟨⟨⟨mode, endpoint⟩, sender⟩, receiver⟩, service⟩, action⟩
    exact ⟨mode, endpoint, sender, receiver, service, action⟩
  · rintro ⟨mode, endpoint, sender, receiver, service, action⟩
    exact ⟨⟨⟨⟨⟨mode, endpoint⟩, sender⟩, receiver⟩, service⟩, action⟩

end UserDraft

namespace Draft

variable {directory : Directory} {draft ready : Draft} {named : Option ProcessingMode}

/-- With the mode that it names, and with the channel that it asks, a draft becomes
another one. -/
inductive Becomes (directory : Directory) (named : Option ProcessingMode) :
    Draft → Draft → Prop where
  | pull {d : PullDraft} (resolved : Option Channel)
      (known : (Draft.pull d).AsksKnown directory named) :
      Becomes directory named (.pull d) (.pull { d.adopting named with resolved })
  | user (d : UserDraft) : Becomes directory named (.user d) (.user (d.adopting named))

namespace Becomes

theorem asksKnown (becomes : Becomes directory named draft ready) :
    draft.AsksKnown directory named := by
  cases becomes with
  | pull resolved known => exact known
  | user d => trivial

theorem missing (becomes : Becomes directory named draft ready) :
    ready.missing = [] ↔ draft.IsComplete named := by
  cases becomes with
  | @pull d => exact d.missing_adopting named
  | user d => exact d.missing_adopting named

theorem endpoint (becomes : Becomes directory named draft ready) :
    notBlank ready.options.endpoint = draft.options.endpointWith named := by
  rw [← Options.notBlank_endpoint_adopting]
  cases becomes with
  | @pull d => exact congrArg (notBlank ·.endpoint) (d.options_adopting named)
  | user d => exact congrArg (notBlank ·.endpoint) (d.options_adopting named)

end Becomes

theorem exists_becomes_of_finish (finished : draft.finish directory = (ready, .ok ())) :
    ∃ named, draft.namedMode directory = .ok named ∧ Becomes directory named draft ready := by
  cases draft with
  | pull d =>
      simp only [finish, d.finish_eq] at finished
      cases found : (Draft.pull d).namedMode directory with
      | error error => simp [found] at finished
      | ok named =>
          refine ⟨named, rfl, ?_⟩
          rcases (d.adopting named).resolveChannel_eq directory with
            ⟨resolved, known, channels⟩ | ⟨_, _, _, _, unknown⟩
          · simp only [found, known, Prod.mk.injEq, and_true] at finished
            rw [d.channelId_adopting] at channels
            exact finished ▸ .pull resolved channels
          · simp [found, unknown] at finished
  | user d =>
      simp only [finish, d.finish_eq] at finished
      cases found : (Draft.user d).namedMode directory with
      | error error => simp [found] at finished
      | ok named =>
          simp only [found, Prod.mk.injEq, and_true] at finished
          exact ⟨named, rfl, finished ▸ .user d⟩

theorem exists_finish (found : draft.namedMode directory = .ok named)
    (known : draft.AsksKnown directory named) :
    ∃ ready, draft.finish directory = (ready, .ok ()) := by
  cases draft with
  | pull d =>
      rcases (d.adopting named).resolveChannel_eq directory with
        ⟨resolved, resolves, _⟩ | ⟨id, error, asked, unknown, _⟩
      · refine ⟨.pull { d.adopting named with resolved }, ?_⟩
        simp only [finish, d.finish_eq, found, resolves]
      · rw [d.channelId_adopting] at asked
        obtain ⟨channel, same⟩ := known id asked
        rw [unknown] at same
        cases same
  | user d =>
      refine ⟨.user (d.adopting named), ?_⟩
      simp only [finish, d.finish_eq, found]

theorem options_customize (draft : Draft) (fresh : String) :
    (draft.customize fresh).options = draft.options := by
  cases draft with
  | pull d => rfl
  | user d =>
      show (d.customize fresh).options = d.options
      unfold UserDraft.customize
      split <;> rfl

end Draft

/-! ## Drafts and exchanges -/

namespace Sender

variable {s : Sender} {o : Occasion} {draft ready : Draft} {named : Option ProcessingMode}
  {url : Url} {r : ExchangeRequest}

theorem endpointOf_eq (finished : draft.Becomes s.directory named ready) {endpoint : String}
    (stated : draft.options.endpointWith named = some endpoint) (fresh : String) :
    endpointOf (ready.customize fresh) =
      (Url.ofText (Text.trim endpoint)).mapError
        fun fault => .invalidField "endpoint_url" fault.message := by
  have kept : ready.options.endpoint = some endpoint :=
    notBlank_eq_some (finished.endpoint.trans stated)
  unfold endpointOf
  rw [Draft.options_customize, kept, Option.getD_some]
  cases read : Url.ofText (Text.trim endpoint) <;> simp only [Except.mapError]

theorem isSound_of_requestOf (made : s.requestOf o draft = .ok r) :
    ∃ named url ready, draft.IsSound s.directory named url ∧
      draft.Becomes s.directory named ready ∧
        r = s.request o (ready.customize o.freshConversation) url := by
  unfold requestOf prepare at made
  cases finished : draft.finish s.directory with
  | mk ready result =>
      cases result with
      | error error => simp [finished] at made
      | ok _ =>
          obtain ⟨named, found, becomes⟩ := Draft.exists_becomes_of_finish finished
          by_cases complete : ready.missing = []
          · have full := becomes.missing.mp complete
            obtain ⟨endpoint, stated⟩ := Option.isSome_iff_exists.mp (Draft.isSome_endpoint full)
            simp only [finished, complete, List.isEmpty_nil, if_true,
              endpointOf_eq becomes stated] at made
            cases read : Url.ofText (Text.trim endpoint) with
            | error fault => simp [read, Except.mapError] at made
            | ok url =>
                simp only [read, Except.mapError, Except.ok.injEq] at made
                exact ⟨named, url, ready, ⟨found, becomes.asksKnown, full, endpoint, stated, read⟩,
                  becomes, made.symm⟩
          · simp [finished, complete] at made

theorem exists_requestOf (sound : draft.IsSound s.directory named url) (o : Occasion) :
    ∃ r, s.requestOf o draft = .ok r := by
  obtain ⟨ready, finished⟩ := Draft.exists_finish sound.found sound.channel
  obtain ⟨same, found, becomes⟩ := Draft.exists_becomes_of_finish finished
  obtain rfl := Except.ok.inj (sound.found.symm.trans found)
  obtain ⟨endpoint, stated, read⟩ := sound.endpoint
  refine ⟨s.request o (ready.customize o.freshConversation) url, ?_⟩
  simp only [requestOf, prepare, finished, becomes.missing.mpr sound.complete, List.isEmpty_nil,
    if_true, endpointOf_eq becomes stated, read, Except.mapError]

/-- A draft is flawed or leads to an exchange. -/
theorem exists_requestOf_iff :
    (∃ r, s.requestOf o draft = .ok r) ↔ ¬ draft.IsFlawed s.directory := by
  constructor
  · rintro ⟨r, made⟩
    obtain ⟨_, _, _, sound, _⟩ := isSound_of_requestOf made
    exact sound.not_isFlawed
  · intro unflawed
    obtain ⟨_, _, sound⟩ := Draft.exists_isSound unflawed
    exact exists_requestOf sound o

end Sender

end Ebms
