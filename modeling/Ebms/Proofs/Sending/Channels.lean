import Ebms.Proofs.Sending.Effective

/-! # The channel of a message

A pull request asks for the messages of a channel, and a user message may be sent on one.
Either takes the channel from the mode that it names if it states none itself.  The channel
of a pull request is looked up while the draft is finished, and a draft for a channel that is
not known is refused there.  The channel of a user message is not looked up by anybody: the
message goes out on it as if it were known. -/

set_option autoImplicit false

namespace Ebms

def MessageUnit.channel? : MessageUnit → Option String
  | .user message => message.channel
  | .pullRequest _ channel => some channel
  | _ => none

namespace Draft

/-- The channel of the message that a draft becomes with a mode.  A blank text states no
channel to ask, but a user message carries it. -/
def channelWith : Draft → Option ProcessingMode → Option String
  | .pull d, named => d.channelWith named
  | .user d, named => d.channel.or (named.bind (·.channel))

/-- The message that a draft becomes is for a channel that is not known. -/
def IsStray (directory : Directory) (draft : Draft) : Prop :=
  ∃ named id, draft.namedMode directory = .ok named ∧ draft.channelWith named = some id ∧
    ∀ channel, directory.channel id ≠ .ok channel

end Draft

namespace Sender

def FailsToFind (s : Sender) (o : Occasion) (disk : Disk) (tracker : Tracker)
    (folder : SpoolFolder) (draft : Draft) : Prop :=
  ∃ error, s.send o disk tracker folder draft =
    refused (.opened tracker folder s.spoolThreshold) (.lookup error)

/-- A draft is refused if its message is for a channel that is not known. -/
def RefusesStray (s : Sender) (draft : Draft) : Prop :=
  draft.IsStray s.directory →
    ∀ o disk tracker folder, s.FailsToFind o disk tracker folder draft

end Sender

/-! ## What a draft becomes -/

namespace Draft

variable {directory : Directory} {draft ready : Draft} {named : Option ProcessingMode}

theorem Becomes.channel?_unit (becomes : Becomes directory named draft ready)
    (complete : draft.IsComplete named) (fresh : String) (info : MessageInfo) :
    ((ready.customize fresh).unit info).channel? = draft.channelWith named := by
  cases becomes with
  | @pull d resolved known =>
      obtain ⟨id, stated⟩ := Option.isSome_iff_exists.mp complete.channel
      show some ((d.adopting named).channelId.getD "") = d.channelWith named
      rw [d.channelId_adopting, stated, Option.getD_some]
  | user d =>
      show (((d.adopting named).customize fresh).message info).channel = _
      rw [UserDraft.message_customize]
      exact (d.optional_adopting named).2.2

theorem finish_pull_of_isStray {d : PullDraft} (stray : (Draft.pull d).IsStray directory) :
    (Draft.pull d).finish directory ≠ (ready, .ok ()) := by
  obtain ⟨named, id, found, stated, unknown⟩ := stray
  intro finished
  obtain ⟨same, foundAgain, becomes⟩ := exists_becomes_of_finish finished
  obtain rfl := Except.ok.inj (found.symm.trans foundAgain)
  obtain ⟨channel, known⟩ := becomes.asksKnown id stated
  exact unknown channel known

/-- A user message is finished, whatever channel it is for. -/
theorem exists_finish_user_of_isStray {d : UserDraft} (stray : (Draft.user d).IsStray directory) :
    ∃ ready, (Draft.user d).finish directory = (ready, .ok ()) := by
  obtain ⟨named, -, found, -⟩ := stray
  exact exists_finish found trivial

end Draft

/-! ## Sending -/

namespace Sender

variable {s : Sender} {o : Occasion} {disk : Disk} {tracker : Tracker} {folder : SpoolFolder}
  {draft : Draft} {r : ExchangeRequest}

theorem channel?_of_requestOf (made : s.requestOf o draft = .ok r) :
    ∃ named, draft.namedMode s.directory = .ok named ∧
      r.envelope.unit.channel? = draft.channelWith named := by
  obtain ⟨named, url, ready, sound, becomes, rfl⟩ := isSound_of_requestOf made
  exact ⟨named, sound.found, becomes.channel?_unit sound.complete _ _⟩

theorem requestOf_eq_lookup_iff {error : LookupError} :
    s.requestOf o draft = .error (.lookup error) ↔
      (draft.finish s.directory).2 = .error error := by
  unfold requestOf prepare
  obtain ⟨ready, result⟩ := draft.finish s.directory
  cases result with
  | error other => simp
  | ok _ =>
      -- A finished draft can only fail for what it leaves open or for its endpoint.
      by_cases complete : ready.missing.isEmpty
      · simp only [complete, if_true, endpointOf]
        cases Url.ofText
          (Text.trim ((ready.customize o.freshConversation).options.endpoint.getD "")) <;> simp
      · simp [complete]

/-- An exchange is counted, so that it is never taken for a refusal. -/
theorem exchange_ne_refused (s : Sender) (o : Occasion) (disk : Disk) (start : Journal)
    (r : ExchangeRequest) (held : Holding) (error : ValidationError) :
    s.exchange o disk start r ≠ refused held error := by
  intro same
  have counted : (s.exchange o disk start r).journal.counts = [] := by
    rw [same]
    rfl
  exact List.append_ne_nil_of_right_ne_nil _ (List.cons_ne_nil _ _) counted

theorem sent_exchange_ne_nil (s : Sender) (o : Occasion) (start : Journal) {r : ExchangeRequest}
    (unsigned : r.sign = false) (unwatched : r.observers = .none) :
    (s.exchange o .working start r).journal.sent ≠ [] := by
  have prepared : r.IsPrepared (s.circumstances o) r.envelope :=
    { built := by rw [unwatched]; rfl
      signed := by
        intro signs
        rw [unsigned] at signs
        cases signs
      unsigned := fun _ => rfl }
  obtain ⟨causes, ending, -, done, -⟩ := Exchange.execute_of_prepared prepared start
  show (Exchange.executeKept .working (s.circumstances o) r start).2.sent ≠ []
  rw [Exchange.executeKept_eq, done.sent, Nat.add_comm]
  exact List.append_ne_nil_of_right_ne_nil _ (List.cons_ne_nil _ _)

theorem failsToFind_iff :
    s.FailsToFind o disk tracker folder draft ↔ ∃ error, (draft.finish s.directory).2 = .error error := by
  simp only [FailsToFind, ← requestOf_eq_lookup_iff (s := s) (o := o), send_eq]
  refine exists_congr fun error => ?_
  cases s.requestOf o draft with
  | ok r => exact ⟨fun same => absurd same (exchange_ne_refused s o disk _ r _ _), nofun⟩
  | error other => simp [refused]

theorem failsToFind_pull {d : PullDraft} (stray : (Draft.pull d).IsStray s.directory) :
    s.FailsToFind o disk tracker folder (.pull d) := by
  refine failsToFind_iff.mpr ?_
  cases finished : (Draft.pull d).finish s.directory with
  | mk ready result =>
      cases result with
      | error error => exact ⟨error, rfl⟩
      | ok _ => exact absurd finished (Draft.finish_pull_of_isStray stray)

theorem not_failsToFind_user {d : UserDraft} (stray : (Draft.user d).IsStray s.directory) :
    ¬ s.FailsToFind o disk tracker folder (.user d) := by
  obtain ⟨ready, finished⟩ := Draft.exists_finish_user_of_isStray stray
  rw [failsToFind_iff, finished]
  rintro ⟨error, same⟩
  cases same

/-- Sending a user message looks no channel up. -/
theorem send_user_withChannels (s : Sender) (o : Occasion) (disk : Disk) (tracker : Tracker)
    (folder : SpoolFolder) (d : UserDraft) (channels : String → Except LookupError Channel) :
    ({ s with directory := { s.directory with channel := channels } } : Sender).send o disk
      tracker folder (.user d) = s.send o disk tracker folder (.user d) := by
  -- Only finishing reads the directory.
  have finished : (Draft.user d).finish { s.directory with channel := channels } =
      (Draft.user d).finish s.directory := rfl
  have made (directory : Directory) (draft : Draft) (url : Url) :
      ({ s with directory } : Sender).request o draft url = s.request o draft url := rfl
  have exchanged (directory : Directory) (start : Journal) (r : ExchangeRequest) :
      ({ s with directory } : Sender).exchange o disk start r = s.exchange o disk start r := rfl
  simp only [send_eq, requestOf, prepare, finished, made, exchanged]

/-- A draft for a channel that is not known is refused exactly if it is a pull request.  The
message of a draft is for the channel that the draft states, or else its mode, and a user
message is sent, or refused, in the same way whichever channels are known. -/
theorem refusesStray_iff (s : Sender) (draft : Draft) :
    (s.RefusesStray draft ↔ (∃ d, draft = .pull d) ∨ ¬ draft.IsStray s.directory) ∧
      (∀ o r, s.requestOf o draft = .ok r →
        ∃ named, draft.namedMode s.directory = .ok named ∧
          r.envelope.unit.channel? = draft.channelWith named) ∧
      ∀ d, draft = .user d → ∀ channels o disk tracker folder,
        ({ s with directory := { s.directory with channel := channels } } : Sender).send o disk
          tracker folder draft = s.send o disk tracker folder draft := by
  refine ⟨⟨fun refuses => ?_, ?_⟩, fun o r => channel?_of_requestOf, ?_⟩
  · cases draft with
    | pull d => exact .inl ⟨d, rfl⟩
    | user d =>
        refine .inr fun stray => ?_
        exact not_failsToFind_user stray (refuses stray sampleOccasion .working .empty .empty)
  · rintro (⟨d, rfl⟩ | known) stray o disk tracker folder
    · exact failsToFind_pull stray
    · exact absurd stray known
  · rintro d rfl channels o disk tracker folder
    exact s.send_user_withChannels o disk tracker folder d channels

/-! ## A sample draft -/

def sampleShop : Sender :=
  { sampleSender with
    directory := { Draft.sampleDirectory with channel := ChannelRegistry.standard.resolve } }

def sampleStray : UserDraft := { Draft.sampleUser with channel := some "urn:mpc:unregistered" }

theorem isStray_sampleStray : (Draft.user sampleStray).IsStray sampleShop.directory := by
  refine ⟨some Draft.samplePartner, "urn:mpc:unregistered", rfl, rfl, fun channel known => ?_⟩
  have unknown : sampleShop.directory.channel "urn:mpc:unregistered" =
      .error (.unknownChannel "urn:mpc:unregistered") := by
    decide +kernel
  rw [unknown] at known
  cases known

theorem exists_isSound_sampleStray :
    ∃ url, (Draft.user sampleStray).IsSound sampleShop.directory (some Draft.samplePartner)
      url := by
  obtain ⟨url, sound⟩ := exists_isSound_samplePull
  obtain ⟨endpoint, stated, read⟩ := sound.endpoint
  have agreed : (Draft.user sampleStray).options.endpointWith (some Draft.samplePartner) =
      some endpoint := (filled_none _).symm.trans stated
  have service : (filled (some " ") (some "invoices")).isSome := by decide +kernel
  have action : (filled (some "cancel") (some "submit")).isSome := by decide +kernel
  exact ⟨url, rfl, trivial, ⟨rfl, Option.isSome_of_eq_some agreed, rfl, rfl, service, action⟩,
    endpoint, agreed, read⟩

/-- The message on the channel that nobody registered is transmitted. -/
theorem not_refusesStray_sampleStray :
    (Draft.user sampleStray).IsStray sampleShop.directory ∧
      ¬ sampleShop.RefusesStray (.user sampleStray) ∧
      ∃ r, sampleShop.requestOf sampleOccasion (.user sampleStray) = .ok r ∧
        r.envelope.unit.channel? = some "urn:mpc:unregistered" ∧
        (sampleShop.send sampleOccasion .working .empty .empty
          (.user sampleStray)).journal.sent ≠ [] := by
  refine ⟨isStray_sampleStray, fun refuses => ?_, ?_⟩
  · exact not_failsToFind_user isStray_sampleStray
      (refuses isStray_sampleStray sampleOccasion .working .empty .empty)
  · obtain ⟨url, sound⟩ := exists_isSound_sampleStray
    obtain ⟨r, made⟩ := exists_requestOf sound sampleOccasion
    obtain ⟨named, found, channel⟩ := channel?_of_requestOf made
    obtain rfl : some Draft.samplePartner = named := Except.ok.inj found
    obtain ⟨_, url, ready, again, becomes, rfl⟩ := isSound_of_requestOf made
    obtain rfl : some Draft.samplePartner = _ := Except.ok.inj again.found
    have mode := becomes.mode_customize sampleOccasion.freshConversation
    have unsigned := (sampleShop.isEffective_request sampleOccasion _ url).signsByMode _ mode
    have unwatched := (sampleShop.isCarriedBy_request sampleOccasion becomes url).2
    refine ⟨_, made, channel, ?_⟩
    rw [send_eq, made]
    exact sent_exchange_ne_nil _ _ _ unsigned unwatched

end Sender

end Ebms
