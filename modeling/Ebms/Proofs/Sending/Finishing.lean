import Ebms.Proofs.Sending.Building

/-! # Finishing a draft

Finishing fills what a draft leaves open with what the mode that it names states, and
touches nothing else.  A field that states something keeps it, so that finishing a second
time finds nothing left to fill: it comes to the same draft and the same result. -/

set_option autoImplicit false

namespace Ebms

/-- Whether a text states anything.  A blank one does not. -/
def isStated (text : Option String) : Bool := (notBlank text).isSome

/-- A field before and after finishing: it keeps what it states, and takes over what the
mode that is named has in its place if it states nothing. -/
structure Settled {α : Type} (states : Option α → Bool) (named : Option ProcessingMode)
    (field : ProcessingMode → Option α) (before after : Option α) : Prop where
  kept : states before = true → after = before
  taken : states before = false → ∀ mode, named = some mode → after = field mode
  unnamed : named = none → after = before

structure PullDraft.Settles (d : PullDraft) (directory : Directory)
    (named : Option ProcessingMode) (ready : PullDraft) : Prop where
  channel : Settled isStated named (·.channel) d.channel ready.channel
  endpoint : Settled isStated named (·.endpoint) d.options.endpoint ready.options.endpoint
  mode : ready.mode = named.or d.mode
  found : ∀ id, ready.channelId = some id →
    ∃ channel, directory.channel id = .ok channel ∧ ready.resolved = some channel
  unfound : ready.channelId = none → ready.resolved = d.resolved

structure UserDraft.Settles (d : UserDraft) (named : Option ProcessingMode)
    (ready : UserDraft) : Prop where
  sender : Settled Option.isSome named (·.initiator) d.sender ready.sender
  receiver : Settled Option.isSome named (·.responder) d.receiver ready.receiver
  service : Settled isStated named (·.service) d.service ready.service
  serviceType : Settled Option.isSome named (·.serviceType) d.serviceType ready.serviceType
  action : Settled isStated named (·.action) d.action ready.action
  agreement : Settled Option.isSome named (·.agreement) d.agreement ready.agreement
  channel : Settled Option.isSome named (·.channel) d.channel ready.channel
  endpoint : Settled isStated named (·.endpoint) d.options.endpoint ready.options.endpoint
  mode : ready.mode = named.or d.mode

/-- Apart from its channel, its endpoint and its mode a pull request is as it was. -/
def PullDraft.IsLeftIn (d ready : PullDraft) : Prop :=
  ready = { d with
    channel := ready.channel, mode := ready.mode, resolved := ready.resolved
    options := { d.options with endpoint := ready.options.endpoint } }

def UserDraft.IsLeftIn (d ready : UserDraft) : Prop :=
  ready = { d with
    sender := ready.sender, receiver := ready.receiver, service := ready.service
    serviceType := ready.serviceType, action := ready.action, agreement := ready.agreement
    channel := ready.channel, mode := ready.mode
    options := { d.options with endpoint := ready.options.endpoint } }

namespace Draft

def Settles (directory : Directory) (named : Option ProcessingMode) : Draft → Draft → Prop
  | .pull d, .pull ready => d.Settles directory named ready
  | .user d, .user ready => d.Settles named ready
  | _, _ => False

def IsLeftIn : Draft → Draft → Prop
  | .pull d, .pull ready => d.IsLeftIn ready
  | .user d, .user ready => d.IsLeftIn ready
  | _, _ => False

end Draft

/-! ## Single fields -/

namespace Settled

variable {α : Type} {states : Option α → Bool} {named : Option ProcessingMode}
  {field : ProcessingMode → Option α} {before after again : Option α}

theorem refl : Settled states none field before before :=
  ⟨fun _ => rfl, fun _ _ same => (nomatch same), fun _ => rfl⟩

theorem of_or (mode : ProcessingMode) (field : ProcessingMode → Option α) (before : Option α) :
    Settled Option.isSome (some mode) field before (before.or (field mode)) where
  kept stated := Option.or_of_isSome stated
  taken blank other same := by
    rw [Option.or_of_isNone (Option.isSome_eq_false_iff.mp blank), Option.some.inj same]
  unnamed := nofun

theorem of_ite (mode : ProcessingMode) (field : ProcessingMode → Option String)
    (before : Option String) :
    Settled isStated (some mode) field before
      (if (notBlank before).isNone then field mode else before) where
  kept stated := if_neg (by simpa [isStated, Option.isSome_iff_ne_none] using stated)
  taken blank other same := by
    rw [if_pos (by simpa [isStated] using blank), Option.some.inj same]
  unnamed := nofun

theorem eq_of_again (first : Settled states named field before after)
    (second : Settled states named field after again) : again = after := by
  cases stated : states after with
  | true => exact second.kept stated
  | false =>
      cases named with
      | none => exact second.unnamed rfl
      | some mode =>
          -- What states nothing now has stated nothing before, since anything stated is kept.
          have blank : states before = false := by
            by_contra stating
            have kept := first.kept (by simpa using stating)
            rw [kept] at stated
            exact stating stated
          rw [second.taken stated mode rfl, first.taken blank mode rfl]

end Settled

/-! ## Options -/

namespace Options

variable (o : Options) (named : Option ProcessingMode)

theorem settled_adopting :
    Settled isStated named (·.endpoint) o.endpoint (o.adopting named).endpoint := by
  cases named with
  | none => exact .refl
  | some mode =>
      have chosen : (o.adopting (some mode)).endpoint =
          if (notBlank o.endpoint).isNone then mode.endpoint else o.endpoint := by
        unfold adopting hasEndpoint
        cases notBlank o.endpoint <;> rfl
      rw [chosen]
      exact .of_ite mode (·.endpoint) o.endpoint

theorem adopting_eq : o.adopting named = { o with endpoint := (o.adopting named).endpoint } := by
  obtain ⟨endpoint, adopted⟩ := o.stated_adopting named
  rw [adopted]

theorem modeId_adopting : (o.adopting named).modeId = o.modeId := by
  rw [o.adopting_eq named]

end Options

theorem Draft.namedMode_congr {draft ready : Draft} (directory : Directory)
    (same : ready.options.modeId = draft.options.modeId) :
    ready.namedMode directory = draft.namedMode directory := by
  rw [namedMode, namedMode, same]

/-! ## Pull requests -/

namespace PullDraft

variable (d : PullDraft) (directory : Directory) (named : Option ProcessingMode)

theorem isLeftIn_adopting : d.IsLeftIn (d.adopting named) := by
  have options := d.options.adopting_eq named
  rw [← d.options_adopting named] at options
  unfold IsLeftIn
  rw [← options]

theorem settled_adopting :
    Settled isStated named (·.channel) d.channel (d.adopting named).channel ∧
      Settled isStated named (·.endpoint) d.options.endpoint
        (d.adopting named).options.endpoint ∧
      (d.adopting named).mode = named.or d.mode := by
  rw [d.options_adopting named]
  refine ⟨?_, d.options.settled_adopting named, ?_⟩
  · cases named with
    | none => exact .refl
    | some mode => exact .of_ite mode (·.channel) d.channel
  · cases named <;> rfl

/-- Resolving the channel of a pull request changes nothing but what it has found. -/
theorem resolveChannel_cases :
    ∃ resolved, (d.resolveChannel directory).1 = { d with resolved } ∧
      ((d.resolveChannel directory).2 = .ok () →
        (∀ id, d.channelId = some id →
          ∃ channel, directory.channel id = .ok channel ∧ resolved = some channel) ∧
        (d.channelId = none → resolved = d.resolved)) := by
  unfold resolveChannel
  cases d.channelId with
  | none => exact ⟨d.resolved, rfl, fun _ => ⟨nofun, fun _ => rfl⟩⟩
  | some id =>
      cases found : directory.channel id with
      | ok channel =>
          refine ⟨some channel, by simp only [found], fun _ => ⟨fun other same => ?_, nofun⟩⟩
          obtain rfl := Option.some.inj same
          exact ⟨channel, found, rfl⟩
      | error error => exact ⟨d.resolved, by simp only [found], by simp [found]⟩

theorem settles_resolveChannel
    (resolves : ((d.adopting named).resolveChannel directory).2 = .ok ()) :
    d.Settles directory named ((d.adopting named).resolveChannel directory).1 := by
  obtain ⟨resolved, finished, finds⟩ := (d.adopting named).resolveChannel_cases directory
  obtain ⟨found, unfound⟩ := finds resolves
  obtain ⟨channel, endpoint, mode⟩ := d.settled_adopting named
  rw [finished]
  refine ⟨channel, endpoint, mode, found, fun open_ => (unfound open_).trans ?_⟩
  cases named <;> rfl

theorem adopting_again : (d.adopting named).adopting named = d.adopting named := by
  obtain ⟨channel, endpoint, mode⟩ := d.settled_adopting named
  obtain ⟨channelAgain, endpointAgain, modeAgain⟩ := (d.adopting named).settled_adopting named
  have resolved : ((d.adopting named).adopting named).resolved = (d.adopting named).resolved := by
    cases named <;> rfl
  have left := (d.adopting named).isLeftIn_adopting named
  unfold IsLeftIn at left
  rw [left, channel.eq_of_again channelAgain, endpoint.eq_of_again endpointAgain, resolved,
    modeAgain, mode, ← Option.or_assoc, Option.or_self, ← mode]

theorem adopting_withResolved (resolved : Option Channel) :
    ({ d with resolved } : PullDraft).adopting named = { d.adopting named with resolved } := by
  cases named <;> rfl

theorem resolveChannel_again :
    (d.resolveChannel directory).1.resolveChannel directory = d.resolveChannel directory := by
  unfold resolveChannel
  cases asked : d.channelId with
  | none => simp only [asked]
  | some id =>
      cases found : directory.channel id with
      | error error => simp only [asked, found]
      | ok channel =>
          have same : ({ d with resolved := some channel } : PullDraft).channelId = some id := asked
          simp only [found, same]

theorem finish_again : (d.finish directory).1.finish directory = d.finish directory := by
  cases found : (Draft.pull d).namedMode directory with
  | error error =>
      have stays : d.finish directory = (d, .error error) := by rw [finish_eq, found]
      rw [stays, stays]
  | ok named =>
      have finished : d.finish directory = (d.adopting named).resolveChannel directory := by
        rw [finish_eq, found]
      obtain ⟨resolved, ready, -⟩ := (d.adopting named).resolveChannel_cases directory
      have again := (d.adopting named).resolveChannel_again directory
      rw [ready] at again
      -- Finishing leaves the id of the mode alone, so the same mode is found again.
      have sameMode : (Draft.pull { d.adopting named with resolved }).namedMode directory =
          .ok named := by
        rw [← found]
        refine Draft.namedMode_congr directory ?_
        exact (congrArg Options.modeId (d.options_adopting named)).trans
          (d.options.modeId_adopting named)
      rw [finished, ready, finish_eq, sameMode]
      simp only [adopting_withResolved, adopting_again]
      exact again

theorem isLeftIn_finish : d.IsLeftIn (d.finish directory).1 := by
  rw [finish_eq]
  cases (Draft.pull d).namedMode directory with
  | error error => rfl
  | ok named =>
      obtain ⟨resolved, ready, -⟩ := (d.adopting named).resolveChannel_cases directory
      have left := d.isLeftIn_adopting named
      simp only [ready]
      unfold IsLeftIn at left ⊢
      exact congrArg (fun d : PullDraft => { d with resolved }) left

theorem settles_finish (finishes : (d.finish directory).2 = .ok ()) :
    ∃ named, (Draft.pull d).namedMode directory = .ok named ∧
      d.Settles directory named (d.finish directory).1 := by
  rw [finish_eq] at finishes ⊢
  cases found : (Draft.pull d).namedMode directory with
  | error error => simp [found] at finishes
  | ok named =>
      rw [found] at finishes
      exact ⟨named, rfl, d.settles_resolveChannel directory named finishes⟩

end PullDraft

/-! ## User messages -/

namespace UserDraft

variable (d : UserDraft) (named : Option ProcessingMode)

theorem settles_adopting : d.Settles named (d.adopting named) := by
  have endpoint := d.options.settled_adopting named
  rw [← d.options_adopting named] at endpoint
  cases named with
  | none => exact ⟨.refl, .refl, .refl, .refl, .refl, .refl, .refl, .refl, rfl⟩
  | some mode =>
      exact
        { sender := .of_or mode _ _
          receiver := .of_or mode _ _
          service := .of_ite mode _ _
          serviceType := .of_or mode _ _
          action := .of_ite mode _ _
          agreement := .of_or mode _ _
          channel := .of_or mode _ _
          endpoint
          mode := rfl }

theorem isLeftIn_adopting : d.IsLeftIn (d.adopting named) := by
  have options := d.options.adopting_eq named
  unfold IsLeftIn
  rw [← d.options_adopting named] at options
  rw [← options]
  cases named <;> rfl

theorem adopting_again : (d.adopting named).adopting named = d.adopting named := by
  have first := d.settles_adopting named
  have again := (d.adopting named).settles_adopting named
  have left := (d.adopting named).isLeftIn_adopting named
  unfold IsLeftIn at left
  rw [left, first.sender.eq_of_again again.sender, first.receiver.eq_of_again again.receiver,
    first.service.eq_of_again again.service, first.serviceType.eq_of_again again.serviceType,
    first.action.eq_of_again again.action, first.agreement.eq_of_again again.agreement,
    first.channel.eq_of_again again.channel, first.endpoint.eq_of_again again.endpoint,
    again.mode, first.mode, ← Option.or_assoc, Option.or_self, ← first.mode]

theorem finish_again (directory : Directory) :
    (d.finish directory).1.finish directory = d.finish directory := by
  cases found : (Draft.user d).namedMode directory with
  | error error =>
      have stays : d.finish directory = (d, .error error) := by rw [finish_eq, found]
      rw [stays, stays]
  | ok named =>
      have finished : d.finish directory = (d.adopting named, .ok ()) := by rw [finish_eq, found]
      have sameMode : (Draft.user (d.adopting named)).namedMode directory = .ok named := by
        rw [← found]
        refine Draft.namedMode_congr directory ?_
        exact (congrArg Options.modeId (d.options_adopting named)).trans
          (d.options.modeId_adopting named)
      rw [finished, finish_eq, sameMode]
      simp only [adopting_again]

theorem isLeftIn_finish (directory : Directory) : d.IsLeftIn (d.finish directory).1 := by
  rw [finish_eq]
  cases (Draft.user d).namedMode directory with
  | error error => rfl
  | ok named => exact d.isLeftIn_adopting named

theorem settles_finish {directory : Directory} (finishes : (d.finish directory).2 = .ok ()) :
    ∃ named, (Draft.user d).namedMode directory = .ok named ∧
      d.Settles named (d.finish directory).1 := by
  rw [finish_eq] at finishes ⊢
  cases found : (Draft.user d).namedMode directory with
  | error error => simp [found] at finishes
  | ok named => exact ⟨named, rfl, d.settles_adopting named⟩

end UserDraft

/-! ## Drafts -/

namespace Draft

/-- Finishing a draft a second time changes nothing and has the same result.  Whatever a
mode cannot state is left as it is, and when the draft is finished, each field that states
something keeps it and the others take over what the mode that is named has in their place. -/
theorem finish_settles (draft : Draft) (directory : Directory) :
    (draft.finish directory).1.finish directory = draft.finish directory ∧
      draft.IsLeftIn (draft.finish directory).1 ∧
      ((draft.finish directory).2 = .ok () →
        ∃ named, draft.namedMode directory = .ok named ∧
          draft.Settles directory named (draft.finish directory).1) := by
  cases draft with
  | pull d =>
      have again := congrArg (Prod.map Draft.pull id) (d.finish_again directory)
      exact ⟨again, d.isLeftIn_finish directory, d.settles_finish directory⟩
  | user d =>
      have again := congrArg (Prod.map Draft.user id) (d.finish_again directory)
      exact ⟨again, d.isLeftIn_finish directory, d.settles_finish⟩

/-! ## A sample draft -/

def samplePartner : ProcessingMode :=
  { id := "partner", agreement := none
    initiator := some { id := "us", idType := none, role := "seller" }
    responder := some { id := "partner", idType := none, role := "buyer" }
    binding := .push, endpoint := some " https://partner.example/as4 "
    service := some "invoices", serviceType := none, action := some "submit"
    channel := some " ", soap := some .v11
    security := { sign := false, requireSignedResponse := false }
    retry := some { maxRetries := 5, interval := Span.ofSeconds 3, backoff := .fixed } }

def sampleDirectory : Directory :=
  { mode := fun _ => .ok samplePartner, channel := fun id => .ok ⟨id⟩ }

def sampleUser : UserDraft :=
  { (default : UserDraft) with
    options := { Options.none with modeId := some "partner" }
    service := some " ", action := some "cancel", conversation := some "7" }

theorem finish_settles_sampleUser :
    ∃ ready : UserDraft, (Draft.user sampleUser).finish sampleDirectory = (.user ready, .ok ()) ∧
      (Draft.user ready).finish sampleDirectory = (.user ready, .ok ()) ∧
      ready.service = some "invoices" ∧ ready.action = some "cancel" ∧
      ready.channel = some " " ∧ ready.conversation = some "7" := by
  obtain ⟨again, left, settles⟩ := finish_settles (.user sampleUser) sampleDirectory
  obtain ⟨named, found, settled⟩ := settles rfl
  obtain rfl : some samplePartner = named := Except.ok.inj found
  have blank : isStated sampleUser.service = false := by decide +kernel
  have stated : isStated sampleUser.action = true := by decide +kernel
  refine ⟨(sampleUser.finish sampleDirectory).1, rfl, again, ?_, ?_, ?_, ?_⟩
  · exact settled.service.taken blank samplePartner rfl
  · exact settled.action.kept stated
  · exact settled.channel.taken rfl samplePartner rfl
  · exact congrArg UserDraft.conversation left

end Draft

end Ebms
