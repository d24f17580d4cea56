import Ebms.Proofs.Decimal.Doubles
import Ebms.Settings.Validation

/-! # The backoffs of valid settings

A message gets its backoff from the mode that it names or else from the settings.  Validation
examines the backoff of the settings, down to infinities and doubles that are no number.  It
does not read what the modes say about retries, so that valid settings may hold any backoff
there. -/

set_option autoImplicit false

namespace Ebms

/-- Waits stay the same, or grow by a number of at least one. -/
def Backoff.IsSane : Backoff → Prop
  | .fixed => True
  | .exponential multiplier _ => ∃ number, exactValue? multiplier = some number ∧ 1 ≤ number

def ProcessingMode.IsSane (mode : ProcessingMode) : Prop :=
  ∀ policy, mode.retry = some policy → policy.backoff.IsSane

namespace Settings

/-- Every message that names one of the modes, or none, gets a sane backoff. -/
def YieldsSane (s : Settings) : Prop :=
  ∀ (options : Options) (named : Option ProcessingMode),
    (∀ mode, named = some mode → mode ∈ s.modes) →
      (options.resolveRetry named s.retry).backoff.IsSane

def withModeRetries (s : Settings) (policies : ProcessingMode → Option RetryPolicy) : Settings :=
  { s with modes := s.modes.map fun mode => { mode with retry := policies mode } }

end Settings

/-! ## What validation examines -/

theorem Backoff.isSteady_iff {backoff : Backoff} : backoff.isSteady = true ↔ backoff.IsSane := by
  cases backoff with
  | fixed => exact ⟨fun _ => trivial, fun _ => rfl⟩
  | exponential multiplier longest =>
      have compared : (Backoff.exponential multiplier longest).isSteady = true ↔
          multiplier.isFinite = true ∧ 1.0 ≤ multiplier := by
        simp [isSteady]
      exact compared.trans (isFinite_and_one_le_iff multiplier)

namespace Settings

variable {s : Settings}

theorem validated_eq_ok_iff : s.validated = .ok s ↔ s.fault? = none := by
  unfold validated
  cases s.fault? <;> simp

theorem backoffFault?_eq_none_iff {backoff : Backoff} :
    backoffFault? backoff = none ↔ backoff.IsSane := by
  rw [← Backoff.isSteady_iff]
  cases backoff with
  | fixed => exact ⟨fun _ => rfl, fun _ => rfl⟩
  | exponential multiplier longest => simp [backoffFault?]

theorem isSane_of_validated (accepted : s.validated = .ok s) : s.retry.backoff.IsSane := by
  have sound : s.fault? = none := validated_eq_ok_iff.mp accepted
  simp only [fault?, Option.orElse_eq_orElse, Option.orElse_eq_or, Option.or_eq_none_iff] at sound
  exact backoffFault?_eq_none_iff.mp sound.2.1

theorem modesFault?_withModeRetries (policies : ProcessingMode → Option RetryPolicy)
    (modes : List ProcessingMode) (seen : List String) :
    modesFault? seen (modes.map fun mode => { mode with retry := policies mode }) =
      modesFault? seen modes := by
  induction modes generalizing seen with
  | nil => rfl
  | cons mode rest ih => simp only [List.map_cons, modesFault?, ih]

/-- Validation does not read what the modes say about retries. -/
theorem fault?_withModeRetries (s : Settings) (policies : ProcessingMode → Option RetryPolicy) :
    (s.withModeRetries policies).fault? = s.fault? := by
  simp only [fault?, withModeRetries, modesFault?_withModeRetries]
  rfl

/-! ## What a message gets -/

theorem backoff_resolveRetry (options : Options) (named : Option ProcessingMode)
    (defaults : RetryPolicy) :
    (options.resolveRetry named defaults).backoff =
      ((named.bind (·.retry)).getD defaults).backoff :=
  rfl

/-- With valid settings, a message gets a sane backoff exactly if the mode that it names has
none that is not. -/
theorem isSane_resolveRetry_iff (accepted : s.validated = .ok s) (options : Options)
    (named : Option ProcessingMode) :
    (options.resolveRetry named s.retry).backoff.IsSane ↔
      ∀ mode, named = some mode → mode.IsSane := by
  have sane := isSane_of_validated accepted
  rw [backoff_resolveRetry]
  cases named with
  | none => simpa using sane
  | some mode =>
      simp only [Option.bind_some, Option.some.injEq, forall_eq', ProcessingMode.IsSane]
      cases mode.retry with
      | none => simpa using sane
      | some policy => simp

/-- Valid settings yield sane backoffs alone exactly if those of their modes are sane: that
of the settings is, but those of the modes may be any. -/
theorem yieldsSane_iff (accepted : s.validated = .ok s) :
    (s.YieldsSane ↔ ∀ mode ∈ s.modes, mode.IsSane) ∧
      (∀ (options : Options) (named : Option ProcessingMode),
        (options.resolveRetry named s.retry).backoff.IsSane ↔
          ∀ mode, named = some mode → mode.IsSane) ∧
      ∀ policies, (s.withModeRetries policies).validated = .ok (s.withModeRetries policies) := by
  refine ⟨⟨fun sane mode member => ?_, fun sane options named known => ?_⟩,
    isSane_resolveRetry_iff accepted, fun policies => ?_⟩
  · have resolved := sane .none (some mode) (by simpa using member)
    exact (isSane_resolveRetry_iff accepted _ _).mp resolved mode rfl
  · exact (isSane_resolveRetry_iff accepted _ _).mpr fun mode same => sane mode (known mode same)
  · rw [validated_eq_ok_iff, fault?_withModeRetries]
    exact validated_eq_ok_iff.mp accepted

/-! ## Sample settings -/

def samplePolicy (multiplier : Float) : RetryPolicy :=
  { maxRetries := 3, interval := Span.ofSeconds 2
    backoff := .exponential multiplier (Span.ofSeconds 60) }

def sampleMode (multiplier : Float) : ProcessingMode :=
  { id := "partner", agreement := none, initiator := none, responder := none, binding := .push
    endpoint := none, service := none, serviceType := none, action := none, channel := none
    soap := none, security := .standard, retry := some (samplePolicy multiplier) }

def sampleSettings (multiplier : Float) : Settings :=
  { standard with modes := [sampleMode multiplier] }

theorem validated_sampleSettings (multiplier : Float) :
    (sampleSettings multiplier).validated = .ok (sampleSettings multiplier) := by
  have time : standard.transport.requestTimeout.nanos ≠ 0 := by decide
  have ending : Text.isAllBlank standard.sender.messageIdEnding = false := by decide +kernel
  have id : Text.isAllBlank "partner" = false := by decide +kernel
  have level : LogLevel.ofText standard.logging.level = .ok .info := by decide +kernel
  have fixed : standard.retry.backoff = .fixed := rfl
  have keyless : standard.crypto = none := rfl
  rw [validated_eq_ok_iff]
  simp [fault?, sampleSettings, sampleMode, modesFault?, backoffFault?, cryptoFault?, levelFault?,
    time, ending, id, level, fixed, keyless]

theorem yieldsSane_two :
    (sampleSettings 2.0).validated = .ok (sampleSettings 2.0) ∧
      (sampleSettings 2.0).YieldsSane := by
  have accepted := validated_sampleSettings 2.0
  have doubles : (sampleMode 2.0).IsSane := by
    intro policy same
    obtain rfl : samplePolicy 2.0 = policy := Option.some.inj same
    exact Backoff.isSteady_iff.mp rfl
  exact ⟨accepted, (yieldsSane_iff accepted).1.mpr (by simpa [sampleSettings] using doubles)⟩

/-- Settings whose one mode halves the wait from retry to retry are valid. -/
theorem not_yieldsSane_half :
    (sampleSettings 0.5).validated = .ok (sampleSettings 0.5) ∧
      ¬ (sampleSettings 0.5).YieldsSane := by
  refine ⟨validated_sampleSettings 0.5, fun sane => ?_⟩
  have halves := sane .none (some (sampleMode 0.5)) (by simp [sampleSettings])
  cases (Backoff.isSteady_iff.mpr halves : Backoff.isSteady _ = true)

end Settings

end Ebms
