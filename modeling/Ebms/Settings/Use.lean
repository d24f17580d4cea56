import Ebms.Keyring.Sealed
import Ebms.Settings.Document
import Ebms.Settings.Validation

/-! # Using settings

Settings are read from a file and written to one, and a sender is made of
them. -/

set_option autoImplicit false

namespace Ebms

namespace Settings

def ofFile (files : Files) (path : String) : Except SettingsError Settings :=
  match (files.read path).toOption.bind Bytes.text? with
  | none => .error (.unreadableFile path)
  | some text =>
    match ofToml? text with
    | none => .error (.malformedFile path)
    | some settings => settings.validated

/-- Writes the settings to a file, which has to be in a folder that exists. -/
def toFile (s : Settings) (files : Files) (path : String) : Except SettingsError Files :=
  match s.toToml? with
  | none => .error .unwritableValue
  | some text =>
    match files.write? path (Bytes.ofText text) with
    | .ok files => .ok files
    | .error _ => .error (.unwritableFile path)

def openKeyring (sealer : Sealer) (files : Files) (path password : String) :
    Except SettingsError Keyring :=
  match SealedKeyring.openFile sealer files path password with
  | .ok ring => .ok (ring.toKeyring sealer)
  | .error error => .error (.keyring path error)

end Settings

/-- The credentials that settings name.  A keyring for trust without a password
of its own is opened with that of the keys. -/
def CryptoSettings.credentials (s : CryptoSettings) (sealer : Sealer) (files : Files) :
    Except SettingsError Credentials := do
  let keyring ← Settings.openKeyring sealer files s.keyringPath s.keyringPassword
  let trusted ← match s.trustPath with
    | none => pure keyring.trusted
    | some path => do
      let trust ← Settings.openKeyring sealer files path (s.trustPassword.getD s.keyringPassword)
      pure trust.trusted
  pure
    { keyring, trusted, keyAlias := s.keyAlias, password := s.keyPassword, signature := s.signature,
      digest := s.digest, keyReference := s.keyReference }

namespace Sender

def ofSettings (suite : Suite) (sealer : Sealer) (files : Files) (settings : Settings) :
    Except SettingsError Sender := do
  let settings ← settings.validated
  let credentials ← match settings.crypto with
    | none => pure none
    | some crypto => some <$> crypto.credentials sealer files
  pure
    { directory := .ofRegistries (.ofModes settings.modes) (.ofIds settings.channels)
      suite
      timeToLive := settings.sender.timeToLive
      credentials
      retryDefaults := settings.retry
      attemptLimit := settings.transport.requestTimeout
      spoolThreshold := settings.sender.spoolThreshold
      idEnding := settings.sender.messageIdEnding }

def retryText (policy : RetryPolicy) : String :=
  let backoff := match policy.backoff with
    | .fixed => "Fixed"
    | .exponential multiplier longest =>
      "Exponential \x7b multiplier: " ++ preciseFloatText multiplier ++ ", max_interval: "
        ++ longest.unitText ++ " \x7d"
  "RetryPolicy \x7b max_retries: " ++ Text.ofNat policy.maxRetries.toNat ++ ", interval: "
    ++ policy.interval.unitText ++ ", backoff: " ++ backoff ++ " \x7d"

def text (s : Sender) : String :=
  "As4Client \x7b engine: SignatureEngine \x7b timestamp_ttl: " ++ s.timeToLive.unitText
    ++ " \x7d, crypto: " ++ (if s.credentials.isSome then "true" else "false")
    ++ ", retry_defaults: " ++ retryText s.retryDefaults
    ++ ", attempt_timeout: " ++ s.attemptLimit.unitText
    ++ ", spool_threshold: " ++ Text.ofNat s.spoolThreshold
    ++ ", message_id_suffix: " ++ Text.quoted s.idEnding ++ ", .. \x7d"

end Sender

end Ebms
