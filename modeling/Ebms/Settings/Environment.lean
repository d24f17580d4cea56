import Ebms.Settings.Validation

/-! # Settings from the environment

Variables override the defaults one by one, in a fixed order; the first one that
cannot be read is the error.  Lengths of time are whole milliseconds. -/

set_option autoImplicit false

namespace Ebms

abbrev Environment := List (String × String)

/-- The value of decimal digits below a bound, behind the value so far.  Digits
are read one by one, so that the first thing wrong is reported. -/
def boundedFrom (bound value : Nat) : List Char → Except VariableFault Nat
  | [] => .ok value
  | c :: rest =>
    match Text.digit? c with
    | none => .error .invalidDigit
    | some digit =>
      if 10 * value + digit < bound then boundedFrom bound (10 * value + digit) rest
      else .error .numberTooLarge

def boundedNumber (bound : Nat) (text : String) : Except VariableFault Nat :=
  match text.toList with
  | [] => .error .emptyNumber
  | ['+'] => .error .invalidDigit
  | '+' :: digits => boundedFrom bound 0 digits
  | digits => boundedFrom bound 0 digits

def truthValue (text : String) : Except VariableFault Bool :=
  if text = "true" then .ok true
  else if text = "false" then .ok false
  else .error .noTruthValue

namespace Environment

def read {α : Type} (env : Environment) (name what : String)
    (reader : String → Except VariableFault α) (absent : α) : Except SettingsError α :=
  match env.lookup name with
  | none => .ok absent
  | some text =>
    match reader text with
    | .ok value => .ok value
    | .error fault => .error (.invalidVariable name what fault)

def readSpan (env : Environment) (name what : String) (absent : Span) :
    Except SettingsError Span :=
  env.read name what (fun text => (boundedNumber UInt64.size text).map Span.ofMilliseconds) absent

def text (env : Environment) (name absent : String) : String := (env.lookup name).getD absent

/-- The settings of keys, which the path of the keyring switches on. -/
def crypto (env : Environment) : Option CryptoSettings :=
  (env.lookup "AS4_CRYPTO_KEYSTORE_PATH").map fun path =>
    { CryptoSettings.standard with
      keyringPath := path
      keyringPassword := env.text "AS4_CRYPTO_KEYSTORE_PASSWORD" ""
      keyAlias := env.text "AS4_CRYPTO_KEY_ALIAS" ""
      keyPassword := env.text "AS4_CRYPTO_KEY_PASSWORD" ""
      trustPath := env.lookup "AS4_CRYPTO_TRUSTSTORE_PATH"
      trustPassword := env.lookup "AS4_CRYPTO_TRUSTSTORE_PASSWORD" }

/-- The settings that the variables make, valid or not. -/
def settings (env : Environment) : Except SettingsError Settings := do
  let base := Settings.standard
  let connectTimeout ← env.readSpan "AS4_TRANSPORT_CONNECT_TIMEOUT_MS" "connect timeout"
    base.transport.connectTimeout
  let requestTimeout ← env.readSpan "AS4_TRANSPORT_REQUEST_TIMEOUT_MS" "request timeout"
    base.transport.requestTimeout
  let maxRetries ← env.read "AS4_RETRY_MAX_RETRIES" "max retries"
    (fun text => (boundedNumber UInt32.size text).map UInt32.ofNat) base.retry.maxRetries
  let interval ← env.readSpan "AS4_RETRY_INTERVAL_MS" "retry interval" base.retry.interval
  let spoolThreshold ← env.read "AS4_SENDER_SPOOL_THRESHOLD" "spool threshold"
    (boundedNumber UInt64.size) base.sender.spoolThreshold
  let timeToLive ← env.readSpan "AS4_SENDER_TIMESTAMP_TTL_MS" "timestamp TTL"
    base.sender.timeToLive
  let isJson ← env.read "AS4_LOG_JSON" "JSON flag" truthValue base.logging.isJson
  pure
    { base with
      transport :=
        { connectTimeout, requestTimeout
          userAgent := env.text "AS4_TRANSPORT_USER_AGENT" base.transport.userAgent }
      retry := { base.retry with maxRetries, interval }
      sender :=
        { messageIdEnding :=
            env.text "AS4_SENDER_MESSAGE_ID_SUFFIX" base.sender.messageIdEnding
          spoolThreshold, timeToLive }
      crypto := env.crypto
      logging :=
        { base.logging with level := env.text "AS4_LOG_LEVEL" base.logging.level, isJson } }

end Environment

def Settings.ofEnvironment (env : Environment) : Except SettingsError Settings := do
  (← env.settings).validated

end Ebms
