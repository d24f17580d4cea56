import Ebms.Settings.Basic
import Ebms.Toml.Reader
import Ebms.Toml.Writer

/-! # Settings as structured data

What is left out keeps its default; what is not known is passed over; what is of
the wrong kind makes the whole unreadable. -/

set_option autoImplicit false

namespace Ebms

namespace TransportSettings

def ofDatum? (d : Datum) : Option TransportSettings := do
  let fields ← Notation.toml.fields? ["connect_timeout", "request_timeout", "user_agent"] d
  let connectTimeout ← Datum.field fields "connect_timeout" Span.ofDatum?
    (some standard.connectTimeout)
  let requestTimeout ← Datum.field fields "request_timeout" Span.ofDatum?
    (some standard.requestTimeout)
  let userAgent ← Datum.field fields "user_agent" Datum.text? (some standard.userAgent)
  some { connectTimeout, requestTimeout, userAgent }

def toDatum (s : TransportSettings) : Datum :=
  .table [("connect_timeout", s.connectTimeout.toDatum),
    ("request_timeout", s.requestTimeout.toDatum), ("user_agent", .text s.userAgent)]

end TransportSettings

namespace SenderSettings

def ofDatum? (d : Datum) : Option SenderSettings := do
  let fields ← Notation.toml.fields? ["message_id_suffix", "spool_threshold", "timestamp_ttl"] d
  let messageIdEnding ← Datum.field fields "message_id_suffix" Datum.text?
    (some standard.messageIdEnding)
  let spoolThreshold ← Datum.field fields "spool_threshold" (Datum.below? UInt64.size)
    (some standard.spoolThreshold)
  let timeToLive ← Datum.field fields "timestamp_ttl" Span.ofDatum? (some standard.timeToLive)
  some { messageIdEnding, spoolThreshold, timeToLive }

def toDatum (s : SenderSettings) : Datum :=
  .table [("message_id_suffix", .text s.messageIdEnding),
    ("spool_threshold", .integer s.spoolThreshold), ("timestamp_ttl", s.timeToLive.toDatum)]

end SenderSettings

namespace CryptoSettings

def fieldNames : List String :=
  ["keystore_path", "keystore_password", "key_alias", "key_password", "truststore_path",
    "truststore_password", "signature_algorithm", "digest_algorithm", "key_reference_type"]

def ofDatum? (d : Datum) : Option CryptoSettings := do
  let fields ← Notation.toml.fields? fieldNames d
  let text (name : String) (absent : String) := Datum.field fields name Datum.text? (some absent)
  let keyringPath ← text "keystore_path" standard.keyringPath
  let keyringPassword ← text "keystore_password" standard.keyringPassword
  let keyAlias ← text "key_alias" standard.keyAlias
  let keyPassword ← text "key_password" standard.keyPassword
  let trustPath ← Datum.optionalField fields "truststore_path" Datum.text?
  let trustPassword ← Datum.optionalField fields "truststore_password" Datum.text?
  let signature ← Datum.field fields "signature_algorithm"
    (fun d => (Notation.toml.choice? d).bind SignatureAlgorithm.ofName?) (some standard.signature)
  let digest ← Datum.field fields "digest_algorithm"
    (fun d => (Notation.toml.choice? d).bind DigestAlgorithm.ofName?) (some standard.digest)
  let keyReference ← Datum.field fields "key_reference_type"
    (fun d => (Notation.toml.choice? d).bind KeyReferenceKind.ofName?) (some standard.keyReference)
  some { keyringPath, keyringPassword, keyAlias, keyPassword, trustPath, trustPassword,
         signature, digest, keyReference }

def toDatum (s : CryptoSettings) : Datum :=
  .table [("keystore_path", .text s.keyringPath), ("keystore_password", .text s.keyringPassword),
    ("key_alias", .text s.keyAlias), ("key_password", .text s.keyPassword),
    ("truststore_path", .ofText? s.trustPath), ("truststore_password", .ofText? s.trustPassword),
    ("signature_algorithm", .text s.signature.name), ("digest_algorithm", .text s.digest.name),
    ("key_reference_type", .text s.keyReference.name)]

end CryptoSettings

namespace LoggingSettings

def ofDatum? (d : Datum) : Option LoggingSettings := do
  let fields ← Notation.toml.fields? ["level", "json_format", "with_timestamp", "with_target"] d
  let level ← Datum.field fields "level" Datum.text? (some standard.level)
  let isJson ← Datum.field fields "json_format" Datum.bool? (some standard.isJson)
  let showsTime ← Datum.field fields "with_timestamp" Datum.bool? (some standard.showsTime)
  let showsTarget ← Datum.field fields "with_target" Datum.bool? (some standard.showsTarget)
  some { level, isJson, showsTime, showsTarget }

def toDatum (s : LoggingSettings) : Datum :=
  .table [("level", .text s.level), ("json_format", .bool s.isJson),
    ("with_timestamp", .bool s.showsTime), ("with_target", .bool s.showsTarget)]

end LoggingSettings

namespace Settings

def fieldNames : List String :=
  ["mpcs", "transport", "retry", "sender", "crypto", "logging", "pmodes"]

def retryOfDatum? (d : Datum) : Option RetryPolicy := do
  let fields ← Notation.toml.fields? ["max_retries", "interval", "backoff"] d
  RetryPolicy.ofFields? fields "interval" (some Sender.standardRetry.maxRetries)
    (some Sender.standardRetry.interval)

def ofDatum? (d : Datum) : Option Settings := do
  let fields ← Notation.toml.fields? fieldNames d
  let channels ← Datum.field fields "mpcs" (Datum.list? Datum.text?) (some standard.channels)
  let transport ← Datum.field fields "transport" TransportSettings.ofDatum?
    (some standard.transport)
  let retry ← Datum.field fields "retry" retryOfDatum? (some standard.retry)
  let sender ← Datum.field fields "sender" SenderSettings.ofDatum? (some standard.sender)
  let crypto ← Datum.optionalField fields "crypto" CryptoSettings.ofDatum?
  let logging ← Datum.field fields "logging" LoggingSettings.ofDatum? (some standard.logging)
  let modes ← Datum.field fields "pmodes" (Datum.list? (ProcessingMode.ofDatum? .toml))
    (some standard.modes)
  some { channels, transport, retry, sender, crypto, logging, modes }

def entries (s : Settings) : List (String × Datum) :=
  [("mpcs", .list (s.channels.map .text)), ("transport", s.transport.toDatum),
    ("retry", s.retry.toDatum "interval"), ("sender", s.sender.toDatum),
    ("crypto", (s.crypto.map CryptoSettings.toDatum).getD .null),
    ("logging", s.logging.toDatum), ("pmodes", .list (s.modes.map ProcessingMode.toDatum))]

def toDatum (s : Settings) : Datum := .table s.entries

def ofToml? (text : String) : Option Settings := (Toml.read? text).bind ofDatum?

def toToml? (s : Settings) : Option String := Toml.write? s.entries

end Settings

end Ebms
