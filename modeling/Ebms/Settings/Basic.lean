import Ebms.Mode.Document
import Ebms.Sending.Sender
import Ebms.Settings.LogLevel

/-! # Settings

All that can be set from outside.  Everything has a default, so that settings
state only what differs. -/

set_option autoImplicit false

namespace Ebms

structure TransportSettings where
  connectTimeout : Span
  /-- The limit of one attempt, answer included. -/
  requestTimeout : Span
  userAgent : String
  deriving DecidableEq, Repr, Inhabited

structure SenderSettings where
  messageIdEnding : String
  spoolThreshold : Nat
  timeToLive : Span
  deriving DecidableEq, Repr, Inhabited

structure CryptoSettings where
  keyringPath : String
  keyringPassword : String
  keyAlias : String
  keyPassword : String
  trustPath : Option String
  trustPassword : Option String
  signature : SignatureAlgorithm
  digest : DigestAlgorithm
  keyReference : KeyReferenceKind
  deriving DecidableEq, Repr, Inhabited

structure LoggingSettings where
  level : String
  isJson : Bool
  showsTime : Bool
  showsTarget : Bool
  deriving DecidableEq, Repr, Inhabited

structure Settings where
  channels : List String
  transport : TransportSettings
  retry : RetryPolicy
  sender : SenderSettings
  crypto : Option CryptoSettings
  logging : LoggingSettings
  modes : List ProcessingMode
  deriving Inhabited

def TransportSettings.standard : TransportSettings :=
  { connectTimeout := Span.ofSeconds 10, requestTimeout := Span.ofSeconds 60,
    userAgent := "as4-core/0.1.0" }

def SenderSettings.standard : SenderSettings :=
  { messageIdEnding := Sender.standardIdEnding, spoolThreshold := defaultSpoolThreshold,
    timeToLive := Sender.standardTimeToLive }

/-- The defaults of keys; an alias has to be set. -/
def CryptoSettings.standard : CryptoSettings :=
  { keyringPath := "./keystore.as4ks", keyringPassword := "", keyAlias := "", keyPassword := "",
    trustPath := none, trustPassword := none, signature := .ed25519, digest := .sha256,
    keyReference := .directReference }

def LoggingSettings.standard : LoggingSettings :=
  { level := LogLevel.info.name, isJson := false, showsTime := true, showsTarget := true }

def LoggingSettings.style (s : LoggingSettings) : Except UnknownLogLevel LogStyle :=
  match LogLevel.ofText s.level with
  | .ok level =>
    .ok { level, showsTime := s.showsTime, showsTarget := s.showsTarget, isJson := s.isJson }
  | .error error => .error error

def Settings.standard : Settings :=
  { channels := [], transport := .standard, retry := Sender.standardRetry, sender := .standard,
    crypto := none, logging := .standard, modes := [] }

end Ebms
