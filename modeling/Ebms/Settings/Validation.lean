import Ebms.Settings.Basic
import Ebms.Settings.Error

/-! # Valid settings

Settings are examined in a fixed order, and the first fault is reported. -/

set_option autoImplicit false

namespace Ebms

/-- Whether a backoff never shortens the wait: a multiplier has to be a number of
at least one. -/
def Backoff.isSteady : Backoff → Bool
  | .fixed => true
  | .exponential multiplier _ => multiplier.isFinite && multiplier >= 1.0

namespace Settings

def backoffFault? (backoff : Backoff) : Option SettingsFault :=
  match backoff with
  | .fixed => none
  | .exponential multiplier _ =>
    if backoff.isSteady then none else some (.lowMultiplier multiplier)

/-- The first fault of some processing modes, behind others with the ids
`seen`. -/
def modesFault? (seen : List String) : List ProcessingMode → Option SettingsFault
  | [] => none
  | mode :: rest =>
    if Text.isAllBlank mode.id then some .blankModeId
    else if mode.id ∈ seen then some (.repeatedModeId mode.id)
    else
      match mode.endpoint with
      | none => modesFault? (mode.id :: seen) rest
      | some endpoint =>
        match Url.ofText endpoint with
        | .error fault => some (.badEndpoint mode.id endpoint fault)
        | .ok _ => modesFault? (mode.id :: seen) rest

def cryptoFault? (crypto : Option CryptoSettings) : Option SettingsFault :=
  if crypto.any (·.keyAlias.isEmpty) then some .noKeyAlias else none

def levelFault? (level : String) : Option SettingsFault :=
  match LogLevel.ofText level with
  | .ok _ => none
  | .error _ => some (.unknownLogLevel level)

def fault? (s : Settings) : Option SettingsFault :=
  (if s.transport.requestTimeout.nanos = 0 then some .noRequestTime else none)
    <|> backoffFault? s.retry.backoff
    <|> (if Text.isAllBlank s.sender.messageIdEnding then some .blankIdEnding else none)
    <|> cryptoFault? s.crypto
    <|> modesFault? [] s.modes
    <|> levelFault? s.logging.level

def validated (s : Settings) : Except SettingsError Settings :=
  match s.fault? with
  | none => .ok s
  | some fault => .error (.invalid fault)

end Settings

end Ebms
