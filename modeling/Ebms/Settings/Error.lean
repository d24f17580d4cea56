import Ebms.Decimal.Shortest
import Ebms.Failure
import Ebms.Settings.LogLevel
import Ebms.Url

/-! # Errors of settings -/

set_option autoImplicit false

namespace Ebms

inductive SettingsFault where
  | noRequestTime
  | lowMultiplier (multiplier : Float)
  | blankIdEnding
  | noKeyAlias
  | blankModeId
  | repeatedModeId (id : String)
  | badEndpoint (modeId endpoint : String) (fault : UrlFault)
  | unknownLogLevel (text : String)
  deriving Inhabited

def SettingsFault.message : SettingsFault → String
  | .noRequestTime => "request_timeout must be greater than 0"
  | .lowMultiplier multiplier =>
    "backoff multiplier must be at least 1, got " ++ floatText multiplier
  | .blankIdEnding => "message_id_suffix must not be empty"
  | .noKeyAlias => "crypto.key_alias must be set"
  | .blankModeId => "PMode id must not be empty"
  | .repeatedModeId id => "Duplicate PMode id: " ++ id
  | .badEndpoint modeId endpoint fault =>
    "PMode " ++ modeId ++ " has invalid endpoint " ++ endpoint ++ ": " ++ fault.message
  | .unknownLogLevel text => "Invalid log level: " ++ text

inductive VariableFault where
  | emptyNumber
  | invalidDigit
  | numberTooLarge
  | noTruthValue
  deriving DecidableEq, Repr, Inhabited

def VariableFault.message : VariableFault → String
  | .emptyNumber => "cannot parse integer from empty string"
  | .invalidDigit => "invalid digit found in string"
  | .numberTooLarge => "number too large to fit in target type"
  | .noTruthValue => "provided string was not \x60true\x60 or \x60false\x60"

/-- Why there are no settings, or no sender for them. -/
inductive SettingsError where
  | unreadableFile (path : String)
  | unwritableFile (path : String)
  | malformedFile (path : String)
  | unwritableValue
  | invalidVariable (name what : String) (fault : VariableFault)
  | invalid (fault : SettingsFault)
  | keyring (path : String) (error : KeyringError)
  deriving Inhabited

namespace SettingsError

def message : SettingsError → String
  | .unreadableFile path => "Cannot read configuration file " ++ path
  | .unwritableFile path => "Cannot write configuration file " ++ path
  | .malformedFile path => "Malformed configuration in " ++ path
  | .unwritableValue => "Cannot serialize configuration"
  | .invalidVariable name what fault =>
    "Environment variable " ++ name ++ " holds an invalid " ++ what ++ ": " ++ fault.message
  | .invalid fault => "Configuration validation failed: " ++ fault.message
  | .keyring path _ => "Cannot open keystore " ++ path

end SettingsError

instance : Failure SettingsError where
  name
    | .unreadableFile _ => "FileRead"
    | .unwritableFile _ => "FileWrite"
    | .malformedFile _ => "Parse"
    | .unwritableValue => "Serialize"
    | .invalidVariable .. => "InvalidEnv"
    | .invalid _ => "ValidationFailed"
    | .keyring .. => "Keystore"
  message := SettingsError.message
  detail? _ := none

instance : Failure UnknownLogLevel where
  name _ := "InvalidConfiguration"
  message := UnknownLogLevel.message
  detail? _ := none

end Ebms
