import Ebms.Text.LowerCase
import Ebms.Text.Quoted
import Ebms.Text.Trim

/-! # Log levels

How much is logged, the most talkative level first. -/

set_option autoImplicit false

namespace Ebms

inductive LogLevel where
  | trace
  | debug
  | info
  | warn
  | error
  deriving DecidableEq, Repr, Inhabited

structure UnknownLogLevel where
  text : String
  deriving DecidableEq, Repr, Inhabited

def UnknownLogLevel.message (e : UnknownLogLevel) : String :=
  "Invalid logging configuration: unknown log level " ++ Text.quoted e.text

namespace LogLevel

def name : LogLevel → String
  | .trace => "trace"
  | .debug => "debug"
  | .info => "info"
  | .warn => "warn"
  | .error => "error"

def rank : LogLevel → Nat
  | .trace => 0
  | .debug => 1
  | .info => 2
  | .warn => 3
  | .error => 4

def all : List LogLevel := [.trace, .debug, .info, .warn, .error]

/-- The level that a text names, in letters of any case and with blanks around
it. -/
def ofText (text : String) : Except UnknownLogLevel LogLevel :=
  let name := Text.lower (Text.trim text)
  if name = "warning" then .ok .warn
  else
    match all.find? (·.name == name) with
    | some level => .ok level
    | none => .error { text := name }

end LogLevel

structure LogStyle where
  level : LogLevel
  showsTime : Bool
  showsTarget : Bool
  isJson : Bool
  deriving DecidableEq, Repr, Inhabited

end Ebms
