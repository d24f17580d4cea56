import Ebms.Envelope.Basic
import Ebms.Retry

/-! # Processing modes

A processing mode holds the parameters that two partners have agreed upon for
their exchanges.  A message that names one takes from it whatever it leaves
open. -/

set_option autoImplicit false

namespace Ebms

/-- Which side starts the transfer of a user message. -/
inductive Binding where
  | push
  | pull
  deriving DecidableEq, Repr, Inhabited

namespace Binding

def name : Binding → String
  | .push => "push"
  | .pull => "pull"

def ofName? (name : String) : Option Binding := [push, pull].find? (·.name == name)

end Binding

structure ModeSecurity where
  sign : Bool
  requireSignedResponse : Bool
  deriving DecidableEq, Repr, Inhabited

/-- Unless a mode says otherwise, messages are signed and answers need not be. -/
def ModeSecurity.standard : ModeSecurity := { sign := true, requireSignedResponse := false }

structure ProcessingMode where
  id : String
  agreement : Option String
  initiator : Option Party
  responder : Option Party
  binding : Binding
  endpoint : Option String
  service : Option String
  serviceType : Option String
  action : Option String
  channel : Option String
  soap : Option SoapVersion
  security : ModeSecurity
  retry : Option RetryPolicy
  deriving Inhabited

def SoapVersion.ofLabel? (label : String) : Option SoapVersion :=
  [SoapVersion.v11, SoapVersion.v12].find? (·.label == label)

end Ebms
