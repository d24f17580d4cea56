import Ebms.Datum
import Ebms.Mode.Basic
import Ebms.Time.Words

/-! # Processing modes as structured data

Every field of a mode but its id may be left out.  Lengths of time are stated in
words. -/

set_option autoImplicit false

namespace Ebms

namespace Span

def ofDatum? (d : Datum) : Option Span := d.text?.bind ofWords?

def toDatum (s : Span) : Datum := .text s.words

end Span

namespace Backoff

/-- A backoff, told by its kind.  As a list it has no items beyond those of the
kind. -/
def ofDatum? (d : Datum) : Option Backoff := do
  let fields ← d.fields? false ["kind", "multiplier", "max_interval"]
  match ← (← fields.lookup "kind").text? with
  | "fixed" => (d.fields? false ["kind"]).map fun _ => .fixed
  | "exponential" =>
    let multiplier ← (← fields.lookup "multiplier").float?
    let longest ← Span.ofDatum? (← fields.lookup "max_interval")
    some (.exponential multiplier longest)
  | _ => none

def toDatum : Backoff → Datum
  | .fixed => .table [("kind", .text "fixed")]
  | .exponential multiplier longest =>
    .table [("kind", .text "exponential"), ("multiplier", .float multiplier),
      ("max_interval", longest.toDatum)]

end Backoff

namespace RetryPolicy

def ofFields? (fields : List (String × Datum)) (intervalName : String)
    (absentRetries : Option UInt32) (absentInterval : Option Span) : Option RetryPolicy := do
  let maxRetries ← Datum.field fields "max_retries"
    (fun d => (d.below? UInt32.size).map UInt32.ofNat) absentRetries
  let interval ← Datum.field fields intervalName Span.ofDatum? absentInterval
  let backoff ← Datum.field fields "backoff" Backoff.ofDatum? (some .fixed)
  some { maxRetries, interval, backoff }

def toDatum (policy : RetryPolicy) (intervalName : String) : Datum :=
  .table [("max_retries", .integer policy.maxRetries.toNat),
    (intervalName, policy.interval.toDatum), ("backoff", policy.backoff.toDatum)]

end RetryPolicy

namespace Party

def ofDatum? (source : Notation) (d : Datum) : Option Party := do
  let fields ← source.fields? ["id", "id_type", "role"] d
  let id ← Datum.field fields "id" Datum.text? none
  let idType ← Datum.optionalField fields "id_type" Datum.text?
  let role ← Datum.field fields "role" Datum.text? none
  some { id, idType, role }

def toDatum (p : Party) : Datum :=
  .table [("id", .text p.id), ("id_type", .ofText? p.idType), ("role", .text p.role)]

end Party

namespace ModeSecurity

def ofDatum? (source : Notation) (d : Datum) : Option ModeSecurity := do
  let fields ← source.fields? ["sign", "require_signed_response"] d
  let sign ← Datum.field fields "sign" Datum.bool? none
  let requireSignedResponse ← Datum.field fields "require_signed_response" Datum.bool? none
  some { sign, requireSignedResponse }

def toDatum (s : ModeSecurity) : Datum :=
  .table [("sign", .bool s.sign), ("require_signed_response", .bool s.requireSignedResponse)]

end ModeSecurity

namespace ProcessingMode

def fieldNames : List String :=
  ["id", "agreement", "initiator", "responder", "mep_binding", "endpoint_url", "service",
    "service_type", "action", "mpc", "soap_version", "security", "retry"]

def ofDatum? (source : Notation) (d : Datum) : Option ProcessingMode := do
  let fields ← source.fields? fieldNames d
  let text (name : String) := Datum.optionalField fields name Datum.text?
  let id ← Datum.field fields "id" Datum.text? none
  let agreement ← text "agreement"
  let initiator ← Datum.optionalField fields "initiator" (Party.ofDatum? source)
  let responder ← Datum.optionalField fields "responder" (Party.ofDatum? source)
  let binding ← Datum.field fields "mep_binding"
    (fun d => (source.choice? d).bind Binding.ofName?) (some .push)
  let endpoint ← text "endpoint_url"
  let service ← text "service"
  let serviceType ← text "service_type"
  let action ← text "action"
  let channel ← text "mpc"
  let soap ← Datum.optionalField fields "soap_version"
    (fun d => (source.choice? d).bind SoapVersion.ofLabel?)
  let security ← Datum.field fields "security" (ModeSecurity.ofDatum? source) (some .standard)
  let retry ← Datum.optionalField fields "retry" fun d => do
    RetryPolicy.ofFields? (← source.fields? ["max_retries", "retry_interval", "backoff"] d)
      "retry_interval" none none
  some { id, agreement, initiator, responder, binding, endpoint, service, serviceType,
         action, channel, soap, security, retry }

def toDatum (m : ProcessingMode) : Datum :=
  .table [("id", .text m.id), ("agreement", .ofText? m.agreement),
    ("initiator", (m.initiator.map Party.toDatum).getD .null),
    ("responder", (m.responder.map Party.toDatum).getD .null),
    ("mep_binding", .text m.binding.name), ("endpoint_url", .ofText? m.endpoint),
    ("service", .ofText? m.service), ("service_type", .ofText? m.serviceType),
    ("action", .ofText? m.action), ("mpc", .ofText? m.channel),
    ("soap_version", .ofText? (m.soap.map (·.label))), ("security", m.security.toDatum),
    ("retry", (m.retry.map (·.toDatum "retry_interval")).getD .null)]

end ProcessingMode

end Ebms
