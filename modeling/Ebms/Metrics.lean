/-! # Metrics

What the library counts.  A counter has at most one label, which tells results
apart. -/

set_option autoImplicit false

namespace Ebms

inductive Metric where
  | exchanges
  | transmitAttempts
  | retries
  | signaturesCreated
  | signatureVerifications
  | exchangeDuration
  deriving DecidableEq, Repr, Inhabited

namespace Metric

def all : List Metric :=
  [.exchanges, .transmitAttempts, .retries, .signaturesCreated, .signatureVerifications,
    .exchangeDuration]

def name : Metric → String
  | .exchanges => "as4_exchanges_total"
  | .transmitAttempts => "as4_transmit_attempts_total"
  | .retries => "as4_retries_total"
  | .signaturesCreated => "as4_signatures_created_total"
  | .signatureVerifications => "as4_signature_verifications_total"
  | .exchangeDuration => "as4_exchange_duration_seconds"

def kind : Metric → String
  | .exchangeDuration => "histogram"
  | _ => "counter"

def unit? : Metric → Option String
  | .exchangeDuration => some "seconds"
  | _ => none

def description : Metric → String
  | .exchanges => "Completed exchanges, labelled by result"
  | .transmitAttempts => "Transmission attempts, retries included"
  | .retries => "Retries after a retriable transport failure"
  | .signaturesCreated => "Outgoing messages signed"
  | .signatureVerifications => "Incoming signature verifications, labelled by result"
  | .exchangeDuration => "Wall time of an exchange from build to delivery"

end Metric

/-- One increment of a counter, or one sample, with the value of its label. -/
structure Count where
  metric : Metric
  result : Option String
  deriving DecidableEq, Repr, Inhabited

namespace Count

def of (metric : Metric) : Count := { metric, result := none }

def ofResult (metric : Metric) (result : String) : Count := { metric, result := some result }

def key (c : Count) : String :=
  match c.result with
  | none => c.metric.name
  | some result => c.metric.name ++ "\x7bresult=" ++ result ++ "\x7d"

end Count

def totals (counts : List Count) : List (String × Nat) :=
  (counts.map Count.key).eraseDups.map fun key => (key, (counts.map Count.key).count key)

end Ebms
