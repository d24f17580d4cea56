import Ebms.Proofs.Security.References

/-! # What an accepted message is

Verification is a chain of checks; it succeeds exactly when all of them do, and
its answer is fixed by the header it found.  Statements about accepted messages
start from this one place. -/

set_option autoImplicit false

namespace Ebms

/-- Everything that verification asks of an envelope, with the header, the signature
and the certificate that it finds. -/
structure Envelope.IsAccepted (suite : Suite) (credentials : Credentials) (now : Instant)
    (e : Envelope) (header : SecurityHeader) (signature : Signature)
    (certificate : Certificate) : Prop where
  hasHeader : e.security = some header
  hasSignature : header.signature = some signature
  algorithm : signature.signedInfo.algorithm = credentials.signature
  resolved : resolveCertificate suite credentials.trusted header.token signature.key =
    .ok certificate
  trusted : isTrusted suite credentials.trusted certificate = true
  window : checkWindow certificate now = .ok ()
  covered : signature.signedInfo.Covers suite credentials.digest e header
  genuine : suite.verify certificate.publicKey signature.signedInfo.bytes signature.value = true
  current : checkExpiry now header.timestamp = .ok ()

def verifiedAs (header : SecurityHeader) (signature : Signature) (certificate : Certificate) :
    Verified :=
  { certificate, reference := signature.key.kind, hasTimestamp := header.timestamp.isSome }

namespace Envelope

variable {suite : Suite} {credentials : Credentials} {now : Instant} {e : Envelope}
  {verified : Verified}

theorem IsAccepted.verify_eq {header : SecurityHeader} {signature : Signature}
    {certificate : Certificate}
    (accepted : e.IsAccepted suite credentials now header signature certificate) :
    e.verify suite credentials now = .ok (verifiedAs header signature certificate) := by
  have references := checkReferences_eq_ok.mpr accepted.covered
  unfold verify
  simp [accepted.hasHeader, accepted.hasSignature, accepted.algorithm, accepted.resolved,
    accepted.trusted, accepted.window, references, accepted.genuine, accepted.current,
    verifiedAs]

theorem verify_eq_ok :
    e.verify suite credentials now = .ok verified ↔
      ∃ header signature certificate,
        e.IsAccepted suite credentials now header signature certificate ∧
          verified = verifiedAs header signature certificate := by
  constructor
  · intro success
    unfold verify at success
    split at success
    case h_1 => cases success
    case h_2 header security =>
      split at success
      case h_1 => cases success
      case h_2 signature present =>
        dsimp only at success
        split at success
        case isTrue => cases success
        case isFalse algorithm =>
          obtain ⟨certificate, resolved, success⟩ := bind_eq_ok.mp success
          split at success
          case isTrue => cases success
          case isFalse trusted =>
            obtain ⟨_, window, success⟩ := bind_eq_ok.mp success
            obtain ⟨_, references, success⟩ := bind_eq_ok.mp success
            split at success
            case isTrue => cases success
            case isFalse genuine =>
              obtain ⟨_, current, success⟩ := bind_eq_ok.mp success
              refine ⟨header, signature, certificate, ?_, (Except.ok.inj success).symm⟩
              exact
                { hasHeader := security
                  hasSignature := present
                  algorithm := Decidable.not_not.mp algorithm
                  resolved
                  trusted := by simpa using trusted
                  window
                  covered := checkReferences_eq_ok.mp references
                  genuine := by simpa using genuine
                  current }
  · rintro ⟨header, signature, certificate, accepted, rfl⟩
    exact accepted.verify_eq

end Envelope

end Ebms
