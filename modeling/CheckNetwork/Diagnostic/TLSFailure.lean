import CheckNetwork.Diagnostic.Model
import CheckNetwork.Go.Rfc3339

/-!
# Failures of a TLS handshake

`classifyTLSFailure` and `applyTLSFailure`: a failed verification becomes one
of five codes, and only the codes about the validity of a certificate carry its
dates.
-/

namespace CheckNetwork.Diagnostic

open Go

/-- The validity of an `x509.Certificate`. -/
structure Certificate where
  notBefore : Time
  notAfter : Time
  deriving DecidableEq, Repr

/-- An `x509.CertificateInvalidError`; `expired` is `Reason == x509.Expired`. -/
structure CertificateInvalid where
  expired : Bool
  cert : Option Certificate
  deriving DecidableEq, Repr

/-- What `errors.As` finds in the error of a failed verification. -/
structure VerificationError where
  hostname : Bool
  unknownAuthority : Bool
  invalid : Option CertificateInvalid
  deriving DecidableEq, Repr

/-- The `tls.CertificateVerificationError` in the error of a handshake, if any. -/
abbrev HandshakeError := Option VerificationError

structure TLSFailureClassification where
  errorCode : String
  details : Option Details

/-- `UTC().Format(time.RFC3339)`. -/
def rfc3339Text (time : Time) : GoString := Stamp.spelled (Rfc3339.format time.utc)

def validityDetails (certificate : Certificate) : Details :=
  [("certificate_not_before", .string (rfc3339Text certificate.notBefore)),
    ("certificate_not_after", .string (rfc3339Text certificate.notAfter))]

def classifyTLSFailure (err : HandshakeError) (now : Time) : TLSFailureClassification :=
  match err with
  | none => ⟨"tls_handshake_failed", none⟩
  | some verificationError =>
      if verificationError.hostname then ⟨"tls_hostname_mismatch", none⟩
      else if verificationError.unknownAuthority then ⟨"tls_untrusted", none⟩
      else
        match (verificationError.invalid.filter CertificateInvalid.expired).bind
            CertificateInvalid.cert with
        | none => ⟨"tls_handshake_failed", none⟩
        | some certificate =>
            if !now.before certificate.notAfter then
              ⟨"tls_certificate_expired", some (validityDetails certificate)⟩
            else if now.before certificate.notBefore then
              ⟨"tls_certificate_not_yet_valid", some (validityDetails certificate)⟩
            else ⟨"tls_handshake_failed", none⟩

def applyTLSFailure (result : Result) (err : HandshakeError) (now : Time) : Result :=
  let classification := classifyTLSFailure err now
  { result with
    status := .unreachable
    errorCode := classification.errorCode
    message := "TLS handshake failed"
    details := classification.details }

/-- The certificate whose dates a failure carries at an instant. -/
def datedCertificate (err : HandshakeError) (now : Time) : Option Certificate :=
  (err.bind fun verificationError =>
    if verificationError.hostname || verificationError.unknownAuthority then none
    else (verificationError.invalid.filter CertificateInvalid.expired).bind
      CertificateInvalid.cert).filter fun certificate =>
        !now.before certificate.notAfter || now.before certificate.notBefore

/-- The five classifications. -/
theorem classifyTLSFailure_cases (err : HandshakeError) (now : Time) :
    (datedCertificate err now = none ∧ ∃ code ∈ ["tls_hostname_mismatch", "tls_untrusted",
        "tls_handshake_failed"], classifyTLSFailure err now = ⟨code, none⟩) ∨
      ∃ certificate, datedCertificate err now = some certificate ∧
        (now.before certificate.notAfter = false ∧ classifyTLSFailure err now =
            ⟨"tls_certificate_expired", some (validityDetails certificate)⟩ ∨
          now.before certificate.notAfter = true ∧ now.before certificate.notBefore = true ∧
            classifyTLSFailure err now =
              ⟨"tls_certificate_not_yet_valid", some (validityDetails certificate)⟩) := by
  unfold classifyTLSFailure datedCertificate
  cases err with
  | none => simp
  | some verificationError =>
      obtain ⟨hostname, unknownAuthority, invalid⟩ := verificationError
      cases hostname with
      | true => simp
      | false =>
          cases unknownAuthority with
          | true => simp
          | false =>
              simp only [Option.bind_some, Bool.or_self, Bool.false_eq_true, if_false]
              cases (invalid.filter CertificateInvalid.expired).bind CertificateInvalid.cert with
              | none => simp
              | some certificate =>
                  cases after : now.before certificate.notAfter with
                  | false => simp [after]
                  | true =>
                      cases before : now.before certificate.notBefore with
                      | false => simp [after, before]
                      | true => simp [after, before]

end CheckNetwork.Diagnostic
