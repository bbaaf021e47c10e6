import Bamep.Domain.Wire
import Bamep.Store.TransferRepository

/-! Terminal evidence for an Attempt that is bound to a Transfer. The workflow decision is the generic
one; each function adds what happens to the bound Artifact. -/
namespace Bamep

inductive ActionResultOutcome where
  | succeeded | failed | cancelled
  deriving DecidableEq, Repr

-- The two keys of `ActionResult.detail` that are read; `none` when absent or not a string.
structure ResultDetail where
  code : Option String
  artifactId : Option String
  deriving DecidableEq, Repr

def m1ResultDetailMatches (outcome : ActionResultOutcome) (detail : ResultDetail) : Bool :=
  match outcome with
  | .succeeded => detail.code = some "SIMULATED_COMPLETION"
  | .failed => detail.code = some "SIMULATED_FAILURE"
  | .cancelled => false

inductive TransferResultCode where
  | transferVerified | artifactVerificationFailed | chunkVerificationFailed | transferAbandoned
  deriving DecidableEq, Repr

def TransferResultCode.ofWire (code : String) : Option TransferResultCode :=
  if code = "TRANSFER_VERIFIED" then some .transferVerified
  else if code = "ARTIFACT_VERIFICATION_FAILED" then some .artifactVerificationFailed
  else if code = "CHUNK_VERIFICATION_FAILED" then some .chunkVerificationFailed
  else if code = "TRANSFER_ABANDONED" then some .transferAbandoned
  else none

def TransferResultCode.outcome : TransferResultCode → ActionResultOutcome
  | .transferVerified => .succeeded
  | .artifactVerificationFailed | .chunkVerificationFailed | .transferAbandoned => .failed

structure TransferResultDetail where
  code : TransferResultCode
  artifactId : ArtifactId
  deriving DecidableEq, Repr

inductive TransferResultDetailError where
  | missingCode | unknownCode | outcomeCodeMismatch | missingArtifactId | malformedArtifactId
  deriving DecidableEq, Repr

def parseTransferResultDetail (outcome : ActionResultOutcome) (detail : ResultDetail) :
    Except TransferResultDetailError TransferResultDetail :=
  match detail.code with
  | none => .error .missingCode
  | some text =>
    match TransferResultCode.ofWire text with
    | none => .error .unknownCode
    | some code =>
      if code.outcome ≠ outcome then .error .outcomeCodeMismatch
      else match detail.artifactId with
        | none => .error .missingArtifactId
        | some text =>
          match parseHyphenatedUuid text with
          | none => .error .malformedArtifactId
          | some uuid => .ok ⟨code,⟨uuid⟩⟩

-- The locked Artifact is the one the Transfer owns, and the Attempt the one it is bound to.
def TransferEvidenceFacts.correlated (facts : TransferEvidenceFacts) : Bool :=
  facts.transfer.artifactId = facts.artifact.id && facts.transfer.attemptId = some facts.attempt.id

def TransferResultCode.evidence : TransferResultCode → ActionEvidence
  | .transferVerified => .resultSucceeded
  | .artifactVerificationFailed | .chunkVerificationFailed | .transferAbandoned => .resultFailed

-- What the code requires of the durable Artifact, and the Artifact to fail; `none` is `FailClosed`.
def TransferResultCode.artifactLeg (code : TransferResultCode) (artifact : Artifact) :
    Option (Option Artifact) :=
  match code with
  | .transferVerified => if artifact.state ≠ .verified then none else some none
  | .artifactVerificationFailed => if artifact.state ≠ .failed then none else some none
  | .chunkVerificationFailed | .transferAbandoned =>
    match artifact.state with
    | .incomplete =>
      match failIncomplete artifact with
      | .ok failed => some (some failed)
      | .error _ => none
    | _ => none

def decideTransferTerminalEvidence (detail : TransferResultDetail) (facts : TransferEvidenceFacts)
    (stamp : Stamp) : TransferEvidenceDecision :=
  if detail.artifactId ≠ facts.artifact.id || !facts.correlated then .failClosed
  else match applyActionEvidence facts.job facts.jobStep facts.attempt detail.code.evidence stamp with
    | .noOp => .noOp
    | .conflict => .conflict
    | .applied applied =>
      match detail.code.artifactLeg facts.artifact with
      | none => .failClosed
      | some artifactFailed => .applied applied artifactFailed

/- The common body of `decide_transfer_cancel_ack`, `decide_transfer_status_report_cancelled` and
`decide_transfer_status_report_failed`: `final` is the Attempt state that fails the Artifact. -/
def composeArtifactFailure (final : AttemptState) (facts : TransferEvidenceFacts)
    (outcome : EvidenceOutcome) : TransferEvidenceDecision :=
  if !facts.correlated then .noOp
  else match outcome with
    | none => .noOp
    | some applied =>
      if applied.terminal && applied.attempt.state = final && facts.artifact.state = .incomplete then
        match failIncomplete facts.artifact with
        | .ok failed => .applied applied (some failed)
        | .error _ => .noOp
      else .applied applied none

def decideTransferCancelAck (evidence : CancelAckEvidence) (facts : TransferEvidenceFacts)
    (stamp : Stamp) : TransferEvidenceDecision :=
  composeArtifactFailure .cancelled facts
    (applyCancelAck facts.job facts.jobStep facts.attempt evidence stamp)

def decideTransferStatusReportCancelled (facts : TransferEvidenceFacts) (stamp : Stamp) :
    TransferEvidenceDecision :=
  composeArtifactFailure .cancelled facts
    (applyStatusReport facts.job facts.jobStep facts.attempt .cancelled stamp)

def decideTransferStatusReportFailed (facts : TransferEvidenceFacts) (stamp : Stamp) :
    TransferEvidenceDecision :=
  composeArtifactFailure .failed facts
    (applyStatusReport facts.job facts.jobStep facts.attempt .failed stamp)

end Bamep
