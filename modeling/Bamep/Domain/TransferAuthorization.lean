import Bamep.Domain.Transfer

/-! Sender-constrained transfer authorization: capability bindings, the operations they allow and the
freshness of a signed proof. Clock readings are nanoseconds; `timestamp_millis` rounds them down. -/
namespace Bamep

inductive AuthorizationOperation where
  | chunkUpload | resumeDiscovery | sealManifest
  deriving DecidableEq, Repr

def AuthorizationOperation.requiresChunkIndex : AuthorizationOperation → Bool
  | .chunkUpload => true
  | .resumeDiscovery | .sealManifest => false

inductive AuthorizationDenialReason where
  | capabilityExpired | capabilityWrongEpoch | transferMismatch | artifactMismatch | directionMismatch
  | operationChunkIndexRuleViolation | proofTooStale | proofTooFarInFuture
  | operationNotCurrentlyEligible
  deriving DecidableEq, Repr

structure CapabilityBinding where
  endpointId : EndpointId
  transferId : TransferId
  artifactId : ArtifactId
  direction : TransferDirection
  attemptId : AttemptId
  proofPublicKey : List UInt8
  expiresAt : Instant
  epoch : Nat
  deriving DecidableEq, Repr

structure RequestedOperation where
  operation : AuthorizationOperation
  transferId : TransferId
  artifactId : ArtifactId
  direction : TransferDirection
  chunkIndex : Option Nat
  deriving DecidableEq, Repr

def capabilityIsCurrent (binding : CapabilityBinding) (now : Instant) (epoch : Nat) :
    Except AuthorizationDenialReason Unit :=
  if binding.epoch ≠ epoch then .error .capabilityWrongEpoch
  else if binding.expiresAt ≤ now then .error .capabilityExpired
  else .ok ()

def capabilityMatchesRequest (binding : CapabilityBinding) (requested : RequestedOperation) :
    Except AuthorizationDenialReason Unit :=
  if binding.transferId ≠ requested.transferId then .error .transferMismatch
  else if binding.artifactId ≠ requested.artifactId then .error .artifactMismatch
  else if binding.direction ≠ requested.direction then .error .directionMismatch
  else if requested.operation.requiresChunkIndex ≠ requested.chunkIndex.isSome then
    .error .operationChunkIndexRuleViolation
  else .ok ()

def dataPlaneOperationIsCurrent (operation : AuthorizationOperation) (state : ArtifactState)
    (manifestSealed hasIdentity : Bool) : Except AuthorizationDenialReason Unit :=
  match state,operation with
  | .verified,_ | .failed,_ => .error .operationNotCurrentlyEligible
  | .pendingVerification,.sealManifest | .pendingVerification,.resumeDiscovery => .ok ()
  | .pendingVerification,.chunkUpload => .error .operationNotCurrentlyEligible
  | .incomplete,.resumeDiscovery | .incomplete,.sealManifest => .ok ()
  | .incomplete,.chunkUpload =>
    if manifestSealed && !hasIdentity then .error .operationNotCurrentlyEligible else .ok ()

def proofFreshnessPastWindowMillis : Int := 120000

def proofFreshnessFutureSkewMillis : Int := 30000

def timestampMillis (now : Instant) : Int := now / 1000000

def proofReplayValidUntilMillis (issuedAtMillis : Nat) : Int :=
  issuedAtMillis + proofFreshnessPastWindowMillis

def proofIsFresh (issuedAtMillis : Nat) (now : Instant) : Except AuthorizationDenialReason Unit :=
  let deltaMillis := timestampMillis now - issuedAtMillis
  if deltaMillis > proofFreshnessPastWindowMillis then .error .proofTooStale
  else if deltaMillis < -proofFreshnessFutureSkewMillis then .error .proofTooFarInFuture
  else .ok ()

theorem uploadCurrent {state manifestSealed hasIdentity}
    (ok : dataPlaneOperationIsCurrent .chunkUpload state manifestSealed hasIdentity = .ok ()) :
    state = .incomplete ∧ (manifestSealed = true → hasIdentity = true) := by
  unfold dataPlaneOperationIsCurrent at ok
  cases state <;> simp_all

end Bamep
