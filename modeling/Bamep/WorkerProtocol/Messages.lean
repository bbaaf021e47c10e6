import Mathlib.Algebra.Ring.Nat

/-! The Worker Protocol v1 catalog. A UUID is its 128-bit value; the integers of the wire are naturals, and
their widths are stated where a result depends on them. -/
namespace Bamep.WorkerProtocol

abbrev Uuid := Nat

def protocolVersionV1 : String := "1"

structure ProtocolVersion where
  text : String
  deriving DecidableEq, Repr

def ProtocolVersion.v1 : ProtocolVersion := ⟨protocolVersionV1⟩

def ProtocolVersion.isV1 (version : ProtocolVersion) : Bool := version.text = protocolVersionV1

structure Envelope where
  protocolVersion : ProtocolVersion
  messageId : Uuid
  deriving DecidableEq, Repr

-- The version nibble, and the two variant bits of RFC 4122.
def isUuidV4 (id : Uuid) : Bool := id / 2 ^ 76 % 16 = 4 && id / 2 ^ 62 % 4 = 2

/- `messageId` is the fresh version 4 UUID. -/
def Envelope.new (messageId : Uuid) : Envelope := ⟨.v1,messageId⟩

def Envelope.isValid (envelope : Envelope) : Bool :=
  envelope.protocolVersion.isV1 && isUuidV4 envelope.messageId

structure Message (body : Type) where
  envelope : Envelope
  body : body
  deriving DecidableEq, Repr

inductive WireDigestAlgorithm where
  | sha256
  deriving DecidableEq, Repr

inductive WireArtifactStatus where
  | verified | failed
  deriving DecidableEq, Repr

structure WorkerHelloBody where
  workerProtocolVersion : ProtocolVersion
  workerInstanceId : Uuid
  deriving DecidableEq, Repr

structure ServerHelloBody where
  inReplyTo : Uuid
  serverProtocolVersion : ProtocolVersion
  compatible : Bool
  deriving DecidableEq, Repr

inductive HandshakeRejectionReason where
  | incompatibleVersion
  deriving DecidableEq, Repr

structure HandshakeRejectedBody where
  inReplyTo : Uuid
  reason : HandshakeRejectionReason
  deriving DecidableEq, Repr

structure AuthorizationQueryBody where
  token : String
  transferId : Uuid
  chunkIndex : Nat
  proofId : String
  issuedAt : Nat
  signature : String
  deriving DecidableEq, Repr

inductive AuthorizationDecisionOutcome where
  | approved | denied
  deriving DecidableEq, Repr

structure AuthorizationDecisionBody where
  inReplyTo : Uuid
  decision : AuthorizationDecisionOutcome
  digestAlgorithm : Option WireDigestAlgorithm
  chunkSize : Option Nat
  acceptanceHandle : Option String
  expectedChunkDigest : Option String
  deriving DecidableEq, Repr

structure ChunkAcceptanceRequestBody where
  acceptanceHandle : String
  transferId : Uuid
  chunkIndex : Nat
  digest : String
  size : Nat
  deriving DecidableEq, Repr

inductive ChunkAcceptanceOutcome where
  | committed | alreadyCommitted | rejected
  deriving DecidableEq, Repr

inductive ChunkAcceptanceRejectionReason where
  | chunkIdentityConflict | transferNotContinuable
  deriving DecidableEq, Repr

structure ChunkAcceptanceDecisionBody where
  inReplyTo : Uuid
  outcome : ChunkAcceptanceOutcome
  reason : Option ChunkAcceptanceRejectionReason
  deriving DecidableEq, Repr

structure ResumeDiscoveryQueryBody where
  token : String
  transferId : Uuid
  proofId : String
  issuedAt : Nat
  signature : String
  deriving DecidableEq, Repr

structure HeldChunk where
  chunkIndex : Nat
  digest : String
  deriving DecidableEq, Repr

inductive ResumeDiscoveryDecision where
  | approved | denied
  deriving DecidableEq, Repr

structure ResumeDiscoveryPageBody where
  inReplyTo : Uuid
  decision : ResumeDiscoveryDecision
  transferId : Option Uuid
  sealed : Option Bool
  digestAlgorithm : Option WireDigestAlgorithm
  chunkSize : Option Nat
  expectedChunkCount : Option Nat
  heldChunks : Option (List HeldChunk)
  resumeCursor : Option String
  deriving DecidableEq, Repr

structure ResumeDiscoveryContinueBody where
  resumeCursor : String
  deriving DecidableEq, Repr

structure ManifestSealRequestBody where
  token : String
  transferId : Uuid
  proofId : String
  issuedAt : Nat
  signature : String
  chunkCount : Nat
  artifactDigest : String
  deriving DecidableEq, Repr

inductive ManifestSealOutcome where
  | sealed | alreadyPendingVerification | rejected | denied
  deriving DecidableEq, Repr

inductive ManifestSealRejectionReason where
  | incompleteManifest | manifestAlreadySealed
  deriving DecidableEq, Repr

structure ManifestSealDecisionBody where
  inReplyTo : Uuid
  outcome : ManifestSealOutcome
  reason : Option ManifestSealRejectionReason
  verificationHandle : Option String
  artifactId : Option Uuid
  digestAlgorithm : Option WireDigestAlgorithm
  chunkSize : Option Nat
  chunkCount : Option Nat
  expectedArtifactDigest : Option String
  deriving DecidableEq, Repr

structure ArtifactVerificationReportBody where
  verificationHandle : String
  computedArtifactDigest : String
  deriving DecidableEq, Repr

inductive ArtifactVerificationAckOutcome where
  | committed
  deriving DecidableEq, Repr

structure ArtifactVerificationAckBody where
  inReplyTo : Uuid
  outcome : ArtifactVerificationAckOutcome
  artifactStatus : WireArtifactStatus
  deriving DecidableEq, Repr

structure ProtocolErrorBody where
  code : String
  message : Option String
  inReplyTo : Option Uuid
  deriving DecidableEq, Repr

inductive WorkerProtocolMessage where
  | workerHello (m : Message WorkerHelloBody)
  | serverHello (m : Message ServerHelloBody)
  | handshakeRejected (m : Message HandshakeRejectedBody)
  | authorizationQuery (m : Message AuthorizationQueryBody)
  | authorizationDecision (m : Message AuthorizationDecisionBody)
  | chunkAcceptanceRequest (m : Message ChunkAcceptanceRequestBody)
  | chunkAcceptanceDecision (m : Message ChunkAcceptanceDecisionBody)
  | resumeDiscoveryQuery (m : Message ResumeDiscoveryQueryBody)
  | resumeDiscoveryPage (m : Message ResumeDiscoveryPageBody)
  | resumeDiscoveryContinue (m : Message ResumeDiscoveryContinueBody)
  | manifestSealRequest (m : Message ManifestSealRequestBody)
  | manifestSealDecision (m : Message ManifestSealDecisionBody)
  | artifactVerificationReport (m : Message ArtifactVerificationReportBody)
  | artifactVerificationAck (m : Message ArtifactVerificationAckBody)
  | protocolError (m : Message ProtocolErrorBody)
  deriving DecidableEq, Repr

def WorkerProtocolMessage.envelope : WorkerProtocolMessage → Envelope
  | .workerHello m => m.envelope
  | .serverHello m => m.envelope
  | .handshakeRejected m => m.envelope
  | .authorizationQuery m => m.envelope
  | .authorizationDecision m => m.envelope
  | .chunkAcceptanceRequest m => m.envelope
  | .chunkAcceptanceDecision m => m.envelope
  | .resumeDiscoveryQuery m => m.envelope
  | .resumeDiscoveryPage m => m.envelope
  | .resumeDiscoveryContinue m => m.envelope
  | .manifestSealRequest m => m.envelope
  | .manifestSealDecision m => m.envelope
  | .artifactVerificationReport m => m.envelope
  | .artifactVerificationAck m => m.envelope
  | .protocolError m => m.envelope

structure InvalidMessageShape where
  messageType : String
  detail : String
  deriving DecidableEq, Repr

def AuthorizationDecisionBody.validateShape (b : AuthorizationDecisionBody) : Except InvalidMessageShape Unit :=
  match b.decision with
  | .approved =>
    if b.digestAlgorithm.isNone || b.chunkSize.isNone || b.acceptanceHandle.isNone then
      .error ⟨"AuthorizationDecision",
        "an approved decision must carry digest_algorithm, chunk_size, and acceptance_handle"⟩
    else .ok ()
  | .denied =>
    if b.digestAlgorithm.isSome || b.chunkSize.isSome || b.acceptanceHandle.isSome ||
        b.expectedChunkDigest.isSome then
      .error ⟨"AuthorizationDecision","a denied decision must carry nothing beyond `decision`"⟩
    else .ok ()

def ChunkAcceptanceDecisionBody.validateShape (b : ChunkAcceptanceDecisionBody) :
    Except InvalidMessageShape Unit :=
  match b.outcome with
  | .committed | .alreadyCommitted =>
    if b.reason.isSome then
      .error ⟨"ChunkAcceptanceDecision","a committed/already_committed outcome must not carry a reason"⟩
    else .ok ()
  | .rejected =>
    if b.reason.isNone then .error ⟨"ChunkAcceptanceDecision","a rejected outcome must carry a reason"⟩
    else .ok ()

def ResumeDiscoveryPageBody.validateShape (b : ResumeDiscoveryPageBody) : Except InvalidMessageShape Unit :=
  match b.decision with
  | .denied =>
    if b.transferId.isSome || b.sealed.isSome || b.digestAlgorithm.isSome || b.chunkSize.isSome ||
        b.expectedChunkCount.isSome || b.heldChunks.isSome || b.resumeCursor.isSome then
      .error ⟨"ResumeDiscoveryPage","a denied resume-discovery page must carry no durable/state field"⟩
    else .ok ()
  | .approved =>
    if b.heldChunks.isNone then
      .error ⟨"ResumeDiscoveryPage","an approved resume-discovery page must carry held_chunks"⟩
    else if b.expectedChunkCount.isSome ≠ decide (b.sealed = some true) then
      .error ⟨"ResumeDiscoveryPage","expected_chunk_count must be present iff sealed == true"⟩
    else .ok ()

def ManifestSealDecisionBody.validateShape (b : ManifestSealDecisionBody) : Except InvalidMessageShape Unit :=
  let anySuccessField := b.verificationHandle.isSome || b.artifactId.isSome || b.digestAlgorithm.isSome ||
    b.chunkSize.isSome || b.chunkCount.isSome || b.expectedArtifactDigest.isSome
  let allSuccessFields := b.verificationHandle.isSome && b.artifactId.isSome && b.digestAlgorithm.isSome &&
    b.chunkSize.isSome && b.chunkCount.isSome && b.expectedArtifactDigest.isSome
  match b.outcome with
  | .sealed | .alreadyPendingVerification =>
    if b.reason.isSome then
      .error ⟨"ManifestSealDecision","a sealed/already_pending_verification outcome must not carry a reason"⟩
    else if !allSuccessFields then
      .error ⟨"ManifestSealDecision",
        "a sealed/already_pending_verification outcome must carry the complete sealed-manifest fact bundle " ++
        "(verification_handle, artifact_id, digest_algorithm, chunk_size, chunk_count, expected_artifact_digest)"⟩
    else .ok ()
  | .rejected =>
    if b.reason.isNone then .error ⟨"ManifestSealDecision","a rejected outcome must carry a reason"⟩
    else if anySuccessField then
      .error ⟨"ManifestSealDecision","a rejected outcome must not carry any sealed-manifest fact"⟩
    else .ok ()
  | .denied =>
    if b.reason.isSome then .error ⟨"ManifestSealDecision","a denied outcome must not carry a reason"⟩
    else if anySuccessField then
      .error ⟨"ManifestSealDecision","a denied outcome must not carry any sealed-manifest fact"⟩
    else .ok ()

def WorkerProtocolMessage.validateShape : WorkerProtocolMessage → Except InvalidMessageShape Unit
  | .authorizationDecision m => m.body.validateShape
  | .chunkAcceptanceDecision m => m.body.validateShape
  | .resumeDiscoveryPage m => m.body.validateShape
  | .manifestSealDecision m => m.body.validateShape
  | _ => .ok ()

namespace ResumeDiscoveryPageBody

def denied (inReplyTo : Uuid) : ResumeDiscoveryPageBody :=
  ⟨inReplyTo,.denied,none,none,none,none,none,none,none⟩

def firstPage (inReplyTo transferId : Uuid) (sealed : Bool) (digestAlgorithm : WireDigestAlgorithm)
    (chunkSize : Nat) (expectedChunkCount : Option Nat) (heldChunks : List HeldChunk)
    (resumeCursor : Option String) : ResumeDiscoveryPageBody :=
  ⟨inReplyTo,.approved,some transferId,some sealed,some digestAlgorithm,some chunkSize,expectedChunkCount,
    some heldChunks,resumeCursor⟩

def continuationPage (inReplyTo : Uuid) (heldChunks : List HeldChunk) (resumeCursor : Option String) :
    ResumeDiscoveryPageBody :=
  ⟨inReplyTo,.approved,none,none,none,none,none,some heldChunks,resumeCursor⟩

end ResumeDiscoveryPageBody

structure ResumeFirstPage where
  transferId : Uuid
  sealed : Bool
  digestAlgorithm : WireDigestAlgorithm
  chunkSize : Nat
  expectedChunkCount : Option Nat
  heldChunks : List HeldChunk
  resumeCursor : Option String
  deriving DecidableEq, Repr

structure ResumeContinuationPage where
  heldChunks : List HeldChunk
  resumeCursor : Option String
  deriving DecidableEq, Repr

def ResumeDiscoveryPageBody.approvedFirstPage (b : ResumeDiscoveryPageBody) :
    Except InvalidMessageShape ResumeFirstPage :=
  if b.decision ≠ .approved then
    .error ⟨"ResumeDiscoveryPage","expected an approved first page, got a denied page"⟩
  else match b.transferId,b.sealed,b.digestAlgorithm,b.chunkSize,b.heldChunks with
    | some transferId,some sealed,some digestAlgorithm,some chunkSize,some heldChunks =>
      if b.expectedChunkCount.isSome ≠ sealed then
        .error ⟨"ResumeDiscoveryPage","expected_chunk_count must be present iff sealed == true"⟩
      else .ok ⟨transferId,sealed,digestAlgorithm,chunkSize,b.expectedChunkCount,heldChunks,b.resumeCursor⟩
    | _,_,_,_,_ => .error ⟨"ResumeDiscoveryPage",
        "an approved first page must carry transfer_id, sealed, digest_algorithm, chunk_size, and held_chunks"⟩

def ResumeDiscoveryPageBody.approvedContinuationPage (b : ResumeDiscoveryPageBody) :
    Except InvalidMessageShape ResumeContinuationPage :=
  if b.decision ≠ .approved then
    .error ⟨"ResumeDiscoveryPage","expected an approved continuation page, got a denied page"⟩
  else match b.heldChunks with
    | none => .error ⟨"ResumeDiscoveryPage","an approved continuation page must carry held_chunks"⟩
    | some heldChunks =>
      if b.transferId.isSome || b.sealed.isSome || b.digestAlgorithm.isSome || b.chunkSize.isSome ||
          b.expectedChunkCount.isSome then
        .error ⟨"ResumeDiscoveryPage","a continuation page must not carry any manifest-level field"⟩
      else .ok ⟨heldChunks,b.resumeCursor⟩

end Bamep.WorkerProtocol
