import Bamep.Application.DataPlane
import Bamep.Runtime.Transient

/-! Requests against one capability store and one replay cache. A request looks its capability up,
reads the clock once and makes the checks that need no durable state, reads the durable state, and
calls the cache with the reading it made before; a seal makes its cache call inside the transaction.
Between any two of these the steps of other requests run. -/
namespace Bamep

structure WorkerAuthorizationQueryInput where
  token : String
  operation : AuthorizationOperation
  transferId : TransferId
  chunkIndex : Option Nat
  proofId : String
  issuedAtMillis : Nat
  signature : String
  deriving DecidableEq, Repr

structure ManifestSealInput where
  token : String
  transferId : TransferId
  proofId : String
  issuedAtMillis : Nat
  signature : String
  chunkCount : Nat
  artifactDigest : String
  deriving DecidableEq, Repr

inductive Request where
  | authorize (input : WorkerAuthorizationQueryInput)
  | sealManifest (input : ManifestSealInput)
  deriving DecidableEq, Repr

namespace Request

def token : Request → String
  | .authorize input => input.token
  | .sealManifest input => input.token

def proofId : Request → String
  | .authorize input => input.proofId
  | .sealManifest input => input.proofId

def issuedAtMillis : Request → Nat
  | .authorize input => input.issuedAtMillis
  | .sealManifest input => input.issuedAtMillis

def signature : Request → String
  | .authorize input => input.signature
  | .sealManifest input => input.signature

-- `artifact_id` and `direction` are those of the capability.
def requested (binding : CapabilityBinding) : Request → RequestedOperation
  | .authorize input =>
    ⟨input.operation,input.transferId,binding.artifactId,binding.direction,input.chunkIndex⟩
  | .sealManifest input => ⟨.sealManifest,input.transferId,binding.artifactId,binding.direction,none⟩

-- `u32::try_from(input.chunk_count)` of a seal.
def representable : Request → Bool
  | .authorize _ => true
  | .sealManifest input => input.chunkCount < 2 ^ 32

-- Everything from the clock reading to the durable read; `none` is a denial (or `FailClosed`).
def authorizeLocally (crypto : Crypto) (epoch : Nat) (request : Request) (binding : CapabilityBinding)
    (now : Instant) : Option ProofId :=
  let requested := request.requested binding
  match capabilityIsCurrent binding now epoch,capabilityMatchesRequest binding requested,
    ProofId.parseWireValue request.proofId,ProofSignature.parseWireValue request.signature with
  | .ok _,.ok _,.ok proofId,.ok signature =>
    match proofIsFresh request.issuedAtMillis now with
    | .error _ => none
    | .ok _ =>
      let transcript := buildProofTranscript (.fromTokenBytes crypto request.token)
        ⟨requested.operation,requested.transferId,binding.artifactId,binding.direction,
          requested.chunkIndex,proofId,request.issuedAtMillis⟩
      if verifyProofSignature crypto binding.proofPublicKey transcript signature && request.representable then
        some proofId
      else none
  | _,_,_,_ => none

def operation : Request → AuthorizationOperation
  | .authorize input => input.operation
  | .sealManifest _ => .sealManifest

def transferId : Request → TransferId
  | .authorize input => input.transferId
  | .sealManifest input => input.transferId

def chunkIndex : Request → Option Nat
  | .authorize input => input.chunkIndex
  | .sealManifest _ => none

-- The transcript a request is verified against.
def transcript (crypto : Crypto) (request : Request) (binding : CapabilityBinding) (proofId : ProofId) : List UInt8 :=
  buildProofTranscript (.fromTokenBytes crypto request.token)
    ⟨request.operation,request.transferId,binding.artifactId,binding.direction,request.chunkIndex,proofId,
      request.issuedAtMillis⟩

theorem requestedEq (request : Request) (binding : CapabilityBinding) : request.requested binding =
    ⟨request.operation,request.transferId,binding.artifactId,binding.direction,request.chunkIndex⟩ := by
  cases request <;> rfl

end Request

/- What a request has shown before any durable state is read. -/
structure LocallyAuthorized (crypto : Crypto) (epoch : Nat) (request : Request) (binding : CapabilityBinding)
    (now : Instant) (proofId : ProofId) : Prop where
  epoch : binding.epoch = epoch
  unexpired : now < binding.expiresAt
  transfer : binding.transferId = request.transferId
  indexed : request.operation.requiresChunkIndex = request.chunkIndex.isSome
  parsed : ProofId.parseWireValue request.proofId = .ok proofId
  fresh : proofIsFresh request.issuedAtMillis now = .ok ()
  signed : ∃ signature, ProofSignature.parseWireValue request.signature = .ok signature ∧
    verifyProofSignature crypto binding.proofPublicKey (request.transcript crypto binding proofId) signature = true

theorem capabilityIsCurrentOk {binding now epoch}
    (ok : capabilityIsCurrent binding now epoch = .ok ()) : binding.epoch = epoch ∧ now < binding.expiresAt := by
  unfold capabilityIsCurrent at ok
  split at ok
  · contradiction
  rename_i sameEpoch
  split at ok
  · contradiction
  · rename_i unexpired
    exact ⟨not_not.mp sameEpoch,Int.not_le.mp unexpired⟩

theorem capabilityMatchesRequestOk {binding requested}
    (ok : capabilityMatchesRequest binding requested = .ok ()) : binding.transferId = requested.transferId ∧
      requested.operation.requiresChunkIndex = requested.chunkIndex.isSome := by
  unfold capabilityMatchesRequest at ok
  split at ok
  · contradiction
  rename_i sameTransfer
  split at ok
  · contradiction
  split at ok
  · contradiction
  split at ok
  · contradiction
  · rename_i indexed
    exact ⟨not_not.mp sameTransfer,not_not.mp indexed⟩

theorem authorizeLocallyChecks {crypto epoch request binding now proofId}
    (ok : request.authorizeLocally crypto epoch binding now = some proofId) :
    LocallyAuthorized crypto epoch request binding now proofId := by
  unfold Request.authorizeLocally at ok
  simp only at ok
  split at ok
  · rename_i current matched parsed signature
    split at ok
    · contradiction
    rename_i fresh
    split at ok
    · rename_i verified
      cases Option.some.inj ok
      obtain ⟨sameEpoch,unexpired⟩ := capabilityIsCurrentOk current
      rw [request.requestedEq] at matched verified
      obtain ⟨sameTransfer,indexed⟩ := capabilityMatchesRequestOk matched
      exact ⟨sameEpoch,unexpired,sameTransfer,indexed,parsed,fresh,_,signature,(Bool.and_eq_true_iff.mp verified).1⟩
    · contradiction
  · contradiction

-- Step 6 of `authorize_request`, over the snapshot of its own durable read.
def authorizeDurably (input : WorkerAuthorizationQueryInput) (binding : CapabilityBinding)
    (state : AuthorizationDurableState) : Bool :=
  if state.transfer.endpointId ≠ binding.endpointId ∨ state.transfer.artifactId ≠ binding.artifactId ∨
      state.transfer.direction ≠ binding.direction then false
  else match state.attempt with
    | none => false
    | some attempt =>
      if attempt.id ≠ binding.attemptId ∨ attempt.state ≠ .inProgress then false
      else if !state.credentialActive then false
      else
        let current := fun hasIdentity => (dataPlaneOperationIsCurrent input.operation state.artifact.state
          state.manifest.sealed hasIdentity).isOk
        match input.chunkIndex with
        | none => current false
        | some index => index < 2 ^ 32 && current state.manifest.chunks[index]?.isSome

inductive Phase where
  | received
  | identified (binding : CapabilityBinding)
  | fresh (binding : CapabilityBinding) (now : Instant) (proofId : ProofId)
  | authorized (now : Instant) (proofId : ProofId)
  | accepted (proofId : ProofId)
  | denied
  deriving DecidableEq, Repr

structure Ongoing where
  request : Request
  phase : Phase
  deriving DecidableEq, Repr

structure Authorizer where
  capabilities : CapabilityStore
  replay : ReplayCache
  clock : Instant
  requests : List Ongoing

def Authorizer.start (epoch capacity replayCapacity : Nat) (clock : Nat) : Authorizer :=
  ⟨.withCapacity epoch capacity,.withCapacity replayCapacity,min clock maxUtc,[]⟩

-- `durable i none` is a durable read that finds no Transfer or fails.
inductive AuthorizerOp where
  | submit (request : Request)
  | grant (elapsed : Nat) (id : CapabilityId) (binding : CapabilityBinding)
  | lookup (i : Nat)
  | readClock (i : Nat) (elapsed : Nat)
  | durable (i : Nat) (state : Option AuthorizationDurableState)
  | callCache (i : Nat)

namespace Authorizer
variable (a : Authorizer)

-- A clock reading; the clock never goes back and never passes `MAX_UTC`.
def tick (elapsed : Nat) : Instant := min (a.clock + elapsed) maxUtc

def setPhase (i : Nat) (x : Ongoing) (phase : Phase) : Authorizer :=
  { a with requests := a.requests.set i { x with phase := phase } }

def callReplay (i : Nat) (x : Ongoing) (now : Instant) (proofId : ProofId) : Authorizer :=
  match a.replay.checkAndInsert proofId now (replayValidUntil x.request.issuedAtMillis) with
  | (replay,.ok _) => { a with replay := replay }.setPhase i x (.accepted proofId)
  | (replay,.error _) => { a with replay := replay }.setPhase i x .denied

def lookup (crypto : Crypto) (i : Nat) (x : Ongoing) : Authorizer :=
  match x.phase with
  | .received =>
    match a.capabilities.lookup (.fromTokenBytes crypto x.request.token) with
    | none => a.setPhase i x .denied
    | some binding => a.setPhase i x (.identified binding)
  | _ => a

def readClock (crypto : Crypto) (i : Nat) (x : Ongoing) (elapsed : Nat) : Authorizer :=
  match x.phase with
  | .identified binding =>
    let now := a.tick elapsed
    match x.request.authorizeLocally crypto a.capabilities.epoch binding now with
    | none => { a with clock := now }.setPhase i x .denied
    | some proofId => { a with clock := now }.setPhase i x (.fresh binding now proofId)
  | _ => a

def durable (i : Nat) (x : Ongoing) (state : Option AuthorizationDurableState) : Authorizer :=
  match x.phase,state with
  | .fresh _ _ _,none => a.setPhase i x .denied
  | .fresh binding now proofId,some state =>
    match x.request with
    | .authorize input =>
      if authorizeDurably input binding state then a.setPhase i x (.authorized now proofId)
      else a.setPhase i x .denied
    | .sealManifest input =>
      match sealAuthorized binding input.artifactDigest state with
      | .error _ => a.setPhase i x .denied
      | .ok _ => a.callReplay i x now proofId
  | _,_ => a

def callCache (i : Nat) (x : Ongoing) : Authorizer :=
  match x.phase with
  | .authorized now proofId => a.callReplay i x now proofId
  | _ => a

def forRequest (i : Nat) (step : Ongoing → Authorizer) : Authorizer :=
  match a.requests[i]? with
  | none => a
  | some x => step x

def after (crypto : Crypto) : AuthorizerOp → Authorizer
  | .submit request => { a with requests := a.requests ++ [⟨request,.received⟩] }
  | .grant elapsed id binding =>
    let now := a.tick elapsed
    { a with
      clock := now
      capabilities := ((a.capabilities.evictExpired now).issue id binding).1 }
  | .lookup i => a.forRequest i (a.lookup crypto i)
  | .readClock i elapsed => a.forRequest i fun x => a.readClock crypto i x elapsed
  | .durable i state => a.forRequest i fun x => a.durable i x state
  | .callCache i => a.forRequest i (a.callCache i)

end Authorizer
end Bamep
