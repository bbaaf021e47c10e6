import Bamep.Gateway.Answers
import Bamep.Runtime.LiveBindings
import Bamep.Worker.FullArtifact
import Bamep.Worker.Upload

/-! The data plane: the Worker's `chunk_upload` and `seal_manifest` handlers with the requests of
`bamepd` they lead to. A handler waits for one answer of `bamepd` at a time, so that exchange is kept
with its request, and goes on when the handler is gone. Each message, lock, transaction and final
file is a step of its own, and the steps of all requests interleave. Inputs are what authorization
decides, what the file system answers, and which messages and connections are lost. -/
namespace Bamep
open Relational Transition

inductive DataPlaneRoute where
  | chunkUpload (transferId : TransferId) (chunkIndex : Nat) (proofId declaredDigest : String)
  | sealManifest (transferId : TransferId) (proofId : String) (chunkCount : Nat) (artifactDigest : String)
  deriving DecidableEq, Repr

-- A ticket's generation is the connection it came over, named by the store `bamepd` keeps for it.
structure AcceptanceTicket where
  connection : Nat
  handle : String
  transferId : TransferId
  chunkIndex : Nat
  deriving DecidableEq, Repr

structure VerificationTicket where
  connection : Nat
  handle : String
  deriving DecidableEq, Repr

structure ManifestSealSuccess where
  artifactId : ArtifactId
  chunkSize : Nat
  chunkCount : Nat
  verificationTicket : VerificationTicket
  deriving DecidableEq, Repr

/- Where a handler is. `detached` is the staging worker of an upload whose handler was dropped. -/
inductive HandlerPhase where
  | authorizing
  | staging (ticket : AcceptanceTicket) (staging : StagingChunk)
  | detached (staging : StagingChunk)
  | finalized (ticket : AcceptanceTicket) (size : Nat) (digest : String)
  | committing
  | sealing
  | rereading (success : ManifestSealSuccess) (next : Nat) (hashed : List UInt8) (totalSize : Nat)
  | computed (success : ManifestSealSuccess) (digest : String)
  | reporting (artifactId : ArtifactId)
  | ended
  deriving DecidableEq, Repr

/- Where the exchange of a request is: on its way to `bamepd`, in a handler of `bamepd` between its two
effects, or on its way back. The first message of a route repeats the fields of the route. -/
inductive Exchange where
  | authorizationQuery (connection : Nat)
  | authorizationApproved (connection : Nat) (handle : String) (chunkSize : Nat)
      (expectedChunkDigest : Option String)
  | authorizationDenied
  | chunkAcceptanceRequest (connection : Nat) (handle : String) (transferId : TransferId) (chunkIndex : Nat)
      (digest : String) (size : Nat)
  | accepting (transferId : TransferId) (chunkIndex : Nat) (digest : String) (size : Nat)
  | chunkAcceptance (commit : ChunkAcceptanceCommit)
  | manifestSealRequest (connection : Nat)
  | minting (connection : Nat) (facts : SealedManifestDurableFacts)
  | manifestSeal (connection : Nat) (handle : String) (facts : SealedManifestDurableFacts)
  | manifestSealRefused (commit : ManifestSealCommit)
  | artifactVerificationReport (connection : Nat) (handle computedArtifactDigest : String)
  | verifying (binding : VerificationBinding) (computedArtifactDigest : String)
  | artifactVerification (verified : Bool)
  deriving DecidableEq, Repr

structure HttpRequest where
  route : DataPlaneRoute
  phase : HandlerPhase
  exchange : Option Exchange
  deriving DecidableEq, Repr

-- The `201` and `200` of an upload, with its declared digest, and the `200` of a seal.
inductive HttpAnswer where
  | chunkAccepted (transferId : TransferId) (chunkIndex : Nat) (digest : String)
  | chunkAlreadyHeld (transferId : TransferId) (chunkIndex : Nat) (digest : String)
  | sealResult (transferId : TransferId) (artifactId : ArtifactId) (verified : Bool)
  deriving DecidableEq, Repr

/- `bamepd` and the Worker without its requests; `answers` is every success the Worker has sent. -/
structure Processes where
  gateway : Gateway
  runtime : WorkerRuntime
  files : ChunkFiles
  connection : Option Nat
  answers : List HttpAnswer

def Processes.stored (p : Processes) : TransferRows := p.gateway.store.transfer

namespace HttpRequest
variable (ids : IdSource) (sha256 : Sha256) (p : Processes) (request : HttpRequest)

def moved (phase : HandlerPhase) (exchange : Option Exchange) : HttpRequest := ⟨request.route,phase,exchange⟩

-- `decide_authorization_query`; `approved` is what `decide` returned.
def decideAuthorizationQuery (approved : Option (Nat × Option String)) : Processes × HttpRequest :=
  match request.exchange,request.route,approved with
  | some (.authorizationQuery connection),.chunkUpload transferId chunkIndex proofId _,some (chunkSize,expected) =>
    let call := .mintAcceptance ⟨transferId,chunkIndex,proofId⟩
    let p' := { p with runtime := p.runtime.after ids (.call connection call) }
    match p.runtime.answer ids connection call with
    | some (.minted handle) =>
      (p',{ request with exchange := some (.authorizationApproved connection handle chunkSize expected) })
    | _ => (p',{ request with exchange := some .authorizationDenied })
  | some (.authorizationQuery _),_,_ => (p,{ request with exchange := some .authorizationDenied })
  | _,_,_ => (p,request)

-- The first half of `handle_chunk_acceptance` and of `handle_artifact_verification`.
def consume : Processes × HttpRequest :=
  match request.exchange with
  | some (.chunkAcceptanceRequest connection handle transferId chunkIndex digest size) =>
    let call := .consumeAcceptance handle transferId chunkIndex
    let p' := { p with runtime := p.runtime.after ids (.call connection call) }
    match p.runtime.answer ids connection call with
    | some _ => (p',{ request with exchange := some (.accepting transferId chunkIndex digest size) })
    | none => (p',{ request with exchange := none })
  | some (.artifactVerificationReport connection handle computed) =>
    let call := .consumeVerification handle
    let p' := { p with runtime := p.runtime.after ids (.call connection call) }
    match p.runtime.answer ids connection call with
    | some (.verified binding) => (p',{ request with exchange := some (.verifying binding computed) })
    | _ => (p',{ request with exchange := none })
  | _ => (p,request)

-- The durable half of the two; a failure has no response.
def commit : Processes × HttpRequest :=
  match request.exchange with
  | some (.accepting transferId chunkIndex digest size) =>
    let p' := { p with gateway := p.gateway.after (.acceptChunk transferId chunkIndex digest size) }
    match (p.gateway.store.acceptChunk transferId chunkIndex digest size).2 with
    | .ok .failClosed | .error _ => (p',{ request with exchange := none })
    | .ok commit => (p',{ request with exchange := some (.chunkAcceptance commit) })
  | some (.verifying binding computed) =>
    let input := ⟨binding.transferId,binding.artifactId,binding.chunkCount,binding.expectedArtifactDigest,computed⟩
    let p' := { p with gateway := p.gateway.after (.verifyArtifact input) }
    match (p.gateway.store.verifyArtifact input).2 with
    | .ok .failClosed | .error _ => (p',{ request with exchange := none })
    | .ok (.committed verified) => (p',{ request with exchange := some (.artifactVerification verified) })
  | _ => (p,request)

-- The durable half of `handle_manifest_seal`; `binding` is `none` when the proof is refused before it.
def commitSeal (binding : Option CapabilityBinding) (endpoint : Option Bool) (replayAccepted : Bool) :
    Processes × HttpRequest :=
  match request.exchange,request.route,binding with
  | some (.manifestSealRequest connection),.sealManifest transferId _ chunkCount digest,some binding =>
    let p' := { p with
      gateway := p.gateway.after (.sealManifest transferId binding endpoint chunkCount digest replayAccepted) }
    match (p.gateway.store.sealManifest transferId binding endpoint chunkCount digest replayAccepted).2 with
    | .ok (.sealed facts) | .ok (.alreadyPending facts) =>
      (p',{ request with exchange := some (.minting connection facts) })
    | .ok .failClosed | .error _ => (p',{ request with exchange := none })
    | .ok refusal => (p',{ request with exchange := some (.manifestSealRefused refusal) })
  | some (.manifestSealRequest _),_,_ => (p,{ request with exchange := some (.manifestSealRefused .denied) })
  | _,_,_ => (p,request)

-- Its second half, which mints the handle.
def mint : Processes × HttpRequest :=
  match request.exchange,request.route with
  | some (.minting connection facts),.sealManifest transferId proofId _ _ =>
    let call := .mintVerification
      ⟨transferId,facts.artifactId,facts.chunkCount,facts.expectedArtifactDigest.toWireValue,proofId⟩
    let p' := { p with runtime := p.runtime.after ids (.call connection call) }
    match p.runtime.answer ids connection call with
    | some (.minted handle) => (p',{ request with exchange := some (.manifestSeal connection handle facts) })
    | _ => (p',{ request with exchange := none })
  | _,_ => (p,request)

-- The handler takes the response it waits for.
def deliver : Processes × HttpRequest :=
  match request.phase,request.exchange,request.route with
  | .authorizing,some (.authorizationApproved connection handle chunkSize expected),
      .chunkUpload transferId chunkIndex _ declaredDigest =>
    if expected.any (· ≠ declaredDigest) then (p,request.moved .ended none)
    else
      let staging := StageRequest.begin ⟨transferId,chunkIndex,chunkSize,declaredDigest⟩
      (p,request.moved (.staging ⟨connection,handle,transferId,chunkIndex⟩ staging) none)
  | .authorizing,some .authorizationDenied,_ => (p,request.moved .ended none)
  | .committing,some (.chunkAcceptance commit),.chunkUpload transferId chunkIndex _ declaredDigest =>
    let answers := match commit with
      | .committed => [HttpAnswer.chunkAccepted transferId chunkIndex declaredDigest]
      | .alreadyCommitted => [.chunkAlreadyHeld transferId chunkIndex declaredDigest]
      | .rejectedConflict | .rejectedNotContinuable | .failClosed => []
    ({ p with answers := p.answers ++ answers },request.moved .ended none)
  | .sealing,some (.manifestSeal connection handle facts),_ =>
    let success := ⟨facts.artifactId,facts.chunkSize.bytes,facts.chunkCount,⟨connection,handle⟩⟩
    (p,request.moved (.rereading success 0 [] 0) none)
  | .sealing,some (.manifestSealRefused _),_ => (p,request.moved .ended none)
  | .reporting artifactId,some (.artifactVerification verified),.sealManifest transferId _ _ _ =>
    ({ p with answers := p.answers ++ [.sealResult transferId artifactId verified] },request.moved .ended none)
  | _,_,_ => (p,request)

def frame (message : PumpMessage) (io : Option IoError) : Processes × HttpRequest :=
  match request.phase with
  | .staging ticket staging =>
    match stageMessage staging io message with
    | .ok staging' => (p,{ request with phase := .staging ticket staging' })
    | .error _ => (p,{ request with phase := .ended })
  | .detached staging =>
    match stageMessage staging io message with
    | .ok staging' => (p,{ request with phase := .detached staging' })
    | .error _ => (p,{ request with phase := .ended })
  | _ => (p,request)

-- The channel is closed: the staging worker finishes.
def finish (io : FinalizeIo) : Processes × HttpRequest :=
  match request.phase,request.route with
  | .staging ticket staging,.chunkUpload _ _ _ declaredDigest =>
    match stageEnd sha256 p.files io declaredDigest staging with
    | (files,.finalized size digest) =>
      ({ p with files := files },{ request with phase := .finalized ticket size digest })
    | (files,_) => ({ p with files := files },{ request with phase := .ended })
  | .detached staging,.chunkUpload _ _ _ declaredDigest =>
    ({ p with files := (stageEnd sha256 p.files io declaredDigest staging).1 },{ request with phase := .ended })
  | _,_ => (p,request)

-- One turn of the loop of `compute`, or its end.
def reread (plan : ReadPlan) : Processes × HttpRequest :=
  match request.phase,request.route with
  | .rereading success next hashed totalSize,.sealManifest transferId _ _ _ =>
    if next < success.chunkCount then
      match computeChunks (p.files.openFinal plan) ⟨transferId,success.chunkCount,success.chunkSize⟩ [next] hashed
          totalSize with
      | .ok (hashed',totalSize') => (p,{ request with phase := .rereading success (next + 1) hashed' totalSize' })
      | .error _ => (p,{ request with phase := .ended })
    else (p,{ request with phase := .computed success (Sha256Digest.toBase64urlNoPad (sha256 hashed)) })
  | _,_ => (p,request)

-- `send_scoped_request`.
def send : Processes × HttpRequest :=
  match request.phase with
  | .finalized ticket size digest =>
    if p.connection = some ticket.connection then
      (p,request.moved .committing (some (.chunkAcceptanceRequest ticket.connection ticket.handle ticket.transferId
        ticket.chunkIndex digest size)))
    else (p,request.moved .ended none)
  | .computed success digest =>
    if p.connection = some success.verificationTicket.connection then
      (p,request.moved (.reporting success.artifactId) (some (.artifactVerificationReport
        success.verificationTicket.connection success.verificationTicket.handle digest)))
    else (p,request.moved .ended none)
  | _ => (p,request)

-- The client leaves, or the handler fails for a reason of its own; the staging worker runs on.
def abandon : Processes × HttpRequest :=
  match request.phase with
  | .staging _ staging => (p,{ request with phase := .detached staging })
  | .detached _ => (p,request)
  | _ => (p,{ request with phase := .ended })

end HttpRequest

inductive HandlerStep where
  | decideAuthorizationQuery (approved : Option (Nat × Option String))
  | consume
  | commit
  | commitSeal (binding : Option CapabilityBinding) (endpoint : Option Bool) (replayAccepted : Bool)
  | mint
  | deliver
  | frame (message : PumpMessage) (io : Option IoError)
  | finish (io : FinalizeIo)
  | reread (plan : ReadPlan)
  | send
  | abandon
  -- a message is lost, or the connection it was to go over
  | lose

def HandlerStep.run (sha256 : Sha256) (ids : IdSource) (p : Processes) (request : HttpRequest) :
    HandlerStep → Processes × HttpRequest
  | .decideAuthorizationQuery approved => request.decideAuthorizationQuery ids p approved
  | .consume => request.consume ids p
  | .commit => request.commit p
  | .commitSeal binding endpoint replayAccepted => request.commitSeal p binding endpoint replayAccepted
  | .mint => request.mint ids p
  | .deliver => request.deliver p
  | .frame message io => request.frame p message io
  | .finish io => request.finish sha256 p io
  | .reread plan => request.reread sha256 p plan
  | .send => request.send p
  | .abandon => request.abandon p
  | .lose => (p,{ request with exchange := none })

-- Nobody answers a handler that waits on a lost connection.
def HandlerPhase.cutOff : HandlerPhase → HandlerPhase
  | .authorizing | .committing | .sealing | .reporting _ => .ended
  | phase => phase

def HttpRequest.begin (connection : Option Nat) (route : DataPlaneRoute) : HttpRequest :=
  match connection,route with
  | none,_ => ⟨route,.ended,none⟩
  | some connection,.chunkUpload .. => ⟨route,.authorizing,some (.authorizationQuery connection)⟩
  | some connection,.sealManifest .. => ⟨route,.sealing,some (.manifestSealRequest connection)⟩

structure DataPlane extends Processes where
  requests : List HttpRequest

-- What only the handlers above do.
def GatewayOp.fromWorker : GatewayOp → Bool
  | .acceptChunk .. | .sealManifest .. | .verifyArtifact _ => true
  | .receive .. | .advance .. | .control _ => false

def WorkerOp.fromDataPlane : WorkerOp → Bool
  | .call _ (.mintAcceptance _) | .call _ (.mintVerification _) | .call _ (.consumeAcceptance ..)
  | .call _ (.consumeVerification _) => true
  | _ => false

inductive DataPlaneOp where
  | request (route : DataPlaneRoute)
  | step (i : Nat) (step : HandlerStep)
  | gateway (op : GatewayOp)
  | runtime (op : WorkerOp)
  | connect (connection : Nat)
  | disconnect
  | crash

namespace DataPlane
variable (sha256 : Sha256) (ids : IdSource)

def start (operationsCapacity : Nat) : DataPlane :=
  { gateway := .empty
    runtime := .start operationsCapacity
    files := fun _ _ => none
    connection := none
    answers := []
    requests := [] }

def mapPhases (d : DataPlane) (connection : Option Nat) (f : HandlerPhase → HandlerPhase) : DataPlane :=
  { d with
    connection := connection
    requests := d.requests.map fun request => { request with phase := f request.phase } }

-- A crash takes the handlers and staging workers with it and leaves the final files.
def after (d : DataPlane) : DataPlaneOp → DataPlane
  | .request route => { d with requests := d.requests ++ [.begin d.connection route] }
  | .step i step =>
    match d.requests[i]? with
    | none => d
    | some request =>
      let (p,request') := step.run sha256 ids d.toProcesses request
      ⟨p,d.requests.set i request'⟩
  | .gateway op => if op.fromWorker then d else { d with gateway := d.gateway.after op }
  | .runtime op => if op.fromDataPlane then d else { d with runtime := d.runtime.after ids op }
  | .connect connection => d.mapPhases (some connection) HandlerPhase.cutOff
  | .disconnect => d.mapPhases none HandlerPhase.cutOff
  | .crash => d.mapPhases none fun _ => .ended

def reached (operationsCapacity : Nat) (ops : List DataPlaneOp) : DataPlane :=
  run (after sha256 ids) (start operationsCapacity) ops

end DataPlane
end Bamep
