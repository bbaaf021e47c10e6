import Bamep.Store.TransferRepository

/-! The Transfer commands besides the Worker's requests. Each is one transaction of the repository: it loads the locked
facts, asks the domain and writes the rows of the outcome. -/
namespace Bamep
open Relational

inductive TransferCommandError (ε : Type) where
  | transferNotFound (id : TransferId)
  | domain (error : ε)
  | repository (error : RepositoryError)
  deriving DecidableEq, Repr

inductive ChunkAcceptError where
  | unknownChunkIndex (index : Nat)
  | digestMismatch (index : Nat)
  deriving DecidableEq, Repr

inductive AcceptChunkOutcome where
  | accepted | alreadyHeld
  deriving DecidableEq, Repr

def validateVerifiedChunk (manifest : ChunkManifest) (index : Nat) (verifiedDigestBytes : List UInt8) :
    Except ChunkAcceptError Unit :=
  match manifest.chunks[index]? with
  | none => .error (.unknownChunkIndex index)
  | some expected => if expected.digest.bytes ≠ verifiedDigestBytes then .error (.digestMismatch index) else .ok ()

namespace Store
variable (s : Store) (transferId : TransferId)

/- The shape all of them share: what the domain decided on the locked facts is written, or nothing is. -/
def command {ε α β : Type} (decide : TransferLockedFacts → Except ε α)
    (write : TransferLockedFacts → α → Except RepositoryError (Option TransferRows × β)) :
    Store × Except (TransferCommandError ε) β :=
  match s.transfer.loadLockedFacts transferId with
  | .error e => (s,.error (.repository e))
  | .ok none => (s,.error (.transferNotFound transferId))
  | .ok (some facts) =>
    match decide facts with
    | .error e => (s,.error (.domain e))
    | .ok decided =>
      match write facts decided with
      | .error e => (s,.error (.repository e))
      | .ok (rows,answer) =>
        match s.commitTransferRows rows with
        | none => (s,.error (.repository .database))
        | some s' => (s',.ok answer)

-- The new index is the first one of the decided manifest that the locked one does not have.
def recordRows (facts : TransferLockedFacts) : ChunkRecordOutcome →
    Except RepositoryError (Option TransferRows × ChunkRecordOutcome)
  | .alreadyRecorded => .ok (some s.transfer,.alreadyRecorded)
  | .added manifest =>
    match manifest.chunks.keys.find? fun index => facts.manifest.chunks[index]?.isNone with
    | none => .error (.backend "decided manifest added no chunk relative to locked facts")
    | some index =>
      match manifest.chunks[index]? with
      | none => .error (.backend "decided manifest is missing its own new chunk")
      | some expected =>
        .ok (s.transfer.insertChunk? ⟨facts.artifact.id,asI32 index,asI32 expected.size,expected.digest.bytes,false⟩,
          .added manifest)

def recordExpectedChunk (index size : Nat) (digestBytes : List UInt8) :
    Store × Except (TransferCommandError ChunkRecordError) ChunkRecordOutcome :=
  s.command transferId (fun facts => facts.manifest.recordExpectedChunk index size digestBytes) s.recordRows

def acceptVerifiedChunk (index : Nat) (verifiedDigestBytes : List UInt8) :
    Store × Except (TransferCommandError ChunkAcceptError) AcceptChunkOutcome :=
  s.command transferId (fun facts => validateVerifiedChunk facts.manifest index verifiedDigestBytes) fun facts _ =>
    if index ∈ facts.heldChunkIndices then .ok (some s.transfer,.alreadyHeld)
    else .ok (some (s.transfer.setHeld facts.artifact.id (asI32 index)),.accepted)

def sealRows (facts : TransferLockedFacts) : SealOutcome →
    Except RepositoryError (Option TransferRows × SealOutcome)
  | .alreadySealed => .ok (some s.transfer,.alreadySealed)
  | .sealed manifest =>
    match manifest.chunkCount,manifest.artifactDigest with
    | none,_ => .error (.backend "sealed outcome is missing chunk_count")
    | some _,none => .error (.backend "sealed outcome is missing artifact_digest")
    | some count,some digest => .ok (some (s.transfer.setSealed facts.artifact.id count digest),.sealed manifest)

def sealExpectedManifest (chunkCount : Nat) (digestBytes : List UInt8) :
    Store × Except (TransferCommandError SealError) SealOutcome :=
  s.command transferId (fun facts => facts.manifest.seal chunkCount digestBytes) s.sealRows

def commitArtifactTransition (decide : TransferLockedFacts → Except ArtifactTransitionError Artifact) :
    Store × Except (TransferCommandError ArtifactTransitionError) Artifact :=
  s.command transferId decide fun _ updated =>
    .ok (some (s.transfer.setArtifactState updated.id updated.state),updated)

def beginArtifactVerification : Store × Except (TransferCommandError ArtifactTransitionError) Artifact :=
  s.commitArtifactTransition transferId fun facts =>
    beginVerification facts.artifact facts.manifest facts.heldChunkIndices

def completeArtifactVerification (digestMatches : Bool) :
    Store × Except (TransferCommandError ArtifactTransitionError) Artifact :=
  s.commitArtifactTransition transferId fun facts => completeVerification facts.artifact digestMatches

def failIncompleteArtifact : Store × Except (TransferCommandError ArtifactTransitionError) Artifact :=
  s.commitArtifactTransition transferId fun facts => failIncomplete facts.artifact

def bindAttempt (attempt : Attempt) : Store × Except (TransferCommandError TransferBindingError) Transfer :=
  s.command transferId (fun facts => Bamep.bindAttempt facts.transfer attempt) fun _ bound =>
    .ok (some (match bound.attemptId with
      | some attemptId => s.transfer.setAttemptBinding transferId attemptId
      | none => s.transfer),bound)

end Store

inductive Commanded {ε α β : Type} (s : Store) (transferId : TransferId) (decide : TransferLockedFacts → Except ε α)
    (write : TransferLockedFacts → α → Except RepositoryError (Option TransferRows × β)) :
    Store × Except (TransferCommandError ε) β → Prop where
  | failed (e) : Commanded s transferId decide write (s,.error e)
  | done {facts decided answer s'} (loaded : s.transfer.loadLockedFacts transferId = .ok (some facts))
      (decides : decide facts = .ok decided) (writes : write facts decided = .ok (some s'.transfer,answer))
      (workflow : s'.workflow = s.workflow) : Commanded s transferId decide write (s',.ok answer)

theorem commandEnds {ε α β : Type} (s : Store) (transferId : TransferId)
    (decide : TransferLockedFacts → Except ε α)
    (write : TransferLockedFacts → α → Except RepositoryError (Option TransferRows × β)) :
    Commanded s transferId decide write (s.command transferId decide write) := by
  unfold Store.command
  split
  · exact .failed _
  · exact .failed _
  rename_i facts loaded
  split
  · exact .failed _
  rename_i decided decides
  split
  · exact .failed _
  rename_i rows answer writes
  split
  · exact .failed _
  rename_i s' committed
  obtain ⟨rows',found,committed⟩ := Option.bind_eq_some_iff.mp committed
  obtain ⟨workflow,transfer⟩ := commitSome committed
  refine .done loaded decides ?_ workflow
  rw [writes,found,transfer]

end Bamep
