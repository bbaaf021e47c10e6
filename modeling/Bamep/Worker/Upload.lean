import Bamep.Worker.Storage

/-! The staging worker of one upload: body frames arrive through a channel, the bytes are checked
against the declared digest and finalized. A closed channel ends the body, whoever closed it. -/
namespace Bamep

structure StageRequest where
  transferId : TransferId
  chunkIndex : Nat
  chunkSize : Nat
  declaredDigest : String
  deriving DecidableEq, Repr

inductive StageOutcome where
  | finalized (size : Nat) (digest : String)
  | emptyBody
  | tooLarge
  | digestMismatch
  | localIdentityConflict
  | storageUnavailable
  deriving DecidableEq, Repr

inductive PumpMessage where
  | data (bytes : List UInt8)
  | truncated
  deriving DecidableEq, Repr

-- `begin_stage`; creating the directories and the staging file may fail.
def StageRequest.begin (request : StageRequest) : StagingChunk :=
  ⟨request.transferId,request.chunkIndex,[],request.chunkSize,false⟩

def stageMessage (staging : StagingChunk) (io : Option IoError) : PumpMessage → Except StageOutcome StagingChunk
  | .data bytes =>
    match staging.write bytes io with
    | (_,.error (.oversize _)) => .error .tooLarge
    | (_,.error _) => .error .storageUnavailable
    | (staging',.ok ()) => .ok staging'
  | .truncated => .error .storageUnavailable

-- The staging worker after the last message.
def stageEnd (sha256 : Sha256) (files : ChunkFiles) (io : FinalizeIo) (declaredDigest : String)
    (staging : StagingChunk) : ChunkFiles × StageOutcome :=
  if staging.stagedLen = 0 then (files,.emptyBody)
  else
    let computed := Sha256Digest.toBase64urlNoPad (staging.digest sha256)
    if computed ≠ declaredDigest then (files,.digestMismatch)
    else if UInt32.size ≤ staging.stagedLen then (files,.storageUnavailable)
    else match staging.finalize sha256 files io with
      | (files',.ok _) => (files',.finalized staging.stagedLen computed)
      | (files',.error (.finalizedChunkConflict ..)) => (files',.localIdentityConflict)
      | (files',.error .emptyChunk) => (files',.emptyBody)
      | (files',.error _) => (files',.storageUnavailable)

/- A final file with the length and digest that are reported for it. -/
def Filed (sha256 : Sha256) (files : ChunkFiles) (transferId : TransferId) (chunkIndex size : Nat)
    (digest : String) : Prop :=
  ∃ content, files transferId chunkIndex = some content ∧ content.length = size ∧
    Sha256Digest.toBase64urlNoPad (sha256 content) = digest

section Staging
variable {sha256 : Sha256} {files : ChunkFiles} {io : FinalizeIo} {declaredDigest : String}
  {staging staging' : StagingChunk}

theorem stageMessageSame {write message}
    (ok : stageMessage staging write message = .ok staging') :
    staging'.transferId = staging.transferId ∧ staging'.chunkIndex = staging.chunkIndex := by
  unfold stageMessage at ok
  split at ok
  · split at ok
    · contradiction
    · contradiction
    rename_i written
    cases ok
    unfold StagingChunk.write at written
    split at written
    · cases written
    split at written
    · cases written; exact ⟨rfl,rfl⟩
    split at written
    · cases written
    split at written <;> cases written
    exact ⟨rfl,rfl⟩
  · contradiction

theorem stageEndKeeps : files.Keeps (stageEnd sha256 files io declaredDigest staging).1 := by
  have same : files.Keeps files := fun _ _ _ found => found
  have kept := @finalizeKeeps sha256 files staging io
  unfold stageEnd
  split
  · exact same
  simp only
  split
  · exact same
  split
  · exact same
  split <;> rename_i result <;> rw [result] at kept <;> exact kept

theorem stageEndFiled {files' size digest}
    (ok : stageEnd sha256 files io declaredDigest staging = (files',.finalized size digest)) :
    digest = declaredDigest ∧ Filed sha256 files' staging.transferId staging.chunkIndex size digest := by
  unfold stageEnd at ok
  split at ok
  · cases ok
  simp only at ok
  split at ok
  · cases ok
  rename_i declared
  split at ok
  · cases ok
  split at ok <;> cases ok
  rename_i finalized
  obtain ⟨content,found,length,digest⟩ := finalizeFiled finalized
  exact ⟨not_not.mp declared,content,found,length,by rw [digest]⟩

theorem filedKeeps {files'} (keeps : files.Keeps files') {transferId chunkIndex size digest}
    (filed : Filed sha256 files transferId chunkIndex size digest) :
    Filed sha256 files' transferId chunkIndex size digest := by
  obtain ⟨content,found,facts⟩ := filed
  exact ⟨content,keeps _ _ _ found,facts⟩

end Staging
end Bamep
