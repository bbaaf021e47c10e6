import Bamep.Application.ManifestReload

/-! The answer to one chunk acceptance, from every durable state. The index narrows from `u64` to `u32` in the service
and to a non-negative `INTEGER` in the table, and the order of the checks decides which reason is seen. -/
namespace Bamep
open Relational

structure ChunkAcceptanceInput where
  transferId : TransferId
  chunkIndex : UInt64
  digest : String
  size : UInt32
  deriving DecidableEq, Repr

namespace ChunkAcceptanceInput

def index (input : ChunkAcceptanceInput) : Nat := input.chunkIndex.toNat

def bytes (input : ChunkAcceptanceInput) : Nat := input.size.toNat

end ChunkAcceptanceInput

def Store.accept (s : Store) (input : ChunkAcceptanceInput) :
    Store × Except RepositoryError ChunkAcceptanceCommit :=
  s.acceptChunk input.transferId input.index input.digest input.bytes

def Store.attemptOf (s : Store) (facts : TransferLockedFacts) : Option Attempt :=
  facts.transfer.attemptId.bind s.workflow.attempts.find?

/- The Transfer may still take this chunk. -/
structure Continuable (s : Store) (facts : TransferLockedFacts) (index : Nat) : Prop where
  current : dataPlaneOperationIsCurrent .chunkUpload facts.artifact.state facts.manifest.sealed
    facts.manifest.chunks[index]?.isSome = .ok ()
  inProgress : (s.attemptOf facts).map Attempt.state = some .inProgress

/- A different digest is durable for the index, and nothing else is wrong. -/
structure DigestConflict (s : Store) (facts : TransferLockedFacts) (input : ChunkAcceptanceInput) : Prop where
  incomplete : facts.artifact.state = .incomplete
  inProgress : (s.attemptOf facts).map Attempt.state = some .inProgress
  positive : 1 ≤ input.bytes
  bounded : input.bytes ≤ facts.manifest.chunkSize.bytes
  differs : ∃ digest existing, Digest.parseWireValue facts.manifest.digestAlgorithm input.digest = .ok digest ∧
    facts.manifest.chunks[input.index]? = some existing ∧ existing.digest ≠ digest

/- What has no reason of its own and fails closed. -/
inductive Malformed (facts : TransferLockedFacts) (input : ChunkAcceptanceInput) : Prop where
  | digest {e} (refused : Digest.parseWireValue facts.manifest.digestAlgorithm input.digest = .error e)
  | size (outside : ¬(1 ≤ input.bytes ∧ input.bytes ≤ facts.manifest.chunkSize.bytes))
  | contradicts {digest : Digest} {existing : ExpectedChunk}
      (parsed : Digest.parseWireValue facts.manifest.digestAlgorithm input.digest = .ok digest)
      (found : facts.manifest.chunks[input.index]? = some existing) (same : existing.digest = digest)
      (differs : existing.size ≠ input.bytes)

section Decision
variable {s : Store} {facts : TransferLockedFacts} {input : ChunkAcceptanceInput}

theorem uploadCurrentOf {state sealed identity} (incomplete : state = .incomplete)
    (known : identity = true) : dataPlaneOperationIsCurrent .chunkUpload state sealed identity = .ok () := by
  subst incomplete known
  simp [dataPlaneOperationIsCurrent]

theorem decideConflictIff :
    decideChunkAcceptance input.index input.bytes input.digest facts (s.attemptOf facts) = .rejectConflict ↔
      DigestConflict s facts input := by
  unfold decideChunkAcceptance
  simp only
  constructor
  · intro decided
    split at decided
    · cases decided
    rename_i current
    split at decided
    · cases decided
    rename_i inProgress
    split at decided
    · cases decided
    rename_i sized
    split at decided
    · cases decided
    rename_i digest parsed
    have recorded : ∀ d, decideChunkAcceptance.record input.index input.bytes facts d ≠ .rejectConflict := by
      intro d same
      unfold decideChunkAcceptance.record at same
      split at same <;> cases same
    split at decided
    · rename_i existing found
      split at decided
      · rename_i differs
        exact ⟨(uploadCurrent current).1,not_not.mp inProgress,by omega,by omega,digest,existing,parsed,found,differs⟩
      split at decided
      · cases decided
      · exact absurd decided (recorded digest)
    · exact absurd decided (recorded digest)
  · intro conflict
    obtain ⟨digest,existing,parsed,found,differs⟩ := conflict.differs
    have current := @uploadCurrentOf facts.artifact.state facts.manifest.sealed
      facts.manifest.chunks[input.index]?.isSome conflict.incomplete (by rw [found]; rfl)
    have sized : ¬(input.bytes = 0 ∨ input.bytes > facts.manifest.chunkSize.bytes) := by
      have := conflict.positive
      have := conflict.bounded
      omega
    simp only [current]
    simp [conflict.inProgress,sized,parsed,found,differs]

theorem decideMalformed (continuable : Continuable s facts input.index) (malformed : Malformed facts input) :
    decideChunkAcceptance input.index input.bytes input.digest facts (s.attemptOf facts) = .failClosed := by
  unfold decideChunkAcceptance
  simp only [continuable.current,continuable.inProgress]
  by_cases sized : input.bytes = 0 ∨ input.bytes > facts.manifest.chunkSize.bytes
  · simp [sized]
  · cases malformed with
    | digest refused => simp [sized,refused]
    | size outside => omega
    | contradicts parsed found same differs => simp [sized,parsed,found,same,differs]

theorem recordAlreadySame {manifest : ChunkManifest} {index size bytes}
    (ok : manifest.recordExpectedChunk index size bytes = .ok .alreadyRecorded) :
    ∃ existing, manifest.chunks[index]? = some existing ∧ existing.size = size ∧ existing.digest.bytes = bytes := by
  unfold ChunkManifest.recordExpectedChunk at ok
  split at ok
  · cases ok
  rename_i digest built
  split at ok
  · rename_i existing found
    split at ok
    · rename_i same
      exact ⟨existing,found,same.1,by rw [same.2,digestNewSome built]⟩
    · cases ok
  · split at ok <;> cases ok

theorem decideContinuable (taken : decideChunkAcceptance input.index input.bytes input.digest facts
    (s.attemptOf facts) ≠ .rejectNotContinuable) : Continuable s facts input.index := by
  unfold decideChunkAcceptance at taken
  simp only at taken
  split at taken
  · exact absurd rfl taken
  rename_i current
  split at taken
  · exact absurd rfl taken
  rename_i inProgress
  exact ⟨current,not_not.mp inProgress⟩

end Decision

section Answers
variable {s : Store} {facts : TransferLockedFacts} {input : ChunkAcceptanceInput}
  (small : input.index < 2 ^ 32) (loaded : s.transfer.loadLockedFacts input.transferId = .ok (some facts))
include small loaded

omit loaded in
theorem acceptNarrow : s.accept input = match s.commitChunkAcceptance input.transferId input.index
      (decideChunkAcceptance input.index input.bytes input.digest) with
    | (s',.ok result) => (s',.ok result)
    | (s',.error (.transferNotFound _)) => (s',.ok .failClosed)
    | (s',.error (.repository e)) => (s',.error e) := by
  unfold Store.accept Store.acceptChunk
  exact if_neg (by omega)

theorem acceptUnwritten {decided commit}
    (decides : decideChunkAcceptance input.index input.bytes input.digest facts (s.attemptOf facts) = decided)
    (reads : (decided = .rejectConflict ∧ commit = .rejectedConflict) ∨
      (decided = .rejectNotContinuable ∧ commit = .rejectedNotContinuable) ∨
      (decided = .failClosed ∧ commit = .failClosed) ∨
      (decided = .commit .alreadyRecorded ∧ input.index ∈ facts.heldChunkIndices ∧ commit = .alreadyCommitted)) :
    s.accept input = (s,.ok commit) := by
  subst decides
  unfold Store.attemptOf at reads
  rcases reads with ⟨decides,rfl⟩ | ⟨decides,rfl⟩ | ⟨decides,rfl⟩ | ⟨decides,held,rfl⟩
  · simp [acceptNarrow small,Store.commitChunkAcceptance,loaded,decides]
  · simp [acceptNarrow small,Store.commitChunkAcceptance,loaded,decides]
  · simp [acceptNarrow small,Store.commitChunkAcceptance,loaded,decides]
  · simp [acceptNarrow small,Store.commitChunkAcceptance,loaded,decides,held]

theorem acceptReheld {s'}
    (decides : decideChunkAcceptance input.index input.bytes input.digest facts (s.attemptOf facts) =
      .commit .alreadyRecorded) (unheld : input.index ∉ facts.heldChunkIndices)
    (commits : s.commitTransferRows (some (s.transfer.setHeld facts.artifact.id (asI32 input.index))) = some s') :
    s.accept input = (s',.ok .committed) := by
  unfold Store.attemptOf at decides
  simp [acceptNarrow small,Store.commitChunkAcceptance,loaded,decides,unheld,commits]

theorem acceptAdded {s' manifest expected}
    (decides : decideChunkAcceptance input.index input.bytes input.digest facts (s.attemptOf facts) =
      .commit (.added manifest)) (found : manifest.chunks[input.index]? = some expected)
    (commits : s.commitTransferRows (s.transfer.insertChunk?
      ⟨facts.artifact.id,asI32 input.index,asI32 expected.size,expected.digest.bytes,true⟩) = some s') :
    s.accept input = (s',.ok .committed) := by
  unfold Store.attemptOf at decides
  simp [acceptNarrow small,Store.commitChunkAcceptance,loaded,decides,found,commits]

end Answers

section Commits
variable {r : Repository} {facts : TransferLockedFacts} {input : ChunkAcceptanceInput}

theorem chunkRowsCommit {s : Store} {chunks}
    (artifacts : ∀ c ∈ chunks, ∃ a ∈ s.transfer.artifacts, a.id = c.artifactId)
    (indices : ∀ c ∈ chunks, 0 ≤ c.chunkIndex) (sizes : ∀ c ∈ chunks, 0 < c.size)
    (digests : ∀ c ∈ chunks, c.digest.length = 32) :
    ∃ s', s.commitTransferRows (some { s.transfer with chunks := chunks }) = some s' := by
  have valid := s.transferValid
  have rows : TransferRows.Valid { s.transfer with chunks := chunks } s.workflow :=
    ⟨valid.chunkSizePositive,valid.artifactUnique,valid.attemptUnique,valid.transferArtifact,valid.transferJob,
      valid.transferStep,valid.transferAttempt,valid.manifestArtifact,valid.manifestCount,valid.manifestDigest,
      valid.manifestFacts,artifacts,indices,sizes,digests⟩
  exact ⟨⟨s.workflow,_,s.workflowValid,rows⟩,by
    simp only [Store.commitTransferRows,Option.bind_some,commit,s.workflowValid,rows,and_self,↓reduceDIte]⟩

theorem heldCommits (s : Store) (artifactId : ArtifactId) (index : Int) :
    ∃ s', s.commitTransferRows (some (s.transfer.setHeld artifactId index)) = some s' := by
  have valid := s.transferValid
  have origin : ∀ c ∈ (s.transfer.setHeld artifactId index).chunks, ∃ old ∈ s.transfer.chunks,
      c.artifactId = old.artifactId ∧ c.chunkIndex = old.chunkIndex ∧ c.size = old.size ∧ c.digest = old.digest := by
    intro c mem
    rcases (Table.memUpdate (by exact fun _ => rfl)).mp mem with ⟨old,_⟩ | ⟨old,present,_,rfl⟩
    · exact ⟨c,old,rfl,rfl,rfl,rfl⟩
    · exact ⟨old,present,rfl,rfl,rfl,rfl⟩
  refine chunkRowsCommit (fun c mem => ?_) (fun c mem => ?_) (fun c mem => ?_) fun c mem => ?_
  all_goals obtain ⟨old,present,artifact,index,size,digest⟩ := origin c mem
  · rw [artifact]
    exact valid.chunkArtifact old present
  · rw [index]
    exact valid.chunkIndexNonneg old present
  · rw [size]
    exact valid.chunkSize old present
  · rw [digest]
    exact valid.chunkDigest old present

/- A new index below `2^31` fits its column, and so does every size up to the chunk size. -/
theorem insertCommits (mirrored : r.Mirrored)
    (loaded : r.store.transfer.loadLockedFacts input.transferId = .ok (some facts)) (fits : input.index < 2 ^ 31)
    (absent : facts.manifest.chunks[input.index]? = none) (positive : 1 ≤ input.bytes)
    (bounded : input.bytes ≤ facts.manifest.chunkSize.bytes) (digest : Digest) :
    ∃ s', r.store.commitTransferRows (r.store.transfer.insertChunk?
      ⟨facts.artifact.id,asI32 input.index,asI32 input.bytes,digest.bytes,true⟩) = some s' := by
  obtain ⟨mem,_,owned,k,_,mirrors,manifest,_⟩ := mirroredLoad mirrored loaded
  obtain ⟨row,locked⟩ := TransferRows.loadLockedFactsOk loaded
  have valid := r.store.transferValid
  have chunkSize : facts.manifest.chunkSize.bytes < 2 ^ 31 := by
    have exactSize := asI32Exact facts.transfer.chunkSize.fits (le_of_lt (valid.chunkSizePositive _ mem))
    rw [manifest,mirrors.chunkSize]
    omega
  have index : asI32 input.index = input.index := asI32Small (by omega)
  have size : asI32 input.bytes = input.bytes := asI32Small (by omega)
  rw [index,size]
  have fresh : ∀ c ∈ r.store.transfer.chunks, c.key ≠ (facts.artifact.id,(input.index : Int)) := by
    intro c present same
    have artifact : c.artifactId = facts.transfer.artifactId := (congrArg Prod.fst same).trans owned
    have at_ : c.chunkIndex = input.index := congrArg Prod.snd same
    have found := (mirrors.recorded input.index ⟨input.index,c.size.toNat,⟨c.digest,valid.chunkDigest c present⟩⟩).mpr
      ⟨rfl,c,present,artifact,at_,(Int.toNat_of_nonneg (le_of_lt (valid.chunkSize c present))).symm,rfl⟩
    rw [← manifest,absent] at found
    cases found
  obtain ⟨chunks,inserted⟩ := @Table.insertIsSome _ _ ChunkRow.key _ r.store.transfer.chunks
    ⟨facts.artifact.id,(input.index : Int),(input.bytes : Int),digest.bytes,true⟩ fresh
  rw [TransferRows.insertChunk?,inserted,Option.map_some]
  have rows := fun c => @Table.memInsert _ _ ChunkRow.key _ _ _ _ c inserted
  refine chunkRowsCommit (fun c present => ?_) (fun c present => ?_) (fun c present => ?_) fun c present => ?_
  all_goals rcases (rows c).mp present with old | rfl
  · exact valid.chunkArtifact c old
  · exact ⟨_,locked.artifact,rfl⟩
  · exact valid.chunkIndexNonneg c old
  · simp
  · exact valid.chunkSize c old
  · simp only
    omega
  · exact valid.chunkDigest c old
  · exact digest.sized

/- What the accepted chunk left behind, and that it is accepted again. -/
structure AcceptedAgain (s' : Store) (input : ChunkAcceptanceInput) (facts : TransferLockedFacts) (digest : Digest) :
    Prop where
  loaded : s'.transfer.loadLockedFacts input.transferId = .ok (some facts)
  parsed : Digest.parseWireValue facts.manifest.digestAlgorithm input.digest = .ok digest
  held : input.index ∈ facts.heldChunkIndices
  recorded : facts.manifest.chunks[input.index]? = some ⟨input.index,input.bytes,digest⟩
  again : s'.accept input = (s',.ok .alreadyCommitted)

theorem loadedSame {t t' : TransferRows} {transferId facts'}
    (loaded : t.loadLockedFacts transferId = .ok (some facts))
    (loaded' : t'.loadLockedFacts transferId = .ok (some facts')) (transfers : t'.transfers = t.transfers)
    (artifacts : t'.artifacts = t.artifacts) :
    facts'.transfer = facts.transfer ∧ facts'.artifact = facts.artifact := by
  obtain ⟨_,locked⟩ := TransferRows.loadLockedFactsOk loaded
  obtain ⟨_,locked'⟩ := TransferRows.loadLockedFactsOk loaded'
  have transfer : facts'.transfer = facts.transfer :=
    Table.eqOfKey (transfers ▸ locked'.transfer) locked.transfer (locked'.named.trans locked.named.symm)
  refine ⟨transfer,Table.eqOfKey (artifacts ▸ locked'.artifact) locked.artifact ?_⟩
  exact locked'.owned.trans ((congrArg Transfer.artifactId transfer).trans locked.owned.symm)

theorem acceptFrame (s : Store) (input : ChunkAcceptanceInput) :
    (s.accept input).1.workflow = s.workflow ∧ (s.accept input).1.transfer.transfers = s.transfer.transfers ∧
      (s.accept input).1.transfer.artifacts = s.transfer.artifacts := by
  have ends := @acceptChunkEnds s input.transferId input.index input.digest input.bytes
  unfold Store.accept
  generalize s.acceptChunk input.transferId input.index input.digest input.bytes = result at ends ⊢
  cases ends with
  | refused | already => exact ⟨rfl,rfl,rfl⟩
  | added _ _ _ _ _ _ _ workflow rows =>
    have step := chunkAddedStep rows
    exact ⟨workflow,step.transfers,step.artifacts⟩
  | reheld _ _ _ workflow rows =>
    rw [rows]
    exact ⟨workflow,rfl,rfl⟩

theorem recordedChunk {k t x} (mirrors : Mirrors t x k) {index size digest outcome}
    (recorded : k.manifest.recordExpectedChunk index size digest.bytes = .ok outcome) :
    (k.manifest.record ⟨index,size,digest.bytes⟩).chunks[index]? = some ⟨index,size,digest⟩ := by
  rw [recordChunks]
  cases outcome with
  | alreadyRecorded =>
    obtain ⟨existing,found,sameSize,sameDigest⟩ := recordAlreadySame recorded
    have at_ := ((mirrors.recorded index existing).mp found).1
    rw [found,expectedIff.mpr ⟨at_,sameSize,sameDigest⟩]
    simp
  | added manifest =>
    obtain ⟨unsealed,absent,_⟩ := recordAdded recorded
    simp [absent,unsealed,ChunkEntry.expected,digestNewSized digest.sized]

theorem acceptedAgain (mirrored : r.Mirrored) (small : input.index < 2 ^ 32)
    (loaded : r.store.transfer.loadLockedFacts input.transferId = .ok (some facts)) {outcome : ChunkRecordOutcome}
    (decided : decideChunkAcceptance input.index input.bytes input.digest facts (r.store.attemptOf facts) =
      .commit outcome) {s' commit} (accepts : r.store.accept input = (s',.ok commit))
    (accepted : commit = .committed ∨ commit = .alreadyCommitted) :
    ∃ facts' digest, AcceptedAgain s' input facts' digest := by
  obtain ⟨incomplete,positive,bounded,digest,parsed,recorded⟩ := chunkAccepted decided
  obtain ⟨_,_,_,k,known,mirrors,manifest,heldIn⟩ := mirroredLoad mirrored loaded
  have algorithm : facts.manifest.digestAlgorithm = .sha256 := by
    cases facts.manifest.digestAlgorithm
    rfl
  have after := mirroredAfter r (.acceptChunk input.transferId input.index input.digest input.bytes) mirrored
  have next : r.after (.acceptChunk input.transferId input.index input.digest input.bytes) = ⟨s',
      r.change input.transferId fun k => (k.record ⟨input.index,input.bytes,digest.bytes⟩).hold input.index⟩ := by
    have same : r.store.acceptChunk input.transferId input.index input.digest input.bytes = (s',.ok commit) := accepts
    simp only [Repository.after,same,Repository.answered]
    congr 1
    unfold Repository.acceptedChunk
    rw [← algorithm,parsed]
    rcases accepted with rfl | rfl <;> rfl
  rw [next] at after
  obtain ⟨facts',loaded',manifest',held'⟩ := (mirroredReloads after).loaded input.transferId
    ((k.record ⟨input.index,input.bytes,digest.bytes⟩).hold input.index) (by simp [Repository.change,known])
  have frame := acceptFrame r.store input
  rw [accepts] at frame
  obtain ⟨transfer,artifact⟩ := loadedSame loaded loaded' frame.2.1 frame.2.2
  have chunk : facts'.manifest.chunks[input.index]? = some ⟨input.index,input.bytes,digest⟩ := by
    rw [manifest']
    exact recordedChunk mirrors (manifest ▸ recorded)
  have held : input.index ∈ facts'.heldChunkIndices := by
    rw [← List.mem_toFinset,held',Kept.hold]
    exact Finset.mem_insert_self _ _
  have fields : facts'.manifest.digestAlgorithm = facts.manifest.digestAlgorithm ∧
      facts'.manifest.chunkSize = facts.manifest.chunkSize := by
    rw [manifest',manifest,Kept.hold,Kept.record,recordFrame]
    exact ⟨rfl,rfl⟩
  have again : decideChunkAcceptance input.index input.bytes input.digest facts' (Store.attemptOf s' facts') =
      .commit .alreadyRecorded := by
    have current := @uploadCurrentOf facts'.artifact.state facts'.manifest.sealed
      facts'.manifest.chunks[input.index]?.isSome (by rw [artifact]; exact incomplete) (by rw [chunk]; rfl)
    have inProgress := (decideContinuable (by rw [decided]; simp)).inProgress
    have attempt : Store.attemptOf s' facts' = r.store.attemptOf facts := by
      unfold Store.attemptOf
      rw [transfer,frame.1]
    have sized : ¬(input.bytes = 0 ∨ input.bytes > facts.manifest.chunkSize.bytes) := by omega
    unfold decideChunkAcceptance decideChunkAcceptance.record
    simp only [current]
    simp [attempt,inProgress,fields,sized,parsed,chunk,ChunkManifest.recordExpectedChunk,digestNewSized digest.sized]
  exact ⟨facts',digest,loaded',fields.1 ▸ parsed,held,chunk,
    acceptUnwritten small loaded' again (.inr (.inr (.inr ⟨rfl,held,rfl⟩)))⟩

end Commits

/- An index that fits `u32` and not the column, in a request that is otherwise taken. -/
structure Overflows (s : Store) (input : ChunkAcceptanceInput) (facts : TransferLockedFacts) : Prop where
  wide : 2 ^ 31 ≤ input.index
  small : input.index < 2 ^ 32
  continuable : Continuable s facts input.index
  wellFormed : ¬Malformed facts input

/- The index fits its column, and a malformed request meets a Transfer that may still take chunks. -/
structure Representable (s : Store) (input : ChunkAcceptanceInput) : Prop where
  fits : ∀ facts, s.transfer.loadLockedFacts input.transferId = .ok (some facts) → ¬Overflows s input facts
  continuable : input.index < 2 ^ 32 → ∀ facts, s.transfer.loadLockedFacts input.transferId = .ok (some facts) →
    Malformed facts input → Continuable s facts input.index

structure AcceptanceLaws (s : Store) (input : ChunkAcceptanceInput) : Prop where
  answered : ∃ commit, (s.accept input).2 = .ok commit
  conflict : (s.accept input).2 = .ok .rejectedConflict ↔
    ∃ facts, s.transfer.loadLockedFacts input.transferId = .ok (some facts) ∧ DigestConflict s facts input
  unrepresentable : 2 ^ 32 ≤ input.index → s.accept input = (s,.ok .failClosed)
  malformed : ∀ facts, s.transfer.loadLockedFacts input.transferId = .ok (some facts) → Malformed facts input →
    s.accept input = (s,.ok .failClosed)
  accepted : ∀ s' commit, s.accept input = (s',.ok commit) → commit = .committed ∨ commit = .alreadyCommitted →
    ∃ facts digest, AcceptedAgain s' input facts digest

section Laws
variable {r : Repository} {input : ChunkAcceptanceInput}

theorem acceptWide {s : Store} (wide : 2 ^ 32 ≤ input.index) : s.accept input = (s,.ok .failClosed) := by
  unfold Store.accept Store.acceptChunk
  exact if_pos (by omega)

theorem acceptUnknown {s : Store} (small : input.index < 2 ^ 32)
    (unknown : s.transfer.loadLockedFacts input.transferId = .ok none) : s.accept input = (s,.ok .failClosed) := by
  simp [acceptNarrow small,Store.commitChunkAcceptance,unknown]

theorem recordedNarrow (mirrored : r.Mirrored) {facts index existing}
    (loaded : r.store.transfer.loadLockedFacts input.transferId = .ok (some facts))
    (found : facts.manifest.chunks[index]? = some existing) : index < 2 ^ 31 := by
  obtain ⟨_,_,_,k,_,mirrors,manifest,_⟩ := mirroredLoad mirrored loaded
  rw [manifest] at found
  obtain ⟨_,c,present,_,at_,_⟩ := (mirrors.recorded index existing).mp found
  have := (mirrored.narrow c present).1
  omega

theorem lawsUnwritten {s commit} (same : s.accept input = (s,.ok commit))
    (unaccepted : commit ≠ .committed ∧ commit ≠ .alreadyCommitted)
    (conflict : commit = .rejectedConflict ↔
      ∃ facts, s.transfer.loadLockedFacts input.transferId = .ok (some facts) ∧ DigestConflict s facts input)
    (closed : (2 ^ 32 ≤ input.index ∨ ∃ facts, s.transfer.loadLockedFacts input.transferId = .ok (some facts) ∧
      Malformed facts input) → commit = .failClosed) : AcceptanceLaws s input := by
  refine ⟨⟨commit,by rw [same]⟩,?_,fun wide => ?_,fun facts loaded malformed => ?_,fun s' commit' equal accepted => ?_⟩
  · rw [same,← conflict]
    exact ⟨Except.ok.inj,congrArg Except.ok⟩
  · rw [same,closed (.inl wide)]
  · rw [same,closed (.inr ⟨facts,loaded,malformed⟩)]
  · rw [same] at equal
    cases equal
    rcases accepted with equal | equal
    · exact absurd equal unaccepted.1
    · exact absurd equal unaccepted.2

/- A commit that is decided reaches the table, unless the index does not fit its column. -/
theorem commitReaches (mirrored : r.Mirrored) {facts} (small : input.index < 2 ^ 32)
    (loaded : r.store.transfer.loadLockedFacts input.transferId = .ok (some facts)) {outcome}
    (decided : decideChunkAcceptance input.index input.bytes input.digest facts (r.store.attemptOf facts) =
      .commit outcome) (fits : ¬Overflows r.store input facts) :
    ∃ s' commit, r.store.accept input = (s',.ok commit) ∧ (commit = .committed ∨ commit = .alreadyCommitted) := by
  obtain ⟨_,positive,bounded,digest,_,recorded⟩ := chunkAccepted decided
  have continuable := decideContinuable (by rw [decided]; simp)
  have wellFormed : ¬Malformed facts input := by
    intro malformed
    rw [decideMalformed continuable malformed] at decided
    cases decided
  have narrow : input.index < 2 ^ 31 := by
    by_contra wide
    exact fits ⟨by omega,small,continuable,wellFormed⟩
  cases outcome with
  | alreadyRecorded =>
    by_cases held : input.index ∈ facts.heldChunkIndices
    · exact ⟨_,_,acceptUnwritten small loaded decided (.inr (.inr (.inr ⟨rfl,held,rfl⟩))),.inr rfl⟩
    · obtain ⟨s',commits⟩ := heldCommits r.store facts.artifact.id (asI32 input.index)
      exact ⟨s',_,acceptReheld small loaded decided held commits,.inl rfl⟩
  | added manifest =>
    obtain ⟨_,absent,added,_,rfl⟩ := recordAdded recorded
    obtain ⟨s',commits⟩ := insertCommits mirrored loaded narrow absent positive bounded added
    have found : (facts.manifest.chunks.insert input.index ⟨input.index,input.bytes,added⟩)[input.index]? =
        some ⟨input.index,input.bytes,added⟩ := by simp
    exact ⟨s',_,acceptAdded small loaded decided found commits,.inl rfl⟩

theorem mirroredAcceptance (mirrored : r.Mirrored) (covered : Representable r.store input) :
    AcceptanceLaws r.store input := by
  by_cases small : input.index < 2 ^ 32
  · cases known : r.kept input.transferId with
    | none =>
      have unknown := (mirroredReloads mirrored).absent _ known
      refine lawsUnwritten (acceptUnknown small unknown) ⟨by simp,by simp⟩ ⟨by simp,?_⟩ fun _ => rfl
      rintro ⟨facts,loaded,_⟩
      rw [unknown] at loaded
      cases loaded
    | some k =>
      obtain ⟨facts,loaded,_⟩ := (mirroredReloads mirrored).loaded _ k known
      have only : ∀ {facts'}, r.store.transfer.loadLockedFacts input.transferId = .ok (some facts') → facts' = facts :=
        fun loaded' => Option.some.inj (Except.ok.inj (loaded'.symm.trans loaded))
      have closed : Malformed facts input →
          decideChunkAcceptance input.index input.bytes input.digest facts (r.store.attemptOf facts) = .failClosed :=
        fun malformed => decideMalformed (covered.continuable small facts loaded malformed) malformed
      have conflicts := @decideConflictIff r.store facts input
      generalize decides : decideChunkAcceptance input.index input.bytes input.digest facts (r.store.attemptOf facts) =
        decided at closed conflicts
      -- The answer is read off the decision, whose own laws have just been collected.
      have unwritten : ∀ {commit}, r.store.accept input = (r.store,.ok commit) → commit ≠ .committed →
          commit ≠ .alreadyCommitted → (commit = .rejectedConflict ↔ decided = .rejectConflict) →
          (decided = .failClosed → commit = .failClosed) → AcceptanceLaws r.store input := by
        intro commit same fresh again reason failed
        refine lawsUnwritten same ⟨fresh,again⟩ ?_ ?_
        · rw [reason,conflicts]
          refine ⟨fun conflict => ⟨facts,loaded,conflict⟩,?_⟩
          rintro ⟨facts',loaded',conflict⟩
          exact only loaded' ▸ conflict
        · rintro (wide | ⟨facts',loaded',malformed⟩)
          · omega
          · exact failed (closed (only loaded' ▸ malformed))
      cases decided with
      | rejectConflict =>
        exact unwritten (acceptUnwritten small loaded decides (.inl ⟨rfl,rfl⟩)) (by simp) (by simp) (by simp) (by simp)
      | rejectNotContinuable =>
        exact unwritten (acceptUnwritten small loaded decides (.inr (.inl ⟨rfl,rfl⟩))) (by simp) (by simp) (by simp)
          (by simp)
      | failClosed =>
        exact unwritten (acceptUnwritten small loaded decides (.inr (.inr (.inl ⟨rfl,rfl⟩)))) (by simp) (by simp)
          (by simp) (by simp)
      | commit outcome =>
        obtain ⟨s',commit,accepts,accepted⟩ := commitReaches mirrored small loaded decides (covered.fits facts loaded)
        have wellFormed : ¬Malformed facts input := by
          intro malformed
          cases closed malformed
        refine ⟨⟨commit,by rw [accepts]⟩,⟨?_,?_⟩,fun wide => by omega,?_,?_⟩
        · rw [accepts]
          rcases accepted with rfl | rfl <;> simp
        · rintro ⟨facts',loaded',conflict⟩
          cases conflicts.mpr (only loaded' ▸ conflict)
        · exact fun facts' loaded' malformed => absurd (only loaded' ▸ malformed) wellFormed
        · exact fun s'' commit' accepts' accepted' => acceptedAgain mirrored small loaded decides accepts' accepted'
  · refine lawsUnwritten (acceptWide (by omega)) ⟨by simp,by simp⟩ ⟨by simp,?_⟩ fun _ => rfl
    rintro ⟨facts,loaded,conflict⟩
    obtain ⟨_,existing,_,found,_⟩ := conflict.differs
    have := recordedNarrow mirrored loaded found
    omega

theorem decideAdded {s facts} (continuable : Continuable s facts input.index)
    (wellFormed : ¬Malformed facts input) (absent : facts.manifest.chunks[input.index]? = none) :
    ∃ manifest, decideChunkAcceptance input.index input.bytes input.digest facts (s.attemptOf facts) =
      .commit (.added manifest) := by
  have sized : ¬(input.bytes = 0 ∨ input.bytes > facts.manifest.chunkSize.bytes) := by
    intro outside
    exact wellFormed (.size (by omega))
  have unsealed : facts.manifest.sealed = false := by
    have known := (uploadCurrent continuable.current).2
    rw [absent] at known
    cases isSealed : facts.manifest.sealed with
    | false => rfl
    | true => cases known isSealed
  cases parsed : Digest.parseWireValue facts.manifest.digestAlgorithm input.digest with
  | error e => exact absurd (.digest parsed) wellFormed
  | ok digest =>
    unfold decideChunkAcceptance decideChunkAcceptance.record
    simp only [continuable.current,continuable.inProgress]
    simp [sized,parsed,absent,unsealed,ChunkManifest.recordExpectedChunk,digestNewSized digest.sized]

theorem acceptCommit {s s' : Store} {facts commit}
    (small : input.index < 2 ^ 32) (loaded : s.transfer.loadLockedFacts input.transferId = .ok (some facts))
    (accepts : s.accept input = (s',.ok commit)) :
    (commit = .failClosed → decideChunkAcceptance input.index input.bytes input.digest facts (s.attemptOf facts) =
      .failClosed) ∧
    (∀ {outcome}, decideChunkAcceptance input.index input.bytes input.digest facts (s.attemptOf facts) =
      .commit outcome → commit = .committed ∨ commit = .alreadyCommitted) := by
  rw [acceptNarrow small] at accepts
  simp only [Store.commitChunkAcceptance,loaded] at accepts
  unfold Store.attemptOf
  generalize decideChunkAcceptance input.index input.bytes input.digest facts
    (facts.transfer.attemptId.bind s.workflow.attempts.find?) = decided at accepts ⊢
  cases decided with
  | rejectConflict | rejectNotContinuable | failClosed =>
    cases accepts
    simp
  | commit outcome =>
    have accepted : commit = .committed ∨ commit = .alreadyCommitted := by
      cases outcome with
      | added manifest =>
        dsimp only at accepts
        cases found : manifest.chunks[input.index]? with
        | none => simp [found] at accepts
        | some expected =>
          cases written : s.commitTransferRows (s.transfer.insertChunk?
            ⟨facts.artifact.id,asI32 input.index,asI32 expected.size,expected.digest.bytes,true⟩) with
          | none => simp [found,written] at accepts
          | some s'' =>
            simp only [found,written,Prod.mk.injEq,Except.ok.injEq] at accepts
            exact .inl accepts.2.symm
      | alreadyRecorded =>
        dsimp only at accepts
        by_cases held : input.index ∈ facts.heldChunkIndices
        · simp only [held,↓reduceIte,Prod.mk.injEq,Except.ok.injEq] at accepts
          exact .inr accepts.2.symm
        · cases written : s.commitTransferRows
            (some (s.transfer.setHeld facts.artifact.id (asI32 input.index))) with
          | none => simp [held,written] at accepts
          | some s'' =>
            simp only [held,↓reduceIte,written,Prod.mk.injEq,Except.ok.injEq] at accepts
            exact .inl accepts.2.symm
    refine ⟨fun closed => ?_,fun _ => accepted⟩
    rcases accepted with rfl | rfl <;> cases closed

theorem lawsRepresentable (mirrored : r.Mirrored) (laws : AcceptanceLaws r.store input) : Representable r.store input := by
  refine ⟨fun facts loaded overflow => ?_,fun small facts loaded malformed => ?_⟩
  · have absent : facts.manifest.chunks[input.index]? = none := by
      cases found : facts.manifest.chunks[input.index]? with
      | none => rfl
      | some existing =>
        have := recordedNarrow mirrored loaded found
        have := overflow.wide
        omega
    obtain ⟨manifest,decided⟩ := decideAdded overflow.continuable overflow.wellFormed absent
    obtain ⟨commit,answer⟩ := laws.answered
    have accepts : r.store.accept input = ((r.store.accept input).1,.ok commit) := Prod.ext rfl answer
    have accepted := (acceptCommit overflow.small loaded accepts).2 decided
    obtain ⟨facts',digest,again⟩ := laws.accepted _ _ accepts accepted
    have after := mirroredAfter r (.acceptChunk input.transferId input.index input.digest input.bytes) mirrored
    have := @recordedNarrow _ input after _ _ _ again.loaded again.recorded
    have := overflow.wide
    omega
  · have closed := laws.malformed facts loaded malformed
    exact decideContinuable (by rw [(acceptCommit small loaded closed).1 rfl]; simp)

end Laws

/- The condition is exact: outside it one of the laws fails. -/
theorem acceptanceLawsExactly (ops : List RepositoryOp) (input : ChunkAcceptanceInput) :
    AcceptanceLaws (Repository.reached ops).store input ↔ Representable (Repository.reached ops).store input :=
  ⟨lawsRepresentable (mirroredReached ops),mirroredAcceptance (mirroredReached ops)⟩

theorem chunkAcceptanceExact (ops : List RepositoryOp) (input : ChunkAcceptanceInput)
    (covered : Representable (Repository.reached ops).store input) :
    AcceptanceLaws (Repository.reached ops).store input :=
  mirroredAcceptance (mirroredReached ops) covered

-- A Transfer of two-byte chunks, dispatched and acknowledged.
def acknowledged : List RepositoryOp :=
  [.job (.createWorkflow (some .enrolled) ⟨1⟩ (fun _ => ⟨2⟩) ⟨0⟩ 1),.job (.admitJob ⟨1⟩ (ticket 1)),
    .job (.createTransferContext true ⟨3⟩ ⟨4⟩ ⟨0⟩ ⟨1⟩ ⟨2⟩ .agentToServer .sha256 .pair "disk"),
    .job (.satisfyCurrentStepPreconditions ⟨1⟩ ⟨2⟩),.job (.commitTransferDispatch ⟨1⟩ ⟨2⟩ ⟨3⟩ ⟨5⟩ ⟨6⟩),
    .job (.applyActionEvidence ⟨6⟩ ⟨0⟩ .ackAccepted (ticket 2))]

def zeroChunk (chunkIndex : UInt64) : ChunkAcceptanceInput :=
  ⟨⟨3⟩,chunkIndex,Base64Url.encode (List.replicate 32 0),2⟩

def Store.takesChunks (s : Store) (transferId : TransferId) : Bool :=
  match s.transfer.loadLockedFacts transferId with
  | .ok (some facts) => facts.artifact.state = .incomplete && !facts.manifest.sealed &&
    (s.attemptOf facts).map Attempt.state == some .inProgress
  | _ => false

theorem takesContinuable {s facts transferId}
    (takes : s.takesChunks transferId = true) (loaded : s.transfer.loadLockedFacts transferId = .ok (some facts))
    (index : Nat) : Continuable s facts index := by
  simp only [Store.takesChunks,loaded,Bool.and_eq_true,decide_eq_true_eq,Bool.not_eq_true',beq_iff_eq] at takes
  refine ⟨?_,takes.2⟩
  simp [takes.1.1,takes.1.2,dataPlaneOperationIsCurrent]

theorem chunkAcceptanceExactFirst :
    ((Repository.reached acknowledged).store.accept (zeroChunk 0)).2 = .ok .committed ∧
      AcceptanceLaws (Repository.reached acknowledged).store (zeroChunk 0) := by
  refine ⟨by decide +kernel,chunkAcceptanceExact acknowledged (zeroChunk 0) ⟨fun _ _ overflow => ?_,?_⟩⟩
  · exact absurd overflow.wide (by decide)
  · exact fun _ _ loaded _ => takesContinuable (by decide +kernel) loaded _

theorem chunkAcceptanceUncovered :
    (let s := (Repository.reached acknowledged).store
     (s.accept (zeroChunk 0x80000000)).2 = .error .database ∧ ¬AcceptanceLaws s (zeroChunk 0x80000000)) ∧
    (let s := (Repository.reached (acknowledged ++ [.failIncompleteArtifact ⟨3⟩])).store
     (s.accept ⟨⟨3⟩,0,"",2⟩).2 = .ok .rejectedNotContinuable ∧ ¬AcceptanceLaws s ⟨⟨3⟩,0,"",2⟩) := by
  have overflow : ((Repository.reached acknowledged).store.accept (zeroChunk 0x80000000)).2 = .error .database := by
    decide +kernel
  have failed : ((Repository.reached (acknowledged ++ [.failIncompleteArtifact ⟨3⟩])).store.accept
      ⟨⟨3⟩,0,"",2⟩).2 = .ok .rejectedNotContinuable := by
    decide +kernel
  have known : ((Repository.reached (acknowledged ++ [.failIncompleteArtifact ⟨3⟩])).kept ⟨3⟩).isSome := by
    decide +kernel
  refine ⟨⟨overflow,fun laws => ?_⟩,⟨failed,fun laws => ?_⟩⟩
  · obtain ⟨commit,answer⟩ := laws.answered
    rw [overflow] at answer
    cases answer
  · obtain ⟨k,known⟩ := Option.isSome_iff_exists.mp known
    obtain ⟨facts,loaded,_⟩ := (mirroredReloads (mirroredReached _)).loaded _ k known
    obtain ⟨e,refused⟩ : ∃ e, Digest.parseWireValue facts.manifest.digestAlgorithm "" = .error e := by
      cases facts.manifest.digestAlgorithm
      exact ⟨_,rfl⟩
    have closed := laws.malformed facts loaded (.digest refused)
    rw [closed] at failed
    cases failed

end Bamep
