import Bamep.Gateway.Routing

/-! What the Worker's requests can do to the transfer rows, with the facts each was decided on. -/
namespace Bamep
open Relational

inductive DataPlaneStep (t : TransferRows) : GatewayOp → TransferRows → Prop where
  | chunkAdded {transferId index digestWire size facts t'} {digest : Digest}
      (loaded : t.loadLockedFacts transferId = .ok (some facts))
      (incomplete : facts.artifact.state = .incomplete) (unsealed : facts.manifest.sealed = false)
      (positive : 0 < size) (bounded : size ≤ facts.manifest.chunkSize.bytes) (small : index < 2 ^ 32)
      (ok : t.insertChunk? ⟨facts.artifact.id,asI32 index,asI32 size,digest.bytes,true⟩ = some t') :
      DataPlaneStep t (.acceptChunk transferId index digestWire size) t'
  | chunkHeld {transferId index digestWire size facts}
      (loaded : t.loadLockedFacts transferId = .ok (some facts))
      (incomplete : facts.artifact.state = .incomplete) :
      DataPlaneStep t (.acceptChunk transferId index digestWire size)
        (t.setHeld facts.artifact.id (asI32 index))
  | sealed {transferId binding endpoint chunkCount digestWire replayAccepted facts} {digest : Digest}
      (loaded : t.loadLockedFacts transferId = .ok (some facts))
      (incomplete : facts.artifact.state = .incomplete) (small : chunkCount < 2 ^ 32)
      (sealable : Sealable facts.manifest chunkCount)
      (held : ∀ i ∈ facts.manifest.chunks, i ∈ facts.heldChunkIndices) :
      DataPlaneStep t (.sealManifest transferId binding endpoint chunkCount digestWire replayAccepted)
        ((t.setSealed facts.artifact.id chunkCount digest).setArtifactState facts.artifact.id
          .pendingVerification)
  | verified {input facts} {expected computed : Digest}
      (loaded : t.loadLockedFacts input.transferId = .ok (some facts))
      (pending : facts.artifact.state = .pendingVerification)
      (durable : facts.manifest.artifactDigest = some expected)
      (reported : Digest.parseWireValue facts.manifest.digestAlgorithm input.computedArtifactDigest =
        .ok computed) :
      DataPlaneStep t (.verifyArtifact input) (t.setArtifactState facts.artifact.id
        (if computed.bytes = expected.bytes then .verified else .failed))

def Committed (s : Store) (op : GatewayOp) (s' : Store) : Prop :=
  s' = s ∨ s'.workflow = s.workflow ∧ DataPlaneStep s.transfer op s'.transfer

section Requests
variable {s : Store}

theorem commitRowsSome {new s'} (ok : s.commitTransferRows new = some s') :
    s'.workflow = s.workflow ∧ new = some s'.transfer := by
  obtain ⟨rows,found,committed⟩ := Option.bind_eq_some_iff.mp ok
  obtain ⟨workflow,transfer⟩ := commitSome committed
  exact ⟨workflow,by rw [found,transfer]⟩

theorem recordCommitted {facts index size digest outcome}
    (ok : decideChunkAcceptance.record index size facts digest = .commit outcome) :
    facts.manifest.recordExpectedChunk index size digest.bytes = .ok outcome := by
  unfold decideChunkAcceptance.record at ok
  split at ok <;> try contradiction
  rename_i recorded
  rw [recorded,ChunkAcceptanceDecided.commit.inj ok]

theorem chunkAccepted {index size digestWire facts attempt outcome}
    (ok : decideChunkAcceptance index size digestWire facts attempt = .commit outcome) :
    facts.artifact.state = .incomplete ∧ 0 < size ∧ size ≤ facts.manifest.chunkSize.bytes ∧
      ∃ digest : Digest, Digest.parseWireValue facts.manifest.digestAlgorithm digestWire = .ok digest ∧
        facts.manifest.recordExpectedChunk index size digest.bytes = .ok outcome := by
  unfold decideChunkAcceptance at ok
  simp only at ok
  split at ok
  · contradiction
  rename_i current
  split at ok
  · contradiction
  split at ok
  · contradiction
  rename_i sized
  split at ok
  · contradiction
  rename_i digest parsed
  refine ⟨(uploadCurrent current).1,by omega,by omega,digest,parsed,recordCommitted ?_⟩
  split at ok
  · split at ok
    · contradiction
    split at ok
    · contradiction
    · exact ok
  · exact ok

inductive Acceptance (s : Store) (transferId : TransferId) (index : Nat) (digestWire : String) (size : Nat) :
    Store × Except RepositoryError ChunkAcceptanceCommit → Prop where
  | refused {answer} (uncommitted : answer ≠ .ok .committed) (unheld : answer ≠ .ok .alreadyCommitted) :
      Acceptance s transferId index digestWire size (s,answer)
  | added {facts s'} {digest : Digest} (loaded : s.transfer.loadLockedFacts transferId = .ok (some facts))
      (incomplete : facts.artifact.state = .incomplete) (unsealed : facts.manifest.sealed = false)
      (positive : 0 < size) (bounded : size ≤ facts.manifest.chunkSize.bytes) (small : index < 2 ^ 32)
      (parsed : Digest.parseWireValue facts.manifest.digestAlgorithm digestWire = .ok digest)
      (workflow : s'.workflow = s.workflow)
      (rows : s.transfer.insertChunk? ⟨facts.artifact.id,asI32 index,asI32 size,digest.bytes,true⟩ =
        some s'.transfer) :
      Acceptance s transferId index digestWire size (s',.ok .committed)
  | reheld {facts s'} (loaded : s.transfer.loadLockedFacts transferId = .ok (some facts))
      (incomplete : facts.artifact.state = .incomplete) (recorded : index ∈ facts.manifest.chunks)
      (workflow : s'.workflow = s.workflow)
      (rows : s'.transfer = s.transfer.setHeld facts.artifact.id (asI32 index)) :
      Acceptance s transferId index digestWire size (s',.ok .committed)
  | already {facts} (loaded : s.transfer.loadLockedFacts transferId = .ok (some facts))
      (held : index ∈ facts.heldChunkIndices) :
      Acceptance s transferId index digestWire size (s,.ok .alreadyCommitted)

theorem commitChunkAcceptanceEnds (transferId : TransferId) {index} (digestWire : String) (size : Nat)
    (small : index < 2 ^ 32) {result}
    (ends : s.commitChunkAcceptance transferId index (decideChunkAcceptance index size digestWire) = result) :
    (∃ e, result = (s,.error e)) ∨
      ∃ commit, result.2 = .ok commit ∧ Acceptance s transferId index digestWire size (result.1,.ok commit) := by
  subst ends
  unfold Store.commitChunkAcceptance
  split
  · exact .inl ⟨_,rfl⟩
  · exact .inl ⟨_,rfl⟩
  rename_i facts loaded
  split
  · exact .inr ⟨_,rfl,.refused nofun nofun⟩
  · exact .inr ⟨_,rfl,.refused nofun nofun⟩
  · exact .inr ⟨_,rfl,.refused nofun nofun⟩
  · rename_i candidate decided
    obtain ⟨incomplete,positive,bounded,digest,parsed,recorded⟩ := chunkAccepted decided
    obtain ⟨unsealed,_,identity,bytes,rfl⟩ := recordAdded recorded
    split
    · exact .inl ⟨_,rfl⟩
    rename_i expected found
    split
    · exact .inl ⟨_,rfl⟩
    rename_i s' committed
    rw [Std.ExtTreeMap.getElem?_insert_self] at found
    cases Option.some.inj found
    rw [bytes] at committed
    obtain ⟨workflow,rows⟩ := commitRowsSome committed
    exact .inr ⟨_,rfl,.added loaded incomplete unsealed positive bounded small parsed workflow rows⟩
  · rename_i decided
    obtain ⟨incomplete,_,_,digest,_,recorded⟩ := chunkAccepted decided
    split
    · rename_i held
      exact .inr ⟨_,rfl,.already loaded held⟩
    split
    · exact .inl ⟨_,rfl⟩
    rename_i s' committed
    obtain ⟨workflow,rows⟩ := commitRowsSome committed
    exact .inr ⟨_,rfl,.reheld loaded incomplete (recordAlready recorded) workflow (Option.some.inj rows).symm⟩

theorem acceptChunkEnds (transferId : TransferId) (index : Nat) (digestWire : String) (size : Nat) :
    Acceptance s transferId index digestWire size (s.acceptChunk transferId index digestWire size) := by
  unfold Store.acceptChunk
  split
  · exact .refused nofun nofun
  rename_i small
  split <;> rename_i result <;>
    rcases commitChunkAcceptanceEnds transferId digestWire size (not_le.mp small) result with ⟨_,⟨⟩⟩ | ⟨_,⟨⟩,ends⟩
  · exact ends
  · exact .refused nofun nofun
  · exact .refused nofun nofun

theorem acceptChunkStep (transferId : TransferId) (index : Nat) (digestWire : String) (size : Nat) :
    Committed s (.acceptChunk transferId index digestWire size)
      (s.acceptChunk transferId index digestWire size).1 := by
  have ends := @acceptChunkEnds s transferId index digestWire size
  generalize s.acceptChunk transferId index digestWire size = result at ends ⊢
  cases ends with
  | refused | already => exact .inl rfl
  | added loaded incomplete unsealed positive bounded small parsed workflow rows =>
    exact .inr ⟨workflow,.chunkAdded loaded incomplete unsealed positive bounded small rows⟩
  | reheld loaded incomplete recorded workflow rows =>
    refine .inr ⟨workflow,?_⟩
    rw [rows]
    exact .chunkHeld loaded incomplete

theorem sealOutcomeSeal {chunkCount count digest expected state}
    (ok : sealOutcome chunkCount digest state = .seal count expected) :
    count = chunkCount ∧ state.artifact.state = .incomplete ∧ Sealable state.manifest chunkCount ∧
      ∀ i ∈ state.manifest.chunks, i ∈ state.heldChunkIndices := by
  unfold sealOutcome at ok
  split at ok
  · rename_i incomplete
    split at ok
    · contradiction
    split at ok <;> try contradiction
    rename_i candidate sealed
    split at ok <;> try contradiction
    rename_i pending begun
    obtain ⟨sealable,stored,_,same⟩ := sealSealed sealed
    have held := beginVerificationHeld begun
    rw [same] at held
    exact ⟨(ManifestSealDecided.seal.inj ok).1.symm,incomplete,sealable,held⟩
  · split at ok
    · contradiction
    split at ok <;> contradiction
  · contradiction
  · contradiction

theorem manifestSealed {binding chunkCount count digestWire replayAccepted state digest}
    (ok : decideManifestSeal binding chunkCount digestWire replayAccepted state = .seal count digest) :
    count = chunkCount ∧ state.artifact.state = .incomplete ∧ Sealable state.manifest chunkCount ∧
      ∀ i ∈ state.manifest.chunks, i ∈ state.heldChunkIndices := by
  unfold decideManifestSeal at ok
  split at ok
  · rename_i refused
    rcases sealRefused refused with h | h <;> rw [h] at ok <;> contradiction
  · split at ok
    · contradiction
    · exact sealOutcomeSeal ok

def ManifestSealCommit.facts? : ManifestSealCommit → Option SealedManifestDurableFacts
  | .sealed facts | .alreadyPending facts => some facts
  | _ => none

inductive Sealing (s : Store) (transferId : TransferId) (chunkCount : Nat) :
    Store × Except RepositoryError ManifestSealCommit → Prop where
  | refused {answer} (unsealed : ∀ commit, answer = .ok commit → commit.facts? = none) :
      Sealing s transferId chunkCount (s,answer)
  | already {facts} {count : Nat} {digest : Digest} (loaded : s.transfer.loadLockedFacts transferId = .ok (some facts)) :
      Sealing s transferId chunkCount (s,.ok (.alreadyPending (facts.sealedFacts count digest)))
  | sealed {facts s'} {digest : Digest} (loaded : s.transfer.loadLockedFacts transferId = .ok (some facts))
      (incomplete : facts.artifact.state = .incomplete) (small : chunkCount < 2 ^ 32)
      (sealable : Sealable facts.manifest chunkCount)
      (held : ∀ i ∈ facts.manifest.chunks, i ∈ facts.heldChunkIndices) (workflow : s'.workflow = s.workflow)
      (rows : s'.transfer = (s.transfer.setSealed facts.artifact.id chunkCount digest).setArtifactState
        facts.artifact.id .pendingVerification) :
      Sealing s transferId chunkCount (s',.ok (.sealed (facts.sealedFacts chunkCount digest)))

theorem commitSealEnds {transferId binding endpoint chunkCount digestWire replayAccepted}
    (small : chunkCount < 2 ^ 32) {result}
    (ends : s.commitManifestSeal transferId endpoint
      (decideManifestSeal binding chunkCount digestWire replayAccepted) = result) :
    (∃ e, result = (s,.error e)) ∨
      ∃ commit, result.2 = .ok commit ∧ Sealing s transferId chunkCount (result.1,.ok commit) := by
  subst ends
  unfold Store.commitManifestSeal
  split
  · exact .inl ⟨_,rfl⟩
  · exact .inl ⟨_,rfl⟩
  rename_i facts loaded
  split
  · exact .inl ⟨_,rfl⟩
  unfold Store.persistManifestSeal
  split
  · exact .inr ⟨_,rfl,.refused (by rintro _ ⟨⟩; rfl)⟩
  · exact .inr ⟨_,rfl,.refused (by rintro _ ⟨⟩; rfl)⟩
  · exact .inr ⟨_,rfl,.refused (by rintro _ ⟨⟩; rfl)⟩
  · exact .inr ⟨_,rfl,.refused (by rintro _ ⟨⟩; rfl)⟩
  · split
    · exact .inl ⟨_,rfl⟩
    · exact .inl ⟨_,rfl⟩
    · exact .inr ⟨_,rfl,.already loaded⟩
  rename_i count digest decided
  split
  · exact .inl ⟨_,rfl⟩
  rename_i s' committed
  obtain ⟨workflow,rows⟩ := commitRowsSome committed
  obtain ⟨rfl,incomplete,sealable,held⟩ := manifestSealed decided
  exact .inr ⟨_,rfl,.sealed loaded incomplete small sealable held workflow (Option.some.inj rows).symm⟩

theorem sealManifestEnds (transferId : TransferId) (binding : CapabilityBinding)
    (endpoint : Option Bool) (chunkCount : Nat) (digestWire : String) (replayAccepted : Bool) :
    Sealing s transferId chunkCount
      (s.sealManifest transferId binding endpoint chunkCount digestWire replayAccepted) := by
  unfold Store.sealManifest
  split
  · exact .refused (by rintro _ ⟨⟩; rfl)
  rename_i small
  split <;> rename_i result <;>
    rcases commitSealEnds (not_le.mp small) result with ⟨_,⟨⟩⟩ | ⟨_,⟨⟩,ends⟩
  · exact ends
  · exact .refused (by rintro _ ⟨⟩; rfl)
  · exact .refused (by rintro _ ⟨⟩)

theorem sealManifestStep (transferId : TransferId) (binding : CapabilityBinding)
    (endpoint : Option Bool) (chunkCount : Nat) (digestWire : String) (replayAccepted : Bool) :
    Committed s (.sealManifest transferId binding endpoint chunkCount digestWire replayAccepted)
      (s.sealManifest transferId binding endpoint chunkCount digestWire replayAccepted).1 := by
  have ends := @sealManifestEnds s transferId binding endpoint chunkCount digestWire replayAccepted
  generalize s.sealManifest transferId binding endpoint chunkCount digestWire replayAccepted = result at ends ⊢
  cases ends with
  | refused | already => exact .inl rfl
  | sealed loaded incomplete small sealable held workflow rows =>
    refine .inr ⟨workflow,?_⟩
    rw [rows]
    exact .sealed loaded incomplete small sealable held

theorem artifactVerified {input facts updated}
    (ok : decideArtifactVerification input facts = .commit updated) :
    facts.artifact.state = .pendingVerification ∧ facts.manifest.chunkCount = some input.chunkCount ∧
      ∃ expected computed, facts.manifest.artifactDigest = some expected ∧
        Digest.parseWireValue facts.manifest.digestAlgorithm input.computedArtifactDigest = .ok computed ∧
        updated = { facts.artifact with
          state := if computed.bytes = expected.bytes then .verified else .failed } := by
  unfold decideArtifactVerification at ok
  split at ok
  · contradiction
  rename_i matching
  split at ok
  · contradiction
  rename_i expected durable
  split at ok
  · contradiction
  split at ok
  · contradiction
  rename_i computed reported
  split at ok <;> try contradiction
  rename_i completed
  cases ArtifactVerificationDecided.commit.inj ok
  obtain ⟨pending,same⟩ := completeVerificationOk completed
  have counted : facts.manifest.chunkCount = some input.chunkCount := by
    by_contra other
    exact matching (.inr (.inr (.inr (.inr other))))
  exact ⟨pending,counted,expected,computed,durable,reported,by simpa using same⟩

inductive Verification (s : Store) (input : ArtifactVerificationInput) :
    Store × Except RepositoryError ArtifactVerificationCommit → Prop where
  | refused {answer} (uncommitted : ∀ verified, answer ≠ .ok (.committed verified)) : Verification s input (s,answer)
  | committed {facts s'} {expected computed : Digest} {verified : Bool}
      (loaded : s.transfer.loadLockedFacts input.transferId = .ok (some facts))
      (pending : facts.artifact.state = .pendingVerification)
      (counted : facts.manifest.chunkCount = some input.chunkCount)
      (durable : facts.manifest.artifactDigest = some expected)
      (reported : Digest.parseWireValue facts.manifest.digestAlgorithm input.computedArtifactDigest = .ok computed)
      (verdict : verified = true ↔ computed.bytes = expected.bytes) (workflow : s'.workflow = s.workflow)
      (rows : s'.transfer = s.transfer.setArtifactState facts.artifact.id (if verified then .verified else .failed)) :
      Verification s input (s',.ok (.committed verified))

theorem verifyArtifactEnds (input : ArtifactVerificationInput) :
    Verification s input (s.verifyArtifact input) := by
  have ends : ∀ result, s.commitArtifactVerification input.transferId (decideArtifactVerification input) = result →
      (∃ e, result = (s,.error e)) ∨ ∃ commit, result.2 = .ok commit ∧ Verification s input (result.1,.ok commit) := by
    rintro result rfl
    unfold Store.commitArtifactVerification
    split
    · exact .inl ⟨_,rfl⟩
    · exact .inl ⟨_,rfl⟩
    rename_i facts loaded
    split
    · exact .inr ⟨_,rfl,.refused (by rintro _ ⟨⟩)⟩
    rename_i updated decided
    split
    · exact .inl ⟨_,rfl⟩
    rename_i s' committed
    obtain ⟨workflow,rows⟩ := commitRowsSome committed
    obtain ⟨pending,counted,expected,computed,durable,reported,rfl⟩ := artifactVerified decided
    refine .inr ⟨_,rfl,.committed loaded pending counted durable reported ?_ workflow ?_⟩
    · by_cases matching : computed.bytes = expected.bytes <;> simp [matching]
    · rw [← Option.some.inj rows]
      by_cases matching : computed.bytes = expected.bytes <;> simp [matching]
  unfold Store.verifyArtifact
  split <;> rename_i result <;> rcases ends _ result with ⟨_,⟨⟩⟩ | ⟨_,⟨⟩,ends⟩
  · exact ends
  · exact .refused (by rintro _ ⟨⟩)
  · exact .refused (by rintro _ ⟨⟩)

theorem verifyArtifactStep (input : ArtifactVerificationInput) :
    Committed s (.verifyArtifact input) (s.verifyArtifact input).1 := by
  have ends := @verifyArtifactEnds s input
  generalize s.verifyArtifact input = result at ends ⊢
  cases ends with
  | refused => exact .inl rfl
  | @committed facts s' expected computed verified loaded pending counted durable reported verdict workflow rows =>
    have state : (if verified then ArtifactState.verified else .failed) =
        if computed.bytes = expected.bytes then .verified else .failed := if_congr verdict rfl rfl
    refine .inr ⟨workflow,?_⟩
    rw [rows,state]
    exact .verified loaded pending durable reported

end Requests
end Bamep
