import Bamep.Gateway.ManifestLife
import Bamep.Gateway.Outcome
import Bamep.Worker.FullArtifact

/-! What the server accepts and seals against what the Worker rereads. The acceptance bounds every chunk
by the chunk size and the seal counts the chunks, but only the reread asks that all chunks before the last
are full. -/
namespace Bamep
open Relational Transition

-- The size recorded for a chunk, as the server replays it.
def TransferRows.recordedSize (t : TransferRows) (artifactId : ArtifactId) (index : Nat) : Nat :=
  ((t.chunks.find? (artifactId,(index : Int))).map fun row => asU32 row.size).getD 0

/- The final files of a Transfer are readable and are the recorded chunks. -/
structure FilesMatch (sha256 : Sha256) (openFinal : OpenFinal) (t : TransferRows) (transferId : TransferId)
    (artifactId : ArtifactId) (contents : Nat → List UInt8) : Prop where
  readable : ∀ c ∈ t.chunks, c.artifactId = artifactId →
    ∃ reader, openFinal transferId c.chunkIndex.toNat = .ok reader ∧
      reader.Delivers (contents c.chunkIndex.toNat)
  size : ∀ c ∈ t.chunks, c.artifactId = artifactId → ((contents c.chunkIndex.toNat).length : Int) = c.size
  digest : ∀ c ∈ t.chunks, c.artifactId = artifactId →
    (sha256 (contents c.chunkIndex.toNat)).val = c.digest

section Seal
variable {s : Store} {transferId : TransferId} {binding : CapabilityBinding} {endpoint : Option Bool}
  {chunkCount : Nat} {digestWire : String} {replayAccepted : Bool} {facts : SealedManifestDurableFacts}

/- What a seal that answers `Sealed` was decided on. -/
structure SealedOn (s : Store) (transferId : TransferId) (chunkCount : Nat) (facts : SealedManifestDurableFacts)
    (locked : TransferLockedFacts) (row : ManifestRow) : Prop where
  loaded : TransferRows.Loaded s.transfer transferId locked row
  artifact : facts.artifactId = locked.artifact.id
  count : facts.chunkCount = chunkCount
  chunkSize : facts.chunkSize = locked.transfer.chunkSize
  small : chunkCount < 2 ^ 31
  complete : Complete s.transfer locked.artifact.id chunkCount

theorem sealManifestSealed (custody : Custody s.transfer)
    (ok : (s.sealManifest transferId binding endpoint chunkCount digestWire replayAccepted).2 =
      .ok (.sealed facts)) : ∃ locked row, SealedOn s transferId chunkCount facts locked row := by
  have ends := @sealManifestEnds s transferId binding endpoint chunkCount digestWire replayAccepted
  generalize s.sealManifest transferId binding endpoint chunkCount digestWire replayAccepted = result at ends ok
  cases ends with
  | refused unsealed => cases unsealed _ ok
  | already => cases ok
  | @sealed locked s' digest load incomplete small sealable held workflow rows =>
    cases ok
    obtain ⟨row,loaded⟩ := TransferRows.loadLockedFactsOk load
    have sealed : s'.transfer = s.transfer.seal locked.artifact.id chunkCount digest := rows
    have valid : (s.transfer.seal locked.artifact.id chunkCount digest).Valid s.workflow := by
      rw [← sealed,← workflow]
      exact s'.transferValid
    have nonneg := sealCount valid loaded.stored (loaded.manifestOf.trans loaded.owned.symm)
    have exact_ := asI32Exact small nonneg
    refine ⟨locked,row,loaded,rfl,rfl,(loadManifestOk loaded.manifest).chunkSize,exact_.2,?_⟩
    rw [← exact_.1]
    exact sealComplete s.transferValid custody loaded small nonneg sealable held

end Seal

section Reread
variable {s : Store} {transferId : TransferId} {chunkCount : Nat} {facts : SealedManifestDurableFacts}
  {locked : TransferLockedFacts} {row : ManifestRow} {sha256 : Sha256} {openFinal : OpenFinal}
  {contents : Nat → List UInt8}

theorem sealedChunk (custody : Custody s.transfer) (sealed : SealedOn s transferId chunkCount facts locked row)
    (files : FilesMatch sha256 openFinal s.transfer transferId facts.artifactId contents) {i}
    (below : i < facts.chunkCount) :
    (∃ reader, openFinal transferId i = .ok reader ∧ reader.Delivers (contents i)) ∧
      s.transfer.recordedSize facts.artifactId i = (contents i).length ∧
      0 < (contents i).length ∧ (contents i).length ≤ facts.chunkSize.bytes := by
  have fits := facts.chunkSize.fits
  obtain ⟨c,mem,owned,index⟩ := (sealed.complete.indices i).mpr ⟨by omega,by rw [← sealed.count]; omega⟩
  have owned : c.artifactId = facts.artifactId := owned.trans sealed.artifact.symm
  have readable := files.readable c mem owned
  have size := files.size c mem owned
  rw [index,Int.toNat_natCast] at readable size
  have positive := s.transferValid.chunkSize c mem
  have bounded := custody.sized c mem _ sealed.loaded.transfer
    (sealed.loaded.owned.symm.trans (sealed.artifact.symm.trans owned.symm))
  rw [← sealed.chunkSize] at bounded
  have found : s.transfer.chunks.find? (facts.artifactId,(i : Int)) = some c :=
    Table.findIff.mpr ⟨mem,by rw [ChunkRow.key,owned,index]⟩
  refine ⟨readable,?_,by omega,by omega⟩
  simp only [TransferRows.recordedSize,found,Option.map_some,Option.getD_some,asU32]
  rw [Int.emod_eq_of_lt (by omega) (by omega)]
  omega

/- A sealed Artifact is reread to the end if and only if its chunks are full, the last one excepted. -/
theorem sealedOnReconstructs (custody : Custody s.transfer)
    (sealed : SealedOn s transferId chunkCount facts locked row)
    (files : FilesMatch sha256 openFinal s.transfer transferId facts.artifactId contents) (digest : FullArtifactDigest) :
    FullArtifactRequest.compute sha256 openFinal ⟨transferId,facts.chunkCount,facts.chunkSize.bytes⟩ = .ok digest ↔
      digest = ⟨transferId,facts.chunkCount,
        ((List.range facts.chunkCount).map (s.transfer.recordedSize facts.artifactId)).sum,
        sha256 ((List.range facts.chunkCount).flatMap contents)⟩ ∧
      ∀ i, i + 1 < facts.chunkCount → s.transfer.recordedSize facts.artifactId i = facts.chunkSize.bytes := by
  have chunk := fun i (mem : i ∈ List.range facts.chunkCount) =>
    sealedChunk custody sealed files (List.mem_range.mp mem)
  have sizes : (List.range facts.chunkCount).map (s.transfer.recordedSize facts.artifactId) =
      (List.range facts.chunkCount).map fun i => (contents i).length :=
    List.map_congr_left fun i mem => (chunk i mem).2.1
  have fits : facts.chunkSize.bytes < UInt64.size := lt_trans facts.chunkSize.fits (by decide)
  have room : 0 + (List.range facts.chunkCount).length * facts.chunkSize.bytes < UInt64.size := by
    have narrow : facts.chunkCount < 2 ^ 31 := sealed.count ▸ sealed.small
    have product := Nat.mul_le_mul (Nat.le_of_lt narrow) (Nat.le_of_lt facts.chunkSize.fits)
    have bound : UInt64.size = 2 ^ 64 := rfl
    rw [List.length_range]
    omega
  have read : ∀ out, computeChunks openFinal ⟨transferId,facts.chunkCount,facts.chunkSize.bytes⟩
      (List.range facts.chunkCount) [] 0 = .ok out ↔ _ :=
    fun out => computeChunksDelivered (fun i mem => (chunk i mem).1) fits (fun i mem => (chunk i mem).2.2.2)
      (fun i mem => (chunk i mem).2.2.1) room
  have full : (∀ i ∈ List.range facts.chunkCount, i ≠ facts.chunkCount - 1 →
      (contents i).length = facts.chunkSize.bytes) ↔
      ∀ i, i + 1 < facts.chunkCount → s.transfer.recordedSize facts.artifactId i = facts.chunkSize.bytes := by
    constructor
    · intro inner i below
      have mem : i ∈ List.range facts.chunkCount := List.mem_range.mpr (by omega)
      rw [(chunk i mem).2.1]
      exact inner i mem (by omega)
    · intro inner i mem before
      have below := List.mem_range.mp mem
      rw [← (chunk i mem).2.1]
      exact inner i (by omega)
  simp only [List.nil_append,Nat.zero_add,full] at read
  unfold FullArtifactRequest.compute
  rw [sizes]
  constructor
  · intro ok
    split at ok
    · cases ok
    · rename_i found
      obtain ⟨same,inner⟩ := (read _).mp found
      cases same
      cases ok
      exact ⟨rfl,inner⟩
  · rintro ⟨rfl,inner⟩
    rw [(read _).mpr ⟨rfl,inner⟩]

end Reread

theorem sealedReconstructs (sha256 : Sha256) (openFinal : OpenFinal) (contents : Nat → List UInt8)
    (events : List GatewayOp) (transferId : TransferId) (binding : CapabilityBinding) (endpoint : Option Bool)
    (chunkCount : Nat) (digestWire : String) (replayAccepted : Bool) (facts : SealedManifestDurableFacts)
    (sealed : ((run Gateway.after .empty events).store.sealManifest transferId binding endpoint chunkCount
      digestWire replayAccepted).2 = .ok (.sealed facts))
    (files : FilesMatch sha256 openFinal (stored events) transferId facts.artifactId contents)
    (digest : FullArtifactDigest) :
    FullArtifactRequest.compute sha256 openFinal ⟨transferId,facts.chunkCount,facts.chunkSize.bytes⟩ = .ok digest ↔
      digest = ⟨transferId,facts.chunkCount,
        ((List.range facts.chunkCount).map ((stored events).recordedSize facts.artifactId)).sum,
        sha256 ((List.range facts.chunkCount).flatMap contents)⟩ ∧
      ∀ i, i + 1 < facts.chunkCount → (stored events).recordedSize facts.artifactId i = facts.chunkSize.bytes := by
  have custody := (keepingRun events).custody
  obtain ⟨locked,row,on⟩ := sealManifestSealed custody sealed
  exact sealedOnReconstructs custody on files digest

-- A hash by the first byte, and files read byte by byte.
def headHash : Sha256 := fun bytes => ⟨List.replicate 32 (bytes.headD 0),List.length_replicate⟩

def bytewise (contents : Nat → List UInt8) : OpenFinal := fun _ i => .ok ⟨(contents i).map fun byte => .ok [byte]⟩

theorem bytewiseDelivers (content : List UInt8) :
    StoredChunkReader.Delivers ⟨content.map fun byte => .ok [byte]⟩ content :=
  ⟨content.map fun byte => [byte],by rw [List.map_map]; rfl,by simp,List.flatMap_singleton' content⟩

-- A Transfer of two-byte chunks, dispatched and acknowledged.
def pairsInProgress : List GatewayOp := inProgressWith .pair

def uploadOf (contents : Nat → List UInt8) (indices : List Nat) : List GatewayOp :=
  indices.map fun i => .acceptChunk ⟨3⟩ i (Sha256Digest.toBase64urlNoPad (headHash (contents i))) (contents i).length

def pairsSealed : SealedManifestDurableFacts := ⟨⟨4⟩,.sha256,.pair,2,.zero⟩

def fullThenShort : Nat → List UInt8 := fun i => [[7,8],[9]].getD i []

def shortThenShort : Nat → List UInt8 := fun i => [[7],[9]].getD i []

theorem sealedReconstructsPairs :
    ((run Gateway.after .empty (pairsInProgress ++ uploadOf fullThenShort [1,0])).store.sealManifest ⟨3⟩
        ⟨⟨0⟩,⟨3⟩,⟨4⟩,.agentToServer,⟨5⟩,[],0,0⟩ (some true) 2 zeroDigest true).2 = .ok (.sealed pairsSealed) ∧
      FullArtifactRequest.compute headHash (bytewise fullThenShort) ⟨⟨3⟩,2,2⟩ =
        .ok ⟨⟨3⟩,2,((List.range 2).map ((stored (pairsInProgress ++ uploadOf fullThenShort [1,0])).recordedSize
          ⟨4⟩)).sum,headHash ((List.range 2).flatMap fullThenShort)⟩ := by
  have sealed : ((run Gateway.after .empty (pairsInProgress ++ uploadOf fullThenShort [1,0])).store.sealManifest ⟨3⟩
      ⟨⟨0⟩,⟨3⟩,⟨4⟩,.agentToServer,⟨5⟩,[],0,0⟩ (some true) 2 zeroDigest true).2 = .ok (.sealed pairsSealed) := by
    decide +kernel
  refine ⟨sealed,(sealedReconstructs headHash (bytewise fullThenShort) fullThenShort _ _ _ _ _ _ _ pairsSealed sealed
    ⟨fun c _ _ => ⟨_,rfl,bytewiseDelivers _⟩,by decide +kernel,by decide +kernel⟩ _).mpr ⟨rfl,fun i below => ?_⟩⟩
  cases (show i = 0 by have : i + 1 < 2 := below; omega)
  decide +kernel

theorem shortChunksStuck :
    ((run Gateway.after .empty (pairsInProgress ++ uploadOf shortThenShort [0,1])).store.sealManifest ⟨3⟩
        ⟨⟨0⟩,⟨3⟩,⟨4⟩,.agentToServer,⟨5⟩,[],0,0⟩ (some true) 2 zeroDigest true).2 = .ok (.sealed pairsSealed) ∧
      FilesMatch headHash (bytewise shortThenShort) (stored (pairsInProgress ++ uploadOf shortThenShort [0,1])) ⟨3⟩
        ⟨4⟩ shortThenShort ∧
      FullArtifactRequest.compute headHash (bytewise shortThenShort) ⟨⟨3⟩,2,2⟩ =
        .error (.nonFinalChunkTooShort ⟨3⟩ 0 2 1) :=
  ⟨by decide +kernel,⟨fun c _ _ => ⟨_,rfl,bytewiseDelivers _⟩,by decide +kernel,by decide +kernel⟩,by decide +kernel⟩

end Bamep
