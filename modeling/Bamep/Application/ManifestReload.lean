import Mathlib.Data.Finset.Insert
import Bamep.Application.TransferService
import Bamep.Domain.ManifestRecording
import Bamep.Gateway.Answers

/-! The manifest and the held chunks of a Transfer beside their rows. The committed commands are applied to the domain
values themselves; what a reload replays from the rows is the same value after every run. -/
namespace Bamep
open Relational Transition

structure Kept where
  manifest : ChunkManifest
  held : Finset Nat

def Kept.record (k : Kept) (entry : ChunkEntry) : Kept := { k with manifest := k.manifest.record entry }

def Kept.hold (k : Kept) (index : Nat) : Kept := { k with held := insert index k.held }

def Kept.seal (k : Kept) (chunkCount : Nat) (digestBytes : List UInt8) : Kept :=
  match k.manifest.seal chunkCount digestBytes with
  | .ok (.sealed manifest) => { k with manifest := manifest }
  | _ => k

structure Repository where
  store : Store
  kept : TransferId → Option Kept

inductive RepositoryOp where
  | job (op : JobOp)
  | evidence (actionId : ActionId) (endpointId : EndpointId)
      (decide : TransferEvidenceFacts → TransferEvidenceDecision)
  | acceptChunk (transferId : TransferId) (chunkIndex : Nat) (digestWire : String) (size : Nat)
  | sealManifest (transferId : TransferId) (binding : CapabilityBinding) (endpoint : Option Bool) (chunkCount : Nat)
      (digestWire : String) (replayAccepted : Bool)
  | verifyArtifact (input : ArtifactVerificationInput)
  | recordExpectedChunk (transferId : TransferId) (index size : UInt32) (digestBytes : List UInt8)
  | acceptVerifiedChunk (transferId : TransferId) (index : UInt32) (verifiedDigestBytes : List UInt8)
  | sealExpectedManifest (transferId : TransferId) (chunkCount : UInt32) (digestBytes : List UInt8)
  | beginArtifactVerification (transferId : TransferId)
  | completeArtifactVerification (transferId : TransferId) (digestMatches : Bool)
  | failIncompleteArtifact (transferId : TransferId)
  | bindAttempt (transferId : TransferId) (attempt : Attempt)

namespace Repository
variable (s : Repository)

def change (transferId : TransferId) (f : Kept → Kept) : TransferId → Option Kept :=
  fun id => if id = transferId then (s.kept id).map f else s.kept id

-- The context a Job operation has just created.
def created : JobOp → TransferId → Option Kept
  | .createTransferContext endpointExists id artifactId endpointId jobId stepId direction algorithm chunkSize
      provenance =>
    let context := Bamep.createTransferContext id artifactId endpointId jobId stepId direction algorithm chunkSize
      provenance
    match (s.store.createTransferContext endpointExists context).2 with
    | .ok _ => fun other => if other = id then some ⟨context.manifest,∅⟩ else s.kept other
    | .error _ => s.kept
  | _ => s.kept

-- An answered command changes what is kept for its Transfer.
def answered {ε α : Type} (transferId : TransferId) (f : α → Kept → Kept) : Except ε α → TransferId → Option Kept
  | .ok answer => s.change transferId (f answer)
  | .error _ => s.kept

def acceptedChunk (index size : Nat) (digestWire : String) (commit : ChunkAcceptanceCommit) (k : Kept) : Kept :=
  match commit,Digest.parseWireValue .sha256 digestWire with
  | .committed,.ok digest | .alreadyCommitted,.ok digest => (k.record ⟨index,size,digest.bytes⟩).hold index
  | _,_ => k

def sealedManifest (commit : ManifestSealCommit) (k : Kept) : Kept :=
  match commit with
  | .sealed facts => k.seal facts.chunkCount facts.expectedArtifactDigest.bytes
  | _ => k

def after : RepositoryOp → Repository
  | .job op => ⟨s.store.after op,s.created op⟩
  | .evidence actionId endpointId decide =>
    ⟨(s.store.applyTransferTerminalEvidence actionId endpointId decide).1,s.kept⟩
  | .acceptChunk transferId index digestWire size =>
    let result := s.store.acceptChunk transferId index digestWire size
    ⟨result.1,s.answered transferId (acceptedChunk index size digestWire) result.2⟩
  | .sealManifest transferId binding endpoint chunkCount digestWire replayAccepted =>
    let result := s.store.sealManifest transferId binding endpoint chunkCount digestWire replayAccepted
    ⟨result.1,s.answered transferId sealedManifest result.2⟩
  | .verifyArtifact input => ⟨(s.store.verifyArtifact input).1,s.kept⟩
  | .recordExpectedChunk transferId index size digestBytes =>
    let result := s.store.recordExpectedChunk transferId index.toNat size.toNat digestBytes
    ⟨result.1,s.answered transferId (fun _ k => k.record ⟨index.toNat,size.toNat,digestBytes⟩) result.2⟩
  | .acceptVerifiedChunk transferId index verifiedDigestBytes =>
    let result := s.store.acceptVerifiedChunk transferId index.toNat verifiedDigestBytes
    ⟨result.1,s.answered transferId (fun _ k => k.hold index.toNat) result.2⟩
  | .sealExpectedManifest transferId chunkCount digestBytes =>
    let result := s.store.sealExpectedManifest transferId chunkCount.toNat digestBytes
    ⟨result.1,s.answered transferId (fun _ k => k.seal chunkCount.toNat digestBytes) result.2⟩
  | .beginArtifactVerification transferId => ⟨(s.store.beginArtifactVerification transferId).1,s.kept⟩
  | .completeArtifactVerification transferId digestMatches =>
    ⟨(s.store.completeArtifactVerification transferId digestMatches).1,s.kept⟩
  | .failIncompleteArtifact transferId => ⟨(s.store.failIncompleteArtifact transferId).1,s.kept⟩
  | .bindAttempt transferId attempt => ⟨(s.store.bindAttempt transferId attempt).1,s.kept⟩

def start : Repository := ⟨.empty,fun _ => none⟩

def reached (ops : List RepositoryOp) : Repository := run after start ops

end Repository

/- The rows of one Transfer hold exactly these values. -/
structure Mirrors (t : TransferRows) (x : Transfer) (k : Kept) : Prop where
  artifactId : k.manifest.artifactId = x.artifactId
  algorithm : k.manifest.digestAlgorithm = x.digestAlgorithm
  chunkSize : k.manifest.chunkSize = x.chunkSize
  recorded : ∀ (i : Nat) e, k.manifest.chunks[i]? = some e ↔ e.index = i ∧ ∃ c ∈ t.chunks,
    c.artifactId = x.artifactId ∧ c.chunkIndex = i ∧ c.size = e.size ∧ c.digest = e.digest.bytes
  row : ∃ m ∈ t.manifests, m.artifactId = x.artifactId ∧ m.sealed = k.manifest.sealed ∧
    m.chunkCount = k.manifest.chunkCount.map Nat.cast ∧ m.artifactDigest = k.manifest.artifactDigest.map Digest.bytes
  uncounted : k.manifest.sealed = false → k.manifest.chunkCount = none
  counted : ∀ n, k.manifest.chunkCount = some n → n < 2 ^ 31 ∧ k.manifest.chunks.size = n ∧
    ∀ i < n, i ∈ k.manifest.chunks
  held : ∀ i : Nat, i ∈ k.held ↔ ∃ c ∈ t.chunks, c.artifactId = x.artifactId ∧ c.chunkIndex = i ∧ c.held = true

def Narrow (t : TransferRows) : Prop := ∀ c ∈ t.chunks, c.chunkIndex < 2 ^ 31 ∧ c.size < 2 ^ 31

section Reload
variable {t : TransferRows} {w : WorkflowRows} {x : Transfer} {k : Kept}

theorem digestNewSized {algorithm bytes} (sized : bytes.length = 32) :
    Digest.new algorithm bytes = some ⟨bytes,sized⟩ := by
  cases algorithm
  exact dif_pos sized

theorem expectedIff {e : ExpectedChunk} {index size digest} :
    e = ⟨index,size,digest⟩ ↔ e.index = index ∧ e.size = size ∧ e.digest.bytes = digest.bytes := by
  obtain ⟨_,_,⟨_,_⟩⟩ := e
  obtain ⟨_,_⟩ := digest
  simp

/- Rows of distinct indices replay onto an unsealed manifest that has none of them. -/
theorem replayAll {rows : List ChunkRow} {start} (unsealed : start.sealed = false)
    (sized : ∀ c ∈ rows, c.digest.length = 32) (distinct : (rows.map fun c => asU32 c.chunkIndex).Nodup)
    (fresh : ∀ c ∈ rows, start.chunks[asU32 c.chunkIndex]? = none) :
    ∃ manifest, rows.foldlM replayChunk start = some manifest ∧
      manifest = { start with chunks := manifest.chunks } ∧
      ∀ (i : Nat) e, manifest.chunks[i]? = some e ↔ start.chunks[i]? = some e ∨ ∃ c ∈ rows,
        asU32 c.chunkIndex = i ∧ e.index = i ∧ e.size = asU32 c.size ∧ e.digest.bytes = c.digest := by
  induction rows generalizing start with
  | nil => exact ⟨start,rfl,rfl,by simp⟩
  | cons c rest ih =>
    obtain ⟨absent,distinct⟩ := List.nodup_cons.mp distinct
    have here := fresh c List.mem_cons_self
    let added : ExpectedChunk := ⟨asU32 c.chunkIndex,asU32 c.size,⟨c.digest,sized c List.mem_cons_self⟩⟩
    let next : ChunkManifest := { start with chunks := start.chunks.insert (asU32 c.chunkIndex) added }
    have first : replayChunk start c = some next := by
      simp [replayChunk,ChunkManifest.recordExpectedChunk,digestNewSized (sized c List.mem_cons_self),here,unsealed,
        next,added]
    have fresh' : ∀ c' ∈ rest, next.chunks[asU32 c'.chunkIndex]? = none := by
      intro c' mem
      have apart : asU32 c.chunkIndex ≠ asU32 c'.chunkIndex := by
        intro same
        exact absent (List.mem_map.mpr ⟨c',mem,same.symm⟩)
      simp [next,Std.ExtTreeMap.getElem?_insert,apart,fresh c' (List.mem_cons_of_mem _ mem)]
    obtain ⟨manifest,replayed,frame,chunks⟩ :=
      @ih next unsealed (fun c' mem => sized c' (List.mem_cons_of_mem _ mem)) distinct fresh'
    have inserted : ∀ (i : Nat) e, next.chunks[i]? = some e ↔ start.chunks[i]? = some e ∨
        (asU32 c.chunkIndex = i ∧ e.index = i ∧ e.size = asU32 c.size ∧ e.digest.bytes = c.digest) := by
      intro i e
      by_cases this : asU32 c.chunkIndex = i
      · subst this
        have found : next.chunks[asU32 c.chunkIndex]? = some added := by simp [next]
        rw [found,Option.some.injEq,eq_comm,expectedIff]
        simp [here]
      · simp [next,Std.ExtTreeMap.getElem?_insert,this]
    refine ⟨manifest,?_,frame,fun i e => ?_⟩
    · rw [List.foldlM_cons,first]
      exact replayed
    · rw [chunks,inserted,or_assoc]
      simp only [List.mem_cons,exists_eq_or_imp]

theorem chunkRowsDistinct (valid : t.Valid w) (narrow : Narrow t) (artifactId : ArtifactId) :
    ((t.chunkRows artifactId).map fun c => asU32 c.chunkIndex).Nodup := by
  have rows : (t.chunkRows artifactId).Nodup :=
    ((List.perm_insertionSort _ _).nodup_iff).mpr ((List.Nodup.of_map _ t.chunks.unique).filter _)
  refine rows.map_on fun c mem c' mem' same => ?_
  obtain ⟨left,owned⟩ := memChunkRows.mp mem
  obtain ⟨right,owned'⟩ := memChunkRows.mp mem'
  refine Table.eqOfKey left right (Prod.ext (owned.trans owned'.symm) ?_)
  have exactLeft := asU32Exact (valid.chunkIndexNonneg c left) (narrow c left).1
  have exactRight := asU32Exact (valid.chunkIndexNonneg c' right) (narrow c' right).1
  show c.chunkIndex = c'.chunkIndex
  rw [← exactLeft,← exactRight,same]

/- Before the seal is applied again, the replay gives the manifest without its sealed facts. -/
theorem mirrorsReplay (valid : t.Valid w) (narrow : Narrow t) (mirrors : Mirrors t x k) :
    (t.chunkRows x.artifactId).foldlM replayChunk (.new x.artifactId x.digestAlgorithm x.chunkSize) =
      some { k.manifest with sealed := false, chunkCount := none, artifactDigest := none } := by
  obtain ⟨manifest,replayed,frame,chunks⟩ := @replayAll (t.chunkRows x.artifactId)
    (.new x.artifactId x.digestAlgorithm x.chunkSize) rfl
    (fun c mem => valid.chunkDigest c (memChunkRows.mp mem).1) (chunkRowsDistinct valid narrow x.artifactId)
    (fun c _ => by simp [ChunkManifest.new])
  rw [replayed,Option.some.injEq]
  refine ChunkManifest.ext ?_ fun i => Option.ext fun e => ?_
  · rw [frame,mirrors.artifactId,mirrors.algorithm,mirrors.chunkSize]
    rfl
  · rw [chunks,mirrors.recorded]
    simp only [ChunkManifest.new,Std.ExtTreeMap.getElem?_empty,reduceCtorEq,false_or]
    constructor
    · intro found
      obtain ⟨c,mem,index,same,size,digest⟩ := found
      obtain ⟨present,owned⟩ := memChunkRows.mp mem
      have exactIndex := asU32Exact (valid.chunkIndexNonneg c present) (narrow c present).1
      have exactSize := asU32Exact (le_of_lt (valid.chunkSize c present)) (narrow c present).2
      exact ⟨same,c,present,owned,by rw [← index,exactIndex],by rw [size,exactSize],digest.symm⟩
    · intro found
      obtain ⟨same,c,present,owned,index,size,digest⟩ := found
      refine ⟨c,memChunkRows.mpr ⟨present,owned⟩,?_,same,?_,digest.symm⟩
      · have := asU32Exact (valid.chunkIndexNonneg c present) (narrow c present).1
        omega
      · have := asU32Exact (le_of_lt (valid.chunkSize c present)) (narrow c present).2
        omega

theorem mirrorsManifest (valid : t.Valid w) (narrow : Narrow t) (mirrors : Mirrors t x k) :
    ∃ m ∈ t.manifests, m.artifactId = x.artifactId ∧ t.loadManifest x m = .ok k.manifest := by
  obtain ⟨m,mem,owned,sealed,count,digest⟩ := mirrors.row
  refine ⟨m,mem,owned,?_⟩
  have replayed := mirrorsReplay valid narrow mirrors
  unfold TransferRows.loadManifest
  simp only [replayed]
  rcases valid.manifestFacts m mem with ⟨isOpen,noCount,noDigest⟩ | ⟨isSealed,hasCount,hasDigest⟩
  · have unsealed : k.manifest.sealed = false := sealed.symm.trans isOpen
    have uncounted : k.manifest.chunkCount = none := by simpa [noCount] using count.symm
    have undigested : k.manifest.artifactDigest = none := by simpa [noDigest] using digest.symm
    rw [if_neg (by rw [isOpen]; decide),← unsealed,← uncounted,← undigested]
  · have closed : k.manifest.sealed = true := sealed.symm.trans isSealed
    rw [count,Option.isSome_map] at hasCount
    rw [digest,Option.isSome_map] at hasDigest
    obtain ⟨n,counted⟩ := Option.isSome_iff_exists.mp hasCount
    obtain ⟨expected,digested⟩ := Option.isSome_iff_exists.mp hasDigest
    obtain ⟨small,size,contiguous⟩ := mirrors.counted n counted
    have exactCount : asU32 (n : Int) = n := by
      have := @asU32Exact (n : Int) (by omega) (by omega)
      omega
    rw [if_pos isSealed,count,digest,counted,digested]
    simp only [Option.map_some,exactCount]
    have resealed : ChunkManifest.seal
        { k.manifest with sealed := false, chunkCount := none, artifactDigest := none } n expected.bytes =
          .ok (.sealed k.manifest) := by
      have full : (List.range n).all (fun i => k.manifest.chunks.contains i) = true := by
        simpa [List.all_eq_true] using contiguous
      simp only [ChunkManifest.seal,digestNewSized expected.sized,size,full]
      simp [← closed,← counted,← digested]
    rw [resealed]

theorem mirrorsHeld (valid : t.Valid w) (narrow : Narrow t) (mirrors : Mirrors t x k) :
    (((t.chunkRows x.artifactId).filter (·.held)).map fun c => asU32 c.chunkIndex).toFinset = k.held := by
  ext i
  rw [List.mem_toFinset,mirrors.held,List.mem_map]
  constructor
  · intro found
    obtain ⟨c,mem,index⟩ := found
    obtain ⟨row,held⟩ := List.mem_filter.mp mem
    obtain ⟨present,owned⟩ := memChunkRows.mp row
    have := asU32Exact (valid.chunkIndexNonneg c present) (narrow c present).1
    exact ⟨c,present,owned,by omega,held⟩
  · intro found
    obtain ⟨c,present,owned,index,held⟩ := found
    have := asU32Exact (valid.chunkIndexNonneg c present) (narrow c present).1
    exact ⟨c,List.mem_filter.mpr ⟨memChunkRows.mpr ⟨present,owned⟩,held⟩,by omega⟩

theorem mirrorsLoad (valid : t.Valid w) (narrow : Narrow t) (mem : x ∈ t.transfers) (mirrors : Mirrors t x k) :
    ∃ facts, t.loadLockedFacts x.id = .ok (some facts) ∧ facts.transfer = x ∧ facts.manifest = k.manifest ∧
      facts.heldChunkIndices.toFinset = k.held := by
  obtain ⟨a,artifact,named⟩ := valid.transferArtifact x mem
  obtain ⟨m,manifest,owned,loads⟩ := mirrorsManifest valid narrow mirrors
  unfold TransferRows.loadLockedFacts
  simp only [Table.findIff.mpr ⟨mem,rfl⟩,Table.findIff.mpr ⟨artifact,named⟩,Table.findIff.mpr ⟨manifest,owned⟩,loads]
  exact ⟨_,rfl,rfl,rfl,mirrorsHeld valid narrow mirrors⟩

end Reload

/- What a transaction on one Artifact's rows leaves alone. -/
structure Touches (t t' : TransferRows) (artifactId : ArtifactId) : Prop where
  transfers : t'.transfers = t.transfers
  chunks : ∀ c, c.artifactId ≠ artifactId → (c ∈ t'.chunks ↔ c ∈ t.chunks)
  manifests : ∀ m, m.artifactId ≠ artifactId → (m ∈ t'.manifests ↔ m ∈ t.manifests)

section Rows
variable {t t' : TransferRows} {x : Transfer} {k : Kept}

theorem mirrorsSame (mirrors : Mirrors t x k)
    (chunks : ∀ c, c.artifactId = x.artifactId → (c ∈ t'.chunks ↔ c ∈ t.chunks))
    (manifests : ∀ m, m.artifactId = x.artifactId → (m ∈ t'.manifests ↔ m ∈ t.manifests)) : Mirrors t' x k := by
  have rows : ∀ p : ChunkRow → Prop, (∃ c ∈ t'.chunks, c.artifactId = x.artifactId ∧ p c) ↔
      ∃ c ∈ t.chunks, c.artifactId = x.artifactId ∧ p c := by
    intro p
    refine exists_congr fun c => ?_
    constructor
    · intro found
      exact ⟨(chunks c found.2.1).mp found.1,found.2⟩
    · intro found
      exact ⟨(chunks c found.2.1).mpr found.1,found.2⟩
  refine ⟨mirrors.artifactId,mirrors.algorithm,mirrors.chunkSize,fun i e => ?_,?_,mirrors.uncounted,
    mirrors.counted,fun i => ?_⟩
  · rw [mirrors.recorded,rows]
  · obtain ⟨m,mem,owned,facts⟩ := mirrors.row
    exact ⟨m,(manifests m owned).mpr mem,owned,facts⟩
  · rw [mirrors.held,rows]

theorem mirrorsRebound {x'} (mirrors : Mirrors t x k) (artifactId : x'.artifactId = x.artifactId)
    (algorithm : x'.digestAlgorithm = x.digestAlgorithm) (chunkSize : x'.chunkSize = x.chunkSize) :
    Mirrors t x' k := by
  obtain ⟨a,b,c,recorded,row,uncounted,counted,held⟩ := mirrors
  rw [← artifactId] at a recorded row held
  exact ⟨a,b.trans algorithm.symm,c.trans chunkSize.symm,recorded,row,uncounted,counted,held⟩

theorem mirrorsRecorded (mirrors : Mirrors t x k) {i} (inside : i ∈ k.manifest.chunks) :
    ∃ c ∈ t.chunks, c.artifactId = x.artifactId ∧ c.chunkIndex = i := by
  obtain ⟨e,found⟩ := Option.isSome_iff_exists.mp (Std.ExtTreeMap.mem_iff_isSome_getElem?.mp inside)
  obtain ⟨_,c,mem,owned,index,_⟩ := (mirrors.recorded i e).mp found
  exact ⟨c,mem,owned,index⟩

theorem mirrorsHeldRecorded {w} (valid : t.Valid w) (mirrors : Mirrors t x k) {i}
    (inside : i ∈ k.held) : i ∈ k.manifest.chunks := by
  obtain ⟨c,mem,owned,index,_⟩ := (mirrors.held i).mp inside
  have found := (mirrors.recorded i ⟨i,c.size.toNat,⟨c.digest,valid.chunkDigest c mem⟩⟩).mpr
    ⟨rfl,c,mem,owned,index,(Int.toNat_of_nonneg (le_of_lt (valid.chunkSize c mem))).symm,rfl⟩
  exact Std.ExtTreeMap.mem_iff_isSome_getElem?.mpr (by rw [found]; rfl)

/- A row of a new index records its chunk, and holds it if it says so. -/
theorem mirrorsInsert (mirrors : Mirrors t x k) (unsealed : k.manifest.sealed = false) {index size : Nat}
    {digest : Digest} {held} (fits : asI32 index = index) (sizeFits : asI32 size = size)
    (ok : t.insertChunk? ⟨x.artifactId,asI32 index,asI32 size,digest.bytes,held⟩ = some t') :
    Mirrors t' x (if held then (k.record ⟨index,size,digest.bytes⟩).hold index
      else k.record ⟨index,size,digest.bytes⟩) := by
  obtain ⟨chunks,inserted,same⟩ := Option.map_eq_some_iff.mp ok
  rw [fits,sizeFits] at inserted
  have absent : ∀ c ∈ t.chunks, c.artifactId = x.artifactId → c.chunkIndex ≠ index := by
    intro c mem owned equal
    exact Table.insertAbsent inserted mem (Prod.ext owned equal)
  have unknown : k.manifest.chunks[index]? = none := by
    cases found : k.manifest.chunks[index]? with
    | none => rfl
    | some e =>
      obtain ⟨_,c,mem,owned,equal,_⟩ := (mirrors.recorded index e).mp found
      exact absurd equal (absent c mem owned)
  have entry : ChunkEntry.expected ⟨index,size,digest.bytes⟩ k.manifest.digestAlgorithm =
      some ⟨index,size,digest⟩ := by
    simp [ChunkEntry.expected,digestNewSized digest.sized]
  have chunkOf : ∀ (i : Nat) e, (k.manifest.record ⟨index,size,digest.bytes⟩).chunks[i]? = some e ↔
      k.manifest.chunks[i]? = some e ∨ (i = index ∧ e = ⟨index,size,digest⟩) := by
    intro i e
    rw [recordChunks]
    by_cases here : i = index
    · simp [here,unknown,unsealed,entry,eq_comm]
    · simp [here]
  have manifest : (if held then (k.record ⟨index,size,digest.bytes⟩).hold index
      else k.record ⟨index,size,digest.bytes⟩).manifest = k.manifest.record ⟨index,size,digest.bytes⟩ := by
    cases held <;> rfl
  have frame := manifest.trans recordFrame
  subst same
  refine ⟨?_,?_,?_,fun i e => ?_,?_,?_,fun n => ?_,fun i => ?_⟩
  · exact (congrArg ChunkManifest.artifactId frame).trans mirrors.artifactId
  · exact (congrArg ChunkManifest.digestAlgorithm frame).trans mirrors.algorithm
  · exact (congrArg ChunkManifest.chunkSize frame).trans mirrors.chunkSize
  · rw [manifest,chunkOf,mirrors.recorded]
    simp only [Table.memInsert inserted,or_and_right,exists_or,exists_eq_left,true_and]
    constructor
    · intro found
      rcases found with ⟨same,row⟩ | ⟨rfl,rfl⟩
      · exact ⟨same,.inl row⟩
      · exact ⟨rfl,.inr ⟨rfl,rfl,rfl⟩⟩
    · intro found
      obtain ⟨same,row | ⟨here,size',digest'⟩⟩ := found
      · exact .inl ⟨same,row⟩
      · have here' : i = index := by omega
        exact .inr ⟨here',expectedIff.mpr ⟨same.trans here',by omega,digest'.symm⟩⟩
  · rw [frame]
    exact mirrors.row
  · rw [frame]
    exact mirrors.uncounted
  · intro counted
    rw [frame,mirrors.uncounted unsealed] at counted
    cases counted
  · simp only [Table.memInsert inserted,or_and_right,exists_or,exists_eq_left,true_and]
    cases held
    · simpa [Kept.record] using mirrors.held i
    · simp only [↓reduceIte,Kept.hold,Kept.record,Finset.mem_insert,mirrors.held,and_true]
      rw [or_comm]
      refine or_congr Iff.rfl ?_
      omega

theorem mirrorsHold (mirrors : Mirrors t x k) {index} (fits : asI32 index = index)
    (inside : index ∈ k.manifest.chunks) : Mirrors (t.setHeld x.artifactId (asI32 index)) x (k.hold index) := by
  have member : ∀ c, c ∈ (t.setHeld x.artifactId (asI32 index)).chunks ↔
      (c ∈ t.chunks ∧ c.key ≠ (x.artifactId,(index : Int))) ∨
        ∃ old ∈ t.chunks, old.key = (x.artifactId,(index : Int)) ∧ c = { old with held := true } := by
    intro c
    rw [← fits]
    exact Table.memUpdate (by exact fun _ => rfl)
  refine ⟨mirrors.artifactId,mirrors.algorithm,mirrors.chunkSize,fun i e => ?_,mirrors.row,mirrors.uncounted,
    mirrors.counted,fun i => ?_⟩
  · rw [Kept.hold,mirrors.recorded]
    refine and_congr_right fun _ => ?_
    constructor
    · intro found
      obtain ⟨c,mem,owned,at_,facts⟩ := found
      by_cases named : c.key = (x.artifactId,(index : Int))
      · exact ⟨_,(member _).mpr (.inr ⟨c,mem,named,rfl⟩),owned,at_,facts⟩
      · exact ⟨c,(member c).mpr (.inl ⟨mem,named⟩),owned,at_,facts⟩
    · intro found
      obtain ⟨c,mem,owned,at_,facts⟩ := found
      rcases (member c).mp mem with ⟨old,_⟩ | ⟨old,present,_,rfl⟩
      · exact ⟨c,old,owned,at_,facts⟩
      · exact ⟨old,present,owned,at_,facts⟩
  · rw [Kept.hold,Finset.mem_insert,mirrors.held]
    constructor
    · intro found
      rcases found with rfl | ⟨c,mem,owned,at_,held⟩
      · obtain ⟨c,mem,owned,at_⟩ := mirrorsRecorded mirrors inside
        exact ⟨_,(member _).mpr (.inr ⟨c,mem,Prod.ext owned at_,rfl⟩),owned,at_,rfl⟩
      · by_cases named : c.key = (x.artifactId,(index : Int))
        · exact ⟨_,(member _).mpr (.inr ⟨c,mem,named,rfl⟩),owned,at_,rfl⟩
        · exact ⟨c,(member c).mpr (.inl ⟨mem,named⟩),owned,at_,held⟩
    · intro found
      obtain ⟨c,mem,owned,at_,held⟩ := found
      rcases (member c).mp mem with ⟨old,_⟩ | ⟨old,present,named,rfl⟩
      · exact .inr ⟨c,old,owned,at_,held⟩
      · have here : (i : Int) = index := at_.symm.trans (congrArg Prod.snd named)
        exact .inl (by omega)

theorem mirrorsSeal (mirrors : Mirrors t x k) {count digest sealed}
    (fits : asI32 count = count) (seals : k.manifest.seal count digest.bytes = .ok (.sealed sealed)) :
    Mirrors (t.setSealed x.artifactId count digest) x (k.seal count digest.bytes) := by
  have becomes : k.seal count digest.bytes = { k with manifest := sealed } := by
    simp only [Kept.seal,seals]
  obtain ⟨sealable,stored,bytes,rfl⟩ := sealSealed seals
  have same : stored = digest := by
    cases stored
    cases digest
    cases bytes
    rfl
  subst same
  rw [becomes]
  refine ⟨mirrors.artifactId,mirrors.algorithm,mirrors.chunkSize,mirrors.recorded,?_,nofun,fun n counted => ?_,
    mirrors.held⟩
  · obtain ⟨m,mem,owned,_⟩ := mirrors.row
    refine ⟨_,(Table.memUpdate (by exact fun _ => rfl)).mpr (.inr ⟨m,mem,owned,rfl⟩),owned,rfl,?_,rfl⟩
    rw [fits]
    rfl
  · cases Option.some.inj counted
    have range := asI32Range count
    exact ⟨by omega,sealable.size,sealable.contiguous⟩

theorem touchesInsert {row} (ok : t.insertChunk? row = some t') : Touches t t' row.artifactId := by
  have step := chunkAddedStep ok
  exact ⟨step.transfers,step.elsewhere,fun m _ => by rw [step.manifests]⟩

theorem touchesHeld (artifactId : ArtifactId) (index : Int) :
    Touches t (t.setHeld artifactId index) artifactId := by
  have step := chunkHeldStep t artifactId index
  exact ⟨rfl,step.elsewhere,fun m _ => Iff.rfl⟩

theorem touchesSealed (artifactId : ArtifactId) (count : Nat) (digest : Digest) :
    Touches t (t.setSealed artifactId count digest) artifactId := by
  refine ⟨rfl,fun c _ => Iff.rfl,fun m other => ?_⟩
  rw [show m ∈ (t.setSealed artifactId count digest).manifests ↔ _ from Table.memUpdate (by exact fun _ => rfl)]
  constructor
  · intro found
    rcases found with ⟨old,_⟩ | ⟨old,_,named,rfl⟩
    · exact old
    · exact absurd named other
  · exact fun mem => .inl ⟨mem,other⟩

end Rows

structure Repository.Mirrored (s : Repository) : Prop where
  narrow : Narrow s.store.transfer
  kept : ∀ x ∈ s.store.transfer.transfers, ∃ k, s.kept x.id = some k ∧ Mirrors s.store.transfer x k
  unknown : ∀ id, (∀ x ∈ s.store.transfer.transfers, x.id ≠ id) → s.kept id = none

section Steps
variable {s : Repository} {s' : Store}

theorem mirroredLoad (mirrored : s.Mirrored) {transferId facts}
    (loaded : s.store.transfer.loadLockedFacts transferId = .ok (some facts)) :
    facts.transfer ∈ s.store.transfer.transfers ∧ facts.transfer.id = transferId ∧
      facts.artifact.id = facts.transfer.artifactId ∧ ∃ k, s.kept transferId = some k ∧
        Mirrors s.store.transfer facts.transfer k ∧ facts.manifest = k.manifest ∧
        facts.heldChunkIndices.toFinset = k.held := by
  obtain ⟨row,locked⟩ := TransferRows.loadLockedFactsOk loaded
  obtain ⟨k,known,mirrors⟩ := mirrored.kept _ locked.transfer
  obtain ⟨facts',again,_,manifest,held⟩ := mirrorsLoad s.store.transferValid mirrored.narrow locked.transfer mirrors
  rw [locked.named] at known again
  cases Option.some.inj (Except.ok.inj (loaded.symm.trans again))
  exact ⟨locked.transfer,locked.named,locked.owned,k,known,mirrors,manifest,held⟩

theorem mirroredTouched (mirrored : s.Mirrored) {x} (mem : x ∈ s.store.transfer.transfers) {k}
    (known : s.kept x.id = some k) {f} (touches : Touches s.store.transfer s'.transfer x.artifactId)
    (narrow : Narrow s'.transfer) (mirrors : Mirrors s'.transfer x (f k)) :
    Repository.Mirrored ⟨s',s.change x.id f⟩ := by
  refine ⟨narrow,fun y memY => ?_,fun id absent => ?_⟩
  · rw [touches.transfers] at memY
    by_cases same : y.id = x.id
    · cases Table.eqOfKey memY mem same
      exact ⟨f k,by simp [Repository.change,known],mirrors⟩
    · obtain ⟨k',known',mirrors'⟩ := mirrored.kept y memY
      have other : y.artifactId ≠ x.artifactId := by
        intro equal
        exact same (congrArg Transfer.id (s.store.transferValid.artifactUnique y memY x mem equal))
      refine ⟨k',by simp [Repository.change,same,known'],?_⟩
      exact mirrorsSame mirrors' (fun c owned => touches.chunks c (owned ▸ other))
        fun m owned => touches.manifests m (owned ▸ other)
  · rw [touches.transfers] at absent
    have other : id ≠ x.id := fun same => absent x mem same.symm
    simp only [Repository.change,if_neg other]
    exact mirrored.unknown id absent

theorem mirroredFrame (mirrored : s.Mirrored) (chunks : s'.transfer.chunks = s.store.transfer.chunks)
    (manifests : s'.transfer.manifests = s.store.transfer.manifests)
    (back : ∀ x' ∈ s'.transfer.transfers, ∃ x ∈ s.store.transfer.transfers, x'.id = x.id ∧
      x'.artifactId = x.artifactId ∧ x'.digestAlgorithm = x.digestAlgorithm ∧ x'.chunkSize = x.chunkSize)
    (forward : ∀ x ∈ s.store.transfer.transfers, ∃ x' ∈ s'.transfer.transfers, x'.id = x.id) :
    Repository.Mirrored ⟨s',s.kept⟩ := by
  refine ⟨?_,fun x' mem => ?_,fun id absent => mirrored.unknown id fun x mem same => ?_⟩
  · unfold Narrow
    rw [chunks]
    exact mirrored.narrow
  · obtain ⟨x,old,named,artifactId,algorithm,chunkSize⟩ := back x' mem
    obtain ⟨k,known,mirrors⟩ := mirrored.kept x old
    refine ⟨k,named ▸ known,mirrorsRebound ?_ artifactId algorithm chunkSize⟩
    exact mirrorsSame mirrors (fun c _ => by rw [chunks]) fun m _ => by rw [manifests]
  · obtain ⟨x',present,named⟩ := forward x mem
    exact absurd (named.trans same) (absent x' present)

theorem mirroredRows (mirrored : s.Mirrored) (rows : s'.transfer = s.store.transfer) :
    Repository.Mirrored ⟨s',s.kept⟩ := by
  refine mirroredFrame mirrored (by rw [rows]) (by rw [rows]) (fun x mem => ?_) fun x mem => ?_
  · exact ⟨x,rows ▸ mem,rfl,rfl,rfl,rfl⟩
  · exact ⟨x,rows ▸ mem,rfl⟩

theorem mirroredArtifact (mirrored : s.Mirrored) {artifactId state}
    (rows : s'.transfer = s.store.transfer.setArtifactState artifactId state) :
    Repository.Mirrored ⟨s',s.kept⟩ := by
  refine mirroredFrame mirrored (by rw [rows]; rfl) (by rw [rows]; rfl) (fun x mem => ?_) fun x mem => ?_
  · rw [rows] at mem
    exact ⟨x,mem,rfl,rfl,rfl,rfl⟩
  · rw [rows]
    exact ⟨x,mem,rfl⟩

theorem mirroredBinding (mirrored : s.Mirrored) {transferId attemptId}
    (rows : s'.transfer = s.store.transfer.setAttemptBinding transferId attemptId) :
    Repository.Mirrored ⟨s',s.kept⟩ := by
  have member : ∀ x, x ∈ s'.transfer.transfers ↔ (x ∈ s.store.transfer.transfers ∧ x.id ≠ transferId) ∨
      ∃ old ∈ s.store.transfer.transfers, old.id = transferId ∧ x = { old with attemptId := some attemptId } := by
    intro x
    rw [rows]
    exact Table.memUpdate (by exact fun _ => rfl)
  refine mirroredFrame mirrored (by rw [rows]; rfl) (by rw [rows]; rfl) (fun x mem => ?_) fun x mem => ?_
  · rcases (member x).mp mem with ⟨old,_⟩ | ⟨old,present,_,rfl⟩
    · exact ⟨x,old,rfl,rfl,rfl,rfl⟩
    · exact ⟨old,present,rfl,rfl,rfl,rfl⟩
  · by_cases named : x.id = transferId
    · exact ⟨_,(member _).mpr (.inr ⟨x,mem,named,rfl⟩),rfl⟩
    · exact ⟨x,(member x).mpr (.inl ⟨mem,named⟩),rfl⟩

theorem mirroredCreated (mirrored : s.Mirrored) {id artifactId endpointId jobId stepId direction algorithm chunkSize provenance}
    (ok : insertContext? s.store.transfer (createTransferContext id artifactId endpointId jobId stepId direction
      algorithm chunkSize provenance) = some s'.transfer) :
    Repository.Mirrored ⟨s',fun other =>
      if other = id then some ⟨.new artifactId algorithm chunkSize,∅⟩ else s.kept other⟩ := by
  obtain ⟨artifacts,transfers,manifests,chunks⟩ := insertContextSome ok
  have valid := s.store.transferValid
  have noChunk : ∀ c ∈ s.store.transfer.chunks, c.artifactId ≠ artifactId := by
    intro c mem same
    obtain ⟨a,present,named⟩ := valid.chunkArtifact c mem
    exact Table.insertAbsent artifacts present (named.trans same)
  refine ⟨?_,fun x mem => ?_,fun other absent => ?_⟩
  · unfold Narrow
    rw [chunks]
    exact mirrored.narrow
  · rcases (Table.memInsert transfers).mp mem with old | rfl
    · have named : x.id ≠ id := Table.insertAbsent transfers old
      obtain ⟨k,known,mirrors⟩ := mirrored.kept x old
      refine ⟨k,by simp [named,known],mirrorsSame mirrors (fun c _ => by rw [chunks]) fun m owned => ?_⟩
      have other : x.artifactId ≠ artifactId := by
        intro same
        obtain ⟨a,present,named⟩ := valid.transferArtifact x old
        exact Table.insertAbsent artifacts present (named.trans same)
      rw [Table.memInsert manifests]
      refine or_iff_left fun new => other ?_
      rw [← owned,new]
      rfl
    · refine ⟨_,if_pos rfl,rfl,rfl,rfl,fun i e => ?_,?_,fun _ => rfl,nofun,fun i => ?_⟩
      · simp only [ChunkManifest.new,Std.ExtTreeMap.getElem?_empty,reduceCtorEq,false_iff]
        intro found
        obtain ⟨_,c,present,owned,_⟩ := found
        exact noChunk c (chunks ▸ present) owned
      · exact ⟨_,(Table.memInsert manifests).mpr (.inr rfl),rfl,rfl,rfl,rfl⟩
      · simp only [Finset.notMem_empty,false_iff]
        intro found
        obtain ⟨c,present,owned,_⟩ := found
        exact noChunk c (chunks ▸ present) owned
  · have apart : other ≠ id := fun same => absent _ ((Table.memInsert transfers).mpr (.inr rfl)) same.symm
    simp only [if_neg apart]
    exact mirrored.unknown other fun x mem => absent x ((Table.memInsert transfers).mpr (.inl mem))

theorem createTransferContextEnds (s : Store) (endpointExists : Bool) (context : TransferContext) :
    (∃ e, s.createTransferContext endpointExists context = (s,.error e)) ∨
      ∃ s', s.createTransferContext endpointExists context = (s',.ok ()) ∧
        insertContext? s.transfer context = some s'.transfer := by
  unfold Store.createTransferContext
  simp only
  repeat' first | exact .inl ⟨_,rfl⟩ | split
  rename_i s' committed
  obtain ⟨rows,inserted,committed⟩ := Option.bind_eq_some_iff.mp committed
  exact .inr ⟨s',rfl,by rw [inserted,(commitSome committed).2]⟩

theorem commitTransferDispatchRows (s : Store) (jobId : JobId) (stepId : JobStepId) (transferId : TransferId)
    (attemptId : AttemptId) (actionId : ActionId) :
    (s.commitTransferDispatch jobId stepId transferId attemptId actionId).1.transfer = s.transfer ∨
      ∃ bound, (s.commitTransferDispatch jobId stepId transferId attemptId actionId).1.transfer =
        s.transfer.setAttemptBinding transferId bound := by
  unfold Store.commitTransferDispatch
  split
  · exact .inl rfl
  split
  · exact .inl rfl
  · exact .inl rfl
  split
  · exact .inl (revertStepTransfer _ _)
  split
  · exact .inl rfl
  rename_i s' committed
  obtain ⟨_,_,committed⟩ := Option.bind_eq_some_iff.mp committed
  exact .inr ⟨_,(commitSome committed).2⟩

theorem mirroredJob (mirrored : s.Mirrored) (op : JobOp) : (s.after (.job op)).Mirrored := by
  cases op with
  | createTransferContext endpointExists id artifactId endpointId jobId stepId direction algorithm chunkSize provenance =>
    simp only [Repository.after,Store.after,Repository.created]
    rcases createTransferContextEnds s.store endpointExists (createTransferContext id artifactId endpointId jobId
      stepId direction algorithm chunkSize provenance) with ⟨e,same⟩ | ⟨s',same,inserted⟩
    · rw [same]
      exact mirroredRows mirrored rfl
    · rw [same]
      exact mirroredCreated mirrored inserted
  | commitTransferDispatch jobId stepId transferId attemptId actionId =>
    rcases commitTransferDispatchRows s.store jobId stepId transferId attemptId actionId with kept | ⟨bound,rows⟩
    · exact mirroredRows mirrored kept
    · exact mirroredBinding mirrored rows
  | _ => exact mirroredRows mirrored (afterTransfer rfl)

theorem mirroredEvidence (mirrored : s.Mirrored) (actionId : ActionId) (endpointId : EndpointId)
    (decide : TransferEvidenceFacts → TransferEvidenceDecision) :
    (s.after (.evidence actionId endpointId decide)).Mirrored := by
  have ends := transferEvidenceEnds s.store actionId endpointId decide
  show Repository.Mirrored ⟨(s.store.applyTransferTerminalEvidence actionId endpointId decide).1,s.kept⟩
  generalize ended : (s.store.applyTransferTerminalEvidence actionId endpointId decide).map id _ = result at ends
  have first : (s.store.applyTransferTerminalEvidence actionId endpointId decide).1 = result.1 :=
    congrArg Prod.fst ended
  rw [first]
  cases ends with
  | kept => exact mirroredRows mirrored rfl
  | applied locked decided ok transfer =>
    split at transfer
    · exact mirroredArtifact mirrored transfer
    · exact mirroredRows mirrored transfer

/- What an accepted chunk was decided on. -/
structure AcceptedOn (s : Store) (transferId : TransferId) (index : Nat) (digestWire : String) (size : Nat)
    (facts : TransferLockedFacts) (digest : Digest) : Prop where
  loaded : s.transfer.loadLockedFacts transferId = .ok (some facts)
  small : index < 2 ^ 32
  parsed : Digest.parseWireValue .sha256 digestWire = .ok digest
  bounded : size ≤ facts.manifest.chunkSize.bytes

theorem acceptedOn {s transferId index digestWire size}
    (accepted : (s.acceptChunk transferId index digestWire size).2 = .ok .committed ∨
      (s.acceptChunk transferId index digestWire size).2 = .ok .alreadyCommitted) :
    ∃ facts digest, AcceptedOn s transferId index digestWire size facts digest := by
  unfold Store.acceptChunk at accepted
  split at accepted
  · simp at accepted
  rename_i small
  unfold Store.commitChunkAcceptance at accepted
  cases loaded : s.transfer.loadLockedFacts transferId with
  | error e => simp [loaded] at accepted
  | ok facts? =>
    cases facts? with
    | none => simp [loaded] at accepted
    | some facts =>
      cases decided : decideChunkAcceptance index size digestWire facts
          (facts.transfer.attemptId.bind s.workflow.attempts.find?) with
      | rejectConflict => simp [loaded,decided] at accepted
      | rejectNotContinuable => simp [loaded,decided] at accepted
      | failClosed => simp [loaded,decided] at accepted
      | commit outcome =>
        obtain ⟨_,_,bounded,digest,parsed,_⟩ := chunkAccepted decided
        refine ⟨facts,digest,loaded,by omega,?_,bounded⟩
        cases facts.manifest.digestAlgorithm
        exact parsed

/- A command that leaves the rows as they are. -/
theorem mirroredSame (mirrored : s.Mirrored) (rows : s'.transfer = s.store.transfer) {transferId}
    {ε α : Type} {f} {answer : Except ε α}
    (unchanged : ∀ commit, answer = .ok commit → ∀ k, s.kept transferId = some k → f commit k = k) :
    Repository.Mirrored ⟨s',s.answered transferId f answer⟩ := by
  have same : s.answered transferId f answer = s.kept := by
    cases answer with
    | error e => rfl
    | ok commit =>
      funext id
      simp only [Repository.answered,Repository.change]
      split
      · rename_i here
        subst here
        cases known : s.kept id with
        | none => rfl
        | some k => exact congrArg some (unchanged commit rfl k known)
      · rfl
  rw [same]
  exact mirroredRows mirrored rows

theorem narrowInserted {t t'} (narrow : Narrow t) {row} (ok : t.insertChunk? row = some t')
    (index : row.chunkIndex < 2 ^ 31) (size : row.size < 2 ^ 31) : Narrow t' := by
  obtain ⟨chunks,inserted,same⟩ := Option.map_eq_some_iff.mp ok
  subst same
  intro c mem
  rcases (Table.memInsert inserted).mp mem with old | rfl
  · exact narrow c old
  · exact ⟨index,size⟩

theorem narrowHeld {t} (narrow : Narrow t) (artifactId : ArtifactId) (index : Int) :
    Narrow (t.setHeld artifactId index) := by
  intro c mem
  rcases (Table.memUpdate (by exact fun _ => rfl)).mp mem with ⟨old,_⟩ | ⟨old,present,_,rfl⟩
  · exact narrow c old
  · exact narrow old present

/- A new chunk row, whichever transaction inserts it. -/
theorem mirroredInserted (mirrored : s.Mirrored) {transferId facts}
    (loaded : s.store.transfer.loadLockedFacts transferId = .ok (some facts))
    (unsealed : facts.manifest.sealed = false) {index size} (small : index < 2 ^ 32) (sizeSmall : size < 2 ^ 32)
    {digest : Digest} {held}
    (ok : s.store.transfer.insertChunk? ⟨facts.artifact.id,asI32 index,asI32 size,digest.bytes,held⟩ =
      some s'.transfer) {f}
    (becomes : f = fun k => if held then (k.record ⟨index,size,digest.bytes⟩).hold index
      else k.record ⟨index,size,digest.bytes⟩) : Repository.Mirrored ⟨s',s.change transferId f⟩ := by
  obtain ⟨mem,named,owned,k,known,mirrors,manifest,_⟩ := mirroredLoad mirrored loaded
  obtain ⟨chunks,inserted,same⟩ := Option.map_eq_some_iff.mp ok
  let row : ChunkRow := ⟨facts.artifact.id,asI32 index,asI32 size,digest.bytes,held⟩
  have present : row ∈ s'.transfer.chunks := by
    rw [← same]
    exact (Table.memInsert inserted).mpr (.inr rfl)
  have nonneg := s'.transferValid.chunkIndexNonneg row present
  have positive := s'.transferValid.chunkSize row present
  simp only [row] at nonneg positive
  have fits := (asI32Exact (by omega) nonneg).1
  have sizeFits := (asI32Exact (by omega) positive.le).1
  have range := asI32Range index
  have sizeRange := asI32Range size
  have narrow := narrowInserted mirrored.narrow ok (by dsimp only; omega) (by dsimp only; omega)
  have touches := touchesInsert ok
  rw [owned] at ok touches
  subst named becomes
  exact mirroredTouched mirrored mem known touches narrow
    (mirrorsInsert mirrors (manifest ▸ unsealed) fits sizeFits ok)

/- A recorded chunk that becomes held. -/
theorem mirroredHeld (mirrored : s.Mirrored) {transferId facts}
    (loaded : s.store.transfer.loadLockedFacts transferId = .ok (some facts)) {index}
    (inside : index ∈ facts.manifest.chunks)
    (rows : s'.transfer = s.store.transfer.setHeld facts.artifact.id (asI32 index)) {f}
    (becomes : ∀ k, index ∈ k.manifest.chunks → f k = k.hold index) :
    Repository.Mirrored ⟨s',s.change transferId f⟩ := by
  obtain ⟨mem,named,owned,k,known,mirrors,manifest,_⟩ := mirroredLoad mirrored loaded
  rw [manifest] at inside
  obtain ⟨c,present,_,at_⟩ := mirrorsRecorded mirrors inside
  have range := mirrored.narrow c present
  have fits : asI32 index = index := asI32Small (by omega)
  subst named
  rw [owned] at rows
  refine mirroredTouched mirrored mem known ?_ ?_ ?_
  · rw [rows]
    exact touchesHeld _ _
  · rw [rows]
    exact narrowHeld mirrored.narrow _ _
  · rw [rows,becomes k inside]
    exact mirrorsHold mirrors fits inside

theorem recordInside {k : Kept} {entry} (inside : entry.index ∈ k.manifest.chunks) : k.record entry = k := by
  obtain ⟨existing,found⟩ := Option.isSome_iff_exists.mp (Std.ExtTreeMap.mem_iff_isSome_getElem?.mp inside)
  have same : k.manifest.record entry = k.manifest := by
    refine ChunkManifest.ext recordFrame fun i => ?_
    rw [recordChunks]
    by_cases here : i = entry.index
    · simp [here,found]
    · simp [here]
  rw [Kept.record,same]

theorem holdInside {k : Kept} {index} (inside : index ∈ k.held) : k.hold index = k := by
  rw [Kept.hold,Finset.insert_eq_of_mem inside]

theorem mirroredAccept (mirrored : s.Mirrored) (transferId : TransferId) (index : Nat) (digestWire : String) (size : Nat) :
    (s.after (.acceptChunk transferId index digestWire size)).Mirrored := by
  have ends := @acceptChunkEnds s.store transferId index digestWire size
  have accepted := @acceptedOn s.store transferId index digestWire size
  simp only [Repository.after]
  generalize s.store.acceptChunk transferId index digestWire size = result at ends accepted ⊢
  cases ends with
  | refused uncommitted unheld =>
    refine mirroredSame mirrored rfl fun commit same k _ => ?_
    cases commit with
    | committed => exact absurd same uncommitted
    | alreadyCommitted => exact absurd same unheld
    | _ => rfl
  | @added facts s' digest loaded incomplete unsealed positive bounded small parsed workflow rows =>
    have wide := facts.manifest.chunkSize.fits
    refine mirroredInserted mirrored loaded unsealed small (by omega) rows ?_
    cases facts.manifest.digestAlgorithm
    funext k
    simp [Repository.acceptedChunk,parsed]
  | @reheld facts s' loaded incomplete recorded workflow rows =>
    obtain ⟨_,digest,on⟩ := accepted (.inl rfl)
    refine mirroredHeld mirrored loaded recorded rows fun k inside => ?_
    simp only [Repository.acceptedChunk,on.parsed]
    rw [recordInside inside]
  | @already facts loaded held =>
    refine mirroredSame mirrored rfl fun commit same k known => ?_
    cases Except.ok.inj same
    obtain ⟨_,digest,on⟩ := accepted (.inr rfl)
    obtain ⟨_,_,_,k',known',mirrors,_,heldIn⟩ := mirroredLoad mirrored loaded
    cases Option.some.inj (known.symm.trans known')
    have inside : index ∈ k.held := by
      rw [← heldIn]
      exact List.mem_toFinset.mpr held
    have recorded := mirrorsHeldRecorded s.store.transferValid mirrors inside
    simp only [Repository.acceptedChunk,on.parsed]
    rw [recordInside recorded,holdInside inside]

/- A manifest row that becomes sealed, whichever transaction seals it. -/
theorem mirroredSealed (mirrored : s.Mirrored) {transferId facts}
    (loaded : s.store.transfer.loadLockedFacts transferId = .ok (some facts)) {count digest sealed}
    (small : count < 2 ^ 32)
    (seals : facts.manifest.seal count digest.bytes = .ok (.sealed sealed))
    (transfers : s'.transfer.transfers = s.store.transfer.transfers)
    (chunks : s'.transfer.chunks = s.store.transfer.chunks)
    (manifests : s'.transfer.manifests = (s.store.transfer.setSealed facts.artifact.id count digest).manifests) :
    Repository.Mirrored ⟨s',s.change transferId fun k => k.seal count digest.bytes⟩ := by
  obtain ⟨mem,named,owned,k,known,mirrors,manifest,_⟩ := mirroredLoad mirrored loaded
  rw [owned] at manifests
  have fits : asI32 count = count := by
    obtain ⟨m,stored,ownedBy,_⟩ := mirrors.row
    let row : ManifestRow :=
      { m with sealed := true, chunkCount := some (asI32 count), artifactDigest := some digest.bytes }
    have present : row ∈ s'.transfer.manifests := by
      rw [manifests]
      exact (Table.memUpdate (by exact fun _ => rfl)).mpr (.inr ⟨m,stored,ownedBy,rfl⟩)
    exact (asI32Exact (by omega) (s'.transferValid.manifestCount row present (asI32 count) rfl)).1
  have touches := @touchesSealed s.store.transfer facts.transfer.artifactId count digest
  subst named
  refine mirroredTouched mirrored mem known ⟨transfers,fun c _ => by rw [chunks],fun m other => ?_⟩ ?_ ?_
  · rw [manifests]
    exact touches.manifests m other
  · unfold Narrow
    rw [chunks]
    exact mirrored.narrow
  · refine mirrorsSame (mirrorsSeal mirrors fits (manifest ▸ seals)) (fun c _ => ?_) fun m _ => ?_
    · rw [chunks]
      rfl
    · rw [manifests]

theorem sealsOf {manifest count} {digest : Digest} (sealable : Sealable manifest count) :
    ∃ sealed, manifest.seal count digest.bytes = .ok (.sealed sealed) := by
  have full : (List.range count).all (fun i => manifest.chunks.contains i) = true := by
    simpa [List.all_eq_true] using sealable.contiguous
  simp only [ChunkManifest.seal,digestNewSized digest.sized,sealable.unsealed,sealable.size,full]
  simp

theorem mirroredSealRequest (mirrored : s.Mirrored) (transferId : TransferId) (binding : CapabilityBinding)
    (endpoint : Option Bool) (chunkCount : Nat) (digestWire : String) (replayAccepted : Bool) :
    (s.after (.sealManifest transferId binding endpoint chunkCount digestWire replayAccepted)).Mirrored := by
  have ends := @sealManifestEnds s.store transferId binding endpoint chunkCount digestWire replayAccepted
  simp only [Repository.after]
  generalize s.store.sealManifest transferId binding endpoint chunkCount digestWire replayAccepted = result at ends ⊢
  cases ends with
  | refused unsealed =>
    refine mirroredSame mirrored rfl fun commit same k _ => ?_
    have none := unsealed commit same
    cases commit with
    | sealed facts => cases none
    | _ => rfl
  | already loaded =>
    refine mirroredSame mirrored rfl fun commit same k _ => ?_
    cases Except.ok.inj same
    rfl
  | @sealed facts s' digest loaded incomplete small sealable held workflow rows =>
    obtain ⟨sealed,seals⟩ := @sealsOf facts.manifest chunkCount digest sealable
    exact mirroredSealed mirrored loaded small seals (by rw [rows]; rfl) (by rw [rows]; rfl) (by rw [rows]; rfl)

theorem mirroredVerify (mirrored : s.Mirrored) (input : ArtifactVerificationInput) :
    (s.after (.verifyArtifact input)).Mirrored := by
  have ends := @verifyArtifactEnds s.store input
  simp only [Repository.after]
  generalize s.store.verifyArtifact input = result at ends ⊢
  cases ends with
  | refused => exact mirrored
  | committed _ _ _ _ _ _ _ rows => exact mirroredArtifact mirrored rows

/- The row a new chunk is written as is the one the domain added. -/
theorem recordRowsOk {s : Store} {facts index size digestBytes outcome answer rows}
    (decides : facts.manifest.recordExpectedChunk index size digestBytes = .ok outcome)
    (writes : s.recordRows facts outcome = .ok (rows,answer)) :
    (index ∈ facts.manifest.chunks ∧ rows = some s.transfer) ∨
      facts.manifest.sealed = false ∧ ∃ digest : Digest, digest.bytes = digestBytes ∧
        rows = s.transfer.insertChunk? ⟨facts.artifact.id,asI32 index,asI32 size,digest.bytes,false⟩ := by
  cases outcome with
  | alreadyRecorded =>
    cases Except.ok.inj writes
    exact .inl ⟨recordAlready decides,rfl⟩
  | added manifest =>
    obtain ⟨unsealed,absent,digest,bytes,rfl⟩ := recordAdded decides
    refine .inr ⟨unsealed,digest,bytes,?_⟩
    simp only [Store.recordRows] at writes
    split at writes
    · cases writes
    rename_i other chosen
    have missing := List.find?_some chosen
    have inside := Std.ExtTreeMap.mem_keys.mp (List.mem_of_find?_eq_some chosen)
    have same : other = index := by
      by_contra apart
      rw [Std.ExtTreeMap.mem_insert] at inside
      have old : other ∈ facts.manifest.chunks := by
        rcases inside with equal | old
        · exact absurd (compare_eq_iff_eq.mp equal).symm apart
        · exact old
      rw [Std.ExtTreeMap.mem_iff_isSome_getElem?] at old
      cases found : facts.manifest.chunks[other]? <;> simp_all
    subst same
    simp only [Std.ExtTreeMap.getElem?_insert_self] at writes
    exact (congrArg Prod.fst (Except.ok.inj writes)).symm

theorem mirroredRecord (mirrored : s.Mirrored) (transferId : TransferId) (index size : UInt32)
    (digestBytes : List UInt8) : (s.after (.recordExpectedChunk transferId index size digestBytes)).Mirrored := by
  have small := index.toNat_lt
  have sizeSmall := size.toNat_lt
  have ends := commandEnds s.store transferId
    (fun facts => facts.manifest.recordExpectedChunk index.toNat size.toNat digestBytes) s.store.recordRows
  simp only [Repository.after,Store.recordExpectedChunk]
  generalize s.store.command transferId _ s.store.recordRows = result at ends ⊢
  cases ends with
  | failed e => exact mirrored
  | @done facts decided answer s' loaded decides writes workflow =>
    rcases recordRowsOk decides writes with ⟨inside,rows⟩ | ⟨unsealed,digest,bytes,rows⟩
    · refine mirroredSame mirrored (Option.some.inj rows) fun _ _ k known => ?_
      obtain ⟨_,_,_,k',known',_,manifest,_⟩ := mirroredLoad mirrored loaded
      cases Option.some.inj (known.symm.trans known')
      exact recordInside (manifest ▸ inside)
    · refine mirroredInserted mirrored loaded unsealed (by omega) (by omega) rows.symm ?_
      rw [bytes]
      rfl

theorem mirroredAcceptVerified (mirrored : s.Mirrored) (transferId : TransferId) (index : UInt32)
    (verifiedDigestBytes : List UInt8) :
    (s.after (.acceptVerifiedChunk transferId index verifiedDigestBytes)).Mirrored := by
  have ends := commandEnds s.store transferId
    (fun facts => validateVerifiedChunk facts.manifest index.toNat verifiedDigestBytes) fun facts _ =>
      if index.toNat ∈ facts.heldChunkIndices then .ok (some s.store.transfer,AcceptChunkOutcome.alreadyHeld)
      else .ok (some (s.store.transfer.setHeld facts.artifact.id (asI32 index.toNat)),.accepted)
  simp only [Repository.after,Store.acceptVerifiedChunk]
  generalize s.store.command transferId _ _ = result at ends ⊢
  cases ends with
  | failed e => exact mirrored
  | @done facts decided answer s' loaded decides writes workflow =>
    split at writes
    · rename_i held
      obtain ⟨rows,_⟩ := Prod.mk.inj (Except.ok.inj writes)
      refine mirroredSame mirrored (Option.some.inj rows).symm fun _ _ k known => holdInside ?_
      obtain ⟨_,_,_,k',known',_,_,heldIn⟩ := mirroredLoad mirrored loaded
      cases Option.some.inj (known.symm.trans known')
      rw [← heldIn]
      exact List.mem_toFinset.mpr held
    · obtain ⟨rows,_⟩ := Prod.mk.inj (Except.ok.inj writes)
      have inside : index.toNat ∈ facts.manifest.chunks := by
        unfold validateVerifiedChunk at decides
        split at decides
        · cases decides
        rename_i expected found
        exact Std.ExtTreeMap.mem_iff_isSome_getElem?.mpr (by rw [found]; rfl)
      exact mirroredHeld mirrored loaded inside (Option.some.inj rows).symm fun _ _ => rfl

theorem mirroredSealExpected (mirrored : s.Mirrored) (transferId : TransferId) (chunkCount : UInt32)
    (digestBytes : List UInt8) : (s.after (.sealExpectedManifest transferId chunkCount digestBytes)).Mirrored := by
  have small := chunkCount.toNat_lt
  have ends := commandEnds s.store transferId (fun facts => facts.manifest.seal chunkCount.toNat digestBytes)
    s.store.sealRows
  simp only [Repository.after,Store.sealExpectedManifest]
  generalize s.store.command transferId _ s.store.sealRows = result at ends ⊢
  cases ends with
  | failed e => exact mirrored
  | @done facts decided answer s' loaded decides writes workflow =>
    cases decided with
    | alreadySealed =>
      obtain ⟨rows,_⟩ := Prod.mk.inj (Except.ok.inj writes)
      refine mirroredSame mirrored (Option.some.inj rows).symm fun _ _ k known => ?_
      obtain ⟨_,_,_,k',known',_,manifest,_⟩ := mirroredLoad mirrored loaded
      cases Option.some.inj (known.symm.trans known')
      rw [manifest] at decides
      simp only [Kept.seal,decides]
    | sealed manifest =>
      obtain ⟨sealable,digest,bytes,rfl⟩ := sealSealed decides
      obtain ⟨rows,_⟩ := Prod.mk.inj (Except.ok.inj writes)
      cases bytes
      have written := (Option.some.inj rows).symm
      exact mirroredSealed mirrored loaded (by omega) decides (by rw [written]; rfl) (by rw [written]; rfl)
        (by rw [written])

theorem mirroredTransition (mirrored : s.Mirrored) (transferId : TransferId)
    (decide : TransferLockedFacts → Except ArtifactTransitionError Artifact) :
    Repository.Mirrored ⟨(s.store.commitArtifactTransition transferId decide).1,s.kept⟩ := by
  have ends := commandEnds s.store transferId decide fun _ updated =>
    .ok (some (s.store.transfer.setArtifactState updated.id updated.state),updated)
  unfold Store.commitArtifactTransition
  generalize s.store.command transferId decide _ = result at ends ⊢
  cases ends with
  | failed e => exact mirrored
  | done loaded decides writes workflow =>
    obtain ⟨rows,_⟩ := Prod.mk.inj (Except.ok.inj writes)
    exact mirroredArtifact mirrored (Option.some.inj rows).symm

theorem mirroredBind (mirrored : s.Mirrored) (transferId : TransferId) (attempt : Attempt) :
    (s.after (.bindAttempt transferId attempt)).Mirrored := by
  simp only [Repository.after,Store.bindAttempt]
  generalize ended : s.store.command transferId _ _ = result
  have ends := ended ▸ commandEnds s.store transferId (fun facts => bindAttempt facts.transfer attempt) _
  cases ends with
  | failed e => exact mirrored
  | done loaded decides writes workflow =>
    obtain ⟨rows,_⟩ := Prod.mk.inj (Except.ok.inj writes)
    split at rows
    · exact mirroredBinding mirrored (Option.some.inj rows).symm
    · exact mirroredRows mirrored (Option.some.inj rows).symm

theorem mirroredAfter (s : Repository) (op : RepositoryOp) (mirrored : s.Mirrored) : (s.after op).Mirrored := by
  cases op with
  | job op => exact mirroredJob mirrored op
  | evidence actionId endpointId decide => exact mirroredEvidence mirrored actionId endpointId decide
  | acceptChunk transferId index digestWire size => exact mirroredAccept mirrored transferId index digestWire size
  | sealManifest transferId binding endpoint chunkCount digestWire replayAccepted =>
    exact mirroredSealRequest mirrored transferId binding endpoint chunkCount digestWire replayAccepted
  | verifyArtifact input => exact mirroredVerify mirrored input
  | recordExpectedChunk transferId index size digestBytes =>
    exact mirroredRecord mirrored transferId index size digestBytes
  | acceptVerifiedChunk transferId index digestBytes =>
    exact mirroredAcceptVerified mirrored transferId index digestBytes
  | sealExpectedManifest transferId chunkCount digestBytes =>
    exact mirroredSealExpected mirrored transferId chunkCount digestBytes
  | beginArtifactVerification transferId => exact mirroredTransition mirrored transferId _
  | completeArtifactVerification transferId digestMatches => exact mirroredTransition mirrored transferId _
  | failIncompleteArtifact transferId => exact mirroredTransition mirrored transferId _
  | bindAttempt transferId attempt => exact mirroredBind mirrored transferId attempt

theorem mirroredReached (ops : List RepositoryOp) : (Repository.reached ops).Mirrored := by
  refine runAlways mirroredAfter ⟨?_,?_,fun _ _ => rfl⟩ ops
  · exact fun c mem => absurd mem (Table.notMemEmpty _)
  · exact fun x mem => absurd mem (Table.notMemEmpty _)

end Steps

/- A reload of a Transfer never fails and returns the manifest and the held chunks the commands have built. -/
structure Reloads (s : Repository) : Prop where
  loaded : ∀ transferId k, s.kept transferId = some k → ∃ facts,
    s.store.transfer.loadLockedFacts transferId = .ok (some facts) ∧ facts.manifest = k.manifest ∧
      facts.heldChunkIndices.toFinset = k.held
  absent : ∀ transferId, s.kept transferId = none → s.store.transfer.loadLockedFacts transferId = .ok none

theorem mirroredReloads {s} (mirrored : s.Mirrored) : Reloads s := by
  have valid := s.store.transferValid
  refine ⟨fun transferId k known => ?_,fun transferId unknown => ?_⟩
  · cases found : s.store.transfer.transfers.find? transferId with
    | none =>
      have absent : ∀ x ∈ s.store.transfer.transfers, x.id ≠ transferId := by
        intro x mem same
        rw [Table.findIff.mpr ⟨mem,same⟩] at found
        cases found
      rw [mirrored.unknown transferId absent] at known
      cases known
    | some x =>
      obtain ⟨mem,named⟩ := Table.findIff.mp found
      obtain ⟨k',known',mirrors⟩ := mirrored.kept x mem
      rw [named] at known'
      cases Option.some.inj (known.symm.trans known')
      obtain ⟨facts,loaded,_,exactly⟩ := mirrorsLoad valid mirrored.narrow mem mirrors
      exact ⟨facts,named ▸ loaded,exactly⟩
  · have absent : s.store.transfer.transfers.find? transferId = none := by
      cases found : s.store.transfer.transfers.find? transferId with
      | none => rfl
      | some x =>
        obtain ⟨mem,named⟩ := Table.findIff.mp found
        obtain ⟨k,known,_⟩ := mirrored.kept x mem
        rw [named,unknown] at known
        cases known
    simp only [TransferRows.loadLockedFacts,absent]

theorem manifestReplayExact (manifest : ChunkManifest) (ops : List RepositoryOp) :
    RecordingLaws manifest ∧ Reloads (Repository.reached ops) :=
  ⟨recordingLaws manifest,mirroredReloads (mirroredReached ops)⟩

-- Two chunks recorded out of order, one of them held, and the manifest sealed.
example : ((Repository.reached [.job (.createWorkflow (some .enrolled) ⟨1⟩ (fun _ => ⟨2⟩) ⟨0⟩ 1),
    .job (.createTransferContext true ⟨3⟩ ⟨4⟩ ⟨0⟩ ⟨1⟩ ⟨2⟩ .agentToServer .sha256 .pair "disk"),
    .recordExpectedChunk ⟨3⟩ 1 1 Digest.zero.bytes,.recordExpectedChunk ⟨3⟩ 0 2 Digest.zero.bytes,
    .acceptVerifiedChunk ⟨3⟩ 1 Digest.zero.bytes,.sealExpectedManifest ⟨3⟩ 2 Digest.zero.bytes]).kept ⟨3⟩).map
      (fun k => (k.manifest.chunks.keys,k.manifest.chunkCount,k.held)) = some ([0,1],some 2,{1}) := by
  decide +kernel

end Bamep
