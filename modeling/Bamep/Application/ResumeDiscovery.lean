import Mathlib.Data.List.Dedup
import Bamep.Application.Entitlement
import Bamep.Gateway.Answers
import Bamep.WorkerProtocol.Encoding

/-! The authorization of a resume query and the snapshot of the held chunks it is answered from. -/
namespace Bamep
open Relational

structure ResumeHeldChunk where
  chunkIndex : Nat
  digestWire : String
  deriving DecidableEq, Repr

structure ResumeSnapshotFacts where
  transferId : TransferId
  sealed : Bool
  digestAlgorithm : DigestAlgorithm
  chunkSize : Nat
  expectedChunkCount : Option Nat
  held : List ResumeHeldChunk
  deriving DecidableEq, Repr

inductive ResumeAuthorizationOutcome where
  | approved (facts : ResumeSnapshotFacts)
  | denied
  deriving DecidableEq, Repr

-- The order a `BTreeSet` is read in.
def ascendingIndices (indices : List Nat) : List Nat := indices.dedup.insertionSort (· ≤ ·)

def resumeHeld (manifest : ChunkManifest) : List Nat → Except RepositoryError (List ResumeHeldChunk)
  | [] => .ok []
  | index :: rest =>
    match manifest.chunks[index]? with
    | none => .error (.backend
        s!"held chunk ChunkIndex({index}) has no durable expected identity in the same snapshot")
    | some expected => (resumeHeld manifest rest).map (⟨index,expected.digest.toWireValue⟩ :: ·)

def resumeSnapshotFacts (state : TransferLockedFacts) : Except RepositoryError ResumeSnapshotFacts :=
  (resumeHeld state.manifest (ascendingIndices state.heldChunkIndices)).map fun held =>
    ⟨state.transfer.id,state.manifest.sealed,state.manifest.digestAlgorithm,state.manifest.chunkSize.bytes,
      if state.manifest.sealed then state.manifest.chunkCount else none,held⟩

def authorizeResumeDiscovery (crypto : Crypto) (capabilities : CapabilityStore) (server : Server) (now : Instant)
    (replay : ReplayCache) (input : WorkerAuthorizationQueryInput) :
    ReplayCache × Except RepositoryError ResumeAuthorizationOutcome :=
  match authorizeRequest crypto capabilities server now replay input with
  | (replay',.error e) => (replay',.error e)
  | (replay',.ok none) => (replay',.ok .denied)
  | (replay',.ok (some state)) => (replay',(resumeSnapshotFacts state.toTransferLockedFacts).map .approved)

/- The facts are those of one locked read: every held chunk once, in ascending order, with its recorded digest. -/
structure ResumeSnapshotFacts.Of (facts : ResumeSnapshotFacts) (locked : TransferLockedFacts) : Prop where
  transferId : facts.transferId = locked.transfer.id
  sealed : facts.sealed = locked.manifest.sealed
  digestAlgorithm : facts.digestAlgorithm = locked.manifest.digestAlgorithm
  chunkSize : facts.chunkSize = locked.manifest.chunkSize.bytes
  expectedChunkCount : facts.expectedChunkCount = if locked.manifest.sealed then locked.manifest.chunkCount else none
  ascending : (facts.held.map ResumeHeldChunk.chunkIndex).Pairwise (· < ·)
  listed : ∀ index, index ∈ facts.held.map ResumeHeldChunk.chunkIndex ↔ index ∈ locked.heldChunkIndices
  digests : ∀ chunk ∈ facts.held, ∃ expected, locked.manifest.chunks[chunk.chunkIndex]? = some expected ∧
    chunk.digestWire = expected.digest.toWireValue

section Facts
variable {locked : TransferLockedFacts} {facts : ResumeSnapshotFacts}

theorem ascendingSorted (indices : List Nat) : (ascendingIndices indices).Pairwise (· < ·) := by
  have sorted : (ascendingIndices indices).Pairwise (· ≤ ·) := List.pairwise_insertionSort (· ≤ ·) _
  have distinct : (ascendingIndices indices).Nodup :=
    (List.perm_insertionSort (· ≤ ·) _).nodup_iff.mpr indices.nodup_dedup
  exact (sorted.and distinct).imp fun pair => lt_of_le_of_ne pair.1 pair.2

theorem memAscending {indices index} : index ∈ ascendingIndices indices ↔ index ∈ indices := by
  rw [ascendingIndices,(List.perm_insertionSort (· ≤ ·) _).mem_iff,List.mem_dedup]

theorem resumeHeldOk {manifest indices held}
    (ok : resumeHeld manifest indices = .ok held) : held.map ResumeHeldChunk.chunkIndex = indices ∧
      ∀ chunk ∈ held, ∃ expected, manifest.chunks[chunk.chunkIndex]? = some expected ∧
        chunk.digestWire = expected.digest.toWireValue := by
  induction indices generalizing held with
  | nil =>
    cases ok
    simp
  | cons index rest ih =>
    unfold resumeHeld at ok
    split at ok
    · contradiction
    rename_i expected found
    cases tail : resumeHeld manifest rest with
    | error e => rw [tail] at ok; cases ok
    | ok chunks =>
      rw [tail] at ok
      cases ok
      obtain ⟨indices,digests⟩ := ih tail
      refine ⟨by simp [indices],fun chunk mem => ?_⟩
      rcases List.mem_cons.mp mem with rfl | later
      · exact ⟨expected,found,rfl⟩
      · exact digests chunk later

theorem resumeSnapshotFactsOf (ok : resumeSnapshotFacts locked = .ok facts) : facts.Of locked := by
  unfold resumeSnapshotFacts at ok
  cases read : resumeHeld locked.manifest (ascendingIndices locked.heldChunkIndices) with
  | error e => rw [read] at ok; cases ok
  | ok held =>
    rw [read] at ok
    cases ok
    obtain ⟨indices,digests⟩ := resumeHeldOk read
    exact ⟨rfl,rfl,rfl,rfl,rfl,by rw [indices]; exact ascendingSorted _,
      fun index => by rw [indices,memAscending],digests⟩

theorem loadAuthorizationStateLocked {server : Server} {transferId now state}
    (ok : server.loadAuthorizationState transferId now = .ok (some state)) :
    server.store.transfer.loadLockedFacts transferId = .ok (some state.toTransferLockedFacts) := by
  unfold Server.loadAuthorizationState at ok
  split at ok
  · cases ok
  · cases ok
  rename_i locked loaded
  split at ok
  · contradiction
  cases held : server.authorizationState locked now with
  | error e => rw [held] at ok; cases ok
  | ok state' =>
    rw [held] at ok
    cases ok
    unfold Server.authorizationState at held
    split at held
    · contradiction
    · contradiction
    · cases held
      exact loaded

theorem authorizeRequestLoads {crypto capabilities server now replay replay' input state}
    (ok : authorizeRequest crypto capabilities server now replay input = (replay',.ok (some state))) :
    server.loadAuthorizationState input.transferId now = .ok (some state) := by
  unfold authorizeRequest at ok
  split at ok
  · cases ok
  split at ok
  · cases ok
  split at ok
  · cases ok
  · cases ok
  rename_i loaded
  split at ok
  · cases ok
  split at ok
  · cases ok
  · cases ok
    exact loaded

/- An approval is made on the durable state the request was decided on. -/
theorem resumeApproved {crypto : Crypto} {capabilities server now replay replay' input}
    (ok : authorizeResumeDiscovery crypto capabilities server now replay input = (replay',.ok (.approved facts))) :
    ∃ locked, server.store.transfer.loadLockedFacts input.transferId = .ok (some locked) ∧ facts.Of locked := by
  unfold authorizeResumeDiscovery at ok
  split at ok
  · cases ok
  · cases ok
  rename_i state authorized
  cases read : resumeSnapshotFacts state.toTransferLockedFacts with
  | error e => rw [read] at ok; cases ok
  | ok facts' =>
    rw [read] at ok
    cases ok
    exact ⟨_,loadAuthorizationStateLocked (authorizeRequestLoads authorized),resumeSnapshotFactsOf read⟩

theorem base64Plain (bytes : List UInt8) : Text.Plain (Base64Url.encodeChars bytes) := by
  intro c mem
  obtain ⟨n,small,rfl⟩ := Base64Url.memEncodeChars mem
  have all : ∀ n : Fin 64, Text.escape (Base64Url.symbol n) = [Base64Url.symbol n] ∧
      (Base64Url.symbol n).utf8Size = 1 := by decide
  exact all ⟨n,small⟩

/- A locked read has 32-bit indices and counts, and digests of 32 bytes. -/
structure ResumeSnapshotFacts.Narrow (facts : ResumeSnapshotFacts) : Prop where
  chunkSize : facts.chunkSize < 2 ^ 32
  expectedChunkCount : ∀ count ∈ facts.expectedChunkCount, count < 2 ^ 32
  held : ∀ chunk ∈ facts.held, (⟨chunk.chunkIndex,chunk.digestWire⟩ : WorkerProtocol.HeldChunk).Narrow

theorem asU32Bound (n : Int) : asU32 n < 2 ^ 32 := by
  unfold asU32
  omega

theorem factsNarrow {t : TransferRows} {transferId}
    (loaded : t.loadLockedFacts transferId = .ok (some locked)) (read : facts.Of locked) : facts.Narrow := by
  obtain ⟨row,context⟩ := TransferRows.loadLockedFactsOk loaded
  refine ⟨read.chunkSize ▸ locked.manifest.chunkSize.fits,fun count mem => ?_,fun chunk mem => ?_⟩
  · rw [read.expectedChunkCount] at mem
    split at mem
    · obtain ⟨stored,_,rfl⟩ := loadManifestCount context.manifest mem
      exact asU32Bound stored
    · cases mem
  · have held := (read.listed _).mp (List.mem_map_of_mem mem)
    rw [context.held] at held
    obtain ⟨row,_,same⟩ := List.mem_map.mp held
    obtain ⟨expected,_,digest⟩ := read.digests chunk mem
    refine ⟨same ▸ asU32Bound _,_,digest,base64Plain _,?_⟩
    rw [Base64Url.encodeCharsLength,expected.digest.sized]

end Facts
end Bamep
