import Bamep.Store.TransferFacts

/-! A manifest reloaded from its rows. Replaying the chunk rows records exactly their indices, and
sealing the replayed manifest again keeps the stored count and digest. -/
namespace Bamep
open Relational

theorem asI32Range (n : Nat) : -2 ^ 31 ≤ asI32 n ∧ asI32 n < 2 ^ 31 := by
  have low := @Int.le_bmod n (2 ^ 32) (by decide)
  have high := @Int.bmod_lt n (2 ^ 32) (by decide)
  unfold asI32
  omega

theorem asI32Exact {n} (small : n < 2 ^ 32) (nonneg : 0 ≤ asI32 n) : asI32 n = n ∧ n < 2 ^ 31 := by
  by_cases fits : n < 2 ^ 31
  · exact ⟨asI32Small fits,fits⟩
  · unfold asI32 at nonneg
    rw [Int.bmod_def] at nonneg
    omega

theorem asU32Exact {n} (nonneg : 0 ≤ n) (small : n < 2 ^ 31) : (asU32 n : Int) = n := by
  unfold asU32
  omega

theorem memChunkRows {t : TransferRows} {artifactId row} :
    row ∈ t.chunkRows artifactId ↔ row ∈ t.chunks ∧ row.artifactId = artifactId := by
  simp [TransferRows.chunkRows]

theorem replayChunkSome {manifest next row}
    (ok : replayChunk manifest row = some next) :
    ∃ expected, next = { manifest with chunks := manifest.chunks.insert (asU32 row.chunkIndex) expected } := by
  unfold replayChunk at ok
  split at ok
  · rename_i added
    cases Option.some.inj ok
    obtain ⟨_,_,digest,_,same⟩ := recordAdded added
    exact ⟨_,same⟩
  · contradiction

theorem replayChunks {rows : List ChunkRow} {start manifest}
    (ok : rows.foldlM replayChunk start = some manifest) :
    manifest = { start with chunks := manifest.chunks } ∧
      ∀ i, i ∈ manifest.chunks ↔ i ∈ start.chunks ∨ ∃ row ∈ rows, asU32 row.chunkIndex = i := by
  induction rows generalizing start with
  | nil =>
    cases Option.some.inj ok
    exact ⟨rfl,by simp⟩
  | cons row rest ih =>
    rw [List.foldlM_cons] at ok
    obtain ⟨next,first,ok⟩ := Option.bind_eq_some_iff.mp ok
    obtain ⟨expected,same⟩ := replayChunkSome first
    obtain ⟨frame,recorded⟩ := ih ok
    subst same
    refine ⟨frame,fun i => ?_⟩
    rw [recorded,Std.ExtTreeMap.mem_insert]
    simp only [List.mem_cons,exists_eq_or_imp,compare_eq_iff_eq]
    tauto

structure Replayed (t : TransferRows) (transfer : Transfer) (row : ManifestRow) (manifest : ChunkManifest) :
    Prop where
  algorithm : manifest.digestAlgorithm = transfer.digestAlgorithm
  chunkSize : manifest.chunkSize = transfer.chunkSize
  recorded : ∀ i, i ∈ manifest.chunks ↔
    ∃ c ∈ t.chunks, c.artifactId = transfer.artifactId ∧ asU32 c.chunkIndex = i
  sealed : manifest.sealed = row.sealed
  digest : ∀ expected : Digest, manifest.artifactDigest = some expected →
    row.artifactDigest = some expected.bytes

theorem loadManifestOk {t transfer row manifest} (ok : t.loadManifest transfer row = .ok manifest) :
    Replayed t transfer row manifest := by
  unfold TransferRows.loadManifest at ok
  simp only at ok
  split at ok
  · contradiction
  rename_i replayed replay
  obtain ⟨frame,recorded⟩ := replayChunks replay
  have algorithm : replayed.digestAlgorithm = transfer.digestAlgorithm :=
    congrArg ChunkManifest.digestAlgorithm frame
  have chunkSize : replayed.chunkSize = transfer.chunkSize := congrArg ChunkManifest.chunkSize frame
  have chunks : ∀ i, i ∈ replayed.chunks ↔
      ∃ c ∈ t.chunks, c.artifactId = transfer.artifactId ∧ asU32 c.chunkIndex = i := by
    intro i
    rw [recorded]
    simp [ChunkManifest.new,memChunkRows,and_assoc]
  split at ok
  · rename_i sealed
    split at ok
    · contradiction
    · contradiction
    rename_i count digest _ stored
    split at ok
    · rename_i again resealed
      cases Except.ok.inj ok
      obtain ⟨_,kept,bytes,same⟩ := sealSealed resealed
      subst same
      refine ⟨algorithm,chunkSize,chunks,sealed.symm,fun expected known => ?_⟩
      rw [stored,← Option.some.inj known,bytes]
    · contradiction
  · rename_i unsealed
    cases Except.ok.inj ok
    refine ⟨algorithm,chunkSize,chunks,?_,fun expected known => ?_⟩
    · rw [frame]
      exact (Bool.eq_false_iff.mpr unsealed).symm
    · rw [frame] at known
      contradiction

end Bamep
