import Bamep.Gateway.Sound
import Bamep.Store.Replay

/-! The custody of a Transfer: its Artifact, manifest and chunk rows, kept in agreement by three
services and the terminal evidence. A manifest is sealed exactly while its Artifact is beyond
`Incomplete` by way of a seal, and from then on the chunk rows are complete, held and frozen. -/
namespace Bamep
open Relational Transition

def ArtifactState.presentsSeal : ArtifactState → Bool
  | .pendingVerification | .verified => true
  | _ => false

structure Complete (t : TransferRows) (artifactId : ArtifactId) (count : Int) : Prop where
  indices : ∀ i, (∃ c ∈ t.chunks, c.artifactId = artifactId ∧ c.chunkIndex = i) ↔ 0 ≤ i ∧ i < count
  held : ∀ c ∈ t.chunks, c.artifactId = artifactId → c.held = true

structure Custody (t : TransferRows) : Prop where
  manifest : ∀ a ∈ t.artifacts, ∃ m ∈ t.manifests, m.artifactId = a.id
  narrow : ∀ c ∈ t.chunks, c.chunkIndex < 2 ^ 31
  sized : ∀ c ∈ t.chunks, ∀ x ∈ t.transfers, x.artifactId = c.artifactId → c.size ≤ x.chunkSize.bytes
  presented : ∀ m ∈ t.manifests, ∀ a ∈ t.artifacts, a.id = m.artifactId →
    a.state.presentsSeal = true → m.sealed = true
  unsealed : ∀ m ∈ t.manifests, ∀ a ∈ t.artifacts, a.id = m.artifactId →
    a.state = .incomplete → m.sealed = false
  complete : ∀ m ∈ t.manifests, ∀ n, m.chunkCount = some n → Complete t m.artifactId n

theorem custodyEmpty : Custody .empty := by
  constructor <;> exact fun _ mem => absurd mem (Table.notMemEmpty _)

section Rows
variable {t t' : TransferRows}

theorem custodyFrame (custody : Custody t) (chunks : t'.chunks = t.chunks)
    (manifests : t'.manifests = t.manifests)
    (transfers : ∀ x' ∈ t'.transfers, ∃ x ∈ t.transfers, x'.artifactId = x.artifactId ∧
      x'.chunkSize = x.chunkSize)
    (artifacts : ∀ a' ∈ t'.artifacts, ∃ a ∈ t.artifacts, a'.id = a.id ∧
      (a'.state.presentsSeal = true → a.state.presentsSeal = true) ∧
      (a'.state = .incomplete → a.state = .incomplete)) : Custody t' := by
  refine ⟨?_,?_,?_,?_,?_,?_⟩
  · intro a' mem
    obtain ⟨a,old,named,_⟩ := artifacts a' mem
    rw [manifests,named]
    exact custody.manifest a old
  · rw [chunks]
    exact custody.narrow
  · intro c mem x' memX owned
    obtain ⟨x,old,artifact,size⟩ := transfers x' memX
    rw [size]
    exact custody.sized c (chunks ▸ mem) x old (artifact ▸ owned)
  · intro m mem a' memA owned presents
    obtain ⟨a,old,named,back,_⟩ := artifacts a' memA
    exact custody.presented m (manifests ▸ mem) a old (named ▸ owned) (back presents)
  · intro m mem a' memA owned incomplete
    obtain ⟨a,old,named,_,back⟩ := artifacts a' memA
    exact custody.unsealed m (manifests ▸ mem) a old (named ▸ owned) (back incomplete)
  · intro m mem n count
    obtain ⟨indices,held⟩ := custody.complete m (manifests ▸ mem) n count
    exact ⟨by rw [chunks]; exact indices,by rw [chunks]; exact held⟩

theorem custodyArtifact {artifact state} (custody : Custody t)
    (mem : artifact ∈ t.artifacts)
    (presents : state.presentsSeal = true → artifact.state.presentsSeal = true)
    (settled : state ≠ .incomplete) : Custody (t.setArtifactState artifact.id state) := by
  refine custodyFrame custody rfl rfl (fun x old => ⟨x,old,rfl,rfl⟩) fun a' memA => ?_
  rcases (Table.memUpdate (by exact fun _ => rfl)).mp memA with ⟨old,_⟩ | ⟨a,old,named,rfl⟩
  · exact ⟨a',old,rfl,id,id⟩
  · cases Table.eqOfKey old mem named
    exact ⟨artifact,mem,rfl,presents,fun h => absurd h settled⟩

theorem custodyBinding {transferId attemptId} (custody : Custody t) :
    Custody (t.setAttemptBinding transferId attemptId) := by
  refine custodyFrame custody rfl rfl (fun x' memX => ?_) fun a old => ⟨a,old,rfl,id,id⟩
  rcases (Table.memUpdate (by exact fun _ => rfl)).mp memX with ⟨old,_⟩ | ⟨x,old,_,rfl⟩
  · exact ⟨x',old,rfl,rfl⟩
  · exact ⟨x,old,rfl,rfl⟩

theorem custodyCreated {context w} (valid : t.Valid w)
    (custody : Custody t) (incomplete : context.artifact.state = .incomplete)
    (owned : context.transfer.artifactId = context.artifact.id)
    (ok : insertContext? t context = some t') : Custody t' := by
  obtain ⟨artifacts,transfers,manifests,chunks⟩ := insertContextSome ok
  -- Nothing refers to the new Artifact yet.
  have fresh : ∀ a ∈ t.artifacts, a.id ≠ context.artifact.id :=
    fun a mem => Table.insertAbsent artifacts mem
  have noChunk : ∀ c ∈ t.chunks, c.artifactId ≠ context.artifact.id := by
    intro c mem same
    obtain ⟨a,present,named⟩ := valid.chunkArtifact c mem
    exact fresh a present (named.trans same)
  have noManifest : ∀ m ∈ t.manifests, m.artifactId ≠ context.artifact.id := by
    intro m mem same
    obtain ⟨a,present,named⟩ := valid.manifestArtifact m mem
    exact fresh a present (named.trans same)
  refine ⟨?_,?_,?_,?_,?_,?_⟩
  · intro a mem
    rcases (Table.memInsert artifacts).mp mem with old | rfl
    · obtain ⟨m,present,named⟩ := custody.manifest a old
      exact ⟨m,(Table.memInsert manifests).mpr (.inl present),named⟩
    · exact ⟨_,(Table.memInsert manifests).mpr (.inr rfl),rfl⟩
  · rw [chunks]
    exact custody.narrow
  · intro c memC x memX same
    rw [chunks] at memC
    rcases (Table.memInsert transfers).mp memX with old | rfl
    · exact custody.sized c memC x old same
    · exact absurd (same.symm.trans owned) (noChunk c memC)
  · intro m memM a memA same presents
    rcases (Table.memInsert artifacts).mp memA with oldA | rfl
    · rcases (Table.memInsert manifests).mp memM with oldM | rfl
      · exact custody.presented m oldM a oldA same presents
      · exact absurd same (fresh a oldA)
    · rw [incomplete] at presents
      contradiction
  · intro m memM a memA same isOpen
    rcases (Table.memInsert manifests).mp memM with oldM | rfl
    · rcases (Table.memInsert artifacts).mp memA with oldA | rfl
      · exact custody.unsealed m oldM a oldA same isOpen
      · exact absurd same.symm (noManifest m oldM)
    · rfl
  · intro m memM n count
    rcases (Table.memInsert manifests).mp memM with oldM | rfl
    · obtain ⟨indices,held⟩ := custody.complete m oldM n count
      exact ⟨by rw [chunks]; exact indices,by rw [chunks]; exact held⟩
    · contradiction

theorem completeSame {artifactId count} (complete : Complete t artifactId count)
    (same : ∀ c, c.artifactId = artifactId → (c ∈ t'.chunks ↔ c ∈ t.chunks)) :
    Complete t' artifactId count := by
  refine ⟨fun i => ?_,fun c mem owned => complete.held c ((same c owned).mp mem) owned⟩
  rw [← complete.indices i]
  constructor
  · rintro ⟨c,mem,owned,index⟩
    exact ⟨c,(same c owned).mp mem,owned,index⟩
  · rintro ⟨c,mem,owned,index⟩
    exact ⟨c,(same c owned).mpr mem,owned,index⟩

theorem sealedSettled {w} (valid : t.Valid w) (custody : Custody t) {m}
    (mem : m ∈ t.manifests) {a} (present : a ∈ t.artifacts) (incomplete : a.state = .incomplete)
    (sealed : m.sealed = true ∨ m.chunkCount.isSome = true) : m.artifactId ≠ a.id := by
  intro same
  have unsealed := custody.unsealed m mem a present same.symm incomplete
  rcases valid.manifestFacts m mem with ⟨_,count,_⟩ | ⟨wrong,_⟩
  · rcases sealed with h | h
    · rw [unsealed] at h
      contradiction
    · rw [count] at h
      contradiction
  · rw [unsealed] at wrong
    contradiction

structure ChunkStep (t t' : TransferRows) (artifactId : ArtifactId) : Prop where
  transfers : t'.transfers = t.transfers
  artifacts : t'.artifacts = t.artifacts
  manifests : t'.manifests = t.manifests
  elsewhere : ∀ c, c.artifactId ≠ artifactId → (c ∈ t'.chunks ↔ c ∈ t.chunks)
  recorded : ∀ c ∈ t.chunks, ∃ c' ∈ t'.chunks,
    c' = { c with held := c'.held } ∧ (c.held = true → c'.held = true)

theorem chunkAddedStep {row} (ok : t.insertChunk? row = some t') :
    ChunkStep t t' row.artifactId := by
  obtain ⟨chunks,inserted,same⟩ := Option.map_eq_some_iff.mp ok
  subst same
  refine ⟨rfl,rfl,rfl,fun c other => ?_,fun c mem => ?_⟩
  · simp only [Table.memInsert inserted]
    constructor
    · rintro (old | new)
      · exact old
      · exact absurd (by rw [new]) other
    · exact .inl
  · exact ⟨c,(Table.memInsert inserted).mpr (.inl mem),rfl,id⟩

theorem chunkHeldStep (t : TransferRows) (artifactId : ArtifactId) (index : Int) :
    ChunkStep t (t.setHeld artifactId index) artifactId := by
  have member : ∀ c, c ∈ (t.setHeld artifactId index).chunks ↔
      (c ∈ t.chunks ∧ c.key ≠ (artifactId,index)) ∨
        ∃ old ∈ t.chunks, old.key = (artifactId,index) ∧ c = { old with held := true } :=
    fun c => Table.memUpdate (by exact fun _ => rfl)
  refine ⟨rfl,rfl,rfl,fun c other => ?_,fun c mem => ?_⟩
  · rw [member]
    constructor
    · rintro (⟨old,_⟩ | ⟨old,_,named,rfl⟩)
      · exact old
      · exact absurd (congrArg Prod.fst named) other
    · exact fun mem => .inl ⟨mem,fun named => other (congrArg Prod.fst named)⟩
  · by_cases named : c.key = (artifactId,index)
    · exact ⟨_,(member _).mpr (.inr ⟨c,mem,named,rfl⟩),rfl,fun _ => rfl⟩
    · exact ⟨c,(member _).mpr (.inl ⟨mem,named⟩),rfl,id⟩

theorem custodyChunk {w} (valid : t.Valid w) (custody : Custody t) {artifact}
    (present : artifact ∈ t.artifacts) (incomplete : artifact.state = .incomplete)
    (step : ChunkStep t t' artifact.id) (narrow : ∀ c ∈ t'.chunks, c.chunkIndex < 2 ^ 31)
    (sized : ∀ c ∈ t'.chunks, ∀ x ∈ t.transfers, x.artifactId = c.artifactId → c.size ≤ x.chunkSize.bytes) :
    Custody t' := by
  refine ⟨?_,narrow,?_,?_,?_,?_⟩
  · rw [step.artifacts,step.manifests]
    exact custody.manifest
  · rw [step.transfers]
    exact sized
  · rw [step.manifests,step.artifacts]
    exact custody.presented
  · rw [step.manifests,step.artifacts]
    exact custody.unsealed
  · rw [step.manifests]
    intro m mem n count
    have other := sealedSettled valid custody mem present incomplete (.inr (by rw [count]; rfl))
    exact completeSame (custody.complete m mem n count) fun c owned => step.elsewhere c (owned ▸ other)

theorem sealComplete {w} (valid : t.Valid w) (custody : Custody t)
    {transferId facts row}
    (locked : TransferRows.Loaded t transferId facts row) {chunkCount} (small : chunkCount < 2 ^ 32)
    (nonneg : 0 ≤ asI32 chunkCount) (sealable : Sealable facts.manifest chunkCount)
    (held : ∀ i ∈ facts.manifest.chunks, i ∈ facts.heldChunkIndices) :
    Complete t facts.artifact.id (asI32 chunkCount) := by
  have replayed := loadManifestOk locked.manifest
  have exactIndex : ∀ c ∈ t.chunks, (asU32 c.chunkIndex : Int) = c.chunkIndex :=
    fun c mem => asU32Exact (valid.chunkIndexNonneg c mem) (custody.narrow c mem)
  have recorded : ∀ c ∈ t.chunks, c.artifactId = facts.artifact.id →
      asU32 c.chunkIndex ∈ facts.manifest.chunks :=
    fun c mem owned => (replayed.recorded _).mpr ⟨c,mem,owned.trans locked.owned,rfl⟩
  rw [(asI32Exact small nonneg).1]
  refine ⟨fun i => ⟨?_,?_⟩,fun c mem owned => ?_⟩
  · rintro ⟨c,mem,owned,rfl⟩
    have below := sealable.memChunks.mp (recorded c mem owned)
    rw [← exactIndex c mem]
    omega
  · rintro ⟨low,high⟩
    have inside : i.toNat ∈ facts.manifest.chunks := sealable.memChunks.mpr (by omega)
    obtain ⟨c,mem,owned,index⟩ := (replayed.recorded _).mp inside
    refine ⟨c,mem,owned.trans locked.owned.symm,?_⟩
    rw [← exactIndex c mem,index]
    omega
  · have inside := held _ (recorded c mem owned)
    rw [locked.held] at inside
    obtain ⟨c',mem',index⟩ := List.mem_map.mp inside
    obtain ⟨row,isHeld⟩ := List.mem_filter.mp mem'
    obtain ⟨present,owned'⟩ := memChunkRows.mp row
    have sameIndex : c'.chunkIndex = c.chunkIndex := by
      rw [← exactIndex c' present,← exactIndex c mem,index]
    have one : c' = c := Table.eqOfKey present mem
      (Prod.ext (owned'.trans (owned.trans locked.owned).symm) sameIndex)
    exact one ▸ isHeld

end Rows
end Bamep
