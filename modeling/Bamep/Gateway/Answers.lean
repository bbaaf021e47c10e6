import Bamep.Gateway.ManifestLife

/-! What the answers of the Worker's requests say about the rows they leave: a chunk answered as
committed is held, a sealed manifest names the Artifact of its Transfer, a verification answered as
committed is the state of the Artifact. -/
namespace Bamep
open Relational

def TransferRows.Owns (t : TransferRows) (transferId : TransferId) (artifactId : ArtifactId) : Prop :=
  ∃ x ∈ t.transfers, x.id = transferId ∧ x.artifactId = artifactId

structure TransferRows.HeldAt (t : TransferRows) (transferId : TransferId) (chunkIndex : Nat) (c : ChunkRow) :
    Prop where
  stored : c ∈ t.chunks
  owned : t.Owns transferId c.artifactId
  index : c.chunkIndex = chunkIndex
  held : c.held = true

theorem ownedArtifact {t : TransferRows} {transferId a b} (left : t.Owns transferId a)
    (right : t.Owns transferId b) : a = b := by
  obtain ⟨x,memX,namedX,ownedX⟩ := left
  obtain ⟨y,memY,namedY,ownedY⟩ := right
  rw [← ownedX,← ownedY,Table.eqOfKey memX memY (namedX.trans namedY.symm)]

theorem owningTransfer {s : Store} {artifactId a b} (left : s.transfer.Owns a artifactId)
    (right : s.transfer.Owns b artifactId) : a = b := by
  obtain ⟨x,memX,namedX,ownedX⟩ := left
  obtain ⟨y,memY,namedY,ownedY⟩ := right
  rw [← namedX,← namedY,s.transferValid.artifactUnique x memX y memY (ownedX.trans ownedY.symm)]

section Steps
variable {s s' : Store} {op : GatewayOp} {report : Option (ActionId × EndpointId)}

theorem ownsStep (step : StoreStep s op report s') {transferId artifactId}
    (owns : s.transfer.Owns transferId artifactId) : s'.transfer.Owns transferId artifactId := by
  obtain ⟨x,mem,named,owned⟩ := owns
  obtain ⟨x',present,same,rebinds⟩ := (transfersEvolve step).forward mem
  exact ⟨x',present,same.trans named,by rw [rebinds.kept]; exact owned⟩

theorem chunksKept (step : StoreStep s op report s')
    (other : ∀ transferId index digestWire size, op ≠ .acceptChunk transferId index digestWire size) :
    s'.transfer.chunks = s.transfer.chunks := by
  cases step with
  | unchanged => rfl
  | job jobOp effect kept => rw [kept]
  | created workflow unbound incomplete owned ok => exact (insertContextSome ok).2.2.2
  | dispatched jobOp effect inserted fresh unbound bound => rw [bound]; rfl
  | evidence jobOp locked decides leg ok transfer =>
    rw [transfer]
    split <;> rfl
  | dataPlane workflow step =>
    generalize s'.transfer = t' at step
    cases step with
    | chunkAdded | chunkHeld => exact absurd rfl (other _ _ _ _)
    | sealed | verified => rfl

theorem verifiedKept (step : StoreStep s op report s') (other : ∀ input, op ≠ .verifyArtifact input)
    {a'} (mem : a' ∈ s'.transfer.artifacts) (verified : a'.state = .verified) :
    a' ∈ s.transfer.artifacts := by
  rcases (artifactsEvolve step).back mem with ⟨a,old,same,move⟩ | new
  · by_cases before : a.state = .verified
    · have whole : a' = a := by rw [move.kept,verified,← before]
      exact whole ▸ old
    · obtain ⟨input,named,_⟩ := verifiedBy step old mem same before verified
      exact absurd named (other input)
  · rw [new] at verified
    contradiction

end Steps

section Acceptance
variable {s : Store} {transferId : TransferId} {index size : Nat} {digestWire : String}

structure NewChunk (t : TransferRows) (transferId : TransferId) (index size : Nat) (digestWire : String)
    (c : ChunkRow) : Prop where
  owned : t.Owns transferId c.artifactId
  index : c.chunkIndex = index
  size : c.size = size
  digest : Base64Url.encode c.digest = digestWire

theorem memSetHeld {t : TransferRows} {artifactId i c} :
    c ∈ (t.setHeld artifactId i).chunks ↔ (c ∈ t.chunks ∧ c.key ≠ (artifactId,i)) ∨
      ∃ old ∈ t.chunks, old.key = (artifactId,i) ∧ c = { old with held := true } :=
  Table.memUpdate (by exact fun _ => rfl)

theorem addedChunk {facts} {s' : Store} {digest}
    (loaded : s.transfer.loadLockedFacts transferId = .ok (some facts)) (small : index < 2 ^ 32)
    (bounded : size ≤ facts.manifest.chunkSize.bytes)
    (parsed : Digest.parseWireValue facts.manifest.digestAlgorithm digestWire = .ok digest)
    (rows : s.transfer.insertChunk? ⟨facts.artifact.id,asI32 index,asI32 size,digest.bytes,true⟩ =
      some s'.transfer) :
    ∃ c : ChunkRow, c.held = true ∧ NewChunk s.transfer transferId index size digestWire c ∧
      ∀ c', c' ∈ s'.transfer.chunks ↔ c' ∈ s.transfer.chunks ∨ c' = c := by
  obtain ⟨row,locked⟩ := TransferRows.loadLockedFactsOk loaded
  obtain ⟨chunks,inserted,same⟩ := Option.map_eq_some_iff.mp rows
  have members : ∀ c', c' ∈ s'.transfer.chunks ↔ c' ∈ s.transfer.chunks ∨
      c' = ⟨facts.artifact.id,asI32 index,asI32 size,digest.bytes,true⟩ := by
    intro c'
    rw [← same]
    exact Table.memInsert inserted
  have stored := (members _).mpr (.inr rfl)
  have narrow : size < 2 ^ 32 := Nat.lt_of_le_of_lt bounded facts.manifest.chunkSize.fits
  -- the stored casts passed the constraints, so they changed nothing
  have nonneg := s'.transferValid.chunkIndexNonneg _ stored
  have positive := s'.transferValid.chunkSize _ stored
  dsimp only at nonneg positive
  have exactIndex := (asI32Exact small nonneg).1
  have exactSize := (asI32Exact narrow (Int.le_of_lt positive)).1
  refine ⟨⟨facts.artifact.id,asI32 index,asI32 size,digest.bytes,true⟩,rfl,?_,members⟩
  exact ⟨⟨facts.transfer,locked.transfer,locked.named,locked.owned.symm⟩,by simpa only using exactIndex,
    by simpa only using exactSize,parseWireCanonical parsed⟩

theorem acceptChunkRows {c' : ChunkRow}
    (mem : c' ∈ (s.acceptChunk transferId index digestWire size).1.transfer.chunks) :
    (∃ c ∈ s.transfer.chunks, c' = { c with held := c'.held }) ∨
      NewChunk s.transfer transferId index size digestWire c' := by
  have ends := @acceptChunkEnds s transferId index digestWire size
  generalize s.acceptChunk transferId index digestWire size = result at ends mem
  cases ends with
  | refused | already => exact .inl ⟨c',mem,rfl⟩
  | added loaded incomplete unsealed positive bounded small parsed workflow rows =>
    obtain ⟨c,held,new,members⟩ := addedChunk loaded small bounded parsed rows
    rcases (members c').mp mem with old | rfl
    · exact .inl ⟨c',old,rfl⟩
    · exact .inr new
  | reheld loaded incomplete recorded workflow rows =>
    rw [rows] at mem
    rcases memSetHeld.mp mem with ⟨old,_⟩ | ⟨old,stored,_,rfl⟩
    · exact .inl ⟨c',old,rfl⟩
    · exact .inl ⟨old,stored,rfl⟩

theorem acceptChunkHeld (custody : Custody s.transfer)
    (answer : (s.acceptChunk transferId index digestWire size).2 = .ok .committed ∨
      (s.acceptChunk transferId index digestWire size).2 = .ok .alreadyCommitted) :
    ∃ c, (s.acceptChunk transferId index digestWire size).1.transfer.HeldAt transferId index c := by
  have owns := @ownsStep s _ _ none (.ofCommitted (@acceptChunkStep s transferId index digestWire size)) transferId
  have ends := @acceptChunkEnds s transferId index digestWire size
  generalize s.acceptChunk transferId index digestWire size = result at ends answer owns
  have exactIndex : ∀ c ∈ s.transfer.chunks, (asU32 c.chunkIndex : Int) = c.chunkIndex :=
    fun c mem => asU32Exact (s.transferValid.chunkIndexNonneg c mem) (custody.narrow c mem)
  cases ends with
  | refused uncommitted unheld => exact (answer.elim uncommitted unheld).elim
  | added loaded incomplete unsealed positive bounded small parsed workflow rows =>
    obtain ⟨c,held,new,members⟩ := addedChunk loaded small bounded parsed rows
    exact ⟨c,(members c).mpr (.inr rfl),owns new.owned,new.index,held⟩
  | reheld loaded incomplete recorded workflow rows =>
    obtain ⟨row,locked⟩ := TransferRows.loadLockedFactsOk loaded
    obtain ⟨c,mem,owned,index⟩ := ((loadManifestOk locked.manifest).recorded _).mp recorded
    have named : c.chunkIndex = _ := (exactIndex c mem).symm.trans (congrArg _ index)
    have below := custody.narrow c mem
    have cast : asI32 _ = c.chunkIndex := (asI32Small (by omega)).trans named.symm
    refine ⟨{ c with held := true },?_,owns ⟨_,locked.transfer,locked.named,owned.symm⟩,named,rfl⟩
    rw [rows]
    exact memSetHeld.mpr (.inr ⟨c,mem,by rw [ChunkRow.key,cast,owned,locked.owned],rfl⟩)
  | already loaded held =>
    obtain ⟨row,locked⟩ := TransferRows.loadLockedFactsOk loaded
    rw [locked.held] at held
    obtain ⟨c,kept,index⟩ := List.mem_map.mp held
    obtain ⟨selected,isHeld⟩ := List.mem_filter.mp kept
    obtain ⟨mem,owned⟩ := memChunkRows.mp selected
    exact ⟨c,mem,⟨_,locked.transfer,locked.named,owned.symm⟩,(exactIndex c mem).symm.trans (congrArg _ index),isHeld⟩

end Acceptance

section Sealing
variable {s : Store} {transferId : TransferId} {binding : CapabilityBinding} {endpoint : Option Bool}
  {chunkCount : Nat} {digestWire : String} {replayAccepted : Bool}

theorem sealManifestOwns {commit facts}
    (answer : (s.sealManifest transferId binding endpoint chunkCount digestWire replayAccepted).2 = .ok commit)
    (sealed : commit.facts? = some facts) :
    (s.sealManifest transferId binding endpoint chunkCount digestWire replayAccepted).1.transfer.Owns transferId
      facts.artifactId := by
  refine @ownsStep s _ _ none
    (.ofCommitted (@sealManifestStep s transferId binding endpoint chunkCount digestWire replayAccepted)) _ _ ?_
  have ends := @sealManifestEnds s transferId binding endpoint chunkCount digestWire replayAccepted
  generalize s.sealManifest transferId binding endpoint chunkCount digestWire replayAccepted = result at ends answer
  cases ends with
  | refused unsealed => rw [unsealed commit answer] at sealed; contradiction
  | already loaded =>
    cases answer
    cases sealed
    obtain ⟨row,locked⟩ := TransferRows.loadLockedFactsOk loaded
    exact ⟨_,locked.transfer,locked.named,locked.owned.symm⟩
  | sealed loaded =>
    cases answer
    cases sealed
    obtain ⟨row,locked⟩ := TransferRows.loadLockedFactsOk loaded
    exact ⟨_,locked.transfer,locked.named,locked.owned.symm⟩

end Sealing

section Verification
variable {s : Store} {input : ArtifactVerificationInput}

theorem loadManifestCount {t : TransferRows} {transfer row manifest}
    (ok : t.loadManifest transfer row = .ok manifest) {count} (counted : manifest.chunkCount = some count) :
    ∃ stored, row.chunkCount = some stored ∧ asU32 stored = count := by
  unfold TransferRows.loadManifest at ok
  simp only at ok
  split at ok
  · contradiction
  rename_i replayed replay
  split at ok
  · split at ok
    · contradiction
    · contradiction
    rename_i stored _ found _
    split at ok
    · rename_i again resealed
      cases Except.ok.inj ok
      obtain ⟨_,_,_,same⟩ := sealSealed resealed
      rw [same] at counted
      exact ⟨stored,found,Option.some.inj counted⟩
    · contradiction
  · cases Except.ok.inj ok
    rw [(replayChunks replay).1] at counted
    contradiction

/- What a committed verification was decided on: the sealed count and digest of the manifest row. -/
structure VerifiedOn (s : Store) (input : ArtifactVerificationInput) (verified : Bool) (facts : TransferLockedFacts)
    (row : ManifestRow) (computed : Digest) : Prop where
  loaded : TransferRows.Loaded s.transfer input.transferId facts row
  count : row.chunkCount = some (input.chunkCount : Int)
  reported : computed.toWireValue = input.computedArtifactDigest
  verdict : verified = true → row.artifactDigest = some computed.bytes

theorem countExact (custody : Custody s.transfer) {row} (mem : row ∈ s.transfer.manifests) {n}
    (counted : row.chunkCount = some n) : (asU32 n : Int) = n := by
  have nonneg := s.transferValid.manifestCount row mem n counted
  have small : n ≤ 2 ^ 31 := by
    by_contra large
    obtain ⟨c,stored,_,index⟩ := ((custody.complete row mem n counted).indices (n - 1)).mpr (by omega)
    have := custody.narrow c stored
    omega
  unfold asU32
  omega

theorem verifyArtifactOn (custody : Custody s.transfer) :
    ((s.verifyArtifact input).1 = s ∧ ∀ verified, (s.verifyArtifact input).2 ≠ .ok (.committed verified)) ∨
    ∃ verified facts row computed, (s.verifyArtifact input).2 = .ok (.committed verified) ∧
      VerifiedOn s input verified facts row computed ∧
      (s.verifyArtifact input).1.transfer =
        s.transfer.setArtifactState facts.artifact.id (if verified then .verified else .failed) := by
  have ends := @verifyArtifactEnds s input
  generalize s.verifyArtifact input = result at ends ⊢
  cases ends with
  | refused uncommitted => exact .inl ⟨rfl,uncommitted⟩
  | @committed facts s' expected computed verified loaded pending counted durable reported verdict workflow rows =>
    obtain ⟨row,locked⟩ := TransferRows.loadLockedFactsOk loaded
    obtain ⟨stored,found,count⟩ := loadManifestCount locked.manifest counted
    have expectedRow := (loadManifestOk locked.manifest).digest expected durable
    refine .inr ⟨verified,facts,row,computed,rfl,⟨locked,?_,parseWireCanonical reported,fun matching => ?_⟩,rows⟩
    · rw [found,← countExact custody locked.stored found,count]
    · rw [expectedRow,verdict.mp matching]

end Verification
end Bamep
