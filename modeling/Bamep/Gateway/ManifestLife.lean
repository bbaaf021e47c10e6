import Bamep.Gateway.Custody

/-! The life of a manifest and its Artifact over whole runs of the gateway. -/
namespace Bamep
open Relational Transition

section Seal
variable {t : TransferRows} {artifactId : ArtifactId} {chunkCount : Nat} {digest : Digest}

def TransferRows.seal (t : TransferRows) (artifactId : ArtifactId) (chunkCount : Nat) (digest : Digest) :
    TransferRows :=
  (t.setSealed artifactId chunkCount digest).setArtifactState artifactId .pendingVerification

theorem memSealManifest {m} :
    m ∈ (t.seal artifactId chunkCount digest).manifests ↔
      (m ∈ t.manifests ∧ m.artifactId ≠ artifactId) ∨
        ∃ old ∈ t.manifests, old.artifactId = artifactId ∧
          m = ⟨old.artifactId,true,some (asI32 chunkCount),some digest.bytes⟩ :=
  Table.memUpdate (by exact fun _ => rfl)

theorem memSealArtifact {a} :
    a ∈ (t.seal artifactId chunkCount digest).artifacts ↔ (a ∈ t.artifacts ∧ a.id ≠ artifactId) ∨
      ∃ old ∈ t.artifacts, old.id = artifactId ∧ a = { old with state := .pendingVerification } :=
  Table.memUpdate (by exact fun _ => rfl)

theorem custodySeal (custody : Custody t) (complete : Complete t artifactId (asI32 chunkCount)) :
    Custody (t.seal artifactId chunkCount digest) := by
  refine ⟨?_,custody.narrow,custody.sized,?_,?_,?_⟩
  · intro a' memA
    obtain ⟨a,presentA,named⟩ : ∃ a ∈ t.artifacts, a.id = a'.id := by
      rcases memSealArtifact.mp memA with ⟨old,_⟩ | ⟨a,old,_,rfl⟩
      · exact ⟨a',old,rfl⟩
      · exact ⟨a,old,rfl⟩
    obtain ⟨m,present,owned⟩ := custody.manifest a presentA
    by_cases target : m.artifactId = artifactId
    · exact ⟨_,memSealManifest.mpr (.inr ⟨m,present,target,rfl⟩),owned.trans named⟩
    · exact ⟨m,memSealManifest.mpr (.inl ⟨present,target⟩),owned.trans named⟩
  · intro m' memM a' memA owned presents
    rcases memSealManifest.mp memM with ⟨presentM,target⟩ | ⟨m,_,_,rfl⟩
    · rcases memSealArtifact.mp memA with ⟨presentA,_⟩ | ⟨a,_,sealing,rfl⟩
      · exact custody.presented m' presentM a' presentA owned presents
      · exact absurd (owned.symm.trans sealing) target
    · rfl
  · intro m' memM a' memA owned incomplete
    rcases memSealArtifact.mp memA with ⟨presentA,sealing⟩ | ⟨a,_,_,rfl⟩
    · rcases memSealManifest.mp memM with ⟨presentM,_⟩ | ⟨m,_,target,rfl⟩
      · exact custody.unsealed m' presentM a' presentA owned incomplete
      · exact absurd (owned.trans target) sealing
    · contradiction
  · intro m' memM n count
    rcases memSealManifest.mp memM with ⟨presentM,_⟩ | ⟨m,_,target,rfl⟩
    · obtain ⟨indices,held⟩ := custody.complete m' presentM n count
      exact ⟨indices,held⟩
    · rw [← Option.some.inj count,target]
      exact ⟨complete.indices,complete.held⟩

end Seal

section Steps
variable {s s' : Store} {op : GatewayOp} {report : Option (ActionId × EndpointId)}

theorem sealCount {t : TransferRows} {w} {artifact : Artifact} {chunkCount digest}
    (valid : (t.seal artifact.id chunkCount digest).Valid w) {row}
    (stored : row ∈ t.manifests) (owned : row.artifactId = artifact.id) : 0 ≤ asI32 chunkCount := by
  exact valid.manifestCount _ (memSealManifest.mpr (.inr ⟨row,stored,owned,rfl⟩)) _ rfl

theorem addedSized {t t' w} (valid : t.Valid w) (valid' : t'.Valid w)
    (custody : Custody t) {transferId facts row}
    (locked : TransferRows.Loaded t transferId facts row) {index size bytes}
    (bounded : size ≤ facts.manifest.chunkSize.bytes)
    (ok : t.insertChunk? ⟨facts.artifact.id,asI32 index,asI32 size,bytes,true⟩ = some t') :
    ∀ c ∈ t'.chunks, c.chunkIndex < 2 ^ 31 ∧
      ∀ x ∈ t.transfers, x.artifactId = c.artifactId → c.size ≤ x.chunkSize.bytes := by
  obtain ⟨chunks,inserted,same⟩ := Option.map_eq_some_iff.mp ok
  subst same
  intro c mem
  rcases (Table.memInsert inserted).mp mem with old | new
  · exact ⟨custody.narrow c old,custody.sized c old⟩
  · have positive := valid'.chunkSize c mem
    subst new
    dsimp only at positive ⊢
    refine ⟨(asI32Range index).2,fun x memX owned => ?_⟩
    have one : x = facts.transfer :=
      valid.artifactUnique x memX _ locked.transfer (owned.trans locked.owned)
    have small : size < 2 ^ 32 := lt_of_le_of_lt bounded facts.manifest.chunkSize.fits
    rw [(loadManifestOk locked.manifest).chunkSize] at bounded
    rw [one,(asI32Exact small (le_of_lt positive)).1]
    exact_mod_cast bounded

theorem heldSized {t} (custody : Custody t) {artifactId index} :
    ∀ c ∈ (t.setHeld artifactId index).chunks, c.chunkIndex < 2 ^ 31 ∧
      ∀ x ∈ t.transfers, x.artifactId = c.artifactId → c.size ≤ x.chunkSize.bytes := by
  intro c mem
  rcases (Table.memUpdate (by exact fun _ => rfl)).mp mem with ⟨old,_⟩ | ⟨old,present,_,rfl⟩
  · exact ⟨custody.narrow c old,custody.sized c old⟩
  · exact ⟨custody.narrow old present,custody.sized old present⟩

theorem custodyDataPlane {t t' : TransferRows} {w : WorkflowRows} (valid : t.Valid w)
    (valid' : t'.Valid w) (custody : Custody t) (step : DataPlaneStep t op t') : Custody t' := by
  cases step with
  | chunkAdded loaded incomplete unsealed positive bounded small ok =>
    obtain ⟨row,locked⟩ := TransferRows.loadLockedFactsOk loaded
    have sized := addedSized valid valid' custody locked bounded ok
    exact custodyChunk valid custody locked.artifact incomplete (chunkAddedStep ok)
      (fun c mem => (sized c mem).1) fun c mem => (sized c mem).2
  | chunkHeld loaded incomplete =>
    obtain ⟨row,locked⟩ := TransferRows.loadLockedFactsOk loaded
    exact custodyChunk valid custody locked.artifact incomplete (chunkHeldStep _ _ _)
      (fun c mem => (heldSized custody c mem).1) fun c mem => (heldSized custody c mem).2
  | sealed loaded incomplete small sealable held =>
    obtain ⟨row,locked⟩ := TransferRows.loadLockedFactsOk loaded
    have nonneg := sealCount valid' locked.stored (locked.manifestOf.trans locked.owned.symm)
    exact custodySeal custody (sealComplete valid custody locked small nonneg sealable held)
  | verified loaded pending durable reported =>
    obtain ⟨row,locked⟩ := TransferRows.loadLockedFactsOk loaded
    refine custodyArtifact custody locked.artifact (fun _ => by rw [pending]; rfl) ?_
    split <;> nofun

theorem custodyStep (step : StoreStep s op report s') (custody : Custody s.transfer) :
    Custody s'.transfer := by
  cases step with
  | unchanged => exact custody
  | job jobOp effect kept => rw [kept]; exact custody
  | created workflow unbound incomplete owned ok =>
    exact custodyCreated s.transferValid custody incomplete owned ok
  | dispatched jobOp effect inserted fresh unbound bound => rw [bound]; exact custodyBinding custody
  | evidence jobOp locked decides leg ok transfer =>
    rw [transfer]
    split
    · exact custodyArtifact custody locked.artifact nofun nofun
    · exact custody
  | dataPlane workflow step =>
    exact custodyDataPlane s.transferValid (workflow ▸ s'.transferValid) custody step

structure Preserves (t t' : TransferRows) : Prop where
  recorded : ∀ c ∈ t.chunks, ∃ c' ∈ t'.chunks, c' = { c with held := c'.held } ∧
    (c.held = true → c'.held = true)
  frozen : ∀ m ∈ t.manifests, m.sealed = true → m ∈ t'.manifests ∧
    ∀ c, c.artifactId = m.artifactId → (c ∈ t'.chunks ↔ c ∈ t.chunks)
  absorbing : ∀ a ∈ t.artifacts, a.state = .verified ∨ a.state = .failed → a ∈ t'.artifacts

theorem preservesRefl (t : TransferRows) : Preserves t t :=
  ⟨fun c mem => ⟨c,mem,rfl,id⟩,fun _ mem _ => ⟨mem,fun _ _ => Iff.rfl⟩,fun _ mem _ => mem⟩

theorem preservesTrans (a b c : TransferRows) (first : Preserves a b) (second : Preserves b c) :
    Preserves a c := by
  refine ⟨fun x mem => ?_,fun m mem sealed => ?_,fun x mem settled => ?_⟩
  · obtain ⟨y,memY,keptY,heldY⟩ := first.recorded x mem
    obtain ⟨z,memZ,keptZ,heldZ⟩ := second.recorded y memY
    exact ⟨z,memZ,by rw [keptZ,keptY],fun held => heldZ (heldY held)⟩
  · obtain ⟨memB,sameB⟩ := first.frozen m mem sealed
    obtain ⟨memC,sameC⟩ := second.frozen m memB sealed
    exact ⟨memC,fun x owned => (sameC x owned).trans (sameB x owned)⟩
  · exact second.absorbing x (first.absorbing x mem settled) settled

theorem absorbingStep (step : StoreStep s op report s') {a} (mem : a ∈ s.transfer.artifacts)
    (settled : a.state = .verified ∨ a.state = .failed) : a ∈ s'.transfer.artifacts := by
  obtain ⟨a',present,_,move⟩ := (artifactsEvolve step).forward mem
  have same : a'.state = a.state := by
    refine move.moves.resolve_right fun moves => ?_
    rcases settled with h | h <;> rw [h] at moves <;> cases a'.state <;> contradiction
  have whole : a' = a := by rw [move.kept,same]
  exact whole ▸ present

theorem preservesChunk {t t' w} (valid : t.Valid w) (custody : Custody t)
    {artifact} (present : artifact ∈ t.artifacts) (incomplete : artifact.state = .incomplete)
    (step : ChunkStep t t' artifact.id) : Preserves t t' := by
  refine ⟨step.recorded,fun m mem sealed => ⟨step.manifests ▸ mem,fun c owned => ?_⟩,
    fun a mem _ => step.artifacts ▸ mem⟩
  exact step.elsewhere c (owned ▸ sealedSettled valid custody mem present incomplete (.inl sealed))

theorem preservesStep (step : StoreStep s op report s') (custody : Custody s.transfer) :
    Preserves s.transfer s'.transfer := by
  have absorbing := fun a (mem : a ∈ s.transfer.artifacts) => absorbingStep step mem
  have quiet : s'.transfer.chunks = s.transfer.chunks →
      (∀ m ∈ s.transfer.manifests, m.sealed = true → m ∈ s'.transfer.manifests) →
      Preserves s.transfer s'.transfer := by
    intro chunks manifests
    refine ⟨fun c mem => ⟨c,chunks ▸ mem,rfl,id⟩,fun m mem sealed => ⟨manifests m mem sealed,?_⟩,absorbing⟩
    rw [chunks]
    exact fun _ _ => Iff.rfl
  cases step with
  | unchanged => exact preservesRefl _
  | job jobOp effect kept => rw [kept]; exact preservesRefl _
  | created workflow unbound incomplete owned ok =>
    obtain ⟨_,_,manifests,chunks⟩ := insertContextSome ok
    exact quiet chunks fun m mem _ => (Table.memInsert manifests).mpr (.inl mem)
  | dispatched jobOp effect inserted fresh unbound bound =>
    exact quiet (by rw [bound]; rfl) fun m mem _ => by rw [bound]; exact mem
  | evidence jobOp locked decides leg ok transfer =>
    refine quiet ?_ fun m mem _ => ?_
    · rw [transfer]
      split <;> rfl
    · rw [transfer]
      split <;> exact mem
  | dataPlane workflow step =>
    generalize s'.transfer = t' at step absorbing quiet ⊢
    cases step with
    | chunkAdded loaded incomplete unsealed positive bounded small ok =>
      obtain ⟨row,locked⟩ := TransferRows.loadLockedFactsOk loaded
      exact preservesChunk s.transferValid custody locked.artifact incomplete (chunkAddedStep ok)
    | chunkHeld loaded incomplete =>
      obtain ⟨row,locked⟩ := TransferRows.loadLockedFactsOk loaded
      exact preservesChunk s.transferValid custody locked.artifact incomplete (chunkHeldStep _ _ _)
    | sealed loaded incomplete =>
      obtain ⟨row,locked⟩ := TransferRows.loadLockedFactsOk loaded
      refine quiet rfl fun m mem sealed => memSealManifest.mpr (.inl ⟨mem,?_⟩)
      exact sealedSettled s.transferValid custody mem locked.artifact incomplete (.inl sealed)
    | verified => exact quiet rfl fun m mem _ => mem

theorem sealTurns (step : StoreStep s op report s') {m'} (mem : m' ∈ s'.transfer.manifests)
    (sealed : m'.sealed = true) : m' ∈ s.transfer.manifests ∨
      ∃ a ∈ s'.transfer.artifacts, a.id = m'.artifactId ∧ a.state = .pendingVerification := by
  cases step with
  | unchanged => exact .inl mem
  | job jobOp effect kept => exact .inl (kept ▸ mem)
  | created workflow unbound incomplete owned ok =>
    rcases (Table.memInsert (insertContextSome ok).2.2.1).mp mem with old | new
    · exact .inl old
    · rw [new] at sealed
      contradiction
  | dispatched jobOp effect inserted fresh unbound bound =>
    rw [bound] at mem
    exact .inl mem
  | evidence jobOp locked decides leg ok transfer =>
    rw [transfer] at mem
    split at mem <;> exact .inl mem
  | dataPlane workflow step =>
    generalize s'.transfer = t' at step mem ⊢
    cases step with
    | chunkAdded loaded incomplete unsealed positive bounded small ok =>
      obtain ⟨_,_,rfl⟩ := Option.map_eq_some_iff.mp ok
      exact .inl mem
    | chunkHeld | verified => exact .inl mem
    | sealed loaded =>
      obtain ⟨row,locked⟩ := TransferRows.loadLockedFactsOk loaded
      rcases memSealManifest.mp mem with ⟨old,_⟩ | ⟨m,_,target,rfl⟩
      · exact .inl old
      · refine .inr ⟨_,memSealArtifact.mpr (.inr ⟨_,locked.artifact,rfl,rfl⟩),?_⟩
        exact ⟨target.symm,rfl⟩

theorem verifiedBy (step : StoreStep s op report s') {a a'} (old : a ∈ s.transfer.artifacts)
    (new : a' ∈ s'.transfer.artifacts) (same : a'.id = a.id) (unverified : a.state ≠ .verified)
    (verified : a'.state = .verified) :
    ∃ input, op = .verifyArtifact input ∧ ∃ m ∈ s.transfer.manifests, m.artifactId = a.id ∧
      m.sealed = true ∧ ∃ computed : Digest, m.artifactDigest = some computed.bytes ∧
        Digest.parseWireValue .sha256 input.computedArtifactDigest = .ok computed := by
  cases artifactWritten step old new same with
  | kept => contradiction
  | lost => contradiction
  | sealed => contradiction
  | @verified input facts row expected computed locked pending durable reported =>
    have replayed := loadManifestOk locked.manifest
    have stored := replayed.digest expected durable
    refine ⟨input,rfl,row,locked.stored,locked.manifestOf.trans locked.owned.symm,?_,computed,?_,reported⟩
    · rcases s.transferValid.manifestFacts row locked.stored with ⟨_,_,none⟩ | ⟨sealed,_⟩
      · rw [none] at stored
        contradiction
      · exact sealed
    · by_cases matching : computed.bytes = expected.bytes
      · rw [stored,matching]
      · simp only [if_neg matching] at verified
        contradiction

end Steps

section Runs

def stored (events : List GatewayOp) : TransferRows := (run Gateway.after .empty events).store.transfer

def EverPending (events : List GatewayOp) (artifactId : ArtifactId) : Prop :=
  ∃ first rest, events = first ++ rest ∧
    ∃ a ∈ (stored first).artifacts, a.id = artifactId ∧ a.state = .pendingVerification

structure Gateway.Keeping (g : Gateway) : Prop where
  sound : g.Sound
  custody : Custody g.store.transfer

theorem keepingAfter (g : Gateway) (op : GatewayOp) (keeping : g.Keeping) : (g.after op).Keeping :=
  ⟨gatewaySound g op keeping.sound,custodyStep (gatewayStep g op keeping.sound) keeping.custody⟩

theorem keepingRun (events : List GatewayOp) : (run Gateway.after .empty events).Keeping :=
  runAlways keepingAfter ⟨soundEmpty,custodyEmpty⟩ events

theorem storedStep (events : List GatewayOp) (op : GatewayOp) :
    StoreStep (run Gateway.after .empty events).store op
      ((run Gateway.after .empty events).successReport op)
      (run Gateway.after .empty (events ++ [op])).store := by
  rw [runAppend]
  exact gatewayStep _ op (keepingRun events).sound

theorem storedPreserves (events later : List GatewayOp) :
    Preserves (stored events) (stored (events ++ later)) := by
  unfold stored
  rw [runAppend]
  exact @runRelates _ _ Gateway.after (fun _ _ => True) Gateway.Keeping
    (fun g g' => Preserves g.store.transfer g'.store.transfer) (fun g => preservesRefl _)
    (fun a b c => preservesTrans _ _ _) (fun g op keeping _ => keepingAfter g op keeping)
    (fun g op keeping _ => preservesStep (gatewayStep g op keeping.sound) keeping.custody) _ later
    (keepingRun events) (meetsOf (fun _ _ _ => trivial) _)

theorem sealedIffPending {events m} (mem : m ∈ (stored events).manifests) :
    m.sealed = true ↔ EverPending events m.artifactId := by
  constructor
  · intro sealed
    -- Follow the run to the step that sealed this manifest.
    obtain ⟨first,op,rest,same,before,m',mem',named,sealed'⟩ := @runTurns _ _ Gateway.after
      (fun g => ∃ row ∈ g.store.transfer.manifests, row.artifactId = m.artifactId ∧ row.sealed = true)
      .empty events (fun ⟨row,present,_⟩ => absurd present (Table.notMemEmpty _)) ⟨m,mem,rfl,sealed⟩
    rcases sealTurns (storedStep first op) mem' sealed' with old | ⟨a,present,owned,pending⟩
    · exact absurd ⟨m',old,named,sealed'⟩ before
    · exact ⟨first ++ [op],rest,by rw [same]; simp,a,present,owned.trans named,pending⟩
  · rintro ⟨first,rest,rfl,a,present,owned,pending⟩
    have custody := (keepingRun first).custody
    obtain ⟨m',mem',named⟩ := custody.manifest a present
    have sealed := custody.presented m' mem' a present named.symm (by rw [pending]; rfl)
    have kept := ((storedPreserves first rest).frozen m' mem' sealed).1
    rw [Table.eqOfKey mem kept (owned.symm.trans named.symm)]
    exact sealed

structure ManifestLife (events later : List GatewayOp) (op : GatewayOp) : Prop where
  recorded : ∀ c ∈ (stored events).chunks, ∃ c' ∈ (stored (events ++ later)).chunks,
    c' = { c with held := c'.held } ∧ (c.held = true → c'.held = true)
  sized : ∀ x ∈ (stored events).transfers, ∀ c ∈ (stored events).chunks, c.artifactId = x.artifactId →
    1 ≤ c.size ∧ c.size ≤ x.chunkSize.bytes
  sealed : ∀ x ∈ (stored events).transfers, ∃ m ∈ (stored events).manifests, m.artifactId = x.artifactId ∧
    (m.sealed = true ↔ EverPending events x.artifactId) ∧
    (m.sealed = true → ∃ count, m.chunkCount = some count ∧ m.artifactDigest.isSome = true ∧
      Complete (stored events) x.artifactId count)
  frozen : ∀ m ∈ (stored events).manifests, m.sealed = true → m ∈ (stored (events ++ later)).manifests ∧
    ∀ c, c.artifactId = m.artifactId → (c ∈ (stored (events ++ later)).chunks ↔ c ∈ (stored events).chunks)
  moves : ∀ a ∈ (stored events).artifacts, ∃ a' ∈ (stored (events ++ [op])).artifacts, a'.id = a.id ∧
    (a'.state = a.state ∨ a.state.moves a'.state = true)
  absorbing : ∀ a ∈ (stored events).artifacts, a.state = .verified ∨ a.state = .failed →
    a ∈ (stored (events ++ later)).artifacts
  verified : ∀ a ∈ (stored events).artifacts, ∀ a' ∈ (stored (events ++ [op])).artifacts, a'.id = a.id →
    a.state ≠ .verified → a'.state = .verified → ∃ input, op = .verifyArtifact input ∧
      ∃ m ∈ (stored events).manifests, m.artifactId = a.id ∧ m.sealed = true ∧
        ∃ computed : Digest, m.artifactDigest = some computed.bytes ∧
          Digest.parseWireValue .sha256 input.computedArtifactDigest = .ok computed

theorem manifestLife (events later : List GatewayOp) (op : GatewayOp) : ManifestLife events later op := by
  have custody := (keepingRun events).custody
  have valid := (run Gateway.after .empty events).store.transferValid
  have preserves := storedPreserves events later
  refine ⟨preserves.recorded,?_,?_,preserves.frozen,?_,preserves.absorbing,?_⟩
  · intro x memX c memC owned
    exact ⟨valid.chunkSize c memC,custody.sized c memC x memX owned.symm⟩
  · intro x memX
    obtain ⟨a,memA,owned⟩ := valid.transferArtifact x memX
    obtain ⟨m,memM,named⟩ := custody.manifest a memA
    have same : m.artifactId = x.artifactId := named.trans owned
    refine ⟨m,memM,same,same ▸ sealedIffPending memM,fun sealed => ?_⟩
    rcases valid.manifestFacts m memM with ⟨unsealed,_⟩ | ⟨_,count,digest⟩
    · rw [unsealed] at sealed
      contradiction
    · obtain ⟨n,known⟩ := Option.isSome_iff_exists.mp count
      exact ⟨n,known,digest,same ▸ custody.complete m memM n known⟩
  · intro a mem
    obtain ⟨a',present,named,move⟩ := (artifactsEvolve (storedStep events op)).forward mem
    exact ⟨a',present,named,move.moves⟩
  · exact fun a old a' new same unverified verified =>
      verifiedBy (storedStep events op) old new same unverified verified

end Runs
end Bamep
