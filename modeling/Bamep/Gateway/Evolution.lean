import Bamep.Gateway.Step

/-! What a gateway step keeps of Attempts, Transfers and Artifacts. A Transfer is bound once, to an
Attempt that is inserted in the same step; an Artifact moves only along `ArtifactState.moves`. -/
namespace Bamep
open Relational

def ArtifactState.moves : ArtifactState → ArtifactState → Bool
  | .incomplete,.pendingVerification | .incomplete,.failed
  | .pendingVerification,.verified | .pendingVerification,.failed => true
  | _,_ => false

structure ArtifactMove (before after : Artifact) : Prop where
  kept : after = { before with state := after.state }
  moves : after.state = before.state ∨ before.state.moves after.state = true

structure Rebinds (w : WorkflowRows) (before after : Transfer) : Prop where
  kept : after = { before with attemptId := after.attemptId }
  binding : after.attemptId = before.attemptId ∨ before.attemptId = none ∧
    ∃ id, after.attemptId = some id ∧ ∀ a ∈ w.attempts, a.id ≠ id

theorem artifactStill (artifact : Artifact) : ArtifactMove artifact artifact := ⟨rfl,.inl rfl⟩

theorem rebindsStill (w : WorkflowRows) (transfer : Transfer) : Rebinds w transfer transfer :=
  ⟨rfl,.inl rfl⟩

theorem insertContextSome {t t' context}
    (ok : insertContext? t context = some t') :
    t.artifacts.insert? context.artifact = some t'.artifacts ∧
      t.transfers.insert? context.transfer = some t'.transfers ∧
      t.manifests.insert? ⟨context.artifact.id,false,none,none⟩ = some t'.manifests ∧
      t'.chunks = t.chunks := by
  obtain ⟨artifacts,artifactsOk,ok⟩ := Option.bind_eq_some_iff.mp ok
  obtain ⟨transfers,transfersOk,ok⟩ := Option.bind_eq_some_iff.mp ok
  obtain ⟨manifests,manifestsOk,ok⟩ := Option.bind_eq_some_iff.mp ok
  cases Option.some.inj ok
  exact ⟨artifactsOk,transfersOk,manifestsOk,rfl⟩

theorem artifactsEvolveTo {t : TransferRows} {artifact state}
    {new : Artifact → Prop} (mem : artifact ∈ t.artifacts) (moves : artifact.state.moves state = true) :
    Evolves ArtifactMove new t.artifacts (t.setArtifactState artifact.id state).artifacts := by
  refine .update (by exact fun _ => rfl) (fun a _ => artifactStill a) fun a present named => ?_
  cases Table.eqOfKey present mem named
  exact ⟨rfl,.inr moves⟩

theorem dataPlaneArtifacts {t t' : TransferRows} {op} {new : Artifact → Prop}
    (step : DataPlaneStep t op t') : Evolves ArtifactMove new t.artifacts t'.artifacts := by
  cases step with
  | chunkAdded loaded incomplete unsealed positive bounded small ok =>
    obtain ⟨_,_,rfl⟩ := Option.map_eq_some_iff.mp ok
    exact .refl fun a _ => artifactStill a
  | chunkHeld => exact .refl fun a _ => artifactStill a
  | sealed loaded incomplete small sealable held =>
    obtain ⟨_,locked⟩ := TransferRows.loadLockedFactsOk loaded
    exact artifactsEvolveTo locked.artifact (by rw [incomplete]; rfl)
  | verified loaded pending durable reported =>
    obtain ⟨_,locked⟩ := TransferRows.loadLockedFactsOk loaded
    refine artifactsEvolveTo locked.artifact ?_
    rw [pending]
    split <;> rfl

section Steps
variable {s s' : Store} {op : GatewayOp} {report : Option (ActionId × EndpointId)}

theorem stepEffect (step : StoreStep s op report s') : ∃ jobOp, Effect s.workflow jobOp s'.workflow := by
  cases step with
  | unchanged => exact ⟨.reconcileAllActiveAttemptsOnStartup,.unchanged _⟩
  | job jobOp effect => exact ⟨jobOp,effect⟩
  | created workflow => exact ⟨.reconcileAllActiveAttemptsOnStartup,by rw [workflow]; exact .unchanged _⟩
  | dispatched jobOp effect => exact ⟨jobOp,effect⟩
  | evidence jobOp locked decides leg ok => exact ⟨jobOp,.evidence locked.owners decides ok⟩
  | dataPlane workflow => exact ⟨.reconcileAllActiveAttemptsOnStartup,by rw [workflow]; exact .unchanged _⟩

theorem artifactsEvolve (step : StoreStep s op report s') :
    Evolves ArtifactMove (fun a => a.state = .incomplete) s.transfer.artifacts s'.transfer.artifacts := by
  have still : ∀ a ∈ s.transfer.artifacts, ArtifactMove a a := fun a _ => artifactStill a
  cases step with
  | unchanged => exact .refl still
  | job jobOp effect kept => rw [kept]; exact .refl still
  | created workflow unbound incomplete owned ok =>
    exact .insert (insertContextSome ok).1 still incomplete
  | dispatched jobOp effect inserted fresh unbound bound => rw [bound]; exact .refl still
  | evidence jobOp locked decides leg ok transfer =>
    rw [transfer]
    split
    · rename_i fails
      exact artifactsEvolveTo locked.artifact (by rw [(leg.fails fails).1]; rfl)
    · exact .refl still
  | dataPlane workflow step => exact dataPlaneArtifacts step

theorem dataPlaneTransfers {t t'} (step : DataPlaneStep t op t') :
    t'.transfers = t.transfers := by
  cases step with
  | chunkAdded loaded incomplete unsealed positive bounded small ok =>
    obtain ⟨_,_,rfl⟩ := Option.map_eq_some_iff.mp ok
    rfl
  | chunkHeld | sealed | verified => rfl

theorem transfersEvolve (step : StoreStep s op report s') :
    Evolves (Rebinds s.workflow) (fun x => x.attemptId = none) s.transfer.transfers
      s'.transfer.transfers := by
  have still : ∀ x ∈ s.transfer.transfers, Rebinds s.workflow x x := fun x _ => rebindsStill _ x
  cases step with
  | unchanged => exact .refl still
  | job jobOp effect kept => rw [kept]; exact .refl still
  | created workflow unbound incomplete owned ok => exact .insert (insertContextSome ok).2.1 still unbound
  | dispatched jobOp effect inserted fresh unbound bound =>
    rw [bound]
    refine .update (by exact fun _ => rfl) still fun x present named => ⟨rfl,.inr ⟨?_,_,rfl,?_⟩⟩
    · exact unbound x present named
    · exact fun a mem => Table.insertAbsent inserted mem
  | evidence jobOp locked decides leg ok transfer =>
    rw [transfer]
    split <;> exact .refl still
  | dataPlane workflow step => rw [dataPlaneTransfers step]; exact .refl still

theorem artifactSet {t : TransferRows} {artifact a a' state}
    (mem : artifact ∈ t.artifacts) (old : a ∈ t.artifacts)
    (new : a' ∈ (t.setArtifactState artifact.id state).artifacts) (same : a'.id = a.id) :
    a' = a ∨ a = artifact ∧ a' = { artifact with state := state } := by
  rcases (Table.memUpdate (by exact fun _ => rfl)).mp new with ⟨present,_⟩ | ⟨row,present,named,rfl⟩
  · exact .inl (Table.eqOfKey present old same)
  · cases Table.eqOfKey present mem named
    exact .inr ⟨Table.eqOfKey old mem same.symm,rfl⟩

inductive ArtifactWrite (s s' : Store) : GatewayOp → Artifact → Artifact → Prop where
  | kept (op a) : ArtifactWrite s s' op a a
  | lost {i stamp facts applied failed} (jobOp : JobOp) (locked : TransferLocked s facts)
      (decides : jobOp.Decides facts.workflow applied) (leg : ArtifactLeg facts applied failed)
      (fails : failed.isSome = true) (ok : s.workflow.persistApplied? applied = some s'.workflow)
      (kept : s'.transfer.transfers = s.transfer.transfers) :
      ArtifactWrite s s' (.advance i stamp) facts.artifact { facts.artifact with state := .failed }
  | sealed {op a} : ArtifactWrite s s' op a { a with state := .pendingVerification }
  | verified {input facts row} {expected computed : Digest}
      (locked : TransferRows.Loaded s.transfer input.transferId facts row)
      (pending : facts.artifact.state = .pendingVerification)
      (durable : facts.manifest.artifactDigest = some expected)
      (reported : Digest.parseWireValue facts.manifest.digestAlgorithm input.computedArtifactDigest =
        .ok computed) :
      ArtifactWrite s s' (.verifyArtifact input) facts.artifact { facts.artifact with
        state := if computed.bytes = expected.bytes then .verified else .failed }

theorem artifactWritten (step : StoreStep s op report s') {a a' : Artifact}
    (old : a ∈ s.transfer.artifacts) (new : a' ∈ s'.transfer.artifacts) (same : a'.id = a.id) :
    ArtifactWrite s s' op a a' := by
  have still : a' ∈ s.transfer.artifacts → ArtifactWrite s s' op a a' := by
    intro present
    rw [Table.eqOfKey present old same]
    exact .kept op a
  cases step with
  | unchanged => exact still new
  | job jobOp effect kept => exact still (kept ▸ new)
  | created workflow unbound incomplete owned ok =>
    rcases (Table.memInsert (insertContextSome ok).1).mp new with present | fresh
    · exact still present
    · exact absurd (by rw [← same,fresh]) (Table.insertAbsent (insertContextSome ok).1 old)
  | dispatched jobOp effect inserted fresh unbound bound =>
    rw [bound] at new
    exact still new
  | @evidence _ _ _ _ jobOp _ _ failed locked decides leg ok transfer =>
    by_cases fails : failed.isSome = true
    · rw [transfer,if_pos fails] at new
      rcases artifactSet locked.artifact old new same with rfl | ⟨rfl,rfl⟩
      · exact .kept _ _
      · exact .lost jobOp locked decides leg fails ok (by rw [transfer,if_pos fails]; rfl)
    · rw [transfer,if_neg fails] at new
      exact still new
  | dataPlane workflow step =>
    generalize rows : s'.transfer = t' at step new
    cases step with
    | chunkAdded loaded incomplete unsealed positive bounded small ok =>
      obtain ⟨_,_,rfl⟩ := Option.map_eq_some_iff.mp ok
      exact still new
    | chunkHeld => exact still new
    | sealed loaded =>
      obtain ⟨_,locked⟩ := TransferRows.loadLockedFactsOk loaded
      rcases artifactSet locked.artifact old new same with rfl | ⟨rfl,rfl⟩
      · exact .kept _ _
      · exact .sealed
    | verified loaded pending durable reported =>
      obtain ⟨_,locked⟩ := TransferRows.loadLockedFactsOk loaded
      rcases artifactSet locked.artifact old new same with rfl | ⟨rfl,rfl⟩
      · exact .kept _ _
      · exact .verified locked pending durable reported

end Steps
end Bamep
