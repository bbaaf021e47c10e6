import Bamep.Gateway.Sound

/-! A bound Attempt and its Artifact. `BoundOutcome p q`: whenever an Attempt in a state of `p` is bound
to a Transfer, the Artifact of that Transfer is in a state of `q`. One step lemma serves both
directions: success asks for a verified Artifact, failure and cancellation for a settled one. -/
namespace Bamep
open Relational Transition

def BoundOutcome (p : AttemptState → Bool) (q : ArtifactState → Bool) (s : Store) : Prop :=
  ∀ x ∈ s.transfer.transfers, ∀ a ∈ s.workflow.attempts, x.attemptId = some a.id → p a.state = true →
    ∀ artifact ∈ s.transfer.artifacts, artifact.id = x.artifactId → q artifact.state = true

inductive Settled (s : Store) (report : Option (ActionId × EndpointId)) (s' : Store)
    (before after : Attempt) : Prop where
  | kept (same : after = before)
  | uncertain (awaiting : after.state = .awaitingReconciliation)
  | routed (facts : EvidenceFacts) (applied : Applied) (jobOp : JobOp) (locked : Locked s.workflow facts)
      (decides : jobOp.Decides facts applied) (route : Routed s report jobOp)
      (old : facts.attempt = before) (new : applied.attempt = after)
  | evidence (facts : TransferEvidenceFacts) (applied : Applied) (failed : Option Artifact)
      (locked : TransferLocked s facts) (leg : ArtifactLeg facts applied failed)
      (old : facts.attempt = before) (new : applied.attempt = after)
      (transfer : s'.transfer = if failed.isSome then
        s.transfer.setArtifactState facts.artifact.id .failed else s.transfer)

section Steps
variable {s s' : Store} {op : GatewayOp} {report : Option (ActionId × EndpointId)}
variable {p : AttemptState → Bool} {q : ArtifactState → Bool}

theorem attemptSettled (step : StoreStep s op report s') {a b} (old : a ∈ s.workflow.attempts)
    (mem : b ∈ s'.workflow.attempts) (same : b.id = a.id) : Settled s report s' a b := by
  have still : b ∈ s.workflow.attempts → b = a := fun present => Table.eqOfKey present old same
  cases step with
  | unchanged => exact .kept (still mem)
  | created workflow => exact .kept (still (workflow ▸ mem))
  | dataPlane workflow => exact .kept (still (workflow ▸ mem))
  | job jobOp effect kept routed =>
    rcases attemptCause effect old mem same with h | h | ⟨facts,applied,locked,decides,first,last⟩
    · exact .kept h
    · exact .uncertain h
    · exact .routed facts applied jobOp locked decides routed first last
  | dispatched jobOp effect inserted =>
    rcases (Table.memInsert inserted).mp mem with present | new
    · exact .kept (still present)
    · exact absurd (by rw [← same,new]) (Table.insertAbsent inserted old)
  | @evidence _ _ _ _ jobOp facts applied failed locked decides leg ok transfer =>
    rcases persistedAttempt locked.owners decides ok old mem same with h | ⟨first,last⟩
    · exact .kept h
    · exact .evidence facts applied failed locked leg first last transfer

-- A binding of the new state either is new, with an Attempt just dispatched, or was there before.
theorem bindingOrigin (step : StoreStep s op report s') {x'} (mem : x' ∈ s'.transfer.transfers)
    {b} (present : b ∈ s'.workflow.attempts) (bound : x'.attemptId = some b.id) :
    b.state = .dispatched ∨ ∃ x ∈ s.transfer.transfers, ∃ a ∈ s.workflow.attempts,
      x.attemptId = some a.id ∧ b.id = a.id ∧ x = x' := by
  rcases (transfersEvolve step).back mem with ⟨x,memX,_,rebinds⟩ | fresh
  · rcases rebinds.binding with kept | ⟨_,id,binding,absent⟩
    · have same : x' = x := by rw [rebinds.kept,kept]
      rcases s.transferValid.transferAttempt x memX with free | ⟨a,memA,named⟩
      · rw [kept,free] at bound
        contradiction
      · rw [kept,← named] at bound
        exact .inr ⟨x,memX,a,memA,named.symm,(Option.some.inj bound).symm,same.symm⟩
    · obtain ⟨jobOp,effect⟩ := stepEffect step
      rcases (attemptsEvolve effect).back present with ⟨a,memA,named,_⟩ | new
      · exact absurd (named.symm.trans (Option.some.inj (bound.symm.trans binding))) (absent a memA)
      · exact .inl new.1
  · rw [fresh] at bound
    contradiction

theorem artifactOrigin (step : StoreStep s op report s') {x} (mem : x ∈ s.transfer.transfers)
    {artifact'} (present : artifact' ∈ s'.transfer.artifacts)
    (named : artifact'.id = x.artifactId) :
    ∃ artifact ∈ s.transfer.artifacts, artifact.id = x.artifactId ∧ ArtifactMove artifact artifact' := by
  obtain ⟨artifact,memA,owned⟩ := s.transferValid.transferArtifact x mem
  obtain ⟨later,memL,same,move⟩ := (artifactsEvolve step).forward memA
  cases Table.eqOfKey memL present (same.trans (owned.trans named.symm))
  exact ⟨artifact,memA,owned,move⟩

theorem evidenceArtifact {facts} {failed : Option Artifact}
    (locked : TransferLocked s facts) (transfer : s'.transfer = if failed.isSome then
      s.transfer.setArtifactState facts.artifact.id .failed else s.transfer)
    {artifact'} (present : artifact' ∈ s'.transfer.artifacts)
    (named : artifact'.id = facts.transfer.artifactId) :
    artifact'.state = if failed.isSome then .failed else facts.artifact.state := by
  rw [transfer] at present
  split
  · rename_i fails
    rw [if_pos fails] at present
    rcases (Table.memUpdate (by exact fun _ => rfl)).mp present with ⟨_,other⟩ | ⟨_,_,_,rfl⟩
    · exact absurd (named.trans locked.owned.symm) other
    · rfl
  · rename_i keeps
    rw [if_neg keeps] at present
    rw [Table.eqOfKey present locked.artifact (named.trans locked.owned.symm)]

theorem boundOutcomeStep (step : StoreStep s op report s') (inv : BoundOutcome p q s)
    (fresh : p .dispatched = false) (uncertain : p .awaitingReconciliation = false)
    (stable : ∀ x y : ArtifactState, x.moves y = true → q x = true → q y = true)
    (routed : ∀ jobOp facts applied, Routed s report jobOp → Locked s.workflow facts →
      jobOp.Decides facts applied → p applied.attempt.state = true → ∀ x ∈ s.transfer.transfers,
      x.attemptId = some facts.attempt.id → ∀ artifact ∈ s.transfer.artifacts,
        artifact.id = x.artifactId → q artifact.state = true)
    (evidence : ∀ facts applied failed, ArtifactLeg facts applied failed →
      p applied.attempt.state = true → p facts.attempt.state = true ∨
        q (if failed.isSome then .failed else facts.artifact.state) = true) :
    BoundOutcome p q s' := by
  intro x' memX' b memB bound settled artifact' memArtifact' named
  rcases bindingOrigin step memX' memB bound with new | ⟨x,memX,a,memA,binding,sameId,rfl⟩
  · rw [new,fresh] at settled
    contradiction
  obtain ⟨artifact,memArtifact,owned,move⟩ := artifactOrigin step memX memArtifact' named
  have carry : q artifact.state = true → q artifact'.state = true := by
    intro holds
    rcases move.moves with same | moved
    · rw [same]; exact holds
    · exact stable _ _ moved holds
  cases attemptSettled step memA memB sameId with
  | kept same => exact carry (inv x memX a memA binding (same ▸ settled) artifact memArtifact owned)
  | uncertain awaiting =>
    rw [awaiting,uncertain] at settled
    contradiction
  | routed facts applied jobOp locked decides route old new =>
    subst old new
    exact carry (routed jobOp facts applied route locked decides settled x memX binding artifact
      memArtifact owned)
  | evidence facts applied failed locked leg old new transfer =>
    subst old new
    have one : x = facts.transfer := s.transferValid.attemptUnique x memX _ locked.transfer
      (by rw [binding]; rfl) (binding.trans locked.bound.symm)
    subst one
    rcases evidence facts applied failed leg settled with before | now
    · exact carry (inv _ memX _ memA binding before artifact memArtifact owned)
    · rw [evidenceArtifact locked transfer memArtifact' named]
      exact now

end Steps

section Success

-- The reported Attempt awaits reconciliation and is bound to a Transfer with an unverified Artifact.
def Store.ReportsUnverified (s : Store) (report : ActionId × EndpointId) : Prop :=
  s.actionTargetsEndpoint report.1 report.2 = true ∧ ∃ a ∈ s.workflow.attempts,
    (a.actionId = report.1 ∧ a.state = .awaitingReconciliation) ∧ ∃ x ∈ s.transfer.transfers,
      x.attemptId = some a.id ∧ ∃ artifact ∈ s.transfer.artifacts,
        artifact.id = x.artifactId ∧ artifact.state ≠ .verified

instance (s : Store) (report : ActionId × EndpointId) : Decidable (s.ReportsUnverified report) := by
  unfold Store.ReportsUnverified
  infer_instance

def Gateway.ReportsVerified (g : Gateway) (op : GatewayOp) : Prop :=
  ∀ report ∈ g.successReport op, ¬ g.store.ReportsUnverified report

instance (g : Gateway) (op : GatewayOp) : Decidable (g.ReportsVerified op) := by
  unfold Gateway.ReportsVerified
  infer_instance

def SuccessVerified : Store → Prop := BoundOutcome (· = .succeeded) (· = .verified)

structure Gateway.Trusted (g : Gateway) : Prop where
  sound : g.Sound
  linear : Linear g.store.workflow
  success : SuccessVerified g.store

theorem lockedTargets {s : Store} {facts} (locked : Locked s.workflow facts) :
    s.actionTargetsEndpoint facts.attempt.actionId facts.job.endpointId = true := by
  obtain ⟨row,memRow,named,_,endpoint,_⟩ := lockedJob locked
  simp only [Store.actionTargetsEndpoint,List.any_eq_true,Bool.and_eq_true,decide_eq_true_eq]
  exact ⟨facts.attempt,locked.attempt,rfl,facts.jobStep,locked.step,locked.owner,row,memRow,named,endpoint.symm⟩

theorem successStep {s s' : Store} {op report}
    (step : StoreStep s op report s') (verified : ∀ r ∈ report, ¬ s.ReportsUnverified r)
    (inv : SuccessVerified s) : SuccessVerified s' := by
  refine boundOutcomeStep step inv rfl rfl (fun x y => by cases x <;> cases y <;> decide) ?_ ?_
  · intro jobOp facts applied route locked decides succeeded x memX bound artifact memA owned
    obtain ⟨awaiting,reported⟩ := (route facts applied locked decides ⟨x,memX,bound⟩).2
      (of_decide_eq_true succeeded)
    by_contra unverified
    exact verified _ reported ⟨lockedTargets locked,facts.attempt,locked.attempt,⟨rfl,awaiting⟩,x,memX,
      bound,artifact,memA,owned,by simpa using unverified⟩
  · intro facts applied failed leg succeeded
    have state := of_decide_eq_true succeeded
    rcases leg.succeeds state with before | verified
    · exact .inl (decide_eq_true before)
    · refine .inr ?_
      split
      · rename_i fails
        have lost := (leg.fails fails).2
        rw [state] at lost
        contradiction
      · exact decide_eq_true verified

theorem trustedAfter (g : Gateway) (op : GatewayOp) (trusted : g.Trusted) (verified : g.ReportsVerified op) :
    (g.after op).Trusted := by
  have step := gatewayStep g op trusted.sound
  obtain ⟨jobOp,effect⟩ := stepEffect step
  exact ⟨gatewaySound g op trusted.sound,linearEffect g.store.workflowValid trusted.linear effect,
    successStep step verified trusted.success⟩

theorem trustedEmpty : Gateway.empty.Trusted :=
  ⟨soundEmpty,linearEmpty,fun _ mem => absurd mem (Table.notMemEmpty _)⟩

theorem succeededArtifactVerified {events : List GatewayOp}
    (meets : Meets Gateway.after Gateway.ReportsVerified .empty events) :
    let s := (run Gateway.after .empty events).store
    ∀ x ∈ s.transfer.transfers, ∀ a ∈ s.workflow.attempts, x.attemptId = some a.id →
      a.state = .succeeded →
        (∀ step ∈ s.workflow.jobSteps, step.id = a.jobStepId → step.state = .succeeded) ∧
        ∀ artifact ∈ s.transfer.artifacts, artifact.id = x.artifactId → artifact.state = .verified := by
  intro s x memX a memA bound succeeded
  have trusted := runInvariant trustedAfter trustedEmpty meets
  refine ⟨fun step memS owner => ?_,fun artifact memArtifact owned => ?_⟩
  · rw [(trusted.linear.agrees a memA step memS owner).1,succeeded]
    rfl
  · exact of_decide_eq_true
      (trusted.success x memX a memA bound (decide_eq_true succeeded) artifact memArtifact owned)

-- One JobStep with a Transfer of such chunks, dispatched and acknowledged.
def inProgressWith (chunkSize : ChunkSize) : List GatewayOp :=
  [.control ⟨.createWorkflow (some .enrolled) ⟨1⟩ (fun _ => ⟨2⟩) ⟨0⟩ 1,rfl⟩,
    .control ⟨.admitJob ⟨1⟩ (ticket 1),rfl⟩,
    .control ⟨.createTransferContext true ⟨3⟩ ⟨4⟩ ⟨0⟩ ⟨1⟩ ⟨2⟩ .agentToServer .sha256 chunkSize "disk",rfl⟩,
    .control ⟨.satisfyCurrentStepPreconditions ⟨1⟩ ⟨2⟩,rfl⟩,
    .control ⟨.commitTransferDispatch ⟨1⟩ ⟨2⟩ ⟨3⟩ ⟨5⟩ ⟨6⟩,rfl⟩,
    .receive ⟨0⟩ (.actionAck (some ⟨6⟩) ⟨6⟩ .accepted),
    .advance 0 (ticket 2)]

def transferInProgress : List GatewayOp := inProgressWith ⟨1,by decide,by decide⟩

-- The session is lost and the reconnected Agent reports success.
def reconciledSuccess : List GatewayOp :=
  [.control ⟨.markEndpointUncertain ⟨0⟩ ⟨6⟩,rfl⟩,
    .receive ⟨0⟩ (.statusReport (some ⟨6⟩) ⟨6⟩ .succeeded),
    .advance 0 (ticket 3)]

def zeroDigest : String := Base64Url.encode (List.replicate 32 0)

def uploadAndVerify : List GatewayOp :=
  [.acceptChunk ⟨3⟩ 0 zeroDigest 1,
    .sealManifest ⟨3⟩ ⟨⟨0⟩,⟨3⟩,⟨4⟩,.agentToServer,⟨5⟩,[],0,0⟩ (some true) 1 zeroDigest true,
    .verifyArtifact ⟨⟨3⟩,⟨4⟩,1,zeroDigest,zeroDigest⟩]

theorem succeededArtifactVerifiedReconciled :
    let s := (run Gateway.after .empty (transferInProgress ++ uploadAndVerify ++ reconciledSuccess)).store
    (∃ x ∈ s.transfer.transfers, ∃ a ∈ s.workflow.attempts, x.attemptId = some a.id ∧ a.state = .succeeded) ∧
    ∀ x ∈ s.transfer.transfers, ∀ a ∈ s.workflow.attempts, x.attemptId = some a.id → a.state = .succeeded →
      (∀ step ∈ s.workflow.jobSteps, step.id = a.jobStepId → step.state = .succeeded) ∧
      ∀ artifact ∈ s.transfer.artifacts, artifact.id = x.artifactId → artifact.state = .verified :=
  ⟨by decide +kernel,succeededArtifactVerified (by decide +kernel)⟩

theorem reportSucceedsUnverified :
    let s := (run Gateway.after .empty (transferInProgress ++ reconciledSuccess)).store
    ∃ x ∈ s.transfer.transfers, ∃ a ∈ s.workflow.attempts, x.attemptId = some a.id ∧
      a.state = .succeeded ∧ (∃ step ∈ s.workflow.jobSteps, step.id = a.jobStepId ∧ step.state = .succeeded) ∧
      ∃ artifact ∈ s.transfer.artifacts, artifact.id = x.artifactId ∧ artifact.state = .incomplete := by
  decide +kernel

end Success

section Loss
variable {s s' : Store} {op : GatewayOp} {report : Option (ActionId × EndpointId)}

def LossSettled : Store → Prop := BoundOutcome AttemptState.lost (· ≠ .incomplete)

theorem lossStep (step : StoreStep s op report s') (inv : LossSettled s) : LossSettled s' := by
  refine boundOutcomeStep step inv rfl rfl (fun x y => by cases x <;> cases y <;> decide) ?_ ?_
  · intro jobOp facts applied route locked decides lost x memX bound
    rw [(route facts applied locked decides ⟨x,memX,bound⟩).1] at lost
    contradiction
  · intro facts applied failed leg lost
    cases failed with
    | some artifact => exact .inr rfl
    | none =>
      rcases leg.closes lost rfl with same | settled
      · exact .inl (same ▸ lost)
      · exact .inr (decide_eq_true settled)

def LostWith (s s' : Store) (artifact : Artifact) : Prop :=
  ∃ x ∈ s.transfer.transfers, x ∈ s'.transfer.transfers ∧ x.artifactId = artifact.id ∧
    ∃ a ∈ s.workflow.attempts, ∃ b ∈ s'.workflow.attempts, x.attemptId = some a.id ∧ b.id = a.id ∧
      a.state.lost = false ∧ b.state.lost = true

theorem artifactFailure (step : StoreStep s op report s') (inv : LossSettled s)
    {artifact artifact'} (old : artifact ∈ s.transfer.artifacts)
    (new : artifact' ∈ s'.transfer.artifacts) (same : artifact'.id = artifact.id)
    (incomplete : artifact.state = .incomplete) (failed : artifact'.state = .failed) :
    LostWith s s' artifact := by
  cases artifactWritten step old new same with
  | kept =>
    rw [incomplete] at failed
    contradiction
  | sealed => contradiction
  | verified locked pending =>
    rw [incomplete] at pending
    contradiction
  | @lost _ _ facts applied _ jobOp locked decides leg fails ok kept =>
    have survives : facts.attempt.state.lost = false := by
      by_contra lost
      have settled := inv facts.transfer locked.transfer facts.attempt locked.owners.attempt locked.bound
        (by simpa using lost) facts.artifact locked.artifact locked.owned
      exact of_decide_eq_true settled incomplete
    have sameId : applied.attempt.id = facts.attempt.id := by rw [(decidesMove decides).kept]; rfl
    exact ⟨facts.transfer,locked.transfer,kept ▸ locked.transfer,locked.owned.symm,facts.attempt,
      locked.owners.attempt,applied.attempt,persistedMem locked.owners decides ok,locked.bound,sameId,
      survives,(leg.fails fails).2⟩

def GatewayOp.isEvidence : GatewayOp → Bool
  | .receive .. | .advance .. => true
  | _ => false

theorem dataPlaneNotEvidence {t t'} (step : DataPlaneStep t op t') :
    op.isEvidence = false := by
  cases step <;> rfl

structure EvidenceFrame (before after : TransferRows) : Prop where
  transfers : after.transfers = before.transfers
  manifests : after.manifests = before.manifests
  chunks : after.chunks = before.chunks
  artifactIds : after.artifacts.rows.map Artifact.id = before.artifacts.rows.map Artifact.id
  settled : ∀ artifact ∈ before.artifacts, artifact.state ≠ .incomplete → artifact ∈ after.artifacts

theorem frameRefl (t : TransferRows) : EvidenceFrame t t := ⟨rfl,rfl,rfl,rfl,fun _ mem _ => mem⟩

theorem evidenceFrame (step : StoreStep s op report s') (evidence : op.isEvidence = true) :
    EvidenceFrame s.transfer s'.transfer := by
  cases step with
  | unchanged => exact frameRefl _
  | job jobOp effect kept => rw [kept]; exact frameRefl _
  | created | dispatched => contradiction
  | dataPlane workflow step =>
    rw [dataPlaneNotEvidence step] at evidence
    contradiction
  | evidence jobOp locked decides leg ok transfer =>
    rw [transfer]
    split
    · rename_i fails
      refine ⟨rfl,rfl,rfl,Table.mapIfKey _ _ (by exact fun _ => rfl) _,fun artifact mem settled => ?_⟩
      refine (Table.memUpdate (by exact fun _ => rfl)).mpr (.inl ⟨mem,fun named => ?_⟩)
      rw [Table.eqOfKey mem locked.artifact named] at settled
      exact settled (leg.fails fails).1
    · exact frameRefl _

structure ArtifactFollows (s : Store) (op : GatewayOp) (s' : Store) : Prop where
  settled : ∀ x ∈ s.transfer.transfers, ∀ a ∈ s.workflow.attempts, x.attemptId = some a.id →
    (a.state = .failed ∨ a.state = .cancelled) → ∀ artifact ∈ s.transfer.artifacts,
      artifact.id = x.artifactId → artifact.state ≠ .incomplete
  together : ∀ artifact ∈ s.transfer.artifacts, ∀ artifact' ∈ s'.transfer.artifacts,
    artifact'.id = artifact.id → artifact.state = .incomplete → artifact'.state = .failed →
      LostWith s s' artifact
  frame : op.isEvidence = true → EvidenceFrame s.transfer s'.transfer

structure Gateway.Settling (g : Gateway) : Prop where
  sound : g.Sound
  loss : LossSettled g.store

theorem settlingAfter (g : Gateway) (op : GatewayOp) (settling : g.Settling) : (g.after op).Settling :=
  ⟨gatewaySound g op settling.sound,lossStep (gatewayStep g op settling.sound) settling.loss⟩

theorem artifactFollowsAttempt (events : List GatewayOp) (op : GatewayOp) :
    ArtifactFollows (run Gateway.after .empty events).store op
      ((run Gateway.after .empty events).after op).store := by
  have settling : (run Gateway.after .empty events).Settling :=
    runAlways settlingAfter ⟨soundEmpty,fun _ mem => absurd mem (Table.notMemEmpty _)⟩ events
  have step := gatewayStep _ op settling.sound
  refine ⟨?_,?_,evidenceFrame step⟩
  · intro x memX a memA bound lost artifact memArtifact owned
    refine of_decide_eq_true (settling.loss x memX a memA bound ?_ artifact memArtifact owned)
    rcases lost with h | h <;> rw [h] <;> rfl
  · intro artifact old artifact' new same incomplete failed
    exact artifactFailure step settling.loss old new same incomplete failed

end Loss
end Bamep
