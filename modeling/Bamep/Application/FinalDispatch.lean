import Bamep.Application.CredentialLife
import Bamep.Application.Redemption
import Bamep.Runtime.Sessions
import Bamep.Store.Evolution

/-! The destructive gate over the whole server: Endpoints, Jobs and presence change in any order, and a
dispatch reads all three inside one transaction. `Server.after` is the only place where the inputs of a
Job operation that come from an Endpoint are derived. -/
namespace Bamep
open Relational Transition

structure Server where
  store : Store
  endpoints : EndpointStore
  presence : PresenceRegistry

def Server.empty : Server := ⟨.empty,.empty,.new⟩

-- The inputs of the gate, as the closure of `commit_destructive_dispatch` derives them.
def Server.endpointFacts (s : Server) (endpoint : EndpointAggregate) (now : Instant)
    (target : EndpointId → Option String) : EndpointFacts where
  identityEnrolled := endpoint.identity = .enrolled
  credentialActive := endpoint.credential.dimension now = .credentialActive
  agentPresent := s.presence.isPresent endpoint.id
  currentInventoryRevisionId :=
    (s.endpoints.rows.endpoints.find? endpoint.id).bind EndpointRow.currentInventoryRevisionId
  currentTargetFingerprint := target endpoint.id
  hardwareConfidence := endpoint.hardwareConfidence
  trustedBootstrapEstablished := endpoint.currentBoot.any fun boot => boot.trustedBootstrap = .established

def Server.commitDestructiveDispatch (s : Server) (jobId : JobId) (stepId : JobStepId) (now : Instant)
    (target : EndpointId → Option String) (attemptId : AttemptId) (actionId : ActionId) :
    Server × Except (CommitDispatchError FinalDispatchRejection) FinalDispatchOutcome :=
  match s.store.workflow.loadJob jobId with
  | none => (s,.error (.jobNotFound jobId))
  | some job =>
    match s.endpoints.rows.loadById job.endpointId with
    | .error e => (s,.error (.repository e))
    | .ok none => (s,.error (.repository (.backend "job references an endpoint that no longer exists")))
    | .ok (some endpoint) =>
      let committed := s.store.commitDestructiveDispatch jobId stepId (s.endpointFacts endpoint now target)
        attemptId actionId
      ({ s with store := committed.1 },committed.2)

def JobOp.readsEndpoint : JobOp → Bool
  | .createWorkflow .. | .createTransferContext .. | .commitDestructiveDispatch .. => true
  | _ => false

inductive ServerOp where
  | endpoint (op : EndpointOp)
  | register (id : EndpointId) (session : ProtocolId)
  | unregister (id : EndpointId) (session : ProtocolId)
  | createWorkflow (jobId : JobId) (stepId : Nat → JobStepId) (endpointId : EndpointId) (stepCount : Nat)
  | createTransferContext (id : TransferId) (artifactId : ArtifactId) (endpointId : EndpointId)
      (jobId : JobId) (stepId : JobStepId) (direction : TransferDirection) (algorithm : DigestAlgorithm)
      (chunkSize : ChunkSize) (provenance : String)
  | commitDestructiveDispatch (jobId : JobId) (stepId : JobStepId) (now : Instant)
      (target : EndpointId → Option String) (attemptId : AttemptId) (actionId : ActionId)
  | job (op : JobOp) (own : op.readsEndpoint = false)

def Server.after (hasher : CredentialHasher) (s : Server) : ServerOp → Server
  | .endpoint op => { s with endpoints := s.endpoints.after hasher op }
  | .register id session => { s with presence := s.presence.register id session }
  | .unregister id session => { s with presence := s.presence.unregister id session }
  | .createWorkflow jobId stepId endpointId stepCount =>
    let identity := (s.endpoints.rows.endpoints.find? endpointId).map EndpointRow.identity
    { s with store := s.store.after (.createWorkflow identity jobId stepId endpointId stepCount) }
  | .createTransferContext id artifactId endpointId jobId stepId direction algorithm chunkSize provenance =>
    let endpointExists := (s.endpoints.rows.endpoints.find? endpointId).isSome
    { s with store := s.store.after (.createTransferContext endpointExists id artifactId endpointId jobId
        stepId direction algorithm chunkSize provenance) }
  | .commitDestructiveDispatch jobId stepId now target attemptId actionId =>
    (s.commitDestructiveDispatch jobId stepId now target attemptId actionId).1
  | .job op _ => { s with store := s.store.after op }

def Server.reached (hasher : CredentialHasher) (ops : List ServerOp) : Server :=
  run (after hasher) empty ops

def Registered (ops : List ServerOp) (id : EndpointId) (session : ProtocolId) : Prop :=
  ∃ before later, ops = before ++ .register id session :: later ∧ .unregister id session ∉ later

/- The locked state under which a destructive dispatch of `step` commits. -/
structure Cleared (ops : List ServerOp) (s : Server) (step : JobStep) (intent : DestructiveIntent)
    (now : Instant) (target : EndpointId → Option String) (job : JobRow) (endpoint : EndpointAggregate) :
    Prop where
  owner : job ∈ s.store.workflow.jobs ∧ step.jobId = job.id
  running : job.state = .running
  current : ∀ other ∈ s.store.workflow.jobSteps, other.jobId = step.jobId → other.order < step.order →
    other.state = .succeeded
  idle : ∀ attempt ∈ s.store.workflow.attempts, attempt.jobStepId = step.id → attempt.state.isActive = false
  loaded : s.endpoints.rows.loadById job.endpointId = .ok (some endpoint)
  enrolled : endpoint.identity = .enrolled
  unrevoked : endpoint.credential.revoked = false
  unexpired : ∃ slot ∈ endpoint.credential.slots, now < slot.expiresAt
  consistent : endpoint.hardwareConfidence = .consistent
  trusted : ∃ boot, endpoint.currentBoot = some boot ∧ boot.trustedBootstrap = .established
  present : ∃ session, Registered ops job.endpointId session
  revision : ∃ row ∈ s.endpoints.rows.endpoints, row.id = job.endpointId ∧
    row.currentInventoryRevisionId = some intent.authorizedInventoryRevisionId
  fingerprint : target job.endpointId = some intent.authorizedTargetFingerprint

def Gated (ops : List ServerOp) (s : Server) (step : JobStep) : ServerOp → Prop
  | .commitDestructiveDispatch jobId stepId now target _ _ =>
    step.id = stepId ∧ ∃ intent job endpoint, step.destructiveIntent = some intent ∧ job.id = jobId ∧
      Cleared ops s step intent now target job endpoint
  | .job (.commitTransferDispatch ..) _ => step.destructiveIntent = none
  | _ => False

def StepReverted (s s' : Server) (stepId : JobStepId) : Prop :=
  ∃ step ∈ s.store.workflow.jobSteps, step.id = stepId ∧ step.state = .preconditionsSatisfied ∧
    s'.store.workflow = s.store.workflow.setStepState stepId .pending ∧
    s'.store.transfer = s.store.transfer ∧ s'.endpoints = s.endpoints

section Steps
variable {hasher : CredentialHasher} {s : Server} {ops : List ServerOp}

theorem registeredOf (hasher : CredentialHasher) (ops : List ServerOp) {id session}
    (mem : (id,session) ∈ (Server.reached hasher ops).presence.sessions) : Registered ops id session := by
  refine @runHistory _ _ (Server.after hasher) .empty (fun ops s => ∀ id session,
    (id,session) ∈ s.presence.sessions → Registered ops id session) nofun ?_ ops id session mem
  intro past op ih id session mem
  have extend : (id,session) ∈ (run (Server.after hasher) .empty past).presence.sessions →
      op ≠ .unregister id session → Registered (past ++ [op]) id session := by
    intro present other
    obtain ⟨before,later,rfl,kept⟩ := ih id session present
    refine ⟨before,later ++ [op],by simp,fun removed => ?_⟩
    rcases List.mem_append.mp removed with old | new
    · exact kept old
    · exact other (List.mem_singleton.mp new).symm
  cases op with
  | register other fresh =>
    rcases PresenceRegistry.memRegister.mp mem with same | present
    · cases same
      exact ⟨past,[],rfl,List.not_mem_nil⟩
    · exact extend present nofun
  | unregister other gone =>
    obtain ⟨present,different⟩ := PresenceRegistry.memUnregister.mp mem
    exact extend present fun same => different (by cases same; rfl)
  | commitDestructiveDispatch jobId stepId now target attemptId actionId =>
    refine extend ?_ nofun
    simp only [Server.after,Server.commitDestructiveDispatch] at mem
    split at mem
    · exact mem
    split at mem <;> exact mem
  | endpoint | createWorkflow | createTransferContext | job => exact extend mem nofun

theorem existingActiveAttemptFalse {w : WorkflowRows} {stepId}
    (idle : w.existingActiveAttempt stepId = false) {attempt} (mem : attempt ∈ w.attempts)
    (owner : attempt.jobStepId = stepId) : attempt.state.isActive = false := by
  unfold WorkflowRows.existingActiveAttempt at idle
  rw [Bool.not_eq_false',List.isEmpty_iff] at idle
  by_contra active
  have chosen : attempt ∈ w.attempts.select fun a => a.jobStepId = stepId && a.state.isActive :=
    Table.memSelect.mpr ⟨mem,by simp [owner,active]⟩
  rw [idle] at chosen
  cases chosen

theorem loadByIdRevision {rows : EndpointRows} {id a revision}
    (loaded : rows.loadById id = .ok (some a))
    (current : (rows.endpoints.find? a.id).bind EndpointRow.currentInventoryRevisionId = some revision) :
    ∃ row ∈ rows.endpoints, row.id = id ∧ row.currentInventoryRevisionId = some revision := by
  obtain ⟨rfl,row,found⟩ := loadByIdNamed loaded
  rw [found] at current
  obtain ⟨mem,named⟩ := Table.findIff.mp found
  exact ⟨row,mem,named,current⟩

theorem gateCleared {row : JobRow} {step stepId intent endpoint now target}
    (mem : row ∈ (Server.reached hasher ops).store.workflow.jobs)
    (gate : Dispatchable ⟨row.id,row.endpointId,row.state,
      (Server.reached hasher ops).store.workflow.fetchJobSteps row.id⟩ stepId
      ((Server.reached hasher ops).store.workflow.existingActiveAttempt stepId) step)
    (loaded : (Server.reached hasher ops).endpoints.rows.loadById row.endpointId = .ok (some endpoint))
    (cleared : ((Server.reached hasher ops).endpointFacts endpoint now target).rejection intent = none) :
    Cleared ops (Server.reached hasher ops) step intent now target row endpoint := by
  obtain ⟨enrolled,active,present,revision,fingerprint,consistent,trusted⟩ := rejectionNone.mp cleared
  obtain ⟨mem',owner⟩ := memFetch.mp gate.mem
  obtain ⟨unrevoked,unexpired⟩ := dimensionActive.mp (of_decide_eq_true active)
  obtain ⟨session,registered⟩ := PresenceRegistry.isPresentIff.mp present
  obtain ⟨named,_⟩ := loadByIdNamed loaded
  have boot : ∃ boot, endpoint.currentBoot = some boot ∧ boot.trustedBootstrap = .established := by
    simpa [Server.endpointFacts,Option.any_eq_true] using trusted
  exact ⟨⟨mem,owner⟩,gate.running,currentOfJob owner gate.current,
    fun attempt old target => existingActiveAttemptFalse gate.alone old (target.trans gate.named),loaded,
    of_decide_eq_true enrolled,unrevoked,unexpired,consistent,boot,
    ⟨session,named ▸ registeredOf hasher ops registered⟩,loadByIdRevision loaded revision,
    named ▸ fingerprint⟩

theorem noNewAttempt {w w' jobOp} (effect : Effect w jobOp w')
    (quiet : jobOp.dispatches = false) {attempt} (mem : attempt ∈ w'.attempts) :
    ∃ a ∈ w.attempts, a.id = attempt.id := by
  rcases (attemptsEvolve effect).back mem with ⟨a,old,named,_⟩ | new
  · exact ⟨a,old,named.symm⟩
  · rw [quiet] at new
    cases new.2

theorem revertedAttempts {s : Store} {rejection : Type} {row : JobRow} {stepId}
    {denial : Denial rejection}
    (reverts : Reverts ⟨row.id,row.endpointId,row.state,s.workflow.fetchJobSteps row.id⟩ stepId denial) :
    (s.revertStep stepId denial.pendingJobStep).workflow.attempts = s.workflow.attempts := by
  rcases revertStepRows s reverts with same | ⟨_,_,_,_,workflow,_⟩
  · rw [same]
  · rw [workflow]
    rfl

theorem insertedAttempt {w w' : WorkflowRows} {stepId new attempt}
    (ok : (w.setStepState stepId .dispatching).insertAttempt? new = some w') (mem : attempt ∈ w'.attempts)
    (fresh : ∀ a ∈ w.attempts, a.id ≠ attempt.id) : attempt = new := by
  obtain ⟨attempts,inserted,rfl⟩ := Option.map_eq_some_iff.mp ok
  rcases (Table.memInsert inserted).mp mem with old | same
  · exact absurd rfl (fresh attempt old)
  · exact same

theorem destructiveAttempt {s : Store} {jobId : JobId} {stepId facts attemptId actionId attempt}
    {row : JobRow}
    (loaded : s.workflow.loadJob jobId =
      some ⟨row.id,row.endpointId,row.state,s.workflow.fetchJobSteps row.id⟩)
    (mem : attempt ∈ (s.commitDestructiveDispatch jobId stepId facts attemptId actionId).1.workflow.attempts)
    (fresh : ∀ a ∈ s.workflow.attempts, a.id ≠ attempt.id) :
    ∃ step, Dispatchable ⟨row.id,row.endpointId,row.state,s.workflow.fetchJobSteps row.id⟩ stepId
        (s.workflow.existingActiveAttempt stepId) step ∧
      (∃ intent, step.destructiveIntent = some intent ∧ facts.rejection intent = none) ∧
      attempt = ⟨attemptId,step.id,actionId,.dispatched⟩ := by
  unfold Store.commitDestructiveDispatch at mem
  simp only [loaded] at mem
  split at mem
  · rename_i denial denied
    rw [revertedAttempts (finalDispatchDenied denied)] at mem
    exact absurd rfl (fresh attempt mem)
  rename_i outcome decided
  split at mem
  · exact absurd rfl (fresh attempt mem)
  rename_i s' committed
  obtain ⟨step,gate,cleared,rfl⟩ := finalDispatchOk decided
  exact ⟨step,gate,cleared,insertedAttempt (commitWorkflowSome committed).1 mem fresh⟩

theorem transferAttempt {s : Store} {jobId : JobId} {stepId transferId attemptId actionId attempt}
    (mem : attempt ∈ (s.commitTransferDispatch jobId stepId transferId attemptId actionId).1.workflow.attempts)
    (fresh : ∀ a ∈ s.workflow.attempts, a.id ≠ attempt.id) :
    ∃ step ∈ s.workflow.jobSteps, step.id = attempt.jobStepId ∧ step.jobId = jobId ∧
      step.destructiveIntent = none := by
  unfold Store.commitTransferDispatch at mem
  split at mem
  · exact absurd rfl (fresh attempt mem)
  rename_i job loaded
  obtain ⟨row,_,rfl,rfl⟩ := loadJobSome loaded
  split at mem
  · exact absurd rfl (fresh attempt mem)
  · exact absurd rfl (fresh attempt mem)
  split at mem
  · rename_i denial denied
    rw [revertedAttempts (transferDispatchDenied denied)] at mem
    exact absurd rfl (fresh attempt mem)
  rename_i outcome decided
  split at mem
  · exact absurd rfl (fresh attempt mem)
  rename_i s' committed
  obtain ⟨w',inserted,committed⟩ := Option.bind_eq_some_iff.mp committed
  obtain ⟨step,gate,plain,_,_,rfl⟩ := transferDispatchOk decided
  rw [(commitSome committed).1] at mem
  cases insertedAttempt inserted mem fresh
  obtain ⟨present,owner⟩ := memFetch.mp gate.mem
  exact ⟨step,present,rfl,owner,plain⟩

/- The Job operation that a server operation runs, with the inputs it reads from the Endpoint rows. -/
theorem serverStep (s : Server) (op : ServerOp) :
    (s.after hasher op).store = s.store ∨ ∃ jobOp, (s.after hasher op).store = s.store.after jobOp := by
  cases op with
  | endpoint | register | unregister => exact .inl rfl
  | createWorkflow jobId stepId endpointId stepCount =>
    exact .inr ⟨.createWorkflow _ jobId stepId endpointId stepCount,rfl⟩
  | createTransferContext id artifactId endpointId jobId stepId direction algorithm chunkSize provenance =>
    exact .inr ⟨.createTransferContext _ id artifactId endpointId jobId stepId direction algorithm chunkSize
      provenance,rfl⟩
  | job jobOp own => exact .inr ⟨jobOp,rfl⟩
  | commitDestructiveDispatch jobId stepId now target attemptId actionId =>
    simp only [Server.after,Server.commitDestructiveDispatch]
    split
    · exact .inl rfl
    split
    · exact .inl rfl
    · exact .inl rfl
    · exact .inr ⟨.commitDestructiveDispatch jobId stepId _ attemptId actionId,rfl⟩

theorem intentsKept (s : Server) (later : List ServerOp) {step intent}
    (mem : step ∈ s.store.workflow.jobSteps) (present : step.destructiveIntent = some intent) :
    ∃ step' ∈ (run (Server.after hasher) s later).store.workflow.jobSteps,
      step'.id = step.id ∧ step'.destructiveIntent = some intent := by
  refine @runAlways _ _ (Server.after hasher) (fun s => ∃ step' ∈ s.store.workflow.jobSteps,
    step'.id = step.id ∧ step'.destructiveIntent = some intent) ?_ s ⟨step,mem,rfl,present⟩ later
  rintro s op ⟨x,mem,named,present⟩
  rcases @serverStep hasher s op with same | ⟨jobOp,same⟩
  · exact ⟨x,by rw [same]; exact mem,named,present⟩
  · rw [same]
    obtain ⟨y,mem',named',_,kept⟩ := (stepsKept (afterEffect s.store jobOp)).forward mem
    exact ⟨y,mem',named'.trans named,kept intent present⟩

theorem newAttemptGated (op : ServerOp) {attempt : Attempt}
    (mem : attempt ∈ ((Server.reached hasher ops).after hasher op).store.workflow.attempts)
    (fresh : ∀ a ∈ (Server.reached hasher ops).store.workflow.attempts, a.id ≠ attempt.id) :
    ∃ step ∈ (Server.reached hasher ops).store.workflow.jobSteps, step.id = attempt.jobStepId ∧
      Gated ops (Server.reached hasher ops) step op := by
  have old : ∀ jobOp : JobOp, jobOp.dispatches = false →
      attempt ∈ ((Server.reached hasher ops).store.after jobOp).workflow.attempts → False := by
    intro jobOp quiet mem
    obtain ⟨a,present,named⟩ := noNewAttempt (afterEffect _ jobOp) quiet mem
    exact fresh a present named
  cases op with
  | endpoint | register | unregister => exact absurd rfl (fresh attempt mem)
  | createWorkflow jobId stepId endpointId stepCount =>
    exact (old (.createWorkflow _ jobId stepId endpointId stepCount) rfl mem).elim
  | createTransferContext id artifactId endpointId jobId stepId direction algorithm chunkSize provenance =>
    exact (old (.createTransferContext _ id artifactId endpointId jobId stepId direction algorithm chunkSize
      provenance) rfl mem).elim
  | commitDestructiveDispatch jobId stepId now target attemptId actionId =>
    simp only [Server.after,Server.commitDestructiveDispatch] at mem
    split at mem
    · exact absurd rfl (fresh attempt mem)
    rename_i job loadedJob
    obtain ⟨row,present,rfl,rfl⟩ := loadJobSome loadedJob
    split at mem
    · exact absurd rfl (fresh attempt mem)
    · exact absurd rfl (fresh attempt mem)
    rename_i endpoint loaded
    obtain ⟨step,gate,⟨intent,authorized,cleared⟩,rfl⟩ := destructiveAttempt loadedJob mem fresh
    exact ⟨step,(memFetch.mp gate.mem).1,rfl,gate.named,intent,row,endpoint,authorized,rfl,
      gateCleared present gate loaded cleared⟩
  | job jobOp own =>
    cases jobOp with
    | commitTransferDispatch =>
      obtain ⟨step,present,named,_,plain⟩ := transferAttempt mem fresh
      exact ⟨step,present,named,plain⟩
    | commitDestructiveDispatch => cases own
    | _ => exact (old _ rfl mem).elim

theorem deniedTransfer {s : Store} {jobId stepId transferId attemptId actionId error}
    (denied : (s.commitTransferDispatch jobId stepId transferId attemptId actionId).2 = .error error) :
    (s.commitTransferDispatch jobId stepId transferId attemptId actionId).1 = s ∨
      ∃ step ∈ s.workflow.jobSteps, step.id = stepId ∧ step.state = .preconditionsSatisfied ∧
        (s.commitTransferDispatch jobId stepId transferId attemptId actionId).1.workflow =
          s.workflow.setStepState stepId .pending ∧
        (s.commitTransferDispatch jobId stepId transferId attemptId actionId).1.transfer = s.transfer := by
  revert denied
  unfold Store.commitTransferDispatch
  split
  · exact fun _ => .inl rfl
  rename_i job loaded
  obtain ⟨row,_,rfl,rfl⟩ := loadJobSome loaded
  split
  · exact fun _ => .inl rfl
  · exact fun _ => .inl rfl
  split
  · rename_i denial rejected
    exact fun _ => revertStepRows s (transferDispatchDenied rejected)
  split
  · exact fun _ => .inl rfl
  · exact fun denied => nomatch denied

theorem deniedDestructive {s : Store} {jobId stepId facts attemptId actionId error}
    (denied : (s.commitDestructiveDispatch jobId stepId facts attemptId actionId).2 = .error error) :
    (s.commitDestructiveDispatch jobId stepId facts attemptId actionId).1 = s ∨
      ∃ step ∈ s.workflow.jobSteps, step.id = stepId ∧ step.state = .preconditionsSatisfied ∧
        (s.commitDestructiveDispatch jobId stepId facts attemptId actionId).1.workflow =
          s.workflow.setStepState stepId .pending ∧
        (s.commitDestructiveDispatch jobId stepId facts attemptId actionId).1.transfer = s.transfer := by
  revert denied
  unfold Store.commitDestructiveDispatch
  split
  · exact fun _ => .inl rfl
  rename_i job loaded
  obtain ⟨row,_,rfl,rfl⟩ := loadJobSome loaded
  split
  · rename_i denial rejected
    exact fun _ => revertStepRows s (finalDispatchDenied rejected)
  split
  · exact fun _ => .inl rfl
  · exact fun denied => nomatch denied

end Steps

structure GateLaws (hasher : CredentialHasher) (ops : List ServerOp) (s : Server) : Prop where
  gated : ∀ op, ∀ attempt ∈ (s.after hasher op).store.workflow.attempts,
    (∀ a ∈ s.store.workflow.attempts, a.id ≠ attempt.id) →
      ∃ step ∈ s.store.workflow.jobSteps, step.id = attempt.jobStepId ∧ Gated ops s step op
  intentKept : ∀ step ∈ s.store.workflow.jobSteps, ∀ intent, step.destructiveIntent = some intent →
    ∀ later, ∃ step' ∈ (run (Server.after hasher) s later).store.workflow.jobSteps,
      step'.id = step.id ∧ step'.destructiveIntent = some intent
  destructiveDenied : ∀ jobId stepId now target attemptId actionId error,
    (s.commitDestructiveDispatch jobId stepId now target attemptId actionId).2 = .error error →
      (s.commitDestructiveDispatch jobId stepId now target attemptId actionId).1 = s ∨
        StepReverted s (s.commitDestructiveDispatch jobId stepId now target attemptId actionId).1 stepId
  transferDenied : ∀ jobId stepId transferId attemptId actionId error,
    (s.store.commitTransferDispatch jobId stepId transferId attemptId actionId).2 = .error error →
      s.after hasher (.job (.commitTransferDispatch jobId stepId transferId attemptId actionId) rfl) = s ∨
        StepReverted s (s.after hasher
          (.job (.commitTransferDispatch jobId stepId transferId attemptId actionId) rfl)) stepId

theorem destructiveDispatchGated (hasher : CredentialHasher) (ops : List ServerOp) :
    GateLaws hasher ops (Server.reached hasher ops) := by
  refine ⟨fun op attempt mem fresh => newAttemptGated op mem fresh,
    fun step mem intent present later => intentsKept _ later mem present,?_,?_⟩
  · intro jobId stepId now target attemptId actionId error
    unfold Server.commitDestructiveDispatch
    split
    · exact fun _ => .inl rfl
    split
    · exact fun _ => .inl rfl
    · exact fun _ => .inl rfl
    intro denied
    rcases deniedDestructive denied with same | ⟨step,mem,named,satisfied,workflow,transfer⟩
    · exact .inl (by simp only [same])
    · exact .inr ⟨step,mem,named,satisfied,workflow,transfer,rfl⟩
  · intro jobId stepId transferId attemptId actionId error denied
    rcases deniedTransfer denied with same | ⟨step,mem,named,satisfied,workflow,transfer⟩
    · exact .inl (by simp only [Server.after,Store.after,same])
    · exact .inr ⟨step,mem,named,satisfied,workflow,transfer,rfl⟩

def enrolledServer : List ServerOp :=
  [.endpoint (.insertBootContext (credentialNumber .enrollment 1).lookupId
      (.ofBytesWithSalt plainHasher (credentialNumber .enrollment 1).secret (zeros 16)) 0 50 "signal" ⟨zeros 32⟩),
    .endpoint (.redeem ⟨credentialNumber .enrollment 1,credentialNumber .runtime 2,zeros 16,⟨7⟩,⟨1⟩,1,100⟩),
    .endpoint (.approveEnrollment ⟨7⟩ 2),
    .endpoint (.establishTrustedBootstrap ⟨7⟩ ⟨zeros 32⟩),
    .endpoint (.recordInventory ⟨7⟩ ⟨"disk"⟩ ⟨3⟩ 3),
    .register ⟨7⟩ ⟨1⟩,
    .createWorkflow ⟨1⟩ (fun i => ⟨i⟩) ⟨7⟩ 1,
    .job (.authorizeDestructiveIntent ⟨1⟩ ⟨0⟩ ⟨3⟩ "disk") rfl,
    .job (.admitJob ⟨1⟩ (ticket 1)) rfl,
    .job (.satisfyCurrentStepPreconditions ⟨1⟩ ⟨0⟩) rfl]

-- The gate opens for the authorized target and for no other.
example : ((Server.reached plainHasher enrolledServer).commitDestructiveDispatch ⟨1⟩ ⟨0⟩ 4
      (fun _ => some "disk") ⟨5⟩ ⟨5⟩).2.isOk = true ∧
    ((Server.reached plainHasher enrolledServer).commitDestructiveDispatch ⟨1⟩ ⟨0⟩ 4
      (fun _ => some "other") ⟨5⟩ ⟨5⟩).2 = .error (.rejected .targetMismatch) := by
  decide +kernel

end Bamep
