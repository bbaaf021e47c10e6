import Bamep.Gateway.Evolution

/-! Classification stays right. Between a handler's two reads and its transaction the store moves on,
but the Attempt it was classified for exists by then, and a Transfer is only ever bound to an Attempt
that did not; so a handler on the generic route never meets a bound Transfer. -/
namespace Bamep
open Relational

def Known (s : Store) (actionId : ActionId) : Prop := ∃ a ∈ s.workflow.attempts, a.actionId = actionId

def Unbound (s : Store) (actionId : ActionId) : Prop :=
  ∀ a ∈ s.workflow.attempts, a.actionId = actionId →
    ∀ x ∈ s.transfer.transfers, x.attemptId ≠ some a.id

def Task.direct : Task → Bool
  | .action .ackAccepted | .action .ackRejected | .statusReport .accepted | .statusReport .running
  | .statusReport .succeeded | .statusReport .unknown => true
  | _ => false

def Task.generic : Task → Bool
  | .action _ | .cancelAck _ | .statusReport _ => true
  | _ => false

structure Handler.Sound (s : Store) (h : Handler) : Prop where
  known : h.task.direct = false → Known s h.actionId
  unbound : h.task.direct = false → h.task.generic = true → Unbound s h.actionId

def Handler.successReport (h : Handler) : Option (ActionId × EndpointId) :=
  match h.task with
  | .statusReport .succeeded => some (h.actionId,h.endpointId)
  | _ => none

def Gateway.successReport (g : Gateway) : GatewayOp → Option (ActionId × EndpointId)
  | .advance i _ => g.handlers[i]?.bind Handler.successReport
  | _ => none

section Stores
variable {s s' : Store} {op : GatewayOp} {report : Option (ActionId × EndpointId)} {actionId : ActionId}

theorem knownStep (step : StoreStep s op report s') (known : Known s actionId) : Known s' actionId := by
  obtain ⟨jobOp,effect⟩ := stepEffect step
  obtain ⟨a,mem,named⟩ := known
  obtain ⟨b,present,_,move⟩ := (attemptsEvolve effect).forward mem
  exact ⟨b,present,by rw [move.kept]; exact named⟩

theorem unboundStep (step : StoreStep s op report s') (known : Known s actionId)
    (unbound : Unbound s actionId) : Unbound s' actionId := by
  obtain ⟨jobOp,effect⟩ := stepEffect step
  obtain ⟨a,mem,named⟩ := known
  obtain ⟨b,present,sameId,move⟩ := (attemptsEvolve effect).forward mem
  intro b' present' named' x' memX' bound
  have one : b' = b := s'.workflowValid.actionUnique b' present' b present
    (by rw [named',move.kept]; exact named.symm)
  rw [one,sameId] at bound
  rcases (transfersEvolve step).back memX' with ⟨x,memX,_,rebinds⟩ | fresh
  · rcases rebinds.binding with kept | ⟨_,id,binding,absent⟩
    · exact unbound a mem named x memX (kept.symm.trans bound)
    · exact absent a mem (Option.some.inj (bound.symm.trans binding))
  · rw [fresh] at bound
    contradiction

theorem soundStep (step : StoreStep s op report s') {h : Handler} (sound : h.Sound s) : h.Sound s' :=
  ⟨fun direct => knownStep step (sound.known direct),
    fun direct generic => unboundStep step (sound.known direct) (sound.unbound direct generic)⟩

theorem targetsKnown {endpointId} (targets : s.actionTargetsEndpoint actionId endpointId = true) :
    Known s actionId := by
  obtain ⟨a,mem,holds⟩ := List.any_eq_true.mp targets
  simp only [Bool.and_eq_true,decide_eq_true_eq] at holds
  exact ⟨a,mem,holds.1⟩

theorem transferOfActionNone (none : s.transferOfAction actionId = none) : Unbound s actionId := by
  intro a mem named x memX bound
  have absent := List.find?_eq_none.mp none x memX
  exact absent (List.any_eq_true.mpr ⟨a,mem,by simp [bound,named]⟩)

theorem transferOfActionSome {x} (found : s.transferOfAction actionId = some x) :
    x ∈ s.transfer.transfers ∧ ∃ a ∈ s.workflow.attempts, x.attemptId = some a.id ∧ a.actionId = actionId := by
  have chosen := List.find?_some found
  obtain ⟨a,mem,holds⟩ := List.any_eq_true.mp chosen
  simp only [Bool.and_eq_true,decide_eq_true_eq] at holds
  exact ⟨List.mem_of_find?_eq_some found,a,mem,holds.1,holds.2⟩

theorem notTransferAction {endpointId decide}
    (answer : (s.applyTransferTerminalEvidence actionId endpointId decide).2 = .ok .notTransferAction) :
    Unbound s actionId := by
  unfold Store.applyTransferTerminalEvidence at answer
  split at answer
  · rename_i none
    exact transferOfActionNone none
  rename_i x found
  obtain ⟨mem,a,_,bound,_⟩ := transferOfActionSome found
  split at answer
  · cases answer
  · cases answer
  rename_i transfer artifact loaded
  obtain ⟨present,named,_⟩ := loadTransferAndArtifact loaded
  cases Table.eqOfKey present mem named
  rw [bound] at answer
  unfold Store.persistTransferEvidence at answer
  simp only at answer
  repeat' first | cases answer | split at answer

end Stores

section Handlers
variable {s : Store} {actionId : ActionId} {endpointId : EndpointId} {stamp : Stamp}

theorem routedUnbound {jobOp report}
    (unbound : Unbound s actionId)
    (addressed : ∀ facts applied, jobOp.Decides facts applied → facts.attempt.actionId = actionId) :
    Routed s report jobOp := by
  rintro facts applied locked decides ⟨x,mem,bound⟩
  exact absurd bound (unbound facts.attempt locked.attempt (addressed facts applied decides) x mem)

theorem actionRouted {evidence}
    (sound : Handler.Sound s ⟨actionId,endpointId,.action evidence⟩)
    (report : Option (ActionId × EndpointId)) :
    Routed s report (.applyActionEvidence actionId endpointId evidence stamp) := by
  by_cases ack : evidence = .ackAccepted ∨ evidence = .ackRejected
  · intro facts applied _ decides _
    rcases ackState ack decides.2.2 with state | state <;> rw [state] <;> exact ⟨rfl,nofun⟩
  · refine routedUnbound (sound.unbound ?_ rfl) fun _ _ decides => decides.1
    cases evidence <;> simp_all [Task.direct]

theorem statusReportRouted {evidence}
    (sound : Handler.Sound s ⟨actionId,endpointId,.statusReport evidence⟩) :
    Routed s (Handler.successReport ⟨actionId,endpointId,.statusReport evidence⟩)
      (.applyStatusReport actionId endpointId evidence stamp) := by
  by_cases classified : evidence = .failed ∨ evidence = .cancelled
  · refine routedUnbound (sound.unbound ?_ rfl) fun _ _ decides => decides.1
    rcases classified with rfl | rfl <;> rfl
  · obtain ⟨failed,cancelled⟩ := not_or.mp classified
    rintro facts applied _ ⟨named,authenticated,decided⟩ _
    rcases statusLiveState failed cancelled decided with state | ⟨rfl,state⟩
    · rw [state]
      exact ⟨rfl,nofun⟩
    · rw [state,named,authenticated]
      exact ⟨rfl,fun _ => ⟨(statusReportStep decided).2.1,rfl⟩⟩

theorem cancelAckRouted {evidence}
    (sound : Handler.Sound s ⟨actionId,endpointId,.cancelAck evidence⟩)
    (report : Option (ActionId × EndpointId)) :
    Routed s report (.applyCancelAck actionId endpointId evidence stamp) :=
  routedUnbound (sound.unbound rfl rfl) fun _ _ decides => decides.1

theorem transferDecisionStep (i : Nat) (h : Handler) (report : Option (ActionId × EndpointId))
    (decide : TransferEvidenceFacts → Stamp → TransferEvidenceDecision) (jobOp : JobOp)
    (legs : ∀ {facts applied failed}, decide facts stamp = .applied applied failed →
      (facts.attempt.actionId = h.actionId → facts.job.endpointId = h.endpointId →
        jobOp.Decides facts.workflow applied) ∧ ArtifactLeg facts applied failed) :
    StoreStep s (.advance i stamp) report (s.applyTransferDecision h stamp decide).1 :=
  transferEvidenceStep s report h.actionId h.endpointId (fun facts => decide facts stamp) jobOp
    fun _ _ _ named authenticated decided => ⟨(legs decided).1 named authenticated,(legs decided).2⟩

theorem handlerStep {h : Handler} (i : Nat) (sound : h.Sound s) :
    StoreStep s (.advance i stamp) h.successReport (h.run s stamp).1 := by
  obtain ⟨actionId,endpointId,task⟩ := h
  cases task with
  | classify message => exact .unchanged _ _
  | action evidence => exact quietStep _ rfl (actionRouted sound _)
  | cancelAck evidence => exact quietStep _ rfl (cancelAckRouted sound _)
  | statusReport evidence => exact quietStep _ rfl (statusReportRouted sound)
  | transferResult detail =>
    refine transferDecisionStep i _ _ (decideTransferTerminalEvidence detail)
      (.applyActionEvidence actionId endpointId detail.code.evidence stamp) fun decided => ?_
    exact (transferResultLeg decided).imp_left fun applied named authenticated => ⟨named,authenticated,applied⟩
  | transferCancelAck evidence =>
    refine transferDecisionStep i _ _ (decideTransferCancelAck evidence)
      (.applyCancelAck actionId endpointId evidence stamp) fun decided => ?_
    exact (transferCancelAckLeg decided).imp_left fun applied named authenticated =>
      ⟨named,authenticated,applied⟩
  | transferStatusCancelled =>
    refine transferDecisionStep i _ _ decideTransferStatusReportCancelled
      (.applyStatusReport actionId endpointId .cancelled stamp) fun decided => ?_
    exact (transferStatusCancelledLeg decided).imp_left fun applied named authenticated =>
      ⟨named,authenticated,applied⟩
  | transferStatusFailed =>
    refine transferDecisionStep i _ _ decideTransferStatusReportFailed
      (.applyStatusReport actionId endpointId .failed stamp) fun decided => ?_
    exact (transferStatusFailedLeg decided).imp_left fun applied named authenticated =>
      ⟨named,authenticated,applied⟩

theorem genericDone {α : Type} {answer : Except ApplyActionEvidenceError α} {task}
    (ok : Reply.ofGeneric answer = .ok task) : False := by
  cases answer <;> cases ok

theorem transferResultDone {answer task}
    (ok : Reply.ofTransferResult answer = .ok task) : False := by
  rcases answer with _ | result
  · cases ok
  · cases result <;> cases ok

theorem fallsThrough {generic task unexpected answer}
    (ok : Reply.ofTransferEvidence generic unexpected answer = .ok task) :
    answer = .ok .notTransferAction ∧ task = generic := by
  rcases answer with _ | result
  · cases ok
  · cases result <;> cases ok
    exact ⟨rfl,rfl⟩

theorem routeUnbound {message : Classifiable} {bound task}
    (ok : message.route bound = .ok task) (generic : task.generic = true) : bound = false := by
  cases bound with
  | false => rfl
  | true =>
    cases message with
    | result outcome detail =>
      simp only [Classifiable.route,if_true] at ok
      split at ok
      · contradiction
      · cases ok; contradiction
    | cancelAck | statusCancelled | statusFailed => cases ok; contradiction

theorem transferDecisionNext {h decide generic task unexpected}
    (ok : Reply.ofTransferEvidence generic unexpected (s.applyTransferDecision h stamp decide).2 = .ok task) :
    Unbound s h.actionId := by
  have answer := (fallsThrough ok).1
  unfold Store.applyTransferDecision at answer
  exact notTransferAction answer

theorem handlerNext {h : Handler} {task} (sound : h.Sound s) (ok : (h.run s stamp).2 = .ok task) :
    Handler.Sound s { h with task := task } := by
  obtain ⟨actionId,endpointId,running⟩ := h
  -- Every handler that has a next task was classified, so its Attempt exists.
  suffices classified : running.direct = false ∧ (task.generic = true → Unbound s actionId) from
    ⟨fun _ => sound.known classified.1,fun _ generic => classified.2 generic⟩
  cases running with
  | classify message =>
    refine ⟨rfl,fun generic => ?_⟩
    have none := routeUnbound ok generic
    exact transferOfActionNone (Option.isSome_eq_false_iff.mp none |> Option.isNone_iff_eq_none.mp)
  | action | cancelAck | statusReport => exact (genericDone ok).elim
  | transferResult => exact (transferResultDone ok).elim
  | transferCancelAck | transferStatusCancelled | transferStatusFailed =>
    exact ⟨rfl,fun _ => transferDecisionNext ok⟩

end Handlers

theorem receiveSound {s endpointId message task}
    (ok : s.receive endpointId message = .ok task) :
    Handler.Sound s ⟨message.actionId,endpointId,task⟩ := by
  have targeted : ∀ {actionId m}, s.target endpointId actionId m = .ok task →
      Handler.Sound s ⟨actionId,endpointId,task⟩ := by
    intro actionId m found
    unfold Store.target at found
    split at found
    · rename_i targets
      cases found
      exact ⟨fun _ => targetsKnown targets,fun _ generic => by contradiction⟩
    · contradiction
  have direct : ∀ {actionId}, task.direct = true → Handler.Sound s ⟨actionId,endpointId,task⟩ :=
    fun h => ⟨fun h' => by simp [h] at h',fun h' => by simp [h] at h'⟩
  cases message with
  | actionAck correlationId actionId outcome =>
    simp only [Store.receive] at ok
    split at ok
    · contradiction
    · split at ok <;> cases ok <;> exact direct rfl
  | actionResult correlationId actionId outcome detail =>
    simp only [Store.receive] at ok
    split at ok
    · contradiction
    split at ok
    · contradiction
    · exact targeted ok
  | cancelAck correlationId actionId outcome =>
    simp only [Store.receive] at ok
    split at ok
    · contradiction
    · exact targeted ok
  | statusReport correlationId actionId knownState =>
    simp only [Store.receive] at ok
    split at ok
    · contradiction
    split at ok
    · exact targeted ok
    · exact targeted ok
    all_goals
      cases ok
      exact direct rfl

def Gateway.Sound (g : Gateway) : Prop := ∀ h ∈ g.handlers, h.Sound g.store

theorem soundEmpty : Gateway.empty.Sound := fun _ mem => absurd mem List.not_mem_nil

theorem gatewayStep (g : Gateway) (op : GatewayOp) (sound : g.Sound) :
    StoreStep g.store op (g.successReport op) (g.after op).store := by
  cases op with
  | receive endpointId message =>
    simp only [Gateway.after,Gateway.receive]
    split <;> exact .unchanged _ _
  | advance i stamp =>
    simp only [Gateway.after,Gateway.advance,Gateway.successReport]
    split
    · exact .unchanged _ _
    rename_i h found
    have step := @handlerStep g.store stamp h i (sound h (List.mem_of_getElem? found))
    rw [found]
    split <;> rename_i ran <;> rw [ran] at step <;> exact step
  | control control => exact controlStep control _
  | acceptChunk transferId index digestWire size => exact .ofCommitted (acceptChunkStep ..)
  | sealManifest transferId binding endpoint chunkCount digestWire replayAccepted =>
    exact .ofCommitted (sealManifestStep ..)
  | verifyArtifact input => exact .ofCommitted (verifyArtifactStep input)

theorem gatewaySound (g : Gateway) (op : GatewayOp) (sound : g.Sound) : (g.after op).Sound := by
  have step := gatewayStep g op sound
  have kept : ∀ h ∈ g.handlers, h.Sound (g.after op).store := fun h mem => soundStep step (sound h mem)
  cases op with
  | receive endpointId message =>
    revert kept
    simp only [Gateway.after,Gateway.receive]
    split
    · exact id
    rename_i task received
    intro kept h mem
    rcases List.mem_append.mp mem with old | new
    · exact kept h old
    · cases List.mem_singleton.mp new
      exact receiveSound received
  | advance i stamp =>
    revert step kept
    simp only [Gateway.after,Gateway.advance]
    split
    · exact fun _ => id
    rename_i h found
    have next := fun task => @handlerNext g.store stamp h task (sound h (List.mem_of_getElem? found))
    split
    · exact fun _ kept x mem => kept x (List.mem_of_mem_eraseIdx mem)
    rename_i task ran
    intro step kept x mem
    rcases List.mem_append.mp mem with old | new
    · exact kept x (List.mem_of_mem_eraseIdx old)
    · cases List.mem_singleton.mp new
      exact soundStep step (next task (by rw [ran]))
  | control | acceptChunk | sealManifest | verifyArtifact => exact kept

end Bamep
