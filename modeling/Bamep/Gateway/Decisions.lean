import Bamep.Gateway.Routing
import Bamep.Domain.EvidenceStep

/-! What the transfer decisions do to the bound Artifact. Whatever the message, an applied decision is
one the generic operation `op` would take too, and `ArtifactLeg` relates it to the Artifact. -/
namespace Bamep

def AttemptState.lost : AttemptState → Bool
  | .failed | .cancelled => true
  | _ => false

structure ArtifactLeg (facts : TransferEvidenceFacts) (applied : Applied) (artifactFailed : Option Artifact) :
    Prop where
  fails : artifactFailed.isSome = true →
    facts.artifact.state = .incomplete ∧ applied.attempt.state.lost = true
  succeeds : applied.attempt.state = .succeeded →
    facts.attempt.state = .succeeded ∨ facts.artifact.state = .verified
  closes : applied.attempt.state.lost = true → artifactFailed = none →
    applied.attempt.state = facts.attempt.state ∨ facts.artifact.state ≠ .incomplete

def TransferEvidenceFacts.workflow (facts : TransferEvidenceFacts) : EvidenceFacts :=
  ⟨facts.job,facts.jobStep,facts.attempt⟩

section Outcomes
variable {job : Job} {jobStep : JobStep} {attempt : Attempt} {stamp : Stamp} {applied : Applied}

theorem resultSucceededState
    (ok : applyActionEvidence job jobStep attempt .resultSucceeded stamp = .applied applied) :
    applied.attempt.state = .succeeded := by
  simp only [applyActionEvidence] at ok
  split at ok <;> try contradiction
  all_goals
    cases ActionEvidenceOutcome.applied.inj ok
    rfl

theorem resultFailedState
    (ok : applyActionEvidence job jobStep attempt .resultFailed stamp = .applied applied) :
    applied.attempt.state = .failed := by
  simp only [applyActionEvidence] at ok
  split at ok <;> try contradiction
  all_goals
    cases ActionEvidenceOutcome.applied.inj ok
    rfl

theorem ackState {evidence} (ack : evidence = .ackAccepted ∨ evidence = .ackRejected)
    (ok : applyActionEvidence job jobStep attempt evidence stamp = .applied applied) :
    applied.attempt.state = .inProgress ∨ applied.attempt.state = .rejected := by
  rcases ack with h | h
  all_goals
    subst h
    simp only [applyActionEvidence] at ok
    split at ok <;> try contradiction
    cases ActionEvidenceOutcome.applied.inj ok
  · exact .inl rfl
  · exact .inr rfl

theorem cancelAckState {evidence}
    (ok : applyCancelAck job jobStep attempt evidence stamp = some applied) :
    applied.attempt.state = attempt.state ∨ applied.attempt.state = .awaitingReconciliation ∨
      (applied.attempt.state = .cancelled ∧ applied.terminal = true) := by
  unfold applyCancelAck at ok
  split at ok
  · contradiction
  split at ok
  · split at ok <;> try contradiction
    all_goals
      cases Option.some.inj ok
      exact .inr (.inr ⟨rfl,rfl⟩)
  · split at ok <;> try contradiction
    · cases Option.some.inj ok; exact .inr (.inl rfl)
    · cases Option.some.inj ok; exact .inr (.inl rfl)
    · cases Option.some.inj ok; exact .inl rfl
  · contradiction
  · split at ok <;> try contradiction
    all_goals
      cases Option.some.inj ok
      exact .inr (.inl rfl)

theorem statusCancelledState
    (ok : applyStatusReport job jobStep attempt .cancelled stamp = some applied) :
    applied.attempt.state = .cancelled ∧ applied.terminal = true := by
  simp only [applyStatusReport] at ok
  split at ok
  · contradiction
  split at ok
  · cases Option.some.inj ok; exact ⟨rfl,rfl⟩
  · contradiction

theorem statusFailedState (ok : applyStatusReport job jobStep attempt .failed stamp = some applied) :
    applied.attempt.state = .failed ∧ applied.terminal = true := by
  simp only [applyStatusReport] at ok
  split at ok
  · contradiction
  · cases Option.some.inj ok; exact ⟨rfl,rfl⟩

theorem statusLiveState {evidence} (failed : evidence ≠ .failed)
    (cancelled : evidence ≠ .cancelled)
    (ok : applyStatusReport job jobStep attempt evidence stamp = some applied) :
    applied.attempt.state = .inProgress ∨ evidence = .succeeded ∧ applied.attempt.state = .succeeded := by
  unfold applyStatusReport at ok
  split at ok
  · contradiction
  split at ok <;> try contradiction
  · cases Option.some.inj ok; exact .inl rfl
  · cases Option.some.inj ok; exact .inl rfl
  · cases Option.some.inj ok; exact .inr ⟨rfl,rfl⟩

theorem closeIndeterminateState (ok : closeIndeterminate job jobStep attempt stamp = .applied applied) :
    applied.attempt.state = .indeterminate := by
  unfold closeIndeterminate at ok
  split at ok <;> try contradiction
  cases CloseIndeterminateOutcome.applied.inj ok
  rfl

end Outcomes

section Legs
variable {facts : TransferEvidenceFacts} {stamp : Stamp} {applied : Applied} {failed : Option Artifact}

theorem transferResultLeg {detail}
    (ok : decideTransferTerminalEvidence detail facts stamp = .applied applied failed) :
    applyActionEvidence facts.job facts.jobStep facts.attempt detail.code.evidence stamp = .applied applied ∧
      ArtifactLeg facts applied failed := by
  unfold decideTransferTerminalEvidence at ok
  split at ok
  · contradiction
  split at ok <;> try contradiction
  rename_i decided evidence
  split at ok
  · contradiction
  rename_i leg required
  obtain ⟨rfl,rfl⟩ := TransferEvidenceDecision.applied.inj ok
  refine ⟨evidence,?_⟩
  unfold TransferResultCode.artifactLeg at required
  split at required
  · have state : decided.attempt.state = .succeeded := by
      rename_i code
      rw [code] at evidence
      exact resultSucceededState evidence
    split at required
    · contradiction
    · rename_i verified
      cases Option.some.inj required
      exact ⟨nofun,fun _ => .inr (not_not.mp verified),by rw [state]; nofun⟩
  · have state : decided.attempt.state = .failed := by
      rename_i code
      rw [code] at evidence
      exact resultFailedState evidence
    split at required
    · contradiction
    · rename_i lost
      cases Option.some.inj required
      exact ⟨nofun,by rw [state]; nofun,fun _ _ => .inr (by rw [not_not.mp lost]; nofun)⟩
  all_goals
    have state : decided.attempt.state = .failed := by
      rename_i code
      rw [code] at evidence
      exact resultFailedState evidence
    split at required <;> try contradiction
    rename_i incomplete
    split at required <;> try contradiction
    cases Option.some.inj required
    exact ⟨fun _ => ⟨incomplete,by rw [state]; rfl⟩,by rw [state]; nofun,nofun⟩

theorem composedLeg {final outcome}
    (ok : composeArtifactFailure final facts outcome = .applied applied failed) (lost : final.lost = true)
    (reaches : ∀ a, outcome = some a → a.attempt.state = facts.attempt.state ∨
      a.attempt.state = .awaitingReconciliation ∨ (a.attempt.state = final ∧ a.terminal = true)) :
    outcome = some applied ∧ ArtifactLeg facts applied failed := by
  unfold composeArtifactFailure at ok
  split at ok
  · contradiction
  cases outcome with
  | none => contradiction
  | some decided =>
  have reach := reaches decided rfl
  have unsuccessful : decided.attempt.state = .succeeded → facts.attempt.state = .succeeded := by
    intro succeeded
    rcases reach with h | h | h
    · exact h.symm.trans succeeded
    · rw [h] at succeeded; contradiction
    · rw [← h.1,succeeded] at lost; contradiction
  simp only at ok
  split at ok
  · rename_i guard
    simp only [Bool.and_eq_true,decide_eq_true_eq] at guard
    split at ok <;> try contradiction
    obtain ⟨rfl,rfl⟩ := TransferEvidenceDecision.applied.inj ok
    exact ⟨rfl,fun _ => ⟨guard.2,by rw [guard.1.2]; exact lost⟩,fun h => .inl (unsuccessful h),nofun⟩
  · rename_i guard
    obtain ⟨rfl,rfl⟩ := TransferEvidenceDecision.applied.inj ok
    refine ⟨rfl,nofun,fun h => .inl (unsuccessful h),fun closed _ => ?_⟩
    rcases reach with h | h | h
    · exact .inl h
    · rw [h] at closed; contradiction
    · refine .inr fun incomplete => guard ?_
      simp [h.1,h.2,incomplete]

theorem transferCancelAckLeg {evidence}
    (ok : decideTransferCancelAck evidence facts stamp = .applied applied failed) :
    applyCancelAck facts.job facts.jobStep facts.attempt evidence stamp = some applied ∧
      ArtifactLeg facts applied failed :=
  composedLeg ok rfl fun _ same => cancelAckState same

theorem transferStatusCancelledLeg
    (ok : decideTransferStatusReportCancelled facts stamp = .applied applied failed) :
    applyStatusReport facts.job facts.jobStep facts.attempt .cancelled stamp = some applied ∧
      ArtifactLeg facts applied failed :=
  composedLeg ok rfl fun _ same => .inr (.inr (statusCancelledState same))

theorem transferStatusFailedLeg
    (ok : decideTransferStatusReportFailed facts stamp = .applied applied failed) :
    applyStatusReport facts.job facts.jobStep facts.attempt .failed stamp = some applied ∧
      ArtifactLeg facts applied failed :=
  composedLeg ok rfl fun _ same => .inr (.inr (statusFailedState same))

end Legs
end Bamep
