import Bamep.Store.Evolution

/-! A created workflow stays linear. Creation commits for fresh identifiers and up to 2^31 JobSteps;
after it no operation changes the places of the JobSteps, and in that order they are always
succeeded, then at most one in another state, then pending. -/
namespace Bamep
open Relational

def JobStep.place (step : JobStep) : JobStepId × JobId × Int := (step.id,step.jobId,step.order)

structure LinearWorkflow (w : WorkflowRows) (jobId : JobId) (stepId : Nat → JobStepId)
    (stepCount : Nat) : Prop where
  places : (w.fetchJobSteps jobId).map JobStep.place =
    (List.range stepCount).map fun i => (stepId i,jobId,(i : Int))
  sections : ∃ done current rest, w.fetchJobSteps jobId = done ++ current ++ rest ∧
    (∀ step ∈ done, step.state = .succeeded) ∧ current.length ≤ 1 ∧
    (∀ step ∈ current, step.state = .preconditionsSatisfied ∨ step.state = .dispatching ∨
      step.state = .failed ∨ step.state = .cancelled) ∧ ∀ step ∈ rest, step.state = .pending
  dispatching : ∀ step ∈ w.fetchJobSteps jobId, step.state = .dispatching ↔
    ∃! a, a ∈ w.attempts ∧ a.jobStepId = step.id ∧ a.state.isActive = true
  alone : ∀ step ∈ w.fetchJobSteps jobId, step.state = .dispatching →
    ∀ other ∈ w.fetchJobSteps jobId, other ≠ step →
      ∀ a ∈ w.attempts, a.jobStepId = other.id → a.state.isActive = false
  reason : ∀ step ∈ w.fetchJobSteps jobId, step.failureReason.isSome = true ↔ step.state = .failed
  single : ∀ step ∈ w.fetchJobSteps jobId, ∀ a ∈ w.attempts, ∀ b ∈ w.attempts,
    a.jobStepId = step.id → b.jobStepId = step.id → a = b

theorem threeSections {α : Type*} {p q : α → Prop} {l : List α} (ordered : l.Pairwise fun x y => p x ∨ q y) :
    ∃ done current rest, l = done ++ current ++ rest ∧ (∀ x ∈ done, p x) ∧ current.length ≤ 1 ∧
      (∀ x ∈ current, ¬p x ∧ ¬q x) ∧ ∀ x ∈ rest, q x := by
  induction l with
  | nil => exact ⟨[],[],[],rfl,nofun,Nat.zero_le _,nofun,nofun⟩
  | cons x tail ih =>
    obtain ⟨first,others⟩ := List.pairwise_cons.mp ordered
    by_cases now : p x
    · obtain ⟨done,current,rest,same,before,short,middle,after⟩ := ih others
      refine ⟨x :: done,current,rest,by rw [same]; rfl,?_,short,middle,after⟩
      simpa using ⟨now,before⟩
    · have later : ∀ y ∈ tail, q y := fun y mem => (first y mem).resolve_left now
      by_cases same : q x
      · exact ⟨[],[],x :: tail,rfl,nofun,Nat.zero_le _,nofun,by simpa using ⟨same,later⟩⟩
      · exact ⟨[],[x],tail,rfl,nofun,Nat.le_refl _,by simpa using ⟨now,same⟩,later⟩

section Shape
variable {w : WorkflowRows}

theorem stepStands (linear : Linear w) {step} (mem : step ∈ w.jobSteps) :
    (∃ a ∈ w.attempts, a.jobStepId = step.id ∧ step.state = a.state.stepState ∧
      step.failureReason = a.state.failureReason) ∨
    ((∀ a ∈ w.attempts, a.jobStepId ≠ step.id) ∧
      (step.state = .pending ∨ step.state = .preconditionsSatisfied) ∧ step.failureReason = none) := by
  by_cases owned : ∃ a ∈ w.attempts, a.jobStepId = step.id
  · obtain ⟨a,present,named⟩ := owned
    exact .inl ⟨a,present,named,linear.agrees a present step mem named.symm⟩
  · have free : ∀ a ∈ w.attempts, a.jobStepId ≠ step.id := fun a present named => owned ⟨a,present,named⟩
    exact .inr ⟨free,linear.untouched step mem free⟩

theorem dispatchingIff (linear : Linear w) {step} (mem : step ∈ w.jobSteps) :
    step.state = .dispatching ↔
      ∃! a, a ∈ w.attempts ∧ a.jobStepId = step.id ∧ a.state.isActive = true := by
  constructor
  · intro dispatching
    obtain ⟨a,present,named,active⟩ := dispatchingOwned linear mem dispatching
    exact ⟨a,⟨present,named,active⟩,fun b other =>
      linear.single b other.1 a present (other.2.1.trans named.symm)⟩
  · rintro ⟨a,⟨present,named,active⟩,_⟩
    rw [(linear.agrees a present step mem named.symm).1]
    exact (activeStands active).1

theorem failureReasonIff (linear : Linear w) {step} (mem : step ∈ w.jobSteps) :
    step.failureReason.isSome = true ↔ step.state = .failed := by
  rcases stepStands linear mem with ⟨a,_,_,state,reason⟩ | ⟨_,early,none⟩
  · rw [state,reason]
    cases a.state <;> simp [AttemptState.stepState,AttemptState.failureReason]
  · rw [none]
    rcases early with h | h <;> rw [h] <;> simp

theorem linearWorkflow (valid : w.Valid) (linear : Linear w) {jobId}
    {stepId : Nat → JobStepId} {stepCount}
    (places : (w.fetchJobSteps jobId).map JobStep.place =
      (List.range stepCount).map fun i => (stepId i,jobId,(i : Int))) :
    LinearWorkflow w jobId stepId stepCount := by
  have ascending : (w.fetchJobSteps jobId).Pairwise fun x y => x.order < y.order := by
    have orders : ((w.fetchJobSteps jobId).map JobStep.place).Pairwise fun x y => x.2.2 < y.2.2 := by
      rw [places,List.pairwise_map]
      exact List.pairwise_lt_range.imp fun less => Int.ofNat_lt.mpr less
    rwa [List.pairwise_map] at orders
  have ordered : (w.fetchJobSteps jobId).Pairwise fun x y => x.state = .succeeded ∨ y.state = .pending := by
    refine ascending.imp_of_mem fun {x y} memX memY before => ?_
    obtain ⟨presentX,ownerX⟩ := memFetch.mp memX
    obtain ⟨presentY,ownerY⟩ := memFetch.mp memY
    exact linear.shape x presentX y presentY (ownerX.trans ownerY.symm) before
  refine ⟨places,?_,fun step mem => dispatchingIff linear (memFetch.mp mem).1,?_,
    fun step mem => failureReasonIff linear (memFetch.mp mem).1,?_⟩
  · obtain ⟨done,current,rest,same,before,short,middle,after⟩ := threeSections ordered
    refine ⟨done,current,rest,same,before,short,fun step mem => ?_,after⟩
    obtain ⟨notDone,notPending⟩ := middle step mem
    cases state : step.state <;> simp_all
  · intro step mem dispatching other present different a owned named
    by_contra active
    have active : a.state.isActive = true := by simpa using active
    obtain ⟨otherMem,otherOwner⟩ := memFetch.mp present
    obtain ⟨stepMem,stepOwner⟩ := memFetch.mp mem
    have busy : other.state = .dispatching := by
      rw [(linear.agrees a owned other otherMem named.symm).1]
      exact (activeStands active).1
    exact different (oneDispatching valid linear otherMem stepMem (otherOwner.trans stepOwner.symm) busy
      dispatching)
  · intro step mem a presentA b presentB namedA namedB
    exact linear.single a presentA b presentB (namedA.trans namedB.symm)

end Shape
section Places
variable {w w' : WorkflowRows}

theorem fetchPlaces (w : WorkflowRows) (jobId : JobId) : (w.fetchJobSteps jobId).map JobStep.place =
    ((w.jobSteps.select fun step => step.jobId = jobId).map JobStep.place).insertionSort
      fun x y => x.2.2 ≤ y.2.2 :=
  List.map_insertionSort _ _ _ _ fun _ _ _ _ => Iff.rfl

theorem effectPlaces {op} (effect : Effect w op w') {row} (mem : row ∈ w.jobs) :
    (w'.fetchJobSteps row.id).map JobStep.place = (w.fetchJobSteps row.id).map JobStep.place := by
  obtain ⟨f,fresh,rows,old,new⟩ := stepsEvolve effect
  have evolves : Evolves (fun x y : JobStep => y.place = x.place) (fun step => step.jobId ≠ row.id)
      w.jobSteps w'.jobSteps := by
    refine ⟨f,fresh,rows,fun step present => ⟨(old step present).1,?_⟩,fun step added => new step added row mem⟩
    obtain ⟨named,owner,order⟩ := old step present
    simp only [JobStep.place,named,owner,order]
  rw [fetchPlaces,fetchPlaces,evolves.selectMap]
  · intro x y same
    have owner : y.jobId = x.jobId := congrArg (fun p => p.2.1) same
    exact ⟨by rw [owner],same⟩
  · intro x other
    exact decide_eq_false other

end Places

structure Keeps (s s' : Store) : Prop where
  places : ∀ row ∈ s.workflow.jobs, (∃ row' ∈ s'.workflow.jobs, row'.id = row.id) ∧
    (s'.workflow.fetchJobSteps row.id).map JobStep.place =
      (s.workflow.fetchJobSteps row.id).map JobStep.place
  attempts : ∀ a ∈ s.workflow.attempts, ∃ b ∈ s'.workflow.attempts, b.id = a.id ∧
    b.jobStepId = a.jobStepId ∧ b.actionId = a.actionId

theorem keepsRefl (s : Store) : Keeps s s :=
  ⟨fun row mem => ⟨⟨row,mem,rfl⟩,rfl⟩,fun a mem => ⟨a,mem,rfl,rfl,rfl⟩⟩

theorem keepsTrans (a b c : Store) (first : Keeps a b) (second : Keeps b c) : Keeps a c := by
  refine ⟨fun row mem => ?_,fun x mem => ?_⟩
  · obtain ⟨⟨row',mem',named⟩,same⟩ := first.places row mem
    obtain ⟨⟨row'',mem'',named'⟩,same'⟩ := second.places row' mem'
    rw [named] at same'
    exact ⟨⟨row'',mem'',named'.trans named⟩,same'.trans same⟩
  · obtain ⟨y,memY,idY,stepY,actionY⟩ := first.attempts x mem
    obtain ⟨z,memZ,idZ,stepZ,actionZ⟩ := second.attempts y memY
    exact ⟨z,memZ,idZ.trans idY,stepZ.trans stepY,actionZ.trans actionY⟩

theorem keepsAfter (s : Store) (op : JobOp) : Keeps s (s.after op) := by
  have effect := afterEffect s op
  refine ⟨fun row mem => ?_,fun a mem => ?_⟩
  · obtain ⟨row',mem',named,_⟩ := (jobsEvolve effect).forward mem
    exact ⟨⟨row',mem',named⟩,effectPlaces effect mem⟩
  · obtain ⟨b,present,named,move⟩ := (attemptsEvolve effect).forward mem
    exact ⟨b,present,named,by rw [move.kept],by rw [move.kept]⟩

theorem keepsRun (s : Store) (ops : List JobOp) : Keeps s (Transition.run Store.after s ops) :=
  Transition.runRelatesAlways keepsRefl keepsTrans keepsAfter s ops

-- Identifiers a creation may use: not stored yet, and distinct among themselves.
structure Fresh (w : WorkflowRows) (jobId : JobId) (stepId : Nat → JobStepId) (stepCount : Nat) : Prop where
  job : ∀ row ∈ w.jobs, row.id ≠ jobId
  steps : ∀ step ∈ w.jobSteps, ∀ i < stepCount, step.id ≠ stepId i
  distinct : ∀ i < stepCount, ∀ j < stepCount, stepId i = stepId j → i = j

section Creation
variable {w w' : WorkflowRows} {jobId : JobId} {stepId : Nat → JobStepId} {endpointId : EndpointId}
  {stepCount : Nat}

theorem workflowStepsMem {step} (small : stepCount ≤ 2 ^ 31) :
    step ∈ (List.range stepCount).map (workflowStep jobId stepId) ↔
      ∃ i < stepCount, step = ⟨stepId i,jobId,i,.pending,none,none⟩ := by
  simp only [List.mem_map,List.mem_range]
  refine exists_congr fun i => and_congr_right fun less => ?_
  rw [workflowStep,asI32Small (Nat.lt_of_lt_of_le less small)]
  exact eq_comm

theorem insertWorkflowSome (endpointId : EndpointId) (fresh : Fresh w jobId stepId stepCount) :
    ∃ w', w.insertWorkflow? ⟨jobId,endpointId,.pending,(List.range stepCount).map (workflowStep jobId stepId)⟩ =
      some w' := by
  have absent : ∀ row ∈ w.jobs, row.id ≠ (⟨jobId,endpointId,.pending⟩ : JobRow).id := fresh.job
  obtain ⟨jobs,inserted⟩ := Table.insertIsSome absent
  have distinct : (((List.range stepCount).map (workflowStep jobId stepId)).map JobStep.id).Nodup := by
    rw [List.map_map]
    refine List.Nodup.map_on (fun i memI j memJ same => ?_) List.nodup_range
    exact fresh.distinct i (List.mem_range.mp memI) j (List.mem_range.mp memJ) same
  have absentSteps : ∀ x ∈ w.jobSteps, ∀ y ∈ (List.range stepCount).map (workflowStep jobId stepId),
      x.id ≠ y.id := by
    intro x mem y present
    obtain ⟨i,less,same⟩ := List.mem_map.mp present
    rw [← same]
    exact fresh.steps x mem i (List.mem_range.mp less)
  obtain ⟨steps,insertedSteps⟩ := Table.insertAllIsSome distinct absentSteps
  exact ⟨_,by simp only [WorkflowRows.insertWorkflow?,inserted,insertedSteps]; rfl⟩

theorem insertWorkflowRows {job} (ok : w.insertWorkflow? job = some w') :
    w.jobs.insert? ⟨job.id,job.endpointId,job.state⟩ = some w'.jobs ∧
      w.jobSteps.insertAll? job.steps = some w'.jobSteps ∧ w'.attempts = w.attempts := by
  obtain ⟨jobs,inserted,ok⟩ := Option.bind_eq_some_iff.mp ok
  obtain ⟨steps,insertedSteps,ok⟩ := Option.bind_eq_some_iff.mp ok
  cases Option.some.inj ok
  exact ⟨inserted,insertedSteps,rfl⟩

theorem insertWorkflowValid (valid : w.Valid) (small : stepCount ≤ 2 ^ 31)
    (ok : w.insertWorkflow? ⟨jobId,endpointId,.pending,(List.range stepCount).map
      (workflowStep jobId stepId)⟩ = some w') : w'.Valid := by
  obtain ⟨jobs,steps,attempts⟩ := insertWorkflowRows ok
  have stepCases : ∀ step ∈ w'.jobSteps, step ∈ w.jobSteps ∨
      ∃ i < stepCount, step = ⟨stepId i,jobId,i,.pending,none,none⟩ := fun step mem =>
    ((Table.memInsertAll steps).mp mem).imp_right (workflowStepsMem small).mp
  have otherJob : ∀ step ∈ w.jobSteps, step.jobId ≠ jobId := by
    intro step mem same
    obtain ⟨row,present,named⟩ := valid.stepJob step mem
    exact Table.insertAbsent jobs present (named.trans same)
  refine ⟨?_,?_,?_,?_,?_,?_⟩
  · intro a memA b memB occupiesA occupiesB
    rcases (Table.memInsert jobs).mp memA with oldA | newA
    · rcases (Table.memInsert jobs).mp memB with oldB | newB
      · exact valid.exclusive a oldA b oldB occupiesA occupiesB
      · rw [newB] at occupiesB; contradiction
    · rw [newA] at occupiesA; contradiction
  · intro step mem
    rcases stepCases step mem with old | ⟨i,_,same⟩
    · exact valid.orderNonneg step old
    · rw [same]; exact Int.natCast_nonneg i
  · intro a memA b memB sameJob sameOrder
    rcases stepCases a memA with oldA | ⟨i,_,sameA⟩
    · rcases stepCases b memB with oldB | ⟨j,_,sameB⟩
      · exact valid.orderUnique a oldA b oldB sameJob sameOrder
      · rw [sameB] at sameJob
        exact absurd sameJob (otherJob a oldA)
    · rcases stepCases b memB with oldB | ⟨j,_,sameB⟩
      · rw [sameA] at sameJob
        exact absurd sameJob.symm (otherJob b oldB)
      · rw [sameA,sameB] at sameOrder ⊢
        rw [Int.ofNat.inj sameOrder]
  · intro step mem
    rcases stepCases step mem with old | ⟨i,_,same⟩
    · obtain ⟨row,present,named⟩ := valid.stepJob step old
      exact ⟨row,(Table.memInsert jobs).mpr (.inl present),named⟩
    · exact ⟨_,(Table.memInsert jobs).mpr (.inr rfl),by rw [same]⟩
  · rw [attempts]; exact valid.actionUnique
  · intro a mem
    rw [attempts] at mem
    obtain ⟨step,present,named⟩ := valid.attemptStep a mem
    exact ⟨step,(Table.memInsertAll steps).mpr (.inl present),named⟩

theorem transferValidGrows {t : TransferRows} (valid : t.Valid w)
    (jobs : ∀ row ∈ w.jobs, ∃ row' ∈ w'.jobs, row'.id = row.id)
    (steps : ∀ step ∈ w.jobSteps, ∃ step' ∈ w'.jobSteps, step'.id = step.id)
    (attempts : ∀ a ∈ w.attempts, ∃ b ∈ w'.attempts, b.id = a.id) : t.Valid w' :=
  { valid with
    transferJob := by
      intro x mem
      obtain ⟨row,present,named⟩ := valid.transferJob x mem
      obtain ⟨row',present',same⟩ := jobs row present
      exact ⟨row',present',same.trans named⟩
    transferStep := by
      intro x mem
      obtain ⟨step,present,named⟩ := valid.transferStep x mem
      obtain ⟨step',present',same⟩ := steps step present
      exact ⟨step',present',same.trans named⟩
    transferAttempt := by
      intro x mem
      rcases valid.transferAttempt x mem with unbound | ⟨a,present,named⟩
      · exact .inl unbound
      · obtain ⟨b,present',same⟩ := attempts a present
        exact .inr ⟨b,present',by rw [same,named]⟩ }

theorem createdPlaces (valid : w.Valid) (small : stepCount ≤ 2 ^ 31)
    (ok : w.insertWorkflow? ⟨jobId,endpointId,.pending,(List.range stepCount).map
      (workflowStep jobId stepId)⟩ = some w') :
    (w'.fetchJobSteps jobId).map JobStep.place =
      (List.range stepCount).map fun i => (stepId i,jobId,(i : Int)) := by
  obtain ⟨jobs,steps,_⟩ := insertWorkflowRows ok
  have none : w.jobSteps.rows.filter (fun step => step.jobId = jobId) = [] := by
    refine List.filter_eq_nil_iff.mpr fun step mem same => ?_
    obtain ⟨row,present,named⟩ := valid.stepJob step mem
    exact Table.insertAbsent jobs present (named.trans (of_decide_eq_true same))
  have all : ((List.range stepCount).map (workflowStep jobId stepId)).filter (fun step => step.jobId = jobId) =
      (List.range stepCount).map (workflowStep jobId stepId) := by
    refine List.filter_eq_self.mpr fun step mem => ?_
    obtain ⟨i,_,same⟩ := List.mem_map.mp mem
    rw [← same]
    exact decide_eq_true rfl
  have places : (List.range stepCount).map (JobStep.place ∘ workflowStep jobId stepId) =
      (List.range stepCount).map fun i => (stepId i,jobId,(i : Int)) := by
    refine List.map_congr_left fun i mem => ?_
    simp only [Function.comp_apply,workflowStep,JobStep.place,
      asI32Small (Nat.lt_of_lt_of_le (List.mem_range.mp mem) small)]
  rw [fetchPlaces,Table.select,Table.insertAllRows steps,List.filter_append,none,all,List.nil_append,
    List.map_map,places]
  refine List.Pairwise.insertionSort_eq (List.pairwise_map.mpr ?_)
  exact List.pairwise_lt_range.imp fun less => Int.ofNat_le.mpr (Nat.le_of_lt less)

theorem createWorkflowStored (endpointId : EndpointId) (s : Store) (positive : 0 < stepCount)
    (small : stepCount ≤ 2 ^ 31) (fresh : Fresh s.workflow jobId stepId stepCount) :
    let created := s.createWorkflow (some .enrolled) jobId stepId endpointId stepCount
    (∃ job, created.2 = .ok job) ∧ (∃ row ∈ created.1.workflow.jobs, row.id = jobId) ∧
      (created.1.workflow.fetchJobSteps jobId).map JobStep.place =
        (List.range stepCount).map fun i => (stepId i,jobId,(i : Int)) := by
  obtain ⟨w',ok⟩ := insertWorkflowSome endpointId fresh
  obtain ⟨jobs,steps,attempts⟩ := insertWorkflowRows ok
  have valid := insertWorkflowValid s.workflowValid small ok
  have transfers : s.transfer.Valid w' := by
    refine transferValidGrows s.transferValid (fun row mem => ?_) (fun step mem => ?_) fun a mem => ?_
    · exact ⟨row,(Table.memInsert jobs).mpr (.inl mem),rfl⟩
    · exact ⟨step,(Table.memInsertAll steps).mpr (.inl mem),rfl⟩
    · exact ⟨a,by rw [attempts]; exact mem,rfl⟩
  have committed : s.commitWorkflow (some w') = some ⟨w',s.transfer,valid,transfers⟩ := by
    simp only [Store.commitWorkflow,Option.bind_some,commit,dif_pos (And.intro valid transfers)]
  simp only [Store.createWorkflow,Bamep.createWorkflow,if_neg (Nat.pos_iff_ne_zero.mp positive),ok,committed,
    ne_eq,not_true_eq_false,if_false]
  exact ⟨⟨_,rfl⟩,⟨_,(Table.memInsert jobs).mpr (.inr rfl),rfl⟩,createdPlaces s.workflowValid small ok⟩

theorem workflowStaysLinear (before ops later : List JobOp) (positive : 0 < stepCount)
    (small : stepCount ≤ 2 ^ 31)
    (fresh : Fresh (Transition.run Store.after .empty before).workflow jobId stepId stepCount) :
    let created := (Transition.run Store.after .empty before).createWorkflow (some .enrolled) jobId stepId
      endpointId stepCount
    let w := (Transition.run Store.after created.1 ops).workflow
    let w' := (Transition.run Store.after created.1 (ops ++ later)).workflow
    (∃ job, created.2 = .ok job) ∧ LinearWorkflow w' jobId stepId stepCount ∧
      ∀ a ∈ w.attempts, ∃ b ∈ w'.attempts, b.id = a.id ∧ b.jobStepId = a.jobStepId ∧
        b.actionId = a.actionId := by
  intro created w w'
  obtain ⟨stored,⟨row,mem,named⟩,places⟩ := createWorkflowStored endpointId
    (Transition.run Store.after .empty before) positive small fresh
  have linear : Linear created.1.workflow :=
    linearAfter _ (.createWorkflow (some .enrolled) jobId stepId endpointId stepCount)
      (linearRun linearEmpty before)
  refine ⟨stored,?_,?_⟩
  · refine linearWorkflow (Store.workflowValid _) (linearRun linear _) ?_
    have kept := ((keepsRun created.1 (ops ++ later)).places row mem).2
    rw [named] at kept
    exact kept.trans places
  · have kept := keepsRun (Transition.run Store.after created.1 ops) later
    rw [← Transition.runAppend] at kept
    exact kept.attempts

theorem workflowStaysLinearThree :
    let created := Store.empty.createWorkflow (some .enrolled) ⟨1⟩ (fun i => ⟨10 + i⟩) ⟨0⟩ 3
    let w := (Transition.run Store.after created.1 ([.admitJob ⟨1⟩ (ticket 1)] ++ dispatchStep ⟨1⟩ 10)).workflow
    (∃ a ∈ w.attempts, a.state = .dispatched) ∧ LinearWorkflow w ⟨1⟩ (fun i => ⟨10 + i⟩) 3 :=
  ⟨by decide,(workflowStaysLinear [] ([.admitJob ⟨1⟩ (ticket 1)] ++ dispatchStep ⟨1⟩ 10) []
    (by decide) (by decide) ⟨nofun,nofun,fun i _ j _ same => by simpa using same⟩).2.1⟩

end Creation
end Bamep
