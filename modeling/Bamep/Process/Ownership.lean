import Bamep.Process.Reservations

/-! Who holds a reservation. Every outstanding reservation has exactly one owner, which is a service
call, a committed dispatch that waits, or a mapping of the registry. -/
namespace Bamep
open Relational Transition

def ServiceCall.holds : ServiceCall → Option ReservationId
  | .acquired _ reservation | .refused reservation | .taken _ reservation => some reservation
  | .registered .. | .settled _ => none

def ServiceCall.releases : ServiceCall → Option ReservationId
  | .refused reservation | .taken _ reservation => some reservation
  | .acquired .. | .registered .. | .settled _ => none

namespace Process
variable (p : Process)

def owners : List ReservationId :=
  p.calls.filterMap ServiceCall.holds ++ p.waiting.map CommittedDispatch.reservation ++
    p.registry.rows.map Mapping.reservation

def outstanding : List ReservationId := p.arbiter.reservations.rows.map Reservation.id

/- An acquisition is not given an id that is still held, and no evidence settles an Attempt whose
dispatch still waits for its `ActionDispatchService` call. -/
def Orderly : ProcessOp → Prop
  | .acquire _ _ => ∀ row ∈ p.arbiter.reservations, row.id.value ≠ p.arbiter.nextId
  | .evidence call stamp => ∀ d ∈ p.waiting, (call.commit p.store stamp).2.bind Applied.settled ≠ some d.attempt.id
  | _ => True

end Process

instance Process.orderlyDecide (p : Process) : (op : ProcessOp) → Decidable (p.Orderly op)
  | .acquire _ _ => inferInstanceAs (Decidable (∀ row ∈ p.arbiter.reservations, row.id.value ≠ p.arbiter.nextId))
  | .evidence call stamp => inferInstanceAs
      (Decidable (∀ d ∈ p.waiting, (call.commit p.store stamp).2.bind Applied.settled ≠ some d.attempt.id))
  | .commit .. | .commitFails _ | .dispatch .. | .dispatchAgain .. | .send _ | .take _ | .release _
  | .control .. | .dataPlane _ => .isTrue trivial

def ProcessOp.repeats : ProcessOp → Bool
  | .dispatchAgain .. => true
  | _ => false

structure Ownership (p : Process) : Prop where
  owned : p.owners.Perm p.outstanding
  logged : p.granted.Perm (p.released ++ p.outstanding)
  waits : ∀ d ∈ p.waiting, p.store.active d.attempt.id = true
  mapped : ∀ row ∈ p.registry, ∃ d ∈ p.called, d.attempt.id = row.attemptId ∧ d.reservation = row.reservation
  closing : ∀ row ∈ p.registry, p.store.active row.attemptId = true ∨ .settled row.attemptId ∈ p.calls
  registered : ∀ d ∈ p.called, p.store.active d.attempt.id = true → ⟨d.attempt.id,d.reservation⟩ ∈ p.registry
  past : ∀ id, .settled id ∈ p.calls → p.store.HasAttempt id ∧ p.store.active id = false

section Steps
variable {p : Process}

theorem heldCount {i call} (found : p.calls[i]? = some call) (r : ReservationId) :
    (p.calls.filterMap ServiceCall.holds).count r =
      (call.holds.toList ++ (p.calls.eraseIdx i).filterMap ServiceCall.holds).count r := by
  rw [((erasePerm found).filterMap ServiceCall.holds).count_eq]
  cases held : call.holds <;> simp [held]

theorem heldSingle (call : ServiceCall) : [call].filterMap ServiceCall.holds = call.holds.toList := by
  cases held : call.holds <;> simp [held]

theorem ownershipStart (store : Store) (capacities : List (Count ResourceKind)) :
    Ownership (.start store capacities) :=
  ⟨.refl _,.refl _,nofun,nofun,nofun,nofun,nofun⟩

theorem ownersOnce (own : Ownership p) : p.owners.Nodup :=
  own.owned.nodup_iff.mpr p.arbiter.reservations.unique

/- The fields that depend on the store, after a transaction that settles no waiting Attempt. -/
theorem ownershipStore (own : Ownership p) {s settled}
    (moves : Moves p.store s none settled)
    (idle : ∀ id, settled = some id → p.store.HasAttempt id ∧ ∀ d ∈ p.waiting, d.attempt.id ≠ id) :
    Ownership { p with
      store := s
      calls := p.calls ++ settled.toList.map ServiceCall.settled } := by
  have held : ∀ id, p.store.HasAttempt id → s.HasAttempt id := fun id has => (moves.held id).mpr (.inl has)
  have active : ∀ id, s.active id = true → p.store.active id = true ∧ settled ≠ some id := by
    intro id now
    rcases (moves.active id).mp now with was | none
    · exact was
    · cases none
  refine ⟨?_,own.logged,fun d mem => ?_,own.mapped,fun row mem => ?_,
    fun d mem now => own.registered d mem (active _ now).1,fun id mem => ?_⟩
  · refine List.Perm.trans ?_ own.owned
    have none : (settled.toList.map ServiceCall.settled).filterMap ServiceCall.holds = [] := by
      cases settled <;> rfl
    simp only [Process.owners,List.filterMap_append,none,List.append_nil]
    exact .refl _
  · refine (moves.active _).mpr (.inl ⟨own.waits d mem,fun same => ?_⟩)
    exact (idle _ same).2 d mem rfl
  · rcases own.closing row mem with was | pending
    · by_cases same : settled = some row.attemptId
      · exact .inr (List.mem_append_right _ (by rw [same]; simp))
      · exact .inl ((moves.active _).mpr (.inl ⟨was,same⟩))
    · exact .inr (List.mem_append_left _ pending)
  · rcases List.mem_append.mp mem with old | new
    · obtain ⟨has,idle⟩ := own.past id old
      refine ⟨held id has,Bool.eq_false_iff.mpr fun now => ?_⟩
      rw [(active id now).1] at idle
      cases idle
    · have same : settled = some id := by
        cases settled with
        | none => cases new
        | some other => simpa [eq_comm] using new
      exact ⟨held id (idle id same).1,Bool.eq_false_iff.mpr fun now => (active id now).2 same⟩

theorem ownershipCalls (own : Ownership p) {calls}
    (held : (calls.filterMap ServiceCall.holds).Perm (p.calls.filterMap ServiceCall.holds))
    (settled : ∀ id, .settled id ∈ calls ↔ .settled id ∈ p.calls) : Ownership { p with calls := calls } := by
  refine ⟨.trans ?_ own.owned,own.logged,own.waits,own.mapped,fun row mem => ?_,own.registered,
    fun id mem => own.past id ((settled id).mp mem)⟩
  · exact (held.append_right _).append_right _
  · exact (own.closing row mem).imp_right (settled row.attemptId).mpr

theorem ownershipRefused (own : Ownership p) {i request reservation}
    (found : p.calls[i]? = some (.acquired request reservation)) :
    Ownership { p with calls := p.calls.eraseIdx i ++ [.refused reservation] } := by
  refine ownershipCalls own (List.perm_iff_count.mpr fun r => ?_) fun id => ?_
  · rw [heldCount found r,List.filterMap_append,List.perm_append_comm.count_eq]
    rfl
  · simp [eraseMem found]

theorem ownershipSend (own : Ownership p) {i endpointId attemptId message}
    (found : p.calls[i]? = some (.registered endpointId attemptId message)) :
    Ownership { p with calls := p.calls.eraseIdx i } := by
  refine ownershipCalls own (List.perm_iff_count.mpr fun r => ?_) fun id => ?_
  · rw [heldCount found r]
    rfl
  · simp [eraseMem found]

theorem ownershipAcquire (own : Ownership p) (request : DispatchRequest) (claims : List ResourceClaim)
    (fresh : p.Orderly (.acquire request claims)) : Ownership (p.acquire request claims) := by
  unfold Process.acquire
  rcases acquireShape p.arbiter claims with refused | ⟨reserved,granted⟩
  · simp only [refused]
    exact own
  simp only [granted]
  have rows : (p.arbiter.reservations.upsert ⟨⟨p.arbiter.nextId⟩,claims⟩
      (fun row => { row with claims := claims }) fun _ => rfl).rows =
      p.arbiter.reservations.rows ++ [⟨⟨p.arbiter.nextId⟩,claims⟩] :=
    Table.upsertAbsent _ fun old mem same => fresh old mem (congrArg ReservationId.value same)
  refine ⟨?_,?_,own.waits,own.mapped,fun row mem => ?_,own.registered,
    fun id mem => own.past id (by simpa using mem)⟩
  · refine List.perm_iff_count.mpr fun r => ?_
    have owned := own.owned.count_eq r
    simp only [Process.owners,Process.outstanding,List.count_append,List.filterMap_append,heldSingle,
      ServiceCall.holds,Option.toList_some,rows,List.map_append,List.map_cons,List.map_nil] at owned ⊢
    omega
  · simp only [Process.outstanding,rows,List.map_append,List.map_cons,List.map_nil,← List.append_assoc]
    exact own.logged.append_right _
  · exact (own.closing row mem).imp_right (List.mem_append_left _)

theorem ownershipCommitted (issued : Issued p) (own : Ownership p) {i request reservation}
    (found : p.calls[i]? = some (.acquired request reservation)) {s attempt}
    (moves : Moves p.store s (some attempt.id) none) :
    Ownership { p with
      store := s
      calls := p.calls.eraseIdx i
      waiting := p.waiting ++ [⟨attempt,reservation⟩] } := by
  have settled : ∀ id, .settled id ∈ p.calls.eraseIdx i ↔ .settled id ∈ p.calls := by simp [eraseMem found]
  have active : ∀ id, p.store.HasAttempt id → (s.active id = true ↔ p.store.active id = true) := by
    intro id has
    have other : some attempt.id ≠ some id := fun same => moves.fresh id same has
    rw [moves.active id]
    exact ⟨fun now => (now.resolve_right other).1,fun was => .inl ⟨was,nofun⟩⟩
  refine ⟨?_,own.logged,fun d mem => ?_,own.mapped,fun row mem => ?_,fun d mem now => ?_,fun id mem => ?_⟩
  · refine List.perm_iff_count.mpr fun r => ?_
    have owned := own.owned.count_eq r
    have calls := heldCount found r
    simp only [Process.owners,Process.outstanding,List.count_append,List.map_append,ServiceCall.holds,
      Option.toList_some,List.map_cons,List.map_nil] at owned calls ⊢
    omega
  · rcases List.mem_append.mp mem with old | new
    · exact (active _ (issued.stored d (List.mem_append_left _ old))).mpr (own.waits d old)
    · cases List.mem_singleton.mp new
      exact (moves.active _).mpr (.inr rfl)
  · rcases own.closing row mem with was | pending
    · exact .inl ((active _ (activeHeld was)).mpr was)
    · exact .inr ((settled _).mpr pending)
  · exact own.registered d mem ((active _ (issued.stored d (List.mem_append_right _ mem))).mp now)
  · obtain ⟨has,idle⟩ := own.past id ((settled id).mp mem)
    refine ⟨(moves.held id).mpr (.inl has),Bool.eq_false_iff.mpr fun now => ?_⟩
    rw [(active id has).mp now] at idle
    cases idle

theorem ownershipDispatch (issued : Issued p) (own : Ownership p) (k : Nat) (endpointId : EndpointId) (transfer : Option Transfer) :
    Ownership (p.dispatch k endpointId transfer) := by
  unfold Process.dispatch
  split
  · exact own
  rename_i d found
  have mem : d ∈ p.waiting := List.mem_of_getElem? found
  -- a mapping for this Attempt would belong to a dispatch that was already passed on
  have absent : ∀ row ∈ p.registry, row.attemptId ≠ d.attempt.id := by
    intro row present same
    obtain ⟨other,called,named,_⟩ := own.mapped row present
    exact issued.apart mem called (named.trans same)
  obtain ⟨_,taken⟩ | ⟨registry,inserted,same⟩ := dispatchMessageCases
    { p with waiting := p.waiting.eraseIdx k, called := p.called ++ [d] } endpointId d.attempt d.reservation
    (actionDispatch d.attempt transfer)
  · obtain ⟨row,present,same⟩ := taken (issued.fresh d (List.mem_append_left _ mem))
    exact absurd same (absent row present)
  rw [same]
  have kept : ∀ x ∈ p.waiting.eraseIdx k, x ∈ p.waiting := fun x present => (eraseMem found).mpr (.inr present)
  refine ⟨?_,own.logged,fun x present => own.waits x (kept x present),fun row present => ?_,
    fun row present => ?_,fun x present now => ?_,fun id pending => own.past id (by simpa using pending)⟩
  · refine List.perm_iff_count.mpr fun r => ?_
    have owned := own.owned.count_eq r
    have waiting := ((erasePerm found).map CommittedDispatch.reservation).count_eq r
    simp only [Process.owners,Process.outstanding,List.count_append,List.filterMap_append,heldSingle,
      ServiceCall.holds,Option.toList_none,Table.insertRows inserted,List.map_append,List.map_cons,List.map_nil,
      List.count_cons,List.count_nil] at owned waiting ⊢
    omega
  · rcases (Table.memInsert inserted).mp present with old | rfl
    · obtain ⟨x,called,same⟩ := own.mapped row old
      exact ⟨x,List.mem_append_left _ called,same⟩
    · exact ⟨d,List.mem_append_right _ (List.mem_singleton.mpr rfl),rfl,rfl⟩
  · rcases (Table.memInsert inserted).mp present with old | rfl
    · exact (own.closing row old).imp_right (List.mem_append_left _)
    · exact .inl (own.waits d mem)
  · refine (Table.memInsert inserted).mpr ?_
    rcases List.mem_append.mp present with old | new
    · exact .inl (own.registered x old now)
    · cases List.mem_singleton.mp new
      exact .inr rfl

theorem ownershipEvidence (own : Ownership p) (call : EvidenceCall) (stamp : Stamp)
    (idle : p.Orderly (.evidence call stamp)) : Ownership (p.evidence call stamp) := by
  have ends := callEnds p.store call stamp
  unfold Process.evidence
  have idle : ∀ d ∈ p.waiting, (call.commit p.store stamp).2.bind Applied.settled ≠ some d.attempt.id := idle
  generalize call.commit p.store stamp = result at ends idle ⊢
  cases ends with
  | kept => exact own
  | @applied facts applied s locked decides ok =>
    have sameId : applied.attempt.id = facts.attempt.id := by rw [(decidesMove decides).kept]
    have stored : p.store.HasAttempt applied.attempt.id := ⟨facts.attempt,locked.attempt,sameId.symm⟩
    have next := ownershipStore own (evidenceMoves locked decides ok) fun id same => by
      refine ⟨?_,fun d mem here => idle d mem (same.trans (congrArg some here.symm))⟩
      unfold Applied.settled at same
      split at same <;> cases same
      exact stored
    unfold Applied.settled at next
    simp only
    split
    · rename_i terminal
      simpa only [terminal,if_true,Option.toList_some,List.map_cons,List.map_nil] using next
    · rename_i ongoing
      simpa only [ongoing,if_false,Bool.false_eq_true,Option.toList_none,List.map_nil,List.append_nil] using next

theorem ownershipTake (own : Ownership p) (i : Nat) : Ownership (p.take i) := by
  unfold Process.take
  split <;> try exact own
  rename_i attemptId found
  have others : ∀ id, id ≠ attemptId → .settled id ∈ p.calls → .settled id ∈ p.calls.eraseIdx i := by
    intro id other pending
    rcases (eraseMem found).mp pending with same | kept
    · exact absurd (ServiceCall.settled.inj same) other
    · exact kept
  have kept : ∀ row ∈ p.registry.retain fun row => row.attemptId ≠ attemptId,
      row ∈ p.registry ∧ row.attemptId ≠ attemptId := by
    intro row mem
    simpa using mem
  have still : ∀ d ∈ p.called, p.store.active d.attempt.id = true →
      (⟨d.attempt.id,d.reservation⟩ : Mapping) ∈ p.registry.retain fun row => row.attemptId ≠ attemptId := by
    intro d mem now
    refine Table.memRetain.mpr ⟨own.registered d mem now,?_⟩
    simp only [ne_eq,decide_not,Bool.not_eq_true',decide_eq_false_iff_not]
    rintro rfl
    rw [(own.past _ (List.mem_of_getElem? found)).2] at now
    cases now
  have pending : ∀ row ∈ p.registry.retain fun row => row.attemptId ≠ attemptId,
      p.store.active row.attemptId = true ∨ .settled row.attemptId ∈ p.calls.eraseIdx i := by
    intro row mem
    obtain ⟨present,other⟩ := kept row mem
    exact (own.closing row present).imp_right (others _ other)
  have before : ∀ id, .settled id ∈ p.calls.eraseIdx i → .settled id ∈ p.calls := fun id mem =>
    (eraseMem found).mpr (.inr mem)
  simp only [AttemptReservationRegistry.take]
  cases looked : p.registry.find? attemptId with
  | none =>
    have same : p.registry.retain (fun row => row.attemptId ≠ attemptId) = p.registry := by
      refine Table.eqOfRows (List.filter_eq_self.mpr fun row mem => ?_)
      by_contra equal
      rw [Table.findIff.mpr ⟨mem,by simpa using equal⟩] at looked
      cases looked
    rw [same] at pending
    simp only [Option.map_none,same]
    refine ⟨?_,own.logged,own.waits,own.mapped,pending,own.registered,fun id mem => own.past id (before id mem)⟩
    refine List.perm_iff_count.mpr fun r => ?_
    have owned := own.owned.count_eq r
    have calls := heldCount found r
    simp only [Process.owners,Process.outstanding,List.count_append,ServiceCall.holds,Option.toList_none,
      List.nil_append] at owned calls ⊢
    omega
  | some row =>
    obtain ⟨present,rfl⟩ := Table.findIff.mp looked
    simp only [Option.map_some]
    refine ⟨?_,own.logged,own.waits,fun x mem => own.mapped x (kept x mem).1,
      fun x mem => (pending x mem).imp_right (List.mem_append_left _),still,fun id mem => ?_⟩
    · refine List.perm_iff_count.mpr fun r => ?_
      have owned := own.owned.count_eq r
      have calls := heldCount found r
      have rows := ((Table.retainPerm present).map Mapping.reservation).count_eq r
      simp only [Process.owners,Process.outstanding,List.count_append,List.filterMap_append,heldSingle,
        ServiceCall.holds,Option.toList_none,Option.toList_some,List.map_cons,List.count_cons,List.count_nil]
        at owned calls rows ⊢
      omega
    · exact own.past id (before id (by simpa using mem))

theorem releasePerm (own : Ownership p) {i : Nat} {call reservation}
    (found : p.calls[i]? = some call) (held : call.holds = some reservation) :
    p.outstanding.Perm (reservation :: (p.arbiter.release reservation).reservations.rows.map Reservation.id) := by
  have mem : reservation ∈ p.owners := by
    refine List.mem_append_left _ (List.mem_append_left _ ?_)
    exact List.mem_filterMap.mpr ⟨call,List.mem_of_getElem? found,held⟩
  obtain ⟨row,present,rfl⟩ := List.mem_map.mp (own.owned.mem_iff.mp mem)
  unfold TechnicalResourceArbiter.release
  rw [Table.findIff.mpr ⟨present,rfl⟩]
  exact (Table.retainPerm present).map Reservation.id

theorem ownershipRelease (own : Ownership p) {i : Nat} {call reservation}
    (found : p.calls[i]? = some call) (held : call.holds = some reservation) (ids : List AttemptId) :
    Ownership { p with
      arbiter := p.arbiter.release reservation
      calls := p.calls.eraseIdx i
      released := p.released ++ [reservation]
      freed := ids } := by
  have freed := releasePerm own found held
  have settled : ∀ id, .settled id ∈ p.calls.eraseIdx i ↔ .settled id ∈ p.calls := by
    intro id
    rw [eraseMem found]
    refine ⟨.inr,fun mem => mem.resolve_left ?_⟩
    rintro rfl
    cases held
  refine ⟨?_,?_,own.waits,own.mapped,fun row mem => (own.closing row mem).imp_right (settled _).mpr,own.registered,
    fun id mem => own.past id ((settled id).mp mem)⟩
  · refine List.perm_iff_count.mpr fun r => ?_
    have owned := own.owned.count_eq r
    have calls := heldCount found r
    have left := freed.count_eq r
    simp only [Process.owners,Process.outstanding,List.count_append,held,Option.toList_some,List.count_cons,
      List.count_nil] at owned calls left ⊢
    omega
  · refine own.logged.trans ?_
    rw [List.append_assoc]
    exact freed.append_left _

theorem ownershipStep (issued : Issued p) (own : Ownership p) {op} (once : op.repeats = false)
    (orderly : p.Orderly op) : Ownership (p.after op) := by
  have stored : ∀ s, Moves p.store s none none → Ownership { p with store := s } := by
    intro s moves
    simpa using ownershipStore own moves nofun
  cases op with
  | acquire request claims => exact ownershipAcquire own request claims orderly
  | commit i facts attemptId actionId =>
    simp only [Process.after,Process.commit]
    split <;> try exact own
    rename_i request reservation found
    have ends := dispatchEnds p.store request facts attemptId actionId
    generalize request.commit p.store facts attemptId actionId = result at ends ⊢
    cases ends with
    | refused moves => exact ownershipRefused (stored _ moves) found
    | committed fresh moves => exact ownershipCommitted issued own found moves
  | commitFails i =>
    simp only [Process.after,Process.commitFails]
    split <;> try exact own
    rename_i found
    exact ownershipRefused own found
  | dispatch k endpointId transfer => exact ownershipDispatch issued own k endpointId transfer
  | dispatchAgain => cases once
  | send i =>
    simp only [Process.after,Process.send]
    split <;> try exact own
    rename_i found
    have sent := ownershipSend own found
    exact ⟨sent.owned,sent.logged,sent.waits,sent.mapped,sent.closing,sent.registered,sent.past⟩
  | evidence call stamp => exact ownershipEvidence own call stamp orderly
  | take i => exact ownershipTake own i
  | release i =>
    simp only [Process.after,Process.release]
    split <;> try exact own
    · rename_i found
      exact ownershipRelease own found rfl p.freed
    · rename_i found
      exact ownershipRelease own found rfl _
  | control op quiet =>
    exact stored _ (quietMoves (afterEffect p.store op) quiet.1 (quietUndecided quiet.2))
  | dataPlane rows =>
    exact stored _ (.same (congrArg WorkflowRows.attempts (dataPlaneWorkflow p.store rows)))

end Steps

structure ReservationLaws (p : Process) : Prop where
  once : p.granted.Perm (p.released ++ p.outstanding)
  idle : ∀ call ∈ p.calls, ∀ reservation, call.releases = some reservation → reservation ∈ p.outstanding ∧
    ∀ d ∈ p.dispatches, d.reservation = reservation → p.store.active d.attempt.id = false
  exact : p.calls = [] → p.waiting = [] →
    ((p.called.filter fun d => p.store.active d.attempt.id).map CommittedDispatch.reservation).Perm p.outstanding

section Laws
variable {p : Process}

theorem releasesHolds {call : ServiceCall} {reservation}
    (releases : call.releases = some reservation) : call.holds = some reservation := by
  cases call <;> first
    | exact releases
    | cases releases

theorem activeOwner (own : Ownership p) {d} (mem : d ∈ p.dispatches)
    (active : p.store.active d.attempt.id = true) :
    d.reservation ∈ p.waiting.map CommittedDispatch.reservation ++ p.registry.rows.map Mapping.reservation := by
  rcases List.mem_append.mp mem with waits | called
  · exact List.mem_append_left _ (List.mem_map_of_mem waits)
  · exact List.mem_append_right _ (List.mem_map.mpr ⟨_,own.registered d called active,rfl⟩)

theorem releasedIdle (own : Ownership p) {call : ServiceCall} (pending : call ∈ p.calls)
    {reservation} (releases : call.releases = some reservation) :
    reservation ∈ p.outstanding ∧
      ∀ d ∈ p.dispatches, d.reservation = reservation → p.store.active d.attempt.id = false := by
  have held : reservation ∈ p.calls.filterMap ServiceCall.holds :=
    List.mem_filterMap.mpr ⟨call,pending,releasesHolds releases⟩
  refine ⟨own.owned.mem_iff.mp (List.mem_append_left _ (List.mem_append_left _ held)),?_⟩
  rintro d mem rfl
  by_contra active
  have once := ownersOnce own
  rw [Process.owners,List.append_assoc] at once
  exact (List.nodup_append.mp once).2.2 _ held _ (activeOwner own mem (Bool.not_eq_false _ ▸ active)) rfl

theorem quietRegistry (issued : Issued p) (own : Ownership p) (calls : p.calls = []) (waiting : p.waiting = []) :
    ((p.called.filter fun d => p.store.active d.attempt.id).map fun d =>
      (⟨d.attempt.id,d.reservation⟩ : Mapping)).Perm p.registry.rows := by
  have distinct := issued.distinct
  rw [Process.dispatches,waiting,List.nil_append] at distinct
  refine (List.perm_ext_iff_of_nodup ?_ p.registry.unique.of_map).mpr fun row => ⟨?_,?_⟩
  · refine List.Nodup.of_map Mapping.attemptId ?_
    rw [List.map_map]
    exact distinct.sublist (List.filter_sublist.map _)
  · intro mem
    obtain ⟨d,chosen,rfl⟩ := List.mem_map.mp mem
    obtain ⟨called,active⟩ := List.mem_filter.mp chosen
    exact own.registered d called active
  · intro mem
    obtain ⟨d,called,named,same⟩ := own.mapped row mem
    have active := (own.closing row mem).resolve_right (by rw [calls]; exact List.not_mem_nil)
    refine List.mem_map.mpr ⟨d,List.mem_filter.mpr ⟨called,named ▸ active⟩,?_⟩
    rw [named,same]

theorem reservationsFollowAttempts (store : Store) (capacities : List (Count ResourceKind)) (ops : List ProcessOp)
    (orderly : Meets Process.after (fun p op => op.repeats = false ∧ p.Orderly op) (.start store capacities) ops) :
    ReservationLaws (Process.reached store capacities ops) := by
  obtain ⟨issued,own⟩ : Issued (Process.reached store capacities ops) ∧
      Ownership (Process.reached store capacities ops) :=
    @runInvariant _ _ Process.after _ (fun p => Issued p ∧ Ownership p) (fun p op inv ok =>
        ⟨issuedStep inv.1 op,ownershipStep inv.1 inv.2 ok.1 ok.2⟩) _ _
      ⟨issuedStart store capacities,ownershipStart store capacities⟩ orderly
  refine ⟨own.logged,fun call pending reservation releases => releasedIdle own pending releases,
    fun calls waiting => ?_⟩
  have mapped := (quietRegistry issued own calls waiting).map Mapping.reservation
  rw [List.map_map] at mapped
  refine mapped.trans (List.Perm.trans ?_ own.owned)
  rw [Process.owners,calls,waiting]
  exact .refl _

end Laws

/- One destructive step of a Job of Endpoint 7, committed as Attempt 5 with action 5. -/
def committedDispatch : List ProcessOp :=
  [.control (.createWorkflow (some .enrolled) ⟨1⟩ (fun i => ⟨i⟩) ⟨7⟩ 1) ⟨rfl,rfl⟩,
    .control (.authorizeDestructiveIntent ⟨1⟩ ⟨0⟩ ⟨0⟩ "disk") ⟨rfl,rfl⟩,
    .control (.admitJob ⟨1⟩ (ticket 1)) ⟨rfl,rfl⟩,
    .control (.satisfyCurrentStepPreconditions ⟨1⟩ ⟨0⟩) ⟨rfl,rfl⟩,
    .acquire (.destructive ⟨1⟩ ⟨0⟩) (network 1),
    .commit 0 ⟨true,true,true,some ⟨0⟩,some "disk",.consistent,true⟩ ⟨5⟩ ⟨5⟩]

theorem reservationsFollowAttemptsCompleted :
    let ops := committedDispatch ++ [.dispatch 0 ⟨7⟩ none,.send 0,
      .evidence (.action ⟨5⟩ ⟨7⟩ .resultSucceeded) (ticket 2),.take 0,.release 0]
    ReservationLaws (Process.reached .empty [⟨⟨"network"⟩,1⟩] ops) ∧
      (Process.reached .empty [⟨⟨"network"⟩,1⟩] ops).released = [⟨1⟩] :=
  ⟨reservationsFollowAttempts _ _ _ (by decide +kernel),by decide +kernel⟩

/- A cancelled Attempt that the Agent does not know is closed before its dispatch was passed on: nothing
is found to take, and the late call registers a reservation that nobody will release. -/
theorem lateDispatchLeaks :
    let ops := committedDispatch ++ [.control (.requestCancellation ⟨1⟩ (ticket 2)) ⟨rfl,rfl⟩,
      .evidence (.cancelAck ⟨5⟩ ⟨7⟩ .unknown) (ticket 3),.evidence (.closeIndeterminate ⟨1⟩) (ticket 4),
      .take 0,.dispatch 0 ⟨7⟩ none,.send 0]
    let p := Process.reached .empty [⟨⟨"network"⟩,1⟩] ops
    (∀ op ∈ ops, op.repeats = false) ∧ p.calls = [] ∧ p.waiting = [] ∧ p.outstanding = [⟨1⟩] ∧
      p.called.map CommittedDispatch.attempt = [⟨⟨5⟩,⟨0⟩,⟨5⟩,.dispatched⟩] ∧ p.store.active ⟨5⟩ = false := by
  decide +kernel

end Bamep
