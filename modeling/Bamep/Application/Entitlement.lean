import Bamep.Application.Authorization
import Bamep.Application.FinalDispatch

/-! What an approved data-plane request has shown, from the issuance of its capability to the durable
state it was decided on. `authorizeRequest` and `commitManifestSeal` are written separately in the
source; both are proved to establish the same record. -/
namespace Bamep
open Relational Transition

inductive ProofPublicKeyError where
  | wireLength | invalidCharacters | invalidEncoding | invalidDecodedLength | nonCanonical | invalidKey
  deriving DecidableEq, Repr

@[ext] structure ProofPublicKey where
  bytes : List UInt8
  sized : bytes.length = 32
  deriving Repr

instance proofPublicKeyDecEq : DecidableEq ProofPublicKey := fun _ _ =>
  decidable_of_iff _ ProofPublicKey.ext_iff.symm

-- `validKey` is `VerifyingKey::from_bytes`, which keeps the bytes it accepts.
def ProofPublicKey.parseWireValue (validKey : List UInt8 → Bool) (value : String) :
    Except ProofPublicKeyError ProofPublicKey :=
  if value.utf8ByteSize ≠ 43 then .error .wireLength
  else if !value.toList.all (fun c => (Base64Url.sextet c).isSome) then .error .invalidCharacters
  else match Base64Url.decode value with
    | none => .error .invalidEncoding
    | some bytes =>
      if sized : bytes.length = 32 then
        if !validKey bytes then .error .invalidKey
        else if Base64Url.encode bytes ≠ value then .error .nonCanonical
        else .ok ⟨bytes,sized⟩
      else .error .invalidDecodedLength

/- The snapshot over locked facts; the credential is judged at the reading the caller made. -/
def Server.authorizationState (s : Server) (facts : TransferLockedFacts) (now : Instant) :
    Except RepositoryError AuthorizationDurableState :=
  match s.endpoints.rows.loadById facts.transfer.endpointId with
  | .error e => .error e
  | .ok none => .error (.backend "transfer durably references missing endpoint")
  | .ok (some endpoint) =>
    .ok ⟨facts,facts.transfer.attemptId.bind s.store.workflow.attempts.find?,
      endpoint.credential.dimension now = .credentialActive⟩

def Server.loadAuthorizationState (s : Server) (transferId : TransferId) (now : Instant) :
    Except RepositoryError (Option AuthorizationDurableState) :=
  match s.store.transfer.loadLockedFacts transferId with
  | .error e => .error e
  | .ok none => .ok none
  | .ok (some facts) =>
    if facts.transfer.attemptId.isSome && (facts.transfer.attemptId.bind s.store.workflow.attempts.find?).isNone then
      .error (.backend "transfer durably references missing attempt")
    else (s.authorizationState facts now).map some

structure TransferAuthorizationService where
  capabilityTtl : Int
  dataPlaneBaseUrl : String
  deriving DecidableEq, Repr

inductive TransferAuthorizationOutcome where
  | granted (token : String) (expiresAt : Instant) (dataPlaneBaseUrl : String)
  | denied
  | protocolViolation
  deriving DecidableEq, Repr

/- A call of `issue` with what it draws from outside: the durable state, the clock and a fresh token. -/
structure IssueCall where
  endpointId : EndpointId
  presentedActionId : ActionId
  transferId : TransferId
  proofPublicKey : String
  server : Server
  now : Instant
  token : String

section Services
variable (crypto : Crypto) (validKey : List UInt8 → Bool) (service : TransferAuthorizationService)

def issue (capabilities : CapabilityStore) (call : IssueCall) :
    CapabilityStore × Except RepositoryError TransferAuthorizationOutcome :=
  match ProofPublicKey.parseWireValue validKey call.proofPublicKey with
  | .error _ => (capabilities,.ok .denied)
  | .ok key =>
    match call.server.loadAuthorizationState call.transferId call.now with
    | .error e => (capabilities,.error e)
    | .ok none => (capabilities,.ok .denied)
    | .ok (some state) =>
      if state.transfer.endpointId ≠ call.endpointId then (capabilities,.ok .denied)
      else match state.attempt with
        | none => (capabilities,.ok .denied)
        | some attempt =>
          if attempt.state ≠ .inProgress then (capabilities,.ok .denied)
          else if call.presentedActionId ≠ attempt.actionId then (capabilities,.ok .protocolViolation)
          else if !state.credentialActive then (capabilities,.ok .denied)
          else
            let expiresAt := call.now + service.capabilityTtl
            match (capabilities.evictExpired call.now).issue (.fromTokenBytes crypto call.token)
                ⟨call.endpointId,call.transferId,state.transfer.artifactId,state.transfer.direction,attempt.id,
                  key.bytes,expiresAt,capabilities.epoch⟩ with
            | (capabilities',.error _) => (capabilities',.ok .denied)
            | (capabilities',.ok _) =>
              (capabilities',.ok (.granted call.token expiresAt service.dataPlaneBaseUrl))

def authorizeRequest (capabilities : CapabilityStore) (server : Server) (now : Instant) (replay : ReplayCache)
    (input : WorkerAuthorizationQueryInput) :
    ReplayCache × Except RepositoryError (Option AuthorizationDurableState) :=
  match capabilities.lookup (.fromTokenBytes crypto input.token) with
  | none => (replay,.ok none)
  | some binding =>
    match (Request.authorize input).authorizeLocally crypto capabilities.epoch binding now with
    | none => (replay,.ok none)
    | some proofId =>
      match server.loadAuthorizationState input.transferId now with
      | .error e => (replay,.error e)
      | .ok none => (replay,.ok none)
      | .ok (some state) =>
        if !authorizeDurably input binding state then (replay,.ok none)
        else match replay.checkAndInsert proofId now (replayValidUntil input.issuedAtMillis) with
          | (replay',.error _) => (replay',.ok none)
          | (replay',.ok _) => (replay',.ok (some state))

-- The checks before `u32::try_from` do not read the count, so they are made on one that fits.
def commitManifestSeal (capabilities : CapabilityStore) (server : Server) (now : Instant) (replay : ReplayCache)
    (input : ManifestSealInput) : Store × ReplayCache × Except RepositoryError ManifestSealCommit :=
  match capabilities.lookup (.fromTokenBytes crypto input.token) with
  | none => (server.store,replay,.ok .denied)
  | some binding =>
    match (Request.sealManifest { input with chunkCount := 0 }).authorizeLocally crypto capabilities.epoch
        binding now with
    | none => (server.store,replay,.ok .denied)
    | some proofId =>
      if UInt32.size ≤ input.chunkCount then (server.store,replay,.ok .failClosed)
      else match server.store.transfer.loadLockedFacts input.transferId with
        | .error e => (server.store,replay,.error e)
        | .ok none => (server.store,replay,.ok .denied)
        | .ok (some facts) =>
          match server.authorizationState facts now with
          | .error e => (server.store,replay,.error e)
          | .ok state =>
            match sealAuthorized binding input.artifactDigest state with
            | .error decided => persist server.store replay facts decided
            | .ok digest =>
              match replay.checkAndInsert proofId now (replayValidUntil input.issuedAtMillis) with
              | (replay',.error _) => persist server.store replay' facts .denied
              | (replay',.ok _) =>
                persist server.store replay' facts (sealOutcome input.chunkCount digest state)
where
  persist (s : Store) (replay : ReplayCache) (facts : TransferLockedFacts) (decided : ManifestSealDecided) :
      Store × ReplayCache × Except RepositoryError ManifestSealCommit :=
    match s.persistManifestSeal facts decided with
    | (s',.ok result) => (s',replay,.ok result)
    -- `persistManifestSeal` reports repository errors only
    | (s',.error (.repository e)) => (s',replay,.error e)
    | (s',.error (.transferNotFound _)) => (s',replay,.ok .denied)

end Services

/- The capability store of one process with the calls that were granted. -/
structure Issuer where
  capabilities : CapabilityStore
  granted : List IssueCall

namespace Issuer
variable (crypto : Crypto) (validKey : List UInt8 → Bool) (service : TransferAuthorizationService)

def start (epoch capacity : Nat) : Issuer := ⟨.withCapacity epoch capacity,[]⟩

def after (s : Issuer) (call : IssueCall) : Issuer :=
  match issue crypto validKey service s.capabilities call with
  | (capabilities,.ok (.granted ..)) => ⟨capabilities,s.granted ++ [call]⟩
  | (capabilities,_) => ⟨capabilities,s.granted⟩

def reached (epoch capacity : Nat) (calls : List IssueCall) : Issuer :=
  run (after crypto validKey service) (start epoch capacity) calls

end Issuer

/- What a granted call has filed, and the state it was granted on. -/
structure GrantOf (crypto : Crypto) (validKey : List UInt8 → Bool) (service : TransferAuthorizationService)
    (epoch : Nat) (call : IssueCall) (filed : IssuedCapability) : Prop where
  id : filed.id = .fromTokenBytes crypto call.token
  key : ∃ key, ProofPublicKey.parseWireValue validKey call.proofPublicKey = .ok key ∧
    filed.binding.proofPublicKey = key.bytes
  endpoint : filed.binding.endpointId = call.endpointId
  transfer : filed.binding.transferId = call.transferId
  expires : filed.binding.expiresAt = call.now + service.capabilityTtl
  epoch : filed.binding.epoch = epoch
  attempt : ∃ state attempt, call.server.loadAuthorizationState call.transferId call.now = .ok (some state) ∧
    state.transfer.endpointId = call.endpointId ∧ state.attempt = some attempt ∧
    attempt.id = filed.binding.attemptId ∧ attempt.state = .inProgress ∧
    attempt.actionId = call.presentedActionId ∧ state.credentialActive = true

/- The durable state a request was decided on. -/
structure Admitted (server : Server) (now : Instant) (request : Request) (binding : CapabilityBinding)
    (facts : TransferLockedFacts) (attempt : Attempt) (endpoint : EndpointAggregate) : Prop where
  loaded : server.store.transfer.loadLockedFacts request.transferId = .ok (some facts)
  owner : facts.transfer.endpointId = binding.endpointId
  bound : facts.transfer.attemptId = some binding.attemptId
  running : attempt ∈ server.store.workflow.attempts ∧ attempt.id = binding.attemptId ∧ attempt.state = .inProgress
  credential : server.endpoints.rows.loadById binding.endpointId = .ok (some endpoint) ∧
    endpoint.credential.dimension now = .credentialActive
  indexed : ∀ index ∈ request.chunkIndex, index < UInt32.size
  admits : dataPlaneOperationIsCurrent request.operation facts.artifact.state facts.manifest.sealed
    (request.chunkIndex.any fun index => facts.manifest.chunks[index]?.isSome) = .ok ()

structure Entitled (crypto : Crypto) (validKey : List UInt8 → Bool) (service : TransferAuthorizationService)
    (epoch : Nat) (server : Server) (now : Instant) (request : Request) (call : IssueCall)
    (filed : IssuedCapability) : Prop where
  grant : GrantOf crypto validKey service epoch call filed
  token : filed.id = .fromTokenBytes crypto request.token
  unexpired : now < filed.binding.expiresAt
  addressed : filed.binding.transferId = request.transferId
  indexed : request.operation.requiresChunkIndex = request.chunkIndex.isSome
  signed : ∃ key proofId signature, ProofPublicKey.parseWireValue validKey call.proofPublicKey = .ok key ∧
    ProofId.parseWireValue request.proofId = .ok proofId ∧
    ProofSignature.parseWireValue request.signature = .ok signature ∧
    (request.transcript crypto filed.binding proofId).length = 137 ∧
    verifyProofSignature crypto key.bytes (request.transcript crypto filed.binding proofId) signature = true
  durable : ∃ facts attempt endpoint, Admitted server now request filed.binding facts attempt endpoint

section Issuance
variable {crypto : Crypto} {validKey : List UInt8 → Bool} {service : TransferAuthorizationService}

theorem storeIssueEffect {store : CapabilityStore} {id binding} :
    (store.issue id binding).1.epoch = store.epoch ∧
      ∀ filed ∈ (store.issue id binding).1.capabilities, filed ∈ store.capabilities ∨
        (store.issue id binding).2 = .ok () ∧ filed = ⟨id,binding⟩ := by
  unfold CapabilityStore.issue
  split
  · exact ⟨rfl,fun _ mem => .inl mem⟩
  · exact ⟨rfl,fun _ mem => .inl mem⟩
  · rename_i capabilities inserted
    refine ⟨rfl,fun filed mem => ?_⟩
    exact ((Table.memInsert (Table.insertWithinOk inserted)).mp mem).imp_right fun same => ⟨rfl,same⟩

theorem issueEffect (capabilities : CapabilityStore) (call : IssueCall) :
    (issue crypto validKey service capabilities call).1.epoch = capabilities.epoch ∧
      ∀ filed ∈ (issue crypto validKey service capabilities call).1.capabilities,
        filed ∈ capabilities.capabilities ∨
          (∃ expiresAt url, (issue crypto validKey service capabilities call).2 =
            .ok (.granted call.token expiresAt url)) ∧
          GrantOf crypto validKey service capabilities.epoch call filed := by
  unfold issue
  split
  · exact ⟨rfl,fun _ mem => .inl mem⟩
  rename_i key parsed
  split
  · exact ⟨rfl,fun _ mem => .inl mem⟩
  · exact ⟨rfl,fun _ mem => .inl mem⟩
  rename_i state loaded
  split
  · exact ⟨rfl,fun _ mem => .inl mem⟩
  rename_i owner
  split
  · exact ⟨rfl,fun _ mem => .inl mem⟩
  rename_i attempt bound
  split
  · exact ⟨rfl,fun _ mem => .inl mem⟩
  rename_i running
  split
  · exact ⟨rfl,fun _ mem => .inl mem⟩
  rename_i correlated
  split
  · exact ⟨rfl,fun _ mem => .inl mem⟩
  rename_i active
  simp only
  have effect := @storeIssueEffect (capabilities.evictExpired call.now) (.fromTokenBytes crypto call.token)
    ⟨call.endpointId,call.transferId,state.transfer.artifactId,state.transfer.direction,attempt.id,key.bytes,
      call.now + service.capabilityTtl,capabilities.epoch⟩
  split
  · rename_i store error answer
    rw [answer] at effect
    refine ⟨effect.1,fun filed mem => ?_⟩
    rcases effect.2 filed mem with old | ⟨ok,_⟩
    · exact .inl (Table.memRetain.mp old).1
    · cases ok
  · rename_i store _ answer
    rw [answer] at effect
    refine ⟨effect.1,fun filed mem => ?_⟩
    rcases effect.2 filed mem with old | ⟨_,rfl⟩
    · exact .inl (Table.memRetain.mp old).1
    · exact .inr ⟨⟨_,_,rfl⟩,rfl,⟨key,parsed,rfl⟩,rfl,rfl,rfl,rfl,state,attempt,loaded,not_not.mp owner,bound,rfl,
        not_not.mp running,(not_not.mp correlated).symm,by simpa using active⟩

structure Recorded (crypto : Crypto) (validKey : List UInt8 → Bool) (service : TransferAuthorizationService)
    (epoch : Nat) (s : Issuer) : Prop where
  current : s.capabilities.epoch = epoch
  filed : ∀ filed ∈ s.capabilities.capabilities, ∃ call ∈ s.granted,
    GrantOf crypto validKey service epoch call filed

theorem recordedStep {epoch s} (recorded : Recorded crypto validKey service epoch s)
    (call : IssueCall) : Recorded crypto validKey service epoch (s.after crypto validKey service call) := by
  have effect := @issueEffect crypto validKey service s.capabilities call
  rw [recorded.current] at effect
  unfold Issuer.after
  split
  · rename_i capabilities token expiresAt url answer
    rw [answer] at effect
    refine ⟨effect.1,fun filed mem => ?_⟩
    rcases effect.2 filed mem with old | ⟨_,grant⟩
    · obtain ⟨earlier,present,grant⟩ := recorded.filed filed old
      exact ⟨earlier,List.mem_append_left _ present,grant⟩
    · exact ⟨call,List.mem_append_right _ (List.mem_singleton.mpr rfl),grant⟩
  · rename_i capabilities result other answer
    rw [answer] at effect
    refine ⟨effect.1,fun filed mem => ?_⟩
    rcases effect.2 filed mem with old | ⟨⟨expiresAt,url,granted⟩,_⟩
    · exact recorded.filed filed old
    · exact absurd granted (other _ _ _)

theorem recordedRun (epoch capacity : Nat) (calls : List IssueCall) :
    Recorded crypto validKey service epoch (Issuer.reached crypto validKey service epoch capacity calls) :=
  @runAlways _ _ (Issuer.after crypto validKey service) (Recorded crypto validKey service epoch)
    (fun _ call recorded => recordedStep recorded call) _ ⟨rfl,fun _ mem => absurd mem (Table.notMemEmpty _)⟩ calls

end Issuance

/- The part of the two durable checks that is the same in both. -/
structure DurablyCurrent (request : Request) (binding : CapabilityBinding) (state : AuthorizationDurableState) :
    Prop where
  owner : state.transfer.endpointId = binding.endpointId
  attempt : ∃ attempt, state.attempt = some attempt ∧ attempt.id = binding.attemptId ∧ attempt.state = .inProgress
  active : state.credentialActive = true
  indexed : ∀ index ∈ request.chunkIndex, index < UInt32.size
  admits : dataPlaneOperationIsCurrent request.operation state.artifact.state state.manifest.sealed
    (request.chunkIndex.any fun index => state.manifest.chunks[index]?.isSome) = .ok ()

theorem isOkUnit {ε : Type} {result : Except ε Unit} (ok : result.isOk = true) : result = .ok () := by
  cases result with
  | error e => cases ok
  | ok value => rfl

theorem authorizeDurablyChecks {input binding state}
    (ok : authorizeDurably input binding state = true) :
    DurablyCurrent (.authorize input) binding state := by
  unfold authorizeDurably at ok
  split at ok
  · contradiction
  rename_i matched
  split at ok
  · contradiction
  rename_i attempt found
  split at ok
  · contradiction
  rename_i running
  split at ok
  · contradiction
  rename_i active
  simp only [not_or,not_not] at matched running
  have current : (∀ index ∈ input.chunkIndex, index < UInt32.size) ∧
      (dataPlaneOperationIsCurrent input.operation state.artifact.state state.manifest.sealed
        (input.chunkIndex.any fun index => state.manifest.chunks[index]?.isSome)).isOk = true := by
    cases chosen : input.chunkIndex with
    | none =>
      rw [chosen] at ok
      exact ⟨by simp,ok⟩
    | some index =>
      rw [chosen] at ok
      obtain ⟨small,current⟩ := Bool.and_eq_true_iff.mp ok
      exact ⟨fun x mem => Option.some.inj mem ▸ of_decide_eq_true small,current⟩
  exact ⟨matched.1,⟨attempt,found,running⟩,by simpa using active,current.1,isOkUnit current.2⟩

theorem sealAuthorizedChecks {input binding state digest}
    (ok : sealAuthorized binding input.artifactDigest state = .ok digest) :
    DurablyCurrent (.sealManifest input) binding state := by
  unfold sealAuthorized at ok
  split at ok
  · contradiction
  rename_i matched
  split at ok
  · contradiction
  rename_i attempt found
  split at ok
  · contradiction
  rename_i running
  split at ok
  · contradiction
  rename_i active
  split at ok
  · contradiction
  rename_i current
  simp only [not_or,not_not] at matched running
  exact ⟨matched.1,⟨attempt,found,running⟩,by simpa using active,by rintro _ ⟨⟩,current⟩

theorem authorizationStateAdmits {server facts now state request binding}
    (loaded : server.store.transfer.loadLockedFacts request.transferId = .ok (some facts))
    (read : server.authorizationState facts now = .ok state) (current : DurablyCurrent request binding state) :
    ∃ facts attempt endpoint, Admitted server now request binding facts attempt endpoint := by
  unfold Server.authorizationState at read
  split at read
  · contradiction
  · contradiction
  rename_i endpoint found
  cases Except.ok.inj read
  obtain ⟨attempt,bound,named,running⟩ := current.attempt
  obtain ⟨attemptId,recorded,present⟩ := Option.bind_eq_some_iff.mp bound
  obtain ⟨mem,same⟩ := Table.findIff.mp present
  have owner : facts.transfer.endpointId = binding.endpointId := current.owner
  exact ⟨facts,attempt,endpoint,loaded,owner,by rw [recorded,← same,named],⟨mem,named,running⟩,
    ⟨owner ▸ found,of_decide_eq_true current.active⟩,current.indexed,current.admits⟩

theorem loadAuthorizationStateOk {server : Server} {transferId now state}
    (ok : server.loadAuthorizationState transferId now = .ok (some state)) :
    ∃ facts, server.store.transfer.loadLockedFacts transferId = .ok (some facts) ∧
      server.authorizationState facts now = .ok state := by
  unfold Server.loadAuthorizationState at ok
  split at ok
  · cases ok
  · cases ok
  rename_i facts loaded
  split at ok
  · cases ok
  cases read : server.authorizationState facts now with
  | error e => rw [read] at ok; contradiction
  | ok found =>
    rw [read] at ok
    cases ok
    exact ⟨facts,loaded,read⟩

section Approval
variable {crypto : Crypto} {validKey : List UInt8 → Bool} {service : TransferAuthorizationService} {epoch : Nat}
  {s : Issuer} {server : Server} {now : Instant}

/- From the three parts both paths establish, at the store they were checked against. -/
theorem entitledOf (recorded : Recorded crypto validKey service epoch s) {request binding proofId}
    (found : s.capabilities.lookup (.fromTokenBytes crypto request.token) = some binding)
    (checked : LocallyAuthorized crypto s.capabilities.epoch request binding now proofId)
    (durable : ∃ facts attempt endpoint, Admitted server now request binding facts attempt endpoint) :
    ∃ call ∈ s.granted, ∃ filed, Entitled crypto validKey service epoch server now request call filed := by
  obtain ⟨filed,present,rfl⟩ := Option.map_eq_some_iff.mp found
  obtain ⟨mem,same⟩ := Table.findIff.mp present
  obtain ⟨call,granted,grant⟩ := recorded.filed filed mem
  obtain ⟨key,parsed,bytes⟩ := grant.key
  obtain ⟨signature,decoded,verified⟩ := checked.signed
  exact ⟨call,granted,filed,grant,same,checked.unexpired,checked.transfer,checked.indexed,
    ⟨key,proofId,signature,parsed,checked.parsed,decoded,proofTranscriptLength _ _,bytes ▸ verified⟩,durable⟩

/- A query is refused before the cache is asked, or the cache decides it. -/
theorem authorizeRequestEnds (capabilities : CapabilityStore) (server : Server) (now : Instant)
    (input : WorkerAuthorizationQueryInput) :
    (∃ refusal, (∀ state, refusal ≠ .ok (some state)) ∧
      ∀ replay, authorizeRequest crypto capabilities server now replay input = (replay,refusal)) ∨
    ∃ binding proofId state, capabilities.lookup (.fromTokenBytes crypto input.token) = some binding ∧
      LocallyAuthorized crypto capabilities.epoch (.authorize input) binding now proofId ∧
      (∃ facts attempt endpoint, Admitted server now (.authorize input) binding facts attempt endpoint) ∧
      ∀ replay, authorizeRequest crypto capabilities server now replay input =
        match replay.checkAndInsert proofId now (replayValidUntil input.issuedAtMillis) with
        | (replay',.error _) => (replay',.ok none)
        | (replay',.ok _) => (replay',.ok (some state)) := by
  unfold authorizeRequest
  split
  · exact .inl ⟨.ok none,by rintro _ ⟨⟩,fun _ => rfl⟩
  rename_i binding found
  split
  · exact .inl ⟨.ok none,by rintro _ ⟨⟩,fun _ => rfl⟩
  rename_i proofId checked
  split
  · rename_i e _
    exact .inl ⟨.error e,by rintro _ ⟨⟩,fun _ => rfl⟩
  · exact .inl ⟨.ok none,by rintro _ ⟨⟩,fun _ => rfl⟩
  rename_i state loaded
  split
  · exact .inl ⟨.ok none,by rintro _ ⟨⟩,fun _ => rfl⟩
  rename_i durable
  have current : DurablyCurrent (.authorize input) binding state :=
    authorizeDurablyChecks (by simpa using durable)
  obtain ⟨facts,locked,snapshot⟩ := loadAuthorizationStateOk loaded
  exact .inr ⟨binding,proofId,state,found,authorizeLocallyChecks checked,
    authorizationStateAdmits locked snapshot current,fun _ => rfl⟩

/- A request the seal authorizes is one its state machine does not deny. -/
theorem sealOutcomeDecides {binding} {input : ManifestSealInput}
    {state digest}
    (ok : sealAuthorized binding input.artifactDigest state = .ok digest) :
    sealOutcome input.chunkCount digest state ≠ .denied := by
  have admits := (sealAuthorizedChecks ok).admits
  unfold sealOutcome
  split
  · split
    · nofun
    split
    · split <;> nofun
    · nofun
    · nofun
    · nofun
  · split
    · nofun
    split <;> nofun
  · rename_i ended
    rw [ended] at admits
    contradiction
  · rename_i ended
    rw [ended] at admits
    contradiction

theorem persistDecides (s : Store) (replay : ReplayCache) (facts : TransferLockedFacts)
    {decided} (decides : decided ≠ .denied) :
    (commitManifestSeal.persist s replay facts decided).2.2 ≠ .ok .denied := by
  unfold commitManifestSeal.persist Store.persistManifestSeal
  cases decided with
  | denied => exact absurd rfl decides
  | failClosed | rejectIncomplete | rejectAlreadySealed => nofun
  | alreadyPending =>
    cases facts.manifest.chunkCount with
    | none => nofun
    | some count =>
      cases facts.manifest.artifactDigest with
      | none => nofun
      | some digest => nofun
  | «seal» chunkCount digest =>
    simp only
    cases s.commitTransferRows (some ((s.transfer.setSealed facts.artifact.id chunkCount digest).setArtifactState
        facts.artifact.id .pendingVerification)) with
    | none => nofun
    | some s' => nofun

/- A seal is refused before the cache is asked, or the cache decides between a denial and its outcome. -/
theorem commitManifestSealEnds (capabilities : CapabilityStore) (server : Server) (now : Instant)
    (input : ManifestSealInput) :
    (∃ refusal, (∀ result, refusal = .ok result → result = .denied ∨ result = .failClosed) ∧
      ∀ replay, commitManifestSeal crypto capabilities server now replay input =
        (server.store,replay,refusal)) ∨
    ∃ binding proofId facts state digest, capabilities.lookup (.fromTokenBytes crypto input.token) = some binding ∧
      LocallyAuthorized crypto capabilities.epoch (.sealManifest input) binding now proofId ∧
      (∃ facts attempt endpoint, Admitted server now (.sealManifest input) binding facts attempt endpoint) ∧
      server.store.transfer.loadLockedFacts input.transferId = .ok (some facts) ∧
      server.authorizationState facts now = .ok state ∧
      sealAuthorized binding input.artifactDigest state = .ok digest ∧ input.chunkCount < UInt32.size ∧
      ∀ replay, commitManifestSeal crypto capabilities server now replay input =
        match replay.checkAndInsert proofId now (replayValidUntil input.issuedAtMillis) with
        | (replay',.error _) => commitManifestSeal.persist server.store replay' facts .denied
        | (replay',.ok _) =>
          commitManifestSeal.persist server.store replay' facts (sealOutcome input.chunkCount digest state) := by
  unfold commitManifestSeal
  split
  · exact .inl ⟨.ok .denied,by rintro _ ⟨⟩; exact .inl rfl,fun _ => rfl⟩
  rename_i binding found
  split
  · exact .inl ⟨.ok .denied,by rintro _ ⟨⟩; exact .inl rfl,fun _ => rfl⟩
  rename_i proofId checked
  split
  · exact .inl ⟨.ok .failClosed,by rintro _ ⟨⟩; exact .inr rfl,fun _ => rfl⟩
  rename_i small
  split
  · rename_i e _
    exact .inl ⟨.error e,by rintro _ ⟨⟩,fun _ => rfl⟩
  · exact .inl ⟨.ok .denied,by rintro _ ⟨⟩; exact .inl rfl,fun _ => rfl⟩
  rename_i facts locked
  split
  · rename_i e _
    exact .inl ⟨.error e,by rintro _ ⟨⟩,fun _ => rfl⟩
  rename_i state snapshot
  split
  · rename_i decided refused
    rcases sealRefused refused with rfl | rfl
    · exact .inl ⟨.ok .denied,by rintro _ ⟨⟩; exact .inl rfl,fun _ => rfl⟩
    · exact .inl ⟨.ok .failClosed,by rintro _ ⟨⟩; exact .inr rfl,fun _ => rfl⟩
  rename_i digest authorized
  have checks := authorizeLocallyChecks checked
  have current : DurablyCurrent (.sealManifest input) binding state := sealAuthorizedChecks authorized
  -- the count is no part of what was checked
  have checks : LocallyAuthorized crypto capabilities.epoch (.sealManifest input) binding now proofId :=
    ⟨checks.epoch,checks.unexpired,checks.transfer,checks.indexed,checks.parsed,checks.fresh,checks.signed⟩
  exact .inr ⟨binding,proofId,facts,state,digest,found,checks,authorizationStateAdmits locked snapshot current,
    locked,snapshot,authorized,not_le.mp small,fun _ => rfl⟩

/- Persisting what the checks let through is the durable seal step at an active credential. -/
theorem persistFollows {facts state digest binding} {input : ManifestSealInput} (small : input.chunkCount < UInt32.size)
    (locked : server.store.transfer.loadLockedFacts input.transferId = .ok (some facts))
    (snapshot : server.authorizationState facts now = .ok state)
    (authorized : sealAuthorized binding input.artifactDigest state = .ok digest) (replay : ReplayCache) :
    let result := commitManifestSeal.persist server.store replay facts (sealOutcome input.chunkCount digest state)
    result.2.1 = replay ∧ (result.1,result.2.2) =
      server.store.sealManifest input.transferId binding (some true) input.chunkCount input.artifactDigest true := by
  have decided : decideManifestSeal binding input.chunkCount input.artifactDigest true state =
      sealOutcome input.chunkCount digest state := by
    simp only [decideManifestSeal,authorized,Bool.not_true,Bool.false_eq_true,if_false]
  have active := (sealAuthorizedChecks authorized).active
  unfold Server.authorizationState at snapshot
  split at snapshot
  · cases snapshot
  · cases snapshot
  rename_i endpoint _
  cases Except.ok.inj snapshot
  generalize decide (endpoint.credential.dimension now = .credentialActive) = flag at decided active ⊢
  cases (active : flag = true)
  have fits : ¬2 ^ 32 ≤ input.chunkCount := not_le.mpr small
  unfold Store.sealManifest commitManifestSeal.persist
  rw [if_neg fits]
  simp only [Store.commitManifestSeal,locked,decided]
  generalize server.store.persistManifestSeal facts _ = result
  obtain ⟨s',(_ | _) | result⟩ := result <;> exact ⟨rfl,rfl⟩

/- The seal with its checks changes nothing and denies or fails closed, or all checks have passed and it is the durable
seal step at the binding of the token and an active credential. -/
theorem commitManifestSealFollows (capabilities : CapabilityStore) (server : Server) (now : Instant)
    (replay : ReplayCache) (input : ManifestSealInput) :
    let result := commitManifestSeal crypto capabilities server now replay input
    (result.1 = server.store ∧ ∀ answer, result.2.2 = .ok answer → answer = .denied ∨ answer = .failClosed) ∨
    ∃ binding proofId facts attempt endpoint, capabilities.lookup (.fromTokenBytes crypto input.token) = some binding ∧
      LocallyAuthorized crypto capabilities.epoch (.sealManifest input) binding now proofId ∧
      Admitted server now (.sealManifest input) binding facts attempt endpoint ∧
      replay.checkAndInsert proofId now (replayValidUntil input.issuedAtMillis) = (result.2.1,.ok ()) ∧
      (result.1,result.2.2) =
        server.store.sealManifest input.transferId binding (some true) input.chunkCount input.artifactDigest true := by
  rcases @commitManifestSealEnds crypto capabilities server now input with
    ⟨refusal,closed,ends⟩ |
    ⟨binding,proofId,_,_,_,found,checks,⟨facts,attempt,endpoint,admitted⟩,locked,snapshot,authorized,small,ends⟩
  · rw [ends]
    exact .inl ⟨rfl,closed⟩
  rw [ends]
  split
  · exact .inl ⟨rfl,by rintro _ ⟨⟩; exact .inl rfl⟩
  · rename_i replay' _ accepted
    obtain ⟨cached,answer⟩ := persistFollows small locked snapshot authorized replay'
    exact .inr ⟨binding,proofId,facts,attempt,endpoint,found,checks,admitted,by rw [accepted,cached],answer⟩

theorem approvedEntitled (recorded : Recorded crypto validKey service epoch s) {replay input state}
    (ok : (authorizeRequest crypto s.capabilities server now replay input).2 = .ok (some state)) :
    ∃ call ∈ s.granted, ∃ filed,
      Entitled crypto validKey service epoch server now (.authorize input) call filed := by
  rcases authorizeRequestEnds s.capabilities server now input with
    ⟨refusal,other,ends⟩ | ⟨binding,proofId,_,found,checked,admitted,_⟩
  · rw [ends] at ok
    exact absurd ok (other state)
  · exact entitledOf recorded found checked admitted

theorem sealedEntitled (recorded : Recorded crypto validKey service epoch s) {replay input result}
    (ok : (commitManifestSeal crypto s.capabilities server now replay input).2.2 = .ok result)
    (undenied : result ≠ .denied) (open_ : result ≠ .failClosed) :
    ∃ call ∈ s.granted, ∃ filed,
      Entitled crypto validKey service epoch server now (.sealManifest input) call filed := by
  rcases commitManifestSealEnds s.capabilities server now input with
    ⟨refusal,refused,ends⟩ | ⟨binding,proofId,_,_,_,found,checked,admitted,_⟩
  · rw [ends] at ok
    rcases refused result ok with same | same
    · exact absurd same undenied
    · exact absurd same open_
  · exact entitledOf recorded found checked admitted

theorem emptyCacheAccepts (proofId : ProofId) (now validUntil : Instant) :
    ((ReplayCache.withCapacity 1).checkAndInsert proofId now validUntil).2 = .ok () := rfl

theorem queryDenialKeeps (capabilities : CapabilityStore) {input}
    (denied : ∀ replay, (authorizeRequest crypto capabilities server now replay input).2 = .ok none)
    (replay : ReplayCache) : (authorizeRequest crypto capabilities server now replay input).1 = replay := by
  rcases authorizeRequestEnds capabilities server now input with
    ⟨refusal,_,ends⟩ | ⟨binding,proofId,state,_,_,_,ends⟩
  · rw [ends]
  · -- a cache that holds nothing accepts every proof
    have answer := denied (.withCapacity 1)
    have accepts := emptyCacheAccepts proofId now (replayValidUntil input.issuedAtMillis)
    rw [ends] at answer
    split at answer
    · rename_i rejected
      rw [rejected] at accepts
      cases accepts
    · cases answer

theorem sealDenialKeeps (capabilities : CapabilityStore) {input : ManifestSealInput}
    (denied : ∀ replay, (commitManifestSeal crypto capabilities server now replay input).2.2 = .ok .denied)
    (replay : ReplayCache) : (commitManifestSeal crypto capabilities server now replay input).2.1 = replay := by
  rcases commitManifestSealEnds capabilities server now input with
    ⟨refusal,_,ends⟩ | ⟨binding,proofId,facts,state,digest,_,_,_,_,_,authorized,_,ends⟩
  · rw [ends]
  · have answer := denied (.withCapacity 1)
    have accepts := emptyCacheAccepts proofId now (replayValidUntil input.issuedAtMillis)
    rw [ends] at answer
    split at answer
    · rename_i rejected
      rw [rejected] at accepts
      cases accepts
    · exact absurd answer (persistDecides _ _ _ (sealOutcomeDecides authorized))

end Approval

/- A denial that no content of the replay cache changes is one for another reason than the replay check. -/
structure ApprovalLaws (crypto : Crypto) (validKey : List UInt8 → Bool) (service : TransferAuthorizationService)
    (epoch : Nat) (s : Issuer) : Prop where
  approved : ∀ server now replay input state,
    (authorizeRequest crypto s.capabilities server now replay input).2 = .ok (some state) →
      ∃ call ∈ s.granted, ∃ filed, Entitled crypto validKey service epoch server now (.authorize input) call filed
  committed : ∀ server now replay input result,
    (commitManifestSeal crypto s.capabilities server now replay input).2.2 = .ok result →
      result ≠ .denied → result ≠ .failClosed →
        ∃ call ∈ s.granted, ∃ filed,
          Entitled crypto validKey service epoch server now (.sealManifest input) call filed
  queryDenied : ∀ server now input,
    (∀ replay, (authorizeRequest crypto s.capabilities server now replay input).2 = .ok none) →
      ∀ replay, (authorizeRequest crypto s.capabilities server now replay input).1 = replay
  sealDenied : ∀ server now input,
    (∀ replay, (commitManifestSeal crypto s.capabilities server now replay input).2.2 = .ok .denied) →
      ∀ replay, (commitManifestSeal crypto s.capabilities server now replay input).2.1 = replay

theorem approvalsEntitled (crypto : Crypto) (validKey : List UInt8 → Bool)
    (service : TransferAuthorizationService) (epoch capacity : Nat) (calls : List IssueCall) :
    ApprovalLaws crypto validKey service epoch
      (Issuer.reached crypto validKey service epoch capacity calls) :=
  have recorded := recordedRun epoch capacity calls
  ⟨fun _ _ _ _ _ ok => approvedEntitled recorded ok,
    fun _ _ _ _ _ ok undenied open_ => sealedEntitled recorded ok undenied open_,
    fun _ _ _ denied => queryDenialKeeps _ denied,fun _ _ _ denied => sealDenialKeeps _ denied⟩

end Bamep
