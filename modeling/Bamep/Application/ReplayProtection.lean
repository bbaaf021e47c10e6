import Bamep.Library.Run
import Bamep.Application.Authorization

/-! A proof is accepted once, as long as the cache forgets a proof only when it is spent. -/
namespace Bamep
open Relational Transition

-- The proof of a request between its freshness check and its cache call.
def Ongoing.carries (x : Ongoing) : Option ProofId :=
  match x.phase with
  | .fresh _ _ proofId | .authorized _ proofId => some proofId
  | _ => none

def Ongoing.reading (x : Ongoing) : Option Instant :=
  match x.phase with
  | .fresh _ now _ | .authorized now _ => some now
  | _ => none

def Ongoing.accepted (x : Ongoing) : Option ProofId :=
  match x.phase with
  | .accepted proofId => some proofId
  | _ => none

def Authorizer.cacheReading (a : Authorizer) : AuthorizerOp → Option Instant
  | .callCache i =>
    match a.requests[i]? with
    | some ⟨_,.authorized now _⟩ => some now
    | _ => none
  | .durable i (some state) =>
    match a.requests[i]? with
    | some ⟨.sealManifest input,.fresh binding now _⟩ =>
      if (sealAuthorized binding input.artifactDigest state).isOk then some now else none
    | _ => none
  | _ => none

def Authorizer.SignedOnce (a : Authorizer) : AuthorizerOp → Prop
  | .submit request => ∀ x ∈ a.requests, x.request.proofId = request.proofId →
    x.request.issuedAtMillis = request.issuedAtMillis
  | _ => True

instance (a : Authorizer) : (op : AuthorizerOp) → Decidable (a.SignedOnce op)
  | .submit request => inferInstanceAs (Decidable (∀ x ∈ a.requests, x.request.proofId = request.proofId →
      x.request.issuedAtMillis = request.issuedAtMillis))
  | .grant .. | .lookup _ | .readClock .. | .durable .. | .callCache _ => .isTrue trivial

-- The entries a cache call evicts expired in an earlier millisecond and no request still carries them.
def Authorizer.EvictsSpent (a : Authorizer) (op : AuthorizerOp) : Prop :=
  ∀ now ∈ a.cacheReading op, ∀ entry ∈ a.replay.seen, entry.validUntil < now →
    timestampMillis entry.validUntil < timestampMillis now ∧
      ∀ x ∈ a.requests, x.carries ≠ some entry.proofId

instance (a : Authorizer) (op : AuthorizerOp) : Decidable (a.EvictsSpent op) := by
  unfold Authorizer.EvictsSpent
  infer_instance

/- What a step does to the request it belongs to: it reads the clock and passes every local check,
calls the cache, or gains neither a proof nor an acceptance. -/
inductive Progress (a : Authorizer) (op : AuthorizerOp) : Authorizer → Prop where
  | submitted (request : Request) (signed : a.SignedOnce op → ∀ x ∈ a.requests,
      x.request.proofId = request.proofId → x.request.issuedAtMillis = request.issuedAtMillis) :
      Progress a op { a with requests := a.requests ++ [⟨request,.received⟩] }
  | idle {capabilities clock} (later : a.clock ≤ clock) (bounded : clock ≤ maxUtc) :
      Progress a op { a with capabilities := capabilities, clock := clock }
  | quiet {i x phase clock} (found : a.requests[i]? = some x) (pending : x.accepted = none)
      (later : a.clock ≤ clock) (bounded : clock ≤ maxUtc)
      (carries : Ongoing.carries ⟨x.request,phase⟩ = none ∨
        Ongoing.carries ⟨x.request,phase⟩ = x.carries ∧ Ongoing.reading ⟨x.request,phase⟩ = x.reading)
      (unaccepted : Ongoing.accepted ⟨x.request,phase⟩ = none) :
      Progress a op ({ a with clock := clock }.setPhase i x phase)
  | freshened {i x binding clock proofId} (found : a.requests[i]? = some x) (pending : x.accepted = none)
      (later : a.clock ≤ clock) (bounded : clock ≤ maxUtc)
      (parsed : ProofId.parseWireValue x.request.proofId = .ok proofId)
      (fresh : proofIsFresh x.request.issuedAtMillis clock = .ok ()) :
      Progress a op ({ a with clock := clock }.setPhase i x (.fresh binding clock proofId))
  | called {i x now proofId} (found : a.requests[i]? = some x) (carries : x.carries = some proofId)
      (reading : x.reading = some now) (calls : a.cacheReading op = some now) :
      Progress a op (a.callReplay i x now proofId)

section Steps
variable {a : Authorizer} {crypto : Crypto}

theorem tickLater (a : Authorizer) (elapsed : Nat) (bounded : a.clock ≤ maxUtc) :
    a.clock ≤ a.tick elapsed ∧ a.tick elapsed ≤ maxUtc := by
  unfold Authorizer.tick
  exact ⟨le_min (Int.le_add_of_nonneg_right (Int.natCast_nonneg elapsed)) bounded,min_le_right _ _⟩

theorem phaseStep {op i x phase}
    (found : a.requests[i]? = some x) (pending : x.accepted = none) (bounded : a.clock ≤ maxUtc)
    (carries : Ongoing.carries ⟨x.request,phase⟩ = none ∨
      Ongoing.carries ⟨x.request,phase⟩ = x.carries ∧ Ongoing.reading ⟨x.request,phase⟩ = x.reading)
    (unaccepted : Ongoing.accepted ⟨x.request,phase⟩ = none) : Progress a op (a.setPhase i x phase) :=
  .quiet found pending (le_refl _) bounded carries unaccepted

theorem stay {op} (bounded : a.clock ≤ maxUtc) : Progress a op a :=
  .idle (le_refl _) bounded

theorem durableProgress {i x} (state : Option AuthorizationDurableState)
    (found : a.requests[i]? = some x) (bounded : a.clock ≤ maxUtc) :
    Progress a (.durable i state) (a.durable i x state) := by
  obtain ⟨request,phase⟩ := x
  unfold Authorizer.durable
  split
  · rename_i now proofId phaseIs
    cases phaseIs
    exact phaseStep found rfl bounded (.inl rfl) rfl
  · rename_i binding now proofId durable phaseIs
    cases phaseIs
    split
    · split
      · exact phaseStep found rfl bounded (.inr ⟨rfl,rfl⟩) rfl
      · exact phaseStep found rfl bounded (.inl rfl) rfl
    · rename_i input requestIs
      cases requestIs
      split
      · exact phaseStep found rfl bounded (.inl rfl) rfl
      · rename_i digest authorized
        exact .called found rfl rfl
          (by simp [Authorizer.cacheReading,found,authorized,Except.isOk,Except.toBool])
  · exact stay bounded

theorem progress (op : AuthorizerOp) (bounded : a.clock ≤ maxUtc) : Progress a op (a.after crypto op) := by
  have atRequest : ∀ {i} {step : Ongoing → Authorizer},
      (∀ x, a.requests[i]? = some x → Progress a op (step x)) → Progress a op (a.forRequest i step) := by
    intro i step each
    unfold Authorizer.forRequest
    split
    · exact stay bounded
    · rename_i x found
      exact each x found
  cases op with
  | submit request => exact .submitted request id
  | grant elapsed id binding =>
    obtain ⟨later,limit⟩ := tickLater a elapsed bounded
    exact .idle later limit
  | lookup i =>
    refine atRequest fun x found => ?_
    obtain ⟨request,phase⟩ := x
    unfold Authorizer.lookup
    split
    · rename_i phaseIs
      cases phaseIs
      split <;> exact phaseStep found rfl bounded (.inl rfl) rfl
    · exact stay bounded
  | readClock i elapsed =>
    refine atRequest fun x found => ?_
    obtain ⟨later,limit⟩ := tickLater a elapsed bounded
    obtain ⟨request,phase⟩ := x
    unfold Authorizer.readClock
    split
    · rename_i binding phaseIs
      cases phaseIs
      simp only
      split
      · exact .quiet found rfl later limit (.inl rfl) rfl
      · rename_i proofId passed
        have checks := authorizeLocallyChecks passed
        exact .freshened found rfl later limit checks.parsed checks.fresh
    · exact stay bounded
  | durable i state => exact atRequest fun x found => durableProgress state found bounded
  | callCache i =>
    refine atRequest fun x found => ?_
    obtain ⟨request,phase⟩ := x
    unfold Authorizer.callCache
    split
    · rename_i now proofId phaseIs
      cases phaseIs
      exact .called found rfl rfl (by simp [Authorizer.cacheReading,found])
    · exact stay bounded

end Steps

-- A forgotten proof: stale at every reading still to come, and nobody carries it past that check.
structure Spent (a : Authorizer) (proofId : ProofId) (issuedAtMillis : Nat) : Prop where
  stale : ∀ now, a.clock ≤ now → proofIsFresh issuedAtMillis now = .error .proofTooStale
  dropped : ∀ x ∈ a.requests, x.carries ≠ some proofId

structure Guarded (a : Authorizer) : Prop where
  bounded : a.clock ≤ maxUtc
  signed : ∀ x ∈ a.requests, ∀ y ∈ a.requests, x.request.proofId = y.request.proofId →
    x.request.issuedAtMillis = y.request.issuedAtMillis
  parsed : ∀ x ∈ a.requests, ∀ proofId, x.carries = some proofId ∨ x.accepted = some proofId →
    ProofId.parseWireValue x.request.proofId = .ok proofId
  read : ∀ x ∈ a.requests, ∀ now, x.reading = some now → now ≤ a.clock
  entries : ∀ entry ∈ a.replay.seen, ∃ x ∈ a.requests, x.accepted = some entry.proofId ∧
    entry.validUntil = replayValidUntil x.request.issuedAtMillis
  covered : ∀ x ∈ a.requests, ∀ proofId, x.accepted = some proofId →
    (∃ entry ∈ a.replay.seen, entry.proofId = proofId) ∨ Spent a proofId x.request.issuedAtMillis
  unique : ∀ (i j : Nat) (x y : Ongoing) (proofId : ProofId),
    a.requests[i]? = some x → a.requests[j]? = some y → x.accepted = some proofId → y.accepted = some proofId → i = j

theorem guardedStart (epoch capacity replayCapacity clock : Nat) :
    Guarded (.start epoch capacity replayCapacity clock) := by
  refine ⟨min_le_right _ _,?_,?_,?_,fun _ mem => absurd mem (Table.notMemEmpty _),?_,?_⟩
  · exact fun _ mem => absurd mem List.not_mem_nil
  · exact fun _ mem => absurd mem List.not_mem_nil
  · exact fun _ mem => absurd mem List.not_mem_nil
  · exact fun _ mem => absurd mem List.not_mem_nil
  · exact fun i j x y proofId here => absurd (List.mem_of_getElem? here) List.not_mem_nil

section Guard
variable {a a' : Authorizer}

theorem sameProof (guarded : Guarded a) {x y} (memX : x ∈ a.requests) (memY : y ∈ a.requests)
    {proofId} (left : ProofId.parseWireValue x.request.proofId = .ok proofId)
    (right : ProofId.parseWireValue y.request.proofId = .ok proofId) :
    x.request.issuedAtMillis = y.request.issuedAtMillis :=
  guarded.signed x memX y memY ((proofIdCanonical left).trans (proofIdCanonical right).symm)

theorem memSetOther {l : List Ongoing} {i x y z} (found : l[i]? = some z) (mem : x ∈ l)
    (other : x ≠ z) : x ∈ l.set i y := by
  obtain ⟨j,here⟩ := List.mem_iff_getElem?.mp mem
  have distinct : i ≠ j := by
    intro same
    subst same
    exact other (Option.some.inj (here.symm.trans found))
  exact List.mem_iff_getElem?.mpr ⟨j,by rw [List.getElem?_set_ne distinct]; exact here⟩

theorem otherAccepted {x y : Ongoing} {proofId} (accepted : x.accepted = some proofId)
    (pending : y.accepted = none) : x ≠ y := by
  intro same
  rw [same,pending] at accepted
  contradiction

theorem carriesPending {x : Ongoing} {proofId} (carries : x.carries = some proofId) :
    x.accepted = none := by
  obtain ⟨request,phase⟩ := x
  cases phase <;> first | rfl | contradiction

theorem carriesReading {x : Ongoing} {now} (reading : x.reading = some now) : x.carries ≠ none := by
  obtain ⟨request,phase⟩ := x
  cases phase <;> first | contradiction | exact Option.some_ne_none _

/- The requests after a step: those from before, except that a pending one may have become `new`, or
`new` was added. -/
structure Joins (a : Authorizer) (new : Ongoing) (requests : List Ongoing) : Prop where
  present : new ∈ requests
  kept : ∀ y ∈ a.requests, ∀ proofId, y.accepted = some proofId → y ∈ requests
  place : ∃ i, ∀ (m : Nat) (w : Ongoing), requests[m]? = some w → m = i ∧ w = new ∨ a.requests[m]? = some w

theorem joinsSet {i : Nat} {x new} (found : a.requests[i]? = some x) (pending : x.accepted = none) :
    Joins a new (a.requests.set i new) := by
  have small := (List.getElem?_eq_some_iff.mp found).1
  refine ⟨List.mem_set small _,fun y mem proofId accepted => ?_,i,fun m w here => ?_⟩
  · exact memSetOther found mem (otherAccepted accepted pending)
  · by_cases same : i = m
    · subst same
      rw [List.getElem?_set_self small] at here
      exact .inl ⟨rfl,(Option.some.inj here).symm⟩
    · rw [List.getElem?_set_ne same] at here
      exact .inr here

theorem joinsAppend (new : Ongoing) : Joins a new (a.requests ++ [new]) := by
  refine ⟨List.mem_append_right _ (List.mem_singleton_self _),fun y mem _ _ => List.mem_append_left _ mem,
    a.requests.length,fun m w here => ?_⟩
  rw [List.getElem?_append] at here
  split at here
  · exact .inr here
  · rename_i large
    obtain ⟨zero,same⟩ := List.getElem?_eq_some_iff.mp here
    simp only [List.length_singleton] at zero
    exact .inl ⟨by omega,by rw [← same]; simp⟩

structure Fits (a : Authorizer) (new : Ongoing) (clock : Instant) (replay : ReplayCache) : Prop where
  later : a.clock ≤ clock
  bounded : clock ≤ maxUtc
  signed : ∀ y ∈ a.requests, y.request.proofId = new.request.proofId →
    y.request.issuedAtMillis = new.request.issuedAtMillis
  parsed : ∀ proofId, new.carries = some proofId ∨ new.accepted = some proofId →
    ProofId.parseWireValue new.request.proofId = .ok proofId
  read : ∀ now, new.reading = some now → now ≤ clock
  entries : ∀ entry ∈ replay.seen, entry ∈ a.replay.seen ∨
    new.accepted = some entry.proofId ∧ entry.validUntil = replayValidUntil new.request.issuedAtMillis
  covered : ∀ y ∈ a.requests, ∀ proofId, y.accepted = some proofId →
    (∃ entry ∈ replay.seen, entry.proofId = proofId) ∨ Spent a proofId y.request.issuedAtMillis
  first : ∀ proofId, new.accepted = some proofId →
    (∃ entry ∈ replay.seen, entry.proofId = proofId) ∧ ∀ y ∈ a.requests, y.accepted ≠ some proofId
  dropped : ∀ proofId, new.carries = some proofId → ¬ Spent a proofId new.request.issuedAtMillis

theorem guardedJoin {new requests clock replay}
    (guarded : Guarded a) (joins : Joins a new requests) (fits : Fits a new clock replay) :
    Guarded { a with clock := clock, replay := replay, requests := requests } := by
  obtain ⟨i,place⟩ := joins.place
  have origin : ∀ y ∈ requests, y ∈ a.requests ∨ y = new := by
    intro y mem
    obtain ⟨m,here⟩ := List.mem_iff_getElem?.mp mem
    rcases place m y here with ⟨-,same⟩ | old
    · exact .inr same
    · exact .inl (List.mem_of_getElem? old)
  refine ⟨fits.bounded,?_,?_,?_,?_,?_,?_⟩
  · intro y memY z memZ same
    rcases origin y memY with oldY | rfl
    · rcases origin z memZ with oldZ | rfl
      · exact guarded.signed y oldY z oldZ same
      · exact fits.signed y oldY same
    · rcases origin z memZ with oldZ | rfl
      · exact (fits.signed z oldZ same.symm).symm
      · rfl
  · intro y mem proofId holds
    rcases origin y mem with old | rfl
    · exact guarded.parsed y old proofId holds
    · exact fits.parsed proofId holds
  · intro y mem now reading
    rcases origin y mem with old | rfl
    · exact le_trans (guarded.read y old now reading) fits.later
    · exact fits.read now reading
  · intro entry mem
    rcases fits.entries entry mem with known | ⟨accepted,deadline⟩
    · obtain ⟨y,old,accepted,deadline⟩ := guarded.entries entry known
      exact ⟨y,joins.kept y old _ accepted,accepted,deadline⟩
    · exact ⟨new,joins.present,accepted,deadline⟩
  · intro y mem proofId accepted
    rcases origin y mem with old | rfl
    · rcases fits.covered y old proofId accepted with cached | spent
      · exact .inl cached
      · refine .inr ⟨fun now reached => spent.stale now (le_trans fits.later reached),fun z memZ => ?_⟩
        rcases origin z memZ with oldZ | rfl
        · exact spent.dropped z oldZ
        · intro carries
          have one := fits.signed y old ((proofIdCanonical (guarded.parsed y old proofId (.inr accepted))).trans
            (proofIdCanonical (fits.parsed proofId (.inl carries))).symm)
          exact fits.dropped proofId carries (one ▸ spent)
    · exact .inl (fits.first proofId accepted).1
  · -- Two acceptances of one proof are one request, for the new one is accepted first.
    intro j k y z proofId hereY hereZ acceptedY acceptedZ
    rcases place j y hereY with ⟨rfl,rfl⟩ | oldY
    · rcases place k z hereZ with ⟨rfl,rfl⟩ | oldZ
      · rfl
      · exact absurd acceptedZ ((fits.first proofId acceptedY).2 z (List.mem_of_getElem? oldZ))
    · rcases place k z hereZ with ⟨rfl,rfl⟩ | oldZ
      · exact absurd acceptedY ((fits.first proofId acceptedZ).2 y (List.mem_of_getElem? oldY))
      · exact guarded.unique j k y z proofId oldY oldZ acceptedY acceptedZ

theorem liveOrSpent {op now} (guarded : Guarded a) (evicts : a.EvictsSpent op)
    (calls : a.cacheReading op = some now) (reached : now ≤ a.clock) {y} (mem : y ∈ a.requests)
    {proofId} (accepted : y.accepted = some proofId) :
    (∃ entry ∈ a.replay.seen, now ≤ entry.validUntil ∧ entry.proofId = proofId) ∨
      Spent a proofId y.request.issuedAtMillis := by
  rcases guarded.covered y mem proofId accepted with ⟨entry,cached,named⟩ | spent
  · by_cases live : now ≤ entry.validUntil
    · exact .inl ⟨entry,cached,live,named⟩
    · obtain ⟨past,dropped⟩ := evicts now calls entry cached (not_le.mp live)
      obtain ⟨z,memZ,acceptedZ,deadline⟩ := guarded.entries entry cached
      have issued : y.request.issuedAtMillis = z.request.issuedAtMillis :=
        sameProof guarded mem memZ (guarded.parsed y mem proofId (.inr accepted))
          (guarded.parsed z memZ proofId (.inr (named ▸ acceptedZ)))
      rw [deadline,← issued] at past live
      refine .inr ⟨fun later after => ?_,named ▸ dropped⟩
      exact evictedStale (le_trans reached guarded.bounded) (not_le.mp live) past (le_trans reached after)
  · exact .inr spent

theorem guardedCalled {op i x now proofId}
    (guarded : Guarded a) (evicts : a.EvictsSpent op) (found : a.requests[i]? = some x)
    (carries : x.carries = some proofId) (reading : x.reading = some now)
    (calls : a.cacheReading op = some now) : Guarded (a.callReplay i x now proofId) := by
  have memX : x ∈ a.requests := List.mem_of_getElem? found
  have reached := guarded.read x memX now reading
  have parsed := guarded.parsed x memX proofId (.inl carries)
  have covers := fun y mem q => @liveOrSpent a op now guarded evicts calls reached y mem q
  unfold Authorizer.callReplay
  cases verdict : a.replay.checkAndInsert proofId now (replayValidUntil x.request.issuedAtMillis) with
  | mk replay answer =>
    cases answer with
    | ok _ =>
      obtain ⟨absent,seen⟩ := checkAndInsertAccepted (congrArg Prod.snd verdict)
      rw [verdict] at seen
      refine @guardedJoin a ⟨x.request,.accepted proofId⟩ _ a.clock replay guarded
        (joinsSet found (carriesPending carries))
        ⟨le_refl _,guarded.bounded,fun y mem => guarded.signed y mem x memX,?_,nofun,?_,?_,?_,nofun⟩
      · rintro q (h | h)
        · contradiction
        · cases h
          exact parsed
      · intro entry mem
        rcases (seen entry).mp mem with old | new
        · exact .inl old.1
        · rw [new]
          exact .inr ⟨rfl,by with_reducible rfl⟩
      · intro y mem q accepted
        rcases covers y mem q accepted with ⟨entry,cached,live,named⟩ | spent
        · exact .inl ⟨entry,(seen entry).mpr (.inl ⟨cached,live⟩),named⟩
        · exact .inr spent
      · rintro q same
        cases same
        refine ⟨⟨_,(seen _).mpr (.inr rfl),rfl⟩,fun y mem accepted => ?_⟩
        rcases covers y mem proofId accepted with ⟨entry,cached,live,named⟩ | spent
        · exact absent entry cached live named
        · exact spent.dropped x memX carries
    | error rejection =>
      have seen := checkAndInsertRejected (congrArg Prod.snd verdict)
      rw [verdict] at seen
      refine @guardedJoin a ⟨x.request,.denied⟩ _ a.clock replay guarded
        (joinsSet found (carriesPending carries))
        ⟨le_refl _,guarded.bounded,fun y mem => guarded.signed y mem x memX,?_,nofun,?_,?_,nofun,nofun⟩
      · rintro q (h | h) <;> contradiction
      · exact fun entry mem => .inl ((seen entry).mp mem).1
      · intro y mem q accepted
        rcases covers y mem q accepted with ⟨entry,cached,live,named⟩ | spent
        · exact .inl ⟨entry,(seen entry).mpr ⟨cached,live⟩,named⟩
        · exact .inr spent

theorem guardedAfter {crypto : Crypto} (op : AuthorizerOp) (guarded : Guarded a) (signs : a.SignedOnce op)
    (evicts : a.EvictsSpent op) : Guarded (a.after crypto op) := by
  have step : Progress a op (a.after crypto op) := progress op guarded.bounded
  generalize a.after crypto op = a' at step
  cases step with
  | submitted request signed =>
    refine @guardedJoin a ⟨request,.received⟩ _ a.clock a.replay guarded (joinsAppend _)
      ⟨le_refl _,guarded.bounded,signed signs,?_,nofun,fun _ => .inl,guarded.covered,nofun,nofun⟩
    rintro proofId (holds | holds) <;> contradiction
  | idle later bounded =>
    refine ⟨bounded,guarded.signed,guarded.parsed,?_,guarded.entries,?_,guarded.unique⟩
    · exact fun x mem now reading => le_trans (guarded.read x mem now reading) later
    · intro x mem proofId accepted
      exact (guarded.covered x mem proofId accepted).imp_right fun spent =>
        ⟨fun now reached => spent.stale now (le_trans later reached),spent.dropped⟩
  | @quiet i x phase clock found pending later bounded carries unaccepted =>
    have memX : x ∈ a.requests := List.mem_of_getElem? found
    have carried : ∀ proofId, Ongoing.carries ⟨x.request,phase⟩ = some proofId → x.carries = some proofId := by
      intro proofId holds
      rcases carries with none | ⟨same,-⟩
      · cases none.symm.trans holds
      · exact same ▸ holds
    refine @guardedJoin a ⟨x.request,phase⟩ _ clock a.replay guarded (joinsSet found pending)
      ⟨later,bounded,fun y mem => guarded.signed y mem x memX,?_,?_,fun _ => .inl,guarded.covered,?_,?_⟩
    · rintro proofId (holds | holds)
      · exact guarded.parsed x memX proofId (.inl (carried proofId holds))
      · cases unaccepted.symm.trans holds
    · intro now holds
      rcases carries with none | ⟨-,same⟩
      · exact absurd none (carriesReading holds)
      · exact le_trans (guarded.read x memX now (same ▸ holds)) later
    · intro proofId holds
      cases unaccepted.symm.trans holds
    · exact fun proofId holds spent => spent.dropped x memX (carried proofId holds)
  | @freshened i x binding clock proofId found pending later bounded parsed fresh =>
    refine @guardedJoin a ⟨x.request,.fresh binding clock proofId⟩ _ clock a.replay guarded
      (joinsSet found pending) ⟨later,bounded,fun y mem => guarded.signed y mem x (List.mem_of_getElem? found),
        ?_,?_,fun _ => .inl,guarded.covered,nofun,?_⟩
    · rintro q (holds | holds)
      · cases holds
        exact parsed
      · contradiction
    · intro now holds
      cases holds
      exact le_refl _
    · -- A spent proof is stale at the reading that has just found this one fresh.
      intro q holds spent
      rw [spent.stale clock later] at fresh
      contradiction
  | called found carries reading calls => exact guardedCalled guarded evicts found carries reading calls

end Guard

section Once
variable {crypto : Crypto} {epoch capacity replayCapacity clock : Nat} {events : List AuthorizerOp}

theorem proofAcceptedOnce
    (meets : Meets (Authorizer.after · crypto) (fun a op => Authorizer.SignedOnce a op ∧ a.EvictsSpent op)
      (Authorizer.start epoch capacity replayCapacity clock) events) :
    let a := run (Authorizer.after · crypto) (Authorizer.start epoch capacity replayCapacity clock) events
    ∀ (i j : Nat) (x y : Ongoing) (proofId : ProofId), a.requests[i]? = some x → a.requests[j]? = some y →
      x.accepted = some proofId → y.accepted = some proofId → i = j := by
  intro a
  have guarded : Guarded a := runInvariant
    (fun _ op held conditions => guardedAfter op held conditions.1 conditions.2)
    (guardedStart epoch capacity replayCapacity clock) meets
  exact guarded.unique

end Once

section Replay

-- A signature is the end of the transcript, which holds `proof_id` and `issued_at`.
def tailCrypto : Crypto :=
  ⟨fun _ => ⟨⟨.replicate 32 0,Digest.zero.sized⟩⟩,
    fun _ transcript signature => signature == transcript.drop (transcript.length - 64)⟩

def proofNamed (byte : UInt8) : ProofId := ⟨.replicate 16 byte,rfl⟩

def discovery (proofId : ProofId) (issuedAtMillis : Nat) : Request :=
  let transcript := buildProofTranscript (.fromTokenBytes tailCrypto "token")
    ⟨.resumeDiscovery,⟨3⟩,⟨4⟩,.agentToServer,none,proofId,issuedAtMillis⟩
  .authorize ⟨"token",.resumeDiscovery,⟨3⟩,none,Base64Url.encode proofId.bytes,issuedAtMillis,
    Base64Url.encode (transcript.drop (transcript.length - 64))⟩

def uploadingState : AuthorizationDurableState :=
  ⟨⟨⟨⟨3⟩,⟨0⟩,⟨1⟩,⟨2⟩,⟨4⟩,.agentToServer,.sha256,.pair,"disk",some ⟨5⟩⟩,.newIncomplete ⟨4⟩,
    .new ⟨4⟩ .sha256 .pair,[]⟩,some ⟨⟨5⟩,⟨2⟩,⟨6⟩,.inProgress⟩,true⟩

def requestRun (i elapsed : Nat) (request : Request) : List AuthorizerOp :=
  [.submit request,.lookup i,.readClock i elapsed,.durable i (some uploadingState),.callCache i]

def grantedAt (elapsed : Nat) : AuthorizerOp :=
  .grant elapsed (.fromTokenBytes tailCrypto "token") ⟨⟨0⟩,⟨3⟩,⟨4⟩,.agentToServer,⟨5⟩,[],300000000000,0⟩

-- The proof is replayed at its deadline, then after a later proof has evicted it.
def replayedLate : List AuthorizerOp :=
  grantedAt 0 :: requestRun 0 120000000000 (discovery (proofNamed 1) 0) ++
    requestRun 1 0 (discovery (proofNamed 1) 0) ++ requestRun 2 1000000 (discovery (proofNamed 2) 120000) ++
    requestRun 3 0 (discovery (proofNamed 1) 0)

theorem proofAcceptedOnceEvicted :
    let a := run (Authorizer.after · tailCrypto) (Authorizer.start 0 1 2 0) replayedLate
    a.requests.map Ongoing.accepted = [some (proofNamed 1),none,some (proofNamed 2),none] ∧
    ∀ (i j : Nat) (x y : Ongoing) (proofId : ProofId), a.requests[i]? = some x → a.requests[j]? = some y →
      x.accepted = some proofId → y.accepted = some proofId → i = j :=
  ⟨by decide +kernel,proofAcceptedOnce (by decide +kernel)⟩

-- The deadline is 120 s; at 120 s and one nanosecond the proof is still fresh and no longer cached.
def replayedInDeadlineMilli : List AuthorizerOp :=
  grantedAt 0 :: requestRun 0 120000000000 (discovery (proofNamed 1) 0) ++
    requestRun 1 1 (discovery (proofNamed 1) 0)

theorem proofAcceptedTwice :
    Meets (Authorizer.after · tailCrypto) Authorizer.SignedOnce (Authorizer.start 0 1 1 0)
      replayedInDeadlineMilli ∧
    let a := run (Authorizer.after · tailCrypto) (Authorizer.start 0 1 1 0) replayedInDeadlineMilli
    a.requests.map Ongoing.request = [discovery (proofNamed 1) 0,discovery (proofNamed 1) 0] ∧
    a.requests.map Ongoing.accepted = [some (proofNamed 1),some (proofNamed 1)] := by
  decide +kernel

end Replay
end Bamep
