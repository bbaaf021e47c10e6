import Bamep.Store.TransferFacts

/-! The durable rows of Endpoints and boot contexts. An aggregate is spread over three tables: the
verifiers and times of its credential chain are one row, the lookup ids of the two slots are rows of
their own, and a load joins them again. `Stored` says which aggregate the rows hold. -/
namespace Bamep
open Relational

structure EndpointRow where
  id : EndpointId
  inventorySignal : String
  identity : IdentityState
  hardwareConfidence : HardwareConfidence
  createdAt : Instant
  updatedAt : Instant
  currentBoot : Option CurrentBoot
  currentInventoryRevisionId : Option InventoryRevisionId
  deriving DecidableEq, Repr

structure SlotColumns where
  verifier : CredentialHash
  issuedAt : Instant
  expiresAt : Instant
  deriving DecidableEq, Repr

structure CredentialRow where
  endpointId : EndpointId
  predecessor : SlotColumns
  successor : Option SlotColumns
  revoked : Bool
  deriving DecidableEq, Repr

inductive CredentialSlotRole where
  | predecessor | successor
  deriving DecidableEq, Repr

structure LookupRow where
  endpointId : EndpointId
  slot : CredentialSlotRole
  lookupId : CredentialLookupId
  deriving DecidableEq, Repr

def LookupRow.key (row : LookupRow) : EndpointId × CredentialSlotRole := (row.endpointId,row.slot)

def InventoryRevision.key (revision : InventoryRevision) : EndpointId × InventoryRevisionId :=
  (revision.endpointId,revision.id)

structure EndpointRows where
  endpoints : Table EndpointRow.id
  credentials : Table CredentialRow.endpointId
  lookups : Table LookupRow.key
  bootContexts : Table BootContext.bootContextId
  inventoryRevisions : Table InventoryRevision.key

@[mk_iff]
structure EndpointRows.Valid (rows : EndpointRows) : Prop where
  signalUnique : ∀ a ∈ rows.endpoints, ∀ b ∈ rows.endpoints, a.inventorySignal = b.inventorySignal → a = b
  currentRevision : ∀ e ∈ rows.endpoints, e.currentInventoryRevisionId = none ∨
    ∃ r ∈ rows.inventoryRevisions, r.endpointId = e.id ∧ some r.id = e.currentInventoryRevisionId
  revisionEndpoint : ∀ r ∈ rows.inventoryRevisions, ∃ e ∈ rows.endpoints, e.id = r.endpointId
  credentialEndpoint : ∀ c ∈ rows.credentials, ∃ e ∈ rows.endpoints, e.id = c.endpointId
  lookupUnique : ∀ a ∈ rows.lookups, ∀ b ∈ rows.lookups, a.lookupId = b.lookupId → a = b
  lookupEndpoint : ∀ l ∈ rows.lookups, ∃ e ∈ rows.endpoints, e.id = l.endpointId
  contextTimes : ∀ c ∈ rows.bootContexts, c.issuedAt < c.expiresAt
  contextEndpoint : ∀ c ∈ rows.bootContexts, c.resolvedEndpointId = none ∨
    ∃ e ∈ rows.endpoints, some e.id = c.resolvedEndpointId

instance (rows : EndpointRows) : Decidable rows.Valid := decidable_of_iff' _ (EndpointRows.valid_iff rows)

structure EndpointStore where
  rows : EndpointRows
  valid : rows.Valid

def EndpointRows.empty : EndpointRows := ⟨.empty,.empty,.empty,.empty,.empty⟩

def EndpointStore.empty : EndpointStore := ⟨.empty,by decide⟩

def EndpointRows.commit (rows : EndpointRows) : Option EndpointStore :=
  if valid : rows.Valid then some ⟨rows,valid⟩ else none

theorem commitEndpointRows {rows} {store : EndpointStore} (ok : rows.commit = some store) :
    store.rows = rows := by
  unfold EndpointRows.commit at ok
  split at ok
  · cases Option.some.inj ok; rfl
  · contradiction

def SlotColumns.slot (columns : SlotColumns) (lookupId : CredentialLookupId) : CredentialSlot :=
  ⟨lookupId,columns.verifier,columns.issuedAt,columns.expiresAt⟩

def CredentialSlot.columns (slot : CredentialSlot) : SlotColumns := ⟨slot.hash,slot.issuedAt,slot.expiresAt⟩

def rowToAggregate (row : EndpointRow) (credential : CredentialRow)
    (predecessorLookupId successorLookupId : Option CredentialLookupId) :
    Except RepositoryError EndpointAggregate :=
  let aggregate (predecessor : CredentialSlot) (successor : Option CredentialSlot) : EndpointAggregate :=
    ⟨row.id,row.inventorySignal,row.identity,⟨predecessor,successor,credential.revoked⟩,
      row.hardwareConfidence,row.currentBoot,row.createdAt,row.updatedAt⟩
  match predecessorLookupId with
  | none => .error (.backend "persisted predecessor credential is missing its lookup mapping")
  | some id =>
    match credential.successor,successorLookupId with
    | some columns,some other => .ok (aggregate (credential.predecessor.slot id) (some (columns.slot other)))
    | none,none => .ok (aggregate (credential.predecessor.slot id) none)
    | _,_ => .error (.backend "persisted successor verifier and lookup mapping disagree on presence")

namespace EndpointRows
variable (rows : EndpointRows)

def lookupId (id : EndpointId) (slot : CredentialSlotRole) : Option CredentialLookupId :=
  (rows.lookups.find? (id,slot)).map LookupRow.lookupId

-- `endpoints JOIN endpoint_credentials` with both lookup rows joined from the left.
def loadRow (row : EndpointRow) : Except RepositoryError (Option EndpointAggregate) :=
  match rows.credentials.find? row.id with
  | none => .ok none
  | some credential => (rowToAggregate row credential (rows.lookupId row.id .predecessor)
      (rows.lookupId row.id .successor)).map some

def loadById (id : EndpointId) : Except RepositoryError (Option EndpointAggregate) :=
  match rows.endpoints.find? id with
  | none => .ok none
  | some row => rows.loadRow row

def loadBySignal (signal : String) : Except RepositoryError (Option EndpointAggregate) :=
  match rows.endpoints.rows.find? fun row => row.inventorySignal = signal with
  | none => .ok none
  | some row => rows.loadRow row

end EndpointRows

def EndpointAggregate.row (a : EndpointAggregate) (revision : Option InventoryRevisionId) : EndpointRow :=
  ⟨a.id,a.inventorySignal,a.identity,a.hardwareConfidence,a.createdAt,a.updatedAt,a.currentBoot,revision⟩

def EndpointAggregate.credentialRow (a : EndpointAggregate) : CredentialRow :=
  ⟨a.id,a.credential.predecessor.columns,a.credential.successor.map CredentialSlot.columns,a.credential.revoked⟩

def CredentialChain.lookupRows (chain : CredentialChain) (id : EndpointId) : List LookupRow :=
  ⟨id,.predecessor,chain.predecessor.lookupId⟩ ::
    chain.successor.toList.map fun successor => ⟨id,.successor,successor.lookupId⟩

namespace EndpointRows
variable (rows : EndpointRows)

def persistTransition (a : EndpointAggregate) : EndpointRows :=
  { rows with
    endpoints := rows.endpoints.upsert (a.row none) (fun row =>
      { row with
        identity := a.identity
        hardwareConfidence := a.hardwareConfidence
        updatedAt := a.updatedAt
        currentBoot := a.currentBoot }) fun _ => rfl
    credentials := rows.credentials.upsert a.credentialRow (fun row =>
      { a.credentialRow with endpointId := row.endpointId }) fun _ => rfl }

def persistLookupProjection (id : EndpointId) (chain : CredentialChain) : Option EndpointRows :=
  ((rows.lookups.retain fun row => row.endpointId ≠ id).insertAll? (chain.lookupRows id)).map fun lookups =>
    { rows with lookups := lookups }

def persistBootContextResolution : Option BootContext → EndpointRows
  | none => rows
  | some context => { rows with
      bootContexts := rows.bootContexts.update context.bootContextId
        (fun row => { row with resolvedEndpointId := context.resolvedEndpointId }) context.resolutionKeepsId }

end EndpointRows

structure Stored (rows : EndpointRows) (a : EndpointAggregate) : Prop where
  endpoint : ∃ revision, a.row revision ∈ rows.endpoints
  credential : a.credentialRow ∈ rows.credentials
  lookups : ∀ l : LookupRow, l.endpointId = a.id → (l ∈ rows.lookups ↔ l ∈ a.credential.lookupRows a.id)

def Projected (rows : EndpointRows) : Prop := ∀ e ∈ rows.endpoints, ∃ a, Stored rows a ∧ a.id = e.id

section Loads
variable {rows : EndpointRows} {a b : EndpointAggregate}

theorem memLookupRows {chain : CredentialChain} {id l} :
    l ∈ chain.lookupRows id ↔ l = ⟨id,.predecessor,chain.predecessor.lookupId⟩ ∨
      ∃ successor, chain.successor = some successor ∧ l = ⟨id,.successor,successor.lookupId⟩ := by
  simp [CredentialChain.lookupRows,eq_comm]

theorem lookupRowsOwner {chain : CredentialChain} {id l}
    (mem : l ∈ chain.lookupRows id) : l.endpointId = id := by
  rcases memLookupRows.mp mem with rfl | ⟨_,_,rfl⟩ <;> rfl

theorem storedPredecessor (stored : Stored rows a) :
    rows.lookupId a.id .predecessor = some a.credential.predecessor.lookupId := by
  have mem := (stored.lookups _ rfl).mpr (memLookupRows.mpr (.inl rfl))
  have found : rows.lookups.find? (a.id,.predecessor) = some _ := Table.findIff.mpr ⟨mem,rfl⟩
  unfold EndpointRows.lookupId
  rw [found]
  rfl

theorem storedSuccessor (stored : Stored rows a) :
    rows.lookupId a.id .successor = a.credential.successor.map CredentialSlot.lookupId := by
  unfold EndpointRows.lookupId
  cases present : a.credential.successor with
  | some successor =>
    have mem := (stored.lookups _ rfl).mpr (memLookupRows.mpr (.inr ⟨successor,present,rfl⟩))
    have found : rows.lookups.find? (a.id,.successor) = some _ := Table.findIff.mpr ⟨mem,rfl⟩
    rw [found]
    rfl
  | none =>
    cases found : rows.lookups.find? (a.id,.successor) with
    | none => rfl
    | some l =>
      obtain ⟨mem,key⟩ := Table.findIff.mp found
      obtain ⟨owner,slot⟩ := Prod.mk.inj key
      rcases memLookupRows.mp ((stored.lookups l owner).mp mem) with rfl | ⟨successor,exists',_⟩
      · contradiction
      · rw [present] at exists'
        contradiction

theorem storedLoadRow (stored : Stored rows a) (revision : Option InventoryRevisionId) :
    rows.loadRow (a.row revision) = .ok (some a) := by
  have credential : rows.credentials.find? a.id = some a.credentialRow :=
    Table.findIff.mpr ⟨stored.credential,rfl⟩
  simp only [EndpointRows.loadRow,EndpointAggregate.row,credential,storedPredecessor stored,
    storedSuccessor stored]
  obtain ⟨id,signal,identity,⟨predecessor,successor,revoked⟩,hardware,boot,created,updated⟩ := a
  cases successor <;> rfl

theorem storedLoads (stored : Stored rows a) : rows.loadById a.id = .ok (some a) := by
  obtain ⟨revision,mem⟩ := stored.endpoint
  have found : rows.endpoints.find? a.id = some (a.row revision) := Table.findIff.mpr ⟨mem,rfl⟩
  unfold EndpointRows.loadById
  rw [found]
  exact storedLoadRow stored revision

theorem storedUnique (left : Stored rows a) (right : Stored rows b) (same : a.id = b.id) : a = b := by
  have loads := storedLoads left
  rw [same,storedLoads right] at loads
  exact (Option.some.inj (Except.ok.inj loads)).symm

theorem storedRow (projected : Projected rows) {e} (mem : e ∈ rows.endpoints) :
    ∃ a, Stored rows a ∧ e = a.row e.currentInventoryRevisionId := by
  obtain ⟨a,stored,same⟩ := projected e mem
  obtain ⟨revision,present⟩ := stored.endpoint
  have equal : e = a.row revision := Table.eqOfKey mem present same.symm
  exact ⟨a,stored,by rw [equal]; rfl⟩

theorem loadByIdNamed {id} (ok : rows.loadById id = .ok (some a)) :
    a.id = id ∧ ∃ row, rows.endpoints.find? id = some row := by
  unfold EndpointRows.loadById at ok
  split at ok
  · cases ok
  rename_i row found
  refine ⟨?_,row,found⟩
  rw [← (Table.findIff.mp found).2]
  unfold EndpointRows.loadRow at ok
  split at ok
  · cases ok
  unfold rowToAggregate at ok
  simp only at ok
  repeat' split at ok <;> try contradiction
  all_goals
    cases ok
    rfl

theorem loadByIdSome (projected : Projected rows) {id}
    (ok : rows.loadById id = .ok (some a)) : Stored rows a ∧ a.id = id := by
  unfold EndpointRows.loadById at ok
  split at ok
  · cases ok
  · rename_i row found
    obtain ⟨mem,named⟩ := Table.findIff.mp found
    obtain ⟨b,stored,same⟩ := storedRow projected mem
    rw [same,storedLoadRow stored] at ok
    cases ok
    rw [same] at named
    exact ⟨stored,named⟩

theorem loadBySignalSome (projected : Projected rows) {signal}
    (ok : rows.loadBySignal signal = .ok (some a)) : Stored rows a ∧ a.inventorySignal = signal := by
  unfold EndpointRows.loadBySignal at ok
  split at ok
  · cases ok
  · rename_i row found
    have mem : row ∈ rows.endpoints := List.mem_of_find?_eq_some found
    have named : row.inventorySignal = signal := by simpa using List.find?_some found
    obtain ⟨b,stored,same⟩ := storedRow projected mem
    rw [same,storedLoadRow stored] at ok
    cases ok
    rw [same] at named
    exact ⟨stored,named⟩

end Loads

structure Persisted (rows rows' : EndpointRows) (a : EndpointAggregate) : Prop where
  endpoints : rows'.endpoints = (rows.persistTransition a).endpoints
  credentials : rows'.credentials = (rows.persistTransition a).credentials
  lookups : ∀ l, l ∈ rows'.lookups ↔
    l ∈ rows.lookups ∧ l.endpointId ≠ a.id ∨ l ∈ a.credential.lookupRows a.id

section Persists
variable {rows rows' : EndpointRows} {a b : EndpointAggregate}

theorem persistedOther (persisted : Persisted rows rows' a) (other : b.id ≠ a.id) :
    Stored rows' b ↔ Stored rows b := by
  have endpoint : ∀ revision, b.row revision ∈ rows'.endpoints ↔ b.row revision ∈ rows.endpoints := by
    intro revision
    rw [persisted.endpoints]
    refine (Table.memUpsert (by exact fun _ => rfl)).trans ⟨?_,fun mem => .inl ⟨mem,other⟩⟩
    rintro (⟨mem,_⟩ | ⟨old,_,same,changed⟩ | ⟨_,new⟩)
    · exact mem
    · exact absurd ((congrArg EndpointRow.id changed).trans same) other
    · exact absurd (congrArg EndpointRow.id new) other
  have credential : b.credentialRow ∈ rows'.credentials ↔ b.credentialRow ∈ rows.credentials := by
    rw [persisted.credentials]
    refine (Table.memUpsert (by exact fun _ => rfl)).trans ⟨?_,fun mem => .inl ⟨mem,other⟩⟩
    rintro (⟨mem,_⟩ | ⟨old,_,same,changed⟩ | ⟨_,new⟩)
    · exact mem
    · exact absurd ((congrArg CredentialRow.endpointId changed).trans same) other
    · exact absurd (congrArg CredentialRow.endpointId new) other
  have lookup : ∀ l : LookupRow, l.endpointId = b.id → (l ∈ rows'.lookups ↔ l ∈ rows.lookups) := by
    intro l owner
    rw [persisted.lookups]
    constructor
    · rintro (⟨mem,_⟩ | new)
      · exact mem
      · exact absurd (owner.symm.trans (lookupRowsOwner new)) other
    · exact fun mem => .inl ⟨mem,fun same => other (owner.symm.trans same)⟩
  constructor
  · rintro ⟨⟨revision,mem⟩,chain,mapped⟩
    exact ⟨⟨revision,(endpoint revision).mp mem⟩,credential.mp chain,
      fun l owner => (lookup l owner).symm.trans (mapped l owner)⟩
  · rintro ⟨⟨revision,mem⟩,chain,mapped⟩
    exact ⟨⟨revision,(endpoint revision).mpr mem⟩,credential.mpr chain,
      fun l owner => (lookup l owner).trans (mapped l owner)⟩

-- A row that was there keeps its inventory signal and its creation time.
theorem persistedSelf (persisted : Persisted rows rows' a) :
    ∃ b, Stored rows' b ∧ b = { a with inventorySignal := b.inventorySignal, createdAt := b.createdAt } ∧
      ((∃ e ∈ rows.endpoints, e.id = a.id ∧ e.inventorySignal = b.inventorySignal ∧ e.createdAt = b.createdAt) ∨
        (∀ e ∈ rows.endpoints, e.id ≠ a.id) ∧ b = a) := by
  have credential : a.credentialRow ∈ rows'.credentials := by
    rw [persisted.credentials]
    refine (Table.memUpsert (by exact fun _ => rfl)).mpr ?_
    by_cases known : ∃ old ∈ rows.credentials, old.endpointId = a.id
    · obtain ⟨old,mem,same⟩ := known
      refine .inr (.inl ⟨old,mem,same,?_⟩)
      rw [same]
      rfl
    · exact .inr (.inr ⟨fun old mem same => known ⟨old,mem,same⟩,rfl⟩)
  have lookup : ∀ l : LookupRow, l.endpointId = a.id →
      (l ∈ rows'.lookups ↔ l ∈ a.credential.lookupRows a.id) := by
    intro l owner
    rw [persisted.lookups]
    exact ⟨fun mem => mem.resolve_left fun old => old.2 owner,.inr⟩
  have endpoint := persisted.endpoints
  by_cases known : ∃ e ∈ rows.endpoints, e.id = a.id
  · obtain ⟨e,mem,same⟩ := known
    refine ⟨{ a with inventorySignal := e.inventorySignal, createdAt := e.createdAt },
      ⟨⟨e.currentInventoryRevisionId,?_⟩,credential,lookup⟩,rfl,.inl ⟨e,mem,same,rfl,rfl⟩⟩
    rw [endpoint]
    refine (Table.memUpsert (by exact fun _ => rfl)).mpr (.inr (.inl ⟨e,mem,same,?_⟩))
    rw [← same]
    rfl
  · refine ⟨a,⟨⟨none,?_⟩,credential,lookup⟩,rfl,.inr ⟨fun e mem same => known ⟨e,mem,same⟩,rfl⟩⟩
    rw [endpoint]
    exact (Table.memUpsert (by exact fun _ => rfl)).mpr
      (.inr (.inr ⟨fun e mem same => known ⟨e,mem,same⟩,rfl⟩))

theorem persistedEndpoint (persisted : Persisted rows rows' a) {e} (mem : e ∈ rows'.endpoints) :
    e.id = a.id ∨ e ∈ rows.endpoints := by
  rw [persisted.endpoints] at mem
  rcases (Table.memUpsert (by exact fun _ => rfl)).mp mem with ⟨old,_⟩ | ⟨old,_,same,rfl⟩ | ⟨_,rfl⟩
  · exact .inr old
  · exact .inl same
  · exact .inl rfl

theorem persistedProjected (projected : Projected rows) (persisted : Persisted rows rows' a) :
    Projected rows' := by
  intro e mem
  by_cases changed : e.id = a.id
  · obtain ⟨b,stored,same,_⟩ := persistedSelf persisted
    exact ⟨b,stored,by rw [same,changed]⟩
  · obtain ⟨b,stored,same⟩ := projected e ((persistedEndpoint persisted mem).resolve_left changed)
    exact ⟨b,(persistedOther persisted (same ▸ changed)).mpr stored,same⟩

/- Persisting a transition of a stored aggregate breaks no constraint: no row is added, and the ids, signals
and revisions of Endpoints stay as they are. -/
theorem persistTransitionValid (valid : rows.Valid) (stored : Stored rows b) (named : a.id = b.id) :
    (rows.persistTransition a).Valid := by
  obtain ⟨revision,present⟩ := stored.endpoint
  have endpoints : (rows.persistTransition a).endpoints = _ := Table.upsertPresent (by exact fun _ => rfl) present
    (show (b.row revision).id = (a.row none).id from named.symm)
  have credentials : (rows.persistTransition a).credentials = _ := Table.upsertPresent (by exact fun _ => rfl)
    stored.credential (show b.credentialRow.endpointId = a.credentialRow.endpointId from named.symm)
  have origin : ∀ e ∈ (rows.persistTransition a).endpoints, ∃ old ∈ rows.endpoints, old.id = e.id ∧
      old.inventorySignal = e.inventorySignal ∧ old.currentInventoryRevisionId = e.currentInventoryRevisionId := by
    intro e mem
    rw [endpoints] at mem
    obtain ⟨old,known,same,unchanged | changed⟩ := Table.updateOrigin (by exact fun _ => rfl) mem
    · exact ⟨old,known,same,by rw [unchanged],by rw [unchanged]⟩
    · exact ⟨old,known,same,by rw [changed],by rw [changed]⟩
  have kept : ∀ old ∈ rows.endpoints, ∃ e ∈ (rows.persistTransition a).endpoints, e.id = old.id := by
    intro old known
    rw [endpoints]
    obtain ⟨e,mem,same,_⟩ := Table.updateKept _ known
    exact ⟨e,mem,same⟩
  have owner : ∀ {id : EndpointId}, (∃ e ∈ rows.endpoints, e.id = id) →
      ∃ e ∈ (rows.persistTransition a).endpoints, e.id = id := by
    intro id known
    obtain ⟨old,mem,same⟩ := known
    obtain ⟨e,present,named⟩ := kept old mem
    exact ⟨e,present,named.trans same⟩
  refine ⟨?_,?_,fun r mem => owner (valid.revisionEndpoint r mem),?_,valid.lookupUnique,
    fun l mem => owner (valid.lookupEndpoint l mem),valid.contextTimes,?_⟩
  · intro e mem e' mem' signal
    obtain ⟨old,known,same,signalOld,_⟩ := origin e mem
    obtain ⟨old',known',same',signalOld',_⟩ := origin e' mem'
    have equal := valid.signalUnique old known old' known' (by rw [signalOld,signalOld',signal])
    exact Table.eqOfKey mem mem' (by rw [← same,← same',equal])
  · intro e mem
    obtain ⟨old,known,same,_,revisionOld⟩ := origin e mem
    have recorded := valid.currentRevision old known
    rwa [same,revisionOld] at recorded
  · intro c mem
    rw [credentials] at mem
    obtain ⟨old,known,same,_⟩ := Table.updateOrigin (by exact fun _ => rfl) mem
    exact owner (same ▸ valid.credentialEndpoint old known)
  · intro context mem
    refine (valid.contextEndpoint context mem).imp_right fun resolved => ?_
    obtain ⟨old,known,same⟩ := resolved
    obtain ⟨e,present,named⟩ := kept old known
    exact ⟨e,present,by rw [named,same]⟩

end Persists
end Bamep
