import Bamep.Process.ResumeDiscovery

/-! What holds of every connection at every step: each live snapshot has one live cursor unless the handler at work
holds it, each page is the slice its cursor stands at, and a query that was answered to its end has left nothing. -/
namespace Bamep.ResumeExchange
open Relational Transition WorkerProtocol WorkerControl

section Paging
variable {held : List HeldChunkEntry} {n : Nat}

theorem partitionPointNext (ascending : (held.map HeldChunkEntry.chunkIndex).Pairwise (· < ·)) (positive : 0 < n)
    (within : n < held.length) : partitionPoint held (nextChunkIndex held n) = n := by
  have before : n - 1 < held.length := by omega
  have order : ∀ i j (low : i < j) (high : j < held.length), held[i].chunkIndex < held[j].chunkIndex := by
    intro i j low high
    have := List.pairwise_iff_getElem.mp ascending i j (by simp; omega) (by simpa using high) low
    simpa using this
  have next : nextChunkIndex held n = held[n - 1].chunkIndex + 1 := by
    simp [nextChunkIndex,List.getElem?_eq_getElem before]
  rw [partitionPoint,List.findIdx_eq within]
  constructor
  · have := order (n - 1) n (by omega) within
    simp only [next,Bool.not_eq_true',decide_eq_false_iff_not]
    omega
  · intro j low
    simp only [next,Bool.not_eq_false',decide_eq_true_eq]
    by_cases last : j = n - 1
    · subst last
      omega
    · have := order j (n - 1) (by omega) before
      omega

theorem takeSlice {start stop} (ordered : start ≤ stop) :
    (held.take start).map heldChunkWire ++ slice held start stop = (held.take stop).map heldChunkWire := by
  rw [slice,← List.map_append]
  have whole := List.take_append_drop start (held.take stop)
  rw [List.take_take,Nat.min_eq_left ordered] at whole
  rw [whole]

end Paging

/- The binding stands before the `n`-th chunk of the snapshot. -/
structure Registered.At (r : Registered) (b : ResumeCursorBinding) (n : Nat) : Prop where
  snapshot : b.state.snapshotId = r.id
  transfer : b.transferId = r.snapshot.transferId
  positive : 0 < n
  within : n < r.snapshot.held.length
  next : b.state.nextChunkIndex = nextChunkIndex r.snapshot.held n

/- The `k`-th request of the connection is this query, decided on a durable state with these facts. -/
def ResumeLink.Authorized (link : ResumeLink) (k : Nat) (query : Message ResumeDiscoveryQueryBody)
    (facts : ResumeSnapshotFacts) : Prop :=
  link.asked[k]? = some (.query query) ∧ ∃ server locked, (k,server) ∈ link.authorized ∧
    server.store.transfer.loadLockedFacts ⟨query.body.transferId⟩ = .ok (some locked) ∧ facts.Of locked

namespace ResumeTask

def snapshotId : ResumeTask → Option Nat
  | .registering .. | .looking _ => none
  | .minting _ _ id | .releasing _ id => some id
  | .reading _ binding | .advancing _ binding _ => some binding.state.snapshotId

-- A snapshot no cursor refers to yet, or any more.
def owns : ResumeTask → Option Nat
  | .minting _ _ id | .releasing _ id => some id
  | _ => none

end ResumeTask

/- No cursor, no snapshot and no handler of the connection is left of the snapshot. -/
def Dead (book : CursorBook) (link : ResumeLink) (id : Nat) : Prop :=
  book.current → (∀ snapshot, (id,snapshot) ∉ book.snapshots) ∧ (∀ c ∈ book.live, c.2.state.snapshotId ≠ id) ∧
    ∀ task ∈ link.task, task.snapshotId ≠ some id

def Released (book : CursorBook) (link : ResumeLink) (k : Nat) : Prop :=
  k < link.pages.length ∧ ∀ r ∈ link.registered, r.request = k → Dead book link r.id

/- How the `k`-th request may have been answered. -/
inductive AnswerSound (pageSize : Nat) (book : CursorBook) (link : ResumeLink) (k : Nat) :
    ResumeRequest → ResumeDiscoveryPageBody → Prop where
  | denied {query : Message ResumeDiscoveryQueryBody} (released : Released book link k) :
    AnswerSound pageSize book link k (.query query) (.denied query.envelope.messageId)
  | whole {query : Message ResumeDiscoveryQueryBody} {facts : ResumeSnapshotFacts}
    (authorized : link.Authorized k query facts) (fits : (heldEntries facts).length ≤ pageSize)
    (released : Released book link k) :
    AnswerSound pageSize book link k (.query query)
      (firstPageOf query facts ((heldEntries facts).map heldChunkWire) none)
  | first {query : Message ResumeDiscoveryQueryBody} {facts : ResumeSnapshotFacts} {r : Registered} {cursor : String}
    {b : ResumeCursorBinding} (authorized : link.Authorized k query facts) (registered : r ∈ link.registered)
    (request : r.request = k) (snapshot : r.snapshot = storedSnapshot query facts)
    (issued : (cursor,b) ∈ book.issued) (stands : r.At b pageSize) :
    AnswerSound pageSize book link k (.query query)
      (firstPageOf query facts (slice (heldEntries facts) 0 pageSize) (some cursor))
  | refused {next : Message ResumeDiscoveryContinueBody} :
    AnswerSound pageSize book link k (.next next) (.denied next.envelope.messageId)
  | middle {next : Message ResumeDiscoveryContinueBody} {r : Registered} {b b' : ResumeCursorBinding} {n : Nat}
    {cursor : String} (registered : r ∈ link.registered) (issued : (next.body.resumeCursor,b) ∈ book.issued)
    (stands : r.At b n) (issued' : (cursor,b') ∈ book.issued) (stands' : r.At b' (n + pageSize)) :
    AnswerSound pageSize book link k (.next next)
      (.continuationPage next.envelope.messageId (slice r.snapshot.held n (n + pageSize)) (some cursor))
  | last {next : Message ResumeDiscoveryContinueBody} {r : Registered} {b : ResumeCursorBinding} {n : Nat}
    (registered : r ∈ link.registered) (issued : (next.body.resumeCursor,b) ∈ book.issued) (stands : r.At b n)
    (ends : r.snapshot.held.length ≤ n + pageSize) (released : Released book link r.request) :
    AnswerSound pageSize book link k (.next next)
      (.continuationPage next.envelope.messageId (slice r.snapshot.held n r.snapshot.held.length) none)

/- What the handler at work on the `k`-th request relies on. -/
inductive TaskSound (pageSize : Nat) (book : CursorBook) (link : ResumeLink) (k : Nat) : ResumeTask → Prop where
  | registering {query : Message ResumeDiscoveryQueryBody} {facts : ResumeSnapshotFacts}
    (authorized : link.Authorized k query facts) (more : pageSize < (heldEntries facts).length)
    (unregistered : ∀ r ∈ link.registered, r.request ≠ k) :
    TaskSound pageSize book link k (.registering query facts)
  | minting {query : Message ResumeDiscoveryQueryBody} {facts : ResumeSnapshotFacts} {id : Nat}
    (authorized : link.Authorized k query facts) (more : pageSize < (heldEntries facts).length)
    (registered : ⟨k,id,storedSnapshot query facts⟩ ∈ link.registered)
    (unissued : ∀ c ∈ book.issued, c.2.state.snapshotId ≠ id) :
    TaskSound pageSize book link k (.minting query facts id)
  | looking {next : Message ResumeDiscoveryContinueBody} (asked : link.asked[k]? = some (.next next)) :
    TaskSound pageSize book link k (.looking next)
  | reading {next : Message ResumeDiscoveryContinueBody} {b : ResumeCursorBinding}
    (asked : link.asked[k]? = some (.next next)) (live : (next.body.resumeCursor,b) ∈ book.live) :
    TaskSound pageSize book link k (.reading next b)
  | advancing {next : Message ResumeDiscoveryContinueBody} {b : ResumeCursorBinding} {snapshot : ResumeSnapshot}
    (asked : link.asked[k]? = some (.next next)) (live : (next.body.resumeCursor,b) ∈ book.live)
    (held : (b.state.snapshotId,snapshot) ∈ book.snapshots) :
    TaskSound pageSize book link k (.advancing next b snapshot)
  | withdrawing {query : Message ResumeDiscoveryQueryBody} {r : Registered}
    (asked : link.asked[k]? = some (.query query)) (registered : r ∈ link.registered) (request : r.request = k)
    (unreferenced : book.current → ∀ c ∈ book.live, c.2.state.snapshotId ≠ r.id) :
    TaskSound pageSize book link k (.releasing (.denied query.envelope.messageId) r.id)
  | abandoning {next : Message ResumeDiscoveryContinueBody} {id : Nat}
    (asked : link.asked[k]? = some (.next next)) (stale : ¬book.current) :
    TaskSound pageSize book link k (.releasing (.denied next.envelope.messageId) id)
  | finishing {next : Message ResumeDiscoveryContinueBody} {r : Registered} {b : ResumeCursorBinding} {n : Nat}
    (asked : link.asked[k]? = some (.next next)) (registered : r ∈ link.registered)
    (issued : (next.body.resumeCursor,b) ∈ book.issued) (stands : r.At b n)
    (ends : r.snapshot.held.length ≤ n + pageSize)
    (unreferenced : book.current → ∀ c ∈ book.live, c.2.state.snapshotId ≠ r.id) :
    TaskSound pageSize book link k (.releasing
      (.continuationPage next.envelope.messageId (slice r.snapshot.held n r.snapshot.held.length) none) r.id)

/- The history of the connection against its book. -/
structure Ledger (draw : Nat → Nat) (book : CursorBook) (link : ResumeLink) : Prop where
  authorized : ∀ a ∈ link.authorized, a.1 < link.served
  once : (link.authorized.map Prod.fst).Nodup
  origin : ∀ r ∈ link.registered, ∃ query facts, link.Authorized r.request query facts ∧
    r.snapshot = storedSnapshot query facts
  ids : (link.registered.map Registered.id).Nodup
  requests : (link.registered.map Registered.request).Nodup
  served : ∀ r ∈ link.registered, r.request < link.served
  drawn : ∀ r ∈ link.registered, ∃ n < book.drawn, r.id = draw n
  snapshots : ∀ row ∈ book.snapshots, ∃ r ∈ link.registered, r.id = row.1 ∧ r.snapshot = row.2
  cursors : ∀ c ∈ book.issued, ∃ r ∈ link.registered, ∃ n, r.At c.2 n

structure LinkSound (cfg : ResumeConfig) (book : CursorBook) (link : ResumeLink) : Prop where
  ledger : Ledger cfg.ids.uuid book link
  count : link.pages.length + link.task.toList.length = link.served
  taken : link.served ≤ link.asked.length
  paired : book.current → ∀ row ∈ book.snapshots, (∀ task ∈ link.task, task.owns ≠ some row.1) →
    ∃! c, c ∈ book.live ∧ c.2.state.snapshotId = row.1
  task : ∀ task ∈ link.task, TaskSound cfg.pageSize book link link.pages.length task
  pages : ∀ k page, link.pages[k]? = some page → page.envelope.protocolVersion = .v1 ∧
    ∃ request, link.asked[k]? = some request ∧ AnswerSound cfg.pageSize book link k request page.body

/- What a book is by the bookkeeping of handles. -/
structure BookSound (ids : IdSource) (book : CursorBook) : Prop where
  issued : book.live ⊆ book.issued
  functional : ∀ c ∈ book.issued, ∀ c' ∈ book.issued, c.1 = c'.1 → c = c'
  named : ∀ c ∈ book.issued, ∃ n < book.drawn, ∃ kind, c.1 = ids.handle n kind

theorem bookSound {ids s i store}
    (handles : Handles ids s) (found : s.stores[i]? = some store) : BookSound ids (s.book i store) where
  issued := by
    intro c live
    obtain ⟨_,m,minted,facts⟩ := handles.live i store found _ live
    exact ⟨m,minted,facts⟩
  functional := by
    intro c left c' right same
    obtain ⟨m,minted,_,named,bound⟩ := left
    obtain ⟨m',minted',_,named',bound'⟩ := right
    have unique : m = m' := List.inj_on_of_nodup_map handles.distinct minted minted'
      (named.trans (same.trans named'.symm))
    rw [unique,bound'] at bound
    exact Prod.ext same (Binding.resumeCursor.inj bound).symm
  named := by
    intro c issued
    obtain ⟨m,minted,_,named,_⟩ := issued
    obtain ⟨n,kind,before,same⟩ := handles.drawn m minted
    exact ⟨n,before,kind,named ▸ same⟩

/- A later moment of the same connection. -/
structure Grows (book : CursorBook) (link : ResumeLink) (book' : CursorBook) (link' : ResumeLink) : Prop where
  asked : link.asked <+: link'.asked
  pages : link.pages.length ≤ link'.pages.length
  authorized : ∀ a ∈ link.authorized, a ∈ link'.authorized
  registered : ∀ r ∈ link.registered, r ∈ link'.registered
  requests : ∀ r ∈ link'.registered, r ∈ link.registered ∨ link.pages.length ≤ r.request
  issued : book.issued ⊆ book'.issued
  dead : ∀ r ∈ link.registered, Dead book link r.id → Dead book' link' r.id

namespace Grows
variable {book book' : CursorBook} {link link' : ResumeLink} {k : Nat}

theorem request (grows : Grows book link book' link') {request}
    (asked : link.asked[k]? = some request) : link'.asked[k]? = some request := by
  obtain ⟨more,same⟩ := grows.asked
  obtain ⟨inside,_⟩ := List.getElem?_eq_some_iff.mp asked
  rw [← same,List.getElem?_append_left inside,asked]

theorem authorizes (grows : Grows book link book' link') {query facts}
    (authorized : link.Authorized k query facts) : link'.Authorized k query facts := by
  obtain ⟨asked,server,locked,mem,read⟩ := authorized
  exact ⟨grows.request asked,server,locked,grows.authorized _ mem,read⟩

theorem releases (grows : Grows book link book' link') (released : Released book link k) :
    Released book' link' k := by
  refine ⟨Nat.lt_of_lt_of_le released.1 grows.pages,fun r mem same => ?_⟩
  rcases grows.requests r mem with old | later
  · exact grows.dead r old (released.2 r old same)
  · have := released.1
    omega

theorem answers (grows : Grows book link book' link') {pageSize request page}
    (sound : AnswerSound pageSize book link k request page) :
    AnswerSound pageSize book' link' k request page := by
  cases sound with
  | denied released => exact .denied (grows.releases released)
  | whole authorized fits released => exact .whole (grows.authorizes authorized) fits (grows.releases released)
  | first authorized registered request snapshot issued stands =>
    exact .first (grows.authorizes authorized) (grows.registered _ registered) request snapshot (grows.issued issued)
      stands
  | refused => exact .refused
  | middle registered issued stands issued' stands' =>
    exact .middle (grows.registered _ registered) (grows.issued issued) stands (grows.issued issued') stands'
  | last registered issued stands ends released =>
    exact .last (grows.registered _ registered) (grows.issued issued) stands ends (grows.releases released)

end Grows

inductive Progressed (link : ResumeLink) : Progress → ResumeLink → Prop where
  | working {task : ResumeTask} : Progressed link (.working task) { link with task := some task }
  | replying {m : Message ResumeDiscoveryPageBody} {closed : Bool} (version : m.envelope.protocolVersion = .v1) :
    Progressed link (.replying m.body) { link with task := none, pages := link.pages ++ [m], closed := closed }

section Links
variable {cfg : ResumeConfig} {book book' : CursorBook} {link link' : ResumeLink} {k : Nat}

theorem ledgerKept {draw} (ledger : Ledger draw book link) (asked : link.asked <+: link'.asked)
    (authorized : link'.authorized = link.authorized) (registered : link'.registered = link.registered)
    (served : link.served ≤ link'.served) (drawn : book.drawn ≤ book'.drawn)
    (snapshots : book'.snapshots ⊆ book.snapshots)
    (cursors : ∀ c ∈ book'.issued, c ∈ book.issued ∨ ∃ r ∈ link.registered, ∃ n, r.At c.2 n) :
    Ledger draw book' link' where
  authorized a mem := Nat.lt_of_lt_of_le (ledger.authorized a (authorized ▸ mem)) served
  once := authorized ▸ ledger.once
  origin r mem := by
    obtain ⟨query,facts,⟨at_,server,locked,decided,read⟩,same⟩ := ledger.origin r (registered ▸ mem)
    obtain ⟨more,extended⟩ := asked
    obtain ⟨inside,_⟩ := List.getElem?_eq_some_iff.mp at_
    refine ⟨query,facts,⟨?_,server,locked,authorized ▸ decided,read⟩,same⟩
    rw [← extended,List.getElem?_append_left inside,at_]
  ids := registered ▸ ledger.ids
  requests := registered ▸ ledger.requests
  served r mem := Nat.lt_of_lt_of_le (ledger.served r (registered ▸ mem)) served
  drawn r mem := by
    obtain ⟨n,before,same⟩ := ledger.drawn r (registered ▸ mem)
    exact ⟨n,Nat.lt_of_lt_of_le before drawn,same⟩
  snapshots row mem := by
    rw [registered]
    exact ledger.snapshots row (snapshots mem)
  cursors c mem := by
    rw [registered]
    exact (cursors c mem).elim (ledger.cursors c) id

theorem soundNext (old : LinkSound cfg book link) (grows : Grows book link book' link')
    (ledger : Ledger cfg.ids.uuid book' link') (count : link'.pages.length + link'.task.toList.length = link'.served)
    (taken : link'.served ≤ link'.asked.length)
    (paired : book'.current → ∀ row ∈ book'.snapshots, (∀ task ∈ link'.task, task.owns ≠ some row.1) →
      ∃! c, c ∈ book'.live ∧ c.2.state.snapshotId = row.1)
    (task : ∀ task ∈ link'.task, TaskSound cfg.pageSize book' link' link'.pages.length task)
    (pages : link'.pages = link.pages ∨ ∃ m request, link'.pages = link.pages ++ [m] ∧
      m.envelope.protocolVersion = .v1 ∧ link'.asked[link.pages.length]? = some request ∧
      AnswerSound cfg.pageSize book' link' link.pages.length request m.body) : LinkSound cfg book' link' := by
  refine ⟨ledger,count,taken,paired,task,fun k page at_ => ?_⟩
  have kept : ∀ page, link.pages[k]? = some page → page.envelope.protocolVersion = .v1 ∧
      ∃ request, link'.asked[k]? = some request ∧ AnswerSound cfg.pageSize book' link' k request page.body := by
    intro page at_
    obtain ⟨version,request,asked,sound⟩ := old.pages k page at_
    exact ⟨version,request,grows.request asked,grows.answers sound⟩
  rcases pages with same | ⟨m,request,more,version,asked,sound⟩
  · exact kept page (same ▸ at_)
  · rw [more] at at_
    rcases Nat.lt_trichotomy k link.pages.length with before | rfl | beyond
    · rw [List.getElem?_append_left before] at at_
      exact kept page at_
    · rw [List.getElem?_concat_length] at at_
      cases at_
      exact ⟨version,request,asked,sound⟩
    · rw [List.getElem?_append_right (by omega)] at at_
      obtain ⟨inside,_⟩ := List.getElem?_eq_some_iff.mp at_
      simp only [List.length_singleton] at inside
      omega

theorem freshId {draw} (ledger : Ledger draw book link) (distinct : Function.Injective draw) {id n}
    (low : book.drawn ≤ n) (same : id = draw n) : ∀ r ∈ link.registered, r.id ≠ id := by
  intro r mem equal
  obtain ⟨m,before,drawn⟩ := ledger.drawn r mem
  have := distinct (drawn.symm.trans (equal.trans same))
  omega

theorem sameRegistered {draw} (ledger : Ledger draw book link) {r r'}
    (left : r ∈ link.registered) (right : r' ∈ link.registered) (same : r.id = r'.id) : r = r' :=
  List.inj_on_of_nodup_map ledger.ids left right same

theorem sameRequest {draw} (ledger : Ledger draw book link) {r r'}
    (left : r ∈ link.registered) (right : r' ∈ link.registered) (same : r.request = r'.request) : r = r' :=
  List.inj_on_of_nodup_map ledger.requests left right same

-- The request at work is the one after those answered.
theorem atWork (old : LinkSound cfg book link) {task} (busy : link.task = some task) :
    link.pages.length + 1 = link.served ∧ TaskSound cfg.pageSize book link link.pages.length task := by
  have count := old.count
  rw [busy] at count
  exact ⟨count,old.task task busy⟩

theorem ledgerRegistered {draw} (ledger : Ledger draw book link) (distinct : Function.Injective draw)
    {query facts n}
    (authorized : link.Authorized k query facts) (unregistered : ∀ r ∈ link.registered, r.request ≠ k)
    (earlier : k < link.served) (low : book.drawn ≤ n) (high : n < book'.drawn)
    (snapshots : book'.snapshots = insert (draw n,storedSnapshot query facts) book.snapshots)
    (issued : book'.issued = book.issued) (asked : link'.asked = link.asked) (served : link'.served = link.served)
    (decided : link'.authorized = link.authorized)
    (registered : link'.registered = link.registered ++ [⟨k,draw n,storedSnapshot query facts⟩]) :
    Ledger draw book' link' := by
  have fresh := freshId ledger distinct low rfl
  have kept : ∀ {k query facts}, link.Authorized k query facts → link'.Authorized k query facts := by
    intro k query facts authorized
    simpa only [ResumeLink.Authorized,asked,decided] using authorized
  have split : ∀ r ∈ link'.registered, r ∈ link.registered ∨ r = ⟨k,draw n,storedSnapshot query facts⟩ := by
    intro r mem
    simpa [registered] using mem
  have old : ∀ r ∈ link.registered, r ∈ link'.registered := by
    intro r mem
    simp [registered,mem]
  refine ⟨by rw [decided,served]; exact ledger.authorized,decided ▸ ledger.once,fun r mem => ?_,?_,?_,fun r mem => ?_,
    fun r mem => ?_,fun row filed => ?_,fun c mem => ?_⟩
  · rcases split r mem with earlier | rfl
    · obtain ⟨query,facts,authorized,same⟩ := ledger.origin r earlier
      exact ⟨query,facts,kept authorized,same⟩
    · exact ⟨query,facts,kept authorized,rfl⟩
  · rw [registered,List.map_append,List.nodup_append]
    refine ⟨ledger.ids,List.nodup_singleton _,fun a left b right same => ?_⟩
    obtain ⟨r,mem,rfl⟩ := List.mem_map.mp left
    exact fresh r mem (same.trans (List.mem_singleton.mp right))
  · rw [registered,List.map_append,List.nodup_append]
    refine ⟨ledger.requests,List.nodup_singleton _,fun a left b right same => ?_⟩
    obtain ⟨r,mem,rfl⟩ := List.mem_map.mp left
    exact unregistered r mem (same.trans (List.mem_singleton.mp right))
  · rw [served]
    rcases split r mem with earlier | rfl
    · exact ledger.served r earlier
    · exact earlier
  · rcases split r mem with earlier | rfl
    · obtain ⟨m,before,same⟩ := ledger.drawn r earlier
      exact ⟨m,by omega,same⟩
    · exact ⟨n,high,rfl⟩
  · rw [snapshots] at filed
    rcases filed with rfl | earlier
    · exact ⟨_,by rw [registered]; exact List.mem_append_right _ (List.mem_singleton.mpr rfl),rfl,rfl⟩
    · obtain ⟨r,mem,facts⟩ := ledger.snapshots row earlier
      exact ⟨r,old r mem,facts⟩
  · obtain ⟨r,present,stands⟩ := ledger.cursors c (issued ▸ mem)
    exact ⟨r,old r present,stands⟩

theorem registerSound (old : LinkSound cfg book link) (distinct : Function.Injective cfg.ids.uuid)
    {query facts n drawn'}
    (busy : link.task = some (.registering query facts)) (low : book.drawn ≤ n) (high : n < drawn') :
    let book' : CursorBook := { book with
      drawn := drawn', snapshots := insert (cfg.ids.uuid n,storedSnapshot query facts) book.snapshots }
    let link' : ResumeLink := { link with
      registered := link.registered ++ [⟨link.served - 1,cfg.ids.uuid n,storedSnapshot query facts⟩]
      task := some (.minting query facts (cfg.ids.uuid n)) }
    LinkSound cfg book' link' ∧ Grows book link book' link' := by
  intro book' link'
  obtain ⟨count,sound⟩ := atWork old busy
  have number : link.served - 1 = link.pages.length := by omega
  have fresh := freshId old.ledger distinct low rfl
  cases sound with
  | registering authorized more unregistered =>
    have grows : Grows book link book' link' := by
      refine ⟨List.prefix_rfl,le_rfl,fun _ mem => mem,fun _ mem => List.mem_append_left _ mem,fun r mem => ?_,
        fun _ mem => mem,fun r mem dead current => ?_⟩
      · rcases List.mem_append.mp mem with earlier | new
        · exact .inl earlier
        · cases List.mem_singleton.mp new
          exact .inr number.ge
      · obtain ⟨snapshots,live,_⟩ := dead current
        refine ⟨fun snapshot filed => ?_,live,fun task working => ?_⟩
        · rcases filed with same | earlier
          · exact fresh r mem (Prod.ext_iff.mp same).1
          · exact snapshots snapshot earlier
        · cases Option.some.inj working
          exact fun same => fresh r mem (Option.some.inj same).symm
    have ledger : Ledger cfg.ids.uuid book' link' := ledgerRegistered old.ledger distinct authorized unregistered
      (by omega) low high rfl rfl rfl rfl rfl (by simp only [link',number])
    refine ⟨soundNext old grows ledger count old.taken (fun current row filed free => ?_) (fun task working => ?_)
      (.inl rfl),grows⟩
    · rcases filed with same | earlier
      · subst same
        exact absurd rfl (free _ rfl)
      · refine old.paired current row earlier fun task working => ?_
        rw [busy] at working
        cases Option.some.inj working
        simp [ResumeTask.owns]
    · cases Option.some.inj working
      refine .minting (grows.authorizes authorized) more ?_ fun c issued => ?_
      · exact List.mem_append_right _ (List.mem_singleton.mpr (by rw [number]))
      · obtain ⟨r,mem,m,stands⟩ := old.ledger.cursors c issued
        exact stands.snapshot ▸ fresh r mem

theorem replySound (old : LinkSound cfg book link) {task} (busy : link.task = some task)
    (owns : task.owns = none) {request m closed drawn'}
    (advances : book.drawn ≤ drawn') (version : m.envelope.protocolVersion = .v1)
    (asked : link.asked[link.pages.length]? = some request)
    (sound : ∀ book' link', Grows book link book' link' → link'.registered = link.registered →
      link.pages.length < link'.pages.length → AnswerSound cfg.pageSize book' link' link.pages.length request m.body) :
    let book' : CursorBook := { book with drawn := drawn' }
    let link' : ResumeLink := { link with task := none, pages := link.pages ++ [m], closed := closed }
    LinkSound cfg book' link' ∧ Grows book link book' link' := by
  intro book' link'
  obtain ⟨count,_⟩ := atWork old busy
  have longer : link.pages.length < link'.pages.length := by simp [link']
  have grows : Grows book link book' link' := by
    refine ⟨List.prefix_rfl,longer.le,fun _ mem => mem,fun _ mem => mem,fun r mem => .inl mem,fun _ mem => mem,
      fun r mem dead current => ?_⟩
    obtain ⟨snapshots,live,_⟩ := dead current
    exact ⟨snapshots,live,by simp [link']⟩
  have ledger : Ledger cfg.ids.uuid book' link' := ledgerKept old.ledger List.prefix_rfl rfl rfl le_rfl advances
    (fun _ mem => mem) fun c mem => .inl mem
  refine ⟨soundNext old grows ledger (by simpa [link'] using count) old.taken (fun current row filed _ => ?_)
    (by simp [link']) (.inr ⟨m,request,rfl,version,asked,sound book' link' grows rfl longer⟩),grows⟩
  refine old.paired current row filed fun other working => ?_
  rw [busy] at working
  cases Option.some.inj working
  rw [owns]
  simp

theorem workSound (old : LinkSound cfg book link) {task} (next : ResumeTask)
    (busy : link.task = some task) (owns : task.owns = none ∨ task.owns = next.owns) {drawn'} (advances : book.drawn ≤ drawn')
    (about : book.current → ∀ id ∈ next.snapshotId, task.snapshotId = some id ∨
      ∃ c ∈ book.live, c.2.state.snapshotId = id)
    (sound : TaskSound cfg.pageSize { book with drawn := drawn' } { link with task := some next } link.pages.length
      next) :
    let book' : CursorBook := { book with drawn := drawn' }
    let link' : ResumeLink := { link with task := some next }
    LinkSound cfg book' link' ∧ Grows book link book' link' := by
  intro book' link'
  obtain ⟨count,_⟩ := atWork old busy
  have grows : Grows book link book' link' := by
    refine ⟨List.prefix_rfl,le_rfl,fun _ mem => mem,fun _ mem => mem,fun r mem => .inl mem,fun _ mem => mem,
      fun r mem dead current => ?_⟩
    obtain ⟨snapshots,live,idle⟩ := dead current
    refine ⟨snapshots,live,fun other working same => ?_⟩
    cases Option.some.inj working
    rcases about current r.id same with earlier | ⟨c,present,refers⟩
    · exact idle task busy earlier
    · exact live c present refers
  have ledger : Ledger cfg.ids.uuid book' link' := ledgerKept old.ledger List.prefix_rfl rfl rfl le_rfl advances
    (fun _ mem => mem) fun c mem => .inl mem
  refine ⟨soundNext old grows ledger count old.taken (fun current row filed free => ?_) (fun other working => ?_)
    (.inl rfl),grows⟩
  · refine old.paired current row filed fun other working => ?_
    rw [busy] at working
    cases Option.some.inj working
    rcases owns with none | same
    · rw [none]
      simp
    · exact same ▸ free next rfl
  · cases Option.some.inj working
    exact sound

theorem mintSound (old : LinkSound cfg book link) (handles : BookSound cfg.ids book) (positive : 0 < cfg.pageSize)
    {query facts id n drawn' kind m closed} (busy : link.task = some (.minting query facts id))
    (low : book.drawn ≤ n) (high : n < drawn') (version : m.envelope.protocolVersion = .v1)
    (body : m.body = firstPageOf query facts (slice (heldEntries facts) 0 (min cfg.pageSize (heldEntries facts).length))
      (some (cfg.ids.handle n kind))) :
    let b : ResumeCursorBinding := ⟨⟨query.body.transferId⟩,query.body.proofId,
      ⟨id,nextChunkIndex (heldEntries facts) (min cfg.pageSize (heldEntries facts).length)⟩⟩
    let book' : CursorBook := { book with
      drawn := drawn'
      issued := insert (cfg.ids.handle n kind,b) book.issued
      live := insert (cfg.ids.handle n kind,b) book.live }
    let link' : ResumeLink := { link with task := none, pages := link.pages ++ [m], closed := closed }
    LinkSound cfg book' link' ∧ Grows book link book' link' := by
  intro b book' link'
  obtain ⟨count,sound⟩ := atWork old busy
  cases sound with
  | minting authorized more registered unissued =>
    have unreferenced : ∀ c ∈ book.live, c.2.state.snapshotId ≠ id := fun c live => unissued c (handles.issued live)
    have stop : min cfg.pageSize (heldEntries facts).length = cfg.pageSize := Nat.min_eq_left more.le
    have stands : Registered.At ⟨link.pages.length,id,storedSnapshot query facts⟩ b cfg.pageSize :=
      ⟨rfl,rfl,positive,more,by simp only [b,stop,storedSnapshot]⟩
    have longer : link.pages.length < link'.pages.length := by simp [link']
    have grows : Grows book link book' link' := by
      refine ⟨List.prefix_rfl,longer.le,fun _ mem => mem,fun _ mem => mem,fun r mem => .inl mem,
        fun _ mem => .inr mem,fun r mem dead current => ?_⟩
      obtain ⟨snapshots,live,idle⟩ := dead current
      refine ⟨snapshots,fun c mem => ?_,by simp [link']⟩
      rcases mem with rfl | earlier
      · exact fun same => idle _ busy (congrArg some same)
      · exact live c earlier
    have ledger : Ledger cfg.ids.uuid book' link' := by
      refine ledgerKept old.ledger List.prefix_rfl rfl rfl le_rfl (by simp only [book']; omega) (fun _ mem => mem)
        fun c mem => ?_
      rcases mem with rfl | earlier
      · exact .inr ⟨_,registered,_,stands⟩
      · exact .inl earlier
    have answer : AnswerSound cfg.pageSize book' link' link.pages.length (.query query) m.body := by
      rw [body,stop]
      exact .first (grows.authorizes authorized) registered rfl rfl (.inl rfl) stands
    refine ⟨soundNext old grows ledger (by simpa [link'] using count) old.taken (fun current row filed _ => ?_)
      (by simp [link']) (.inr ⟨m,_,rfl,version,authorized.1,answer⟩),grows⟩
    by_cases here : row.1 = id
    · refine ⟨(cfg.ids.handle n kind,b),⟨.inl rfl,here.symm⟩,fun c referring => ?_⟩
      rcases referring.1 with same | earlier
      · exact same
      · exact absurd (referring.2.trans here) (unreferenced c earlier)
    · obtain ⟨c,⟨live,refers⟩,unique⟩ := old.paired current row filed fun task working => by
        rw [busy] at working
        cases Option.some.inj working
        exact fun same => here (Option.some.inj same).symm
      refine ⟨c,⟨.inr live,refers⟩,fun c' referring => ?_⟩
      rcases referring.1 with rfl | earlier
      · exact absurd referring.2.symm here
      · exact unique c' ⟨earlier,referring.2⟩

/- Where a live cursor stands, by the point its next index partitions the snapshot at. -/
theorem liveStands (old : LinkSound cfg book link) (handles : BookSound cfg.ids book) {cursor b snapshot}
    (live : (cursor,b) ∈ book.live)
    (held : (b.state.snapshotId,snapshot) ∈ book.snapshots) :
    ∃ r ∈ link.registered, r.snapshot = snapshot ∧ (cursor,b) ∈ book.issued ∧ ∃ n, r.At b n ∧
      ResumeTask.bounds cfg.pageSize b snapshot = (n,min (n + cfg.pageSize) snapshot.held.length) := by
  have issued := handles.issued live
  obtain ⟨r,mem,n,stands⟩ := old.ledger.cursors _ issued
  obtain ⟨r',mem',named,same⟩ := old.ledger.snapshots _ held
  have one := sameRegistered old.ledger mem' mem (named.trans stands.snapshot)
  subst one
  obtain ⟨query,facts,⟨_,server,locked,_,_,read⟩,stored⟩ := old.ledger.origin r' mem'
  have ascending : (r'.snapshot.held.map HeldChunkEntry.chunkIndex).Pairwise (· < ·) := by
    have listed := read.ascending
    simpa [stored,storedSnapshot,heldEntries,Function.comp_def] using listed
  have at_ : r'.At b n := stands
  refine ⟨r',mem',same,issued,n,at_,?_⟩
  have point := partitionPointNext ascending at_.positive at_.within
  have same : r'.snapshot = snapshot := same
  simp only [ResumeTask.bounds,at_.next,← same,point]

theorem onlyCursor (old : LinkSound cfg book link) {next b snapshot}
    (busy : link.task = some (.advancing next b snapshot))
    (current : book.current) (live : (next.body.resumeCursor,b) ∈ book.live)
    (held : (b.state.snapshotId,snapshot) ∈ book.snapshots) {c} (other : c ∈ book.live)
    (refers : c.2.state.snapshotId = b.state.snapshotId) : c = (next.body.resumeCursor,b) := by
  obtain ⟨c',_,unique⟩ := old.paired current _ held fun task working => by
    rw [busy] at working
    cases Option.some.inj working
    simp [ResumeTask.owns]
  rw [unique c ⟨other,refers⟩,unique _ ⟨live,rfl⟩]

theorem pairedElsewhere (old : LinkSound cfg book link) (handles : BookSound cfg.ids book)
    {next b snapshot}
    (busy : link.task = some (.advancing next b snapshot)) (current : book.current)
    (live : (next.body.resumeCursor,b) ∈ book.live) {row} (filed : row ∈ book.snapshots)
    (elsewhere : row.1 ≠ b.state.snapshotId) :
    ∃! c, (c ∈ book.live ∧ c.1 ≠ next.body.resumeCursor) ∧ c.2.state.snapshotId = row.1 := by
  obtain ⟨c,⟨present,refers⟩,unique⟩ := old.paired current row filed fun task working => by
    rw [busy] at working
    cases Option.some.inj working
    simp [ResumeTask.owns]
  refine ⟨c,⟨⟨present,fun same => ?_⟩,refers⟩,fun c' referring => unique c' ⟨referring.1.1,referring.2⟩⟩
  have one := handles.functional c (handles.issued present) _ (handles.issued live) same
  subst one
  exact elsewhere refers.symm

theorem advanceSound (old : LinkSound cfg book link) (handles : BookSound cfg.ids book) (positive : 0 < cfg.pageSize)
    {next b snapshot n drawn' kind m closed}
    (busy : link.task = some (.advancing next b snapshot)) (current : book.current) (low : book.drawn ≤ n)
    (high : n < drawn') (version : m.envelope.protocolVersion = .v1)
    (more : (ResumeTask.bounds cfg.pageSize b snapshot).2 < snapshot.held.length)
    (body : m.body = .continuationPage next.envelope.messageId (slice snapshot.held
      (ResumeTask.bounds cfg.pageSize b snapshot).1 (ResumeTask.bounds cfg.pageSize b snapshot).2)
      (some (cfg.ids.handle n kind))) :
    let b' : ResumeCursorBinding := ⟨b.transferId,b.proofId,
      ⟨b.state.snapshotId,nextChunkIndex snapshot.held (ResumeTask.bounds cfg.pageSize b snapshot).2⟩⟩
    let book' : CursorBook := { book with
      drawn := drawn'
      issued := insert (cfg.ids.handle n kind,b') book.issued
      live := insert (cfg.ids.handle n kind,b') {c ∈ book.live | c.1 ≠ next.body.resumeCursor} }
    let link' : ResumeLink := { link with task := none, pages := link.pages ++ [m], closed := closed }
    LinkSound cfg book' link' ∧ Grows book link book' link' := by
  intro b' book' link'
  obtain ⟨count,sound⟩ := atWork old busy
  cases sound with
  | advancing asked live held =>
    obtain ⟨r,mem,same,issued,start,stands,point⟩ := liveStands old handles live held
    have stop : (ResumeTask.bounds cfg.pageSize b snapshot).2 = start + cfg.pageSize := by
      rw [point] at more ⊢
      simp only at more ⊢
      omega
    have stands' : r.At b' (start + cfg.pageSize) :=
      ⟨stands.snapshot,stands.transfer,by omega,by rw [same,← stop]; exact more,by simp only [b',same,stop]⟩
    have longer : link.pages.length < link'.pages.length := by simp [link']
    have grows : Grows book link book' link' := by
      refine ⟨List.prefix_rfl,longer.le,fun _ mem => mem,fun _ mem => mem,fun r mem => .inl mem,
        fun _ mem => .inr mem,fun r' _ dead current => ?_⟩
      obtain ⟨snapshots,free,idle⟩ := dead current
      refine ⟨snapshots,fun c mem => ?_,by simp [link']⟩
      rcases mem with rfl | earlier
      · exact fun same => idle _ busy (congrArg some same)
      · exact free c earlier.1
    have ledger : Ledger cfg.ids.uuid book' link' := by
      refine ledgerKept old.ledger List.prefix_rfl rfl rfl le_rfl (by simp only [book']; omega) (fun _ mem => mem)
        fun c present => ?_
      rcases present with rfl | earlier
      · exact .inr ⟨r,mem,_,stands'⟩
      · exact .inl earlier
    have answer : AnswerSound cfg.pageSize book' link' link.pages.length (.next next) m.body := by
      rw [body,stop,show (ResumeTask.bounds cfg.pageSize b snapshot).1 = start by rw [point],← same]
      exact .middle mem (.inr issued) stands (.inl rfl) stands'
    refine ⟨soundNext old grows ledger (by simpa [link'] using count) old.taken (fun _ row filed _ => ?_)
      (by simp [link']) (.inr ⟨m,_,rfl,version,asked,answer⟩),grows⟩
    by_cases here : row.1 = b.state.snapshotId
    · refine ⟨(cfg.ids.handle n kind,b'),⟨.inl rfl,here.symm⟩,fun c referring => ?_⟩
      rcases referring.1 with new | earlier
      · exact new
      · have one := onlyCursor old busy current live held earlier.1 (referring.2.trans here)
        exact absurd (congrArg Prod.fst one) earlier.2
    · obtain ⟨c,⟨present,refers⟩,unique⟩ := pairedElsewhere old handles busy current live filed here
      refine ⟨c,⟨.inr present,refers⟩,fun c' referring => ?_⟩
      rcases referring.1 with rfl | earlier
      · exact absurd referring.2.symm here
      · exact unique c' ⟨earlier,referring.2⟩

theorem exhaustSound (old : LinkSound cfg book link) (handles : BookSound cfg.ids book)
    {next b snapshot}
    (busy : link.task = some (.advancing next b snapshot)) (current : book.current)
    (end_ : ¬(ResumeTask.bounds cfg.pageSize b snapshot).2 < snapshot.held.length) :
    let book' : CursorBook := { book with live := {c ∈ book.live | c.1 ≠ next.body.resumeCursor} }
    let link' : ResumeLink := { link with task := some (.releasing (.continuationPage next.envelope.messageId
      (slice snapshot.held (ResumeTask.bounds cfg.pageSize b snapshot).1 (ResumeTask.bounds cfg.pageSize b snapshot).2)
      none) b.state.snapshotId) }
    LinkSound cfg book' link' ∧ Grows book link book' link' := by
  intro book' link'
  obtain ⟨count,sound⟩ := atWork old busy
  cases sound with
  | advancing asked live held =>
    obtain ⟨r,mem,same,issued,start,stands,point⟩ := liveStands old handles live held
    have ends : (ResumeTask.bounds cfg.pageSize b snapshot).2 = r.snapshot.held.length ∧
        r.snapshot.held.length ≤ start + cfg.pageSize := by
      rw [point] at end_ ⊢
      rw [same]
      simp only at end_ ⊢
      omega
    have unreferenced : ∀ c ∈ book'.live, c.2.state.snapshotId ≠ r.id := by
      intro c present refers
      have one := onlyCursor old busy current live held present.1 (refers.trans stands.snapshot.symm)
      exact present.2 (congrArg Prod.fst one)
    have grows : Grows book link book' link' := by
      refine ⟨List.prefix_rfl,le_rfl,fun _ mem => mem,fun _ mem => mem,fun r mem => .inl mem,fun _ mem => mem,
        fun r' _ dead current => ?_⟩
      obtain ⟨snapshots,free,idle⟩ := dead current
      refine ⟨snapshots,fun c mem => free c mem.1,fun task working same => ?_⟩
      cases Option.some.inj working
      exact idle _ busy same
    have ledger : Ledger cfg.ids.uuid book' link' := ledgerKept old.ledger List.prefix_rfl rfl rfl le_rfl le_rfl
      (fun _ mem => mem) fun c mem => .inl mem
    refine ⟨soundNext old grows ledger count old.taken (fun _ row filed free => ?_) (fun task working => ?_)
      (.inl rfl),grows⟩
    · refine pairedElsewhere old handles busy current live filed fun here => ?_
      exact free _ rfl (congrArg some here.symm)
    · cases Option.some.inj working
      rw [ends.1,show (ResumeTask.bounds cfg.pageSize b snapshot).1 = start by rw [point],← same,stands.snapshot]
      exact .finishing asked mem issued stands ends.2 fun _ => unreferenced

theorem releaseSound (old : LinkSound cfg book link) {id m closed}
    (busy : link.task = some (.releasing m.body id)) (version : m.envelope.protocolVersion = .v1)
    {snapshots} (kept : snapshots ⊆ book.snapshots)
    (dropped : book.current → snapshots = {row ∈ book.snapshots | row.1 ≠ id}) :
    let book' : CursorBook := { book with snapshots := snapshots }
    let link' : ResumeLink := { link with task := none, pages := link.pages ++ [m], closed := closed }
    LinkSound cfg book' link' ∧ Grows book link book' link' := by
  intro book' link'
  obtain ⟨count,sound⟩ := atWork old busy
  have longer : link.pages.length < link'.pages.length := by simp [link']
  have grows : Grows book link book' link' := by
    refine ⟨List.prefix_rfl,longer.le,fun _ mem => mem,fun _ mem => mem,fun r mem => .inl mem,fun _ mem => mem,
      fun r _ dead current => ?_⟩
    obtain ⟨none,free,_⟩ := dead current
    exact ⟨fun snapshot filed => none snapshot (kept filed),free,by simp [link']⟩
  have ledger : Ledger cfg.ids.uuid book' link' := ledgerKept old.ledger List.prefix_rfl rfl rfl le_rfl le_rfl kept
    fun c mem => .inl mem
  have gone : (book.current → ∀ c ∈ book.live, c.2.state.snapshotId ≠ id) → Dead book' link' id := by
    intro unreferenced current
    refine ⟨fun snapshot filed => ?_,unreferenced current,by simp [link']⟩
    rw [show book'.snapshots = _ from dropped current] at filed
    exact filed.2 rfl
  have released : ∀ r ∈ link.registered, r.id = id → (book.current → ∀ c ∈ book.live, c.2.state.snapshotId ≠ id) →
      Released book' link' r.request := by
    intro r mem same unreferenced
    refine ⟨?_,fun r' mem' request => ?_⟩
    · have := old.ledger.served r mem
      simp only [link',List.length_append,List.length_singleton]
      omega
    · rw [sameRequest old.ledger mem' mem request,same]
      exact gone unreferenced
  have answer : ∃ request, link.asked[link.pages.length]? = some request ∧
      AnswerSound cfg.pageSize book' link' link.pages.length request m.body := by
    generalize m.body = page at sound busy
    cases sound with
    | @withdrawing query r asked registered request unreferenced =>
      exact ⟨_,asked,.denied (request ▸ released r registered rfl unreferenced)⟩
    | abandoning asked => exact ⟨_,asked,.refused⟩
    | @finishing next r b n asked registered issued stands ends unreferenced =>
      exact ⟨_,asked,.last registered issued stands ends (released r registered rfl unreferenced)⟩
  obtain ⟨request,asked,answer⟩ := answer
  refine ⟨soundNext old grows ledger (by simpa [link'] using count) old.taken (fun current row filed _ => ?_)
    (by simp [link']) (.inr ⟨m,request,rfl,version,asked,answer⟩),grows⟩
  refine old.paired current row (kept filed) fun task working => ?_
  rw [busy] at working
  cases Option.some.inj working
  rw [show book'.snapshots = _ from dropped current] at filed
  exact fun same => filed.2 (Option.some.inj same).symm

theorem progressedWork {task} (progressed : Progressed link (.working task) link') :
    link' = { link with task := some task } := by
  cases progressed
  rfl

theorem progressedReply {page} (progressed : Progressed link (.replying page) link') :
    ∃ (m : Message ResumeDiscoveryPageBody) (closed : Bool), m.body = page ∧ m.envelope.protocolVersion = .v1 ∧
      link' = { link with task := none, pages := link.pages ++ [m], closed := closed } := by
  cases progressed with
  | @replying m closed version => exact ⟨m,closed,rfl,version,rfl⟩

theorem registeringSound (old : LinkSound cfg book link) (distinct : Function.Injective cfg.ids.uuid)
    {query facts}
    (busy : link.task = some (.registering query facts)) {answer}
    (answered : Answered cfg.ids book (.registerResumeSnapshot (storedSnapshot query facts)) answer book')
    (progressed : Progressed { link with
      registered := link.registered ++ ResumeSystem.newlyRegistered link (.registering query facts) answer }
      (ResumeTask.proceed cfg.pageSize answer (.registering query facts)) link') :
    LinkSound cfg book' link' ∧ Grows book link book' link' := by
  cases answered with
  | registered current fresh =>
    obtain ⟨n,low,high,rfl⟩ := fresh
    rw [progressedWork progressed]
    exact registerSound old distinct busy low high
  | unregistered advances =>
    simp only [ResumeSystem.newlyRegistered,List.append_nil] at progressed
    obtain ⟨m,closed,body,version,rfl⟩ := progressedReply progressed
    obtain ⟨_,sound⟩ := atWork old busy
    cases sound with
    | registering authorized more unregistered =>
      refine replySound old busy rfl advances version authorized.1 fun book' link' grows registered longer => ?_
      rw [body]
      refine .denied ⟨longer,fun r mem request => ?_⟩
      exact absurd request (unregistered r (registered ▸ mem))

theorem mintingSound (old : LinkSound cfg book link) (handles : BookSound cfg.ids book) (positive : 0 < cfg.pageSize)
    {query facts id}
    (busy : link.task = some (.minting query facts id)) {answer}
    (answered : Answered cfg.ids book (ResumeTask.call cfg.pageSize (.minting query facts id)) answer book')
    (progressed : Progressed link (ResumeTask.proceed cfg.pageSize answer (.minting query facts id)) link') :
    LinkSound cfg book' link' ∧ Grows book link book' link' := by
  cases answered with
  | minted low high fresh =>
    obtain ⟨m,closed,body,version,rfl⟩ := progressedReply progressed
    exact mintSound old handles positive busy low high version body
  | unminted advances =>
    rw [progressedWork progressed]
    obtain ⟨_,sound⟩ := atWork old busy
    cases sound with
    | minting authorized more registered unissued =>
      refine workSound old (.releasing (.denied query.envelope.messageId) id) busy (.inr rfl) advances
        (fun _ id' mem => .inl mem) ?_
      exact @TaskSound.withdrawing cfg.pageSize _ _ _ query ⟨link.pages.length,id,storedSnapshot query facts⟩
        authorized.1 registered rfl fun _ c live => unissued c (handles.issued live)

theorem refusedSound (old : LinkSound cfg book link) {task} (busy : link.task = some task)
    (owns : task.owns = none) {next}
    (asked : link.asked[link.pages.length]? = some (.next next))
    (progressed : Progressed link (.replying (.denied next.envelope.messageId)) link') :
    LinkSound cfg book link' ∧ Grows book link book link' := by
  obtain ⟨m,closed,body,version,rfl⟩ := progressedReply progressed
  refine replySound old busy owns (Nat.le_refl book.drawn) version asked fun book' link' _ _ _ => ?_
  rw [body]
  exact .refused

theorem lookingSound (old : LinkSound cfg book link) {next}
    (busy : link.task = some (.looking next)) {answer}
    (answered : Answered cfg.ids book (.resumeCursorBinding next.body.resumeCursor) answer book')
    (progressed : Progressed link (ResumeTask.proceed cfg.pageSize answer (.looking next)) link') :
    LinkSound cfg book' link' ∧ Grows book link book' link' := by
  obtain ⟨_,sound⟩ := atWork old busy
  cases sound with
  | looking asked =>
    cases answered with
    | @found _ b live =>
      rw [progressedWork progressed]
      refine workSound old _ busy (.inl rfl) (Nat.le_refl book.drawn) (fun _ id mem => ?_) (.reading asked live)
      exact .inr ⟨_,live,Option.some.inj mem⟩
    | unknown => exact refusedSound old busy rfl asked progressed

theorem readingSound (old : LinkSound cfg book link) {next b}
    (busy : link.task = some (.reading next b)) {answer}
    (answered : Answered cfg.ids book (.resumeSnapshot b.state.snapshotId) answer book')
    (progressed : Progressed link (ResumeTask.proceed cfg.pageSize answer (.reading next b)) link') :
    LinkSound cfg book' link' ∧ Grows book link book' link' := by
  obtain ⟨_,sound⟩ := atWork old busy
  cases sound with
  | reading asked live =>
    cases answered with
    | held mem =>
      rw [progressedWork progressed]
      exact workSound old _ busy (.inl rfl) (Nat.le_refl book.drawn) (fun _ id same => .inl same)
        (.advancing asked live mem)
    | notHeld => exact refusedSound old busy rfl asked progressed

theorem advancingSound (old : LinkSound cfg book link) (handles : BookSound cfg.ids book)
    (positive : 0 < cfg.pageSize) {next b snapshot}
    (busy : link.task = some (.advancing next b snapshot)) {answer}
    (answered : Answered cfg.ids book (ResumeTask.call cfg.pageSize (.advancing next b snapshot)) answer book')
    (progressed : Progressed link (ResumeTask.proceed cfg.pageSize answer (.advancing next b snapshot)) link') :
    LinkSound cfg book' link' ∧ Grows book link book' link' := by
  obtain ⟨_,sound⟩ := atWork old busy
  cases sound with
  | advancing asked live held =>
    have abandoned : ∀ {drawn'}, book.drawn ≤ drawn' →
        (book.current → ∀ b', (next.body.resumeCursor,b') ∈ book.live → b'.transferId ≠ b.transferId) →
        Progressed link (.working (.releasing (.denied next.envelope.messageId) b.state.snapshotId)) link' →
        LinkSound cfg { book with drawn := drawn' } link' ∧ Grows book link { book with drawn := drawn' } link' := by
      intro drawn' advances unable progressed
      rw [progressedWork progressed]
      have stale : ¬book.current := fun current => unable current b live rfl
      exact workSound old _ busy (.inl rfl) advances (fun _ id same => .inl same) (.abandoning asked stale)
    by_cases more : (ResumeTask.bounds cfg.pageSize b snapshot).2 < snapshot.held.length
    · simp only [ResumeTask.call,ResumeTask.proceed,if_pos more] at answered progressed
      generalize target : b.transferId = transferId at answered
      cases answered with
      | @advanced _ b' _ n drawn' kind current live' low high fresh =>
        have one := handles.functional _ (handles.issued live') _ (handles.issued live) rfl
        cases (Prod.mk.inj one).2
        obtain ⟨m,closed,body,version,rfl⟩ := progressedReply progressed
        exact advanceSound old handles positive busy current low high version more body
      | refused advances unable => exact abandoned advances (target ▸ unable) progressed
    · simp only [ResumeTask.call,ResumeTask.proceed,if_neg more] at answered progressed
      generalize target : b.transferId = transferId at answered
      cases answered with
      | exhausted current live' =>
        rw [progressedWork progressed]
        exact exhaustSound old handles busy current more
      | refused advances unable => exact abandoned advances (target ▸ unable) progressed

theorem releasingSound (old : LinkSound cfg book link) {page id}
    (busy : link.task = some (.releasing page id)) {answer}
    (answered : Answered cfg.ids book (.dropResumeSnapshot id) answer book')
    (progressed : Progressed link (.replying page) link') :
    LinkSound cfg book' link' ∧ Grows book link book' link' := by
  obtain ⟨m,closed,rfl,version,rfl⟩ := progressedReply progressed
  cases answered with
  | dropped current => exact releaseSound old busy version (fun _ mem => mem.1) fun _ => rfl
  | kept stale => exact releaseSound old busy version (fun _ mem => mem) fun current => absurd current stale

theorem taskSound (old : LinkSound cfg book link) (handles : BookSound cfg.ids book) (positive : 0 < cfg.pageSize)
    (distinct : Function.Injective cfg.ids.uuid) {task} (busy : link.task = some task)
    {answer} (answered : Answered cfg.ids book (task.call cfg.pageSize) answer book')
    (progressed : Progressed { link with
      registered := link.registered ++ ResumeSystem.newlyRegistered link task answer }
      (task.proceed cfg.pageSize answer) link') : LinkSound cfg book' link' ∧ Grows book link book' link' := by
  have only : (∀ query facts, task ≠ .registering query facts) →
      Progressed link (task.proceed cfg.pageSize answer) link' := by
    intro other
    have none : ResumeSystem.newlyRegistered link task answer = [] := by
      cases task with
      | registering query facts => exact absurd rfl (other query facts)
      | minting | looking | reading | advancing | releasing => rfl
    rwa [none,List.append_nil] at progressed
  cases task with
  | registering query facts => exact registeringSound old distinct busy answered progressed
  | minting query facts id => exact mintingSound old handles positive busy answered (only (by simp))
  | looking next => exact lookingSound old busy answered (only (by simp))
  | reading next b => exact readingSound old busy answered (only (by simp))
  | advancing next b snapshot => exact advancingSound old handles positive busy answered (only (by simp))
  | releasing page id => exact releasingSound old busy answered (only (by simp))

/- The next message is taken up: the history with the durable state it is decided on. -/
theorem ledgerTaken {draw} (ledger : Ledger draw book link) {decided}
    (only : ∀ a ∈ decided, a.1 = link.served) (single : (decided.map Prod.fst).Nodup)
    (asked : link'.asked = link.asked) (served : link'.served = link.served + 1)
    (authorized : link'.authorized = link.authorized ++ decided) (registered : link'.registered = link.registered) :
    Ledger draw book link' := by
  refine ⟨fun a mem => ?_,?_,fun r mem => ?_,registered ▸ ledger.ids,registered ▸ ledger.requests,fun r mem => ?_,
    registered ▸ ledger.drawn,registered ▸ ledger.snapshots,registered ▸ ledger.cursors⟩
  · rw [served]
    rw [authorized] at mem
    rcases List.mem_append.mp mem with old | new
    · exact Nat.lt_succ_of_lt (ledger.authorized a old)
    · exact Nat.lt_succ_of_le (only a new).le
  · rw [authorized,List.map_append,List.nodup_append]
    refine ⟨ledger.once,single,fun a left b right same => ?_⟩
    obtain ⟨x,old,rfl⟩ := List.mem_map.mp left
    obtain ⟨y,new,rfl⟩ := List.mem_map.mp right
    have := ledger.authorized x old
    have := only y new
    omega
  · obtain ⟨query,facts,⟨at_,server,locked,mem,read⟩,same⟩ := ledger.origin r (registered ▸ mem)
    exact ⟨query,facts,⟨by rw [asked]; exact at_,server,locked,by rw [authorized]; exact List.mem_append_left _ mem,
      read⟩,same⟩
  · rw [served]
    exact Nat.lt_succ_of_lt (ledger.served r (registered ▸ mem))

theorem takenSound (old : LinkSound cfg book link) (idle : link.task = none) {request}
    (asked : link.asked[link.served]? = some request) {decided}
    (only : ∀ a ∈ decided, a.1 = link.served) (single : (decided.map Prod.fst).Nodup) {progress}
    (progressed : Progressed
      { link with served := link.served + 1, authorized := link.authorized ++ decided } progress link')
    (works : ∀ task, progress = .working task → task.snapshotId = none ∧
      ∀ link', Grows book link book link' → link'.registered = link.registered →
        link'.authorized = link.authorized ++ decided → TaskSound cfg.pageSize book link' link.pages.length task)
    (replies : ∀ page, progress = .replying page → ∀ link', Grows book link book link' →
      link'.registered = link.registered → link'.authorized = link.authorized ++ decided →
        link.pages.length < link'.pages.length →
          AnswerSound cfg.pageSize book link' link.pages.length request page) :
    LinkSound cfg book link' ∧ Grows book link book link' := by
  have number : link.pages.length = link.served := by
    have := old.count
    rwa [idle] at this
  have inside := (List.getElem?_eq_some_iff.mp asked).1
  have free : ∀ task ∈ link.task, ∀ id, task.owns ≠ some id := by simp [idle]
  cases progressed with
  | @working task =>
    obtain ⟨about,sound⟩ := works task rfl
    have grows : Grows book link book { link with
        served := link.served + 1, authorized := link.authorized ++ decided, task := some task } := by
      refine ⟨List.prefix_rfl,le_rfl,fun _ mem => List.mem_append_left _ mem,fun _ mem => mem,fun r mem => .inl mem,
        fun _ mem => mem,fun r mem dead current => ?_⟩
      obtain ⟨snapshots,live,_⟩ := dead current
      refine ⟨snapshots,live,fun other working => ?_⟩
      cases Option.some.inj working
      rw [about]
      simp
    refine ⟨soundNext old grows (ledgerTaken old.ledger only single rfl rfl rfl rfl) (by simp [number]) inside
      (fun current row filed _ => old.paired current row filed fun task mem => free task mem row.1)
      (fun other working => ?_) (.inl rfl),grows⟩
    cases Option.some.inj working
    exact sound _ grows rfl rfl
  | @replying m closed version =>
    have grows : Grows book link book { link with
        served := link.served + 1, authorized := link.authorized ++ decided, task := none
        pages := link.pages ++ [m], closed := closed } := by
      refine ⟨List.prefix_rfl,by simp,fun _ mem => List.mem_append_left _ mem,fun _ mem => mem,fun r mem => .inl mem,
        fun _ mem => mem,fun r mem dead current => ?_⟩
      obtain ⟨snapshots,live,_⟩ := dead current
      exact ⟨snapshots,live,by simp⟩
    refine ⟨soundNext old grows (ledgerTaken old.ledger only single rfl rfl rfl rfl) (by simp [number]) inside
      (fun current row filed _ => old.paired current row filed fun task mem => free task mem row.1) (by simp)
      (.inr ⟨m,request,rfl,version,number ▸ asked,replies m.body rfl _ grows rfl rfl (by simp)⟩),grows⟩

theorem querySound (old : LinkSound cfg book link) (idle : link.task = none)
    {query} (asked : link.asked[link.served]? = some (.query query)) (world : World)
    (progressed : Progressed
      { link with served := link.served + 1, authorized := link.authorized ++ [(link.served,world.server)] }
      (handleResumeDiscoveryQuery query cfg.pageSize (authorizeResumeDiscovery cfg.crypto world.capabilities
        world.server world.now world.replay (queryInput query)).2) link') :
    LinkSound cfg book link' ∧ Grows book link book link' := by
  have number : link.pages.length = link.served := by
    have := old.count
    rwa [idle] at this
  have unregistered : ∀ r ∈ link.registered, r.request ≠ link.pages.length := by
    intro r mem
    have := old.ledger.served r mem
    omega
  have released : ∀ link', link'.registered = link.registered → link.pages.length < link'.pages.length →
      Released book link' link.pages.length := by
    intro link' registered longer
    refine ⟨longer,fun r mem same => ?_⟩
    exact absurd same (unregistered r (registered ▸ mem))
  have decided : ∀ facts, (authorizeResumeDiscovery cfg.crypto world.capabilities world.server world.now world.replay
      (queryInput query)).2 = .ok (.approved facts) → ∀ link', Grows book link book link' →
        link'.authorized = link.authorized ++ [(link.served,world.server)] →
          link'.Authorized link.pages.length query facts := by
    intro facts approved link' grows authorized
    obtain ⟨locked,loaded,read⟩ := resumeApproved (Prod.ext_iff.mpr ⟨rfl,approved⟩)
    refine ⟨grows.request (number ▸ asked),world.server,locked,?_,loaded,read⟩
    rw [authorized,number]
    exact List.mem_append_right _ (List.mem_singleton.mpr rfl)
  refine takenSound old idle asked (by simp) (by simp) progressed (fun task works => ?_) fun page replies => ?_
  · generalize outcome : (authorizeResumeDiscovery cfg.crypto world.capabilities world.server world.now world.replay
      (queryInput query)).2 = result at works decided
    unfold handleResumeDiscoveryQuery at works
    split at works
    · rename_i facts
      dsimp only at works
      split at works
      · rename_i more
        cases works
        refine ⟨rfl,fun link' grows registered authorized => ?_⟩
        exact .registering (decided facts rfl link' grows authorized) (by omega) (registered ▸ unregistered)
      · cases works
    · cases works
    · cases works
  · generalize outcome : (authorizeResumeDiscovery cfg.crypto world.capabilities world.server world.now world.replay
      (queryInput query)).2 = result at replies decided
    intro link' grows registered authorized longer
    unfold handleResumeDiscoveryQuery at replies
    split at replies
    · rename_i facts
      dsimp only at replies
      split at replies
      · cases replies
      · rename_i fits
        cases replies
        have all : slice (heldEntries facts) 0 (min cfg.pageSize (heldEntries facts).length) =
            (heldEntries facts).map heldChunkWire := by
          rw [slice,List.drop_zero,List.take_of_length_le (by omega)]
        rw [all]
        exact .whole (decided facts rfl link' grows authorized) (by omega) (released link' registered longer)
    · cases replies
      exact .denied (released link' registered longer)
    · cases replies
      exact .denied (released link' registered longer)

theorem nextSound (old : LinkSound cfg book link) (idle : link.task = none)
    {next} (asked : link.asked[link.served]? = some (.next next))
    (progressed : Progressed { link with served := link.served + 1 } (.working (.looking next)) link') :
    LinkSound cfg book link' ∧ Grows book link book link' := by
  have number : link.pages.length = link.served := by
    have := old.count
    rwa [idle] at this
  have same : ({ link with served := link.served + 1, authorized := link.authorized ++ [] } : ResumeLink) =
      { link with served := link.served + 1 } := by rw [List.append_nil]
  refine @takenSound cfg book link link' old idle _ asked [] (by simp) (by simp) _ (same ▸ progressed)
    (fun task works => ?_) fun page replies => ?_
  · cases works
    exact ⟨rfl,fun link' grows _ _ => .looking (grows.request (number ▸ asked))⟩
  · cases replies

/- The rest of the process moved on: only ids were drawn, or the generation ended. -/
structure Rests (book book' : CursorBook) : Prop where
  current : book'.current → book.current
  drawn : book.drawn ≤ book'.drawn
  issued : book'.issued = book.issued
  live : book'.live = book.live
  snapshots : book'.snapshots = book.snapshots

theorem restsRefl (book : CursorBook) : Rests book book := ⟨id,le_rfl,rfl,rfl,rfl⟩

theorem restsDrawn {drawn'} (advances : book.drawn ≤ drawn') : Rests book { book with drawn := drawn' } :=
  ⟨id,advances,rfl,rfl,rfl⟩

theorem taskRests {pageSize} (grows : Grows book link book' link') (rests : Rests book book')
    (registered : link'.registered = link.registered) {task}
    (sound : TaskSound pageSize book link k task) : TaskSound pageSize book' link' k task := by
  have unreferenced : ∀ {id}, (book.current → ∀ c ∈ book.live, c.2.state.snapshotId ≠ id) →
      book'.current → ∀ c ∈ book'.live, c.2.state.snapshotId ≠ id := by
    intro id free current
    exact rests.live ▸ free (rests.current current)
  cases sound with
  | registering authorized more unregistered =>
    exact .registering (grows.authorizes authorized) more (registered ▸ unregistered)
  | minting authorized more mem unissued =>
    exact .minting (grows.authorizes authorized) more (grows.registered _ mem) (rests.issued ▸ unissued)
  | looking asked => exact .looking (grows.request asked)
  | reading asked live => exact .reading (grows.request asked) (rests.live ▸ live)
  | advancing asked live held =>
    exact .advancing (grows.request asked) (rests.live ▸ live) (rests.snapshots ▸ held)
  | withdrawing asked mem request free =>
    exact .withdrawing (grows.request asked) (grows.registered _ mem) request (unreferenced free)
  | abandoning asked stale => exact .abandoning (grows.request asked) fun current => stale (rests.current current)
  | finishing asked mem issued stands ends free =>
    exact .finishing (grows.request asked) (grows.registered _ mem) (grows.issued issued) stands ends
      (unreferenced free)

theorem restSound (old : LinkSound cfg book link) (rests : Rests book book') (asked : link.asked <+: link'.asked)
    (served : link'.served = link.served) (task : link'.task = link.task) (pages : link'.pages = link.pages)
    (authorized : link'.authorized = link.authorized) (registered : link'.registered = link.registered) :
    LinkSound cfg book' link' ∧ Grows book link book' link' := by
  have grows : Grows book link book' link' := by
    refine ⟨asked,by rw [pages],fun _ mem => authorized ▸ mem,fun _ mem => registered ▸ mem,
      fun r mem => .inl (registered ▸ mem),rests.issued.ge,fun r mem dead current => ?_⟩
    rw [rests.snapshots,rests.live,task]
    exact dead (rests.current current)
  have ledger : Ledger cfg.ids.uuid book' link' := ledgerKept old.ledger asked authorized registered served.ge
    rests.drawn rests.snapshots.le fun c mem => .inl (rests.issued ▸ mem)
  refine ⟨soundNext old grows ledger (by rw [pages,task,served]; exact old.count) ?_ (fun current => ?_)
    (fun working mem => ?_) (.inl pages),grows⟩
  · rw [served]
    exact old.taken.trans asked.length_le
  · rw [rests.snapshots,rests.live,task]
    exact old.paired (rests.current current)
  · rw [pages]
    exact taskRests grows rests registered (old.task working (task ▸ mem))

end Links
end Bamep.ResumeExchange
