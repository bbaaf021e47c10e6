import Bamep.Application.ReplayProtection
import Bamep.Gateway.Outcome
import Bamep.Process.ResumePages

/-! Every run of the exchange. The Worker's aggregate follows the cursor of its query through one snapshot, so it ends
with the whole held set of the moment the query was authorized, or without a list. -/
namespace Bamep.ResumeExchange
open Relational Transition WorkerProtocol WorkerControl

def aggregateOf (query : Message ResumeDiscoveryQueryBody) (facts : ResumeSnapshotFacts) : ResumeAggregate :=
  ⟨query.body.transferId,facts.sealed,toWireDigestAlgorithm facts.digestAlgorithm,facts.chunkSize,
    facts.expectedChunkCount,(heldEntries facts).map heldChunkWire⟩

/- The aggregate a first page starts: its manifest fields, and the chunks held so far. -/
def aggregated (first : ResumeFirstPage) (held : List HeldChunk) : ResumeAggregate :=
  ⟨first.transferId,first.sealed,first.digestAlgorithm,first.chunkSize,first.expectedChunkCount,held⟩

/- `held` is the part of the snapshot before the cursor the Worker presented last. -/
structure Collected (book : CursorBook) (link : ResumeLink) (k : Nat) (awaited : Uuid) (first : ResumeFirstPage)
    (held : List HeldChunk) (query : Message ResumeDiscoveryQueryBody) (facts : ResumeSnapshotFacts) (r : Registered)
    (next : Message ResumeDiscoveryContinueBody) (b : ResumeCursorBinding) (n : Nat) : Prop where
  authorized : link.Authorized k query facts
  registered : r ∈ link.registered
  request : r.request = k
  snapshot : r.snapshot = storedSnapshot query facts
  manifest : aggregated first [] = { aggregateOf query facts with heldChunks := [] }
  asked : ∃ j : Nat, link.asked[j]? = some (.next next)
  awaits : next.envelope.messageId = awaited
  issued : (next.body.resumeCursor,b) ∈ book.issued
  stands : r.At b n
  held : held = (r.snapshot.held.take n).map heldChunkWire

def PhaseSound (book : CursorBook) (link : ResumeLink) (k : Nat) : QueryPhase → Prop
  | .first awaited => ∃ query, link.asked[k]? = some (.query query) ∧ query.envelope.messageId = awaited
  | .rest awaited first held => ∃ query facts r next b n,
    Collected book link k awaited first held query facts r next b n
  | .done (.ok (.approved aggregate)) => ∃ query facts, link.Authorized k query facts ∧
    aggregate = aggregateOf query facts ∧ Released book link k
  | .done (.ok .denied) => Released book link k
  | .done (.error _) => True

theorem phaseGrows {book book' link link'} (grows : Grows book link book' link') {k phase}
    (sound : PhaseSound book link k phase) : PhaseSound book' link' k phase := by
  cases phase with
  | first awaited =>
    obtain ⟨query,asked,named⟩ := sound
    exact ⟨query,grows.request asked,named⟩
  | rest awaited first held =>
    obtain ⟨query,facts,r,next,b,n,collected⟩ := sound
    obtain ⟨j,asked⟩ := collected.asked
    exact ⟨query,facts,r,next,b,n,grows.authorizes collected.authorized,grows.registered r collected.registered,
      collected.request,collected.snapshot,collected.manifest,⟨j,grows.request asked⟩,collected.awaits,
      grows.issued collected.issued,collected.stands,collected.held⟩
  | done result =>
    cases result with
    | error e => trivial
    | ok discovery =>
      cases discovery with
      | denied => exact grows.releases sound
      | approved aggregate =>
        obtain ⟨query,facts,authorized,same,released⟩ := sound
        exact ⟨query,facts,grows.authorizes authorized,same,grows.releases released⟩

structure AskedSound (cfg : ResumeConfig) (messages : Nat) (asked : List ResumeRequest) : Prop where
  drawn : ∀ request ∈ asked, ∃ n < messages, request.messageId = cfg.messageId n
  distinct : (asked.map ResumeRequest.messageId).Nodup

theorem AskedSound.mono {cfg messages messages' asked}
    (sound : AskedSound cfg messages asked) (later : messages ≤ messages') : AskedSound cfg messages' asked := by
  refine ⟨fun request mem => ?_,sound.distinct⟩
  obtain ⟨n,before,same⟩ := sound.drawn request mem
  exact ⟨n,Nat.lt_of_lt_of_le before later,same⟩

structure Sound (cfg : ResumeConfig) (s : ResumeSystem) : Prop where
  handles : Handles cfg.ids s.runtime
  begun : Begun s.runtime
  generations : ∀ store ∈ s.runtime.stores, store.generation ∈ s.runtime.begun
  placed : ∀ m ∈ s.runtime.minted, m.store < s.runtime.stores.length
  matched : s.runtime.stores.length = s.links.length
  links : ∀ (i : Nat) store link, s.runtime.stores[i]? = some store → s.links[i]? = some link →
    LinkSound cfg (s.runtime.book i store) link
  asked : ∀ link ∈ s.links, AskedSound cfg s.messages link.asked
  queries : ∀ query ∈ s.queries, ∃ store link, s.runtime.stores[query.link]? = some store ∧
    s.links[query.link]? = some link ∧ PhaseSound (s.runtime.book query.link store) link query.request query.phase

section Steps
variable {cfg : ResumeConfig} {s : ResumeSystem} {i : Nat} {store : TransientWorkerOperationStore} {link : ResumeLink}

theorem storeOf (sound : Sound cfg s) (linked : s.links[i]? = some link) :
    ∃ store, s.runtime.stores[i]? = some store := by
  obtain ⟨inside,_⟩ := List.getElem?_eq_some_iff.mp linked
  exact ⟨_,List.getElem?_eq_getElem (sound.matched ▸ inside)⟩

theorem soundLink (sound : Sound cfg s) (stored : s.runtime.stores[i]? = some store)
    (linked : s.links[i]? = some link) {runtime' store' link' messages'}
    (handles : Handles cfg.ids runtime') (begun : Begun runtime')
    (stored' : runtime'.stores[i]? = some store') (generation : store'.generation = store.generation)
    (length : runtime'.stores.length = s.runtime.stores.length) (generations : runtime'.begun = s.runtime.begun)
    (placed : ∀ m ∈ runtime'.minted, m.store < runtime'.stores.length)
    (others : ∀ (j : Nat) other, i ≠ j → s.runtime.stores[j]? = some other →
      runtime'.stores[j]? = some other ∧ Rests (s.runtime.book j other) (runtime'.book j other))
    (here : LinkSound cfg (runtime'.book i store') link' ∧
      Grows (s.runtime.book i store) link (runtime'.book i store') link')
    (messages : s.messages ≤ messages') (asked : AskedSound cfg messages' link'.asked) :
    Sound cfg { s with runtime := runtime', links := s.links.set i link', messages := messages' } := by
  have inside := (List.getElem?_eq_some_iff.mp linked).1
  have elsewhere : ∀ (j : Nat), i ≠ j → (s.links.set i link')[j]? = s.links[j]? :=
    fun j apart => List.getElem?_set_ne apart
  have itself : (s.links.set i link')[i]? = some link' := List.getElem?_set_self inside
  refine ⟨handles,begun,fun x mem => ?_,placed,?_,fun j x l at_ on => ?_,fun l mem => ?_,fun query mem => ?_⟩
  · obtain ⟨j,at_⟩ := List.mem_iff_getElem?.mp mem
    rw [generations]
    by_cases same : i = j
    · subst same
      cases Option.some.inj (stored'.symm.trans at_)
      rw [generation]
      exact sound.generations store (List.mem_of_getElem? stored)
    · have within : j < s.runtime.stores.length := length ▸ (List.getElem?_eq_some_iff.mp at_).1
      have before := List.getElem?_eq_getElem within
      have after := (others j _ same before).1
      cases Option.some.inj (at_.symm.trans after)
      exact sound.generations _ (List.mem_of_getElem? before)
  · simp only [List.length_set]
    exact length.trans sound.matched
  · by_cases same : i = j
    · subst same
      cases Option.some.inj (stored'.symm.trans at_)
      cases Option.some.inj (itself.symm.trans on)
      exact here.1
    · have before : s.links[j]? = some l := (elsewhere j same) ▸ on
      obtain ⟨other,found⟩ := storeOf sound before
      obtain ⟨after,rests⟩ := others j other same found
      cases Option.some.inj (at_.symm.trans after)
      exact (restSound (sound.links j _ l found before) rests List.prefix_rfl rfl rfl rfl rfl rfl).1
  · rcases List.mem_or_eq_of_mem_set mem with old | rfl
    · exact (sound.asked l old).mono messages
    · exact asked
  · obtain ⟨x,l,at_,on,phase⟩ := sound.queries query mem
    by_cases same : i = query.link
    · subst same
      cases Option.some.inj (stored.symm.trans at_)
      cases Option.some.inj (linked.symm.trans on)
      exact ⟨store',link',stored',itself,phaseGrows here.2 phase⟩
    · obtain ⟨after,rests⟩ := others query.link x same at_
      have later := (restSound (sound.links _ x l at_ on) rests List.prefix_rfl rfl rfl rfl rfl rfl).2
      exact ⟨x,l,after,(elsewhere query.link same).trans on,phaseGrows later phase⟩

theorem soundQuiet (sound : Sound cfg s) (stored : s.runtime.stores[i]? = some store)
    (linked : s.links[i]? = some link) {link' messages'}
    (here : LinkSound cfg (s.runtime.book i store) link' ∧
      Grows (s.runtime.book i store) link (s.runtime.book i store) link')
    (messages : s.messages ≤ messages') (asked : AskedSound cfg messages' link'.asked) :
    Sound cfg { s with links := s.links.set i link', messages := messages' } :=
  @soundLink cfg s i store link sound stored linked s.runtime store link' messages' sound.handles sound.begun stored
    rfl rfl rfl sound.placed (fun _ _ _ found => ⟨found,restsRefl _⟩) here messages asked

theorem soundCall (fresh : cfg.ids.Fresh) (sound : Sound cfg s) (stored : s.runtime.stores[i]? = some store)
    (linked : s.links[i]? = some link) {call store' link' messages'}
    (stored' : (s.runtime.after cfg.ids (.call i call)).stores[i]? = some store')
    (generation : store'.generation = store.generation)
    (here : LinkSound cfg ((s.runtime.after cfg.ids (.call i call)).book i store') link' ∧
      Grows (s.runtime.book i store) link ((s.runtime.after cfg.ids (.call i call)).book i store') link')
    (messages : s.messages ≤ messages') (asked : AskedSound cfg messages' link'.asked) :
    Sound cfg { s with
      runtime := s.runtime.after cfg.ids (.call i call), links := s.links.set i link', messages := messages' } := by
  have after := (@afterReturned cfg.ids s.runtime i store call stored).1
  refine soundLink sound stored linked (handlesStep fresh sound.handles _) (begunStep _ sound.begun _) stored'
    generation ?_ ?_ (fun m mem => ?_) (fun j other apart found => ?_) here messages asked
  · rw [after]
    exact List.length_set
  · rw [after]
    rfl
  · rw [after] at mem ⊢
    refine Nat.lt_of_lt_of_eq ?_ List.length_set.symm
    rcases List.mem_append.mp mem with old | new
    · exact sound.placed m old
    · rw [newlyMintedStore m new]
      exact (List.getElem?_eq_some_iff.mp stored).1
  · obtain ⟨drawn',same,advances,book⟩ := @servesElsewhere cfg.ids s.runtime i store call stored j apart other
    exact ⟨same.trans found,book ▸ restsDrawn advances⟩

-- `reply` as a change of one connection, with the message it may have drawn.
theorem replyProgressed (cfg : ResumeConfig) (s : ResumeSystem) (i : Nat) (link : ResumeLink) (progress : Progress) :
    ∃ link' messages', Progressed link progress link' ∧ s.messages ≤ messages' ∧ link'.asked = link.asked ∧
      s.reply cfg i link progress = { s with links := s.links.set i link', messages := messages' } := by
  cases progress with
  | working task => exact ⟨_,s.messages,.working,le_rfl,rfl,rfl⟩
  | replying page =>
    exact ⟨_,s.messages + 1,@Progressed.replying link ⟨.new (cfg.messageId s.messages),page⟩ _ rfl,Nat.le_succ _,rfl,rfl⟩

theorem soundServe (sound : Sound cfg s) (i : Nat) (world : World) : Sound cfg (s.serve cfg i world) := by
  unfold ResumeSystem.serve
  split
  · exact sound
  rename_i link linked
  obtain ⟨store,stored⟩ := storeOf sound linked
  have old := sound.links i store link stored linked
  have asked := sound.asked link (List.mem_of_getElem? linked)
  split
  · exact sound
  rename_i open_
  have idle : link.task = none := by
    cases busy : link.task with
    | none => rfl
    | some task => simp [busy] at open_
  split
  · exact sound
  · rename_i query at_
    obtain ⟨link',messages',progressed,later,same,after⟩ := replyProgressed cfg s i { link with
      served := link.served + 1, authorized := link.authorized ++ [(link.served,world.server)] }
      (handleResumeDiscoveryQuery query cfg.pageSize (authorizeResumeDiscovery cfg.crypto world.capabilities
        world.server world.now world.replay (queryInput query)).2)
    rw [after]
    exact soundQuiet sound stored linked (querySound old idle at_ world progressed) later (same ▸ asked.mono later)
  · rename_i next at_
    obtain ⟨link',messages',progressed,later,same,after⟩ := replyProgressed cfg s i
      { link with served := link.served + 1 } (.working (.looking next))
    rw [after]
    exact soundQuiet sound stored linked (nextSound old idle at_ progressed) later (same ▸ asked.mono later)

theorem taskResumes (pageSize : Nat) (task : ResumeTask) : (task.call pageSize).resumes = true := by
  cases task <;> rfl

theorem soundStep (fresh : cfg.ids.Fresh) (distinct : Function.Injective cfg.ids.uuid) (positive : 0 < cfg.pageSize)
    (sound : Sound cfg s) (i : Nat) : Sound cfg (s.step cfg i) := by
  unfold ResumeSystem.step
  split
  · exact sound
  rename_i link linked
  obtain ⟨store,stored⟩ := storeOf sound linked
  have old := sound.links i store link stored linked
  have asked := sound.asked link (List.mem_of_getElem? linked)
  split
  · exact sound
  rename_i task busy
  obtain ⟨store',stored',generation,answered⟩ := servesResume fresh sound.handles stored (taskResumes cfg.pageSize task)
  obtain ⟨link',messages',progressed,later,same,after⟩ := replyProgressed cfg
    { s with runtime := s.runtime.after cfg.ids (.call i (task.call cfg.pageSize)) } i { link with
      registered := link.registered ++ ResumeSystem.newlyRegistered link task
        (s.runtime.answer cfg.ids i (task.call cfg.pageSize)) }
      (task.proceed cfg.pageSize (s.runtime.answer cfg.ids i (task.call cfg.pageSize)))
  simp only [after]
  exact soundCall fresh sound stored linked stored' generation
    (taskSound old (bookSound sound.handles stored) positive distinct busy answered progressed) later
    (same ▸ asked.mono later)

/- A request written now has a message id the connection has not seen. -/
theorem askedMore (distinct : Function.Injective cfg.messageId) {messages asked}
    (sound : AskedSound cfg messages asked) {request}
    (named : request.messageId = cfg.messageId messages) : AskedSound cfg (messages + 1) (asked ++ [request]) := by
  refine ⟨fun other mem => ?_,?_⟩
  · rcases List.mem_append.mp mem with old | new
    · obtain ⟨n,before,same⟩ := sound.drawn other old
      exact ⟨n,Nat.lt_succ_of_lt before,same⟩
    · cases List.mem_singleton.mp new
      exact ⟨messages,Nat.lt_succ_self _,named⟩
  · rw [List.map_append,List.nodup_append]
    refine ⟨sound.distinct,List.nodup_singleton _,fun a left b right same => ?_⟩
    obtain ⟨other,old,rfl⟩ := List.mem_map.mp left
    obtain ⟨n,before,drawn⟩ := sound.drawn other old
    have := distinct (drawn.symm.trans (same.trans ((List.mem_singleton.mp right).trans named)))
    omega

theorem soundAsk (distinct : Function.Injective cfg.messageId) (sound : Sound cfg s) (linked : s.links[i]? = some link)
    {request} (named : request.messageId = cfg.messageId s.messages) :
    Sound cfg (s.ask i link request) := by
  obtain ⟨store,stored⟩ := storeOf sound linked
  have old := sound.links i store link stored linked
  have asked := sound.asked link (List.mem_of_getElem? linked)
  exact soundQuiet sound stored linked
    (restSound old (restsRefl _) (List.prefix_append _ _) rfl rfl rfl rfl rfl) (Nat.le_succ _)
    (askedMore distinct asked named)

theorem soundRest (sound : Sound cfg s) (linked : s.links[i]? = some link) {link'}
    (asked : link'.asked = link.asked) (served : link'.served = link.served) (task : link'.task = link.task)
    (pages : link'.pages = link.pages) (authorized : link'.authorized = link.authorized)
    (registered : link'.registered = link.registered) : Sound cfg (s.setLink i link') := by
  obtain ⟨store,stored⟩ := storeOf sound linked
  have old := sound.links i store link stored linked
  exact @soundQuiet cfg s i store link sound stored linked link' s.messages
    (restSound old (restsRefl _) (asked ▸ List.prefix_rfl) served task pages authorized registered) le_rfl
    (asked ▸ sound.asked link (List.mem_of_getElem? linked))

theorem soundPhase (sound : Sound cfg s) {j query phase}
    (stored : s.runtime.stores[query.link]? = some store) (linked : s.links[query.link]? = some link)
    (follows : PhaseSound (s.runtime.book query.link store) link query.request phase) :
    Sound cfg (s.setPhase j query phase) := by
  obtain ⟨handles,begun,generations,placed,matched,links,asked,queries⟩ := sound
  refine ⟨handles,begun,generations,placed,matched,links,asked,fun other mem => ?_⟩
  rcases List.mem_or_eq_of_mem_set mem with old | rfl
  · exact queries other old
  · exact ⟨store,link,stored,linked,follows⟩

/- What the Worker knows when it has a cursor to present next. -/
structure Follows (book : CursorBook) (link : ResumeLink) (k : Nat) (first : ResumeFirstPage) (held : List HeldChunk)
    (cursor : String) (query : Message ResumeDiscoveryQueryBody) (facts : ResumeSnapshotFacts) (r : Registered)
    (b : ResumeCursorBinding) (n : Nat) : Prop where
  authorized : link.Authorized k query facts
  registered : r ∈ link.registered
  request : r.request = k
  snapshot : r.snapshot = storedSnapshot query facts
  manifest : aggregated first [] = { aggregateOf query facts with heldChunks := [] }
  issued : (cursor,b) ∈ book.issued
  stands : r.At b n
  held : held = (r.snapshot.held.take n).map heldChunkWire

theorem soundContinue (distinct : Function.Injective cfg.messageId) (sound : Sound cfg s) {j query first held cursor}
    (stored : s.runtime.stores[query.link]? = some store) (linked : s.links[query.link]? = some link)
    (ends : cursor = none → PhaseSound (s.runtime.book query.link store) link query.request
      (.done (.ok (.approved (aggregated first held)))))
    (goes : ∀ c, cursor = some c → ∃ q facts r b n,
      Follows (s.runtime.book query.link store) link query.request first held c q facts r b n) :
    Sound cfg (s.continueQuery cfg j query first held cursor) := by
  cases cursor with
  | none => exact soundPhase sound stored linked (ends rfl)
  | some c =>
    simp only [ResumeSystem.continueQuery,linked]
    split
    · exact @soundPhase cfg s store link sound j query (.done (.error .generationChanged)) stored linked trivial
    obtain ⟨q,facts,r,b,n,follows⟩ := goes c rfl
    have asking := @soundAsk cfg s query.link link distinct sound linked
      (.next ⟨.new (cfg.messageId s.messages),⟨c⟩⟩) rfl
    have grows := (restSound (sound.links _ store link stored linked) (restsRefl _)
      (List.prefix_append link.asked [.next ⟨.new (cfg.messageId s.messages),⟨c⟩⟩]) rfl rfl rfl rfl rfl :
      LinkSound cfg _ { link with asked := _ } ∧ _).2
    refine soundPhase asking stored (List.getElem?_set_self (List.getElem?_eq_some_iff.mp linked).1) ?_
    refine ⟨q,facts,r,_,b,n,grows.authorizes follows.authorized,follows.registered,follows.request,follows.snapshot,
      follows.manifest,⟨link.asked.length,List.getElem?_concat_length⟩,rfl,follows.issued,follows.stands,follows.held⟩

-- Two requests of a connection with one message id are one request.
theorem sameAsked {messages asked} (sound : AskedSound cfg messages asked) {k l : Nat}
    {request other} (left : asked[k]? = some request) (right : asked[l]? = some other)
    (same : request.messageId = other.messageId) : k = l := by
  have inside := (List.getElem?_eq_some_iff.mp left).1
  refine (List.getElem?_inj (by simpa using inside) sound.distinct).mp ?_
  rw [List.getElem?_map,List.getElem?_map,left,right,Option.map_some,Option.map_some,same]

theorem standsOnce {book} (old : LinkSound cfg book link) {r} (mem : r ∈ link.registered)
    {b n n'} (left : r.At b n) (right : r.At b n') : n = n' := by
  obtain ⟨query,facts,⟨_,server,locked,_,_,read⟩,stored⟩ := old.ledger.origin r mem
  have ascending : (r.snapshot.held.map HeldChunkEntry.chunkIndex).Pairwise (· < ·) := by
    have listed := read.ascending
    simpa [stored,storedSnapshot,heldEntries,Function.comp_def] using listed
  have point := partitionPointNext ascending left.positive left.within
  rwa [← left.next,right.next,partitionPointNext ascending right.positive right.within,eq_comm] at point

theorem firstPageRead {query facts held cursor first}
    (read : (firstPageOf query facts held cursor).approvedFirstPage = .ok first) :
    aggregated first [] = { aggregateOf query facts with heldChunks := [] } ∧ first.heldChunks = held ∧
      first.resumeCursor = cursor := by
  have shape : (firstPageOf query facts held cursor).approvedFirstPage =
      if facts.expectedChunkCount.isSome ≠ facts.sealed then
        .error ⟨"ResumeDiscoveryPage","expected_chunk_count must be present iff sealed == true"⟩
      else .ok ⟨query.body.transferId,facts.sealed,toWireDigestAlgorithm facts.digestAlgorithm,facts.chunkSize,
        facts.expectedChunkCount,held,cursor⟩ := rfl
  rw [shape] at read
  split at read
  · cases read
  · cases read
    exact ⟨rfl,rfl,rfl⟩

theorem deniedDecision (inReplyTo : Uuid) : (ResumeDiscoveryPageBody.denied inReplyTo).decision = .denied := rfl

/- The answer to the message a query waits for, resolved by its caller. -/
theorem soundResolve (distinct : Function.Injective cfg.messageId) (sound : Sound cfg s) {j k query}
    (stored : s.runtime.stores[query.link]? = some store)
    (linked : s.links[query.link]? = some link)
    (phase : PhaseSound (s.runtime.book query.link store) link query.request query.phase) {request : ResumeRequest}
    {page} (asked : link.asked[k]? = some request)
    (answer : AnswerSound cfg.pageSize (s.runtime.book query.link store) link k request page)
    (awaited : query.phase.awaited = some request.messageId) : Sound cfg (s.resolve cfg j query page) := by
  have old := sound.links _ store link stored linked
  have books := bookSound sound.handles stored
  have unique := sound.asked link (List.mem_of_getElem? linked)
  have error : ∀ e, Sound cfg (s.setPhase j query (.done (.error e))) := fun e =>
    @soundPhase cfg s store link sound j query (.done (.error e)) stored linked trivial
  unfold ResumeSystem.resolve
  generalize now : query.phase = at_ at phase awaited
  cases at_ with
  | done result => cases awaited
  | first id =>
    cases awaited
    obtain ⟨q,here,named⟩ := phase
    cases sameAsked unique here asked named
    cases Option.some.inj (here.symm.trans asked)
    dsimp only
    cases answer with
    | denied released =>
      rw [if_pos (deniedDecision _)]
      exact @soundPhase cfg s store link sound j query (.done (.ok .denied)) stored linked released
    | @whole _ facts authorized fits released =>
      rw [if_neg (by simp [firstPageOf,ResumeDiscoveryPageBody.firstPage])]
      split
      · exact error _
      rename_i first read
      obtain ⟨manifest,held,cursor⟩ := firstPageRead read
      rw [cursor,held]
      refine soundContinue distinct sound stored linked (fun _ => ⟨q,facts,authorized,?_,released⟩) (by simp)
      exact congrArg (fun a : ResumeAggregate => { a with heldChunks := (heldEntries facts).map heldChunkWire }) manifest
    | @first _ facts r c b authorized registered request snapshot issued stands =>
      rw [if_neg (by simp [firstPageOf,ResumeDiscoveryPageBody.firstPage])]
      split
      · exact error _
      rename_i first read
      obtain ⟨manifest,held,cursor⟩ := firstPageRead read
      rw [cursor,held]
      refine soundContinue distinct sound stored linked (by simp) fun c' same => ?_
      cases Option.some.inj same
      refine ⟨q,facts,r,b,cfg.pageSize,authorized,registered,request,snapshot,manifest,issued,stands,?_⟩
      rw [snapshot,slice,List.drop_zero]
      rfl
  | rest id first held =>
    cases awaited
    obtain ⟨q,facts,r,next,b,n,collected⟩ := phase
    obtain ⟨l,here⟩ := collected.asked
    cases sameAsked unique here asked collected.awaits
    cases Option.some.inj (here.symm.trans asked)
    dsimp only
    have standing : ∀ {r' b' n'}, r' ∈ link.registered →
        (next.body.resumeCursor,b') ∈ (s.runtime.book query.link store).issued → r'.At b' n' →
          r' = r ∧ n' = n := by
      intro r' b' n' mem issued stands
      have one := books.functional _ issued _ collected.issued rfl
      cases (Prod.mk.inj one).2
      cases sameRegistered old.ledger mem collected.registered
        (stands.snapshot.symm.trans collected.stands.snapshot)
      exact ⟨rfl,standsOnce old mem stands collected.stands⟩
    cases answer with
    | refused =>
      rw [if_pos (deniedDecision _)]
      exact error _
    | @middle _ r' b' b'' n' c registered issued stands issued' stands' =>
      obtain ⟨rfl,rfl⟩ := standing registered issued stands
      rw [if_neg (by simp [ResumeDiscoveryPageBody.continuationPage])]
      refine soundContinue distinct sound stored linked (by simp [ResumeDiscoveryPageBody.continuationPage])
        fun c' same => ?_
      cases Option.some.inj same
      refine ⟨q,facts,r',b'',n' + cfg.pageSize,collected.authorized,registered,collected.request,collected.snapshot,
        collected.manifest,issued',stands',?_⟩
      rw [collected.held]
      exact takeSlice (Nat.le_add_right _ _)
    | @last _ r' b' n' registered issued stands ends released =>
      obtain ⟨rfl,rfl⟩ := standing registered issued stands
      rw [if_neg (by simp [ResumeDiscoveryPageBody.continuationPage])]
      have whole := @takeSlice r'.snapshot.held n' r'.snapshot.held.length stands.within.le
      rw [List.take_length] at whole
      have stored' : r'.snapshot.held = heldEntries facts := by rw [collected.snapshot]; rfl
      have total : held ++ slice r'.snapshot.held n' r'.snapshot.held.length = (heldEntries facts).map heldChunkWire := by
        rw [collected.held,whole,stored']
      refine soundContinue distinct sound stored linked (fun _ => ?_)
        (by simp [ResumeDiscoveryPageBody.continuationPage])
      refine ⟨q,facts,collected.authorized,?_,collected.request ▸ released⟩
      rw [total]
      exact congrArg (fun a : ResumeAggregate => { a with heldChunks := (heldEntries facts).map heldChunkWire })
        collected.manifest

theorem answerReplies {pageSize book k request page}
    (answer : AnswerSound pageSize book link k request page) :
    page.inReplyTo = request.messageId := by
  cases answer <;> rfl

theorem soundDeliver (distinct : Function.Injective cfg.messageId) (sound : Sound cfg s) :
    Sound cfg (s.deliver cfg) := by
  unfold ResumeSystem.deliver
  split
  · exact sound
  rename_i i _
  split
  · exact sound
  rename_i link linked
  split
  · exact sound
  rename_i page at_
  split
  · exact sound
  have read : Sound cfg (s.setLink i { link with received := link.received + 1 }) :=
    soundRest sound linked rfl rfl rfl rfl rfl rfl
  have lost : Sound cfg { s.setLink i { link with received := link.received + 1 } with current := none } :=
    ⟨read.handles,read.begun,read.generations,read.placed,read.matched,read.links,read.asked,read.queries⟩
  dsimp only
  split
  · rename_i messageId m _ inbound
    split
    · exact read
    rename_i j located
    split
    · exact read
    rename_i query found
    have awaits : query.link = i ∧ query.phase.awaited = some messageId := by
      obtain ⟨inside,holds,_⟩ := List.findIdx?_eq_some_iff_getElem.mp located
      have same : (s.setLink i { link with received := link.received + 1 }).queries[j] = query :=
        Option.some.inj ((List.getElem?_eq_getElem inside).symm.trans found)
      rw [same] at holds
      simpa using holds
    obtain ⟨rfl,awaited⟩ := awaits
    obtain ⟨store,link',stored,on,phase⟩ := read.queries query (List.mem_of_getElem? found)
    have here : link'.pages[link.received]? = some page := by
      have itself := @List.getElem?_set_self _ s.links query.link { link with received := link.received + 1 }
        (List.getElem?_eq_some_iff.mp linked).1
      cases Option.some.inj (itself.symm.trans on)
      exact at_
    obtain ⟨_,request,asked,answer⟩ := (read.links _ store link' stored on).pages _ page here
    have message : m = page ∧ messageId = page.body.inReplyTo := by
      unfold classifyInbound at inbound
      cases valid : (WorkerProtocolMessage.resumeDiscoveryPage page).envelope.isValid with
      | false => rw [valid] at inbound; cases inbound
      | true =>
        rw [valid] at inbound
        cases inbound
        exact ⟨rfl,rfl⟩
    obtain ⟨rfl,rfl⟩ := message
    exact soundResolve distinct read stored on phase asked answer ((answerReplies answer) ▸ awaited)
  · exact lost

theorem soundDiscover (distinct : Function.Injective cfg.messageId) (sound : Sound cfg s)
    (input : ResumeDiscoveryQueryBody) : Sound cfg (s.discover cfg input) := by
  unfold ResumeSystem.discover
  split
  · exact sound
  rename_i i _
  split
  · exact sound
  rename_i link linked
  have asking := @soundAsk cfg s i link distinct sound linked (.query ⟨.new (cfg.messageId s.messages),input⟩) rfl
  obtain ⟨store,stored⟩ := storeOf sound linked
  refine ⟨asking.handles,asking.begun,asking.generations,asking.placed,asking.matched,asking.links,asking.asked,
    fun query mem => ?_⟩
  rcases List.mem_append.mp mem with old | new
  · exact asking.queries query old
  · cases List.mem_singleton.mp new
    exact ⟨store,_,stored,List.getElem?_set_self (List.getElem?_eq_some_iff.mp linked).1,_,
      List.getElem?_concat_length,rfl⟩

theorem soundRegistry (sound : Sound cfg s) {runtime'} (handles : Handles cfg.ids runtime')
    (begun : Begun runtime') (stores : runtime'.stores = s.runtime.stores) (minted : runtime'.minted = s.runtime.minted)
    (drawn : runtime'.drawn = s.runtime.drawn) (generations : runtime'.begun = s.runtime.begun)
    (fades : ∀ generation, runtime'.registry.isCurrent generation → s.runtime.registry.isCurrent generation) :
    Sound cfg { s with runtime := runtime' } := by
  have rests : ∀ (i : Nat) store, Rests (s.runtime.book i store) (runtime'.book i store) := by
    intro i store
    refine ⟨fades store.generation,drawn.ge,?_,rfl,rfl⟩
    simp only [WorkerRuntime.book,minted]
  have rested : ∀ (i : Nat) store link, s.runtime.stores[i]? = some store → s.links[i]? = some link →
      LinkSound cfg (runtime'.book i store) link ∧
        Grows (s.runtime.book i store) link (runtime'.book i store) link := fun i store link stored linked =>
    restSound (sound.links i store link stored linked) (rests i store) List.prefix_rfl rfl rfl rfl rfl rfl
  refine ⟨handles,begun,by rw [stores,generations]; exact sound.generations,by rw [stores,minted]; exact sound.placed,
    by rw [stores]; exact sound.matched,fun i store link stored linked => ?_,sound.asked,fun query mem => ?_⟩
  · rw [stores] at stored
    exact (rested i store link stored linked).1
  · obtain ⟨store,link,stored,linked,phase⟩ := sound.queries query mem
    exact ⟨store,link,by rw [stores]; exact stored,linked,phaseGrows (rested _ store link stored linked).2 phase⟩

theorem openedSound {book} (issued : book.issued = ∅) (snapshots : book.snapshots = ∅) :
    LinkSound cfg book .opened where
  ledger := ⟨by simp [ResumeLink.opened],List.nodup_nil,by simp [ResumeLink.opened],List.nodup_nil,List.nodup_nil,
    by simp [ResumeLink.opened],by simp [ResumeLink.opened],by simp [snapshots],by simp [issued]⟩
  count := rfl
  taken := le_rfl
  paired := by simp [snapshots]
  task := by simp [ResumeLink.opened]
  pages := by simp [ResumeLink.opened]

/- A connection is accepted: its generation supersedes the one before. -/
theorem soundAccept (fresh : cfg.ids.Fresh) (sound : Sound cfg s) (workerInstanceId : Nat)
    (distinct : (s.after cfg (.accept workerInstanceId)).runtime.begun.Nodup) :
    Sound cfg (s.after cfg (.accept workerInstanceId)) := by
  generalize same : s.after cfg (.accept workerInstanceId) = s' at distinct
  have runtime : s'.runtime = ((s.runtime.after cfg.ids (.beginGeneration workerInstanceId)).after cfg.ids
      (.newStore ⟨s.runtime.registry.nextGeneration⟩ s.runtime.registry.operationsCapacity none)) := by
    rw [← same]; rfl
  have stores : s'.runtime.stores = s.runtime.stores ++
      [.new ⟨s.runtime.registry.nextGeneration⟩ s.runtime.registry.operationsCapacity] := by rw [runtime]; rfl
  have begun : s'.runtime.begun = s.runtime.begun ++ [⟨s.runtime.registry.nextGeneration⟩] := by rw [runtime]; rfl
  have minted : s'.runtime.minted = s.runtime.minted := by rw [runtime]; rfl
  have drawn : s'.runtime.drawn = s.runtime.drawn := by rw [runtime]; rfl
  have links : s'.links = s.links ++ [.opened] := by rw [← same]; rfl
  have current : ∀ generation, s'.runtime.registry.isCurrent generation →
      generation = ⟨s.runtime.registry.nextGeneration⟩ := by
    intro generation holds
    rw [runtime] at holds
    exact (of_decide_eq_true holds).symm
  have rests : ∀ (i : Nat) store, store ∈ s.runtime.stores → Rests (s.runtime.book i store) (s'.runtime.book i store) := by
    intro i store mem
    refine ⟨fun holds => ?_,drawn.ge,by simp only [WorkerRuntime.book,minted],rfl,rfl⟩
    have old := sound.generations store mem
    rw [current _ holds] at old
    rw [begun] at distinct
    exact absurd rfl ((List.nodup_append.mp distinct).2.2 _ old _ (List.mem_singleton.mpr rfl))
  have before : ∀ (i : Nat) store link, s.runtime.stores[i]? = some store → s.links[i]? = some link →
      s'.runtime.stores[i]? = some store ∧ s'.links[i]? = some link := by
    intro i store link stored linked
    rw [stores,links,List.getElem?_append_left (List.getElem?_eq_some_iff.mp stored).1,
      List.getElem?_append_left (List.getElem?_eq_some_iff.mp linked).1]
    exact ⟨stored,linked⟩
  have rested : ∀ (i : Nat) store link, s.runtime.stores[i]? = some store → s.links[i]? = some link →
      LinkSound cfg (s'.runtime.book i store) link ∧
        Grows (s.runtime.book i store) link (s'.runtime.book i store) link := fun i store link stored linked =>
    restSound (sound.links i store link stored linked) (rests i store (List.mem_of_getElem? stored)) List.prefix_rfl rfl
      rfl rfl rfl rfl
  refine ⟨?_,?_,fun store mem => ?_,fun m mem => ?_,?_,fun i store link stored linked => ?_,fun link mem => ?_,
    fun query mem => ?_⟩
  · rw [runtime]
    exact handlesStep fresh (handlesStep fresh sound.handles _) _
  · rw [runtime]
    exact begunStep _ (begunStep _ sound.begun _) _
  · rw [begun]
    rw [stores] at mem
    rcases List.mem_append.mp mem with old | new
    · exact List.mem_append_left _ (sound.generations store old)
    · cases List.mem_singleton.mp new
      exact List.mem_append_right _ (List.mem_singleton.mpr rfl)
  · rw [minted] at mem
    have := sound.placed m mem
    simp only [stores,List.length_append,List.length_singleton]
    omega
  · simp only [stores,links,List.length_append,List.length_singleton,sound.matched]
  · have inside := (List.getElem?_eq_some_iff.mp linked).1
    rw [links,List.length_append,List.length_singleton] at inside
    by_cases old : i < s.links.length
    · obtain ⟨store',found⟩ := storeOf sound (List.getElem?_eq_getElem old)
      obtain ⟨stored',linked'⟩ := before i store' _ found (List.getElem?_eq_getElem old)
      cases Option.some.inj (stored.symm.trans stored')
      cases Option.some.inj (linked.symm.trans linked')
      exact (rested i _ _ found (List.getElem?_eq_getElem old)).1
    · have last : i = s.links.length := by omega
      subst last
      rw [links,List.getElem?_concat_length] at linked
      rw [stores,← sound.matched,List.getElem?_concat_length] at stored
      cases linked
      cases stored
      refine openedSound ?_ ?_
      · refine Set.eq_empty_of_forall_notMem fun c issued => ?_
        obtain ⟨m,present,at_,_⟩ := issued
        rw [minted] at present
        have := sound.placed m present
        rw [sound.matched] at this
        omega
      · refine Set.eq_empty_of_forall_notMem fun row filed => ?_
        exact Table.notMemEmpty _ filed
  · have messages : s'.messages = s.messages := by rw [← same]; rfl
    rw [links] at mem
    rw [messages]
    rcases List.mem_append.mp mem with old | new
    · exact sound.asked link old
    · cases List.mem_singleton.mp new
      exact ⟨by simp [ResumeLink.opened],List.nodup_nil⟩
  · have queries : s'.queries = s.queries := by rw [← same]; rfl
    rw [queries] at mem
    obtain ⟨store,link,stored,linked,phase⟩ := sound.queries query mem
    obtain ⟨stored',linked'⟩ := before _ store link stored linked
    exact ⟨store,link,stored',linked',phaseGrows (rested _ store link stored linked).2 phase⟩

theorem soundAfter (fresh : cfg.ids.Fresh) (draws : Function.Injective cfg.ids.uuid)
    (messages : Function.Injective cfg.messageId) (positive : 0 < cfg.pageSize) (sound : Sound cfg s) (op : ResumeOp)
    (distinct : (s.after cfg op).runtime.begun.Nodup) : Sound cfg (s.after cfg op) := by
  have attached : ∀ current, Sound cfg { s with current := current } := fun _ =>
    ⟨sound.handles,sound.begun,sound.generations,sound.placed,sound.matched,sound.links,sound.asked,sound.queries⟩
  cases op with
  | accept workerInstanceId => exact soundAccept fresh sound workerInstanceId distinct
  | setCurrentOperations generation store =>
    have handles := handlesStep fresh sound.handles (.setCurrentOperations generation store)
    have begun := begunStep cfg.ids sound.begun (.setCurrentOperations generation store)
    refine soundRegistry sound handles begun rfl rfl rfl rfl fun other holds => ?_
    by_cases current : s.runtime.registry.isCurrent generation
    · simp only [WorkerRuntime.after,WorkerAuthorityRegistry.setCurrentOperationsCurrent current] at holds
      exact holds
    · simpa only [WorkerRuntime.after,WorkerAuthorityRegistry.setCurrentOperationsStale current] using holds
  | endGeneration generation =>
    have handles := handlesStep fresh sound.handles (.endGeneration generation)
    have begun := begunStep cfg.ids sound.begun (.endGeneration generation)
    refine soundRegistry sound handles begun rfl rfl rfl rfl fun other holds => ?_
    by_cases current : s.runtime.registry.isCurrent generation
    · simp only [WorkerRuntime.after,WorkerAuthorityRegistry.endGenerationCurrent current] at holds
      cases holds
    · simpa only [WorkerRuntime.after,WorkerAuthorityRegistry.endGenerationStale current] using holds
  | close i =>
    simp only [ResumeSystem.after]
    split
    · exact sound
    · rename_i link linked
      exact soundRest sound linked rfl rfl rfl rfl rfl rfl
  | attach i => exact attached _
  | detach => exact attached _
  | handle i call =>
    simp only [ResumeSystem.after]
    split
    · exact sound
    rename_i other
    cases stored : s.runtime.stores[i]? with
    | none =>
      have same : s.runtime.after cfg.ids (.call i call) = s.runtime := by
        simp only [WorkerRuntime.after,WorkerRuntime.afterCall,stored]
      rw [same]
      exact sound
    | some store =>
      have inside := (List.getElem?_eq_some_iff.mp stored).1
      have linked := List.getElem?_eq_getElem (sound.matched ▸ inside)
      have old := sound.links i store _ stored linked
      obtain ⟨store',drawn',stored',generation,advances,book⟩ := @servesOther cfg.ids s.runtime i store call stored
        (by simpa using other)
      have rested := restSound old (book ▸ restsDrawn advances : Rests _ ((s.runtime.after cfg.ids (.call i call)).book i
        store')) List.prefix_rfl rfl rfl rfl rfl rfl
      have after := soundCall fresh sound stored linked stored' generation rested le_rfl
        (sound.asked _ (List.mem_of_getElem? linked))
      rwa [List.set_getElem_self] at after
  | discover input => exact soundDiscover messages sound input
  | fail j error =>
    simp only [ResumeSystem.after]
    split
    · exact sound
    rename_i query found
    split
    · exact sound
    obtain ⟨store,link,stored,linked,_⟩ := sound.queries query (List.mem_of_getElem? found)
    exact @soundPhase cfg s store link sound j query (.done (.error error)) stored linked trivial
  | serve i world => exact soundServe sound i world
  | step i => exact soundStep fresh draws positive sound i
  | deliver => exact soundDeliver messages sound

theorem replyRuntime (i : Nat) (link : ResumeLink) (progress : Progress) :
    (s.reply cfg i link progress).runtime = s.runtime := by
  cases progress <;> rfl

theorem continueRuntime (j : Nat) (query : ResumeQuery) (first : ResumeFirstPage) (held : List HeldChunk)
    (cursor : Option String) : (s.continueQuery cfg j query first held cursor).runtime = s.runtime := by
  cases cursor with
  | none => rfl
  | some c =>
    simp only [ResumeSystem.continueQuery]
    split
    · rfl
    · split <;> rfl

theorem resolveRuntime (j : Nat) (query : ResumeQuery) (page : ResumeDiscoveryPageBody) :
    (s.resolve cfg j query page).runtime = s.runtime := by
  unfold ResumeSystem.resolve
  split
  · split
    · rfl
    · split
      · rfl
      · exact continueRuntime ..
  · split
    · rfl
    · split
      · rfl
      · exact continueRuntime ..
  · rfl

theorem deliverRuntime : (s.deliver cfg).runtime = s.runtime := by
  unfold ResumeSystem.deliver
  split
  · rfl
  split
  · rfl
  split
  · rfl
  split
  · rfl
  dsimp only
  split
  · split
    · rfl
    · split
      · rfl
      · exact resolveRuntime ..
  · rfl

theorem begunGrows (s : ResumeSystem) (op : ResumeOp) : s.runtime.begun <+: (s.after cfg op).runtime.begun := by
  have call : ∀ i call, (s.runtime.after cfg.ids (.call i call)).begun = s.runtime.begun := by
    intro i call
    simp only [WorkerRuntime.after,WorkerRuntime.afterCall]
    split <;> rfl
  cases op with
  | accept workerInstanceId => exact List.prefix_append ..
  | setCurrentOperations | endGeneration | attach | detach => exact List.prefix_rfl
  | close i =>
    simp only [ResumeSystem.after]
    split <;> exact List.prefix_rfl
  | handle i other =>
    simp only [ResumeSystem.after]
    split
    · exact List.prefix_rfl
    · simp [call]
  | discover input =>
    simp only [ResumeSystem.after,ResumeSystem.discover]
    split
    · exact List.prefix_rfl
    · split <;> exact List.prefix_rfl
  | fail j error =>
    simp only [ResumeSystem.after]
    split
    · exact List.prefix_rfl
    · split <;> exact List.prefix_rfl
  | serve i world =>
    simp only [ResumeSystem.after,ResumeSystem.serve]
    split
    · exact List.prefix_rfl
    · split
      · exact List.prefix_rfl
      · split
        · exact List.prefix_rfl
        · simp [replyRuntime]
        · simp [replyRuntime]
  | step i =>
    simp only [ResumeSystem.after,ResumeSystem.step]
    split
    · exact List.prefix_rfl
    · split
      · exact List.prefix_rfl
      · simp [replyRuntime,call]
  | deliver => simp only [ResumeSystem.after,deliverRuntime,List.prefix_rfl]

theorem soundReached (fresh : cfg.ids.Fresh) (draws : Function.Injective cfg.ids.uuid)
    (messages : Function.Injective cfg.messageId) (positive : 0 < cfg.pageSize) (ops : List ResumeOp) :
    (ResumeSystem.reached cfg ops).runtime.begun.Nodup → Sound cfg (ResumeSystem.reached cfg ops) := by
  refine @runAlways _ _ (ResumeSystem.after cfg) (fun s => s.runtime.begun.Nodup → Sound cfg s)
    (fun s op held distinct => ?_) (.start cfg) (fun _ => ?_) ops
  · have before := distinct.sublist (begunGrows s op).sublist
    exact soundAfter fresh draws messages positive (held before) op distinct
  · refine ⟨⟨?_,List.nodup_nil,?_,?_,List.nodup_nil,?_,?_⟩,⟨rfl,rfl,?_⟩,?_,?_,rfl,?_,?_,?_⟩ <;>
      simp [ResumeSystem.start,WorkerRuntime.start,WorkerAuthorityRegistry.isCurrent,
        WorkerAuthorityRegistry.withOperationsCapacity]

end Steps

/- Nothing the processes draw is drawn twice. -/
structure FreshIds (cfg : ResumeConfig) : Prop where
  handles : cfg.ids.Fresh
  uuids : Function.Injective cfg.ids.uuid
  messages : Function.Injective cfg.messageId

/- The aggregate is the manifest and the held set of one locked read, in ascending order. -/
structure ResumeAggregate.Of (aggregate : ResumeAggregate) (locked : TransferLockedFacts) : Prop where
  transferId : aggregate.transferId = locked.transfer.id.uuid
  sealed : aggregate.sealed = locked.manifest.sealed
  digestAlgorithm : aggregate.digestAlgorithm = toWireDigestAlgorithm locked.manifest.digestAlgorithm
  chunkSize : aggregate.chunkSize = locked.manifest.chunkSize.bytes
  expectedChunkCount : aggregate.expectedChunkCount =
    if locked.manifest.sealed then locked.manifest.chunkCount else none
  ascending : (aggregate.heldChunks.map HeldChunk.chunkIndex).Pairwise (· < ·)
  held : ∀ index, index ∈ aggregate.heldChunks.map HeldChunk.chunkIndex ↔ index ∈ locked.heldChunkIndices
  digests : ∀ chunk ∈ aggregate.heldChunks, ∃ expected,
    locked.manifest.chunks[chunk.chunkIndex]? = some expected ∧ chunk.digest = expected.digest.toWireValue

def refers (cursor : LiveBinding) (snapshotId : Nat) : Prop :=
  ∃ b, cursor.binding = .resumeCursor b ∧ b.state.snapshotId = snapshotId

-- Every handle drawn so far is one of `csprng_id_source`.
def ResumeSystem.DrawsUuids (cfg : ResumeConfig) (s : ResumeSystem) : Prop :=
  ∀ n < s.runtime.drawn, ∀ kind, ∃ uuid, cfg.ids.handle n kind = csprngHandle kind uuid

/- `discover_resume` returns a discovery or an error, and an approval carries the whole held set. A snapshot or a
cursor is live while the generation of its store is current. -/
structure ResumeLaws (cfg : ResumeConfig) (s : ResumeSystem) : Prop where
  approved : ∀ query ∈ s.queries, ∀ aggregate, query.phase = .done (.ok (.approved aggregate)) →
    ∃ link q server locked, s.links[query.link]? = some link ∧ link.asked[query.request]? = some (.query q) ∧
      (query.request,server) ∈ link.authorized ∧
      (∀ other, (query.request,other) ∈ link.authorized → other = server) ∧
      server.store.transfer.loadLockedFacts ⟨q.body.transferId⟩ = .ok (some locked) ∧ aggregate.Of locked
  accounted : ∀ (i : Nat) store link, s.runtime.stores[i]? = some store → s.links[i]? = some link →
    ∀ row ∈ store.resumeSnapshots, ∃ r ∈ link.registered, r.id = row.id ∧ r.snapshot = row.snapshot
  released : ∀ query ∈ s.queries, ∀ discovery, query.phase = .done (.ok discovery) →
    ∀ store link, s.runtime.stores[query.link]? = some store → s.links[query.link]? = some link →
      s.runtime.registry.isCurrent store.generation → ∀ r ∈ link.registered, r.request = query.request →
        (∀ row ∈ store.resumeSnapshots, row.id ≠ r.id) ∧ ∀ cursor ∈ store.bindings, ¬refers cursor r.id
  paired : ∀ (i : Nat) store link, s.runtime.stores[i]? = some store → s.links[i]? = some link →
    s.runtime.registry.isCurrent store.generation → link.task = none →
      ∀ row ∈ store.resumeSnapshots, ∃! cursor, cursor ∈ store.bindings ∧ refers cursor row.id
  framed : cfg.pageSize = resumePageMaxHeldChunks → s.DrawsUuids cfg → ∀ link ∈ s.links, ∀ page ∈ link.pages,
    (encodeResumeDiscoveryPage page).utf8ByteSize ≤ maxFramePayloadBytes ∧
      ∃ frame, sendResumeDiscoveryPage page = .ok frame

section Laws
variable {cfg : ResumeConfig} {s : ResumeSystem}

theorem aggregateExact {query facts locked} {t : TransferRows}
    (loaded : t.loadLockedFacts ⟨query.body.transferId⟩ = .ok (some locked)) (read : facts.Of locked) :
    (aggregateOf query facts).Of locked := by
  obtain ⟨row,context⟩ := TransferRows.loadLockedFactsOk loaded
  have indices : (aggregateOf query facts).heldChunks.map HeldChunk.chunkIndex =
      facts.held.map ResumeHeldChunk.chunkIndex := by
    simp [aggregateOf,heldEntries,heldChunkWire,Function.comp_def]
  refine ⟨by rw [context.named]; rfl,read.sealed,by rw [← read.digestAlgorithm],read.chunkSize,
    read.expectedChunkCount,indices ▸ read.ascending,fun index => indices ▸ read.listed index,fun chunk mem => ?_⟩
  simp only [aggregateOf,heldEntries,List.map_map,List.mem_map] at mem
  obtain ⟨held,present,rfl⟩ := mem
  exact read.digests held present

theorem lawApproved (sound : Sound cfg s) {query} (mem : query ∈ s.queries) {aggregate : ResumeAggregate}
    (done : query.phase = .done (.ok (.approved aggregate))) :
    ∃ link q server locked, s.links[query.link]? = some link ∧ link.asked[query.request]? = some (.query q) ∧
      (query.request,server) ∈ link.authorized ∧
      (∀ other, (query.request,other) ∈ link.authorized → other = server) ∧
      server.store.transfer.loadLockedFacts ⟨q.body.transferId⟩ = .ok (some locked) ∧ aggregate.Of locked := by
  obtain ⟨store,link,stored,linked,phase⟩ := sound.queries query mem
  rw [done] at phase
  obtain ⟨q,facts,⟨asked,server,locked,decided,loaded,read⟩,rfl,_⟩ := phase
  refine ⟨link,q,server,locked,linked,asked,decided,fun other also => ?_,loaded,aggregateExact loaded read⟩
  have once := (sound.links _ store link stored linked).ledger.once
  exact congrArg Prod.snd (List.inj_on_of_nodup_map once also decided rfl)

theorem lawReleased (sound : Sound cfg s) {query} (mem : query ∈ s.queries)
    {discovery} (done : query.phase = .done (.ok discovery))
    {store link} (stored : s.runtime.stores[query.link]? = some store)
    (linked : s.links[query.link]? = some link) (current : s.runtime.registry.isCurrent store.generation)
    {r} (registered : r ∈ link.registered) (request : r.request = query.request) :
    (∀ row ∈ store.resumeSnapshots, row.id ≠ r.id) ∧ ∀ cursor ∈ store.bindings, ¬refers cursor r.id := by
  obtain ⟨store',link',stored',linked',phase⟩ := sound.queries query mem
  cases Option.some.inj (stored.symm.trans stored')
  cases Option.some.inj (linked.symm.trans linked')
  have released : Released (s.runtime.book query.link store) link query.request := by
    rw [done] at phase
    cases discovery with
    | denied => exact phase
    | approved aggregate =>
      obtain ⟨_,_,_,_,released⟩ := phase
      exact released
  obtain ⟨snapshots,live,_⟩ := released.2 r registered request current
  refine ⟨fun row filed same => ?_,fun cursor filed refers => ?_⟩
  · exact snapshots row.snapshot (same ▸ filed)
  · obtain ⟨b,bound,same⟩ := refers
    refine live (cursor.handle,b) ?_ same
    change (⟨cursor.handle,.resumeCursor b⟩ : LiveBinding) ∈ store.bindings
    rw [← bound]
    exact filed

theorem lawPaired (sound : Sound cfg s) {i : Nat} {store link}
    (stored : s.runtime.stores[i]? = some store) (linked : s.links[i]? = some link)
    (current : s.runtime.registry.isCurrent store.generation) (idle : link.task = none) {row}
    (filed : row ∈ store.resumeSnapshots) : ∃! cursor, cursor ∈ store.bindings ∧ refers cursor row.id := by
  obtain ⟨c,⟨live,same⟩,unique⟩ := (sound.links i store link stored linked).paired current (row.id,row.snapshot) filed
    (by simp [idle])
  refine ⟨⟨c.1,.resumeCursor c.2⟩,⟨live,c.2,rfl,same⟩,fun cursor referring => ?_⟩
  obtain ⟨present,b,bound,points⟩ := referring
  have there : (⟨cursor.handle,.resumeCursor b⟩ : LiveBinding) ∈ store.bindings := by
    rw [← bound]
    exact present
  have one := unique (cursor.handle,b) ⟨there,points⟩
  rw [← one,← bound]

theorem authorizedNarrow {link : ResumeLink} {k query facts}
    (authorized : link.Authorized k query facts) : facts.Narrow := by
  obtain ⟨_,server,locked,_,loaded,read⟩ := authorized
  exact factsNarrow loaded read

theorem sliceNarrow {facts} (narrow : facts.Narrow) {start stop count}
    (few : min stop (heldEntries facts).length - start ≤ count) :
    (slice (heldEntries facts) start stop).length ≤ count ∧ ∀ chunk ∈ slice (heldEntries facts) start stop, chunk.Narrow := by
  refine ⟨?_,fun chunk mem => ?_⟩
  · simp only [slice,List.length_map,List.length_drop,List.length_take]
    exact few
  · obtain ⟨entry,inside,rfl⟩ := List.mem_map.mp mem
    obtain ⟨held,present,rfl⟩ := List.mem_map.mp (List.mem_of_mem_take (List.mem_of_mem_drop inside))
    exact narrow.held held present

theorem answerNarrow {book : CursorBook} {link} (old : LinkSound cfg book link)
    (handles : BookSound cfg.ids book)
    (drawn : ∀ n < book.drawn, ∀ kind, ∃ uuid, cfg.ids.handle n kind = csprngHandle kind uuid) {k request page}
    (answer : AnswerSound cfg.pageSize book link k request page) : page.Narrow cfg.pageSize := by
  have cursors : ∀ {c b}, (c,b) ∈ book.issued →
      ∃ chars, c = String.ofList chars ∧ Text.Plain chars ∧ chars.length = 36 := by
    intro c b issued
    obtain ⟨n,before,kind,named⟩ := handles.named _ issued
    obtain ⟨uuid,same⟩ := drawn n before kind
    obtain ⟨chars,text,facts⟩ := csprngHandlePlain kind uuid
    exact ⟨chars,named.trans (same.trans text),facts⟩
  have first : ∀ {query facts held cursor}, facts.Narrow →
      (held.length ≤ cfg.pageSize ∧ ∀ chunk ∈ held, chunk.Narrow) →
      (∀ c ∈ cursor, ∃ chars, c = String.ofList chars ∧ Text.Plain chars ∧ chars.length = 36) →
        (firstPageOf query facts held cursor).Narrow cfg.pageSize := by
    intro query facts held cursor narrow listed named
    refine ⟨fun size same => ?_,narrow.expectedChunkCount,fun list same => ?_,named⟩
    · cases same
      exact narrow.chunkSize
    · cases same
      exact listed
  have later : ∀ {id held cursor}, (held.length ≤ cfg.pageSize ∧ ∀ chunk ∈ held, HeldChunk.Narrow chunk) →
      (∀ c ∈ cursor, ∃ chars, c = String.ofList chars ∧ Text.Plain chars ∧ chars.length = 36) →
        (ResumeDiscoveryPageBody.continuationPage id held cursor).Narrow cfg.pageSize := by
    intro id held cursor listed named
    refine ⟨fun _ same => ?_,fun _ same => ?_,fun list same => ?_,named⟩
    · cases same
    · cases same
    · cases same
      exact listed
  have refused : ∀ id, (ResumeDiscoveryPageBody.denied id).Narrow cfg.pageSize := by
    intro id
    refine ⟨fun _ same => ?_,fun _ same => ?_,fun _ same => ?_,fun _ same => ?_⟩
    all_goals cases same
  have stored : ∀ r ∈ link.registered, ∃ facts, facts.Narrow ∧ r.snapshot.held = heldEntries facts := by
    intro r mem
    obtain ⟨query,facts,authorized,same⟩ := old.ledger.origin r mem
    exact ⟨facts,authorizedNarrow authorized,by rw [same]; rfl⟩
  cases answer with
  | denied => exact refused _
  | @whole query facts authorized fits =>
    have narrow := authorizedNarrow authorized
    have listed := @sliceNarrow facts narrow 0 (heldEntries facts).length cfg.pageSize (by omega)
    rw [slice,List.take_length,List.drop_zero] at listed
    exact first narrow listed (by simp)
  | first authorized registered request snapshot issued =>
    have narrow := authorizedNarrow authorized
    refine first narrow (sliceNarrow narrow (by omega)) fun c same => ?_
    cases same
    exact cursors issued
  | refused => exact refused _
  | @middle next r b b' n cursor registered issued stands issued' =>
    obtain ⟨facts,narrow,same⟩ := stored r registered
    rw [same]
    refine later (sliceNarrow narrow (by omega)) fun c equal => ?_
    cases equal
    exact cursors issued'
  | @last next r b n registered issued stands ends =>
    obtain ⟨facts,narrow,same⟩ := stored r registered
    rw [same] at ends ⊢
    exact later (sliceNarrow narrow (by omega)) (by simp)

theorem lawFramed (sound : Sound cfg s) (standard : cfg.pageSize = resumePageMaxHeldChunks)
    (drawn : s.DrawsUuids cfg) {link} (mem : link ∈ s.links) {page} (sent : page ∈ link.pages) :
    (encodeResumeDiscoveryPage page).utf8ByteSize ≤ maxFramePayloadBytes ∧
      ∃ frame, sendResumeDiscoveryPage page = .ok frame := by
  obtain ⟨i,linked⟩ := List.mem_iff_getElem?.mp mem
  obtain ⟨store,stored⟩ := storeOf sound linked
  have old := sound.links i store link stored linked
  obtain ⟨k,at_⟩ := List.mem_iff_getElem?.mp sent
  obtain ⟨version,request,_,answer⟩ := old.pages k page at_
  have narrow := answerNarrow old (bookSound sound.handles stored) drawn answer
  rw [standard] at narrow
  refine ⟨?_,_,sendsPage version narrow le_rfl⟩
  have size := encodedPageSize version narrow
  unfold resumePageMaxHeldChunks at size
  unfold maxFramePayloadBytes
  omega

end Laws

theorem resumeDiscoveryExact (cfg : ResumeConfig) (positive : 0 < cfg.pageSize) (fresh : FreshIds cfg)
    (ops : List ResumeOp) (generations : (ResumeSystem.reached cfg ops).runtime.begun.Nodup) :
    ResumeLaws cfg (ResumeSystem.reached cfg ops) := by
  have sound := soundReached fresh.handles fresh.uuids fresh.messages positive ops generations
  exact ⟨fun _ mem _ done => lawApproved sound mem done,
    fun i store link stored linked row filed => (sound.links i store link stored linked).ledger.snapshots
      (row.id,row.snapshot) filed,
    fun _ mem _ done _ _ stored linked current _ registered request =>
      lawReleased sound mem done stored linked current registered request,
    fun _ _ _ stored linked current idle _ filed => lawPaired sound stored linked current idle filed,
    fun standard drawn _ mem _ sent => lawFramed sound standard drawn mem sent⟩

-- Three one-byte chunks of one Transfer are held.
def threeHeld : Store :=
  (run Gateway.after .empty (transferInProgress ++
    [0,1,2].map fun index => .acceptChunk ⟨3⟩ index zeroDigest 1)).store

def activeEndpoint : EndpointAggregate where
  id := ⟨0⟩
  inventorySignal := "signal"
  identity := .enrolled
  credential := ⟨⟨⟨.filled 16 1⟩,⟨.filled 16 0,.filled 32 0⟩,0,1000⟩,none,false⟩
  hardwareConfidence := .initial
  currentBoot := none
  createdAt := 0
  updatedAt := 0

def activeStore : EndpointStore :=
  ⟨⟨⟨[activeEndpoint.row none],List.nodup_singleton _⟩,⟨[activeEndpoint.credentialRow],List.nodup_singleton _⟩,
    ⟨activeEndpoint.credential.lookupRows ⟨0⟩,by decide⟩,.empty,.empty⟩,by decide⟩

def grantingWorld : World where
  capabilities := ((CapabilityStore.withCapacity 0 1).issue (.fromTokenBytes tailCrypto "token")
    ⟨⟨0⟩,⟨3⟩,⟨4⟩,.agentToServer,⟨5⟩,[],1000,0⟩).1
  server := ⟨threeHeld,activeStore,.new⟩
  now := 0
  replay := .withCapacity 1

def heldQuery : ResumeDiscoveryQueryBody :=
  match discovery (proofNamed 1) 0 with
  | .authorize input => ⟨input.token,input.transferId.uuid,input.proofId,input.issuedAtMillis,input.signature⟩
  | _ => ⟨"",0,"",0,""⟩

def QueryPhase.approvedIndices : QueryPhase → List Nat
  | .done (.ok (.approved aggregate)) => aggregate.heldChunks.map HeldChunk.chunkIndex
  | _ => []

def singlePages : ResumeConfig := ⟨tailCrypto,unaryIds,fun n => 4 * 2 ^ 76 + 2 * 2 ^ 62 + n,1,8⟩

def pagedRun : List ResumeOp :=
  [.accept 1,.attach 0,.discover heldQuery,.serve 0 grantingWorld,.step 0,.step 0,.deliver,
    .serve 0 grantingWorld,.step 0,.step 0,.step 0,.deliver,.serve 0 grantingWorld,.step 0,.step 0,.step 0,.step 0,
    .deliver]

theorem singlePagesFresh : FreshIds singlePages :=
  ⟨unaryFresh,Function.injective_id,fun m n same => by simpa [singlePages] using same⟩

theorem resumeDiscoveryExactPaged :
    let s := ResumeSystem.reached singlePages pagedRun
    s.queries.map (QueryPhase.approvedIndices ∘ ResumeQuery.phase) = [[0,1,2]] ∧ ResumeLaws singlePages s :=
  ⟨by decide +kernel,resumeDiscoveryExact singlePages (by decide) singlePagesFresh pagedRun (by decide +kernel)⟩

end Bamep.ResumeExchange
