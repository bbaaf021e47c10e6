import Bamep.Application.ResumeDiscovery
import Bamep.Runtime.ResumeCursors
import Bamep.Worker.Control

/-! Resume discovery between the Worker and `bamepd`. Each connection is served by its own loop, one message at a
time; a step is one call of its store, so the steps of other connections and of the registry fall between any two of
them. A lost connection is one whose remaining messages are never taken up. -/
namespace Bamep.ResumeExchange
open Relational Transition WorkerProtocol WorkerControl

def toWireDigestAlgorithm : DigestAlgorithm → WireDigestAlgorithm
  | .sha256 => .sha256

def heldChunkWire (entry : HeldChunkEntry) : HeldChunk := ⟨entry.chunkIndex,entry.digest⟩

def heldEntries (facts : ResumeSnapshotFacts) : List HeldChunkEntry :=
  facts.held.map fun chunk => ⟨chunk.chunkIndex,chunk.digestWire⟩

def slice (held : List HeldChunkEntry) (start stop : Nat) : List HeldChunk :=
  ((held.take stop).drop start).map heldChunkWire

-- `held[stop - 1].chunk_index + 1`; where it is used `stop` is positive and within the list.
def nextChunkIndex (held : List HeldChunkEntry) (stop : Nat) : Nat :=
  held[stop - 1]?.elim 0 HeldChunkEntry.chunkIndex + 1

def partitionPoint (held : List HeldChunkEntry) (nextChunkIndex : Nat) : Nat :=
  held.findIdx fun entry => !(entry.chunkIndex < nextChunkIndex)

def resumePageMaxHeldChunks : Nat := 8192

/- Where a handler stands: each constructor is the call it makes next. -/
inductive ResumeTask where
  | registering (query : Message ResumeDiscoveryQueryBody) (facts : ResumeSnapshotFacts)
  | minting (query : Message ResumeDiscoveryQueryBody) (facts : ResumeSnapshotFacts) (snapshotId : Nat)
  | looking (next : Message ResumeDiscoveryContinueBody)
  | reading (next : Message ResumeDiscoveryContinueBody) (binding : ResumeCursorBinding)
  | advancing (next : Message ResumeDiscoveryContinueBody) (binding : ResumeCursorBinding) (snapshot : ResumeSnapshot)
  | releasing (page : ResumeDiscoveryPageBody) (snapshotId : Nat)
  deriving DecidableEq, Repr

inductive Progress where
  | working (task : ResumeTask)
  | replying (page : ResumeDiscoveryPageBody)
  deriving DecidableEq, Repr

section Handlers
variable (query : Message ResumeDiscoveryQueryBody) (facts : ResumeSnapshotFacts)

def storedSnapshot : ResumeSnapshot :=
  ⟨⟨query.body.transferId⟩,facts.sealed,facts.digestAlgorithm,facts.chunkSize,facts.expectedChunkCount,
    heldEntries facts⟩

def firstPageOf (held : List HeldChunk) (cursor : Option String) : ResumeDiscoveryPageBody :=
  .firstPage query.envelope.messageId query.body.transferId facts.sealed (toWireDigestAlgorithm facts.digestAlgorithm)
    facts.chunkSize facts.expectedChunkCount held cursor

def queryInput : WorkerAuthorizationQueryInput :=
  ⟨query.body.token,.resumeDiscovery,⟨query.body.transferId⟩,none,query.body.proofId,query.body.issuedAt,
    query.body.signature⟩

/- `handle_resume_discovery_query` up to its first store call. -/
def handleResumeDiscoveryQuery (pageSize : Nat) : Except RepositoryError ResumeAuthorizationOutcome → Progress
  | .ok (.approved facts) =>
    let pageEnd := min pageSize (heldEntries facts).length
    if pageEnd < (heldEntries facts).length then .working (.registering query facts)
    else .replying (firstPageOf query facts (slice (heldEntries facts) 0 pageEnd) none)
  | .ok .denied | .error _ => .replying (.denied query.envelope.messageId)

end Handlers

namespace ResumeTask
variable (pageSize : Nat)

-- The first and the end of the page a continuation is answered with.
def bounds (binding : ResumeCursorBinding) (snapshot : ResumeSnapshot) : Nat × Nat :=
  let start := partitionPoint snapshot.held binding.state.nextChunkIndex
  (start,min (start + pageSize) snapshot.held.length)

def call : ResumeTask → StoreCall
  | .registering query facts => .registerResumeSnapshot (storedSnapshot query facts)
  | .minting query facts snapshotId => .mintResumeCursor ⟨⟨query.body.transferId⟩,query.body.proofId,
      ⟨snapshotId,nextChunkIndex (heldEntries facts) (min pageSize (heldEntries facts).length)⟩⟩
  | .looking next => .resumeCursorBinding next.body.resumeCursor
  | .reading _ binding => .resumeSnapshot binding.state.snapshotId
  | .advancing next binding snapshot =>
    let stop := (bounds pageSize binding snapshot).2
    .advanceResumeCursor next.body.resumeCursor binding.transferId
      (if stop < snapshot.held.length then
        some ⟨binding.state.snapshotId,nextChunkIndex snapshot.held stop⟩ else none)
  | .releasing _ snapshotId => .dropResumeSnapshot snapshotId

/- What follows the answer of the call; every refusal is alike. -/
def proceed (answer : Option StoreAnswer) : ResumeTask → Progress
  | .registering query facts =>
    match answer with
    | some (.registered snapshotId) => .working (.minting query facts snapshotId)
    | _ => .replying (.denied query.envelope.messageId)
  | .minting query facts snapshotId =>
    match answer with
    | some (.minted cursor) => .replying (firstPageOf query facts
        (slice (heldEntries facts) 0 (min pageSize (heldEntries facts).length)) (some cursor))
    | _ => .working (.releasing (.denied query.envelope.messageId) snapshotId)
  | .looking next =>
    match answer with
    | some (.read (some (.resumeCursor binding))) => .working (.reading next binding)
    | _ => .replying (.denied next.envelope.messageId)
  | .reading next binding =>
    match answer with
    | some (.snapshot (some snapshot)) => .working (.advancing next binding snapshot)
    | _ => .replying (.denied next.envelope.messageId)
  | .advancing next binding snapshot =>
    let (start,stop) := bounds pageSize binding snapshot
    let held := slice snapshot.held start stop
    let denied := Progress.working (.releasing (.denied next.envelope.messageId) binding.state.snapshotId)
    if stop < snapshot.held.length then
      match answer with
      | some (.advanced (some successor)) => .replying (.continuationPage next.envelope.messageId held (some successor))
      | _ => denied
    else
      match answer with
      | some (.advanced none) => .working (.releasing (.continuationPage next.envelope.messageId held none)
          binding.state.snapshotId)
      | _ => denied
  | .releasing page _ => .replying page

end ResumeTask

inductive ResumeRequest where
  | query (m : Message ResumeDiscoveryQueryBody)
  | next (m : Message ResumeDiscoveryContinueBody)
  deriving DecidableEq, Repr

def ResumeRequest.messageId : ResumeRequest → Uuid
  | .query m => m.envelope.messageId
  | .next m => m.envelope.messageId

structure Registered where
  request : Nat
  id : Nat
  snapshot : ResumeSnapshot
  deriving DecidableEq, Repr

/- One connection: what the Worker wrote, how far the loop has come, the pages handed to `send`, and how many of
them the Worker has read. Beside it, the durable state each query was decided on, and the snapshots registered for
them. -/
structure ResumeLink where
  asked : List ResumeRequest
  served : Nat
  task : Option ResumeTask
  pages : List (Message ResumeDiscoveryPageBody)
  received : Nat
  closed : Bool
  authorized : List (Nat × Server)
  registered : List Registered

def ResumeLink.opened : ResumeLink := ⟨[],0,none,[],0,false,[],[]⟩

structure ResumeAggregate where
  transferId : Uuid
  sealed : Bool
  digestAlgorithm : WireDigestAlgorithm
  chunkSize : Nat
  expectedChunkCount : Option Nat
  heldChunks : List HeldChunk
  deriving DecidableEq, Repr

inductive ResumeDiscovery where
  | approved (aggregate : ResumeAggregate)
  | denied
  deriving DecidableEq, Repr

/- `discover_resume`: waiting for the first page, waiting for a later one, or returned. -/
inductive QueryPhase where
  | first (awaited : Uuid)
  | rest (awaited : Uuid) (first : ResumeFirstPage) (held : List HeldChunk)
  | done (result : Except ControlError ResumeDiscovery)

def QueryPhase.awaited : QueryPhase → Option Uuid
  | .first awaited | .rest awaited .. => some awaited
  | .done _ => none

structure ResumeQuery where
  link : Nat
  request : Nat
  phase : QueryPhase

structure ResumeConfig where
  crypto : Crypto
  ids : IdSource
  messageId : Nat → Uuid
  pageSize : Nat
  operationsCapacity : Nat

/- What a query is authorized against. -/
structure World where
  capabilities : CapabilityStore
  server : Server
  now : Instant
  replay : ReplayCache

structure ResumeSystem where
  runtime : WorkerRuntime
  links : List ResumeLink
  current : Option Nat
  queries : List ResumeQuery
  messages : Nat

inductive ResumeOp where
  | accept (workerInstanceId : Nat)
  | setCurrentOperations (generation : ConnectionGeneration) (store : Nat)
  | endGeneration (generation : ConnectionGeneration)
  | close (link : Nat)
  | attach (link : Nat)
  | detach
  | handle (link : Nat) (call : StoreCall)
  | discover (input : ResumeDiscoveryQueryBody)
  | fail (query : Nat) (error : ControlError)
  | serve (link : Nat) (world : World)
  | step (link : Nat)
  | deliver

namespace ResumeSystem
variable (cfg : ResumeConfig) (s : ResumeSystem)

def start : ResumeSystem := ⟨.start cfg.operationsCapacity,[],none,[],0⟩

def setLink (i : Nat) (link : ResumeLink) : ResumeSystem := { s with links := s.links.set i link }

-- A page too large for a frame is not written, and the loop ends.
def reply (i : Nat) (link : ResumeLink) : Progress → ResumeSystem
  | .working task => s.setLink i { link with task := some task }
  | .replying page =>
    let message : Message ResumeDiscoveryPageBody := ⟨.new (cfg.messageId s.messages),page⟩
    { s.setLink i { link with
        task := none
        pages := link.pages ++ [message]
        closed := link.closed || !(sendResumeDiscoveryPage message).isOk } with
      messages := s.messages + 1 }

def serve (i : Nat) (world : World) : ResumeSystem :=
  match s.links[i]? with
  | none => s
  | some link =>
    if link.closed || link.task.isSome then s
    else match link.asked[link.served]? with
      | none => s
      | some (.query query) =>
        s.reply cfg i { link with
            served := link.served + 1, authorized := link.authorized ++ [(link.served,world.server)] }
          (handleResumeDiscoveryQuery query cfg.pageSize (authorizeResumeDiscovery cfg.crypto world.capabilities
            world.server world.now world.replay (queryInput query)).2)
      | some (.next next) => s.reply cfg i { link with served := link.served + 1 } (.working (.looking next))

def newlyRegistered (link : ResumeLink) : ResumeTask → Option StoreAnswer → List Registered
  | .registering query facts,some (.registered id) => [⟨link.served - 1,id,storedSnapshot query facts⟩]
  | _,_ => []

def step (i : Nat) : ResumeSystem :=
  match s.links[i]? with
  | none => s
  | some link =>
    match link.task with
    | none => s
    | some task =>
      let call := task.call cfg.pageSize
      let answer := s.runtime.answer cfg.ids i call
      reply cfg { s with runtime := s.runtime.after cfg.ids (.call i call) } i
        { link with registered := link.registered ++ newlyRegistered link task answer }
        (task.proceed cfg.pageSize answer)

def ask (i : Nat) (link : ResumeLink) (request : ResumeRequest) : ResumeSystem :=
  { s.setLink i { link with asked := link.asked ++ [request] } with messages := s.messages + 1 }

def setPhase (j : Nat) (query : ResumeQuery) (phase : QueryPhase) : ResumeSystem :=
  { s with queries := s.queries.set j { query with phase := phase } }

-- The loop of `discover_resume`: `held` so far, and the cursor of the last page.
def continueQuery (j : Nat) (query : ResumeQuery) (first : ResumeFirstPage) (held : List HeldChunk) :
    Option String → ResumeSystem
  | none => s.setPhase j query (.done (.ok (.approved ⟨first.transferId,first.sealed,first.digestAlgorithm,
      first.chunkSize,first.expectedChunkCount,held⟩)))
  | some cursor =>
    match s.links[query.link]? with
    | none => s
    | some link =>
      if s.current ≠ some query.link then s.setPhase j query (.done (.error .generationChanged))
      else
        let messageId := cfg.messageId s.messages
        (s.ask query.link link (.next ⟨.new messageId,⟨cursor⟩⟩)).setPhase j query (.rest messageId first held)

def resolve (j : Nat) (query : ResumeQuery) (page : ResumeDiscoveryPageBody) : ResumeSystem :=
  match query.phase with
  | .first _ =>
    if page.decision = .denied then s.setPhase j query (.done (.ok .denied))
    else match page.approvedFirstPage with
      | .error _ => s.setPhase j query (.done (.error .correlationViolation))
      | .ok first => s.continueQuery cfg j query first first.heldChunks first.resumeCursor
  | .rest _ first held =>
    if page.decision = .denied then s.setPhase j query (.done (.error .resumePageUnavailable))
    else match page.approvedContinuationPage with
      | .error _ => s.setPhase j query (.done (.error .correlationViolation))
      | .ok next => s.continueQuery cfg j query first (held ++ next.heldChunks) next.resumeCursor
  | .done _ => s

-- The query the page answers, if its caller still waits.
def awaiting (i : Nat) (messageId : Uuid) : Option Nat :=
  s.queries.findIdx? fun query => query.link = i && query.phase.awaited = some messageId

-- A page that does not decode, or is not classified as a response, ends the connection.
def deliver : ResumeSystem :=
  match s.current with
  | none => s
  | some i =>
    match s.links[i]? with
    | none => s
    | some link =>
      match link.pages[link.received]? with
      | none => s
      | some page =>
        if !(sendResumeDiscoveryPage page).isOk then s
        else
          let read := s.setLink i { link with received := link.received + 1 }
          match page.body.validateShape,classifyInbound (.resumeDiscoveryPage page) with
          | .ok _,.response messageId (.resumePage m) =>
            match read.awaiting i messageId with
            | none => read
            | some j =>
              match read.queries[j]? with
              | none => read
              | some query => read.resolve cfg j query m.body
          | _,_ => { read with current := none }

def discover (input : ResumeDiscoveryQueryBody) : ResumeSystem :=
  match s.current with
  | none => s
  | some i =>
    match s.links[i]? with
    | none => s
    | some link =>
      let messageId := cfg.messageId s.messages
      let asked := s.ask i link (.query ⟨.new messageId,input⟩)
      { asked with queries := asked.queries ++ [⟨i,link.asked.length,.first messageId⟩] }

def after : ResumeOp → ResumeSystem
  | .accept workerInstanceId =>
    let begun := s.runtime.after cfg.ids (.beginGeneration workerInstanceId)
    { s with
      runtime := begun.after cfg.ids (.newStore (s.runtime.registry.beginGeneration workerInstanceId).2
        s.runtime.registry.operationsCapacity none)
      links := s.links ++ [.opened] }
  | .setCurrentOperations generation store =>
    { s with runtime := s.runtime.after cfg.ids (.setCurrentOperations generation store) }
  | .endGeneration generation => { s with runtime := s.runtime.after cfg.ids (.endGeneration generation) }
  | .close i =>
    match s.links[i]? with
    | none => s
    | some link => s.setLink i { link with closed := true }
  | .attach i => { s with current := if i < s.links.length then some i else none }
  | .detach => { s with current := none }
  | .handle i call =>
    if call.resumes then s else { s with runtime := s.runtime.after cfg.ids (.call i call) }
  | .discover input => s.discover cfg input
  | .fail j error =>
    match s.queries[j]? with
    | none => s
    | some query => if query.phase.awaited.isNone then s else s.setPhase j query (.done (.error error))
  | .serve i world => s.serve cfg i world
  | .step i => s.step cfg i
  | .deliver => s.deliver cfg

def reached (ops : List ResumeOp) : ResumeSystem := run (after cfg) (start cfg) ops

end ResumeSystem
end Bamep.ResumeExchange
