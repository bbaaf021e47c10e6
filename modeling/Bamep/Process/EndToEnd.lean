import Bamep.Process.ChunkTransfer
import Bamep.Process.Reconstruction

/-! What the data plane keeps in every reachable state. A digest that travels is that of a final file,
or of the files of a Transfer in index order, and a verification handle belongs to one request, whose
binding it is. The rows and the answers follow from that, one step of one request at a time. -/
namespace Bamep
open Relational Transition

/- The first `count` final files of a Transfer, one after the other. -/
def Hashed (files : ChunkFiles) (transferId : TransferId) (count : Nat) (hashed : List UInt8) : Prop :=
  ∃ contents : Nat → List UInt8, (∀ i < count, files transferId i = some (contents i)) ∧
    hashed = (List.range count).flatMap contents

def HttpAnswer.Backed (t : TransferRows) : HttpAnswer → Prop
  | .chunkAccepted transferId chunkIndex digest | .chunkAlreadyHeld transferId chunkIndex digest =>
    ∃ c, t.HeldAt transferId chunkIndex c ∧ Base64Url.encode c.digest = digest
  | .sealResult transferId artifactId verified => t.Owns transferId artifactId ∧
    ∃ a ∈ t.artifacts, a.id = artifactId ∧ a.state = if verified then .verified else .failed

-- The final file of a chunk row has the recorded size and digest.
def Processes.Files (sha256 : Sha256) (p : Processes) (c : ChunkRow) : Prop :=
  ∃ transferId, p.stored.Owns transferId c.artifactId ∧ ∃ content,
    p.files transferId c.chunkIndex.toNat = some content ∧ (content.length : Int) = c.size ∧
      (sha256 content).val = c.digest

-- The sealed digest of an Artifact is that of the final files of its Transfer.
def Processes.Matches (sha256 : Sha256) (p : Processes) (artifactId : ArtifactId) : Prop :=
  ∃ transferId, p.stored.Owns transferId artifactId ∧ ∃ m ∈ p.stored.manifests, m.artifactId = artifactId ∧
    m.sealed = true ∧ ∃ (count : Nat) (hashed : List UInt8), m.chunkCount = some (count : Int) ∧
      Hashed p.files transferId count hashed ∧ m.artifactDigest = some (sha256 hashed).val

structure Processes.Settled (sha256 : Sha256) (p : Processes) : Prop where
  keeping : p.gateway.Keeping
  filed : ∀ c ∈ p.stored.chunks, p.Files sha256 c
  verified : ∀ a ∈ p.stored.artifacts, a.state = .verified → p.Matches sha256 a.id
  answered : ∀ answer ∈ p.answers, answer.Backed p.stored

/- What one step leaves as it was, but for the handle `lost`. -/
structure Processes.Follows (lost : Option VerificationTicket) (p p' : Processes) : Prop where
  files : p.files.Keeps p'.files
  live : ∀ ticket : VerificationTicket, some ticket ≠ lost → ∀ binding,
    p.runtime.Live ticket.connection ticket.handle binding → p'.runtime.Live ticket.connection ticket.handle binding
  preserves : Preserves p.stored p'.stored
  owns : ∀ transferId artifactId, p.stored.Owns transferId artifactId → p'.stored.Owns transferId artifactId

section Follows
variable {lost : Option VerificationTicket} {p p' : Processes} {sha256 : Sha256}

theorem followsRefl (p : Processes) : p.Follows lost p :=
  ⟨fun _ _ _ found => found,fun _ _ _ live => live,preservesRefl _,fun _ _ owns => owns⟩

theorem backedFollows (follows : p.Follows lost p') {answer : HttpAnswer} (backed : answer.Backed p.stored) :
    answer.Backed p'.stored := by
  have held : ∀ transferId chunkIndex digest,
      (∃ c, p.stored.HeldAt transferId chunkIndex c ∧ Base64Url.encode c.digest = digest) →
      ∃ c, p'.stored.HeldAt transferId chunkIndex c ∧ Base64Url.encode c.digest = digest := by
    rintro transferId chunkIndex digest ⟨c,held,same⟩
    obtain ⟨c',stored,kept,still⟩ := follows.preserves.recorded c held.stored
    refine ⟨c',⟨stored,?_,?_,still held.held⟩,?_⟩
    · rw [kept]
      exact follows.owns _ _ held.owned
    · rw [kept]
      exact held.index
    · rw [kept]
      exact same
  cases answer with
  | chunkAccepted | chunkAlreadyHeld => exact held _ _ _ backed
  | sealResult transferId artifactId verified =>
    obtain ⟨owns,a,stored,named,state⟩ := backed
    refine ⟨follows.owns _ _ owns,a,follows.preserves.absorbing a stored ?_,named,state⟩
    rw [state]
    cases verified
    · exact .inr rfl
    · exact .inl rfl

theorem hashedKeeps {files files'} (keeps : files.Keeps files') {transferId count hashed}
    (read : Hashed files transferId count hashed) : Hashed files' transferId count hashed := by
  obtain ⟨contents,found,same⟩ := read
  exact ⟨contents,fun i below => keeps _ _ _ (found i below),same⟩

theorem hashedNext {files transferId count hashed content}
    (read : Hashed files transferId count hashed) (found : files transferId count = some content) :
    Hashed files transferId (count + 1) (hashed ++ content) := by
  obtain ⟨contents,earlier,rfl⟩ := read
  have below : ∀ i < count, contents i = (files transferId i).getD [] := by
    intro i inside
    rw [earlier i inside]
    rfl
  refine ⟨fun i => (files transferId i).getD [],fun i inside => ?_,?_⟩
  · rcases Nat.lt_succ_iff_lt_or_eq.mp inside with inside | rfl
    · simp only
      rw [earlier i inside]
      rfl
    · simp only
      rw [found]
      rfl
  · rw [List.range_succ,List.flatMap_append,List.flatMap_singleton,found]
    congr 1
    exact List.flatMap_congr fun i mem => below i (List.mem_range.mp mem)

end Follows
section Requests

def DataPlaneRoute.transferId : DataPlaneRoute → TransferId
  | .chunkUpload transferId .. | .sealManifest transferId .. => transferId

def DataPlaneRoute.Uploads (route : DataPlaneRoute) (transferId : TransferId) (chunkIndex : Nat) (digest : String) :
    Prop :=
  ∃ proofId, route = .chunkUpload transferId chunkIndex proofId digest

-- The ticket's handle is live under a binding of this Transfer and count.
def Processes.Binds (p : Processes) (ticket : VerificationTicket) (transferId : TransferId) (chunkCount : Nat) : Prop :=
  ∃ binding, p.runtime.Live ticket.connection ticket.handle binding ∧ binding.transferId = transferId ∧
    binding.chunkCount = chunkCount

variable (sha256 : Sha256) (p : Processes) (route : DataPlaneRoute)

def Computed (transferId : TransferId) (count : Nat) (digest : String) : Prop :=
  ∃ hashed, Hashed p.files transferId count hashed ∧ Sha256Digest.toBase64urlNoPad (sha256 hashed) = digest

def HandlerPhase.Sound : HandlerPhase → Prop
  | .staging ticket chunk => (∃ digest, route.Uploads ticket.transferId ticket.chunkIndex digest) ∧
    chunk.transferId = ticket.transferId ∧ chunk.chunkIndex = ticket.chunkIndex
  | .finalized ticket size digest => route.Uploads ticket.transferId ticket.chunkIndex digest ∧
    Filed sha256 p.files ticket.transferId ticket.chunkIndex size digest
  | .rereading success next hashed _ => p.Binds success.verificationTicket route.transferId success.chunkCount ∧
    p.stored.Owns route.transferId success.artifactId ∧ Hashed p.files route.transferId next hashed ∧
    next ≤ success.chunkCount
  | .computed success digest => p.Binds success.verificationTicket route.transferId success.chunkCount ∧
    p.stored.Owns route.transferId success.artifactId ∧
    Computed sha256 p route.transferId success.chunkCount digest
  | .reporting artifactId => p.stored.Owns route.transferId artifactId
  | .authorizing | .detached _ | .committing | .sealing | .ended => True

def Exchange.Sound : Exchange → Prop
  | .chunkAcceptanceRequest _ _ transferId chunkIndex digest size | .accepting transferId chunkIndex digest size =>
    route.Uploads transferId chunkIndex digest ∧ Filed sha256 p.files transferId chunkIndex size digest
  | .chunkAcceptance commit => commit = .committed ∨ commit = .alreadyCommitted → ∀ transferId chunkIndex digest,
    route.Uploads transferId chunkIndex digest →
      (HttpAnswer.chunkAccepted transferId chunkIndex digest).Backed p.stored
  | .minting _ facts => p.stored.Owns route.transferId facts.artifactId
  | .manifestSeal connection handle facts => p.Binds ⟨connection,handle⟩ route.transferId facts.chunkCount ∧
    p.stored.Owns route.transferId facts.artifactId
  | .artifactVerificationReport connection handle computed => ∃ count,
    p.Binds ⟨connection,handle⟩ route.transferId count ∧ Computed sha256 p route.transferId count computed
  | .verifying binding computed => binding.transferId = route.transferId ∧
    Computed sha256 p route.transferId binding.chunkCount computed
  | .artifactVerification verified => ∃ artifactId,
    (HttpAnswer.sealResult route.transferId artifactId verified).Backed p.stored
  | .authorizationQuery _ | .authorizationApproved .. | .authorizationDenied | .manifestSealRequest _
  | .manifestSealRefused _ => True

/- The verification handle in the hands of a phase or an exchange. -/
def HandlerPhase.ticket : HandlerPhase → Option VerificationTicket
  | .rereading success .. | .computed success _ => some success.verificationTicket
  | _ => none

def Exchange.ticket : Exchange → Option VerificationTicket
  | .manifestSeal connection handle _ | .artifactVerificationReport connection handle _ => some ⟨connection,handle⟩
  | _ => none

def HttpRequest.ticket (request : HttpRequest) : Option VerificationTicket :=
  match request.exchange with
  | some exchange => exchange.ticket
  | none => request.phase.ticket

structure HttpRequest.Sound (request : HttpRequest) : Prop where
  phase : request.phase.Sound sha256 p request.route
  exchange : ∀ exchange, request.exchange = some exchange → exchange.Sound sha256 p request.route
  -- a handler that holds a handle waits for nothing
  waits : request.exchange.isSome = true → request.phase.ticket = none

end Requests

section Step
variable {lost : Option VerificationTicket} {p p' : Processes} {sha256 : Sha256} {route : DataPlaneRoute}

theorem bindsFollows (follows : p.Follows lost p') {ticket} (other : some ticket ≠ lost)
    {transferId count} (binds : p.Binds ticket transferId count) :
    p'.Binds ticket transferId count := by
  obtain ⟨binding,live,facts⟩ := binds
  exact ⟨binding,follows.live ticket other binding live,facts⟩

theorem computedFollows (follows : p.Follows lost p') {transferId count digest}
    (computed : Computed sha256 p transferId count digest) : Computed sha256 p' transferId count digest := by
  obtain ⟨hashed,read,same⟩ := computed
  exact ⟨hashed,hashedKeeps follows.files read,same⟩

theorem phaseFollows (follows : p.Follows lost p') {phase : HandlerPhase}
    (other : ∀ ticket, phase.ticket = some ticket → some ticket ≠ lost) (sound : phase.Sound sha256 p route) :
    phase.Sound sha256 p' route := by
  cases phase with
  | authorizing | detached | committing | sealing | ended => trivial
  | staging => exact sound
  | finalized => exact ⟨sound.1,filedKeeps follows.files sound.2⟩
  | rereading =>
    obtain ⟨binds,owns,read,bound⟩ := sound
    exact ⟨bindsFollows follows (other _ rfl) binds,follows.owns _ _ owns,hashedKeeps follows.files read,bound⟩
  | computed =>
    obtain ⟨binds,owns,computed⟩ := sound
    exact ⟨bindsFollows follows (other _ rfl) binds,follows.owns _ _ owns,computedFollows follows computed⟩
  | reporting => exact follows.owns _ _ sound

theorem exchangeFollows (follows : p.Follows lost p') {exchange : Exchange}
    (other : ∀ ticket, exchange.ticket = some ticket → some ticket ≠ lost) (sound : exchange.Sound sha256 p route) :
    exchange.Sound sha256 p' route := by
  cases exchange with
  | authorizationQuery | authorizationApproved | authorizationDenied | manifestSealRequest | manifestSealRefused =>
    trivial
  | chunkAcceptanceRequest | accepting => exact ⟨sound.1,filedKeeps follows.files sound.2⟩
  | chunkAcceptance =>
    exact fun committed _ _ _ uploads => backedFollows follows (sound committed _ _ _ uploads)
  | minting => exact follows.owns _ _ sound
  | manifestSeal => exact ⟨bindsFollows follows (other _ rfl) sound.1,follows.owns _ _ sound.2⟩
  | artifactVerificationReport =>
    obtain ⟨count,binds,computed⟩ := sound
    exact ⟨count,bindsFollows follows (other _ rfl) binds,computedFollows follows computed⟩
  | verifying => exact ⟨sound.1,computedFollows follows sound.2⟩
  | artifactVerification =>
    obtain ⟨artifactId,backed⟩ := sound
    exact ⟨artifactId,backedFollows follows backed⟩

theorem soundFollows (follows : p.Follows lost p') {request : HttpRequest}
    (other : ∀ ticket, request.ticket = some ticket → some ticket ≠ lost) (sound : request.Sound sha256 p) :
    request.Sound sha256 p' := by
  unfold HttpRequest.ticket at other
  refine ⟨phaseFollows follows (fun ticket held => ?_) sound.phase,fun exchange running => ?_,sound.waits⟩
  · cases running : request.exchange with
    | none => rw [running] at other; exact other ticket held
    | some exchange =>
      rw [sound.waits (by rw [running]; rfl)] at held
      contradiction
  · rw [running] at other
    exact exchangeFollows follows other (sound.exchange exchange running)

theorem filesFollows (follows : p.Follows lost p') {c c'} (same : c' = { c with held := c'.held })
    (files : p.Files sha256 c) : p'.Files sha256 c' := by
  obtain ⟨transferId,owns,content,found,facts⟩ := files
  rw [same]
  exact ⟨transferId,follows.owns _ _ owns,content,follows.files _ _ _ found,facts⟩

theorem matchesFollows (follows : p.Follows lost p') {artifactId}
    (matching : p.Matches sha256 artifactId) : p'.Matches sha256 artifactId := by
  obtain ⟨transferId,owns,m,stored,named,sealed,count,hashed,counted,read,digest⟩ := matching
  exact ⟨transferId,follows.owns _ _ owns,m,(follows.preserves.frozen m stored sealed).1,named,sealed,count,hashed,
    counted,hashedKeeps follows.files read,digest⟩

theorem followsGateway (keeping : p.gateway.Keeping) (op : GatewayOp) :
    p.Follows lost { p with gateway := p.gateway.after op } :=
  ⟨fun _ _ _ found => found,fun _ _ _ live => live,preservesStep (gatewayStep p.gateway op keeping.sound) keeping.custody,
    fun _ _ owns => ownsStep (gatewayStep p.gateway op keeping.sound) owns⟩

theorem followsRuntime {ids op} (other : ∀ ticket : VerificationTicket, some ticket ≠ lost →
      op ≠ .call ticket.connection (.consumeVerification ticket.handle)) :
    p.Follows lost { p with runtime := p.runtime.after ids op } :=
  ⟨fun _ _ _ found => found,fun ticket kept _ live => liveKept live (other ticket kept),preservesRefl _,
    fun _ _ owns => owns⟩

theorem settledGateway (settled : p.Settled sha256) {op : GatewayOp}
    (filed : ∀ c' ∈ (p.gateway.after op).store.transfer.chunks,
      (∃ c ∈ p.stored.chunks, c' = { c with held := c'.held }) ∨
        Processes.Files sha256 { p with gateway := p.gateway.after op } c')
    (verified : ∀ a ∈ (p.gateway.after op).store.transfer.artifacts, a.state = .verified →
      a ∈ p.stored.artifacts ∨ Processes.Matches sha256 { p with gateway := p.gateway.after op } a.id) :
    Processes.Settled sha256 { p with gateway := p.gateway.after op } := by
  have follows := @followsGateway none p settled.keeping op
  refine ⟨keepingAfter p.gateway op settled.keeping,fun c' mem => ?_,fun a mem state => ?_,
    fun answer mem => backedFollows follows (settled.answered answer mem)⟩
  · rcases filed c' mem with ⟨c,old,same⟩ | new
    · exact filesFollows follows same (settled.filed c old)
    · exact new
  · rcases verified a mem state with old | new
    · exact matchesFollows follows (settled.verified a old state)
    · exact new

theorem settledElsewhere (settled : p.Settled sha256) {op}
    (noChunk : ∀ transferId index digestWire size, op ≠ .acceptChunk transferId index digestWire size)
    (noVerdict : ∀ input, op ≠ .verifyArtifact input) :
    Processes.Settled sha256 { p with gateway := p.gateway.after op } := by
  have step := gatewayStep p.gateway op settled.keeping.sound
  refine settledGateway settled (fun c mem => .inl ⟨c,?_,rfl⟩)
    fun a mem verified => .inl (verifiedKept step noVerdict mem verified)
  rw [chunksKept step noChunk] at mem
  exact mem

theorem settledRuntime (settled : p.Settled sha256) (runtime : WorkerRuntime) :
    Processes.Settled sha256 { p with runtime := runtime } :=
  ⟨settled.keeping,settled.filed,settled.verified,settled.answered⟩

end Step

structure Stepped (sha256 : Sha256) (p : Processes) (request : HttpRequest) (result : Processes × HttpRequest) :
    Prop where
  settled : result.1.Settled sha256
  follows : p.Follows request.ticket result.1
  sound : result.2.Sound sha256 result.1
  ticket : ∀ ticket, result.2.ticket = some ticket → request.ticket = some ticket ∨
    ∀ binding, ¬p.runtime.Live ticket.connection ticket.handle binding

section Steps
variable {sha256 : Sha256} {ids : IdSource} {p p' : Processes} {request : HttpRequest}

theorem steppedStill (settled : p.Settled sha256) (sound : request.Sound sha256 p) :
    Stepped sha256 p request (p,request) :=
  ⟨settled,followsRefl p,sound,fun _ held => .inl held⟩

/- A step of the exchange: the handler waits, so only the exchange has a handle. -/
theorem steppedExchange (sound : request.Sound sha256 p) (running : request.exchange.isSome = true)
    (settled : p'.Settled sha256) (follows : p.Follows request.ticket p') {exchange : Option Exchange}
    (next : ∀ e, exchange = some e → e.Sound sha256 p' request.route)
    (fresh : ∀ e ticket, exchange = some e → e.ticket = some ticket →
      ∀ binding, ¬p.runtime.Live ticket.connection ticket.handle binding) :
    Stepped sha256 p request (p',{ request with exchange := exchange }) := by
  have waits := sound.waits running
  refine ⟨settled,follows,⟨phaseFollows follows ?_ sound.phase,next,fun _ => waits⟩,fun ticket held => .inr ?_⟩
  · intro ticket held
    rw [waits] at held
    contradiction
  · cases exchange with
    | none =>
      rw [show HttpRequest.ticket { request with exchange := none } = none from waits] at held
      contradiction
    | some e => exact fresh e ticket rfl held

theorem steppedReply (sound : request.Sound sha256 p) (running : request.exchange.isSome = true)
    (settled : p'.Settled sha256) (follows : p.Follows request.ticket p') {reply}
    (next : reply.Sound sha256 p' request.route) (bare : reply.ticket = none) :
    Stepped sha256 p request (p',{ request with exchange := some reply }) := by
  refine steppedExchange sound running settled follows (fun e same => ?_) fun e ticket same held => ?_
  · cases same
    exact next
  · cases same
    rw [bare] at held
    contradiction

theorem steppedSilent (sound : request.Sound sha256 p) (running : request.exchange.isSome = true)
    (settled : p'.Settled sha256) (follows : p.Follows request.ticket p') :
    Stepped sha256 p request (p',{ request with exchange := none }) :=
  steppedExchange sound running settled follows nofun nofun

theorem steppedDecide (settled : p.Settled sha256) (sound : request.Sound sha256 p)
    (approved : Option (Nat × Option String)) :
    Stepped sha256 p request (request.decideAuthorizationQuery ids p approved) := by
  unfold HttpRequest.decideAuthorizationQuery
  split
  · rename_i connection transferId chunkIndex proofId _ chunkSize expected running _
    have running : request.exchange.isSome = true := by rw [running]; rfl
    have follows := @followsRuntime request.ticket p ids
      (.call connection (.mintAcceptance ⟨transferId,chunkIndex,proofId⟩)) (by rintro _ _ ⟨⟩)
    simp only
    split
    · exact steppedReply sound running (settledRuntime settled _) follows trivial rfl
    · exact steppedReply sound running (settledRuntime settled _) follows trivial rfl
  · rename_i running _
    exact steppedReply sound (by rw [running]; rfl) settled (followsRefl p) trivial rfl
  · exact steppedStill settled sound

theorem steppedConsume (settled : p.Settled sha256) (sound : request.Sound sha256 p) :
    Stepped sha256 p request (request.consume ids p) := by
  unfold HttpRequest.consume
  split
  · rename_i connection handle transferId chunkIndex digest size running
    have next := sound.exchange _ running
    have running : request.exchange.isSome = true := by rw [running]; rfl
    have follows := @followsRuntime request.ticket p ids
      (.call connection (.consumeAcceptance handle transferId chunkIndex)) (by rintro _ _ ⟨⟩)
    simp only
    split
    · exact steppedReply sound running (settledRuntime settled _) follows next rfl
    · exact steppedSilent sound running (settledRuntime settled _) follows
  · rename_i connection handle computed exchanged
    obtain ⟨count,⟨binding,live,named,counted⟩,read⟩ := sound.exchange _ exchanged
    have running : request.exchange.isSome = true := by rw [exchanged]; rfl
    have own : request.ticket = some ⟨connection,handle⟩ := by
      unfold HttpRequest.ticket
      rw [exchanged]
      rfl
    have follows := @followsRuntime request.ticket p ids (.call connection (.consumeVerification handle)) (by
      rintro ticket other ⟨⟩
      exact other own.symm)
    simp only
    split
    · rename_i consumed answered
      -- the handle is live under one binding
      obtain ⟨store,at_,row⟩ := verificationConsumed answered
      obtain ⟨store',at_',row'⟩ := live
      cases Option.some.inj (at_.symm.trans at_')
      cases Table.eqOfKey row row' rfl
      exact steppedReply sound running (settledRuntime settled _) follows ⟨named,counted ▸ read⟩ rfl
    · exact steppedSilent sound running (settledRuntime settled _) follows
  · exact steppedStill settled sound

theorem settledAccept (settled : p.Settled sha256) {transferId chunkIndex size digest}
    (filed : Filed sha256 p.files transferId chunkIndex size digest) :
    Processes.Settled sha256
      { p with gateway := p.gateway.after (.acceptChunk transferId chunkIndex digest size) } := by
  have step := gatewayStep p.gateway (.acceptChunk transferId chunkIndex digest size) settled.keeping.sound
  refine settledGateway settled (fun c mem => ?_) fun a mem verified => .inl (verifiedKept step nofun mem verified)
  rcases acceptChunkRows mem with old | new
  · exact .inl old
  obtain ⟨content,found,length,same⟩ := filed
  refine .inr ⟨transferId,ownsStep step new.owned,content,?_,?_,?_⟩
  · rw [new.index]
    exact found
  · rw [new.size,length]
  · exact Base64Url.encodeInjective (same.trans new.digest.symm)

theorem acceptBacked (settled : p.Settled sha256) {transferId chunkIndex size digest}
    (filed : Filed sha256 p.files transferId chunkIndex size digest) {commit}
    (answer : (p.gateway.store.acceptChunk transferId chunkIndex digest size).2 = .ok commit)
    (committed : commit = .committed ∨ commit = .alreadyCommitted) :
    (HttpAnswer.chunkAccepted transferId chunkIndex digest).Backed
      (p.gateway.after (.acceptChunk transferId chunkIndex digest size)).store.transfer := by
  have after := settledAccept settled filed
  obtain ⟨c,held⟩ := acceptChunkHeld settled.keeping.custody (by
    rcases committed with rfl | rfl
    · exact .inl answer
    · exact .inr answer)
  -- the row is filed, and there is one file at this index
  obtain ⟨owner,owns,content,found,_,same⟩ := after.filed c held.stored
  cases owningTransfer owns held.owned
  obtain ⟨content',found',_,reported⟩ := filed
  rw [held.index] at found
  cases Option.some.inj (found.symm.trans found')
  refine ⟨c,held,?_⟩
  rw [← same,← reported]
  rfl

theorem settledVerify (settled : p.Settled sha256) {input}
    (computed : Computed sha256 p input.transferId input.chunkCount input.computedArtifactDigest) :
    Processes.Settled sha256 { p with gateway := p.gateway.after (.verifyArtifact input) } := by
  have step := gatewayStep p.gateway (.verifyArtifact input) settled.keeping.sound
  refine settledGateway settled (fun c mem => .inl ⟨c,?_,rfl⟩) fun a mem verified => ?_
  · rw [chunksKept step nofun] at mem
    exact mem
  rcases @verifyArtifactOn _ input settled.keeping.custody with ⟨same,_⟩ | ⟨verdict,facts,row,reported,_,decided,rows⟩
  · refine .inl ?_
    simp only [Gateway.after,same] at mem
    exact mem
  have mem : a ∈ (p.stored.setArtifactState facts.artifact.id (if verdict then .verified else .failed)).artifacts :=
    rows ▸ mem
  rcases (Table.memUpdate (by exact fun _ => rfl)).mp mem with ⟨old,_⟩ | ⟨old,_,named,rfl⟩
  · exact .inl old
  have loaded := decided.loaded
  have sealed : row.sealed = true := by
    rcases p.gateway.store.transferValid.manifestFacts row loaded.stored with ⟨_,none_,_⟩ | ⟨sealed,_⟩
    · rw [decided.count] at none_
      contradiction
    · exact sealed
  obtain ⟨hashed,read,same⟩ := computed
  have bytes : (sha256 hashed).val = reported.bytes :=
    Base64Url.encodeInjective (same.trans decided.reported.symm)
  refine .inr ⟨input.transferId,ownsStep step ⟨facts.transfer,loaded.transfer,loaded.named,?_⟩,row,?_,?_,sealed,
    input.chunkCount,hashed,decided.count,read,?_⟩
  · exact loaded.owned.symm.trans named.symm
  · exact ((preservesStep step settled.keeping.custody).frozen row loaded.stored sealed).1
  · exact loaded.manifestOf.trans (loaded.owned.symm.trans named.symm)
  · rw [bytes]
    refine decided.verdict ?_
    cases verdict
    · cases verified
    · rfl

theorem verifyBacked (settled : p.Settled sha256) {input verified}
    (answer : (p.gateway.store.verifyArtifact input).2 = .ok (.committed verified)) :
    ∃ artifactId, (HttpAnswer.sealResult input.transferId artifactId verified).Backed
      (p.gateway.after (.verifyArtifact input)).store.transfer := by
  have step := gatewayStep p.gateway (.verifyArtifact input) settled.keeping.sound
  rcases verifyArtifactOn settled.keeping.custody with ⟨_,other⟩ | ⟨verdict,facts,row,_,answer',decided,rows⟩
  · exact absurd answer (other verified)
  rw [answer] at answer'
  cases answer'
  have loaded := decided.loaded
  refine ⟨facts.artifact.id,ownsStep step ⟨facts.transfer,loaded.transfer,loaded.named,loaded.owned.symm⟩,
    { facts.artifact with state := if verified then .verified else .failed },?_,rfl,rfl⟩
  simp only [Gateway.after,rows]
  exact (Table.memUpdate (by exact fun _ => rfl)).mpr (.inr ⟨facts.artifact,loaded.artifact,rfl,rfl⟩)

theorem steppedCommit (settled : p.Settled sha256) (sound : request.Sound sha256 p) :
    Stepped sha256 p request (request.commit p) := by
  unfold HttpRequest.commit
  split
  · rename_i transferId chunkIndex digest size exchanged
    obtain ⟨uploads,filed⟩ := sound.exchange _ exchanged
    have running : request.exchange.isSome = true := by rw [exchanged]; rfl
    have follows := @followsGateway request.ticket p settled.keeping (.acceptChunk transferId chunkIndex digest size)
    have after := settledAccept settled filed
    simp only
    split
    · exact steppedSilent sound running after follows
    · exact steppedSilent sound running after follows
    · rename_i commit _ answer
      refine steppedReply sound running after follows (fun committed transferId chunkIndex digest routed => ?_) rfl
      obtain ⟨_,same⟩ := routed
      obtain ⟨_,uploads⟩ := uploads
      cases uploads.symm.trans same
      exact acceptBacked settled filed answer committed
  · rename_i binding computed exchanged
    obtain ⟨named,read⟩ := sound.exchange _ exchanged
    have running : request.exchange.isSome = true := by rw [exchanged]; rfl
    have follows := @followsGateway request.ticket p settled.keeping (.verifyArtifact
      ⟨binding.transferId,binding.artifactId,binding.chunkCount,binding.expectedArtifactDigest,computed⟩)
    rw [← named] at read
    have after := @settledVerify sha256 p settled
      ⟨binding.transferId,binding.artifactId,binding.chunkCount,binding.expectedArtifactDigest,computed⟩ read
    simp only
    split
    · exact steppedSilent sound running after follows
    · exact steppedSilent sound running after follows
    · rename_i verified answer
      obtain ⟨artifactId,backed⟩ := verifyBacked settled answer
      refine steppedReply sound running after follows ⟨artifactId,?_⟩ rfl
      rw [← named]
      exact backed
  · exact steppedStill settled sound

theorem steppedCommitSeal (settled : p.Settled sha256) (sound : request.Sound sha256 p)
    (binding : Option CapabilityBinding) (endpoint : Option Bool) (replayAccepted : Bool) :
    Stepped sha256 p request (request.commitSeal p binding endpoint replayAccepted) := by
  unfold HttpRequest.commitSeal
  split
  · rename_i connection transferId proofId chunkCount digest binding exchanged routed
    have running : request.exchange.isSome = true := by rw [exchanged]; rfl
    have named : request.route.transferId = transferId := by rw [routed]; rfl
    have follows := @followsGateway request.ticket p settled.keeping
      (.sealManifest transferId binding endpoint chunkCount digest replayAccepted)
    have after := @settledElsewhere p sha256 settled
      (.sealManifest transferId binding endpoint chunkCount digest replayAccepted) nofun nofun
    have owns := @sealManifestOwns p.gateway.store transferId binding endpoint chunkCount digest replayAccepted
    simp only
    split
    · rename_i facts answer
      refine steppedReply sound running after follows ?_ rfl
      rw [Exchange.Sound,named]
      exact owns answer rfl
    · rename_i facts answer
      refine steppedReply sound running after follows ?_ rfl
      rw [Exchange.Sound,named]
      exact owns answer rfl
    · exact steppedSilent sound running after follows
    · exact steppedSilent sound running after follows
    · exact steppedReply sound running after follows trivial rfl
  · rename_i running _
    exact steppedReply sound (by rw [running]; rfl) settled (followsRefl p) trivial rfl
  · exact steppedStill settled sound

theorem steppedMint (settled : p.Settled sha256) (sound : request.Sound sha256 p) :
    Stepped sha256 p request (request.mint ids p) := by
  unfold HttpRequest.mint
  split
  · rename_i connection facts transferId proofId _ _ exchanged routed
    have owns := sound.exchange _ exchanged
    have running : request.exchange.isSome = true := by rw [exchanged]; rfl
    have named : request.route.transferId = transferId := by rw [routed]; rfl
    have follows := @followsRuntime request.ticket p ids (.call connection (.mintVerification
      ⟨transferId,facts.artifactId,facts.chunkCount,facts.expectedArtifactDigest.toWireValue,proofId⟩))
      (by rintro _ _ ⟨⟩)
    simp only
    split
    · rename_i handle answer
      obtain ⟨live,fresh⟩ := verificationMinted answer
      refine steppedExchange sound running (settledRuntime settled _) follows ?_ ?_
      · rintro _ ⟨⟩
        exact ⟨⟨_,live,named.symm,rfl⟩,owns⟩
      · rintro _ _ ⟨⟩ ⟨⟩
        exact fresh
    · exact steppedSilent sound running (settledRuntime settled _) follows
  · exact steppedStill settled sound

theorem steppedLose (settled : p.Settled sha256) (sound : request.Sound sha256 p) :
    Stepped sha256 p request (p,{ request with exchange := none }) := by
  cases running : request.exchange with
  | none =>
    have same : { request with exchange := none } = request := by rw [← running]
    rw [same]
    exact steppedStill settled sound
  | some exchange =>
    exact steppedSilent sound (by rw [running]; rfl) settled (followsRefl p)

theorem steppedHandler (settled : p'.Settled sha256) (follows : p.Follows none p') {phase exchange}
    (sound : HttpRequest.Sound sha256 p' (request.moved phase exchange))
    (kept : ∀ ticket, (request.moved phase exchange).ticket = some ticket → request.ticket = some ticket) :
    Stepped sha256 p request (p',request.moved phase exchange) :=
  ⟨settled,⟨follows.files,fun ticket _ => follows.live ticket (Option.some_ne_none _),follows.preserves,
    follows.owns⟩,sound,fun ticket held => .inl (kept ticket held)⟩

theorem steppedPhase (sound : request.Sound sha256 p) (settled : p'.Settled sha256) (follows : p.Follows none p')
    {phase : HandlerPhase} (next : phase.Sound sha256 p' request.route)
    (kept : phase.ticket = none ∨ phase.ticket = request.phase.ticket) :
    Stepped sha256 p request (p',{ request with phase := phase }) := by
  refine @steppedHandler sha256 p p' request settled follows phase request.exchange ⟨next,?_,fun running => ?_⟩
    fun ticket held => ?_
  · exact fun exchange running => exchangeFollows follows (fun _ _ => Option.some_ne_none _)
      (sound.exchange exchange running)
  · exact kept.elim id fun same => same.trans (sound.waits running)
  · unfold HttpRequest.ticket HttpRequest.moved at held
    unfold HttpRequest.ticket
    cases running : request.exchange with
    | some exchange => rw [running] at held; exact held
    | none =>
      rw [running] at held
      rcases kept with none_ | same
      · exact absurd (none_.symm.trans held) (by rintro ⟨⟩)
      · exact same.symm.trans held

theorem steppedEnded (settled : p'.Settled sha256) (follows : p.Follows none p') :
    Stepped sha256 p request (p',request.moved .ended none) :=
  steppedHandler settled follows ⟨trivial,by rintro _ ⟨⟩,by rintro ⟨⟩⟩ (by rintro _ ⟨⟩)

theorem settledAnswers (settled : p.Settled sha256) {answers}
    (backed : ∀ answer ∈ answers, answer.Backed p.stored) :
    Processes.Settled sha256 { p with answers := p.answers ++ answers } :=
  ⟨settled.keeping,settled.filed,settled.verified,fun answer mem =>
    (List.mem_append.mp mem).elim (settled.answered answer) (backed answer)⟩

theorem followsAnswers (answers : List HttpAnswer) : p.Follows none { p with answers := answers } :=
  ⟨fun _ _ _ found => found,fun _ _ _ live => live,preservesRefl _,fun _ _ owns => owns⟩

theorem steppedDeliver (settled : p.Settled sha256) (sound : request.Sound sha256 p) :
    Stepped sha256 p request (request.deliver p) := by
  unfold HttpRequest.deliver
  split
  · rename_i connection handle chunkSize expected transferId chunkIndex proofId declaredDigest _ _ routed
    split
    · exact steppedEnded settled (followsRefl p)
    · exact steppedHandler settled (followsRefl p)
        ⟨⟨⟨declaredDigest,proofId,routed⟩,rfl,rfl⟩,by rintro _ ⟨⟩,by rintro ⟨⟩⟩ (by rintro _ ⟨⟩)
  · exact steppedEnded settled (followsRefl p)
  · rename_i commit transferId chunkIndex proofId declaredDigest _ exchanged routed
    have backed := sound.exchange _ exchanged
    refine steppedEnded (settledAnswers settled fun answer mem => ?_) (followsAnswers _)
    cases commit with
    | committed | alreadyCommitted =>
      cases List.mem_singleton.mp mem
      exact backed (by simp) transferId chunkIndex declaredDigest ⟨proofId,routed⟩
    | rejectedConflict | rejectedNotContinuable | failClosed => cases mem
  · rename_i connection handle facts _ _ exchanged
    obtain ⟨binds,owns⟩ := sound.exchange _ exchanged
    refine steppedHandler settled (followsRefl p)
      ⟨⟨binds,owns,⟨fun _ => [],nofun,rfl⟩,Nat.zero_le _⟩,by rintro _ ⟨⟩,by rintro ⟨⟩⟩ fun ticket held => ?_
    unfold HttpRequest.ticket
    rw [exchanged]
    exact held
  · exact steppedEnded settled (followsRefl p)
  · rename_i artifactId verified transferId _ _ _ phased exchanged routed
    obtain ⟨artifactId',backed⟩ := sound.exchange _ exchanged
    have owns := sound.phase
    rw [phased] at owns
    cases ownedArtifact owns backed.1
    have named : request.route.transferId = transferId := by rw [routed]; rfl
    refine steppedEnded (settledAnswers settled fun answer mem => ?_) (followsAnswers _)
    cases List.mem_singleton.mp mem
    rw [← named]
    exact backed
  · exact steppedStill settled sound

theorem steppedFrame (settled : p.Settled sha256) (sound : request.Sound sha256 p) (message : PumpMessage)
    (io : Option IoError) : Stepped sha256 p request (request.frame p message io) := by
  unfold HttpRequest.frame
  split
  · rename_i ticket staging phased
    have staged := sound.phase
    rw [phased] at staged
    split
    · rename_i staging' written
      obtain ⟨transferId,chunkIndex⟩ := stageMessageSame written
      exact steppedPhase sound settled (followsRefl p)
        ⟨staged.1,transferId.trans staged.2.1,chunkIndex.trans staged.2.2⟩ (.inl rfl)
    · exact steppedPhase sound settled (followsRefl p) trivial (.inl rfl)
  · split <;> exact steppedPhase sound settled (followsRefl p) trivial (.inl rfl)
  · exact steppedStill settled sound

theorem settledFiles (settled : p.Settled sha256) {files} (keeps : p.files.Keeps files) :
    Processes.Settled sha256 { p with files := files } ∧ p.Follows none { p with files := files } := by
  have follows : p.Follows none { p with files := files } :=
    ⟨keeps,fun _ _ _ live => live,preservesRefl _,fun _ _ owns => owns⟩
  exact ⟨⟨settled.keeping,fun c mem => filesFollows follows rfl (settled.filed c mem),
    fun a mem verified => matchesFollows follows (settled.verified a mem verified),settled.answered⟩,follows⟩

theorem steppedFinish (settled : p.Settled sha256) (sound : request.Sound sha256 p) (io : FinalizeIo) :
    Stepped sha256 p request (request.finish sha256 p io) := by
  unfold HttpRequest.finish
  split
  · rename_i ticket staging transferId chunkIndex proofId declaredDigest phased routed
    have staged := sound.phase
    rw [phased] at staged
    obtain ⟨⟨digest,proofId',uploads⟩,sameTransfer,sameIndex⟩ := staged
    have keeps := @stageEndKeeps sha256 p.files io declaredDigest staging
    split
    · rename_i files size digest ends
      rw [ends] at keeps
      obtain ⟨settled,follows⟩ := settledFiles settled keeps
      obtain ⟨rfl,filed⟩ := stageEndFiled ends
      rw [sameTransfer,sameIndex] at filed
      cases routed.symm.trans uploads
      exact steppedPhase sound settled follows ⟨⟨_,uploads⟩,filed⟩ (.inl rfl)
    · rename_i files outcome _ ends
      rw [ends] at keeps
      obtain ⟨settled,follows⟩ := settledFiles settled keeps
      exact steppedPhase sound settled follows trivial (.inl rfl)
  · rename_i staging _ _ _ declaredDigest _ _
    obtain ⟨settled,follows⟩ := settledFiles settled (@stageEndKeeps sha256 p.files io declaredDigest staging)
    exact steppedPhase sound settled follows trivial (.inl rfl)
  · exact steppedStill settled sound

theorem steppedReread (settled : p.Settled sha256) (sound : request.Sound sha256 p) (plan : ReadPlan) :
    Stepped sha256 p request (request.reread sha256 p plan) := by
  unfold HttpRequest.reread
  split
  · rename_i success next hashed totalSize transferId _ _ _ phased routed
    have named : request.route.transferId = transferId := by rw [routed]; rfl
    have reading := sound.phase
    rw [phased] at reading
    obtain ⟨binds,owns,read,bound⟩ := reading
    have kept : some success.verificationTicket = request.phase.ticket := by rw [phased]; rfl
    split
    · rename_i below
      split
      · rename_i hashed' totalSize' turned
        obtain ⟨content,found,rfl⟩ := computeChunksReads turned
        exact steppedPhase sound settled (followsRefl p) ⟨binds,owns,hashedNext read (named ▸ found),below⟩ (.inr kept)
      · exact steppedPhase sound settled (followsRefl p) trivial (.inl rfl)
    · rename_i done
      have whole : next = success.chunkCount := by omega
      exact steppedPhase sound settled (followsRefl p) ⟨binds,owns,hashed,whole ▸ read,rfl⟩ (.inr kept)
  · exact steppedStill settled sound

theorem steppedSend (settled : p.Settled sha256) (sound : request.Sound sha256 p) :
    Stepped sha256 p request (request.send p) := by
  unfold HttpRequest.send
  split
  · rename_i ticket size digest phased
    have staged := sound.phase
    rw [phased] at staged
    split
    · exact steppedHandler settled (followsRefl p) ⟨trivial,by rintro _ ⟨⟩; exact staged,fun _ => rfl⟩ (by rintro _ ⟨⟩)
    · exact steppedEnded settled (followsRefl p)
  · rename_i success digest phased
    have computed := sound.phase
    rw [phased] at computed
    obtain ⟨binds,owns,read⟩ := computed
    split
    · refine steppedHandler settled (followsRefl p)
        ⟨owns,by rintro _ ⟨⟩; exact ⟨_,binds,read⟩,fun _ => rfl⟩ fun ticket held => ?_
      unfold HttpRequest.ticket
      have idle : request.exchange = none := by
        by_contra running
        have waits := sound.waits (Option.isSome_iff_ne_none.mpr running)
        rw [phased] at waits
        contradiction
      rw [idle,phased]
      exact held
    · exact steppedEnded settled (followsRefl p)
  · exact steppedStill settled sound

theorem steppedAbandon (settled : p.Settled sha256) (sound : request.Sound sha256 p) :
    Stepped sha256 p request (request.abandon p) := by
  unfold HttpRequest.abandon
  split
  · exact steppedPhase sound settled (followsRefl p) trivial (.inl rfl)
  · exact steppedStill settled sound
  · exact steppedPhase sound settled (followsRefl p) trivial (.inl rfl)

theorem handlerStepped (settled : p.Settled sha256) (sound : request.Sound sha256 p) (step : HandlerStep) :
    Stepped sha256 p request (step.run sha256 ids p request) := by
  cases step with
  | decideAuthorizationQuery approved => exact steppedDecide settled sound approved
  | consume => exact steppedConsume settled sound
  | commit => exact steppedCommit settled sound
  | commitSeal binding endpoint replayAccepted => exact steppedCommitSeal settled sound binding endpoint replayAccepted
  | mint => exact steppedMint settled sound
  | deliver => exact steppedDeliver settled sound
  | frame message io => exact steppedFrame settled sound message io
  | finish io => exact steppedFinish settled sound io
  | reread plan => exact steppedReread settled sound plan
  | send => exact steppedSend settled sound
  | abandon => exact steppedAbandon settled sound
  | lose => exact steppedLose settled sound

end Steps
structure DataPlane.Kept (sha256 : Sha256) (d : DataPlane) : Prop where
  settled : d.toProcesses.Settled sha256
  sound : ∀ (i : Nat) (request : HttpRequest), d.requests[i]? = some request → request.Sound sha256 d.toProcesses
  exclusive : ∀ (i j : Nat) (a b : HttpRequest), d.requests[i]? = some a → d.requests[j]? = some b →
    ∀ ticket, a.ticket = some ticket → b.ticket = some ticket → i = j

section Runs
variable {sha256 : Sha256} {ids : IdSource} {d : DataPlane}

theorem ticketLive {p} {request : HttpRequest} (sound : request.Sound sha256 p)
    {ticket} (held : request.ticket = some ticket) :
    ∃ binding, p.runtime.Live ticket.connection ticket.handle binding := by
  unfold HttpRequest.ticket at held
  split at held
  · rename_i exchange running
    have exchanged := sound.exchange exchange running
    cases exchange <;> cases held
    · exact ⟨_,exchanged.1.choose_spec.1⟩
    · exact ⟨_,exchanged.choose_spec.1.choose_spec.1⟩
  · have phased := sound.phase
    cases stage : request.phase <;> rw [stage] at held phased <;> cases held
    · exact ⟨_,phased.1.choose_spec.1⟩
    · exact ⟨_,phased.1.choose_spec.1⟩

theorem keptStep (kept : d.Kept sha256) {i} {request : HttpRequest} (at_ : d.requests[i]? = some request)
    {result} (stepped : Stepped sha256 d.toProcesses request result) :
    DataPlane.Kept sha256 ⟨result.1,d.requests.set i result.2⟩ := by
  obtain ⟨inside,_⟩ := List.getElem?_eq_some_iff.mp at_
  have elsewhere : ∀ {j : Nat} {a : HttpRequest}, (d.requests.set i result.2)[j]? = some a →
      j = i ∧ a = result.2 ∨ j ≠ i ∧ d.requests[j]? = some a := by
    intro j a found
    by_cases same : j = i
    · subst same
      rw [List.getElem?_set_self inside] at found
      exact .inl ⟨rfl,(Option.some.inj found).symm⟩
    · rw [List.getElem?_set_ne (Ne.symm same)] at found
      exact .inr ⟨same,found⟩
  -- the handle of this request is not that of another one
  have apart : ∀ {j : Nat} {a : HttpRequest} {ticket}, j ≠ i → d.requests[j]? = some a → a.ticket = some ticket →
      result.2.ticket ≠ some ticket := by
    intro j a ticket other found held own
    rcases stepped.ticket ticket own with before | fresh
    · exact other (kept.exclusive j i a request found at_ ticket held before)
    · obtain ⟨binding,live⟩ := ticketLive (kept.sound j a found) held
      exact fresh binding live
  refine ⟨stepped.settled,fun j a found => ?_,fun j k a b left right ticket first second => ?_⟩
  · rcases elsewhere found with ⟨_,rfl⟩ | ⟨other,found⟩
    · exact stepped.sound
    · refine soundFollows stepped.follows (fun ticket held same => ?_) (kept.sound j a found)
      exact other (kept.exclusive j i a request found at_ ticket held same.symm)
  · rcases elsewhere left with ⟨rfl,rfl⟩ | ⟨otherJ,oldJ⟩
    · rcases elsewhere right with ⟨rfl,_⟩ | ⟨otherK,oldK⟩
      · rfl
      · exact absurd first (apart otherK oldK second)
    · rcases elsewhere right with ⟨rfl,rfl⟩ | ⟨otherK,oldK⟩
      · exact absurd second (apart otherJ oldJ first)
      · exact kept.exclusive j k a b oldJ oldK ticket first second

theorem keptAround (kept : d.Kept sha256) {p : Processes} (settled : p.Settled sha256)
    (follows : d.toProcesses.Follows none p) : DataPlane.Kept sha256 ⟨p,d.requests⟩ :=
  ⟨settled,fun i request found => soundFollows follows (fun _ _ => Option.some_ne_none _) (kept.sound i request found),
    kept.exclusive⟩

theorem keptMapped (kept : d.Kept sha256) {connection f}
    (stops : ∀ phase, f phase = phase ∨ f phase = .ended) : (d.mapPhases connection f).Kept sha256 := by
  have follows : d.toProcesses.Follows none (d.mapPhases connection f).toProcesses :=
    ⟨fun _ _ _ found => found,fun _ _ _ live => live,preservesRefl _,fun _ _ owns => owns⟩
  have before : ∀ {i : Nat} {a : HttpRequest}, (d.mapPhases connection f).requests[i]? = some a →
      ∃ request, d.requests[i]? = some request ∧ a = { request with phase := f request.phase } := by
    intro i a found
    obtain ⟨request,old,same⟩ := Option.map_eq_some_iff.mp ((List.getElem?_map ..).symm.trans found)
    exact ⟨request,old,same.symm⟩
  have same : ∀ {request : HttpRequest} {ticket}, HttpRequest.ticket { request with phase := f request.phase } = some ticket →
      request.ticket = some ticket := by
    intro request ticket held
    unfold HttpRequest.ticket at held ⊢
    split at held
    · rename_i running
      rw [running]
      exact held
    · rename_i idle
      rw [idle]
      rcases stops request.phase with still | stopped
      · rw [still] at held
        exact held
      · rw [stopped] at held
        contradiction
  refine ⟨⟨kept.settled.keeping,kept.settled.filed,kept.settled.verified,kept.settled.answered⟩,fun i a found => ?_,
    fun i j a b left right ticket first second => ?_⟩
  · obtain ⟨request,old,rfl⟩ := before found
    have sound := soundFollows follows (fun _ _ => Option.some_ne_none _) (kept.sound i request old)
    rcases stops request.phase with still | stopped
    · rw [still]
      exact sound
    · rw [stopped]
      exact ⟨trivial,sound.exchange,fun _ => rfl⟩
  · obtain ⟨x,oldX,rfl⟩ := before left
    obtain ⟨y,oldY,rfl⟩ := before right
    exact kept.exclusive i j x y oldX oldY ticket (same first) (same second)

theorem cutOffStops (phase : HandlerPhase) : phase.cutOff = phase ∨ phase.cutOff = .ended := by
  cases phase <;> first | exact .inl rfl | exact .inr rfl

theorem keptRequest (kept : d.Kept sha256) (route : DataPlaneRoute) :
    DataPlane.Kept sha256 { d with requests := d.requests ++ [.begin d.connection route] } := by
  have begun : ∀ connection, (HttpRequest.begin connection route).Sound sha256 d.toProcesses ∧
      (HttpRequest.begin connection route).ticket = none := by
    intro connection
    unfold HttpRequest.begin
    split
    · exact ⟨⟨trivial,by rintro _ ⟨⟩,by rintro ⟨⟩⟩,rfl⟩
    · exact ⟨⟨trivial,by rintro _ ⟨⟩; trivial,fun _ => rfl⟩,rfl⟩
    · exact ⟨⟨trivial,by rintro _ ⟨⟩; trivial,fun _ => rfl⟩,rfl⟩
  have found : ∀ {i : Nat} {a : HttpRequest}, (d.requests ++ [HttpRequest.begin d.connection route])[i]? = some a →
      d.requests[i]? = some a ∨ a = .begin d.connection route := by
    intro i a found
    rw [List.getElem?_append] at found
    split at found
    · exact .inl found
    · exact .inr (List.mem_singleton.mp (List.mem_of_getElem? found))
  refine ⟨kept.settled,fun i a at_ => ?_,fun i j a b left right ticket first second => ?_⟩
  · rcases found at_ with old | rfl
    · exact kept.sound i a old
    · exact (begun _).1
  · rcases found left with oldA | rfl
    · rcases found right with oldB | rfl
      · exact kept.exclusive i j a b oldA oldB ticket first second
      · exact absurd ((begun _).2.symm.trans second) (by rintro ⟨⟩)
    · exact absurd ((begun _).2.symm.trans first) (by rintro ⟨⟩)

theorem keptAfter (d : DataPlane) (op : DataPlaneOp) (kept : d.Kept sha256) : (d.after sha256 ids op).Kept sha256 := by
  cases op with
  | request route => exact keptRequest kept route
  | step i step =>
    unfold DataPlane.after
    simp only
    split
    · exact kept
    · rename_i request at_
      exact keptStep kept at_ (handlerStepped kept.settled (kept.sound i request at_) step)
  | gateway op =>
    unfold DataPlane.after
    simp only
    split
    · exact kept
    · rename_i outside
      refine keptAround kept (settledElsewhere kept.settled ?_ ?_) (followsGateway kept.settled.keeping op)
      · rintro _ _ _ _ rfl
        exact outside rfl
      · rintro _ rfl
        exact outside rfl
  | runtime op =>
    unfold DataPlane.after
    simp only
    split
    · exact kept
    · rename_i outside
      refine keptAround kept (settledRuntime kept.settled _) (followsRuntime ?_)
      rintro _ _ rfl
      exact outside rfl
  | connect connection => exact keptMapped kept cutOffStops
  | disconnect => exact keptMapped kept cutOffStops
  | crash => exact keptMapped kept fun _ => .inr rfl

theorem keptStart (operationsCapacity : Nat) : (DataPlane.start operationsCapacity).Kept sha256 := by
  refine ⟨⟨⟨soundEmpty,custodyEmpty⟩,?_,?_,?_⟩,?_,?_⟩
  · exact fun _ mem => absurd mem (Table.notMemEmpty _)
  · exact fun _ mem => absurd mem (Table.notMemEmpty _)
  · exact fun _ mem => absurd mem List.not_mem_nil
  · intro i request found
    cases found
  · intro i j a b found
    cases found

end Runs

/- The final files, the durable rows and the answers agree. -/
structure EndToEnd (sha256 : Sha256) (d : DataPlane) : Prop where
  held : ∀ x ∈ d.stored.transfers, ∀ c ∈ d.stored.chunks, c.artifactId = x.artifactId → c.held = true →
    ∃ content, d.files x.id c.chunkIndex.toNat = some content ∧ (content.length : Int) = c.size ∧
      (sha256 content).val = c.digest
  verified : ∀ x ∈ d.stored.transfers, ∀ a ∈ d.stored.artifacts, a.id = x.artifactId → a.state = .verified →
    ∃ m ∈ d.stored.manifests, m.artifactId = a.id ∧ ∃ (count : Nat) (contents : Nat → List UInt8),
      m.chunkCount = some (count : Int) ∧ (∀ i < count, d.files x.id i = some (contents i)) ∧
      m.artifactDigest = some (sha256 ((List.range count).flatMap contents)).val
  answered : ∀ answer ∈ d.answers, answer.Backed d.stored

theorem dataPlaneEndToEnd (sha256 : Sha256) (ids : IdSource) (operationsCapacity : Nat) (ops : List DataPlaneOp) :
    EndToEnd sha256 (DataPlane.reached sha256 ids operationsCapacity ops) := by
  have kept : (DataPlane.reached sha256 ids operationsCapacity ops).Kept sha256 :=
    runAlways keptAfter (keptStart operationsCapacity) ops
  refine ⟨fun x memX c mem owned _ => ?_,fun x memX a mem owned verified => ?_,kept.settled.answered⟩
  · obtain ⟨transferId,owns,filed⟩ := kept.settled.filed c mem
    cases owningTransfer owns ⟨x,memX,rfl,owned.symm⟩
    exact filed
  · obtain ⟨transferId,owns,m,stored,named,_,count,hashed,counted,⟨contents,found,rfl⟩,digest⟩ :=
      kept.settled.verified a mem verified
    cases owningTransfer owns ⟨x,memX,rfl,owned.symm⟩
    exact ⟨m,stored,named,count,contents,counted,found,digest⟩

def sevens : String := Sha256Digest.toBase64urlNoPad (headHash [7])

-- One chunk is uploaded, sealed and verified over one connection.
def oneChunk : List DataPlaneOp :=
  transferInProgress.map .gateway ++
  [.runtime (.beginGeneration 1),.runtime (.newStore ⟨1⟩ 8 none),.connect 0,
    .request (.chunkUpload ⟨3⟩ 0 "" sevens),.step 0 (.decideAuthorizationQuery (some (1,none))),.step 0 .deliver,
    .step 0 (.frame (.data [7]) none),.step 0 (.finish ⟨none,none,none,⟨none,[],none⟩⟩),.step 0 .send,
    .step 0 .consume,.step 0 .commit,.step 0 .deliver,
    .request (.sealManifest ⟨3⟩ "" 1 sevens),
    .step 1 (.commitSeal (some ⟨⟨0⟩,⟨3⟩,⟨4⟩,.agentToServer,⟨5⟩,[],0,0⟩) (some true) true),.step 1 .mint,
    .step 1 .deliver,.step 1 (.reread ⟨none,[],none⟩),.step 1 (.reread ⟨none,[],none⟩),.step 1 .send,
    .step 1 .consume,.step 1 .commit,.step 1 .deliver]

example : (DataPlane.reached headHash unaryIds 8 oneChunk).answers =
    [.chunkAccepted ⟨3⟩ 0 sevens,.sealResult ⟨3⟩ ⟨4⟩ true] := by decide +kernel

end Bamep
