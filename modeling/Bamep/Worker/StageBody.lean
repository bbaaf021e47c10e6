import Bamep.Worker.FinalFiles
import Bamep.Worker.Upload

/-! `stage_chunk_body` with no error of the filesystem: the pump reads the body frame by frame and fills a bounded
channel, the staging worker empties it into a staging file, and either may stop before the other. -/
namespace Bamep
open Posix Transition

inductive BodyFrame where
  | data (bytes : List UInt8)
  | trailers
  deriving DecidableEq, Repr

def BodyFrame.payload : BodyFrame → List UInt8
  | .data bytes => bytes
  | .trailers => []

structure UploadBody where
  frames : List BodyFrame
  -- After the frames comes an error, not the end.
  broken : Bool
  deriving DecidableEq, Repr

def UploadBody.bytes (body : UploadBody) : List UInt8 := body.frames.flatMap BodyFrame.payload

def frameChannelCapacity : Nat := 4

inductive BodyPump where
  | reading
  | sending (message : PumpMessage)
  -- `tx` is dropped.
  | stopped
  deriving DecidableEq, Repr

inductive StageWorker where
  | beginning
  | receiving
  -- `write` has failed, and removes the staging file.
  | poisoned (outcome : StageOutcome)
  | discarding (outcome : StageOutcome)
  | finalizing (computed : String)
  -- `rx` is dropped.
  | returned (outcome : StageOutcome)
  deriving DecidableEq, Repr

structure StageBody where
  fs : Filesystem
  staging : StagingRun
  worker : StageWorker
  body : UploadBody
  pump : BodyPump
  channel : List PumpMessage

inductive StageBodyOp where
  | pump
  -- `length` bounds a read.
  | worker (length : Nat)
  deriving DecidableEq, Repr

namespace StageBody
variable (s : StageBody)

def start (fs : Filesystem) (key : ChunkKey) (chunkSize : UInt32) (token : BitVec 128) (body : UploadBody) : StageBody :=
  ⟨fs,.beginStage key chunkSize.toNat token,.beginning,body,.reading,[]⟩

def gone : Bool := match s.worker with
  | .returned _ => true
  | _ => false

def pumpStep : StageBody :=
  match s.pump with
  | .reading =>
    match s.body.frames with
    | [] => { s with pump := if s.body.broken then .sending .truncated else .stopped }
    | .trailers :: rest => { s with body := ⟨rest,s.body.broken⟩ }
    | .data bytes :: rest =>
      { s with body := ⟨rest,s.body.broken⟩, pump := if bytes = [] then .reading else .sending (.data bytes) }
  | .sending message =>
    if s.gone then { s with pump := .stopped }
    -- A full channel stops the pump until a message is taken.
    else if s.channel.length < frameChannelCapacity then
      { s with channel := s.channel ++ [message], pump := if message = .truncated then .stopped else .reading }
    else s
  | .stopped => s

def call (sha256 : Sha256) (length : Nat) (next : StagingPhase → StageWorker) : StageBody :=
  let called := s.staging.call sha256 s.fs none length
  { s with fs := called.1, staging := called.2, worker := next called.2.phase }

def discard (outcome : StageOutcome) : StageBody :=
  { s with staging := s.staging.goto .discarding, worker := .discarding outcome }

def begun : StagingPhase → StageWorker
  | .staged => .receiving
  | .refused _ => .returned .storageUnavailable
  | _ => .beginning

def wrote : StagingPhase → StageWorker
  | .poisoning (.oversize _) => .poisoned .tooLarge
  | .poisoning _ => .poisoned .storageUnavailable
  | _ => .receiving

def finalized (size : Nat) (computed : String) : StagingPhase → StageWorker
  | .finalized _ => .returned (.finalized size computed)
  | .failed (.finalizedChunkConflict _ _) => .returned .localIdentityConflict
  | .failed .emptyChunk => .returned .emptyBody
  | .failed _ => .returned .storageUnavailable
  | _ => .finalizing computed

-- After the last message.
def bodyEnd (sha256 : Sha256) (declaredDigest : String) : StageBody :=
  let computed := Sha256Digest.toBase64urlNoPad (sha256 s.staging.written)
  if s.staging.written = [] then s.discard .emptyBody
  else if computed ≠ declaredDigest then s.discard .digestMismatch
  else if UInt32.size ≤ s.staging.written.length then s.discard .storageUnavailable
  else { s with staging := s.staging.finalize, worker := .finalizing computed }

def workerStep (sha256 : Sha256) (declaredDigest : String) (length : Nat) : StageBody :=
  match s.worker with
  | .beginning => s.call sha256 length begun
  | .receiving =>
    match s.channel with
    | .data bytes :: rest =>
      let written := s.staging.write s.fs bytes none
      { s with fs := written.1, staging := written.2, worker := wrote written.2.phase, channel := rest }
    | .truncated :: rest => discard { s with channel := rest } .storageUnavailable
    | [] => if s.pump = .stopped then s.bodyEnd sha256 declaredDigest else s
  | .poisoned outcome =>
    if s.staging.phase = .staged then s.discard outcome else s.call sha256 length fun _ => .poisoned outcome
  | .discarding outcome =>
    s.call sha256 length fun phase => if phase = .discarded then .returned outcome else .discarding outcome
  | .finalizing computed => s.call sha256 length (finalized s.staging.written.length computed)
  | .returned _ => s

def after (sha256 : Sha256) (declaredDigest : String) (s : StageBody) : StageBodyOp → StageBody
  | .pump => s.pumpStep
  | .worker length => s.workerStep sha256 declaredDigest length

-- What `stage_chunk_body` has returned, once the pump has stopped and the worker is joined.
def outcome : Option StageOutcome :=
  match s.pump,s.worker with
  | .stopped,.returned outcome => some outcome
  | _,_ => none

end StageBody

/- The outcome that the bytes, the end of the stream and the final file of before determine. -/
def stagedOutcome (sha256 : Sha256) (chunkSize : UInt32) (declaredDigest : String) (body : UploadBody) (conflict : Prop)
    [Decidable conflict] : StageOutcome :=
  let computed := Sha256Digest.toBase64urlNoPad (sha256 body.bytes)
  if chunkSize.toNat < body.bytes.length then .tooLarge
  else if body.broken then .storageUnavailable
  else if body.bytes = [] then .emptyBody
  else if computed ≠ declaredDigest then .digestMismatch
  else if conflict then .localIdentityConflict
  else .finalized body.bytes.length computed

/- Nothing is in the way of the calls of a staging. -/
structure Unobstructed (fs : Filesystem) (key : ChunkKey) (token : BitVec 128) : Prop where
  root : fs.live.dirs transfersDir = true
  dirs : ∀ dir ∈ key.stageDirs, fs.live.files dir = none
  fresh : fs.live.absent (key.stagingPath token) = true
  regular : fs.live.isDir key.finalPath = false
  allocated : ∀ path inode, fs.live.files path = some inode → inode < fs.next

/- One upload: what is asked, what is sent and what is there. -/
structure BodyUpload where
  sha256 : Sha256
  before : Filesystem
  key : ChunkKey
  token : BitVec 128
  chunkSize : UInt32
  declaredDigest : String
  body : UploadBody

namespace BodyUpload
variable (u : BodyUpload)

def final : Option Nat := u.before.live.files u.key.finalPath

def existing : Option (List UInt8) := (u.before.live.files u.key.finalPath).map u.before.live.content

abbrev Clear : Prop := Unobstructed u.before u.key u.token

def size : Nat := (u.existing.getD []).length

-- The staging run once its file is there, and once the whole body is in it.
def run (written : List UInt8) (poisoned : Bool) (phase : StagingPhase) : StagingRun :=
  ⟨u.key,u.chunkSize.toNat,u.token,some u.before.next,written,poisoned,false,phase⟩

def whole (placed : Bool) (phase : StagingPhase) : StagingRun :=
  ⟨u.key,u.chunkSize.toNat,u.token,some u.before.next,u.body.bytes,false,placed,phase⟩

-- The final file of before has the size and the digest of the body.
abbrev Matches (inode : Nat) : Prop := (u.before.live.content inode).length = u.body.bytes.length ∧
  u.sha256 (u.before.live.content inode) = u.sha256 u.body.bytes

def conflict : StorageError := .finalizedChunkConflict u.key.transferId u.key.chunkIndex.toNat

def Ready (fs : Filesystem) : Prop := ∀ dir ∈ u.key.stageDirs, fs.live.dirs dir = true

/- What a staging has added: its own file, under the staging name or the final one, and directories. -/
structure Layout (fs : Filesystem) (staged placed : Bool) : Prop where
  files : ∀ path, fs.live.files path =
    if path = u.key.stagingPath u.token ∧ staged then some u.before.next
    else if path = u.key.finalPath ∧ placed then some u.before.next else u.before.live.files path
  content : ∀ inode < u.before.next, fs.live.content inode = u.before.live.content inode
  old : ∀ path, u.before.live.dirs path = true → fs.live.dirs path = true
  new : ∀ path, fs.live.dirs path = true → u.before.live.dirs path = true ∨ path ∈ u.key.stageDirs

end BodyUpload

section Paths
variable {key : ChunkKey} {passed rest : List Path} {dir : Path}

theorem stageParent (split : key.stageDirs = passed ++ dir :: rest) :
    dir ≠ [] ∧ dir ∈ key.stageDirs ∧ (dir.dropLast = transfersDir ∨ dir.dropLast ∈ passed) := by
  have mem : dir ∈ key.stageDirs := by simp [split]
  unfold ChunkKey.stageDirs at split
  match passed,split with
  | [],split =>
    cases split
    exact ⟨by simp [ChunkKey.transferDir],mem,.inl (by simp [ChunkKey.transferDir])⟩
  | [_],split =>
    cases split
    exact ⟨by simp [ChunkKey.chunksDir],mem,.inr (by simp [ChunkKey.chunksDir])⟩
  | [_,_],split =>
    cases split
    exact ⟨by simp [ChunkKey.stagingDir],mem,.inr (by simp [ChunkKey.stagingDir])⟩
  | _ :: _ :: _ :: more,split =>
    simp at split

theorem stageDirsShort {path} (mem : path ∈ key.stageDirs) : path.length < 5 := by
  simp only [ChunkKey.stageDirs,List.mem_cons,List.not_mem_nil,or_false] at mem
  rcases mem with rfl | rfl | rfl <;> simp [ChunkKey.stagingDir,ChunkKey.chunksDir,ChunkKey.transferDir,transfersDir]

theorem stagingNoDir (key other : ChunkKey) (token : BitVec 128) : key.stagingPath token ∉ other.stageDirs := by
  intro mem
  have short := stageDirsShort mem
  simp at short

theorem finalNoDir (key other : ChunkKey) : key.finalPath ∉ other.stageDirs := by
  intro mem
  simp only [ChunkKey.stageDirs,List.mem_cons,List.not_mem_nil,or_false] at mem
  rcases mem with same | same | same
  · cases congrArg List.length same
  · cases congrArg List.length same
  · -- The one directory beside the final files has another name.
    have name := congrArg String.toList (List.singleton_inj.mp (List.append_inj' same rfl).2)
    have last := congrArg List.getLast? name
    have chunk : ".chunk".toList.getLast? = some 'k' := rfl
    have staging : ".staging".toList.getLast? = some 'g' := rfl
    rw [String.toList_append,List.getLast?_append,chunk,staging] at last
    cases last

end Paths

section Layouts
variable {u : BodyUpload} {fs fs' : Filesystem} {staged placed : Bool}

theorem layoutStart (u : BodyUpload) : u.Layout u.before false false :=
  ⟨fun path => by simp,fun _ _ => rfl,fun _ there => there,fun _ there => .inl there⟩

theorem layoutLive (layout : u.Layout fs staged placed) (same : fs'.live = fs.live) :
    u.Layout fs' staged placed := by
  obtain ⟨files,content,old,new⟩ := layout
  refine ⟨?_,?_,?_,?_⟩ <;> rw [same]
  · exact files
  · exact content
  · exact old
  · exact new

theorem layoutMkdir (layout : u.Layout fs staged placed) {dir} (mem : dir ∈ u.key.stageDirs) :
    u.Layout (fs.addDir dir) staged placed := by
  refine ⟨layout.files,layout.content,fun path there => ?_,fun path there => ?_⟩
  · by_cases same : path = dir
    · subst same
      exact Function.update_self _ _ _
    · exact (Function.update_of_ne same _ _).trans (layout.old path there)
  · by_cases same : path = dir
    · exact .inr (same ▸ mem)
    · exact layout.new path ((Function.update_of_ne same _ _).symm.trans there)

theorem layoutCreate (layout : u.Layout fs false false) (next : fs.next = u.before.next) :
    u.Layout { (fs.setFile (u.key.stagingPath u.token) (some fs.next)).setContent fs.next [] with next := fs.next + 1 }
      true false := by
  refine ⟨fun path => ?_,fun inode old => ?_,layout.old,layout.new⟩
  · by_cases same : path = u.key.stagingPath u.token
    · subst same
      simp only [true_and,if_true,← next]
      exact setFileHere _ _
    · have files := layout.files path
      simp only [same,false_and,Bool.false_eq_true,and_false,if_false] at files ⊢
      exact (setFileOf _ same).trans files
  · exact (Function.update_of_ne (by omega) _ _).trans (layout.content inode old)

theorem layoutAppend (layout : u.Layout fs staged placed) (bytes : List UInt8) :
    u.Layout (fs.setContent u.before.next bytes) staged placed :=
  ⟨layout.files,fun inode old => (Function.update_of_ne (by omega) _ _).trans (layout.content inode old),
    layout.old,layout.new⟩

theorem layoutLink (layout : u.Layout fs true false) :
    u.Layout (fs.setFile u.key.finalPath (some u.before.next)) true true := by
  refine ⟨fun path => ?_,layout.content,layout.old,layout.new⟩
  by_cases same : path = u.key.finalPath
  · subst same
    simp [setFileHere]
  · rw [setFileOf _ same,layout.files path]
    simp [same]

theorem layoutUnlink (layout : u.Layout fs staged placed)
    (fresh : u.before.live.files (u.key.stagingPath u.token) = none) :
    u.Layout (fs.attempt (.unlink (u.key.stagingPath u.token)) false) false placed := by
  have here := layout.files (u.key.stagingPath u.token)
  simp only [true_and,stagingApart,false_and,if_false,fresh] at here
  cases staged with
  | false =>
    have same : fs.attempt (.unlink (u.key.stagingPath u.token)) false = fs := by
      simp only [Bool.false_eq_true,if_false] at here
      simp [Filesystem.attempt,Filesystem.perform,here]
    rw [same]
    exact layout
  | true =>
    have done : fs.attempt (.unlink (u.key.stagingPath u.token)) false = fs.setFile (u.key.stagingPath u.token) none := by
      simp only [if_true] at here
      simp [Filesystem.attempt,Filesystem.perform,here]
    rw [done]
    refine ⟨fun path => ?_,layout.content,layout.old,layout.new⟩
    by_cases same : path = u.key.stagingPath u.token
    · subst same
      simp [setFileHere,stagingApart,fresh]
    · rw [setFileOf _ same,layout.files path]
      simp [same]

end Layouts

section Calls
variable (u : BodyUpload)

def EnsureStands (fs : Filesystem) (dir : Path) : EnsureCall → Prop
  | .stat => True
  | .create => fs.live.dirs dir = false
  | .permit | .syncParent => fs.live.dirs dir = true
  -- Nobody else makes the directory in between.
  | .recheck => False

inductive Begins : Filesystem → StagingRun → Prop where
  | ensure {fs passed dir rest at_} (layout : u.Layout fs false false) (next : fs.next = u.before.next)
      (split : u.key.stageDirs = passed ++ dir :: rest) (ready : ∀ d ∈ passed, fs.live.dirs d = true)
      (stands : EnsureStands fs dir at_) :
      Begins fs ⟨u.key,u.chunkSize.toNat,u.token,none,[],false,false,.ensure (dir :: rest) at_⟩
  | openNew {fs} (layout : u.Layout fs false false) (next : fs.next = u.before.next)
      (ready : u.Ready fs) : Begins fs ⟨u.key,u.chunkSize.toNat,u.token,none,[],false,false,.openNew⟩

def EnsureCall.rank : EnsureCall → Nat
  | .stat => 4
  | .create => 3
  | .recheck | .permit => 2
  | .syncParent => 1

def beginRank : StagingPhase → Nat
  | .ensure dirs at_ => 5 * dirs.length + at_.rank
  | .openNew => 1
  | _ => 0

structure Opened (fs : Filesystem) (written : List UInt8) : Prop where
  layout : u.Layout fs true false
  content : fs.live.content u.before.next = written
  ready : u.Ready fs

variable {u} {fs : Filesystem} {run : StagingRun}

theorem beginsStart : Begins u u.before (.beginStage u.key u.chunkSize.toNat u.token) :=
  .ensure (layoutStart u) rfl (List.nil_append _).symm (by simp) trivial

theorem ensureNext {passed rest dir} (layout : u.Layout fs false false)
    (next : fs.next = u.before.next) (split : u.key.stageDirs = passed ++ dir :: rest)
    (ready : ∀ d ∈ passed ++ [dir], fs.live.dirs d = true) :
    Begins u fs ⟨u.key,u.chunkSize.toNat,u.token,none,[],false,false,
      if rest = [] then .openNew else .ensure rest .stat⟩ := by
  have split' : u.key.stageDirs = (passed ++ [dir]) ++ rest := by rw [split,List.append_assoc]; rfl
  split
  · rename_i last
    rw [last,List.append_nil] at split'
    exact .openNew layout next fun d mem => ready d (split' ▸ mem)
  · rename_i more
    obtain ⟨dir',rest',rfl⟩ := List.exists_cons_of_ne_nil more
    exact .ensure layout next split' ready trivial

theorem ensureRank (rest : List Path) (dir : Path) (at_ : EnsureCall) :
    beginRank (if rest = [] then .openNew else .ensure rest .stat) < beginRank (.ensure (dir :: rest) at_) := by
  have least : 1 ≤ at_.rank := by cases at_ <;> simp [EnsureCall.rank]
  split <;> simp only [beginRank,EnsureCall.rank,List.length_cons] <;> omega

theorem layoutFree {staged placed path} (layout : u.Layout fs staged placed)
    (parent : fs.live.dirs path.dropLast = true) (regular : u.before.live.isDir path = false)
    (apart : path ∉ u.key.stageDirs) (file : fs.live.files path = none) :
    fs.live.absent path = true ∧ fs.free path = true := by
  simp only [Tree.isDir,Bool.or_eq_false_iff] at regular
  have noDir : fs.live.dirs path = false := by
    refine Bool.eq_false_iff.mpr fun there => ?_
    rcases layout.new _ there with old | new
    · rw [regular.2] at old
      cases old
    · exact apart new
  constructor <;> simp [Filesystem.free,Tree.absent,Tree.isDir,parent,file,noDir,regular.1]

theorem clearStaging (clear : u.Clear) : u.before.live.isDir (u.key.stagingPath u.token) = false ∧
    u.before.live.files (u.key.stagingPath u.token) = none := by
  simpa only [Tree.absent,Bool.and_eq_true,Bool.not_eq_true',Option.isNone_iff_eq_none] using clear.fresh

structure Ensures (fs : Filesystem) (dir : Path) (at_ : EnsureCall) (fs' : Filesystem) (ensuring : Ensuring) : Prop where
  layout : u.Layout fs' false false
  next : fs'.next = u.before.next
  ready : ∀ d, fs.live.dirs d = true → fs'.live.dirs d = true
  moves : (ensuring = .ensured ∧ fs'.live.dirs dir = true) ∨
    ∃ at_', ensuring = .next at_' ∧ EnsureStands fs' dir at_' ∧ at_'.rank < at_.rank

theorem ensureMoves (clear : u.Clear) (layout : u.Layout fs false false)
    (next : fs.next = u.before.next) {passed rest dir at_}
    (split : u.key.stageDirs = passed ++ dir :: rest) (ready : ∀ d ∈ passed, fs.live.dirs d = true)
    (stands : EnsureStands fs dir at_) : @Ensures u fs dir at_ (ensureWorkerDir fs dir none at_).1
      (ensureWorkerDir fs dir none at_).2 := by
  obtain ⟨below,mem,parent⟩ := stageParent split
  have file := layout.files dir
  simp only [Bool.false_eq_true,and_false,if_false,clear.dirs dir mem] at file
  have isDir : fs.live.isDir dir = fs.live.dirs dir := by simp [Tree.isDir,below]
  have absent : fs.live.absent dir = !fs.live.dirs dir := by simp [Tree.absent,isDir,file]
  cases at_ with
  | stat =>
    cases there : fs.live.dirs dir with
    | true =>
      have done : ensureWorkerDir fs dir none .stat = (fs,.ensured) := by
        simp [ensureWorkerDir,validateExistingWorkerDir,absent,isDir,there]
      rw [done]
      exact ⟨layout,next,fun _ there => there,.inl ⟨rfl,there⟩⟩
    | false =>
      have done : ensureWorkerDir fs dir none .stat = (fs,.next .create) := by simp [ensureWorkerDir,absent,there]
      rw [done]
      exact ⟨layout,next,fun _ there => there,.inr ⟨.create,rfl,there,by decide⟩⟩
  | create =>
    have above : fs.live.isDir dir.dropLast = true := by
      refine Bool.or_eq_true_iff.mpr (.inr ?_)
      rcases parent with root | made
      · exact root ▸ layout.old _ clear.root
      · exact ready _ made
    have free : fs.free dir = true := by simp [Filesystem.free,below,above,absent,show fs.live.dirs dir = false from stands]
    have done : ensureWorkerDir fs dir none .create = (fs.addDir dir,.next .permit) := by
      simp [ensureWorkerDir,Filesystem.perform,free]
    have performs : fs.perform (.mkdir dir) = some (fs.addDir dir) := by simp [Filesystem.perform,free]
    rw [done]
    exact ⟨layoutMkdir layout mem,next,fun _ there => dirsStay performs there,
      .inr ⟨.permit,rfl,Function.update_self _ _ _,by decide⟩⟩
  | recheck => exact stands.elim
  | permit => exact ⟨layout,next,fun _ there => there,.inr ⟨.syncParent,rfl,stands,by decide⟩⟩
  | syncParent =>
    have same : (fs.attempt (.syncDir dir.dropLast) false).live = fs.live ∧
        (fs.attempt (.syncDir dir.dropLast) false).next = fs.next := by
      simp only [Filesystem.attempt,Filesystem.perform,Bool.false_eq_true,if_false]
      split <;> exact ⟨rfl,rfl⟩
    refine ⟨layoutLive layout same.1,same.2.trans next,fun d there => ?_,.inl ⟨rfl,?_⟩⟩
    · exact (congrArg (fun tree => Tree.dirs tree d) same.1).trans there
    · exact (congrArg (fun tree => Tree.dirs tree dir) same.1).trans stands

theorem beginCall (clear : u.Clear) (begins : Begins u fs run) (length : Nat) :
    let called := run.call u.sha256 fs none length
    (Begins u called.1 called.2 ∧ beginRank called.2.phase < beginRank run.phase) ∨
      (called.2 = u.run [] false .staged ∧ Opened u called.1 []) := by
  cases begins with
  | @ensure passed dir rest at_ layout next split ready stands =>
    have ensures := ensureMoves clear layout next split ready stands
    simp only [StagingRun.call]
    generalize ensureWorkerDir fs dir none at_ = result at ensures ⊢
    obtain ⟨fs',ensuring⟩ := result
    obtain ⟨layout',next',kept,⟨rfl,made⟩ | ⟨at_',rfl,stands',less⟩⟩ := ensures
    · refine .inl ⟨ensureNext layout' next' split fun d mem => ?_,ensureRank rest dir at_⟩
      rcases List.mem_append.mp mem with mem | mem
      · exact kept d (ready d mem)
      · exact List.mem_singleton.mp mem ▸ made
    · exact .inl ⟨.ensure layout' next' split (fun d mem => kept d (ready d mem)) stands',
        Nat.add_lt_add_left less _⟩
  | openNew layout next ready =>
    have done : fs.perform (.create (u.key.stagingPath u.token)) = some
        { (fs.setFile (u.key.stagingPath u.token) (some fs.next)).setContent fs.next [] with next := fs.next + 1 } := by
      have file := layout.files (u.key.stagingPath u.token)
      simp only [Bool.false_eq_true,and_false,if_false,(clearStaging clear).2] at file
      have free := layoutFree layout (by simpa [ChunkKey.stagingPath] using ready u.key.stagingDir (by simp [ChunkKey.stageDirs]))
        (clearStaging clear).1 (stagingNoDir u.key u.key u.token) file
      simp [Filesystem.perform,free.2]
    simp only [StagingRun.call,StagingRun.stagingPath,done]
    refine .inr ⟨by rw [BodyUpload.run,next],layoutCreate layout next,?_,ready⟩
    rw [← next]
    exact Function.update_self _ _ _

/- `write`: the bytes are appended, or they do not fit and the staging is poisoned. -/
theorem writeFits {written} (opened : Opened u fs written) (bytes : List UInt8)
    (fits : written.length + bytes.length ≤ u.chunkSize.toNat) :
    let wrote := (u.run written false .staged).write fs bytes none
    wrote.2 = u.run (written ++ bytes) false .staged ∧ Opened u wrote.1 (written ++ bytes) := by
  by_cases empty : bytes = []
  · subst empty
    rw [List.append_nil]
    exact ⟨rfl,opened⟩
  · have done : (u.run written false .staged).write fs bytes none =
        (fs.setContent u.before.next (fs.live.content u.before.next ++ bytes),
          u.run (written ++ bytes) false .staged) := by
      simp [StagingRun.write,BodyUpload.run,empty,Filesystem.perform,Nat.not_lt.mpr fits]
    rw [done]
    refine ⟨rfl,layoutAppend opened.layout _,?_,opened.ready⟩
    rw [← opened.content]
    exact Function.update_self _ _ _

theorem writeExceeds {written bytes} (over_ : u.chunkSize.toNat < written.length + bytes.length)
    (fits : written.length ≤ u.chunkSize.toNat) :
    (u.run written false .staged).write fs bytes none =
      (fs,u.run written true (.poisoning (.oversize u.chunkSize.toNat))) := by
  have some_ : bytes ≠ [] := by
    rintro rfl
    simp only [List.length_nil] at over_
    omega
  simp [StagingRun.write,StagingRun.poison,BodyUpload.run,some_,over_]

/- `finalize` of the whole body: on its way, and ended with a new file, with the same one or with another one there. -/
inductive Finalizes (u : BodyUpload) (fs : Filesystem) : StagingRun → Prop where
  | syncFile (opened : Opened u fs u.body.bytes) : Finalizes u fs (u.whole false .syncFile)
  | place (opened : Opened u fs u.body.bytes) : Finalizes u fs (u.whole false .place)
  | syncDir (absent : u.final = none) (layout : u.Layout fs true true)
      (content : fs.live.content u.before.next = u.body.bytes) (ready : u.Ready fs) :
      Finalizes u fs (u.whole true .syncDir)
  | unlinkInstalled (absent : u.final = none) (layout : u.Layout fs true true)
      (content : fs.live.content u.before.next = u.body.bytes) : Finalizes u fs (u.whole true .unlinkInstalled)
  | installed (absent : u.final = none) (layout : u.Layout fs false true)
      (content : fs.live.content u.before.next = u.body.bytes) : Finalizes u fs (u.whole true (.finalized .installed))
  | openExisting {inode} (found : u.final = some inode) (layout : u.Layout fs true false) :
      Finalizes u fs (u.whole false .openExisting)
  | scan {inode scanned} (found : u.final = some inode) (layout : u.Layout fs true false)
      (read : scanned <+: u.before.live.content inode) : Finalizes u fs (u.whole false (.scan inode scanned))
  | unlinkExisting {inode content} (found : u.final = some inode) (layout : u.Layout fs true false)
      (read : content = u.before.live.content inode) :
      Finalizes u fs (u.whole false (.unlinkExisting ⟨content.length,u.sha256 content⟩))
  | present {inode} (found : u.final = some inode) (layout : u.Layout fs false false) (same : u.Matches inode) :
      Finalizes u fs (u.whole false (.finalized .destinationExists))
  | failing {inode} (found : u.final = some inode) (layout : u.Layout fs false false) (other : ¬ u.Matches inode) :
      Finalizes u fs (u.whole false (.failing u.conflict))
  | failed {inode} (found : u.final = some inode) (layout : u.Layout fs false false) (other : ¬ u.Matches inode) :
      Finalizes u fs (u.whole false (.failed u.conflict))

-- `size` is the length of the file that is there.
def finalRank (size : Nat) : StagingPhase → Nat
  | .syncFile => size + 9
  | .place => size + 8
  | .openExisting => size + 7
  | .scan _ scanned => size - scanned.length + 5
  | .unlinkExisting _ => 4
  | .syncDir => 3
  | .unlinkInstalled | .failing _ => 2
  | _ => 0

section Finalize

theorem finalizesWritten (finalizes : Finalizes u fs run) : run.written = u.body.bytes := by
  cases finalizes <;> rfl

theorem existingFound {inode} (found : u.final = some inode) :
    u.existing = some (u.before.live.content inode) := congrArg (Option.map _) found

theorem existingSize {inode} (found : u.final = some inode) : u.size = (u.before.live.content inode).length := by
  rw [BodyUpload.size,existingFound found,Option.getD_some]

theorem layoutFinal {staged} (layout : u.Layout fs staged false) : fs.live.files u.key.finalPath = u.final := by
  rw [layout.files]
  simp [(stagingApart u.key u.key u.token).symm,BodyUpload.final]

theorem layoutStaging {placed} (layout : u.Layout fs true placed) :
    fs.live.files (u.key.stagingPath u.token) = some u.before.next := by
  rw [layout.files]
  simp

/- A call of `finalize` that brings it nearer to its end. -/
structure Nears (run : StagingRun) (called : Filesystem × StagingRun) : Prop where
  stands : Finalizes u called.1 called.2
  less : finalRank u.size called.2.phase < finalRank u.size run.phase

theorem placeCall (clear : u.Clear) (opened : Opened u fs u.body.bytes) (length : Nat) :
    @Nears u (u.whole false .place) ((u.whole false .place).call u.sha256 fs none length) := by
  have staging := layoutStaging opened.layout
  cases found : u.final with
  | none =>
    obtain ⟨absent,free⟩ := layoutFree opened.layout
      (by simpa [ChunkKey.finalPath] using opened.ready u.key.chunksDir (by simp [ChunkKey.stageDirs])) clear.regular
      (finalNoDir u.key u.key) ((layoutFinal opened.layout).trans found)
    have done : (u.whole false .place).call u.sha256 fs none length =
        (fs.setFile u.key.finalPath (some u.before.next),u.whole true .syncDir) := by
      simp [StagingRun.call,BodyUpload.whole,StagingRun.stagingPath,staging,absent,Filesystem.perform,free]
    rw [done]
    exact ⟨.syncDir found (layoutLink opened.layout) opened.content opened.ready,
      by simp only [BodyUpload.whole,finalRank]; omega⟩
  | some inode =>
    have there : fs.live.absent u.key.finalPath = false := by
      simp [Tree.absent,(layoutFinal opened.layout).trans found]
    have done : (u.whole false .place).call u.sha256 fs none length = (fs,u.whole false .openExisting) := by
      simp [StagingRun.call,StagingRun.goto,BodyUpload.whole,StagingRun.stagingPath,staging,there]
    rw [done]
    exact ⟨.openExisting found opened.layout,by simp only [BodyUpload.whole,finalRank]; omega⟩

theorem scanCall (clear : u.Clear) {inode scanned} (found : u.final = some inode)
    (layout : u.Layout fs true false) (read : scanned <+: u.before.live.content inode) (length : Nat) :
    @Nears u (u.whole false (.scan inode scanned))
      ((u.whole false (.scan inode scanned)).call u.sha256 fs none length) := by
  have same := layout.content inode (clear.allocated _ _ found)
  have read' : scanned <+: fs.live.content inode := same ▸ read
  have size := existingSize found
  by_cases over_ : StagingRun.readNext fs inode scanned length = []
  · have done : (u.whole false (.scan inode scanned)).call u.sha256 fs none length =
        (fs,u.whole false (.unlinkExisting ⟨scanned.length,u.sha256 scanned⟩)) := by
      simp [StagingRun.call,StagingRun.goto,BodyUpload.whole,over_]
    rw [done]
    exact ⟨.unlinkExisting found layout ((readWhole read' over_).trans same),
      by simp only [BodyUpload.whole,finalRank]; omega⟩
  · have done : (u.whole false (.scan inode scanned)).call u.sha256 fs none length =
        (fs,u.whole false (.scan inode (scanned ++ StagingRun.readNext fs inode scanned length))) := by
      simp [StagingRun.call,StagingRun.goto,BodyUpload.whole,over_]
    have next := same ▸ readPrefix read' length
    have longer := next.length_le
    have more := List.length_pos_iff.mpr over_
    rw [List.length_append] at longer
    rw [done]
    refine ⟨.scan found layout next,?_⟩
    simp only [BodyUpload.whole,finalRank,List.length_append]
    omega

theorem finalizeCall (clear : u.Clear) (finalizes : Finalizes u fs run) (going : run.phase.ended = false) (length : Nat) :
    @Nears u run (run.call u.sha256 fs none length) := by
  have fresh := (clearStaging clear).2
  cases finalizes with
  | syncFile opened =>
    refine ⟨.place ⟨layoutLive opened.layout rfl,opened.content,opened.ready⟩,?_⟩
    simp [StagingRun.call,StagingRun.goto,BodyUpload.whole,finalRank]
  | place opened => exact placeCall clear opened length
  | syncDir absent layout content ready =>
    have parent : fs.live.isDir u.key.chunksDir = true :=
      Bool.or_eq_true_iff.mpr (.inr (ready _ (by simp [ChunkKey.stageDirs])))
    have done : (u.whole true .syncDir).call u.sha256 fs none length =
        ({ fs with kept := fs.syncEntries u.key.chunksDir },u.whole true .unlinkInstalled) := by
      simp [StagingRun.call,StagingRun.goto,BodyUpload.whole,Filesystem.perform,parent]
    rw [done]
    exact ⟨.unlinkInstalled absent (layoutLive layout rfl) content,by simp [BodyUpload.whole,finalRank]⟩
  | unlinkInstalled absent layout content =>
    have kept : (fs.attempt (.unlink (u.key.stagingPath u.token)) false).live.content u.before.next =
        fs.live.content u.before.next := by
      simp only [Filesystem.attempt,Filesystem.perform,Bool.false_eq_true,if_false]
      split <;> rfl
    exact ⟨.installed absent (layoutUnlink layout fresh) (kept.trans content),Nat.succ_pos _⟩
  | @openExisting inode found layout =>
    have done : (u.whole false .openExisting).call u.sha256 fs none length = (fs,u.whole false (.scan inode [])) := by
      simp [StagingRun.call,StagingRun.goto,BodyUpload.whole,(layoutFinal layout).trans found]
    rw [done]
    exact ⟨.scan found layout List.nil_prefix,by simp [BodyUpload.whole,finalRank]⟩
  | scan found layout read => exact scanCall clear found layout read length
  | @unlinkExisting inode content found layout read =>
    subst read
    have layout' := layoutUnlink layout fresh
    change Nears _ (_,u.whole false (if u.Matches inode then .finalized .destinationExists else .failing u.conflict))
    split
    · exact ⟨.present found layout' ‹_›,Nat.succ_pos _⟩
    · exact ⟨.failing found layout' ‹_›,by simp [BodyUpload.whole,finalRank]⟩
  | failing found layout other => exact ⟨.failed found (layoutUnlink layout fresh) other,Nat.succ_pos _⟩
  | installed | present | failed => cases going

end Finalize
end Calls

-- The messages a pump has still to send.
def bodyMessages (broken : Bool) : List BodyFrame → List PumpMessage
  | [] => if broken then [.truncated] else []
  | .trailers :: rest => bodyMessages broken rest
  | .data bytes :: rest => if bytes = [] then bodyMessages broken rest else .data bytes :: bodyMessages broken rest

namespace StageBody
variable (s : StageBody)

def unsent : List PumpMessage :=
  match s.pump with
  | .reading => bodyMessages s.body.broken s.body.frames
  | .sending .truncated => [.truncated]
  | .sending (.data bytes) => .data bytes :: bodyMessages s.body.broken s.body.frames
  | .stopped => []

-- The messages the worker has still to take, were it to take them all.
def pending : List PumpMessage := s.channel ++ s.unsent

def pumpRank : Nat :=
  match s.pump with
  | .reading => 3 * s.body.frames.length + 4
  | .sending .truncated => 1
  | .sending (.data _) => 3 * s.body.frames.length + 5
  | .stopped => 0

def workerRank (size : Nat) : Nat :=
  match s.worker with
  | .beginning => size + 20 + s.pending.length + beginRank s.staging.phase
  | .receiving => size + 20 + s.pending.length
  | .finalizing _ => finalRank size s.staging.phase + 1
  | .poisoned _ => if s.staging.phase = .staged then 5 else 6
  | .discarding _ => 4
  | .returned _ => 0

def rank (size : Nat) : Nat := s.pumpRank + s.workerRank size

end StageBody

section Pump
variable {s : StageBody}

theorem bodyMessagesShape (broken : Bool) (frames : List BodyFrame) : ∃ rest : List (List UInt8),
    bodyMessages broken frames = rest.map .data ++ (if broken then [.truncated] else []) ∧
      rest.flatten = frames.flatMap BodyFrame.payload := by
  induction frames with
  | nil => exact ⟨[],rfl,rfl⟩
  | cons frame frames ih =>
    obtain ⟨rest,messages,payload⟩ := ih
    cases frame with
    | trailers => exact ⟨rest,messages,payload⟩
    | data bytes =>
      by_cases empty : bytes = []
      · subst empty
        exact ⟨rest,messages,payload⟩
      · refine ⟨bytes :: rest,?_,?_⟩
        · rw [bodyMessages,if_neg empty,messages]
          rfl
        · rw [List.flatten_cons,payload,List.flatMap_cons]
          rfl

theorem pumpFrame (s : StageBody) : s.pumpStep.fs = s.fs ∧ s.pumpStep.staging = s.staging ∧ s.pumpStep.worker = s.worker := by
  unfold StageBody.pumpStep
  split
  · split <;> exact ⟨rfl,rfl,rfl⟩
  · split
    · exact ⟨rfl,rfl,rfl⟩
    · split <;> exact ⟨rfl,rfl,rfl⟩
  · exact ⟨rfl,rfl,rfl⟩

/- While the worker listens, the pump moves messages and neither adds, drops nor reorders one. -/
theorem pumpPending (listens : s.gone = false) : s.pumpStep.pending = s.pending := by
  unfold StageBody.pumpStep
  split
  · rename_i reading
    split
    · rename_i frames
      cases broken : s.body.broken <;> simp [StageBody.pending,StageBody.unsent,reading,frames,bodyMessages,broken]
    · rename_i frames
      simp [StageBody.pending,StageBody.unsent,reading,frames,bodyMessages]
    · rename_i bytes rest frames
      by_cases empty : bytes = [] <;>
        simp [StageBody.pending,StageBody.unsent,reading,frames,bodyMessages,empty]
  · rename_i message sending
    rw [if_neg (by simp [listens])]
    split
    · cases message <;> simp [StageBody.pending,StageBody.unsent,sending]
    · rfl
  · rfl

/- The pump rests when it has stopped, and when the worker has let the channel fill up. -/
theorem pumpMoves (s : StageBody) : s.pumpStep.pumpRank < s.pumpRank ∨
    (s.pumpStep = s ∧ (s.pump = .stopped ∨ (s.gone = false ∧ s.channel ≠ []))) := by
  unfold StageBody.pumpStep
  split
  · rename_i reading
    refine .inl ?_
    split
    · rename_i frames
      cases broken : s.body.broken <;> simp [StageBody.pumpRank,reading]
    · rename_i frames
      simp [StageBody.pumpRank,reading,frames]
    · rename_i bytes rest frames
      by_cases empty : bytes = [] <;> simp only [StageBody.pumpRank,reading,frames,empty,if_true,if_false,
        List.length_cons] <;> omega
  · rename_i message sending
    split
    · refine .inl ?_
      cases message <;> simp [StageBody.pumpRank,sending]
    · rename_i listens
      split
      · refine .inl ?_
        cases message <;> simp [StageBody.pumpRank,sending]
      · rename_i full
        refine .inr ⟨rfl,.inr ⟨by simpa using listens,fun empty => full ?_⟩⟩
        rw [empty]
        decide
  · exact .inr ⟨rfl,.inl ‹_›⟩

end Pump

def StageOutcome.isFinalized : StageOutcome → Bool
  | .finalized _ _ => true
  | _ => false

namespace BodyUpload
variable (u : BodyUpload)

def start : StageBody := .start u.before u.key u.chunkSize u.token u.body

def after (s : StageBody) (op : StageBodyOp) : StageBody := s.after u.sha256 u.declaredDigest op

def computed : String := Sha256Digest.toBase64urlNoPad (u.sha256 u.body.bytes)

-- The final file of before is told apart from the bytes by its size and digest.
def Conflicts : Prop := ∃ content ∈ u.existing,
  ¬ (content.length = u.body.bytes.length ∧ u.sha256 content = u.sha256 u.body.bytes)

instance conflictsDecidable : Decidable u.Conflicts :=
  inferInstanceAs (Decidable (∃ content ∈ u.existing,
    ¬ (content.length = u.body.bytes.length ∧ u.sha256 content = u.sha256 u.body.bytes)))

def outcome : StageOutcome := stagedOutcome u.sha256 u.chunkSize u.declaredDigest u.body u.Conflicts

/- Everything an upload leaves behind: at most the one new final file, and no staging file. -/
structure Leaves (fs : Filesystem) (outcome : StageOutcome) : Prop where
  files : ∀ path, fs.live.files path =
    if path = u.key.finalPath ∧ outcome.isFinalized = true ∧ u.existing = none then some u.before.next
    else u.before.live.files path
  contents : ∀ inode < u.before.next, fs.live.content inode = u.before.live.content inode
  placed : outcome.isFinalized = true → u.existing = none → fs.live.content u.before.next = u.body.bytes
  unstaged : fs.live.files (u.key.stagingPath u.token) = none

-- The worker has taken `written`, and what is pending is the rest of the body.
def Streams (s : StageBody) (written : List UInt8) : Prop := ∃ rest : List (List UInt8),
  s.pending = rest.map .data ++ (if u.body.broken then [.truncated] else []) ∧ written ++ rest.flatten = u.body.bytes

structure Complete : Prop where
  whole : u.body.broken = false
  some_ : u.body.bytes ≠ []
  fits : u.body.bytes.length ≤ u.chunkSize.toNat
  declared : u.computed = u.declaredDigest

def WorkerStands (s : StageBody) : StageWorker → Prop
  | .beginning => Begins u s.fs s.staging ∧ u.Streams s []
  | .receiving => ∃ written, s.staging = u.run written false .staged ∧ Opened u s.fs written ∧
      written.length ≤ u.chunkSize.toNat ∧ u.Streams s written
  | .poisoned outcome => u.outcome = outcome ∧ outcome.isFinalized = false ∧ ∃ written,
      (∃ e, s.staging = u.run written true (.poisoning e) ∧ u.Layout s.fs true false) ∨
        (s.staging = u.run written true .staged ∧ u.Layout s.fs false false)
  | .discarding outcome => u.outcome = outcome ∧ outcome.isFinalized = false ∧ ∃ written poisoned staged,
      s.staging = u.run written poisoned .discarding ∧ u.Layout s.fs staged false
  | .finalizing computed => computed = u.computed ∧ u.Complete ∧ Finalizes u s.fs s.staging ∧
      s.staging.phase.ended = false
  | .returned outcome => u.outcome = outcome ∧ u.Leaves s.fs outcome

def Stands (s : StageBody) : Prop := u.WorkerStands s s.worker

end BodyUpload

section Upload
variable {u : BodyUpload} {s : StageBody}

theorem streamsPump (listens : s.gone = false) {written} (streams : u.Streams s written) :
    u.Streams s.pumpStep written := by
  obtain ⟨rest,pending,payload⟩ := streams
  exact ⟨rest,(pumpPending listens).trans pending,payload⟩

theorem pumpStands (stands : u.Stands s) : u.Stands s.pumpStep := by
  obtain ⟨fs,staging,worker⟩ := pumpFrame s
  unfold BodyUpload.Stands at stands ⊢
  rw [worker]
  cases phase : s.worker <;> rw [phase] at stands <;> simp only [BodyUpload.WorkerStands,fs,staging] at stands ⊢
  case beginning => exact ⟨stands.1,streamsPump (by simp [StageBody.gone,phase]) stands.2⟩
  case receiving =>
    obtain ⟨written,run,opened,fits,streams⟩ := stands
    exact ⟨written,run,opened,fits,streamsPump (by simp [StageBody.gone,phase]) streams⟩
  all_goals exact stands

theorem leavesUnpublished (clear : u.Clear) {fs outcome}
    (layout : u.Layout fs false false)
    (unpublished : ¬ (outcome.isFinalized = true ∧ u.existing = none)) : u.Leaves fs outcome := by
  have files : ∀ path, fs.live.files path = u.before.live.files path := fun path => by
    rw [layout.files]
    simp
  refine ⟨fun path => ?_,layout.content,fun final absent => absurd ⟨final,absent⟩ unpublished,?_⟩
  · rw [if_neg fun published => unpublished published.2]
    exact files path
  · exact (files _).trans (clearStaging clear).2

theorem leavesPublished (clear : u.Clear) {fs size digest}
    (layout : u.Layout fs false true) (absent : u.final = none)
    (content : fs.live.content u.before.next = u.body.bytes) : u.Leaves fs (.finalized size digest) := by
  have none_ : u.existing = none := congrArg (Option.map _) absent
  have files : ∀ path, fs.live.files path = if path = u.key.finalPath then some u.before.next
      else u.before.live.files path := fun path => by
    rw [layout.files]
    simp
  refine ⟨fun path => ?_,layout.content,fun _ _ => content,?_⟩
  · rw [files]
    simp [StageOutcome.isFinalized,none_]
  · rw [files,if_neg (stagingApart _ _ _)]
    exact (clearStaging clear).2

/- What one step of the worker does to the upload: it keeps what holds, and it is one of finitely many. -/
structure WorkerMoves (u : BodyUpload) (s s' : StageBody) : Prop where
  stands : u.Stands s'
  less : s'.workerRank u.size < s.workerRank u.size

theorem beginsPhase {fs run}
    (begins : Begins u fs run) :
    StageBody.begun run.phase = .beginning ∧ 1 ≤ beginRank run.phase := by
  cases begins with
  | ensure =>
    refine ⟨rfl,?_⟩
    simp only [beginRank,List.length_cons]
    omega
  | openNew => exact ⟨rfl,Nat.le_refl _⟩

theorem beginMoves (clear : u.Clear) (worker : s.worker = .beginning) (stands : u.Stands s)
    (length : Nat) : WorkerMoves u s (s.call u.sha256 length StageBody.begun) := by
  rw [BodyUpload.Stands,worker] at stands
  obtain ⟨begins,streams⟩ := stands
  rcases beginCall clear begins length with ⟨begins',less⟩ | ⟨run,opened⟩
  · have still := (beginsPhase begins').1
    refine ⟨?_,?_⟩
    · simp only [BodyUpload.Stands,StageBody.call,still]
      exact ⟨begins',streams⟩
    · simp only [StageBody.workerRank,StageBody.call,still,worker]
      exact Nat.add_lt_add_left less _
  · have now : StageBody.begun (s.staging.call u.sha256 s.fs none length).2.phase = .receiving := by
      rw [run]
      rfl
    have ranked := (beginsPhase begins).2
    refine ⟨?_,?_⟩
    · simp only [BodyUpload.Stands,StageBody.call,now]
      exact ⟨[],run,opened,Nat.zero_le _,streams⟩
    · simp only [StageBody.workerRank,StageBody.call,now,worker]
      exact Nat.lt_add_of_pos_right ranked

-- The next message is the next part of the body.
theorem streamsData {written bytes rest} (streams : u.Streams s written)
    (channel : s.channel = .data bytes :: rest) :
    u.Streams { s with channel := rest } (written ++ bytes) ∧ (written ++ bytes).length ≤ u.body.bytes.length := by
  obtain ⟨parts,pending,payload⟩ := streams
  rw [StageBody.pending,channel] at pending
  cases parts with
  | nil => split at pending <;> simp at pending
  | cons part parts =>
    simp only [List.map_cons,List.cons_append,List.cons.injEq,PumpMessage.data.injEq] at pending
    obtain ⟨rfl,pending⟩ := pending
    rw [List.flatten_cons,← List.append_assoc] at payload
    refine ⟨⟨parts,pending,payload⟩,?_⟩
    rw [← payload]
    simp only [List.length_append]
    omega

theorem streamsTruncated {written rest} (streams : u.Streams s written)
    (channel : s.channel = .truncated :: rest) : u.body.broken = true ∧ written = u.body.bytes := by
  obtain ⟨parts,pending,payload⟩ := streams
  rw [StageBody.pending,channel] at pending
  cases parts with
  | cons part parts => simp at pending
  | nil =>
    split at pending
    · rename_i broken
      rw [List.flatten_nil,List.append_nil] at payload
      exact ⟨broken,payload⟩
    · cases pending

theorem streamsEnd {written} (streams : u.Streams s written) (channel : s.channel = [])
    (stopped : s.pump = .stopped) : u.body.broken = false ∧ written = u.body.bytes := by
  obtain ⟨parts,pending,payload⟩ := streams
  simp only [StageBody.pending,channel,StageBody.unsent,stopped,List.nil_append] at pending
  have none_ := List.append_eq_nil_iff.mp pending.symm
  have empty := List.map_eq_nil_iff.mp none_.1
  subst empty
  rw [List.flatten_nil,List.append_nil] at payload
  refine ⟨?_,payload⟩
  cases broken : u.body.broken with
  | false => rfl
  | true =>
    rw [broken] at none_
    cases none_.2

theorem receiveData (worker : s.worker = .receiving) (stands : u.Stands s) {bytes rest}
    (channel : s.channel = .data bytes :: rest) : WorkerMoves u s { s with
      fs := (s.staging.write s.fs bytes none).1
      staging := (s.staging.write s.fs bytes none).2
      worker := StageBody.wrote (s.staging.write s.fs bytes none).2.phase
      channel := rest } := by
  rw [BodyUpload.Stands,worker] at stands
  obtain ⟨written,run,opened,fits,streams⟩ := stands
  obtain ⟨streams',long⟩ := streamsData streams channel
  rw [List.length_append] at long
  rw [run]
  by_cases small : written.length + bytes.length ≤ u.chunkSize.toNat
  · obtain ⟨run',opened'⟩ := writeFits opened bytes small
    have now : StageBody.wrote ((u.run written false .staged).write s.fs bytes none).2.phase = .receiving := by
      rw [run']
      rfl
    refine ⟨?_,?_⟩
    · simp only [BodyUpload.Stands,now]
      exact ⟨written ++ bytes,run',opened',by rw [List.length_append]; exact small,streams'⟩
    · simp only [StageBody.workerRank,now,worker,StageBody.pending,channel,List.length_append,List.length_cons,
        StageBody.unsent]
      omega
  · have exceeds := @writeExceeds u s.fs written bytes (by omega) fits
    have now : StageBody.wrote ((u.run written false .staged).write s.fs bytes none).2.phase = .poisoned .tooLarge := by
      rw [exceeds]
      rfl
    have large : u.outcome = .tooLarge := if_pos (by omega)
    refine ⟨?_,?_⟩
    · simp only [BodyUpload.Stands,now]
      refine ⟨large,rfl,written,.inl ⟨.oversize u.chunkSize.toNat,?_,?_⟩⟩
      · rw [exceeds]
      · rw [exceeds]
        exact opened.layout
    · simp only [StageBody.workerRank,now,worker]
      split <;> omega

theorem discardMoves {written poisoned staged outcome}
    (run : s.staging = u.run written poisoned .staged) (layout : u.Layout s.fs staged false)
    (same : u.outcome = outcome) (unpublished : outcome.isFinalized = false) (rank : 4 < s.workerRank u.size)
    (channel : List PumpMessage) : WorkerMoves u s (StageBody.discard { s with channel := channel } outcome) := by
  refine ⟨⟨same,unpublished,written,poisoned,staged,?_,layout⟩,rank⟩
  simp only [StageBody.discard,run]
  rfl

theorem receiveTruncated (worker : s.worker = .receiving) (stands : u.Stands s) {rest}
    (channel : s.channel = .truncated :: rest) :
    WorkerMoves u s (StageBody.discard { s with channel := rest } .storageUnavailable) := by
  rw [BodyUpload.Stands,worker] at stands
  obtain ⟨written,run,opened,fits,streams⟩ := stands
  obtain ⟨broken,rfl⟩ := streamsTruncated streams channel
  have outcome : u.outcome = .storageUnavailable := by
    simp [BodyUpload.outcome,stagedOutcome,Nat.not_lt.mpr fits,broken]
  refine discardMoves run opened.layout outcome rfl ?_ rest
  simp only [StageBody.workerRank,worker]
  omega

theorem receiveEnd (worker : s.worker = .receiving) (stands : u.Stands s) (channel : s.channel = [])
    (stopped : s.pump = .stopped) : WorkerMoves u s (s.bodyEnd u.sha256 u.declaredDigest) := by
  rw [BodyUpload.Stands,worker] at stands
  obtain ⟨written,run,opened,fits,streams⟩ := stands
  obtain ⟨whole,rfl⟩ := streamsEnd streams channel stopped
  have rank : 4 < s.workerRank u.size := by
    simp only [StageBody.workerRank,worker]
    omega
  have small := Nat.not_lt.mpr fits
  have held : s.staging.written = u.body.bytes := by rw [run]; rfl
  have narrow : ¬ UInt32.size ≤ u.body.bytes.length := by
    have bound := u.chunkSize.toNat_lt
    simp only [UInt32.size]
    omega
  have discarded : ∀ {outcome}, u.outcome = outcome → outcome.isFinalized = false →
      WorkerMoves u s (s.discard outcome) := fun same unpublished =>
    discardMoves run opened.layout same unpublished rank s.channel
  unfold StageBody.bodyEnd
  simp only [held]
  by_cases empty : u.body.bytes = []
  · rw [if_pos empty]
    exact discarded (by simp [BodyUpload.outcome,stagedOutcome,whole,empty]) rfl
  rw [if_neg empty]
  by_cases declared : Sha256Digest.toBase64urlNoPad (u.sha256 u.body.bytes) = u.declaredDigest
  · rw [if_neg (not_not.mpr declared),if_neg narrow]
    have final : s.staging.finalize = u.whole false .syncFile := by
      rw [run]
      simp [StagingRun.finalize,BodyUpload.run,BodyUpload.whole,StagingRun.goto,empty]
    refine ⟨⟨rfl,⟨whole,empty,fits,declared⟩,?_⟩,?_⟩
    · simp only [final]
      exact ⟨.syncFile opened,rfl⟩
    · simp only [StageBody.workerRank,worker,final,BodyUpload.whole,finalRank]
      omega
  · rw [if_pos declared]
    exact discarded (by simp [BodyUpload.outcome,stagedOutcome,whole,empty,small,declared]) rfl

theorem poisonedMoves (clear : u.Clear) {outcome}
    (worker : s.worker = .poisoned outcome) (stands : u.Stands s) (length : Nat) : WorkerMoves u s
      (if s.staging.phase = .staged then s.discard outcome else s.call u.sha256 length fun _ => .poisoned outcome) := by
  rw [BodyUpload.Stands,worker] at stands
  obtain ⟨same,unpublished,written,⟨e,run,layout⟩ | ⟨run,layout⟩⟩ := stands
  · have phase : s.staging.phase = .poisoning e := by rw [run]; rfl
    have going : s.staging.phase ≠ .staged := by simp [phase]
    have called : s.staging.call u.sha256 s.fs none length =
        (s.fs.attempt (.unlink (u.key.stagingPath u.token)) false,u.run written true .staged) := by
      rw [run]
      rfl
    rw [if_neg going]
    refine ⟨?_,?_⟩
    · simp only [BodyUpload.Stands,StageBody.call,called]
      exact ⟨same,unpublished,written,.inr ⟨rfl,layoutUnlink layout (clearStaging clear).2⟩⟩
    · simp only [StageBody.workerRank,StageBody.call,worker,called,if_neg going]
      exact Nat.lt_of_le_of_lt (Nat.le_of_eq (if_pos rfl)) (by omega)
  · have phase : s.staging.phase = .staged := by rw [run]; rfl
    rw [if_pos phase]
    refine discardMoves run layout same unpublished ?_ s.channel
    simp only [StageBody.workerRank,worker,if_pos phase]
    omega

theorem discardingMoves (clear : u.Clear) {outcome}
    (worker : s.worker = .discarding outcome) (stands : u.Stands s) (length : Nat) : WorkerMoves u s
      (s.call u.sha256 length fun phase => if phase = .discarded then .returned outcome else .discarding outcome) := by
  rw [BodyUpload.Stands,worker] at stands
  obtain ⟨same,unpublished,written,poisoned,staged,run,layout⟩ := stands
  have called : s.staging.call u.sha256 s.fs none length =
      (s.fs.attempt (.unlink (u.key.stagingPath u.token)) false,u.run written poisoned .discarded) := by
    rw [run]
    rfl
  have phase : (u.run written poisoned .discarded).phase = .discarded := rfl
  refine ⟨?_,?_⟩
  · simp only [BodyUpload.Stands,StageBody.call,called,if_pos phase]
    refine ⟨same,leavesUnpublished clear (layoutUnlink layout (clearStaging clear).2) fun published => ?_⟩
    rw [unpublished] at published
    cases published.1
  · simp only [StageBody.workerRank,StageBody.call,called,if_pos phase,worker]
    omega

theorem outcomeComplete (complete : u.Complete) :
    u.outcome = if u.Conflicts then .localIdentityConflict else .finalized u.body.bytes.length u.computed := by
  have declared : Sha256Digest.toBase64urlNoPad (u.sha256 u.body.bytes) = u.declaredDigest := complete.declared
  simp [BodyUpload.outcome,stagedOutcome,Nat.not_lt.mpr complete.fits,complete.whole,complete.some_,declared,
    BodyUpload.computed]

theorem finalizeAnswer (clear : u.Clear) (complete : u.Complete) {fs run}
    (finalizes : Finalizes u fs run) (ended : run.phase.ended = true) :
    ∃ outcome, StageBody.finalized u.body.bytes.length u.computed run.phase = .returned outcome ∧ u.outcome = outcome ∧
      u.Leaves fs outcome := by
  have answer := outcomeComplete complete
  cases finalizes with
  | installed absent layout content =>
    have none_ : ¬ u.Conflicts := by
      have existing : u.existing = none := congrArg (Option.map _) absent
      simp [BodyUpload.Conflicts,existing]
    exact ⟨_,rfl,answer.trans (if_neg none_),leavesPublished clear layout absent content⟩
  | present found layout same =>
    have existing := existingFound found
    have none_ : ¬ u.Conflicts := by
      rintro ⟨content,mem,other⟩
      rw [existing] at mem
      cases mem
      exact other same
    refine ⟨_,rfl,answer.trans (if_neg none_),leavesUnpublished clear layout fun published => ?_⟩
    rw [existing] at published
    cases published.2
  | failed found layout other =>
    have conflicts : u.Conflicts := ⟨_,existingFound found,other⟩
    refine ⟨_,rfl,answer.trans (if_pos conflicts),leavesUnpublished clear layout fun published => ?_⟩
    cases published.1
  | syncFile | place | syncDir | unlinkInstalled | openExisting | scan | unlinkExisting | failing => cases ended

theorem finalizesPhase {fs run} (finalizes : Finalizes u fs run)
    (going : run.phase.ended = false) (size : Nat) (computed : String) :
    StageBody.finalized size computed run.phase = .finalizing computed := by
  cases finalizes with
  | installed | present | failed => cases going
  | _ => rfl

theorem finalizingMoves (clear : u.Clear) {computed}
    (worker : s.worker = .finalizing computed) (stands : u.Stands s) (length : Nat) :
    WorkerMoves u s (s.call u.sha256 length (StageBody.finalized s.staging.written.length computed)) := by
  rw [BodyUpload.Stands,worker] at stands
  obtain ⟨rfl,complete,finalizes,going⟩ := stands
  rw [finalizesWritten finalizes]
  obtain ⟨finalizes',less⟩ := finalizeCall clear finalizes going length
  cases ended : (s.staging.call u.sha256 s.fs none length).2.phase.ended with
  | false =>
    have still := finalizesPhase finalizes' ended u.body.bytes.length u.computed
    refine ⟨?_,?_⟩
    · simp only [BodyUpload.Stands,StageBody.call,still]
      exact ⟨rfl,complete,finalizes',ended⟩
    · simp only [StageBody.workerRank,StageBody.call,still,worker]
      exact Nat.succ_lt_succ less
  | true =>
    obtain ⟨outcome,now,same,leaves⟩ := finalizeAnswer clear complete finalizes' ended
    refine ⟨?_,?_⟩
    · simp only [BodyUpload.Stands,StageBody.call,now]
      exact ⟨same,leaves⟩
    · simp only [StageBody.workerRank,StageBody.call,now,worker]
      exact Nat.succ_pos _

/- The worker rests when it has returned, and when it waits for the pump. -/
theorem workerMoves (clear : u.Clear) (stands : u.Stands s) (length : Nat) :
    WorkerMoves u s (s.workerStep u.sha256 u.declaredDigest length) ∨
      (s.workerStep u.sha256 u.declaredDigest length = s ∧
        (s.gone = true ∨ (s.channel = [] ∧ s.pump ≠ .stopped))) := by
  unfold StageBody.workerStep
  split
  · exact .inl (beginMoves clear ‹_› stands length)
  · rename_i worker
    split
    · exact .inl (receiveData worker stands ‹_›)
    · exact .inl (receiveTruncated worker stands ‹_›)
    · rename_i channel
      split
      · exact .inl (receiveEnd worker stands channel ‹_›)
      · exact .inr ⟨rfl,.inr ⟨channel,‹_›⟩⟩
  · exact .inl (poisonedMoves clear ‹_› stands length)
  · exact .inl (discardingMoves clear ‹_› stands length)
  · exact .inl (finalizingMoves clear ‹_› stands length)
  · rename_i worker
    exact .inr ⟨rfl,.inl (by simp [StageBody.gone,worker])⟩

theorem workerFrame (s : StageBody) (sha256 : Sha256) (declaredDigest : String) (length : Nat) :
    (s.workerStep sha256 declaredDigest length).pumpRank = s.pumpRank := by
  unfold StageBody.workerStep
  split
  · rfl
  · split
    · rfl
    · rfl
    · split
      · unfold StageBody.bodyEnd
        simp only
        repeat' split
        all_goals rfl
      · rfl
  · split <;> rfl
  all_goals rfl

theorem pumpWorkerRank (s : StageBody) (size : Nat) : s.pumpStep.workerRank size = s.workerRank size := by
  obtain ⟨_,staging,worker⟩ := pumpFrame s
  cases phase : s.worker with
  | returned => simp only [StageBody.workerRank,worker,phase]
  | beginning | receiving | poisoned | discarding | finalizing =>
    have pending := @pumpPending s (by simp [StageBody.gone,phase])
    simp only [StageBody.workerRank,worker,phase,staging,pending]

theorem bodyStands (clear : u.Clear) (s : StageBody) (op : StageBodyOp) (stands : u.Stands s) :
    u.Stands (u.after s op) := by
  cases op with
  | pump => exact pumpStands stands
  | worker length =>
    rcases workerMoves clear stands length with moves | ⟨same,_⟩
    · exact moves.stands
    · exact (congrArg u.Stands same).mpr stands

theorem bodyLowers (clear : u.Clear) (s : StageBody) (op : StageBodyOp) (stands : u.Stands s) :
    u.after s op = s ∨ (u.after s op).rank u.size < s.rank u.size := by
  cases op with
  | pump =>
    rcases pumpMoves s with less | ⟨same,_⟩
    · exact .inr (Nat.add_lt_add_of_lt_of_le less (Nat.le_of_eq (pumpWorkerRank s u.size)))
    · exact .inl same
  | worker length =>
    rcases workerMoves clear stands length with moves | ⟨same,_⟩
    · refine .inr (Nat.add_lt_add_of_le_of_lt (Nat.le_of_eq ?_) moves.less)
      exact workerFrame s u.sha256 u.declaredDigest length
    · exact .inl same

def StageBodyOp.party : StageBodyOp → Bool
  | .pump => false
  | .worker _ => true

theorem outcomeGone (stopped : s.pump = .stopped) (gone : s.gone = true) : s.outcome.isSome = true := by
  unfold StageBody.gone at gone
  unfold StageBody.outcome
  rw [stopped]
  split at gone
  · rename_i outcome returned
    rw [returned]
    rfl
  · cases gone

/- There is no deadlock: until both have ended, one of them can go on. -/
theorem bodyLive (clear : u.Clear) (s : StageBody) (stands : u.Stands s)
    (going : ¬ s.outcome.isSome = true) : ∃ party, ∀ op, StageBodyOp.party op = party → u.after s op ≠ s := by
  rcases pumpMoves s with less | ⟨_,waits⟩
  · refine ⟨false,fun op pump same => ?_⟩
    cases op with
    | pump => exact Nat.lt_irrefl _ ((congrArg StageBody.pumpRank same).symm.trans_lt less)
    | worker length => cases pump
  · refine ⟨true,fun op worker same => ?_⟩
    cases op with
    | pump => cases worker
    | worker length =>
      rcases workerMoves clear stands length with moves | ⟨_,rests⟩
      · have less := moves.less
        rw [show s.workerStep u.sha256 u.declaredDigest length = s from same] at less
        exact Nat.lt_irrefl _ less
      · rcases waits with stopped | ⟨listens,full⟩ <;> rcases rests with gone | ⟨empty,running⟩
        · exact going (outcomeGone stopped gone)
        · exact running stopped
        · rw [listens] at gone
          cases gone
        · exact full empty

theorem bodyStart (u : BodyUpload) : u.Stands u.start :=
  ⟨beginsStart,bodyMessagesShape u.body.broken u.body.frames⟩

theorem bodyReturned (stands : u.Stands s) {outcome} (returned : s.outcome = some outcome) :
    u.outcome = outcome ∧ u.Leaves s.fs outcome := by
  unfold StageBody.outcome at returned
  split at returned
  · rename_i worker
    cases returned
    unfold BodyUpload.Stands at stands
    rw [worker] at stands
    exact stands
  · cases returned

theorem outcomeDistinct (distinct : ∀ content ∈ u.existing, u.sha256 content = u.sha256 u.body.bytes → content = u.body.bytes) :
    u.outcome = stagedOutcome u.sha256 u.chunkSize u.declaredDigest u.body (∃ content ∈ u.existing, content ≠ u.body.bytes) := by
  have same : u.Conflicts ↔ ∃ content ∈ u.existing, content ≠ u.body.bytes := by
    constructor
    · rintro ⟨content,mem,other⟩
      refine ⟨content,mem,fun equal => other ?_⟩
      rw [equal]
      exact ⟨rfl,rfl⟩
    · rintro ⟨content,mem,other⟩
      exact ⟨content,mem,fun facts => other (distinct content mem facts.2)⟩
  unfold BodyUpload.outcome stagedOutcome
  simp only [same]

end Upload

/- Over every schedule of the pump and the worker: what is returned, what is left behind, and that it is returned. The
last part names the conflict by content, for a hash that tells the two contents apart. -/
theorem stageBodyExact (u : BodyUpload) (clear : Unobstructed u.before u.key u.token) :
    (∀ ops outcome, (Transition.run u.after u.start ops).outcome = some outcome →
      outcome = u.outcome ∧ u.Leaves (Transition.run u.after u.start ops).fs outcome) ∧
    (∀ schedule, Fair StageBodyOp.party schedule →
      ∃ n, (trace u.after u.start schedule n).outcome.isSome = true) ∧
    ((∀ content ∈ u.existing, u.sha256 content = u.sha256 u.body.bytes → content = u.body.bytes) →
      u.outcome = stagedOutcome u.sha256 u.chunkSize u.declaredDigest u.body
        (∃ content ∈ u.existing, content ≠ u.body.bytes)) := by
  refine ⟨fun ops outcome returned => ?_,fun schedule fair => ?_,outcomeDistinct⟩
  · have stands := runAlways (bodyStands clear) (bodyStart u) ops
    obtain ⟨same,leaves⟩ := bodyReturned stands returned
    exact ⟨same.symm,leaves⟩
  · exact fairEnds (StageBody.rank · u.size) (bodyStands clear) (bodyLowers clear) (bodyLive clear) (bodyStart u) fair

section Sample

-- Two bytes in four frames, for a chunk that has no final file yet.
def framedUpload : BodyUpload where
  sha256 := lengthHash
  before := Filesystem.empty.addDir transfersDir
  key := firstChunk
  token := 1
  chunkSize := 4
  declaredDigest := Sha256Digest.toBase64urlNoPad (lengthHash [7,8])
  body := ⟨[.data [7],.trailers,.data [],.data [8]],false⟩

theorem framedUnobstructed : Unobstructed framedUpload.before framedUpload.key framedUpload.token := by
  refine ⟨by decide,fun _ _ => rfl,by decide +kernel,by decide +kernel,fun path inode found => ?_⟩
  cases found

theorem stageBodyExactFramed : framedUpload.outcome = .finalized 2 framedUpload.declaredDigest ∧
    ∀ ops outcome, (Transition.run framedUpload.after framedUpload.start ops).outcome = some outcome →
      outcome = framedUpload.outcome ∧
        framedUpload.Leaves (Transition.run framedUpload.after framedUpload.start ops).fs outcome :=
  ⟨by decide +kernel,(stageBodyExact framedUpload framedUnobstructed).1⟩

end Sample
end Bamep
