import Bamep.Library.Filesystem
import Bamep.Library.Run
import Bamep.Library.Text
import Bamep.Worker.Storage

/-! `FilesystemChunkStore` call by call. A staging is a run of filesystem calls, and so is a re-initialization; the
calls of any number of them interleave over one root, each may fail, and each run may end with its process. The bytes
a staging has absorbed are kept beside its file, as the running hash and count are functions of them. -/
namespace Bamep
open Posix Transition

structure ChunkKey where
  transferId : TransferId
  narrow : transferId.uuid < 2 ^ 128
  chunkIndex : UInt64
  deriving DecidableEq, Repr

def transfersDir : Path := ["transfers"]

namespace ChunkKey
variable (key : ChunkKey)

def transferDir : Path := transfersDir ++ [String.ofList (Text.hyphenated key.transferId.uuid)]

def chunksDir : Path := key.transferDir ++ ["chunks"]

def stagingDir : Path := key.chunksDir ++ [".staging"]

def finalPath : Path := key.chunksDir ++ [key.chunkIndex.toNat.repr ++ ".chunk"]

-- `token` is the UUID behind `worker_random_token`.
def stagingPath (token : BitVec 128) : Path :=
  key.stagingDir ++ [key.chunkIndex.toNat.repr ++ "." ++ String.ofList (Text.hex 32 token.toNat) ++ ".part"]

-- The directories `begin_stage` ensures, in its order.
def stageDirs : List Path := [key.transferDir,key.chunksDir,key.stagingDir]

end ChunkKey

def isRecognizedStagingName (name : String) : Bool :=
  match name.toList.splitOn '.' with
  | [index,token,ext] =>
    !index.isEmpty && index.all Char.isDigit && token.length = 32 &&
      token.all (fun c => c.isDigit || ('a' ≤ c && c ≤ 'f')) && ext = "part".toList
  | _ => false

def enoent : IoError := ⟨2⟩

def eexist : IoError := ⟨17⟩

/- The calls of `ensure_worker_dir`, in the order they are made. -/
inductive EnsureCall where
  | stat | create | recheck | permit | syncParent
  deriving DecidableEq, Repr

inductive Ensuring where
  | next (call : EnsureCall)
  | ensured
  | refused (e : StorageError)
  deriving DecidableEq, Repr

def validateExistingWorkerDir (fs : Filesystem) (dir : Path) : Ensuring :=
  if fs.live.isDir dir then .ensured else .refused .unsafeDirectory

-- One call of `ensure_worker_dir`; `fails` is an error of the call other than the ones it is made to tell apart.
def ensureWorkerDir (fs : Filesystem) (dir : Path) (fails : Option IoError) : EnsureCall → Filesystem × Ensuring
  | .stat =>
    match fails with
    | some source => (fs,.refused (.io source))
    | none => if fs.live.absent dir then (fs,.next .create) else (fs,validateExistingWorkerDir fs dir)
  | .create =>
    match fails with
    | some source => (fs,.refused (.io source))
    | none =>
      match fs.perform (.mkdir dir) with
      | some fs' => (fs',.next .permit)
      | none => if fs.live.absent dir then (fs,.refused (.io enoent)) else (fs,.next .recheck)
  | .recheck =>
    match fails with
    | some source => (fs,.refused (.io source))
    | none => if fs.live.absent dir then (fs,.refused (.io enoent)) else (fs,validateExistingWorkerDir fs dir)
  | .permit =>
    match fails with
    | some source => (fs,.refused (.io source))
    | none => (fs,.next .syncParent)
  -- `let _ = fsync_dir(parent)`
  | .syncParent => (fs.attempt (.syncDir dir.dropLast) fails.isSome,.ensured)

/- Where a staging stands: the call it makes next, or what its caller has been given. -/
inductive StagingPhase where
  | ensure (dirs : List Path) (call : EnsureCall)
  | openNew
  | refused (e : StorageError)
  | staged
  | poisoning (e : StorageError)
  | syncFile
  | place
  | syncDir
  | unlinkInstalled
  | openExisting
  | scan (inode : Nat) (scanned : List UInt8)
  | unlinkExisting (existing : StoredChunkFacts)
  | failing (e : StorageError)
  | finalized (disposition : Placement)
  | failed (e : StorageError)
  | discarding
  | discarded
  | crashed
  deriving DecidableEq, Repr

-- The caller has its answer, or there is no caller any more.
def StagingPhase.ended : StagingPhase → Bool
  | .refused _ | .finalized _ | .failed _ | .discarded | .crashed => true
  | _ => false

structure StagingRun where
  key : ChunkKey
  maxSize : Nat
  token : BitVec 128
  -- The staging file, from its creation on.
  inode : Option Nat
  written : List UInt8
  poisoned : Bool
  -- `link` has put the file at the final path.
  placed : Bool
  phase : StagingPhase
  deriving DecidableEq, Repr

namespace StagingRun
variable (run : StagingRun)

def stagingPath : Path := run.key.stagingPath run.token

def goto (phase : StagingPhase) : StagingRun := { run with phase := phase }

def beginStage (key : ChunkKey) (maxSize : Nat) (token : BitVec 128) : StagingRun :=
  ⟨key,maxSize,token,none,[],false,false,.ensure key.stageDirs .stat⟩

-- `let _ = fs::remove_file(&self.staging_path)`
def removeStaging (fs : Filesystem) (fails : Option IoError) : Filesystem :=
  fs.attempt (.unlink run.stagingPath) fails.isSome

-- No final file comes from the run any more; the error is returned once the staging file is removed.
def poison (e : StorageError) : StagingRun := { run with poisoned := true, phase := .poisoning e }

/- `write`; `fails` tells how much of the buffer reached the file before the error. -/
def write (fs : Filesystem) (buf : List UInt8) (fails : Option (Nat × IoError)) : Filesystem × StagingRun :=
  -- `Err(Oversize)` at once, with no call
  if run.poisoned then (fs,run)
  else if buf = [] then (fs,run)
  else if run.maxSize < run.written.length + buf.length then (fs,run.poison (.oversize run.maxSize))
  else match run.inode,fails with
    | some inode,none => ((fs.perform (.append inode buf)).getD fs,{ run with written := run.written ++ buf })
    | some inode,some (reached,source) =>
      ((fs.perform (.append inode (buf.take reached))).getD fs,run.poison (.io source))
    | none,_ => (fs,run)

-- `finalize_inner` up to its first call.
def finalize : StagingRun :=
  if run.poisoned then run.goto (.failing (.oversize run.maxSize))
  else if run.written = [] then run.goto (.failing .emptyChunk)
  else run.goto .syncFile

-- What `read` gives of an open file, at most `length + 1` bytes.
def readNext (fs : Filesystem) (inode : Nat) (scanned : List UInt8) (length : Nat) : List UInt8 :=
  ((fs.live.content inode).drop scanned.length).take (length + 1)

def conflict : StorageError := .finalizedChunkConflict run.key.transferId run.key.chunkIndex.toNat

/- The next call of the run. `fails` is an error of the call, and `length` bounds a read. -/
def call (sha256 : Sha256) (fs : Filesystem) (fails : Option IoError) (length : Nat) : Filesystem × StagingRun :=
  match run.phase with
  | .ensure [] _ => (fs,run.goto .openNew)
  | .ensure (dir :: rest) at_ =>
    match ensureWorkerDir fs dir fails at_ with
    | (fs',.next at_') => (fs',run.goto (.ensure (dir :: rest) at_'))
    | (fs',.ensured) => (fs',run.goto (if rest = [] then .openNew else .ensure rest .stat))
    | (fs',.refused e) => (fs',run.goto (.refused e))
  | .openNew =>
    match fails,fs.perform (.create run.stagingPath) with
    | some source,_ => (fs,run.goto (.refused (.io source)))
    | none,none => (fs,run.goto (.refused (.io eexist)))
    | none,some fs' => (fs',{ run with inode := some fs.next, phase := .staged })
  | .poisoning _ => (run.removeStaging fs fails,run.goto .staged)
  | .syncFile =>
    match fails,run.inode with
    | some source,_ => (fs,run.goto (.failing (.finalizationSync source)))
    | none,some inode => ((fs.perform (.sync inode)).getD fs,run.goto .place)
    | none,none => (fs,run)
  | .place =>
    match fails with
    | some source => (fs,run.goto (.failing (.finalizationSync source)))
    | none =>
      if (fs.live.files run.stagingPath).isNone then (fs,run.goto (.failing (.finalizationSync enoent)))
      else if !fs.live.absent run.key.finalPath then (fs,run.goto .openExisting)
      else match fs.perform (.link run.stagingPath run.key.finalPath) with
        | none => (fs,run.goto (.failing (.finalizationSync enoent)))
        | some fs' => (fs',{ run with placed := true, phase := .syncDir })
  | .syncDir =>
    match fails,fs.perform (.syncDir run.key.chunksDir) with
    | some source,_ => (fs,run.goto (.failing (.finalizationSync source)))
    | none,none => (fs,run.goto (.failing (.finalizationSync enoent)))
    | none,some fs' => (fs',run.goto .unlinkInstalled)
  | .unlinkInstalled => (run.removeStaging fs fails,run.goto (.finalized .installed))
  | .openExisting =>
    match fails,fs.live.files run.key.finalPath with
    | some source,_ => (fs,run.goto (.failing (.io source)))
    | none,some inode => (fs,run.goto (.scan inode []))
    | none,none => (fs,run.goto (.failing (if fs.live.absent run.key.finalPath then
        .finalizedChunkNotFound run.key.transferId run.key.chunkIndex.toNat
      else .finalizedChunkNotRegular run.key.transferId run.key.chunkIndex.toNat)))
  | .scan inode scanned =>
    match fails with
    | some source => (fs,run.goto (.failing (.io source)))
    | none =>
      let read := readNext fs inode scanned length
      (fs,run.goto (if read = [] then .unlinkExisting ⟨scanned.length,sha256 scanned⟩
        else .scan inode (scanned ++ read)))
  | .unlinkExisting existing =>
    (run.removeStaging fs fails,run.goto
      (if existing.size = run.written.length ∧ existing.digest = sha256 run.written then .finalized .destinationExists
      else .failing run.conflict))
  | .failing e => (run.removeStaging fs fails,run.goto (.failed e))
  | .discarding => (run.removeStaging fs fails,run.goto .discarded)
  | .staged | .refused _ | .finalized _ | .failed _ | .discarded | .crashed => (fs,run)

end StagingRun

inductive InitPhase where
  | ensure (call : EnsureCall)
  | list
  | sweep (candidates : List (String × String))
  | remove (path : Path) (candidates : List (String × String))
  | ready
  | refused (e : StorageError)
  | crashed
  deriving DecidableEq, Repr

/- One `initialize`. What the directory listings return while others write is open, so it is given: the candidates
are names under `transfers` with a name in their staging directory. -/
structure InitRun where
  listing : List (String × String)
  phase : InitPhase
  deriving DecidableEq, Repr

namespace InitRun
variable (init : InitRun)

def goto (phase : InitPhase) : InitRun := { init with phase := phase }

def candidatePath (candidate : String × String) : Path :=
  transfersDir ++ [candidate.1,"chunks",".staging",candidate.2]

def call (fs : Filesystem) (fails : Option IoError) : Filesystem × InitRun :=
  match init.phase with
  | .ensure at_ =>
    match ensureWorkerDir fs transfersDir fails at_ with
    | (fs',.next at_') => (fs',init.goto (.ensure at_'))
    | (fs',.ensured) => (fs',init.goto .list)
    | (fs',.refused e) => (fs',init.goto (.refused e))
  | .list =>
    match fails with
    | some source => (fs,init.goto (.refused (.io source)))
    | none => (fs,init.goto (.sweep init.listing))
  | .sweep [] => (fs,init.goto .ready)
  | .sweep (candidate :: rest) =>
    let path := candidatePath candidate
    -- A failing `symlink_metadata` skips the candidate.
    (fs,init.goto (if fails.isNone && fs.live.isDir (path.take 2) && fs.live.isDir path.dropLast &&
      (fs.live.files path).isSome && isRecognizedStagingName candidate.2 then .remove path rest else .sweep rest))
  | .remove path rest => (fs.attempt (.unlink path) fails.isSome,init.goto (.sweep rest))
  | .ready | .refused _ | .crashed => (fs,init)

end InitRun

structure ChunkStoreSystem where
  fs : Filesystem
  runs : Nat → Option StagingRun
  started : Nat
  inits : Nat → Option InitRun
  initialized : Nat

inductive ChunkStoreOp where
  | initializeStore (listing : List (String × String))
  | initCall (n : Nat) (fails : Option IoError)
  | initCrash (n : Nat)
  | beginStage (store : Nat) (key : ChunkKey) (maxSize : Nat) (token : BitVec 128)
  | write (n : Nat) (buf : List UInt8) (fails : Option (Nat × IoError))
  | finalize (n : Nat)
  | discard (n : Nat)
  | drop (n : Nat)
  | call (n : Nat) (fails : Option IoError) (length : Nat)
  | crash (n : Nat)
  deriving DecidableEq, Repr

namespace ChunkStoreSystem
variable (s : ChunkStoreSystem)

def empty : ChunkStoreSystem := ⟨.empty,fun _ => none,0,fun _ => none,0⟩

def setRun (n : Nat) (result : Filesystem × StagingRun) : ChunkStoreSystem :=
  { s with fs := result.1, runs := Function.update s.runs n (some result.2) }

def setInit (n : Nat) (result : Filesystem × InitRun) : ChunkStoreSystem :=
  { s with fs := result.1, inits := Function.update s.inits n (some result.2) }

-- The caller holds the `StagingChunk`.
def onStaged (n : Nat) (f : StagingRun → Filesystem × StagingRun) : ChunkStoreSystem :=
  match s.runs n with
  | some run => if run.phase = .staged then s.setRun n (f run) else s
  | none => s

def after (sha256 : Sha256) : ChunkStoreOp → ChunkStoreSystem
  | .initializeStore listing =>
    { s with
      inits := Function.update s.inits s.initialized (some ⟨listing,.ensure .stat⟩)
      initialized := s.initialized + 1 }
  | .initCall n fails =>
    match s.inits n with
    | some init => s.setInit n (init.call s.fs fails)
    | none => s
  | .initCrash n =>
    match s.inits n with
    | some init => s.setInit n (s.fs,init.goto .crashed)
    | none => s
  | .beginStage store key maxSize token =>
    match s.inits store with
    | some ⟨_,.ready⟩ =>
      { s with
        runs := Function.update s.runs s.started (some (.beginStage key maxSize token))
        started := s.started + 1 }
    | _ => s
  | .write n buf fails => s.onStaged n fun run => run.write s.fs buf fails
  | .finalize n => s.onStaged n fun run => (s.fs,run.finalize)
  | .discard n => s.onStaged n fun run => (s.fs,run.goto .discarding)
  -- The file of a poisoned staging is closed already, and dropping it removes nothing.
  | .drop n => s.onStaged n fun run => (s.fs,run.goto (if run.poisoned then .discarded else .discarding))
  | .call n fails length =>
    match s.runs n with
    | some run => s.setRun n (run.call sha256 s.fs fails length)
    | none => s
  | .crash n =>
    match s.runs n with
    | some run => if run.phase.ended then s else s.setRun n (s.fs,run.goto .crashed)
    | none => s

def reached (sha256 : Sha256) (ops : List ChunkStoreOp) : ChunkStoreSystem :=
  Transition.run (fun s op => after s sha256 op) empty ops

end ChunkStoreSystem

section Paths
variable {key other : ChunkKey} {token token' : BitVec 128}

theorem finalPathInjective (same : key.finalPath = other.finalPath) : key = other := by
  obtain ⟨dirs,name⟩ := List.append_inj' same rfl
  obtain ⟨dirs,_⟩ := List.append_inj' dirs rfl
  obtain ⟨_,transfer⟩ := List.append_inj' dirs rfl
  have uuid : key.transferId.uuid = other.transferId.uuid :=
    Text.hyphenatedInjective key.narrow other.narrow (String.ofList_injective (List.singleton_inj.mp transfer))
  have index : key.chunkIndex.toNat = other.chunkIndex.toNat := by
    have chars := congrArg String.toList (List.singleton_inj.mp name)
    rw [String.toList_append,String.toList_append] at chars
    exact Text.decimalInjective (List.append_inj' chars rfl).1
  obtain ⟨⟨_⟩,_,_⟩ := key
  obtain ⟨⟨_⟩,_,_⟩ := other
  cases uuid
  cases UInt64.toNat_inj.mp index
  rfl

theorem stagingTokenInjective (same : key.stagingPath token = other.stagingPath token') : token = token' := by
  have chars := congrArg String.toList (List.singleton_inj.mp (List.append_inj' same rfl).2)
  simp only [String.toList_append,String.toList_ofList] at chars
  have digits := (List.append_inj' (List.append_inj' chars rfl).1 (by simp)).2
  have values := Text.hexMod digits
  rw [Nat.mod_eq_of_lt (by have := token.isLt; omega),Nat.mod_eq_of_lt (by have := token'.isLt; omega)] at values
  exact BitVec.eq_of_toNat_eq values

@[simp] theorem finalPathLength (key : ChunkKey) : key.finalPath.length = 4 := rfl

@[simp] theorem stagingPathLength (key : ChunkKey) (token : BitVec 128) : (key.stagingPath token).length = 5 := rfl

theorem stagingApart (key other : ChunkKey) (token : BitVec 128) : key.stagingPath token ≠ other.finalPath := by
  intro same
  cases congrArg List.length same

theorem candidateApart (candidate : String × String) (key : ChunkKey) :
    InitRun.candidatePath candidate ≠ key.finalPath := by
  intro same
  cases congrArg List.length same

theorem partNameRecognized (index token : Nat) : isRecognizedStagingName
    (index.repr ++ "." ++ String.ofList (Text.hex 32 token) ++ ".part") = true := by
  have digit : ∀ c ∈ Text.hex 32 token, (c.isDigit || ('a' ≤ c && c ≤ 'f')) = true ∧ c ≠ '.' := by
    intro c mem
    obtain ⟨d,small,rfl⟩ := Text.memHex mem
    have all : ∀ d : Fin 16, ((Text.hexSymbol d).isDigit || ('a' ≤ Text.hexSymbol d && Text.hexSymbol d ≤ 'f')) = true ∧
        Text.hexSymbol d ≠ '.' := by decide
    exact all ⟨d,small⟩
  have parts : (index.repr ++ "." ++ String.ofList (Text.hex 32 token) ++ ".part").toList.splitOn '.' =
      [index.repr.toList,Text.hex 32 token,"part".toList] := by
    have joined := @List.splitOn_intercalate _ [index.repr.toList,Text.hex 32 token,"part".toList] _ _ '.' (by
      intro part mem
      simp only [List.mem_cons,List.not_mem_nil,or_false] at mem
      rcases mem with rfl | rfl | rfl
      · intro dot
        cases Text.decimalDigit dot
      · exact fun dot => (digit _ dot).2 rfl
      · decide) (by simp)
    have dot : ".".toList = ['.'] := rfl
    have ending : ".part".toList = '.' :: "part".toList := rfl
    simpa [List.intercalate,dot,ending] using joined
  have nonempty : index.repr.toList.isEmpty = false := by
    rw [Nat.toList_repr,List.isEmpty_eq_false_iff]
    exact Nat.toDigits_ne_nil
  have digits : index.repr.toList.all Char.isDigit = true := List.all_eq_true.mpr fun c mem => Text.decimalDigit mem
  have symbols : (Text.hex 32 token).all (fun c => c.isDigit || ('a' ≤ c && c ≤ 'f')) = true :=
    List.all_eq_true.mpr fun c mem => (digit c mem).1
  simp only [isRecognizedStagingName,parts,nonempty,digits,symbols,Text.hexLength]
  rfl

/- A startup looks where stagings put their files, and recognizes the names they give them. -/
theorem stagingNameRecognized (key : ChunkKey) (token : BitVec 128) : ∃ candidate,
    InitRun.candidatePath candidate = key.stagingPath token ∧ isRecognizedStagingName candidate.2 = true :=
  ⟨(_,_),rfl,partNameRecognized key.chunkIndex.toNat token.toNat⟩

end Paths

/- What one call of `ensure_worker_dir` does: nothing, a new directory, or a sync of the parent that may fail. -/
inductive EnsureCalled (fs : Filesystem) (dir : Path) (at_ : EnsureCall) : Filesystem → Ensuring → Prop where
  | refused (e) : EnsureCalled fs dir at_ fs (.refused e)
  | unready {next} (quiet : next = .create ∨ next = .recheck) : EnsureCalled fs dir at_ fs (.next next)
  | found (existing : at_ = .stat ∨ at_ = .recheck) (there : fs.live.isDir dir = true) :
      EnsureCalled fs dir at_ fs .ensured
  | made {fs'} (done : fs.perform (.mkdir dir) = some fs') : EnsureCalled fs dir at_ fs' (.next .permit)
  | permitted (from_ : at_ = .permit) : EnsureCalled fs dir at_ fs (.next .syncParent)
  | synced (from_ : at_ = .syncParent) (fails : Bool) :
      EnsureCalled fs dir at_ (fs.attempt (.syncDir dir.dropLast) fails) .ensured

theorem ensureCalled (fs : Filesystem) (dir : Path) (fails : Option IoError) (at_ : EnsureCall) :
    EnsureCalled fs dir at_ (ensureWorkerDir fs dir fails at_).1 (ensureWorkerDir fs dir fails at_).2 := by
  have validated : at_ = .stat ∨ at_ = .recheck → EnsureCalled fs dir at_ fs (validateExistingWorkerDir fs dir) := by
    intro existing
    unfold validateExistingWorkerDir
    split
    · exact .found existing ‹_›
    · exact .refused _
  cases at_ with
  | stat =>
    cases fails with
    | some source => exact .refused _
    | none =>
      simp only [ensureWorkerDir]
      split
      · exact .unready (.inl rfl)
      · exact validated (.inl rfl)
  | create =>
    cases fails with
    | some source => exact .refused _
    | none =>
      simp only [ensureWorkerDir]
      split
      · exact .made ‹_›
      · split
        · exact .refused _
        · exact .unready (.inr rfl)
  | recheck =>
    cases fails with
    | some source => exact .refused _
    | none =>
      simp only [ensureWorkerDir]
      split
      · exact .refused _
      · exact validated (.inr rfl)
  | permit =>
    cases fails with
    | some source => exact .refused _
    | none => exact .permitted rfl
  | syncParent => exact .synced rfl _

inductive Called (sha256 : Sha256) (fs : Filesystem) (run : StagingRun) : Filesystem → StagingRun → Prop where
  | idle : Called sha256 fs run fs run
  | unlisted {at_} (phase : run.phase = .ensure [] at_) : Called sha256 fs run fs (run.goto .openNew)
  | ensuring {dir rest at_ at_' fs'} (phase : run.phase = .ensure (dir :: rest) at_)
      (called : EnsureCalled fs dir at_ fs' (.next at_')) :
      Called sha256 fs run fs' (run.goto (.ensure (dir :: rest) at_'))
  | ensured {dir rest at_ fs'} (phase : run.phase = .ensure (dir :: rest) at_)
      (called : EnsureCalled fs dir at_ fs' .ensured) :
      Called sha256 fs run fs' (run.goto (if rest = [] then .openNew else .ensure rest .stat))
  | refused (e) (phase : (∃ dirs at_, run.phase = .ensure dirs at_) ∨ run.phase = .openNew) :
      Called sha256 fs run fs (run.goto (.refused e))
  | opened {fs'} (phase : run.phase = .openNew) (done : fs.perform (.create run.stagingPath) = some fs') :
      Called sha256 fs run fs' { run with inode := some fs.next, phase := .staged }
  | poisoned {e} (phase : run.phase = .poisoning e) (fails) :
      Called sha256 fs run (run.removeStaging fs fails) (run.goto .staged)
  | synced {inode fs'} (phase : run.phase = .syncFile) (file : run.inode = some inode)
      (done : fs.perform (.sync inode) = some fs') : Called sha256 fs run fs' (run.goto .place)
  | exists_ (phase : run.phase = .place) (there : fs.live.absent run.key.finalPath = false) :
      Called sha256 fs run fs (run.goto .openExisting)
  | linked {fs'} (phase : run.phase = .place)
      (done : fs.perform (.link run.stagingPath run.key.finalPath) = some fs') :
      Called sha256 fs run fs' { run with placed := true, phase := .syncDir }
  | dirSynced {fs'} (phase : run.phase = .syncDir) (done : fs.perform (.syncDir run.key.chunksDir) = some fs') :
      Called sha256 fs run fs' (run.goto .unlinkInstalled)
  | installed (phase : run.phase = .unlinkInstalled) (fails) :
      Called sha256 fs run (run.removeStaging fs fails) (run.goto (.finalized .installed))
  | opening {inode} (phase : run.phase = .openExisting) (found : fs.live.files run.key.finalPath = some inode) :
      Called sha256 fs run fs (run.goto (.scan inode []))
  | read {inode scanned length} (phase : run.phase = .scan inode scanned) :
      Called sha256 fs run fs (run.goto (.scan inode (scanned ++ StagingRun.readNext fs inode scanned length)))
  | scanned {inode scanned length} (phase : run.phase = .scan inode scanned)
      (over_ : StagingRun.readNext fs inode scanned length = []) :
      Called sha256 fs run fs (run.goto (.unlinkExisting ⟨scanned.length,sha256 scanned⟩))
  | present {existing} (phase : run.phase = .unlinkExisting existing)
      (same : existing.size = run.written.length ∧ existing.digest = sha256 run.written) (fails) :
      Called sha256 fs run (run.removeStaging fs fails) (run.goto (.finalized .destinationExists))
  | other {existing} (phase : run.phase = .unlinkExisting existing) (fails) :
      Called sha256 fs run (run.removeStaging fs fails) (run.goto (.failing run.conflict))
  | failing (e) (phase : run.phase = .syncFile ∨ run.phase = .place ∨ run.phase = .syncDir ∨
      run.phase = .openExisting ∨ ∃ inode scanned, run.phase = .scan inode scanned) :
      Called sha256 fs run fs (run.goto (.failing e))
  | failed {e} (phase : run.phase = .failing e) (fails) :
      Called sha256 fs run (run.removeStaging fs fails) (run.goto (.failed e))
  | discarded (phase : run.phase = .discarding) (fails) :
      Called sha256 fs run (run.removeStaging fs fails) (run.goto .discarded)

theorem called (sha256 : Sha256) (fs : Filesystem) (run : StagingRun) (fails : Option IoError) (length : Nat) :
    Called sha256 fs run (run.call sha256 fs fails length).1 (run.call sha256 fs fails length).2 := by
  unfold StagingRun.call
  split
  · exact .unlisted ‹_›
  · rename_i dir rest at_ phase
    have ensure := ensureCalled fs dir fails at_
    generalize ensureWorkerDir fs dir fails at_ = result at ensure ⊢
    obtain ⟨fs',next | _ | e⟩ := result
    · exact .ensuring phase ensure
    · exact .ensured phase ensure
    · cases ensure
      exact .refused e (.inl ⟨_,_,phase⟩)
  · rename_i phase
    split
    · exact .refused _ (.inr phase)
    · exact .refused _ (.inr phase)
    · exact .opened phase ‹_›
  · exact .poisoned ‹_› _
  · rename_i phase
    split
    · exact .failing _ (.inl phase)
    · exact .synced phase ‹_› rfl
    · exact .idle
  · rename_i phase
    split
    · exact .failing _ (.inr (.inl phase))
    · split
      · exact .failing _ (.inr (.inl phase))
      · split
        · rename_i there
          exact .exists_ phase (by simpa using there)
        · split
          · exact .failing _ (.inr (.inl phase))
          · exact .linked phase ‹_›
  · rename_i phase
    split
    · exact .failing _ (.inr (.inr (.inl phase)))
    · exact .failing _ (.inr (.inr (.inl phase)))
    · exact .dirSynced phase ‹_›
  · exact .installed ‹_› _
  · rename_i phase
    split
    · exact .failing _ (.inr (.inr (.inr (.inl phase))))
    · exact .opening phase ‹_›
    · exact .failing _ (.inr (.inr (.inr (.inl phase))))
  · rename_i inode scanned phase
    split
    · exact .failing _ (.inr (.inr (.inr (.inr ⟨_,_,phase⟩))))
    · simp only
      split
      · exact .scanned phase ‹_›
      · exact .read phase
  · rename_i existing phase
    simp only
    split
    · exact .present phase ‹_› _
    · exact .other phase _
  · exact .failed ‹_› _
  · exact .discarded ‹_› _
  all_goals exact .idle

inductive RunStep (sha256 : Sha256) (fs : Filesystem) (run : StagingRun) : Filesystem → StagingRun → Prop where
  | call {fs' run'} (called : Called sha256 fs run fs' run') : RunStep sha256 fs run fs' run'
  | wrote {inode buf fs'} (phase : run.phase = .staged) (clean : run.poisoned = false) (file : run.inode = some inode)
      (fits : run.written.length + buf.length ≤ run.maxSize) (done : fs.perform (.append inode buf) = some fs') :
      RunStep sha256 fs run fs' { run with written := run.written ++ buf }
  | spoiled {inode bytes fs'} (phase : run.phase = .staged) (file : run.inode = some inode)
      (done : fs.perform (.append inode bytes) = some fs') (e) : RunStep sha256 fs run fs' (run.poison e)
  | oversize (phase : run.phase = .staged) (e) : RunStep sha256 fs run fs (run.poison e)
  | finalizing (phase : run.phase = .staged) (clean : run.poisoned = false) (some_ : run.written ≠ []) :
      RunStep sha256 fs run fs (run.goto .syncFile)
  | unfinal (phase : run.phase = .staged) (e) : RunStep sha256 fs run fs (run.goto (.failing e))
  | dropped {phase'} (phase : run.phase = .staged) (ends : phase' = .discarding ∨ phase' = .discarded) :
      RunStep sha256 fs run fs (run.goto phase')
  | crashed (going : run.phase.ended = false) : RunStep sha256 fs run fs (run.goto .crashed)

theorem wroteStep (sha256 : Sha256) {fs run} (phase : run.phase = .staged)
    (buf : List UInt8) (fails : Option (Nat × IoError)) :
    RunStep sha256 fs run (run.write fs buf fails).1 (run.write fs buf fails).2 := by
  unfold StagingRun.write
  split
  · exact .call .idle
  rename_i clean
  split
  · exact .call .idle
  split
  · exact .oversize phase _
  rename_i fits
  split
  · exact .wrote phase (by simpa using clean) ‹_› (by omega) rfl
  · exact .spoiled phase ‹_› rfl _
  · exact .call .idle

theorem finalizeStep (sha256 : Sha256) {fs run} (phase : run.phase = .staged) :
    RunStep sha256 fs run fs run.finalize := by
  unfold StagingRun.finalize
  split
  · exact .unfinal phase _
  · split
    · exact .unfinal phase _
    · exact .finalizing phase (by simpa using ‹¬run.poisoned = true›) ‹_›

-- The directory of all Transfers has been ensured.
def InitPhase.past : InitPhase → Bool
  | .list | .sweep _ | .remove _ _ | .ready => true
  | .ensure _ | .refused _ | .crashed => false

inductive InitStep (fs : Filesystem) (init : InitRun) : Filesystem → InitRun → Prop where
  | idle : InitStep fs init fs init
  | ensuring {at_ at_' fs'} (phase : init.phase = .ensure at_)
      (called : EnsureCalled fs transfersDir at_ fs' (.next at_')) : InitStep fs init fs' (init.goto (.ensure at_'))
  | ensured {at_ fs'} (phase : init.phase = .ensure at_) (called : EnsureCalled fs transfersDir at_ fs' .ensured) :
      InitStep fs init fs' (init.goto .list)
  | swept {phase'} (past : init.phase.past = true)
      (next : phase' = .ready ∨ ∃ rest, phase' = .sweep rest ∨ ∃ candidate, phase' =
        .remove (InitRun.candidatePath candidate) rest) : InitStep fs init fs (init.goto phase')
  | removed {path rest} (phase : init.phase = .remove path rest) (fails : Bool) :
      InitStep fs init (fs.attempt (.unlink path) fails) (init.goto (.sweep rest))
  | ended {phase'} (ends : (∃ e, phase' = .refused e) ∨ phase' = .crashed) : InitStep fs init fs (init.goto phase')

theorem initCalled (fs : Filesystem) (init : InitRun) (fails : Option IoError) :
    InitStep fs init (init.call fs fails).1 (init.call fs fails).2 := by
  unfold InitRun.call
  split
  · rename_i at_ phase
    have ensure := ensureCalled fs transfersDir fails at_
    generalize ensureWorkerDir fs transfersDir fails at_ = result at ensure ⊢
    obtain ⟨fs',next | _ | e⟩ := result
    · exact .ensuring phase ensure
    · exact .ensured phase ensure
    · cases ensure
      exact .ended (.inl ⟨e,rfl⟩)
  · rename_i phase
    split
    · exact .ended (.inl ⟨_,rfl⟩)
    · exact .swept (by rw [phase]; rfl) (.inr ⟨_,.inl rfl⟩)
  · rename_i phase
    exact .swept (by rw [phase]; rfl) (.inl rfl)
  · rename_i candidate rest phase
    refine .swept (by rw [phase]; rfl) (.inr ⟨rest,?_⟩)
    split
    · exact .inr ⟨candidate,rfl⟩
    · exact .inl rfl
  · exact .removed ‹_› _
  all_goals exact .idle

inductive StoreStepped (sha256 : Sha256) (s : ChunkStoreSystem) : ChunkStoreSystem → Prop where
  | same : StoreStepped sha256 s s
  | staging {n run fs' run'} (found : s.runs n = some run) (step : RunStep sha256 s.fs run fs' run') :
      StoreStepped sha256 s (s.setRun n (fs',run'))
  | began {store init} (found : s.inits store = some init) (ready : init.phase = .ready) (key maxSize token) :
      StoreStepped sha256 s { s with
        runs := Function.update s.runs s.started (some (.beginStage key maxSize token))
        started := s.started + 1 }
  | init {n init fs' init'} (found : s.inits n = some init) (step : InitStep s.fs init fs' init') :
      StoreStepped sha256 s (s.setInit n (fs',init'))
  | initialized (listing) : StoreStepped sha256 s { s with
      inits := Function.update s.inits s.initialized (some ⟨listing,.ensure .stat⟩)
      initialized := s.initialized + 1 }

theorem stagedStep {sha256} (s : ChunkStoreSystem) (n : Nat) {f}
    (steps : ∀ run, run.phase = .staged → RunStep sha256 s.fs run (f run).1 (f run).2) :
    StoreStepped sha256 s (s.onStaged n f) := by
  unfold ChunkStoreSystem.onStaged
  split
  · split
    · exact .staging ‹_› (steps _ ‹_›)
    · exact .same
  · exact .same

theorem storeStepped (sha256 : Sha256) (s : ChunkStoreSystem) (op : ChunkStoreOp) : StoreStepped sha256 s (s.after sha256 op) := by
  cases op with
  | initializeStore listing => exact .initialized listing
  | initCall n fails =>
    simp only [ChunkStoreSystem.after]
    split
    · exact .init ‹_› (initCalled s.fs _ fails)
    · exact .same
  | initCrash n =>
    simp only [ChunkStoreSystem.after]
    split
    · exact .init ‹_› (.ended (.inr rfl))
    · exact .same
  | beginStage store key maxSize token =>
    simp only [ChunkStoreSystem.after]
    split
    · exact .began ‹_› rfl key maxSize token
    · exact .same
  | write n buf fails => exact stagedStep s n fun run phase => wroteStep sha256 phase buf fails
  | finalize n => exact stagedStep s n fun run phase => finalizeStep sha256 phase
  | discard n => exact stagedStep s n fun run phase => .dropped phase (.inl rfl)
  | drop n =>
    refine stagedStep s n fun run phase => .dropped phase ?_
    cases run.poisoned
    · exact .inl rfl
    · exact .inr rfl
  | call n fails length =>
    simp only [ChunkStoreSystem.after]
    split
    · exact .staging ‹_› (.call (called sha256 s.fs _ fails length))
    · exact .same
  | crash n =>
    simp only [ChunkStoreSystem.after]
    split
    · split
      · exact .same
      · exact .staging ‹_› (.crashed (by simpa using ‹¬_ = true›))
    · exact .same

end Bamep
