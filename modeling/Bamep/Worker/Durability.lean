import Bamep.Worker.FinalFiles

/-! What a crash of the host leaves of the final files. A finished `finalize` has synced the content and, when it placed
the file itself, the directory; whether the directories above and an already present entry were ever synced is up to
other stagings, and is assumed where it is needed. -/
namespace Bamep
open Posix Transition StagingRun

-- The directory is there, and a crash keeps it.
def DirKept (fs : Filesystem) (dir : Path) : Prop := fs.live.dirs dir = true ∧ fs.kept.dirs dir = true

-- The directory has just been made, in a directory that is there.
def DirMade (fs : Filesystem) (dir : Path) : Prop :=
  dir ≠ [] ∧ fs.live.dirs dir = true ∧ fs.live.isDir dir.dropLast = true

/- The sync of the parent works, and a directory that is found was synced by the one that made it. -/
def EnsureCareful (fs : Filesystem) (dir : Path) (fails : Option IoError) : EnsureCall → Prop
  | .stat | .recheck => fs.live.dirs dir = true → fs.kept.dirs dir = true
  | .syncParent => fails = none
  | .create | .permit => True

instance ensureCarefulDecidable (fs : Filesystem) (dir : Path) (fails : Option IoError) :
    (at_ : EnsureCall) → Decidable (EnsureCareful fs dir fails at_)
  | .stat | .recheck => inferInstanceAs (Decidable (fs.live.dirs dir = true → fs.kept.dirs dir = true))
  | .syncParent => inferInstanceAs (Decidable (fails = none))
  | .create | .permit => isTrue trivial

def PhaseCareful (sha256 : Sha256) (fs : Filesystem) (fails : Option IoError) (run : StagingRun) : StagingPhase → Prop
  | .ensure (dir :: _) at_ => EnsureCareful fs dir fails at_
  -- A file that is found in place has its entry synced.
  | .unlinkExisting existing => existing.size = run.written.length ∧ existing.digest = sha256 run.written →
    fs.kept.files run.key.finalPath = fs.live.files run.key.finalPath
  | _ => True

instance phaseCarefulDecidable (sha256 : Sha256) (fs : Filesystem) (fails : Option IoError) (run : StagingRun) :
    (phase : StagingPhase) → Decidable (PhaseCareful sha256 fs fails run phase)
  | .ensure (dir :: _) at_ => ensureCarefulDecidable fs dir fails at_
  | .unlinkExisting existing => inferInstanceAs (Decidable (
      existing.size = run.written.length ∧ existing.digest = sha256 run.written →
        fs.kept.files run.key.finalPath = fs.live.files run.key.finalPath))
  | .ensure [] _ | .openNew | .refused _ | .staged | .poisoning _ | .syncFile | .place | .syncDir | .unlinkInstalled
  | .openExisting | .scan _ _ | .failing _ | .finalized _ | .failed _ | .discarding | .discarded | .crashed =>
    isTrue trivial

def InitCareful (fs : Filesystem) (fails : Option IoError) : InitPhase → Prop
  | .ensure at_ => EnsureCareful fs transfersDir fails at_
  | _ => True

instance initCarefulDecidable (fs : Filesystem) (fails : Option IoError) :
    (phase : InitPhase) → Decidable (InitCareful fs fails phase)
  | .ensure at_ => ensureCarefulDecidable fs transfersDir fails at_
  | .list | .sweep _ | .remove _ _ | .ready | .refused _ | .crashed => isTrue trivial

namespace ChunkStoreSystem

def Careful (sha256 : Sha256) (s : ChunkStoreSystem) : ChunkStoreOp → Prop
  | .initCall n fails => ∀ init ∈ s.inits n, InitCareful s.fs fails init.phase
  | .call n fails _ => ∀ run ∈ s.runs n, PhaseCareful sha256 s.fs fails run run.phase
  | _ => True

instance carefulDecidable (sha256 : Sha256) (s : ChunkStoreSystem) : (op : ChunkStoreOp) → Decidable (s.Careful sha256 op)
  | .initCall n fails => inferInstanceAs (Decidable (∀ init ∈ s.inits n, InitCareful s.fs fails init.phase))
  | .call n fails _ => inferInstanceAs (Decidable (∀ run ∈ s.runs n, PhaseCareful sha256 s.fs fails run run.phase))
  | .initializeStore _ | .initCrash _ | .beginStage _ _ _ _ | .write _ _ _ | .finalize _ | .discard _ | .drop _
  | .crash _ => isTrue trivial

-- Every step of the run is careful.
def CarefulRun (sha256 : Sha256) (ops : List ChunkStoreOp) : Prop :=
  Meets (fun (s : ChunkStoreSystem) op => s.after sha256 op) (fun s op => s.Careful sha256 op) empty ops

instance carefulRunDecidable (sha256 : Sha256) (ops : List ChunkStoreOp) : Decidable (CarefulRun sha256 ops) :=
  Meets.decide _ _ _ _

end ChunkStoreSystem

namespace StagingRun

-- The directories a staging has behind it are kept.
def PassedKept (fs : Filesystem) (run : StagingRun) : StagingPhase → Prop
  | .ensure todo _ => ∃ passed, run.key.stageDirs = passed ++ todo ∧ ∀ dir ∈ passed, DirKept fs dir
  | .refused _ | .crashed => True
  | _ => ∀ dir ∈ run.key.stageDirs, DirKept fs dir

def SyncedEntry (fs : Filesystem) (run : StagingRun) : StagingPhase → Prop
  | .unlinkInstalled | .finalized _ => ∃ inode, fs.live.files run.key.finalPath = some inode ∧
    fs.kept.files run.key.finalPath = some inode
  | _ => True

/- What a crash keeps of one staging. -/
structure Durable (fs : Filesystem) (run : StagingRun) : Prop where
  root : DirKept fs transfersDir
  passed : PassedKept fs run run.phase
  made : ∀ dir rest at_, run.phase = .ensure (dir :: rest) at_ → at_ = .permit ∨ at_ = .syncParent → DirMade fs dir
  content : run.phase = .place ∨ run.placed = true → ∀ inode, run.inode = some inode →
    fs.kept.content inode = fs.live.content inode
  entry : SyncedEntry fs run run.phase

end StagingRun

section Kept
variable {sha256 : Sha256} {fs fs' : Filesystem} {run run' : StagingRun}

def Changes (fs fs' : Filesystem) : Prop := fs' = fs ∨ ∃ call, fs.perform call = some fs'

theorem dirKeptStays (changes : Changes fs fs') {dir} (kept : DirKept fs dir) : DirKept fs' dir := by
  rcases changes with rfl | ⟨call,done⟩
  · exact kept
  · exact ⟨dirsStay done kept.1,keptDirsStay done kept.1 kept.2⟩

theorem isDirStays (changes : Changes fs fs') {dir} (there : fs.live.isDir dir = true) :
    fs'.live.isDir dir = true := by
  rcases changes with rfl | ⟨call,done⟩
  · exact there
  · simp only [Tree.isDir,Bool.or_eq_true,decide_eq_true_eq] at there ⊢
    exact there.imp id (dirsStay done)

theorem dirMadeStays (changes : Changes fs fs') {dir} (made : DirMade fs dir) : DirMade fs' dir := by
  refine ⟨made.1,?_,isDirStays changes made.2.2⟩
  rcases changes with rfl | ⟨call,done⟩
  · exact made.2.1
  · exact dirsStay done made.2.1

theorem passedStays (changes : Changes fs fs') {phase} (passed : PassedKept fs run phase) :
    PassedKept fs' run phase := by
  cases phase with
  | ensure todo at_ =>
    obtain ⟨before,same,kept⟩ := passed
    exact ⟨before,same,fun dir mem => dirKeptStays changes (kept dir mem)⟩
  | refused | crashed => trivial
  | _ => exact fun dir mem => dirKeptStays changes (passed dir mem)

theorem entryStays (changes : Changes fs fs') (kept : FinalsKept fs fs') {phase}
    (entry : SyncedEntry fs run phase) : SyncedEntry fs' run phase := by
  have stays : (∃ inode, fs.live.files run.key.finalPath = some inode ∧ fs.kept.files run.key.finalPath = some inode) →
      ∃ inode, fs'.live.files run.key.finalPath = some inode ∧ fs'.kept.files run.key.finalPath = some inode := by
    rintro ⟨inode,found,synced⟩
    refine ⟨inode,(kept run.key inode found).1,?_⟩
    rcases changes with rfl | ⟨call,done⟩
    · exact synced
    · exact keptFilesStay done found synced
  cases phase with
  | unlinkInstalled => exact stays entry
  | finalized disposition => exact stays entry
  | _ => trivial

theorem contentStaysKept (changes : Changes fs fs') {inode}
    (same : fs'.live.content inode = fs.live.content inode) (kept : fs.kept.content inode = fs.live.content inode) :
    fs'.kept.content inode = fs'.live.content inode := by
  rw [same]
  rcases changes with rfl | ⟨call,done⟩
  · exact kept
  · exact keptContentStays done kept

theorem durableKept (changes : Changes fs fs') (kept : FinalsKept fs fs') (durable : run.Durable fs)
    (own : ∀ inode, run.inode = some inode → fs'.live.content inode = fs.live.content inode) : run.Durable fs' :=
  ⟨dirKeptStays changes durable.root,passedStays changes durable.passed,
    fun dir rest at_ phase made => dirMadeStays changes (durable.made dir rest at_ phase made),
    fun at_ inode file => contentStaysKept changes (own inode file) (durable.content at_ inode file),
    entryStays changes kept durable.entry⟩

end Kept

/- What a careful step leaves behind it: a directory it passes is kept, and so is the entry it answers with. -/
structure Cared (fs' : Filesystem) (run run' : StagingRun) : Prop where
  passed : ∀ dir rest at_, run.phase = .ensure (dir :: rest) at_ →
    run'.phase = (if rest = [] then .openNew else .ensure rest .stat) → DirKept fs' dir
  present : ∀ existing, run.phase = .unlinkExisting existing → run'.phase = .finalized .destinationExists →
    fs'.kept.files run.key.finalPath = fs'.live.files run.key.finalPath

section Own
variable {sha256 : Sha256} {fs fs' : Filesystem} {run run' : StagingRun}

theorem runChanges (step : RunStep sha256 fs run fs' run') : Changes fs fs' :=
  (runEffect step).imp id fun effect => effect.imp fun _ done => done.2

theorem durableGoto (durable : run.Durable fs') {phase} (passed : PassedKept fs' run phase)
    (made : ∀ dir rest at_, phase = .ensure (dir :: rest) at_ → at_ = .permit ∨ at_ = .syncParent → DirMade fs' dir)
    (content : phase = .place → ∀ inode, run.inode = some inode → fs'.kept.content inode = fs'.live.content inode)
    (entry : SyncedEntry fs' run phase) : (run.goto phase).Durable fs' := by
  refine ⟨durable.root,?_,made,?_,?_⟩
  · cases phase <;> exact passed
  · rintro (place | placed)
    · exact content place
    · exact durable.content (.inr placed)
  · cases phase <;> exact entry

theorem madeDir {dir} (done : fs.perform (.mkdir dir) = some fs') : DirMade fs' dir := by
  have changes : Changes fs fs' := .inr ⟨_,done⟩
  cases performed done with
  | mkdir free =>
    refine ⟨(freeIff free).1,Function.update_self _ _ _,isDirStays changes ?_⟩
    simp only [Filesystem.free,Bool.and_eq_true] at free
    exact free.1.2

theorem passedNext {dir rest at_} (passed : PassedKept fs' run (.ensure (dir :: rest) at_))
    (kept : DirKept fs' dir) : PassedKept fs' run (if rest = [] then .openNew else .ensure rest .stat) := by
  obtain ⟨before,same,all⟩ := passed
  have next : ∀ d ∈ before ++ [dir], DirKept fs' d := by
    intro d mem
    rcases List.mem_append.mp mem with mem | mem
    · exact all d mem
    · exact List.mem_singleton.mp mem ▸ kept
  split
  · rename_i last
    subst last
    exact fun d mem => next d (same ▸ mem)
  · exact ⟨before ++ [dir],by rw [same,List.append_assoc]; rfl,next⟩

theorem syncedFinal {inode} (found : fs.live.files run.key.finalPath = some inode)
    (done : fs.perform (.syncDir run.key.chunksDir) = some fs') :
    fs'.live.files run.key.finalPath = some inode ∧ fs'.kept.files run.key.finalPath = some inode := by
  have inside : run.key.finalPath ≠ [] ∧ run.key.finalPath.dropLast = run.key.chunksDir :=
    ⟨by simp [ChunkKey.finalPath],by simp [ChunkKey.finalPath]⟩
  cases performed done with
  | syncDir there => exact ⟨found,(if_pos inside).trans found⟩

section Step
variable (kept : FinalsKept fs fs') (sound : run.Sound sha256 fs)
  (old : ∀ inode, run.inode = some inode → inode < fs.next) (durable : run.Durable fs)
include kept sound old durable

theorem calledDurable (cared : Cared fs' run run') (called : Called sha256 fs run fs' run') : run'.Durable fs' := by
  have changes := runChanges (.call called)
  have passed := passedStays changes durable.passed
  have entry := entryStays changes kept durable.entry
  -- No call but a write changes the content of the staging's own file.
  have stays : (∀ inode, run.inode = some inode → fs'.live.content inode = fs.live.content inode) → run.Durable fs' :=
    durableKept changes kept durable
  have goto : ∀ {phase}, (∀ inode, run.inode = some inode → fs'.live.content inode = fs.live.content inode) →
      (∀ dirs at_, phase ≠ .ensure dirs at_) → phase ≠ .place → PassedKept fs' run phase → SyncedEntry fs' run phase →
      (run.goto phase).Durable fs' := fun own ensure place passed entry =>
    durableGoto (stays own) passed (fun _ _ _ same => absurd same (ensure _ _)) (fun same => absurd same place) entry
  have removed : ∀ {fails phase}, fs' = run.removeStaging fs fails → (∀ dirs at_, phase ≠ .ensure dirs at_) →
      phase ≠ .place → PassedKept fs' run phase → SyncedEntry fs' run phase → (run.goto phase).Durable fs' := by
    rintro fails phase rfl
    exact goto fun inode file => removeContent run fails (old inode file)
  cases called with
  | idle => exact durable
  | unlisted phase =>
    rw [phase] at passed
    obtain ⟨before,same,all⟩ := passed
    refine goto (fun _ _ => rfl) (by simp) (by simp) (fun dir mem => all dir ?_) trivial
    rwa [same,List.append_nil] at mem
  | @ensuring dir rest at_ at_' _ phase called =>
    rw [phase] at passed
    refine durableGoto (stays fun inode file => ensureContent called (old inode file)) passed ?_ (by simp) trivial
    intro dir' rest' at_' same at_made
    cases same
    cases called with
    | made done => exact madeDir done
    | permitted from_ => exact durable.made dir rest at_ phase (.inl from_)
    | unready quiet => rcases quiet with rfl | rfl <;> simp at at_made
  | @ensured dir rest at_ _ phase called =>
    rw [phase] at passed
    refine durableGoto (stays fun inode file => ensureContent called (old inode file))
      (passedNext passed (cared.passed dir rest at_ phase rfl)) ?_ ?_ ?_
    · intro dir' rest' at_' same at_made
      split at same <;> cases same
      simp at at_made
    · split <;> simp
    · split <;> trivial
  | refused => exact goto (fun _ _ => rfl) (by simp) (by simp) trivial trivial
  | opened phase done =>
    have unplaced := sound.phase
    rw [phase] at passed unplaced
    refine ⟨dirKeptStays changes durable.root,passed,fun _ _ _ same => ?_,?_,trivial⟩
    · cases same
    · rintro (place | placed)
      · cases place
      · rw [unplaced.2.2] at placed
        cases placed
  | poisoned phase =>
    rw [phase] at passed
    exact removed rfl (by simp) (by simp) passed trivial
  | synced phase file done =>
    rw [phase] at passed
    refine durableGoto (stays fun inode file => quietContent (by simp) (.inr done) (old inode file)) passed (by simp) ?_ trivial
    intro _ inode' file'
    cases Option.some.inj (file.symm.trans file')
    cases performed done with
    | sync => exact Function.update_self _ _ _
  | exists_ phase =>
    rw [phase] at passed
    exact goto (fun _ _ => rfl) (by simp) (by simp) passed trivial
  | linked phase done =>
    have own : ∀ inode, run.inode = some inode → fs'.live.content inode = fs.live.content inode := fun inode file =>
      quietContent (by simp) (.inr done) (old inode file)
    rw [phase] at passed
    refine ⟨dirKeptStays changes durable.root,passed,fun _ _ _ same => ?_,fun _ inode file => ?_,trivial⟩
    · cases same
    · exact contentStaysKept changes (own inode file) (durable.content (.inl phase) inode file)
  | dirSynced phase done =>
    have placed := sound.phase
    rw [phase] at passed placed
    obtain ⟨_,_,inode,_,found⟩ := sound.placed placed
    exact goto (fun inode file => quietContent (by simp) (.inr done) (old inode file)) (by simp) (by simp) passed
      ⟨inode,syncedFinal found done⟩
  | installed phase =>
    rw [phase] at passed entry
    exact removed rfl (by simp) (by simp) passed entry
  | opening phase | read phase | scanned phase =>
    rw [phase] at passed
    exact goto (fun _ _ => rfl) (by simp) (by simp) passed trivial
  | present phase =>
    have there := sound.phase
    rw [phase] at passed there
    simp only [PhaseSound] at there
    obtain ⟨inode,found,_⟩ := there
    have found' := (kept run.key inode found).1
    exact removed rfl (by simp) (by simp) passed ⟨inode,found',(cared.present _ phase rfl).trans found'⟩
  | other phase | failed phase | discarded phase =>
    rw [phase] at passed
    exact removed rfl (by simp) (by simp) passed trivial
  | failing e phase =>
    rcases phase with phase | phase | phase | phase | ⟨inode,scanned,phase⟩ <;> rw [phase] at passed <;>
      exact goto (fun _ _ => rfl) (by simp) (by simp) passed trivial

theorem runDurable (cared : Cared fs' run run') (step : RunStep sha256 fs run fs' run') : run'.Durable fs' := by
  have changes := runChanges step
  have passed := passedStays changes durable.passed
  have unplaced := sound.phase
  -- The holder of a staging acts while nothing is placed yet.
  have held : run.phase = .staged → run'.placed = run.placed → run'.key = run.key →
      (run'.phase = .staged ∨ ∃ e, run'.phase = .poisoning e) → run'.Durable fs' := by
    intro phase same key next
    rw [phase] at passed unplaced
    have dirs : PassedKept fs' run' run'.phase := by
      rcases next with next | ⟨e,next⟩ <;> rw [next] <;> exact fun dir mem => passed dir (key ▸ mem)
    have place : run'.phase ≠ .place ∧ ∀ dirs at_, run'.phase ≠ .ensure dirs at_ := by
      rcases next with next | ⟨e,next⟩ <;> rw [next] <;> simp
    refine ⟨dirKeptStays changes durable.root,dirs,fun _ _ _ same => absurd same (place.2 _ _),?_,?_⟩
    · rintro (here | placed)
      · exact absurd here place.1
      · rw [same,unplaced] at placed
        cases placed
    · rcases next with next | ⟨e,next⟩ <;> rw [next] <;> trivial
  cases step with
  | call called => exact calledDurable kept sound old durable cared called
  | wrote phase => exact held phase rfl rfl (.inl phase)
  | spoiled phase | oversize phase => exact held phase rfl rfl (.inr ⟨_,rfl⟩)
  | finalizing phase | unfinal phase =>
    rw [phase] at passed
    exact durableGoto durable passed (by simp) (by simp) trivial
  | dropped phase ends =>
    rw [phase] at passed
    rcases ends with rfl | rfl <;> exact durableGoto durable passed (by simp) (by simp) trivial
  | crashed => exact durableGoto durable trivial (by simp) (by simp) trivial

end Step

theorem ensureCared {dir fails at_} (below : dir ≠ [])
    (made : at_ = .permit ∨ at_ = .syncParent → DirMade fs dir) (careful : EnsureCareful fs dir fails at_)
    (ensured : (ensureWorkerDir fs dir fails at_).2 = .ensured) : DirKept (ensureWorkerDir fs dir fails at_).1 dir := by
  have called := ensureCalled fs dir fails at_
  have found : fs.live.isDir dir = true → (fs.live.dirs dir = true → fs.kept.dirs dir = true) → DirKept fs dir := by
    intro there synced
    have live : fs.live.dirs dir = true := by simpa [Tree.isDir,below] using there
    exact ⟨live,synced live⟩
  cases at_ with
  | stat | recheck =>
    rw [ensured] at called
    generalize (ensureWorkerDir fs dir fails _).1 = fs' at called ⊢
    cases called with
    | found _ there => exact found there careful
    | synced from_ => cases from_
  | create | permit =>
    rw [ensured] at called
    generalize (ensureWorkerDir fs dir fails _).1 = fs' at called ⊢
    cases called with
    | found existing => simp at existing
    | synced from_ => cases from_
  | syncParent =>
    obtain ⟨_,live,parent⟩ := made (.inr rfl)
    obtain rfl : fails = none := careful
    have done : ensureWorkerDir fs dir none .syncParent = ({ fs with kept := fs.syncEntries dir.dropLast },.ensured) := by
      simp [ensureWorkerDir,Filesystem.attempt,Filesystem.perform,parent]
    rw [done]
    exact ⟨live,(if_pos ⟨below,rfl⟩).trans live⟩

theorem caredQuiet (quiet : run'.phase = run.phase ∨ run.phase = .staged ∨ run'.phase = .crashed) :
    Cared fs' run run' := by
  refine ⟨fun dir rest at_ phase next => ?_,fun existing phase next => ?_⟩
  · rcases quiet with same | staged | crashed
    · rw [same,phase] at next
      split at next <;> simp at next
    · rw [staged] at phase
      cases phase
    · rw [crashed] at next
      split at next <;> cases next
  · rcases quiet with same | staged | crashed
    · rw [same,phase] at next
      cases next
    · rw [staged] at phase
      cases phase
    · rw [crashed] at next
      cases next

theorem caredCall {fails} (durable : run.Durable fs)
    (careful : PhaseCareful sha256 fs fails run run.phase) (length : Nat) :
    Cared (run.call sha256 fs fails length).1 run (run.call sha256 fs fails length).2 := by
  refine ⟨fun dir rest at_ phase next => ?_,fun existing phase next => ?_⟩
  · have passed := durable.passed
    rw [phase] at careful passed
    obtain ⟨before,same,_⟩ := passed
    have below : dir ≠ [] := by
      have mem : dir ∈ run.key.stageDirs := by simp [same]
      rintro rfl
      simp [ChunkKey.stageDirs,ChunkKey.stagingDir,ChunkKey.chunksDir,ChunkKey.transferDir] at mem
    have cared := ensureCared below (durable.made dir rest at_ phase) careful
    simp only [StagingRun.call,phase] at next ⊢
    generalize ensureWorkerDir fs dir fails at_ = result at cared next ⊢
    obtain ⟨fs',next' | _ | e⟩ := result
    · simp only [goto] at next
      split at next <;> simp at next
    · exact cared rfl
    · simp only [goto] at next
      split at next <;> cases next
  · rw [phase] at careful
    simp only [StagingRun.call,phase,goto] at next ⊢
    split at next
    · rename_i matching
      have synced := careful matching
      rcases attemptCases fs (.unlink run.stagingPath) fails.isSome with same | done
      · rw [removeStaging,same]
        exact synced
      · rw [removeStaging]
        generalize fs.attempt (.unlink run.stagingPath) fails.isSome = fs' at done ⊢
        cases performed done with
        | unlink => exact synced.trans (setFileOf none (stagingApart _ _ _).symm).symm
    · cases next

end Own

/- What a crash keeps of one initialization. -/
structure InitRun.Durable (fs : Filesystem) (init : InitRun) : Prop where
  past : init.phase.past = true → DirKept fs transfersDir
  made : ∀ at_, init.phase = .ensure at_ → at_ = .permit ∨ at_ = .syncParent → DirMade fs transfersDir

structure ChunkStoreSystem.Durable (s : ChunkStoreSystem) : Prop where
  runs : ∀ n run, s.runs n = some run → run.Durable s.fs
  inits : ∀ n init, s.inits n = some init → init.Durable s.fs

section Inits
variable {s : ChunkStoreSystem} {fs fs' : Filesystem} {init init' : InitRun}

theorem initDurableKept (changes : Changes fs fs') (durable : init.Durable fs) : init.Durable fs' :=
  ⟨fun past => dirKeptStays changes (durable.past past),
    fun at_ phase made => dirMadeStays changes (durable.made at_ phase made)⟩

theorem initDurable (changes : Changes fs fs') (durable : init.Durable fs)
    (cared : ∀ at_, init.phase = .ensure at_ → init'.phase = .list → DirKept fs' transfersDir)
    (step : InitStep fs init fs' init') : init'.Durable fs' := by
  have kept := initDurableKept changes durable
  cases step with
  | idle => exact kept
  | @ensuring at_ at_' _ phase called =>
    refine ⟨fun past => ?_,fun at_' same at_made => ?_⟩
    · cases past
    · cases same
      cases called with
      | made done => exact madeDir done
      | permitted from_ => exact durable.made at_ phase (.inl from_)
      | unready quiet => rcases quiet with rfl | rfl <;> simp at at_made
  | @ensured at_ _ phase =>
    refine ⟨fun _ => cared at_ phase rfl,fun _ same => ?_⟩
    cases same
  | swept past next =>
    refine ⟨fun _ => kept.past past,fun at_ same => ?_⟩
    rcases next with rfl | ⟨rest,rfl | ⟨candidate,rfl⟩⟩ <;> cases same
  | removed phase =>
    refine ⟨fun _ => kept.past (by rw [phase]; rfl),fun at_ same => ?_⟩
    cases same
  | ended ends =>
    refine ⟨fun past => ?_,fun at_ same => ?_⟩
    · rcases ends with ⟨e,rfl⟩ | rfl <;> cases past
    · rcases ends with ⟨e,rfl⟩ | rfl <;> cases same

theorem initCared {fails} (durable : init.Durable fs)
    (careful : InitCareful fs fails init.phase) {at_} (phase : init.phase = .ensure at_)
    (next : (init.call fs fails).2.phase = .list) : DirKept (init.call fs fails).1 transfersDir := by
  rw [phase] at careful
  have cared := ensureCared (by simp [transfersDir]) (durable.made at_ phase) careful
  simp only [InitRun.call,phase] at next ⊢
  generalize ensureWorkerDir fs transfersDir fails at_ = result at cared next ⊢
  obtain ⟨fs',next' | _ | e⟩ := result
  · cases next
  · exact cared rfl
  · cases next

end Inits

section System
variable {sha256 : Sha256} {s s' : ChunkStoreSystem} {n : Nat}

theorem stagingDurable (sound : s.Sound sha256) (durable : s.Durable) {run run' fs'}
    (here : s.runs n = some run) (step : RunStep sha256 s.fs run fs' run') (cared : Cared fs' run run') :
    (s.setRun n (fs',run')).Durable := by
  have changes := runChanges step
  have kept := finalsKeptRun sound here step
  refine ⟨fun m other there => ?_,fun m init there => initDurableKept changes (durable.inits m init there)⟩
  simp only [ChunkStoreSystem.setRun] at there
  by_cases same : m = n
  · subst same
    rw [Function.update_self] at there
    cases Option.some.inj there
    exact runDurable kept (sound.runs m run here) (fun inode file => sound.fresh m run inode here file)
      (durable.runs m run here) cared step
  · rw [Function.update_of_ne same] at there
    exact durableKept changes kept (durable.runs m other there) fun inode file =>
      othersContent sound here step there same file

theorem onStagedDurable (sound : s.Sound sha256) (durable : s.Durable) {f}
    (steps : ∀ run, run.phase = .staged → RunStep sha256 s.fs run (f run).1 (f run).2) : (s.onStaged n f).Durable := by
  unfold ChunkStoreSystem.onStaged
  split
  · split
    · rename_i run here phase
      exact stagingDurable sound durable here (steps run phase) (caredQuiet (.inr (.inl phase)))
    · exact durable
  · exact durable

theorem settingInit (sound : s.Sound sha256) (durable : s.Durable) {init init' fs'}
    (here : s.inits n = some init) (step : InitStep s.fs init fs' init')
    (cared : ∀ at_, init.phase = .ensure at_ → init'.phase = .list → DirKept fs' transfersDir) :
    (s.setInit n (fs',init')).Durable := by
  have changes : Changes s.fs fs' := (initEffect (fun path rest => sound.inits n init path rest here) step).imp id
    fun effect => effect.imp fun _ done => done.2
  have contents := (initQuiet sound here step).2.2.2
  have kept := finalsKeptInit sound here step
  refine ⟨fun m run there => durableKept changes kept (durable.runs m run there) fun inode file =>
    contents inode (sound.fresh m run inode there file),fun m other there => ?_⟩
  simp only [ChunkStoreSystem.setInit] at there
  by_cases same : m = n
  · subst same
    rw [Function.update_self] at there
    cases Option.some.inj there
    exact initDurable changes (durable.inits m init here) cared step
  · rw [Function.update_of_ne same] at there
    exact initDurableKept changes (durable.inits m other there)

theorem beganDurable (durable : s.Durable) (root : DirKept s.fs transfersDir) (key : ChunkKey) (maxSize : Nat)
    (token : BitVec 128) : ChunkStoreSystem.Durable { s with
      runs := Function.update s.runs s.started (some (.beginStage key maxSize token))
      started := s.started + 1 } := by
  refine ⟨fun m run there => ?_,durable.inits⟩
  dsimp only at there
  by_cases same : m = s.started
  · subst same
    rw [Function.update_self] at there
    cases Option.some.inj there
    refine ⟨root,⟨[],rfl,by simp⟩,?_,?_,trivial⟩ <;> simp [StagingRun.beginStage]
  · rw [Function.update_of_ne same] at there
    exact durable.runs m run there

theorem durableStep (sound : s.Sound sha256) (durable : s.Durable) (op : ChunkStoreOp) (careful : s.Careful sha256 op) :
    (s.after sha256 op).Durable := by
  cases op with
  | initializeStore listing =>
    refine ⟨durable.runs,fun m init there => ?_⟩
    simp only [ChunkStoreSystem.after] at there
    by_cases same : m = s.initialized
    · subst same
      rw [Function.update_self] at there
      cases Option.some.inj there
      refine ⟨?_,?_⟩ <;> simp [InitPhase.past]
    · rw [Function.update_of_ne same] at there
      exact durable.inits m init there
  | initCall n fails =>
    simp only [ChunkStoreSystem.after]
    split
    · rename_i init here
      exact settingInit sound durable here (initCalled s.fs init fails) fun at_ phase next =>
        initCared (durable.inits n init here) (careful init here) phase next
    · exact durable
  | initCrash n =>
    simp only [ChunkStoreSystem.after]
    split
    · refine settingInit sound durable ‹_› (.ended (.inr rfl)) fun at_ _ next => ?_
      cases next
    · exact durable
  | beginStage store key maxSize token =>
    simp only [ChunkStoreSystem.after]
    split
    · rename_i here
      exact beganDurable durable ((durable.inits store _ here).past rfl) key maxSize token
    · exact durable
  | write n buf fails => exact onStagedDurable sound durable fun run phase => wroteStep sha256 phase buf fails
  | finalize n => exact onStagedDurable sound durable fun run phase => finalizeStep sha256 phase
  | discard n => exact onStagedDurable sound durable fun run phase => .dropped phase (.inl rfl)
  | drop n =>
    refine onStagedDurable sound durable fun run phase => .dropped phase ?_
    cases run.poisoned
    · exact .inl rfl
    · exact .inr rfl
  | call n fails length =>
    simp only [ChunkStoreSystem.after]
    split
    · rename_i run here
      exact stagingDurable sound durable here (.call (called sha256 s.fs run fails length))
        (caredCall (durable.runs n run here) (careful run here) length)
    · exact durable
  | crash n =>
    simp only [ChunkStoreSystem.after]
    split
    · split
      · exact durable
      · exact stagingDurable sound durable ‹_› (.crashed (by simpa using ‹¬_ = true›)) (caredQuiet (.inr (.inr rfl)))
    · exact durable

theorem storeChanges (sound : s.Sound sha256) (step : StoreStepped sha256 s s') : Changes s.fs s'.fs := by
  cases step with
  | same | began | initialized => exact .inl rfl
  | staging _ step => exact runChanges step
  | init found step =>
    exact (initEffect (fun path rest => sound.inits _ _ path rest found) step).imp id
      fun effect => effect.imp fun _ done => done.2

theorem durableRun {ops} (careful : ChunkStoreSystem.CarefulRun sha256 ops) :
    (ChunkStoreSystem.reached sha256 ops).DistinctTokens →
      (ChunkStoreSystem.reached sha256 ops).Sound sha256 ∧ (ChunkStoreSystem.reached sha256 ops).Durable := by
  have along : ∀ (t : ChunkStoreSystem) op, (t.Numbered ∧ (t.DistinctTokens → t.Sound sha256 ∧ t.Durable)) →
      t.Careful sha256 op → ((t.after sha256 op).Numbered ∧ ((t.after sha256 op).DistinctTokens →
        (t.after sha256 op).Sound sha256 ∧ (t.after sha256 op).Durable)) := by
    rintro t op ⟨numbered,holds⟩ careful
    have step := storeStepped sha256 t op
    refine ⟨numberedStep numbered step,fun distinct => ?_⟩
    obtain ⟨sound,durable⟩ := holds (distinctBefore numbered step distinct)
    exact ⟨(soundStepped sound step distinct).1,durableStep sound durable op careful⟩
  have start : ChunkStoreSystem.empty.Durable := by
    refine ⟨?_,?_⟩ <;> simp [ChunkStoreSystem.empty]
  have sound : ChunkStoreSystem.empty.Sound sha256 := storeSoundEmpty
  exact (runInvariant along ⟨sound.started,fun _ => ⟨sound,start⟩⟩ careful).2

/- The final file of the chunk outlives a crash, with a content that satisfies `p`. -/
structure Survives (fs : Filesystem) (key : ChunkKey) (p : List UInt8 → Prop) : Prop where
  root : DirKept fs transfersDir
  dirs : ∀ dir ∈ key.stageDirs, DirKept fs dir
  file : ∃ inode, fs.live.files key.finalPath = some inode ∧ fs.kept.files key.finalPath = some inode ∧
    fs.kept.content inode = fs.live.content inode ∧ p (fs.live.content inode)

theorem survivesStays {fs fs'} (changes : Changes fs fs') (kept : FinalsKept fs fs') {key}
    {p : List UInt8 → Prop} (survives : Survives fs key p) : Survives fs' key p := by
  obtain ⟨inode,live,entry,content,holds⟩ := survives.file
  obtain ⟨live',same⟩ := kept key inode live
  refine ⟨dirKeptStays changes survives.root,fun dir mem => dirKeptStays changes (survives.dirs dir mem),
    inode,live',?_,contentStaysKept changes same content,same ▸ holds⟩
  rcases changes with rfl | ⟨call,done⟩
  · exact entry
  · exact keptFilesStay done live entry

theorem survivesRead {fs key} {p : List UInt8 → Prop} (survives : Survives fs key p) :
    ∃ content, fs.kept.read key.finalPath = some content ∧ p content := by
  obtain ⟨inode,_,entry,content,holds⟩ := survives.file
  have transfer := (survives.dirs key.transferDir (by simp [ChunkKey.stageDirs])).2
  have chunks := (survives.dirs key.chunksDir (by simp [ChunkKey.stageDirs])).2
  have walks : fs.kept.walks key.finalPath = true := by
    rw [Tree.walks,List.all_eq_true]
    intro n mem
    match n,List.mem_range.mp mem with
    | 0,_ => rfl
    | 1,_ => exact Bool.or_eq_true_iff.mpr (.inr survives.root.2)
    | 2,_ => exact Bool.or_eq_true_iff.mpr (.inr transfer)
    | 3,_ => exact Bool.or_eq_true_iff.mpr (.inr chunks)
  refine ⟨fs.kept.content inode,?_,content ▸ holds⟩
  rw [Tree.read,if_pos walks,entry,Option.map_some]

theorem finalizedKept (sound : s.Sound sha256) (durable : s.Durable) {run} (here : s.runs n = some run)
    {disposition} (phase : run.phase = .finalized disposition) : Survives s.fs run.key fun content =>
      content.length = run.written.length ∧ sha256 content = sha256 run.written := by
  have own := durable.runs n run here
  have passed := own.passed
  have entry := own.entry
  rw [phase] at passed entry
  obtain ⟨inode,live,synced⟩ := entry
  obtain ⟨inode',live',facts⟩ := lawReported sound here phase
  cases Option.some.inj (live.symm.trans live')
  -- The content was synced by the staging that placed the file, which may be another one.
  obtain ⟨m,owner,there,file,_,placed⟩ := finalOwner sound live
  exact ⟨own.root,passed,inode,live,synced,(durable.runs m owner there).content (.inr placed) inode file,facts⟩

theorem survivesRun (sound : s.Sound sha256) (more : List ChunkStoreOp)
    (distinct : (Transition.run (fun s op => s.after sha256 op) s more).DistinctTokens) {key}
    {p : List UInt8 → Prop} (survives : Survives s.fs key p) :
    Survives (Transition.run (fun s op => s.after sha256 op) s more).fs key p := by
  have along : ∀ (t : ChunkStoreSystem) op,
      (t.Numbered ∧ (t.DistinctTokens → t.Sound sha256 ∧ Survives t.fs key p)) →
      ((t.after sha256 op).Numbered ∧ ((t.after sha256 op).DistinctTokens →
        (t.after sha256 op).Sound sha256 ∧ Survives (t.after sha256 op).fs key p)) := by
    rintro t op ⟨numbered,holds⟩
    have step := storeStepped sha256 t op
    refine ⟨numberedStep numbered step,fun distinct => ?_⟩
    obtain ⟨sound,survives⟩ := holds (distinctBefore numbered step distinct)
    obtain ⟨sound',kept⟩ := soundStepped sound step distinct
    exact ⟨sound',survivesStays (storeChanges sound step) kept survives⟩
  exact ((runAlways along ⟨sound.started,fun _ => ⟨sound,survives⟩⟩ more).2 distinct).2

end System

/- The care is needed up to the answer only: afterwards anything may fail. -/
theorem finalizedSurvives (sha256 : Sha256) (ops more : List ChunkStoreOp)
    (distinct : (ChunkStoreSystem.reached sha256 (ops ++ more)).DistinctTokens)
    (careful : ChunkStoreSystem.CarefulRun sha256 ops) (n : Nat) (run : StagingRun) (disposition : Placement)
    (here : (ChunkStoreSystem.reached sha256 ops).runs n = some run) (phase : run.phase = .finalized disposition) :
    ∃ content, (ChunkStoreSystem.reached sha256 (ops ++ more)).fs.kept.read run.key.finalPath = some content ∧
      content.length = run.written.length ∧ sha256 content = sha256 run.written := by
  have split : ChunkStoreSystem.reached sha256 (ops ++ more) =
      Transition.run (fun s op => s.after sha256 op) (ChunkStoreSystem.reached sha256 ops) more := runAppend _ _ _ _
  rw [split] at distinct ⊢
  obtain ⟨sound,durable⟩ := durableRun careful (distinctEarlier (numberedReached sha256 ops) more distinct)
  exact survivesRead (survivesRun sound more distinct (finalizedKept sound durable here phase))

section Traces

-- The second of two stagings found the file of the first; afterwards a third cannot be started.
theorem finalizedSurvivesTwice :
    ∃ content, (ChunkStoreSystem.reached lengthHash (readyStore ++ twice ++
        [.beginStage 0 firstChunk 4 3,.call 2 (some ⟨5⟩) 0])).fs.kept.read firstChunk.finalPath = some content ∧
      content.length = 2 ∧ lengthHash content = lengthHash [7,8] :=
  finalizedSurvives lengthHash (readyStore ++ twice) [.beginStage 0 firstChunk 4 3,.call 2 (some ⟨5⟩) 0]
    (distinctOf (by decide +kernel)) (by decide +kernel) 1
    ⟨firstChunk,4,2,some 1,[7,8],false,false,.finalized .destinationExists⟩ .destinationExists (by decide +kernel) rfl

-- The sync of `transfers` fails for the new directory of the Transfer, and the failure is ignored.
def unsyncedParent : List ChunkStoreOp :=
  readyStore ++ .beginStage 0 firstChunk 4 1 :: calls 0 3 ++ .call 0 (some ⟨5⟩) 0 :: calls 0 9 ++
    [.write 0 [7,8] none,.finalize 0] ++ calls 0 4

-- The staging that placed the file fails to sync its directory; the next one finds the file and answers.
def unsyncedEntry : List ChunkStoreOp :=
  readyStore ++ stageFirst 0 1 [7,8] ++ stageFirst 1 2 [7,8] ++ calls 0 2 ++ .call 0 (some ⟨5⟩) 0 :: calls 0 1 ++ calls 1 7

theorem finalizedLost :
    (let s := ChunkStoreSystem.reached lengthHash unsyncedParent
     (s.runs 0).map StagingRun.phase = some (.finalized .installed) ∧ s.fs.live.read firstChunk.finalPath = some [7,8] ∧
       s.fs.kept.read firstChunk.finalPath = none) ∧
    (let s := ChunkStoreSystem.reached lengthHash unsyncedEntry
     (s.runs 0).map StagingRun.phase = some (.failed (.finalizationSync ⟨5⟩)) ∧
       (s.runs 1).map StagingRun.phase = some (.finalized .destinationExists) ∧
       s.fs.live.read firstChunk.finalPath = some [7,8] ∧ s.fs.kept.read firstChunk.finalPath = none) := by
  decide +kernel

end Traces
end Bamep
