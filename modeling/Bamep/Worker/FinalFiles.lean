import Bamep.Worker.ChunkStore

/-! Final chunk files over any interleaving of stagings, re-initializations and ends of processes: one file per chunk,
put there once by one complete staging, and never changed again. -/
namespace Bamep
open Posix Transition

namespace StagingRun

-- The final file is there, and its content satisfies `p`.
def HasFinal (fs : Filesystem) (key : ChunkKey) (p : List UInt8 → Prop) : Prop :=
  ∃ inode, fs.live.files key.finalPath = some inode ∧ p (fs.live.content inode)

def PhaseSound (sha256 : Sha256) (fs : Filesystem) (run : StagingRun) : StagingPhase → Prop
  | .ensure _ _ | .openNew => run.inode = none ∧ run.written = [] ∧ run.placed = false
  | .staged | .poisoning _ | .discarding | .discarded => run.placed = false
  | .syncFile | .place => run.placed = false ∧ run.poisoned = false ∧ run.written ≠ []
  | .syncDir | .unlinkInstalled | .finalized .installed => run.placed = true
  | .scan inode scanned =>
    fs.live.files run.key.finalPath = some inode ∧ scanned <+: fs.live.content inode
  | .unlinkExisting existing =>
    HasFinal fs run.key fun content => existing = ⟨content.length,sha256 content⟩
  | .finalized .destinationExists =>
    HasFinal fs run.key fun content => content.length = run.written.length ∧ sha256 content = sha256 run.written
  | .openExisting | .failing _ | .failed _ | .refused _ | .crashed => True

/- What holds of one staging over the tree it works in. -/
structure Sound (sha256 : Sha256) (fs : Filesystem) (run : StagingRun) : Prop where
  bounded : run.written.length ≤ run.maxSize
  content : run.poisoned = false → ∀ inode, run.inode = some inode → fs.live.content inode = run.written
  placed : run.placed = true → run.poisoned = false ∧ run.written ≠ [] ∧
    ∃ inode, run.inode = some inode ∧ fs.live.files run.key.finalPath = some inode
  phase : PhaseSound sha256 fs run run.phase

-- The file a staging has put at its final path.
def placement (run : StagingRun) : Option (ChunkKey × List UInt8) := if run.placed then some (run.key,run.written) else none

structure Advances (run run' : StagingRun) : Prop where
  key : run'.key = run.key
  token : run'.token = run.token
  inode : ∀ inode, run.inode = some inode → run'.inode = some inode
  placed : run.placed = true → run'.placed = true

inductive Makes (run : StagingRun) : Posix.Call → Prop where
  | mkdir (path) : Makes run (.mkdir path)
  | syncDir (path) : Makes run (.syncDir path)
  | sync (inode) : Makes run (.sync inode)
  | create (phase : run.phase = .openNew) : Makes run (.create run.stagingPath)
  | append {inode} (phase : run.phase = .staged) (file : run.inode = some inode) (bytes) : Makes run (.append inode bytes)
  | link : Makes run (.link run.stagingPath run.key.finalPath)
  | unlink : Makes run (.unlink run.stagingPath)

end StagingRun

open StagingRun

section Effects
variable {sha256 : Sha256} {fs fs' : Filesystem} {run run' : StagingRun}

theorem ensureEffect {dir at_ ensuring}
    (called : EnsureCalled fs dir at_ fs' ensuring) :
    fs' = fs ∨ fs.perform (.mkdir dir) = some fs' ∨ fs.perform (.syncDir dir.dropLast) = some fs' := by
  cases called with
  | refused | unready | found | permitted => exact .inl rfl
  | made done => exact .inr (.inl done)
  | synced _ fails => exact (attemptCases fs _ fails).imp id .inr

theorem removeEffect (fs : Filesystem) (run : StagingRun) (fails : Option IoError) :
    run.removeStaging fs fails = fs ∨ ∃ call, run.Makes call ∧ fs.perform call = some (run.removeStaging fs fails) :=
  (attemptCases fs _ _).imp id fun done => ⟨_,.unlink,done⟩

theorem runEffect (step : RunStep sha256 fs run fs' run') :
    fs' = fs ∨ ∃ call, run.Makes call ∧ fs.perform call = some fs' := by
  have ensured : ∀ {dir at_ ensuring}, EnsureCalled fs dir at_ fs' ensuring →
      fs' = fs ∨ ∃ call, run.Makes call ∧ fs.perform call = some fs' := fun called =>
    (ensureEffect called).imp id fun done => done.elim (fun done => ⟨_,.mkdir _,done⟩) fun done => ⟨_,.syncDir _,done⟩
  cases step with
  | oversize | finalizing | unfinal | dropped | crashed => exact .inl rfl
  | wrote phase _ file _ done => exact .inr ⟨_,.append phase file _,done⟩
  | spoiled phase file done => exact .inr ⟨_,.append phase file _,done⟩
  | call called =>
    cases called with
    | idle | unlisted | refused | exists_ | opening | read | scanned | failing => exact .inl rfl
    | ensuring _ called => exact ensured called
    | ensured _ called => exact ensured called
    | opened phase done => exact .inr ⟨_,.create phase,done⟩
    | synced _ _ done => exact .inr ⟨_,.sync _,done⟩
    | linked _ done => exact .inr ⟨_,.link,done⟩
    | dirSynced _ done => exact .inr ⟨_,.syncDir _,done⟩
    | poisoned _ fails | installed _ fails | present _ _ fails | other _ fails | failed _ fails | discarded _ fails =>
      exact removeEffect fs run fails

def EntriesOld (fs fs' : Filesystem) : Prop :=
  ∀ path inode, fs'.live.files path = some inode → fs.live.files path = some inode

theorem quietEntries {call} (silent : (∀ path, call ≠ .create path) ∧ ∀ source target, call ≠ .link source target)
    (effect : fs' = fs ∨ fs.perform call = some fs') : EntriesOld fs fs' := by
  intro path inode found
  rcases effect with rfl | done
  · exact found
  · rcases filesOrigin done found with old | ⟨same,_⟩ | ⟨source,same,_⟩
    · exact old
    · exact absurd same (silent.1 path)
    · exact absurd same (silent.2 source path)

theorem ensureEntries {dir at_ ensuring}
    (called : EnsureCalled fs dir at_ fs' ensuring) : EntriesOld fs fs' := by
  rcases ensureEffect called with rfl | done | done
  · exact fun _ _ found => found
  · exact quietEntries (by simp) (.inr done)
  · exact quietEntries (by simp) (.inr done)

theorem runEntries (step : RunStep sha256 fs run fs' run') : EntriesOld fs fs' ∨
    (fs.perform (.create run.stagingPath) = some fs' ∧ run'.inode = some fs.next) ∨
    (run.phase = .place ∧ fs.perform (.link run.stagingPath run.key.finalPath) = some fs' ∧
      run' = { run with placed := true, phase := .syncDir }) := by
  have same : EntriesOld fs fs := fun _ _ found => found
  have removed : ∀ fails, EntriesOld fs (run.removeStaging fs fails) := fun fails =>
    quietEntries (by simp) (attemptCases fs (.unlink run.stagingPath) fails.isSome)
  cases step with
  | oversize | finalizing | unfinal | dropped | crashed => exact .inl same
  | wrote _ _ _ _ done => exact .inl (quietEntries (by simp) (.inr done))
  | spoiled _ _ done => exact .inl (quietEntries (by simp) (.inr done))
  | call called =>
    cases called with
    | idle | unlisted | refused | exists_ | opening | read | scanned | failing => exact .inl same
    | ensuring _ called => exact .inl (ensureEntries called)
    | ensured _ called => exact .inl (ensureEntries called)
    | opened _ done => exact .inr (.inl ⟨done,rfl⟩)
    | synced _ _ done => exact .inl (quietEntries (by simp) (.inr done))
    | linked phase done => exact .inr (.inr ⟨phase,done,rfl⟩)
    | dirSynced _ done => exact .inl (quietEntries (by simp) (.inr done))
    | poisoned _ fails | installed _ fails | present _ _ fails | other _ fails | failed _ fails | discarded _ fails =>
      exact .inl (removed fails)

theorem runAdvances (unopened : run.phase = .openNew → run.inode = none) (step : RunStep sha256 fs run fs' run') :
    run.Advances run' := by
  have same : ∀ phase, run.Advances (run.goto phase) := fun _ => ⟨rfl,rfl,fun _ file => file,fun placed => placed⟩
  cases step with
  | oversize | finalizing | unfinal | dropped | crashed | wrote | spoiled =>
    exact ⟨rfl,rfl,fun _ file => file,fun placed => placed⟩
  | call called =>
    cases called with
    | idle => exact ⟨rfl,rfl,fun _ file => file,fun placed => placed⟩
    | opened phase =>
      refine ⟨rfl,rfl,fun inode file => ?_,fun placed => placed⟩
      rw [unopened phase] at file
      cases file
    | linked => exact ⟨rfl,rfl,fun _ file => file,fun _ => rfl⟩
    | unlisted | refused | exists_ | opening | read | scanned | failing | ensuring | ensured | synced | dirSynced
      | poisoned | installed | present | other | failed | discarded => exact same _

/- A staging places its file by its own `link`, and what it has placed stays. -/
theorem runPlaces (sound : run.Sound sha256 fs) (step : RunStep sha256 fs run fs' run') :
    (run.phase = .place ∧ fs.perform (.link run.stagingPath run.key.finalPath) = some fs' ∧
      run' = { run with placed := true, phase := .syncDir }) ∨ run'.placement = run.placement := by
  cases step with
  | wrote phase =>
    have unplaced := sound.phase
    rw [phase] at unplaced
    have unplaced : run.placed = false := unplaced
    exact .inr (by simp [placement,unplaced])
  | spoiled | oversize | finalizing | unfinal | dropped | crashed => exact .inr rfl
  | call called =>
    cases called with
    | linked phase done => exact .inl ⟨phase,done,rfl⟩
    | _ => exact .inr rfl

/- Final files keep their entry and their content. -/
def FinalsKept (fs fs' : Filesystem) : Prop :=
  ∀ (key : ChunkKey) inode, fs.live.files key.finalPath = some inode →
    fs'.live.files key.finalPath = some inode ∧ fs'.live.content inode = fs.live.content inode

theorem hasFinalKept (kept : FinalsKept fs fs') {key} {p : List UInt8 → Prop}
    (has : HasFinal fs key p) : HasFinal fs' key p := by
  obtain ⟨inode,found,holds⟩ := has
  obtain ⟨found',same⟩ := kept key inode found
  exact ⟨inode,found',same ▸ holds⟩

theorem phaseSoundKept (kept : FinalsKept fs fs') {phase} (sound : PhaseSound sha256 fs run phase) :
    PhaseSound sha256 fs' run phase := by
  cases phase with
  | scan inode scanned =>
    obtain ⟨found',same⟩ := kept run.key inode sound.1
    exact ⟨found',same ▸ sound.2⟩
  | unlinkExisting existing =>
    simp only [PhaseSound] at sound ⊢
    exact hasFinalKept kept sound
  | finalized disposition =>
    cases disposition with
    | installed => exact sound
    | destinationExists =>
      simp only [PhaseSound] at sound ⊢
      exact hasFinalKept kept sound
  | _ => exact sound

theorem soundKept (kept : FinalsKept fs fs') (sound : run.Sound sha256 fs)
    (own : ∀ inode, run.inode = some inode → fs'.live.content inode = fs.live.content inode) :
    run.Sound sha256 fs' := by
  refine ⟨sound.bounded,fun clean inode file => (own inode file).trans (sound.content clean inode file),fun placed => ?_,
    phaseSoundKept kept sound.phase⟩
  obtain ⟨clean,some_,inode,file,found⟩ := sound.placed placed
  exact ⟨clean,some_,inode,file,(kept run.key inode found).1⟩

theorem soundGoto (kept : FinalsKept fs fs') (sound : run.Sound sha256 fs)
    (own : ∀ inode, run.inode = some inode → fs'.live.content inode = fs.live.content inode) {phase}
    (next : PhaseSound sha256 fs' run phase) : (run.goto phase).Sound sha256 fs' := by
  have old := soundKept kept sound own
  refine ⟨old.bounded,old.content,old.placed,?_⟩
  cases phase <;> exact next

theorem readPrefix {inode scanned} (here : scanned <+: fs.live.content inode) (length : Nat) :
    scanned ++ readNext fs inode scanned length <+: fs.live.content inode := by
  obtain ⟨rest,whole⟩ := here
  have next : readNext fs inode scanned length = rest.take (length + 1) := by
    rw [readNext,← whole,List.drop_left]
  rw [next,← whole]
  exact (List.prefix_append_right_inj scanned).mpr (List.take_prefix _ _)

theorem readWhole {inode scanned} (here : scanned <+: fs.live.content inode) {length}
    (done : readNext fs inode scanned length = []) : scanned = fs.live.content inode := by
  obtain ⟨rest,whole⟩ := here
  rw [readNext,← whole,List.drop_left] at done
  cases rest with
  | nil => rw [← whole,List.append_nil]
  | cons b rest => cases done

theorem quietContent {call} (silent : ∀ inode bytes, call ≠ .append inode bytes)
    (effect : fs' = fs ∨ fs.perform call = some fs') {inode} (old : inode < fs.next) :
    fs'.live.content inode = fs.live.content inode := by
  rcases effect with rfl | done
  · rfl
  · exact contentStays done old fun bytes => silent inode bytes

theorem ensureContent {dir at_ ensuring}
    (called : EnsureCalled fs dir at_ fs' ensuring) {inode} (old : inode < fs.next) :
    fs'.live.content inode = fs.live.content inode := by
  rcases ensureEffect called with rfl | done | done
  · rfl
  · exact quietContent (by simp) (.inr done) old
  · exact quietContent (by simp) (.inr done) old

theorem removeContent (run : StagingRun) (fails : Option IoError) {inode} (old : inode < fs.next) :
    (run.removeStaging fs fails).live.content inode = fs.live.content inode :=
  quietContent (by simp) (attemptCases fs (.unlink run.stagingPath) fails.isSome) old

section Own
variable (kept : FinalsKept fs fs') (sound : run.Sound sha256 fs)
  (old : ∀ inode, run.inode = some inode → inode < fs.next)
include kept sound old

omit kept old in
theorem poisonSound (phase : run.phase = .staged) (e : StorageError) : (run.poison e).Sound sha256 fs' := by
  have unplaced := sound.phase
  rw [phase] at unplaced
  refine ⟨sound.bounded,fun clean => ?_,fun placed => ?_,unplaced⟩
  · cases clean
  · rw [poison,unplaced] at placed
    cases placed

omit kept old in
theorem wroteSound {inode buf} (phase : run.phase = .staged) (clean : run.poisoned = false)
    (file : run.inode = some inode) (fits : run.written.length + buf.length ≤ run.maxSize)
    (done : fs.perform (.append inode buf) = some fs') :
    StagingRun.Sound sha256 fs' { run with written := run.written ++ buf } := by
  have unplaced := sound.phase
  rw [phase] at unplaced
  refine ⟨by simpa using fits,fun _ inode' file' => ?_,fun placed => ?_,by rw [phase]; exact unplaced⟩
  · obtain rfl : inode = inode' := Option.some.inj (file.symm.trans file')
    cases performed done
    simp only [Filesystem.setContent,Function.update_self]
    rw [sound.content clean inode file]
  · rw [unplaced] at placed
    cases placed

theorem calledSound (linked : ∀ inode, fs.live.files run.stagingPath = some inode → run.inode = some inode)
    (called : Called sha256 fs run fs' run') : run'.Sound sha256 fs' := by
  have phaseSound := sound.phase
  have goto : ∀ {phase}, (∀ inode, run.inode = some inode → fs'.live.content inode = fs.live.content inode) →
      PhaseSound sha256 fs' run phase → (run.goto phase).Sound sha256 fs' := fun own next => soundGoto kept sound own next
  have removed : ∀ {fails phase}, fs' = run.removeStaging fs fails → PhaseSound sha256 fs' run phase →
      (run.goto phase).Sound sha256 fs' := by
    rintro fails phase rfl next
    exact goto (fun inode file => removeContent run fails (old inode file)) next
  cases called with
  | idle => exact sound
  | unlisted phase =>
    rw [phase] at phaseSound
    exact goto (fun _ _ => rfl) phaseSound
  | ensuring phase called =>
    rw [phase] at phaseSound
    exact goto (fun inode file => ensureContent called (old inode file)) phaseSound
  | ensured phase called =>
    rw [phase] at phaseSound
    refine goto (fun inode file => ensureContent called (old inode file)) ?_
    split <;> exact phaseSound
  | refused => exact goto (fun _ _ => rfl) trivial
  | opened phase done =>
    rw [phase] at phaseSound
    refine ⟨sound.bounded,fun clean inode file => ?_,fun placed => ?_,phaseSound.2.2⟩
    · cases Option.some.inj file
      cases performed done
      simp only [Filesystem.setContent,Function.update_self]
      exact phaseSound.2.1.symm
    · simp only [phaseSound.2.2] at placed
      cases placed
  | poisoned phase fails =>
    rw [phase] at phaseSound
    exact removed rfl phaseSound
  | synced phase file done =>
    rw [phase] at phaseSound
    exact goto (fun inode file => quietContent (by simp) (.inr done) (old inode file)) phaseSound
  | exists_ => exact goto (fun _ _ => rfl) trivial
  | linked phase done =>
    rw [phase] at phaseSound
    refine ⟨sound.bounded,fun clean inode file => ?_,fun _ => ?_,rfl⟩
    · exact (quietContent (by simp) (.inr done) (old inode file)).trans (sound.content clean inode file)
    · cases performed done with
      | link found free => exact ⟨phaseSound.2.1,phaseSound.2.2,_,linked _ found,setFileHere _ _⟩
  | dirSynced phase done =>
    rw [phase] at phaseSound
    exact goto (fun inode file => quietContent (by simp) (.inr done) (old inode file)) phaseSound
  | installed phase fails =>
    rw [phase] at phaseSound
    exact removed rfl phaseSound
  | opening phase found => exact goto (fun _ _ => rfl) ⟨found,List.nil_prefix⟩
  | read phase =>
    rw [phase] at phaseSound
    exact goto (fun _ _ => rfl) ⟨phaseSound.1,readPrefix phaseSound.2 _⟩
  | scanned phase whole =>
    rw [phase] at phaseSound
    refine goto (fun _ _ => rfl) ⟨_,phaseSound.1,?_⟩
    rw [readWhole phaseSound.2 whole]
  | present phase same fails =>
    rw [phase] at phaseSound
    simp only [PhaseSound] at phaseSound
    obtain ⟨inode,found,rfl⟩ := phaseSound
    have final : PhaseSound sha256 fs run (.finalized .destinationExists) := ⟨inode,found,same⟩
    exact removed rfl (phaseSoundKept kept final)
  | other phase fails => exact removed rfl trivial
  | failing => exact goto (fun _ _ => rfl) trivial
  | failed phase fails => exact removed rfl trivial
  | discarded phase fails =>
    rw [phase] at phaseSound
    exact removed rfl phaseSound

theorem runSound (linked : ∀ inode, fs.live.files run.stagingPath = some inode → run.inode = some inode)
    (step : RunStep sha256 fs run fs' run') : run'.Sound sha256 fs' := by
  have phaseSound := sound.phase
  have goto : ∀ {phase}, PhaseSound sha256 fs run phase → (run.goto phase).Sound sha256 fs := fun next =>
    soundGoto (fun _ _ found => ⟨found,rfl⟩) sound (fun _ _ => rfl) next
  cases step with
  | call called => exact calledSound kept sound old linked called
  | wrote phase clean file fits done => exact wroteSound sound phase clean file fits done
  | spoiled phase _ _ e => exact poisonSound sound phase e
  | oversize phase e => exact poisonSound sound phase e
  | finalizing phase clean some_ =>
    rw [phase] at phaseSound
    exact goto ⟨phaseSound,clean,some_⟩
  | unfinal => exact goto trivial
  | dropped phase ends =>
    rw [phase] at phaseSound
    rcases ends with rfl | rfl <;> exact goto phaseSound
  | crashed => exact goto trivial

end Own
end Effects

/- No two stagings drew the same token. -/
def ChunkStoreSystem.DistinctTokens (s : ChunkStoreSystem) : Prop :=
  ∀ m n first second, s.runs m = some first → s.runs n = some second → first.token = second.token → m = n

namespace ChunkStoreSystem

/- The entries of the tree belong to stagings: a staging path to its own, a final path to the one that was placed. -/
structure Sound (sha256 : Sha256) (s : ChunkStoreSystem) : Prop where
  runs : ∀ n run, s.runs n = some run → run.Sound sha256 s.fs
  started : ∀ n run, s.runs n = some run → n < s.started
  fresh : ∀ n run inode, s.runs n = some run → run.inode = some inode → inode < s.fs.next
  apart : ∀ m n first second inode, s.runs m = some first → s.runs n = some second → first.inode = some inode →
    second.inode = some inode → m = n
  owned : ∀ path inode, s.fs.live.files path = some inode → ∃ n run, s.runs n = some run ∧ run.inode = some inode ∧
    (path = run.stagingPath ∨ (path = run.key.finalPath ∧ run.placed = true))
  inits : ∀ n init path rest, s.inits n = some init → init.phase = .remove path rest →
    ∃ candidate, path = InitRun.candidatePath candidate

end ChunkStoreSystem

section System
variable {sha256 : Sha256} {s s' : ChunkStoreSystem} {n : Nat} {run run' : StagingRun} {fs' : Filesystem}

theorem finalOwner (sound : s.Sound sha256) {key inode}
    (found : s.fs.live.files key.finalPath = some inode) :
    ∃ n run, s.runs n = some run ∧ run.inode = some inode ∧ run.key = key ∧ run.placed = true := by
  obtain ⟨n,run,here,file,path | ⟨path,placed⟩⟩ := sound.owned _ _ found
  · exact absurd path.symm (stagingApart _ _ _)
  · exact ⟨n,run,here,file,(finalPathInjective path).symm,placed⟩

theorem stagingOwn (sound : s.Sound sha256) (distinct : s.DistinctTokens) (here : s.runs n = some run) {inode}
    (found : s.fs.live.files run.stagingPath = some inode) : run.inode = some inode := by
  obtain ⟨m,other,there,file,path | ⟨path,_⟩⟩ := sound.owned _ _ found
  · obtain rfl := distinct m n other run there here (stagingTokenInjective path).symm
    cases Option.some.inj (here.symm.trans there)
    exact file
  · exact absurd path (stagingApart _ _ _)

/- A call that a staging may make never touches a final file. -/
theorem finalsKeptRun (sound : s.Sound sha256) (here : s.runs n = some run) (step : RunStep sha256 s.fs run fs' run') :
    FinalsKept s.fs fs' := by
  intro key inode found
  obtain ⟨m,owner,there,file,_,placed⟩ := finalOwner sound found
  rcases runEffect step with rfl | ⟨call,makes,done⟩
  · exact ⟨found,rfl⟩
  · refine ⟨filesStay done found ?_,contentStays done (sound.fresh m owner inode there file) ?_⟩
    · intro same
      cases makes with
      | unlink => exact stagingApart _ _ _ (Posix.Call.unlink.inj same)
      | mkdir | syncDir | sync | create | append | link => exact Posix.Call.noConfusion same
    · intro bytes same
      cases makes with
      | mkdir | syncDir | sync | create | unlink | link => exact Posix.Call.noConfusion same
      | append phase own =>
        rw [(Posix.Call.append.inj same).1] at own
        obtain rfl := sound.apart m n owner run inode there here file own
        cases Option.some.inj (here.symm.trans there)
        have unplaced := (sound.runs m run here).phase
        rw [phase] at unplaced
        rw [unplaced] at placed
        cases placed

theorem inodeOrigin (step : RunStep sha256 s.fs run fs' run') {inode} (file : run'.inode = some inode) :
    run.inode = some inode ∨ (inode = s.fs.next ∧ s.fs.next < fs'.next) := by
  cases step with
  | call called =>
    cases called with
    | opened _ done =>
      cases performed done
      exact .inr ⟨(Option.some.inj file).symm,Nat.lt_succ_self _⟩
    | _ => exact .inl file
  | _ => exact .inl file

theorem fsNext (step : RunStep sha256 s.fs run fs' run') : s.fs.next ≤ fs'.next := by
  rcases runEffect step with rfl | ⟨call,_,done⟩
  · exact Nat.le_refl _
  · exact nextGrows done

theorem othersContent (sound : s.Sound sha256) (here : s.runs n = some run) (step : RunStep sha256 s.fs run fs' run')
    {m other} (there : s.runs m = some other) (apart : m ≠ n) {inode}
    (file : other.inode = some inode) : fs'.live.content inode = s.fs.live.content inode := by
  rcases runEffect step with rfl | ⟨call,makes,done⟩
  · rfl
  · refine contentStays done (sound.fresh m other inode there file) fun bytes same => ?_
    cases makes with
    | mkdir | syncDir | sync | create | unlink | link => exact Posix.Call.noConfusion same
    | append _ own =>
      rw [(Posix.Call.append.inj same).1] at own
      exact apart (sound.apart m n other run inode there here file own)

theorem unopened (sound : s.Sound sha256) (here : s.runs n = some run) (phase : run.phase = .openNew) :
    run.inode = none := by
  have facts := (sound.runs n run here).phase
  rw [phase] at facts
  exact facts.1

/- What a step of one staging leaves of the owners. -/
theorem ownedStep (sound : s.Sound sha256) (distinct : s.DistinctTokens) (here : s.runs n = some run)
    (step : RunStep sha256 s.fs run fs' run') {path inode}
    (found : fs'.live.files path = some inode) :
    ∃ m owner, Function.update s.runs n (some run') m = some owner ∧ owner.inode = some inode ∧
      (path = owner.stagingPath ∨ (path = owner.key.finalPath ∧ owner.placed = true)) := by
  have advances := runAdvances (unopened sound here) step
  have before : s.fs.live.files path = some inode → ∃ m owner, Function.update s.runs n (some run') m = some owner ∧
      owner.inode = some inode ∧ (path = owner.stagingPath ∨ (path = owner.key.finalPath ∧ owner.placed = true)) := by
    intro old
    obtain ⟨m,owner,there,file,path⟩ := sound.owned _ _ old
    by_cases same : m = n
    · subst same
      cases Option.some.inj (here.symm.trans there)
      refine ⟨m,run',Function.update_self _ _ _,advances.inode inode file,?_⟩
      unfold stagingPath at path ⊢
      rw [advances.key,advances.token]
      exact path.imp id (And.imp id advances.placed)
    · exact ⟨m,owner,(Function.update_of_ne same _ _).trans there,file,path⟩
  rcases runEntries step with entries | ⟨done,file⟩ | ⟨_,done,rfl⟩
  · exact before (entries path inode found)
  · rcases filesOrigin done found with old | ⟨same,rfl⟩ | ⟨source,same,_⟩
    · exact before old
    · refine ⟨n,run',Function.update_self _ _ _,file,.inl ?_⟩
      rw [stagingPath,advances.key,advances.token]
      exact (Posix.Call.create.inj same).symm
    · exact Posix.Call.noConfusion same
  · rcases filesOrigin done found with old | ⟨same,_⟩ | ⟨source,same,linked⟩
    · exact before old
    · exact Posix.Call.noConfusion same
    · obtain ⟨from_,target⟩ := Posix.Call.link.inj same
      rw [← from_] at linked
      exact ⟨n,_,Function.update_self _ _ _,stagingOwn sound distinct here linked,.inr ⟨target.symm,rfl⟩⟩

theorem stagingSound (sound : s.Sound sha256) (distinct : s.DistinctTokens) (here : s.runs n = some run)
    (step : RunStep sha256 s.fs run fs' run') : (s.setRun n (fs',run')).Sound sha256 := by
  have kept := finalsKeptRun sound here step
  -- A run of the new state is the one that stepped, or one of before.
  have cases_ : ∀ {m other}, Function.update s.runs n (some run') m = some other →
      (m = n ∧ other = run') ∨ (m ≠ n ∧ s.runs m = some other) := by
    intro m other there
    by_cases same : m = n
    · subst same
      rw [Function.update_self] at there
      exact .inl ⟨rfl,(Option.some.inj there).symm⟩
    · rw [Function.update_of_ne same] at there
      exact .inr ⟨same,there⟩
  have old : ∀ {m other inode}, s.runs m = some other → other.inode = some inode → inode < fs'.next :=
    fun there file => Nat.lt_of_lt_of_le (sound.fresh _ _ _ there file) (fsNext step)
  have lone : ∀ {m other inode}, run'.inode = some inode → s.runs m = some other → other.inode = some inode → m = n := by
    intro m other inode file there file'
    rcases inodeOrigin step file with before | ⟨rfl,_⟩
    · exact sound.apart m n other run inode there here file' before
    · exact absurd (sound.fresh m other _ there file') (Nat.lt_irrefl _)
  refine ⟨fun m other there => ?_,fun m other there => ?_,fun m other inode there file => ?_,
    fun m l first second inode left right file file' => ?_,fun path inode => ownedStep sound distinct here step,
    sound.inits⟩
  · rcases cases_ there with ⟨rfl,rfl⟩ | ⟨apart,there⟩
    · exact runSound kept (sound.runs m run here) (fun inode file => sound.fresh m run inode here file)
        (fun _ found => stagingOwn sound distinct here found) step
    · exact soundKept kept (sound.runs m other there) fun inode file => othersContent sound here step there apart file
  · rcases cases_ there with ⟨rfl,_⟩ | ⟨_,there⟩
    · exact sound.started m run here
    · exact sound.started m other there
  · rcases cases_ there with ⟨rfl,rfl⟩ | ⟨_,there⟩
    · rcases inodeOrigin step file with before | ⟨rfl,grows⟩
      · exact old here before
      · exact grows
    · exact old there file
  · rcases cases_ left with ⟨rfl,rfl⟩ | ⟨_,before⟩ <;> rcases cases_ right with ⟨rfl,rfl⟩ | ⟨_,after⟩
    · rfl
    · exact (lone file after file').symm
    · exact lone file' before file
    · exact sound.apart m l first second inode before after file file'

inductive InitMakes : Posix.Call → Prop where
  | mkdir (path) : InitMakes (.mkdir path)
  | syncDir (path) : InitMakes (.syncDir path)
  | unlink (candidate) : InitMakes (.unlink (InitRun.candidatePath candidate))

theorem initEffect {init init'} (candidates : ∀ path rest, init.phase = .remove path rest →
    ∃ candidate, path = InitRun.candidatePath candidate) (step : InitStep s.fs init fs' init') :
    fs' = s.fs ∨ ∃ call, InitMakes call ∧ s.fs.perform call = some fs' := by
  have ensured : ∀ {dir at_ ensuring}, EnsureCalled s.fs dir at_ fs' ensuring →
      fs' = s.fs ∨ ∃ call, InitMakes call ∧ s.fs.perform call = some fs' := fun called =>
    (ensureEffect called).imp id fun done => done.elim (fun done => ⟨_,.mkdir _,done⟩) fun done => ⟨_,.syncDir _,done⟩
  cases step with
  | idle | swept | ended => exact .inl rfl
  | ensuring _ called => exact ensured called
  | ensured _ called => exact ensured called
  | removed phase fails =>
    obtain ⟨candidate,rfl⟩ := candidates _ _ phase
    exact (attemptCases s.fs _ fails).imp id fun done => ⟨_,.unlink candidate,done⟩

theorem initQuiet {init init'} (sound : s.Sound sha256) (here : s.inits n = some init)
    (step : InitStep s.fs init fs' init') : EntriesOld s.fs fs' ∧ s.fs.next ≤ fs'.next ∧
      (∀ (key : ChunkKey) inode, s.fs.live.files key.finalPath = some inode → fs'.live.files key.finalPath = some inode) ∧
      ∀ inode < s.fs.next, fs'.live.content inode = s.fs.live.content inode := by
  rcases initEffect (fun path rest => sound.inits n init path rest here) step with rfl | ⟨call,makes,done⟩
  · exact ⟨fun _ _ found => found,Nat.le_refl _,fun _ _ found => found,fun _ _ => rfl⟩
  · refine ⟨quietEntries ?_ (.inr done),nextGrows done,fun key inode found => filesStay done found ?_,fun inode old =>
      contentStays done old ?_⟩
    · cases makes <;> simp
    · intro same
      cases makes with
      | unlink candidate => exact candidateApart candidate key (Posix.Call.unlink.inj same)
      | mkdir | syncDir => exact Posix.Call.noConfusion same
    · cases makes <;> simp

theorem finalsKeptInit {init init'} (sound : s.Sound sha256) (here : s.inits n = some init)
    (step : InitStep s.fs init fs' init') : FinalsKept s.fs fs' := by
  intro key inode found
  obtain ⟨_,_,entries,contents⟩ := initQuiet sound here step
  obtain ⟨m,owner,there,file,_⟩ := finalOwner sound found
  exact ⟨entries key inode found,contents inode (sound.fresh m owner inode there file)⟩

theorem initSound {init init'} (sound : s.Sound sha256) (here : s.inits n = some init)
    (step : InitStep s.fs init fs' init') : (s.setInit n (fs',init')).Sound sha256 := by
  obtain ⟨entries,grows,_,contents⟩ := initQuiet sound here step
  have kept := finalsKeptInit sound here step
  refine ⟨fun m run there => soundKept kept (sound.runs m run there) fun inode file =>
      contents inode (sound.fresh m run inode there file),sound.started,fun m run inode there file =>
      Nat.lt_of_lt_of_le (sound.fresh m run inode there file) grows,sound.apart,fun path inode found =>
      sound.owned path inode (entries path inode found),fun m other path rest there phase => ?_⟩
  simp only [ChunkStoreSystem.setInit] at there
  by_cases same : m = n
  · subst same
    rw [Function.update_self] at there
    cases Option.some.inj there
    cases step with
    | idle => exact sound.inits m init path rest here phase
    | ensuring | ensured | removed => cases phase
    | swept _ next =>
      rcases next with rfl | ⟨rest',rfl | ⟨candidate,rfl⟩⟩
      · cases phase
      · cases phase
      · cases phase
        exact ⟨candidate,rfl⟩
    | ended ends =>
      rcases ends with ⟨e,rfl⟩ | rfl <;> cases phase
  · rw [Function.update_of_ne same] at there
    exact sound.inits m other path rest there phase

theorem beganSound (sound : s.Sound sha256) (key : ChunkKey) (maxSize : Nat) (token : BitVec 128) :
    ChunkStoreSystem.Sound sha256 { s with
      runs := Function.update s.runs s.started (some (.beginStage key maxSize token))
      started := s.started + 1 } := by
  have cases_ : ∀ {m other}, Function.update s.runs s.started (some (.beginStage key maxSize token)) m = some other →
      (m = s.started ∧ other = .beginStage key maxSize token) ∨ s.runs m = some other := by
    intro m other there
    by_cases same : m = s.started
    · subst same
      rw [Function.update_self] at there
      exact .inl ⟨rfl,(Option.some.inj there).symm⟩
    · rw [Function.update_of_ne same] at there
      exact .inr there
  refine ⟨fun m other there => ?_,fun m other there => ?_,fun m other inode there file => ?_,
    fun m l first second inode left right file file' => ?_,fun path inode found => ?_,sound.inits⟩
  · rcases cases_ there with ⟨_,rfl⟩ | there
    · refine ⟨Nat.zero_le _,fun _ _ file => ?_,fun placed => ?_,rfl,rfl,rfl⟩
      · cases file
      · cases placed
    · exact sound.runs m other there
  · rcases cases_ there with ⟨rfl,_⟩ | there
    · exact Nat.lt_succ_self _
    · exact Nat.lt_succ_of_lt (sound.started m other there)
  · rcases cases_ there with ⟨_,rfl⟩ | there
    · cases file
    · exact sound.fresh m other inode there file
  · rcases cases_ left with ⟨_,rfl⟩ | before <;> rcases cases_ right with ⟨_,rfl⟩ | after
    · cases file
    · cases file
    · cases file'
    · exact sound.apart m l first second inode before after file file'
  · obtain ⟨m,owner,there,facts⟩ := sound.owned path inode found
    have apart : m ≠ s.started := Nat.ne_of_lt (sound.started m owner there)
    exact ⟨m,owner,(Function.update_of_ne apart _ _).trans there,facts⟩

theorem runToken {fs} (step : RunStep sha256 fs run fs' run') : run'.token = run.token := by
  cases step with
  | call called => cases called <;> rfl
  | _ => rfl

-- The stagings are numbered in the order they begin.
def ChunkStoreSystem.placement (s : ChunkStoreSystem) (n : Nat) : Option (ChunkKey × List UInt8) :=
  (s.runs n).bind StagingRun.placement

def ChunkStoreSystem.Numbered (s : ChunkStoreSystem) : Prop := ∀ n run, s.runs n = some run → n < s.started

theorem numberedStep (numbered : s.Numbered) (step : StoreStepped sha256 s s') : s'.Numbered := by
  intro m other there
  cases step with
  | same | init | initialized => exact numbered m other there
  | @staging n run fs' run' found step =>
    by_cases same : m = n
    · exact same ▸ numbered n run found
    · exact numbered m other ((Function.update_of_ne same _ _).symm.trans there)
  | began =>
    by_cases same : m = s.started
    · exact same ▸ Nat.lt_succ_self _
    · exact Nat.lt_succ_of_lt (numbered m other ((Function.update_of_ne same _ _).symm.trans there))

theorem tokenStays (numbered : s.Numbered) (step : StoreStepped sha256 s s') (here : s.runs n = some run) :
    ∃ run', s'.runs n = some run' ∧ run'.token = run.token := by
  cases step with
  | same | init | initialized => exact ⟨run,here,rfl⟩
  | @staging m other fs' other' found step =>
    by_cases same : n = m
    · subst same
      cases Option.some.inj (here.symm.trans found)
      exact ⟨other',Function.update_self _ _ _,runToken step⟩
    · exact ⟨run,(Function.update_of_ne same _ _).trans here,rfl⟩
  | began =>
    have apart : n ≠ s.started := Nat.ne_of_lt (numbered n run here)
    exact ⟨run,(Function.update_of_ne apart _ _).trans here,rfl⟩

theorem distinctBefore (numbered : s.Numbered) (step : StoreStepped sha256 s s') (distinct : s'.DistinctTokens) :
    s.DistinctTokens := by
  intro m n first second here there same
  obtain ⟨first',here',token⟩ := tokenStays numbered step here
  obtain ⟨second',there',token'⟩ := tokenStays numbered step there
  exact distinct m n first' second' here' there' (token.trans (same.trans token'.symm))

theorem soundStepped (sound : s.Sound sha256) (step : StoreStepped sha256 s s') (distinct : s'.DistinctTokens) :
    s'.Sound sha256 ∧ FinalsKept s.fs s'.fs := by
  have before := distinctBefore sound.started step distinct
  have same : FinalsKept s.fs s.fs := fun _ _ found => ⟨found,rfl⟩
  cases step with
  | same => exact ⟨sound,same⟩
  | staging found step => exact ⟨stagingSound sound before found step,finalsKeptRun sound found step⟩
  | began _ _ key maxSize token => exact ⟨beganSound sound key maxSize token,same⟩
  | init found step => exact ⟨initSound sound found step,finalsKeptInit sound found step⟩
  | initialized listing =>
    refine ⟨⟨sound.runs,sound.started,sound.fresh,sound.apart,sound.owned,fun m init path rest there phase => ?_⟩,same⟩
    dsimp only at there
    by_cases same : m = s.initialized
    · subst same
      rw [Function.update_self] at there
      cases Option.some.inj there
      cases phase
    · rw [Function.update_of_ne same] at there
      exact sound.inits m init path rest there phase

theorem finalsKeptTrans {a b c} (first : FinalsKept a b) (second : FinalsKept b c) : FinalsKept a c := by
  intro key inode found
  obtain ⟨middle,same⟩ := first key inode found
  obtain ⟨last,same'⟩ := second key inode middle
  exact ⟨last,same'.trans same⟩

/- The tokens of an earlier state are among those of a later one, so the assumption goes back along a run. -/
theorem soundRun (start : s.Sound sha256) (ops : List ChunkStoreOp)
    (distinct : (Transition.run (fun s op => s.after sha256 op) s ops).DistinctTokens) :
    (Transition.run (fun s op => s.after sha256 op) s ops).Sound sha256 ∧
      FinalsKept s.fs (Transition.run (fun s op => s.after sha256 op) s ops).fs := by
  have along : ∀ (t : ChunkStoreSystem) op,
      (t.Numbered ∧ (t.DistinctTokens → t.Sound sha256 ∧ FinalsKept s.fs t.fs)) →
      ((t.after sha256 op).Numbered ∧ ((t.after sha256 op).DistinctTokens →
        (t.after sha256 op).Sound sha256 ∧ FinalsKept s.fs (t.after sha256 op).fs)) := by
    rintro t op ⟨numbered,holds⟩
    have step := storeStepped sha256 t op
    refine ⟨numberedStep numbered step,fun distinct => ?_⟩
    obtain ⟨sound,kept⟩ := holds (distinctBefore numbered step distinct)
    obtain ⟨sound',kept'⟩ := soundStepped sound step distinct
    exact ⟨sound',finalsKeptTrans kept kept'⟩
  exact (runAlways along ⟨start.started,fun _ => ⟨start,fun _ _ found => ⟨found,rfl⟩⟩⟩ ops).2 distinct

theorem storeSoundEmpty : ChunkStoreSystem.empty.Sound sha256 := by
  refine ⟨?_,?_,?_,?_,?_,?_⟩ <;> intros <;> simp_all [ChunkStoreSystem.empty,Filesystem.empty,Tree.empty]

theorem numberedReached (sha256 : Sha256) (ops : List ChunkStoreOp) :
    (ChunkStoreSystem.reached sha256 ops).Numbered :=
  runAlways (fun t op numbered => numberedStep numbered (storeStepped sha256 t op)) (fun _ _ found => by cases found) ops

end System

-- The final files by Transfer and index, as the callers of the store see them.
def ChunkStoreSystem.chunkFiles (s : ChunkStoreSystem) : ChunkFiles := fun transferId chunkIndex =>
  if narrow : transferId.uuid < 2 ^ 128 ∧ chunkIndex < 2 ^ 64 then
    (s.fs.live.files (ChunkKey.finalPath ⟨transferId,narrow.1,.ofNat chunkIndex⟩)).map s.fs.live.content
  else none

/- No final file can come of the staging: its bytes were not the whole chunk, or it was given up before `link`. -/
inductive Unpublished (run : StagingRun) : Prop where
  | poisoned (spoiled : run.poisoned = true)
  | empty (nothing : run.written = [])
  | discarded (phase : run.phase = .discarding ∨ run.phase = .discarded)
  | unlinked (unplaced : run.placed = false)

/- Of an earlier and a later state. -/
structure FinalFileLaws (sha256 : Sha256) (s s' : ChunkStoreSystem) : Prop where
  kept : ∀ (key : ChunkKey) inode, s.fs.live.files key.finalPath = some inode →
    s'.fs.live.files key.finalPath = some inode ∧ s'.fs.live.content inode = s.fs.live.content inode
  origin : ∀ (key : ChunkKey) inode, s'.fs.live.files key.finalPath = some inode → ∃ n run, s'.runs n = some run ∧
    run.key = key ∧ run.inode = some inode ∧ run.placed = true ∧ s'.fs.live.content inode = run.written ∧
    1 ≤ run.written.length ∧ run.written.length ≤ run.maxSize
  once : ∀ m n first second, s'.runs m = some first → s'.runs n = some second → first.placed = true →
    second.placed = true → first.key = second.key → m = n
  reported : ∀ n run disposition, s'.runs n = some run → run.phase = .finalized disposition →
    HasFinal s'.fs run.key fun content => content.length = run.written.length ∧ sha256 content = sha256 run.written
  unpublished : ∀ n run inode, s'.runs n = some run → run.inode = some inode → Unpublished run →
    ∀ key : ChunkKey, s'.fs.live.files key.finalPath ≠ some inode

section Laws
variable {sha256 : Sha256} {s s' : ChunkStoreSystem} {n : Nat} {run : StagingRun}

theorem unpublishedUnplaced (sound : run.Sound sha256 s.fs) (unpublished : Unpublished run) : run.placed = false := by
  have facts := sound.placed
  cases placed : run.placed with
  | false => rfl
  | true =>
    obtain ⟨clean,some_,_⟩ := facts placed
    cases unpublished with
    | poisoned spoiled => exact absurd spoiled (by simp [clean])
    | empty nothing => exact absurd nothing some_
    | unlinked unplaced => exact placed.symm.trans unplaced
    | discarded phase =>
      have unplaced := sound.phase
      rcases phase with phase | phase <;> rw [phase] at unplaced <;> exact placed.symm.trans unplaced

theorem lawOrigin (sound : s.Sound sha256) {key inode}
    (found : s.fs.live.files key.finalPath = some inode) : ∃ n run, s.runs n = some run ∧ run.key = key ∧
      run.inode = some inode ∧ run.placed = true ∧ s.fs.live.content inode = run.written ∧
      1 ≤ run.written.length ∧ run.written.length ≤ run.maxSize := by
  obtain ⟨n,run,here,file,same,placed⟩ := finalOwner sound found
  have facts := sound.runs n run here
  obtain ⟨clean,some_,_⟩ := facts.placed placed
  exact ⟨n,run,here,same,file,placed,facts.content clean inode file,List.length_pos_iff.mpr some_,facts.bounded⟩

theorem lawOnce (sound : s.Sound sha256) {m first second} (here : s.runs m = some first)
    (there : s.runs n = some second) (placed : first.placed = true) (placed' : second.placed = true)
    (same : first.key = second.key) : m = n := by
  obtain ⟨_,_,inode,file,found⟩ := (sound.runs m first here).placed placed
  obtain ⟨_,_,inode',file',found'⟩ := (sound.runs n second there).placed placed'
  rw [← same,found] at found'
  cases found'
  exact sound.apart m n first second inode here there file file'

theorem lawReported (sound : s.Sound sha256) (here : s.runs n = some run) {disposition}
    (phase : run.phase = .finalized disposition) : HasFinal s.fs run.key fun content =>
      content.length = run.written.length ∧ sha256 content = sha256 run.written := by
  have facts := sound.runs n run here
  have finalized := facts.phase
  rw [phase] at finalized
  cases disposition with
  | destinationExists => exact finalized
  | installed =>
    obtain ⟨clean,_,inode,file,found⟩ := facts.placed finalized
    exact ⟨inode,found,by rw [facts.content clean inode file],by rw [facts.content clean inode file]⟩

theorem lawUnpublished (sound : s.Sound sha256) (here : s.runs n = some run) {inode}
    (file : run.inode = some inode) (unpublished : Unpublished run) (key : ChunkKey) :
    s.fs.live.files key.finalPath ≠ some inode := by
  intro found
  obtain ⟨m,owner,there,file',_,placed⟩ := finalOwner sound found
  obtain rfl := sound.apart m n owner run inode there here file' file
  cases Option.some.inj (here.symm.trans there)
  rw [unpublishedUnplaced (sound.runs m run here) unpublished] at placed
  cases placed

theorem chunkFilesSame (old : ∀ (key : ChunkKey) inode, s'.fs.live.files key.finalPath = some inode →
    s.fs.live.files key.finalPath = some inode) (kept : FinalsKept s.fs s'.fs) : s'.chunkFiles = s.chunkFiles := by
  funext transferId chunkIndex
  unfold ChunkStoreSystem.chunkFiles
  split
  · rename_i narrow
    have entry := old ⟨transferId,narrow.1,.ofNat chunkIndex⟩
    cases found : s.fs.live.files (ChunkKey.finalPath ⟨transferId,narrow.1,.ofNat chunkIndex⟩) with
    | some inode =>
      obtain ⟨found',same⟩ := kept _ inode found
      rw [found',Option.map_some,Option.map_some,same]
    | none =>
      cases found' : s'.fs.live.files (ChunkKey.finalPath ⟨transferId,narrow.1,.ofNat chunkIndex⟩) with
      | none => rfl
      | some inode =>
        rw [entry inode found'] at found
        cases found
  · rfl

theorem chunkFilesKey (s : ChunkStoreSystem) (key : ChunkKey) : s.chunkFiles key.transferId key.chunkIndex.toNat =
    (s.fs.live.files key.finalPath).map s.fs.live.content := by
  unfold ChunkStoreSystem.chunkFiles
  rw [dif_pos ⟨key.narrow,key.chunkIndex.toNat_lt⟩,UInt64.ofNat_toNat]

theorem chunkFilesLinked (sound : s.Sound sha256) (distinct : s.DistinctTokens) (here : s.runs n = some run)
    (phase : run.phase = .place) {fs'}
    (done : s.fs.perform (.link run.stagingPath run.key.finalPath) = some fs') (run' : StagingRun) :
    s.chunkFiles.placeNoReplace run.key.transferId run.key.chunkIndex.toNat run.written none =
      ((s.setRun n (fs',run')).chunkFiles,.ok .installed) := by
  have clean := (sound.runs n run here).phase
  rw [phase] at clean
  cases performed done with
  | @link _ _ inode found free =>
    have file := stagingOwn sound distinct here found
    have content := (sound.runs n run here).content clean.2.1 inode file
    have absent : s.chunkFiles run.key.transferId run.key.chunkIndex.toNat = none := by
      rw [chunkFilesKey,(freeIff free).2.2,Option.map_none]
    simp only [ChunkFiles.placeNoReplace,absent,Prod.mk.injEq,and_true]
    funext transferId chunkIndex
    by_cases same : transferId = run.key.transferId ∧ chunkIndex = run.key.chunkIndex.toNat
    · obtain ⟨rfl,rfl⟩ := same
      rw [if_pos ⟨rfl,rfl⟩,chunkFilesKey]
      simp only [ChunkStoreSystem.setRun,setFileHere,Option.map_some]
      exact congrArg some content.symm
    · rw [if_neg same]
      unfold ChunkStoreSystem.chunkFiles
      split
      · rename_i narrow
        have apart : ChunkKey.finalPath ⟨transferId,narrow.1,.ofNat chunkIndex⟩ ≠ run.key.finalPath := by
          intro path
          have equal := finalPathInjective path
          refine same ⟨congrArg ChunkKey.transferId equal,?_⟩
          have index := congrArg (fun key : ChunkKey => key.chunkIndex.toNat) equal
          simp only [UInt64.toNat_ofNat'] at index
          omega
        simp only [ChunkStoreSystem.setRun]
        rw [setFileOf _ apart]
        rfl
      · rfl

theorem placementSet {fs' run'} : (s.setRun n (fs',run')).placement = Function.update s.placement n run'.placement := by
  funext m
  by_cases same : m = n
  · subst same
    simp [ChunkStoreSystem.placement,ChunkStoreSystem.setRun]
  · simp [ChunkStoreSystem.placement,ChunkStoreSystem.setRun,same]

/- To the callers of the store a step is nothing, or one staging places its bytes. -/
theorem chunkFilesStep (sound : s.Sound sha256) (step : StoreStepped sha256 s s') (distinct : s'.DistinctTokens) :
    (s'.chunkFiles = s.chunkFiles ∧ s'.placement = s.placement) ∨
    ∃ n file, s.placement n = none ∧ s'.placement = Function.update s.placement n (some file) ∧
      s.chunkFiles.placeNoReplace file.1.transferId file.1.chunkIndex.toNat file.2 none =
        (s'.chunkFiles,.ok .installed) := by
  have before := distinctBefore sound.started step distinct
  have kept := (soundStepped sound step distinct).2
  cases step with
  | same | initialized => exact .inl ⟨rfl,rfl⟩
  | began =>
    refine .inl ⟨rfl,funext fun m => ?_⟩
    unfold ChunkStoreSystem.placement
    by_cases same : m = s.started
    · subst same
      cases here : s.runs s.started with
      | none => simp [beginStage,StagingRun.placement]
      | some run => exact absurd (sound.started _ run here) (Nat.lt_irrefl _)
    · simp only [Function.update_of_ne same]
  | init found step => exact .inl ⟨chunkFilesSame (fun key inode => (initQuiet sound found step).1 _ inode) kept,rfl⟩
  | @staging n run fs' run' found step =>
    have here : s.placement n = run.placement := by rw [ChunkStoreSystem.placement,found,Option.bind_some]
    have phaseSound := (sound.runs n run found).phase
    rw [placementSet]
    rcases runPlaces (sound.runs n run found) step with ⟨phase,done,rfl⟩ | still
    · rw [phase] at phaseSound
      refine .inr ⟨n,(run.key,run.written),?_,?_,chunkFilesLinked sound before found phase done _⟩
      · rw [here,StagingRun.placement,phaseSound.1]
        rfl
      · simp [StagingRun.placement]
    · refine .inl ⟨?_,by rw [still,← here,Function.update_eq_self]⟩
      rcases runEntries step with entries | ⟨done,_⟩ | ⟨phase,_,rfl⟩
      · exact chunkFilesSame (fun key inode => entries _ inode) kept
      · refine chunkFilesSame (fun key inode here => ?_) kept
        rcases filesOrigin done here with old | ⟨same,_⟩ | ⟨source,same,_⟩
        · exact old
        · exact absurd (Posix.Call.create.inj same) (stagingApart _ _ _)
        · exact Posix.Call.noConfusion same
      · rw [phase] at phaseSound
        simp [StagingRun.placement,phaseSound.1] at still

end Laws

/- What the later state allows, the earlier one did. -/
theorem distinctEarlier {sha256} {s : ChunkStoreSystem} (numbered : s.Numbered) (ops : List ChunkStoreOp)
    (distinct : (Transition.run (fun s op => s.after sha256 op) s ops).DistinctTokens) : s.DistinctTokens := by
  have along : ∀ (t : ChunkStoreSystem) op, (t.Numbered ∧ (t.DistinctTokens → s.DistinctTokens)) →
      ((t.after sha256 op).Numbered ∧ ((t.after sha256 op).DistinctTokens → s.DistinctTokens)) := by
    rintro t op ⟨numbered,back⟩
    have step := storeStepped sha256 t op
    exact ⟨numberedStep numbered step,fun distinct => back (distinctBefore numbered step distinct)⟩
  exact (runAlways along ⟨numbered,id⟩ ops).2 distinct

theorem finalFilesExact (sha256 : Sha256) (ops more : List ChunkStoreOp)
    (distinct : (ChunkStoreSystem.reached sha256 (ops ++ more)).DistinctTokens) :
    (∀ key other : ChunkKey, key.finalPath = other.finalPath → key = other) ∧
      FinalFileLaws sha256 (ChunkStoreSystem.reached sha256 ops) (ChunkStoreSystem.reached sha256 (ops ++ more)) := by
  have split : ChunkStoreSystem.reached sha256 (ops ++ more) =
      Transition.run (fun s op => s.after sha256 op) (ChunkStoreSystem.reached sha256 ops) more := runAppend _ _ _ _
  rw [split] at distinct ⊢
  have earlier := distinctEarlier (numberedReached sha256 ops) more distinct
  have start := (soundRun storeSoundEmpty ops earlier).1
  obtain ⟨sound,kept⟩ := soundRun start more distinct
  exact ⟨fun _ _ => finalPathInjective,kept,fun _ _ => lawOrigin sound,fun _ _ _ _ => lawOnce sound,
    fun _ _ _ here phase => lawReported sound here phase,
    fun _ _ _ here file unpublished => lawUnpublished sound here file unpublished⟩

-- A placement as the callers of the store know it, and that it was the first of its name.
def ChunkFiles.place (files : ChunkFiles) (file : ChunkKey × List UInt8) : ChunkFiles :=
  (files.placeNoReplace file.1.transferId file.1.chunkIndex.toNat file.2 none).1

def ChunkFiles.Installs (files : ChunkFiles) (file : ChunkKey × List UInt8) : Prop :=
  (files.placeNoReplace file.1.transferId file.1.chunkIndex.toNat file.2 none).2 = .ok .installed

/- A history of the store as its callers know it: the placements of its stagings, each at a name that was free. -/
structure Placements (s : ChunkStoreSystem) (history : List (Nat × ChunkKey × List UInt8)) : Prop where
  once : (history.map Prod.fst).Nodup
  stagings : ∀ n file, (n,file) ∈ history ↔ s.placement n = some file
  installs : Meets ChunkFiles.place ChunkFiles.Installs (fun _ _ => none) (history.map Prod.snd)
  result : Transition.run ChunkFiles.place (fun _ _ => none) (history.map Prod.snd) = s.chunkFiles

theorem placementsEmpty : Placements .empty [] := by
  refine ⟨List.nodup_nil,by simp [ChunkStoreSystem.placement,ChunkStoreSystem.empty],trivial,?_⟩
  funext transferId chunkIndex
  simp [ChunkStoreSystem.chunkFiles,ChunkStoreSystem.empty,Filesystem.empty,Tree.empty]

section History
variable {sha256 : Sha256} {s s' : ChunkStoreSystem} {history : List (Nat × ChunkKey × List UInt8)}

/- One step of the store is at most one placement. -/
theorem placementsStep (sound : s.Sound sha256) (step : StoreStepped sha256 s s') (distinct : s'.DistinctTokens)
    (old : Placements s history) : ∃ later, later.length ≤ 1 ∧ Placements s' (history ++ later) := by
  rcases chunkFilesStep sound step distinct with ⟨files,same⟩ | ⟨n,file,free,places,placing⟩
  · refine ⟨[],Nat.zero_le _,?_⟩
    rw [List.append_nil]
    exact ⟨old.once,by rw [same]; exact old.stagings,old.installs,old.result.trans files.symm⟩
  have absent : ∀ other, (n,other) ∉ history := by
    intro other mem
    rw [(old.stagings n other).mp mem] at free
    cases free
  refine ⟨[(n,file)],Nat.le_refl _,?_,fun m other => ?_,?_,?_⟩
  · rw [List.map_append,List.map_singleton,List.nodup_append]
    refine ⟨old.once,by simp,?_⟩
    rintro m earlier k last rfl
    cases List.mem_singleton.mp last
    obtain ⟨⟨_,other⟩,mem,rfl⟩ := List.mem_map.mp earlier
    exact absent other mem
  · rw [List.mem_append,List.mem_singleton,old.stagings,places]
    by_cases here : m = n
    · subst here
      rw [Function.update_self,free]
      simp [eq_comm]
    · simp [here]
  · rw [List.map_append,meetsAppend,old.result]
    exact ⟨old.installs,congrArg Prod.snd placing,trivial⟩
  · rw [List.map_append,runAppend,old.result]
    exact congrArg Prod.fst placing

theorem placementsRun (numbered : s.Numbered) (sound : s.DistinctTokens → s.Sound sha256) (old : Placements s history)
    (more : List ChunkStoreOp) (distinct : (Transition.run (fun s op => s.after sha256 op) s more).DistinctTokens) :
    ∃ later, later.length ≤ more.length ∧
      Placements (Transition.run (fun s op => s.after sha256 op) s more) (history ++ later) := by
  induction more generalizing s history with
  | nil => exact ⟨[],Nat.le_refl _,by rw [List.append_nil]; exact old⟩
  | cons op rest ih =>
    rw [runCons] at distinct ⊢
    have step := storeStepped sha256 s op
    have numbered' := numberedStep numbered step
    have now := distinctEarlier numbered' rest distinct
    have before := sound (distinctBefore numbered step now)
    obtain ⟨one,short,placed⟩ := placementsStep before step now old
    obtain ⟨later,bound,all⟩ := ih numbered' (fun distinct => (soundStepped before step distinct).1) placed distinct
    rw [List.append_assoc] at all
    exact ⟨one ++ later,by rw [List.length_append,List.length_cons]; omega,all⟩

end History

/- The store is one of placements: every state has a history, and every history of it goes on with the run, by at most
one placement for each step. -/
theorem storeRefinesPlacements (sha256 : Sha256) (ops more : List ChunkStoreOp)
    (distinct : (ChunkStoreSystem.reached sha256 (ops ++ more)).DistinctTokens) :
    (∃ history, Placements (ChunkStoreSystem.reached sha256 ops) history) ∧
    ∀ history, Placements (ChunkStoreSystem.reached sha256 ops) history →
      ∃ later, later.length ≤ more.length ∧
        Placements (ChunkStoreSystem.reached sha256 (ops ++ more)) (history ++ later) := by
  have split : ChunkStoreSystem.reached sha256 (ops ++ more) =
      Transition.run (fun s op => s.after sha256 op) (ChunkStoreSystem.reached sha256 ops) more := runAppend _ _ _ _
  rw [split] at distinct ⊢
  have numbered := numberedReached sha256 ops
  have earlier := distinctEarlier numbered more distinct
  refine ⟨?_,fun history old => ?_⟩
  · obtain ⟨history,_,placed⟩ := placementsRun (numberedReached sha256 []) (fun _ => storeSoundEmpty) placementsEmpty ops earlier
    exact ⟨history,placed⟩
  · exact placementsRun numbered (fun _ => (soundRun storeSoundEmpty ops earlier).1) old more distinct

section Traces

def lengthHash : Sha256 := fun bytes => .filled 32 (.ofNat bytes.length)

def firstChunk : ChunkKey := ⟨⟨3⟩,by decide,0⟩

def calls (n count : Nat) : List ChunkStoreOp := List.replicate count (.call n none 0)

-- A store over a fresh root.
def readyStore : List ChunkStoreOp := .initializeStore [] :: List.replicate 6 (.initCall 0 none)

-- A staging of the first chunk up to `finalize`.
def stageFirst (n : Nat) (token : BitVec 128) (bytes : List UInt8) : List ChunkStoreOp :=
  .beginStage 0 firstChunk 4 token :: calls n 13 ++ [.write n bytes none,.finalize n]

-- Two stagings of the same bytes, of which the second finds the file of the first.
def twice : List ChunkStoreOp := stageFirst 0 1 [7,8] ++ stageFirst 1 2 [7,8] ++ calls 0 4 ++ calls 1 7

theorem distinctOf {sha256 ops}
    (check : let s := ChunkStoreSystem.reached sha256 ops
      ∀ m < s.started, ∀ n < s.started, (s.runs m).map token = (s.runs n).map token → m = n) :
    (ChunkStoreSystem.reached sha256 ops).DistinctTokens := by
  intro m n first second here there same
  refine check m (numberedReached sha256 ops m first here) n (numberedReached sha256 ops n second there) ?_
  rw [here,there,Option.map_some,Option.map_some,same]

theorem finalFilesExactTwice :
    (let s := ChunkStoreSystem.reached lengthHash (readyStore ++ twice)
     (s.runs 0).map StagingRun.phase = some (.finalized .installed) ∧
       (s.runs 1).map StagingRun.phase = some (.finalized .destinationExists)) ∧
    FinalFileLaws lengthHash (ChunkStoreSystem.reached lengthHash readyStore)
      (ChunkStoreSystem.reached lengthHash (readyStore ++ twice)) :=
  ⟨by decide +kernel,(finalFilesExact lengthHash readyStore twice (distinctOf (by decide +kernel))).2⟩

theorem storeRefinesPlacementsTwice :
    (ChunkStoreSystem.reached lengthHash (readyStore ++ twice)).placement 0 = some (firstChunk,[7,8]) ∧
    (ChunkStoreSystem.reached lengthHash (readyStore ++ twice)).placement 1 = none ∧
    ∃ history, Placements (ChunkStoreSystem.reached lengthHash readyStore) history ∧
      ∃ later, later.length ≤ twice.length ∧
        Placements (ChunkStoreSystem.reached lengthHash (readyStore ++ twice)) (history ++ later) := by
  have refines := storeRefinesPlacements lengthHash readyStore twice (distinctOf (by decide +kernel))
  obtain ⟨history,placed⟩ := refines.1
  exact ⟨by decide +kernel,by decide +kernel,history,placed,refines.2 history placed⟩

-- The sync of the directory fails after `link`: `finalize` returns an error, and the file is final.
theorem failedPublished :
    let s := ChunkStoreSystem.reached lengthHash
      (readyStore ++ stageFirst 0 1 [7,8] ++ calls 0 2 ++ [.call 0 (some ⟨5⟩) 0,.call 0 none 0])
    (s.runs 0).map StagingRun.phase = some (.failed (.finalizationSync ⟨5⟩)) ∧
      (s.runs 0).map StagingRun.inode = some (s.fs.live.files firstChunk.finalPath) ∧
      s.fs.live.read firstChunk.finalPath = some [7,8] := by
  decide +kernel

end Traces
end Bamep
