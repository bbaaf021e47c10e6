import Mathlib.Data.List.Basic
import Mathlib.Logic.Function.Basic

/-! A tree of directories and regular files with hard links, as the calls of programs change it, and beside it what a
crash of the host keeps: the contents that were synced and the entries of directories synced after they were added. -/
namespace Posix

-- The components below the root, which is `[]` and always there.
abbrev Path := List String

structure Tree where
  dirs : Path → Bool
  files : Path → Option Nat
  content : Nat → List UInt8

namespace Tree
variable (t : Tree)

def empty : Tree := ⟨fun _ => false,fun _ => none,fun _ => []⟩

def isDir (path : Path) : Bool := path = [] || t.dirs path

def absent (path : Path) : Bool := !t.isDir path && (t.files path).isNone

def walks (path : Path) : Bool := (List.range path.length).all fun n => t.isDir (path.take n)

def read (path : Path) : Option (List UInt8) := if t.walks path then (t.files path).map t.content else none

end Tree

structure Filesystem where
  live : Tree
  kept : Tree
  next : Nat

inductive Call where
  | mkdir (path : Path)
  | create (path : Path)
  | append (inode : Nat) (bytes : List UInt8)
  | sync (inode : Nat)
  | syncDir (path : Path)
  | link (source target : Path)
  | unlink (path : Path)
  deriving DecidableEq, Repr

namespace Filesystem
variable (fs : Filesystem)

def empty : Filesystem := ⟨.empty,.empty,0⟩

def free (path : Path) : Bool := path ≠ [] && fs.live.isDir path.dropLast && fs.live.absent path

def syncEntries (path : Path) : Tree where
  dirs := fun q => if q ≠ [] ∧ q.dropLast = path then fs.live.dirs q else fs.kept.dirs q
  files := fun q => if q ≠ [] ∧ q.dropLast = path then fs.live.files q else fs.kept.files q
  content := fs.kept.content

def addDir (path : Path) : Filesystem :=
  { fs with live := { fs.live with dirs := Function.update fs.live.dirs path true } }

def setFile (path : Path) (entry : Option Nat) : Filesystem :=
  { fs with live := { fs.live with files := Function.update fs.live.files path entry } }

def setContent (inode : Nat) (bytes : List UInt8) : Filesystem :=
  { fs with live := { fs.live with content := Function.update fs.live.content inode bytes } }

def keepContent (inode : Nat) : Filesystem :=
  { fs with kept := { fs.kept with content := Function.update fs.kept.content inode (fs.live.content inode) } }

/- The effect of a call that succeeds; `none` is a failure, which changes nothing. -/
def perform : Call → Option Filesystem
  | .mkdir path => if fs.free path then some (fs.addDir path) else none
  | .create path =>
    if fs.free path then some { (fs.setFile path (some fs.next)).setContent fs.next [] with next := fs.next + 1 }
    else none
  | .append inode bytes => some (fs.setContent inode (fs.live.content inode ++ bytes))
  | .sync inode => some (fs.keepContent inode)
  | .syncDir path => if fs.live.isDir path then some { fs with kept := fs.syncEntries path } else none
  | .link source target =>
    match fs.live.files source with
    | none => none
    -- An existing target is never replaced.
    | some inode => if fs.free target then some (fs.setFile target (some inode)) else none
  | .unlink path => if (fs.live.files path).isSome then some (fs.setFile path none) else none

-- A call whose failure is ignored; `fails` is a failure of its own.
def attempt (call : Call) (fails : Bool) : Filesystem := if fails then fs else (fs.perform call).getD fs

end Filesystem

section Effects
variable {fs fs' : Filesystem} {call : Call}

theorem freeIff {path} (free : fs.free path = true) :
    path ≠ [] ∧ fs.live.dirs path = false ∧ fs.live.files path = none := by
  simp only [Filesystem.free,Tree.absent,Tree.isDir,Bool.and_eq_true,Bool.not_eq_true',Bool.or_eq_false_iff,
    decide_eq_true_eq,decide_eq_false_iff_not,Option.isNone_iff_eq_none] at free
  exact ⟨free.1.1,free.2.1.2,free.2.2⟩

theorem attemptCases (fs : Filesystem) (call : Call) (fails : Bool) :
    fs.attempt call fails = fs ∨ fs.perform call = some (fs.attempt call fails) := by
  unfold Filesystem.attempt
  cases fails with
  | true => exact .inl rfl
  | false =>
    cases result : fs.perform call with
    | none => exact .inl rfl
    | some fs' => exact .inr rfl

/- The calls that succeed, with what they found and what they leave. -/
inductive Performed (fs : Filesystem) : Call → Filesystem → Prop where
  | mkdir {path} (free : fs.free path = true) : Performed fs (.mkdir path) (fs.addDir path)
  | create {path} (free : fs.free path = true) : Performed fs (.create path)
      { (fs.setFile path (some fs.next)).setContent fs.next [] with next := fs.next + 1 }
  | append {inode bytes} : Performed fs (.append inode bytes) (fs.setContent inode (fs.live.content inode ++ bytes))
  | sync {inode} : Performed fs (.sync inode) (fs.keepContent inode)
  | syncDir {path} (there : fs.live.isDir path = true) :
      Performed fs (.syncDir path) { fs with kept := fs.syncEntries path }
  | link {source target inode} (found : fs.live.files source = some inode) (free : fs.free target = true) :
      Performed fs (.link source target) (fs.setFile target (some inode))
  | unlink {path inode} (found : fs.live.files path = some inode) :
      Performed fs (.unlink path) (fs.setFile path none)

theorem performed (done : fs.perform call = some fs') : Performed fs call fs' := by
  cases call with
  | mkdir path =>
    simp only [Filesystem.perform,Option.ite_none_right_eq_some,Option.some.injEq] at done
    exact done.2 ▸ .mkdir done.1
  | create path =>
    simp only [Filesystem.perform,Option.ite_none_right_eq_some,Option.some.injEq] at done
    exact done.2 ▸ .create done.1
  | append inode bytes => exact Option.some.inj done ▸ .append
  | sync inode => exact Option.some.inj done ▸ .sync
  | syncDir path =>
    simp only [Filesystem.perform,Option.ite_none_right_eq_some,Option.some.injEq] at done
    exact done.2 ▸ .syncDir done.1
  | link source target =>
    simp only [Filesystem.perform] at done
    split at done
    · cases done
    · rename_i found
      simp only [Option.ite_none_right_eq_some,Option.some.injEq] at done
      exact done.2 ▸ .link found done.1
  | unlink path =>
    simp only [Filesystem.perform,Option.ite_none_right_eq_some,Option.some.injEq] at done
    obtain ⟨inode,found⟩ := Option.isSome_iff_exists.mp done.1
    exact done.2 ▸ .unlink found

theorem setFileOf {path other} (entry : Option Nat) (apart : path ≠ other) :
    (fs.setFile other entry).live.files path = fs.live.files path := Function.update_of_ne apart _ _

@[simp] theorem setFileHere (path : Path) (entry : Option Nat) : (fs.setFile path entry).live.files path = entry :=
  Function.update_self _ _ _

theorem freeApart {path other inode} (found : fs.live.files path = some inode)
    (free : fs.free other = true) : path ≠ other := by
  rintro rfl
  rw [(freeIff free).2.2] at found
  cases found

theorem filesStay (done : fs.perform call = some fs') {path inode}
    (found : fs.live.files path = some inode) (unlinked : call ≠ .unlink path) :
    fs'.live.files path = some inode := by
  cases performed done with
  | mkdir | append | sync | syncDir => exact found
  | create free => exact (setFileOf _ (freeApart found free)).trans found
  | link _ free => exact (setFileOf _ (freeApart found free)).trans found
  | unlink => exact (setFileOf _ fun same => unlinked (by rw [same])).trans found

theorem filesOrigin (done : fs.perform call = some fs') {path inode}
    (found : fs'.live.files path = some inode) :
    fs.live.files path = some inode ∨ (call = .create path ∧ inode = fs.next) ∨
      ∃ source, call = .link source path ∧ fs.live.files source = some inode := by
  have update : ∀ {other entry}, (fs.setFile other entry).live.files path = some inode →
      fs.live.files path = some inode ∨ (path = other ∧ entry = some inode) := by
    intro other entry here
    by_cases same : path = other
    · subst same
      exact .inr ⟨rfl,(setFileHere path entry).symm.trans here⟩
    · exact .inl ((setFileOf _ same).symm.trans here)
  cases performed done with
  | mkdir | append | sync | syncDir => exact .inl found
  | create free =>
    rcases update found with old | ⟨rfl,new⟩
    · exact .inl old
    · exact .inr (.inl ⟨rfl,(Option.some.inj new).symm⟩)
  | link present free =>
    rcases update found with old | ⟨rfl,new⟩
    · exact .inl old
    · exact .inr (.inr ⟨_,rfl,new ▸ present⟩)
  | unlink =>
    rcases update found with old | ⟨_,new⟩
    · exact .inl old
    · cases new

theorem contentStays (done : fs.perform call = some fs') {inode} (old : inode < fs.next)
    (unwritten : ∀ bytes, call ≠ .append inode bytes) : fs'.live.content inode = fs.live.content inode := by
  cases performed done with
  | mkdir | sync | syncDir | link | unlink => rfl
  | create => exact Function.update_of_ne (by omega) _ _
  | append => exact Function.update_of_ne (fun same => unwritten _ (by rw [same])) _ _

theorem nextGrows (done : fs.perform call = some fs') : fs.next ≤ fs'.next := by
  cases performed done with
  | mkdir | append | sync | syncDir | link | unlink => exact Nat.le_refl _
  | create => exact Nat.le_succ _

theorem dirsStay (done : fs.perform call = some fs') {path} (there : fs.live.dirs path = true) :
    fs'.live.dirs path = true := by
  cases performed done with
  | create | append | sync | syncDir | link | unlink => exact there
  | @mkdir other free =>
    by_cases same : path = other
    · subst same
      exact Function.update_self _ _ _
    · exact (Function.update_of_ne same _ _).trans there

end Effects

/- What was kept stays kept while the live tree still has it. -/
section Kept
variable {fs fs' : Filesystem} {call : Call}

theorem keptDirsStay (done : fs.perform call = some fs') {path} (there : fs.live.dirs path = true)
    (kept : fs.kept.dirs path = true) : fs'.kept.dirs path = true := by
  cases performed done with
  | mkdir | create | append | sync | link | unlink => exact kept
  | syncDir =>
    simp only [Filesystem.syncEntries]
    split
    · exact there
    · exact kept

theorem keptFilesStay (done : fs.perform call = some fs') {path inode}
    (found : fs.live.files path = some inode) (kept : fs.kept.files path = some inode) :
    fs'.kept.files path = some inode := by
  cases performed done with
  | mkdir | create | append | sync | link | unlink => exact kept
  | syncDir =>
    simp only [Filesystem.syncEntries]
    split
    · exact found
    · exact kept

theorem keptContentStays (done : fs.perform call = some fs') {inode}
    (kept : fs.kept.content inode = fs.live.content inode) :
    fs'.kept.content inode = fs.live.content inode := by
  cases performed done with
  | mkdir | create | append | syncDir | link | unlink => exact kept
  | @sync other =>
    by_cases same : inode = other
    · subst same
      exact Function.update_self _ _ _
    · exact (Function.update_of_ne same _ _).trans kept

end Kept
end Posix
