import Bamep.Domain.Transfer

/-! Expected chunks recorded one after another. What a manifest holds afterwards depends on the entries and not on
their order, and an entry that contradicts a recorded chunk changes nothing wherever it stands. -/
namespace Bamep

structure ChunkEntry where
  index : Nat
  size : Nat
  digestBytes : List UInt8
  deriving DecidableEq, Repr

def ChunkEntry.expected (entry : ChunkEntry) (algorithm : DigestAlgorithm) : Option ExpectedChunk :=
  (Digest.new algorithm entry.digestBytes).map fun digest => ⟨entry.index,entry.size,digest⟩

-- The manifest a caller goes on with: `AlreadyRecorded` and every rejection leave it as it is.
def ChunkManifest.record (manifest : ChunkManifest) (entry : ChunkEntry) : ChunkManifest :=
  match manifest.recordExpectedChunk entry.index entry.size entry.digestBytes with
  | .ok (.added next) => next
  | _ => manifest

def ChunkManifest.recordAll (manifest : ChunkManifest) (entries : List ChunkEntry) : ChunkManifest :=
  entries.foldl ChunkManifest.record manifest

def Consistent (entries : List ChunkEntry) : Prop :=
  ∀ a ∈ entries, ∀ b ∈ entries, a.index = b.index → a = b

theorem ChunkManifest.ext {a b : ChunkManifest} (frame : a = { b with chunks := a.chunks })
    (chunks : ∀ i : Nat, a.chunks[i]? = b.chunks[i]?) : a = b := by
  have same : a.chunks = b.chunks := Std.ExtTreeMap.ext_getElem? chunks
  rw [same] at frame
  exact frame

section Recording
variable {manifest : ChunkManifest} {entry : ChunkEntry}

theorem recordFrame : manifest.record entry = { manifest with chunks := (manifest.record entry).chunks } := by
  unfold ChunkManifest.record
  split
  · rename_i added
    obtain ⟨_,_,_,_,same⟩ := recordAdded added
    rw [same]
  · rfl

theorem recordChunks (i : Nat) : (manifest.record entry).chunks[i]? =
    if i = entry.index then
      manifest.chunks[i]?.or (if manifest.sealed then none else entry.expected manifest.digestAlgorithm)
    else manifest.chunks[i]? := by
  unfold ChunkManifest.record ChunkManifest.recordExpectedChunk ChunkEntry.expected
  cases built : Digest.new manifest.digestAlgorithm entry.digestBytes with
  | none => simp
  | some digest =>
    cases found : manifest.chunks[entry.index]? with
    | some existing =>
      by_cases same : existing.size = entry.size ∧ existing.digest = digest
      all_goals
        by_cases here : i = entry.index
        · simp [same,here,found]
        · simp [same,here]
    | none =>
      cases sealed : manifest.sealed with
      | true =>
        by_cases here : i = entry.index
        · simp [here,found]
        · simp [here]
      | false =>
        by_cases here : i = entry.index
        · simp [here,found]
        · simp [here,Std.ExtTreeMap.getElem?_insert,Ne.symm here]

theorem recordCommutes {other : ChunkEntry} (agree : entry.index = other.index → entry = other) :
    (manifest.record entry).record other = (manifest.record other).record entry := by
  by_cases same : entry.index = other.index
  · rw [agree same]
  have left : (manifest.record entry).record other =
      { manifest with chunks := ((manifest.record entry).record other).chunks } := by
    rw [recordFrame,recordFrame]
  have right : (manifest.record other).record entry =
      { manifest with chunks := ((manifest.record other).record entry).chunks } := by
    rw [recordFrame,recordFrame]
  refine ChunkManifest.ext (by rw [left,right]) fun i => ?_
  have sealed : ∀ e, (manifest.record e).sealed = manifest.sealed := by
    intro e
    rw [recordFrame]
  have algorithm : ∀ e, (manifest.record e).digestAlgorithm = manifest.digestAlgorithm := by
    intro e
    rw [recordFrame]
  simp only [recordChunks,sealed,algorithm]
  by_cases first : i = entry.index
  · simp [first,same]
  · simp [first]

theorem recordKeeps {i : Nat} {existing} (found : manifest.chunks[i]? = some existing) :
    (manifest.record entry).chunks[i]? = some existing := by
  rw [recordChunks,found]
  simp

theorem recordAllKeeps {i : Nat} {existing} (found : manifest.chunks[i]? = some existing)
    (entries : List ChunkEntry) : (manifest.recordAll entries).chunks[i]? = some existing := by
  induction entries generalizing manifest with
  | nil => exact found
  | cons entry rest ih => exact ih (recordKeeps found)

theorem recordConflict {existing} (found : manifest.chunks[entry.index]? = some existing)
    (conflicts : ¬(existing.size = entry.size ∧ existing.digest.bytes = entry.digestBytes)) :
    (∃ error, manifest.recordExpectedChunk entry.index entry.size entry.digestBytes = .error error) ∧
      manifest.record entry = manifest := by
  have rejected : ∃ error, manifest.recordExpectedChunk entry.index entry.size entry.digestBytes = .error error := by
    unfold ChunkManifest.recordExpectedChunk
    cases built : Digest.new manifest.digestAlgorithm entry.digestBytes with
    | none => exact ⟨_,rfl⟩
    | some digest =>
      refine ⟨.conflict entry.index,?_⟩
      have differs : ¬(existing.size = entry.size ∧ existing.digest = digest) := by
        intro both
        exact conflicts ⟨both.1,by rw [both.2,digestNewSome built]⟩
      simp [found,differs]
  refine ⟨rejected,?_⟩
  obtain ⟨error,same⟩ := rejected
  simp [ChunkManifest.record,same]

theorem recordAllPerm {entries entries'} (perm : entries.Perm entries')
    (consistent : Consistent entries) : manifest.recordAll entries = manifest.recordAll entries' :=
  perm.foldl_eq' (fun a left b right _ => recordCommutes (fun same => consistent a left b right same)) manifest

end Recording

/- Entries that agree give one manifest in every order, and recorded chunks stay as they are: an entry that gives
another value to a recorded index is rejected wherever it stands. -/
structure RecordingLaws (manifest : ChunkManifest) : Prop where
  ordered : ∀ entries entries', entries.Perm entries' → Consistent entries →
    manifest.recordAll entries = manifest.recordAll entries'
  kept : ∀ entries (i : Nat) existing, manifest.chunks[i]? = some existing →
    (manifest.recordAll entries).chunks[i]? = some existing
  rejected : ∀ before entry after existing, (manifest.recordAll before).chunks[entry.index]? = some existing →
    ¬(existing.size = entry.size ∧ existing.digest.bytes = entry.digestBytes) →
      (∃ error, (manifest.recordAll before).recordExpectedChunk entry.index entry.size entry.digestBytes =
        .error error) ∧
      manifest.recordAll (before ++ entry :: after) = manifest.recordAll (before ++ after)

theorem recordingLaws (manifest : ChunkManifest) : RecordingLaws manifest := by
  refine ⟨fun _ _ perm consistent => recordAllPerm perm consistent,
    fun entries _ _ found => recordAllKeeps found entries,fun before entry after existing found conflicts => ?_⟩
  obtain ⟨rejected,unchanged⟩ := recordConflict found conflicts
  refine ⟨rejected,?_⟩
  unfold ChunkManifest.recordAll at unchanged ⊢
  simp only [List.foldl_append,List.foldl_cons]
  rw [unchanged]

end Bamep
