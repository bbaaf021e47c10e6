import Bamep.Worker.Storage

/-! The full-Artifact reread: final files in index order, streamed through one hash. Sizes are `u64`
with checked additions. -/
namespace Bamep

structure FullArtifactRequest where
  transferId : TransferId
  chunkCount : Nat
  chunkSize : Nat
  deriving DecidableEq, Repr

structure FullArtifactDigest where
  transferId : TransferId
  chunkCount : Nat
  totalSize : Nat
  digest : Bytes 32
  deriving DecidableEq, Repr

inductive FullArtifactError where
  | requiredChunkMissing (transferId : TransferId) (chunkIndex : Nat)
  | requiredChunkUnreadable (transferId : TransferId) (chunkIndex : Nat) (source : StorageError)
  | chunkReadFailed (transferId : TransferId) (chunkIndex : Nat) (source : IoError)
  | chunkExceedsChunkSize (transferId : TransferId) (chunkIndex : Nat) (chunkSize : Nat)
  | nonFinalChunkTooShort (transferId : TransferId) (chunkIndex : Nat) (chunkSize observed : Nat)
  | finalChunkEmpty (transferId : TransferId) (chunkIndex : Nat)
  | totalSizeOverflow (transferId : TransferId)
  deriving DecidableEq, Repr

/- The loop state: what was hashed, its length, and the length of the current chunk. -/
structure Hashing where
  hashed : List UInt8
  totalSize : Nat
  chunkBytes : Nat
  deriving DecidableEq, Repr

def hashReads (request : FullArtifactRequest) (chunkIndex : Nat) :
    List (Except IoError (List UInt8)) → Hashing → Except FullArtifactError Hashing
  | [],state => .ok state
  | .error source :: _,_ => .error (.chunkReadFailed request.transferId chunkIndex source)
  | .ok read :: rest,state =>
    if read.length = 0 then .ok state
    else
      let chunkBytes := state.chunkBytes + read.length
      if UInt64.size ≤ chunkBytes then .error (.totalSizeOverflow request.transferId)
      else if request.chunkSize < chunkBytes then
        .error (.chunkExceedsChunkSize request.transferId chunkIndex request.chunkSize)
      else if UInt64.size ≤ state.totalSize + read.length then .error (.totalSizeOverflow request.transferId)
      else hashReads request chunkIndex rest
        ⟨state.hashed ++ read,state.totalSize + read.length,chunkBytes⟩

def hashOneChunk (openFinal : OpenFinal) (request : FullArtifactRequest) (chunkIndex : Nat)
    (hashed : List UInt8) (totalSize : Nat) : Except FullArtifactError Hashing :=
  match openFinal request.transferId chunkIndex with
  | .error (.finalizedChunkNotFound ..) => .error (.requiredChunkMissing request.transferId chunkIndex)
  | .error source => .error (.requiredChunkUnreadable request.transferId chunkIndex source)
  | .ok reader => hashReads request chunkIndex reader.reads ⟨hashed,totalSize,0⟩

def computeChunks (openFinal : OpenFinal) (request : FullArtifactRequest) :
    List Nat → List UInt8 → Nat → Except FullArtifactError (List UInt8 × Nat)
  | [],hashed,totalSize => .ok (hashed,totalSize)
  | chunkIndex :: rest,hashed,totalSize =>
    match hashOneChunk openFinal request chunkIndex hashed totalSize with
    | .error e => .error e
    | .ok state =>
      if chunkIndex = request.chunkCount - 1 then
        if state.chunkBytes = 0 then .error (.finalChunkEmpty request.transferId chunkIndex)
        else computeChunks openFinal request rest state.hashed state.totalSize
      else if state.chunkBytes ≠ request.chunkSize then
        .error (.nonFinalChunkTooShort request.transferId chunkIndex request.chunkSize state.chunkBytes)
      else computeChunks openFinal request rest state.hashed state.totalSize

-- `FullArtifactHasher::compute`.
def FullArtifactRequest.compute (sha256 : Sha256) (openFinal : OpenFinal) (request : FullArtifactRequest) :
    Except FullArtifactError FullArtifactDigest :=
  match computeChunks openFinal request (List.range request.chunkCount) [] 0 with
  | .error e => .error e
  | .ok (hashed,totalSize) => .ok ⟨request.transferId,request.chunkCount,totalSize,sha256 hashed⟩

section Reading
variable {request : FullArtifactRequest} {openFinal : OpenFinal}

/- A reader that delivers its content: within the bounds the loop absorbs all of it, however it is split. -/
theorem hashReadsDelivered {chunkIndex} {pieces : List (List UInt8)} (delivered : ∀ piece ∈ pieces, piece ≠ [])
    {state} (fits : request.chunkSize < UInt64.size)
    (bounded : state.chunkBytes + pieces.flatten.length ≤ request.chunkSize)
    (total : state.totalSize + pieces.flatten.length < UInt64.size) :
    hashReads request chunkIndex (pieces.map .ok) state = .ok ⟨state.hashed ++ pieces.flatten,
      state.totalSize + pieces.flatten.length,state.chunkBytes + pieces.flatten.length⟩ := by
  induction pieces generalizing state with
  | nil => simp [hashReads]
  | cons piece pieces ih =>
    rw [List.flatten_cons,List.length_append] at bounded total
    have some_ : piece.length ≠ 0 := fun none_ =>
      delivered piece List.mem_cons_self (List.length_eq_zero_iff.mp none_)
    rw [List.map_cons,hashReads,if_neg some_]
    simp only
    rw [if_neg (by omega),if_neg (by omega),if_neg (by omega),
      ih (fun x mem => delivered x (List.mem_cons_of_mem _ mem)) (by dsimp only; omega) (by dsimp only; omega)]
    simp only [List.flatten_cons,List.append_assoc,List.length_append,Nat.add_assoc]

theorem hashOneChunkDelivered {chunkIndex reader} {content hashed : List UInt8}
    {totalSize} (opened : openFinal request.transferId chunkIndex = .ok reader)
    (delivers : reader.Delivers content) (fits : request.chunkSize < UInt64.size)
    (bounded : content.length ≤ request.chunkSize) (total : totalSize + content.length < UInt64.size) :
    hashOneChunk openFinal request chunkIndex hashed totalSize =
      .ok ⟨hashed ++ content,totalSize + content.length,content.length⟩ := by
  obtain ⟨pieces,reads,delivered,rfl⟩ := delivers
  unfold hashOneChunk
  rw [opened]
  simp only
  rw [reads,hashReadsDelivered delivered fits (by dsimp only; omega) total]
  simp only [Nat.zero_add]

/- The indices of `rest` are read to the end if and only if each is full, or is the last of the Artifact. -/
theorem computeChunksDelivered {contents rest}
    (files : ∀ i ∈ rest, ∃ reader, openFinal request.transferId i = .ok reader ∧ reader.Delivers (contents i))
    (fits : request.chunkSize < UInt64.size) (bounded : ∀ i ∈ rest, (contents i).length ≤ request.chunkSize)
    (nonempty : ∀ i ∈ rest, 0 < (contents i).length)
    {hashed totalSize} (total : totalSize + rest.length * request.chunkSize < UInt64.size) {out} :
    computeChunks openFinal request rest hashed totalSize = .ok out ↔
      out = (hashed ++ rest.flatMap contents,totalSize + (rest.map fun i => (contents i).length).sum) ∧
      ∀ i ∈ rest, i ≠ request.chunkCount - 1 → (contents i).length = request.chunkSize := by
  induction rest generalizing hashed totalSize with
  | nil => simp [computeChunks,eq_comm]
  | cons i rest ih =>
    obtain ⟨reader,opened,delivers⟩ := files i List.mem_cons_self
    have small := bounded i List.mem_cons_self
    rw [List.length_cons,Nat.add_mul] at total
    have later := @ih (fun j mem => files j (List.mem_cons_of_mem _ mem))
      (fun j mem => bounded j (List.mem_cons_of_mem _ mem)) (fun j mem => nonempty j (List.mem_cons_of_mem _ mem))
      (hashed ++ contents i) (totalSize + (contents i).length) (by omega)
    rw [List.append_assoc,Nat.add_assoc,← List.flatMap_cons,← List.sum_cons,
      ← List.map_cons (f := fun i => (contents i).length)] at later
    rw [computeChunks,hashOneChunkDelivered opened delivers fits small (by omega),List.forall_mem_cons]
    simp only
    by_cases last : i = request.chunkCount - 1
    · rw [if_pos last,if_neg (Nat.ne_of_gt (nonempty i List.mem_cons_self)),later,
        and_iff_right fun inner => absurd last inner]
    · rw [if_neg last]
      by_cases full : (contents i).length = request.chunkSize
      · rw [if_neg (not_not.mpr full),later,and_iff_right fun _ => full]
      · rw [if_pos full]
        exact ⟨nofun,fun facts => absurd (facts.2.1 last) full⟩

theorem hashReadsPieces {chunkIndex} {pieces : List (List UInt8)} (nonempty : ∀ piece ∈ pieces, piece ≠ [])
    {tail state out}
    (ok : hashReads request chunkIndex (pieces.map .ok ++ tail) state = .ok out) :
    ∃ mid, mid.hashed = state.hashed ++ pieces.flatten ∧ hashReads request chunkIndex tail mid = .ok out := by
  induction pieces generalizing state with
  | nil => exact ⟨state,by simp,ok⟩
  | cons piece pieces ih =>
    have some_ : ¬piece.length = 0 := fun none_ =>
      nonempty piece List.mem_cons_self (List.length_eq_zero_iff.mp none_)
    rw [List.map_cons,List.cons_append,hashReads,if_neg some_] at ok
    simp only at ok
    split at ok
    · contradiction
    split at ok
    · contradiction
    split at ok
    · contradiction
    obtain ⟨mid,hashed,rest⟩ := ih (fun x mem => nonempty x (List.mem_cons_of_mem _ mem)) ok
    exact ⟨mid,by rw [hashed,List.flatten_cons,List.append_assoc],rest⟩

theorem hashOneChunkReads {files : ChunkFiles} {plan : ReadPlan} {chunkIndex totalSize hashed out}
    (ok : hashOneChunk (files.openFinal plan) request chunkIndex hashed totalSize = .ok out) :
    ∃ content, files request.transferId chunkIndex = some content ∧ out.hashed = hashed ++ content := by
  unfold hashOneChunk at ok
  split at ok
  · contradiction
  · contradiction
  rename_i reader opened
  obtain ⟨content,found,reads⟩ := openFinalReads opened
  refine ⟨content,found,?_⟩
  rcases reads with ⟨pieces,same,nonempty,rfl⟩ | ⟨pieces,source,same,nonempty⟩
  · rw [same,← List.append_nil (pieces.map _)] at ok
    obtain ⟨mid,hashed,rest⟩ := hashReadsPieces nonempty ok
    cases rest
    exact hashed
  · rw [same] at ok
    obtain ⟨mid,_,rest⟩ := hashReadsPieces nonempty ok
    contradiction

/- One turn of the loop over final files appends the file of its index to what was hashed. -/
theorem computeChunksReads {files : ChunkFiles} {plan chunkIndex totalSize total hashed out}
    (ok : computeChunks (files.openFinal plan) request [chunkIndex] hashed totalSize = .ok (out,total)) :
    ∃ content, files request.transferId chunkIndex = some content ∧ out = hashed ++ content := by
  unfold computeChunks at ok
  split at ok
  · contradiction
  rename_i state read
  obtain ⟨content,found,appended⟩ := hashOneChunkReads read
  refine ⟨content,found,?_⟩
  rw [← appended]
  split at ok <;> split at ok
  · contradiction
  · cases ok; rfl
  · contradiction
  · cases ok; rfl

end Reading
end Bamep
