import Bamep.Domain.Wire

/-! The Worker's chunk storage as its callers see it. SHA-256 is a fixed function; a running hash is the
list of bytes it has absorbed. -/
namespace Bamep

abbrev Sha256 := List UInt8 → Bytes 32

def Sha256Digest.toBase64urlNoPad (digest : Bytes 32) : String := Base64Url.encode digest.val

structure IoError where
  kind : Nat
  deriving DecidableEq, Repr

inductive StorageError where
  | unsafeDirectory
  | oversize (max : Nat)
  | emptyChunk
  | finalizedChunkConflict (transferId : TransferId) (chunkIndex : Nat)
  | finalizedChunkNotFound (transferId : TransferId) (chunkIndex : Nat)
  | finalizedChunkNotRegular (transferId : TransferId) (chunkIndex : Nat)
  | io (source : IoError)
  | finalizationSync (source : IoError)
  deriving DecidableEq, Repr

/- What the successive `read` calls on an open file return; after the last of them it is at its end. -/
structure StoredChunkReader where
  reads : List (Except IoError (List UInt8))

-- Every read before the end returns some bytes, however many, and together they are the content.
def StoredChunkReader.Delivers (reader : StoredChunkReader) (content : List UInt8) : Prop :=
  ∃ pieces : List (List UInt8), reader.reads = pieces.map .ok ∧ (∀ piece ∈ pieces, piece ≠ []) ∧
    pieces.flatten = content

abbrev OpenFinal := TransferId → Nat → Except StorageError StoredChunkReader

-- The final files, by Transfer and index; the Worker never removes or rewrites one.
abbrev ChunkFiles := TransferId → Nat → Option (List UInt8)

/- How the file system answers one `open` and the reads after it: a refusal, the lengths of the reads
less one, and an error in place of a later read. -/
structure ReadPlan where
  refused : Option StorageError
  lengths : List Nat
  fails : Option (Nat × IoError)
  deriving DecidableEq, Repr

def ReadPlan.pieces : List Nat → List UInt8 → List (List UInt8)
  | _,[] => []
  | [],content => [content]
  | length :: rest,content => content.take (length + 1) :: pieces rest (content.drop (length + 1))

def ReadPlan.reader (plan : ReadPlan) (content : List UInt8) : StoredChunkReader :=
  match plan.fails with
  | none => ⟨(pieces plan.lengths content).map .ok⟩
  | some (read,source) => ⟨((pieces plan.lengths content).take read).map .ok ++ [.error source]⟩

def ChunkFiles.openFinal (files : ChunkFiles) (plan : ReadPlan) : OpenFinal := fun transferId chunkIndex =>
  match files transferId chunkIndex with
  | none => .error (.finalizedChunkNotFound transferId chunkIndex)
  | some content =>
    match plan.refused with
    | some refusal => .error refusal
    | none => .ok (plan.reader content)

structure StoredChunkFacts where
  size : Nat
  digest : Bytes 32
  deriving DecidableEq, Repr

-- `scanned` is what was read so far.
def scanSizeAndDigest (sha256 : Sha256) :
    List (Except IoError (List UInt8)) → List UInt8 → Except IoError StoredChunkFacts
  | [],scanned => .ok ⟨scanned.length,sha256 scanned⟩
  | .error source :: _,_ => .error source
  | .ok read :: rest,scanned =>
    if read.length = 0 then .ok ⟨scanned.length,sha256 scanned⟩ else scanSizeAndDigest sha256 rest (scanned ++ read)

inductive Placement where
  | installed | destinationExists
  deriving DecidableEq, Repr

-- `link` is the error of `link(2)` other than `EEXIST`, if any.
def ChunkFiles.placeNoReplace (files : ChunkFiles) (transferId : TransferId) (chunkIndex : Nat)
    (content : List UInt8) (link : Option IoError) : ChunkFiles × Except StorageError Placement :=
  match link with
  | some source => (files,.error (.finalizationSync source))
  | none =>
    match files transferId chunkIndex with
    | some _ => (files,.ok .destinationExists)
    | none => (fun t i => if t = transferId ∧ i = chunkIndex then some content else files t i,.ok .installed)

-- `written` is the staged bytes; the running hash and count are functions of it.
structure StagingChunk where
  transferId : TransferId
  chunkIndex : Nat
  written : List UInt8
  maxSize : Nat
  poisoned : Bool
  deriving DecidableEq, Repr

structure FinalizedChunk where
  transferId : TransferId
  chunkIndex : Nat
  size : Nat
  digest : Bytes 32
  disposition : Placement
  deriving DecidableEq, Repr

/- The file system's answers during one `finalize`. -/
structure FinalizeIo where
  sync : Option IoError
  link : Option IoError
  syncDir : Option IoError
  inspect : ReadPlan
  deriving DecidableEq, Repr

namespace StagingChunk
variable (staging : StagingChunk)

def stagedLen : Nat := staging.written.length

def digest (sha256 : Sha256) : Bytes 32 := sha256 staging.written

-- `io` is the error of `write_all`, if any.
def write (buf : List UInt8) (io : Option IoError) : StagingChunk × Except StorageError Unit :=
  if staging.poisoned then (staging,.error (.oversize staging.maxSize))
  else if buf = [] then (staging,.ok ())
  else if staging.maxSize < staging.stagedLen + buf.length then
    ({ staging with poisoned := true },.error (.oversize staging.maxSize))
  else match io with
    | some source => ({ staging with poisoned := true },.error (.io source))
    | none => ({ staging with written := staging.written ++ buf },.ok ())

def existingFinalFacts (sha256 : Sha256) (files : ChunkFiles) (plan : ReadPlan) :
    Except StorageError StoredChunkFacts :=
  match files.openFinal plan staging.transferId staging.chunkIndex with
  | .error e => .error e
  | .ok reader =>
    match scanSizeAndDigest sha256 reader.reads [] with
    | .error source => .error (.io source)
    | .ok facts => .ok facts

-- An installed file stays when the directory cannot be synced.
def finalize (sha256 : Sha256) (files : ChunkFiles) (io : FinalizeIo) :
    ChunkFiles × Except StorageError FinalizedChunk :=
  if staging.poisoned then (files,.error (.oversize staging.maxSize))
  else if staging.stagedLen = 0 then (files,.error .emptyChunk)
  else
    let finalized := fun disposition : Placement =>
      (⟨staging.transferId,staging.chunkIndex,staging.stagedLen,staging.digest sha256,disposition⟩ : FinalizedChunk)
    match io.sync with
    | some source => (files,.error (.finalizationSync source))
    | none =>
      match files.placeNoReplace staging.transferId staging.chunkIndex staging.written io.link with
      | (files',.error e) => (files',.error e)
      | (files',.ok .installed) =>
        match io.syncDir with
        | some source => (files',.error (.finalizationSync source))
        | none => (files',.ok (finalized .installed))
      | (files',.ok .destinationExists) =>
        match staging.existingFinalFacts sha256 files' io.inspect with
        | .error e => (files',.error e)
        | .ok existing =>
          if existing.size = staging.stagedLen ∧ existing.digest = staging.digest sha256 then
            (files',.ok (finalized .destinationExists))
          else (files',.error (.finalizedChunkConflict staging.transferId staging.chunkIndex))

end StagingChunk

def ChunkFiles.Keeps (files files' : ChunkFiles) : Prop :=
  ∀ transferId chunkIndex content, files transferId chunkIndex = some content →
    files' transferId chunkIndex = some content

section Files
variable {sha256 : Sha256} {files : ChunkFiles}

theorem ReadPlan.piecesDeliver (lengths : List Nat) (content : List UInt8) :
    (∀ piece ∈ pieces lengths content, piece ≠ []) ∧ (pieces lengths content).flatten = content := by
  induction lengths,content using ReadPlan.pieces.induct with
  | case1 => simp [pieces]
  | case2 content => simp_all [pieces]
  | case3 length rest content some_ ih =>
    rw [pieces.eq_3 _ _ _ some_,List.flatten_cons,ih.2,List.take_append_drop]
    refine ⟨fun piece mem => ?_,rfl⟩
    rcases List.mem_cons.mp mem with rfl | inside
    · simpa using some_
    · exact ih.1 piece inside

/- A reader over `content` delivers it, or fails part way. -/
def StoredChunkReader.Reads (reader : StoredChunkReader) (content : List UInt8) : Prop :=
  reader.Delivers content ∨ ∃ (pieces : List (List UInt8)) (source : IoError),
    reader.reads = pieces.map .ok ++ [.error source] ∧ ∀ piece ∈ pieces, piece ≠ []

theorem openFinalReads {plan transferId chunkIndex reader}
    (opened : files.openFinal plan transferId chunkIndex = .ok reader) :
    ∃ content, files transferId chunkIndex = some content ∧ reader.Reads content := by
  unfold ChunkFiles.openFinal at opened
  split at opened
  · contradiction
  rename_i content found
  split at opened
  · contradiction
  cases opened
  obtain ⟨nonempty,whole⟩ := ReadPlan.piecesDeliver plan.lengths content
  refine ⟨content,found,?_⟩
  unfold ReadPlan.reader
  split
  · exact .inl ⟨_,rfl,nonempty,whole⟩
  · exact .inr ⟨_,_,rfl,fun piece mem => nonempty piece (List.mem_of_mem_take mem)⟩

theorem scanPieces {pieces : List (List UInt8)} (nonempty : ∀ piece ∈ pieces, piece ≠ [])
    (tail : List (Except IoError (List UInt8))) (scanned : List UInt8) :
    scanSizeAndDigest sha256 (pieces.map .ok ++ tail) scanned =
      scanSizeAndDigest sha256 tail (scanned ++ pieces.flatten) := by
  induction pieces generalizing scanned with
  | nil => simp
  | cons piece pieces ih =>
    have some_ : ¬piece.length = 0 := fun none_ =>
      nonempty piece List.mem_cons_self (List.length_eq_zero_iff.mp none_)
    rw [List.map_cons,List.cons_append,scanSizeAndDigest,if_neg some_,
      ih (fun x mem => nonempty x (List.mem_cons_of_mem _ mem)),List.flatten_cons,List.append_assoc]

theorem scanReads {reader : StoredChunkReader} {content facts}
    (reads : reader.Reads content) (ok : scanSizeAndDigest sha256 reader.reads [] = .ok facts) :
    facts = ⟨content.length,sha256 content⟩ := by
  rcases reads with ⟨pieces,same,nonempty,rfl⟩ | ⟨pieces,source,same,nonempty⟩
  · rw [same,← List.append_nil (pieces.map _),scanPieces nonempty,scanSizeAndDigest,List.nil_append] at ok
    exact (Except.ok.inj ok).symm
  · rw [same,scanPieces nonempty,scanSizeAndDigest] at ok
    contradiction

variable {staging : StagingChunk} {io : FinalizeIo}

theorem existingFinalFactsOk {plan : ReadPlan} {facts}
    (ok : staging.existingFinalFacts sha256 files plan = .ok facts) :
    ∃ content, files staging.transferId staging.chunkIndex = some content ∧
      facts = ⟨content.length,sha256 content⟩ := by
  unfold StagingChunk.existingFinalFacts at ok
  split at ok
  · contradiction
  rename_i reader opened
  obtain ⟨content,found,reads⟩ := openFinalReads opened
  split at ok
  · contradiction
  rename_i scanned
  cases ok
  exact ⟨content,found,scanReads reads scanned⟩

theorem placeKeeps (transferId : TransferId) (chunkIndex : Nat) (content : List UInt8) (link : Option IoError) :
    files.Keeps (files.placeNoReplace transferId chunkIndex content link).1 := by
  unfold ChunkFiles.placeNoReplace
  split
  · exact fun _ _ _ found => found
  split
  · exact fun _ _ _ found => found
  rename_i absent
  intro t i old found
  refine (if_neg ?_).trans found
  rintro ⟨rfl,rfl⟩
  rw [absent] at found
  contradiction

theorem placeInstalled {transferId chunkIndex content link files'}
    (ok : files.placeNoReplace transferId chunkIndex content link = (files',.ok .installed)) :
    files' transferId chunkIndex = some content := by
  unfold ChunkFiles.placeNoReplace at ok
  split at ok
  · cases ok
  split at ok
  · cases ok
  cases ok
  exact if_pos ⟨rfl,rfl⟩

theorem finalizeKeeps : files.Keeps (staging.finalize sha256 files io).1 := by
  have same : files.Keeps files := fun _ _ _ found => found
  have placed := @placeKeeps files staging.transferId staging.chunkIndex staging.written io.link
  unfold StagingChunk.finalize
  split
  · exact same
  split
  · exact same
  simp only
  split
  · exact same
  split <;> rename_i result <;> rw [result] at placed
  · exact placed
  · split <;> exact placed
  · split
    · exact placed
    · split <;> exact placed

-- Installed or already there, the final file has the staged length and digest.
theorem finalizeFiled {files' chunk}
    (ok : staging.finalize sha256 files io = (files',.ok chunk)) :
    ∃ content, files' staging.transferId staging.chunkIndex = some content ∧
      content.length = staging.stagedLen ∧ sha256 content = staging.digest sha256 := by
  unfold StagingChunk.finalize at ok
  split at ok
  · cases ok
  split at ok
  · cases ok
  simp only at ok
  split at ok
  · cases ok
  split at ok
  · cases ok
  · rename_i installed
    split at ok
    · cases ok
    cases ok
    exact ⟨staging.written,placeInstalled installed,rfl,rfl⟩
  · split at ok
    · cases ok
    rename_i existing inspected
    split at ok
    · rename_i matching
      cases ok
      obtain ⟨content,found,rfl⟩ := existingFinalFactsOk inspected
      exact ⟨content,found,matching⟩
    · cases ok

end Files
end Bamep
