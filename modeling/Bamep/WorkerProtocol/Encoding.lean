import Bamep.Library.Layout
import Bamep.Library.Text
import Bamep.WorkerProtocol.Messages

/-! The JSON text of a resume page, the frame it is sent in, and how many bytes it takes. -/
namespace Bamep.WorkerProtocol
open Text

def uuidText (id : Uuid) : String := quote (.ofList (hyphenated id))

def WireDigestAlgorithm.text : WireDigestAlgorithm → String
  | .sha256 => "sha256"

def ResumeDiscoveryDecision.text : ResumeDiscoveryDecision → String
  | .approved => "approved"
  | .denied => "denied"

def HeldChunk.encode (chunk : HeldChunk) : String :=
  object [("chunk_index",chunk.chunkIndex.repr),("digest",quote chunk.digest)]

def encodeResumeDiscoveryPage (m : Message ResumeDiscoveryPageBody) : String :=
  object ([("type",quote "ResumeDiscoveryPage"),("protocol_version",quote m.envelope.protocolVersion.text),
      ("message_id",uuidText m.envelope.messageId),("in_reply_to",uuidText m.body.inReplyTo),
      ("decision",quote m.body.decision.text)] ++
    optional "transfer_id" m.body.transferId uuidText ++
    optional "sealed" m.body.sealed toString ++
    optional "digest_algorithm" m.body.digestAlgorithm (fun algorithm => quote algorithm.text) ++
    optional "chunk_size" m.body.chunkSize Nat.repr ++
    optional "expected_chunk_count" m.body.expectedChunkCount Nat.repr ++
    optional "held_chunks" m.body.heldChunks (fun held => array (held.map HeldChunk.encode)) ++
    optional "resume_cursor" m.body.resumeCursor quote)

def maxFramePayloadBytes : Nat := 1024 * 1024

inductive FrameWriteError where
  | oversizedFrame (declared max : Nat)
  deriving DecidableEq, Repr

-- What is written; the writes themselves are taken to succeed.
def writeFrame (payload : List UInt8) : Except FrameWriteError (List UInt8) :=
  if maxFramePayloadBytes < payload.length then .error (.oversizedFrame payload.length maxFramePayloadBytes)
  else .ok (Layout.bigEndian 4 payload.length ++ payload)

def sendResumeDiscoveryPage (m : Message ResumeDiscoveryPageBody) : Except FrameWriteError (List UInt8) :=
  writeFrame (encodeResumeDiscoveryPage m).toUTF8.data.toList

/- An entry of a manifest: an index of 32 bits and a digest of 43 plain characters. -/
structure HeldChunk.Narrow (chunk : HeldChunk) : Prop where
  index : chunk.chunkIndex < 2 ^ 32
  digest : ∃ chars, chunk.digest = String.ofList chars ∧ Plain chars ∧ chars.length = 43

theorem heldChunkSize {chunk : HeldChunk} (narrow : chunk.Narrow) : chunk.encode.utf8ByteSize ≤ 85 := by
  obtain ⟨chars,same,plain,length⟩ := narrow.digest
  have size := objectSize [("chunk_index",chunk.chunkIndex.repr),("digest",quote chunk.digest)]
  have index : chunk.chunkIndex.repr.utf8ByteSize ≤ 10 :=
    decimalSize (by decide) (Nat.lt_trans narrow.index (by decide))
  have digest : (quote chunk.digest).utf8ByteSize = 45 := by rw [same,plainQuote plain,length]
  have keys : (quote "chunk_index").utf8ByteSize = 13 ∧ (quote "digest").utf8ByteSize = 8 := by decide
  simp only [List.map_cons,List.map_nil,List.sum_cons,List.sum_nil,fieldSize] at size
  rw [HeldChunk.encode]
  omega

theorem uuidTextSize (id : Uuid) : (uuidText id).utf8ByteSize = 38 := by
  rw [uuidText,plainQuote (hyphenatedPlain id),hyphenatedLength]

structure ResumeDiscoveryPageBody.Narrow (body : ResumeDiscoveryPageBody) (count : Nat) : Prop where
  chunkSize : ∀ size ∈ body.chunkSize, size < 2 ^ 32
  expectedChunkCount : ∀ chunks ∈ body.expectedChunkCount, chunks < 2 ^ 32
  heldChunks : ∀ held ∈ body.heldChunks, held.length ≤ count ∧ ∀ chunk ∈ held, chunk.Narrow
  resumeCursor : ∀ cursor ∈ body.resumeCursor, ∃ chars, cursor = String.ofList chars ∧ Plain chars ∧ chars.length = 36

theorem encodedPageSize {m count} (version : m.envelope.protocolVersion = .v1)
    (narrow : m.body.Narrow count) : (encodeResumeDiscoveryPage m).utf8ByteSize ≤ count * 86 + 600 := by
  have decimal : ∀ n < 2 ^ 32, n.repr.utf8ByteSize ≤ 10 := fun n small =>
    decimalSize (by decide) (Nat.lt_trans small (by decide))
  have transferId := optionalSize "transfer_id" m.body.transferId uuidText fun id _ => (uuidTextSize id).le
  have sealed := @optionalSize 5 _ "sealed" m.body.sealed toString fun b _ => by cases b <;> decide
  have algorithm := @optionalSize 8 _ "digest_algorithm" m.body.digestAlgorithm
    (fun algorithm => quote algorithm.text) fun a _ => by cases a; decide
  have chunkSize := optionalSize "chunk_size" m.body.chunkSize Nat.repr fun n mem =>
    decimal n (narrow.chunkSize n mem)
  have chunkCount := optionalSize "expected_chunk_count" m.body.expectedChunkCount Nat.repr fun n mem =>
    decimal n (narrow.expectedChunkCount n mem)
  have held := @optionalSize (count * 86 + 2) _ "held_chunks" m.body.heldChunks
    (fun held => array (held.map HeldChunk.encode)) fun held mem => by
      obtain ⟨few,each⟩ := narrow.heldChunks held mem
      have listed := @arraySize (held.map HeldChunk.encode) 85 fun item mem => by
        obtain ⟨chunk,present,rfl⟩ := List.mem_map.mp mem
        exact heldChunkSize (each chunk present)
      rw [List.length_map] at listed
      have := Nat.mul_le_mul_right 86 few
      omega
  have cursor := @optionalSize 38 _ "resume_cursor" m.body.resumeCursor quote fun cursor mem => by
    obtain ⟨chars,same,plain,length⟩ := narrow.resumeCursor cursor mem
    rw [same,plainQuote plain,length]
  have decision : (quote m.body.decision.text).utf8ByteSize ≤ 10 := by cases m.body.decision <;> decide
  have keys : (quote "type").utf8ByteSize = 6 ∧ (quote "ResumeDiscoveryPage").utf8ByteSize = 21 ∧
      (quote "protocol_version").utf8ByteSize = 18 ∧ (quote protocolVersionV1).utf8ByteSize = 3 ∧
      (quote "message_id").utf8ByteSize = 12 ∧ (quote "in_reply_to").utf8ByteSize = 13 ∧
      (quote "decision").utf8ByteSize = 10 := by decide
  have names : (quote "transfer_id").utf8ByteSize = 13 ∧ (quote "sealed").utf8ByteSize = 8 ∧
      (quote "digest_algorithm").utf8ByteSize = 18 ∧ (quote "chunk_size").utf8ByteSize = 12 ∧
      (quote "expected_chunk_count").utf8ByteSize = 22 ∧ (quote "held_chunks").utf8ByteSize = 13 ∧
      (quote "resume_cursor").utf8ByteSize = 15 := by decide
  refine (objectSize _).trans ?_
  simp only [List.map_append,List.sum_append,List.map_cons,List.map_nil,List.sum_cons,List.sum_nil]
  simp only [fieldSize,uuidTextSize,version,ProtocolVersion.v1] at *
  omega

theorem sendsPage {m count} (version : m.envelope.protocolVersion = .v1)
    (narrow : m.body.Narrow count) (few : count ≤ 8192) :
    sendResumeDiscoveryPage m = .ok (Layout.bigEndian 4 (encodeResumeDiscoveryPage m).utf8ByteSize ++
      (encodeResumeDiscoveryPage m).toUTF8.data.toList) := by
  have size := encodedPageSize version narrow
  have bytes : (encodeResumeDiscoveryPage m).toUTF8.data.toList.length = (encodeResumeDiscoveryPage m).utf8ByteSize :=
    rfl
  rw [sendResumeDiscoveryPage,writeFrame,bytes,if_neg]
  unfold maxFramePayloadBytes
  omega

end Bamep.WorkerProtocol
