import Bamep.Library.Text
import Bamep.Domain.Wire

/-! What the data-plane routes read from the headers of every request. The Worker checks the shape only; what the
values mean is decided by the Server. -/
namespace Bamep

/- The bytes of a header, of which only visible ASCII is text. -/
structure HeaderValue where
  bytes : List UInt8
  deriving DecidableEq, Repr

namespace HeaderValue

def ofText (text : String) : HeaderValue := ⟨text.toUTF8.data.toList⟩

def visible (b : UInt8) : Bool := (32 ≤ b && b < 127) || b = 9

def toStr (value : HeaderValue) : Option String :=
  if value.bytes.all visible then some (.ofList (value.bytes.map fun b => .ofNat b.toNat)) else none

end HeaderValue

/- The first value of a name is the one that is read. -/
structure HeaderMap where
  entries : List (String × HeaderValue)
  deriving DecidableEq, Repr

namespace HeaderMap

def get (headers : HeaderMap) (name : String) : Option HeaderValue := headers.entries.lookup name

def headerStr (headers : HeaderMap) (name : String) : Option String := (headers.get name).bind HeaderValue.toStr

end HeaderMap

def headerCapability : String := "x-bamep-capability"

def headerTransferProof : String := "x-bamep-transfer-proof"

def proofIdLen : Nat := 22

def signatureLen : Nat := 86

structure CommonProof where
  token : String
  proofId : String
  issuedAt : Nat
  signature : String
  deriving DecidableEq, Repr

def isCanonicalBase64urlNoPad (value : String) (expectedLen : Nat) : Bool :=
  if value.utf8ByteSize ≠ expectedLen then false
  else if !value.toList.all (fun c => c.isAlphanum || c = '-' || c = '_') then false
  else match Base64Url.decode value with
    | some bytes => Base64Url.encode bytes = value
    | none => false

def parseCommon (headers : HeaderMap) : Option CommonProof :=
  match headers.headerStr headerCapability with
  | none => none
  | some token =>
    if token = "" then none
    else match headers.headerStr headerTransferProof with
      | none => none
      | some carrier =>
        match carrier.toList.splitOn '.' with
        | [proofId,issuedAtRaw,signature] =>
          if !isCanonicalBase64urlNoPad (.ofList proofId) proofIdLen ||
              !isCanonicalBase64urlNoPad (.ofList signature) signatureLen then none
          else match Text.parseUnsigned (2 ^ 64) issuedAtRaw with
            | none => none
            | some issuedAt =>
              -- A sign and leading zeros parse, and are not canonical.
              if issuedAtRaw ≠ issuedAt.repr.toList then none
              else some ⟨token,.ofList proofId,issuedAt,.ofList signature⟩
        | _ => none

/- Text that a header carries unchanged. -/
def VisibleAscii (c : Char) : Prop := (32 ≤ c.toNat ∧ c.toNat < 127) ∨ c = '\t'

instance visibleAsciiDecidable (c : Char) : Decidable (VisibleAscii c) :=
  inferInstanceAs (Decidable ((32 ≤ c.toNat ∧ c.toNat < 127) ∨ c = '\t'))

theorem visibleSmall {c} (plain : VisibleAscii c) : c.toNat < 127 := by
  rcases plain with plain | rfl
  · exact plain.2
  · decide

/- A visible character is one byte, and that byte is read back as the character. -/
theorem visibleByte {c} (plain : VisibleAscii c) : String.utf8EncodeChar c = [.ofNat c.toNat] ∧
    HeaderValue.visible (.ofNat c.toNat) = true ∧ Char.ofNat (UInt8.ofNat c.toNat).toNat = c := by
  have all : ∀ n : Fin 127, VisibleAscii (.ofNat n) → String.utf8EncodeChar (.ofNat n) = [.ofNat n] ∧
      HeaderValue.visible (.ofNat n) = true ∧ Char.ofNat (UInt8.ofNat n).toNat = .ofNat n := by decide +kernel
  have here := all ⟨c.toNat,visibleSmall plain⟩
  simp only [Char.ofNat_toNat] at here
  exact here plain

theorem ofTextBytes (text : String) : (HeaderValue.ofText text).bytes = text.toList.flatMap String.utf8EncodeChar := by
  have same : text = String.ofList text.toList := String.ofList_toList.symm
  conv_lhs => rw [same]
  rw [HeaderValue.ofText,String.toUTF8,String.toByteArray_ofList,List.utf8Encode]
  simp

theorem toStrOfText {text} (plain : ∀ c ∈ text.toList, VisibleAscii c) :
    (HeaderValue.ofText text).toStr = some text := by
  have bytes : ∀ chars : List Char, (∀ c ∈ chars, VisibleAscii c) →
      (chars.flatMap String.utf8EncodeChar).all HeaderValue.visible = true ∧
        (chars.flatMap String.utf8EncodeChar).map (fun b => Char.ofNat b.toNat) = chars := by
    intro chars each
    induction chars with
    | nil => exact ⟨rfl,rfl⟩
    | cons c chars ih =>
      obtain ⟨encoded,visible,back⟩ := visibleByte (each c List.mem_cons_self)
      obtain ⟨all,same⟩ := ih fun d mem => each d (List.mem_cons_of_mem _ mem)
      simp only [List.flatMap_cons,encoded,List.singleton_append,List.all_cons,visible,all,Bool.and_self,
        List.map_cons,back,same]
      exact ⟨trivial,trivial⟩
  obtain ⟨all,same⟩ := bytes text.toList plain
  rw [HeaderValue.toStr,ofTextBytes,if_pos all,same,String.ofList_toList]

section Canonical
variable {bytes : List UInt8}

theorem symbolPlain {n} (small : n < 64) : ((Base64Url.symbol n).isAlphanum || Base64Url.symbol n = '-' ||
    Base64Url.symbol n = '_') = true ∧ VisibleAscii (Base64Url.symbol n) ∧ Base64Url.symbol n ≠ '.' := by
  have all : ∀ i : Fin 64, ((Base64Url.symbol i).isAlphanum || Base64Url.symbol i = '-' ||
      Base64Url.symbol i = '_') = true ∧ VisibleAscii (Base64Url.symbol i) ∧ Base64Url.symbol i ≠ '.' := by decide
  exact all ⟨n,small⟩

theorem encodePlain {c} (mem : c ∈ (Base64Url.encode bytes).toList) :
    (c.isAlphanum || c = '-' || c = '_') = true ∧ VisibleAscii c ∧ c ≠ '.' := by
  rw [Base64Url.encode,String.toList_ofList] at mem
  obtain ⟨n,small,rfl⟩ := Base64Url.memEncodeChars mem
  exact symbolPlain small

theorem encodeCanonical (bytes : List UInt8) :
    isCanonicalBase64urlNoPad (Base64Url.encode bytes) ((4 * bytes.length + 2) / 3) = true := by
  have symbols : (Base64Url.encode bytes).toList.all (fun c => c.isAlphanum || c = '-' || c = '_') = true :=
    List.all_eq_true.mpr fun c mem => (encodePlain mem).1
  simp [isCanonicalBase64urlNoPad,Base64Url.encodeUtf8Length,symbols,Base64Url.decodeEncode]

end Canonical

theorem digitPlain {c} (digit : c.isDigit = true) : VisibleAscii c ∧ c ≠ '.' := by
  simp only [Char.isDigit,Bool.and_eq_true,decide_eq_true_eq,ge_iff_le,UInt32.le_iff_toNat_le] at digit
  have low : 48 ≤ c.toNat := digit.1
  have high : c.toNat ≤ 57 := digit.2
  refine ⟨.inl ⟨by omega,by omega⟩,?_⟩
  rintro rfl
  exact absurd low (by decide)

/- The carrier of a canonical id and signature, and of a decimal `u64`, splits into exactly these. -/
theorem parseCommonCarrier {headers token proofId signature issuedAt}
    (nonempty : token ≠ "") (capability : headers.headerStr headerCapability = some token)
    (carrier : headers.headerStr headerTransferProof = some (Base64Url.encode proofId ++ "." ++ issuedAt.repr ++ "." ++
      Base64Url.encode signature))
    (proofIdSized : proofId.length = 16) (signatureSized : signature.length = 64) (small : issuedAt < 2 ^ 64) :
    parseCommon headers = some ⟨token,Base64Url.encode proofId,issuedAt,Base64Url.encode signature⟩ := by
  have segments : (Base64Url.encode proofId ++ "." ++ issuedAt.repr ++ "." ++ Base64Url.encode signature).toList.splitOn
      '.' = [(Base64Url.encode proofId).toList,issuedAt.repr.toList,(Base64Url.encode signature).toList] := by
    have joined := @List.splitOn_intercalate _
      [(Base64Url.encode proofId).toList,issuedAt.repr.toList,(Base64Url.encode signature).toList] _ _ '.' (by
        intro segment mem
        simp only [List.mem_cons,List.not_mem_nil,or_false] at mem
        rcases mem with rfl | rfl | rfl
        · exact fun dot => (encodePlain dot).2.2 rfl
        · exact fun dot => (digitPlain (Text.decimalDigit dot)).2 rfl
        · exact fun dot => (encodePlain dot).2.2 rfl) (by simp)
    have dot : ".".toList = ['.'] := rfl
    simpa [List.intercalate,dot] using joined
  have canonicalId := encodeCanonical proofId
  have canonicalSignature := encodeCanonical signature
  rw [proofIdSized] at canonicalId
  rw [signatureSized] at canonicalSignature
  simp only [parseCommon,capability,nonempty,carrier,segments,↓reduceIte,String.ofList_toList,proofIdLen,signatureLen,
    Text.parseUnsignedRepr small]
  simp [canonicalId,canonicalSignature]

end Bamep
