import Bamep.Domain.Transfer

/-! Wire values: base64url without padding, digests, and identifiers as lowercase hyphenated UUIDs.
A value is accepted only if it is the canonical encoding of what it decodes to. -/
namespace Bamep

abbrev Bytes (size : Nat) := { bytes : List UInt8 // bytes.length = size }

def Bytes.filled (size : Nat) (byte : UInt8) : Bytes size := ⟨List.replicate size byte,List.length_replicate⟩

namespace Base64Url

def symbol (n : Nat) : Char :=
  if n < 26 then Char.ofNat (65 + n)
  else if n < 52 then Char.ofNat (71 + n)
  else if n < 62 then Char.ofNat (n - 4)
  else if n = 62 then '-'
  else '_'

def sextet (c : Char) : Option Nat :=
  if 65 ≤ c.toNat ∧ c.toNat ≤ 90 then some (c.toNat - 65)
  else if 97 ≤ c.toNat ∧ c.toNat ≤ 122 then some (c.toNat - 71)
  else if 48 ≤ c.toNat ∧ c.toNat ≤ 57 then some (c.toNat + 4)
  else if c = '-' then some 62
  else if c = '_' then some 63
  else none

def encodeChars : List UInt8 → List Char
  | [] => []
  | [a] => [symbol (a.toNat / 4),symbol (a.toNat % 4 * 16)]
  | [a,b] => [symbol (a.toNat / 4),symbol (a.toNat % 4 * 16 + b.toNat / 16),symbol (b.toNat % 16 * 4)]
  | a :: b :: c :: rest =>
    symbol (a.toNat / 4) :: symbol (a.toNat % 4 * 16 + b.toNat / 16) ::
      symbol (b.toNat % 16 * 4 + c.toNat / 64) :: symbol (c.toNat % 64) :: encodeChars rest

-- A lone symbol and unused trailing bits that are set are rejected.
def decodeSextets : List Nat → Option (List UInt8)
  | [] => some []
  | [_] => none
  | [a,b] => if b % 16 = 0 then some [.ofNat (a * 4 + b / 16)] else none
  | [a,b,c] =>
    if c % 4 = 0 then some [.ofNat (a * 4 + b / 16),.ofNat (b % 16 * 16 + c / 4)] else none
  | a :: b :: c :: d :: rest =>
    (decodeSextets rest).map fun tail => .ofNat (a * 4 + b / 16) :: .ofNat (b % 16 * 16 + c / 4) ::
      .ofNat (c % 4 * 64 + d) :: tail

def encode (bytes : List UInt8) : String := String.ofList (encodeChars bytes)

def decode (value : String) : Option (List UInt8) := (value.toList.mapM sextet).bind decodeSextets

theorem sextetSymbol {n} (small : n < 64) : sextet (symbol n) = some n := by
  have all : ∀ i : Fin 64, sextet (symbol i) = some i.val := by decide
  exact all ⟨n,small⟩

theorem symbolInjective {m n} (left : m < 64) (right : n < 64) (same : symbol m = symbol n) : m = n := by
  have sextets := congrArg sextet same
  rw [sextetSymbol left,sextetSymbol right] at sextets
  exact Option.some.inj sextets

/- The induction is on the groups of three; the length of the text tells a shorter last group. -/
theorem encodeCharsInjective {xs ys} (same : encodeChars xs = encodeChars ys) : xs = ys := by
  induction xs using encodeChars.induct generalizing ys with
  | case1 =>
    match ys with
    | [] => rfl
    | [_] | [_,_] | _ :: _ :: _ :: _ => simp [encodeChars] at same
  | case2 a =>
    match ys with
    | [b] =>
      simp only [encodeChars,List.cons.injEq,and_true] at same
      have := a.toNat_lt; have := b.toNat_lt
      have high := symbolInjective (by omega) (by omega) same.1
      have low := symbolInjective (by omega) (by omega) same.2
      rw [UInt8.toNat_inj.mp (show a.toNat = b.toNat by omega)]
    | [] | [_,_] | _ :: _ :: _ :: _ => simp [encodeChars] at same
  | case3 a b =>
    match ys with
    | [c,d] =>
      simp only [encodeChars,List.cons.injEq,and_true] at same
      have := a.toNat_lt; have := b.toNat_lt; have := c.toNat_lt; have := d.toNat_lt
      have first := symbolInjective (by omega) (by omega) same.1
      have second := symbolInjective (by omega) (by omega) same.2.1
      have third := symbolInjective (by omega) (by omega) same.2.2
      rw [UInt8.toNat_inj.mp (show a.toNat = c.toNat by omega),UInt8.toNat_inj.mp (show b.toNat = d.toNat by omega)]
    | [] | [_] | _ :: _ :: _ :: _ => simp [encodeChars] at same
  | case4 a b c rest ih =>
    match ys with
    | d :: e :: f :: rest' =>
      simp only [encodeChars,List.cons.injEq] at same
      have := a.toNat_lt; have := b.toNat_lt; have := c.toNat_lt
      have := d.toNat_lt; have := e.toNat_lt; have := f.toNat_lt
      have first := symbolInjective (by omega) (by omega) same.1
      have second := symbolInjective (by omega) (by omega) same.2.1
      have third := symbolInjective (by omega) (by omega) same.2.2.1
      have fourth := symbolInjective (by omega) (by omega) same.2.2.2.1
      rw [UInt8.toNat_inj.mp (show a.toNat = d.toNat by omega),UInt8.toNat_inj.mp (show b.toNat = e.toNat by omega),
        UInt8.toNat_inj.mp (show c.toNat = f.toNat by omega),ih same.2.2.2.2]
    | [] | [_] | [_,_] => simp [encodeChars] at same

theorem decodeEncodeChars (bytes : List UInt8) :
    ((encodeChars bytes).mapM sextet).bind decodeSextets = some bytes := by
  induction bytes using encodeChars.induct with
  | case1 => rfl
  | case2 a =>
    have := a.toNat_lt
    simp only [encodeChars,List.mapM_cons,List.mapM_nil,sextetSymbol (show a.toNat / 4 < 64 by omega),
      sextetSymbol (show a.toNat % 4 * 16 < 64 by omega),Option.bind_eq_bind,Option.pure_def,Option.bind_some,
      decodeSextets]
    rw [if_pos (by omega),show a.toNat / 4 * 4 + a.toNat % 4 * 16 / 16 = a.toNat by omega,UInt8.ofNat_toNat]
  | case3 a b =>
    have := a.toNat_lt; have := b.toNat_lt
    simp only [encodeChars,List.mapM_cons,List.mapM_nil,sextetSymbol (show a.toNat / 4 < 64 by omega),
      sextetSymbol (show a.toNat % 4 * 16 + b.toNat / 16 < 64 by omega),
      sextetSymbol (show b.toNat % 16 * 4 < 64 by omega),Option.bind_eq_bind,Option.pure_def,Option.bind_some,
      decodeSextets]
    rw [if_pos (by omega),
      show a.toNat / 4 * 4 + (a.toNat % 4 * 16 + b.toNat / 16) / 16 = a.toNat by omega,
      show (a.toNat % 4 * 16 + b.toNat / 16) % 16 * 16 + b.toNat % 16 * 4 / 4 = b.toNat by omega,
      UInt8.ofNat_toNat,UInt8.ofNat_toNat]
  | case4 a b c rest ih =>
    have := a.toNat_lt; have := b.toNat_lt; have := c.toNat_lt
    obtain ⟨sextets,read,decoded⟩ := Option.bind_eq_some_iff.mp ih
    simp only [encodeChars,List.mapM_cons,sextetSymbol (show a.toNat / 4 < 64 by omega),
      sextetSymbol (show a.toNat % 4 * 16 + b.toNat / 16 < 64 by omega),
      sextetSymbol (show b.toNat % 16 * 4 + c.toNat / 64 < 64 by omega),
      sextetSymbol (show c.toNat % 64 < 64 by omega),read,Option.bind_eq_bind,Option.pure_def,Option.bind_some,
      decodeSextets,decoded,Option.map_some]
    rw [show a.toNat / 4 * 4 + (a.toNat % 4 * 16 + b.toNat / 16) / 16 = a.toNat by omega,
      show (a.toNat % 4 * 16 + b.toNat / 16) % 16 * 16 + (b.toNat % 16 * 4 + c.toNat / 64) / 4 = b.toNat by omega,
      show (b.toNat % 16 * 4 + c.toNat / 64) % 4 * 64 + c.toNat % 64 = c.toNat by omega,
      UInt8.ofNat_toNat,UInt8.ofNat_toNat,UInt8.ofNat_toNat]

theorem decodeEncode (bytes : List UInt8) : decode (encode bytes) = some bytes := by
  rw [decode,encode,String.toList_ofList,decodeEncodeChars]

theorem memEncodeChars {bytes c} (mem : c ∈ encodeChars bytes) : ∃ n < 64, c = symbol n := by
  induction bytes using encodeChars.induct with
  | case1 => simp [encodeChars] at mem
  | case2 a =>
    have := a.toNat_lt
    simp only [encodeChars,List.mem_cons,List.not_mem_nil,or_false] at mem
    rcases mem with same | same <;> exact ⟨_,by omega,same⟩
  | case3 a b =>
    have := a.toNat_lt; have := b.toNat_lt
    simp only [encodeChars,List.mem_cons,List.not_mem_nil,or_false] at mem
    rcases mem with same | same | same <;> exact ⟨_,by omega,same⟩
  | case4 a b c rest ih =>
    have := a.toNat_lt; have := b.toNat_lt; have := c.toNat_lt
    simp only [encodeChars,List.mem_cons] at mem
    rcases mem with same | same | same | same | inside
    · exact ⟨_,by omega,same⟩
    · exact ⟨_,by omega,same⟩
    · exact ⟨_,by omega,same⟩
    · exact ⟨_,by omega,same⟩
    · exact ih inside

theorem encodeCharsLength (bytes : List UInt8) : (encodeChars bytes).length = (4 * bytes.length + 2) / 3 := by
  induction bytes using encodeChars.induct with
  | case1 => rfl
  | case2 | case3 => simp [encodeChars]
  | case4 a b c rest ih =>
    simp only [encodeChars,List.length_cons,ih]
    omega

theorem encodeSymbols (bytes : List UInt8) : (encode bytes).toList.all fun c => (sextet c).isSome := by
  rw [encode,String.toList_ofList,List.all_eq_true]
  intro c mem
  obtain ⟨n,small,same⟩ := memEncodeChars mem
  rw [same,sextetSymbol small]
  rfl

theorem symbolAscii {n} (small : n < 64) : (symbol n).utf8Size = 1 := by
  have all : ∀ i : Fin 64, (symbol i).utf8Size = 1 := by decide
  exact all ⟨n,small⟩

theorem asciiUtf8Length {chars} (ascii : ∀ c ∈ chars, c.utf8Size = 1) :
    (String.ofList chars).utf8ByteSize = chars.length := by
  induction chars with
  | nil => rfl
  | cons c chars ih =>
    rw [String.ofList_cons,String.utf8ByteSize_append,String.utf8ByteSize_singleton,ascii c List.mem_cons_self,
      ih fun d mem => ascii d (List.mem_cons_of_mem _ mem),List.length_cons,Nat.add_comm]

theorem encodeUtf8Length (bytes : List UInt8) : (encode bytes).utf8ByteSize = (4 * bytes.length + 2) / 3 := by
  rw [encode,asciiUtf8Length,encodeCharsLength]
  intro c mem
  obtain ⟨n,small,same⟩ := memEncodeChars mem
  rw [same,symbolAscii small]

theorem encodeInjective {xs ys} (same : encode xs = encode ys) : xs = ys :=
  encodeCharsInjective (String.ofList_injective same)

end Base64Url

inductive DigestParseError where
  | invalidEncoding | length | nonCanonical
  deriving DecidableEq, Repr

def Digest.toWireValue (digest : Digest) : String := Base64Url.encode digest.bytes

def Digest.parseWireValue (algorithm : DigestAlgorithm) (value : String) :
    Except DigestParseError Digest :=
  match Base64Url.decode value with
  | none => .error .invalidEncoding
  | some decoded =>
    match Digest.new algorithm decoded with
    | none => .error .length
    | some digest => if digest.toWireValue ≠ value then .error .nonCanonical else .ok digest

theorem parseWireCanonical {algorithm value digest}
    (parsed : Digest.parseWireValue algorithm value = .ok digest) : digest.toWireValue = value := by
  unfold Digest.parseWireValue at parsed
  split at parsed <;> try contradiction
  split at parsed <;> try contradiction
  split at parsed <;> try contradiction
  rename_i canonical
  cases parsed
  exact not_not.mp canonical

inductive FixedWireError where
  | wireLength | invalidCharacters | invalidEncoding | invalidDecodedLength | nonCanonical
  deriving DecidableEq, Repr

/- The common body of the `parse_wire_value` of fixed-size values: proof ids, proof signatures, boot nonces
and bootstrap assertions. -/
def parseFixed (wireLen size : Nat) (value : String) :
    Except FixedWireError { bytes : List UInt8 // bytes.length = size } :=
  if value.utf8ByteSize ≠ wireLen then .error .wireLength
  else if !value.toList.all (fun c => (Base64Url.sextet c).isSome) then .error .invalidCharacters
  else match Base64Url.decode value with
    | none => .error .invalidEncoding
    | some bytes =>
      if sized : bytes.length = size then
        if Base64Url.encode bytes ≠ value then .error .nonCanonical else .ok ⟨bytes,sized⟩
      else .error .invalidDecodedLength

theorem parseFixedOk {wireLen size value parsed}
    (ok : parseFixed wireLen size value = .ok parsed) : value = Base64Url.encode parsed.val := by
  unfold parseFixed at ok
  split at ok
  · contradiction
  split at ok
  · contradiction
  split at ok
  · contradiction
  split at ok
  · split at ok
    · contradiction
    · rename_i canonical
      cases Except.ok.inj ok
      exact (not_not.mp canonical).symm
  · contradiction

theorem parseFixedEncode {wireLen size} (parsed : { bytes : List UInt8 // bytes.length = size })
    (fits : wireLen = (4 * size + 2) / 3) : parseFixed wireLen size (Base64Url.encode parsed.val) = .ok parsed := by
  have length : (Base64Url.encode parsed.val).utf8ByteSize = wireLen := by
    rw [Base64Url.encodeUtf8Length,parsed.property,fits]
  simp [parseFixed,length,Base64Url.encodeSymbols,Base64Url.decodeEncode,parsed.property]

def hexDigit (c : Char) : Option Nat :=
  if 48 ≤ c.toNat ∧ c.toNat ≤ 57 then some (c.toNat - 48)
  else if 97 ≤ c.toNat ∧ c.toNat ≤ 102 then some (c.toNat - 87)
  else none

/- `Uuid::parse_str` followed by the comparison with the hyphenated rendering: the other notations
`parse_str` reads do not survive the comparison. -/
def parseHyphenatedUuid (value : String) : Option Nat :=
  let groups := value.toList.splitOn '-'
  if groups.map List.length = [8,4,4,4,12] then
    (groups.flatten.mapM hexDigit).map fun digits => digits.foldl (fun n d => 16 * n + d) 0
  else none

end Bamep
