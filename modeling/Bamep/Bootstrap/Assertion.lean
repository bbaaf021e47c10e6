import Bamep.Library.Layout
import Bamep.Domain.Endpoint

/-! Trusted bootstrap: the carriers of a boot nonce and of a signed assertion, the accepted site keys and the
verification of an assertion. SHA-256 and `verify_strict` are the fixed functions of `SiteCrypto`; a public
key is one that `VerifyingKey::from_bytes` has accepted. -/
namespace Bamep
open Layout

def BootNonce.toWireValue (nonce : BootNonce) : String := Base64Url.encode nonce.bytes.val

def BootNonce.parseWireValue (value : String) : Except FixedWireError BootNonce :=
  (parseFixed 43 32 value).map BootNonce.mk

theorem bootNonceParsed {value nonce} :
    BootNonce.parseWireValue value = .ok nonce ↔ value = nonce.toWireValue := by
  unfold BootNonce.parseWireValue BootNonce.toWireValue
  constructor
  · intro ok
    cases parsed : parseFixed 43 32 value with
    | error e => rw [parsed] at ok; cases ok
    | ok bytes =>
      rw [parsed] at ok
      cases ok
      exact parseFixedOk parsed
  · intro same
    rw [same,parseFixedEncode nonce.bytes rfl]
    rfl

structure ServerCertFingerprint where
  digest : Bytes 32
  deriving DecidableEq, Repr

structure SitePublicKey where
  bytes : Bytes 32
  deriving DecidableEq, Repr

structure SiteKeyId where
  bytes : Bytes 32
  deriving DecidableEq, Repr

structure SiteCrypto where
  sha256 : List UInt8 → Bytes 32
  verifyStrict : SitePublicKey → List UInt8 → Bytes 64 → Bool

def SiteKeyId.fromPublicKey (crypto : SiteCrypto) (key : SitePublicKey) : SiteKeyId :=
  ⟨crypto.sha256 key.bytes.val⟩

structure AcceptedSiteKeys where
  keys : List (SiteKeyId × SitePublicKey)

namespace AcceptedSiteKeys

def new (crypto : SiteCrypto) (keys : List SitePublicKey) : AcceptedSiteKeys :=
  ⟨keys.map fun key => (.fromPublicKey crypto key,key)⟩

def find (accepted : AcceptedSiteKeys) (id : SiteKeyId) : Option SitePublicKey :=
  (accepted.keys.find? fun entry => entry.1 = id).map Prod.snd

theorem findNew (crypto : SiteCrypto) (keys : List SitePublicKey) (id : SiteKeyId) :
    (new crypto keys).find id = keys.find? fun key => SiteKeyId.fromPublicKey crypto key = id := by
  simp only [find,new,List.find?_map,Option.map_map]
  exact Option.map_id'

end AcceptedSiteKeys

def domainDiscriminator : List UInt8 :=
  "bamep.trusted-bootstrap.assertion".toList.map fun c => .ofNat c.toNat

def assertionSchemaVersion : Nat := 1

/- `build_transcript_v1`: the buffer starts zeroed and every range is written at its own offset. -/
def buildTranscriptV1 (bootNonce serverFingerprint siteKeyId : Bytes 32) : Option (List UInt8) :=
  (copyFromSlice (List.replicate 133 0) 0 2 (bigEndian 2 domainDiscriminator.length)).bind fun buf =>
  (copyFromSlice buf 2 35 domainDiscriminator).bind fun buf =>
  (copyFromSlice buf 35 37 (bigEndian 2 assertionSchemaVersion)).bind fun buf =>
  (copyFromSlice buf 37 (37 + 32) bootNonce.val).bind fun buf =>
  (copyFromSlice buf 69 (69 + 32) serverFingerprint.val).bind fun buf =>
  copyFromSlice buf 101 (101 + 32) siteKeyId.val

inductive AssertionParseError where
  | carrierLength | carrierCharacters | carrierEncoding | carrierNonCanonical | assertionLength | domainLength
  | domainDiscriminator | unsupportedSchemaVersion
  deriving DecidableEq, Repr

def AssertionParseError.ofCarrier : FixedWireError → AssertionParseError
  | .wireLength => .carrierLength
  | .invalidCharacters => .carrierCharacters
  | .invalidEncoding => .carrierEncoding
  | .invalidDecodedLength => .assertionLength
  | .nonCanonical => .carrierNonCanonical

structure BootstrapAssertion where
  bytes : Bytes 197
  deriving DecidableEq, Repr

inductive VerificationError where
  | unknownSiteKey | siteKeyIdMismatch | signatureInvalid
  deriving DecidableEq, Repr

structure VerifiedBootstrapAssertion where
  bootNonce : BootNonce
  expectedServerFingerprint : ServerCertFingerprint
  siteKeyId : SiteKeyId
  deriving DecidableEq, Repr

namespace BootstrapAssertion
variable (assertion : BootstrapAssertion)

def range (start stop : Nat) : List UInt8 := slice assertion.bytes.val start stop

theorem rangeLength {start stop} (fits : stop ≤ 197) : (assertion.range start stop).length = stop - start :=
  sliceLength (by rw [assertion.bytes.property]; exact fits)

def validateHeader : Except AssertionParseError Unit :=
  if ofBigEndian (assertion.range 0 2) ≠ Bamep.domainDiscriminator.length then .error .domainLength
  else if assertion.range 2 35 ≠ Bamep.domainDiscriminator then .error .domainDiscriminator
  else if ofBigEndian (assertion.range 35 37) ≠ assertionSchemaVersion then .error .unsupportedSchemaVersion
  else .ok ()

def parseWireValue (carrier : String) : Except AssertionParseError BootstrapAssertion :=
  match parseFixed 263 197 carrier with
  | .error e => .error (.ofCarrier e)
  | .ok bytes => (validateHeader ⟨bytes⟩).map fun _ => ⟨bytes⟩

def bootNonceBytes : Bytes 32 := ⟨assertion.range 37 69,assertion.rangeLength (by decide)⟩

def serverFingerprintBytes : Bytes 32 := ⟨assertion.range 69 101,assertion.rangeLength (by decide)⟩

def siteKeyIdBytes : Bytes 32 := ⟨assertion.range 101 133,assertion.rangeLength (by decide)⟩

def transcriptBytes : List UInt8 := assertion.range 0 133

def signatureBytes : Bytes 64 := ⟨assertion.range 133 197,assertion.rangeLength (by decide)⟩

-- The id of the selected key is compared again with the claimed one.
def verify (crypto : SiteCrypto) (accepted : AcceptedSiteKeys) :
    Except VerificationError VerifiedBootstrapAssertion :=
  let claimed : SiteKeyId := ⟨assertion.siteKeyIdBytes⟩
  match accepted.find claimed with
  | none => .error .unknownSiteKey
  | some key =>
    if SiteKeyId.fromPublicKey crypto key ≠ claimed then .error .siteKeyIdMismatch
    else if !crypto.verifyStrict key assertion.transcriptBytes assertion.signatureBytes then
      .error .signatureInvalid
    else .ok ⟨⟨assertion.bootNonceBytes⟩,⟨assertion.serverFingerprintBytes⟩,claimed⟩

end BootstrapAssertion

section Transcript
variable {assertion : BootstrapAssertion}

def transcriptHeader : List UInt8 :=
  bigEndian 2 domainDiscriminator.length ++ domainDiscriminator ++ bigEndian 2 assertionSchemaVersion

theorem domainDiscriminatorLength : domainDiscriminator.length = 33 := by decide

theorem transcriptHeaderLength : transcriptHeader.length = 37 := by
  simp [transcriptHeader,domainDiscriminatorLength]

theorem transcriptV1 (bootNonce serverFingerprint siteKeyId : Bytes 32) :
    buildTranscriptV1 bootNonce serverFingerprint siteKeyId =
      some (transcriptHeader ++ bootNonce.val ++ serverFingerprint.val ++ siteKeyId.val) := by
  have domain := domainDiscriminatorLength
  have nonce := bootNonce.property
  have fingerprint := serverFingerprint.property
  have keyId := siteKeyId.property
  unfold buildTranscriptV1 transcriptHeader
  rw [← List.nil_append (List.replicate 133 (0 : UInt8)),copyNext (by simp) (by simp) (by simp),Option.bind_some,
    copyNext (by simp) (by simp [domain]) (by simp [domain]),Option.bind_some,
    copyNext (by simp [domain]) (by simp) (by simp [domain]),Option.bind_some,
    copyNext (by simp [domain]) (by simp [nonce]) (by simp [domain,nonce]),Option.bind_some,
    copyNext (by simp [domain,nonce]) (by simp [fingerprint]) (by simp [domain,nonce,fingerprint]),Option.bind_some,
    copyNext (by simp [domain,nonce,fingerprint]) (by simp [keyId]) (by simp [domain,nonce,fingerprint,keyId])]
  simp [domain,nonce,fingerprint,keyId]

theorem transcriptRanges (assertion : BootstrapAssertion) : assertion.transcriptBytes =
    assertion.range 0 2 ++ assertion.range 2 35 ++ assertion.range 35 37 ++ assertion.bootNonceBytes.val ++
      assertion.serverFingerprintBytes.val ++ assertion.siteKeyIdBytes.val := by
  simp only [BootstrapAssertion.transcriptBytes,BootstrapAssertion.range,BootstrapAssertion.bootNonceBytes,
    BootstrapAssertion.serverFingerprintBytes,BootstrapAssertion.siteKeyIdBytes]
  rw [sliceJoin (by decide) (by decide),sliceJoin (by decide) (by decide),sliceJoin (by decide) (by decide),
    sliceJoin (by decide) (by decide),sliceJoin (by decide) (by decide)]

theorem assertionSplit (assertion : BootstrapAssertion) :
    assertion.bytes.val = assertion.transcriptBytes ++ assertion.signatureBytes.val := by
  have whole : assertion.bytes.val = slice assertion.bytes.val 0 197 := by
    rw [slice,List.drop_zero,Nat.sub_zero,List.take_of_length_le (by rw [assertion.bytes.property])]
  rw [whole,← sliceJoin (show 0 ≤ 133 by decide) (by decide)]
  rfl

theorem headerValid : assertion.validateHeader = .ok () ↔
    assertion.range 0 2 ++ assertion.range 2 35 ++ assertion.range 35 37 = transcriptHeader := by
  have first : (assertion.range 0 2).length = 2 := assertion.rangeLength (by decide)
  have third : (assertion.range 35 37).length = 2 := assertion.rangeLength (by decide)
  unfold BootstrapAssertion.validateHeader
  constructor
  · intro ok
    split at ok <;> try contradiction
    rename_i length
    split at ok <;> try contradiction
    rename_i discriminator
    split at ok <;> try contradiction
    rename_i version
    rw [transcriptHeader,not_not.mp discriminator]
    congr 2
    · refine ofBigEndianInjective (by rw [first,bigEndianLength]) ?_
      rw [not_not.mp length,ofBigEndianRead,domainDiscriminatorLength]
      rfl
    · refine ofBigEndianInjective (by rw [third,bigEndianLength]) ?_
      rw [not_not.mp version,ofBigEndianRead]
      rfl
  · intro header
    obtain ⟨rest,version⟩ := List.append_inj' header (by rw [third,bigEndianLength])
    obtain ⟨length,discriminator⟩ := List.append_inj rest (by rw [first,bigEndianLength])
    rw [length,discriminator,version,ofBigEndianRead,ofBigEndianRead,domainDiscriminatorLength]
    rfl

/- A carrier is accepted exactly if it encodes an assertion with the V1 header. -/
theorem assertionParsed {carrier} : BootstrapAssertion.parseWireValue carrier = .ok assertion ↔
    carrier = Base64Url.encode assertion.bytes.val ∧ assertion.validateHeader = .ok () := by
  unfold BootstrapAssertion.parseWireValue
  constructor
  · intro ok
    split at ok <;> try contradiction
    rename_i bytes parsed
    cases header : BootstrapAssertion.validateHeader ⟨bytes⟩ with
    | error e => rw [header] at ok; cases ok
    | ok _ =>
      rw [header] at ok
      cases ok
      exact ⟨parseFixedOk parsed,header⟩
  · intro ok
    obtain ⟨encoded,header⟩ := ok
    rw [encoded,parseFixedEncode assertion.bytes rfl]
    simp only [header]
    rfl

theorem assertionTranscript : assertion.validateHeader = .ok () ↔
    buildTranscriptV1 assertion.bootNonceBytes assertion.serverFingerprintBytes assertion.siteKeyIdBytes =
      some assertion.transcriptBytes := by
  rw [headerValid,transcriptV1,transcriptRanges,Option.some_inj]
  constructor
  · intro header
    rw [header]
  · intro same
    obtain ⟨same,_⟩ := List.append_inj' same rfl
    obtain ⟨same,_⟩ := List.append_inj' same rfl
    exact (List.append_inj' same rfl).1.symm

end Transcript
end Bamep
