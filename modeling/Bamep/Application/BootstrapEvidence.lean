import Bamep.Application.Redemption
import Bamep.Bootstrap.Assertion

/-! `BootstrapEvidenceService`: post-session evidence is verified against the accepted site keys and the
certificate of its own connection before the Endpoint's current boot is marked trusted under its lock. -/
namespace Bamep
open Relational

structure BootstrapEvidence where
  bootNonce : String
  bootstrapAssertion : String
  deriving DecidableEq, Repr

inductive BootstrapEvidenceResult where
  | established | rejected
  deriving DecidableEq, Repr

def EndpointStore.verifyAndEstablish (crypto : SiteCrypto) (acceptedSiteKeys : AcceptedSiteKeys)
    (s : EndpointStore) (endpointId : EndpointId) (evidence : BootstrapEvidence)
    (connectionFingerprint : ServerCertFingerprint) :
    EndpointStore × Except EndpointUpdateError BootstrapEvidenceResult :=
  match BootNonce.parseWireValue evidence.bootNonce with
  | .error _ => (s,.ok .rejected)
  | .ok declaredNonce =>
    match BootstrapAssertion.parseWireValue evidence.bootstrapAssertion with
    | .error _ => (s,.ok .rejected)
    | .ok assertion =>
      match assertion.verify crypto acceptedSiteKeys with
      | .error _ => (s,.ok .rejected)
      | .ok verified =>
        if verified.bootNonce ≠ declaredNonce ∨ verified.expectedServerFingerprint ≠ connectionFingerprint then
          (s,.ok .rejected)
        else match s.establishTrustedBootstrap endpointId declaredNonce with
          | (s',.error e) => (s',.error e)
          | (s',.ok (.established _)) => (s',.ok .established)
          | (s',.ok .rejected) => (s',.ok .rejected)

/- What an assertion has to be: made for this boot and this server certificate, under this key. -/
structure SignedFor (crypto : SiteCrypto) (evidence : BootstrapEvidence) (fingerprint : ServerCertFingerprint)
    (nonce : BootNonce) (key : SitePublicKey) (transcript : List UInt8) (signature : Bytes 64) : Prop where
  declared : evidence.bootNonce = nonce.toWireValue
  built : buildTranscriptV1 nonce.bytes fingerprint.digest (crypto.sha256 key.bytes.val) = some transcript
  carried : evidence.bootstrapAssertion = Base64Url.encode (transcript ++ signature.val)
  length : evidence.bootstrapAssertion.utf8ByteSize = 263
  verifies : crypto.verifyStrict key transcript signature = true

def Genuine (crypto : SiteCrypto) (keys : List SitePublicKey) (evidence : BootstrapEvidence)
    (fingerprint : ServerCertFingerprint) (a : EndpointAggregate) : Prop :=
  ∃ boot, a.currentBoot = some boot ∧ ∃ key ∈ keys, ∃ transcript signature,
    SignedFor crypto evidence fingerprint boot.bootNonce key transcript signature

section Verification
variable {crypto : SiteCrypto} {keys : List SitePublicKey} {evidence : BootstrapEvidence}
  {fingerprint : ServerCertFingerprint} {nonce : BootNonce} {assertion : BootstrapAssertion}

theorem verifiedFields {accepted verified}
    (ok : assertion.verify crypto accepted = .ok verified) : ∃ key, accepted.find ⟨assertion.siteKeyIdBytes⟩ = some key ∧
      SiteKeyId.fromPublicKey crypto key = ⟨assertion.siteKeyIdBytes⟩ ∧
      crypto.verifyStrict key assertion.transcriptBytes assertion.signatureBytes = true ∧
      verified = ⟨⟨assertion.bootNonceBytes⟩,⟨assertion.serverFingerprintBytes⟩,⟨assertion.siteKeyIdBytes⟩⟩ := by
  unfold BootstrapAssertion.verify at ok
  simp only at ok
  split at ok <;> try contradiction
  rename_i key found
  split at ok <;> try contradiction
  rename_i named
  split at ok <;> try contradiction
  rename_i signed
  cases ok
  exact ⟨key,found,not_not.mp named,by simpa using signed,rfl⟩

/- What passes every check is signed for the declared nonce and the fingerprint of the connection. -/
theorem verifiedSigned {verified}
    (declared : BootNonce.parseWireValue evidence.bootNonce = .ok nonce)
    (parsed : BootstrapAssertion.parseWireValue evidence.bootstrapAssertion = .ok assertion)
    (ok : assertion.verify crypto (.new crypto keys) = .ok verified) (sameNonce : verified.bootNonce = nonce)
    (sameFingerprint : verified.expectedServerFingerprint = fingerprint) :
    ∃ key ∈ keys, ∃ transcript signature, SignedFor crypto evidence fingerprint nonce key transcript signature := by
  obtain ⟨key,found,named,signed,fields⟩ := verifiedFields ok
  obtain ⟨carried,header⟩ := assertionParsed.mp parsed
  rw [AcceptedSiteKeys.findNew] at found
  rw [fields] at sameNonce sameFingerprint
  have keyId : crypto.sha256 key.bytes.val = assertion.siteKeyIdBytes := congrArg SiteKeyId.bytes named
  refine ⟨key,List.mem_of_find?_eq_some found,assertion.transcriptBytes,assertion.signatureBytes,
    bootNonceParsed.mp declared,?_,by rw [← assertionSplit,carried],?_,signed⟩
  · rw [← sameNonce,← sameFingerprint,keyId]
    exact assertionTranscript.mp header
  · rw [carried,Base64Url.encodeUtf8Length,assertion.bytes.property]

/- The fields of an assertion can be read back from transcript and signature. -/
theorem assertionFields {boot server key transcript signature}
    (built : buildTranscriptV1 boot server key = some transcript)
    (bytes : assertion.bytes.val = transcript ++ signature.val) :
    assertion.transcriptBytes = transcript ∧ assertion.signatureBytes = signature ∧
      assertion.bootNonceBytes = boot ∧ assertion.serverFingerprintBytes = server ∧
      assertion.siteKeyIdBytes = key := by
  rw [assertionSplit] at bytes
  obtain ⟨same,signed⟩ := List.append_inj' bytes (by rw [assertion.signatureBytes.property,signature.property])
  have ranges := transcriptRanges assertion
  rw [transcriptV1] at built
  rw [same,← Option.some.inj built] at ranges
  obtain ⟨ranges,keyId⟩ := List.append_inj' ranges (by
    rw [key.property,assertion.siteKeyIdBytes.property])
  obtain ⟨ranges,fingerprint⟩ := List.append_inj' ranges (by
    rw [server.property,assertion.serverFingerprintBytes.property])
  obtain ⟨_,nonce⟩ := List.append_inj' ranges (by rw [boot.property,assertion.bootNonceBytes.property])
  exact ⟨same,Subtype.ext signed,(Subtype.ext nonce).symm,(Subtype.ext fingerprint).symm,(Subtype.ext keyId).symm⟩

/- Conversely such evidence passes every check, provided that no other accepted key has the id of its key. -/
theorem signedVerified (distinct : ∀ k ∈ keys, ∀ k' ∈ keys,
      crypto.sha256 k.bytes.val = crypto.sha256 k'.bytes.val → k = k')
    {key} (accepted : key ∈ keys) {transcript signature}
    (signed : SignedFor crypto evidence fingerprint nonce key transcript signature) :
    BootNonce.parseWireValue evidence.bootNonce = .ok nonce ∧
      ∃ assertion, BootstrapAssertion.parseWireValue evidence.bootstrapAssertion = .ok assertion ∧
        assertion.verify crypto (.new crypto keys) = .ok ⟨nonce,fingerprint,.fromPublicKey crypto key⟩ := by
  have length : (transcript ++ signature.val).length = 197 := by
    have built := signed.built
    rw [transcriptV1] at built
    rw [← Option.some.inj built]
    simp [transcriptHeaderLength,nonce.bytes.property,fingerprint.digest.property,
      (crypto.sha256 key.bytes.val).property,signature.property]
  let assertion : BootstrapAssertion := ⟨⟨transcript ++ signature.val,length⟩⟩
  obtain ⟨sameTranscript,sameSignature,sameNonce,sameFingerprint,sameKey⟩ :=
    @assertionFields assertion _ _ _ _ _ signed.built rfl
  refine ⟨bootNonceParsed.mpr signed.declared,assertion,assertionParsed.mpr ⟨signed.carried,?_⟩,?_⟩
  · rw [assertionTranscript,sameNonce,sameFingerprint,sameKey,sameTranscript]
    exact signed.built
  · have found : (AcceptedSiteKeys.new crypto keys).find ⟨assertion.siteKeyIdBytes⟩ = some key := by
      rw [AcceptedSiteKeys.findNew]
      cases search : keys.find? fun k => SiteKeyId.fromPublicKey crypto k = ⟨assertion.siteKeyIdBytes⟩ with
      | none =>
        have absent := List.find?_eq_none.mp search key accepted
        rw [sameKey] at absent
        exact absurd (decide_eq_true rfl) absent
      | some other =>
        have named : SiteKeyId.fromPublicKey crypto other = ⟨assertion.siteKeyIdBytes⟩ := by
          simpa using List.find?_some search
        rw [sameKey] at named
        rw [distinct other (List.mem_of_find?_eq_some search) key accepted (congrArg SiteKeyId.bytes named)]
    unfold BootstrapAssertion.verify
    simp only [found]
    have keyed : SiteKeyId.fromPublicKey crypto key = ⟨crypto.sha256 key.bytes.val⟩ := rfl
    rw [sameKey,sameTranscript,sameSignature,sameNonce,sameFingerprint,if_neg (not_not.mpr keyed),signed.verifies]
    rfl

end Verification

section Service
variable {crypto : SiteCrypto} {keys : List SitePublicKey} {evidence : BootstrapEvidence}
  {fingerprint : ServerCertFingerprint} {s : EndpointStore} {a : EndpointAggregate}

/- The locked step on a stored aggregate: only the trust state of the current boot changes. -/
theorem trustStored (stored : Stored s.rows a) {boot} (current : a.currentBoot = some boot) :
    ∃ s', s.establishTrustedBootstrap a.id boot.bootNonce =
        (s',.ok (.established { a with currentBoot := some boot.establishTrustedBootstrap })) ∧
      Stored s'.rows { a with currentBoot := some boot.establishTrustedBootstrap } ∧
      ∀ b : EndpointAggregate, b.id ≠ a.id → (Stored s'.rows b ↔ Stored s.rows b) := by
  let trusted : EndpointAggregate := { a with currentBoot := some boot.establishTrustedBootstrap }
  have persisted : Persisted s.rows (s.rows.persistTransition trusted) trusted := persistKept stored rfl rfl
  have valid := @persistTransitionValid s.rows trusted a s.valid stored rfl
  refine ⟨⟨_,valid⟩,?_,?_,fun b other => persistedOther persisted other⟩
  · unfold EndpointStore.establishTrustedBootstrap
    rw [storedLoads stored]
    simp only [Bamep.establishTrustedBootstrap,current,EndpointRows.commit]
    rw [if_neg (not_not.mpr rfl)]
    simp only
    rw [dif_pos valid]
  · obtain ⟨b,storedB,same,row⟩ := persistedSelf persisted
    obtain ⟨revision,present⟩ := stored.endpoint
    rcases row with ⟨e,mem,named,signal,created⟩ | ⟨absent,_⟩
    · have equal : e = a.row revision := Table.eqOfKey mem present named
      rw [equal] at signal created
      rw [same,← signal,← created] at storedB
      exact storedB
    · exact absurd rfl (absent _ present)

theorem bootstrapEvidenceExact (crypto : SiteCrypto) (keys : List SitePublicKey)
    (distinct : ∀ k ∈ keys, ∀ k' ∈ keys, crypto.sha256 k.bytes.val = crypto.sha256 k'.bytes.val → k = k')
    (evidence : BootstrapEvidence) (fingerprint : ServerCertFingerprint) (s : EndpointStore)
    (a : EndpointAggregate) (stored : Stored s.rows a) :
    let result := s.verifyAndEstablish crypto (.new crypto keys) a.id evidence fingerprint
    (result.2 = .ok .established ↔ Genuine crypto keys evidence fingerprint a) ∧
      (¬ Genuine crypto keys evidence fingerprint a → result = (s,.ok .rejected)) ∧
      ∀ boot, a.currentBoot = some boot → Genuine crypto keys evidence fingerprint a →
        result.1.rows.loadById a.id =
          .ok (some { a with currentBoot := some { boot with trustedBootstrap := .established } }) ∧
        ∀ b : EndpointAggregate, b.id ≠ a.id → (Stored result.1.rows b ↔ Stored s.rows b) := by
  intro result
  have accepts : ∀ boot, a.currentBoot = some boot → Genuine crypto keys evidence fingerprint a →
      ∃ s', result = (s',.ok .established) ∧
        Stored s'.rows { a with currentBoot := some boot.establishTrustedBootstrap } ∧
        ∀ b : EndpointAggregate, b.id ≠ a.id → (Stored s'.rows b ↔ Stored s.rows b) := by
    intro boot current genuine
    obtain ⟨_,same,key,accepted,_,_,signed⟩ := genuine
    rw [current] at same
    cases same
    obtain ⟨declared,assertion,parsed,verified⟩ := signedVerified distinct accepted signed
    obtain ⟨s',established,after,others⟩ := trustStored stored current
    refine ⟨s',?_,after,others⟩
    simp only [result,EndpointStore.verifyAndEstablish,declared,parsed,verified,established]
    rw [if_neg (by simp)]
  have rejects : ¬ Genuine crypto keys evidence fingerprint a → result = (s,.ok .rejected) := by
    intro unsigned
    simp only [result,EndpointStore.verifyAndEstablish]
    split
    · rfl
    rename_i nonce declared
    split
    · rfl
    rename_i assertion parsed
    split
    · rfl
    rename_i verified ok
    split
    · rfl
    rename_i same
    obtain ⟨sameNonce,sameFingerprint⟩ := not_or.mp same
    obtain ⟨key,accepted,transcript,signature,signed⟩ :=
      verifiedSigned declared parsed ok (not_not.mp sameNonce) (not_not.mp sameFingerprint)
    have refused : s.establishTrustedBootstrap a.id nonce = (s,.ok .rejected) := by
      unfold EndpointStore.establishTrustedBootstrap
      rw [storedLoads stored]
      simp only [Bamep.establishTrustedBootstrap]
      cases current : a.currentBoot with
      | none => rfl
      | some boot =>
        have other : boot.bootNonce ≠ nonce := by
          intro equal
          exact unsigned ⟨boot,current,key,accepted,transcript,signature,equal ▸ signed⟩
        simp only [if_pos other]
    rw [refused]
  refine ⟨⟨fun ok => ?_,fun genuine => ?_⟩,rejects,fun boot current genuine => ?_⟩
  · by_contra unsigned
    rw [rejects unsigned] at ok
    cases ok
  · obtain ⟨boot,current,_⟩ := id genuine
    obtain ⟨s',same,_⟩ := accepts boot current genuine
    rw [same]
  · obtain ⟨s',same,after,others⟩ := accepts boot current genuine
    rw [same]
    exact ⟨storedLoads after,others⟩

/- One enrolled Endpoint whose current boot, of nonce 2, is not trusted yet. -/
def bootedEndpoint : EndpointAggregate where
  id := ⟨1⟩
  inventorySignal := "signal"
  identity := .enrolled
  credential := ⟨⟨⟨.filled 16 1⟩,⟨.filled 16 0,.filled 32 0⟩,0,100⟩,none,false⟩
  hardwareConfidence := .initial
  currentBoot := some ⟨⟨.filled 16 3⟩,⟨.filled 32 2⟩,.notEstablished⟩
  createdAt := 0
  updatedAt := 0

def bootedStore : EndpointStore :=
  ⟨⟨⟨[bootedEndpoint.row none],List.nodup_singleton _⟩,⟨[bootedEndpoint.credentialRow],List.nodup_singleton _⟩,
    ⟨bootedEndpoint.credential.lookupRows ⟨1⟩,by decide⟩,.empty,.empty⟩,by decide⟩

theorem bootedStored : Stored bootedStore.rows bootedEndpoint :=
  ⟨⟨none,List.mem_singleton.mpr rfl⟩,List.mem_singleton.mpr rfl,fun _ _ => Iff.rfl⟩

def siteCrypto : SiteCrypto where
  sha256 bytes := ⟨(bytes ++ List.replicate 32 0).take 32,by simp⟩
  verifyStrict _ transcript signature := signature.val == transcript.take 64

def siteTranscript : List UInt8 :=
  transcriptHeader ++ List.replicate 32 2 ++ List.replicate 32 9 ++ List.replicate 32 5

def siteEvidence : BootstrapEvidence :=
  ⟨Base64Url.encode (.replicate 32 2),Base64Url.encode (siteTranscript ++ siteTranscript.take 64)⟩

theorem siteTranscriptLength : siteTranscript.length = 133 := by
  simp only [siteTranscript,List.length_append,List.length_replicate,transcriptHeaderLength]

theorem siteEvidenceGenuine : Genuine siteCrypto [⟨.filled 32 5⟩] siteEvidence ⟨.filled 32 9⟩ bootedEndpoint := by
  have length : (siteTranscript.take 64).length = 64 := by rw [List.length_take,siteTranscriptLength]; rfl
  refine ⟨_,rfl,_,List.mem_singleton.mpr rfl,siteTranscript,⟨siteTranscript.take 64,length⟩,rfl,?_,rfl,?_,by
    simp [siteCrypto]⟩
  · rw [transcriptV1]
    rfl
  · rw [siteEvidence,Base64Url.encodeUtf8Length,List.length_append,siteTranscriptLength,length]

theorem bootstrapEvidenceExactEstablished :
    (bootedStore.verifyAndEstablish siteCrypto (.new siteCrypto [⟨.filled 32 5⟩]) ⟨1⟩ siteEvidence
      ⟨.filled 32 9⟩).2 = .ok .established :=
  (bootstrapEvidenceExact siteCrypto [⟨.filled 32 5⟩]
    (fun _ mem _ mem' _ => (List.mem_singleton.mp mem).trans (List.mem_singleton.mp mem').symm)
    siteEvidence ⟨.filled 32 9⟩ bootedStore bootedEndpoint bootedStored).1.mpr siteEvidenceGenuine

end Service
end Bamep
