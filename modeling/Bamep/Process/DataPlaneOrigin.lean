import Bamep.Runtime.BamepdConfig
import Bamep.Simulator.DataPlane

/-! The origin `bamepd` advertises against the origin an Agent makes of it: two parsers over one text, and the port the
Worker listens on. -/
namespace Bamep
open Environment Simulator Url

namespace BamepdConfig
variable {platform : ConfigPlatform} {get : Lookup} {config : BamepdConfig}

theorem originRead {name value} (read : requiredHttpsOrigin platform get name = .ok value) :
    ∃ url, Url.parse platform.hosts platform.others value.toList = .ok url ∧ '/' ∉ afterAuthority value.toList := by
  obtain ⟨text,_,read⟩ := bindOk read
  dsimp only at read
  split at read
  · cases read
  · rename_i url parsed
    repeat' split at read
    all_goals try cases read
    rename_i pathless
    exact ⟨url,parsed,by simpa using pathless⟩

theorem bindAddrRead {name url addr}
    (read : requiredBindAddrMatchingOrigin platform get name url = .ok addr) {parsed}
    (accepted : Url.parse platform.hosts platform.others url.toList = .ok parsed) :
    parsed.portOrKnownDefault = some addr.port := by
  obtain ⟨raw,_,read⟩ := bindOk read
  rw [accepted] at read
  split at read
  · cases read
  · split at read
    · cases read
    · rename_i known
      split at read
      · cases read
      · rename_i same
        cases read
        exact known.trans (congrArg some (not_not.mp same).symm)

theorem fromLookupOrigin (accepted : fromLookup platform get = .ok config) :
    ∃ parsed, Url.parse platform.hosts platform.others config.dataPlaneBaseUrl.toList = .ok parsed ∧
      '/' ∉ afterAuthority config.dataPlaneBaseUrl.toList ∧
      parsed.portOrKnownDefault = some config.workerDataPlaneBindAddr.port := by
  unfold fromLookup at accepted
  iterate 7 obtain ⟨_,_,accepted⟩ := bindOk accepted
  obtain ⟨url,origin,accepted⟩ := bindOk accepted
  iterate 2 obtain ⟨_,_,accepted⟩ := bindOk accepted
  obtain ⟨addr,bound,accepted⟩ := bindOk accepted
  cases accepted
  obtain ⟨parsed,read,pathless⟩ := originRead origin
  exact ⟨parsed,read,pathless,bindAddrRead bound read⟩

end BamepdConfig

-- `https://host` or `https://host:port`.
def httpsOrigin (host : String) (port : Option String) : String := "https://" ++ host ++ port.elim "" (":" ++ ·)

structure BareOrigin (url host : String) (port : Option String) : Prop where
  written : url = httpsOrigin host port
  host : host.toList ≠ [] ∧ host.toList.all regChar = true
  port : ∀ digits ∈ port, digits.toList ≠ [] ∧ digits.toList.all Char.isDigit = true

section Origin
variable {host : List Char} {port : Option (List Char)}

theorem httpsOriginText (host : List Char) (port : Option (List Char)) :
    (httpsOrigin (String.ofList host) (port.map String.ofList)).toList = originText host port := by
  unfold httpsOrigin originText hostPort
  rw [String.toList_append,String.toList_append,@String.toList_ofList host,List.append_assoc]
  have tail : ((port.map String.ofList).elim "" (":" ++ ·)).toList = port.elim [] (':' :: ·) := by
    cases port with
    | none => rfl
    | some digits =>
      simp only [Option.map_some,Option.elim_some]
      rw [String.toList_append,@String.toList_ofList digits]
      rfl
  rw [tail]

theorem parseHttpsOriginPlain (plain : ∀ c ∈ hostPort host port, originChar c = true) (apart : ∀ c ∈ host, c ≠ ':')
    (digits : ∀ text ∈ port, text.all Char.isDigit = true) (named : host ≠ []) {url}
    (written : url.toList = originText host port) : parseHttpsOrigin url =
      .ok (String.ofList host,(port.bind (Text.parseUnsigned (2 ^ 16))).getD 443) := by
  have unmarked : '@' ∉ hostPort host port := fun mem => originCharApart (plain _ mem) (by decide)
  simp only [parseHttpsOrigin,written,parseUriPlain plain apart digits]
  simp [unmarked,named,Authority.portU16]

end Origin

/- The text both grammars read alike, with a host and a certificate the TLS library takes. -/
structure PlainOrigin (tls : TlsPlatform) (expected : ServerCertFingerprint) (url : String) (rest : List Char) : Prop where
  written : url.toList = "https://".toList ++ rest
  plain : ∀ c ∈ rest, originChar c = true ∨ c = '/'
  ported : rest.getLast? ≠ some ':'
  named : tls.serverName (String.ofList (rest.takeWhile (· ≠ ':'))) = true
  pinned : tls.clientConfig expected = true

/- The Agent reaches the host that was written, at the port the Worker listens on. -/
def Reached (tls : TlsPlatform) (expected : ServerCertFingerprint) (config : BamepdConfig) (host : String)
    (port : Option String) : Prop :=
  BareOrigin config.dataPlaneBaseUrl host port ∧
    parseHttpsOrigin config.dataPlaneBaseUrl = .ok (host,config.workerDataPlaneBindAddr.port) ∧
    DataPlaneClient.connect tls config.dataPlaneBaseUrl expected = .ok
      ⟨httpsOrigin host (some config.workerDataPlaneBindAddr.port.repr),host,config.workerDataPlaneBindAddr.port,
        defaultRequestTimeout⟩

section Exact
variable {platform : ConfigPlatform} {tls : TlsPlatform} {get : Lookup} {config : BamepdConfig}
  {expected : ServerCertFingerprint}

theorem plainReached (accepted : BamepdConfig.fromLookup platform get = .ok config) {rest}
    (origin : PlainOrigin tls expected config.dataPlaneBaseUrl rest) :
    ∃ host port, Reached tls expected config host port := by
  obtain ⟨written,plain,ported,named,pinned⟩ := origin
  obtain ⟨parsed,read,pathless,bound⟩ := BamepdConfig.fromLookupOrigin accepted
  have after : BamepdConfig.afterAuthority ("https://".toList ++ rest) = rest := rfl
  rw [written,after] at pathless
  have bare : ∀ c ∈ rest, originChar c = true := by
    intro c mem
    rcases plain c mem with here | rfl
    · exact here
    · exact absurd mem pathless
  obtain ⟨host,port,rfl,apart⟩ := hostPortOf rest
  rw [written] at read
  obtain ⟨nonempty,scheme,number⟩ := parsePlain bare apart read
  have digits := parsePortDigits number
  rw [(splitColon apart).1] at named
  rw [Parsed.portOrKnownDefault,scheme,parsePortRead rfl number,Option.some.injEq] at bound
  have origin := parseHttpsOriginPlain bare apart digits nonempty written
  rw [bound] at origin
  have unbracketed : ':' ∉ host := fun mem => apart _ mem rfl
  refine ⟨String.ofList host,port.map String.ofList,⟨?_,?_,?_⟩,origin,?_⟩
  · exact String.toList_inj.mp (written.trans (httpsOriginText host port).symm)
  · rw [String.toList_ofList]
    refine ⟨nonempty,List.all_eq_true.mpr fun c mem => ?_⟩
    simpa [originChar,apart c mem] using bare c (List.mem_append_left _ mem)
  · intro text mem
    obtain ⟨chars,rfl,rfl⟩ := Option.map_eq_some_iff.mp mem
    rw [String.toList_ofList]
    refine ⟨?_,digits chars rfl⟩
    rintro rfl
    simp [hostPort] at ported
  · simp [DataPlaneClient.connect,origin,named,pinned,unbracketed,httpsOrigin,bind,Except.bind,String.append_assoc]

-- Every digit is a character of a host.
theorem digitsPlain {text : List Char} (digits : text.all Char.isDigit = true) : text.all regChar = true := by
  refine List.all_eq_true.mpr fun c mem => ?_
  have isDigit := List.all_eq_true.mp digits c mem
  simp [regChar,unreserved,Char.isAlphanum,isDigit]

theorem bareOriginChars {url host port} (bare : BareOrigin url host port) :
    ∀ c ∈ hostPort host.toList (port.map String.toList), originChar c = true := by
  intro c mem
  rw [originChar,Bool.or_eq_true,decide_eq_true_eq]
  rcases List.mem_append.mp mem with inHost | inPort
  · exact .inl (List.all_eq_true.mp bare.host.2 c inHost)
  · cases given : port with
    | none => simp [given] at inPort
    | some digits =>
      rw [given] at inPort
      rcases List.mem_cons.mp inPort with colon | digit
      · exact .inr colon
      · exact .inl (List.all_eq_true.mp (digitsPlain (bare.port digits given).2) c digit)

theorem bareOriginLast {url host port} (bare : BareOrigin url host port) :
    (hostPort host.toList (port.map String.toList)).getLast? ≠ some ':' := by
  have apart : ∀ {text : List Char}, text.all regChar = true → text.getLast? ≠ some ':' := by
    intro text plain last
    exact regCharApart (List.all_eq_true.mp plain _ (List.mem_of_getLast? last)) (by decide)
  cases given : port with
  | none => simpa [hostPort] using apart bare.host.2
  | some digits =>
    obtain ⟨some_,all⟩ := bare.port digits given
    have same : (hostPort host.toList (some digits.toList)).getLast? = digits.toList.getLast? := by
      simp [hostPort,List.getLast?_append,List.getLast?_cons,List.getLast?_eq_some_getLast some_]
    rw [Option.map_some,same]
    exact apart (digitsPlain all)

theorem reachedPlain {host port} (reached : Reached tls expected config host port) :
    PlainOrigin tls expected config.dataPlaneBaseUrl (hostPort host.toList (port.map String.toList)) := by
  obtain ⟨bare,origin,connected⟩ := reached
  have apart : ∀ c ∈ host.toList, c ≠ ':' := by
    rintro c mem rfl
    exact regCharApart (List.all_eq_true.mp bare.host.2 _ mem) (by decide)
  have taken : tls.serverName host = true ∧ tls.clientConfig expected = true := by
    simp only [DataPlaneClient.connect,origin,bind,Except.bind] at connected
    split at connected
    · cases connected
    · split at connected
      · cases connected
      · simp_all
  have written : (httpsOrigin host port).toList = originText host.toList (port.map String.toList) := by
    simpa [Function.comp_def] using httpsOriginText host.toList (port.map String.toList)
  refine ⟨?_,fun c mem => .inl (bareOriginChars bare c mem),bareOriginLast bare,?_,taken.2⟩
  · rw [bare.written]
    exact written
  · rw [(splitColon apart).1,String.ofList_toList]
    exact taken.1

end Exact

theorem advertisedOriginReached (platform : ConfigPlatform) (tls : TlsPlatform) (get : Lookup) (config : BamepdConfig)
    (accepted : BamepdConfig.fromLookup platform get = .ok config) (expected : ServerCertFingerprint) :
    (∃ host port, Reached tls expected config host port) ↔
      ∃ rest, PlainOrigin tls expected config.dataPlaneBaseUrl rest :=
  ⟨fun ⟨_,_,reached⟩ => ⟨_,reachedPlain reached⟩,fun ⟨_,origin⟩ => plainReached accepted origin⟩

section Sample

def samplePlatform : ConfigPlatform where
  hosts := .ok
  others _ := .error .overflow
  socketAddr raw :=
    if raw = "0.0.0.0:443" then some ⟨"0.0.0.0",443⟩
    else if raw = "0.0.0.0:8443" then some ⟨"0.0.0.0",8443⟩
    else none
  debug raw := raw

def sampleLookup (url bind : String) : Lookup := fun name =>
  if name = envDataPlaneBaseUrl then some url
  else if name = envDataPlaneBindAddr then some bind
  else if name ∈ [envUdsPath,envWorkerExecutable,envTlsCertPath,envTlsKeyPath,envDatabaseUrl,envStorageRoot] then some "/bamep"
  else none

def sampleFingerprint : ServerCertFingerprint := ⟨⟨List.replicate 32 0,List.length_replicate⟩⟩

-- Names and addresses are verified as they are written, without brackets.
def sampleTls : TlsPlatform := ⟨fun name => name.toList.all regChar,fun _ => true⟩

theorem samplePlain : "server.example:8443".toList.all originChar = true := by decide

theorem advertisedOriginReachedPort : ∃ config, config.workerDataPlaneBindAddr.port = 8443 ∧
    BamepdConfig.fromLookup samplePlatform (sampleLookup "https://server.example:8443" "0.0.0.0:8443") = .ok config ∧
    ∃ host port, Reached sampleTls sampleFingerprint config host port :=
  ⟨_,rfl,rfl,(advertisedOriginReached samplePlatform sampleTls
    (sampleLookup "https://server.example:8443" "0.0.0.0:8443") _ rfl sampleFingerprint).mpr
    ⟨"server.example:8443".toList,rfl,fun c mem => .inl (List.all_eq_true.mp samplePlain c mem),by decide,by decide,rfl⟩⟩

/- A scheme without slashes is advertised and not read; an address in brackets is read and not reached. -/
theorem advertisedOriginLost :
    (∃ config, BamepdConfig.fromLookup samplePlatform (sampleLookup "https:host" "0.0.0.0:443") = .ok config ∧
      parseHttpsOrigin config.dataPlaneBaseUrl = .error .invalidBaseUrl) ∧
    ∃ config, BamepdConfig.fromLookup samplePlatform (sampleLookup "https://[::1]:8443" "0.0.0.0:8443") = .ok config ∧
      parseHttpsOrigin config.dataPlaneBaseUrl = .ok ("[::1]",8443) ∧
      DataPlaneClient.connect sampleTls config.dataPlaneBaseUrl sampleFingerprint = .error .serverName ∧
      (DataPlaneClient.connect ⟨fun _ => true,fun _ => true⟩ config.dataPlaneBaseUrl sampleFingerprint).map
        DataPlaneClient.origin = .ok "https://[[::1]]:8443" :=
  ⟨⟨_,rfl,rfl⟩,_,rfl,rfl,rfl,rfl⟩

end Sample
end Bamep
