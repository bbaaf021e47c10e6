import Bamep.Bootstrap.Assertion
import Bamep.Library.Url

/-! The Agent's client of the data plane: the origin it was granted, read with the URI grammar of its HTTP library, and
the server name and authority it makes of it. -/
namespace Bamep.Simulator

inductive DataPlaneClientError where
  | invalidBaseUrl | serverName | tlsConfig
  deriving DecidableEq, Repr

/- The TLS library: the names it can verify, and whether it builds a client configuration pinned to a certificate. -/
structure TlsPlatform where
  serverName : String → Bool
  clientConfig : ServerCertFingerprint → Bool

-- Milliseconds.
def defaultRequestTimeout : Nat := 30000

structure DataPlaneClient where
  origin : String
  host : String
  port : Nat
  requestTimeout : Nat
  deriving DecidableEq, Repr

def parseHttpsOrigin (baseUrl : String) : Except DataPlaneClientError (String × Nat) :=
  match Url.parseUri baseUrl.toList with
  | none => .error .invalidBaseUrl
  | some uri =>
    if uri.scheme ≠ "https".toList then .error .invalidBaseUrl
    else if uri.query.isSome then .error .invalidBaseUrl
    else if uri.path ≠ [] && uri.path ≠ ['/'] then .error .invalidBaseUrl
    else
      match uri.authority with
      | none => .error .invalidBaseUrl
      | some authority =>
        if authority.text.contains '@' then .error .invalidBaseUrl
        else if authority.host = [] then .error .invalidBaseUrl
        else .ok (String.ofList authority.host,authority.portU16.getD 443)

def DataPlaneClient.connect (tls : TlsPlatform) (baseUrl : String) (expected : ServerCertFingerprint) :
    Except DataPlaneClientError DataPlaneClient := do
  let (host,port) ← parseHttpsOrigin baseUrl
  if !tls.serverName host then .error .serverName
  else if !tls.clientConfig expected then .error .tlsConfig
  else
    let authority := if host.toList.contains ':' then "[" ++ host ++ "]:" ++ port.repr else host ++ ":" ++ port.repr
    .ok { origin := "https://" ++ authority, host, port, requestTimeout := defaultRequestTimeout }

end Bamep.Simulator
