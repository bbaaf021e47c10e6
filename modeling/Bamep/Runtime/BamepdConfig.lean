import Bamep.Library.Environment
import Bamep.Library.Url

/-! The configuration `bamepd` starts from: the variables it requires, and the origin it will name to Agents. -/
namespace Bamep
open Environment

structure SocketAddr where
  ip : String
  port : Nat
  deriving DecidableEq, Repr

/- What the libraries under the configuration answer: hosts, URLs of other schemes, socket
addresses, and the quoted form of a text in a message. -/
structure ConfigPlatform where
  hosts : List Char → Except Url.ParseError (List Char)
  others : List Char → Except Url.ParseError Url.Parsed
  socketAddr : String → Option SocketAddr
  debug : String → String

def envUdsPath : String := "BAMEP_WORKER_UDS_PATH"

def envTlsCertPath : String := "BAMEP_WORKER_TLS_CERT_PATH"

def envTlsKeyPath : String := "BAMEP_WORKER_TLS_KEY_PATH"

def envReconnectDelayMs : String := "BAMEP_WORKER_RECONNECT_DELAY_MS"

def envStorageRoot : String := "BAMEP_WORKER_STORAGE_ROOT"

def envControlRequestTimeoutMs : String := "BAMEP_WORKER_CONTROL_REQUEST_TIMEOUT_MS"

def envDataPlaneBindAddr : String := "BAMEP_WORKER_DATA_PLANE_BIND_ADDR"

def envWorkerExecutable : String := "BAMEPD_WORKER_EXECUTABLE"

def envWorkerRestartDelayMs : String := "BAMEPD_WORKER_RESTART_DELAY_MS"

def envDatabaseUrl : String := "BAMEPD_DATABASE_URL"

def envDataPlaneBaseUrl : String := "BAMEP_DATA_PLANE_BASE_URL"

namespace BamepdConfig

def defaultRestartDelayMs : Nat := 500

def defaultReconnectDelayMs : Nat := 500

def minDelayMs : Nat := 100

def maxDelayMs : Nat := 30000

def defaultControlRequestTimeoutMs : Nat := 5000

def minControlRequestTimeoutMs : Nat := 250

def maxControlRequestTimeoutMs : Nat := 60000

def requiredPath (get : Lookup) (name : String) : Except Error String := required get name

def requiredString (get : Lookup) (name : String) : Except Error String := required get name

def optionalMillis (get : Lookup) (name : String) (default low high : Nat) : Except Error Nat :=
  boundedMillis get name default low high

/- What follows the first `://`, or the whole text without one. -/
def afterAuthority : List Char → List Char
  | [] => []
  | c :: rest =>
    if "://".toList.isPrefixOf (c :: rest) then rest.drop 2
    else if hasMark rest then afterAuthority rest
    else c :: rest
where
  hasMark : List Char → Bool
    | [] => false
    | c :: rest => "://".toList.isPrefixOf (c :: rest) || hasMark rest

def requiredHttpsOrigin (platform : ConfigPlatform) (get : Lookup) (name : String) : Except Error String := do
  let value ← requiredString get name
  let reject := fun reason => Except.error (Error.invalidEnv name reason)
  match Url.parse platform.hosts platform.others value.toList with
  | .error e => reject ("not a valid URI: " ++ e.display)
  | .ok url =>
    if url.scheme ≠ "https".toList then reject "must use the https scheme"
    else if url.username ≠ [] || url.password.isSome then reject "must not carry username/password userinfo"
    else if url.host.getD [] = [] then reject "must carry a host"
    else if url.query.isSome then reject "must not carry a query string"
    else if url.fragment.isSome then reject "must not carry a fragment"
    else if (afterAuthority value.toList).contains '/' then reject "must carry no path — scheme, host, and port only"
    else .ok value

def requiredBindAddrMatchingOrigin (platform : ConfigPlatform) (get : Lookup) (name dataPlaneBaseUrl : String) :
    Except Error SocketAddr := do
  let raw ← requiredString get name
  match platform.socketAddr raw with
  | none => .error (.invalidEnv name ("must be an IP:port socket address, got " ++ platform.debug raw))
  | some bindAddr =>
    match (Url.parse platform.hosts platform.others dataPlaneBaseUrl.toList).toOption.bind Url.Parsed.portOrKnownDefault with
    | none => .error (.invalidEnv name "cannot determine the port of BAMEP_DATA_PLANE_BASE_URL")
    | some originPort =>
      if bindAddr.port ≠ originPort then
        .error (.invalidEnv name ("port " ++ bindAddr.port.repr ++ " must equal the BAMEP_DATA_PLANE_BASE_URL port " ++
          originPort.repr))
      else .ok bindAddr

end BamepdConfig

structure BamepdConfig where
  udsPath : String
  workerExecutable : String
  tlsCertPath : String
  tlsKeyPath : String
  workerRestartDelay : Nat
  workerReconnectDelay : Nat
  databaseUrl : String
  dataPlaneBaseUrl : String
  workerStorageRoot : String
  workerControlRequestTimeout : Nat
  workerDataPlaneBindAddr : SocketAddr
  deriving DecidableEq, Repr

namespace BamepdConfig

def fromLookup (platform : ConfigPlatform) (get : Lookup) : Except Error BamepdConfig := do
  let udsPath ← requiredPath get envUdsPath
  let workerExecutable ← requiredPath get envWorkerExecutable
  let tlsCertPath ← requiredPath get envTlsCertPath
  let tlsKeyPath ← requiredPath get envTlsKeyPath
  let workerRestartDelay ← optionalMillis get envWorkerRestartDelayMs defaultRestartDelayMs minDelayMs maxDelayMs
  let workerReconnectDelay ← optionalMillis get envReconnectDelayMs defaultReconnectDelayMs minDelayMs maxDelayMs
  let databaseUrl ← requiredString get envDatabaseUrl
  let dataPlaneBaseUrl ← requiredHttpsOrigin platform get envDataPlaneBaseUrl
  let workerStorageRoot ← requiredPath get envStorageRoot
  let workerControlRequestTimeout ← optionalMillis get envControlRequestTimeoutMs defaultControlRequestTimeoutMs
    minControlRequestTimeoutMs maxControlRequestTimeoutMs
  let workerDataPlaneBindAddr ← requiredBindAddrMatchingOrigin platform get envDataPlaneBindAddr dataPlaneBaseUrl
  .ok {
    udsPath, workerExecutable, tlsCertPath, tlsKeyPath, workerRestartDelay, workerReconnectDelay, databaseUrl
    dataPlaneBaseUrl, workerStorageRoot, workerControlRequestTimeout, workerDataPlaneBindAddr
  }

end BamepdConfig
end Bamep
