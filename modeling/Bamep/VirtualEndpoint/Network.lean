import Bamep.Library.Run
import Bamep.Library.Text
import Bamep.VirtualEndpoint.Runtime
import Mathlib.Data.List.Nodup
import Mathlib.Data.List.Pairwise

/-! The isolated network of one BVE: `prepare` with its rollback, and `teardown`. The host is a list of bridges, TAPs,
veth pairs and namespaces; others may add to it between any two commands. Which resources this `prepare` created is
noted on them, and no command reads the note. -/
namespace Bamep.VirtualEndpoint
open Transition

def maxIdLen : Nat := 64

def maxIfnameLen : Nat := 15

def isNameChar (c : Char) : Bool := c.isAlphanum || c = '-' || c = '_'

structure BveId where
  text : List Char
  short : text ≠ [] ∧ text.length ≤ maxIdLen
  leads : text.head? ≠ some '-' ∧ text.head? ≠ some '.'
  plain : text.all isNameChar = true

-- What `IfName::new` accepts.
def ifNameValid (name : String) : Bool :=
  name.toList ≠ [] && name.toList.length ≤ maxIfnameLen && name.toList.head? ≠ some '-' && name ≠ "." && name ≠ ".." &&
    name.toList.all isNameChar

def fnv1a64 (bytes : List UInt8) : UInt64 :=
  bytes.foldl (fun hash byte => (hash ^^^ byte.toUInt64) * 0x100000001b3) 0xcbf29ce484222325

inductive NetResourceKind where
  | bridge | tap | veth | netns
  deriving DecidableEq, Repr

structure NetResource where
  kind : NetResourceKind
  name : String
  deriving DecidableEq, Repr

structure BveNetworkPlan where
  shortHash : String
  bridge : String
  tap : String
  vethHost : String
  vethPeer : String
  netns : String
  deriving DecidableEq, Repr

namespace BveNetworkPlan

def ofHash (shortHash : String) : BveNetworkPlan where
  shortHash := shortHash
  bridge := "bvbr" ++ shortHash
  tap := "bvtap" ++ shortHash
  vethHost := "bvh" ++ shortHash
  vethPeer := "bvp" ++ shortHash
  netns := "bve-" ++ shortHash

-- The text of an id is ASCII, so that a character is its own byte.
def forBve (id : BveId) : BveNetworkPlan :=
  ofHash (String.ofList (Text.hex 8 (fnv1a64 (id.text.map fun c => .ofNat c.toNat)).toUInt32.toNat))

variable (plan : BveNetworkPlan)

def collisionCandidates : List NetResource :=
  [⟨.bridge,plan.bridge⟩,⟨.tap,plan.tap⟩,⟨.veth,plan.vethHost⟩,⟨.veth,plan.vethPeer⟩,⟨.netns,plan.netns⟩]

def creationOrder : List NetResource :=
  [⟨.bridge,plan.bridge⟩,⟨.tap,plan.tap⟩,⟨.veth,plan.vethHost⟩,⟨.netns,plan.netns⟩]

end BveNetworkPlan

/- What is unique on a host: the name of an interface in its namespace, and the name of a namespace. -/
inductive HostName where
  | link (space : Option String) (name : String)
  | netns (name : String)
  deriving DecidableEq, Repr

def HostName.space : HostName → Option String
  | .link space _ => space
  | .netns _ => none

inductive NetObject where
  | bridge (space : Option String) (name : String)
  | tap (space : Option String) (name : String) (owner : String)
  | veth (space : Option String) (name : String) (peerSpace : Option String) (peer : String)
  | netns (name : String)
  deriving DecidableEq, Repr

def NetObject.names : NetObject → List HostName
  | .bridge space name | .tap space name _ => [.link space name]
  | .veth space name peerSpace peer => [.link space name,.link peerSpace peer]
  | .netns name => [.netns name]

structure HostResource where
  object : NetObject
  ours : Bool
  deriving DecidableEq, Repr

abbrev HostResource.names (r : HostResource) : List HostName := r.object.names

def hostNames (resources : List HostResource) : List HostName := resources.flatMap HostResource.names

structure HostValid (resources : List HostResource) : Prop where
  distinct : (hostNames resources).Nodup
  inside : ∀ n ∈ hostNames resources, ∀ space ∈ n.space, .netns space ∈ hostNames resources

structure NetHost where
  resources : List HostResource
  valid : HostValid resources

namespace NetResource
variable (c : NetResource)

def hostName : HostName :=
  match c.kind with
  | .netns => .netns c.name
  | .bridge | .tap | .veth => .link none c.name

/- What `remove_resource` takes away: an interface with its other end, and a namespace with all that is inside. -/
def deletes (r : HostResource) : Bool :=
  match c.kind with
  | .bridge | .veth => .link none c.name ∈ r.names
  | .tap =>
    match r.object with
    | .tap none name _ => name = c.name
    | _ => false
  | .netns => .netns c.name ∈ r.names || r.names.any fun n => n.space = some c.name

end NetResource

def moveName (link netns : String) (n : HostName) : HostName :=
  if n = .link none link then .link (some netns) link else n

def moveSpace (link netns : String) (space : Option String) (name : String) : Option String :=
  if space = none ∧ name = link then some netns else space

def NetObject.moved (link netns : String) : NetObject → NetObject
  | .bridge space name => .bridge (moveSpace link netns space name) name
  | .tap space name owner => .tap (moveSpace link netns space name) name owner
  | .veth space name peerSpace peer =>
    .veth (moveSpace link netns space name) name (moveSpace link netns peerSpace peer) peer
  | .netns name => .netns name

def HostResource.moved (link netns : String) (r : HostResource) : HostResource := { r with object := r.object.moved link netns }

section Moving
variable {link netns : String}

theorem moveLink (space : Option String) (name : String) :
    HostName.link (moveSpace link netns space name) name = moveName link netns (.link space name) := by
  unfold moveSpace moveName
  by_cases here : space = none ∧ name = link
  · simp [here]
  · simp [here]

theorem movedNames (o : NetObject) : (o.moved link netns).names = o.names.map (moveName link netns) := by
  cases o with
  | bridge | tap | veth => simp [NetObject.moved,NetObject.names,moveLink]
  | netns => simp [NetObject.moved,NetObject.names,moveName]

theorem hostNamesMoved (resources : List HostResource) :
    hostNames (resources.map (HostResource.moved link netns)) = (hostNames resources).map (moveName link netns) := by
  induction resources with
  | nil => rfl
  | cons r rest ih =>
    simp only [hostNames,List.map_cons,List.flatMap_cons,List.map_append] at ih ⊢
    rw [ih]
    congr 1
    exact movedNames r.object

theorem moveNameInjective {names : List HostName} (free : .link (some netns) link ∉ names) :
    ∀ m ∈ names, ∀ n ∈ names, moveName link netns m = moveName link netns n → m = n := by
  intro m left n right same
  unfold moveName at same
  split at same <;> split at same
  · rename_i here there
    rw [here,there]
  · exact absurd (same ▸ right) free
  · exact absurd (same ▸ left) free
  · exact same

end Moving

section Validity
variable {resources : List HostResource} {r : HostResource}

-- Room for a new resource: its names are free, and the namespaces of its interfaces are there.
def Fits (resources : List HostResource) (o : NetObject) : Prop :=
  o.names.Nodup ∧ (∀ n ∈ o.names, n ∉ hostNames resources) ∧
    ∀ n ∈ o.names, ∀ space ∈ n.space, .netns space ∈ hostNames resources

instance fitsDecidable (resources : List HostResource) (o : NetObject) : Decidable (Fits resources o) :=
  inferInstanceAs (Decidable (_ ∧ _ ∧ _))

theorem hostNamesAdd : hostNames (resources ++ [r]) = hostNames resources ++ r.names := by
  simp [hostNames]

theorem memHostNames {n} : n ∈ hostNames resources ↔ ∃ r ∈ resources, n ∈ r.names := List.mem_flatMap

theorem validAdd (valid : HostValid resources) (fits : Fits resources r.object) : HostValid (resources ++ [r]) := by
  refine ⟨?_,?_⟩
  · rw [hostNamesAdd]
    exact valid.distinct.append fits.1 fun n old new => fits.2.1 n new old
  · intro n mem space here
    rw [hostNamesAdd] at mem ⊢
    refine List.mem_append_left _ ?_
    rcases List.mem_append.mp mem with old | new
    · exact valid.inside n old space here
    · exact fits.2.2 n new space here

theorem validMove {link netns : String} (valid : HostValid resources) (there : .netns netns ∈ hostNames resources)
    (free : .link (some netns) link ∉ hostNames resources) :
    HostValid (resources.map (HostResource.moved link netns)) := by
  have kept : ∀ space, .netns space ∈ hostNames resources →
      .netns space ∈ (hostNames resources).map (moveName link netns) := fun space mem =>
    List.mem_map.mpr ⟨_,mem,by simp [moveName]⟩
  refine ⟨?_,?_⟩ <;> rw [hostNamesMoved]
  · exact valid.distinct.map_on (moveNameInjective free)
  · intro n mem space here
    obtain ⟨old,before,rfl⟩ := List.mem_map.mp mem
    unfold moveName at here
    split at here
    · cases here
      exact kept netns there
    · exact kept space (valid.inside old before space here)

theorem hostNamesFilter (p : HostResource → Bool) (resources : List HostResource) :
    (hostNames (resources.filter p)).Sublist (hostNames resources) := by
  induction resources with
  | nil => exact .slnil
  | cons r rest ih =>
    rw [List.filter_cons]
    split
    · exact (List.Sublist.refl r.names).append ih
    · exact ih.trans (List.sublist_append_right r.names _)

theorem netnsObject {space} (named : .netns space ∈ r.names) : r.object = .netns space := by
  unfold HostResource.names at named
  cases shape : r.object <;> rw [shape] at named <;> simp_all [NetObject.names]

-- A namespace goes only with what is inside it.
theorem validDelete (valid : HostValid resources) (c : NetResource) : HostValid (resources.filter fun r => !c.deletes r) := by
  refine ⟨valid.distinct.sublist (hostNamesFilter _ _),fun n mem space here => ?_⟩
  obtain ⟨r,mem,name⟩ := memHostNames.mp mem
  obtain ⟨mem,stays⟩ := List.mem_filter.mp mem
  obtain ⟨owner,there,named⟩ := memHostNames.mp (valid.inside n (memHostNames.mpr ⟨r,mem,name⟩) space here)
  refine memHostNames.mpr ⟨owner,List.mem_filter.mpr ⟨there,?_⟩,named⟩
  have object := netnsObject named
  cases kind : c.kind with
  | bridge | veth => simp [NetResource.deletes,kind,HostResource.names,object,NetObject.names]
  | tap => simp [NetResource.deletes,kind,object]
  | netns =>
    have apart : space ≠ c.name := by
      rintro rfl
      have goes : c.deletes r = true := by
        simp only [NetResource.deletes,kind,Bool.or_eq_true]
        exact .inr (List.any_eq_true.mpr ⟨n,name,by simpa using here⟩)
      rw [goes] at stays
      cases stays
    simp [NetResource.deletes,kind,HostResource.names,object,NetObject.names,HostName.space,apart.symm]

end Validity

inductive IpCommand where
  | add (object : NetObject)
  -- An attribute of what has the name.
  | set (name : HostName)
  | setNetns (link netns : String)
  | del (resource : NetResource)
  deriving DecidableEq, Repr

/- The effect of a command that succeeds; `none` is a failure, which changes nothing. -/
def NetHost.perform (host : NetHost) : IpCommand → Option NetHost
  | .add object =>
    if fits : Fits host.resources object then
      some ⟨host.resources ++ [⟨object,true⟩],validAdd host.valid fits⟩
    else none
  | .set name => if name ∈ hostNames host.resources then some host else none
  | .setNetns link netns =>
    if ready : .link none link ∈ hostNames host.resources ∧ .netns netns ∈ hostNames host.resources ∧
        .link (some netns) link ∉ hostNames host.resources then
      some ⟨host.resources.map (HostResource.moved link netns),validMove host.valid ready.2.1 ready.2.2⟩
    else none
  | .del resource =>
    if host.resources.any resource.deletes then
      some ⟨host.resources.filter fun r => !resource.deletes r,validDelete host.valid resource⟩
    else none

def NetHost.appear (host : NetHost) (object : NetObject) : Option NetHost :=
  if fits : Fits host.resources object then
    some ⟨host.resources ++ [⟨object,false⟩],validAdd host.valid fits⟩
  else none

inductive ToolFailure where
  | unavailable (source : IoError)
  -- A failing status, with its trimmed output.
  | exit (stderr : String)
  deriving DecidableEq, Repr

inductive BveNetworkError where
  | toolUnavailable (tool : String) (source : IoError)
  | tunUnavailable (detail : String)
  | privilegeRequired (operation : String)
  | resourceAlreadyExists (kind : NetResourceKind) (name : String)
  | setupFailed (operation stderr : String)
  | unparseableToolOutput (tool detail : String)
  | l2IsolationViolated (bridge member : String) (physical : Bool)
  | fixtureStillRunning (netns : String) (pids : List String)
  | networkStillInUse (tap : String)
  -- `none` is a missing privilege.
  | cleanupFailed (resource : NetResource) (cause : Option ToolFailure)
  deriving DecidableEq, Repr

def textContains (text part : String) : Bool :=
  (List.range (text.length + 1)).any fun n => part.toList.isPrefixOf (text.toList.drop n)

def toolError (operation : String) : ToolFailure → BveNetworkError
  | .unavailable source => .toolUnavailable "ip" source
  | .exit stderr =>
    let lower := String.ofList (stderr.toList.map Char.toLower)
    if textContains lower "not permitted" || textContains lower "permission denied" || textContains lower "must be root" then
      .privilegeRequired operation
    else .setupFailed operation stderr

-- What `ip` prints when the host refuses the command.
def refusal : IpCommand → String
  | .add _ => "RTNETLINK answers: File exists"
  | .set _ | .setNetns _ _ | .del ⟨.bridge,_⟩ | .del ⟨.tap,_⟩ | .del ⟨.veth,_⟩ => "Cannot find device"
  | .del ⟨.netns,_⟩ => "Cannot remove namespace file: No such file or directory"

def runIp (host : NetHost) (operation : String) (command : IpCommand) (fails : Option ToolFailure) :
    NetHost × Option BveNetworkError :=
  match fails,host.perform command with
  | some failure,_ => (host,some (toolError operation failure))
  | none,some host' => (host',none)
  | none,none => (host,some (toolError operation (.exit (refusal command))))

def removeOperation : NetResourceKind → String
  | .netns => "del-netns"
  | .veth => "del-veth"
  | .tap => "del-tap"
  | .bridge => "del-bridge"

def removeResource (host : NetHost) (resource : NetResource) (fails : Option ToolFailure) :
    NetHost × Option BveNetworkError :=
  match runIp host (removeOperation resource.kind) (.del resource) fails with
  | (host',none) => (host',none)
  | (host',some (.setupFailed _ stderr)) =>
    -- Something has already removed it.
    if textContains stderr "Cannot find" || textContains stderr "does not exist" || textContains stderr "No such file" then
      (host',none)
    else (host',some (.cleanupFailed resource (some (.exit stderr))))
  | (host',some (.toolUnavailable _ source)) => (host',some (.cleanupFailed resource (some (.unavailable source))))
  -- The one error of `run_ip` that is left is a missing privilege.
  | (host',some _) => (host',some (.cleanupFailed resource none))

structure NetStep where
  operation : String
  command : IpCommand
  -- Recorded once the command has succeeded.
  records : Option NetResource
  deriving DecidableEq, Repr

def prepareInner (plan : BveNetworkPlan) (tapOwner : String) : List NetStep :=
  let br := plan.bridge
  let tap := plan.tap
  let vh := plan.vethHost
  let vp := plan.vethPeer
  let ns := plan.netns
  [⟨"create-bridge",.add (.bridge none br),some ⟨.bridge,br⟩⟩,
    ⟨"bridge-up",.set (.link none br),none⟩,
    ⟨"create-tap",.add (.tap none tap tapOwner),some ⟨.tap,tap⟩⟩,
    ⟨"tap-master",.set (.link none tap),none⟩,
    ⟨"tap-up",.set (.link none tap),none⟩,
    ⟨"create-veth",.add (.veth none vh none vp),some ⟨.veth,vh⟩⟩,
    ⟨"veth-master",.set (.link none vh),none⟩,
    ⟨"veth-host-up",.set (.link none vh),none⟩,
    ⟨"create-netns",.add (.netns ns),some ⟨.netns,ns⟩⟩,
    ⟨"veth-peer-netns",.setNetns vp ns,none⟩,
    -- Every namespace has its `lo`.
    ⟨"netns-lo-up",.set (.netns ns),none⟩,
    ⟨"veth-peer-up",.set (.link (some ns) vp),none⟩,
    ⟨"veth-peer-addr",.set (.link (some ns) vp),none⟩]

def physicalPrefixes : List String := ["eth","en","wl","docker","bond","br-"]

def assertOnlyExpectedMembers (plan : BveNetworkPlan) : List String → Option BveNetworkError
  | [] => none
  | member :: rest =>
    if physicalPrefixes.any (fun p => p.toList <+: member.toList && member ≠ plan.bridge) then
      some (.l2IsolationViolated plan.bridge member true)
    else if member ≠ plan.tap ∧ member ≠ plan.vethHost then some (.l2IsolationViolated plan.bridge member false)
    else assertOnlyExpectedMembers plan rest

inductive NetPhase where
  | prerequisites
  | checking (todo : List NetResource)
  | creating (todo : List NetStep)
  | verifying
  | rollingBack (todo : List NetResource) (e : BveNetworkError)
  | failed (e : BveNetworkError)
  | prepared
  | tearing (todo : List NetResource) (first : Option BveNetworkError)
  | tornDown (first : Option BveNetworkError)
  deriving DecidableEq, Repr

def NetPhase.early : NetPhase → Bool
  | .prerequisites | .checking _ => true
  | _ => false

structure NetRun where
  host : NetHost
  phase : NetPhase
  created : List NetResource
  -- What others have added since the start.
  appeared : List NetObject

inductive NetOp where
  | appear (object : NetObject)
  | prerequisites (error : Option BveNetworkError)
  -- The next `ip` command, or look at `/run/netns`.
  | ip (fails : Option ToolFailure)
  | members (answer : Except BveNetworkError (List String))
  | teardown (pids : List String) (client : Bool) (sweep : Option BveNetworkError)

namespace NetRun
variable (plan : BveNetworkPlan) (tapOwner : String) (s : NetRun)

def start (host : NetHost) : NetRun := ⟨host,.prerequisites,[],[]⟩

def rollback (e : BveNetworkError) : NetRun :=
  { s with phase := if s.created = [] then .failed e else .rollingBack s.created.reverse e }

-- `interface_exists` takes a failing `ip` for an absent interface.
def exists_ (c : NetResource) (fails : Option ToolFailure) : Bool := fails.isNone && c.hostName ∈ hostNames s.host.resources

def check (c : NetResource) (rest : List NetResource) (fails : Option ToolFailure) : NetRun :=
  match fails,c.kind with
  | some (.unavailable source),.bridge | some (.unavailable source),.tap | some (.unavailable source),.veth =>
    { s with phase := .failed (.toolUnavailable "ip" source) }
  | _,_ =>
    if s.exists_ c fails then { s with phase := .failed (.resourceAlreadyExists c.kind c.name) }
    else { s with phase := if rest = [] then .creating (prepareInner plan tapOwner) else .checking rest }

def record (step : NetStep) (rest : List NetStep) (host' : NetHost) : NetRun :=
  { s with
    host := host'
    created := s.created ++ step.records.toList
    phase := if rest = [] then .verifying else .creating rest }

def create (step : NetStep) (rest : List NetStep) (fails : Option ToolFailure) : NetRun :=
  match runIp s.host step.operation step.command fails with
  | (host',none) => s.record step rest host'
  | (host',some e) => rollback { s with host := host' } e

def after : NetOp → NetRun
  | .appear object =>
    match s.host.appear object with
    | some host' => { s with host := host', appeared := s.appeared ++ [object] }
    | none => s
  | .prerequisites error =>
    match s.phase,error with
    | .prerequisites,some e => { s with phase := .failed e }
    | .prerequisites,none => { s with phase := .checking plan.collisionCandidates }
    | _,_ => s
  | .ip fails =>
    match s.phase with
    | .checking (c :: rest) => s.check plan tapOwner c rest fails
    | .creating (step :: rest) => s.create step rest fails
    | .rollingBack (c :: rest) e =>
      { s with
        host := (removeResource s.host c fails).1
        phase := if rest = [] then .failed e else .rollingBack rest e }
    | .tearing (c :: rest) first =>
      let removed := removeResource s.host c fails
      let first' := first.orElse fun _ => removed.2
      { s with host := removed.1, phase := if rest = [] then .tornDown first' else .tearing rest first' }
    | _ => s
  | .members answer =>
    match s.phase,answer with
    | .verifying,.error e => s.rollback e
    | .verifying,.ok members =>
      match assertOnlyExpectedMembers plan members with
      | some e => s.rollback e
      | none => { s with phase := .prepared }
    | _,_ => s
  | .teardown pids client sweep =>
    match s.phase with
    | .prepared =>
      if pids ≠ [] then s
      else if client then s
      else { s with phase := .tearing s.created.reverse sweep }
    | _ => s

-- The resources that are still to be removed, now or in a later `teardown` or rollback.
def remaining : List NetResource :=
  match s.phase with
  | .rollingBack todo _ | .tearing todo _ => todo
  | .failed _ | .tornDown _ => []
  | .prerequisites | .checking _ | .creating _ | .verifying | .prepared => s.created

def removing : Bool :=
  match s.phase with
  | .rollingBack _ _ | .tearing _ _ | .failed _ | .tornDown _ => true
  | .prerequisites | .checking _ | .creating _ | .verifying | .prepared => false

def ended : Bool :=
  match s.phase with
  | .failed _ | .tornDown _ => true
  | _ => false

/- Others put nothing into the namespace this run has created, and take no name that a rollback or teardown has begun
to remove and not come to. Any name may appear while `prepare` checks and creates. -/
def Apart : NetOp → Prop
  | .appear object => ∀ c ∈ s.remaining, (c.kind = .netns → ∀ n ∈ object.names, n.space ≠ some c.name) ∧
      (s.removing = true → c.hostName ∉ object.names)
  | _ => True

-- The commands that remove do not fail by themselves.
def Removes : NetOp → Prop
  | .ip fails => s.removing = true → fails = none
  | _ => True

instance apartDecidable : (op : NetOp) → Decidable (s.Apart op)
  | .appear object => inferInstanceAs (Decidable (∀ c ∈ s.remaining,
      (c.kind = .netns → ∀ n ∈ object.names, n.space ≠ some c.name) ∧
        (s.removing = true → c.hostName ∉ object.names)))
  | .prerequisites _ | .ip _ | .members _ | .teardown _ _ _ => isTrue trivial

instance removesDecidable : (op : NetOp) → Decidable (s.Removes op)
  | .ip fails => inferInstanceAs (Decidable (s.removing = true → fails = none))
  | .appear _ | .prerequisites _ | .members _ | .teardown _ _ _ => isTrue trivial

end NetRun

def others (resources : List HostResource) : List NetObject :=
  (resources.filter fun r => !r.ours).map HostResource.object

-- A step of `prepare_inner` records what it makes, and moves only the peer.
def StepOk (plan : BveNetworkPlan) (step : NetStep) : Prop :=
  match step.command with
  | .add object => ∃ c, step.records = some c ∧ c ∈ plan.creationOrder ∧ c.deletes ⟨object,true⟩ = true ∧
      c.hostName ∈ object.names
  | .set _ => step.records = none
  | .setNetns link netns => step.records = none ∧ link = plan.vethPeer ∧ netns = plan.netns
  | .del _ => False

-- The peer is in the host's namespace, where it was made, when it is moved.
def peerReady (plan : BveNetworkPlan) : Bool → List NetStep → Bool
  | _,[] => true
  | made,step :: rest =>
    match step.command with
    | .add object => peerReady plan (made || .link none plan.vethPeer ∈ object.names) rest
    | .setNetns _ _ => made && peerReady plan false rest
    | .set _ | .del _ => peerReady plan made rest

section Plan
variable (hash tapOwner : String)

theorem prepareInnerOk : ∀ step ∈ prepareInner (.ofHash hash) tapOwner, StepOk (.ofHash hash) step := by
  intro step mem
  simp only [prepareInner,List.mem_cons,List.not_mem_nil,or_false] at mem
  rcases mem with rfl | rfl | rfl | rfl | rfl | rfl | rfl | rfl | rfl | rfl | rfl | rfl | rfl <;>
    simp [StepOk,BveNetworkPlan.creationOrder,NetResource.deletes,NetResource.hostName,HostResource.names,NetObject.names]

theorem prepareInnerPeer : peerReady (.ofHash hash) false (prepareInner (.ofHash hash) tapOwner) = true := by
  simp [peerReady,prepareInner,NetObject.names]

-- The names end in the same hash, and their beginnings differ.
theorem peerApart {c} (mem : c ∈ (BveNetworkPlan.ofHash hash).creationOrder) :
    c.hostName ≠ .link none (BveNetworkPlan.ofHash hash).vethPeer := by
  simp only [BveNetworkPlan.creationOrder,List.mem_cons,List.not_mem_nil,or_false] at mem
  rcases mem with rfl | rfl | rfl | rfl <;> simp [NetResource.hostName,BveNetworkPlan.ofHash]

end Plan

section Deletes
variable {resources : List HostResource} {r : HostResource} {c : NetResource}

/- What is deleted has the name, or is an interface inside the namespace of that name. -/
theorem deletesCases (deletes : c.deletes r = true) :
    c.hostName ∈ r.names ∨ (c.kind = .netns ∧ ∃ n ∈ r.names, n.space = some c.name) := by
  cases kind : c.kind with
  | bridge | veth =>
    simp only [NetResource.deletes,kind,decide_eq_true_eq] at deletes
    simp only [NetResource.hostName,kind]
    exact .inl deletes
  | tap =>
    simp only [NetResource.deletes,kind] at deletes
    simp only [NetResource.hostName,kind]
    cases shape : r.object with
    | tap space name owner =>
      rw [shape] at deletes
      cases space with
      | none =>
        simp only [decide_eq_true_eq] at deletes
        exact .inl (by simp [HostResource.names,shape,NetObject.names,deletes])
      | some space => simp at deletes
    | bridge | veth | netns => simp [shape] at deletes
  | netns =>
    simp only [NetResource.deletes,kind,Bool.or_eq_true,decide_eq_true_eq,List.any_eq_true] at deletes
    simp only [NetResource.hostName,kind]
    exact deletes.imp id fun inside => ⟨trivial,inside⟩

theorem deletesNamed (valid : HostValid resources) (mem : r ∈ resources) (deletes : c.deletes r = true) :
    c.hostName ∈ hostNames resources := by
  rcases deletesCases deletes with named | ⟨kind,n,named,inside⟩
  · exact memHostNames.mpr ⟨r,mem,named⟩
  · have there := valid.inside n (memHostNames.mpr ⟨r,mem,named⟩) c.name inside
    simpa [NetResource.hostName,kind] using there

theorem namedOnce (valid : HostValid resources) {other n} (mem : r ∈ resources)
    (there : other ∈ resources) (named : n ∈ r.names) (named' : n ∈ other.names) : r = other := by
  by_contra differ
  have disjoint := (List.nodup_flatMap.mp valid.distinct).2
  have symmetric : Std.Symm (Function.onFun List.Disjoint HostResource.names) :=
    ⟨fun _ _ apart _ left right => apart right left⟩
  exact disjoint.forall mem there differ named named'

end Deletes

-- The peer is in the host's namespace, and this run made it.
def PeerOurs (hash : String) (host : NetHost) : Prop :=
  ∃ r ∈ host.resources, r.ours = true ∧ .link none (BveNetworkPlan.ofHash hash).vethPeer ∈ r.names

/- What holds over a run: the resources of others are untouched, and what is to be removed is this run's own. -/
structure NetRun.Safe (hash : String) (before : List NetObject) (s : NetRun) : Prop where
  others : others s.host.resources = before ++ s.appeared
  ordered : ∀ c ∈ s.remaining ++ s.created, c ∈ (BveNetworkPlan.ofHash hash).creationOrder
  guarded : ∀ c ∈ s.remaining, ∀ r ∈ s.host.resources, c.deletes r = true → r.ours = true
  held : s.removing = false → ∀ c ∈ s.created, c.hostName ∈ hostNames s.host.resources
  clean : s.phase.early = true → s.created = []
  steps : ∀ todo, s.phase = .creating todo → (∀ step ∈ todo, StepOk (.ofHash hash) step) ∧
    ∃ made, peerReady (.ofHash hash) made todo = true ∧ (made = true → PeerOurs hash s.host)

def NetRun.Tidy (s : NetRun) : Prop :=
  ∀ r ∈ s.host.resources, r.ours = true → ∃ c ∈ s.remaining, c.deletes r = true

-- Both invariants together; the second needs removals that work.
structure NetRun.Keeps (hash : String) (before : List NetObject) (works : Prop) (s : NetRun) : Prop where
  safe : s.Safe hash before
  tidy : works → s.Tidy

section Others
variable {resources : List HostResource}

theorem othersAdd (r : HostResource) : others (resources ++ [r]) = others resources ++ if r.ours then [] else [r.object] := by
  cases ours : r.ours <;> simp [others,ours]

theorem othersDelete {c : NetResource} (guarded : ∀ r ∈ resources, c.deletes r = true → r.ours = true) :
    others (resources.filter fun r => !c.deletes r) = others resources := by
  unfold others
  rw [List.filter_filter]
  congr 1
  refine List.filter_congr fun r mem => ?_
  have own := guarded r mem
  cases ours : r.ours <;> cases goes : c.deletes r <;> simp_all

theorem movedSame {link netns} {r : HostResource} (apart : .link none link ∉ r.names) :
    r.moved link netns = r := by
  have space : ∀ space name, .link space name ≠ HostName.link none link → moveSpace link netns space name = space := by
    intro space name differ
    unfold moveSpace
    rw [if_neg]
    rintro ⟨rfl,rfl⟩
    exact differ rfl
  obtain ⟨object,ours⟩ := r
  cases object with
  | bridge s name | tap s name owner =>
    simp only [HostResource.names,NetObject.names,List.mem_singleton] at apart
    simp only [HostResource.moved,NetObject.moved,space s name (Ne.symm apart)]
  | veth s name peerSpace peer =>
    simp only [HostResource.names,NetObject.names,List.mem_cons,List.not_mem_nil,or_false,not_or] at apart
    simp only [HostResource.moved,NetObject.moved,space s name (Ne.symm apart.1),space peerSpace peer (Ne.symm apart.2)]
  | netns name => rfl

theorem othersMove {link netns : String} (own : ∀ r ∈ resources, .link none link ∈ r.names → r.ours = true) :
    others (resources.map (HostResource.moved link netns)) = others resources := by
  induction resources with
  | nil => rfl
  | cons r rest ih =>
    have tail := ih fun r mem => own r (List.mem_cons_of_mem _ mem)
    have head := own r List.mem_cons_self
    have tag : (r.moved link netns).ours = r.ours := rfl
    unfold others at tail ⊢
    rw [List.map_cons,List.filter_cons,List.filter_cons,tag]
    cases ours : r.ours with
    | true => simpa using tail
    | false =>
      have same : r.moved link netns = r := movedSame fun named => by simp [head named] at ours
      simp only [Bool.not_false,if_true,List.map_cons,same]
      rw [tail]

end Others

section Steps
variable {hash tapOwner : String} {before : List NetObject} {works : Prop} {s : NetRun}

theorem keepsQuiet (keeps : s.Keeps hash before works) {phase}
    (remaining : ∀ c, c ∈ NetRun.remaining { s with phase := phase } ↔ c ∈ s.remaining)
    (removing : NetRun.removing { s with phase := phase } = false → s.removing = false)
    (early : phase.early = true → s.phase.early = true)
    (steps : ∀ todo, phase = .creating todo → ∃ tapOwner, todo = prepareInner (.ofHash hash) tapOwner) :
    NetRun.Keeps hash before works { s with phase := phase } := by
  obtain ⟨safe,tidy⟩ := keeps
  refine ⟨⟨safe.others,fun c mem => safe.ordered c ?_,fun c mem => safe.guarded c ((remaining c).mp mem),
    fun forward => safe.held (removing forward),fun now => safe.clean (early now),fun todo same => ?_⟩,fun yes r mem ours => ?_⟩
  · exact List.mem_append.mpr ((List.mem_append.mp mem).imp (remaining c).mp id)
  · obtain ⟨tapOwner,rfl⟩ := steps todo same
    exact ⟨prepareInnerOk hash tapOwner,false,prepareInnerPeer hash tapOwner,fun made => by cases made⟩
  · obtain ⟨c,waits,deletes⟩ := tidy yes r mem ours
    exact ⟨c,(remaining c).mpr waits,deletes⟩

theorem rollbackRemaining (e : BveNetworkError) (c : NetResource) : c ∈ (s.rollback e).remaining ↔ c ∈ s.created := by
  unfold NetRun.rollback NetRun.remaining
  by_cases none_ : s.created = []
  · simp [none_]
  · simp [none_]

theorem rollbackRemoving (e : BveNetworkError) : (s.rollback e).removing = true := by
  unfold NetRun.rollback NetRun.removing
  by_cases none_ : s.created = []
  · simp [none_]
  · simp [none_]

theorem keepsRollback (keeps : s.Keeps hash before works) (forward : s.remaining = s.created) (e : BveNetworkError) :
    (s.rollback e).Keeps hash before works := by
  refine keepsQuiet keeps (fun c => (rollbackRemaining e c).trans (by rw [forward])) (fun back => ?_) (fun now => ?_) fun todo same => ?_
  · have removing : NetRun.removing (s.rollback e) = true := rollbackRemoving e
    rw [show NetRun.removing (s.rollback e) = false from back] at removing
    cases removing
  · split at now <;> cases now
  · split at same <;> cases same

theorem appearKeeps (keeps : s.Keeps hash before works) {object} (apart : s.Apart (.appear object))
    {host'} (appears : s.host.appear object = some host') :
    NetRun.Keeps hash before works { s with host := host', appeared := s.appeared ++ [object] } := by
  obtain ⟨safe,tidy⟩ := keeps
  unfold NetHost.appear at appears
  split at appears
  · rename_i fits
    cases appears
    have grows : ∀ n ∈ hostNames s.host.resources, n ∈ hostNames (s.host.resources ++ [⟨object,false⟩]) := by
      intro n mem
      rw [hostNamesAdd]
      exact List.mem_append_left _ mem
    refine ⟨⟨?_,safe.ordered,fun c waits r mem deletes => ?_,fun forward c mem => grows _ (safe.held forward c mem),
      safe.clean,?_⟩,fun yes r mem ours => ?_⟩
    · rw [othersAdd,safe.others]
      simp
    · rcases List.mem_append.mp mem with old | new
      · exact safe.guarded c waits r old deletes
      · -- Nothing that is to be removed takes the newcomer with it.
        exfalso
        cases List.mem_singleton.mp new
        rcases deletesCases deletes with named | ⟨kind,n,named,inside⟩
        · cases phase : s.removing with
          | true => exact (apart c waits).2 phase named
          | false =>
            have own : c ∈ s.created := by
              have same : s.remaining = s.created := by
                unfold NetRun.removing at phase
                unfold NetRun.remaining
                split at phase <;> simp_all
              exact same ▸ waits
            exact fits.2.1 _ named (safe.held phase c own)
        · exact (apart c waits).1 kind n named inside
    · intro todo same
      obtain ⟨ok,made,ready,peer⟩ := safe.steps todo same
      refine ⟨ok,made,ready,fun yes => ?_⟩
      obtain ⟨r,mem,facts⟩ := peer yes
      exact ⟨r,List.mem_append_left _ mem,facts⟩
    · rcases List.mem_append.mp mem with old | new
      · exact tidy yes r old ours
      · cases List.mem_singleton.mp new
        cases ours
  · cases appears

structure Makes (hash : String) (step : NetStep) (host host' : NetHost) : Prop where
  others : others host'.resources = others host.resources
  names : ∀ n ∈ hostNames host.resources, n ≠ .link none (BveNetworkPlan.ofHash hash).vethPeer →
    n ∈ hostNames host'.resources
  new : ∀ c ∈ step.records, c ∈ (BveNetworkPlan.ofHash hash).creationOrder ∧ c.hostName ∈ hostNames host'.resources ∧
    ∀ r ∈ host'.resources, c.deletes r = true → r.ours = true
  -- A resource of the host is new and recorded, or it was there and is deleted with what it was deleted with.
  origin : ∀ r ∈ host'.resources, (r.ours = true ∧ ∃ c ∈ step.records, c.deletes r = true) ∨
    ∃ old ∈ host.resources, old.ours = r.ours ∧
      (∀ c, c ∈ (BveNetworkPlan.ofHash hash).creationOrder → c.deletes old = true → c.deletes r = true) ∧
      (r.ours = false → r = old)

theorem makesAdd {step object} (ok : StepOk (.ofHash hash) step) (command : step.command = .add object)
    {host host'} (done : host.perform (.add object) = some host') : Makes hash step host host' := by
  rw [StepOk,command] at ok
  obtain ⟨c,records,ordered,deletes,named⟩ := ok
  simp only [NetHost.perform] at done
  split at done
  · rename_i fits
    cases done
    refine ⟨?_,fun n mem _ => ?_,fun c' recorded => ?_,fun r mem => ?_⟩
    · simp [othersAdd]
    · rw [hostNamesAdd]
      exact List.mem_append_left _ mem
    · rw [records] at recorded
      cases recorded
      refine ⟨ordered,?_,fun r mem goes => ?_⟩
      · rw [hostNamesAdd]
        exact List.mem_append_right _ named
      · rcases List.mem_append.mp mem with old | new
        · exact absurd (deletesNamed host.valid old goes) (fits.2.1 _ named)
        · rw [List.mem_singleton.mp new]
    · rcases List.mem_append.mp mem with old | new
      · exact .inr ⟨r,old,rfl,fun _ _ goes => goes,fun _ => rfl⟩
      · cases List.mem_singleton.mp new
        exact .inl ⟨rfl,c,records,deletes⟩
  · cases done

theorem deletesMoved {c : NetResource} {r link netns} (apart : c.hostName ≠ .link none link)
    (deletes : c.deletes r = true) : c.deletes (r.moved link netns) = true := by
  have names : (r.moved link netns).names = r.names.map (moveName link netns) := movedNames r.object
  cases kind : c.kind with
  | bridge | veth =>
    simp only [NetResource.hostName,kind] at apart
    simp only [NetResource.deletes,kind,decide_eq_true_eq,names] at deletes ⊢
    exact List.mem_map.mpr ⟨_,deletes,if_neg apart⟩
  | tap =>
    simp only [NetResource.hostName,kind] at apart
    simp only [NetResource.deletes,kind,HostResource.moved] at deletes ⊢
    cases shape : r.object with
    | tap space name owner =>
      rw [shape] at deletes
      cases space with
      | none =>
        simp only [decide_eq_true_eq] at deletes
        have stays : moveSpace link netns none name = none := by
          refine if_neg ?_
          rintro ⟨_,rfl⟩
          exact apart (by rw [deletes])
        simp only [NetObject.moved,stays,decide_eq_true_eq]
        exact deletes
      | some space => simp at deletes
    | bridge | veth | netns => simp [shape] at deletes
  | netns =>
    simp only [NetResource.deletes,kind,Bool.or_eq_true,decide_eq_true_eq,List.any_eq_true,names] at deletes ⊢
    rcases deletes with named | ⟨n,mem,inside⟩
    · exact .inl (List.mem_map.mpr ⟨_,named,by simp [moveName]⟩)
    · refine .inr ⟨n,List.mem_map.mpr ⟨n,mem,if_neg ?_⟩,inside⟩
      rintro rfl
      cases inside

theorem makesMove {step : NetStep} {link netns} (ok : StepOk (.ofHash hash) step)
    (command : step.command = .setNetns link netns) {host host'} (peer : PeerOurs hash host)
    (done : host.perform (.setNetns link netns) = some host') : Makes hash step host host' := by
  rw [StepOk,command] at ok
  obtain ⟨records,rfl,rfl⟩ := ok
  obtain ⟨own,there,ours,named⟩ := peer
  have alone : ∀ r ∈ host.resources, .link none (BveNetworkPlan.ofHash hash).vethPeer ∈ r.names → r.ours = true := by
    intro r mem named'
    rw [namedOnce host.valid mem there named' named]
    exact ours
  simp only [NetHost.perform] at done
  split at done
  · cases done
    refine ⟨othersMove alone,fun n mem apart => ?_,fun c recorded => ?_,fun r mem => ?_⟩
    · rw [hostNamesMoved]
      exact List.mem_map.mpr ⟨n,mem,if_neg apart⟩
    · rw [records] at recorded
      cases recorded
    · obtain ⟨old,was,rfl⟩ := List.mem_map.mp mem
      refine .inr ⟨old,was,rfl,fun c ordered goes => deletesMoved (peerApart hash ordered) goes,fun foreign => ?_⟩
      refine movedSame fun named' => ?_
      have mine := alone old was named'
      rw [show old.ours = false from foreign] at mine
      cases mine
  · cases done

theorem makesSet {step name} (ok : StepOk (.ofHash hash) step) (command : step.command = .set name)
    {host host'} (done : host.perform (.set name) = some host') : Makes hash step host host' := by
  rw [StepOk,command] at ok
  simp only [NetHost.perform] at done
  split at done
  · cases done
    refine ⟨rfl,fun n mem _ => mem,fun c recorded => ?_,fun r mem => .inr ⟨r,mem,rfl,fun _ _ goes => goes,fun _ => rfl⟩⟩
    rw [ok] at recorded
    cases recorded
  · cases done

theorem makesStep {step rest made} (ok : StepOk (.ofHash hash) step)
    (ready : peerReady (.ofHash hash) made (step :: rest) = true) {host host'}
    (peer : made = true → PeerOurs hash host) (done : host.perform step.command = some host') :
    Makes hash step host host' ∧ ∃ made', peerReady (.ofHash hash) made' rest = true ∧ (made' = true → PeerOurs hash host') := by
  cases command : step.command with
  | add object =>
    rw [command] at done
    simp only [peerReady,command] at ready
    refine ⟨makesAdd ok command done,_,ready,fun yes => ?_⟩
    simp only [NetHost.perform] at done
    split at done
    · cases done
      rcases Bool.or_eq_true_iff.mp yes with old | new
      · obtain ⟨r,mem,facts⟩ := peer old
        exact ⟨r,List.mem_append_left _ mem,facts⟩
      · exact ⟨⟨object,true⟩,List.mem_append_right _ (List.mem_singleton.mpr rfl),rfl,by simpa using new⟩
    · cases done
  | set name =>
    rw [command] at done
    simp only [peerReady,command] at ready
    refine ⟨makesSet ok command done,made,ready,fun yes => ?_⟩
    simp only [NetHost.perform] at done
    split at done
    · cases done
      exact peer yes
    · cases done
  | setNetns link netns =>
    rw [command] at done
    simp only [peerReady,command,Bool.and_eq_true] at ready
    exact ⟨makesMove ok command (peer ready.1) done,false,ready.2,fun yes => by cases yes⟩
  | del resource =>
    rw [StepOk,command] at ok
    exact ok.elim

theorem runIpCases (host : NetHost) (operation : String) (command : IpCommand) (fails : Option ToolFailure) :
    (∃ host', host.perform command = some host' ∧ runIp host operation command fails = (host',none)) ∨
      ∃ e, runIp host operation command fails = (host,some e) := by
  unfold runIp
  split
  · exact .inr ⟨_,rfl⟩
  · exact .inl ⟨_,‹_›,rfl⟩
  · exact .inr ⟨_,rfl⟩

theorem recordRemaining (s : NetRun) (step : NetStep) (rest : List NetStep) (host' : NetHost) :
    (s.record step rest host').remaining = s.created ++ step.records.toList := by
  by_cases last : rest = [] <;> simp [NetRun.record,NetRun.remaining,last]

theorem createdKeeps (keeps : s.Keeps hash before works) {step rest}
    (phase : s.phase = .creating (step :: rest)) {host'} (done : s.host.perform step.command = some host') :
    (s.record step rest host').Keeps hash before works := by
  obtain ⟨safe,tidy⟩ := keeps
  obtain ⟨ok,made,ready,peer⟩ := safe.steps _ phase
  obtain ⟨makes,made',ready',peer'⟩ := makesStep (ok step List.mem_cons_self) ready peer done
  have forward : s.remaining = s.created ∧ s.removing = false := by simp [NetRun.remaining,NetRun.removing,phase]
  have ordered : ∀ c ∈ s.created, c ∈ (BveNetworkPlan.ofHash hash).creationOrder := fun c mem =>
    safe.ordered c (List.mem_append_right _ mem)
  have recorded : ∀ {c}, c ∈ s.created ++ step.records.toList → c ∈ s.created ∨ c ∈ step.records := fun mem =>
    (List.mem_append.mp mem).imp id fun mem => Option.mem_toList.mp mem
  have remaining := recordRemaining s step rest host'
  refine ⟨⟨makes.others.trans safe.others,fun c mem => ?_,fun c waits r mem goes => ?_,fun _ c mem => ?_,
    fun now => ?_,?_⟩,fun yes r mem ours => ?_⟩
  · rw [remaining,NetRun.record,List.mem_append,or_self] at mem
    rcases recorded mem with old | new
    · exact ordered c old
    · exact (makes.new c new).1
  · rw [remaining] at waits
    rcases recorded waits with old | new
    · rcases makes.origin r mem with ⟨ours,_⟩ | ⟨was,there,same,_,still⟩
      · exact ours
      · cases ours : r.ours with
        | true => rfl
        | false =>
          obtain rfl := still ours
          exact (safe.guarded c (forward.1 ▸ old) r there goes).symm.trans ours |>.symm
    · exact (makes.new c new).2.2 r mem goes
  · rcases recorded mem with old | new
    · exact makes.names _ (safe.held forward.2 c old) (peerApart hash (ordered c old))
    · exact (makes.new c new).2.1
  · dsimp only [NetRun.record] at now
    split at now <;> cases now
  · intro todo same
    dsimp only [NetRun.record] at same
    split at same
    · cases same
    · cases same
      exact ⟨fun step mem => ok step (List.mem_cons_of_mem _ mem),made',ready',peer'⟩
  · rw [remaining]
    rcases makes.origin r mem with ⟨_,c,new,goes⟩ | ⟨was,there,same,goes,_⟩
    · exact ⟨c,List.mem_append_right _ (Option.mem_toList.mpr new),goes⟩
    · obtain ⟨c,waits,gone⟩ := tidy yes was there (same.trans ours)
      have created : c ∈ s.created := forward.1 ▸ waits
      exact ⟨c,List.mem_append_left _ created,goes c (ordered c created) gone⟩

theorem removeHost (host : NetHost) (c : NetResource) (fails : Option ToolFailure) :
    (removeResource host c fails).1 = (runIp host (removeOperation c.kind) (.del c) fails).1 := by
  unfold removeResource
  split
  · simp_all
  · split <;> simp_all
  · simp_all
  · simp_all

/- A removal takes away what has the name, or nothing; if the command works, nothing of it is left. -/
theorem removeCases (host : NetHost) (c : NetResource) (fails : Option ToolFailure) :
    ((removeResource host c fails).1.resources = host.resources ∨
      (removeResource host c fails).1.resources = host.resources.filter fun r => !c.deletes r) ∧
    (fails = none → ∀ r ∈ (removeResource host c fails).1.resources, c.deletes r = false) := by
  rw [removeHost]
  cases fails with
  | some failure => exact ⟨.inl rfl,fun works => by cases works⟩
  | none =>
    by_cases found : host.resources.any c.deletes = true
    · have done : (runIp host (removeOperation c.kind) (.del c) none).1.resources =
          host.resources.filter fun r => !c.deletes r := by
        simp [runIp,NetHost.perform,found]
      rw [done]
      exact ⟨.inr rfl,fun _ r mem => by simpa using (List.mem_filter.mp mem).2⟩
    · have done : (runIp host (removeOperation c.kind) (.del c) none).1 = host := by
        simp [runIp,NetHost.perform,found]
      rw [done]
      refine ⟨.inl rfl,fun _ r mem => Bool.eq_false_iff.mpr fun goes => found ?_⟩
      exact List.any_eq_true.mpr ⟨r,mem,goes⟩

theorem removedKeeps (keeps : s.Keeps hash before works) {c rest}
    (waiting : s.remaining = c :: rest) {last more fails} (removes : works → fails = none)
    (ends : NetRun.remaining { s with phase := last } = [] ∧ NetRun.removing { s with phase := last } = true)
    (goes : NetRun.remaining { s with phase := more } = rest ∧ NetRun.removing { s with phase := more } = true) :
    NetRun.Keeps hash before works
      { s with host := (removeResource s.host c fails).1, phase := if rest = [] then last else more } := by
  obtain ⟨safe,tidy⟩ := keeps
  generalize ended : (if rest = [] then last else more) = phase
  have next : NetRun.remaining { s with phase := phase } = rest ∧ NetRun.removing { s with phase := phase } = true := by
    split at ended
    · exact ended ▸ ‹rest = []› ▸ ends
    · exact ended ▸ goes
  obtain ⟨next,back⟩ := next
  have first : c ∈ s.remaining := waiting ▸ List.mem_cons_self
  have later : ∀ d ∈ rest, d ∈ s.remaining := fun d mem => waiting ▸ List.mem_cons_of_mem c mem
  have shrinks : ∀ r ∈ (removeResource s.host c fails).1.resources, r ∈ s.host.resources := by
    intro r mem
    rcases (removeCases s.host c fails).1 with same | less
    · exact same ▸ mem
    · rw [less] at mem
      exact (List.mem_filter.mp mem).1
  refine ⟨⟨?_,fun d mem => safe.ordered d ?_,fun d waits r mem => safe.guarded d (later d (next ▸ waits)) r (shrinks r mem),
    fun forward => ?_,fun now => ?_,fun todo same => ?_⟩,fun yes r mem ours => ?_⟩
  · rcases (removeCases s.host c fails).1 with same | less
    · exact (congrArg others same).trans safe.others
    · exact (congrArg others less).trans ((othersDelete fun r mem => safe.guarded c first r mem).trans safe.others)
  · rcases List.mem_append.mp mem with mem | mem
    · exact List.mem_append_left _ (later d (next ▸ mem))
    · exact List.mem_append_right _ mem
  · exact absurd (forward.symm.trans back) (by decide)
  · cases phase <;> first | (cases now; done) | cases back
  · cases phase <;> first | (cases same; done) | cases back
  · obtain ⟨d,waits,goes⟩ := tidy yes r (shrinks r mem) ours
    rw [waiting] at waits
    rcases List.mem_cons.mp waits with rfl | waits
    · rw [(removeCases s.host d fails).2 (removes yes) r mem] at goes
      cases goes
    · exact ⟨d,next.symm ▸ waits,goes⟩

end Steps

section Runs
variable {hash tapOwner : String} {before : List NetObject} {works : Prop} {s : NetRun}

theorem checkKeeps (keeps : s.Keeps hash before works) {c rest}
    (phase : s.phase = .checking (c :: rest)) (fails : Option ToolFailure) :
    (s.check (.ofHash hash) tapOwner c rest fails).Keeps hash before works := by
  have now : s.phase.early = true := by rw [phase]; rfl
  have clean := keeps.safe.clean now
  have waiting : s.remaining = [] ∧ s.removing = false := by simp [NetRun.remaining,NetRun.removing,phase,clean]
  have fails_ : ∀ e, NetRun.Keeps hash before works { s with phase := .failed e } := fun e =>
    keepsQuiet keeps (fun c => by simp [NetRun.remaining,phase,clean]) (by simp [NetRun.removing]) (fun _ => now) (by simp)
  unfold NetRun.check
  split
  · exact fails_ _
  · exact fails_ _
  · exact fails_ _
  · split
    · exact fails_ _
    · refine keepsQuiet keeps (fun d => ?_) (fun _ => waiting.2) (fun _ => now) fun todo same => ?_
      · rw [waiting.1]
        by_cases last : rest = [] <;> simp [NetRun.remaining,last,clean]
      · split at same
        · cases same
          exact ⟨tapOwner,rfl⟩
        · cases same

theorem createKeeps (keeps : s.Keeps hash before works) {step rest}
    (phase : s.phase = .creating (step :: rest)) (fails : Option ToolFailure) :
    (s.create step rest fails).Keeps hash before works := by
  have forward : s.remaining = s.created := by simp [NetRun.remaining,phase]
  rcases runIpCases s.host step.operation step.command fails with ⟨host',done,ran⟩ | ⟨e,ran⟩
  · simp only [NetRun.create,ran]
    exact createdKeeps keeps phase done
  · simp only [NetRun.create,ran]
    exact keepsRollback keeps forward e

theorem stepKeeps (keeps : s.Keeps hash before works) (op : NetOp) (apart : s.Apart op)
    (removes : works → s.Removes op) : (s.after (.ofHash hash) tapOwner op).Keeps hash before works := by
  cases op with
  | appear object =>
    simp only [NetRun.after]
    split
    · exact appearKeeps keeps apart ‹_›
    · exact keeps
  | prerequisites error =>
    simp only [NetRun.after]
    split
    · rename_i phase
      have clean := keeps.safe.clean (by rw [phase]; rfl)
      exact keepsQuiet keeps (fun c => by simp [NetRun.remaining,phase,clean]) (by simp [NetRun.removing])
        (fun _ => by rw [phase]; rfl) (by simp)
    · rename_i phase
      exact keepsQuiet keeps (fun c => by simp [NetRun.remaining,phase]) (fun _ => by simp [NetRun.removing,phase])
        (fun _ => by rw [phase]; rfl) (by simp)
    · exact keeps
  | ip fails =>
    simp only [NetRun.after]
    split
    · exact checkKeeps keeps ‹_› fails
    · exact createKeeps keeps ‹_› fails
    · rename_i phase
      exact removedKeeps keeps (by simp [NetRun.remaining,phase]) (fun yes => removes yes (by simp [NetRun.removing,phase]))
        ⟨rfl,rfl⟩ ⟨rfl,rfl⟩
    · rename_i phase
      exact removedKeeps keeps (by simp [NetRun.remaining,phase]) (fun yes => removes yes (by simp [NetRun.removing,phase]))
        ⟨rfl,rfl⟩ ⟨rfl,rfl⟩
    · exact keeps
  | members answer =>
    simp only [NetRun.after]
    split
    · rename_i phase
      exact keepsRollback keeps (by simp [NetRun.remaining,phase]) _
    · rename_i phase
      split
      · exact keepsRollback keeps (by simp [NetRun.remaining,phase]) _
      · exact keepsQuiet keeps (fun c => by simp [NetRun.remaining,phase]) (fun _ => by simp [NetRun.removing,phase])
          (fun now => by cases now) (by simp)
    · exact keeps
  | teardown pids client sweep =>
    simp only [NetRun.after]
    split
    · rename_i phase
      split
      · exact keeps
      · split
        · exact keeps
        · exact keepsQuiet keeps (fun c => by simp [NetRun.remaining,phase]) (by simp [NetRun.removing])
            (fun now => by cases now) (by simp)
    · exact keeps

theorem startKeeps (host : NetHost) (strange : ∀ r ∈ host.resources, r.ours = false) (works : Prop) :
    (NetRun.start host).Keeps hash (host.resources.map HostResource.object) works := by
  refine ⟨⟨?_,?_,?_,?_,fun _ => rfl,fun todo same => ?_⟩,fun _ r mem ours => ?_⟩
  · simp only [NetRun.start,others,List.append_nil]
    rw [List.filter_eq_self.mpr fun r mem => by simp [strange r mem]]
  · simp [NetRun.start,NetRun.remaining]
  · simp [NetRun.start,NetRun.remaining]
  · simp [NetRun.start]
  · cases same
  · rw [strange r mem] at ours
    cases ours

theorem tidyEnded (tidy : s.Tidy) (ended : s.ended = true) : s.host.resources.map HostResource.object = others s.host.resources := by
  have none_ : s.remaining = [] := by
    unfold NetRun.ended at ended
    unfold NetRun.remaining
    split at ended <;> simp_all
  have strange : ∀ r ∈ s.host.resources, (!r.ours) = true := by
    intro r mem
    cases ours : r.ours with
    | false => rfl
    | true =>
      obtain ⟨c,waits,_⟩ := tidy r mem ours
      rw [none_] at waits
      cases waits
  rw [others,List.filter_eq_self.mpr strange]

end Runs

/- As long as others stay apart, what they have is what they had and what they have added since; once `prepare` has failed or
`teardown` has ended, and no removal failed by itself, it is all there is. -/
theorem networkRestores (id : BveId) (tapOwner : String) (host : NetHost) (strange : ∀ r ∈ host.resources, r.ours = false)
    (ops : List NetOp)
    (apart : Meets (NetRun.after (.forBve id) tapOwner) NetRun.Apart (.start host) ops) :
    let s := Transition.run (NetRun.after (.forBve id) tapOwner) (.start host) ops
    others s.host.resources = host.resources.map HostResource.object ++ s.appeared ∧
      (Meets (NetRun.after (.forBve id) tapOwner) NetRun.Removes (.start host) ops → s.ended = true →
        s.host.resources.map HostResource.object = host.resources.map HostResource.object ++ s.appeared) := by
  obtain ⟨hash,plan⟩ : ∃ hash, BveNetworkPlan.forBve id = .ofHash hash := ⟨_,rfl⟩
  rw [plan] at apart ⊢
  have safeStep : ∀ (s : NetRun) op, s.Keeps hash (host.resources.map HostResource.object) False →
      s.Apart op → (s.after (.ofHash hash) tapOwner op).Keeps hash (host.resources.map HostResource.object) False :=
    fun s op keeps allowed => stepKeeps keeps op allowed fun no => no.elim
  have tidyStep : ∀ (s : NetRun) op, s.Keeps hash (host.resources.map HostResource.object) True →
      (s.Apart op ∧ s.Removes op) →
      (s.after (.ofHash hash) tapOwner op).Keeps hash (host.resources.map HostResource.object) True :=
    fun s op keeps allowed => stepKeeps keeps op allowed.1 fun _ => allowed.2
  refine ⟨(runInvariant safeStep (startKeeps host strange False) apart).safe.others,fun removes ended => ?_⟩
  have keeps := runInvariant tidyStep (startKeeps host strange True) (meetsAnd apart removes)
  exact (tidyEnded (keeps.tidy trivial) ended).trans keeps.safe.others

section Names

theorem nameValid (n : Nat) {first rest} (text : first.toList = 'b' :: rest)
    (short : rest.length ≤ 4) (plain : rest.all isNameChar = true) :
    ifNameValid (first ++ String.ofList (Text.hex 8 n)) = true := by
  have chars : (first ++ String.ofList (Text.hex 8 n)).toList = 'b' :: (rest ++ Text.hex 8 n) := by
    rw [String.toList_append,text,String.toList_ofList,List.cons_append]
  have dot : ∀ other : String, other.toList.head? = some '.' → first ++ String.ofList (Text.hex 8 n) ≠ other := by
    rintro other dotted rfl
    rw [chars] at dotted
    cases dotted
  have digits : (Text.hex 8 n).all isNameChar = true := by
    refine List.all_eq_true.mpr fun c mem => ?_
    obtain ⟨d,small,rfl⟩ := Text.memHex mem
    have all : ∀ d : Fin 16, isNameChar (Text.hexSymbol d) = true := by decide
    exact all ⟨d,small⟩
  have leads : isNameChar 'b' = true := by decide
  simp [ifNameValid,chars,maxIfnameLen,plain,digits,leads,dot "." rfl,dot ".." rfl]
  omega

-- No physical interface begins like a name of a plan.
theorem notPhysical {member : String} {rest} (text : member.toList = 'b' :: 'v' :: rest) :
    ∀ p ∈ physicalPrefixes, ¬ p.toList <+: member.toList := by
  intro p mem begins
  simp only [physicalPrefixes,List.mem_cons,List.not_mem_nil,or_false] at mem
  rw [text] at begins
  rcases mem with rfl | rfl | rfl | rfl | rfl | rfl <;> simp [List.cons_prefix_cons] at begins

theorem membersExact {plan}
    (quiet : ∀ m, m = plan.tap ∨ m = plan.vethHost → ∀ p ∈ physicalPrefixes, ¬ p.toList <+: m.toList) (members : List String) :
    assertOnlyExpectedMembers plan members = none ↔ ∀ m ∈ members, m = plan.tap ∨ m = plan.vethHost := by
  induction members with
  | nil => simp [assertOnlyExpectedMembers]
  | cons m rest ih =>
    rw [assertOnlyExpectedMembers,List.forall_mem_cons,← ih]
    by_cases own : m = plan.tap ∨ m = plan.vethHost
    · rw [if_neg (by simp +contextual [quiet m own]),if_neg (by simpa [or_iff_not_imp_left] using own)]
      exact (and_iff_right own).symm
    · rw [if_pos (not_or.mp own)]
      refine ⟨fun none_ => ?_,fun facts => absurd facts.1 own⟩
      split at none_ <;> cases none_

/- For every id: `IfName::new` accepts the names of the interfaces, no two names of the plan are one, and the look at
the bridge accepts the plan's own two members and no other. -/
theorem planNamesExact (id : BveId) :
    let plan := BveNetworkPlan.forBve id
    (∀ name ∈ [plan.bridge,plan.tap,plan.vethHost,plan.vethPeer], ifNameValid name = true) ∧
      (plan.collisionCandidates.map NetResource.hostName).Nodup ∧
      ∀ members, assertOnlyExpectedMembers plan members = none ↔ ∀ m ∈ members, m = plan.tap ∨ m = plan.vethHost := by
  refine ⟨fun name mem => ?_,?_,membersExact ?_⟩
  · simp only [List.mem_cons,List.not_mem_nil,or_false] at mem
    rcases mem with rfl | rfl | rfl | rfl <;> exact nameValid _ rfl (by decide) (by decide)
  · simp [BveNetworkPlan.collisionCandidates,NetResource.hostName,BveNetworkPlan.forBve,BveNetworkPlan.ofHash]
  · rintro m (rfl | rfl) <;> exact notPhysical (String.toList_append ..)

end Names

section Sample

def labId : BveId := ⟨"a".toList,by decide,by decide,by decide⟩

-- A namespace of somebody else, with a bridge inside that has the name of the BVE's.
def labHost : NetHost :=
  ⟨[⟨.netns "lab",false⟩,⟨.bridge (some "lab") "bvbr8601ec8c",false⟩],by decide,by decide⟩

-- The name of the host's veth end appears after the checks, so that its creation fails.
def lateCollision : List NetOp :=
  .prerequisites none :: List.replicate 10 (.ip none) ++ .appear (.tap none "bvh8601ec8c" "other") :: List.replicate 3 (.ip none)

theorem networkRestoresCollision :
    let s := Transition.run (NetRun.after (.forBve labId) "user") (.start labHost) lateCollision
    s.phase = .failed (.setupFailed "create-veth" "RTNETLINK answers: File exists") ∧
      s.appeared = [.tap none "bvh8601ec8c" "other"] ∧
      s.host.resources.map HostResource.object = labHost.resources.map HostResource.object ++ s.appeared :=
  ⟨by decide +kernel,by decide +kernel,(networkRestores labId "user" labHost (by decide) lateCollision (by decide +kernel)).2
    (by decide +kernel) (by decide +kernel)⟩

-- A namespace is deleted, and with it the veth pair; somebody else takes the name that is free.
def afterNetns : List NetOp := [.ip none,.appear (.bridge none "bvh8601ec8c"),.ip none,.ip none,.ip none]

/- All removals succeed, and the one of the veth deletes the bridge that has its name by then: in a `teardown`, and in
the rollback after a failed `netns-lo-up`. -/
theorem removalTakesForeign :
    let creates := .prerequisites none :: List.replicate 15 (.ip none)
    let torn := Transition.run (NetRun.after (.forBve labId) "user") (.start labHost)
      (creates ++ List.replicate 3 (.ip none) ++
        .members (.ok ["bvtap8601ec8c","bvh8601ec8c"]) :: .teardown [] false none :: afterNetns)
    let failed := Transition.run (NetRun.after (.forBve labId) "user") (.start labHost)
      (creates ++ .ip (some (.exit "")) :: afterNetns)
    (torn.phase = .tornDown none ∧ torn.appeared = [.bridge none "bvh8601ec8c"] ∧
      torn.host.resources.map HostResource.object = labHost.resources.map HostResource.object) ∧
    failed.phase = .failed (.setupFailed "netns-lo-up" "") ∧ failed.appeared = [.bridge none "bvh8601ec8c"] ∧
      failed.host.resources.map HostResource.object = labHost.resources.map HostResource.object := by
  decide +kernel

end Sample
end Bamep.VirtualEndpoint
