import Bamep.Library.Run

/-! `BveRuntime`, the owner of one QEMU process. The answer of every call to the host is data of the operation
that makes it: whether the call errs, and which processes exit by themselves before it. A process is alive
until then or until it is killed; dropping a `Child` neither kills nor waits. -/
namespace Bamep.VirtualEndpoint
open Transition

abbrev Pid := Nat

inductive IoError where
  | notFound
  | other (code : Nat)
  deriving DecidableEq, Repr

structure ExitStatus where
  code : Int
  deriving DecidableEq, Repr

structure QmpError where
  message : String
  deriving DecidableEq, Repr

inductive BveStorageError where
  | qemuImgUnavailable (source : IoError)
  | qemuImgProbeFailed
  | baseMissing
  | io (source : IoError)
  | qemuImgFailed (operation stderr : String)
  deriving DecidableEq, Repr

inductive RuntimeError where
  | definition (detail : String)
  | io (source : IoError)
  | spawn (source : IoError)
  | alreadyStarted
  | startupFailed (reason : String) (exit : Option ExitStatus) (stderr : String)
  | notRunning
  | observe (source : QmpError)
  | control (source : QmpError)
  | destroyDirtyInstanceDir (source : IoError)
  | storageDefinitionMismatch (detail : String)
  | storageResetWhileRunning
  | storage (source : BveStorageError)
  | uefiFirmware (detail : String)
  | vncEndpointUnavailable (port : Nat) (source : IoError)
  deriving DecidableEq, Repr

/- One call on a `Child`; `status` is what it reports of a process that has exited. -/
structure Call where
  exits : List Pid
  error : Option IoError
  status : ExitStatus
  deriving DecidableEq, Repr

/- The QEMU processes alive, and for every removal or creation of the overlay those alive at it. -/
structure Host where
  alive : List Pid
  next : Pid
  overlay : List (List Pid)
  deriving DecidableEq, Repr

namespace Host
variable (h : Host)

def exit (pids : List Pid) : Host := { h with alive := h.alive.filter (· ∉ pids) }

def spawn : Host := { h with alive := h.next :: h.alive, next := h.next + 1 }

def touchOverlay : Host := { h with overlay := h.alive :: h.overlay }

def tryWait (pid : Pid) (call : Call) : Host × Except IoError (Option ExitStatus) :=
  match call.error with
  | some e => (h.exit call.exits,.error e)
  | none => (h.exit call.exits,.ok (if pid ∈ (h.exit call.exits).alive then none else some call.status))

def kill (pid : Pid) (call : Call) : Host × Except IoError Unit :=
  match call.error with
  | some e => (h.exit call.exits,.error e)
  | none => (h.exit (pid :: call.exits),.ok ())

-- Returns when the process has exited.
def wait (pid : Pid) (call : Call) : Host × Except IoError ExitStatus :=
  match call.error with
  | some e => (h.exit call.exits,.error e)
  | none => (h.exit (pid :: call.exits),.ok call.status)

end Host

/- A file that is not there counts as removed. -/
def removed : Except IoError Unit → Except IoError Unit
  | .ok () | .error .notFound => .ok ()
  | .error e => .error e

def clearStaleSocket (removal : Except IoError Unit) : Except RuntimeError Unit := (removed removal).mapError .io

structure BveRuntime where
  uefiVars : Bool
  serialLog : Bool
  visualDisplay : Option Nat
  child : Option Pid
  deriving DecidableEq, Repr

structure CreateScript where
  checks : Except RuntimeError Unit
  createDir : Except IoError Unit
  clearSocket : Except IoError Unit
  uefi : Option (Except RuntimeError Unit)

def BveRuntime.create (script : CreateScript) : Except RuntimeError BveRuntime := do
  script.checks
  script.createDir.mapError .io
  clearStaleSocket script.clearSocket
  match script.uefi with
  | none => .ok ⟨false,false,none,none⟩
  | some prepared => prepared.map fun _ => ⟨true,false,none,none⟩

structure StartPoll where
  tryWait : Call
  connect : Except QmpError Unit

structure StartScript where
  clearSocket : Except IoError Unit
  vnc : Except IoError Unit
  spawn : Except IoError Unit
  first : StartPoll
  polls : List StartPoll
  kill : Call
  wait : Call
  stderr : String

/- The polling loop of `start`; the deadline has passed at the last poll. -/
def startLoop (h : Host) (pid : Pid) (script : StartScript) :
    StartPoll → List StartPoll → Host × Except RuntimeError Unit
  | poll,rest =>
    match h.tryWait pid poll.tryWait with
    | (h,.error e) => (h,.error (.io e))
    | (h,.ok (some exit)) => (h,.error (.startupFailed "QEMU exited during startup" (some exit) script.stderr))
    | (h,.ok none) =>
      match poll.connect,rest with
      | .ok (),_ => (h,.ok ())
      | .error e,[] =>
        let waited := (h.kill pid script.kill).1.wait pid script.wait
        (waited.1,.error (.startupFailed e.message waited.2.toOption script.stderr))
      | .error _,poll' :: rest' => startLoop h pid script poll' rest'

structure StopScript where
  tryWait : Call
  first : Call
  polls : List Call
  kill : Call
  wait : Call

/- `wait_for_exit`; the timeout has elapsed at the last poll. -/
def waitForExit (h : Host) (pid : Pid) : Call → List Call → Host × Except IoError (Option ExitStatus)
  | poll,rest =>
    match h.tryWait pid poll with
    | (h,.error e) => (h,.error e)
    | (h,.ok (some exit)) => (h,.ok (some exit))
    | (h,.ok none) =>
      match rest with
      | [] => (h,.ok none)
      | poll' :: rest' => waitForExit h pid poll' rest'

structure DestroyScript where
  stop : StopScript
  socket : Except IoError Unit
  vars : Except IoError Unit
  log : Except IoError Unit
  dir : Except IoError Unit

structure OverlayScript where
  tryWait : Call
  checkQemuImg : Except BveStorageError Unit
  baseExists : Bool
  remove : Except IoError Unit
  create : Except BveStorageError Unit

namespace BveRuntime
variable (r : BveRuntime) (h : Host)

def withSerialCapture : BveRuntime := { r with serialLog := true }

def withVisualDisplay (port : Nat) : BveRuntime := { r with visualDisplay := some port }

def start (script : StartScript) : BveRuntime × Host × Except RuntimeError Unit :=
  if r.child.isSome then (r,h,.error .alreadyStarted)
  else match clearStaleSocket script.clearSocket with
    | .error e => (r,h,.error e)
    | .ok () =>
      match r.visualDisplay,script.vnc with
      | some port,.error e => (r,h,.error (.vncEndpointUnavailable port e))
      | _,_ =>
        match script.spawn with
        | .error e => (r,h,.error (.spawn e))
        | .ok () =>
          match startLoop h.spawn h.next script script.first script.polls with
          | (h',.error e) => (r,h',.error e)
          | (h',.ok ()) => ({ r with child := some h.next },h',.ok ())

-- `process_is_alive`; `observe` reaps an exited process in the same way.
def processIsAlive (call : Call) : BveRuntime × Host × Except RuntimeError Bool :=
  match r.child with
  | none => (r,h,.ok false)
  | some pid =>
    match h.tryWait pid call with
    | (h',.error e) => (r,h',.error (.io e))
    | (h',.ok (some _)) => ({ r with child := none },h',.ok false)
    | (h',.ok none) => (r,h',.ok true)

inductive LifecycleState where
  | stopped | running
  deriving DecidableEq, Repr

def observe (call : Call) (connect queryRunState : Except QmpError Unit) :
    BveRuntime × Host × Except RuntimeError LifecycleState :=
  match r.processIsAlive h call with
  | (r',h',.error e) => (r',h',.error e)
  | (r',h',.ok false) => (r',h',.ok .stopped)
  | (r',h',.ok true) => (r',h',((connect.mapError .observe).bind fun _ =>
      queryRunState.mapError .observe).map fun _ => .running)

def reset (call : Call) (connect systemReset : Except QmpError Unit) :
    BveRuntime × Host × Except RuntimeError Unit :=
  match r.processIsAlive h call with
  | (r',h',.error e) => (r',h',.error e)
  | (r',h',.ok false) => (r',h',.error .notRunning)
  | (r',h',.ok true) => (r',h',(connect.mapError .control).bind fun _ => systemReset.mapError .control)

-- The handle is taken out first; what QMP `quit` answers is ignored.
def stop (script : StopScript) : BveRuntime × Host × Except RuntimeError Unit :=
  match r.child with
  | none => (r,h,.ok ())
  | some pid =>
    let r' : BveRuntime := { r with child := none }
    match h.tryWait pid script.tryWait with
    | (h,.error e) => (r',h,.error (.io e))
    | (h,.ok (some _)) => (r',h,.ok ())
    | (h,.ok none) =>
      match waitForExit h pid script.first script.polls with
      | (h,.error e) => (r',h,.error (.io e))
      | (h,.ok (some _)) => (r',h,.ok ())
      | (h,.ok none) =>
        match (h.kill pid script.kill).1.wait pid script.wait with
        | (h,.error e) => (r',h,.error (.io e))
        | (h,.ok _) => (r',h,.ok ())

def resetSystemStorage (script : OverlayScript) : BveRuntime × Host × Except RuntimeError Unit :=
  match r.processIsAlive h script.tryWait with
  | (r',h',.error e) => (r',h',.error e)
  | (r',h',.ok true) => (r',h',.error .storageResetWhileRunning)
  | (r',h',.ok false) =>
    match script.checkQemuImg with
    | .error e => (r',h',.error (.storage e))
    | .ok () =>
      if !script.baseExists then (r',h',.error (.storage .baseMissing))
      else match removed script.remove with
        | .error e => (r',h',.error (.storage (.io e)))
        | .ok () =>
          let h' := if script.remove = .ok () then h'.touchOverlay else h'
          match script.create with
          | .error (.qemuImgUnavailable e) => (r',h',.error (.storage (.qemuImgUnavailable e)))
          | created => (r',h'.touchOverlay,created.mapError .storage)

-- The files the runtime has made are removed, then the directory; the dropped runtime holds no child.
def destroy (script : DestroyScript) : Host × Except RuntimeError Unit :=
  match r.stop h script.stop with
  | (_,h',.error e) => (h',.error e)
  | (_,h',.ok ()) => (h',do
      clearStaleSocket script.socket
      if r.uefiVars then clearStaleSocket script.vars
      if r.serialLog then clearStaleSocket script.log
      (removed script.dir).mapError .destroyDirtyInstanceDir)

def drop (tryWait kill wait : Call) : Host :=
  match r.child with
  | none => h
  | some pid =>
    match h.tryWait pid tryWait with
    | (h,.ok none) => ((h.kill pid kill).1.wait pid wait).1
    | (h,_) => h

end BveRuntime

/- A runtime is there between `create` and `destroy` or `drop`. -/
structure Bve where
  host : Host
  runtime : Option BveRuntime
  deriving DecidableEq, Repr

inductive BveOp where
  | create (script : CreateScript)
  | withSerialCapture
  | withVisualDisplay (port : Nat)
  | start (script : StartScript)
  | observe (call : Call) (connect queryRunState : Except QmpError Unit)
  | reset (call : Call) (connect systemReset : Except QmpError Unit)
  | stop (script : StopScript)
  | resetSystemStorage (script : OverlayScript)
  | destroy (script : DestroyScript)
  | drop (tryWait kill wait : Call)
  | exit (pids : List Pid)

namespace Bve

def initial : Bve := ⟨⟨[],0,[]⟩,none⟩

def child (s : Bve) : Option Pid := s.runtime.bind BveRuntime.child

def after (s : Bve) : BveOp → Bve
  | .exit pids => { s with host := s.host.exit pids }
  | .create script =>
    match s.runtime with
    | none => { s with runtime := (BveRuntime.create script).toOption }
    | some _ => s
  | op =>
    match s.runtime with
    | none => s
    | some r =>
      let on {α : Type} (result : BveRuntime × Host × Except RuntimeError α) : Bve := ⟨result.2.1,some result.1⟩
      match op with
      | .withSerialCapture => { s with runtime := some r.withSerialCapture }
      | .withVisualDisplay port => { s with runtime := some (r.withVisualDisplay port) }
      | .start script => on (r.start s.host script)
      | .observe call connect query => on (r.observe s.host call connect query)
      | .reset call connect systemReset => on (r.reset s.host call connect systemReset)
      | .stop script => on (r.stop s.host script)
      | .resetSystemStorage script => on (r.resetSystemStorage s.host script)
      | .destroy script => ⟨(r.destroy s.host script).1,none⟩
      | .drop tryWait kill wait => ⟨r.drop s.host tryWait kill wait,none⟩
      | .create _ | .exit _ => s

end Bve

/- The calls on a handle that has been taken out of the runtime: none but a `kill` errs, and then not the
`wait` after it. -/
structure Reaped (polls : List Call) (kill wait : Call) : Prop where
  polled : ∀ call ∈ polls, call.error = none
  ended : kill.error = none ∨ wait.error = none

def BveOp.Reaps : BveOp → Prop
  | .start script => Reaped ((script.first :: script.polls).map StartPoll.tryWait) script.kill script.wait
  | .stop script | .destroy ⟨script,_,_,_,_⟩ =>
    Reaped (script.tryWait :: script.first :: script.polls) script.kill script.wait
  | .drop tryWait kill wait => Reaped [tryWait] kill wait
  | _ => True

structure Fades (h h' : Host) : Prop where
  alive : ∀ pid ∈ h'.alive, pid ∈ h.alive
  overlay : h'.overlay = h.overlay

section Calls
variable {h h' : Host} {pid : Pid}

theorem Fades.refl (h : Host) : Fades h h := ⟨fun _ mem => mem,rfl⟩

theorem Fades.trans {h''} (first : Fades h h') (second : Fades h' h'') : Fades h h'' :=
  ⟨fun pid mem => first.alive pid (second.alive pid mem),second.overlay.trans first.overlay⟩

theorem Fades.gone (fades : Fades h h') (gone : pid ∉ h.alive) : pid ∉ h'.alive :=
  fun mem => gone (fades.alive pid mem)

theorem exitFades (h : Host) (pids : List Pid) : Fades h (h.exit pids) :=
  ⟨fun _ mem => (List.mem_filter.mp mem).1,rfl⟩

theorem exitGone (h : Host) (pid : Pid) (pids : List Pid) : pid ∉ (h.exit (pid :: pids)).alive := by
  simp [Host.exit]

theorem tryWaitFades {call answer}
    (waited : h.tryWait pid call = (h',answer)) : Fades h h' := by
  unfold Host.tryWait at waited
  split at waited <;> cases waited <;> exact exitFades h _

theorem tryWaitExited {call status} (waited : h.tryWait pid call = (h',.ok (some status))) :
    pid ∉ h'.alive := by
  unfold Host.tryWait at waited
  split at waited
  · cases waited
  · obtain ⟨rfl,same⟩ := Prod.mk.inj waited
    split at same
    · cases same
    · assumption

theorem tryWaitErred {call e} (waited : h.tryWait pid call = (h',.error e)) :
    call.error ≠ none := by
  unfold Host.tryWait at waited
  split at waited <;> cases waited
  simp_all

theorem killFades (h : Host) (pid : Pid) (call : Call) : Fades h (h.kill pid call).1 := by
  unfold Host.kill
  split <;> exact exitFades h _

theorem waitFades {call answer} (waited : h.wait pid call = (h',answer)) :
    Fades h h' := by
  unfold Host.wait at waited
  split at waited <;> cases waited <;> exact exitFades h _

theorem waitGone {call answer} (waited : h.wait pid call = (h',answer))
    (ended : call.error = none ∨ ∃ status, answer = .ok status) : pid ∉ h'.alive := by
  unfold Host.wait at waited
  split at waited <;> cases waited
  · simp_all
  · exact exitGone h pid call.exits

/- After a kill and a wait the process has exited if one of the two has not erred. -/
theorem killWaitGone {kill wait answer}
    (waited : (h.kill pid kill).1.wait pid wait = (h',answer))
    (ended : kill.error = none ∨ wait.error = none) : pid ∉ h'.alive := by
  rcases ended with ok | ok
  · refine (waitFades waited).gone ?_
    unfold Host.kill
    rw [ok]
    exact exitGone h pid kill.exits
  · exact waitGone waited (.inl ok)

/- A process that `start` does not hand over has exited, if its calls have been answered. -/
theorem startLoopSpec (script : StartScript) (poll : StartPoll) (rest : List StartPoll) :
    Fades h (startLoop h pid script poll rest).1 ∧
      (Reaped ((poll :: rest).map StartPoll.tryWait) script.kill script.wait →
        (startLoop h pid script poll rest).2 ≠ .ok () → pid ∉ (startLoop h pid script poll rest).1.alive) := by
  fun_induction startLoop h pid script poll rest with
  | case1 h poll rest h' e waited =>
    exact ⟨tryWaitFades waited,fun reaped => absurd (reaped.polled _ List.mem_cons_self) (tryWaitErred waited)⟩
  | case2 h poll rest h' exit waited => exact ⟨tryWaitFades waited,fun _ _ => tryWaitExited waited⟩
  | case3 h poll rest h' waited connected => exact ⟨tryWaitFades waited,fun _ erred => absurd rfl erred⟩
  | case4 h poll h' waited e refused ended =>
    exact ⟨((tryWaitFades waited).trans (killFades h' pid script.kill)).trans (waitFades rfl),
      fun reaped _ => killWaitGone rfl reaped.ended⟩
  | case5 h poll h' waited e poll' rest' refused ih =>
    exact ⟨(tryWaitFades waited).trans ih.1,fun reaped => ih.2 ⟨fun call mem =>
      reaped.polled call (List.mem_cons_of_mem _ mem),reaped.ended⟩⟩

theorem waitForExitSpec {poll rest answer}
    (waited : waitForExit h pid poll rest = (h',answer)) : Fades h h' ∧
      (∀ status, answer = .ok (some status) → pid ∉ h'.alive) ∧
      ((∀ call ∈ poll :: rest, call.error = none) → ∀ e, answer ≠ .error e) := by
  fun_induction waitForExit h pid poll rest with
  | case1 h poll rest h₁ e polled =>
    cases waited
    exact ⟨tryWaitFades polled,by simp,fun answered =>
      absurd (answered poll List.mem_cons_self) (tryWaitErred polled)⟩
  | case2 h poll rest h₁ exit polled =>
    cases waited
    exact ⟨tryWaitFades polled,fun _ _ => tryWaitExited polled,by simp⟩
  | case3 h poll h₁ polled =>
    cases waited
    exact ⟨tryWaitFades polled,by simp,by simp⟩
  | case4 h poll h₁ polled poll' rest' ih =>
    obtain ⟨fades,exited,answers⟩ := ih waited
    exact ⟨(tryWaitFades polled).trans fades,exited,fun answered => answers fun call mem =>
      answered call (List.mem_cons_of_mem _ mem)⟩

/- `stop` answers `Ok` only for a process that has exited; if its calls are answered the process has. -/
theorem stopSpec {r r' : BveRuntime} {script answer}
    (held : r.child = some pid) (stopped : r.stop h script = (r',h',answer)) :
    r'.child = none ∧ Fades h h' ∧ (answer = .ok () → pid ∉ h'.alive) ∧
      (Reaped (script.tryWait :: script.first :: script.polls) script.kill script.wait → pid ∉ h'.alive) := by
  unfold BveRuntime.stop at stopped
  simp only [held] at stopped
  split at stopped
  · rename_i waited
    cases stopped
    exact ⟨rfl,tryWaitFades waited,by simp,fun reaped =>
      absurd (reaped.polled _ List.mem_cons_self) (tryWaitErred waited)⟩
  · rename_i waited
    cases stopped
    exact ⟨rfl,tryWaitFades waited,fun _ => tryWaitExited waited,fun _ => tryWaitExited waited⟩
  rename_i waited
  split at stopped
  · rename_i polls
    obtain ⟨fades,exited,answers⟩ := waitForExitSpec polls
    cases stopped
    exact ⟨rfl,(tryWaitFades waited).trans fades,by simp,fun reaped =>
      absurd rfl (answers (fun call mem => reaped.polled call (List.mem_cons_of_mem _ mem)) _)⟩
  · rename_i polls
    obtain ⟨fades,exited,answers⟩ := waitForExitSpec polls
    cases stopped
    exact ⟨rfl,(tryWaitFades waited).trans fades,fun _ => exited _ rfl,fun _ => exited _ rfl⟩
  rename_i polls
  have before := ((tryWaitFades waited).trans (waitForExitSpec polls).1).trans (killFades _ pid script.kill)
  split at stopped
  · rename_i ended
    cases stopped
    exact ⟨rfl,before.trans (waitFades ended),by simp,fun reaped => killWaitGone ended reaped.ended⟩
  · rename_i ended
    cases stopped
    exact ⟨rfl,before.trans (waitFades ended),fun _ => waitGone ended (.inr ⟨_,rfl⟩),
      fun reaped => killWaitGone ended reaped.ended⟩

theorem processIsAliveSpec {r r' : BveRuntime} {call answer}
    (asked : r.processIsAlive h call = (r',h',answer)) : Fades h h' ∧
      (∀ pid ∈ h'.alive, r.child = some pid → r'.child = some pid) ∧
      (answer = .ok false → r'.child = none) := by
  unfold BveRuntime.processIsAlive at asked
  split at asked
  · rename_i none
    cases asked
    exact ⟨.refl h,fun _ _ held => held,fun _ => none⟩
  rename_i pid held
  split at asked
  · rename_i waited
    cases asked
    exact ⟨tryWaitFades waited,fun _ _ held => held,by simp⟩
  · rename_i waited
    cases asked
    refine ⟨tryWaitFades waited,fun other mem same => ?_,fun _ => rfl⟩
    rw [held] at same
    cases same
    exact absurd mem (tryWaitExited waited)
  · rename_i waited
    cases asked
    exact ⟨tryWaitFades waited,fun _ _ held => held,by simp⟩

end Calls

structure Owned (s : Bve) : Prop where
  held : ∀ pid ∈ s.host.alive, s.child = some pid
  idle : ∀ alive ∈ s.host.overlay, alive = []

section Ownership
variable {s : Bve} {r : BveRuntime}

theorem ownedFades (owned : Owned s) {s'} (fades : Fades s.host s'.host)
    (kept : ∀ pid ∈ s'.host.alive, s.child = some pid → s'.child = some pid) : Owned s' := by
  refine ⟨fun pid mem => kept pid mem (owned.held pid (fades.alive pid mem)),?_⟩
  rw [fades.overlay]
  exact owned.idle

theorem ownedStart (owned : Owned s) (present : s.runtime = some r) {script}
    (reaps : BveOp.Reaps (.start script)) :
    Owned ⟨(r.start s.host script).2.1,some (r.start s.host script).1⟩ := by
  have child : s.child = r.child := by rw [Bve.child,present]; rfl
  have unchanged : Owned ⟨s.host,some r⟩ := ownedFades owned (.refl _) fun _ _ held => child.symm.trans held
  unfold BveRuntime.start
  split
  · exact unchanged
  rename_i free
  split
  · exact unchanged
  split
  · exact unchanged
  split
  · exact unchanged
  -- The runtime holds no child, so nothing was alive before the spawn.
  have dead : ∀ pid, pid ∉ s.host.alive := by
    intro pid mem
    rw [← child,owned.held pid mem] at free
    exact free rfl
  obtain ⟨fades,gone⟩ := @startLoopSpec s.host.spawn s.host.next script script.first script.polls
  have only : ∀ pid ∈ (startLoop s.host.spawn s.host.next script script.first script.polls).1.alive,
      pid = s.host.next := by
    intro pid mem
    rcases List.mem_cons.mp (fades.alive pid mem) with new | old
    · exact new
    · exact absurd old (dead pid)
  have idle : ∀ alive ∈ (startLoop s.host.spawn s.host.next script script.first script.polls).1.overlay,
      alive = [] := by
    rw [fades.overlay]
    exact owned.idle
  split
  · rename_i looped
    rw [looped] at gone only idle
    refine ⟨fun pid mem => absurd mem ?_,idle⟩
    rw [only pid mem]
    exact gone reaps (by simp)
  · rename_i looped
    rw [looped] at only idle
    exact ⟨fun pid mem => congrArg some (only pid mem).symm,idle⟩

theorem ownedAsked (owned : Owned s) (present : s.runtime = some r) {r' h' call answer}
    (asked : r.processIsAlive s.host call = (r',h',answer)) :
    Owned ⟨h',some r'⟩ := by
  obtain ⟨fades,kept,_⟩ := processIsAliveSpec asked
  refine ownedFades owned fades fun pid mem held => kept pid mem ?_
  rw [Bve.child,present] at held
  exact held

theorem ownedReset (owned : Owned s) (present : s.runtime = some r) (script : OverlayScript) :
    Owned ⟨(r.resetSystemStorage s.host script).2.1,some (r.resetSystemStorage s.host script).1⟩ := by
  unfold BveRuntime.resetSystemStorage
  split
  · rename_i asked; exact ownedAsked owned present asked
  · rename_i asked; exact ownedAsked owned present asked
  rename_i r' h' asked
  have kept := ownedAsked owned present asked
  have dead : h'.alive = [] := by
    refine List.eq_nil_iff_forall_not_mem.mpr fun pid mem => ?_
    have held := kept.held pid mem
    rw [Bve.child,Option.bind_some,(processIsAliveSpec asked).2.2 rfl] at held
    cases held
  have touched : ∀ h : Host, Owned ⟨h,some r'⟩ → h.alive = [] → Owned ⟨h.touchOverlay,some r'⟩ := by
    intro h owned dead
    refine ⟨owned.held,fun alive mem => ?_⟩
    rcases List.mem_cons.mp mem with rfl | old
    · exact dead
    · exact owned.idle alive old
  split
  · exact kept
  split
  · exact kept
  split
  · exact kept
  simp only
  split
  · split
    · exact touched h' kept dead
    · exact kept
  · split
    · exact touched _ (touched h' kept dead) dead
    · exact touched h' kept dead

theorem destroySpec {h h' : Host} {script answer}
    (destroyed : r.destroy h script = (h',answer)) : Fades h h' ∧
      ∀ pid, r.child = some pid → (answer = .ok () → pid ∉ h'.alive) ∧
        (BveOp.Reaps (.destroy script) → pid ∉ h'.alive) := by
  unfold BveRuntime.destroy at destroyed
  cases held : r.child with
  | none =>
    have idle : r.stop h script.stop = (r,h,.ok ()) := by
      unfold BveRuntime.stop
      rw [held]
    rw [idle] at destroyed
    cases destroyed
    exact ⟨.refl h,by simp⟩
  | some pid =>
    split at destroyed
    · rename_i stopped
      obtain ⟨_,fades,ended,reaped⟩ := stopSpec held stopped
      cases destroyed
      refine ⟨fades,fun _ same => ?_⟩
      cases same
      exact ⟨by simp,reaped⟩
    · rename_i stopped
      obtain ⟨_,fades,ended,reaped⟩ := stopSpec held stopped
      cases destroyed
      refine ⟨fades,fun _ same => ?_⟩
      cases same
      exact ⟨fun _ => ended rfl,reaped⟩

theorem dropSpec {h tryWait kill wait} : Fades h (r.drop h tryWait kill wait) ∧
    (Reaped [tryWait] kill wait → ∀ pid, r.child = some pid → pid ∉ (r.drop h tryWait kill wait).alive) := by
  unfold BveRuntime.drop
  split
  · rename_i none
    exact ⟨.refl h,fun _ _ held => by rw [none] at held; cases held⟩
  rename_i pid held
  split
  · rename_i waited
    refine ⟨((tryWaitFades waited).trans (killFades _ pid kill)).trans (waitFades rfl),fun reaped _ same => ?_⟩
    rw [held] at same
    cases same
    exact killWaitGone rfl reaped.ended
  · rename_i h' answer alive waited
    refine ⟨tryWaitFades waited,fun reaped _ same => ?_⟩
    rw [held] at same
    cases same
    cases answer with
    | error e => exact absurd (reaped.polled _ List.mem_cons_self) (tryWaitErred waited)
    | ok exit =>
      cases exit with
      | none => exact (alive rfl).elim
      | some status => exact tryWaitExited waited

theorem ownedStep (owned : Owned s) (op : BveOp) (reaps : op.Reaps) : Owned (s.after op) := by
  have gone : ∀ {h'}, Fades s.host h' → (∀ pid, s.child = some pid → pid ∉ h'.alive) →
      ∀ runtime, Owned ⟨h',runtime⟩ := fun fades dead _ =>
    ownedFades owned fades fun pid mem held => absurd mem (dead pid held)
  cases present : s.runtime with
  | none =>
    have child : ∀ pid, s.child ≠ some pid := by simp [Bve.child,present]
    have idle : ∀ runtime, Owned ⟨s.host,runtime⟩ := gone (.refl _) fun pid held => absurd held (child pid)
    cases op <;> simp only [Bve.after,present]
    case create script => exact idle _
    case exit pids => exact gone (exitFades _ _) (fun pid held => absurd held (child pid)) _
    all_goals exact owned
  | some r =>
    have child : s.child = r.child := by rw [Bve.child,present]; rfl
    have same : ∀ {h'}, Fades s.host h' → ∀ r' : BveRuntime, r'.child = r.child → Owned ⟨h',some r'⟩ :=
      fun fades r' kept => ownedFades owned fades fun pid _ held => kept.trans (child.symm.trans held)
    cases op <;> simp only [Bve.after,present]
    case create => exact owned
    case withSerialCapture => exact same (.refl _) _ rfl
    case withVisualDisplay => exact same (.refl _) _ rfl
    case start => exact ownedStart owned present reaps
    case observe =>
      unfold BveRuntime.observe
      split <;> rename_i asked <;> exact ownedAsked owned present asked
    case reset =>
      unfold BveRuntime.reset
      split <;> rename_i asked <;> exact ownedAsked owned present asked
    case stop script =>
      cases held : r.child with
      | none =>
        unfold BveRuntime.stop
        rw [held]
        exact same (.refl _) _ rfl
      | some pid =>
        obtain ⟨_,fades,_,dead⟩ := stopSpec held (Eq.refl (r.stop s.host script))
        refine gone fades (fun other held' => ?_) _
        rw [child,held] at held'
        cases held'
        exact dead reaps
    case resetSystemStorage script => exact ownedReset owned present script
    case destroy script =>
      obtain ⟨fades,dead⟩ := destroySpec (Eq.refl (r.destroy s.host script))
      exact gone fades (fun pid held => (dead pid (child.symm.trans held)).2 reaps) _
    case drop =>
      obtain ⟨fades,dead⟩ := dropSpec
      exact gone fades (fun pid held => dead reaps pid (child.symm.trans held)) _
    case exit => exact same (exitFades _ _) _ rfl

end Ownership

theorem bveProcessOwned (ops : List BveOp) (reaps : ∀ op ∈ ops, op.Reaps) :
    let s := run Bve.after .initial ops
    (∀ pid ∈ s.host.alive, s.child = some pid) ∧ (∀ p ∈ s.host.alive, ∀ q ∈ s.host.alive, p = q) ∧
      (∀ alive ∈ s.host.overlay, alive = []) ∧
      ∀ r script, s.runtime = some r → (r.destroy s.host script).2 = .ok () →
        (r.destroy s.host script).1.alive = [] := by
  intro s
  have owned : Owned s := @runInvariant _ _ Bve.after (fun _ op => op.Reaps) Owned
    (fun _ op owned reaps => ownedStep owned op reaps) .initial ops
    ⟨fun _ mem => absurd mem List.not_mem_nil,fun _ mem => absurd mem List.not_mem_nil⟩
    (meetsOf (fun op mem _ => reaps op mem) _)
  refine ⟨owned.held,fun p left q right => ?_,owned.idle,fun r script present ok => ?_⟩
  · exact Option.some.inj ((owned.held p left).symm.trans (owned.held q right))
  · obtain ⟨fades,dead⟩ := destroySpec (Eq.refl (r.destroy s.host script))
    refine List.eq_nil_iff_forall_not_mem.mpr fun pid mem => ?_
    have held := owned.held pid (fades.alive pid mem)
    rw [Bve.child,present] at held
    exact (dead pid held).1 ok mem

def answered : Call := ⟨[],none,⟨0⟩⟩

def refused : Call := ⟨[],some (.other 10),⟨0⟩⟩

def created : BveOp := .create ⟨.ok (),.ok (),.ok (),none⟩

/- The process comes up at the first poll, if the poll gets that far. -/
def starting (first : Call) : StartScript :=
  ⟨.error .notFound,.ok (),.ok (),⟨first,.ok ()⟩,[],answered,answered,""⟩

def destroying : DestroyScript :=
  ⟨⟨answered,answered,[],answered,answered⟩,.ok (),.ok (),.ok (),.ok ()⟩

theorem bveProcessOwnedRunning :
    (run Bve.after .initial [created,.start (starting answered)]).host.alive = [0] ∧
      (run Bve.after .initial [created,.start (starting answered)]).child = some 0 :=
  ⟨by decide,(bveProcessOwned [created,.start (starting answered)] (by
    intro op mem
    rcases List.mem_cons.mp mem with rfl | last
    · trivial
    · rw [List.mem_singleton.mp last]
      exact ⟨by simp [starting,answered],.inl rfl⟩)).1 0 (by decide)⟩

/- `try_wait` errs on the live process during startup: `start` drops the handle, and from then on a second
process can be started, the overlay reset and the runtime destroyed while the first is alive. -/
theorem startupErrorOrphans :
    let s := run Bve.after .initial [created,.start (starting refused)]
    s.host.alive = [0] ∧ s.child = none ∧
      (s.after (.start (starting answered))).host.alive = [1,0] ∧
      (s.after (.resetSystemStorage ⟨answered,.ok (),true,.ok (),.ok ()⟩)).host.overlay = [[0],[0]] ∧
      (s.runtime.map fun r => r.destroy s.host destroying) = some (s.host,.ok ()) := by
  decide

end Bamep.VirtualEndpoint
