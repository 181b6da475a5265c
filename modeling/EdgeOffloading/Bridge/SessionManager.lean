import EdgeOffloading.Cpp.Text
import Mathlib.Logic.Function.Basic

/-!
# Task configuration and the session manager

`GlobalConfig` looks tasks up by id, `SessionManager` keeps the active sessions by request id. The lookups after each
operation are the lemmas `getSession_*`: an operation touches the session it names and no other.
-/

namespace EdgeOffloading

structure TaskConfig where
  taskId : Nat
  taskName : String
  inputMessageTypes : List UInt8
  outputMessageTypes : List UInt8
  deriving DecidableEq, Repr

/-- The parsed tasks and the position of each task id in them. -/
structure GlobalConfig where
  tasks : List TaskConfig
  taskIdToIndex : Nat → Option Nat

def GlobalConfig.getTaskConfig (g : GlobalConfig) (taskId : Nat) : Option TaskConfig :=
  match g.taskIdToIndex taskId with
  | some i => g.tasks[i]?
  | none => none

structure ActiveSession where
  requestId : String
  mgwcpComponentId : String
  taskId : Nat
  taskName : String
  inputMessageTypes : List UInt8
  outputMessageTypes : List UInt8
  assignedMecId : String := ""
  lastKeepalive : Nat
  createdAt : Nat
  routingRulesCreated : Bool := false
  deriving DecidableEq, Repr

structure SessionManager where
  sessions : String → Option ActiveSession

namespace SessionManager

variable (m : SessionManager)

def empty : SessionManager := ⟨fun _ => none⟩

def getSession (requestId : String) : Option ActiveSession := m.sessions requestId

/-- The session that `create_session` stores. -/
def newSession (requestId mgwcpComponentId : String) (taskId : Nat) (taskName : String) (task : TaskConfig)
    (now : Nat) : ActiveSession where
  requestId := requestId
  mgwcpComponentId := mgwcpComponentId
  taskId := taskId
  taskName := taskName
  inputMessageTypes := task.inputMessageTypes
  outputMessageTypes := task.outputMessageTypes
  lastKeepalive := now
  createdAt := now

def createSession (requestId mgwcpComponentId : String) (taskId : Nat) (taskName : String)
    (globalConfig : GlobalConfig) (now : Nat) : SessionManager × Bool :=
  match m.sessions requestId with
  | some _ => (m, false)
  | none =>
    match globalConfig.getTaskConfig taskId with
    | none => (m, false)
    | some task =>
      (⟨Function.update m.sessions requestId (some (newSession requestId mgwcpComponentId taskId taskName task now))⟩,
        true)

def removeSession (requestId : String) : SessionManager := ⟨Function.update m.sessions requestId none⟩

/-- The operations that change one field of a session if it is there. -/
def modify (requestId : String) (f : ActiveSession → ActiveSession) : SessionManager :=
  ⟨Function.update m.sessions requestId ((m.sessions requestId).map f)⟩

def updateKeepalive (requestId : String) (now : Nat) : SessionManager :=
  m.modify requestId fun s => { s with lastKeepalive := now }

def setAssignedMec (requestId mecId : String) : SessionManager :=
  m.modify requestId fun s => { s with assignedMecId := mecId }

def setRoutingRulesCreated (requestId : String) (created : Bool) : SessionManager :=
  m.modify requestId fun s => { s with routingRulesCreated := created }

def cleanupSessionsForMgwcp (mgwcpComponentId : String) : SessionManager :=
  ⟨fun r => (m.sessions r).filter fun s => s.mgwcpComponentId ≠ mgwcpComponentId⟩

/-- Expired sessions are only logged: the line that collects them is commented out in the source. -/
def findExpiredSessions (_m : SessionManager) (_timeoutDuration : Nat) : List String := []

/-! ## Lookups -/

theorem getSession_removeSession (r r' : String) :
    (m.removeSession r).getSession r' = if r' = r then none else m.getSession r' := by
  simp [removeSession, getSession, Function.update_apply]

theorem getSession_modify (r r' : String) (f : ActiveSession → ActiveSession) :
    (m.modify r f).getSession r' = if r' = r then (m.getSession r).map f else m.getSession r' := by
  simp [modify, getSession, Function.update_apply]

theorem getSession_cleanup_eq_some {c r : String} {s : ActiveSession} :
    (m.cleanupSessionsForMgwcp c).getSession r = some s ↔ m.getSession r = some s ∧ s.mgwcpComponentId ≠ c := by
  simp [cleanupSessionsForMgwcp, getSession, Option.filter_eq_some_iff]

/-- Creation stores a new session under a free request id or changes nothing. -/
theorem createSession_cases (r c : String) (taskId : Nat) (taskName : String) (g : GlobalConfig) (now : Nat) :
    (m.createSession r c taskId taskName g now).1 = m ∧
        (m.getSession r ≠ none ∨ g.getTaskConfig taskId = none) ∨
      ∃ task, m.getSession r = none ∧ g.getTaskConfig taskId = some task ∧
        ∀ r', (m.createSession r c taskId taskName g now).1.getSession r' =
          if r' = r then some (newSession r c taskId taskName task now) else m.getSession r' := by
  unfold createSession getSession
  cases hs : m.sessions r with
  | some s => exact Or.inl ⟨rfl, Or.inl (by simp)⟩
  | none =>
      cases ht : g.getTaskConfig taskId with
      | none => exact Or.inl ⟨rfl, Or.inr rfl⟩
      | some task => exact Or.inr ⟨task, rfl, rfl, fun r' => Function.update_apply _ _ _ _⟩

end SessionManager

end EdgeOffloading
