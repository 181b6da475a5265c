import EdgeOffloading.Cpp.Text
import EdgeOffloading.Protocol.Messages
import Mathlib.Logic.Function.Basic

/-!
# The Offloading Manager

The decision engine (`DecisionEngine`) and the message handling of the server (`OffloadingManagerServer`), for the one
connection of the Bridge. An exception of a handler is caught around `_process_message`: the message is dropped.

* `forget`: the manager without the timestamps of its sessions;
* `forget_processMessage`: the timestamps decide nothing;
* `forget_keepalive`: only a request or a failure report changes anything else.
-/

namespace EdgeOffloading

/-! ## Python values -/

/-- A dictionary key: numbers of all types are compared by value. -/
inductive PyKey where
  | none
  | num (q : Rat)
  | str (s : String)
  deriving DecidableEq

/-- Lists and dictionaries are not hashable. -/
def pyKey : Json → Option PyKey
  | .null => some .none
  | .bool b => some (.num (if b then 1 else 0))
  | .int n => some (.num n)
  | .float q => some (.num q)
  | .str s => some (.str s)
  | .arr _ => none
  | .obj _ => none

/-- The name of the type in the error about an unhashable value. -/
def unhashableType : Json → String
  | .arr _ => "list"
  | _ => "dict"

/-- The characters that `str.strip` removes. -/
def isPySpace (c : Char) : Bool :=
  let n := c.toNat
  (0x09 ≤ n && n ≤ 0x0d) || (0x1c ≤ n && n ≤ 0x20) || n = 0x85 || n = 0xa0 || n = 0x1680 ||
    (0x2000 ≤ n && n ≤ 0x200a) || n = 0x2028 || n = 0x2029 || n = 0x202f || n = 0x205f || n = 0x3000

/-- The characters that `int` ignores around a numeral: no separators of ASCII among them. -/
def isIntSpace (c : Char) : Bool := isPySpace c && !(0x1c ≤ c.toNat && c.toNat ≤ 0x1f)

def stripBy (space : Char → Bool) (cs : List Char) : List Char :=
  ((cs.dropWhile space).reverse.dropWhile space).reverse

/-- The digits of a numeral in which single underscores may stand between digits. -/
def groupedDigits : List Char → Option (List Char)
  | [] => none
  | [c] => if c.isDigit then some [c] else none
  | c :: '_' :: cs => if c.isDigit then (groupedDigits cs).map (c :: ·) else none
  | c :: cs => if c.isDigit then (groupedDigits cs).map (c :: ·) else none

/-- `int(value)` of a string whose decimal digits are those of ASCII; `none` where it raises `ValueError`. -/
def pyInt (s : String) : Option Int :=
  let (sign, cs) := takeSign (stripBy isIntSpace s.toList)
  (groupedDigits cs).map fun ds => sign * digitsValue ds

example : pyInt " -1_000\n" = some (-1000) ∧ pyInt "\x1c1" = none := by decide

/-- `_coerce_int`. -/
def coerceInt : Json → Json
  | .str s =>
    match pyInt s with
    | some n => .int n
    | none => .str s
  | value => value

/-- `len(value) if value` raises for a number that is not zero and for `True`. -/
def lenRaises : Json → Bool
  | .int n => n ≠ 0
  | .float q => q ≠ 0
  | .bool b => b
  | _ => false

/-! ## Decisions -/

structure SessionInfo where
  requestId : Json
  taskId : Json
  mgwcpComponentId : Json
  assignedMecId : String
  timestamp : Nat

structure DecisionResult where
  approved : Bool
  assignedMecId : String := ""
  reason : String := ""
  reasonCode : Int := 4001

/-- What the environment decides while a message is handled. -/
structure ManagerEnv where
  now : Nat
  /-- `random.choice`. -/
  choice : Nat
  /-- The text of a value in an f-string. -/
  format : Json → String

structure OffloadingManager where
  /-- The task ids of the configuration. -/
  availableTasks : List Nat
  maxConcurrentSessions : Nat
  activeSessions : List (PyKey × SessionInfo) := []
  availableMecs : List String := []
  /-- The component a MEC is assigned to; `null` if it is known and free. -/
  mecAssignments : String → Option Json := fun _ => none
  sequenceNumber : Nat := 0

namespace OffloadingManager

variable (om : OffloadingManager)

def hasTask (taskId : Json) : Bool := om.availableTasks.any fun id => pyKey taskId = some (.num id)

def isActive (key : PyKey) : Bool := om.activeSessions.any fun session => session.1 = key

def isFree (mecId : String) : Bool :=
  match om.mecAssignments mecId with
  | none => true
  | some .null => true
  | some _ => false

/-- `_auto_approve_strategy`: a random free MEC. -/
def autoApproveStrategy (env : ManagerEnv) : DecisionResult :=
  match om.availableMecs.filter om.isFree with
  | [] => { approved := false, reason := "No available MECs for assignment", reasonCode := 4001 }
  | mec :: mecs =>
    let selected := (mec :: mecs).getD (env.choice % (mecs.length + 1)) mec
    { approved := true, assignedMecId := selected, reason := "Auto-approved with MEC " ++ selected, reasonCode := 0 }

/-- Keep the session of an approved request. -/
def track (key : PyKey) (session : SessionInfo) : OffloadingManager :=
  { om with
    activeSessions := om.activeSessions ++ [(key, session)]
    mecAssignments := Function.update om.mecAssignments session.assignedMecId (some session.mgwcpComponentId) }

def makeDecision (requestId taskId mgwcpComponentId : Json) (env : ManagerEnv) : OffloadingManager × DecisionResult :=
  if !om.hasTask taskId then
    (om, { approved := false, reason := "Unknown task_id " ++ env.format taskId, reasonCode := 4002 })
  else if om.maxConcurrentSessions ≤ om.activeSessions.length then
    (om, { approved := false
           reason := "Maximum concurrent sessions (" ++ toString om.maxConcurrentSessions ++ ") reached"
           reasonCode := 4003 })
  else
    match pyKey requestId with
    | none =>
      (om, { approved := false
             reason := "Internal decision error: unhashable type: '" ++ unhashableType requestId ++ "'"
             reasonCode := 5000 })
    | some key =>
      if om.isActive key then
        (om, { approved := false, reason := "Duplicate request_id " ++ env.format requestId, reasonCode := 4004 })
      else
        let decision := om.autoApproveStrategy env
        if decision.approved && decision.assignedMecId ≠ "" then
          (om.track key ⟨requestId, taskId, mgwcpComponentId, decision.assignedMecId, env.now⟩, decision)
        else (om, decision)

variable {om} in
theorem isActive_eq_false_iff {key : PyKey} : om.isActive key = false ↔ key ∉ om.activeSessions.map Prod.fst := by
  rw [isActive, List.any_eq_false]
  constructor
  · intro h hmem
    obtain ⟨session, hsession, rfl⟩ := List.mem_map.mp hmem
    exact h session hsession (decide_eq_true rfl)
  · intro h session hsession hkey
    exact h (of_decide_eq_true hkey ▸ List.mem_map_of_mem hsession)

theorem autoApproveStrategy_approved {env : ManagerEnv} (h : (om.autoApproveStrategy env).approved = true) :
    (om.autoApproveStrategy env).assignedMecId ∈ om.availableMecs ∧
      om.isFree (om.autoApproveStrategy env).assignedMecId = true := by
  unfold autoApproveStrategy at h ⊢
  cases hfree : om.availableMecs.filter om.isFree with
  | nil => rw [hfree] at h; cases h
  | cons mec mecs =>
      dsimp only
      have hlt : env.choice % (mecs.length + 1) < (mec :: mecs).length := Nat.mod_lt _ (Nat.succ_pos _)
      rw [List.getD_eq_getElem _ _ hlt]
      have hmem : (mec :: mecs)[env.choice % (mecs.length + 1)] ∈ om.availableMecs.filter om.isFree := by
        rw [hfree]
        exact List.getElem_mem hlt
      exact List.mem_filter.mp hmem

/-- What a decision comes to: nothing, and then only a MEC without a name is approved, or a session of a new request is
kept on a free MEC. -/
theorem makeDecision_outcome (requestId taskId vhc : Json) (env : ManagerEnv) :
    ((om.makeDecision requestId taskId vhc env).1 = om ∧
        ((om.makeDecision requestId taskId vhc env).2.approved = true →
          (om.makeDecision requestId taskId vhc env).2.assignedMecId = "" ∧
            (om.makeDecision requestId taskId vhc env).2.assignedMecId ∈ om.availableMecs ∧
            om.isFree (om.makeDecision requestId taskId vhc env).2.assignedMecId = true)) ∨
      ∃ key mec, pyKey requestId = some key ∧ om.isActive key = false ∧
        om.activeSessions.length < om.maxConcurrentSessions ∧ mec ∈ om.availableMecs ∧ om.isFree mec = true ∧ mec ≠ "" ∧
        (om.makeDecision requestId taskId vhc env).1 = om.track key ⟨requestId, taskId, vhc, mec, env.now⟩ ∧
        (om.makeDecision requestId taskId vhc env).2.approved = true ∧
        (om.makeDecision requestId taskId vhc env).2.assignedMecId = mec := by
  unfold makeDecision
  split
  · exact .inl ⟨rfl, fun h => by cases h⟩
  · split
    · exact .inl ⟨rfl, fun h => by cases h⟩
    · rename_i hlimit
      split
      · exact .inl ⟨rfl, fun h => by cases h⟩
      · rename_i key hkey
        split
        · exact .inl ⟨rfl, fun h => by cases h⟩
        · rename_i hactive
          dsimp only
          split
          · rename_i happroved
            obtain ⟨happroved, hne⟩ := Bool.and_eq_true_iff.mp happroved
            obtain ⟨hmem, hfree⟩ := om.autoApproveStrategy_approved happroved
            exact .inr ⟨key, _, hkey, Bool.not_eq_true _ ▸ hactive, Nat.not_le.mp hlimit, hmem, hfree,
              of_decide_eq_true hne, rfl, happroved, rfl⟩
          · rename_i hnot
            refine .inl ⟨rfl, fun happroved => ?_⟩
            obtain ⟨hmem, hfree⟩ := om.autoApproveStrategy_approved happroved
            refine ⟨?_, hmem, hfree⟩
            by_contra hne
            exact hnot (Bool.and_eq_true_iff.mpr ⟨happroved, decide_eq_true hne⟩)

/-- **What a decision can do**: nothing, or keep a session of a new request on a free MEC. -/
theorem makeDecision_cases (requestId taskId vhc : Json) (env : ManagerEnv) :
    (om.makeDecision requestId taskId vhc env).1 = om ∨
      ∃ key mec, pyKey requestId = some key ∧ om.isActive key = false ∧
        om.activeSessions.length < om.maxConcurrentSessions ∧ mec ∈ om.availableMecs ∧ om.isFree mec = true ∧ mec ≠ "" ∧
        (om.makeDecision requestId taskId vhc env).1 = om.track key ⟨requestId, taskId, vhc, mec, env.now⟩ ∧
        (om.makeDecision requestId taskId vhc env).2.approved = true ∧
        (om.makeDecision requestId taskId vhc env).2.assignedMecId = mec :=
  (om.makeDecision_outcome requestId taskId vhc env).imp_left And.left

theorem isFree_of_approved {requestId taskId vhc : Json} {env : ManagerEnv}
    (h : (om.makeDecision requestId taskId vhc env).2.approved = true) :
    om.isFree (om.makeDecision requestId taskId vhc env).2.assignedMecId = true := by
  rcases om.makeDecision_outcome requestId taskId vhc env with ⟨-, hleft⟩ | ⟨key, mec, -, -, -, -, hfree, -, -, -, hmec⟩
  · exact (hleft h).2.2
  · rw [hmec]
    exact hfree

/-- The keepalive of a value that is not hashable raises, and is dropped like one of an unknown session. -/
def updateSessionKeepalive (requestId : Json) (now : Nat) : OffloadingManager :=
  { om with
    activeSessions := om.activeSessions.map fun (key, session) =>
      (key, if pyKey requestId = some key then { session with timestamp := now } else session) }

def handleSessionFailure (requestId : Json) : OffloadingManager :=
  match om.activeSessions.find? fun session => pyKey requestId = some session.1 with
  | none => om
  | some (key, session) =>
    { om with
      activeSessions := om.activeSessions.filter fun other => other.1 ≠ key
      mecAssignments :=
        if session.assignedMecId ≠ "" ∧ (om.mecAssignments session.assignedMecId).isSome then
          Function.update om.mecAssignments session.assignedMecId (some .null)
        else om.mecAssignments }

/-- `update_available_mecs`: new MECs are free, removed ones forgotten. -/
def updateAvailableMecs (mecs : List String) : OffloadingManager :=
  { om with
    availableMecs := mecs
    mecAssignments := fun mec =>
      if mec ∈ mecs then some ((om.mecAssignments mec).getD .null)
      else if mec ∈ om.availableMecs then none
      else om.mecAssignments mec }

/-! ## Messages -/

def handleOffloadRequest (payload : Json) (env : ManagerEnv) : OffloadingManager × List Json :=
  if lenRaises (payload.get "vhc_data") then (om, [])
  else
    let requestId := coerceInt (payload.get "request_id")
    let taskId := coerceInt (payload.get "task_id")
    let decided := om.makeDecision requestId taskId (payload.get "mgwcp_component_id") env
    let sequenceNumber := om.sequenceNumber + 1
    ({ decided.1 with sequenceNumber := sequenceNumber },
      [if decided.2.approved then Protocol.sessionApproved sequenceNumber requestId decided.2.assignedMecId taskId
        else Protocol.sessionDenied sequenceNumber requestId decided.2.reasonCode decided.2.reason])

/-- The code of `SESSION_KEEPALIVE` is `102` here: it is what the Bridge sends as `SESSION_TERMINATE_REQUEST`. -/
def processMessage (message : Json) (env : ManagerEnv) : OffloadingManager × List Json :=
  if !(message.contains "component_id" && message.contains "message_code" && message.contains "message_type" &&
      message.contains "payload") then (om, [])
  else
    match message.get "payload" with
    | .obj fields =>
      let payload := Json.obj fields
      if (message.get "message_code").eqInt 100 then om.handleOffloadRequest payload env
      else if (message.get "message_code").eqInt 102 then
        (om.updateSessionKeepalive (payload.get "request_id") env.now, [])
      else if (message.get "message_code").eqInt 301 then (om.handleSessionFailure (payload.get "request_id"), [])
      else (om, [])
    | _ => (om, [])

/-- The arguments with which a message makes the server call `make_decision`. -/
def decisionArguments (message : Json) : Option (Json × Json × Json) :=
  if !(message.contains "component_id" && message.contains "message_code" && message.contains "message_type" &&
      message.contains "payload") then none
  else
    match message.get "payload" with
    | .obj fields =>
      let payload := Json.obj fields
      if (message.get "message_code").eqInt 100 && !lenRaises (payload.get "vhc_data") then
        some (coerceInt (payload.get "request_id"), coerceInt (payload.get "task_id"), payload.get "mgwcp_component_id")
      else none
    | _ => none

theorem processMessage_of_arguments {message requestId taskId vhc : Json}
    (h : decisionArguments message = some (requestId, taskId, vhc)) (env : ManagerEnv) :
    om.processMessage message env =
      ({ (om.makeDecision requestId taskId vhc env).1 with sequenceNumber := om.sequenceNumber + 1 },
        [if (om.makeDecision requestId taskId vhc env).2.approved then
            Protocol.sessionApproved (om.sequenceNumber + 1) requestId
              (om.makeDecision requestId taskId vhc env).2.assignedMecId taskId
          else
            Protocol.sessionDenied (om.sequenceNumber + 1) requestId
              (om.makeDecision requestId taskId vhc env).2.reasonCode
              (om.makeDecision requestId taskId vhc env).2.reason]) := by
  unfold decisionArguments at h
  unfold processMessage
  split at h
  · cases h
  · rename_i hfields
    rw [if_neg hfields]
    cases hpayload : message.get "payload" with
    | obj fields =>
        rw [hpayload] at h
        dsimp only at h ⊢
        split at h
        · rename_i hcode
          obtain ⟨hcode, hlen⟩ := Bool.and_eq_true_iff.mp hcode
          cases h
          rw [if_pos hcode, handleOffloadRequest, if_neg (by simpa using hlen)]
        · cases h
    | _ => rw [hpayload] at h; cases h

/-! ## Timestamps -/

/-- The sessions without their timestamps. -/
def timeless (sessions : List (PyKey × SessionInfo)) : List (PyKey × SessionInfo) :=
  sessions.map fun (key, session) => (key, { session with timestamp := 0 })

def forget : OffloadingManager := { om with activeSessions := timeless om.activeSessions }

theorem timeless_append (l l' : List (PyKey × SessionInfo)) : timeless (l ++ l') = timeless l ++ timeless l' :=
  List.map_append

@[simp] theorem timeless_timeless (l : List (PyKey × SessionInfo)) : timeless (timeless l) = timeless l := by
  simp [timeless]

theorem forget_forget : om.forget.forget = om.forget := by
  simp [forget]

@[simp] theorem length_timeless (l : List (PyKey × SessionInfo)) : (timeless l).length = l.length :=
  List.length_map _

@[simp] theorem isActive_forget (key : PyKey) : om.forget.isActive key = om.isActive key := by
  simp [isActive, forget, timeless, Function.comp_def]

theorem forget_updateSessionKeepalive (requestId : Json) (now : Nat) :
    (om.updateSessionKeepalive requestId now).forget = om.forget := by
  simp only [forget, updateSessionKeepalive, timeless, List.map_map]
  congr 1
  apply List.map_congr_left
  intro session _
  simp only [Function.comp_apply]
  split_ifs <;> rfl

theorem forget_track (key : PyKey) (session : SessionInfo) :
    (om.forget.track key session).forget = (om.track key session).forget := by
  simp [forget, track, timeless_append]

theorem find_timeless (l : List (PyKey × SessionInfo)) (p : PyKey → Bool) :
    (timeless l).find? (fun session => p session.1) =
      (l.find? fun session => p session.1).map fun (key, session) => (key, { session with timestamp := 0 }) :=
  List.find?_map

theorem filter_timeless (l : List (PyKey × SessionInfo)) (p : PyKey → Bool) :
    (timeless l).filter (fun session => p session.1) = timeless (l.filter fun session => p session.1) :=
  List.filter_map

theorem forget_handleSessionFailure (requestId : Json) :
    (om.forget.handleSessionFailure requestId).forget = (om.handleSessionFailure requestId).forget := by
  have hfind := find_timeless om.activeSessions fun key => pyKey requestId = some key
  unfold handleSessionFailure
  cases hs : om.activeSessions.find? fun session => pyKey requestId = some session.1 with
  | none =>
      rw [hs] at hfind
      simp only [forget, hfind, Option.map_none, timeless_timeless]
  | some found =>
      rw [hs] at hfind
      have hfilter := filter_timeless om.activeSessions fun key => key ≠ found.1
      simp only [forget, hfind, Option.map_some, hfilter, timeless_timeless]
      rfl

theorem forget_makeDecision (requestId taskId mgwcpComponentId : Json) (env : ManagerEnv) :
    (om.forget.makeDecision requestId taskId mgwcpComponentId env).1.forget =
        (om.makeDecision requestId taskId mgwcpComponentId env).1.forget ∧
      (om.forget.makeDecision requestId taskId mgwcpComponentId env).2 =
        (om.makeDecision requestId taskId mgwcpComponentId env).2 := by
  have htask : om.forget.hasTask taskId = om.hasTask taskId := rfl
  have hlength : om.forget.activeSessions.length = om.activeSessions.length := length_timeless _
  have hmax : om.forget.maxConcurrentSessions = om.maxConcurrentSessions := rfl
  have hstrategy : om.forget.autoApproveStrategy env = om.autoApproveStrategy env := rfl
  unfold makeDecision
  rw [htask, hlength, hmax, hstrategy]
  split_ifs
  · exact ⟨om.forget_forget, rfl⟩
  · exact ⟨om.forget_forget, rfl⟩
  · cases pyKey requestId with
    | none => exact ⟨om.forget_forget, rfl⟩
    | some key =>
        dsimp only
        rw [isActive_forget]
        split_ifs
        · exact ⟨om.forget_forget, rfl⟩
        · exact ⟨om.forget_track key _, rfl⟩
        · exact ⟨om.forget_forget, rfl⟩

theorem forget_handleOffloadRequest (payload : Json) (env : ManagerEnv) :
    (om.forget.handleOffloadRequest payload env).1.forget = (om.handleOffloadRequest payload env).1.forget ∧
      (om.forget.handleOffloadRequest payload env).2 = (om.handleOffloadRequest payload env).2 := by
  unfold handleOffloadRequest
  split_ifs
  · exact ⟨om.forget_forget, rfl⟩
  · obtain ⟨hom, hdecision⟩ := om.forget_makeDecision (coerceInt (payload.get "request_id"))
      (coerceInt (payload.get "task_id")) (payload.get "mgwcp_component_id") env
    dsimp only
    rw [hdecision]
    exact ⟨congrArg (fun om' => { om' with sequenceNumber := om.sequenceNumber + 1 }) hom, rfl⟩

/-- **The timestamps decide nothing.** -/
theorem forget_processMessage (message : Json) (env : ManagerEnv) :
    (om.forget.processMessage message env).1.forget = (om.processMessage message env).1.forget ∧
      (om.forget.processMessage message env).2 = (om.processMessage message env).2 := by
  unfold processMessage
  split
  · exact ⟨om.forget_forget, rfl⟩
  · cases message.get "payload" with
    | obj fields =>
        dsimp only
        split_ifs
        · exact om.forget_handleOffloadRequest _ env
        · refine ⟨?_, rfl⟩
          rw [forget_updateSessionKeepalive, forget_updateSessionKeepalive, forget_forget]
        · exact ⟨om.forget_handleSessionFailure _, rfl⟩
        · exact ⟨om.forget_forget, rfl⟩
    | _ => exact ⟨om.forget_forget, rfl⟩

theorem forget_keepalive {message : Json} (env : ManagerEnv) (hrequest : (message.get "message_code").eqInt 100 = false)
    (hfailure : (message.get "message_code").eqInt 301 = false) :
    (om.processMessage message env).1.forget = om.forget ∧ (om.processMessage message env).2 = [] := by
  unfold processMessage
  rw [hrequest, hfailure]
  split
  · exact ⟨rfl, rfl⟩
  · cases message.get "payload" with
    | obj fields =>
        dsimp only
        rw [if_neg (by decide), if_neg (c := false = true) (by decide)]
        split_ifs
        · exact ⟨om.forget_updateSessionKeepalive _ _, rfl⟩
        · exact ⟨rfl, rfl⟩
    | _ => exact ⟨rfl, rfl⟩

end OffloadingManager

end EdgeOffloading
