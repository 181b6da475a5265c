import EdgeOffloading.Manager.Exclusive

/-!
# Decisions are atomic and bounded

The checks of a request come before anything is written, and what is written belongs to one session. The request may
have any values; some of them raise, before the checks or among them.

* `decides_callMakeDecision`: what a call leaves behind;
* `bounded_sequentialStep`: no call brings more sessions than the configuration allows;
* `decisions_atomic_bounded`: both, for every state and for every run.
-/

namespace EdgeOffloading

open Run

/-- The calls of the decision engine, one after the other, with any values. -/
inductive SequentialCall where
  | decision (requestId taskId vhc vhcData : Json) (env : ManagerEnv)
  | failure (requestId : Json)
  | update (mecs : List String)

namespace OffloadingManager

variable (om : OffloadingManager)

/-- `make_decision` from its first line, in which `len` of the data is taken; no result where it raises. -/
def callMakeDecision (requestId taskId vhc vhcData : Json) (env : ManagerEnv) :
    OffloadingManager × Option DecisionResult :=
  if lenRaises vhcData then (om, none)
  else
    let decided := om.makeDecision requestId taskId vhc env
    (decided.1, some decided.2)

def sequentialStep : SequentialCall → OffloadingManager
  | .decision requestId taskId vhc vhcData env => (om.callMakeDecision requestId taskId vhc vhcData env).1
  | .failure requestId => om.handleSessionFailure requestId
  | .update mecs => om.updateAvailableMecs mecs

/-- The request is denied or raises, and the engine is left as it is. -/
structure Denies (om' : OffloadingManager) (result : Option DecisionResult) : Prop where
  result : ∀ decision, result = some decision → decision.approved = false
  sessions : om'.activeSessions = om.activeSessions
  assignments : om'.mecAssignments = om.mecAssignments
  mecs : om'.availableMecs = om.availableMecs

/-- The request is approved: it has a session now that it did not have, on a MEC that was there and had no VHC. -/
structure Approves (requestId vhc : Json) (om' : OffloadingManager) (result : Option DecisionResult)
    (key : PyKey) (session : SessionInfo) : Prop where
  result : ∃ decision, result = some decision ∧ decision.approved = true ∧
    decision.assignedMecId = session.assignedMecId
  hashes : pyKey requestId = some key
  new : key ∉ om.activeSessions.map Prod.fst
  request : session.requestId = requestId
  sessions : om'.activeSessions = om.activeSessions ++ [(key, session)]
  available : session.assignedMecId ∈ om.availableMecs
  free : ∀ assigned, om.mecAssignments session.assignedMecId = some assigned → assigned = .null
  assignment : om'.mecAssignments session.assignedMecId = some vhc
  others : ∀ mec, mec ≠ session.assignedMecId → om'.mecAssignments mec = om.mecAssignments mec
  mecs : om'.availableMecs = om.availableMecs

/-- A call denies or approves, and nothing between. -/
def Decides (requestId vhc : Json) (om' : OffloadingManager) (result : Option DecisionResult) : Prop :=
  om.Denies om' result ∨ ∃ key session, om.Approves requestId vhc om' result key session

variable {om}

theorem assigned_of_isFree {mec : String} (h : om.isFree mec = true) {assigned : Json}
    (hassigned : om.mecAssignments mec = some assigned) : assigned = .null := by
  unfold isFree at h
  rw [hassigned] at h
  cases assigned <;> first | rfl | cases h

/-- **One call.** -/
theorem decides_callMakeDecision (hmecs : ∀ mec ∈ om.availableMecs, mec ≠ "") (requestId taskId vhc vhcData : Json)
    (env : ManagerEnv) :
    om.Decides requestId vhc (om.callMakeDecision requestId taskId vhc vhcData env).1
      (om.callMakeDecision requestId taskId vhc vhcData env).2 := by
  unfold callMakeDecision
  split
  · refine .inl ⟨fun decision h => ?_, rfl, rfl, rfl⟩
    cases h
  · dsimp only
    rcases om.makeDecision_outcome requestId taskId vhc env with
      ⟨hsame, hnone⟩ | ⟨key, mec, hkey, hactive, -, hmem, hfree, -, heq, happroved, hmec⟩
    · left
      rw [hsame]
      refine ⟨fun decision h => ?_, rfl, rfl, rfl⟩
      rw [← Option.some.inj h, ← Bool.not_eq_true]
      intro happroved
      obtain ⟨hempty, hmem, -⟩ := hnone happroved
      exact hmecs _ hmem hempty
    · right
      refine ⟨key, ⟨requestId, taskId, vhc, mec, env.now⟩, ?_⟩
      rw [heq]
      refine ⟨⟨_, rfl, happroved, hmec⟩, hkey, isActive_eq_false_iff.mp hactive, rfl, rfl, hmem,
        fun _ => assigned_of_isFree hfree, ?_, fun other hne => ?_, rfl⟩
      · exact Function.update_self _ _ _
      · exact Function.update_of_ne hne _ _

/-- There are no more sessions than the configuration allows. -/
def Bounded (limit : Nat) (om : OffloadingManager) : Prop :=
  om.maxConcurrentSessions = limit ∧ om.activeSessions.length ≤ limit

theorem bounded_callMakeDecision {limit : Nat} (h : om.Bounded limit) (requestId taskId vhc vhcData : Json)
    (env : ManagerEnv) : (om.callMakeDecision requestId taskId vhc vhcData env).1.Bounded limit := by
  unfold callMakeDecision
  split
  · exact h
  · dsimp only
    rcases om.makeDecision_cases requestId taskId vhc env with hsame | ⟨key, mec, -, -, hlt, -, -, -, heq, -⟩
    · rw [hsame]
      exact h
    · rw [heq]
      refine ⟨h.1, ?_⟩
      show (om.activeSessions ++ [(key, _)]).length ≤ limit
      rw [List.length_append, List.length_singleton, ← h.1]
      exact hlt

/-- **One step.** -/
theorem bounded_sequentialStep {limit : Nat} (h : om.Bounded limit) (call : SequentialCall) :
    (om.sequentialStep call).Bounded limit := by
  cases call with
  | decision requestId taskId vhc vhcData env => exact bounded_callMakeDecision h requestId taskId vhc vhcData env
  | failure requestId =>
      show (om.handleSessionFailure requestId).Bounded limit
      unfold handleSessionFailure
      split
      · exact h
      · exact ⟨h.1, (List.length_filter_le _ _).trans h.2⟩
  | update mecs => exact h

/-- **Decisions are atomic and bounded.** Where the MECs have names, a call with any values denies or raises and leaves
the engine as it is, or approves and keeps one session on one MEC. Over every run of calls from an engine without
sessions, there are never more of them than the configuration allows. -/
theorem decisions_atomic_bounded (om : OffloadingManager) (hmecs : ∀ mec ∈ om.availableMecs, mec ≠ "")
    (requestId taskId vhc vhcData : Json) (env : ManagerEnv) (tasks : List Nat) (limit : Nat)
    (calls : List SequentialCall) :
    om.Decides requestId vhc (om.callMakeDecision requestId taskId vhc vhcData env).1
        (om.callMakeDecision requestId taskId vhc vhcData env).2 ∧
      (run sequentialStep (init tasks limit) calls).activeSessions.length ≤
        (run sequentialStep (init tasks limit) calls).maxConcurrentSessions := by
  refine ⟨decides_callMakeDecision hmecs requestId taskId vhc vhcData env, ?_⟩
  have hstep : ∀ om call, Bounded limit om → Bounded limit (sequentialStep om call) :=
    fun _ call h => bounded_sequentialStep h call
  have hbounded := run_invariant_of_step sequentialStep hstep calls (init tasks limit) ⟨rfl, Nat.zero_le limit⟩
  rw [hbounded.1]
  exact hbounded.2

/-- An engine with one MEC, which is free. -/
def oneMec : OffloadingManager := (init [1] 10).updateAvailableMecs ["20:1"]

theorem decisions_atomic_bounded_oneMec :
    oneMec.Decides (.int 7) (.str "10:1")
        (oneMec.callMakeDecision (.int 7) (.int 1) (.str "10:1") (.str "") ⟨0, 0, fun _ => ""⟩).1
        (oneMec.callMakeDecision (.int 7) (.int 1) (.str "10:1") (.str "") ⟨0, 0, fun _ => ""⟩).2 ∧
      (run sequentialStep (init [1] 10) [.update ["20:1"], .failure (.int 7)]).activeSessions.length ≤
        (run sequentialStep (init [1] 10) [.update ["20:1"], .failure (.int 7)]).maxConcurrentSessions := by
  have hmecs : ∀ mec ∈ oneMec.availableMecs, mec ≠ "" := by
    intro mec hmec
    rw [List.mem_singleton.mp hmec]
    decide
  exact decisions_atomic_bounded oneMec hmecs _ _ _ _ _ [1] 10 _

end OffloadingManager

end EdgeOffloading
