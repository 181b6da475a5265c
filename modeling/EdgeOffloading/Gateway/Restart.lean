import EdgeOffloading.Gateway.Sessions

/-!
# Sessions that start again

The sessions of one task on one gateway process. A teardown unregisters the handlers but leaves their parameters
declared, and the next approval initialises the handlers again.

* `approvals_alike_iff_along`: when every approval of a run completes and leaves the handlers as the first one did.
-/

namespace EdgeOffloading.GatewayController

variable {c : GatewayController}

inductive TaskEvent where
  | request (now : Nat)
  | approve (requestId : String) (now : Nat)
  | teardown (requestId : String)

/-- How the handlers of the task got where they are. -/
inductive Phase where
  /-- No approval yet. -/
  | fresh
  /-- The last approval was not followed by a teardown of a session. -/
  | active
  /-- A session was torn down since the last approval. -/
  | tornDown
  deriving DecidableEq, Repr

structure TaskRun where
  controller : GatewayController
  phase : Phase := .fresh

section

variable (taskId : String) (details : TaskDetails)

/-- An event and whether it completed. -/
def taskAct (c : GatewayController) : TaskEvent → GatewayController × Bool
  | .request now => (c.drawRequestId.1.insertSession c.drawRequestId.2 taskId now, true)
  | .approve requestId now => c.onSessionApproved (approvalPayload requestId taskId) now
  | .teardown requestId => (c.handleSessionTeardown requestId, true)

def phaseAfter (s : TaskRun) : TaskEvent → Phase
  | .request _ => s.phase
  | .approve _ _ => .active
  | .teardown requestId =>
    if (s.controller.activeSessions requestId).isSome ∧ s.phase = .active then .tornDown else s.phase

def taskStep (s : TaskRun) (e : TaskEvent) : TaskRun :=
  if s.controller.terminated then s else ⟨orTerminate (taskAct taskId s.controller e), phaseAfter s e⟩

/-- What an event contributes to the outcomes of the approvals. -/
def approvalOutcome (s : TaskRun) : TaskEvent → List (GatewayController × Bool)
  | .approve requestId now => [taskAct taskId s.controller (.approve requestId now)]
  | _ => []

/-- The outcomes of the approvals of a run, as long as the process lives. -/
def approvals : TaskRun → List TaskEvent → List (GatewayController × Bool)
  | _, [] => []
  | s, e :: es =>
    if s.controller.terminated then [] else approvalOutcome taskId s e ++ approvals (taskStep taskId s e) es

/-- Every approval completes and leaves every handler as the first approval did: as registered, initialised and enabled
and in the same mode. -/
def ApprovalsAlike (s : TaskRun) (events : List TaskEvent) : Prop :=
  ∀ first rest, approvals taskId s events = first :: rest → ∀ outcome ∈ first :: rest,
    outcome.2 = true ∧
      ∀ mt cls, mtCreatorMap mt = some cls → outcome.1.gateway.view mt cls = first.1.gateway.view mt cls

/-- No approval follows a teardown, unless no type of the task has a handler. -/
def NotAfterTeardown (s : TaskRun) : TaskEvent → Prop
  | .approve _ _ => s.phase ≠ .tornDown ∨ ∀ mt ∈ typesOf details, mtCreatorMap mt = none
  | _ => True

/-- A gateway whose configuration has the task, before its first session. -/
def freshGateway (componentType : ComponentType) (componentId : String) (others : List (String × TaskDetails)) :
    GatewayController where
  componentType := componentType
  operationMode := .networked
  componentId := componentId
  dataPlaneListenPort := 0
  state := .operational
  taskDatabase := (taskId, details) :: others
  bridgeCpClient := some {}

end

/-! ## The handlers in each phase -/

/-- A handler that was never touched. -/
def untouched : HandlerView := ⟨{}, false, false⟩

/-- The handler of a type after an approval of the task. -/
def approvedView (modes : HandlerMode × HandlerMode) (details : TaskDetails) (mt : MessageType) : HandlerView :=
  if mt ∈ details.outputTypes then untouched.activate modes.2
  else if mt ∈ details.inputTypes then untouched.activate modes.1
  else untouched

/-- The invariant of a run whose approvals all completed. -/
structure RunsTask (modes : HandlerMode × HandlerMode) (taskId : String) (details : TaskDetails) (s : TaskRun) :
    Prop where
  running : s.controller.terminated = false
  keyed : s.controller.gateway.Keyed
  modesEq : s.controller.activationModes = modes
  task : s.controller.taskDatabase.lookup taskId = some details
  sessions : ∀ r session, s.controller.activeSessions r = some session → session.taskId = taskId
  foreign : ∀ mt cls, mtCreatorMap mt = some cls → mt ∉ typesOf details →
    s.controller.gateway.view mt cls = untouched
  fresh : s.phase = .fresh → ∀ mt cls, mtCreatorMap mt = some cls → s.controller.gateway.view mt cls = untouched
  active : s.phase = .active → ∀ mt cls, mtCreatorMap mt = some cls →
    s.controller.gateway.view mt cls = approvedView modes details mt
  tornDown : s.phase = .tornDown → ∀ mt ∈ typesOf details, ∀ cls, mtCreatorMap mt = some cls →
    (s.controller.gateway.view mt cls).registered = false ∧ (s.controller.gateway.view mt cls).declared = true

theorem runsTask_freshGateway (componentType : ComponentType) (componentId taskId : String) (details : TaskDetails)
    (others : List (String × TaskDetails)) :
    RunsTask (freshGateway taskId details componentType componentId others).activationModes taskId details
      ⟨freshGateway taskId details componentType componentId others, .fresh⟩ where
  running := rfl
  keyed := RosGateway.keyed_empty
  modesEq := rfl
  task := by simp [freshGateway]
  sessions r session h := by cases h
  foreign mt cls _ _ := by simp [RosGateway.view, freshGateway, RosGateway.empty, RosGateway.handlerOf, untouched]
  fresh _ mt cls _ := by simp [RosGateway.view, freshGateway, RosGateway.empty, RosGateway.handlerOf, untouched]
  active h := by cases h
  tornDown h := by cases h

section Steps

variable {modes : HandlerMode × HandlerMode} {taskId : String} {details : TaskDetails} {s : TaskRun}

theorem notMem_typesOf {mt : MessageType} (h : mt ∉ typesOf details) :
    mt ∉ details.inputTypes ∧ mt ∉ details.outputTypes := by
  unfold typesOf at h
  rw [List.mem_append] at h
  exact not_or.mp h

theorem approvedView_foreign (modes : HandlerMode × HandlerMode) {mt : MessageType} (h : mt ∉ typesOf details) :
    approvedView modes details mt = untouched := by
  obtain ⟨hin, hout⟩ := notMem_typesOf h
  rw [approvedView, if_neg hout, if_neg hin]

theorem registered_approvedView (modes : HandlerMode × HandlerMode) {mt : MessageType} (h : mt ∈ typesOf details) :
    (approvedView modes details mt).registered = true ∧ (approvedView modes details mt).declared = true := by
  unfold approvedView
  rcases List.mem_append.mp h with hin | hout
  · split_ifs <;> exact ⟨rfl, rfl⟩
  · rw [if_pos hout]
    exact ⟨rfl, rfl⟩

theorem RunsTask.approvedTask (h : RunsTask modes taskId details s) (requestId : String) :
    s.controller.approvedTask (approvalPayload requestId taskId) = some details := by
  have hid : approvedRequestId (approvalPayload requestId taskId) = some requestId := rfl
  unfold GatewayController.approvedTask approvedTaskId
  cases hs : s.controller.activeSessions requestId with
  | none =>
      simp only [hid, hs, Option.bind_some]
      exact h.task
  | some session =>
      simp only [hid, hs, Option.bind_some, h.sessions requestId session hs]
      exact h.task

theorem RunsTask.registrable_iff (h : RunsTask modes taskId details s) :
    s.controller.gateway.RegistrableAll (typesOf details) ↔
      s.phase ≠ .tornDown ∨ ∀ mt ∈ typesOf details, mtCreatorMap mt = none := by
  constructor
  · intro hreg
    by_contra hnot
    obtain ⟨hphase, hnone⟩ := not_or.mp hnot
    obtain ⟨mt, hmt, hcreator⟩ : ∃ mt, mt ∈ typesOf details ∧ mtCreatorMap mt ≠ none := by
      simpa using hnone
    obtain ⟨cls, hcls⟩ := Option.ne_none_iff_exists'.mp hcreator
    obtain ⟨hr, hd⟩ := h.tornDown (not_not.mp hphase) mt hmt cls hcls
    rcases hreg mt hmt cls hcls with hr' | hd'
    · rw [hr] at hr'; cases hr'
    · rw [hd] at hd'; cases hd'
  · rintro (hphase | hnone) mt hmt cls hcls
    · cases hp : s.phase with
      | fresh => rw [h.fresh hp mt cls hcls]; exact Or.inr rfl
      | active => rw [h.active hp mt cls hcls]; exact Or.inl (registered_approvedView modes hmt).1
      | tornDown => exact absurd hp hphase
    · rw [hnone mt hmt] at hcls
      cases hcls

theorem RunsTask.view_approved (h : RunsTask modes taskId details s)
    (hreg : s.controller.gateway.RegistrableAll (typesOf details)) (requestId : String) (now : Nat) {mt : MessageType}
    {cls : HandlerClass} (hcls : mtCreatorMap mt = some cls) :
    (taskAct taskId s.controller (.approve requestId now)).1.gateway.view mt cls = approvedView modes details mt := by
  let touched := s.controller.touched (approvalPayload requestId taskId) now
  have hgateway : touched.gateway = s.controller.gateway := gateway_touched _ _ _
  have hmodes : touched.activationModes = modes := (activationModes_congr (touched_frame _ _ _).2.2.2).trans h.modesEq
  have hok : (touched.activateTask details).2 = true := by
    rw [activateTask_completes_iff, hgateway]
    exact hreg
  show (s.controller.onSessionApproved (approvalPayload requestId taskId) now).1.gateway.view mt cls = _
  rw [onSessionApproved_eq (h.approvedTask requestId), view_activateTask hok hcls, hmodes, hgateway]
  by_cases hmt : mt ∈ typesOf details
  · cases hp : s.phase with
    | fresh =>
        rw [h.fresh hp mt cls hcls]
        rfl
    | active =>
        rw [h.active hp mt cls hcls]
        unfold approvedView
        split_ifs
        · rw [HandlerView.activate_activate]
        · rw [HandlerView.activate_activate]
        · rfl
    | tornDown =>
        rcases h.registrable_iff.mp hreg with hphase | hnone
        · exact absurd hp hphase
        · rw [hnone mt hmt] at hcls
          cases hcls
  · obtain ⟨hin, hout⟩ := notMem_typesOf hmt
    rw [if_neg hout, if_neg hin, h.foreign mt cls hcls hmt, approvedView_foreign modes hmt]

theorem RunsTask.taskStep_eq (h : RunsTask modes taskId details s) (e : TaskEvent) :
    taskStep taskId s e = ⟨orTerminate (taskAct taskId s.controller e), phaseAfter s e⟩ := by
  rw [taskStep, if_neg (by rw [h.running]; simp)]

theorem RunsTask.request (h : RunsTask modes taskId details s) (now : Nat) :
    RunsTask modes taskId details (taskStep taskId s (.request now)) := by
  rw [h.taskStep_eq]
  refine ⟨h.running, h.keyed, h.modesEq, h.task, ?_, h.foreign, h.fresh, h.active, h.tornDown⟩
  intro r session hs
  change Function.update s.controller.activeSessions s.controller.drawRequestId.2 _ r = some session at hs
  rw [Function.update_apply] at hs
  split_ifs at hs
  · cases hs; rfl
  · exact h.sessions r session hs

theorem RunsTask.approve_completes (h : RunsTask modes taskId details s)
    (hreg : s.controller.gateway.RegistrableAll (typesOf details)) (requestId : String) (now : Nat) :
    (taskAct taskId s.controller (.approve requestId now)).2 = true := by
  refine (onSessionApproved_completes_iff _ now).mpr ⟨⟨requestId, rfl, fun _ _ => Option.some_ne_none taskId⟩, ?_⟩
  intro details' hd
  rw [h.approvedTask requestId] at hd
  cases hd
  exact hreg

theorem RunsTask.approve (h : RunsTask modes taskId details s)
    (hreg : s.controller.gateway.RegistrableAll (typesOf details)) (requestId : String) (now : Nat) :
    RunsTask modes taskId details (taskStep taskId s (.approve requestId now)) := by
  have hview := fun mt cls (hcls : mtCreatorMap mt = some cls) => h.view_approved hreg requestId now hcls
  obtain ⟨-, htasks, hterm, htype⟩ := onSessionApproved_frame s.controller (approvalPayload requestId taskId) now
  rw [h.taskStep_eq, orTerminate, if_pos (h.approve_completes hreg requestId now)]
  refine ⟨hterm.trans h.running, keyed_onSessionApproved h.keyed _ now, ?_, ?_, ?_, ?_, ?_, fun _ => hview, ?_⟩
  · exact (activationModes_congr htype).trans h.modesEq
  · exact (congrArg (List.lookup taskId) htasks).trans h.task
  · intro r session hs
    have hsame := onSessionApproved_sessions s.controller (approvalPayload requestId taskId) now r
    rw [show (s.controller.onSessionApproved (approvalPayload requestId taskId) now).1.activeSessions r = some session
      from hs] at hsame
    obtain ⟨session₀, hs₀, heq⟩ := Option.map_eq_some_iff.mp hsame.symm
    have htaskId : session₀.taskId = session.taskId := congrArg Prod.snd heq
    rw [← htaskId]
    exact h.sessions r session₀ hs₀
  · intro mt cls hcls hmt
    rw [← approvedView_foreign modes hmt]
    exact hview mt cls hcls
  · intro hphase
    cases hphase
  · intro hphase
    cases hphase

theorem view_teardown (h : c.gateway.Keyed) {requestId : String} {session : SessionState}
    (hs : c.activeSessions requestId = some session) (htask : c.taskDatabase.lookup session.taskId = some details)
    {mt : MessageType} {cls : HandlerClass} (hcls : mtCreatorMap mt = some cls) :
    (c.handleSessionTeardown requestId).gateway.view mt cls =
      if mt ∈ typesOf details then (c.gateway.view mt cls).deactivate cls else c.gateway.view mt cls := by
  unfold handleSessionTeardown
  simp only [hs, htask]
  exact view_deactivateTask h details hcls

theorem RunsTask.teardown (h : RunsTask modes taskId details s) (requestId : String) :
    RunsTask modes taskId details (taskStep taskId s (.teardown requestId)) := by
  rw [h.taskStep_eq]
  show RunsTask modes taskId details
    ⟨s.controller.handleSessionTeardown requestId, phaseAfter s (.teardown requestId)⟩
  cases hs : s.controller.activeSessions requestId with
  | none =>
      -- nothing is torn down, and the phase stays
      have hc : s.controller.handleSessionTeardown requestId = s.controller := by
        unfold handleSessionTeardown
        rw [hs]
      have hphase : phaseAfter s (.teardown requestId) = s.phase := by
        simp [phaseAfter, hs]
      rw [hc, hphase]
      exact h
  | some session =>
      have htaskId := h.sessions requestId session hs
      have hview := fun mt cls (hcls : mtCreatorMap mt = some cls) =>
        view_teardown h.keyed hs (htaskId ▸ h.task) hcls
      obtain ⟨htasks, hterm⟩ := teardown_frame s.controller requestId
      have hphase : phaseAfter s (.teardown requestId) = if s.phase = .active then .tornDown else s.phase := by
        simp [phaseAfter, hs]
      rw [hphase]
      refine ⟨hterm.trans h.running, keyed_teardown h.keyed requestId, ?_, ?_, ?_, ?_, ?_, ?_, ?_⟩
      · refine (activationModes_congr ?_).trans h.modesEq
        unfold handleSessionTeardown
        rw [hs]
      · exact (congrArg (List.lookup taskId) htasks).trans h.task
      · intro r session' hs'
        rw [teardown_sessions] at hs'
        split_ifs at hs'
        exact h.sessions r session' hs'
      · intro mt cls hcls hmt
        rw [hview mt cls hcls, if_neg hmt]
        exact h.foreign mt cls hcls hmt
      · intro hp mt cls hcls
        have hfresh : s.phase = .fresh := by
          split_ifs at hp with ha
          exact hp
        rw [hview mt cls hcls, h.fresh hfresh mt cls hcls]
        split_ifs <;> rfl
      · intro hp
        split_ifs at hp with ha
        exact absurd hp ha
      · intro hp mt hmt cls hcls
        rw [hview mt cls hcls, if_pos hmt]
        cases hph : s.phase with
        | fresh => rw [hph] at hp; cases hp
        | active =>
            rw [h.active hph mt cls hcls]
            obtain ⟨hreg, hdecl⟩ := registered_approvedView modes hmt
            rw [HandlerView.deactivate, if_pos hreg]
            exact ⟨rfl, hdecl⟩
        | tornDown =>
            obtain ⟨hreg, hdecl⟩ := h.tornDown hph mt hmt cls hcls
            rw [HandlerView.deactivate, if_neg (by rw [hreg]; simp)]
            exact ⟨hreg, hdecl⟩

/-! ## Runs -/

/-- The outcome of an approval that completes as the first one did. -/
def AsFirst (modes : HandlerMode × HandlerMode) (details : TaskDetails) (outcome : GatewayController × Bool) : Prop :=
  outcome.2 = true ∧
    ∀ mt cls, mtCreatorMap mt = some cls → outcome.1.gateway.view mt cls = approvedView modes details mt

theorem RunsTask.asFirst_iff (h : RunsTask modes taskId details s) (requestId : String) (now : Nat) :
    AsFirst modes details (taskAct taskId s.controller (.approve requestId now)) ↔
      NotAfterTeardown details s (.approve requestId now) := by
  constructor
  · rintro ⟨hok, -⟩
    obtain ⟨-, hreg⟩ := (onSessionApproved_completes_iff _ now).mp hok
    exact h.registrable_iff.mp (hreg details (h.approvedTask requestId))
  · intro hnot
    have hreg := h.registrable_iff.mpr hnot
    exact ⟨h.approve_completes hreg requestId now, fun mt cls hcls => h.view_approved hreg requestId now hcls⟩

theorem RunsTask.step (h : RunsTask modes taskId details s) {e : TaskEvent} (he : NotAfterTeardown details s e) :
    RunsTask modes taskId details (taskStep taskId s e) := by
  cases e with
  | request now => exact h.request now
  | approve requestId now => exact h.approve (h.registrable_iff.mpr he) requestId now
  | teardown requestId => exact h.teardown requestId

theorem RunsTask.approvals_cons (h : RunsTask modes taskId details s) (e : TaskEvent) (es : List TaskEvent) :
    approvals taskId s (e :: es) = approvalOutcome taskId s e ++ approvals taskId (taskStep taskId s e) es := by
  rw [approvals, if_neg (by rw [h.running]; simp)]

theorem RunsTask.approvals_iff_along (es : List TaskEvent) (h : RunsTask modes taskId details s) :
    (∀ outcome ∈ approvals taskId s es, AsFirst modes details outcome) ↔
      Run.Along (taskStep taskId) (NotAfterTeardown details) s es := by
  induction es generalizing s with
  | nil => simp [approvals]
  | cons e es ih =>
      -- the event decides by itself whether its outcome is the expected one
      have hhead : (∀ outcome ∈ approvalOutcome taskId s e, AsFirst modes details outcome) ↔
          NotAfterTeardown details s e := by
        cases e with
        | request now => simp [approvalOutcome, NotAfterTeardown]
        | approve requestId now =>
            rw [← h.asFirst_iff requestId now]
            simp [approvalOutcome]
        | teardown requestId => simp [approvalOutcome, NotAfterTeardown]
      rw [h.approvals_cons, List.forall_mem_append, hhead, Run.along_cons]
      exact and_congr_right fun he => ih (h.step he)

theorem RunsTask.asFirst_head (h : RunsTask modes taskId details s) (hfresh : s.phase = .fresh) {es : List TaskEvent}
    {first : GatewayController × Bool} {rest : List (GatewayController × Bool)}
    (hes : approvals taskId s es = first :: rest) : AsFirst modes details first := by
  induction es generalizing s with
  | nil => cases hes
  | cons e es ih =>
      rw [h.approvals_cons] at hes
      cases e with
      | request now => exact ih (h.request now) (by rw [h.taskStep_eq]; exact hfresh) hes
      | approve requestId now =>
          rw [← (List.cons.inj hes).1]
          exact (h.asFirst_iff requestId now).mpr (Or.inl (by rw [hfresh]; decide))
      | teardown requestId =>
          refine ih (h.teardown requestId) ?_ hes
          rw [h.taskStep_eq]
          simp [phaseAfter, hfresh]

/-- **Every approval of a run completes and leaves the handlers as the first one did iff no approval follows a
teardown**, unless no type of the task has a handler. -/
theorem approvals_alike_iff_along (componentType : ComponentType) (componentId taskId : String) (details : TaskDetails)
    (others : List (String × TaskDetails)) (events : List TaskEvent) :
    ApprovalsAlike taskId ⟨freshGateway taskId details componentType componentId others, .fresh⟩ events ↔
      Run.Along (taskStep taskId) (NotAfterTeardown details)
        ⟨freshGateway taskId details componentType componentId others, .fresh⟩ events := by
  have hruns := runsTask_freshGateway componentType componentId taskId details others
  rw [← hruns.approvals_iff_along]
  constructor
  · intro halike outcome hmem
    obtain ⟨first, rest, hes⟩ := List.exists_cons_of_ne_nil (List.ne_nil_of_mem hmem)
    obtain ⟨-, hfirst⟩ := hruns.asFirst_head rfl hes
    obtain ⟨hok, hsame⟩ := halike first rest hes outcome (hes ▸ hmem)
    exact ⟨hok, fun mt cls hcls => (hsame mt cls hcls).trans (hfirst mt cls hcls)⟩
  · intro hall first rest hes outcome hmem
    rw [← hes] at hmem
    obtain ⟨hok, hview⟩ := hall outcome hmem
    obtain ⟨-, hfirst⟩ := hruns.asFirst_head rfl hes
    exact ⟨hok, fun mt cls hcls => (hview mt cls hcls).trans (hfirst mt cls hcls).symm⟩

end Steps

/-- A session of a task is torn down and another one is approved. -/
def secondSession : List TaskEvent :=
  [.request 0, .approve "1" 1, .teardown "1", .request 2, .approve "2" 3]

/-- The second approval throws. -/
theorem not_approvals_alike :
    ¬ ∀ (componentType : ComponentType) (componentId taskId : String) (details : TaskDetails)
      (others : List (String × TaskDetails)) (events : List TaskEvent),
      ApprovalsAlike taskId ⟨freshGateway taskId details componentType componentId others, .fresh⟩ events := by
  intro h
  have halike := h .vhc "60:5" "3" ⟨"STRING_TEST_PIPELINE", [.stringTestInput], [.stringTestResult]⟩ [] secondSession
  let outcomes := approvals "3" ⟨freshGateway "3" ⟨"STRING_TEST_PIPELINE", [.stringTestInput], [.stringTestResult]⟩
    .vhc "60:5" [], .fresh⟩ secondSession
  have hflags : outcomes.map Prod.snd = [true, false] := by decide +kernel
  obtain ⟨first, rest, hes⟩ : ∃ first rest, outcomes = first :: rest :=
    List.exists_cons_of_ne_nil fun hnil => by rw [hnil] at hflags; cases hflags
  have hthrown : false ∈ outcomes.map Prod.snd := by
    rw [hflags]
    exact List.mem_cons_of_mem _ List.mem_cons_self
  obtain ⟨outcome, hmem, hfalse⟩ := List.mem_map.mp hthrown
  have hok := (halike first rest hes outcome (hes ▸ hmem)).1
  rw [hfalse] at hok
  cases hok

end EdgeOffloading.GatewayController
