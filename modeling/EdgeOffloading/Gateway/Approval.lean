import EdgeOffloading.Gateway.Controller

/-!
# Approvals of the Bridge

An approval activates the handlers of a task, one object for each message type, in modes that exclude each other.

* `approval_opens_iff`: when an approval opens every direction that its task needs and keeps the directions open that
  earlier tasks need;
* `receive_twice`: a message that the Bridge retransmits changes nothing when it is handled again.
-/

namespace EdgeOffloading.GatewayController

variable {c : GatewayController}

/-! ## Activating a task -/

/-- The types of a task, in the order in which they are activated. -/
def typesOf (details : TaskDetails) : List MessageType := details.inputTypes ++ details.outputTypes

theorem activateTask_fst (details : TaskDetails) :
    (c.activateTask details).1 = { c with gateway := (c.activateTask details).1.gateway } := by
  unfold activateTask
  dsimp only
  split_ifs <;> rfl

theorem activateTask_completes_iff (details : TaskDetails) :
    (c.activateTask details).2 = true ↔ c.gateway.RegistrableAll (typesOf details) := by
  have hsplit : c.gateway.RegistrableAll (typesOf details) ↔
      c.gateway.RegistrableAll details.inputTypes ∧ c.gateway.RegistrableAll details.outputTypes :=
    List.forall_mem_append
  have hinputs := RosGateway.activate_completes_iff c.activationModes.1 c.gateway details.inputTypes
  unfold activateTask
  dsimp only
  rw [hsplit]
  by_cases hok : (RosGateway.activate c.activationModes.1 c.gateway details.inputTypes).2 = true
  · rw [if_pos hok, and_iff_right (hinputs.mp hok)]
    dsimp only
    rw [RosGateway.activate_completes_iff]
    refine forall₂_congr fun mt _ => forall₂_congr fun cls hcls => ?_
    rw [RosGateway.view_activate _ hok hcls]
    split_ifs with hmem
    · exact iff_of_true (Or.inl (HandlerView.registered_activate _ _)) (hinputs.mp hok mt hmem cls hcls)
    · exact Iff.rfl
  · rw [if_neg hok]
    exact iff_of_false (by simp) fun h => hok (hinputs.mpr h.1)

theorem view_activateTask {details : TaskDetails} (hok : (c.activateTask details).2 = true) {mt : MessageType}
    {cls : HandlerClass} (hcls : mtCreatorMap mt = some cls) :
    (c.activateTask details).1.gateway.view mt cls =
      if mt ∈ details.outputTypes then (c.gateway.view mt cls).activate c.activationModes.2
      else if mt ∈ details.inputTypes then (c.gateway.view mt cls).activate c.activationModes.1
      else c.gateway.view mt cls := by
  unfold activateTask at hok ⊢
  dsimp only at hok ⊢
  by_cases hin : (RosGateway.activate c.activationModes.1 c.gateway details.inputTypes).2 = true
  · rw [if_pos hin] at hok ⊢
    dsimp only at hok ⊢
    rw [RosGateway.view_activate _ hok hcls, RosGateway.view_activate _ hin hcls]
    split_ifs with hout hmem
    · rw [HandlerView.activate_activate]
    · rfl
    · rfl
    · rfl
  · rw [if_neg hin] at hok
    cases hok

/-! ## The task of an approval -/

/-- The task id under which an approval looks its task up. -/
def approvedTaskId (c : GatewayController) (payload : Json) : Option String :=
  (approvedRequestId payload).bind fun requestId =>
    match c.activeSessions requestId with
    | some session => some session.taskId
    | none => if payload.contains "task_id" then (payload.get "task_id").asString else none

/-- The task that an approval activates. -/
def approvedTask (c : GatewayController) (payload : Json) : Option TaskDetails :=
  (c.approvedTaskId payload).bind fun taskId => c.taskDatabase.lookup taskId

/-- The sessions with the keepalive timer of the approved one set. -/
def touched (c : GatewayController) (payload : Json) (now : Nat) : GatewayController :=
  match approvedRequestId payload with
  | none => c
  | some requestId =>
    { c with
      activeSessions := Function.update c.activeSessions requestId
        ((c.activeSessions requestId).map fun session => { session with lastKeepaliveSent := now }) }

theorem touched_known {payload : Json} {requestId : String} {session : SessionState}
    (hid : approvedRequestId payload = some requestId) (hs : c.activeSessions requestId = some session) (now : Nat) :
    c.touched payload now =
      { c with
        activeSessions := Function.update c.activeSessions requestId
          (some { session with lastKeepaliveSent := now }) } := by
  unfold touched
  simp only [hid, hs, Option.map_some]

theorem touched_unknown {payload : Json} {requestId : String} (hid : approvedRequestId payload = some requestId)
    (hs : c.activeSessions requestId = none) (now : Nat) : c.touched payload now = c := by
  have hself : Function.update c.activeSessions requestId none = c.activeSessions := by
    rw [← hs]
    exact Function.update_eq_self _ _
  unfold touched
  simp only [hid, hs, Option.map_none, hself]

theorem touched_frame (c : GatewayController) (payload : Json) (now : Nat) :
    (c.touched payload now).state = c.state ∧ (c.touched payload now).taskDatabase = c.taskDatabase ∧
      (c.touched payload now).terminated = c.terminated ∧
      (c.touched payload now).componentType = c.componentType := by
  unfold touched
  cases approvedRequestId payload <;> exact ⟨rfl, rfl, rfl, rfl⟩

theorem gateway_touched (c : GatewayController) (payload : Json) (now : Nat) :
    (c.touched payload now).gateway = c.gateway := by
  unfold touched
  cases approvedRequestId payload <;> rfl

theorem onSessionApproved_eq {payload : Json} {details : TaskDetails}
    (htask : c.approvedTask payload = some details) (now : Nat) :
    c.onSessionApproved payload now = (c.touched payload now).activateTask details := by
  obtain ⟨taskId, htaskId, hlookup⟩ := Option.bind_eq_some_iff.mp htask
  obtain ⟨requestId, hid, hrest⟩ := Option.bind_eq_some_iff.mp htaskId
  unfold onSessionApproved
  cases hs : c.activeSessions requestId with
  | some session =>
      simp only [hs, Option.some.injEq] at hrest
      subst hrest
      simp only [hid, hs, touched_known hid hs, activateTaskId, hlookup]
  | none =>
      simp only [hs] at hrest
      split_ifs at hrest with hcontains
      simp only [hid, hs, touched_unknown hid hs, if_pos hcontains, hrest, activateTaskId, hlookup]

theorem onSessionApproved_of_none {payload : Json} (htask : c.approvedTask payload = none) (now : Nat) :
    (c.onSessionApproved payload now).1 = c.touched payload now := by
  unfold approvedTask approvedTaskId at htask
  unfold onSessionApproved
  cases hid : approvedRequestId payload with
  | none => simp only [touched, hid]
  | some requestId =>
      cases hs : c.activeSessions requestId with
      | some session =>
          simp only [hid, hs, Option.bind_some] at htask
          simp only [hs, touched_known hid hs, activateTaskId, htask]
      | none =>
          simp only [hid, hs, Option.bind_some] at htask
          simp only [hs, touched_unknown hid hs]
          split_ifs with hcontains
          · rw [if_pos hcontains] at htask
            cases hstr : (payload.get "task_id").asString with
            | none => rfl
            | some taskId =>
                simp only [hstr, Option.bind_some] at htask
                simp only [activateTaskId, htask]
          · rfl

/-- The fields of an approval that are read have the right types. -/
def Readable (c : GatewayController) (payload : Json) : Prop :=
  ∃ requestId, approvedRequestId payload = some requestId ∧
    (c.activeSessions requestId = none → payload.contains "task_id" = true → (payload.get "task_id").asString ≠ none)

theorem onSessionApproved_completes_iff (payload : Json) (now : Nat) :
    (c.onSessionApproved payload now).2 = true ↔
      Readable c payload ∧
        ∀ details, c.approvedTask payload = some details → c.gateway.RegistrableAll (typesOf details) := by
  cases htask : c.approvedTask payload with
  | some details =>
      obtain ⟨taskId, htaskId, -⟩ := Option.bind_eq_some_iff.mp htask
      obtain ⟨requestId, hid, hrest⟩ := Option.bind_eq_some_iff.mp htaskId
      have hreadable : Readable c payload := by
        refine ⟨requestId, hid, fun hs hcontains hstr => ?_⟩
        simp only [hs, if_pos hcontains, hstr] at hrest
        cases hrest
      rw [onSessionApproved_eq htask, activateTask_completes_iff, gateway_touched, and_iff_right hreadable]
      simp
  | none =>
      unfold approvedTask approvedTaskId at htask
      unfold onSessionApproved Readable
      cases hid : approvedRequestId payload with
      | none => simp
      | some requestId =>
          cases hs : c.activeSessions requestId with
          | some session =>
              simp only [hid, hs, Option.bind_some] at htask
              simp [hs, activateTaskId, htask]
          | none =>
              simp only [hid, hs, Option.bind_some] at htask
              by_cases hcontains : payload.contains "task_id" = true
              · rw [if_pos hcontains] at htask
                cases hstr : (payload.get "task_id").asString with
                | none => simp [hs, hcontains]
                | some taskId =>
                    simp only [hstr, Option.bind_some] at htask
                    simp [hs, hcontains, activateTaskId, htask]
              · simp [hs, hcontains]

/-! ## Directions -/

/-- The two uses of a handler: its subscriber sends to the peer, its publisher publishes what the peer sent. -/
inductive Direction where
  | subscriber
  | publisher
  deriving DecidableEq, Repr

/-- The mode serves the direction. -/
def serves (mode : HandlerMode) : Direction → Bool
  | .subscriber => mode ≠ .publisherOnly
  | .publisher => mode ≠ .subscriberOnly

/-- The handler works in the direction. -/
def isOpen (h : MessageHandler) : Direction → Bool
  | .subscriber => h.isRosSubscriberEnabled
  | .publisher => h.isRosPublisherEnabled

/-- The handler of a type works in the direction. -/
def IsOpen (g : RosGateway) (mt : MessageType) (direction : Direction) : Prop :=
  isOpen (g.handlerOf mt) direction = true

instance (g : RosGateway) (mt : MessageType) (direction : Direction) : Decidable (IsOpen g mt direction) :=
  inferInstanceAs (Decidable (_ = true))

/-- The direction that the input types of a task need. -/
def inputDirection (c : GatewayController) : Direction :=
  match c.componentType with
  | .mec => .publisher
  | _ => .subscriber

/-- The direction that the output types of a task need. -/
def outputDirection (c : GatewayController) : Direction :=
  match c.componentType with
  | .mec => .subscriber
  | _ => .publisher

/-- Every handler of the task works in the direction it is needed in. -/
def Opens (c after : GatewayController) (details : TaskDetails) : Prop :=
  (∀ mt ∈ details.inputTypes, mtCreatorMap mt ≠ none → IsOpen after.gateway mt c.inputDirection) ∧
    ∀ mt ∈ details.outputTypes, mtCreatorMap mt ≠ none → IsOpen after.gateway mt c.outputDirection

/-- No handler of the task loses a direction it is needed in. -/
def KeepsOpen (c after : GatewayController) (details : TaskDetails) : Prop :=
  (∀ mt ∈ details.inputTypes, mtCreatorMap mt ≠ none →
      IsOpen c.gateway mt c.inputDirection → IsOpen after.gateway mt c.inputDirection) ∧
    ∀ mt ∈ details.outputTypes, mtCreatorMap mt ≠ none →
      IsOpen c.gateway mt c.outputDirection → IsOpen after.gateway mt c.outputDirection

/-- No type with a handler is both input and output of the task. -/
def OneWay (details : TaskDetails) : Prop :=
  ∀ mt, mtCreatorMap mt ≠ none → ¬ (mt ∈ details.inputTypes ∧ mt ∈ details.outputTypes)

/-- No handler that an earlier task uses in one direction is used in the other by the task. -/
def NoClash (c : GatewayController) (details earlier : TaskDetails) : Prop :=
  (∀ mt ∈ earlier.inputTypes, mtCreatorMap mt ≠ none → IsOpen c.gateway mt c.inputDirection →
      mt ∉ details.outputTypes) ∧
    ∀ mt ∈ earlier.outputTypes, mtCreatorMap mt ≠ none → IsOpen c.gateway mt c.outputDirection →
      mt ∉ details.inputTypes

theorem isOpen_iff_of_view {g : RosGateway} {v : HandlerView} {mt : MessageType} {cls : HandlerClass}
    {mode : HandlerMode} (hview : g.view mt cls = v.activate mode) (direction : Direction) :
    IsOpen g mt direction ↔ serves mode direction = true := by
  have hhandler : g.handlerOf mt = (v.activate mode).handler := congrArg HandlerView.handler hview
  obtain ⟨henabled, hsub, hpub⟩ := v.handler_activate mode
  cases direction with
  | subscriber => simp [IsOpen, isOpen, MessageHandler.isRosSubscriberEnabled, hhandler, henabled, hsub, serves]
  | publisher => simp [IsOpen, isOpen, MessageHandler.isRosPublisherEnabled, hhandler, henabled, hpub, serves]

theorem isOpen_congr {g g' : RosGateway} {mt : MessageType} {cls : HandlerClass}
    (hview : g'.view mt cls = g.view mt cls) (direction : Direction) :
    IsOpen g' mt direction ↔ IsOpen g mt direction := by
  have hhandler : g'.handlerOf mt = g.handlerOf mt := congrArg HandlerView.handler hview
  unfold IsOpen
  rw [hhandler]

theorem isOpen_activateTask (hrole : c.componentType ≠ .other) {details : TaskDetails}
    (hok : (c.activateTask details).2 = true) {mt : MessageType} (hmt : mtCreatorMap mt ≠ none) :
    (IsOpen (c.activateTask details).1.gateway mt c.inputDirection ↔
      mt ∉ details.outputTypes ∧ (mt ∈ details.inputTypes ∨ IsOpen c.gateway mt c.inputDirection)) ∧
    (IsOpen (c.activateTask details).1.gateway mt c.outputDirection ↔
      mt ∈ details.outputTypes ∨ mt ∉ details.inputTypes ∧ IsOpen c.gateway mt c.outputDirection) := by
  obtain ⟨cls, hcls⟩ := Option.ne_none_iff_exists'.mp hmt
  have hview := view_activateTask hok hcls
  by_cases hout : mt ∈ details.outputTypes
  · rw [if_pos hout] at hview
    rw [isOpen_iff_of_view hview, isOpen_iff_of_view hview]
    unfold inputDirection outputDirection activationModes
    cases hc : c.componentType with
    | vhc => simp [hout, serves]
    | mec => simp [hout, serves]
    | other => exact absurd hc hrole
  · rw [if_neg hout] at hview
    by_cases hin : mt ∈ details.inputTypes
    · rw [if_pos hin] at hview
      rw [isOpen_iff_of_view hview, isOpen_iff_of_view hview]
      unfold inputDirection outputDirection activationModes
      cases hc : c.componentType with
      | vhc => simp [hout, hin, serves]
      | mec => simp [hout, hin, serves]
      | other => exact absurd hc hrole
    · rw [if_neg hin] at hview
      rw [isOpen_congr hview, isOpen_congr hview]
      simp [hout, hin]

/-- **When an approval opens what its task needs**: its handlers can be registered, no handler is needed in both
directions by the task itself, and none of the task's types is in use in the other direction. -/
theorem approval_opens_iff (hrole : c.componentType ≠ .other) (payload : Json) (now : Nat) {details : TaskDetails}
    (htask : c.approvedTask payload = some details) (prior : List TaskDetails) :
    ((c.onSessionApproved payload now).2 = true ∧ Opens c (c.onSessionApproved payload now).1 details ∧
        ∀ earlier ∈ prior, KeepsOpen c (c.onSessionApproved payload now).1 earlier) ↔
      c.gateway.RegistrableAll (typesOf details) ∧ OneWay details ∧
        ∀ earlier ∈ prior, NoClash c details earlier := by
  have hgateway := gateway_touched c payload now
  obtain ⟨-, -, -, htype⟩ := touched_frame c payload now
  rw [onSessionApproved_eq htask, activateTask_completes_iff, hgateway]
  refine and_congr_right fun hreg => ?_
  have hok : ((c.touched payload now).activateTask details).2 = true := by
    rw [activateTask_completes_iff, hgateway]
    exact hreg
  have hopen := fun mt (hmt : mtCreatorMap mt ≠ none) => isOpen_activateTask (by rw [htype]; exact hrole) hok hmt
  simp only [inputDirection, outputDirection, htype, hgateway] at hopen
  have hopens : Opens c ((c.touched payload now).activateTask details).1 details ↔ OneWay details := by
    constructor
    · rintro ⟨hin, -⟩ mt hmt ⟨hmtin, hmtout⟩
      exact ((hopen mt hmt).1.mp (hin mt hmtin hmt)).1 hmtout
    · intro hone
      refine ⟨fun mt hmt hcls => ?_, fun mt hmt hcls => (hopen mt hcls).2.mpr (Or.inl hmt)⟩
      exact (hopen mt hcls).1.mpr ⟨fun hout => hone mt hcls ⟨hmt, hout⟩, Or.inl hmt⟩
  rw [hopens]
  refine and_congr_right fun hone => forall₂_congr fun earlier _ => ?_
  constructor
  · rintro ⟨hin, hout⟩
    refine ⟨fun mt hmt hcls hbefore => ?_, fun mt hmt hcls hbefore hmtin => ?_⟩
    · exact ((hopen mt hcls).1.mp (hin mt hmt hcls hbefore)).1
    · rcases (hopen mt hcls).2.mp (hout mt hmt hcls hbefore) with hmtout | ⟨hnot, -⟩
      · exact hone mt hcls ⟨hmtin, hmtout⟩
      · exact hnot hmtin
  · rintro ⟨hin, hout⟩
    refine ⟨fun mt hmt hcls hbefore => ?_, fun mt hmt hcls hbefore => ?_⟩
    · exact (hopen mt hcls).1.mpr ⟨hin mt hmt hcls hbefore, Or.inr hbefore⟩
    · exact (hopen mt hcls).2.mpr (Or.inr ⟨hout mt hmt hcls hbefore, hbefore⟩)

/-- Two tasks of the shipped configuration: one sends and receives strings, the other uses two types of its own. -/
def sampleTasks : List (String × TaskDetails) :=
  [("1", ⟨"STRING_PROCESSING", [.string], [.string]⟩),
    ("3", ⟨"STRING_TEST_PIPELINE", [.stringTestInput], [.stringTestResult]⟩)]

/-- An operational VHC. -/
def sampleVhc : GatewayController where
  componentType := .vhc
  operationMode := .networked
  componentId := "60:5"
  dataPlaneListenPort := 6000
  state := .operational
  taskDatabase := sampleTasks
  bridgeCpClient := some {}

/-- The payload of an approval with both ids as strings. -/
def approvalPayload (requestId taskId : String) : Json :=
  .obj [("request_id", .str requestId), ("task_id", .str taskId)]

theorem approval_opens_sample :
    Opens (sampleVhc.insertSession "1" "3" 0)
      ((sampleVhc.insertSession "1" "3" 0).onSessionApproved (approvalPayload "1" "3") 1).1
      ⟨"STRING_TEST_PIPELINE", [.stringTestInput], [.stringTestResult]⟩ := by
  refine ((approval_opens_iff (by decide) (approvalPayload "1" "3") 1 rfl []).mpr ⟨?_, ?_, ?_⟩).2.1
  · intro mt _ cls _
    exact Or.inr (by simp [RosGateway.view, sampleVhc, insertSession, RosGateway.empty])
  · intro mt hcls
    cases mt <;> decide
  · intro earlier h
    cases h

/-- The string handler of a VHC is left without its subscriber. -/
theorem not_approval_opens :
    ¬ ∀ (c : GatewayController) (payload : Json) (now : Nat) (details : TaskDetails) (prior : List TaskDetails),
      c.componentType ≠ .other → c.approvedTask payload = some details →
        (c.onSessionApproved payload now).2 = true ∧ Opens c (c.onSessionApproved payload now).1 details ∧
          ∀ earlier ∈ prior, KeepsOpen c (c.onSessionApproved payload now).1 earlier := by
  intro h
  have hopens := (h (sampleVhc.insertSession "1" "1" 0) (approvalPayload "1" "1") 1
    ⟨"STRING_PROCESSING", [.string], [.string]⟩ [] (by decide) rfl).2.1
  have hopen := hopens.1 .string (by simp) (by decide)
  exact absurd hopen (by decide)

/-! ## Retransmitted messages -/

/-- A session apart from its keepalive timestamp. -/
def withoutTime (session : SessionState) : String × String := (session.requestId, session.taskId)

/-- Two states agree apart from the keepalive timestamps of the sessions: in the state of the controller, the task
database, the sessions, and in the registration, the modes and the parameters of every handler. -/
structure Agree (c c' : GatewayController) : Prop where
  state : c'.state = c.state
  tasks : c'.taskDatabase = c.taskDatabase
  sessions : ∀ r, (c'.activeSessions r).map withoutTime = (c.activeSessions r).map withoutTime
  handlers : ∀ mt cls, mtCreatorMap mt = some cls → c'.gateway.view mt cls = c.gateway.view mt cls

theorem Agree.refl (c : GatewayController) : Agree c c := ⟨rfl, rfl, fun _ => rfl, fun _ _ _ => rfl⟩

theorem Agree.trans {c₁ c₂ c₃ : GatewayController} (h₁ : Agree c₁ c₂) (h₂ : Agree c₂ c₃) : Agree c₁ c₃ :=
  ⟨h₂.state.trans h₁.state, h₂.tasks.trans h₁.tasks, fun r => (h₂.sessions r).trans (h₁.sessions r),
    fun mt cls hcls => (h₂.handlers mt cls hcls).trans (h₁.handlers mt cls hcls)⟩

theorem agree_orTerminate (result : GatewayController × Bool) : Agree result.1 (orTerminate result) := by
  unfold orTerminate
  split_ifs
  · exact .refl _
  · exact ⟨rfl, rfl, fun _ => rfl, fun _ _ _ => rfl⟩

theorem agree_touched (c : GatewayController) (payload : Json) (now : Nat) : Agree c (c.touched payload now) := by
  unfold touched
  cases approvedRequestId payload with
  | none => exact .refl c
  | some requestId =>
      refine ⟨rfl, rfl, fun r => ?_, fun _ _ _ => rfl⟩
      show (Function.update c.activeSessions requestId _ r).map withoutTime = _
      rw [Function.update_apply]
      split_ifs with hr
      · subst hr
        cases c.activeSessions r <;> rfl
      · rfl

theorem approvedTask_congr {c' : GatewayController} (htasks : c'.taskDatabase = c.taskDatabase)
    (hsessions : ∀ r, (c'.activeSessions r).map withoutTime = (c.activeSessions r).map withoutTime) (payload : Json) :
    c'.approvedTask payload = c.approvedTask payload := by
  have hid : c'.approvedTaskId payload = c.approvedTaskId payload := by
    unfold approvedTaskId
    cases approvedRequestId payload with
    | none => rfl
    | some requestId =>
        have hs := hsessions requestId
        dsimp only [Option.bind_some]
        cases h : c.activeSessions requestId with
        | none =>
            rw [h] at hs
            rw [Option.map_eq_none_iff.mp hs]
        | some session =>
            rw [h] at hs
            obtain ⟨session', hs', heq⟩ := Option.map_eq_some_iff.mp hs
            rw [hs']
            exact congrArg (fun p => some p.2) heq
  unfold approvedTask
  rw [hid, htasks]

theorem agree_activateTask_twice {c' : GatewayController} {details : TaskDetails}
    (hok : (c.activateTask details).2 = true) (h : Agree (c.activateTask details).1 c')
    (hmodes : c'.activationModes = c.activationModes) : Agree c' (c'.activateTask details).1 := by
  have hregistered : c'.gateway.RegistrableAll (typesOf details) := by
    intro mt hmt cls hcls
    refine Or.inl ?_
    rw [h.handlers mt cls hcls, view_activateTask hok hcls]
    rcases List.mem_append.mp hmt with hin | hout
    · split_ifs <;> simp
    · rw [if_pos hout]; simp
  have hok' := (activateTask_completes_iff details).mpr hregistered
  rw [activateTask_fst]
  refine ⟨rfl, rfl, fun _ => rfl, fun mt cls hcls => ?_⟩
  show (c'.activateTask details).1.gateway.view mt cls = c'.gateway.view mt cls
  rw [view_activateTask hok' hcls, h.handlers mt cls hcls, view_activateTask hok hcls, hmodes]
  split_ifs
  · rw [HandlerView.activate_activate]
  · rw [HandlerView.activate_activate]
  · rfl

theorem activationModes_congr {c' : GatewayController} (h : c'.componentType = c.componentType) :
    c'.activationModes = c.activationModes := by
  unfold activationModes
  rw [h]

theorem agree_approved_twice {payload : Json}
    (hinit : ∀ details, c.approvedTask payload = some details → c.gateway.RegistrableAll (typesOf details))
    (now now' : Nat) :
    Agree (orTerminate (c.onSessionApproved payload now))
      (orTerminate ((orTerminate (c.onSessionApproved payload now)).onSessionApproved payload now')) := by
  refine Agree.trans ?_ (agree_orTerminate _)
  have hterm := agree_orTerminate (c.onSessionApproved payload now)
  cases htask : c.approvedTask payload with
  | none =>
      rw [onSessionApproved_of_none htask] at hterm
      have hagree := (agree_touched c payload now).trans hterm
      have htask' : (orTerminate (c.onSessionApproved payload now)).approvedTask payload = none := by
        rw [approvedTask_congr hagree.tasks hagree.sessions, htask]
      rw [onSessionApproved_of_none htask']
      exact agree_touched _ payload now'
  | some details =>
      have hok : ((c.touched payload now).activateTask details).2 = true := by
        rw [activateTask_completes_iff, gateway_touched]
        exact hinit details htask
      have honce :
          orTerminate (c.onSessionApproved payload now) = ((c.touched payload now).activateTask details).1 := by
        rw [onSessionApproved_eq htask, orTerminate, if_pos hok]
      rw [honce]
      have htask' : (((c.touched payload now).activateTask details).1).approvedTask payload = some details := by
        rw [activateTask_fst, ← htask]
        exact approvedTask_congr (agree_touched c payload now).tasks (agree_touched c payload now).sessions payload
      rw [onSessionApproved_eq htask']
      have htouched := agree_touched ((c.touched payload now).activateTask details).1 payload now'
      refine htouched.trans (agree_activateTask_twice hok htouched ?_)
      refine activationModes_congr ((touched_frame _ payload now').2.2.2.trans ?_)
      rw [activateTask_fst]

theorem handleSessionTeardown_twice (c : GatewayController) (requestId : String) :
    (c.handleSessionTeardown requestId).handleSessionTeardown requestId = c.handleSessionTeardown requestId := by
  have hgone : (c.handleSessionTeardown requestId).activeSessions requestId = none := by
    unfold handleSessionTeardown
    cases hs : c.activeSessions requestId with
    | none => exact hs
    | some session => exact Function.update_self _ _ _
  rw [handleSessionTeardown, hgone]

theorem receiveDenied_twice (c : GatewayController) (msg : Json) :
    (c.receiveDenied msg).receiveDenied msg = c.receiveDenied msg := by
  unfold receiveDenied onSessionDenied
  split_ifs
  · cases ((msg.get "payload").get "reason_description").asString with
    | none => rfl
    | some reason => exact handleSessionTeardown_twice _ _
  · rfl

theorem onSessionApproved_frame (c : GatewayController) (payload : Json) (now : Nat) :
    (c.onSessionApproved payload now).1.state = c.state ∧
      (c.onSessionApproved payload now).1.taskDatabase = c.taskDatabase ∧
      (c.onSessionApproved payload now).1.terminated = c.terminated ∧
      (c.onSessionApproved payload now).1.componentType = c.componentType := by
  cases htask : c.approvedTask payload with
  | none =>
      rw [onSessionApproved_of_none htask]
      exact touched_frame c payload now
  | some details =>
      rw [onSessionApproved_eq htask, activateTask_fst]
      exact touched_frame c payload now

theorem onSessionApproved_sessions (c : GatewayController) (payload : Json) (now : Nat) (r : String) :
    ((c.onSessionApproved payload now).1.activeSessions r).map withoutTime =
      (c.activeSessions r).map withoutTime := by
  have htouched := (agree_touched c payload now).sessions r
  cases htask : c.approvedTask payload with
  | none =>
      rw [onSessionApproved_of_none htask]
      exact htouched
  | some details =>
      rw [onSessionApproved_eq htask, activateTask_fst]
      exact htouched

theorem activateAllP2pSessions_state (now : Nat) (tasks : List (String × TaskDetails)) (c : GatewayController) :
    (activateAllP2pSessions now c tasks).1.state = c.state := by
  induction tasks generalizing c with
  | nil => rfl
  | cons task tasks ih =>
      unfold activateAllP2pSessions
      dsimp only
      split_ifs
      · rw [ih, (onSessionApproved_frame _ _ _).1]
        rfl
      · rw [(onSessionApproved_frame _ _ _).1]
        rfl

theorem onDpConfirmed_twice (c : GatewayController) (now now' : Nat) :
    (orTerminate (c.onDpConfirmed now)).onDpConfirmed now' = (orTerminate (c.onDpConfirmed now), true) := by
  have hne : (orTerminate (c.onDpConfirmed now)).state ≠ .waitingForDpConnection := by
    rw [(agree_orTerminate (c.onDpConfirmed now)).state]
    unfold onDpConfirmed
    split_ifs with hw hn
    · simp
    · rw [activateAllP2pSessions_state]
      simp
    · exact hw
  rw [onDpConfirmed, if_neg hne]

theorem handleReceivedMessage_eq {msg : Json} {code seqNum : Int} {componentId : String}
    (hcode : (msg.get "message_code").asInt = some code) (hid : (msg.get "component_id").asString = some componentId)
    (hseq : msg.valueInt "sequence_number" 0 = some seqNum) (now : Nat) :
    c.handleReceivedMessage msg now =
      (c.dispatch code msg now, if code = 900 then [] else [Protocol.ack componentId seqNum]) := by
  unfold handleReceivedMessage
  rw [Json.contains_of_asInt hcode, Json.contains_of_asString hid]
  simp only [hcode, hid, hseq, Bool.not_true, Bool.or_false, Bool.false_eq_true, if_false]

/-- **The gateway is idempotent on the messages that the Bridge retransmits**: handled a second time, an approval, a
denial or a confirmation changes nothing but keepalive timestamps, and every receipt is acknowledged once. -/
theorem receive_twice {msg : Json} {code seqNum : Int} {componentId : String}
    (hcode : (msg.get "message_code").asInt = some code) (hid : (msg.get "component_id").asString = some componentId)
    (hseq : msg.valueInt "sequence_number" 0 = some seqNum) (hkind : code = 200 ∨ code = 201 ∨ code = 202)
    (hinit : code = 200 → ∀ details, c.approvedTask (normalizePayload (msg.get "payload")) = some details →
      c.gateway.RegistrableAll (typesOf details)) (now now' : Nat) :
    let once := c.handleReceivedMessage msg now
    let twice := once.1.handleReceivedMessage msg now'
    Agree once.1 twice.1 ∧ once.2 = [Protocol.ack componentId seqNum] ∧
      twice.2 = [Protocol.ack componentId seqNum] := by
  intro once twice
  have honce : once = _ := handleReceivedMessage_eq hcode hid hseq now
  have htwice : twice = _ := handleReceivedMessage_eq hcode hid hseq now'
  rw [htwice, honce]
  rcases hkind with rfl | rfl | rfl
  · refine ⟨?_, rfl, rfl⟩
    show Agree (c.dispatch 200 msg now) ((c.dispatch 200 msg now).dispatch 200 msg now')
    unfold dispatch
    rw [if_pos rfl, if_pos rfl]
    split_ifs
    · exact agree_approved_twice (hinit rfl) now now'
    · exact .refl c
  · refine ⟨?_, rfl, rfl⟩
    show Agree (c.receiveDenied msg) ((c.receiveDenied msg).receiveDenied msg)
    rw [receiveDenied_twice]
    exact .refl _
  · refine ⟨?_, rfl, rfl⟩
    show Agree (orTerminate (c.onDpConfirmed now))
      (orTerminate ((orTerminate (c.onDpConfirmed now)).onDpConfirmed now'))
    rw [onDpConfirmed_twice]
    exact .refl _

/-- An approval as the Bridge forwards it, with a numeric request id. -/
def sampleApproval : Json :=
  .obj [("component_id", .str "15:10"), ("message_code", .int 200), ("message_type", .str "SESSION_APPROVED"),
    ("payload", .obj [("request_id", .int 1), ("assigned_mec_id", .str "70:1"), ("task_id", .int 1)]),
    ("sequence_number", .int 2)]

theorem receive_twice_sample :
    Agree ((sampleVhc.insertSession "1" "1" 0).handleReceivedMessage sampleApproval 1).1
      (((sampleVhc.insertSession "1" "1" 0).handleReceivedMessage sampleApproval 1).1.handleReceivedMessage
        sampleApproval 6).1 := by
  refine (receive_twice (show (sampleApproval.get "message_code").asInt = some 200 from rfl) rfl rfl (Or.inl rfl)
    ?_ 1 6).1
  intro _ details _ mt _ cls _
  exact Or.inr (by simp [RosGateway.view, sampleVhc, insertSession, RosGateway.empty])

end EdgeOffloading.GatewayController
