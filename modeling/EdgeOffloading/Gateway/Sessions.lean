import EdgeOffloading.Gateway.Approval
import EdgeOffloading.Lib.Run

/-!
# Sessions and their handlers

Sessions come and go by requests, approvals, denials and terminations; each holds the session mutex, so that one follows
the other. The handlers are shared by all sessions with the same message types, and a teardown does not ask whether
another session still uses them.

* `handlersMatch_iff_along`: when exactly the handlers are registered that an approved session needs, all along a run.
-/

namespace EdgeOffloading.GatewayController

variable {c : GatewayController}

inductive SessionEvent where
  /-- The control thread takes a request from its queue. -/
  | requested (request : OffloadingRequestData) (now : Nat)
  | approved (payload : Json) (now : Nat)
  | denied (requestId : String)
  | terminated (requestId : String)

def sessionAct (c : GatewayController) : SessionEvent → GatewayController
  | .requested request now => c.drawRequestId.1.insertSession c.drawRequestId.2 request.taskId now
  | .approved payload now => orTerminate (c.onSessionApproved payload now)
  | .denied requestId => c.onSessionDenied requestId
  | .terminated requestId => c.handleSessionTeardown requestId

/-- Nothing happens once the process has ended. -/
def sessionStep (c : GatewayController) (e : SessionEvent) : GatewayController :=
  if c.terminated then c else c.sessionAct e

/-- The task of an active session. -/
def taskOfSession (c : GatewayController) (requestId : String) : Option TaskDetails :=
  (c.activeSessions requestId).bind fun session => c.taskDatabase.lookup session.taskId

/-! ## Which sessions were approved -/

/-- The controller and, for every request id, whether its session was approved. -/
structure Tracked where
  controller : GatewayController
  approved : String → Bool := fun _ => false

/-- A new session is not approved, an approval marks the session it names, a teardown ends it. -/
def approvedAfter (s : Tracked) : SessionEvent → String → Bool
  | .requested _ _ => Function.update s.approved s.controller.drawRequestId.2 false
  | .approved payload _ =>
    match approvedRequestId payload with
    | none => s.approved
    | some requestId =>
      if (s.controller.activeSessions requestId).isSome then Function.update s.approved requestId true else s.approved
  | .denied requestId => Function.update s.approved requestId false
  | .terminated requestId => Function.update s.approved requestId false

def track (s : Tracked) (e : SessionEvent) : Tracked := ⟨s.controller.sessionStep e, approvedAfter s e⟩

/-- The session is approved and its task lists the type. -/
def NeededBy (s : Tracked) (requestId : String) (mt : MessageType) : Prop :=
  ∃ details, s.controller.taskOfSession requestId = some details ∧ s.approved requestId = true ∧ mt ∈ typesOf details

/-- The handler of the class is registered. -/
def IsRegistered (c : GatewayController) (cls : HandlerClass) : Prop := (c.gateway.handlers cls.name).isSome = true

/-- The process runs, and a handler is registered iff an approved session needs it. -/
def HandlersMatch (s : Tracked) : Prop :=
  s.controller.terminated = false ∧
    ∀ mt cls, mtCreatorMap mt = some cls → (IsRegistered s.controller cls ↔ ∃ r, NeededBy s r mt)

/-- The condition on a step.
* A new session does not replace an approved one whose handlers no other session needs (the counter came round).
* An approval can be read, its handlers can be registered, and where it names no session of the gateway, its task uses
  only handlers that are needed anyway.
* A teardown hits no handler that another approved session needs. -/
def KeepsHandlers (s : Tracked) : SessionEvent → Prop
  | .requested _ _ =>
    ∀ mt, mtCreatorMap mt ≠ none → NeededBy s s.controller.drawRequestId.2 mt →
      ∃ r, r ≠ s.controller.drawRequestId.2 ∧ NeededBy s r mt
  | .approved payload _ =>
    (Readable s.controller payload ∧
        ∀ details, s.controller.approvedTask payload = some details →
          s.controller.gateway.RegistrableAll (typesOf details)) ∧
      ∀ details requestId, s.controller.approvedTask payload = some details →
        approvedRequestId payload = some requestId → s.controller.activeSessions requestId = none →
        ∀ mt ∈ typesOf details, mtCreatorMap mt ≠ none → ∃ r, NeededBy s r mt
  | .denied requestId | .terminated requestId =>
    ∀ details, s.controller.taskOfSession requestId = some details →
      ∀ mt ∈ typesOf details, mtCreatorMap mt ≠ none → ∀ r, r ≠ requestId → ¬ NeededBy s r mt

/-! ## Handlers after an approval or a teardown -/

theorem isRegistered_activateTask {details : TaskDetails} (hok : (c.activateTask details).2 = true) {mt : MessageType}
    {cls : HandlerClass} (hcls : mtCreatorMap mt = some cls) :
    IsRegistered (c.activateTask details).1 cls ↔ IsRegistered c cls ∨ mt ∈ typesOf details := by
  have hview := congrArg HandlerView.registered (view_activateTask hok hcls)
  change ((c.activateTask details).1.gateway.handlers cls.name).isSome = _ at hview
  unfold IsRegistered typesOf
  rw [hview, List.mem_append]
  split_ifs with hout hin
  · simp [hout]
  · simp [hin]
  · simp [hout, hin, RosGateway.view]

theorem keyed_activateTask (h : c.gateway.Keyed) (details : TaskDetails) :
    (c.activateTask details).1.gateway.Keyed := by
  unfold activateTask
  dsimp only
  split_ifs
  · exact (h.activate _ _).activate _ _
  · exact h.activate _ _

theorem view_deactivateTask {g : RosGateway} (h : g.Keyed) (details : TaskDetails) {mt : MessageType}
    {cls : HandlerClass} (hcls : mtCreatorMap mt = some cls) :
    ((g.deactivate details.inputTypes).deactivate details.outputTypes).view mt cls =
      if mt ∈ typesOf details then (g.view mt cls).deactivate cls else g.view mt cls := by
  rw [(h.deactivate details.inputTypes).view_deactivate details.outputTypes hcls,
    h.view_deactivate details.inputTypes hcls]
  unfold typesOf
  by_cases hin : mt ∈ details.inputTypes <;> by_cases hout : mt ∈ details.outputTypes <;>
    simp [hin, hout, HandlerView.deactivate_deactivate]

theorem isRegistered_deactivate (h : c.gateway.Keyed) (details : TaskDetails) {mt : MessageType} {cls : HandlerClass}
    (hcls : mtCreatorMap mt = some cls) :
    (((c.gateway.deactivate details.inputTypes).deactivate details.outputTypes).handlers cls.name).isSome = true ↔
      IsRegistered c cls ∧ mt ∉ typesOf details := by
  have hview := congrArg HandlerView.registered (view_deactivateTask h details hcls)
  change (((c.gateway.deactivate details.inputTypes).deactivate details.outputTypes).handlers cls.name).isSome = _
    at hview
  unfold IsRegistered
  rw [hview]
  split_ifs with hmt
  · simp [hmt]
  · simp [hmt, RosGateway.view]

theorem teardown_sessions (c : GatewayController) (requestId r : String) :
    (c.handleSessionTeardown requestId).activeSessions r = if r = requestId then none else c.activeSessions r := by
  unfold handleSessionTeardown
  cases hs : c.activeSessions requestId with
  | none =>
      dsimp only
      split_ifs with hr
      · rw [hr, hs]
      · rfl
  | some session => exact Function.update_apply _ _ _ _

theorem teardown_frame (c : GatewayController) (requestId : String) :
    (c.handleSessionTeardown requestId).taskDatabase = c.taskDatabase ∧
      (c.handleSessionTeardown requestId).terminated = c.terminated := by
  unfold handleSessionTeardown
  cases c.activeSessions requestId <;> exact ⟨rfl, rfl⟩

theorem isRegistered_teardown (h : c.gateway.Keyed) (requestId : String) {mt : MessageType} {cls : HandlerClass}
    (hcls : mtCreatorMap mt = some cls) :
    IsRegistered (c.handleSessionTeardown requestId) cls ↔
      IsRegistered c cls ∧ ∀ details, c.taskOfSession requestId = some details → mt ∉ typesOf details := by
  unfold handleSessionTeardown taskOfSession
  cases hs : c.activeSessions requestId with
  | none => simp
  | some session =>
      cases htask : c.taskDatabase.lookup session.taskId with
      | none => simp [htask, IsRegistered]
      | some details =>
          simp only [Option.bind_some, htask, Option.some.injEq, forall_eq']
          exact isRegistered_deactivate h details hcls

theorem keyed_teardown (h : c.gateway.Keyed) (requestId : String) :
    (c.handleSessionTeardown requestId).gateway.Keyed := by
  unfold handleSessionTeardown
  cases c.activeSessions requestId with
  | none => exact h
  | some session =>
      cases htask : c.taskDatabase.lookup session.taskId with
      | none => simpa [htask] using h
      | some details =>
          simp only [htask]
          exact (h.deactivate _).deactivate _

theorem keyed_onSessionApproved (h : c.gateway.Keyed) (payload : Json) (now : Nat) :
    (c.onSessionApproved payload now).1.gateway.Keyed := by
  cases htask : c.approvedTask payload with
  | none => rw [onSessionApproved_of_none htask, gateway_touched]; exact h
  | some details =>
      rw [onSessionApproved_eq htask]
      exact keyed_activateTask (by rw [gateway_touched]; exact h) details

theorem keyed_track {s : Tracked} (h : s.controller.gateway.Keyed) (e : SessionEvent) :
    (track s e).controller.gateway.Keyed := by
  show (s.controller.sessionStep e).gateway.Keyed
  unfold sessionStep
  split_ifs
  · exact h
  · cases e with
    | requested request now => exact h
    | approved payload now =>
        have hkeyed := keyed_onSessionApproved h payload now
        show (orTerminate (s.controller.onSessionApproved payload now)).gateway.Keyed
        unfold orTerminate
        split_ifs <;> exact hkeyed
    | denied requestId => exact keyed_teardown h requestId
    | terminated requestId => exact keyed_teardown h requestId

/-! ## Steps -/

section Steps

variable {s : Tracked}

theorem track_running (h : s.controller.terminated = false) (e : SessionEvent) :
    (track s e).controller = s.controller.sessionAct e := by
  show s.controller.sessionStep e = _
  rw [sessionStep, if_neg (by rw [h]; simp)]

theorem taskOfSession_congr {c' : GatewayController} {r : String} (htasks : c'.taskDatabase = c.taskDatabase)
    (hsession : (c'.activeSessions r).map withoutTime = (c.activeSessions r).map withoutTime) :
    c'.taskOfSession r = c.taskOfSession r := by
  unfold taskOfSession
  rw [htasks]
  cases hs : c.activeSessions r with
  | none =>
      rw [hs] at hsession
      rw [Option.map_eq_none_iff.mp hsession]
  | some session =>
      rw [hs] at hsession
      obtain ⟨session', hs', heq⟩ := Option.map_eq_some_iff.mp hsession
      have htaskId : session'.taskId = session.taskId := congrArg Prod.snd heq
      rw [hs', Option.bind_some, Option.bind_some, htaskId]

theorem taskOfSession_of_none {r : String} (hs : c.activeSessions r = none) : c.taskOfSession r = none := by
  unfold taskOfSession
  rw [hs]
  rfl

theorem neededBy_requested (h : s.controller.terminated = false) (request : OffloadingRequestData) (now : Nat)
    (r : String) (mt : MessageType) :
    NeededBy (track s (.requested request now)) r mt ↔ r ≠ s.controller.drawRequestId.2 ∧ NeededBy s r mt := by
  unfold NeededBy
  rw [track_running h]
  simp only [track, approvedAfter, Function.update_apply]
  by_cases hr : r = s.controller.drawRequestId.2
  · simp [hr]
  · have htask : (s.controller.sessionAct (.requested request now)).taskOfSession r = s.controller.taskOfSession r := by
      refine taskOfSession_congr rfl ?_
      show (Function.update s.controller.activeSessions s.controller.drawRequestId.2 _ r).map withoutTime = _
      rw [Function.update_of_ne hr]
    simp [hr, htask]

theorem neededBy_teardown {s' : Tracked} {requestId : String}
    (hc : s'.controller = s.controller.handleSessionTeardown requestId)
    (ha : s'.approved = Function.update s.approved requestId false) (r : String) (mt : MessageType) :
    NeededBy s' r mt ↔ r ≠ requestId ∧ NeededBy s r mt := by
  unfold NeededBy
  rw [hc, ha, Function.update_apply]
  by_cases hr : r = requestId
  · simp [hr]
  · have htask : (s.controller.handleSessionTeardown requestId).taskOfSession r = s.controller.taskOfSession r := by
      apply taskOfSession_congr (teardown_frame s.controller requestId).1
      rw [teardown_sessions, if_neg hr]
    simp [hr, htask]

/-- After a teardown, what is left is what the other sessions need iff none of them needs what was taken away. -/
theorem handlersMatch_teardown_iff (hkeyed : s.controller.gateway.Keyed) (hmatch : HandlersMatch s) {s' : Tracked}
    {requestId : String} (hc : s'.controller = s.controller.handleSessionTeardown requestId)
    (ha : s'.approved = Function.update s.approved requestId false) :
    HandlersMatch s' ↔ ∀ details, s.controller.taskOfSession requestId = some details →
      ∀ mt ∈ typesOf details, mtCreatorMap mt ≠ none → ∀ r, r ≠ requestId → ¬ NeededBy s r mt := by
  have hneeded := neededBy_teardown hc ha
  constructor
  · rintro ⟨-, hmatch'⟩ details htask mt hmt hcreator r hr hneed
    obtain ⟨cls, hcls⟩ := Option.ne_none_iff_exists'.mp hcreator
    have hreg : IsRegistered s'.controller cls := (hmatch' mt cls hcls).mpr ⟨r, (hneeded r mt).mpr ⟨hr, hneed⟩⟩
    rw [hc, isRegistered_teardown hkeyed requestId hcls] at hreg
    exact hreg.2 details htask hmt
  · intro hother
    refine ⟨by rw [hc, (teardown_frame s.controller requestId).2, hmatch.1], fun mt cls hcls => ?_⟩
    have hcreator : mtCreatorMap mt ≠ none := by rw [hcls]; simp
    rw [hc, isRegistered_teardown hkeyed requestId hcls, hmatch.2 mt cls hcls]
    simp only [hneeded]
    constructor
    · rintro ⟨⟨r, hneed⟩, hnot⟩
      refine ⟨r, ?_, hneed⟩
      rintro rfl
      obtain ⟨details, htask, -, hmt⟩ := hneed
      exact hnot details htask hmt
    · rintro ⟨r, hr, hneed⟩
      exact ⟨⟨r, hneed⟩, fun details htask hmt => hother details htask mt hmt hcreator r hr hneed⟩

theorem neededBy_approved (h : s.controller.terminated = false) {payload : Json} {now : Nat}
    (hok : (s.controller.onSessionApproved payload now).2 = true) {requestId : String}
    (hid : approvedRequestId payload = some requestId) (r : String) (mt : MessageType) :
    NeededBy (track s (.approved payload now)) r mt ↔
      NeededBy s r mt ∨
        r = requestId ∧ ∃ details, s.controller.taskOfSession requestId = some details ∧ mt ∈ typesOf details := by
  have htask : ∀ r, (s.controller.sessionAct (.approved payload now)).taskOfSession r =
      s.controller.taskOfSession r := by
    intro r
    rw [show s.controller.sessionAct (.approved payload now) = (s.controller.onSessionApproved payload now).1 from
      if_pos hok]
    exact taskOfSession_congr (onSessionApproved_frame s.controller payload now).2.1
      (onSessionApproved_sessions s.controller payload now r)
  unfold NeededBy
  rw [track_running h, htask]
  simp only [track, approvedAfter, hid]
  cases hs : s.controller.activeSessions requestId with
  | none => simp [taskOfSession_of_none hs]
  | some session =>
      rw [if_pos (by rfl), Function.update_apply]
      by_cases hr : r = requestId
      · subst hr
        constructor
        · rintro ⟨details, hd, -, hmt⟩
          exact Or.inr ⟨rfl, details, hd, hmt⟩
        · rintro (⟨details, hd, -, hmt⟩ | ⟨-, details, hd, hmt⟩)
          · exact ⟨details, hd, by simp, hmt⟩
          · exact ⟨details, hd, by simp, hmt⟩
      · simp [hr]

theorem approvedTask_of_session {payload : Json} {requestId : String} {session : SessionState}
    (hid : approvedRequestId payload = some requestId) (hs : c.activeSessions requestId = some session) :
    c.approvedTask payload = c.taskOfSession requestId := by
  unfold approvedTask approvedTaskId taskOfSession
  simp only [hid, hs, Option.bind_some]

theorem isRegistered_onSessionApproved {payload : Json} {now : Nat}
    (hok : (c.onSessionApproved payload now).2 = true) {mt : MessageType} {cls : HandlerClass}
    (hcls : mtCreatorMap mt = some cls) :
    IsRegistered (c.onSessionApproved payload now).1 cls ↔
      IsRegistered c cls ∨ ∃ details, c.approvedTask payload = some details ∧ mt ∈ typesOf details := by
  have htouched : IsRegistered (c.touched payload now) cls ↔ IsRegistered c cls := by
    unfold IsRegistered
    rw [gateway_touched]
  cases htask : c.approvedTask payload with
  | none => rw [onSessionApproved_of_none htask, htouched]; simp
  | some details =>
      rw [onSessionApproved_eq htask] at hok ⊢
      rw [isRegistered_activateTask hok hcls, htouched]
      simp

/-- An approval that completes keeps the handlers exactly those that are needed iff it names a session of the gateway or
adds nothing. -/
theorem handlersMatch_completed_iff (hmatch : HandlersMatch s) {payload : Json} {now : Nat}
    (hok : (s.controller.onSessionApproved payload now).2 = true) :
    HandlersMatch (track s (.approved payload now)) ↔
      ∀ details requestId, s.controller.approvedTask payload = some details →
        approvedRequestId payload = some requestId → s.controller.activeSessions requestId = none →
        ∀ mt ∈ typesOf details, mtCreatorMap mt ≠ none → ∃ r, NeededBy s r mt := by
  have hc : (track s (.approved payload now)).controller = (s.controller.onSessionApproved payload now).1 :=
    (track_running hmatch.1 _).trans (if_pos hok)
  obtain ⟨⟨requestId, hid, -⟩, -⟩ := (onSessionApproved_completes_iff payload now).mp hok
  have hneeded := neededBy_approved hmatch.1 hok hid
  constructor
  · rintro ⟨-, hmatch'⟩ details r hd hr hs mt hmt hcreator
    obtain ⟨cls, hcls⟩ := Option.ne_none_iff_exists'.mp hcreator
    have hreg : IsRegistered (track s (.approved payload now)).controller cls := by
      rw [hc, isRegistered_onSessionApproved hok hcls]
      exact Or.inr ⟨details, hd, hmt⟩
    obtain ⟨r', hneed⟩ := (hmatch' mt cls hcls).mp hreg
    rcases (hneeded r' mt).mp hneed with hneed | ⟨-, details', hd', -⟩
    · exact ⟨r', hneed⟩
    · rw [hid] at hr
      cases hr
      rw [taskOfSession_of_none hs] at hd'
      cases hd'
  · intro hforeign
    have hterm := (onSessionApproved_frame s.controller payload now).2.2.1.trans hmatch.1
    refine ⟨by rw [hc, hterm], fun mt cls hcls => ?_⟩
    have hcreator : mtCreatorMap mt ≠ none := by rw [hcls]; simp
    rw [hc, isRegistered_onSessionApproved hok hcls, hmatch.2 mt cls hcls]
    simp only [hneeded]
    constructor
    · rintro (⟨r, hneed⟩ | ⟨details, hd, hmt⟩)
      · exact ⟨r, Or.inl hneed⟩
      · cases hs : s.controller.activeSessions requestId with
        | none =>
            obtain ⟨r, hneed⟩ := hforeign details requestId hd hid hs mt hmt hcreator
            exact ⟨r, Or.inl hneed⟩
        | some session =>
            rw [approvedTask_of_session hid hs] at hd
            exact ⟨requestId, Or.inr ⟨rfl, details, hd, hmt⟩⟩
    · rintro ⟨r, hneed | ⟨rfl, details, hd, hmt⟩⟩
      · exact Or.inl ⟨r, hneed⟩
      · cases hs : s.controller.activeSessions r with
        | none => rw [taskOfSession_of_none hs] at hd; cases hd
        | some session =>
            rw [← approvedTask_of_session hid hs] at hd
            exact Or.inr ⟨details, hd, hmt⟩

theorem handlersMatch_approved_iff (hmatch : HandlersMatch s) (payload : Json) (now : Nat) :
    HandlersMatch (track s (.approved payload now)) ↔ KeepsHandlers s (.approved payload now) := by
  dsimp only [KeepsHandlers]
  rw [← onSessionApproved_completes_iff payload now]
  by_cases hok : (s.controller.onSessionApproved payload now).2 = true
  · rw [and_iff_right hok]
    exact handlersMatch_completed_iff hmatch hok
  · -- the exception ends the process
    refine iff_of_false (fun h => ?_) fun h => hok h.1
    have hdead := h.1
    rw [track_running hmatch.1 (.approved payload now)] at hdead
    change (orTerminate (s.controller.onSessionApproved payload now)).terminated = false at hdead
    rw [orTerminate, if_neg hok] at hdead
    cases hdead

/-- One step keeps the handlers exactly those that are needed iff it meets the condition. -/
theorem handlersMatch_track_iff (hkeyed : s.controller.gateway.Keyed) (hmatch : HandlersMatch s) (e : SessionEvent) :
    HandlersMatch (track s e) ↔ KeepsHandlers s e := by
  cases e with
  | requested request now =>
      have hc := track_running hmatch.1 (.requested request now)
      have hneeded := neededBy_requested hmatch.1 request now
      constructor
      · rintro ⟨-, hmatch'⟩ mt hcreator hneed
        obtain ⟨cls, hcls⟩ := Option.ne_none_iff_exists'.mp hcreator
        have hreg : IsRegistered (track s (.requested request now)).controller cls := by
          rw [hc]
          exact (hmatch.2 mt cls hcls).mpr ⟨_, hneed⟩
        obtain ⟨r, hr⟩ := (hmatch' mt cls hcls).mp hreg
        exact ⟨r, (hneeded r mt).mp hr⟩
      · intro hother
        refine ⟨by rw [hc]; exact hmatch.1, fun mt cls hcls => ?_⟩
        have hcreator : mtCreatorMap mt ≠ none := by rw [hcls]; simp
        have hreg : IsRegistered (track s (.requested request now)).controller cls ↔ IsRegistered s.controller cls := by
          rw [hc]
          exact Iff.rfl
        rw [hreg, hmatch.2 mt cls hcls]
        simp only [hneeded]
        constructor
        · rintro ⟨r, hneed⟩
          by_cases hr : r = s.controller.drawRequestId.2
          · subst hr
            exact hother mt hcreator hneed
          · exact ⟨r, hr, hneed⟩
        · rintro ⟨r, -, hneed⟩
          exact ⟨r, hneed⟩
  | approved payload now => exact handlersMatch_approved_iff hmatch payload now
  | denied requestId =>
      exact handlersMatch_teardown_iff hkeyed hmatch (track_running hmatch.1 (.denied requestId)) rfl
  | terminated requestId =>
      exact handlersMatch_teardown_iff hkeyed hmatch (track_running hmatch.1 (.terminated requestId)) rfl

/-- A VHC before its first session. -/
def vhcWith (componentId : String) (tasks : List (String × TaskDetails)) : GatewayController where
  componentType := .vhc
  operationMode := .networked
  componentId := componentId
  dataPlaneListenPort := 0
  state := .operational
  taskDatabase := tasks
  bridgeCpClient := some {}

theorem handlersMatch_vhcWith (componentId : String) (tasks : List (String × TaskDetails)) :
    HandlersMatch ⟨vhcWith componentId tasks, fun _ => false⟩ := by
  refine ⟨rfl, fun mt cls _ => ?_⟩
  constructor
  · intro h
    cases h
  · rintro ⟨r, details, htask, -⟩
    cases htask

/-- **The handlers of a VHC are those that its approved sessions need, in every state of a run, iff every step of the
run meets `KeepsHandlers`.** -/
theorem handlersMatch_iff_along (componentId : String) (tasks : List (String × TaskDetails))
    (events : List SessionEvent) :
    (∀ pre, pre <+: events → HandlersMatch (Run.run track ⟨vhcWith componentId tasks, fun _ => false⟩ pre)) ↔
      Run.Along track KeepsHandlers ⟨vhcWith componentId tasks, fun _ => false⟩ events :=
  Run.forall_prefix_iff_along track (J := fun s => s.controller.gateway.Keyed) (fun _ e h => keyed_track h e)
    (fun _ e hkeyed hmatch => handlersMatch_track_iff hkeyed hmatch e) events _ RosGateway.keyed_empty
    (handlersMatch_vhcWith componentId tasks)

end Steps

/-- Two sessions of one task are approved and the first is terminated. -/
def sharedTask : List SessionEvent :=
  [.requested ⟨"3", ""⟩ 0, .requested ⟨"3", ""⟩ 0, .approved (approvalPayload "1" "3") 1,
    .approved (approvalPayload "2" "3") 1, .terminated "1"]

/-- The second session has lost its handlers. -/
theorem not_handlersMatch_sharedTask :
    ¬ ∀ (componentId : String) (tasks : List (String × TaskDetails)) (events pre : List SessionEvent), pre <+: events →
      HandlersMatch (Run.run track ⟨vhcWith componentId tasks, fun _ => false⟩ pre) := by
  intro h
  have hmatch := (h "60:5" sampleTasks sharedTask sharedTask List.prefix_rfl).2 .stringTestInput stringTestInputHandler
    rfl
  have hneeded : NeededBy (Run.run track ⟨vhcWith "60:5" sampleTasks, fun _ => false⟩ sharedTask) "2"
      .stringTestInput :=
    ⟨⟨"STRING_TEST_PIPELINE", [.stringTestInput], [.stringTestResult]⟩, by decide +kernel, by decide +kernel,
      by decide⟩
  have hgone : ((Run.run track ⟨vhcWith "60:5" sampleTasks, fun _ => false⟩ sharedTask).controller.gateway.handlers
      stringTestInputHandler.name).isSome = false := by
    decide +kernel
  have hreg := hmatch.mpr ⟨"2", hneeded⟩
  unfold IsRegistered at hreg
  rw [hgone] at hreg
  cases hreg

end EdgeOffloading.GatewayController
