import EdgeOffloading.Gateway.Steps
import EdgeOffloading.Gateway.Sessions

/-!
# The ids of requests

The service thread pushes a request on the queue and draws the id that it returns; the control thread takes the request
off the queue and draws the id of its session. Both draw from one counter, so every request that gets this far has two
ids.

* `Numbered.step`: every drawn number is either returned or the id of one session;
* `names_sessions_along`: the id that is returned names the session as long as no request has both.
-/

namespace EdgeOffloading

/-- A VHC and what its application and the Bridge have seen. -/
structure RequestRun where
  process : GatewayProcess
  /-- The requests of the accepted calls. -/
  queued : List OffloadingRequestData := []
  /-- The ids that the calls returned, in the order of the calls. -/
  returned : List String := []
  /-- The sessions that were inserted and the requests they are for. -/
  inserted : List (String × OffloadingRequestData) := []
  /-- The requests that went to the Bridge. -/
  sent : List (String × OffloadingRequestData) := []
  /-- All numbers drawn from the counter. -/
  draws : List String := []

namespace RequestRun

variable (s : RequestRun)

/-- What a step of the process shows, recorded. -/
def note : GatewayProcess.Event → RequestRun
  | .requestOffloading request =>
    if s.process.controller.componentType = .vhc ∧ s.process.answering = false ∧
        (s.process.controller.queueOffloadingRequest request).isSome then
      { s with queued := s.queued ++ [request] }
    else s
  | .answer =>
    if s.process.answering then
      { s with returned := s.returned ++ [s.process.controller.drawRequestId.2]
               draws := s.draws ++ [s.process.controller.drawRequestId.2] }
    else s
  | .control o =>
    match s.process.point with
    | .taken _ => { s with draws := s.draws ++ [s.process.controller.drawRequestId.2] }
    | .numbered requestId request => { s with inserted := s.inserted ++ [(requestId, request)] }
    | .recorded requestId request =>
      if (s.process.controller.sendOffloadRequest requestId request o.sendResult).2.isEmpty then s
      else { s with sent := s.sent ++ [(requestId, request)] }
    | _ => s
  | _ => s

def step (e : GatewayProcess.Event) : RequestRun :=
  if s.process.controller.terminated then s else { s.note e with process := (s.process.step e).1 }

/-- A VHC that has just become operational. -/
def start (componentId : String) (tasks : List (String × TaskDetails)) : RequestRun where
  process := { controller := GatewayController.vhcWith componentId tasks }

/-- The id that a call returned names the session of its request: the request was inserted and sent under it, no other
request has it, and its teardown removes this session and no other. -/
structure NamesSessions : Prop where
  inserted : ∀ (k : Nat) (id : String) (entry : String × OffloadingRequestData), s.returned[k]? = some id →
    s.inserted[k]? = some entry → entry.1 = id
  sent : ∀ entry ∈ s.sent, entry ∈ s.inserted
  returnedDistinct : s.returned.Nodup
  insertedDistinct : (s.inserted.map Prod.fst).Nodup
  teardown : ∀ (k : Nat) (id : String) (entry : String × OffloadingRequestData), s.returned[k]? = some id →
    s.inserted[k]? = some entry → ∀ r, (s.process.controller.handleSessionTeardown id).activeSessions r =
      if r = entry.1 then none else s.process.controller.activeSessions r

/-- No number is drawn for a request that has one already, and the counter does not wrap. -/
def DrawsOnce (e : GatewayProcess.Event) : Prop :=
  s.process.controller.terminated = false →
    match e with
    | .answer => s.process.answering = true → s.inserted = [] ∧ s.draws.length < 2 ^ 64
    | .control _ =>
      match s.process.point with
      | .taken _ => s.draws.length < 2 ^ 64
      | .numbered _ _ => s.returned = []
      | _ => True
    | _ => True

/-! ## Numbers -/

/-- The number of a draw. -/
def idOf (i : Nat) : String := toString ((1 + i) % 2 ^ 64)

theorem idOf_inj {i j : Nat} (hi : i < 2 ^ 64) (hj : j < 2 ^ 64) (h : idOf i = idOf j) : i = j := by
  unfold idOf at h
  rw [Nat.toString_eq_repr, Nat.toString_eq_repr] at h
  have hmod := Nat.repr_injective h
  omega

theorem nodup_draws {n : Nat} (hn : n ≤ 2 ^ 64) : ((List.range n).map idOf).Nodup := by
  refine List.Nodup.map_on ?_ List.nodup_range
  intro i hi j hj h
  rw [List.mem_range] at hi hj
  exact idOf_inj (by omega) (by omega) h

/-! ## Where a request is -/

/-- The number that the control thread holds. -/
def idInHand : ControlPoint → List String
  | .numbered requestId _ => [requestId]
  | _ => []

/-- The request that the control thread holds and has not inserted. -/
def requestInHand : ControlPoint → List OffloadingRequestData
  | .taken request => [request]
  | .numbered _ request => [request]
  | _ => []

/-- The session that the control thread has inserted and not sent. -/
def recordedInHand : ControlPoint → List (String × OffloadingRequestData)
  | .recorded requestId request => [(requestId, request)]
  | _ => []

/-- Every number drawn was returned, inserted or is in hand, and every request queued was inserted, is in hand or is
still in the queue, in this order. -/
structure Numbered : Prop where
  draws : s.draws = (List.range s.draws.length).map idOf
  counter : s.process.controller.requestIdCounter = (1 + s.draws.length) % 2 ^ 64
  perm : (s.returned ++ (s.inserted.map Prod.fst ++ idInHand s.process.point)).Perm s.draws
  sent : ∀ entry ∈ s.sent, entry ∈ s.inserted
  recorded : ∀ entry ∈ recordedInHand s.process.point, entry ∈ s.inserted
  queue : s.queued = s.inserted.map Prod.snd ++
    (requestInHand s.process.point ++ s.process.controller.offloadingRequestQueue)
  answers : s.returned.length + s.process.answering.toNat = s.queued.length

/-- What the invariant reads of a process. -/
structure SameRequests (p p' : GatewayProcess) : Prop where
  counter : p'.controller.requestIdCounter = p.controller.requestIdCounter
  queue : p'.controller.offloadingRequestQueue = p.controller.offloadingRequestQueue
  ids : idInHand p'.point = idInHand p.point
  requests : requestInHand p'.point = requestInHand p.point
  recorded : recordedInHand p'.point = recordedInHand p.point
  answering : p'.answering = p.answering

variable {s}

theorem Numbered.of_sameRequests (h : s.Numbered) {p : GatewayProcess} (hp : SameRequests s.process p) :
    ({ s with process := p } : RequestRun).Numbered where
  draws := h.draws
  counter := hp.counter.trans h.counter
  perm := by
    show (s.returned ++ (s.inserted.map Prod.fst ++ idInHand p.point)).Perm s.draws
    rw [hp.ids]
    exact h.perm
  sent := h.sent
  recorded := by
    show ∀ entry ∈ recordedInHand p.point, entry ∈ s.inserted
    rw [hp.recorded]
    exact h.recorded
  queue := by
    show s.queued = s.inserted.map Prod.snd ++ (requestInHand p.point ++ p.controller.offloadingRequestQueue)
    rw [hp.requests, hp.queue]
    exact h.queue
  answers := by
    show s.returned.length + p.answering.toNat = s.queued.length
    rw [hp.answering]
    exact h.answers

theorem sameRequests_handled {P : Prop} {p : GatewayProcess} {c : GatewayController}
    (h : GatewayController.Handled P p.controller c) : SameRequests p { p with controller := c } := by
  cases h with
  | sessions => exact ⟨rfl, rfl, rfl, rfl, rfl, rfl⟩
  | confirmed => exact ⟨rfl, rfl, rfl, rfl, rfl, rfl⟩

theorem emptyHanded {point : ControlPoint} (h : point.request = none) :
    idInHand point = [] ∧ requestInHand point = [] ∧ recordedInHand point = [] := by
  cases point with
  | taken request => cases h
  | numbered requestId request => cases h
  | recorded requestId request => cases h
  | _ => exact ⟨rfl, rfl, rfl⟩

theorem sameRequests_of_request_none {p p' : GatewayProcess} (h : p.point.request = none)
    (h' : p'.point.request = none) (hcounter : p'.controller.requestIdCounter = p.controller.requestIdCounter)
    (hqueue : p'.controller.offloadingRequestQueue = p.controller.offloadingRequestQueue)
    (hanswering : p'.answering = p.answering) : SameRequests p p' := by
  obtain ⟨hid, hrequest, hrecorded⟩ := emptyHanded h
  obtain ⟨hid', hrequest', hrecorded'⟩ := emptyHanded h'
  exact ⟨hcounter, hqueue, hid'.trans hid.symm, hrequest'.trans hrequest.symm, hrecorded'.trans hrecorded.symm,
    hanswering⟩

theorem note_control_of_request_none (h : s.process.point.request = none) (o : Outcomes) : s.note (.control o) = s := by
  unfold note
  cases hp : s.process.point with
  | taken request => rw [hp] at h; cases h
  | numbered requestId request => rw [hp] at h; cases h
  | recorded requestId request => rw [hp] at h; cases h
  | _ => rfl

/-! ## One step -/

theorem Numbered.draw (h : s.Numbered) :
    s.draws ++ [s.process.controller.drawRequestId.2] =
      (List.range (s.draws ++ [s.process.controller.drawRequestId.2]).length).map idOf ∧
    s.process.controller.drawRequestId.1.requestIdCounter =
      (1 + (s.draws ++ [s.process.controller.drawRequestId.2]).length) % 2 ^ 64 := by
  have hid : s.process.controller.drawRequestId.2 = idOf s.draws.length := by
    show toString s.process.controller.requestIdCounter = _
    rw [h.counter]
    rfl
  constructor
  · rw [List.length_append, List.length_singleton, List.range_succ, List.map_append, ← h.draws, hid]
    rfl
  · show (s.process.controller.requestIdCounter + 1) % 2 ^ 64 = _
    rw [h.counter, List.length_append, List.length_singleton, Nat.mod_add_mod, Nat.add_assoc]

theorem Numbered.control (h : s.Numbered) (hpoint : GatewayProcess.PointOk s.process.point s.process.controller.state)
    (o : Outcomes) : ({ s.note (.control o) with process := (s.process.control o).1 } : RequestRun).Numbered := by
  have hc := GatewayProcess.control_controlled hpoint o
  generalize (s.process.control o).1 = p at hc ⊢
  generalize (s.process.control o).2 = messages at hc
  -- a step that deals with no request
  have hother : s.process.point.request = none → p.point.request = none →
      p.controller.requestIdCounter = s.process.controller.requestIdCounter →
      p.controller.offloadingRequestQueue = s.process.controller.offloadingRequestQueue →
      p.answering = s.process.answering → ({ s.note (.control o) with process := p } : RequestRun).Numbered := by
    intro hheld hheld' hcounter hqueue hanswering
    rw [note_control_of_request_none hheld]
    exact h.of_sameRequests (sameRequests_of_request_none hheld hheld' hcounter hqueue hanswering)
  cases hc with
  | moved tasks point accepting discovery _ hheld hheld' => exact hother hheld hheld' rfl rfl rfl
  | stored tasks state _ _ hheld => exact hother hheld rfl rfl rfl rfl
  | clientStarted succeeds hp =>
      refine hother (by rw [hp]; rfl) ?_ rfl rfl rfl
      cases succeeds <;> rfl
  | confirmed c hmode hc hheld =>
      have hsame := sameRequests_handled hc
      exact hother hheld rfl hsame.counter hsame.queue rfl
  | sent sessions client point messages _ _ hheld hheld' => exact hother hheld hheld' rfl rfl rfl
  | took request rest hp hqueue =>
      obtain ⟨hdraws, hcounter, hperm, hsent, hrecorded, hq, hanswers⟩ := h
      rw [hp] at hperm hq
      rw [hqueue] at hq
      rw [note_control_of_request_none (by rw [hp]; rfl)]
      exact ⟨hdraws, hcounter, hperm, hsent, fun _ hentry => absurd hentry List.not_mem_nil, hq, hanswers⟩
  | drew request hp =>
      obtain ⟨hdraws', hcounter'⟩ := h.draw
      obtain ⟨hdraws, hcounter, hperm, hsent, hrecorded, hq, hanswers⟩ := h
      rw [hp] at hperm hq
      have hnote : s.note (.control o) =
          { s with draws := s.draws ++ [s.process.controller.drawRequestId.2] } := by
        unfold note
        rw [hp]
      rw [hnote]
      refine ⟨hdraws', hcounter', ?_, hsent, fun _ hentry => absurd hentry List.not_mem_nil, hq, hanswers⟩
      simp only [idInHand, List.append_nil] at hperm ⊢
      rw [← List.append_assoc]
      exact hperm.append_right _
  | inserted requestId request hp =>
      obtain ⟨hdraws, hcounter, hperm, hsent, hrecorded, hq, hanswers⟩ := h
      rw [hp] at hperm hq
      have hnote : s.note (.control o) = { s with inserted := s.inserted ++ [(requestId, request)] } := by
        unfold note
        rw [hp]
      rw [hnote]
      refine ⟨hdraws, hcounter, ?_, fun entry hentry => List.mem_append_left _ (hsent entry hentry), ?_, ?_, hanswers⟩
      · simpa [idInHand] using hperm
      · intro entry hentry
        rw [List.mem_singleton.mp hentry]
        exact List.mem_append_right _ (List.mem_singleton_self _)
      · show s.queued = (s.inserted ++ [(requestId, request)]).map Prod.snd ++
          (requestInHand (.recorded requestId request) ++ s.process.controller.offloadingRequestQueue)
        simpa [requestInHand] using hq
  | offered requestId request hp =>
      obtain ⟨client, terminated, hc⟩ :=
        GatewayController.sendOffloadRequest_changes s.process.controller requestId request o.sendResult
      obtain ⟨hdraws, hcounter, hperm, hsent, hrecorded, hq, hanswers⟩ := h
      rw [hp] at hperm hq hrecorded
      have hnote : ∃ sent, s.note (.control o) = { s with sent := sent } ∧ ∀ entry ∈ sent, entry ∈ s.inserted := by
        unfold note
        rw [hp]
        dsimp only
        split_ifs
        · exact ⟨s.sent, rfl, hsent⟩
        · refine ⟨_, rfl, fun entry hentry => ?_⟩
          rcases List.mem_append.mp hentry with hold | hnew
          · exact hsent entry hold
          · exact hrecorded entry hnew
      obtain ⟨sent, hnote, hsent'⟩ := hnote
      rw [hnote, hc]
      exact ⟨hdraws, hcounter, hperm, hsent', fun _ hentry => absurd hentry List.not_mem_nil, hq, hanswers⟩
  | tookTermination requestId rest hp => exact hother (by rw [hp]; rfl) rfl rfl rfl rfl
  | tornDown requestId hp =>
      obtain ⟨sessions, gateway, hc⟩ := GatewayController.handleSessionTeardown_changes s.process.controller requestId
      refine hother (by rw [hp]; rfl) rfl ?_ ?_ rfl
      · rw [hc]
      · rw [hc]

theorem Numbered.requestOffloading (h : s.Numbered) (request : OffloadingRequestData)
    (hlive : s.process.controller.terminated = false) :
    ({ s.note (.requestOffloading request) with process := (s.process.step (.requestOffloading request)).1 } :
      RequestRun).Numbered := by
  unfold note GatewayProcess.step
  dsimp only
  rw [if_neg (by rw [hlive]; simp)]
  by_cases hcall : s.process.controller.componentType = .vhc ∧ s.process.answering = false
  · rw [if_pos hcall]
    cases hq : s.process.controller.queueOffloadingRequest request with
    | none =>
        rw [if_neg (by simp)]
        exact h
    | some c =>
        have hc : c = { s.process.controller with
            offloadingRequestQueue := s.process.controller.offloadingRequestQueue ++ [request] } := by
          unfold GatewayController.queueOffloadingRequest at hq
          split_ifs at hq
          exact (Option.some.inj hq).symm
        rw [if_pos ⟨hcall.1, hcall.2, rfl⟩, hc]
        obtain ⟨hdraws, hcounter, hperm, hsent, hrecorded, hqueue, hanswers⟩ := h
        refine ⟨hdraws, hcounter, hperm, hsent, hrecorded, ?_, ?_⟩
        · simp [hqueue]
        · rw [hcall.2] at hanswers
          simpa using hanswers
  · rw [if_neg hcall, if_neg fun h' => hcall ⟨h'.1, h'.2.1⟩]
    exact h

theorem Numbered.answer (h : s.Numbered) (hlive : s.process.controller.terminated = false) :
    ({ s.note .answer with process := (s.process.step .answer).1 } : RequestRun).Numbered := by
  unfold note GatewayProcess.step
  dsimp only
  rw [if_neg (by rw [hlive]; simp)]
  cases ha : s.process.answering with
  | false =>
      rw [if_neg (by simp), if_neg (by simp)]
      exact h
  | true =>
      rw [if_pos rfl, if_pos rfl]
      obtain ⟨hdraws', hcounter'⟩ := h.draw
      obtain ⟨hdraws, hcounter, hperm, hsent, hrecorded, hqueue, hanswers⟩ := h
      refine ⟨hdraws', hcounter', ?_, hsent, hrecorded, hqueue, ?_⟩
      · -- the number goes behind those that were returned before
        show (s.returned ++ [s.process.controller.drawRequestId.2] ++
          (s.inserted.map Prod.fst ++ idInHand s.process.point)).Perm
            (s.draws ++ [s.process.controller.drawRequestId.2])
        rw [List.append_assoc]
        exact (List.perm_append_comm_assoc _ _ _).trans
          ((List.perm_append_comm).trans (hperm.append_right _))
      · rw [ha] at hanswers
        simpa using hanswers

/-- **Every step keeps track of the numbers and of the requests.** -/
theorem Numbered.step (h : s.Numbered) (hpoint : GatewayProcess.PointOk s.process.point s.process.controller.state)
    (e : GatewayProcess.Event) : (s.step e).Numbered := by
  unfold RequestRun.step
  split_ifs with hterm
  · exact h
  · have hlive : s.process.controller.terminated = false := by simpa using hterm
    -- a step of another thread leaves the requests alone
    have hother : ∀ {p : GatewayProcess}, SameRequests s.process p →
        ({ s with process := p } : RequestRun).Numbered := fun hp => h.of_sameRequests hp
    cases e with
    | control o =>
        have hstep : s.process.step (.control o) = s.process.control o := by
          unfold GatewayProcess.step
          exact if_neg hterm
        rw [hstep]
        exact h.control hpoint o
    | requestOffloading request => exact h.requestOffloading request hlive
    | answer => exact h.answer hlive
    | discovered config =>
        unfold note GatewayProcess.step
        dsimp only
        rw [if_neg hterm]
        split_ifs
        · obtain ⟨tasks, state, hc⟩ := GatewayController.onDiscoverySuccess_changes s.process.controller config
          rw [hc]
          exact hother ⟨rfl, rfl, rfl, rfl, rfl, rfl⟩
        · exact h
    | terminateOffloading requestId =>
        unfold note GatewayProcess.step
        dsimp only [GatewayController.queueTerminationRequest]
        rw [if_neg hterm]
        split_ifs
        · exact h
        · exact hother ⟨rfl, rfl, rfl, rfl, rfl, rfl⟩
        · exact h
    | accept =>
        unfold note GatewayProcess.step
        dsimp only
        rw [if_neg hterm]
        split_ifs
        · exact hother ⟨rfl, rfl, rfl, rfl, rfl, rfl⟩
        · exact h
    | confirmAccepted now =>
        unfold note GatewayProcess.step
        dsimp only
        rw [if_neg hterm]
        split_ifs
        · have hsame := sameRequests_handled (GatewayController.onDpConfirmed_handled trivial s.process.controller now)
          exact hother ⟨hsame.counter, hsame.queue, rfl, rfl, rfl, rfl⟩
        · exact h
    | receive message now =>
        unfold note GatewayProcess.step
        dsimp only
        rw [if_neg hterm]
        split_ifs
        · exact hother (sameRequests_handled (GatewayController.handleReceivedMessage_handled _ message now))
        · exact h

theorem numbered_start (componentId : String) (tasks : List (String × TaskDetails)) :
    (start componentId tasks).Numbered :=
  ⟨rfl, rfl, .nil, fun _ h => absurd h List.not_mem_nil, fun _ h => absurd h List.not_mem_nil, rfl, rfl⟩

theorem Numbered.namesSessions_iff (h : s.Numbered) (hdraws : s.draws.length ≤ 2 ^ 64) :
    s.NamesSessions ↔ s.returned = [] ∨ s.inserted = [] := by
  have hnodup : (s.returned ++ (s.inserted.map Prod.fst ++ idInHand s.process.point)).Nodup := by
    refine h.perm.nodup_iff.mpr ?_
    rw [h.draws]
    exact nodup_draws hdraws
  obtain ⟨hreturned, hinserted, hdisjoint⟩ := List.nodup_append.mp hnodup
  constructor
  · intro hnames
    by_contra hboth
    obtain ⟨hr, hi⟩ := not_or.mp hboth
    -- the first request has two numbers
    obtain ⟨id, ids, hids⟩ := List.exists_cons_of_ne_nil hr
    obtain ⟨entry, entries, hentries⟩ := List.exists_cons_of_ne_nil hi
    have hsame := hnames.inserted 0 id entry (by rw [hids]; rfl) (by rw [hentries]; rfl)
    refine hdisjoint id (by rw [hids]; exact List.mem_cons_self) id ?_ rfl
    rw [hentries, ← hsame]
    exact List.mem_append_left _ List.mem_cons_self
  · intro hone
    have hnone : ∀ (k : Nat) (id : String) (entry : String × OffloadingRequestData), s.returned[k]? = some id →
        s.inserted[k]? = some entry → False := by
      intro k id entry hid hentry
      rcases hone with hnil | hnil
      · rw [hnil] at hid; cases hid
      · rw [hnil] at hentry; cases hentry
    exact ⟨fun k id entry hid hentry => (hnone k id entry hid hentry).elim, h.sent, hreturned,
      (List.nodup_append.mp hinserted).1, fun k id entry hid hentry => (hnone k id entry hid hentry).elim⟩

/-! ## Runs -/

/-- What a step adds to the numbers. -/
inductive Grown (s : RequestRun) : GatewayProcess.Event → RequestRun → Prop where
  | same (e : GatewayProcess.Event) (s' : RequestRun) (honce : s.DrawsOnce e) (hreturned : s'.returned = s.returned)
      (hinserted : s'.inserted = s.inserted) (hdraws : s'.draws = s.draws) : Grown s e s'
  | returned (s' : RequestRun) (id : String) (hanswering : s.process.answering = true)
      (hreturned : s'.returned = s.returned ++ [id]) (hinserted : s'.inserted = s.inserted)
      (hdraws : s'.draws = s.draws ++ [id]) : Grown s .answer s'
  | drawn (s' : RequestRun) (o : Outcomes) (id : String) (request : OffloadingRequestData)
      (hpoint : s.process.point = .taken request) (hreturned : s'.returned = s.returned)
      (hinserted : s'.inserted = s.inserted) (hdraws : s'.draws = s.draws ++ [id]) : Grown s (.control o) s'
  | inserted (s' : RequestRun) (o : Outcomes) (id : String) (request : OffloadingRequestData)
      (hpoint : s.process.point = .numbered id request) (hreturned : s'.returned = s.returned)
      (hinserted : s'.inserted = s.inserted ++ [(id, request)]) (hdraws : s'.draws = s.draws) :
      Grown s (.control o) s'

theorem grown_step (hlive : s.process.controller.terminated = false) (e : GatewayProcess.Event) :
    Grown s e (s.step e) := by
  have hstep : s.step e = { s.note e with process := (s.process.step e).1 } := by
    unfold step
    rw [if_neg (by rw [hlive]; simp)]
  rw [hstep]
  cases e with
  | requestOffloading request =>
      unfold note
      dsimp only
      split_ifs <;> exact .same _ _ (fun _ => trivial) rfl rfl rfl
  | answer =>
      unfold note
      dsimp only
      split_ifs with ha
      · exact .returned _ _ ha rfl rfl rfl
      · exact .same _ _ (fun _ ha' => absurd ha' ha) rfl rfl rfl
  | control o =>
      unfold note
      cases hp : s.process.point with
      | taken request => exact .drawn _ o _ request hp rfl rfl rfl
      | numbered id request => exact .inserted _ o id request hp rfl rfl rfl
      | recorded id request =>
          dsimp only
          split_ifs <;> exact .same _ _ (fun _ => by rw [hp]; trivial) rfl rfl rfl
      | _ => exact .same _ _ (fun _ => by rw [hp]; trivial) rfl rfl rfl
  | _ => exact .same _ _ (fun _ => trivial) rfl rfl rfl

theorem step_terminated (h : s.process.controller.terminated = true) (e : GatewayProcess.Event) : s.step e = s := by
  unfold step
  rw [if_pos h]

theorem length_draws_step (e : GatewayProcess.Event) : (s.step e).draws.length ≤ s.draws.length + 1 := by
  cases hterm : s.process.controller.terminated with
  | true =>
      rw [step_terminated hterm]
      exact Nat.le_succ _
  | false =>
      have hgrown := grown_step hterm e
      generalize s.step e = s' at hgrown ⊢
      cases hgrown with
      | same _ _ _ _ _ hdraws => rw [hdraws]; exact Nat.le_succ _
      | returned _ id _ _ _ hdraws => rw [hdraws, List.length_append]; exact le_rfl
      | drawn _ o id request _ _ _ hdraws => rw [hdraws, List.length_append]; exact le_rfl
      | inserted _ o id request _ _ _ hdraws => rw [hdraws]; exact Nat.le_succ _

/-- The invariant of all runs. -/
def Tracked (s : RequestRun) : Prop :=
  s.Numbered ∧ GatewayProcess.PointOk s.process.point s.process.controller.state

theorem Tracked.step (h : s.Tracked) (e : GatewayProcess.Event) : (s.step e).Tracked := by
  refine ⟨h.1.step h.2 e, ?_⟩
  unfold RequestRun.step
  split_ifs
  · exact h.2
  · exact (GatewayProcess.consistent_step h.2 e).1

/-- A run that draws once for each request. -/
def Unmixed (s : RequestRun) : Prop :=
  s.Tracked ∧ (s.returned = [] ∨ s.inserted = []) ∧ s.draws.length ≤ 2 ^ 64

theorem Unmixed.step (h : s.Unmixed) {e : GatewayProcess.Event} (he : s.DrawsOnce e) : (s.step e).Unmixed := by
  obtain ⟨htracked, hone, hdraws⟩ := h
  refine ⟨htracked.step e, ?_⟩
  cases hterm : s.process.controller.terminated with
  | true =>
      rw [step_terminated hterm]
      exact ⟨hone, hdraws⟩
  | false =>
      have hgrown := grown_step hterm e
      have he := he hterm
      generalize s.step e = s' at hgrown ⊢
      cases hgrown with
      | same _ _ _ hr hi hd =>
          rw [hr, hi, hd]
          exact ⟨hone, hdraws⟩
      | returned _ id ha hr hi hd =>
          obtain ⟨hnil, hlt⟩ := he ha
          rw [hi, hd, List.length_append]
          exact ⟨Or.inr hnil, hlt⟩
      | drawn _ o id request hp hr hi hd =>
          rw [hp] at he
          rw [hr, hi, hd, List.length_append]
          exact ⟨hone, he⟩
      | inserted _ o id request hp hr hi hd =>
          rw [hp] at he
          rw [hr, hd]
          exact ⟨Or.inl he, hdraws⟩

theorem drawsOnce_of_step {e : GatewayProcess.Event} (hone : (s.step e).returned = [] ∨ (s.step e).inserted = [])
    (hdraws : (s.step e).draws.length ≤ 2 ^ 64) : s.DrawsOnce e := by
  intro hterm
  have hgrown := grown_step hterm e
  generalize s.step e = s' at hgrown hone hdraws
  cases hgrown with
  | same _ _ honce => exact honce hterm
  | returned _ id ha hr hi hd =>
      intro _
      rw [hr, hi] at hone
      rw [hd, List.length_append] at hdraws
      exact ⟨hone.resolve_left (by simp), hdraws⟩
  | drawn _ o id request hp hr hi hd =>
      rw [hp]
      rw [hd, List.length_append] at hdraws
      exact hdraws
  | inserted _ o id request hp hr hi hd =>
      rw [hp]
      rw [hr, hi] at hone
      exact hone.resolve_right (by simp)

theorem length_draws_run (es : List GatewayProcess.Event) (s : RequestRun) :
    (Run.run step s es).draws.length ≤ s.draws.length + es.length := by
  induction es generalizing s with
  | nil => exact le_rfl
  | cons e es ih =>
      calc (Run.run step s (e :: es)).draws.length
          ≤ (s.step e).draws.length + es.length := ih (s.step e)
        _ ≤ s.draws.length + 1 + es.length := Nat.add_le_add_right (length_draws_step e) _
        _ = s.draws.length + (e :: es).length := by rw [List.length_cons]; omega

theorem tracked_start (componentId : String) (tasks : List (String × TaskDetails)) :
    (start componentId tasks).Tracked :=
  ⟨numbered_start componentId tasks, trivial⟩

/-- **The id that a call returns names the session of its request in every state of a run in which no request gets two
numbers; in a run of at most 2^64 steps, only then.** -/
theorem names_sessions_along (componentId : String) (tasks : List (String × TaskDetails))
    (events : List GatewayProcess.Event) :
    (Run.Along step DrawsOnce (start componentId tasks) events →
      ∀ pre, pre <+: events → NamesSessions (Run.run step (start componentId tasks) pre)) ∧
    (events.length ≤ 2 ^ 64 →
      (∀ pre, pre <+: events → NamesSessions (Run.run step (start componentId tasks) pre)) →
      Run.Along step DrawsOnce (start componentId tasks) events) := by
  constructor
  · intro halong pre hpre
    have hstart : (start componentId tasks).Unmixed :=
      ⟨tracked_start componentId tasks, Or.inl rfl, Nat.zero_le _⟩
    obtain ⟨htracked, hone, hdraws⟩ :=
      Run.run_invariant_on_the_way step (fun _ _ hs he => hs.step he) hstart halong pre hpre
    exact (htracked.1.namesSessions_iff hdraws).mpr hone
  · intro hlength hnames
    rw [Run.along_iff_forall_step]
    intro pre e hpre
    have htracked : (Run.run step (start componentId tasks) (pre ++ [e])).Tracked :=
      Run.run_invariant_of_step step (fun _ e hs => hs.step e) _ _ (tracked_start componentId tasks)
    have hdraws : (Run.run step (start componentId tasks) (pre ++ [e])).draws.length ≤ 2 ^ 64 := by
      calc (Run.run step (start componentId tasks) (pre ++ [e])).draws.length
          ≤ 0 + (pre ++ [e]).length := length_draws_run _ _
        _ ≤ events.length := by rw [Nat.zero_add]; exact hpre.length_le
        _ ≤ 2 ^ 64 := hlength
    have hone := (htracked.1.namesSessions_iff hdraws).mp (hnames _ hpre)
    rw [Run.run_append] at hone hdraws
    exact drawsOnce_of_step hone hdraws

/-- One call, whose request the control thread takes off the queue. -/
def oneCall : List GatewayProcess.Event :=
  [.requestOffloading ⟨"3", ""⟩, .answer, .control {}, .control {}, .control {}, .control {}, .control {}]

/-- The call returns the id 1 and the session has the id 2. -/
theorem not_names_sessions :
    ¬ ∀ (componentId : String) (tasks : List (String × TaskDetails)) (events pre : List GatewayProcess.Event),
      pre <+: events → NamesSessions (Run.run step (start componentId tasks) pre) := by
  intro h
  have hnames := h "60:5" GatewayController.sampleTasks oneCall oneCall List.prefix_rfl
  have hreturned : (Run.run step (start "60:5" GatewayController.sampleTasks) oneCall).returned = ["1"] := by
    decide +kernel
  have hinserted : (Run.run step (start "60:5" GatewayController.sampleTasks) oneCall).inserted =
      [("2", ⟨"3", ""⟩)] := by
    decide +kernel
  have hsame := hnames.inserted 0 "1" ("2", ⟨"3", ""⟩) (by rw [hreturned]; rfl) (by rw [hinserted]; rfl)
  exact absurd hsame (by decide)

end RequestRun

end EdgeOffloading
