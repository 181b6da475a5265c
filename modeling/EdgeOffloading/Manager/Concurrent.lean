import EdgeOffloading.Manager.Exclusive

/-!
# Decisions of several connections

Every connection of the OM has its thread, and `make_decision` takes its lock twice: for the limit and the duplicate
check, and for the insertion. Between the two it copies the assignments and chooses a MEC. The MECs do not change here.

* `uninterrupted_decision`: a call that nothing interrupts is `OffloadingManager.makeDecision`;
* `safe_iff_checksStand`: the limit, one session on a MEC and one approval for a request in every state of a run, iff at
  every insertion what the call has checked still holds;
* `safe_of_alone`: so in every run in which no call starts while another is on its way.
-/

namespace EdgeOffloading

open Allocation Run

/-- The arguments of `make_decision`. -/
structure DecisionRequest where
  requestId : Json
  taskId : Json
  vhc : { v : Json // v ≠ .null }

/-- Where a thread stands in `make_decision`. -/
inductive DecisionPoint where
  | idle
  /-- Past the checks. -/
  | checked (key : PyKey) (request : DecisionRequest)
  /-- A MEC is chosen. -/
  | chosen (key : PyKey) (request : DecisionRequest) (mec : String)

/-- The engine, its threads, and the requests approved so far. -/
structure DecisionThreads where
  om : OffloadingManager
  points : Nat → DecisionPoint := fun _ => .idle
  approvals : List PyKey := []

inductive DecisionEvent where
  | check (thread : Nat) (request : DecisionRequest)
  | choose (thread : Nat) (env : ManagerEnv)
  | insert (thread now : Nat)

/-- `active_sessions[request_id] = session_info` and the assignment. -/
def OffloadingManager.insertSession (om : OffloadingManager) (key : PyKey) (session : SessionInfo) :
    OffloadingManager :=
  { om with
    activeSessions :=
      if om.isActive key then om.activeSessions.map fun other => if other.1 = key then (key, session) else other
      else om.activeSessions ++ [(key, session)]
    mecAssignments := Function.update om.mecAssignments session.assignedMecId (some session.mgwcpComponentId) }

namespace DecisionThreads

variable (s : DecisionThreads)

def moveTo (thread : Nat) (point : DecisionPoint) : DecisionThreads :=
  { s with points := Function.update s.points thread point }

@[simp] theorem points_moveTo_self (thread : Nat) (point : DecisionPoint) :
    (s.moveTo thread point).points thread = point := by
  dsimp only [moveTo]
  rw [Function.update_self]

theorem points_moveTo_of_ne {thread other : Nat} (hne : other ≠ thread) (point : DecisionPoint) :
    (s.moveTo thread point).points other = s.points other := by
  dsimp only [moveTo]
  rw [Function.update_of_ne hne]

/-- The first critical section, after the look at the task. -/
def check (thread : Nat) (request : DecisionRequest) : DecisionThreads :=
  match s.points thread with
  | .idle =>
    if !s.om.hasTask request.taskId then s
    else if s.om.maxConcurrentSessions ≤ s.om.activeSessions.length then s
    else
      match pyKey request.requestId with
      | none => s
      | some key => if s.om.isActive key then s else s.moveTo thread (.checked key request)
  | _ => s

/-- The choice on the copies; an approval with an empty id is not tracked. -/
def choose (thread : Nat) (env : ManagerEnv) : DecisionThreads :=
  match s.points thread with
  | .checked key request =>
    let decision := s.om.autoApproveStrategy env
    if decision.approved then
      if decision.assignedMecId ≠ "" then s.moveTo thread (.chosen key request decision.assignedMecId)
      else { s.moveTo thread .idle with approvals := s.approvals ++ [key] }
    else s.moveTo thread .idle
  | _ => s

/-- The second critical section. -/
def insert (thread now : Nat) : DecisionThreads :=
  match s.points thread with
  | .chosen key request mec =>
    { s.moveTo thread .idle with
      om := s.om.insertSession key ⟨request.requestId, request.taskId, request.vhc, mec, now⟩
      approvals := s.approvals ++ [key] }
  | _ => s

def step : DecisionEvent → DecisionThreads
  | .check thread request => s.check thread request
  | .choose thread env => s.choose thread env
  | .insert thread now => s.insert thread now

/-- The limit holds, a MEC serves one session, and no request is approved twice. -/
structure Safe : Prop where
  limit : s.om.activeSessions.length ≤ s.om.maxConcurrentSessions
  exclusive : Allocation.Exclusive OffloadingManager.mecOf s.om.activeSessions
  once : s.approvals.Nodup

/-- At an insertion there is still room, the request is still new and the MEC still free. -/
def ChecksStand : DecisionEvent → Prop
  | .insert thread _ =>
    match s.points thread with
    | .chosen key _ mec =>
      s.om.activeSessions.length < s.om.maxConcurrentSessions ∧ s.om.isActive key = false ∧ s.om.isFree mec = true
    | _ => True
  | _ => True

/-- What a safe state keeps: approvals are the sessions, and a MEC is free iff no session is on it. -/
structure Linked : Prop where
  approved : s.approvals = s.om.activeSessions.map Prod.fst
  free : ∀ mec ∈ s.om.availableMecs,
    (s.om.isFree mec = true ↔ holder OffloadingManager.mecOf s.om.activeSessions mec = none)
  named : "" ∉ s.om.availableMecs
  chosen : ∀ thread key request mec, s.points thread = .chosen key request mec → mec ∈ s.om.availableMecs

/-- The engine with its MECs before the first request. -/
def init (tasks : List Nat) (limit : Nat) (mecs : List String) : DecisionThreads :=
  { om := (OffloadingManager.init tasks limit).updateAvailableMecs mecs }

variable {s}

theorem linked_init (tasks : List Nat) (limit : Nat) {mecs : List String} (h : "" ∉ mecs) :
    (init tasks limit mecs).Linked := by
  refine ⟨rfl, fun mec hmec => ?_, h, fun thread key request mec hpoint => by cases hpoint⟩
  have hmec' : mec ∈ mecs := hmec
  have hassigned : (init tasks limit mecs).om.mecAssignments mec = some .null := by
    show (if mec ∈ mecs then some _ else _) = _
    rw [if_pos hmec']
    rfl
  refine ⟨fun _ => rfl, fun _ => ?_⟩
  rw [OffloadingManager.isFree, hassigned]

theorem safe_init (tasks : List Nat) (limit : Nat) (mecs : List String) : (init tasks limit mecs).Safe :=
  ⟨Nat.zero_le _, List.nodup_nil, List.nodup_nil⟩

/-! ## Steps -/

/-- The state after the insertion of a thread. -/
def inserted (s : DecisionThreads) (thread now : Nat) (key : PyKey) (request : DecisionRequest) (mec : String) :
    DecisionThreads :=
  { s.moveTo thread .idle with
    om := s.om.insertSession key ⟨request.requestId, request.taskId, request.vhc, mec, now⟩
    approvals := s.approvals ++ [key] }

/-- Threads have moved and nothing else has changed; a MEC that was chosen is an available one. -/
def Moved (s s' : DecisionThreads) : Prop :=
  ∃ points, s' = { s with points := points } ∧
    ∀ thread key request mec, points thread = .chosen key request mec →
      s.points thread = .chosen key request mec ∨ mec ∈ s.om.availableMecs

theorem Moved.refl (s : DecisionThreads) : Moved s s := ⟨s.points, rfl, fun _ _ _ _ h => .inl h⟩

theorem moved_moveTo (thread : Nat) {point : DecisionPoint}
    (hpoint : ∀ key request mec, point = .chosen key request mec → mec ∈ s.om.availableMecs) :
    Moved s (s.moveTo thread point) := by
  refine ⟨_, rfl, fun thread' key request mec h => ?_⟩
  rw [Function.update_apply] at h
  split at h
  · exact .inr (hpoint key request mec h)
  · exact .inl h

theorem moved_check (thread : Nat) (request : DecisionRequest) : Moved s (s.check thread request) := by
  unfold check
  split
  · split
    · exact .refl s
    · split
      · exact .refl s
      · split
        · exact .refl s
        · split
          · exact .refl s
          · exact moved_moveTo thread fun key' request' mec h => by cases h
  · exact .refl s

theorem moved_choose (hnamed : "" ∉ s.om.availableMecs) (thread : Nat) (env : ManagerEnv) :
    Moved s (s.choose thread env) := by
  unfold choose
  split
  · dsimp only
    split
    · rename_i happroved
      have hmem := (s.om.autoApproveStrategy_approved happroved).1
      have hne : (s.om.autoApproveStrategy env).assignedMecId ≠ "" := fun hempty => hnamed (hempty ▸ hmem)
      rw [if_pos hne]
      refine moved_moveTo thread fun key' request' mec h => ?_
      cases h
      exact hmem
    · exact moved_moveTo thread fun key' request' mec h => by cases h
  · exact .refl s

/-- **What a step can do**: move a thread, or insert what a thread has chosen. -/
theorem step_cases (hnamed : "" ∉ s.om.availableMecs) (e : DecisionEvent) :
    (Moved s (s.step e) ∧ s.ChecksStand e) ∨
      ∃ thread now key request mec, e = .insert thread now ∧ s.points thread = .chosen key request mec ∧
        s.step e = s.inserted thread now key request mec := by
  cases e with
  | check thread request => exact .inl ⟨moved_check thread request, trivial⟩
  | choose thread env => exact .inl ⟨moved_choose hnamed thread env, trivial⟩
  | insert thread now =>
      cases hpoint : s.points thread with
      | idle => simp [step, insert, ChecksStand, hpoint, Moved.refl]
      | checked key request => simp [step, insert, ChecksStand, hpoint, Moved.refl]
      | chosen key request mec =>
          refine .inr ⟨thread, now, key, request, mec, rfl, hpoint, ?_⟩
          show s.insert thread now = _
          rw [insert, hpoint]
          rfl

theorem insertSession_of_new {om : OffloadingManager} {key : PyKey} (h : om.isActive key = false)
    (session : SessionInfo) : om.insertSession key session = om.track key session := by
  rw [OffloadingManager.insertSession, h]
  rfl

theorem safe_inserted_iff (h : s.Linked) (hsafe : s.Safe) {thread now : Nat} {key : PyKey} {request : DecisionRequest}
    {mec : String} (hpoint : s.points thread = .chosen key request mec) :
    (s.inserted thread now key request mec).Safe ↔ s.ChecksStand (.insert thread now) := by
  have hfree := h.free mec (h.chosen thread key request mec hpoint)
  simp only [ChecksStand, hpoint]
  constructor
  · intro hafter
    have hnew : s.om.isActive key = false := by
      have honce : (s.approvals.concat key).Nodup := List.concat_eq_append ▸ hafter.once
      rw [OffloadingManager.isActive_eq_false_iff, ← h.approved]
      exact ((List.nodup_concat _ _).mp honce).1
    have hlimit := hafter.limit
    have hexclusive := hafter.exclusive
    simp only [inserted, insertSession_of_new hnew, OffloadingManager.track, List.length_append, List.length_singleton]
      at hlimit hexclusive
    have hunheld := (exclusive_append_iff.mp hexclusive).1
    refine ⟨hlimit, hnew, hfree.mpr (holder_eq_none_iff.mpr fun session hsession hmec => hunheld ?_)⟩
    exact List.mem_map.mpr ⟨session, hsession, hmec⟩
  · rintro ⟨hlimit, hnew, hmec⟩
    have hholder := hfree.mp hmec
    refine ⟨?_, ?_, ?_⟩
    · simp only [inserted, insertSession_of_new hnew, OffloadingManager.track, List.length_append,
        List.length_singleton]
      exact hlimit
    · simp only [inserted, insertSession_of_new hnew, OffloadingManager.track]
      exact hsafe.exclusive.append_of_free hholder
    · show (s.approvals ++ [key]).Nodup
      rw [← List.concat_eq_append, List.nodup_concat, h.approved]
      exact ⟨OffloadingManager.isActive_eq_false_iff.mp hnew, h.approved ▸ hsafe.once⟩

theorem safe_step_iff (h : s.Linked) (hsafe : s.Safe) (e : DecisionEvent) : (s.step e).Safe ↔ s.ChecksStand e := by
  rcases s.step_cases h.named e with ⟨⟨points, heq, -⟩, hstand⟩ | ⟨thread, now, key, request, mec, rfl, hpoint, heq⟩
  · rw [heq]
    exact ⟨fun _ => hstand, fun _ => ⟨hsafe.limit, hsafe.exclusive, hsafe.once⟩⟩
  · rw [heq]
    exact safe_inserted_iff h hsafe hpoint

theorem isFree_track (om : OffloadingManager) (key : PyKey) (session : SessionInfo)
    (hvhc : session.mgwcpComponentId ≠ .null) (mec : String) :
    (om.track key session).isFree mec = (decide (mec ≠ session.assignedMecId) && om.isFree mec) := by
  unfold OffloadingManager.isFree
  by_cases hmec : mec = session.assignedMecId
  · rw [hmec]
    simp only [OffloadingManager.track, Function.update_self]
    cases hv : session.mgwcpComponentId with
    | null => exact absurd hv hvhc
    | _ => simp
  · simp only [OffloadingManager.track, Function.update_of_ne hmec]
    simp [hmec]

theorem linked_step (e : DecisionEvent) (h : s.Linked) (hsafe : s.Safe) (hafter : (s.step e).Safe) :
    (s.step e).Linked := by
  have hstand := (safe_step_iff h hsafe e).mp hafter
  rcases s.step_cases h.named e with ⟨⟨points, heq, hpoints⟩, -⟩ | ⟨thread, now, key, request, mec, rfl, hpoint, heq⟩
  · rw [heq]
    refine ⟨h.approved, h.free, h.named, fun thread key request mec hpoint => ?_⟩
    rcases hpoints thread key request mec hpoint with hold | hmem
    · exact h.chosen thread key request mec hold
    · exact hmem
  · rw [heq]
    simp only [ChecksStand, hpoint] at hstand
    obtain ⟨-, hnew, hmec⟩ := hstand
    have hholder := (h.free mec (h.chosen thread key request mec hpoint)).mp hmec
    refine ⟨?_, fun m hm => ?_, h.named, fun thread' key' request' mec' hpoint' => ?_⟩
    · simp only [inserted, insertSession_of_new hnew, OffloadingManager.track, List.map_append, List.map_singleton,
        h.approved]
    · simp only [inserted, insertSession_of_new hnew]
      rw [isFree_track _ _ _ request.vhc.2, Bool.and_eq_true, h.free m hm, decide_eq_true_eq]
      simp only [OffloadingManager.track]
      by_cases hm' : mec = m
      · subst hm'
        let session : PyKey × SessionInfo := (key, ⟨request.requestId, request.taskId, request.vhc, mec, now⟩)
        have hself : holder OffloadingManager.mecOf (s.om.activeSessions ++ [session]) mec = some session :=
          holder_append_self (e := session) hholder
        refine ⟨fun hand => absurd rfl hand.1, fun hnone => ?_⟩
        rw [hself] at hnone
        cases hnone
      · rw [holder_append_of_ne hm']
        exact ⟨fun hand => hand.2, fun hnone => ⟨fun heq => hm' heq.symm, hnone⟩⟩
    · have hpoint'' : Function.update s.points thread .idle thread' = .chosen key' request' mec' := hpoint'
      rw [Function.update_apply] at hpoint''
      split at hpoint''
      · cases hpoint''
      · exact h.chosen thread' key' request' mec' hpoint''

/-- **Concurrent decisions** are safe in every state of a run, iff what a call has checked holds at its insertion. -/
theorem safe_iff_checksStand (tasks : List Nat) (limit : Nat) {mecs : List String} (h : "" ∉ mecs)
    (es : List DecisionEvent) :
    (∀ pre, pre <+: es → (run step (init tasks limit mecs) pre).Safe) ↔
      Along step ChecksStand (init tasks limit mecs) es :=
  forall_prefix_iff_along_of_kept step (fun _ e hlinked hsafe hafter => linked_step e hlinked hsafe hafter)
    (fun _ e hlinked hsafe => safe_step_iff hlinked hsafe e) es _ (linked_init tasks limit h)
    (safe_init tasks limit mecs)

/-- Two calls pass their checks before either inserts. -/
def twoInTheWindow (first second : Json) : List DecisionEvent :=
  let env : ManagerEnv := ⟨0, 0, fun _ => ""⟩
  [.check 0 ⟨first, .int 0, ⟨.str "10:1", str_ne_null _⟩⟩, .check 1 ⟨second, .int 0, ⟨.str "10:2", str_ne_null _⟩⟩,
    .choose 0 env, .choose 1 env, .insert 0 0, .insert 1 0]

theorem twoInTheWindow_not_safe :
    ((run step (init [0] 1 ["20:1"]) (twoInTheWindow (.int 1) (.int 2))).om.activeSessions.map
        OffloadingManager.mecOf = ["20:1", "20:1"] ∧
      ¬ (run step (init [0] 1 ["20:1"]) (twoInTheWindow (.int 1) (.int 2))).Safe) ∧
    (run step (init [0] 1 ["20:1"]) (twoInTheWindow (.int 1) (.int 1))).approvals = [.num 1, .num 1] ∧
      ¬ (run step (init [0] 1 ["20:1"]) (twoInTheWindow (.int 1) (.int 1))).Safe := by
  have hmecs : (run step (init [0] 1 ["20:1"]) (twoInTheWindow (.int 1) (.int 2))).om.activeSessions.map
      OffloadingManager.mecOf = ["20:1", "20:1"] := by decide +kernel
  have happrovals : (run step (init [0] 1 ["20:1"]) (twoInTheWindow (.int 1) (.int 1))).approvals =
      [.num 1, .num 1] := by decide +kernel
  refine ⟨⟨hmecs, fun h => ?_⟩, happrovals, fun h => ?_⟩
  · have hexclusive := h.exclusive
    rw [Allocation.Exclusive, hmecs] at hexclusive
    exact absurd hexclusive (by decide)
  · have honce := h.once
    rw [happrovals] at honce
    exact absurd honce (by decide)

/-- Two calls one after the other. -/
def oneAfterTheOther : List DecisionEvent :=
  let env : ManagerEnv := ⟨0, 0, fun _ => ""⟩
  [.check 0 ⟨.int 1, .int 0, ⟨.str "10:1", str_ne_null _⟩⟩, .choose 0 env, .insert 0 0,
    .check 1 ⟨.int 2, .int 0, ⟨.str "10:2", str_ne_null _⟩⟩, .choose 1 env, .insert 1 0]

theorem safe_iff_checksStand_oneAfterTheOther :
    (run step (init [0] 10 ["20:1", "20:2"]) oneAfterTheOther).approvals = [.num 1, .num 2] ∧
      ∀ pre, pre <+: oneAfterTheOther → (run step (init [0] 10 ["20:1", "20:2"]) pre).Safe := by
  refine ⟨by decide +kernel, (safe_iff_checksStand [0] 10 (by decide) oneAfterTheOther).mpr ?_⟩
  refine ⟨trivial, trivial, ?_, trivial, trivial, ?_, trivial⟩
  · show _ ∧ _ ∧ _
    decide +kernel
  · show _ ∧ _ ∧ _
    decide +kernel

/-! ## Calls that do not overlap -/

theorem uninterrupted_decision {thread : Nat} (hidle : s.points thread = .idle) (request : DecisionRequest)
    (env : ManagerEnv) :
    (run step s [.check thread request, .choose thread env, .insert thread env.now]).om =
      (s.om.makeDecision request.requestId request.taskId request.vhc env).1 := by
  have hdenied : (s.choose thread env).insert thread env.now = s := by
    simp only [choose, hidle, insert]
  show (((s.check thread request).choose thread env).insert thread env.now).om = _
  unfold check OffloadingManager.makeDecision
  rw [hidle]
  dsimp only
  split
  · rw [hdenied]
  · split
    · rw [hdenied]
    · cases hkey : pyKey request.requestId with
      | none => exact congrArg om hdenied
      | some key =>
        dsimp only
        split
        · rw [hdenied]
        · rename_i hnew
          rw [Bool.not_eq_true] at hnew
          have hchecked : (s.moveTo thread (.checked key request)).points thread = .checked key request :=
            s.points_moveTo_self thread _
          rw [choose, hchecked]
          dsimp only [moveTo]
          cases happroved : (s.om.autoApproveStrategy env).approved with
          | false => simp [insert]
          | true =>
              by_cases hne : (s.om.autoApproveStrategy env).assignedMecId = ""
              · simp [insert, hne]
              · simp [insert, hne, insertSession_of_new hnew]

/-- No call starts while another is on its way. -/
def Alone (s : DecisionThreads) : DecisionEvent → Prop
  | .check _ _ => ∀ other, s.points other = .idle
  | _ => True

/-- At most one thread is on its way, and what it has checked holds. -/
structure Sole (s : DecisionThreads) : Prop where
  alone : ∀ thread, s.points thread ≠ .idle → ∀ other, other ≠ thread → s.points other = .idle
  checked : ∀ thread key request, s.points thread = .checked key request →
    s.om.activeSessions.length < s.om.maxConcurrentSessions ∧ s.om.isActive key = false
  chosen : ∀ thread key request mec, s.points thread = .chosen key request mec →
    s.om.activeSessions.length < s.om.maxConcurrentSessions ∧ s.om.isActive key = false ∧ s.om.isFree mec = true

theorem Sole.checksStand (h : s.Sole) (e : DecisionEvent) : s.ChecksStand e := by
  cases e with
  | check thread request => exact trivial
  | choose thread env => exact trivial
  | insert thread now =>
      unfold ChecksStand
      dsimp only
      split
      · rename_i key request mec hpoint
        exact h.chosen thread key request mec hpoint
      · trivial

theorem sole_init (tasks : List Nat) (limit : Nat) (mecs : List String) : (init tasks limit mecs).Sole :=
  ⟨fun _ h => absurd rfl h, fun _ _ _ h => (by cases h), fun _ _ _ _ h => (by cases h)⟩

theorem sole_moveTo {thread : Nat} (hidle : ∀ other, other ≠ thread → s.points other = .idle) {point : DecisionPoint}
    (hchecked : ∀ key request, point = .checked key request →
      s.om.activeSessions.length < s.om.maxConcurrentSessions ∧ s.om.isActive key = false)
    (hchosen : ∀ key request mec, point = .chosen key request mec →
      s.om.activeSessions.length < s.om.maxConcurrentSessions ∧ s.om.isActive key = false ∧ s.om.isFree mec = true) :
    (s.moveTo thread point).Sole := by
  have hself := s.points_moveTo_self thread point
  have hother : ∀ other, other ≠ thread → (s.moveTo thread point).points other = .idle := fun other hne =>
    (s.points_moveTo_of_ne hne point).trans (hidle other hne)
  refine ⟨fun t ht => ?_, fun t key request hpoint => ?_, fun t key request mec hpoint => ?_⟩
  · by_cases hne : t = thread
    · rw [hne]
      exact hother
    · exact absurd (hother t hne) ht
  · by_cases hne : t = thread
    · rw [hne, hself] at hpoint
      exact hchecked key request hpoint
    · rw [hother t hne] at hpoint
      cases hpoint
  · by_cases hne : t = thread
    · rw [hne, hself] at hpoint
      exact hchosen key request mec hpoint
    · rw [hother t hne] at hpoint
      cases hpoint

theorem sole_step (h : s.Sole) {e : DecisionEvent} (halone : s.Alone e) : (s.step e).Sole := by
  cases e with
  | check thread request =>
      show (s.check thread request).Sole
      unfold check
      split
      · split
        · exact h
        · split
          · exact h
          · rename_i hlimit
            split
            · exact h
            · rename_i key hkey
              split
              · exact h
              · rename_i hnew
                refine sole_moveTo (fun other _ => halone other) (fun key' request' heq => ?_)
                  fun key' request' mec heq => (by cases heq)
                cases heq
                exact ⟨Nat.not_le.mp hlimit, Bool.not_eq_true _ ▸ hnew⟩
      · exact h
  | choose thread env =>
      show (s.choose thread env).Sole
      unfold choose
      split
      · rename_i key request hpoint
        have hidle := h.alone thread (by rw [hpoint]; simp)
        have hgone : (s.moveTo thread .idle).Sole :=
          sole_moveTo hidle (fun _ _ heq => (by cases heq)) fun _ _ _ heq => (by cases heq)
        dsimp only
        split
        · rename_i happroved
          split
          · refine sole_moveTo hidle (fun _ _ heq => (by cases heq)) fun key' request' mec heq => ?_
            cases heq
            obtain ⟨hlimit, hnew⟩ := h.checked thread key request hpoint
            exact ⟨hlimit, hnew, (s.om.autoApproveStrategy_approved happroved).2⟩
          · exact ⟨hgone.alone, hgone.checked, hgone.chosen⟩
        · exact hgone
      · exact h
  | insert thread now =>
      show (s.insert thread now).Sole
      unfold insert
      split
      · rename_i key request mec hpoint
        have hidle := h.alone thread (by rw [hpoint]; simp)
        -- nobody is on the way any more
        have hall : ∀ other, (s.moveTo thread .idle).points other = .idle := by
          intro other
          by_cases hne : other = thread
          · rw [hne]
            exact s.points_moveTo_self thread _
          · exact (s.points_moveTo_of_ne hne _).trans (hidle other hne)
        refine ⟨fun t ht => absurd (hall t) ht, fun t key' request' heq => ?_, fun t key' request' mec' heq => ?_⟩
        · exact absurd ((hall t).symm.trans heq) (by simp)
        · exact absurd ((hall t).symm.trans heq) (by simp)
      · exact h

/-- **Calls that do not overlap** are safe. -/
theorem safe_of_alone (tasks : List Nat) (limit : Nat) {mecs : List String} (h : "" ∉ mecs) {es : List DecisionEvent}
    (halone : Along step Alone (init tasks limit mecs) es) :
    ∀ pre, pre <+: es → (run step (init tasks limit mecs) pre).Safe := by
  intro pre hpre
  have hstep : ∀ (s : DecisionThreads) (e : DecisionEvent), (s.Linked ∧ s.Safe ∧ s.Sole) → s.Alone e →
      ((s.step e).Linked ∧ (s.step e).Safe ∧ (s.step e).Sole) := by
    rintro s e ⟨hlinked, hsafe, hsole⟩ hone
    have hafter := (safe_step_iff hlinked hsafe e).mpr (hsole.checksStand e)
    exact ⟨linked_step e hlinked hsafe hafter, hafter, sole_step hsole hone⟩
  exact (run_invariant_on_the_way step hstep ⟨linked_init tasks limit h, safe_init tasks limit mecs,
    sole_init tasks limit mecs⟩ halone pre hpre).2.1

end DecisionThreads

end EdgeOffloading
