import EdgeOffloading.Lib.Allocation
import EdgeOffloading.Lib.Run
import EdgeOffloading.Manager.Decision

/-!
# One session on a MEC

The sessions and `mec_assignments` are two views of one allocation. Decisions and failures keep them together. An update
of the MECs forgets the assignment of a MEC that has gone, not its session: when the MEC comes back it is free again.

* `OneSession`: no two sessions on one MEC, and every assignment is the one of the session;
* `oneSession_step_iff`: an update breaks this iff it brings back a MEC whose session is still there, and no other step
  does;
* `oneSession_iff_noReturn`: so in every state of a run.
-/

namespace EdgeOffloading

open Allocation Run

/-- The calls of the decision engine; a VHC has an id. -/
inductive EngineEvent where
  | decision (requestId taskId : Json) (vhc : { v : Json // v ≠ .null }) (env : ManagerEnv)
  | failure (requestId : Json)
  | update (mecs : List String)

theorem str_ne_null (s : String) : Json.str s ≠ .null := by simp

namespace OffloadingManager

variable (om : OffloadingManager)

/-- The engine after `__init__`. -/
def init (availableTasks : List Nat) (maxConcurrentSessions : Nat) : OffloadingManager :=
  { availableTasks := availableTasks, maxConcurrentSessions := maxConcurrentSessions }

def engineStep : EngineEvent → OffloadingManager
  | .decision requestId taskId vhc env => (om.makeDecision requestId taskId vhc env).1
  | .failure requestId => om.handleSessionFailure requestId
  | .update mecs => om.updateAvailableMecs mecs

/-- The MEC of a session. -/
def mecOf (session : PyKey × SessionInfo) : String := session.2.assignedMecId

/-- The VHC of the session on a MEC, `null` if there is none. -/
def vhcOn (mec : String) : Json :=
  match holder mecOf om.activeSessions mec with
  | none => .null
  | some session => session.2.mgwcpComponentId

/-- A MEC serves one session, and its assignment says which. -/
structure OneSession : Prop where
  exclusive : Allocation.Exclusive mecOf om.activeSessions
  assigned : ∀ mec vhc, om.mecAssignments mec = some vhc → vhc = om.vhcOn mec

/-- What no step of the engine breaks. -/
structure Tracked : Prop where
  keys : (om.activeSessions.map Prod.fst).Nodup
  named : ∀ session ∈ om.activeSessions, mecOf session ≠ "" ∧ session.2.mgwcpComponentId ≠ .null
  known : ∀ mec ∈ om.availableMecs, (om.mecAssignments mec).isSome

/-- No MEC comes back while a session that lost its assignment is still on it. -/
def NoReturn : EngineEvent → Prop
  | .update mecs => ∀ session ∈ om.activeSessions, mecOf session ∈ mecs → (om.mecAssignments (mecOf session)).isSome
  | _ => True

variable {om}

theorem vhcOn_of_free {mec : String} (h : holder mecOf om.activeSessions mec = none) : om.vhcOn mec = .null := by
  rw [vhcOn, h]

theorem Tracked.free_of_vhcOn (h : om.Tracked) {mec : String} (hnull : om.vhcOn mec = .null) :
    holder mecOf om.activeSessions mec = none := by
  unfold vhcOn at hnull
  split at hnull
  · assumption
  · rename_i session hholder
    exact absurd hnull (h.named session (mem_of_holder hholder).1).2

theorem isFree_iff {mec : String} (hknown : (om.mecAssignments mec).isSome = true) :
    om.isFree mec = true ↔ om.mecAssignments mec = some .null := by
  obtain ⟨vhc, hvhc⟩ := Option.isSome_iff_exists.mp hknown
  rw [isFree, hvhc]
  cases vhc <;> simp

theorem handleSessionFailure_cases (requestId : Json) :
    om.handleSessionFailure requestId = om ∨
      ∃ session ∈ om.activeSessions, pyKey requestId = some session.1 ∧
        (om.handleSessionFailure requestId).activeSessions =
          om.activeSessions.filter (fun other => other.1 ≠ session.1) ∧
        (om.handleSessionFailure requestId).availableMecs = om.availableMecs ∧
        (om.handleSessionFailure requestId).mecAssignments =
          if mecOf session ≠ "" ∧ (om.mecAssignments (mecOf session)).isSome then
            Function.update om.mecAssignments (mecOf session) (some .null)
          else om.mecAssignments := by
  unfold handleSessionFailure
  split
  · exact .inl rfl
  · rename_i key session hfound
    refine .inr ⟨(key, session), List.mem_of_find?_eq_some hfound, ?_, rfl, rfl, rfl⟩
    simpa using List.find?_some hfound

/-! ## Steps -/

theorem tracked_init (tasks : List Nat) (limit : Nat) : (init tasks limit).Tracked :=
  ⟨List.nodup_nil, fun _ h => absurd h List.not_mem_nil, fun _ h => absurd h List.not_mem_nil⟩

theorem oneSession_init (tasks : List Nat) (limit : Nat) : (init tasks limit).OneSession :=
  ⟨List.nodup_nil, fun _ _ h => by cases h⟩

theorem tracked_step (h : om.Tracked) (e : EngineEvent) : (om.engineStep e).Tracked := by
  cases e with
  | decision requestId taskId vhc env =>
      show (om.makeDecision requestId taskId vhc env).1.Tracked
      rcases om.makeDecision_cases requestId taskId vhc env with hsame | ⟨key, mec, -, hnew, -, -, -, hmec, heq, -⟩
      · rw [hsame]
        exact h
      · rw [heq]
        refine ⟨?_, ?_, ?_⟩
        · have hfresh : key ∉ om.activeSessions.map Prod.fst := isActive_eq_false_iff.mp hnew
          exact exclusive_append_iff.mpr ⟨hfresh, h.keys⟩
        · intro session hsession
          rcases List.mem_append.mp hsession with hold | hlast
          · exact h.named session hold
          · rw [List.mem_singleton.mp hlast]
            exact ⟨hmec, vhc.2⟩
        · intro m hm
          show (Function.update om.mecAssignments mec (some vhc.1) m).isSome = true
          rw [Function.update_apply]
          split
          · rfl
          · exact h.known m hm
  | failure requestId =>
      show (om.handleSessionFailure requestId).Tracked
      rcases om.handleSessionFailure_cases requestId with hsame | ⟨session, -, -, hactive, hmecs, hassign⟩
      · rw [hsame]
        exact h
      · refine ⟨?_, ?_, ?_⟩
        · rw [hactive]
          exact h.keys.sublist (List.filter_sublist.map _)
        · rw [hactive]
          exact fun other hother => h.named other (List.mem_filter.mp hother).1
        · rw [hmecs, hassign]
          intro m hm
          split
          · rw [Function.update_apply]
            split
            · rfl
            · exact h.known m hm
          · exact h.known m hm
  | update mecs =>
      refine ⟨h.keys, h.named, fun mec hmec => ?_⟩
      have hmec' : mec ∈ mecs := hmec
      show (if mec ∈ mecs then some _ else _).isSome = true
      rw [if_pos hmec']
      rfl

theorem vhcOn_track_self {key : PyKey} {session : SessionInfo}
    (hfree : holder mecOf om.activeSessions session.assignedMecId = none) :
    (om.track key session).vhcOn session.assignedMecId = session.mgwcpComponentId := by
  have hself : holder mecOf (om.track key session).activeSessions session.assignedMecId = some (key, session) :=
    holder_append_self hfree
  rw [vhcOn, hself]

theorem vhcOn_track_of_ne (key : PyKey) {session : SessionInfo} {mec : String} (hne : session.assignedMecId ≠ mec) :
    (om.track key session).vhcOn mec = om.vhcOn mec := by
  have hother : holder mecOf (om.track key session).activeSessions mec = holder mecOf om.activeSessions mec :=
    holder_append_of_ne hne
  rw [vhcOn, hother, vhcOn]

theorem OneSession.track (hone : om.OneSession) {key : PyKey} {session : SessionInfo}
    (hfree : holder mecOf om.activeSessions session.assignedMecId = none) : (om.track key session).OneSession := by
  refine ⟨hone.exclusive.append_of_free hfree, fun mec vhc hvhc => ?_⟩
  have hvhc' : Function.update om.mecAssignments session.assignedMecId (some session.mgwcpComponentId) mec = some vhc :=
    hvhc
  by_cases hmec : session.assignedMecId = mec
  · subst hmec
    rw [Function.update_self] at hvhc'
    cases hvhc'
    exact (vhcOn_track_self hfree).symm
  · rw [Function.update_of_ne (Ne.symm hmec)] at hvhc'
    rw [vhcOn_track_of_ne key hmec]
    exact hone.assigned mec vhc hvhc'

theorem oneSession_decision (h : om.Tracked) (hone : om.OneSession) (requestId taskId vhc : Json) (env : ManagerEnv) :
    (om.makeDecision requestId taskId vhc env).1.OneSession := by
  rcases om.makeDecision_cases requestId taskId vhc env with hsame | ⟨key, mec, -, -, -, hmem, hfree, -, heq, -⟩
  · rw [hsame]
    exact hone
  · rw [heq]
    have hnull := (isFree_iff (h.known mec hmem)).mp hfree
    exact hone.track (h.free_of_vhcOn (hone.assigned mec _ hnull).symm)

theorem oneSession_failure (h : om.Tracked) (hone : om.OneSession) (requestId : Json) :
    (om.handleSessionFailure requestId).OneSession := by
  rcases om.handleSessionFailure_cases requestId with hsame | ⟨session, hsession, -, hactive, -, hassign⟩
  · rw [hsame]
    exact hone
  · have hgone : ∀ other ∈ om.activeSessions, mecOf other = mecOf session → decide (other.1 ≠ session.1) = false := by
      intro other hother hmec
      rw [hone.exclusive.eq_of_res_eq hother hsession hmec]
      simp
    have hkept : ∀ mec, mec ≠ mecOf session →
        ∀ other ∈ om.activeSessions, mecOf other = mec → decide (other.1 ≠ session.1) = true := by
      intro mec hne other hother hmec
      refine decide_eq_true fun hkey => hne ?_
      rw [← hmec, List.inj_on_of_nodup_map h.keys hother hsession hkey]
    refine ⟨?_, fun mec vhc hvhc => ?_⟩
    · rw [hactive]
      exact hone.exclusive.filter _
    · rw [hassign] at hvhc
      unfold vhcOn
      rw [hactive]
      by_cases hmec : mec = mecOf session
      · rw [holder_filter_dropped (hmec ▸ hgone)]
        by_cases hsome : (om.mecAssignments (mecOf session)).isSome = true
        · rw [if_pos ⟨(h.named session hsession).1, hsome⟩, hmec, Function.update_self] at hvhc
          exact (Option.some.inj hvhc).symm
        · rw [if_neg (fun hand => hsome hand.2), hmec] at hvhc
          rw [hvhc] at hsome
          exact absurd rfl hsome
      · rw [hone.exclusive.holder_filter (hkept mec hmec)]
        refine hone.assigned mec vhc ?_
        split at hvhc
        · rwa [Function.update_of_ne hmec] at hvhc
        · exact hvhc

theorem oneSession_update_iff (h : om.Tracked) (hone : om.OneSession) (mecs : List String) :
    (om.updateAvailableMecs mecs).OneSession ↔ om.NoReturn (.update mecs) := by
  constructor
  · intro hafter session hsession hmec
    by_contra hnone
    rw [Option.not_isSome_iff_eq_none] at hnone
    -- the MEC is free again
    have hnull : (om.updateAvailableMecs mecs).mecAssignments (mecOf session) = some .null := by
      show (if mecOf session ∈ mecs then some ((om.mecAssignments (mecOf session)).getD .null) else _) = _
      rw [if_pos hmec, hnone]
      rfl
    have hvhc : Json.null = om.vhcOn (mecOf session) := hafter.assigned _ _ hnull
    have hfree := h.free_of_vhcOn hvhc.symm
    rw [hone.exclusive.holder_of_mem hsession] at hfree
    cases hfree
  · intro hback
    refine ⟨hone.exclusive, fun mec vhc hvhc => ?_⟩
    show vhc = om.vhcOn mec
    have hvhc' : (if mec ∈ mecs then some ((om.mecAssignments mec).getD .null)
        else if mec ∈ om.availableMecs then none else om.mecAssignments mec) = some vhc := hvhc
    split at hvhc'
    · rename_i hmem
      cases hassigned : om.mecAssignments mec with
      | some vhc' =>
          rw [hassigned] at hvhc'
          cases hvhc'
          exact hone.assigned mec _ hassigned
      | none =>
          rw [hassigned] at hvhc'
          cases hvhc'
          refine (vhcOn_of_free (holder_eq_none_iff.mpr fun session hsession hmec => ?_)).symm
          have hsome := hback session hsession (hmec ▸ hmem)
          rw [hmec, hassigned] at hsome
          cases hsome
    · split at hvhc'
      · cases hvhc'
      · exact hone.assigned mec vhc hvhc'

/-- **When a step keeps one session on a MEC**: exactly when it brings back no MEC whose session is still there. -/
theorem oneSession_step_iff (e : EngineEvent) (h : om.Tracked) (hone : om.OneSession) :
    (om.engineStep e).OneSession ↔ om.NoReturn e := by
  cases e with
  | decision requestId taskId vhc env => exact ⟨fun _ => trivial, fun _ => oneSession_decision h hone _ _ _ env⟩
  | failure requestId => exact ⟨fun _ => trivial, fun _ => oneSession_failure h hone requestId⟩
  | update mecs => exact oneSession_update_iff h hone mecs

/-- **One session on a MEC in every state of a run**, iff no MEC comes back to a session that is still there. -/
theorem oneSession_iff_noReturn (tasks : List Nat) (limit : Nat) (es : List EngineEvent) :
    (∀ pre, pre <+: es → (run engineStep (init tasks limit) pre).OneSession) ↔
      Along engineStep NoReturn (init tasks limit) es :=
  forall_prefix_iff_along engineStep (fun _ e hom => tracked_step hom e)
    (fun _ e hom hone => oneSession_step_iff e hom hone) es _ (tracked_init tasks limit) (oneSession_init tasks limit)

/-- The MEC disappears and comes back while its first session is active. -/
def returningMec : List EngineEvent :=
  let env : ManagerEnv := ⟨0, 0, fun _ => ""⟩
  [.update ["20:1"], .decision (.int 1) (.int 0) ⟨.str "10:1", str_ne_null _⟩ env, .update [], .update ["20:1"],
    .decision (.int 2) (.int 0) ⟨.str "10:2", str_ne_null _⟩ env]

theorem returningMec_two_sessions :
    (run engineStep (init [0] 10) returningMec).activeSessions.map mecOf = ["20:1", "20:1"] ∧
      ¬ (run engineStep (init [0] 10) returningMec).OneSession := by
  have htwice : (run engineStep (init [0] 10) returningMec).activeSessions.map mecOf = ["20:1", "20:1"] := by
    decide +kernel
  refine ⟨htwice, fun h => ?_⟩
  have hnodup := h.exclusive
  rw [Allocation.Exclusive, htwice] at hnodup
  exact absurd hnodup (by decide)

end OffloadingManager

end EdgeOffloading
