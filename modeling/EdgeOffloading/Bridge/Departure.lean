import EdgeOffloading.Bridge.Reconnect

/-!
# The sessions of a gateway that leaves

A gateway is a party of a session as its VHC (`mgwcp_component_id`) or as its MEC (`assigned_mec_id`). The cleanup of
its sessions, `cleanup_sessions_for_mgwcp`, stands behind the call that does not return.

* `ended_iff`: one disconnect ends the sessions of the gateway exactly if there are none;
* `endsSessions_iff_along`: the same for all disconnects of a run.
-/

namespace EdgeOffloading.BridgeProcess

open Bridge

variable {p : BridgeProcess} {input : ProcessInput} {t : ClientId} {c : String}

/-- The disconnect of `t`, the one live connection of the gateway `c`, is reported. -/
structure Departs (p : BridgeProcess) (input : ProcessInput) (t : ClientId) (c : String) : Prop where
  closes : Closes p input t
  connection : ∃ conn, Live p t conn ∧ conn.componentId = c
  identified : c ≠ ""
  single : ∀ t' conn, Live p t' conn → conn.componentId = c → t' = t

/-- No session has `c` as a party any more, and the others are what they were. -/
structure Ended (c : String) (m m' : SessionManager) : Prop where
  gone : ∀ r s, m'.getSession r = some s → s.mgwcpComponentId ≠ c ∧ s.assignedMecId ≠ c
  kept : ∀ r s, s.mgwcpComponentId ≠ c → s.assignedMecId ≠ c → (m'.getSession r = some s ↔ m.getSession r = some s)

/-- `c` is neither the VHC nor the MEC of a session. -/
def PartyOfNone (m : SessionManager) (c : String) : Prop :=
  ∀ r s, m.getSession r = some s → s.mgwcpComponentId ≠ c ∧ s.assignedMecId ≠ c

/-- **One disconnect.** -/
theorem ended_iff (h : Inv p) (hdeparts : Departs p input t c) :
    Ended c p.bridge.sessionManager (p.next input).bridge.sessionManager ↔
      PartyOfNone p.bridge.sessionManager c := by
  rw [(closes_spec h hdeparts.closes).sessions]
  exact ⟨Ended.gone, fun hnone => ⟨hnone, fun _ _ _ _ => Iff.rfl⟩⟩

/-- A gateway that leaves in this step is a party of no session. -/
def LeavesNone (p : BridgeProcess) (input : ProcessInput) : Prop :=
  ∀ t c, Departs p input t c → PartyOfNone p.bridge.sessionManager c

/-- **No session outlives its endpoints** in a run exactly if every gateway that leaves is a party of no session. -/
theorem endsSessions_iff_along (g : GlobalConfig) (inputs : List ProcessInput) :
    (∀ pre input t c, pre ++ [input] <+: inputs → Departs (Run.run next (init g) pre) input t c →
        Ended c (Run.run next (init g) pre).bridge.sessionManager
          (Run.run next (init g) (pre ++ [input])).bridge.sessionManager) ↔
      Run.Along next LeavesNone (init g) inputs := by
  rw [Run.along_iff_forall_step]
  constructor
  · intro h pre input hpre t c hdeparts
    have hended := h pre input t c hpre hdeparts
    rw [Run.run_append] at hended
    exact (ended_iff (inv_run g pre) hdeparts).mp hended
  · intro h pre input t c hpre hdeparts
    rw [Run.run_append]
    exact (ended_iff (inv_run g pre) hdeparts).mpr (h pre input hpre t c hdeparts)

/-- A session of the gateway `60:5`, with the MEC `70:1`. -/
def sessionRun : List ProcessInput := sampleRun.map fun i => { env := i.1, event := i.2 }

/-- The end of the connection of `60:5`. -/
def departure : ProcessInput := { env := allSent 3, event := .disconnect 4 }

/-- The VHC of the sample run leaves, and its session stays. -/
theorem session_outlives_vhc :
    ∃ t c, Departs (Run.run next (init sampleConfig) sessionRun) departure t c ∧
      ¬ Ended c (Run.run next (init sampleConfig) sessionRun).bridge.sessionManager
        (Run.run next (init sampleConfig) (sessionRun ++ [departure])).bridge.sessionManager := by
  have hinv := inv_run sampleConfig sessionRun
  have hrun : (Run.run next (init sampleConfig) sessionRun).bridge.terminated = false ∧
      (Run.run next (init sampleConfig) sessionRun).bridge.serverClients = [5, 4] ∧
      (Run.run next (init sampleConfig) sessionRun).mutexHeld = false ∧
      (Run.run next (init sampleConfig) sessionRun).serverBlocked = false ∧
      (Run.run next (init sampleConfig) sessionRun).closing 4 = false ∧
      ((Run.run next (init sampleConfig) sessionRun).bridge.mgwcpConnections 4).map MGWCPConnection.componentId =
        some "60:5" ∧
      ((Run.run next (init sampleConfig) sessionRun).bridge.mgwcpConnections 5).map MGWCPConnection.componentId =
        some "70:1" ∧
      ((Run.run next (init sampleConfig) (sessionRun ++ [departure])).bridge.sessionManager.getSession "1").map
        ActiveSession.mgwcpComponentId = some "60:5" := by
    decide +kernel
  obtain ⟨hlive, hclients, hfree, hserver, hclosing, hid, hmec, hsession⟩ := hrun
  refine ⟨4, "60:5", ⟨⟨rfl, hlive, by rw [hclients]; decide, hserver⟩, ?_, by decide, ?_⟩, ?_⟩
  · obtain ⟨conn, hconn, hc⟩ := Option.map_eq_some_iff.mp hid
    exact ⟨conn, ⟨hconn, hclosing⟩, hc⟩
  · intro t' conn hconn hc
    have ht' : t' ∈ [5, 4] := by
      rw [← hclients]
      exact ((hinv.wellFormed hfree).connected t').mpr ⟨conn, hconn.stored⟩
    rcases List.mem_cons.mp ht' with rfl | ht'
    · rw [hconn.stored] at hmec
      exact absurd (hc.symm.trans (Option.some.inj hmec)) (by decide)
    · exact List.mem_singleton.mp ht'
  · intro hended
    obtain ⟨s, hs, hvhc⟩ := Option.map_eq_some_iff.mp hsession
    exact (hended.gone "1" s hs).1 hvhc

end EdgeOffloading.BridgeProcess
