import EdgeOffloading.Bridge.Survival
import EdgeOffloading.Gateway.Survival

/-!
# Documents that arrive

The receive threads of the Bridge and of the gateways, in all their runs: no document ends one of them, or changes
anything that it should not, exactly if every document is digestible in the state in which it arrives.
-/

namespace EdgeOffloading

/-- **Every delivery of a run is survived** exactly if every delivered document is digestible. -/
theorem survives_iff_along (g : GlobalConfig) (inputs : List (Env × Event)) (componentType : ComponentType)
    (operationMode : OperationMode) (componentId : String) (dataPlaneListenPort : Int)
    (es : List GatewayProcess.Event) :
    ((∀ pre input, pre ++ [input] <+: inputs →
          Bridge.Survives (Run.run Bridge.deliver (Bridge.init g) pre) input) ↔
        Run.Along Bridge.deliver Bridge.Digestible (Bridge.init g) inputs) ∧
      ((∀ pre e, pre ++ [e] <+: es →
          GatewayProcess.Survives (Run.run GatewayProcess.deliver
            (GatewayProcess.initial componentType operationMode componentId dataPlaneListenPort) pre) e) ↔
        Run.Along GatewayProcess.deliver GatewayProcess.Digestible
          (GatewayProcess.initial componentType operationMode componentId dataPlaneListenPort) es) := by
  constructor
  · rw [Run.along_iff_forall_step]
    refine forall₂_congr fun pre input => imp_congr_right fun _ => ?_
    exact Bridge.survives_iff (Bridge.wellFormed_deliver_run g pre) input
  · rw [Run.along_iff_forall_step]
    refine forall₂_congr fun pre e => imp_congr_right fun _ => ?_
    exact GatewayProcess.survives_iff
      (GatewayProcess.sound_deliver_run componentType operationMode componentId dataPlaneListenPort pre).2 e

/-- A keepalive whose request id is an integer, as it is documented. -/
def integerKeepalive : Json :=
  Protocol.gatewayMessage "60:5" 101 "SESSION_KEEPALIVE" (.obj [("request_id", .int 1)]) 2

/-- A code that is a string. -/
def stringCode : Json :=
  .obj [("component_id", .str "15:10"), ("message_code", .str "200"), ("payload", .obj [])]

/-- The control thread of a networked gateway until its client has connected to the Bridge. -/
def connectingRun : List GatewayProcess.Event :=
  [.control {}, .control {}, .control {}, .control {}, .control {}, .discovered (some []), .control {}, .control {}]

/-- A documented keepalive ends the thread of its connection, and a code that is a string ends the Bridge and the
gateway. -/
theorem not_survives_conversion :
    Protocol.documented integerKeepalive = true ∧
      ¬ Bridge.Survives (Run.run Bridge.deliver (Bridge.init Bridge.sampleConfig) (Bridge.joins 4 "60:5" "10.0.0.5"))
          (Bridge.atTime 1 (.message 4 integerKeepalive)) ∧
        ¬ Bridge.Survives (Bridge.init Bridge.sampleConfig) (Bridge.atTime 1 (.omMessage stringCode)) ∧
          ¬ GatewayProcess.Survives
            (Run.run GatewayProcess.deliver (GatewayProcess.initial .vhc .networked "60:5" 7401) connectingRun)
            (.receive stringCode 1) := by
  refine ⟨by decide +kernel, fun h => ?_, fun h => ?_, fun h => ?_⟩
  · exact absurd (h (by decide +kernel) (by decide +kernel)).1 (by decide +kernel)
  · exact absurd (h rfl rfl).1 (by decide +kernel)
  · exact absurd (h (by decide +kernel) (by decide +kernel)).1 (by decide +kernel)

end EdgeOffloading
