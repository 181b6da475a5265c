import EdgeOffloading.Bridge.Addressing

/-!
# The endpoint behind DP_CONNECTION_CONFIRMED

A gateway reports its data plane with DP_INFO and is sent DP_CONNECTION_CONFIRMED once a handler for its component id
exists. Handlers outlive connections and are found by component id alone.

* `confirmed_endpoint_iff`: the handler behind a confirmation targets the reported endpoint and still works iff the
  component had no handler before, or one that already did;
* `confirmed_endpoint_iff_along`: so it is for every confirmation of a run.
-/

namespace EdgeOffloading.Bridge

variable {b : Bridge}

/-- The endpoint that DP_INFO asks for; `0.0.0.0` stands for the address the gateway connected from. -/
def reportedHost (clientIp dpHost : String) : String := if dpHost = "0.0.0.0" then clientIp else dpHost

/-- The handler targets this endpoint and its worker has not given up. -/
structure Serves (handler : TransportHandler) (host : String) (port : Int) : Prop where
  host : handler.targetIp = host
  port : handler.targetPort = port
  working : handler.gaveUp = false

theorem reliableMessages_append (os os' : List Output) :
    reliableMessages (os ++ os') = reliableMessages os ++ reliableMessages os' :=
  List.filterMap_append

theorem reliableMessages_sendAck (t : ClientId) (c : String) (n : Nat) (env : Env) :
    reliableMessages (b.sendAck t c n env) = [] := by
  unfold sendAck
  split_ifs <;> rfl

theorem mem_reliableMessages {outputs : List Output} {t : ClientId} {message : Json} :
    (t, message) ∈ reliableMessages outputs ↔ Output.reliable t message ∈ outputs := by
  simp only [reliableMessages, List.mem_filterMap]
  constructor
  · rintro ⟨o, ho, heq⟩
    cases o with
    | reliable t' message' => cases heq; exact ho
    | _ => cases heq
  · intro h
    exact ⟨_, h, rfl⟩

theorem handleDpInfo_confirms {t : ClientId} {conn : MGWCPConnection} {payload : Json} {env : Env} {host : String}
    {port : Int} (hhost : (payload.get "dp_host").asString = some host)
    (hport : (payload.get "dp_port").asInt = some port)
    {message : Json} (h : Output.reliable t message ∈ (b.handleDpInfo t conn payload env).2) :
    ∃ b', b.createTransportHandlerForMgwdp conn.componentId (reportedHost conn.clientIp host) port = some (b', true) ∧
      (b.handleDpInfo t conn payload env).1.transportHandlers = b'.transportHandlers := by
  unfold handleDpInfo establishMgwcpDataPlaneConnection at h ⊢
  rw [hhost, hport] at h ⊢
  by_cases hstate : conn.state ≠ .connecting
  · rw [if_pos hstate] at h; cases h
  · rw [if_neg hstate] at h ⊢
    by_cases hcont : (!payload.contains "dp_host" || !payload.contains "dp_port") = true
    · rw [if_pos hcont] at h; cases h
    · rw [if_neg hcont] at h ⊢
      dsimp only at h ⊢
      split at h
      · cases h
      · rename_i b' hb'
        exact ⟨b', hb', rfl⟩
      · cases h

theorem reliable_step_message_iff {t : ClientId} {conn : MGWCPConnection} {message payload m : Json} {c : String}
    {seqNum : Nat} {env : Env} (hlive : b.terminated = false) (hconn : b.receiving t = some conn)
    (hmsg : conn.receive message = .accepted c seqNum 103 payload) :
    Output.reliable t m ∈ (b.step env (.message t message)).2 ↔
      Output.reliable t m ∈
        ((b.identified t conn c).handleDpInfo t { conn with componentId := c } payload env).2 := by
  rw [step_message hlive hconn, handleReceivedMessage_accepted hmsg]
  dsimp only [dispatch]
  rw [if_pos rfl, ← mem_reliableMessages, reliableMessages_append, reliableMessages_sendAck, List.nil_append,
    mem_reliableMessages]

/-- A confirmation is for the reported endpoint iff the component's handler, if it had one already, targets that
endpoint and has not given up. -/
theorem confirmed_endpoint_iff {t : ClientId} {conn : MGWCPConnection} {message payload : Json} {c host : String}
    {seqNum : Nat} {port : Int} {env : Env} (hconn : b.receiving t = some conn)
    (hmsg : conn.receive message = .accepted c seqNum 103 payload)
    (hhost : (payload.get "dp_host").asString = some host) (hport : (payload.get "dp_port").asInt = some port)
    (hsent : Output.reliable t dpConnectionConfirmedMessage ∈ (b.step env (.message t message)).2) :
    (∃ handler, (b.step env (.message t message)).1.transportHandlers c = some handler ∧
        Serves handler (reportedHost conn.clientIp host) port) ↔
      ∀ handler, b.transportHandlers c = some handler → Serves handler (reportedHost conn.clientIp host) port := by
  have hlive : b.terminated = false := by
    by_contra hterm
    rw [step_terminated (by simpa using hterm)] at hsent
    cases hsent
  rw [reliable_step_message_iff hlive hconn hmsg] at hsent
  rw [step_message hlive hconn, handleReceivedMessage_accepted hmsg]
  dsimp only [dispatch]
  rw [if_pos rfl]
  obtain ⟨-, hhandlers, -⟩ := b.identified_same t conn c
  obtain ⟨b', hb', heq⟩ := handleDpInfo_confirms (b := b.identified t conn c) hhost hport hsent
  rw [heq]
  rcases createTransportHandlerForMgwdp_cases hb' with ⟨h, handler, hh⟩ | ⟨handler, hnone, hcreate, h⟩
  · cases h
    rw [hhandlers] at hh ⊢
    dsimp only at hh
    rw [hh]
    simp
  · cases h
    rw [hhandlers] at hnone
    obtain ⟨-, hip, hp, hj, hr⟩ := create_inputQueue hcreate
    dsimp only at hnone
    refine ⟨fun _ handler' h' => ?_, fun _ => ⟨handler.start, by simp, hip, hp, ?_⟩⟩
    · rw [hnone] at h'; cases h'
    · unfold TransportHandler.gaveUp
      rw [hr]
      simp

theorem handleDpInfo_sends {t : ClientId} {conn : MGWCPConnection} {payload : Json} {env : Env} {host : String}
    {port : Int} {handler : TransportHandler} (hstate : conn.state = .connecting)
    (hhost : (payload.get "dp_host").asString = some host) (hport : (payload.get "dp_port").asInt = some port)
    (hh : b.transportHandlers conn.componentId = some handler) :
    Output.reliable t dpConnectionConfirmedMessage ∈ (b.handleDpInfo t conn payload env).2 := by
  have hfields := And.intro (Json.contains_of_asString hhost) (Json.contains_of_asInt hport)
  unfold handleDpInfo establishMgwcpDataPlaneConnection createTransportHandlerForMgwdp
  rw [if_neg (not_not.mpr hstate), if_neg (by rw [hfields.1, hfields.2]; decide), hhost, hport]
  dsimp only
  rw [hh]
  exact mem_sendReliableMessage b.senders t dpConnectionConfirmedMessage env

theorem connecting_of_confirmed {t : ClientId} {conn : MGWCPConnection} {payload message : Json} {env : Env}
    (h : Output.reliable t message ∈ (b.handleDpInfo t conn payload env).2) : conn.state = .connecting := by
  by_contra hstate
  unfold handleDpInfo at h
  rw [if_pos hstate] at h
  cases h

/-! ## Runs -/

/-- A confirmation that answers this input is for a working handler of the reported endpoint. -/
def ConfirmsEndpoint (b : Bridge) (input : Env × Event) : Prop :=
  match input.2 with
  | .message t message =>
    ∀ conn c seqNum payload host port, b.receiving t = some conn →
      conn.receive message = .accepted c seqNum 103 payload → (payload.get "dp_host").asString = some host →
      (payload.get "dp_port").asInt = some port →
      Output.reliable t dpConnectionConfirmedMessage ∈ (b.step input.1 input.2).2 →
      ∃ handler, (next b input).transportHandlers c = some handler ∧
        Serves handler (reportedHost conn.clientIp host) port
  | _ => True

/-- A component that reports its data plane on a new connection has no handler yet, or one that serves the endpoint. -/
def NewOrServing (b : Bridge) (input : Env × Event) : Prop :=
  match input.2 with
  | .message t message =>
    ∀ conn c seqNum payload host port, b.terminated = false → b.receiving t = some conn →
      conn.receive message = .accepted c seqNum 103 payload → conn.state = .connecting →
      (payload.get "dp_host").asString = some host → (payload.get "dp_port").asInt = some port →
      ∀ handler, b.transportHandlers c = some handler → Serves handler (reportedHost conn.clientIp host) port
  | _ => True

theorem confirmsEndpoint_iff (input : Env × Event) : ConfirmsEndpoint b input ↔ NewOrServing b input := by
  obtain ⟨env, e⟩ := input
  cases e with
  | message t message =>
      constructor
      · intro h conn c seqNum payload host port hlive hconn hmsg hstate hhost hport handler hh
        have hhandlers := (b.identified_same t conn c).2.1
        have hsent : Output.reliable t dpConnectionConfirmedMessage ∈ (b.step env (.message t message)).2 :=
          (reliable_step_message_iff hlive hconn hmsg).mpr
            (handleDpInfo_sends hstate hhost hport (by rw [hhandlers]; exact hh))
        have hserves := h conn c seqNum payload host port hconn hmsg hhost hport hsent
        exact (confirmed_endpoint_iff hconn hmsg hhost hport hsent).mp hserves handler hh
      · intro h conn c seqNum payload host port hconn hmsg hhost hport hsent
        have hlive : b.terminated = false := by
          by_contra hterm
          rw [step_terminated (by simpa using hterm)] at hsent
          cases hsent
        have hstate := connecting_of_confirmed ((reliable_step_message_iff hlive hconn hmsg).mp hsent)
        exact (confirmed_endpoint_iff hconn hmsg hhost hport hsent).mpr
          (h conn c seqNum payload host port hlive hconn hmsg hstate hhost hport)
  | _ => exact Iff.rfl

/-- **Every confirmation of a run is for the reported endpoint iff** every component that reports its data plane on a
new connection has no handler yet, or one that targets this endpoint and has not given up. -/
theorem confirmed_endpoint_iff_along (g : GlobalConfig) (inputs : List (Env × Event)) :
    (∀ pre input, pre ++ [input] <+: inputs → ConfirmsEndpoint (Run.run next (init g) pre) input) ↔
      Run.Along next NewOrServing (init g) inputs := by
  simp only [confirmsEndpoint_iff]
  exact (Run.along_iff_forall_step next).symm

/-- On its second connection the gateway reports another endpoint and is confirmed, while the handler stays with the
first one. -/
theorem not_confirmed_endpoint :
    ¬ ∀ (b : Bridge) (t : ClientId) (conn : MGWCPConnection) (message payload : Json) (c host : String) (seqNum : Nat)
      (port : Int) (env : Env), Reachable b → b.receiving t = some conn →
      conn.receive message = .accepted c seqNum 103 payload → (payload.get "dp_host").asString = some host →
      (payload.get "dp_port").asInt = some port →
      Output.reliable t dpConnectionConfirmedMessage ∈ (b.step env (.message t message)).2 →
      ∃ handler, (b.step env (.message t message)).1.transportHandlers c = some handler ∧
        Serves handler (reportedHost conn.clientIp host) port := by
  intro hall
  let b := Run.run next (init sampleConfig) (joins 4 "60:5" "10.0.0.5" ++ [atTime 1 (.connect 6 "10.0.0.9")])
  let message := Protocol.dpInfo "60:5" "0.0.0.0" 6001 1
  obtain ⟨handler, hh, hserves⟩ := hall b 6
    { connectionId := 2, clientIp := "10.0.0.9", running := true, threadAlive := true } message
    (.obj [("dp_host", .str "0.0.0.0"), ("dp_port", .int 6001)]) "60:5" "0.0.0.0" 1 6001 (allSent 2)
    ⟨sampleConfig, _, rfl⟩ rfl rfl rfl rfl (.tail _ (.head _))
  have hport : ∀ handler, (b.step (allSent 2) (.message 6 message)).1.transportHandlers "60:5" = some handler →
      handler.targetPort = 6000 := by decide +kernel
  have := hserves.port
  rw [hport handler hh] at this
  exact absurd this (by decide)

end EdgeOffloading.Bridge
