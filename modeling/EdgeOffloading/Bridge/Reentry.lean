import EdgeOffloading.Bridge.Addressing
import EdgeOffloading.Transport.Server

/-!
# The disconnect that does not return

`handle_mgwcp_disconnection` stops a connection while it holds `mgwcp_connections_mutex_`. The client is still connected
then, so that `MGWCPConnection::stop` disconnects it, and the callback of that waits for the mutex. The thread that
reports the first disconnect holds the mutex for ever, and every other thread that needs it waits from then on.

`BridgeProcess` is the Bridge with these threads.

* `returns_iff`: the handler returns exactly if the transport does not enter its callback again;
* `Stepped`, `step_stepped`: everything a step of the process can do;
* `Inv`: while the mutex is free the process is where a run of `Bridge.step` is;
* `closes_spec`: a disconnect that is reported leaves the map, the sessions and the table alone.
-/

namespace EdgeOffloading

/-- The thread that finds the connection of a client closed: that of the server, or that of the connection. -/
inductive Reporter where
  | server
  | connection
  deriving DecidableEq

structure ProcessInput where
  env : Env
  event : Event
  /-- Who reports, if the event is a disconnect. -/
  reporter : Reporter := .server

/-- The Bridge and its threads that wait for `mgwcp_connections_mutex_`. -/
structure BridgeProcess where
  bridge : Bridge
  /-- A thread holds the mutex and waits for it. -/
  mutexHeld : Bool := false
  serverBlocked : Bool := false
  omBlocked : Bool := false
  connectionBlocked : ClientId → Bool := fun _ => false
  /-- The clients whose disconnect has been reported and not been dealt with. -/
  closing : ClientId → Bool := fun _ => false

namespace Bridge

variable {b : Bridge}

/-- **The handler returns** exactly if the callback of the transport is not entered again while the handler stops the
connection of a client that has been closed. -/
theorem returns_iff {s : TcpServerTransport} (hlock : s.callbackLocks = true) (hfirst : s.reentered = false)
    (hclients : ∀ t, t ∈ b.serverClients ↔ s.isClientConnected t = true) {t : ClientId} {conn : MGWCPConnection}
    (hconn : b.mgwcpConnections t = some conn) :
    (b.handleMgwcpDisconnection t).2 = true ↔ ((s.closeClient t).disconnectClient t).reentered = false := by
  unfold handleMgwcpDisconnection
  rw [hconn]
  dsimp only
  split_ifs with ht
  · rw [(s.reentered_of_stop hlock ((hclients t).mp ht)).2]
    simp
  · have hnone : s.find t = none := by
      have hnot := mt (hclients t).mpr ht
      rwa [TcpServerTransport.isClientConnected, Bool.not_eq_true, Option.isSome_eq_false_iff,
        Option.isNone_iff_eq_none] at hnot
    have hclose : s.closeClient t = s := by
      rw [TcpServerTransport.closeClient, hnone]
    rw [TcpServerTransport.disconnectClient, hclose, hclose, hfirst]
    exact iff_of_true rfl rfl

theorem handleMgwcpDisconnection_unknown {t : ClientId} (hnone : b.mgwcpConnections t = none) :
    b.handleMgwcpDisconnection t = (b, true) := by
  unfold handleMgwcpDisconnection
  rw [hnone]

theorem handleMgwcpDisconnection_connected {t : ClientId} {conn : MGWCPConnection}
    (hconn : b.mgwcpConnections t = some conn) (ht : t ∈ b.serverClients) :
    b.handleMgwcpDisconnection t = (b.putConnection t { conn with running := false }, false) := by
  unfold handleMgwcpDisconnection
  rw [hconn]
  exact if_pos ht

end Bridge

namespace BridgeProcess

open Bridge

variable (p : BridgeProcess)

/-- The thread that reports the disconnect of `t` still runs. -/
def Reports (t : ClientId) : Reporter → Prop
  | .server => p.serverBlocked = false
  | .connection => p.connectionBlocked t = false ∧ (p.bridge.receiving t).isSome = true

instance (t : ClientId) (r : Reporter) : Decidable (p.Reports t r) := by
  cases r
  · exact inferInstanceAs (Decidable (_ = _))
  · exact inferInstanceAs (Decidable (_ ∧ _))

/-- The thread that reports the disconnect of `t` waits for the mutex. -/
def wait (t : ClientId) : Reporter → BridgeProcess
  | .server => { p with serverBlocked := true, closing := Function.update p.closing t true }
  | .connection =>
    { p with
      connectionBlocked := Function.update p.connectionBlocked t true
      closing := Function.update p.closing t true }

/-- The disconnect callback. -/
def disconnect (t : ClientId) (reporter : Reporter) : BridgeProcess :=
  if p.mutexHeld then p.wait t reporter
  else
    match p.bridge.handleMgwcpDisconnection t with
    | (b, true) => { p with bridge := { b with serverClients := b.serverClients.filter (· ≠ t) } }
    | (b, false) => { p with bridge := b, mutexHeld := true }.wait t reporter

/-- The connection whose first accepted message this is, and the id that it registers, if the registration callback has
to wait for the mutex. -/
def registration (t : ClientId) (message : Json) : Option (MGWCPConnection × String) :=
  if p.mutexHeld then
    match p.bridge.receiving t with
    | none => none
    | some conn =>
      match conn.receive message with
      | .accepted componentId _ _ _ => if conn.componentId = "" then some (conn, componentId) else none
      | _ => none
  else none

/-- The sessions and the table after an approval that has to wait for the mutex before it is forwarded. -/
def approval (message : Json) : Option (SessionManager × RoutingTable) :=
  if p.mutexHeld then
    match approvalTaken p.bridge message with
    | none => none
    | some (requestId, payload) =>
      let approved := p.bridge.approveSession requestId payload
      if (approved.1.getSession requestId).isSome then some approved else none
  else none

/-- A step in which nobody waits. -/
def onBridge (input : ProcessInput) : BridgeProcess × List Output :=
  let stepped := p.bridge.step input.env input.event
  ({ p with bridge := stepped.1 }, stepped.2)

def step (input : ProcessInput) : BridgeProcess × List Output :=
  if p.bridge.terminated then (p, [])
  else
    match input.event with
    | .connect t _ =>
      if p.serverBlocked then (p, [])
      else if p.mutexHeld then
        if t ∈ p.bridge.serverClients ∨ maxMgwcpConnections ≤ p.bridge.serverClients.length then (p, [])
        -- the client is accepted and its connection made, but it cannot be stored
        else
          ({ p with
            bridge := { p.bridge with
              serverClients := t :: p.bridge.serverClients
              nextMgwcpConnectionId := p.bridge.nextMgwcpConnectionId + 1 }
            serverBlocked := true }, [])
      else p.onBridge input
    | .message t message =>
      if p.connectionBlocked t then (p, [])
      else
        match p.registration t message with
        | none => p.onBridge input
        | some (conn, componentId) =>
          ({ p with
            bridge := p.bridge.putConnection t { conn with componentId := componentId }
            connectionBlocked := Function.update p.connectionBlocked t true }, [])
    | .receiveError t => if p.connectionBlocked t then (p, []) else p.onBridge input
    | .timeouts t => if p.connectionBlocked t then (p, []) else p.onBridge input
    | .disconnect t =>
      if t ∈ p.bridge.serverClients ∧ p.Reports t input.reporter then (p.disconnect t input.reporter, []) else (p, [])
    | .omMessage message =>
      if p.omBlocked then (p, [])
      else
        match p.approval message with
        | none => p.onBridge input
        | some approved =>
          ({ p with
            bridge := { p.bridge with sessionManager := approved.1, routingTable := approved.2 }
            omBlocked := true }, [])
    | .omLost => if p.omBlocked then (p, []) else p.onBridge input
    | .maintenance => p.onBridge input
    | .worker _ _ => p.onBridge input

/-- The state after one input of a run. -/
def next (p : BridgeProcess) (input : ProcessInput) : BridgeProcess := (p.step input).1

def init (globalConfig : GlobalConfig) : BridgeProcess := { bridge := Bridge.init globalConfig }

/-! ## What a step can do -/

/-- The disconnect of `t` is reported in this step. -/
structure Closes (p : BridgeProcess) (input : ProcessInput) (t : ClientId) : Prop where
  event : input.event = .disconnect t
  live : p.bridge.terminated = false
  client : t ∈ p.bridge.serverClients
  reports : p.Reports t input.reporter

/-- Connection `t` binds the id of its first message in this step, and waits for the mutex to register it. -/
structure BindsLate (p : BridgeProcess) (input : ProcessInput) (t : ClientId) (conn : MGWCPConnection)
    (componentId : String) : Prop where
  message : ∃ message, input.event = .message t message ∧ p.registration t message = some (conn, componentId)
  live : p.bridge.terminated = false
  runs : p.connectionBlocked t = false

/-- What a step can do. -/
inductive Stepped (p : BridgeProcess) (input : ProcessInput) : BridgeProcess → Prop
  | same : Stepped p input p
  | took (hconnect : ∀ t clientIp, input.event = .connect t clientIp → p.mutexHeld = false)
      (hdisconnect : ∀ t, input.event ≠ .disconnect t)
      (hbound : p.mutexHeld = true → ∀ t message conn c seqNum code payload, input.event = .message t message →
        p.bridge.receiving t = some conn → conn.receive message = .accepted c seqNum code payload →
          conn.componentId ≠ "") :
      Stepped p input { p with bridge := p.bridge.next (input.env, input.event) }
  | waited (t : ClientId) (hcloses : Closes p input t) (hheld : p.mutexHeld = true) :
      Stepped p input (p.wait t input.reporter)
  | stopped (t : ClientId) (conn : MGWCPConnection) (hcloses : Closes p input t) (hfree : p.mutexHeld = false)
      (hconn : p.bridge.mgwcpConnections t = some conn) :
      Stepped p input
        ({ p with bridge := p.bridge.putConnection t { conn with running := false }, mutexHeld := true }.wait t
          input.reporter)
  | unknown (t : ClientId) (hcloses : Closes p input t) (hnone : p.bridge.mgwcpConnections t = none) :
      Stepped p input
        { p with bridge := { p.bridge with serverClients := p.bridge.serverClients.filter (· ≠ t) } }
  | refused (t : ClientId) (clientIp : String) (hevent : input.event = .connect t clientIp)
      (hheld : p.mutexHeld = true) :
      Stepped p input
        { p with
          bridge := { p.bridge with
            serverClients := t :: p.bridge.serverClients
            nextMgwcpConnectionId := p.bridge.nextMgwcpConnectionId + 1 }
          serverBlocked := true }
  | bound (t : ClientId) (conn : MGWCPConnection) (componentId : String)
      (hlate : BindsLate p input t conn componentId) :
      Stepped p input
        { p with
          bridge := p.bridge.putConnection t { conn with componentId := componentId }
          connectionBlocked := Function.update p.connectionBlocked t true }
  | approved (message : Json) (hevent : input.event = .omMessage message) (hheld : p.mutexHeld = true)
      (requestId : String) (payload : Json) (htaken : approvalTaken p.bridge message = some (requestId, payload)) :
      Stepped p input
        { p with
          bridge := { p.bridge with
            sessionManager := (p.bridge.approveSession requestId payload).1
            routingTable := (p.bridge.approveSession requestId payload).2 }
          omBlocked := true }

variable {p} {input : ProcessInput} {t : ClientId} {conn : MGWCPConnection} {componentId : String}

theorem registration_eq_some {message : Json} :
    p.registration t message = some (conn, componentId) ↔
      p.mutexHeld = true ∧ p.bridge.receiving t = some conn ∧ conn.componentId = "" ∧
        ∃ seqNum code payload, conn.receive message = .accepted componentId seqNum code payload := by
  unfold registration
  constructor
  · intro h
    split_ifs at h with hheld
    split at h
    · cases h
    · rename_i conn' hrecv
      split at h
      · rename_i c seqNum code payload hmsg
        split_ifs at h with hid
        obtain ⟨rfl, rfl⟩ := Prod.mk.inj (Option.some.inj h)
        exact ⟨hheld, hrecv, hid, seqNum, code, payload, hmsg⟩
      · cases h
  · rintro ⟨hheld, hrecv, hid, seqNum, code, payload, hmsg⟩
    rw [if_pos hheld, hrecv]
    dsimp only
    rw [hmsg]
    exact if_pos hid

theorem registration_eq_none {message : Json} (h : p.registration t message = none) (hheld : p.mutexHeld = true)
    {seqNum : Nat} {code : Int} {payload : Json} (hrecv : p.bridge.receiving t = some conn)
    (hmsg : conn.receive message = .accepted componentId seqNum code payload) : conn.componentId ≠ "" := by
  intro hid
  rw [registration_eq_some.mpr ⟨hheld, hrecv, hid, seqNum, code, payload, hmsg⟩] at h
  cases h

theorem approval_eq_some {message : Json} {approved : SessionManager × RoutingTable}
    (h : p.approval message = some approved) :
    p.mutexHeld = true ∧ ∃ requestId payload, approvalTaken p.bridge message = some (requestId, payload) ∧
      approved = p.bridge.approveSession requestId payload := by
  unfold approval at h
  split_ifs at h with hheld
  split at h
  · cases h
  · rename_i requestId payload htaken
    dsimp only at h
    split_ifs at h
    exact ⟨hheld, requestId, payload, htaken, (Option.some.inj h).symm⟩

theorem step_of_closes (h : Closes p input t) : p.step input = (p.disconnect t input.reporter, []) := by
  unfold step
  rw [if_neg (by rw [h.live]; exact Bool.false_ne_true), h.event]
  exact if_pos ⟨h.client, h.reports⟩

theorem disconnect_stepped (h : Closes p input t) : Stepped p input (p.disconnect t input.reporter) := by
  unfold disconnect
  by_cases hheld : p.mutexHeld = true
  · rw [if_pos hheld]
    exact .waited t h hheld
  · rw [if_neg hheld]
    cases hconn : p.bridge.mgwcpConnections t with
    | none =>
        rw [handleMgwcpDisconnection_unknown hconn]
        exact .unknown t h hconn
    | some conn =>
        rw [handleMgwcpDisconnection_connected hconn h.client]
        exact .stopped t conn h (by simpa using hheld) hconn

/-- **Every step is one of these.** -/
theorem step_stepped (p : BridgeProcess) (input : ProcessInput) : Stepped p input (p.next input) := by
  have htook : (∀ t clientIp, input.event ≠ .connect t clientIp) → (∀ t, input.event ≠ .disconnect t) →
      (∀ t message, input.event ≠ .message t message) → Stepped p input (p.onBridge input).1 :=
    fun hconnect hdisconnect hmessage => .took (fun t clientIp h => absurd h (hconnect t clientIp)) hdisconnect
      fun _ t message _ _ _ _ _ h => absurd h (hmessage t message)
  unfold next step
  by_cases hterm : p.bridge.terminated = true
  · rw [if_pos hterm]
    exact .same
  · rw [if_neg hterm]
    cases hevent : input.event with
    | connect t clientIp =>
        dsimp only
        split_ifs with hblocked hheld hfull
        · exact .same
        · exact .same
        · exact .refused t clientIp hevent hheld
        · refine .took (fun _ _ _ => by simpa using hheld) (fun t h => ?_) fun h => absurd h hheld
          cases hevent.symm.trans h
    | message t message =>
        dsimp only
        split_ifs with hblocked
        · exact .same
        · cases hreg : p.registration t message with
          | none =>
              refine .took (fun t clientIp h => ?_) (fun t h => ?_)
                fun hheld t' message' conn c seqNum code payload h => ?_
              · cases hevent.symm.trans h
              · cases hevent.symm.trans h
              · cases hevent.symm.trans h
                exact registration_eq_none hreg hheld
          | some registered =>
              refine .bound t registered.1 registered.2 ⟨⟨message, hevent, hreg⟩, ?_, ?_⟩
              · simpa using hterm
              · simpa using hblocked
    | disconnect t =>
        dsimp only
        split_ifs with hreports
        · exact disconnect_stepped ⟨hevent, by simpa using hterm, hreports.1, hreports.2⟩
        · exact .same
    | omMessage message =>
        dsimp only
        split_ifs with hblocked
        · exact .same
        · cases happroval : p.approval message with
          | none => exact htook (by simp [hevent]) (by simp [hevent]) (by simp [hevent])
          | some approved =>
              obtain ⟨hheld, requestId, payload, htaken, rfl⟩ := approval_eq_some happroval
              exact .approved message hevent hheld requestId payload htaken
    | maintenance => exact htook (by simp [hevent]) (by simp [hevent]) (by simp [hevent])
    | worker c e => exact htook (by simp [hevent]) (by simp [hevent]) (by simp [hevent])
    | receiveError t =>
        dsimp only
        split_ifs
        · exact .same
        · exact htook (by simp [hevent]) (by simp [hevent]) (by simp [hevent])
    | timeouts t =>
        dsimp only
        split_ifs
        · exact .same
        · exact htook (by simp [hevent]) (by simp [hevent]) (by simp [hevent])
    | omLost =>
        dsimp only
        split_ifs
        · exact .same
        · exact htook (by simp [hevent]) (by simp [hevent]) (by simp [hevent])

/-! ## The invariant -/

@[simp] theorem wait_bridge (r : Reporter) : (p.wait t r).bridge = p.bridge := by cases r <;> rfl

@[simp] theorem wait_mutexHeld (r : Reporter) : (p.wait t r).mutexHeld = p.mutexHeld := by cases r <;> rfl

@[simp] theorem wait_closing (r : Reporter) : (p.wait t r).closing = Function.update p.closing t true := by
  cases r <;> rfl

/-- While the mutex is free no thread waits, and the Bridge is where a run of `Bridge.step` is; the map is sound all the
time. -/
structure Inv (p : BridgeProcess) : Prop where
  free : p.mutexHeld = false → p = { bridge := p.bridge } ∧ Reachable p.bridge
  sound : MapSound p.bridge

theorem inv_init (g : GlobalConfig) : Inv (init g) := ⟨fun _ => ⟨rfl, g, [], rfl⟩, mapSound_init g⟩

theorem Inv.wellFormed (h : Inv p) (hfree : p.mutexHeld = false) : Bridge.WellFormed p.bridge :=
  reachable_wellFormed (h.free hfree).2

theorem reachable_next {b : Bridge} (h : Reachable b) (input : Env × Event) : Reachable (b.next input) := by
  obtain ⟨g, inputs, rfl⟩ := h
  refine ⟨g, inputs ++ [input], ?_⟩
  rw [Run.run_append]
  rfl

theorem sameAddresses_took (hheld : p.mutexHeld = true)
    (hconnect : ∀ t clientIp, input.event = .connect t clientIp → p.mutexHeld = false)
    (hdisconnect : ∀ t, input.event ≠ .disconnect t)
    (hbound : p.mutexHeld = true → ∀ t message conn c seqNum code payload, input.event = .message t message →
      p.bridge.receiving t = some conn → conn.receive message = .accepted c seqNum code payload →
        conn.componentId ≠ "") : SameAddresses p.bridge (p.bridge.next (input.env, input.event)) := by
  refine Effect.sameAddresses (step_effect input.env input.event) (fun t clientIp h => ?_) hdisconnect (hbound hheld)
  cases hheld.symm.trans (hconnect t clientIp h)

theorem mapSound_bound {b : Bridge} (hmap : MapSound b) (hconn : b.mgwcpConnections t = some conn)
    (hid : conn.componentId = "") : MapSound (b.putConnection t { conn with componentId := componentId }) := by
  intro c t' ht'
  obtain ⟨hc, conn', hconn', hc'⟩ := hmap c t' ht'
  refine ⟨hc, conn', ?_, hc'⟩
  rw [putConnection_apply, if_neg, hconn']
  rintro rfl
  cases hconn.symm.trans hconn'
  exact hc (hc'.symm.trans hid)

theorem Inv.step (h : Inv p) (input : ProcessInput) : Inv (p.next input) := by
  have hstepped := step_stepped p input
  generalize p.next input = p' at hstepped ⊢
  cases hstepped with
  | same => exact h
  | took hconnect hdisconnect hbound =>
      constructor
      · intro hfree
        obtain ⟨heq, hreach⟩ := h.free hfree
        exact ⟨by rw [heq], reachable_next hreach _⟩
      · cases hheld : p.mutexHeld with
        | false => exact ((h.wellFormed hheld).addressEffect (step_effect input.env input.event)).mapSound h.sound
        | true => exact (sameAddresses_took hheld hconnect hdisconnect hbound).mapSound h.sound
  | waited t hcloses hheld =>
      refine ⟨fun hfree => ?_, by rw [wait_bridge]; exact h.sound⟩
      rw [wait_mutexHeld, hheld] at hfree
      cases hfree
  | stopped t conn hcloses hfree hconn =>
      refine ⟨fun hfree' => ?_, ?_⟩
      · rw [wait_mutexHeld] at hfree'
        cases hfree'
      · rw [wait_bridge]
        exact (sameAddresses_putConnection { conn with running := false } hconn rfl).mapSound h.sound
  | unknown t hcloses hnone =>
      refine ⟨fun hfree => ?_, h.sound⟩
      obtain ⟨conn, hconn⟩ := ((h.wellFormed hfree).connected t).mp hcloses.client
      cases hnone.symm.trans hconn
  | refused t clientIp hevent hheld =>
      refine ⟨fun hfree => ?_, h.sound⟩
      cases hheld.symm.trans hfree
  | bound t conn componentId hlate =>
      obtain ⟨message, -, hreg⟩ := hlate.message
      obtain ⟨hheld, hrecv, hid, -⟩ := registration_eq_some.mp hreg
      refine ⟨fun hfree => ?_, mapSound_bound h.sound (receiving_eq_some hrecv).2 hid⟩
      cases hheld.symm.trans hfree
  | approved message hevent hheld requestId payload htaken =>
      refine ⟨fun hfree => ?_, h.sound⟩
      cases hheld.symm.trans hfree

theorem inv_run (g : GlobalConfig) (inputs : List ProcessInput) : Inv (Run.run next (init g) inputs) :=
  Run.run_invariant_of_step next (fun _ input h => h.step input) inputs _ (inv_init g)

/-- **Until somebody disconnects** the process is where a run of `Bridge.step` is. -/
theorem reachable_of_free (g : GlobalConfig) (inputs : List ProcessInput)
    (h : (Run.run next (init g) inputs).mutexHeld = false) : Reachable (Run.run next (init g) inputs).bridge :=
  ((inv_run g inputs).free h).2

/-- **The mutex is never given back.** -/
theorem held_forever (h : p.mutexHeld = true) (inputs : List ProcessInput) :
    (Run.run next p inputs).mutexHeld = true := by
  refine Run.run_invariant_of_step next (I := fun p => p.mutexHeld = true) (fun p input h => ?_) inputs p h
  have hstepped := step_stepped p input
  generalize p.next input = p' at hstepped ⊢
  cases hstepped with
  | waited t hcloses hheld => rw [wait_mutexHeld, h]
  | stopped t conn hcloses hfree hconn => rw [wait_mutexHeld]
  | _ => exact h

/-! ## A disconnect -/

/-- What a disconnect does to the rest of the Bridge, whoever reports it: nothing but that the connection is stopped. -/
structure LeavesRest (p p' : BridgeProcess) (t : ClientId) : Prop where
  map : p'.bridge.componentIdToTransportId = p.bridge.componentIdToTransportId
  sessions : p'.bridge.sessionManager = p.bridge.sessionManager
  table : p'.bridge.routingTable = p.bridge.routingTable
  ids : ∀ t', p'.bridge.idOf t' = p.bridge.idOf t'
  closing : p'.closing = Function.update p.closing t true
  held : p'.mutexHeld = true

/-- **A disconnect that is reported** takes the mutex or waits for it, and goes no further. -/
theorem closes_spec (h : Inv p) (hcloses : Closes p input t) : LeavesRest p (p.next input) t := by
  unfold next
  rw [step_of_closes hcloses]
  dsimp only
  unfold disconnect
  cases hheld : p.mutexHeld with
  | true =>
      rw [if_pos rfl]
      exact ⟨by rw [wait_bridge], by rw [wait_bridge], by rw [wait_bridge], fun t' => by rw [wait_bridge],
        wait_closing _, by rw [wait_mutexHeld, hheld]⟩
  | false =>
      obtain ⟨conn, hconn⟩ := ((h.wellFormed hheld).connected t).mp hcloses.client
      rw [if_neg Bool.false_ne_true, handleMgwcpDisconnection_connected hconn hcloses.client]
      have hsame := sameAddresses_putConnection { conn with running := false } hconn rfl
      exact ⟨by rw [wait_bridge]; rfl, by rw [wait_bridge]; rfl, by rw [wait_bridge]; rfl,
        fun t' => by rw [wait_bridge]; exact hsame.ids t', wait_closing _, by rw [wait_mutexHeld]⟩

end BridgeProcess

end EdgeOffloading
