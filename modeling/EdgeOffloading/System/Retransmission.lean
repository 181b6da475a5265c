import EdgeOffloading.Bridge.Copies
import EdgeOffloading.Manager.Decision

/-!
# Gateways, Bridge and Offloading Manager together

The Bridge, the OM and what the gateways have been told, joined by channels that keep the order of messages. A message
of a gateway reaches the Bridge once as an `event`, and as `again` every time the gateway's retry makes it arrive once
more. What the Bridge sends on such a copy is marked in the channels, so that a run can be compared with the run in
which the copies never arrived: `withoutCopies` drops them and the deliveries of what they caused.

The link to the OM is lost by an event of its own, not by a failing send.

* `SameOutcome`: the sessions, the routing table, the OM's sessions and the approvals known to the gateways agree;
* `sameOutcome_withoutCopies`: copies are harmless as long as no request is taken again.
-/

namespace EdgeOffloading

/-- What a gateway makes of a message of the Bridge: the requests it knows to be approved. -/
def gatewayReceives (approved : String → Bool) (message : Json) : String → Bool :=
  if !message.contains "message_code" || !message.contains "component_id" then approved
  else
    let payload := message.get "payload"
    if (message.get "message_code").asInt = some 200 then
      if !message.contains "payload" then approved
      else if !payload.contains "request_id" then Function.update approved "unknown" true
      else
        match Bridge.requestIdOf payload with
        | some requestId => Function.update approved requestId true
        | none => approved
    else if (message.get "message_code").asInt = some 201 then
      if payload.contains "request_id" && payload.contains "reason_description" then
        match (payload.get "reason_description").asString with
        | some _ => Function.update approved ((Bridge.requestIdOf payload).getD "") false
        | none => approved
      else approved
    else approved

/-- What of an output goes to the OM. -/
def Output.toOm : Output → Option Json
  | .om message => some message
  | _ => none

/-- What of an output reaches the gateway of a client. -/
def Output.toGateway (t : ClientId) : Output → Option Json
  | .sendTo t' message ok => if t' = t ∧ ok then some message else none
  | _ => none

/-- Messages in a channel are marked if a copy caused them. -/
structure System where
  bridge : Bridge
  om : OffloadingManager
  toOm : List (Json × Bool) := []
  toBridge : List Json := []
  toGateway : ClientId → List (Json × Bool) := fun _ => []
  /-- The requests each gateway knows to be approved. -/
  approved : ClientId → String → Bool := fun _ _ => false
  /-- The messages received on each connection, ACKs left out. -/
  received : ClientId → List Json := fun _ => []

namespace System

inductive Label where
  | event (env : Env) (e : Event)
  | again (env : Env) (t : ClientId) (message : Json)
  | omReceives (env : ManagerEnv)
  | bridgeReceives (env : Env)
  | gatewayReceives (t : ClientId)
  | teardown (t : ClientId) (requestId : String)
  | availableMecs (mecs : List String)

variable (s : System)

/-- The link to the OM is up or lost, but it does not drop messages. -/
def sending (env : Env) : Env := { env with omSendOk := true }

def transmit (result : Bridge × List Output) (again : Bool) : System :=
  { s with
    bridge := result.1
    toOm := s.toOm ++ (result.2.filterMap Output.toOm).map fun message => (message, again)
    toGateway := fun t =>
      s.toGateway t ++ (result.2.filterMap (Output.toGateway t)).map fun message => (message, again) }

/-- A new connection starts afresh, and a message is remembered with its connection. -/
def remember : Event → System
  | .connect t _ =>
    if t ∈ s.bridge.serverClients then s
    else
      { s with
        toGateway := Function.update s.toGateway t []
        approved := Function.update s.approved t fun _ => false
        received := Function.update s.received t [] }
  | .message t message =>
    if (message.get "message_code").asInt = some 900 then s
    else { s with received := Function.update s.received t (message :: s.received t) }
  | _ => s

def step (s : System) : Label → System
  -- the answers of the OM come over its channel
  | .event _ (.omMessage _) => s
  | .event env e => (s.remember e).transmit (s.bridge.step (sending env) e) false
  | .again env t message => s.transmit (s.bridge.step (sending env) (.message t message)) true
  | .omReceives env =>
    match s.toOm with
    | [] => s
    | (message, _) :: rest =>
      let processed := s.om.processMessage message env
      { s with om := processed.1, toOm := rest, toBridge := s.toBridge ++ processed.2 }
  | .bridgeReceives env =>
    match s.toBridge with
    | [] => s
    | message :: rest => { s with toBridge := rest }.transmit (s.bridge.step (sending env) (.omMessage message)) false
  | .gatewayReceives t =>
    match s.toGateway t with
    | [] => s
    | (message, _) :: rest =>
      { s with
        toGateway := Function.update s.toGateway t rest
        approved := Function.update s.approved t (EdgeOffloading.gatewayReceives (s.approved t) message) }
  | .teardown t requestId =>
    { s with approved := Function.update s.approved t (Function.update (s.approved t) requestId false) }
  | .availableMecs mecs => { s with om := s.om.updateAvailableMecs mecs }

def init (globalConfig : GlobalConfig) (om : OffloadingManager) : System where
  bridge := Bridge.init globalConfig
  om := om

/-! ## Copies -/

/-- A copy is of a message that its connection has received before. -/
def IsCopy (s : System) : Label → Prop
  | .again _ t message => message ∈ s.received t
  | _ => True

/-- No copy is a request that the Bridge takes again. -/
def NoRequestAgain (s : System) : Label → Prop
  | .again _ t message => ¬ Bridge.TakesRequest s.bridge t message
  | _ => True

/-- The copies, and the deliveries of what they caused. -/
def silent (s : System) : Label → Bool
  | .again _ _ _ => true
  | .omReceives _ => s.toOm.head?.any Prod.snd
  | .gatewayReceives t => (s.toGateway t).head?.any Prod.snd
  | _ => false

/-- The same run, with every message received once. -/
def withoutCopies (labels : List Label) : List Label := Run.erase step silent s labels

structure SameOutcome (s s' : System) : Prop where
  sessions : ∀ r, (s.bridge.sessionManager.getSession r).map ActiveSession.timeless =
    (s'.bridge.sessionManager.getSession r).map ActiveSession.timeless
  routingTable : s.bridge.routingTable = s'.bridge.routingTable
  activeSessions : OffloadingManager.timeless s.om.activeSessions = OffloadingManager.timeless s'.om.activeSessions
  approved : s.approved = s'.approved

/-! ## What a copy leaves behind -/

/-- Received messages are handled, and what copies caused is inert. -/
structure Inv : Prop where
  handled : s.bridge.terminated = false → ∀ t conn message, s.bridge.receiving t = some conn →
    message ∈ s.received t → Bridge.Handled conn message
  toOm : ∀ p ∈ s.toOm, p.2 = true → Bridge.InertOutput (.om p.1)
  toGateway : ∀ t, ∀ p ∈ s.toGateway t, p.2 = true → (p.1.get "message_code").asInt = some 900

theorem inv_init (g : GlobalConfig) (om : OffloadingManager) : Inv (init g om) where
  handled _ _ _ _ _ h := by cases h
  toOm _ h := by cases h
  toGateway _ _ h := by cases h

variable {s}

theorem mem_transmit_toOm {result : Bridge × List Output} {again : Bool} {p : Json × Bool}
    (h : p ∈ (s.transmit result again).toOm) : p ∈ s.toOm ∨ Output.om p.1 ∈ result.2 ∧ p.2 = again := by
  rcases List.mem_append.mp h with h | h
  · exact Or.inl h
  · obtain ⟨message, hm, rfl⟩ := List.mem_map.mp h
    obtain ⟨o, ho, hom⟩ := List.mem_filterMap.mp hm
    cases o with
    | om m => cases hom; exact Or.inr ⟨ho, rfl⟩
    | _ => cases hom

theorem mem_transmit_toGateway {result : Bridge × List Output} {again : Bool} {t : ClientId} {p : Json × Bool}
    (h : p ∈ (s.transmit result again).toGateway t) :
    p ∈ s.toGateway t ∨ (∃ ok, Output.sendTo t p.1 ok ∈ result.2) ∧ p.2 = again := by
  rcases List.mem_append.mp h with h | h
  · exact Or.inl h
  · obtain ⟨message, hm, rfl⟩ := List.mem_map.mp h
    obtain ⟨o, ho, hom⟩ := List.mem_filterMap.mp hm
    cases o with
    | sendTo t' m ok =>
        dsimp only [Output.toGateway] at hom
        split_ifs at hom with hcond
        cases hom
        obtain ⟨rfl, -⟩ := hcond
        exact Or.inr ⟨⟨ok, ho⟩, rfl⟩
    | _ => cases hom

theorem live_of_step {b : Bridge} {env : Env} {e : Event} (h : (b.step env e).1.terminated = false) :
    b.terminated = false := by
  cases hb : b.terminated with
  | false => rfl
  | true => rw [Bridge.step_terminated hb, hb] at h; cases h

theorem Inv.handled_step (h : Inv s) {env : Env} {e : Event} (hlive : (s.bridge.step env e).1.terminated = false)
    {t : ClientId} {conn' : MGWCPConnection} {message : Json}
    (hrecv : (s.bridge.step env e).1.receiving t = some conn') (hmem : message ∈ s.received t)
    (hnew : ∀ ip, e ≠ .connect t ip ∨ t ∈ s.bridge.serverClients) : Bridge.Handled conn' message := by
  rcases (Bridge.step_effect env e).advances t conn' hrecv with ⟨ip, he, ht⟩ | ⟨conn, hconn, hadv⟩
  · rcases hnew ip with hne | hin
    · exact absurd he hne
    · exact absurd hin ht
  · exact (h.handled (live_of_step hlive) t conn message hconn hmem).advance hadv

theorem remember_rest (e : Event) :
    (s.remember e).bridge = s.bridge ∧ (s.remember e).om = s.om ∧ (s.remember e).toOm = s.toOm ∧
      (s.remember e).toBridge = s.toBridge := by
  cases e with
  | connect t ip => dsimp only [remember]; split_ifs <;> exact ⟨rfl, rfl, rfl, rfl⟩
  | message t message => dsimp only [remember]; split_ifs <;> exact ⟨rfl, rfl, rfl, rfl⟩
  | _ => exact ⟨rfl, rfl, rfl, rfl⟩

theorem remember_toGateway_subset (e : Event) (t : ClientId) : (s.remember e).toGateway t ⊆ s.toGateway t := by
  cases e with
  | connect t' ip =>
      dsimp only [remember]
      split_ifs
      · exact List.Subset.refl _
      · dsimp only
        rw [Function.update_apply]
        split_ifs
        · exact List.nil_subset _
        · exact List.Subset.refl _
  | message t' message => dsimp only [remember]; split_ifs <;> exact List.Subset.refl _
  | _ => exact List.Subset.refl _

/-- A message is remembered from before, on a connection that is not new, or it is the one that arrives. -/
theorem mem_remember_received {e : Event} {t : ClientId} {message : Json} (h : message ∈ (s.remember e).received t) :
    (message ∈ s.received t ∧ ∀ ip, e ≠ .connect t ip ∨ t ∈ s.bridge.serverClients) ∨
      e = .message t message ∧ (message.get "message_code").asInt ≠ some 900 := by
  cases e with
  | connect t' ip =>
      dsimp only [remember] at h
      split_ifs at h with hin
      · by_cases ht : t = t'
        · subst ht
          exact Or.inl ⟨h, fun _ => Or.inr hin⟩
        · exact Or.inl ⟨h, fun _ => Or.inl fun heq => by cases heq; exact ht rfl⟩
      · dsimp only at h
        rw [Function.update_apply] at h
        split_ifs at h with ht
        · cases h
        · exact Or.inl ⟨h, fun _ => Or.inl fun heq => by cases heq; exact ht rfl⟩
  | message t' message' =>
      dsimp only [remember] at h
      split_ifs at h with hack
      · exact Or.inl ⟨h, fun _ => Or.inl fun heq => by cases heq⟩
      · dsimp only at h
        rw [Function.update_apply] at h
        split_ifs at h with ht
        · subst ht
          rcases List.mem_cons.mp h with rfl | h
          · exact Or.inr ⟨rfl, hack⟩
          · exact Or.inl ⟨h, fun _ => Or.inl fun heq => by cases heq⟩
        · exact Or.inl ⟨h, fun _ => Or.inl fun heq => by cases heq⟩
  | _ => exact Or.inl ⟨h, fun _ => Or.inl fun heq => by cases heq⟩

theorem Inv.event (h : Inv s) (env : Env) (e : Event) :
    Inv ((s.remember e).transmit (s.bridge.step env e) false) where
  handled hlive t conn' message hrecv hmem := by
    rcases mem_remember_received hmem with ⟨hold, hnew⟩ | ⟨rfl, hack⟩
    · exact h.handled_step hlive hrecv hold hnew
    · -- the message that has just arrived
      have hlive' := live_of_step hlive
      have hrecv' : (s.bridge.step env (.message t message)).1.receiving t = some conn' := hrecv
      rcases (Bridge.step_effect env (.message t message)).advances t conn' hrecv with ⟨ip, he, -⟩ | ⟨conn, hconn, -⟩
      · cases he
      · rw [Bridge.step_message hlive' hconn] at hrecv'
        exact Bridge.handled_handleReceivedMessage hconn hack hrecv'
  toOm p hp hagain := by
    rcases mem_transmit_toOm hp with hp | ⟨-, hfalse⟩
    · rw [(s.remember_rest e).2.2.1] at hp
      exact h.toOm p hp hagain
    · exact absurd (hagain.symm.trans hfalse) (by decide)
  toGateway t p hp hagain := by
    rcases mem_transmit_toGateway hp with hp | ⟨-, hfalse⟩
    · exact h.toGateway t p (s.remember_toGateway_subset e t hp) hagain
    · exact absurd (hagain.symm.trans hfalse) (by decide)

theorem Inv.again (h : Inv s) {env : Env} (hom : env.omSendOk = true) {t : ClientId} {message : Json}
    (hcopy : message ∈ s.received t) (hno : ¬ Bridge.TakesRequest s.bridge t message) :
    Bridge.Harmless s.bridge (s.bridge.step env (.message t message)) ∧
      Inv (s.transmit (s.bridge.step env (.message t message)) true) := by
  have hharmless : Bridge.Harmless s.bridge (s.bridge.step env (.message t message)) := by
    cases hlive : s.bridge.terminated with
    | true =>
        rw [Bridge.step_terminated hlive]
        exact Bridge.harmless_unchanged
    | false => exact Bridge.step_copy (fun conn hconn => h.handled hlive t conn message hconn hcopy) hno hom
  refine ⟨hharmless, ?_, ?_, ?_⟩
  · intro hlive t' conn' message' hrecv hmem
    exact h.handled_step hlive hrecv hmem fun _ => Or.inl fun heq => by cases heq
  · intro p hp hagain
    rcases mem_transmit_toOm hp with hp | ⟨hout, -⟩
    · exact h.toOm p hp hagain
    · exact hharmless.2 _ hout
  · intro t' p hp hagain
    rcases mem_transmit_toGateway hp with hp | ⟨⟨ok, hout⟩, -⟩
    · exact h.toGateway t' p hp hagain
    · exact hharmless.2 _ hout

theorem Inv.step (h : Inv s) {l : Label} (hcopy : IsCopy s l) (hno : NoRequestAgain s l) : Inv (s.step l) := by
  cases l with
  | event env e =>
      cases e with
      | omMessage message => exact h
      | _ => exact h.event (sending env) _
  | again env t message => exact (h.again rfl hcopy hno).2
  | omReceives env =>
      dsimp only [System.step]
      split
      · exact h
      · rename_i m again rest hq
        exact ⟨h.handled, fun p hp => h.toOm p (by rw [hq]; exact List.mem_cons_of_mem _ hp), h.toGateway⟩
  | bridgeReceives env =>
      dsimp only [System.step]
      split
      · exact h
      · rename_i m rest hq
        have h' : Inv { s with toBridge := rest } := ⟨h.handled, h.toOm, h.toGateway⟩
        exact h'.event (sending env) (.omMessage m)
  | gatewayReceives t =>
      dsimp only [System.step]
      split
      · exact h
      · rename_i m again rest hq
        refine ⟨h.handled, h.toOm, fun t' p hp => ?_⟩
        dsimp only at hp
        rw [Function.update_apply] at hp
        split_ifs at hp with ht
        · subst ht
          exact h.toGateway t' p (by rw [hq]; exact List.mem_cons_of_mem _ hp)
        · exact h.toGateway t' p hp
  | teardown t r => exact ⟨h.handled, h.toOm, h.toGateway⟩
  | availableMecs mecs => exact ⟨h.handled, h.toOm, h.toGateway⟩

/-! ## With and without copies -/

/-- The unmarked messages of a channel. -/
def unmarked (channel : List (Json × Bool)) : List (Json × Bool) := channel.filter fun p => !p.2

/-- A run and the run without its copies. -/
structure Rel (s s' : System) : Prop where
  bridge : s.bridge.forget = s'.bridge.forget
  om : s.om.forget = s'.om.forget
  toOm : s'.toOm = unmarked s.toOm
  toBridge : s.toBridge = s'.toBridge
  toGateway : ∀ t, s'.toGateway t = unmarked (s.toGateway t)
  approved : s.approved = s'.approved

theorem rel_init (g : GlobalConfig) (om : OffloadingManager) : Rel (init g om) (init g om) :=
  ⟨rfl, rfl, rfl, rfl, fun _ => rfl, rfl⟩

theorem Rel.sameOutcome {s' : System} (h : Rel s s') : SameOutcome s s' where
  sessions r := congrArg (fun b : Bridge => b.sessionManager.getSession r) h.bridge
  routingTable := by injection h.bridge
  activeSessions := congrArg OffloadingManager.activeSessions h.om
  approved := h.approved

theorem unmarked_append (channel channel' : List (Json × Bool)) :
    unmarked (channel ++ channel') = unmarked channel ++ unmarked channel' := List.filter_append _ _

theorem unmarked_map_false (messages : List Json) :
    unmarked (messages.map fun message => (message, false)) = messages.map fun message => (message, false) := by
  simp [unmarked, List.filter_eq_self]

theorem unmarked_map_true (messages : List Json) : unmarked (messages.map fun message => (message, true)) = [] := by
  simp [unmarked, List.filter_eq_nil_iff]

theorem unmarked_cons_true (message : Json) (rest : List (Json × Bool)) :
    unmarked ((message, true) :: rest) = unmarked rest := rfl

theorem unmarked_cons_false (message : Json) (rest : List (Json × Bool)) :
    unmarked ((message, false) :: rest) = (message, false) :: unmarked rest := rfl

theorem Rel.transmit {s' : System} (h : Rel s s') {r r' : Bridge × List Output} (hr : Bridge.SameResult r r') :
    Rel (s.transmit r false) (s'.transmit r' false) where
  bridge := hr.1
  om := h.om
  toOm := by
    dsimp only [System.transmit]
    rw [unmarked_append, unmarked_map_false, h.toOm, hr.2]
  toBridge := h.toBridge
  toGateway t := by
    dsimp only [System.transmit]
    rw [unmarked_append, unmarked_map_false, h.toGateway t, hr.2]
  approved := h.approved

theorem Rel.transmit_again {s' : System} (h : Rel s s') {r : Bridge × List Output} (hr : r.1.forget = s.bridge.forget) :
    Rel (s.transmit r true) s' where
  bridge := hr.trans h.bridge
  om := h.om
  toOm := by
    dsimp only [System.transmit]
    rw [unmarked_append, unmarked_map_true, List.append_nil, h.toOm]
  toBridge := h.toBridge
  toGateway t := by
    dsimp only [System.transmit]
    rw [unmarked_append, unmarked_map_true, List.append_nil, h.toGateway t]
  approved := h.approved

theorem Rel.remember {s' : System} (h : Rel s s') (e : Event) : Rel (s.remember e) (s'.remember e) := by
  cases e with
  | connect t ip =>
      have hclients : s.bridge.serverClients = s'.bridge.serverClients := by injection h.bridge
      dsimp only [System.remember]
      rw [hclients]
      split_ifs
      · exact h
      · refine ⟨h.bridge, h.om, h.toOm, h.toBridge, fun t' => ?_, ?_⟩
        · dsimp only
          rw [Function.update_apply, Function.update_apply]
          split_ifs
          · rfl
          · exact h.toGateway t'
        · exact congrArg (fun approved => Function.update approved t fun _ => false) h.approved
  | message t message =>
      dsimp only [System.remember]
      split_ifs
      · exact h
      · exact ⟨h.bridge, h.om, h.toOm, h.toBridge, h.toGateway, h.approved⟩
  | _ => exact h

theorem gatewayReceives_ack (approved : String → Bool) {message : Json}
    (h : (message.get "message_code").asInt = some 900) :
    EdgeOffloading.gatewayReceives approved message = approved := by
  unfold EdgeOffloading.gatewayReceives
  rw [h]
  split
  · rfl
  · rw [if_neg (by decide), if_neg (by decide)]

/-- A copy, or the delivery of what it caused, is not noticed. -/
theorem Rel.silent {s' : System} (h : Rel s s') (hinv : Inv s) {l : Label} (hcopy : IsCopy s l)
    (hno : NoRequestAgain s l) (hl : silent s l = true) : Rel (s.step l) s' := by
  cases l with
  | again env t message => exact h.transmit_again (hinv.again rfl hcopy hno).1.1
  | omReceives env =>
      dsimp only [System.step]
      cases hq : s.toOm with
      | nil => exact h
      | cons p rest =>
          obtain ⟨message, again⟩ := p
          have hagain : again = true := by simpa [System.silent, hq] using hl
          subst hagain
          obtain ⟨hrequest, hfailure⟩ := hinv.toOm (message, true) (by rw [hq]; exact List.mem_cons_self) rfl
          obtain ⟨hom, hanswer⟩ := s.om.forget_keepalive env hrequest hfailure
          refine ⟨h.bridge, hom.trans h.om, ?_, ?_, h.toGateway, h.approved⟩
          · rw [h.toOm, hq, unmarked_cons_true]
          · dsimp only
            rw [hanswer, List.append_nil]
            exact h.toBridge
  | gatewayReceives t =>
      dsimp only [System.step]
      cases hq : s.toGateway t with
      | nil => exact h
      | cons p rest =>
          obtain ⟨message, again⟩ := p
          have hagain : again = true := by simpa [System.silent, hq] using hl
          subst hagain
          have hack := hinv.toGateway t (message, true) (by rw [hq]; exact List.mem_cons_self) rfl
          refine ⟨h.bridge, h.om, h.toOm, h.toBridge, fun t' => ?_, ?_⟩
          · dsimp only
            rw [Function.update_apply]
            split_ifs with ht
            · subst ht
              rw [h.toGateway t', hq, unmarked_cons_true]
            · exact h.toGateway t'
          · dsimp only
            rw [gatewayReceives_ack _ hack, Function.update_eq_self, h.approved]
  | event env e => cases hl
  | bridgeReceives env => cases hl
  | teardown t r => cases hl
  | availableMecs mecs => cases hl

theorem Rel.step {s' : System} (h : Rel s s') {l : Label} (hl : System.silent s l = false) :
    Rel (s.step l) (s'.step l) := by
  cases l with
  | again env t message => cases hl
  | event env e =>
      cases e with
      | omMessage message => exact h
      | _ => exact (h.remember _).transmit (Bridge.sameResult_step h.bridge _ _)
  | omReceives env =>
      dsimp only [System.step]
      rw [h.toOm]
      cases hq : s.toOm with
      | nil => exact h
      | cons p rest =>
          obtain ⟨message, again⟩ := p
          have hagain : again = false := by simpa [System.silent, hq] using hl
          subst hagain
          rw [unmarked_cons_false]
          obtain ⟨hom, hanswer⟩ := s.om.forget_processMessage message env
          obtain ⟨hom', hanswer'⟩ := s'.om.forget_processMessage message env
          rw [h.om] at hom hanswer
          refine ⟨h.bridge, hom.symm.trans hom', rfl, ?_, h.toGateway, h.approved⟩
          dsimp only
          rw [h.toBridge, ← hanswer, hanswer']
  | bridgeReceives env =>
      dsimp only [System.step]
      rw [← h.toBridge]
      cases hq : s.toBridge with
      | nil => exact h
      | cons message rest =>
          have h' : Rel { s with toBridge := rest } { s' with toBridge := rest } :=
            ⟨h.bridge, h.om, h.toOm, rfl, h.toGateway, h.approved⟩
          exact h'.transmit (Bridge.sameResult_step h.bridge _ _)
  | gatewayReceives t =>
      dsimp only [System.step]
      rw [h.toGateway t]
      cases hq : s.toGateway t with
      | nil => exact h
      | cons p rest =>
          obtain ⟨message, again⟩ := p
          have hagain : again = false := by simpa [System.silent, hq] using hl
          subst hagain
          rw [unmarked_cons_false]
          refine ⟨h.bridge, h.om, h.toOm, h.toBridge, fun t' => ?_, ?_⟩
          · dsimp only
            rw [Function.update_apply, Function.update_apply]
            split_ifs
            · rfl
            · exact h.toGateway t'
          · dsimp only
            rw [h.approved]
  | teardown t r =>
      refine ⟨h.bridge, h.om, h.toOm, h.toBridge, h.toGateway, ?_⟩
      dsimp only [System.step]
      rw [h.approved]
  | availableMecs mecs =>
      refine ⟨h.bridge, ?_, h.toOm, h.toBridge, h.toGateway, h.approved⟩
      exact congrArg (fun om : OffloadingManager => om.updateAvailableMecs mecs) h.om

/-- What comes from outside the channels. -/
def Label.isInput : Label → Bool
  | .omReceives _ => false
  | .gatewayReceives _ => false
  | _ => true

def Label.isAgain : Label → Bool
  | .again _ _ _ => true
  | _ => false

/-- **Copies are harmless** in a run in which no request is taken again: the run without them, in which all other
inputs are the same, has the same outcome. -/
theorem sameOutcome_withoutCopies (g : GlobalConfig) (om : OffloadingManager) (labels : List Label)
    (h : Run.Along step (fun s l => IsCopy s l ∧ NoRequestAgain s l) (init g om) labels) :
    ((withoutCopies (init g om) labels).filter Label.isInput = labels.filter fun l => l.isInput && !l.isAgain) ∧
      SameOutcome (Run.run step (init g om) labels) (Run.run step (init g om) (withoutCopies (init g om) labels)) := by
  constructor
  · refine Run.filter_erase step silent Label.isInput (fun l => !l.isAgain) (fun s l hl => ?_) (init g om) labels
    cases l with
    | omReceives env => cases hl
    | gatewayReceives t => cases hl
    | _ => rfl
  · have hrel := Run.run_erase step silent (I := Inv) (C := fun s l => IsCopy s l ∧ NoRequestAgain s l) (R := Rel)
      (fun s l hs hl => hs.step hl.1 hl.2) (fun s s' l hs hl hsilent hR => hR.silent hs hl.1 hl.2 hsilent)
      (fun s s' l _ _ hsilent hR => hR.step hsilent) labels (init g om) (init g om) (inv_init g om) (rel_init g om) h
    exact hrel.sameOutcome

/-! ## A small system -/

def sampleManager : OffloadingManager where
  availableTasks := [7]
  maxConcurrentSessions := 100
  availableMecs := ["70:1"]

def sampleManagerEnv : ManagerEnv where
  now := 0
  choice := 0
  format
    | .int n => toString n
    | .str s => s
    | _ => ""

def sampleEvent (now : Nat) (e : Event) : Label := .event (Bridge.allSent now) e

def sampleRequest : Json := Protocol.offloadRequest "60:5" "1" 7 "string_test" "" 2

/-- A VHC and a MEC join, and the VHC's request is approved. -/
def sampleLabels : List Label :=
  [sampleEvent 0 (.connect 4 "10.0.0.5"), sampleEvent 0 (.message 4 (Protocol.dpInfo "60:5" "0.0.0.0" 6000 1)),
    sampleEvent 0 (.connect 5 "10.0.0.7"), sampleEvent 0 (.message 5 (Protocol.dpInfo "70:1" "0.0.0.0" 6000 1)),
    sampleEvent 1 (.message 4 sampleRequest), .omReceives sampleManagerEnv, .bridgeReceives (Bridge.allSent 2)]

/-- A keepalive that arrives twice. -/
theorem sameOutcome_keepalive_again :
    SameOutcome
      (Run.run step (init Bridge.sampleConfig sampleManager) (sampleLabels ++
        [sampleEvent 3 (.message 4 (Protocol.sessionKeepalive "60:5" "1" 3)),
          .again (Bridge.allSent 8) 4 (Protocol.sessionKeepalive "60:5" "1" 3)]))
      (Run.run step (init Bridge.sampleConfig sampleManager) (withoutCopies (init Bridge.sampleConfig sampleManager)
        (sampleLabels ++ [sampleEvent 3 (.message 4 (Protocol.sessionKeepalive "60:5" "1" 3)),
          .again (Bridge.allSent 8) 4 (Protocol.sessionKeepalive "60:5" "1" 3)]))) := by
  refine (sameOutcome_withoutCopies _ _ _ ?_).2
  have hfree : ∀ (s : System) (now : Nat) (e : Event),
      IsCopy s (sampleEvent now e) ∧ NoRequestAgain s (sampleEvent now e) := fun _ _ _ => ⟨trivial, trivial⟩
  refine ⟨hfree _ _ _, hfree _ _ _, hfree _ _ _, hfree _ _ _, hfree _ _ _, ⟨trivial, trivial⟩, ⟨trivial, trivial⟩,
    hfree _ _ _, ⟨List.mem_cons_self, ?_⟩, trivial⟩
  rintro ⟨conn, c, seqNum, payload, -, hmsg, -⟩
  obtain ⟨-, -, hcode, -⟩ := MGWCPConnection.receive_accepted_fields hmsg
  exact absurd hcode (by decide)

/-- A request that arrives twice: the OM denies the copy and the Bridge removes the approved session. -/
theorem not_sameOutcome_request_again :
    ¬ ∀ (g : GlobalConfig) (om : OffloadingManager) (labels : List Label), Run.Along step IsCopy (init g om) labels →
      SameOutcome (Run.run step (init g om) labels) (Run.run step (init g om) (withoutCopies (init g om) labels)) := by
  intro hall
  let labels : List Label := sampleLabels ++
    [.again (Bridge.allSent 6) 4 sampleRequest, .omReceives sampleManagerEnv, .bridgeReceives (Bridge.allSent 7)]
  have hcopies : Run.Along step IsCopy (init Bridge.sampleConfig sampleManager) labels :=
    ⟨trivial, trivial, trivial, trivial, trivial, trivial, trivial, List.mem_cons_self, trivial, trivial, trivial⟩
  have h := (hall Bridge.sampleConfig sampleManager labels hcopies).sessions "1"
  have hgone : (Run.run step (init Bridge.sampleConfig sampleManager) labels).bridge.sessionManager.getSession "1" =
      none := by decide +kernel
  have hthere : ((Run.run step (init Bridge.sampleConfig sampleManager)
      (withoutCopies (init Bridge.sampleConfig sampleManager) labels)).bridge.sessionManager.getSession
        "1").isSome = true := by decide +kernel
  rw [hgone, Option.map_none] at h
  rw [Option.map_eq_none_iff.mp h.symm] at hthere
  cases hthere

end System

end EdgeOffloading
