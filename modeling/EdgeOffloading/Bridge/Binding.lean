import EdgeOffloading.Bridge.Addressing
import EdgeOffloading.Bridge.Relay
import EdgeOffloading.Protocol.Shape

/-!
# The component id of a connection

A control connection starts without a component id. The first message on it that is no ACK and has a valid id binds it,
and the registration callback tells the control plane so.

* `bound_run`: the id of a connection is that of its first message, and the callback was called for it and never again;
* `message_carries`: what a message on the connection makes the Bridge forward or create has that id, and a message with
  another id is without effect;
* `bound_to_first`: both, for every run of the Bridge while the connection lives.
-/

namespace EdgeOffloading.Bridge

variable {b : Bridge} {t : ClientId}

/-- The message of an input, if the thread of the connection of `t` gets it. -/
def deliveredTo (t : ClientId) (b : Bridge) (input : Env × Event) : List Json :=
  match input.2 with
  | .message t' message => if t' = t ∧ b.terminated = false ∧ (b.receiving t').isSome = true then [message] else []
  | _ => []

/-- The calls of `component_registration_callback_` in a step: a component id and the transport id of a connection. -/
def registrations (b : Bridge) (input : Env × Event) : List (String × ClientId) :=
  match input.2 with
  | .message t message =>
    if b.terminated then []
    else
      match b.receiving t with
      | none => []
      | some conn =>
        match conn.receive message with
        | .accepted componentId _ _ _ => if conn.componentId = "" then [(componentId, t)] else []
        | _ => []
  | _ => []

/-- The calls that the connection of `t` makes. -/
def registrationsOf (t : ClientId) (b : Bridge) (input : Env × Event) : List (String × ClientId) :=
  (registrations b input).filter fun call => call.2 = t

/-- What the callback does to `component_id_to_transport_id_`. -/
def register (ids : String → Option ClientId) (call : String × ClientId) : String → Option ClientId :=
  Function.update ids call.1 (some call.2)

/-- The id to which a message binds a connection that has none. -/
def bindingId (message : Json) : Option String :=
  if (message.get "message_code").asInt = some 900 then none
  else (message.get "component_id").asString.filter fun c => isValidComponentId c

/-- The id of the first message that can bind the connection of `t`. -/
def firstId (t : ClientId) (b : Bridge) (inputs : List (Env × Event)) : Option String :=
  ((Run.collect next (deliveredTo t) b inputs).filterMap bindingId).head?

/-- The connection of `t` has the first id, and it was registered once. -/
structure BoundToFirst (t : ClientId) (b : Bridge) (inputs : List (Env × Event)) : Prop where
  bound : (Run.run next b inputs).idOf t = some ((firstId t b inputs).getD "")
  registered : Run.collect next (registrationsOf t) b inputs = (firstId t b inputs).toList.map fun c => (c, t)

/-- What a message on the connection of `t` brings about has the id of the connection. -/
structure Carries (t : ClientId) (b : Bridge) (env : Env) (message : Json) : Prop where
  forwarded : ∀ out, .om out ∈ (b.step env (.message t message)).2 →
    ∃ c, (b.step env (.message t message)).1.idOf t = some c ∧ out.get "component_id" = .str c
  created : ∀ r s, (b.step env (.message t message)).1.sessionManager.getSession r = some s →
    (b.step env (.message t message)).1.idOf t = some s.mgwcpComponentId ∨
      ∃ old, b.sessionManager.getSession r = some old ∧ old.mgwcpComponentId = s.mgwcpComponentId
  /-- A message with an invalid or a foreign id is without effect. -/
  rejected : ∀ c id, b.idOf t = some c → (message.get "message_code").asInt ≠ some 900 →
    message.get "component_id" = .str id → (c = "" → isValidComponentId id = false) → (c ≠ "" → id ≠ c) →
      b.step env (.message t message) = (b, [])
  /-- The control plane learns of the id by the calls of the callback. -/
  map : (b.step env (.message t message)).1.componentIdToTransportId =
    (registrations b (env, .message t message)).foldl register b.componentIdToTransportId

/-! ## One message -/

theorem receive_of_envelope {message : Json} (h : Protocol.hasFields Protocol.envelope message = true)
    (conn : MGWCPConnection) :
    ∃ c code, message.get "component_id" = .str c ∧ (message.get "message_code").asInt = some code ∧
      (code = 900 ∧ conn.receive message = .ack (message.get "payload") ∨
        code ≠ 900 ∧ conn.acceptsComponentId c = true ∧
          (∃ seqNum, conn.receive message = .accepted c seqNum code (message.get "payload")) ∨
        code ≠ 900 ∧ conn.acceptsComponentId c = false ∧ conn.receive message = .ignored) := by
  obtain ⟨⟨c, hc⟩, ⟨n, hn⟩, ⟨type, htype⟩, ⟨seq, hseq⟩, ⟨fields, hpayload⟩⟩ := Protocol.fields_of_envelope h
  have hget : ∀ {k v}, message.find k = some v → message.get k = v := fun hk => by rw [Json.get, hk]; rfl
  have hcontains : ∀ {k v}, message.find k = some v → message.contains k = true := fun hk => by
    rw [Json.contains, hk]
    rfl
  have hstructure : validateMessageStructure message = true := by
    simp only [validateMessageStructure, hcontains hc, hcontains hn, hcontains htype, hcontains hseq,
      hcontains hpayload, Bool.and_self]
  have hcode : (message.get "message_code").asInt = some (n.bmod (2 ^ 32)) := by rw [hget hn]; rfl
  have hnum := Json.valueInt_of_get (hget hseq) 0
  generalize n.bmod (2 ^ 32) = code at hcode
  refine ⟨c, code, hget hc, hcode, ?_⟩
  unfold MGWCPConnection.receive
  rw [hstructure, hcode, hnum, hget hc]
  by_cases hack : code = 900
  · exact .inl ⟨hack, if_pos hack⟩
  · refine .inr ?_
    simp only [Bool.not_true, Bool.false_eq_true, if_false, if_neg hack, Json.asString]
    cases haccepts : conn.acceptsComponentId c with
    | true => exact .inl ⟨hack, rfl, _, rfl⟩
    | false => exact .inr ⟨hack, rfl, rfl⟩

theorem step_message_cases (b : Bridge) (t : ClientId) (message : Json) (env : Env) :
    deliveredTo t b (env, .message t message) = [] ∧ registrations b (env, .message t message) = [] ∧
        b.step env (.message t message) = (b, []) ∨
      ∃ conn, b.receiving t = some conn ∧ b.terminated = false ∧
        deliveredTo t b (env, .message t message) = [message] ∧
          b.step env (.message t message) = b.handleReceivedMessage t conn message env := by
  cases hlive : b.terminated with
  | true => exact .inl ⟨by simp [deliveredTo, hlive], by simp [registrations, hlive], step_terminated hlive _ _⟩
  | false =>
      cases hrecv : b.receiving t with
      | none =>
          refine .inl ⟨by simp [deliveredTo, hrecv], by simp [registrations, hrecv], ?_⟩
          unfold step
          rw [if_neg (by rw [hlive]; simp)]
          dsimp only
          rw [hrecv]
      | some conn =>
          refine .inr ⟨conn, rfl, rfl, ?_, step_message hlive hrecv message env⟩
          simp [deliveredTo, hlive, hrecv]

theorem addresses_of_accepted {conn : MGWCPConnection} (hrecv : b.receiving t = some conn) {message payload : Json}
    {c : String} {seqNum : Nat} {code : Int} (hmsg : conn.receive message = .accepted c seqNum code payload)
    (env : Env) :
    (b.handleReceivedMessage t conn message env).1.idOf t = some c ∧
      (b.handleReceivedMessage t conn message env).1.componentIdToTransportId =
        if conn.componentId = "" then register b.componentIdToTransportId (c, t) else b.componentIdToTransportId := by
  have hat := identified_apply (receiving_eq_some hrecv).2 (MGWCPConnection.receive_accepted hmsg)
  have hsame := sameAddresses_dispatch hat (dispatch_effect t { conn with componentId := c } code payload env)
  rw [handleReceivedMessage_accepted hmsg env]
  constructor
  · rw [idOf, hsame.ids t, hat]
    rfl
  · rw [hsame.map]
    unfold identified
    split_ifs <;> rfl

theorem handled_not_accepted {conn : MGWCPConnection} (hrecv : b.receiving t = some conn) {message : Json}
    (hmsg : ∀ c seqNum code payload, conn.receive message ≠ .accepted c seqNum code payload) (env : Env) :
    SameAddresses b (b.handleReceivedMessage t conn message env).1 ∧
      (b.handleReceivedMessage t conn message env).1.sessionManager = b.sessionManager ∧
        (b.handleReceivedMessage t conn message env).2 = [] := by
  have hended : SameAddresses b (b.endThread t conn) :=
    sameAddresses_putConnection _ (receiving_eq_some hrecv).2 rfl
  unfold handleReceivedMessage
  cases hr : conn.receive message with
  | ignored => exact ⟨⟨rfl, fun _ => rfl⟩, rfl, rfl⟩
  | thrown => exact ⟨hended, rfl, rfl⟩
  | ack payload =>
      show SameAddresses b (b.handleAck t conn payload) ∧ (b.handleAck t conn payload).sessionManager = _ ∧ [] = []
      unfold handleAck
      split
      · exact ⟨hended, rfl, rfl⟩
      · exact ⟨⟨rfl, fun _ => rfl⟩, rfl, rfl⟩
  | accepted c seqNum code payload => exact absurd hr (hmsg c seqNum code payload)

theorem idOf_other (hwf : WellFormed b) {c : String} (hid : b.idOf t = some c) {input : Env × Event}
    (hopen : input.2 ≠ .disconnect t) (hother : ∀ message, input.2 ≠ .message t message) :
    (next b input).idOf t = some c := by
  have heffect : AddressEffect b input.2 (next b input) := hwf.addressEffect (step_effect input.1 input.2)
  generalize next b input = b' at heffect ⊢
  generalize input.2 = e at heffect hopen hother
  cases heffect with
  | same e b' h => rw [idOf, h.ids t]; exact hid
  | connected t' ip b' ht hmap hids =>
      rw [hids, if_neg]
      · exact hid
      · rintro rfl
        rw [idOf, ht] at hid
        cases hid
  | identified t' message c' b' ht hc hmap hids =>
      rw [hids, if_neg]
      · exact hid
      · rintro rfl
        exact hother message rfl
  | disconnected t' b' c' ht hmap hids =>
      rw [hids, if_neg]
      · exact hid
      · rintro rfl
        exact hopen rfl

theorem registrationsOf_other {input : Env × Event} (hother : ∀ message, input.2 ≠ .message t message) :
    deliveredTo t b input = [] ∧ registrationsOf t b input = [] := by
  obtain ⟨env, e⟩ := input
  cases e with
  | message t' message =>
      have hne : t' ≠ t := by
        rintro rfl
        exact hother message rfl
      refine ⟨if_neg fun h => hne h.1, ?_⟩
      apply List.filter_eq_nil_iff.mpr
      intro call hcall
      have hmem : call ∈ registrations b (env, .message t' message) := hcall
      suffices call.2 = t' by simpa [this] using hne
      unfold registrations at hmem
      dsimp only at hmem
      split at hmem
      · cases hmem
      · split at hmem
        · cases hmem
        · split at hmem
          · split_ifs at hmem
            · exact congrArg Prod.snd (List.mem_singleton.mp hmem)
            · cases hmem
          · cases hmem
  | _ => exact ⟨rfl, rfl⟩

theorem registrations_accepted {conn : MGWCPConnection} (hrecv : b.receiving t = some conn)
    (hlive : b.terminated = false) {message payload : Json} {c : String} {seqNum : Nat} {code : Int}
    (hmsg : conn.receive message = .accepted c seqNum code payload) (env : Env) :
    registrations b (env, .message t message) = if conn.componentId = "" then [(c, t)] else [] := by
  simp only [registrations, hlive, hrecv, hmsg, Bool.false_eq_true, if_false]

theorem registrations_not_accepted {conn : MGWCPConnection} (hrecv : b.receiving t = some conn) {message : Json}
    (hmsg : ∀ c seqNum code payload, conn.receive message ≠ .accepted c seqNum code payload) (env : Env) :
    registrations b (env, .message t message) = [] := by
  simp only [registrations, hrecv]
  split_ifs
  · rfl
  · cases hr : conn.receive message with
    | accepted c seqNum code payload => exact absurd hr (hmsg c seqNum code payload)
    | _ => rfl

theorem head?_filterMap_singleton {α β : Type*} (f : α → Option β) (a : α) : ([a].filterMap f).head? = f a := by
  cases h : f a with
  | none => rw [List.filterMap_cons_none h]; rfl
  | some x => rw [List.filterMap_cons_some h]; rfl

/-- **One step**: a connection without an id takes that of the message, if the message can bind it, and says so. -/
theorem bound_step (hwf : WellFormed b) {c : String} (hid : b.idOf t = some c) {input : Env × Event}
    (hopen : input.2 ≠ .disconnect t)
    (hdoc : ∀ message ∈ deliveredTo t b input, Protocol.hasFields Protocol.envelope message = true) :
    (next b input).idOf t =
        some (if c = "" then (((deliveredTo t b input).filterMap bindingId).head?).getD "" else c) ∧
      registrationsOf t b input =
        if c = "" then (((deliveredTo t b input).filterMap bindingId).head?).toList.map fun c => (c, t) else [] := by
  by_cases hother : ∀ message, input.2 ≠ .message t message
  · obtain ⟨hdel, hreg⟩ := registrationsOf_other (b := b) hother
    rw [idOf_other hwf hid hopen hother, hdel, hreg]
    split_ifs with hc
    · exact ⟨by rw [hc]; rfl, rfl⟩
    · exact ⟨rfl, rfl⟩
  · push Not at hother
    obtain ⟨message, hmsg⟩ := hother
    obtain ⟨env, e⟩ := input
    cases hmsg
    unfold registrationsOf
    obtain ⟨hdel, hreg, hstep⟩ | ⟨conn, hrecv, hlive, hdel, hstep⟩ := step_message_cases b t message env
    · rw [show next b (env, .message t message) = b by rw [next, hstep], hid, hdel, hreg]
      split_ifs with hc
      · exact ⟨by rw [hc]; rfl, rfl⟩
      · exact ⟨rfl, rfl⟩
    · have hconn := (receiving_eq_some hrecv).2
      have hc : conn.componentId = c := by
        rw [idOf, hconn] at hid
        exact Option.some.inj hid
      have hnext : next b (env, .message t message) = (b.handleReceivedMessage t conn message env).1 := by
        rw [next, hstep]
      have henv := hdoc message (by rw [hdel]; exact List.mem_singleton_self message)
      obtain ⟨id, code, hid', hcode, hcases⟩ := receive_of_envelope henv conn
      have hbinding : bindingId message =
          if code = 900 then none else if isValidComponentId id = true then some id else none := by
        unfold bindingId
        rw [hcode, hid']
        simp only [Option.some.injEq]
        rfl
      rw [hnext, hdel, head?_filterMap_singleton, hbinding]
      have hkept (hnot : ∀ c seqNum code payload, conn.receive message ≠ .accepted c seqNum code payload) :
          (b.handleReceivedMessage t conn message env).1.idOf t = some c ∧
            registrations b (env, .message t message) = [] := by
        refine ⟨?_, registrations_not_accepted hrecv hnot env⟩
        rw [idOf, (handled_not_accepted hrecv hnot env).1.ids t]
        exact hid
      obtain ⟨hack, hr⟩ | ⟨hne, haccepts, seqNum, hr⟩ | ⟨hne, hrejects, hr⟩ := hcases
      · obtain ⟨hid₁, hreg⟩ := hkept fun c seqNum code payload h => by rw [hr] at h; cases h
        rw [hid₁, hreg, if_pos hack]
        split_ifs with hempty
        · exact ⟨by rw [hempty]; rfl, rfl⟩
        · exact ⟨rfl, rfl⟩
      · rw [(addresses_of_accepted hrecv hr env).1, registrations_accepted hrecv hlive hr env, hc, if_neg hne]
        rcases MGWCPConnection.acceptsComponentId_iff.mp haccepts with ⟨hempty, hvalid⟩ | ⟨hbound, heq⟩
        · rw [hc] at hempty
          rw [if_pos hempty, if_pos hempty, if_pos hempty, hvalid]
          simp
        · rw [hc] at hbound heq
          rw [if_neg hbound, if_neg hbound, if_neg hbound, heq]
          exact ⟨rfl, rfl⟩
      · obtain ⟨hid₁, hreg⟩ := hkept fun c seqNum code payload h => by rw [hr] at h; cases h
        rw [hid₁, hreg, if_neg hne]
        split_ifs with hempty hvalid
        · rw [← hc] at hempty
          rw [MGWCPConnection.acceptsComponentId, if_pos hempty, hvalid] at hrejects
          cases hrejects
        · exact ⟨by rw [hempty]; rfl, rfl⟩
        · exact ⟨rfl, rfl⟩

theorem firstId_ne_empty {inputs : List (Env × Event)} {c : String} (h : firstId t b inputs = some c) : c ≠ "" := by
  obtain ⟨message, -, hbinding⟩ := List.mem_filterMap.mp (List.mem_of_mem_head? (Option.mem_def.mpr h))
  unfold bindingId at hbinding
  split_ifs at hbinding
  obtain ⟨-, hvalid⟩ := Option.filter_eq_some_iff.mp hbinding
  exact isValidComponentId.ne_empty hvalid

/-- **A run** leaves a connection with the id of the first message that could bind it, registered once. -/
theorem bound_run (hwf : WellFormed b) (hnew : b.idOf t = some "") (inputs : List (Env × Event))
    (hopen : ∀ input ∈ inputs, input.2 ≠ .disconnect t)
    (hdoc : ∀ message ∈ Run.collect next (deliveredTo t) b inputs,
      Protocol.hasFields Protocol.envelope message = true) : BoundToFirst t b inputs := by
  induction inputs using List.reverseRecOn with
  | nil => exact ⟨hnew, rfl⟩
  | append_singleton es e ih =>
      have hcollect {β : Type} (f : Bridge → Env × Event → List β) :
          Run.collect next f b (es ++ [e]) = Run.collect next f b es ++ f (Run.run next b es) e := by
        rw [Run.collect_append]
        exact congrArg _ (List.append_nil _)
      rw [hcollect] at hdoc
      obtain ⟨hbound, hreg⟩ := ih (fun i hi => hopen i (List.mem_append_left _ hi))
        fun m hm => hdoc m (List.mem_append_left _ hm)
      have hfirst : firstId t b (es ++ [e]) = (firstId t b es).or
          ((deliveredTo t (Run.run next b es) e).filterMap bindingId).head? := by
        rw [firstId, hcollect, List.filterMap_append, List.head?_append]
        rfl
      have hwf' : WellFormed (Run.run next b es) :=
        Run.run_invariant_of_step next (fun s i hs => hs.step i.1 i.2) es _ hwf
      obtain ⟨hid', hreg'⟩ := bound_step hwf' hbound (hopen e (List.mem_append_right _ (List.mem_singleton_self e)))
        fun m hm => hdoc m (List.mem_append_right _ hm)
      constructor
      · rw [Run.run_append, hfirst]
        refine hid'.trans ?_
        cases hc : firstId t b es with
        | none => rfl
        | some c => exact congrArg some (if_neg (firstId_ne_empty hc))
      · rw [hcollect, hreg, hreg', hfirst]
        cases hc : firstId t b es with
        | none => rfl
        | some c => exact congrArg _ (if_neg (firstId_ne_empty hc))

/-! ## What a message brings about -/

theorem DispatchEffect.created {conn : MGWCPConnection} {env : Env} {code : Int} {payload : Json} {b' : Bridge}
    (h : b.DispatchEffect t conn env code payload b') {r : String} {s : ActiveSession}
    (hs : b'.sessionManager.getSession r = some s) :
    s.mgwcpComponentId = conn.componentId ∨
      ∃ old, b.sessionManager.getSession r = some old ∧ old.mgwcpComponentId = s.mgwcpComponentId := by
  cases h with
  | none => exact .inr ⟨s, hs, rfl⟩
  | ended dpHost dpPort => exact .inr ⟨s, hs, rfl⟩
  | confirmed dpHost dpPort b₁ senders hcode hstate hb₁ =>
      rcases createTransportHandlerForMgwdp_cases hb₁ with ⟨heq, -⟩ | ⟨handler, -, -, heq⟩
      · cases heq
        exact .inr ⟨s, hs, rfl⟩
      · cases heq
        exact .inr ⟨s, hs, rfl⟩
  | requested r' taskId taskName omConnected hcode hstate hreq htask =>
      rcases b.sessionManager.createSession_cases r' conn.componentId taskId taskName b.globalConfig env.now with
        ⟨hsame, -⟩ | ⟨task, -, -, hnew⟩
      · exact .inr ⟨s, by rw [← hsame]; exact hs, rfl⟩
      · have hs' := (hnew r).symm.trans hs
        split_ifs at hs'
        · cases hs'
          exact .inl rfl
        · exact .inr ⟨s, hs', rfl⟩
  | keptAlive r' omConnected hcode hreq =>
      obtain ⟨old, hold, -, hvhc, -⟩ := b.sessionManager.descends_updateKeepalive r' env.now r s hs
      exact .inr ⟨old, hold, hvhc.symm⟩
  | forwarded omConnected hcode => exact .inr ⟨s, hs, rfl⟩

theorem message_carries (env : Env) {message : Json}
    (hdoc : message ∈ deliveredTo t b (env, .message t message) →
      Protocol.hasFields Protocol.envelope message = true) : Carries t b env message := by
  obtain ⟨hdel, hreg, hstep⟩ | ⟨conn, hrecv, hlive, hdel, hstep⟩ := step_message_cases b t message env
  · refine ⟨fun out hout => ?_, fun r s hs => ?_, fun _ _ _ _ _ _ _ => hstep, ?_⟩
    · rw [hstep] at hout
      cases hout
    · rw [hstep] at hs
      exact .inr ⟨s, hs, rfl⟩
    · rw [hstep, hreg]
      rfl
  · have hconn := (receiving_eq_some hrecv).2
    have henv := hdoc (by rw [hdel]; exact List.mem_singleton_self message)
    obtain ⟨id, code, hid', hcode, hcases⟩ := receive_of_envelope henv conn
    have hid : b.idOf t = some conn.componentId := by rw [idOf, hconn]; rfl
    have hquiet (hnot : ∀ c seqNum code payload, conn.receive message ≠ .accepted c seqNum code payload)
        (hrejected : ∀ c id, b.idOf t = some c → (message.get "message_code").asInt ≠ some 900 →
          message.get "component_id" = .str id → (c = "" → isValidComponentId id = false) → (c ≠ "" → id ≠ c) →
            b.step env (.message t message) = (b, [])) : Carries t b env message := by
      obtain ⟨hsame, hsessions, hout⟩ := handled_not_accepted hrecv hnot env
      refine ⟨fun out h => ?_, fun r s hs => ?_, hrejected, ?_⟩
      · rw [hstep, hout] at h
        cases h
      · rw [hstep, hsessions] at hs
        exact .inr ⟨s, hs, rfl⟩
      · rw [hstep, hsame.map, registrations_not_accepted hrecv hnot env]
        rfl
    obtain ⟨hack, hr⟩ | ⟨hne, haccepts, seqNum, hr⟩ | ⟨hne, hrejects, hr⟩ := hcases
    · refine hquiet (fun c seqNum code payload h => by rw [hr] at h; cases h) fun _ _ _ hne => ?_
      rw [hack] at hcode
      exact absurd hcode hne
    · obtain ⟨hid₁, hmap⟩ := addresses_of_accepted hrecv hr env
      refine ⟨fun out hout => ?_, fun r s hs => ?_, fun c id' hc _ hget hinvalid hforeign => ?_, ?_⟩
      · obtain ⟨c, code', type, hc, -, -, rfl⟩ := relayed_of_message hout
        rw [hid'] at hc
        cases hc
        exact ⟨id, by rw [hstep]; exact hid₁, rfl⟩
      · rw [hstep] at hs ⊢
        rw [handleReceivedMessage_accepted hr env] at hs
        rcases (dispatch_effect t { conn with componentId := id } code (message.get "payload") env).created hs with
          hnew | ⟨old, hold, hvhc⟩
        · rw [hnew]
          exact .inl hid₁
        · refine .inr ⟨old, ?_, hvhc⟩
          rw [identified] at hold
          split_ifs at hold <;> exact hold
      · cases hget.symm.trans hid'
        cases hid.symm.trans hc
        rcases MGWCPConnection.acceptsComponentId_iff.mp haccepts with ⟨hempty, hvalid⟩ | ⟨hbound, heq⟩
        · exact absurd hvalid (by rw [hinvalid hempty]; exact Bool.false_ne_true)
        · exact absurd heq.symm (hforeign hbound)
      · rw [hstep, hmap, registrations_accepted hrecv hlive hr env]
        split_ifs <;> rfl
    · refine hquiet (fun c seqNum code payload h => by rw [hr] at h; cases h) fun _ _ _ _ _ _ _ => ?_
      rw [hstep, handleReceivedMessage, hr]

/-- **The identity of a connection**, in every run of the Bridge while the connection lives, if the messages on it have
the documented envelope. -/
theorem bound_to_first (hb : Reachable b) (hnew : b.idOf t = some "") (inputs : List (Env × Event))
    (hopen : ∀ input ∈ inputs, input.2 ≠ .disconnect t)
    (hdoc : ∀ message ∈ Run.collect next (deliveredTo t) b inputs,
      Protocol.hasFields Protocol.envelope message = true) :
    (∀ pre, pre <+: inputs → BoundToFirst t b pre) ∧
      ∀ pre env message, pre ++ [(env, .message t message)] <+: inputs →
        Carries t (Run.run next b pre) env message := by
  have hsub {pre : List (Env × Event)} (hpre : pre <+: inputs) :
      ∀ message ∈ Run.collect next (deliveredTo t) b pre, Protocol.hasFields Protocol.envelope message = true := by
    obtain ⟨post, rfl⟩ := hpre
    intro message hmessage
    refine hdoc message ?_
    rw [Run.collect_append]
    exact List.mem_append_left _ hmessage
  constructor
  · intro pre hpre
    have hopen' : ∀ input ∈ pre, input.2 ≠ .disconnect t := fun input hinput => hopen input (hpre.subset hinput)
    exact bound_run (reachable_wellFormed hb) hnew pre hopen' (hsub hpre)
  · intro pre env message hpre
    refine message_carries env fun hdel => hsub hpre message ?_
    rw [Run.collect_append]
    exact List.mem_append_right _ (List.mem_append_left _ hdel)

/-- An ACK, a message with an invalid id, the first valid one, a foreign one and a request. -/
theorem bound_to_first_sample :
    let b := Run.run next (init sampleConfig) [atTime 0 (.connect 4 "10.0.0.5")]
    let inputs := [atTime 1 (.message 4 (Protocol.ack "60:5" 0)),
      atTime 1 (.message 4 (Protocol.dpInfo "60" "0.0.0.0" 6000 1)),
      atTime 1 (.message 4 (Protocol.dpInfo "60:5" "0.0.0.0" 6000 1)),
      atTime 1 (.message 4 (Protocol.sessionKeepalive "60:6" "1" 2)),
      atTime 1 (.message 4 (Protocol.offloadRequest "60:5" "1" 7 "string_test" "" 2))]
    BoundToFirst 4 b inputs ∧ firstId 4 b inputs = some "60:5" := by
  intro b inputs
  have hb : Reachable b := ⟨sampleConfig, _, rfl⟩
  have hopen : ∀ input ∈ inputs, input.2 ≠ .disconnect 4 := by
    intro input hinput heq
    simp only [inputs, List.mem_cons, List.not_mem_nil, or_false] at hinput
    rcases hinput with rfl | rfl | rfl | rfl | rfl <;> cases heq
  have hall : ((Run.collect next (deliveredTo 4) b inputs).all fun m => Protocol.hasFields Protocol.envelope m) = true ∧
      b.idOf 4 = some "" ∧ firstId 4 b inputs = some "60:5" := by
    decide +kernel
  obtain ⟨hdoc, hnew, hfirst⟩ := hall
  exact ⟨(bound_to_first hb hnew inputs hopen (List.all_eq_true.mp hdoc)).1 inputs List.prefix_rfl, hfirst⟩

end EdgeOffloading.Bridge
