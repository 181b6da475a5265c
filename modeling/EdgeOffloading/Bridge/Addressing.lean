import EdgeOffloading.Bridge.Routes

/-!
# Finding the gateway an answer is for

Answers of the OM go to the connection that `component_id_to_transport_id_` has for the component id of the session.

* `denial_not_delivered`: a denial never reaches its gateway, because its session is removed before it is looked up;
* `MapSound`: an entry of the map points to a live connection with that component id, in every reachable state;
* `WellFormed.addressEffect`: a step leaves the map and the component ids alone, or a client connects, identifies itself
  or is disconnected.
-/

namespace EdgeOffloading.Bridge

variable {b : Bridge}

/-! ## Denials -/

/-- The messages handed to reliable senders. -/
def reliableMessages (outputs : List Output) : List (ClientId × Json) :=
  outputs.filterMap fun
    | .reliable t message => some (t, message)
    | _ => none

/-- The request and the reason of a SESSION_DENIED that the Bridge can read. -/
def denialOf (omResponse : Json) : Option (String × String) :=
  if !omResponse.contains "payload" || !(omResponse.get "payload").contains "request_id" then none
  else
    match requestIdOf (omResponse.get "payload"),
        (omResponse.get "payload").valueString "reason_description" "No reason provided" with
    | some r, some reason => some (r, reason)
    | _, _ => none

/-- One SESSION_DENIED goes to the connection, the session is removed, everything else stays. -/
structure DenialDelivered (b : Bridge) (t : ClientId) (r reason : String) (result : Bridge × List Output) : Prop where
  sent : reliableMessages result.2 = [(t, sessionDeniedMessage r reason)]
  removed : result.1.sessionManager.getSession r = none
  others : ∀ r', r' ≠ r → result.1.sessionManager.getSession r' = b.sessionManager.getSession r'
  connections : result.1.mgwcpConnections = b.mgwcpConnections

theorem handleSessionDenied_of_denialOf {omResponse : Json} {r reason : String}
    (h : denialOf omResponse = some (r, reason)) (env : Env) :
    b.handleSessionDenied omResponse env = ({ b with sessionManager := b.sessionManager.removeSession r }, []) := by
  rw [handleSessionDenied_eq]
  unfold denialOf at h
  split_ifs at h with hshape
  rw [if_neg hshape]
  split at h
  · rename_i r' reason' hr hreason
    rw [hr, hreason]
    cases h
    rfl
  · cases h

/-- **A denial is never delivered**, whatever state the Bridge is in and whoever waits for it. -/
theorem denial_not_delivered (b : Bridge) {omResponse : Json} {r reason : String}
    (h : denialOf omResponse = some (r, reason)) (t : ClientId) (env : Env) :
    ¬ DenialDelivered b t r reason (b.handleSessionDenied omResponse env) := by
  intro hd
  have hsent := hd.sent
  rw [handleSessionDenied_of_denialOf h] at hsent
  cases hsent

/-- The denial of the request of `sampleRun`. -/
def sampleDenial : Json := Protocol.sessionDenied 1 (.int 1) 4001 "No available MECs"

theorem denial_not_delivered_sample :
    ¬ DenialDelivered beforeApproval 4 "1" "No available MECs"
      (beforeApproval.handleSessionDenied sampleDenial (allSent 2)) :=
  denial_not_delivered beforeApproval rfl 4 (allSent 2)

/-- The VHC of session `1` is connected as client 4 when the denial arrives, and gets nothing. -/
theorem not_denial_delivered :
    ¬ ∀ (b : Bridge) (omResponse : Json) (r reason : String) (s : ActiveSession) (t : ClientId)
      (conn : MGWCPConnection) (env : Env), Reachable b → denialOf omResponse = some (r, reason) →
      b.sessionManager.getSession r = some s → b.componentIdToTransportId s.mgwcpComponentId = some t →
      b.mgwcpConnections t = some conn → DenialDelivered b t r reason (b.handleSessionDenied omResponse env) := by
  intro hall
  have hsession : (beforeApproval.sessionManager.getSession "1").map ActiveSession.mgwcpComponentId = some "60:5" := by
    decide +kernel
  have hconn : (beforeApproval.mgwcpConnections 4).isSome = true := by decide +kernel
  obtain ⟨s, hs, hvhc⟩ := Option.map_eq_some_iff.mp hsession
  obtain ⟨conn, hconn⟩ := Option.isSome_iff_exists.mp hconn
  have hmap : beforeApproval.componentIdToTransportId s.mgwcpComponentId = some 4 := by
    rw [hvhc]
    decide +kernel
  have hd := hall beforeApproval sampleDenial "1" "No available MECs" s 4 conn (allSent 2)
    ⟨sampleConfig, sampleRun.take 5, rfl⟩ rfl hs hmap hconn
  have hsent := hd.sent
  rw [handleSessionDenied_of_denialOf rfl] at hsent
  cases hsent

/-! ## The component map -/

/-- An entry of the map points to a live connection with that component id. -/
def MapSound (b : Bridge) : Prop :=
  ∀ c t, b.componentIdToTransportId c = some t →
    c ≠ "" ∧ ∃ conn, b.mgwcpConnections t = some conn ∧ conn.componentId = c

/-- The map and the component ids of the live connections stay as they are. -/
structure SameAddresses (b b' : Bridge) : Prop where
  map : b'.componentIdToTransportId = b.componentIdToTransportId
  ids : ∀ t, (b'.mgwcpConnections t).map MGWCPConnection.componentId =
    (b.mgwcpConnections t).map MGWCPConnection.componentId

/-- The id of the connection of a client, if it is connected. -/
def idOf (b : Bridge) (t : ClientId) : Option String := (b.mgwcpConnections t).map MGWCPConnection.componentId

theorem mapSound_iff : MapSound b ↔ ∀ c t, b.componentIdToTransportId c = some t → c ≠ "" ∧ b.idOf t = some c := by
  simp only [MapSound, idOf, Option.map_eq_some_iff]

theorem SameAddresses.mapSound {b' : Bridge} (h : SameAddresses b b') (hmap : MapSound b) : MapSound b' := by
  rw [mapSound_iff] at hmap ⊢
  intro c t ht
  rw [h.map] at ht
  rw [idOf, h.ids t]
  exact hmap c t ht

theorem sameAddresses_putConnection {t : ClientId} {old : MGWCPConnection} (conn : MGWCPConnection)
    (hold : b.mgwcpConnections t = some old) (hid : conn.componentId = old.componentId) :
    SameAddresses b (b.putConnection t conn) := by
  refine ⟨rfl, fun t' => ?_⟩
  rw [putConnection_apply]
  split_ifs with ht
  · rw [ht, hold, Option.map_some, Option.map_some, hid]
  · rfl

theorem sameAddresses_dispatch {t : ClientId} {conn : MGWCPConnection} {env : Env} {code : Int} {payload : Json}
    {b' : Bridge} (hconn : b.mgwcpConnections t = some conn) (hb' : b.DispatchEffect t conn env code payload b') :
    SameAddresses b b' := by
  cases hb' with
  | none => exact ⟨rfl, fun _ => rfl⟩
  | ended dpHost dpPort => exact sameAddresses_putConnection _ hconn rfl
  | confirmed dpHost dpPort b₁ senders hcode hstate hb₁ =>
      obtain ⟨hmap, hids⟩ := sameAddresses_putConnection
        { conn with dpHost := dpHost, dpPort := dpPort, state := .operational } hconn rfl
      rcases createTransportHandlerForMgwdp_cases hb₁ with ⟨heq, -⟩ | ⟨handler, -, -, heq⟩
      · cases heq; exact ⟨hmap, hids⟩
      · cases heq; exact ⟨hmap, hids⟩
  | requested r taskId taskName omConnected hcode hstate hreq htask => exact ⟨rfl, fun _ => rfl⟩
  | keptAlive r omConnected hcode hreq => exact ⟨rfl, fun _ => rfl⟩
  | forwarded omConnected hcode => exact ⟨rfl, fun _ => rfl⟩

/-- What a step does to the addresses: nothing, or a client connects, identifies itself or is disconnected. -/
inductive AddressEffect (b : Bridge) : Event → Bridge → Prop
  | same (e : Event) (b' : Bridge) (h : SameAddresses b b') : AddressEffect b e b'
  | connected (t : ClientId) (ip : String) (b' : Bridge) (ht : b.mgwcpConnections t = none)
      (hmap : b'.componentIdToTransportId = b.componentIdToTransportId)
      (hids : ∀ t', b'.idOf t' = if t' = t then some "" else b.idOf t') : AddressEffect b (.connect t ip) b'
  | identified (t : ClientId) (message : Json) (c : String) (b' : Bridge) (ht : b.idOf t = some "") (hc : c ≠ "")
      (hmap : b'.componentIdToTransportId = Function.update b.componentIdToTransportId c (some t))
      (hids : ∀ t', b'.idOf t' = if t' = t then some c else b.idOf t') : AddressEffect b (.message t message) b'
  | disconnected (t : ClientId) (b' : Bridge) (c : String) (ht : b.idOf t = some c)
      (hmap : b'.componentIdToTransportId =
        if c = "" then b.componentIdToTransportId else Function.update b.componentIdToTransportId c none)
      (hids : ∀ t', b'.idOf t' = if t' = t then none else b.idOf t') : AddressEffect b (.disconnect t) b'

theorem idOf_identified {t : ClientId} {conn : MGWCPConnection} {c : String} (h0 : conn.componentId = "")
    (t' : ClientId) : (b.identified t conn c).idOf t' = if t' = t then some c else b.idOf t' := by
  unfold identified idOf
  rw [if_pos h0]
  simp only [identify, putConnection, Function.update_apply]
  split_ifs <;> rfl

theorem disconnection_addresses {t : ClientId} {c : String} (ht : b.idOf t = some c) :
    ((b.closeMgwcpConnection t).componentIdToTransportId =
        if c = "" then b.componentIdToTransportId else Function.update b.componentIdToTransportId c none) ∧
      ∀ t', (b.closeMgwcpConnection t).idOf t' = if t' = t then none else b.idOf t' := by
  obtain ⟨conn, hconn, rfl⟩ := Option.map_eq_some_iff.mp ht
  constructor
  · simp only [closeMgwcpConnection, hconn]
    split_ifs <;> rfl
  · intro t'
    unfold idOf
    rw [disconnection_apply]
    split_ifs <;> rfl

theorem Effect.sameAddresses {env : Env} {e : Event} {b' : Bridge} (he : b.Effect env e b')
    (hconnect : ∀ t clientIp, e ≠ .connect t clientIp) (hdisconnect : ∀ t, e ≠ .disconnect t)
    (hbound : ∀ t message conn c seqNum code payload, e = .message t message → b.receiving t = some conn →
      conn.receive message = .accepted c seqNum code payload → conn.componentId ≠ "") : SameAddresses b b' := by
  cases he with
  | connected t clientIp ht => exact absurd rfl (hconnect t clientIp)
  | disconnected t ht => exact absurd rfl (hdisconnect t)
  | threadEnded e t conn ht hconn => exact sameAddresses_putConnection _ hconn rfl
  | accepted t message conn c seqNum code payload b' hrecv hmsg hb' =>
      have hsame := sameAddresses_dispatch
        (identified_apply (receiving_eq_some hrecv).2 (MGWCPConnection.receive_accepted hmsg)) hb'
      rwa [Bridge.identified, if_neg (hbound t message conn c seqNum code payload rfl hrecv hmsg)] at hsame
  | _ => exact ⟨rfl, fun _ => rfl⟩

theorem WellFormed.addressEffect (hwf : WellFormed b) {env : Env} {e : Event} {b' : Bridge} (he : b.Effect env e b') :
    AddressEffect b e b' := by
  cases he with
  | connected t clientIp ht =>
      have hnone : b.mgwcpConnections t = none := by
        by_contra h
        exact ht ((hwf.connected t).mpr (Option.ne_none_iff_exists'.mp h))
      refine .connected t clientIp _ hnone rfl fun t' => ?_
      simp only [idOf, handleNewMgwcpConnection, Bridge.putConnection, Function.update_apply]
      split_ifs <;> rfl
  | threadEnded e t conn ht hconn => exact .same _ _ (sameAddresses_putConnection _ hconn rfl)
  | accepted t message conn c seqNum code payload b' hrecv hmsg hb' =>
      obtain ⟨ht, hconn⟩ := receiving_eq_some hrecv
      have hacc := MGWCPConnection.receive_accepted hmsg
      have hsame := sameAddresses_dispatch (identified_apply hconn hacc) hb'
      rcases MGWCPConnection.acceptsComponentId_iff.mp hacc with ⟨h0, hvalid⟩ | ⟨hne, -⟩
      · refine .identified t message c b' (by rw [idOf, hconn, Option.map_some, h0])
          (isValidComponentId.ne_empty hvalid) ?_ fun t' => ?_
        · rw [hsame.map, Bridge.identified, if_pos h0]
          rfl
        · rw [← idOf_identified h0]
          exact hsame.ids t'
      · rw [Bridge.identified, if_neg hne] at hsame
        exact .same _ _ hsame
  | disconnected t ht =>
      obtain ⟨conn, hconn⟩ := (hwf.connected t).mp ht
      have hid : b.idOf t = some conn.componentId := by rw [idOf, hconn]; rfl
      obtain ⟨hm, hids⟩ := disconnection_addresses hid
      exact .disconnected t _ conn.componentId hid hm hids
  | _ => exact .same _ _ ⟨rfl, fun _ => rfl⟩

theorem AddressEffect.mapSound {e : Event} {b' : Bridge} (he : AddressEffect b e b') (hmap : MapSound b) :
    MapSound b' := by
  cases he with
  | same e b' h => exact h.mapSound hmap
  | connected t ip b' ht hm hids =>
      rw [mapSound_iff] at hmap ⊢
      intro c t' ht'
      rw [hm] at ht'
      obtain ⟨hc, hid⟩ := hmap c t' ht'
      refine ⟨hc, ?_⟩
      rw [hids, if_neg, hid]
      rintro rfl
      rw [idOf, ht] at hid
      cases hid
  | identified t message c b' ht hc hm hids =>
      rw [mapSound_iff] at hmap ⊢
      intro c' t' ht'
      rw [hm, Function.update_apply] at ht'
      rw [hids]
      split_ifs at ht' with hcc
      · cases ht'
        exact ⟨by rwa [hcc], by rw [if_pos rfl, hcc]⟩
      · obtain ⟨hc', hid⟩ := hmap c' t' ht'
        refine ⟨hc', ?_⟩
        rw [if_neg, hid]
        rintro rfl
        rw [ht] at hid
        exact hc' (Option.some.inj hid).symm
  | disconnected t b' c ht hm hids =>
      rw [mapSound_iff] at hmap ⊢
      intro c' t' ht'
      have hbefore : b.componentIdToTransportId c' = some t' ∧ (c ≠ "" → c' ≠ c) := by
        rw [hm] at ht'
        split_ifs at ht' with h0
        · exact ⟨ht', fun h => absurd h0 h⟩
        · rw [Function.update_apply] at ht'
          split_ifs at ht' with hcc
          exact ⟨ht', fun _ => hcc⟩
      obtain ⟨hc', hid⟩ := hmap c' t' hbefore.1
      refine ⟨hc', ?_⟩
      rw [hids, if_neg, hid]
      rintro rfl
      rw [ht] at hid
      cases hid
      exact hbefore.2 hc' rfl

theorem mapSound_init (g : GlobalConfig) : MapSound (init g) := fun c t h => by cases h

end EdgeOffloading.Bridge
