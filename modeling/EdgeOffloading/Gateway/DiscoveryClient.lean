import EdgeOffloading.Discovery.Protocol
import EdgeOffloading.Lib.Run

/-!
# The gateway's client of the Discovery Service

`DiscoveryClient::client_thread_func`, one turn of its loops after the other. The thread registers until it is told
SUCCESS, and then sends pings. It takes what one read returns, up to a zero byte, for a message; what it cannot decode
makes it register again.

* `callsOnce_run`: the thread calls back at most once, and with success before its first ping;
* `called_back`: it does not end by itself without a callback;
* `success_of_answer`: what it calls back with success.
-/

namespace EdgeOffloading

open Discovery Run

/-- What the controller passes to `start`. -/
structure GatewayIdentity where
  componentType : ComponentType
  componentName : String
  groupId : UInt8
  idInGroup : UInt8
  dataPlanePort : Nat

/-- The request that the thread writes in every turn. -/
def GatewayIdentity.registrationRequest (g : GatewayIdentity) : RegistrationRequest where
  componentType := g.componentType
  idRequestType := .static
  groupId := g.groupId
  idInGroup := g.idInGroup
  componentName := g.componentName
  listenAddress := "0.0.0.0"
  listenPort := toString g.dataPlanePort
  humanReadableMessage := "registration request from MGW"

namespace GatewayDiscovery

inductive Callback where
  | success (bridgeHost : String) (bridgePort : Int) (configJson : String)
  | failure (errorMessage : String)
  deriving DecidableEq, Repr

inductive Phase where
  | registering
  | registered
  | ended
  deriving DecidableEq, Repr

structure Thread where
  phase : Phase := .registering
  keepaliveIntervalMs : Int := 5000
  callbacks : List Callback := []
  deriving DecidableEq, Repr

/-- What a turn of the loop meets. -/
inductive Turn where
  /-- `running_` is false. -/
  | stopped
  /-- There is no connection and `connect` fails. -/
  | unconnected
  /-- Nothing arrives in time; a ping is then sent, or there is no connection for it. -/
  | timedOut (sent : Bool)
  /-- `receive_data` returns nothing. -/
  | unread
  | read (bytes : List Char)
  deriving DecidableEq, Repr

/-- The string of a buffer that ends at its first zero byte. -/
def cString (bytes : List Char) : List Char := bytes.takeWhile fun ch => ch ≠ '\x00'

def Thread.fail (t : Thread) (errorMessage : String) : Thread :=
  { t with phase := .ended, callbacks := t.callbacks ++ [.failure errorMessage] }

/-- The port of a response; an empty one is 0. -/
def bridgePort (connectionTargetPort : String) : Option Int :=
  if connectionTargetPort = "" then some 0 else stoi connectionTargetPort.toList

def Thread.onResponse (t : Thread) (resp : RegistrationResponse) : Thread :=
  if resp.responseCode = .success then
    match bridgePort resp.connectionTargetPort with
    | none => t.fail "Invalid port from DiscoveryService."
    | some port =>
      { t with
        phase := .registered
        callbacks := t.callbacks ++ [.success resp.connectionTargetAddress port resp.configJson] }
  else if resp.responseCode = .wait then t
  else t.fail ("Registration denied: " ++ resp.humanReadableMessage)

/-- A turn of the first loop. -/
def Thread.register (t : Thread) : Turn → Thread
  | .stopped => { t with phase := .ended }
  | .unconnected => t.fail "Could not connect to DiscoveryService."
  | .timedOut _ => t.fail "Timeout waiting for response."
  | .unread => t
  | .read bytes =>
    match decodeMessage (String.ofList (cString bytes)) with
    | .ok (.registrationResponse resp) => t.onResponse resp
    | _ => t

/-- A turn of the second loop. -/
def Thread.keepAlive (t : Thread) : Turn → Thread
  | .stopped => { t with phase := .ended }
  | .timedOut false => { t with phase := .ended }
  | .read bytes =>
    match decodeMessage (String.ofList (cString bytes)) with
    | .ok (.keepaliveResponse pong) =>
      if 0 < pong.nextIntervalMs.toInt then { t with keepaliveIntervalMs := pong.nextIntervalMs.toInt } else t
    | _ => t
  | _ => t

def Thread.step (t : Thread) (turn : Turn) : Thread :=
  match t.phase with
  | .registering => t.register turn
  | .registered => t.keepAlive turn
  | .ended => t

/-! ## Callbacks -/

variable {t : Thread}

theorem register_read (t : Thread) (bytes : List Char) :
    t.register (.read bytes) = t ∨ ∃ resp,
      decodeMessage (String.ofList (cString bytes)) = .ok (.registrationResponse resp) ∧
        t.register (.read bytes) = t.onResponse resp := by
  unfold Thread.register
  dsimp only
  split
  · rename_i resp hdecode
    exact .inr ⟨resp, hdecode, rfl⟩
  · exact .inl rfl

theorem keepAlive_callbacks (t : Thread) (turn : Turn) : (t.keepAlive turn).callbacks = t.callbacks := by
  unfold Thread.keepAlive
  split
  · rfl
  · rfl
  · split
    · split <;> rfl
    · rfl
  · rfl

theorem keepAlive_phase (t : Thread) (turn : Turn) :
    (t.keepAlive turn).phase = t.phase ∨ (t.keepAlive turn).phase = .ended := by
  unfold Thread.keepAlive
  split
  · exact .inr rfl
  · exact .inr rfl
  · split
    · split <;> exact .inl rfl
    · exact .inl rfl
  · exact .inl rfl

/-- Between the phase and the callbacks: nothing while the thread registers, then one success or one failure. -/
structure CallsOnce (t : Thread) : Prop where
  registering : t.phase = .registering → t.callbacks = []
  registered : t.phase = .registered → ∃ host port config, t.callbacks = [.success host port config]
  once : t.callbacks.length ≤ 1

theorem callsOnce_fail (h : t.callbacks = []) (errorMessage : String) : CallsOnce (t.fail errorMessage) := by
  refine ⟨fun hphase => ?_, fun hphase => ?_, ?_⟩
  · cases hphase
  · cases hphase
  · show (t.callbacks ++ [_]).length ≤ 1
    rw [h]
    exact le_rfl

theorem CallsOnce.stop (h : CallsOnce t) : CallsOnce { t with phase := .ended } := by
  refine ⟨fun hphase => ?_, fun hphase => ?_, h.once⟩
  · cases hphase
  · cases hphase

theorem callsOnce_onResponse (h : CallsOnce t) (hphase : t.phase = .registering) (resp : RegistrationResponse) :
    CallsOnce (t.onResponse resp) := by
  have hnone := h.registering hphase
  unfold Thread.onResponse
  split
  · split
    · exact callsOnce_fail hnone _
    · rename_i port _
      refine ⟨fun hphase => ?_, fun _ => ⟨resp.connectionTargetAddress, port, resp.configJson, ?_⟩, ?_⟩
      · cases hphase
      · rw [hnone]
        rfl
      · rw [hnone]
        exact le_rfl
  · split
    · exact h
    · exact callsOnce_fail hnone _

theorem CallsOnce.step (h : CallsOnce t) (turn : Turn) : CallsOnce (t.step turn) := by
  unfold Thread.step
  split
  · rename_i hphase
    cases turn with
    | stopped => exact h.stop
    | unconnected => exact callsOnce_fail (h.registering hphase) _
    | timedOut sent => exact callsOnce_fail (h.registering hphase) _
    | unread => exact h
    | read bytes =>
        rcases register_read t bytes with hsame | ⟨resp, -, heq⟩
        · rw [hsame]
          exact h
        · rw [heq]
          exact callsOnce_onResponse h hphase resp
  · rename_i hphase
    refine ⟨fun hnext => ?_, fun _ => ?_, ?_⟩
    · rcases keepAlive_phase t turn with hsame | hended
      · rw [hsame, hphase] at hnext
        cases hnext
      · rw [hended] at hnext
        cases hnext
    · rw [keepAlive_callbacks]
      exact h.registered hphase
    · rw [keepAlive_callbacks]
      exact h.once
  · exact h

theorem callsOnce_run (turns : List Turn) : CallsOnce (run Thread.step {} turns) := by
  apply run_invariant_of_step Thread.step (I := CallsOnce) (fun _ turn h => h.step turn)
  exact ⟨fun _ => rfl, fun h => (by cases h), Nat.zero_le 1⟩

theorem fail_callbacks_ne_nil (errorMessage : String) : (t.fail errorMessage).callbacks ≠ [] :=
  List.append_ne_nil_of_right_ne_nil _ (List.cons_ne_nil _ _)

/-- **A thread that nobody stops** calls back before it ends. -/
theorem called_back {turns : List Turn} (hrun : .stopped ∉ turns) (hended : (run Thread.step {} turns).phase = .ended) :
    (run Thread.step {} turns).callbacks ≠ [] := by
  have hresponse : ∀ (t : Thread) resp, t.phase = .registering → (t.onResponse resp).phase = .ended →
      (t.onResponse resp).callbacks ≠ [] := by
    intro t resp hphase hended
    unfold Thread.onResponse at hended ⊢
    split
    · split
      · exact fail_callbacks_ne_nil _
      · exact List.append_ne_nil_of_right_ne_nil _ (List.cons_ne_nil _ _)
    · split
      · rename_i hcode hwait
        rw [if_neg hcode, if_pos hwait, hphase] at hended
        cases hended
      · exact fail_callbacks_ne_nil _
  have hinv := run_invariant Thread.step (I := fun t => CallsOnce t ∧ (t.phase = .ended → t.callbacks ≠ []))
    (C := fun _ turn => turn ≠ .stopped) ?_ turns {} ⟨callsOnce_run [], fun h => by cases h⟩ ?_
  · exact hinv.2 hended
  · rintro t turn ⟨honce, hcalled⟩ hturn
    refine ⟨honce.step turn, fun hended => ?_⟩
    unfold Thread.step at hended ⊢
    split
    · rename_i hphase
      rw [hphase] at hended
      cases turn with
      | stopped => exact absurd rfl hturn
      | unconnected | timedOut => exact fail_callbacks_ne_nil _
      | unread =>
          rw [show t.register .unread = t from rfl, hphase] at hended
          cases hended
      | read bytes =>
          dsimp only at hended ⊢
          rcases register_read t bytes with hsame | ⟨resp, -, heq⟩
          · rw [hsame, hphase] at hended
            cases hended
          · rw [heq] at hended ⊢
            exact hresponse t resp hphase hended
    · rename_i hphase
      obtain ⟨host, port, config, hcalls⟩ := honce.registered hphase
      rw [keepAlive_callbacks, hcalls]
      exact List.cons_ne_nil _ _
    · rename_i hphase
      exact hcalled hphase
  · rw [along_iff_forall_step]
    rintro pre turn hpre rfl
    exact hrun (hpre.subset (by simp))

/-- The response says SUCCESS, and this is what the thread makes of it. -/
structure Successful (resp : RegistrationResponse) (host : String) (port : Int) (config : String) : Prop where
  code : resp.responseCode = .success
  host : host = resp.connectionTargetAddress
  port : bridgePort resp.connectionTargetPort = some port
  config : config = resp.configJson

variable {host config : String} {port : Int}

theorem success_of_fail {errorMessage : String} (h : .success host port config ∈ (t.fail errorMessage).callbacks) :
    .success host port config ∈ t.callbacks := by
  rcases List.mem_append.mp h with h | h
  · exact h
  · cases List.mem_singleton.mp h

theorem success_of_onResponse {resp : RegistrationResponse}
    (h : .success host port config ∈ (t.onResponse resp).callbacks) :
    .success host port config ∈ t.callbacks ∨ Successful resp host port config := by
  unfold Thread.onResponse at h
  split at h
  · rename_i hcode
    split at h
    · exact .inl (success_of_fail h)
    · rename_i hport
      rcases List.mem_append.mp h with h | h
      · exact .inl h
      · obtain ⟨rfl, rfl, rfl⟩ := Callback.success.inj (List.mem_singleton.mp h)
        exact .inr ⟨hcode, rfl, hport, rfl⟩
  · split at h
    · exact .inl h
    · exact .inl (success_of_fail h)

theorem success_of_step {turn : Turn} (h : .success host port config ∈ (t.step turn).callbacks) :
    .success host port config ∈ t.callbacks ∨ ∃ bytes resp, turn = .read bytes ∧
      decodeMessage (String.ofList (cString bytes)) = .ok (.registrationResponse resp) ∧
      Successful resp host port config := by
  unfold Thread.step at h
  split at h
  · cases turn with
    | stopped => exact .inl h
    | unconnected => exact .inl (success_of_fail h)
    | timedOut sent => exact .inl (success_of_fail h)
    | unread => exact .inl h
    | read bytes =>
        rcases register_read t bytes with hsame | ⟨resp, hdecode, heq⟩
        · rw [hsame] at h
          exact .inl h
        · rw [heq] at h
          rcases success_of_onResponse h with h | hsuccess
          · exact .inl h
          · exact .inr ⟨bytes, resp, rfl, hdecode, hsuccess⟩
  · rw [keepAlive_callbacks] at h
    exact .inl h
  · exact .inl h

/-- **What is called back with success** is an answer that was read. -/
theorem success_of_answer {turns : List Turn}
    (h : .success host port config ∈ (run Thread.step {} turns).callbacks) :
    ∃ bytes resp, .read bytes ∈ turns ∧
      decodeMessage (String.ofList (cString bytes)) = .ok (.registrationResponse resp) ∧
      Successful resp host port config := by
  obtain ⟨pre, turn, hpre, bytes, resp, rfl, hdecode, hsuccess⟩ := exists_step_of_run Thread.step
    (I := fun _ => True) (P := fun t => .success host port config ∈ t.callbacks) (fun _ _ h => h)
    (fun t turn _ h => success_of_step h) trivial List.not_mem_nil turns h
  exact ⟨bytes, resp, hpre.subset (by simp), hdecode, hsuccess⟩

end GatewayDiscovery

end EdgeOffloading
