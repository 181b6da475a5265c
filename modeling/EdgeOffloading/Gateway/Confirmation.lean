import EdgeOffloading.Bridge.Connection
import EdgeOffloading.Gateway.Steps
import EdgeOffloading.Lib.Run

/-!
# The confirmation of the data plane

A gateway process from its start, with what the other side knows: the Bridge confirms the data plane once DP_INFO has
reached it and repeats the confirmation until an ACK arrives; in the P2P modes the peer connects once the MEC listens.
The control thread stores `WAITING_FOR_DP_CONNECTION` after the action that makes the confirmation possible, and
`on_dp_confirmed` ignores what comes before.

* `not_lost_of_timely`: a confirmation that comes after the store is not lost;
* `lost_confirmation`: in every mode one that comes before it can be.
-/

namespace EdgeOffloading

/-- The confirmation as the Bridge sends it. -/
def confirmation (seqNum : Nat) : Json := dpConnectionConfirmedMessage.set "sequence_number" (.int seqNum)

structure DataPlaneRun where
  process : GatewayProcess
  /-- DP_INFO has gone out. -/
  informed : Bool := false
  /-- The Bridge has sent its confirmation. -/
  confirmed : Bool := false
  /-- The Bridge waits for the ACK and will repeat the confirmation. -/
  unacknowledged : Bool := false
  /-- Copies of the confirmation and their ACKs that are under way. -/
  copies : Nat := 0
  acks : Nat := 0
  /-- How often `on_dp_confirmed` was called. -/
  consumed : Nat := 0

namespace DataPlaneRun

inductive Event where
  | gateway (e : GatewayProcess.Event)
  | confirm
  | resend
  | deliver (seqNum : Nat) (now : Nat)
  | acknowledge
  /-- The Bridge has used up its retries. -/
  | giveUp

variable (s : DataPlaneRun)

def isConfirmation : GatewayProcess.Event → Bool
  | .receive message _ => decide ((message.get "message_code").asInt = some 202)
  | _ => false

/-- Whether a step of the process calls `on_dp_confirmed`. -/
def callsOnDpConfirmed (p : GatewayProcess) (e : GatewayProcess.Event) : Bool :=
  !p.controller.terminated &&
    match e with
    | .receive _ _ => p.receiving && isConfirmation e
    | .confirmAccepted _ => p.accepted
    | .control o =>
      decide (p.point = .loaded .waitingForDpConnection ∧ p.controller.operationMode ≠ .networked ∧
        p.controller.componentType = .vhc ∧ o.succeeds = true)
    | _ => false

/-- A step of the process. -/
def act (e : GatewayProcess.Event) : DataPlaneRun :=
  let stepped := s.process.step e
  { s with
    process := stepped.1
    informed :=
      s.informed || decide (s.process.point = .connected ∧ stepped.1.point = .dpInfoSent) && !stepped.2.isEmpty
    consumed := if callsOnDpConfirmed s.process e then s.consumed + 1 else s.consumed }

def step : Event → DataPlaneRun
  | .gateway e => if isConfirmation e then s else s.act e
  | .confirm =>
    if s.informed = true ∧ s.confirmed = false then
      { s with confirmed := true, unacknowledged := true, copies := s.copies + 1 }
    else s
  | .resend => if s.unacknowledged then { s with copies := s.copies + 1 } else s
  | .deliver seqNum now =>
    if 0 < s.copies ∧ s.process.receiving = true then
      { s.act (.receive (confirmation seqNum) now) with copies := s.copies - 1, acks := s.acks + 1 }
    else s
  | .acknowledge => if 0 < s.acks then { s with acks := s.acks - 1, unacknowledged := false } else s
  | .giveUp => { s with unacknowledged := false }

/-- A process before its first step. -/
def start (componentType : ComponentType) (operationMode : OperationMode) (componentId : String)
    (dataPlaneListenPort : Int) : DataPlaneRun where
  process := { controller := { componentType, operationMode, componentId, dataPlaneListenPort } }

/-- A confirmation was consumed, none is still to come, and the gateway waits for one. -/
def Lost : Prop :=
  0 < s.consumed ∧ s.copies = 0 ∧ s.unacknowledged = false ∧ s.process.accepted = false ∧
    s.process.controller.state = .waitingForDpConnection

/-- The wait for the data plane has begun. -/
def Waited : Prop :=
  s.process.controller.state = .waitingForDpConnection ∨ s.process.controller.state = .operational

/-- The other thread delivers a confirmation only after the control thread has stored `WAITING_FOR_DP_CONNECTION`. -/
def Timely : Event → Prop
  | .gateway (.confirmAccepted _) => s.process.accepted = true → s.Waited
  | .deliver _ _ => 0 < s.copies → s.Waited
  | _ => True

/-! ## One step -/

/-- In a run with timely confirmations, a confirmation that was consumed has made the controller operational. -/
structure Inv : Prop where
  pointOk : GatewayProcess.PointOk s.process.point s.process.controller.state
  operational : 0 < s.consumed → s.process.controller.state = .operational

theorem inv_start (componentType : ComponentType) (operationMode : OperationMode) (componentId : String)
    (dataPlaneListenPort : Int) : (start componentType operationMode componentId dataPlaneListenPort).Inv :=
  ⟨trivial, fun h => absurd h (Nat.lt_irrefl 0)⟩

theorem state_onDpConfirmed {c : GatewayController} (h : c.state = .waitingForDpConnection ∨ c.state = .operational)
    (now : Nat) : (GatewayController.orTerminate (c.onDpConfirmed now)).state = .operational := by
  rw [(GatewayController.agree_orTerminate (c.onDpConfirmed now)).state]
  unfold GatewayController.onDpConfirmed
  split_ifs with hw hn
  · rfl
  · rw [GatewayController.activateAllP2pSessions_state]
  · exact h.resolve_left hw

theorem operational_act {e : GatewayProcess.Event} (hcalls : callsOnDpConfirmed s.process e = true)
    (hwaited : s.Waited) (he : ∀ message now, e = .receive message now → ∃ seqNum, message = confirmation seqNum) :
    (s.act e).process.controller.state = .operational := by
  obtain ⟨hlive, hcalls⟩ := (Bool.and_eq_true _ _).mp hcalls
  have hlive : s.process.controller.terminated ≠ true := by simpa using hlive
  show ((s.process.step e).1).controller.state = _
  unfold GatewayProcess.step
  dsimp only
  rw [if_neg hlive]
  cases e with
  | control o =>
      obtain ⟨hpoint, hmode, htype, hok⟩ := of_decide_eq_true hcalls
      have hcontrol : s.process.control o = (s.process.controlWaiting o, []) := by
        unfold GatewayProcess.control
        rw [hpoint]
      dsimp only
      rw [hcontrol, GatewayProcess.controlWaiting, if_pos ⟨hmode, htype, hok⟩]
      exact state_onDpConfirmed hwaited o.now
  | confirmAccepted now =>
      dsimp only
      rw [if_pos hcalls]
      exact state_onDpConfirmed hwaited now
  | receive message now =>
      obtain ⟨seqNum, rfl⟩ := he message now rfl
      dsimp only
      rw [if_pos ((Bool.and_eq_true _ _).mp hcalls).1]
      exact state_onDpConfirmed hwaited now
  | _ => cases hcalls

theorem inv_act (h : s.Inv) (e : GatewayProcess.Event)
    (hcall : callsOnDpConfirmed s.process e = true → (s.act e).process.controller.state = .operational) :
    (s.act e).Inv := by
  obtain ⟨hpoint, hmoved⟩ := GatewayProcess.consistent_step h.pointOk e
  refine ⟨hpoint, fun hconsumed => ?_⟩
  by_cases hc : callsOnDpConfirmed s.process e = true
  · exact hcall hc
  · -- the controller stays operational
    have hbefore : 0 < s.consumed := by
      unfold act at hconsumed
      simpa [hc] using hconsumed
    have hop := h.operational hbefore
    show ((s.process.step e).1).controller.state = _
    rw [hop] at hmoved
    exact hmoved.of_operational

theorem inv_step (h : s.Inv) {e : Event} (htimely : s.Timely e) : (s.step e).Inv := by
  cases e with
  | gateway e =>
      unfold step
      dsimp only
      split_ifs with hconf
      · exact h
      · refine inv_act s h e fun hcalls => ?_
        refine operational_act s hcalls ?_ ?_
        · -- a VHC that connects to its peer is in the state that it loaded
          cases e with
          | control o =>
              obtain ⟨-, hcalls⟩ := (Bool.and_eq_true _ _).mp hcalls
              obtain ⟨hpoint, -⟩ := of_decide_eq_true hcalls
              have hok := h.pointOk
              rw [hpoint] at hok
              exact hok
          | confirmAccepted now => exact htimely ((Bool.and_eq_true _ _).mp hcalls).2
          | receive message now =>
              obtain ⟨-, hcalls⟩ := (Bool.and_eq_true _ _).mp hcalls
              exact absurd ((Bool.and_eq_true _ _).mp hcalls).2 hconf
          | _ => simp [callsOnDpConfirmed] at hcalls
        · rintro message now rfl
          obtain ⟨-, hcalls⟩ := (Bool.and_eq_true _ _).mp hcalls
          exact absurd ((Bool.and_eq_true _ _).mp hcalls).2 hconf
  | confirm =>
      unfold step
      dsimp only
      split_ifs
      · exact ⟨h.pointOk, h.operational⟩
      · exact h
  | resend =>
      unfold step
      dsimp only
      split_ifs
      · exact ⟨h.pointOk, h.operational⟩
      · exact h
  | deliver seqNum now =>
      unfold step
      dsimp only
      split_ifs with hcopies
      · have hact := inv_act s h (.receive (confirmation seqNum) now) fun hcalls =>
          operational_act s hcalls (htimely hcopies.1) fun message now' hm => ⟨seqNum, by cases hm; rfl⟩
        exact ⟨hact.pointOk, hact.operational⟩
      · exact h
  | acknowledge =>
      unfold step
      dsimp only
      split_ifs
      · exact ⟨h.pointOk, h.operational⟩
      · exact h
  | giveUp => exact ⟨h.pointOk, h.operational⟩

/-! ## Runs -/

/-- **A confirmation that is delivered after the control thread has stored `WAITING_FOR_DP_CONNECTION` is not lost**, in
every mode and whatever the threads do. -/
theorem not_lost_of_timely (componentType : ComponentType) (operationMode : OperationMode) (componentId : String)
    (dataPlaneListenPort : Int) (events : List Event)
    (h : Run.Along step Timely (start componentType operationMode componentId dataPlaneListenPort) events)
    (pre : List Event) (hpre : pre <+: events) :
    ¬ Lost (Run.run step (start componentType operationMode componentId dataPlaneListenPort) pre) := by
  rintro ⟨hconsumed, -, -, -, hstate⟩
  have hinv := Run.run_invariant_on_the_way step (fun s e hs he => inv_step s hs he)
    (inv_start componentType operationMode componentId dataPlaneListenPort) h pre hpre
  rw [hinv.operational hconsumed] at hstate
  cases hstate

/-- The control thread of a networked gateway up to the store of `WAITING_FOR_DP_CONNECTION`. -/
def networkedStart : List Event :=
  let control : Event := .gateway (.control {})
  List.replicate 5 control ++ ([.gateway (.discovered (some []))] : List Event) ++ List.replicate 3 control

theorem not_lost_sample :
    ¬ Lost (Run.run step (start .vhc .networked "60:5" 7401)
      (networkedStart ++ ([.gateway (.control {}), .confirm, .deliver 1 0, .acknowledge] : List Event))) := by
  refine not_lost_of_timely .vhc .networked "60:5" 7401 _ ?_ _ List.prefix_rfl
  exact ⟨trivial, trivial, trivial, trivial, trivial, trivial, trivial, trivial, trivial, trivial, trivial,
    fun _ => Or.inl (by decide +kernel), trivial, trivial⟩

/-- The peer connects before the control thread of a MEC has stored the next state. -/
def earlyPeer : List Event :=
  let configured : Event := .gateway (.control { localConfig := some [] })
  [configured, configured, .gateway .accept, .gateway (.confirmAccepted 0), .gateway (.control {})]

/-- The MEC goes on to discover its peer. -/
def earlyPeerDiscovered : List Event :=
  let control : Event := .gateway (.control {})
  earlyPeer ++ ([control, control, .gateway (.discovered none)] : List Event)

/-- In no mode is every confirmation safe: in networked mode it comes between the sending of DP_INFO and the store, from
a peer between the start of the listening thread and the store. -/
theorem lost_confirmation :
    ¬ ∃ operationMode : OperationMode, ∀ (componentType : ComponentType) (componentId : String)
      (dataPlaneListenPort : Int) (events pre : List Event), pre <+: events →
      ¬ Lost (Run.run step (start componentType operationMode componentId dataPlaneListenPort) pre) := by
  rintro ⟨operationMode, h⟩
  cases operationMode with
  | networked =>
      refine h .vhc "60:5" 7401 _
        (networkedStart ++ ([.confirm, .deliver 1 0, .acknowledge, .gateway (.control {})] : List Event))
        List.prefix_rfl ?_
      unfold Lost
      decide +kernel
  | p2p =>
      refine h .mec "60:5" 7401 _ earlyPeer List.prefix_rfl ?_
      unfold Lost
      decide +kernel
  | p2pDs =>
      refine h .mec "60:5" 7401 _ earlyPeerDiscovered List.prefix_rfl ?_
      unfold Lost
      decide +kernel

end DataPlaneRun

end EdgeOffloading
