import EdgeOffloading.Gateway.Receiver

/-!
# From ROS and back to ROS

The two ends of a message handler: `handle_message` sends what a subscription delivers, and
`process_and_publish_received_msg` publishes what the data plane delivers. Strings go as they are, scans and joint
states in the serialization of ROS, which stands as a parameter.

* `handleMessage_eq_some`: what a handler sends;
* `published_process`, `result_process`: what a handler publishes, and what it reports;
* `published_dispatch`: the loop over the handlers publishes a message at most once;
* `publication_frame`: the message that a handler has sent is the one to publish.
-/

namespace EdgeOffloading

/-! ## Messages -/

/-- Of a scan the handlers look at the intensities alone, here the bits of the floats. -/
structure LaserScan (ρ : Type*) where
  intensities : List UInt32
  rest : ρ
  deriving DecidableEq

/-- `rclcpp::Serialization` of one message type; `none` is an exception. -/
structure Serialization (α : Type*) where
  serialize : α → List UInt8
  deserialize : List UInt8 → Option α

/-- The serializations that the handlers use. -/
structure RosSerialization (ρ γ : Type*) where
  laserScan : Serialization (LaserScan ρ)
  jointState : Serialization γ

/-- A message on a topic; a string is its bytes. -/
inductive RosMessage (ρ γ : Type*) where
  | string (data : List UInt8)
  | laserScan (msg : LaserScan ρ)
  | jointState (msg : γ)
  deriving DecidableEq

structure Publication (ρ γ : Type*) where
  topic : List UInt8
  msg : RosMessage ρ γ
  deriving DecidableEq

variable {ρ γ : Type*}

/-! ## From ROS -/

/-- The arguments of `RosGateway::send_message`. -/
structure OutgoingMessage where
  topic : List UInt8
  type : MessageType
  data : List UInt8
  options : MessageOptions
  deriving DecidableEq

/-- `MessageHandlerBase::send_message` of a handler with its gateway: `none` if nothing is sent. -/
def MessageHandler.sendMessage (h : MessageHandler) (x : OutgoingMessage) : Option OutgoingMessage :=
  if !h.isRosSubscriberEnabled then none else some x

/-- What the callbacks have in common. -/
def MessageHandler.handle (h : MessageHandler) (x : OutgoingMessage) : Option OutgoingMessage :=
  if !h.enabled || !h.isRosSubscriberEnabled then none else h.sendMessage x

def StringHandler.handleMessage (h : MessageHandler) (topic data : List UInt8) : Option OutgoingMessage :=
  h.handle ⟨topic, .string, data, {}⟩

def StringTestInputHandler.handleMessage (h : MessageHandler) (topic data : List UInt8) : Option OutgoingMessage :=
  h.handle ⟨topic, .stringTestInput, data, {}⟩

def StringTestResultHandler.handleMessage (h : MessageHandler) (topic data : List UInt8) : Option OutgoingMessage :=
  h.handle ⟨topic, .stringTestResult, data, {}⟩

def SerialStringHandler.handleMessage (h : MessageHandler) (topic data : List UInt8) : Option OutgoingMessage :=
  h.handle ⟨topic, .smSerialString, data, { serialized := false }⟩

def SerialFeedbackHandler.handleMessage (h : MessageHandler) (topic data : List UInt8) : Option OutgoingMessage :=
  h.handle ⟨topic, .smSerialFeedback, data, { serialized := false }⟩

/-- The scan without its intensities, if these are not wanted. -/
def LaserScanHandler.scanMsg (emptyIntensities : Bool) (msg : LaserScan ρ) : LaserScan ρ :=
  if emptyIntensities && !msg.intensities.isEmpty then { msg with intensities := [] } else msg

def LaserScanHandler.handleMessage (ros : RosSerialization ρ γ) (emptyIntensities : Bool) (h : MessageHandler)
    (topic : List UInt8) (msg : LaserScan ρ) : Option OutgoingMessage :=
  h.handle ⟨topic, .smLaserscan, ros.laserScan.serialize (scanMsg emptyIntensities msg),
    { serialized := true, hasTimestamp := true }⟩

def JointStateHandler.handleMessage (ros : RosSerialization ρ γ) (h : MessageHandler) (topic : List UInt8) (msg : γ) :
    Option OutgoingMessage :=
  h.handle ⟨topic, .smJointstate, ros.jointState.serialize msg, { serialized := true, hasTimestamp := true }⟩

/-- A message that ROS delivers to the subscription of the handler of this type. -/
structure Delivered (ρ γ : Type*) where
  type : MessageType
  topic : List UInt8
  msg : RosMessage ρ γ
  emptyIntensities : Bool := true

/-- The callback of the handler; a subscription gets messages of its own class alone. -/
def handleMessage (ros : RosSerialization ρ γ) (h : MessageHandler) (d : Delivered ρ γ) : Option OutgoingMessage :=
  match d.type, d.msg with
  | .string, .string data => StringHandler.handleMessage h d.topic data
  | .stringTestInput, .string data => StringTestInputHandler.handleMessage h d.topic data
  | .stringTestResult, .string data => StringTestResultHandler.handleMessage h d.topic data
  | .smSerialString, .string data => SerialStringHandler.handleMessage h d.topic data
  | .smSerialFeedback, .string data => SerialFeedbackHandler.handleMessage h d.topic data
  | .smLaserscan, .laserScan msg => LaserScanHandler.handleMessage ros d.emptyIntensities h d.topic msg
  | .smJointstate, .jointState msg => JointStateHandler.handleMessage ros h d.topic msg
  | _, _ => none

/-- What the handler sends of the message, and whether it is serialized. -/
def Delivered.sending (ros : RosSerialization ρ γ) (d : Delivered ρ γ) : OutgoingMessage :=
  match d.msg with
  | .string data => ⟨d.topic, d.type, data, {}⟩
  | .laserScan msg =>
    ⟨d.topic, d.type, ros.laserScan.serialize (LaserScanHandler.scanMsg d.emptyIntensities msg),
      { serialized := true, hasTimestamp := true }⟩
  | .jointState msg => ⟨d.topic, d.type, ros.jointState.serialize msg, { serialized := true, hasTimestamp := true }⟩

/-- The message is of the class that the handler of the type subscribes to. -/
def Delivered.Typed (d : Delivered ρ γ) : Prop :=
  match d.msg with
  | .string _ => d.type ∈ [.string, .stringTestInput, .stringTestResult, .smSerialString, .smSerialFeedback]
  | .laserScan _ => d.type = .smLaserscan
  | .jointState _ => d.type = .smJointstate

theorem MessageHandler.handle_eq (h : MessageHandler) (x : OutgoingMessage) :
    h.handle x = if h.isRosSubscriberEnabled then some x else none := by
  unfold handle sendMessage isRosSubscriberEnabled
  cases h.enabled <;> cases h.rosSubscriberEnabled <;> rfl

/-- **A handler sends** what it may, of messages of its class. -/
theorem handleMessage_eq_some {ros : RosSerialization ρ γ} {h : MessageHandler} {d : Delivered ρ γ}
    {x : OutgoingMessage} :
    handleMessage ros h d = some x ↔ h.isRosSubscriberEnabled = true ∧ d.Typed ∧ x = d.sending ros := by
  obtain ⟨type, topic, msg, emptyIntensities⟩ := d
  have hhandle : ∀ y : OutgoingMessage, h.handle y = some x ↔ h.isRosSubscriberEnabled = true ∧ x = y := by
    intro y
    rw [h.handle_eq]
    by_cases henabled : h.isRosSubscriberEnabled = true
    · simp only [henabled, if_true, Option.some.injEq, true_and, eq_comm]
    · simp only [henabled, if_false, reduceCtorEq, false_and]
  cases msg <;> cases type <;>
    simp [handleMessage, Delivered.Typed, Delivered.sending, hhandle, StringHandler.handleMessage,
      StringTestInputHandler.handleMessage, StringTestResultHandler.handleMessage, SerialStringHandler.handleMessage,
      SerialFeedbackHandler.handleMessage, LaserScanHandler.handleMessage, JointStateHandler.handleMessage]

/-! ## Back to ROS -/

/-- What a call of `process_and_publish_received_msg` does: its result, the topics of `publishers_` behind it and what
it publishes. -/
structure Processed (ρ γ : Type*) where
  result : Bool
  publishers : List (List UInt8)
  published : List (Publication ρ γ)

/-- The publisher of a topic is created when a message for it comes. -/
def withPublisher (publishers : List (List UInt8)) (topic : List UInt8) : List (List UInt8) :=
  if topic ∈ publishers then publishers else publishers ++ [topic]

section Process

variable (h : MessageHandler) (publishers : List (List UInt8)) (topic : List UInt8) (type : UInt8) (data : List UInt8)
  (options : MessageOptions)

/-- A raw string. One in serialized form is reported as processed, but not published. -/
def publishString : Processed ρ γ :=
  if options.serialized then ⟨true, withPublisher publishers topic, []⟩
  else ⟨true, withPublisher publishers topic, [⟨topic, .string data⟩]⟩

/-- A raw string of the serial handlers, which report one in serialized form as not processed. -/
def publishSerial : Processed ρ γ :=
  if options.serialized then ⟨false, withPublisher publishers topic, []⟩
  else ⟨true, withPublisher publishers topic, [⟨topic, .string data⟩]⟩

/-- A serialized message. -/
def publishSerialized {α : Type*} (S : Serialization α) (toMessage : α → RosMessage ρ γ) : Processed ρ γ :=
  if options.serialized = false then ⟨false, withPublisher publishers topic, []⟩
  else
    match S.deserialize data with
    | none => ⟨false, withPublisher publishers topic, []⟩
    | some msg => ⟨true, withPublisher publishers topic, [⟨topic, toMessage msg⟩]⟩

/-- The checks of all handlers but `string_handler`. -/
def MessageHandler.guarded (mt : MessageType) (body : Processed ρ γ) : Processed ρ γ :=
  if !h.enabled || !h.isRosPublisherEnabled || !canProcessMessageType mt type then ⟨false, publishers, []⟩ else body

/-- This one does not look at the publisher mode. -/
def StringHandler.processAndPublishReceivedMsg : Processed ρ γ :=
  if !h.enabled || !canProcessMessageType .string type then ⟨false, publishers, []⟩
  else publishString publishers topic data options

def StringTestInputHandler.processAndPublishReceivedMsg : Processed ρ γ :=
  h.guarded publishers type .stringTestInput (publishString publishers topic data options)

def StringTestResultHandler.processAndPublishReceivedMsg : Processed ρ γ :=
  h.guarded publishers type .stringTestResult (publishString publishers topic data options)

def SerialStringHandler.processAndPublishReceivedMsg : Processed ρ γ :=
  h.guarded publishers type .smSerialString (publishSerial publishers topic data options)

def SerialFeedbackHandler.processAndPublishReceivedMsg : Processed ρ γ :=
  h.guarded publishers type .smSerialFeedback (publishSerial publishers topic data options)

def LaserScanHandler.processAndPublishReceivedMsg (ros : RosSerialization ρ γ) : Processed ρ γ :=
  h.guarded publishers type .smLaserscan (publishSerialized publishers topic data options ros.laserScan .laserScan)

def JointStateHandler.processAndPublishReceivedMsg (ros : RosSerialization ρ γ) : Processed ρ γ :=
  h.guarded publishers type .smJointstate (publishSerialized publishers topic data options ros.jointState .jointState)

/-- The method of the handler of this type; the types without a handler class have the one of the base class. -/
def processAndPublishReceivedMsg (ros : RosSerialization ρ γ) (mt : MessageType) : Processed ρ γ :=
  match mt with
  | .string => StringHandler.processAndPublishReceivedMsg h publishers topic type data options
  | .stringTestInput => StringTestInputHandler.processAndPublishReceivedMsg h publishers topic type data options
  | .stringTestResult => StringTestResultHandler.processAndPublishReceivedMsg h publishers topic type data options
  | .smSerialString => SerialStringHandler.processAndPublishReceivedMsg h publishers topic type data options
  | .smSerialFeedback => SerialFeedbackHandler.processAndPublishReceivedMsg h publishers topic type data options
  | .smLaserscan => LaserScanHandler.processAndPublishReceivedMsg h publishers topic type data options ros
  | .smJointstate => JointStateHandler.processAndPublishReceivedMsg h publishers topic type data options ros
  | .int32 | .float32 | .bool => ⟨false, publishers, []⟩

/-- The message to publish for these bytes, if they are of the form that the handler of the type expects. -/
def publicationOf (ros : RosSerialization ρ γ) (mt : MessageType) (topic data : List UInt8) (serialized : Bool) :
    Option (Publication ρ γ) :=
  match mt, serialized with
  | .string, false | .stringTestInput, false | .stringTestResult, false | .smSerialString, false
  | .smSerialFeedback, false => some ⟨topic, .string data⟩
  | .smLaserscan, true => (ros.laserScan.deserialize data).map fun msg => ⟨topic, .laserScan msg⟩
  | .smJointstate, true => (ros.jointState.deserialize data).map fun msg => ⟨topic, .jointState msg⟩
  | _, _ => none

variable {h : MessageHandler} {type}

theorem MessageHandler.guarded_eq {mt : MessageType} (henabled : h.isRosPublisherEnabled = true)
    (haccepts : canProcessMessageType mt type = true) (body : Processed ρ γ) :
    h.guarded publishers type mt body = body := by
  have hon : h.enabled = true := (Bool.and_eq_true_iff.mp henabled).1
  unfold guarded
  rw [hon, henabled, haccepts]
  rfl

theorem StringHandler.process_eq (henabled : h.isRosPublisherEnabled = true)
    (haccepts : canProcessMessageType .string type = true) :
    (processAndPublishReceivedMsg h publishers topic type data options : Processed ρ γ) =
      publishString publishers topic data options := by
  have hon : h.enabled = true := (Bool.and_eq_true_iff.mp henabled).1
  unfold processAndPublishReceivedMsg
  rw [hon, haccepts]
  rfl

theorem published_serialized {α : Type*} (S : Serialization α) (toMessage : α → RosMessage ρ γ) :
    (publishSerialized publishers topic data options S toMessage).published =
      if options.serialized then ((S.deserialize data).map fun msg => Publication.mk topic (toMessage msg)).toList
      else [] := by
  unfold publishSerialized
  cases options.serialized
  · rfl
  · cases S.deserialize data <;> rfl

theorem result_serialized {α : Type*} (S : Serialization α) (toMessage : α → RosMessage ρ γ) :
    (publishSerialized publishers topic data options S toMessage).result =
      (options.serialized && (S.deserialize data).isSome) := by
  unfold publishSerialized
  cases options.serialized
  · rfl
  · cases S.deserialize data <;> rfl

/-- **A handler publishes** the message, if there is one. -/
theorem published_process (ros : RosSerialization ρ γ) {mt : MessageType} (henabled : h.isRosPublisherEnabled = true)
    (haccepts : canProcessMessageType mt type = true) :
    (processAndPublishReceivedMsg h publishers topic type data options ros mt).published =
      (publicationOf ros mt topic data options.serialized).toList := by
  cases mt with
  | string =>
      rw [processAndPublishReceivedMsg, StringHandler.process_eq publishers topic data options henabled haccepts]
      unfold publishString
      cases options.serialized <;> rfl
  | stringTestInput | stringTestResult =>
      refine (congrArg Processed.published (MessageHandler.guarded_eq publishers henabled haccepts _)).trans ?_
      unfold publishString
      cases options.serialized <;> rfl
  | smSerialString | smSerialFeedback =>
      refine (congrArg Processed.published (MessageHandler.guarded_eq publishers henabled haccepts _)).trans ?_
      unfold publishSerial
      cases options.serialized <;> rfl
  | smLaserscan | smJointstate =>
      refine (congrArg Processed.published (MessageHandler.guarded_eq publishers henabled haccepts _)).trans ?_
      rw [published_serialized]
      cases options.serialized <;> rfl
  | int32 | float32 | bool => rfl

theorem result_process (ros : RosSerialization ρ γ) {mt : MessageType} (henabled : h.isRosPublisherEnabled = true)
    (haccepts : canProcessMessageType mt type = true) :
    (processAndPublishReceivedMsg h publishers topic type data options ros mt).result =
      ((publicationOf ros mt topic data options.serialized).isSome ||
        decide (mt ∈ [.string, .stringTestInput, .stringTestResult])) := by
  cases mt with
  | string =>
      rw [processAndPublishReceivedMsg, StringHandler.process_eq publishers topic data options henabled haccepts]
      unfold publishString
      cases options.serialized <;> rfl
  | stringTestInput | stringTestResult =>
      refine (congrArg Processed.result (MessageHandler.guarded_eq publishers henabled haccepts _)).trans ?_
      unfold publishString
      cases options.serialized <;> rfl
  | smSerialString | smSerialFeedback =>
      refine (congrArg Processed.result (MessageHandler.guarded_eq publishers henabled haccepts _)).trans ?_
      unfold publishSerial
      cases options.serialized <;> rfl
  | smLaserscan | smJointstate =>
      refine (congrArg Processed.result (MessageHandler.guarded_eq publishers henabled haccepts _)).trans ?_
      rw [result_serialized]
      cases options.serialized <;> simp [publicationOf]
  | int32 | float32 | bool => rfl

end Process

/-! ## The loop over the handlers -/

/-- What the loop of `receive_and_process_message` leaves: the publishers of each handler, `processed` and what has been
published. -/
structure Dispatch (ρ γ : Type*) where
  publishers : MessageType → List (List UInt8)
  processed : Bool
  published : List (Publication ρ γ)

namespace RosGateway

variable (g : RosGateway) (ros : RosSerialization ρ γ)

/-- One handler, if it may publish and accepts the type. -/
def offer (m : ReceivedMessage) (d : Dispatch ρ γ) (name : String) : Dispatch ρ γ :=
  match g.handlers name with
  | none => d
  | some mt =>
    if (g.handlerOf mt).isRosPublisherEnabled && canProcessMessageType mt m.type then
      let p := processAndPublishReceivedMsg (g.handlerOf mt) (d.publishers mt) m.topic m.type m.payload m.options ros mt
      { publishers := Function.update d.publishers mt p.publishers
        processed := d.processed || p.result
        published := d.published ++ p.published }
    else d

def dispatch (publishers : MessageType → List (List UInt8)) (m : ReceivedMessage) : Dispatch ρ γ :=
  handlerNames.foldl (g.offer ros m) ⟨publishers, false, []⟩

theorem dispatch_eq_offered (publishers : MessageType → List (List UInt8)) (m : ReceivedMessage) :
    g.dispatch ros publishers m = (g.offered m.type).foldl (g.offer ros m) ⟨publishers, false, []⟩ := by
  unfold dispatch offered
  rw [List.foldl_filter]
  congr 1
  funext d name
  unfold offer
  cases g.handlers name with
  | none => rfl
  | some mt =>
      dsimp only
      split_ifs <;> rfl

theorem toUInt8_injective : Function.Injective MessageType.toUInt8 := by
  intro mt mt' h
  cases mt <;> cases mt' <;> first | rfl | exact absurd h (by decide)

theorem offered_cases {g : RosGateway} (hkeyed : g.Keyed) (mt : MessageType) :
    g.offered mt.toUInt8 = [] ∨ ∃ name, g.offered mt.toUInt8 = [name] ∧ g.handlers name = some mt ∧
      (g.handlerOf mt).isRosPublisherEnabled = true := by
  have hmem : ∀ name ∈ g.offered mt.toUInt8, g.handlers name = some mt ∧
      (g.handlerOf mt).isRosPublisherEnabled = true := by
    intro name hname
    obtain ⟨mt', hmt', henabled, haccepts⟩ := (mem_offered_iff hkeyed _ _).mp hname
    obtain rfl : mt = mt' := toUInt8_injective (of_decide_eq_true haccepts)
    exact ⟨hmt', henabled⟩
  have hnodup := g.nodup_offered mt.toUInt8
  cases hlist : g.offered mt.toUInt8 with
  | nil => exact .inl rfl
  | cons name rest =>
      rw [hlist] at hmem hnodup
      obtain ⟨hname, henabled⟩ := hmem name List.mem_cons_self
      refine .inr ⟨name, ?_, hname, henabled⟩
      cases rest with
      | nil => rfl
      | cons name' rest =>
          obtain ⟨hname', -⟩ := hmem name' (by simp)
          obtain ⟨cls, hcls, rfl⟩ := hkeyed _ _ hname
          obtain ⟨cls', hcls', rfl⟩ := hkeyed _ _ hname'
          obtain rfl : cls = cls' := Option.some.inj (hcls.symm.trans hcls')
          simp at hnodup

end RosGateway

/-- The type with this value; no handler accepts another value. -/
def MessageType.ofUInt8? (type : UInt8) : Option MessageType :=
  [.string, .int32, .float32, .bool, .smLaserscan, .stringTestInput, .stringTestResult, .smSerialString, .smJointstate,
    .smSerialFeedback].find? fun mt => mt.toUInt8 = type

theorem MessageType.ofUInt8?_toUInt8 (mt : MessageType) : ofUInt8? mt.toUInt8 = some mt := by
  cases mt <;> rfl

/-- What is published of a decoded message. -/
def ReceivedMessage.publications (ros : RosSerialization ρ γ) (m : ReceivedMessage) : List (Publication ρ γ) :=
  if m.offeredTo = [] then []
  else
    ((MessageType.ofUInt8? m.type).bind fun mt =>
      publicationOf ros mt m.topic m.payload m.options.serialized).toList

/-- **The loop** publishes a message once, if a handler is there for it. -/
theorem published_dispatch (ros : RosSerialization ρ γ) {g : RosGateway} (hkeyed : g.Keyed)
    (publishers : MessageType → List (List UInt8)) {m : ReceivedMessage} (hoffered : m.offeredTo = g.offered m.type) :
    (g.dispatch ros publishers m).published = m.publications ros := by
  rw [g.dispatch_eq_offered]
  unfold ReceivedMessage.publications
  rw [hoffered]
  by_cases hnone : g.offered m.type = []
  · rw [hnone, if_pos rfl]
    rfl
  · obtain ⟨name, hname⟩ := List.exists_mem_of_ne_nil _ hnone
    obtain ⟨mt, -, -, haccepts⟩ := (RosGateway.mem_offered_iff hkeyed _ _).mp hname
    have htype : m.type = mt.toUInt8 := of_decide_eq_true haccepts
    rw [if_neg hnone, htype, MessageType.ofUInt8?_toUInt8]
    rcases RosGateway.offered_cases hkeyed mt with hnil | ⟨name, hone, hname, henabled⟩
    · exact absurd (htype ▸ hnil) hnone
    · rw [hone]
      show (g.offer ros m ⟨publishers, false, []⟩ name).published = _
      unfold RosGateway.offer
      rw [hname]
      dsimp only
      rw [if_pos (Bool.and_eq_true_iff.mpr ⟨henabled, haccepts⟩)]
      exact published_process _ _ _ _ ros henabled haccepts

theorem offeredTo_of_done {t : GatewayTransport} {g : RosGateway} {s s' : GatewaySocket} {m : ReceivedMessage}
    (h : receiveAndProcessMessage t g s = .done m s') : m.offeredTo = g.offered m.type := by
  unfold receiveAndProcessMessage PartialRead.Result.andThen at h
  split at h
  · dsimp only at h
    split at h
    · injection h with hm
      rw [← hm]
    · cases h
    · cases h
  · cases h
  · cases h

end EdgeOffloading
