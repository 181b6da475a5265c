import EdgeOffloading.Gateway.Handlers
import EdgeOffloading.Gateway.Header
import EdgeOffloading.Lib.PartialRead

/-!
# The receive path of a gateway

`receive_and_process_message` makes three exact reads, two of them with sizes from the bytes before: the eleven fixed
bytes of the header, the topic, the payload. Then it offers the message to the registered handlers. Both transports of
the gateway have a `receive_exact` of their own with the same body.

* `reads_receiveAndProcessMessage`: one call takes exactly one frame off the stream, whatever the partial reads are;
* `mem_offered_iff`: the handlers a message is offered to;
* `receiveMessages_frames`: repeated calls decode the sequence of frames.
-/

namespace EdgeOffloading

open PartialRead

/-! ## The transports -/

/-- The socket of a gateway's transport, with the bytes that the peer sends and the outcomes of `recv`. -/
structure GatewaySocket where
  connected : Bool
  socketFd : Int
  source : Source UInt8

/-- `handle_disconnect_detected`: the socket is closed. -/
def GatewaySocket.handleDisconnectDetected (s : GatewaySocket) : GatewaySocket :=
  { s with connected := false, socketFd := -1 }

/-- The body of `receive_exact`, the same in both transports: they differ in the sleep before `recv` is tried again. -/
def receiveExact (size : Nat) (s : GatewaySocket) : Result (List UInt8) GatewaySocket :=
  if !s.connected || s.socketFd < 0 then .failed s
  else
    match readExact size s.source with
    | .done data source => .done data { s with source := source }
    | .failed source => .failed { s with source := source }.handleDisconnectDetected
    | .waiting => .waiting

/-- The transports a gateway can have. -/
inductive GatewayTransport where
  | tcpClient
  | tcpServer
  deriving DecidableEq, Repr

def TcpClientTransport.receiveExact (size : Nat) (s : GatewaySocket) : Result (List UInt8) GatewaySocket :=
  EdgeOffloading.receiveExact size s

def TcpServerTransport.receiveExact (size : Nat) (s : GatewaySocket) : Result (List UInt8) GatewaySocket :=
  EdgeOffloading.receiveExact size s

def GatewayTransport.receiveExact : GatewayTransport → Nat → GatewaySocket → Result (List UInt8) GatewaySocket
  | .tcpClient => TcpClientTransport.receiveExact
  | .tcpServer => TcpServerTransport.receiveExact

/-- The socket is open. -/
def GatewaySocket.Open (s : GatewaySocket) : Prop := s.connected = true ∧ 0 ≤ s.socketFd

instance (s : GatewaySocket) : Decidable s.Open := inferInstanceAs (Decidable (_ ∧ _))

/-- The socket with another state of its source. -/
def GatewaySocket.withSource (s : GatewaySocket) (source : Source UInt8) : GatewaySocket := { s with source := source }

theorem reads_receiveExact (t : GatewayTransport) {s : GatewaySocket} (hopen : s.Open) (source : Source UInt8)
    (hclean : Clean source.schedule) (size : Nat) (hsize : size ≤ source.stream.length) :
    Reads s.withSource source size (source.stream.take size) (t.receiveExact size (s.withSource source)) := by
  have hopen' : ¬ (!(s.withSource source).connected || decide ((s.withSource source).socketFd < 0)) = true := by
    have hfd := hopen.2
    rw [show (s.withSource source).connected = true from hopen.1]
    show ¬ (decide (s.socketFd < 0)) = true
    rw [decide_eq_true_eq]
    omega
  have hbody : Reads s.withSource source size (source.stream.take size) (receiveExact size (s.withSource source)) := by
    unfold receiveExact
    rw [if_neg hopen']
    rcases reads_readExact hclean hsize with ⟨hwait, hfew⟩ | ⟨schedule', hread, hdone⟩
    · refine .inl ⟨?_, hfew⟩
      rw [show (s.withSource source).source = source from rfl, hwait]
    · refine .inr ⟨schedule', hread, ?_⟩
      rw [show (s.withSource source).source = source from rfl, hdone]
      rfl
  cases t with
  | tcpClient => exact hbody
  | tcpServer => exact hbody

/-! ## The handlers -/

/-- `can_process_message_type` of the handler of a type: each class accepts the value of its own type. -/
def canProcessMessageType (mt : MessageType) (type : UInt8) : Bool := type = mt.toUInt8

/-- The names of the handler classes in the order of `std::map`. -/
def handlerNames : List String :=
  ["joint_state_handler", "laserscan_handler", "serial_feedback_handler", "serial_string_handler", "string_handler",
    "string_test_input_handler", "string_test_result_handler"]

namespace RosGateway

/-- The loop over `handlers_`: the names of the handlers whose `process_and_publish_received_msg` is called. -/
def offered (g : RosGateway) (type : UInt8) : List String :=
  handlerNames.filter fun name =>
    match g.handlers name with
    | none => false
    | some mt => (g.handlerOf mt).isRosPublisherEnabled && canProcessMessageType mt type

theorem mem_handlerNames {mt : MessageType} {cls : HandlerClass} (h : mtCreatorMap mt = some cls) :
    cls.name ∈ handlerNames := by
  have hall : ∀ mt : MessageType, ∀ cls ∈ mtCreatorMap mt, cls.name ∈ handlerNames := by
    intro mt
    cases mt <;> decide
  exact hall mt cls h

theorem mem_offered_iff {g : RosGateway} (hkeyed : g.Keyed) (type : UInt8) (name : String) :
    name ∈ g.offered type ↔ ∃ mt, g.handlers name = some mt ∧ (g.handlerOf mt).isRosPublisherEnabled = true ∧
      canProcessMessageType mt type = true := by
  unfold offered
  rw [List.mem_filter]
  constructor
  · rintro ⟨-, hoffer⟩
    cases hname : g.handlers name with
    | none =>
        rw [hname] at hoffer
        cases hoffer
    | some mt =>
        rw [hname] at hoffer
        exact ⟨mt, rfl, (Bool.and_eq_true_iff.mp hoffer).1, (Bool.and_eq_true_iff.mp hoffer).2⟩
  · rintro ⟨mt, hname, henabled, haccepts⟩
    obtain ⟨cls, hcls, rfl⟩ := hkeyed name mt hname
    refine ⟨mem_handlerNames hcls, ?_⟩
    rw [hname]
    exact Bool.and_eq_true_iff.mpr ⟨henabled, haccepts⟩

theorem nodup_offered (g : RosGateway) (type : UInt8) : (g.offered type).Nodup := by
  have hnames : handlerNames.Nodup := by decide
  exact hnames.filter _

end RosGateway

/-! ## One message -/

/-- The header as the gateway has it behind the topic. -/
structure ReceivedHeader where
  topic : List UInt8
  type : UInt8
  idGroup : UInt8
  identifierInGroup : UInt8
  dataSize : UInt32
  options : MessageOptions
  deriving DecidableEq, Repr

/-- A decoded message and the handlers it was offered to. -/
structure ReceivedMessage where
  topic : List UInt8
  type : UInt8
  options : MessageOptions
  payload : List UInt8
  offeredTo : List String
  deriving DecidableEq, Repr

/-- The first two reads of `receive_and_process_message`. -/
def receiveHeader (t : GatewayTransport) (s : GatewaySocket) : Result ReceivedHeader GatewaySocket :=
  (t.receiveExact minHeaderLen s).andThen fun start s =>
    match parseHeaderStart start with
    | none => .failed s
    | some h =>
      (t.receiveExact h.topicLen.toNat s).andThen fun topic s =>
        .done ⟨topic, h.type, h.idGroup, h.identifierInGroup, h.dataSize, .ofFlags h.flags⟩ s

/-- `failed` is the result `false`; the buffers for topic and payload can be allocated. -/
def receiveAndProcessMessage (t : GatewayTransport) (g : RosGateway) (s : GatewaySocket) :
    Result ReceivedMessage GatewaySocket :=
  (receiveHeader t s).andThen fun h s =>
    (t.receiveExact h.dataSize.toNat s).andThen fun data s =>
      .done ⟨h.topic, h.type, h.options, data, g.offered h.type⟩ s

theorem reads_receiveHeader (t : GatewayTransport) {s : GatewaySocket} (hopen : s.Open) (source : Source UInt8)
    (hclean : Clean source.schedule) {h : HeaderStart}
    (hparse : parseHeaderStart (source.stream.take minHeaderLen) = some h)
    (hlength : minHeaderLen + h.topicLen.toNat ≤ source.stream.length) :
    Reads s.withSource source (minHeaderLen + h.topicLen.toNat)
      ⟨(source.stream.drop minHeaderLen).take h.topicLen.toNat, h.type, h.idGroup, h.identifierInGroup, h.dataSize,
        .ofFlags h.flags⟩ (receiveHeader t (s.withSource source)) := by
  refine (reads_receiveExact t hopen source hclean minHeaderLen (by omega)).andThen fun schedule' hclean' => ?_
  rw [hparse]
  have hread := reads_receiveExact t hopen ⟨source.stream.drop minHeaderLen, schedule'⟩ hclean'
    h.topicLen.toNat (by rw [List.length_drop]; omega)
  exact hread.andThen (m := 0) fun schedule'' hclean'' => reads_done hclean'' _

theorem receiveHeader_eq_failed (t : GatewayTransport) {s : GatewaySocket} (hopen : s.Open) (source : Source UInt8)
    (hclean : Clean source.schedule) (hlength : minHeaderLen ≤ source.stream.length)
    (henough : minHeaderLen ≤ supply source.schedule)
    (hparse : parseHeaderStart (source.stream.take minHeaderLen) = none) :
    ∃ schedule', receiveHeader t (s.withSource source) =
      .failed (s.withSource ⟨source.stream.drop minHeaderLen, schedule'⟩) := by
  obtain ⟨schedule', -, hdone⟩ := (reads_receiveExact t hopen source hclean _ hlength).done henough
  refine ⟨schedule', ?_⟩
  unfold receiveHeader
  rw [hdone]
  show (match parseHeaderStart (source.stream.take minHeaderLen) with
    | none => _
    | some h => _) = _
  rw [hparse]

section Header

variable (topic : List UInt8) (type : MessageType) (idGroup identifierInGroup : UInt8) (dataSize : UInt32)
  (options : MessageOptions)

/-- The header as it comes back. -/
def recoveredHeader : ReceivedHeader :=
  ⟨writtenTopic topic, type.toUInt8, idGroup, identifierInGroup, dataSize,
    { options with version := options.version % 8 }⟩

theorem createHeaderInBuffer_eq (n : Nat) :
    createHeaderInBuffer topic type idGroup identifierInGroup n options =
      headerStart topic type idGroup identifierInGroup n options ++ writtenTopic topic := rfl

theorem length_createHeaderInBuffer (n : Nat) :
    (createHeaderInBuffer topic type idGroup identifierInGroup n options).length =
      minHeaderLen + min topic.length 255 := by
  rw [createHeaderInBuffer_eq, List.length_append]
  simp [headerStart, writtenTopic, minHeaderLen]

/-- **The header of the writers** is read back. -/
theorem reads_receiveHeader_created (t : GatewayTransport) {s : GatewaySocket} (hopen : s.Open) (rest : List UInt8)
    {schedule : List Outcome} (hclean : Clean schedule) :
    Reads s.withSource
      ⟨createHeaderInBuffer topic type idGroup identifierInGroup dataSize.toNat options ++ rest, schedule⟩
      (minHeaderLen + min topic.length 255) (recoveredHeader topic type idGroup identifierInGroup dataSize options)
      (receiveHeader t (s.withSource
        ⟨createHeaderInBuffer topic type idGroup identifierInGroup dataSize.toNat options ++ rest, schedule⟩)) := by
  have hsplit : createHeaderInBuffer topic type idGroup identifierInGroup dataSize.toNat options ++ rest =
      headerStart topic type idGroup identifierInGroup dataSize.toNat options ++ (writtenTopic topic ++ rest) := by
    rw [createHeaderInBuffer_eq, List.append_assoc]
  have hstart : (createHeaderInBuffer topic type idGroup identifierInGroup dataSize.toNat options ++ rest).take
      minHeaderLen = headerStart topic type idGroup identifierInGroup dataSize.toNat options := by
    rw [hsplit]
    exact List.take_left' rfl
  have hdrop : (createHeaderInBuffer topic type idGroup identifierInGroup dataSize.toNat options ++ rest).drop
      minHeaderLen = writtenTopic topic ++ rest := by
    rw [hsplit]
    exact List.drop_left' rfl
  have hparse := parseHeaderStart_headerStart topic type idGroup identifierInGroup dataSize options
  have htopic : (writtenTopic topic).length = min topic.length 255 := by simp [writtenTopic]
  have hread := reads_receiveHeader t hopen
    ⟨createHeaderInBuffer topic type idGroup identifierInGroup dataSize.toNat options ++ rest, schedule⟩ hclean
    (hstart ▸ hparse) (by
      rw [List.length_append, length_createHeaderInBuffer]
      dsimp only
      rw [toNat_topicLength]
      omega)
  dsimp only at hread
  rw [toNat_topicLength, hdrop, ← htopic, List.take_left, htopic, MessageOptions.ofFlags_toFlags] at hread
  exact hread

end Header

/-- What a frame is decoded to, and whom it is offered to by a gateway with these handlers. -/
def Frame.received (f : Frame) (g : RosGateway) : ReceivedMessage :=
  ⟨writtenTopic f.topic, f.type.toUInt8, { f.options with version := f.options.version % 8 }, f.payload,
    g.offered f.type.toUInt8⟩

/-- **One call** takes one frame off the stream. -/
theorem reads_receiveAndProcessMessage (t : GatewayTransport) (g : RosGateway) {s : GatewaySocket} (hopen : s.Open)
    (f : Frame) (hpay : f.payload.length < 2 ^ 32) (rest : List UInt8) {schedule : List Outcome}
    (hclean : Clean schedule) :
    Reads s.withSource ⟨f.bytes ++ rest, schedule⟩ f.bytes.length (f.received g)
      (receiveAndProcessMessage t g (s.withSource ⟨f.bytes ++ rest, schedule⟩)) := by
  obtain ⟨dataSize, hsize⟩ : ∃ n : UInt32, n.toNat = f.payload.length := by
    refine ⟨UInt32.ofNat f.payload.length, ?_⟩
    rw [UInt32.toNat_ofNat']
    exact Nat.mod_eq_of_lt hpay
  have hheader : f.header =
      createHeaderInBuffer f.topic f.type f.idGroup f.identifierInGroup dataSize.toNat f.options := by
    rw [hsize]
    rfl
  have hlen : f.header.length = minHeaderLen + min f.topic.length 255 := length_createHeaderInBuffer ..
  have hbytes : f.bytes ++ rest = f.header ++ (f.payload ++ rest) := List.append_assoc _ _ _
  have hlength : f.bytes.length = minHeaderLen + min f.topic.length 255 + dataSize.toNat := by
    rw [hsize]
    exact f.length_bytes
  rw [hbytes, hlength]
  have hread := reads_receiveHeader_created f.topic f.type f.idGroup f.identifierInGroup dataSize f.options t hopen
    (f.payload ++ rest) hclean
  rw [← hheader] at hread
  refine hread.andThen fun schedule' hclean' => ?_
  dsimp only
  rw [← hlen, List.drop_left]
  have hpayload := reads_receiveExact t hopen ⟨f.payload ++ rest, schedule'⟩ hclean'
    dataSize.toNat (by simp [hsize])
  refine hpayload.andThen (m := 0) fun schedule'' hclean'' => ?_
  have hvalue : (f.payload ++ rest).take dataSize.toNat = f.payload := by
    rw [hsize]
    exact List.take_left
  rw [hvalue]
  exact reads_done hclean'' _

/-! ## Repeated calls -/

/-- The calls of the receiver thread, each with the handlers of that moment: what they decode, and the socket behind
them unless one of them still waits. -/
def receiveMessages (t : GatewayTransport) :
    List RosGateway → GatewaySocket → List ReceivedMessage × Option GatewaySocket
  | [], s => ([], some s)
  | g :: gs, s =>
    match receiveAndProcessMessage t g s with
    | .done message s => (message :: (receiveMessages t gs s).1, (receiveMessages t gs s).2)
    | .failed s => receiveMessages t gs s
    | .waiting => ([], none)

/-- The bytes of the frames, one after the other. -/
def wire (fs : List Frame) : List UInt8 := (fs.map Frame.bytes).flatten

theorem wire_append (fs fs' : List Frame) : wire (fs ++ fs') = wire fs ++ wire fs' := by simp [wire]

theorem receiveMessages_clean (t : GatewayTransport) {s : GatewaySocket} (hopen : s.Open) (rest : List UInt8) :
    ∀ (fs : List Frame) (gs : List RosGateway) (schedule : List Outcome), gs.length = fs.length →
      (∀ f ∈ fs, f.payload.length < 2 ^ 32) → Clean schedule →
      (∃ k, k < fs.length ∧ supply schedule < (wire fs).length ∧
          receiveMessages t gs (s.withSource ⟨wire fs ++ rest, schedule⟩) =
            ((List.zipWith Frame.received fs gs).take k, none)) ∨
        ∃ schedule', ReadOff (wire fs).length schedule schedule' ∧
          receiveMessages t gs (s.withSource ⟨wire fs ++ rest, schedule⟩) =
            (List.zipWith Frame.received fs gs, some (s.withSource ⟨rest, schedule'⟩)) := by
  intro fs
  induction fs with
  | nil =>
      intro gs schedule hlen _ hclean
      rw [List.length_eq_zero_iff.mp hlen]
      exact .inr ⟨schedule, ⟨hclean, le_rfl⟩, rfl⟩
  | cons f fs ih =>
      intro gs schedule hlen hpay hclean
      obtain ⟨g, gs, rfl⟩ := List.exists_cons_of_length_eq_add_one hlen
      have hwire : wire (f :: fs) ++ rest = f.bytes ++ (wire fs ++ rest) := by simp [wire]
      have htotal : (wire (f :: fs)).length = f.bytes.length + (wire fs).length := by simp [wire]
      have hread := reads_receiveAndProcessMessage t g hopen f (hpay f List.mem_cons_self) (wire fs ++ rest) hclean
      rw [hwire, htotal]
      unfold receiveMessages
      rcases hread with ⟨hwait, hfew⟩ | ⟨schedule', hoff, hdone⟩
      · rw [hwait]
        exact .inl ⟨0, by simp, by dsimp only at hfew; omega, rfl⟩
      · rw [hdone]
        dsimp only
        rw [List.drop_left]
        have hsupply := hoff.supply
        have hpays : ∀ f' ∈ fs, _ := fun f' hf' => hpay f' (List.mem_cons_of_mem f hf')
        rcases ih gs schedule' (by simpa using hlen) hpays hoff.clean with ⟨k, hk, hfew, heq⟩ | ⟨schedule'', hoff', heq⟩
        · rw [heq]
          refine .inl ⟨k + 1, by simpa using hk, ?_, rfl⟩
          dsimp only at hsupply
          omega
        · rw [heq]
          exact .inr ⟨schedule'', hoff.trans hoff', rfl⟩

/-- A message is offered, once, to exactly the registered handlers that may publish and accept its type. -/
def OffersExactly (g : RosGateway) : Prop :=
  ∀ type, (g.offered type).Nodup ∧ ∀ name, name ∈ g.offered type ↔
    ∃ mt, g.handlers name = some mt ∧ (g.handlerOf mt).isRosPublisherEnabled = true ∧
      canProcessMessageType mt type = true

/-- **The receive path.** Over frames on an open connection and any outcomes of `recv` without an error or a close, the
calls decode the frames in order; where there are outcomes for the bytes of the first `n` frames, `n` calls decode these
and leave the stream in front of the next one. -/
theorem receiveMessages_frames (t : GatewayTransport) (s : GatewaySocket) (hopen : s.Open) (fs : List Frame)
    (hpay : ∀ f ∈ fs, f.payload.length < 2 ^ 32) (gs : List RosGateway) (hlen : gs.length = fs.length)
    (hkeyed : ∀ g ∈ gs, g.Keyed) (rest : List UInt8) (schedule : List Outcome) (hclean : Clean schedule) :
    (∃ k ≤ fs.length, (receiveMessages t gs (s.withSource ⟨wire fs ++ rest, schedule⟩)).1 =
        (List.zipWith Frame.received fs gs).take k) ∧
      (∀ n ≤ fs.length, (wire (fs.take n)).length ≤ supply schedule → ∃ schedule',
        receiveMessages t (gs.take n) (s.withSource ⟨wire fs ++ rest, schedule⟩) =
          (List.zipWith Frame.received (fs.take n) (gs.take n),
            some (s.withSource ⟨wire (fs.drop n) ++ rest, schedule'⟩))) ∧
      ∀ g ∈ gs, OffersExactly g := by
  refine ⟨?_, fun n hn henough => ?_, fun g hg type => ⟨g.nodup_offered type, ?_⟩⟩
  · rcases receiveMessages_clean t hopen rest fs gs schedule hlen hpay hclean with
      ⟨k, hk, -, heq⟩ | ⟨schedule', -, heq⟩
    · exact ⟨k, hk.le, by rw [heq]⟩
    · refine ⟨fs.length, le_rfl, ?_⟩
      rw [heq, List.take_of_length_le (by simp)]
  · have hwire : wire fs ++ rest = wire (fs.take n) ++ (wire (fs.drop n) ++ rest) := by
      rw [← List.append_assoc, ← wire_append, List.take_append_drop]
    rw [hwire]
    rcases receiveMessages_clean t hopen (wire (fs.drop n) ++ rest) (fs.take n) (gs.take n) schedule
      (by simp [hlen]) (fun f hf => hpay f (List.mem_of_mem_take hf)) hclean with
      ⟨k, -, hfew, -⟩ | ⟨schedule', -, heq⟩
    · omega
    · exact ⟨schedule', heq⟩
  · exact fun name => RosGateway.mem_offered_iff (hkeyed g hg) type name

/-- A gateway whose string handler is registered. -/
def stringGateway : RosGateway := (RosGateway.empty.activateType .both .string).1

/-- A frame without topic and payload, and a string. -/
def twoFrames : List Frame :=
  [{ topic := [], type := .bool, idGroup := 60, identifierInGroup := 5, options := { version := 9 }, payload := [] },
    { topic := [0x63], type := .string, idGroup := 60, identifierInGroup := 5, options := {}, payload := [0x68, 0x69] }]

/-- Twenty-five reads of one byte, each after a try that would block. -/
def byteByByte : List Outcome := (List.replicate 25 [.again, .got 0]).flatten

/-- Byte by byte, both frames are decoded, and the string goes to its handler. -/
theorem receiveMessages_twoFrames :
    ∃ schedule', receiveMessages .tcpServer [stringGateway, stringGateway]
        ((⟨true, 4, ⟨[], []⟩⟩ : GatewaySocket).withSource ⟨wire twoFrames ++ [], byteByByte⟩) =
      ([⟨[], 4, { version := 1 }, [], []⟩, ⟨[0x63], 1, {}, [0x68, 0x69], ["string_handler"]⟩],
        some ((⟨true, 4, ⟨[], []⟩⟩ : GatewaySocket).withSource ⟨[], schedule'⟩)) := by
  have hkeyed : ∀ g ∈ [stringGateway, stringGateway], g.Keyed := by
    intro g hg
    simp only [List.mem_cons, List.not_mem_nil, or_false, or_self] at hg
    rw [hg]
    exact RosGateway.keyed_empty.activateType _ _
  obtain ⟨-, hcalls, -⟩ := receiveMessages_frames .tcpServer ⟨true, 4, ⟨[], []⟩⟩ ⟨rfl, by decide⟩ twoFrames (by decide)
    [stringGateway, stringGateway] rfl hkeyed [] byteByByte (by decide)
  obtain ⟨schedule', heq⟩ := hcalls 2 le_rfl (by decide)
  exact ⟨schedule', heq⟩

end EdgeOffloading
