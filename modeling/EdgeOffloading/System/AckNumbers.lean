import EdgeOffloading.Bridge.Invariants
import EdgeOffloading.Gateway.Approval

/-!
# The numbers of acknowledgements

Both sides number their messages with a `uint64_t` and keep them under that number. The receiver reads the number as an
`int`, the Bridge then converts it to `uint64_t`, the gateway does not; the sender reads the number of the ACK as an
`int` in the gateway and as a `uint64_t` in the Bridge.

* `uplink_acked`, `downlink_acked`: the ACK of either side, with the number it carries;
* `ackNumbers_iff`: the numbers match in both directions exactly below `2 ^ 31`.
-/

namespace EdgeOffloading

open Bridge GatewayController

/-! ## Reading the number -/

theorem MGWCPConnection.receive_accepted_seqNum {conn : MGWCPConnection} {message payload : Json} {c : String}
    {seqNum : Nat} {code : Int} (h : conn.receive message = .accepted c seqNum code payload) {n : Int}
    (hn : message.get "sequence_number" = .int n) : seqNum = seqNumOf (n.bmod (2 ^ 32)) := by
  obtain ⟨-, -, -, ⟨m, hm, rfl⟩, -⟩ := receive_eq_accepted_iff.mp h
  rw [Json.valueInt_of_get hn] at hm
  cases hm
  rfl

/-- Below `2 ^ 31`, and only there, the number survives as an `int`. -/
theorem bmod_eq_iff {n : Nat} : (n : Int).bmod (2 ^ 32) = n ↔ n < 2 ^ 31 := by
  rw [Int.bmod_def]
  omega

theorem bmod_emod_eq_iff {n : Nat} (h : n < 2 ^ 64) :
    (n : Int).bmod (2 ^ 32) % 2 ^ 64 = n ↔ n < 2 ^ 31 ∨ 2 ^ 64 - 2 ^ 31 ≤ n := by
  rw [Int.bmod_def]
  omega

/-! ## Acknowledgements -/

section Links

variable (b : Bridge) (t : ClientId) (conn : MGWCPConnection) (env : Env) (g : GatewayController) (now : Nat)

/-- The ACK of the Bridge, and what the gateway makes of an ACK. -/
theorem uplink_acked {message payload : Json} {c : String} {seqNum : Nat} {code n : Int}
    (h : conn.receive message = .accepted c seqNum code payload) (hn : message.get "sequence_number" = .int n)
    (ht : t ∈ b.serverClients) :
    ∃ ok rest, (b.handleReceivedMessage t conn message env).2 =
      .sendTo t (Protocol.ack c (seqNumOf (n.bmod (2 ^ 32)))) ok :: rest := by
  rw [handleReceivedMessage_accepted h, ← MGWCPConnection.receive_accepted_seqNum h hn]
  unfold sendAck
  rw [if_pos ht]
  exact ⟨_, _, rfl⟩

theorem gateway_receives_ack (c : String) (k : Int) :
    (g.handleReceivedMessage (Protocol.ack c k) now).1.bridgeCpClient =
      g.bridgeCpClient.map (·.handleAck (k.bmod (2 ^ 32))) := rfl

theorem downlink_acked {message : Json} {c : String} {code n : Int}
    (hcode : (message.get "message_code").asInt = some code) (hne : code ≠ 900)
    (hid : (message.get "component_id").asString = some c) (hn : message.get "sequence_number" = .int n) :
    (g.handleReceivedMessage message now).2 = [Protocol.ack c (n.bmod (2 ^ 32))] := by
  rw [GatewayController.handleReceivedMessage_eq hcode hid (Json.valueInt_of_get hn 0)]
  exact if_neg hne

theorem bridge_receives_ack (c : String) (k : Int) :
    ((b.handleReceivedMessage t conn (Protocol.ack c k) env).1.senders t).pendingAcks =
      (b.senders t).erase (k % 2 ^ 64).toNat := by
  have hreceive : conn.receive (Protocol.ack c k) = .ack (.obj [("ack_sequence_number", .int k)]) := rfl
  unfold Bridge.handleReceivedMessage
  rw [hreceive]
  show ((Function.update b.senders t _) t).pendingAcks = _
  rw [Function.update_self]

/-! ## Both directions -/

def ackSequenceNumber (ack : Json) : Json := (ack.get "payload").get "ack_sequence_number"

/-- A message `n` of the gateway: the ACK of the Bridge carries `n`, and the gateway erases the entry `n` for it. -/
def UplinkMatches (message : Json) (n : Nat) : Prop :=
  ∃ ack ok rest, (b.handleReceivedMessage t conn message env).2 = .sendTo t ack ok :: rest ∧
    ackSequenceNumber ack = .int n ∧
    (g.handleReceivedMessage ack now).1.bridgeCpClient =
      g.bridgeCpClient.map fun client =>
        { client with pendingAcks := client.pendingAcks.filter fun p => p.1 ≠ n }

def DownlinkMatches (message : Json) (n : Nat) : Prop :=
  ∃ ack, (g.handleReceivedMessage message now).2 = [ack] ∧ ackSequenceNumber ack = .int n ∧
    ((b.handleReceivedMessage t conn ack env).1.senders t).pendingAcks = (b.senders t).erase n

variable {b t conn env g now}

/-- The Bridge converts the signed number back, so its highest numbers survive as well. -/
theorem uplinkMatches_iff {message payload : Json} {c : String} {seqNum : Nat} {code : Int} {n : Nat}
    (h : conn.receive message = .accepted c seqNum code payload) (hn : message.get "sequence_number" = .int n)
    (ht : t ∈ b.serverClients) (hmax : n < 2 ^ 64) :
    UplinkMatches b t conn env g now message n ↔ n < 2 ^ 31 ∨ 2 ^ 64 - 2 ^ 31 ≤ n := by
  obtain ⟨ok, rest, hacked⟩ := uplink_acked b t conn env h hn ht
  rw [← bmod_emod_eq_iff hmax]
  constructor
  · rintro ⟨ack, ok', rest', hack, hnumber, -⟩
    rw [hacked] at hack
    obtain ⟨-, rfl, -⟩ := Output.sendTo.inj (List.cons.inj hack).1
    have hseq : (seqNumOf ((n : Int).bmod (2 ^ 32)) : Int) = n := Json.int.inj hnumber
    unfold seqNumOf at hseq
    omega
  · intro hmod
    have hseq : (seqNumOf ((n : Int).bmod (2 ^ 32)) : Int) = n := by
      unfold seqNumOf
      omega
    rw [hseq] at hacked
    refine ⟨_, ok, rest, hacked, rfl, ?_⟩
    rw [gateway_receives_ack]
    apply Option.map_congr
    intro client _
    unfold BridgeCpClient.handleAck
    rw [hmod]
    simp only [ne_eq, Nat.cast_inj]

theorem downlinkMatches_iff {message : Json} {c : String} {code : Int} {n : Nat}
    (hcode : (message.get "message_code").asInt = some code) (hne : code ≠ 900)
    (hid : (message.get "component_id").asString = some c) (hn : message.get "sequence_number" = .int n) :
    DownlinkMatches b t conn env g now message n ↔ n < 2 ^ 31 := by
  have hacked := downlink_acked g now hcode hne hid hn
  constructor
  · rintro ⟨ack, hack, hnumber, -⟩
    rw [hacked] at hack
    obtain rfl := List.singleton_inj.mp hack
    have hsigned : (n : Int).bmod (2 ^ 32) = n := Json.int.inj hnumber
    exact bmod_eq_iff.mp hsigned
  · intro hlt
    rw [bmod_eq_iff.mpr hlt] at hacked
    refine ⟨_, hacked, rfl, ?_⟩
    have hmod : ((n : Int) % 2 ^ 64).toNat = n := by omega
    rw [bridge_receives_ack, hmod]

/-- **The numbers of acknowledgements.** A number matches in both directions exactly below `2 ^ 31`. -/
theorem ackNumbers_iff {up down payload : Json} {c c' : String} {seqNum n : Nat} {code code' : Int}
    (hmax : n < 2 ^ 64) (hup : conn.receive up = .accepted c seqNum code payload)
    (hupn : up.get "sequence_number" = .int n) (ht : t ∈ b.serverClients)
    (hcode : (down.get "message_code").asInt = some code') (hne : code' ≠ 900)
    (hid : (down.get "component_id").asString = some c') (hdownn : down.get "sequence_number" = .int n) :
    UplinkMatches b t conn env g now up n ∧ DownlinkMatches b t conn env g now down n ↔ n < 2 ^ 31 := by
  constructor
  · rintro ⟨-, hdown⟩
    exact (downlinkMatches_iff hcode hne hid hdownn).mp hdown
  · intro hlt
    exact ⟨(uplinkMatches_iff hup hupn ht hmax).mpr (.inl hlt), (downlinkMatches_iff hcode hne hid hdownn).mpr hlt⟩

end Links

def servingBridge : Bridge := { Bridge.init ⟨[], fun _ => none⟩ with serverClients := [1] }

def servedConnection : MGWCPConnection where
  connectionId := 1
  clientIp := "10.0.0.2"
  componentId := "60:5"
  state := .operational
  running := true
  threadAlive := true

/-- A confirmation with the sequence number that the Bridge gives it. -/
def numberedConfirmation (n : Nat) : Json := dpConnectionConfirmedMessage.set "sequence_number" (.int n)

theorem ackNumbers_five :
    UplinkMatches servingBridge 1 servedConnection (allSent 0) sampleVhc 0
        (Protocol.sessionKeepalive "60:5" "1" 5) 5 ∧
      DownlinkMatches servingBridge 1 servedConnection (allSent 0) sampleVhc 0
        (numberedConfirmation 5) 5 :=
  (ackNumbers_iff (by decide)
    (show servedConnection.receive (Protocol.sessionKeepalive "60:5" "1" 5) =
      .accepted "60:5" 5 101 (.obj [("request_id", .str "1")]) from rfl)
    rfl (by decide) (show ((numberedConfirmation 5).get "message_code").asInt = some 202 from rfl) (by decide) rfl
    rfl).mpr (by decide)

/-- The message `2 ^ 31` of the Bridge is acknowledged with a negative number, and the one of the gateway with a number
far above it. -/
theorem not_ackNumbers_two_pow :
    (∃ ok rest, (servingBridge.handleReceivedMessage 1 servedConnection
          (Protocol.sessionKeepalive "60:5" "1" 2147483648) (allSent 0)).2 =
        .sendTo 1 (Protocol.ack "60:5" 18446744071562067968) ok :: rest) ∧
      (sampleVhc.handleReceivedMessage (numberedConfirmation 2147483648) 0).2 =
        [Protocol.ack "15:10" (-2147483648)] ∧
      ¬(UplinkMatches servingBridge 1 servedConnection (allSent 0) sampleVhc 0
          (Protocol.sessionKeepalive "60:5" "1" 2147483648) 2147483648 ∧
        DownlinkMatches servingBridge 1 servedConnection (allSent 0) sampleVhc 0
          (numberedConfirmation 2147483648) 2147483648) := by
  refine ⟨⟨_, _, rfl⟩, rfl, ?_⟩
  rintro ⟨-, hdown⟩
  have hcode : ((numberedConfirmation 2147483648).get "message_code").asInt = some 202 := rfl
  exact absurd ((downlinkMatches_iff hcode (by decide) rfl rfl).mp hdown) (by decide)

end EdgeOffloading
