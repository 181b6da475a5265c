import EdgeOffloading.Cpp.Json

/-!
# Control-plane messages

The JSON documents as their senders build them: the requests of a gateway (`BridgeCpClient`) and the answers of the
Offloading Manager (`OffloadingManagerServer`).
-/

namespace EdgeOffloading.Protocol

/-! ## Gateway to Bridge -/

/-- A reliable message of a gateway: `send_reliable_message` adds the sequence number. -/
def gatewayMessage (componentId : String) (code : Int) (type : String) (payload : Json) (seqNum : Nat) : Json :=
  .obj [("component_id", .str componentId), ("message_code", .int code), ("message_type", .str type),
    ("payload", payload), ("sequence_number", .int seqNum)]

def dpInfo (componentId dpHost : String) (dpPort : Int) (seqNum : Nat) : Json :=
  gatewayMessage componentId 103 "DP_INFO" (.obj [("dp_host", .str dpHost), ("dp_port", .int dpPort)]) seqNum

/-- The payload of a request; `vhc_data` is only there when it is not empty. -/
def offloadPayload (requestId : String) (taskId : Int) (taskName vhcData : String) : Json :=
  .obj ([("request_id", .str requestId), ("task_id", .int taskId), ("task_name", .str taskName)] ++
    if vhcData = "" then [] else [("vhc_data", .str vhcData)])

def offloadRequest (componentId requestId : String) (taskId : Int) (taskName vhcData : String) (seqNum : Nat) : Json :=
  gatewayMessage componentId 100 "OFFLOAD_REQUEST" (offloadPayload requestId taskId taskName vhcData) seqNum

def sessionKeepalive (componentId requestId : String) (seqNum : Nat) : Json :=
  gatewayMessage componentId 101 "SESSION_KEEPALIVE" (.obj [("request_id", .str requestId)]) seqNum

def sessionTerminateRequest (componentId requestId : String) (seqNum : Nat) : Json :=
  gatewayMessage componentId 102 "SESSION_TERMINATE_REQUEST" (.obj [("request_id", .str requestId)]) seqNum

/-- `send_ack` of a gateway; it carries the component id of the acknowledged message. -/
def ack (componentId : String) (ackSequenceNumber : Int) : Json :=
  .obj [("component_id", .str componentId), ("message_code", .int 900), ("message_type", .str "ACK"),
    ("sequence_number", .int 0), ("payload", .obj [("ack_sequence_number", .int ackSequenceNumber)])]

/-- The number that the payload of an ACK gives, either way. -/
def ackNumber (payload : Json) : Option Nat :=
  if payload.contains "ack_sequence_number" then (payload.get "ack_sequence_number").asUInt64 else none

/-! ## OM to Bridge -/

/-- A message of the OM. -/
def omAnswer (code : Int) (type : String) (sequence : Nat) (payload : Json) : Json :=
  .obj [("component_id", .str "1:1"), ("message_code", .int code), ("message_type", .str type),
    ("sequence_number", .int sequence), ("payload", payload)]

def sessionApproved (sequence : Nat) (requestId : Json) (assignedMecId : String) (taskId : Json) : Json :=
  omAnswer 200 "SESSION_APPROVED" sequence
    (.obj [("request_id", requestId), ("assigned_mec_id", .str assignedMecId), ("task_id", taskId)])

def sessionDenied (sequence : Nat) (requestId : Json) (reasonCode : Int) (reasonDescription : String) : Json :=
  omAnswer 201 "SESSION_DENIED" sequence
    (.obj [("request_id", requestId), ("reason_code", .int reasonCode),
      ("reason_description", .str reasonDescription)])

end EdgeOffloading.Protocol
