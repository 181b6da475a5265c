import EdgeOffloading.Cpp.Json

/-!
# The documented shape of control-plane messages

The envelope and the payloads as `protocol_details.md` lists them: the fields of a message and their types, where a
request id is an integer or a string. A message may have further fields.
-/

namespace EdgeOffloading.Protocol

inductive FieldType where
  | string
  | integer
  | object
  | requestId
  deriving DecidableEq, Repr

def FieldType.admits : FieldType → Json → Bool
  | .string, .str _ => true
  | .integer, .int _ => true
  | .object, .obj _ => true
  | .requestId, .str _ => true
  | .requestId, .int _ => true
  | _, _ => false

/-- The fields are there and have their types. -/
def hasFields (fields : List (String × FieldType)) (j : Json) : Bool :=
  fields.all fun field => (j.find field.1).any field.2.admits

/-- The fields have their types where they are there. -/
def mayHaveFields (fields : List (String × FieldType)) (j : Json) : Bool :=
  fields.all fun field => (j.find field.1).all field.2.admits

/-- "Message Envelope Structure". -/
def envelope : List (String × FieldType) :=
  [("component_id", .string), ("message_code", .integer), ("message_type", .string), ("sequence_number", .integer),
    ("payload", .object)]

/-- "Message Codes and Payloads": the required and the optional fields of the payload. -/
def payloadFields : Int → Option (List (String × FieldType) × List (String × FieldType))
  | 100 => some ([("request_id", .requestId), ("task_id", .integer), ("task_name", .string)], [])
  | 101 => some ([("request_id", .requestId)], [])
  | 102 => some ([("request_id", .requestId)], [])
  | 103 => some ([("dp_host", .string), ("dp_port", .integer)], [])
  | 200 => some ([("request_id", .requestId)], [("assigned_mec_id", .string)])
  | 201 => some ([("request_id", .requestId), ("reason_code", .integer), ("reason_description", .string)], [])
  | 202 => some ([], [])
  | 301 => some ([("request_id", .requestId), ("reason", .string)], [])
  | 900 => some ([("ack_sequence_number", .integer)], [])
  | _ => none

/-- A message of the documented shape. -/
def documented (message : Json) : Bool :=
  hasFields envelope message &&
    match message.get "message_code" with
    | .int code => (payloadFields code).any fun fields =>
        hasFields fields.1 (message.get "payload") && mayHaveFields fields.2 (message.get "payload")
    | _ => false

/-! ## Reading the fields -/

variable {v message : Json}

theorem admits_string (h : FieldType.string.admits v = true) : ∃ s, v = .str s := by
  cases v with
  | str s => exact ⟨s, rfl⟩
  | _ => cases h

theorem admits_integer (h : FieldType.integer.admits v = true) : ∃ n, v = .int n := by
  cases v with
  | int n => exact ⟨n, rfl⟩
  | _ => cases h

theorem admits_object (h : FieldType.object.admits v = true) : ∃ fields, v = .obj fields := by
  cases v with
  | obj fields => exact ⟨fields, rfl⟩
  | _ => cases h

theorem find_of_hasFields {fields : List (String × FieldType)} (h : hasFields fields message = true) :
    ∀ field ∈ fields, ∃ v, message.find field.1 = some v ∧ field.2.admits v = true :=
  fun field hfield => (Option.any_eq_true _ _).mp (List.all_eq_true.mp h field hfield)

theorem fields_of_envelope (h : hasFields envelope message = true) :
    (∃ c, message.find "component_id" = some (.str c)) ∧ (∃ code, message.find "message_code" = some (.int code)) ∧
      (∃ type, message.find "message_type" = some (.str type)) ∧
        (∃ n, message.find "sequence_number" = some (.int n)) ∧
          ∃ fields, message.find "payload" = some (.obj fields) := by
  have hfields := find_of_hasFields h
  simp only [envelope, List.forall_mem_cons] at hfields
  obtain ⟨⟨id, hid, hc⟩, ⟨code, hcode, hn⟩, ⟨type, htype, ht⟩, ⟨num, hnum, hs⟩, ⟨payload, hpayload, hp⟩, -⟩ := hfields
  obtain ⟨c, rfl⟩ := admits_string hc
  obtain ⟨n, rfl⟩ := admits_integer hn
  obtain ⟨t, rfl⟩ := admits_string ht
  obtain ⟨m, rfl⟩ := admits_integer hs
  obtain ⟨fields, rfl⟩ := admits_object hp
  exact ⟨⟨c, hid⟩, ⟨n, hcode⟩, ⟨t, htype⟩, ⟨m, hnum⟩, ⟨fields, hpayload⟩⟩

end EdgeOffloading.Protocol
