import EdgeOffloading.Lib.Unframed
import Mathlib

/-!
# Control messages on a TCP stream

Control messages are JSON documents written on TCP connections one after the other, without length or delimiter. Four
loops read them: the Bridge from its gateways and from the Offloading Manager (OM), the gateway from the Bridge, the OM
from the Bridge. Each takes what one `recv` returns for one document.

The JSON grammar is a parameter: `JsonGrammar` says which texts are documents, `parse` accepts exactly these with white
space around them.

* `handed_eq_iff`: a loop hands its handler exactly the documents that were written iff every `recv` returned exactly
  one of them and, where an exception of the handler ends the loop, the handler returned from all but the last.
-/

namespace EdgeOffloading.ControlStream

open Unframed

/-! ## Texts and bytes -/

/-- The UTF-8 encoding of a text. -/
def encode (cs : List Char) : List UInt8 := cs.flatMap String.utf8EncodeChar

/-- The text of valid UTF-8. -/
def decode (bytes : List UInt8) : Option (List Char) := bytes.toByteArray.utf8Decode?.map Array.toList

theorem encode_append (cs ds : List Char) : encode (cs ++ ds) = encode cs ++ encode ds := List.flatMap_append

theorem decode_encode (cs : List Char) : decode (encode cs) = some cs := by
  unfold decode
  rw [show (encode cs).toByteArray = cs.utf8Encode from rfl, List.utf8Decode?_utf8Encode]
  rfl

theorem encode_of_decode {bytes : List UInt8} {cs : List Char} (h : decode bytes = some cs) : encode cs = bytes := by
  obtain ⟨a, ha, rfl⟩ := Option.map_eq_some_iff.mp h
  have hsome : bytes.toByteArray.utf8Decode?.isSome = true := by rw [ha]; rfl
  have hbytes : a.toList.utf8Encode = bytes.toByteArray := by
    rw [← ByteArray.utf8Encode_get_utf8Decode? (h := hsome)]
    simp [ha]
  have hdata := congrArg (fun b => b.data.toList) hbytes
  simpa [List.utf8Encode, encode] using hdata

theorem infix_encode {cs ds : List Char} (h : cs <:+: ds) : encode cs <:+: encode ds := by
  obtain ⟨before, after, rfl⟩ := h
  rw [encode_append, encode_append]
  exact List.infix_append _ _ _

/-! ## White space -/

/-- The white space of the JSON grammar. -/
def isJsonSpace (c : Char) : Bool := c ∈ [' ', '\t', '\n', '\r']

/-- The characters that Python's `str.strip` removes. -/
def isPythonSpace (c : Char) : Bool :=
  let n := c.toNat
  (0x09 ≤ n && n ≤ 0x0D) || (0x1C ≤ n && n ≤ 0x20) || n = 0x85 || n = 0xA0 || n = 0x1680 ||
    (0x2000 ≤ n && n ≤ 0x200A) || n = 0x2028 || n = 0x2029 || n = 0x202F || n = 0x205F || n = 0x3000

/-- The text without the characters of a kind at its two ends. -/
def strip (space : Char → Bool) (cs : List Char) : List Char := (cs.dropWhile space).rdropWhile space

theorem infix_strip (space : Char → Bool) (cs : List Char) : strip space cs <:+: cs :=
  (List.rdropWhile_prefix _ _).isInfix.trans (List.dropWhile_suffix space).isInfix

/-- Neither end of the text is a character of the kind. -/
def NoSpaceAround (space : Char → Bool) (cs : List Char) : Prop :=
  (∀ c ∈ cs.head?, space c = false) ∧ ∀ c ∈ cs.getLast?, space c = false

theorem strip_eq_self {space : Char → Bool} {cs : List Char} (h : NoSpaceAround space cs) : strip space cs = cs := by
  have hfront : cs.dropWhile space = cs := by
    cases cs with
    | nil => rfl
    | cons c cs => exact List.dropWhile_cons_of_neg (by rw [h.1 c rfl]; simp)
  unfold strip
  rw [hfront, List.rdropWhile_eq_self_iff]
  intro hne
  rw [h.2 _ (List.getLast?_eq_getLast_of_ne_nil hne)]
  simp

theorem isPythonSpace_of_isJsonSpace {c : Char} (h : isJsonSpace c = true) : isPythonSpace c = true := by
  simp only [isJsonSpace, List.mem_cons, List.not_mem_nil, or_false, decide_eq_true_eq] at h
  rcases h with rfl | rfl | rfl | rfl <;> decide

/-! ## Documents -/

/-- What the receivers rely on of the JSON grammar. -/
structure JsonGrammar where
  /-- The text is one JSON document, without white space around it. -/
  isDocument : List Char → Bool
  /-- Control characters are escaped in a document. -/
  noNul : ∀ d, isDocument d = true → 0 ∉ encode d
  /-- A document begins with a bracket, a quote, a letter, a digit or a sign, and ends with one of these. -/
  noSpace : ∀ d, isDocument d = true → NoSpaceAround isPythonSpace d

namespace JsonGrammar

variable (G : JsonGrammar)

/-- `json.loads`: the document that the text is, up to white space around it. -/
def parse (cs : List Char) : Option (List Char) :=
  let d := strip isJsonSpace cs
  if G.isDocument d then some d else none

/-- `nlohmann::json::parse` on a string of bytes. -/
def parseBytes (bytes : List UInt8) : Option (List Char) := (decode bytes).bind G.parse

variable {G}

theorem noSpaceAround {d : List Char} (h : G.isDocument d = true) :
    NoSpaceAround isJsonSpace d ∧ NoSpaceAround isPythonSpace d := by
  have hpy := G.noSpace d h
  have hweaken : ∀ c, isPythonSpace c = false → isJsonSpace c = false := by
    intro c hc
    cases hj : isJsonSpace c with
    | false => rfl
    | true => rw [isPythonSpace_of_isJsonSpace hj] at hc; cases hc
  exact ⟨⟨fun c hc => hweaken c (hpy.1 c hc), fun c hc => hweaken c (hpy.2 c hc)⟩, hpy⟩

theorem parse_document {d : List Char} (h : G.isDocument d = true) : G.parse d = some d := by
  unfold parse
  dsimp only
  rw [strip_eq_self (noSpaceAround h).1, if_pos h]

theorem infix_of_parse {cs d : List Char} (h : G.parse cs = some d) : d <:+: cs := by
  unfold parse at h
  dsimp only at h
  split_ifs at h
  cases h
  exact infix_strip isJsonSpace cs

theorem parseBytes_encode {d : List Char} (h : G.isDocument d = true) : G.parseBytes (encode d) = some d := by
  unfold parseBytes
  rw [decode_encode]
  exact parse_document h

theorem infix_of_parseBytes {bytes : List UInt8} {d : List Char} (h : G.parseBytes bytes = some d) :
    encode d <:+: bytes := by
  obtain ⟨cs, hcs, hd⟩ := Option.bind_eq_some_iff.mp h
  rw [← encode_of_decode hcs]
  exact infix_encode (infix_of_parse hd)

end JsonGrammar

/-! ## The four receive loops -/

section Loops

variable (G : JsonGrammar) (returns : List Char → Bool)

/-- `MGWCPConnection::connection_thread_func`: a parse error is logged, any other exception breaks the loop. -/
def connectionThreadFunc (chunks : List (List UInt8)) : List (List Char) :=
  receive (fun bytes => .ofOption (G.parseBytes bytes)) returns chunks

/-- `BridgeCpClient::client_thread_func`: the text is a C string, which ends at the first null byte. -/
def clientThreadFunc (chunks : List (List UInt8)) : List (List Char) :=
  receive (fun bytes => .ofOption (G.parseBytes (bytes.takeWhile (· ≠ 0)))) returns chunks

/-- `BridgeControlPlane::om_connection_thread_func`. -/
def omConnectionThreadFunc (chunks : List (List UInt8)) : List (List Char) :=
  receive (fun bytes => .ofOption (G.parseBytes bytes)) returns chunks

/-- The reading of `_handle_connection`: bytes that do not decode break the loop. -/
def decodeAndStrip (bytes : List UInt8) : Reading (List Char) :=
  match decode bytes with
  | none => .stop
  | some cs => .ofOption (G.parse (strip isPythonSpace cs))

/-- `OffloadingManagerServer._handle_connection`: exceptions are caught in `_process_message`. -/
def handleConnection (chunks : List (List UInt8)) : List (List Char) :=
  receive (decodeAndStrip G) (fun _ => true) chunks

end Loops

/-- The loops by the program and the peer they read from. -/
inductive Receiver where
  | connectionThread
  | clientThread
  | omConnectionThread
  | omServer
  deriving DecidableEq, Repr

namespace Receiver

/-- The most bytes that one `recv` returns. -/
def capacity : Receiver → Nat
  | connectionThread => 8192 - 1
  | clientThread => 4096 - 1
  | omConnectionThread => 8192
  | omServer => 4096

/-- What the loop hands to its handler; `returns` says from which documents the handler returns without exception. -/
def handed (receiver : Receiver) (G : JsonGrammar) (returns : List Char → Bool) (chunks : List (List UInt8)) :
    List (List Char) :=
  match receiver with
  | connectionThread => connectionThreadFunc G returns chunks
  | clientThread => clientThreadFunc G returns chunks
  | omConnectionThread => omConnectionThreadFunc G returns chunks
  | omServer => handleConnection G chunks

/-- The loop goes on after a document. -/
def goesOn (receiver : Receiver) (returns : List Char → Bool) (d : List Char) : Bool :=
  match receiver with
  | omServer => true
  | _ => returns d

/-- What the loop makes of the result of one `recv`. -/
def read (G : JsonGrammar) : Receiver → List UInt8 → Reading (List Char)
  | clientThread, bytes => .ofOption (G.parseBytes (bytes.takeWhile (· ≠ 0)))
  | omServer, bytes => decodeAndStrip G bytes
  | _, bytes => .ofOption (G.parseBytes bytes)

variable {G : JsonGrammar} (receiver : Receiver)

theorem handed_eq_receive (returns : List Char → Bool) (chunks : List (List UInt8)) :
    receiver.handed G returns chunks = receive (receiver.read G) (receiver.goesOn returns) chunks := by
  cases receiver <;> rfl

theorem read_encode {d : List Char} (h : G.isDocument d = true) : receiver.read G (encode d) = .item d := by
  have hplain : Reading.ofOption (G.parseBytes (encode d)) = .item d :=
    Reading.ofOption_eq_item.mpr (JsonGrammar.parseBytes_encode h)
  cases receiver with
  | connectionThread => exact hplain
  | clientThread =>
      show Reading.ofOption (G.parseBytes ((encode d).takeWhile (· ≠ 0))) = .item d
      have hcut : (encode d).takeWhile (· ≠ 0) = encode d := by
        rw [List.takeWhile_eq_self_iff]
        intro byte hbyte
        rw [decide_eq_true_eq]
        rintro rfl
        exact G.noNul d h hbyte
      rw [hcut]
      exact hplain
  | omConnectionThread => exact hplain
  | omServer =>
      show decodeAndStrip G (encode d) = .item d
      unfold decodeAndStrip
      rw [decode_encode]
      dsimp only
      rw [strip_eq_self (JsonGrammar.noSpaceAround h).2, JsonGrammar.parse_document h]
      rfl

theorem infix_of_read {bytes : List UInt8} {d : List Char} (h : receiver.read G bytes = .item d) :
    encode d <:+: bytes := by
  cases receiver with
  | connectionThread => exact JsonGrammar.infix_of_parseBytes (Reading.ofOption_eq_item.mp h)
  | clientThread =>
      have hcut := JsonGrammar.infix_of_parseBytes (Reading.ofOption_eq_item.mp h)
      exact hcut.trans (List.takeWhile_prefix _).isInfix
  | omConnectionThread => exact JsonGrammar.infix_of_parseBytes (Reading.ofOption_eq_item.mp h)
  | omServer =>
      change decodeAndStrip G bytes = .item d at h
      unfold decodeAndStrip at h
      cases hcs : decode bytes with
      | none => rw [hcs] at h; cases h
      | some cs =>
          rw [hcs] at h
          have hd := JsonGrammar.infix_of_parse (Reading.ofOption_eq_item.mp h)
          rw [← encode_of_decode hcs]
          exact infix_encode (hd.trans (infix_strip isPythonSpace cs))

end Receiver

/-- Documents that a peer wrote and the results of the `recv` calls in which they arrived. -/
structure Transfer (G : JsonGrammar) (capacity : Nat) where
  documents : List (List Char)
  chunks : List (List UInt8)
  isDocument : ∀ d ∈ documents, G.isDocument d = true
  nonempty : ∀ c ∈ chunks, c ≠ []
  fits : ∀ c ∈ chunks, c.length ≤ capacity
  stream : chunks.flatten = (documents.map encode).flatten

/-- **The framing of TCP**: for every loop and every way the stream is cut, the handler is handed exactly the documents
that were written iff every `recv` returned exactly one document and no exception ended the loop before the last. -/
theorem handed_eq_iff (G : JsonGrammar) (receiver : Receiver) (returns : List Char → Bool)
    (transfer : Transfer G receiver.capacity) :
    receiver.handed G returns transfer.chunks = transfer.documents ↔
      transfer.chunks = transfer.documents.map encode ∧
        ∀ d ∈ transfer.documents.dropLast, receiver.goesOn returns d = true := by
  rw [receiver.handed_eq_receive]
  exact receive_eq_iff _ (fun _ _ h => receiver.infix_of_read h)
    (fun d hd => receiver.read_encode (transfer.isDocument d hd)) transfer.nonempty transfer.stream

/-! ## An acknowledgement followed by a confirmation -/

/-- An ACK of the Bridge for the first message of gateway `60:5`. -/
def sampleAck : List Char :=
  ("\x7b\"component_id\":\"60:5\",\"message_code\":900,\"message_type\":\"ACK\"," ++
    "\"payload\":\x7b\"ack_sequence_number\":1\x7d,\"sequence_number\":0\x7d").toList

/-- The confirmation of its data plane, sent right after. -/
def sampleConfirmed : List Char :=
  ("\x7b\"component_id\":\"15:10\",\"message_code\":202,\"message_type\":\"DP_CONNECTION_CONFIRMED\"," ++
    "\"payload\":null,\"sequence_number\":1\x7d").toList

theorem sample_spec {d : List Char} (h : d = sampleAck ∨ d = sampleConfirmed) :
    d.head? = some '\x7b' ∧ d.getLast? = some '\x7d' ∧ 0 ∉ encode d ∧ encode d ≠ [] ∧ (encode d).length ≤ 2000 := by
  rcases h with h | h <;> rw [h] <;> decide +kernel

/-- The grammar cut down to the two messages. -/
def sampleGrammar : JsonGrammar where
  isDocument d := d = sampleAck ∨ d = sampleConfirmed
  noNul d hd := by
    rw [decide_eq_true_eq] at hd
    exact (sample_spec hd).2.2.1
  noSpace d hd := by
    rw [decide_eq_true_eq] at hd
    obtain ⟨hhead, hlast, -⟩ := sample_spec hd
    constructor
    · intro c hc
      rw [hhead, Option.mem_some_iff] at hc
      rw [← hc]
      decide
    · intro c hc
      rw [hlast, Option.mem_some_iff] at hc
      rw [← hc]
      decide

/-- One `recv` returns both messages. -/
def coalesced (receiver : Receiver) : Transfer sampleGrammar receiver.capacity where
  documents := [sampleAck, sampleConfirmed]
  chunks := [encode sampleAck ++ encode sampleConfirmed]
  isDocument d hd := by
    rw [List.mem_pair] at hd
    exact decide_eq_true hd
  nonempty c hc := by
    rw [List.mem_singleton] at hc
    obtain ⟨-, -, -, hne, -⟩ := sample_spec (Or.inl rfl)
    rw [hc]
    exact List.append_ne_nil_of_left_ne_nil hne _
  fits c hc := by
    rw [List.mem_singleton] at hc
    obtain ⟨-, -, -, -, hack⟩ := sample_spec (Or.inl rfl)
    obtain ⟨-, -, -, -, hconfirmed⟩ := sample_spec (Or.inr rfl)
    have hcapacity : 4000 ≤ receiver.capacity := by cases receiver <;> decide
    rw [hc, List.length_append]
    exact (Nat.add_le_add hack hconfirmed).trans hcapacity
  stream := by simp

/-- No loop finds the two messages in one chunk, although its handler returns from both. -/
theorem not_handed_coalesced :
    ¬ ∃ receiver : Receiver, ∀ (G : JsonGrammar) (transfer : Transfer G receiver.capacity),
      receiver.handed G (fun _ => true) transfer.chunks = transfer.documents := by
  rintro ⟨receiver, h⟩
  have hall := h sampleGrammar (coalesced receiver)
  rw [receiver.handed_eq_receive] at hall
  have hchunks := ((receive_eq_iff _ (fun _ _ h => receiver.infix_of_read h)
    (fun d hd => receiver.read_encode ((coalesced receiver).isDocument d hd)) (coalesced receiver).nonempty
    (coalesced receiver).stream).mp hall).1
  have hlen := congrArg List.length hchunks
  simp [coalesced] at hlen

end EdgeOffloading.ControlStream
