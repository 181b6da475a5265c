import EdgeOffloading.Discovery.Protocol
import EdgeOffloading.Lib.Marker

/-!
# Pieces of a stream of messages

The messages of a connection follow each other without anything between them, and both ends take whatever one `recv`
returns for a message. Where no field holds the word a line begins with, they cannot be misled: a piece of the stream
that is decoded as a registration, or as the response to one, begins with a message that was sent, and has all its
fields but the last.

* `fields_take`: the fields at the beginning of a piece;
* `exists_message`: the message a piece begins with;
* `request_of_piece`, `response_of_piece`: what is decoded.
-/

namespace EdgeOffloading.Discovery

open Fields

/-- The word at the beginning of every line. -/
def marker : List Char := "DISC:".toList

theorem marker_ne_nil : marker ≠ [] := by decide

theorem unbordered_marker : Marker.Unbordered marker :=
  Marker.unbordered_of_take fun k _ hk => by
    have hk' : k < 5 := hk
    interval_cases k <;> first | contradiction | decide

/-- The word behind the marker in the line of a message. -/
def Message.tag : Message → String
  | .registrationRequest _ => "REG"
  | .registrationResponse _ => "ACK"
  | .keepalivePing _ => "PNG"
  | .keepaliveResponse _ => "PON"
  | .error _ => "ERR"
  | .componentQuery _ => "QRY"
  | .componentList _ => "LST"

theorem length_tag (m : Message) : m.tag.toList.length = 3 := by
  cases m <;> simp [Message.tag]

theorem front_eq (m : Message) : m.front = ("DISC:" ++ m.tag) :: m.front.tail := by
  cases m <;> rfl

/-- The fields behind the word of a line. -/
def Message.inner (m : Message) : List String := m.front.tail ++ [m.humanReadableMessage]

theorem intercalate_append_cons (d : Char) (a b : List Char) (fs : List (List Char)) :
    [d].intercalate ((a ++ b) :: fs) = a ++ [d].intercalate (b :: fs) := by
  cases fs with
  | nil => rw [List.intercalate_singleton, List.intercalate_singleton]
  | cons f fs => simp only [List.intercalate_cons_cons, List.append_assoc]

/-- The line, from the marker on. -/
theorem toList_encodeMessage_tag (m : Message) :
    (encodeMessage m).toList = marker ++ [';'].intercalate (m.tag.toList :: m.inner.map String.toList) := by
  rw [encodeMessage_eq, toList_line, front_eq, List.map_cons, String.toList_append, List.cons_append,
    intercalate_append_cons, Message.inner, List.map_append]
  rfl

/-- The rest of the line of a message. -/
def Message.body (m : Message) : List Char := (encodeMessage m).toList.drop 5

theorem body_eq (m : Message) : m.body = [';'].intercalate (m.tag.toList :: m.inner.map String.toList) := by
  rw [Message.body, toList_encodeMessage_tag, show 5 = marker.length from rfl, List.drop_left]

theorem toList_encodeMessage (m : Message) : (encodeMessage m).toList = marker ++ m.body := by
  rw [body_eq, toList_encodeMessage_tag]

theorem exists_rest (m : Message) : ∃ rest, (encodeMessage m).toList = marker ++ m.tag.toList ++ rest := by
  refine ⟨[';'].intercalate ([] :: m.inner.map String.toList), ?_⟩
  rw [toList_encodeMessage_tag, List.append_assoc, ← intercalate_append_cons ';' m.tag.toList [], List.append_nil]

/-- What a stream of these messages is. -/
def messageStream (ms : List Message) : List Char := (ms.map fun m => (encodeMessage m).toList).flatten

/-- A message whose strings have no separator, and whose line has the word in front alone. -/
structure Message.Plain (m : Message) : Prop where
  declared : m.Declared
  free : ∀ f ∈ m.stringFields, ';' ∉ f.toList
  unmarked : ¬ marker <:+: m.body

/-- A piece of a line with more fields than these begins with these. -/
theorem fields_take {d : Char} {fs : List (List Char)} (hfs : ∀ f ∈ fs, d ∉ f) {last piece : List Char}
    (hpiece : piece <+: (fs.map (· ++ [d])).flatten ++ last) (hmore : fs.length < (fields d piece).length) :
    (fields d piece).take fs.length = fs := by
  induction fs generalizing piece with
  | nil => rfl
  | cons f fs ih =>
      have hf : d ∉ f := hfs f List.mem_cons_self
      rw [List.map_cons, List.flatten_cons, List.append_assoc, List.append_assoc] at hpiece
      have hlong : f.length < piece.length := by
        by_contra hshort
        have hin : piece <+: f := List.prefix_of_prefix_length_le hpiece (List.prefix_append _ _) (not_lt.mp hshort)
        have hfree : d ∉ piece := fun hd => hf (hin.subset hd)
        rcases eq_or_ne piece [] with rfl | hne
        · simp [fields_nil] at hmore
        · rw [fields_of_notMem hfree hne] at hmore
          simp at hmore
      obtain ⟨more, rfl⟩ := List.prefix_of_prefix_length_le (List.prefix_append _ _) hpiece hlong.le
      rw [List.prefix_append_right_inj] at hpiece
      cases more with
      | nil => simp at hlong
      | cons c more =>
          obtain ⟨rfl, hpiece⟩ := List.cons_prefix_cons.mp hpiece
          rw [fields_append_cons hf] at hmore ⊢
          rw [List.length_cons, List.length_cons] at hmore
          have htail := ih (fun g hg => hfs g (List.mem_cons_of_mem f hg)) hpiece (by omega)
          rw [List.length_cons, List.take_succ_cons, htail]

theorem intercalate_concat (d : Char) (fs : List (List Char)) (l : List Char) :
    [d].intercalate (fs ++ [l]) = (fs.map (· ++ [d])).flatten ++ l := by
  induction fs with
  | nil => simp
  | cons f fs ih =>
      obtain ⟨g, gs, hgs⟩ := List.exists_cons_of_ne_nil (List.append_ne_nil_of_right_ne_nil fs (List.cons_ne_nil l []))
      rw [List.cons_append, hgs, List.intercalate_cons_cons, ← hgs, ih]
      simp

/-- What the decoder looks at first. -/
theorem decodeMessage_marker {input : String} {m : Message} (h : decodeMessage input = .ok m) :
    marker <+: input.toList ∧ 8 ≤ input.toList.length := by
  unfold decodeMessage at h
  split at h
  · cases h
  · rename_i hfront
    rw [not_or, not_not, not_lt] at hfront
    refine ⟨?_, hfront.1⟩
    rw [show marker = input.toList.take 5 from hfront.2.symm]
    exact List.take_prefix 5 _

/-- The word behind the marker. -/
def kind (line : List Char) : List Char := (line.take 8).drop 5

theorem kind_append {line : List Char} (h : 8 ≤ line.length) (more : List Char) : kind (line ++ more) = kind line := by
  rw [kind, kind, List.take_append_of_le_length h]

theorem decodeMessage_request {input : String} {req : RegistrationRequest}
    (h : decodeMessage input = .ok (.registrationRequest req)) :
    kind input.toList = "REG".toList ∧ decodeRegistrationRequest input = .ok req := by
  unfold decodeMessage at h
  dsimp only at h
  split_ifs at h with hshort hreg
  · obtain ⟨req', hdecode, heq⟩ := map_eq_ok h
    obtain rfl := Message.registrationRequest.inj heq
    refine ⟨?_, hdecode⟩
    rw [kind, List.drop_take, ← String.toList_ofList (l := List.take _ _)]
    exact congrArg String.toList hreg
  all_goals
    obtain ⟨other, -, heq⟩ := map_eq_ok h
    cases heq

theorem decodeMessage_response {input : String} {res : RegistrationResponse}
    (h : decodeMessage input = .ok (.registrationResponse res)) :
    kind input.toList = "ACK".toList ∧ decodeRegistrationResponse input = .ok res := by
  unfold decodeMessage at h
  dsimp only at h
  split_ifs at h with hshort hreg hack
  · obtain ⟨other, -, heq⟩ := map_eq_ok h
    cases heq
  · obtain ⟨res', hdecode, heq⟩ := map_eq_ok h
    obtain rfl := Message.registrationResponse.inj heq
    refine ⟨?_, hdecode⟩
    rw [kind, List.drop_take, ← String.toList_ofList (l := List.take _ _)]
    exact congrArg String.toList hack
  all_goals
    obtain ⟨other, -, heq⟩ := map_eq_ok h
    cases heq

theorem length_splitString_request {input : String} {req : RegistrationRequest}
    (h : decodeRegistrationRequest input = .ok req) : (splitString input ';').length = 9 := by
  unfold decodeRegistrationRequest at h
  split at h
  · rename_i hparts
    rw [hparts]
    rfl
  · cases h

theorem length_splitString_response {input : String} {res : RegistrationResponse}
    (h : decodeRegistrationResponse input = .ok res) : (splitString input ';').length = 11 := by
  unfold decodeRegistrationResponse at h
  split at h
  · rename_i hparts
    rw [hparts]
    rfl
  · cases h

theorem length_encodeMessage (m : Message) : 8 ≤ (encodeMessage m).toList.length := by
  obtain ⟨rest, hrest⟩ := exists_rest m
  have hmarker : marker.length = 5 := rfl
  have htag := length_tag m
  rw [hrest, List.length_append, List.length_append]
  omega

theorem kind_encodeMessage (m : Message) : kind (encodeMessage m).toList = m.tag.toList := by
  obtain ⟨rest, hrest⟩ := exists_rest m
  have hlength : (marker ++ m.tag.toList).length = 8 := by
    rw [List.length_append, length_tag]
    rfl
  rw [hrest, kind_append hlength.ge, kind, List.take_of_length_le hlength.le, show 5 = marker.length from rfl,
    List.drop_left]

theorem request_of_kind {m : Message} (h : kind (encodeMessage m).toList = "REG".toList) :
    ∃ req, m = .registrationRequest req := by
  rw [kind_encodeMessage, String.toList_inj] at h
  cases m with
  | registrationRequest req => exact ⟨req, rfl⟩
  | registrationResponse | keepalivePing | keepaliveResponse | error | componentQuery | componentList =>
      simp [Message.tag] at h

theorem response_of_kind {m : Message} (h : kind (encodeMessage m).toList = "ACK".toList) :
    ∃ res, m = .registrationResponse res := by
  rw [kind_encodeMessage, String.toList_inj] at h
  cases m with
  | registrationResponse res => exact ⟨res, rfl⟩
  | registrationRequest | keepalivePing | keepaliveResponse | error | componentQuery | componentList =>
      simp [Message.tag] at h

theorem toList_encodeMessage_front (m : Message) :
    (encodeMessage m).toList =
      ((m.front.map String.toList).map (· ++ [';'])).flatten ++ m.humanReadableMessage.toList := by
  rw [encodeMessage_eq, toList_line, intercalate_concat]

variable {ms : List Message} {piece : List Char}

/-- **A piece that begins with the marker begins with a message**, or with a part of one. -/
theorem exists_message (hplain : ∀ m ∈ ms, m.Plain) (hpiece : piece <:+: messageStream ms)
    (hmarker : marker <+: piece) : ∃ m ∈ ms, ∃ more, piece <+: (encodeMessage m).toList ++ more := by
  obtain ⟨pre, post, hstream⟩ := hpiece
  rw [List.append_assoc] at hstream
  have hbodies : messageStream ms = ((ms.map Message.body).map (marker ++ ·)).flatten := by
    unfold messageStream
    rw [List.map_map]
    exact congrArg List.flatten (List.map_congr_left fun m _ => toList_encodeMessage m)
  obtain ⟨body, hbody, more, hrest⟩ := Marker.exists_record marker_ne_nil unbordered_marker
    (fun b hb => by
      obtain ⟨m, hm, rfl⟩ := List.mem_map.mp hb
      exact (hplain m hm).unmarked)
    (hbodies.symm.trans hstream.symm) (hmarker.trans (List.prefix_append _ _))
  obtain ⟨m, hm, rfl⟩ := List.mem_map.mp hbody
  rw [← toList_encodeMessage] at hrest
  exact ⟨m, hm, more, post, hrest⟩

theorem kind_of_piece {m : Message} {more : List Char} (hbegin : piece <+: (encodeMessage m).toList ++ more)
    (hlong : 8 ≤ piece.length) : kind (encodeMessage m).toList = kind piece := by
  obtain ⟨rest, hrest⟩ := hbegin
  rw [← kind_append (length_encodeMessage m) more, ← hrest, kind_append hlong]

/-- A piece with as many fields as the message has all its fields but the last. -/
theorem splitString_piece {m : Message} (hplain : m.Plain) {more : List Char}
    (hbegin : piece <+: (encodeMessage m).toList ++ more)
    (hparts : (splitString (String.ofList piece) ';').length = m.front.length + 1) :
    ∃ last, splitString (String.ofList piece) ';' = m.front ++ [last] := by
  have hfree := semicolon_notMem_front hplain.free
  rw [toList_encodeMessage_front, List.append_assoc] at hbegin
  have hlength : (fields ';' piece).length = m.front.length + 1 := by
    rw [splitString, List.length_map, String.toList_ofList] at hparts
    exact hparts
  have htake := fields_take (fun f hf => by
    obtain ⟨g, hg, rfl⟩ := List.mem_map.mp hf
    exact hfree g hg) hbegin (by
      rw [hlength, List.length_map]
      exact Nat.lt_succ_self _)
  rw [List.length_map] at htake
  obtain ⟨last, hlast⟩ : ∃ last, (fields ';' piece).drop m.front.length = [last] :=
    List.length_eq_one_iff.mp (by rw [List.length_drop, hlength, Nat.add_sub_cancel_left])
  refine ⟨String.ofList last, ?_⟩
  rw [splitString, String.toList_ofList, ← List.take_append_drop m.front.length (fields ';' piece), hlast, htake,
    List.map_append, map_ofList_map_toList]
  rfl

/-- **What the service decodes** as a registration is one that was sent, up to its last field. -/
theorem request_of_piece (hplain : ∀ m ∈ ms, m.Plain) (hpiece : piece <:+: messageStream ms) {req : RegistrationRequest}
    (hdecode : decodeMessage (String.ofList piece) = .ok (.registrationRequest req)) :
    ∃ req', .registrationRequest req' ∈ ms ∧ req = { req' with humanReadableMessage := req.humanReadableMessage } := by
  obtain ⟨hmarker, hlong⟩ := decodeMessage_marker hdecode
  obtain ⟨hkind, hfields⟩ := decodeMessage_request hdecode
  rw [String.toList_ofList] at hmarker hlong hkind
  obtain ⟨m, hm, more, hbegin⟩ := exists_message hplain hpiece hmarker
  obtain ⟨req', rfl⟩ := request_of_kind ((kind_of_piece hbegin hlong).trans hkind)
  obtain ⟨last, hall⟩ := splitString_piece (hplain _ hm) hbegin (length_splitString_request hfields)
  have hok : decodeRegistrationRequest (String.ofList piece) = .ok { req' with humanReadableMessage := last } :=
    decodeRegistrationRequest_of_front hall
  rw [hfields] at hok
  obtain rfl := Except.ok.inj hok
  exact ⟨req', hm, rfl⟩

/-- **What a client decodes** as the response to a registration is one that the service sent, up to its last field. -/
theorem response_of_piece (hplain : ∀ m ∈ ms, m.Plain) (hpiece : piece <:+: messageStream ms)
    {res : RegistrationResponse}
    (hdecode : decodeMessage (String.ofList piece) = .ok (.registrationResponse res)) :
    ∃ res', .registrationResponse res' ∈ ms ∧
      res = { res' with humanReadableMessage := res.humanReadableMessage } := by
  obtain ⟨hmarker, hlong⟩ := decodeMessage_marker hdecode
  obtain ⟨hkind, hfields⟩ := decodeMessage_response hdecode
  rw [String.toList_ofList] at hmarker hlong hkind
  obtain ⟨m, hm, more, hbegin⟩ := exists_message hplain hpiece hmarker
  obtain ⟨res', rfl⟩ := response_of_kind ((kind_of_piece hbegin hlong).trans hkind)
  obtain ⟨last, hall⟩ := splitString_piece (hplain _ hm) hbegin (length_splitString_response hfields)
  have hdeclared : res'.responseCode.Declared := (hplain _ hm).declared
  have hok : decodeRegistrationResponse (String.ofList piece) = .ok { res' with humanReadableMessage := last } :=
    decodeRegistrationResponse_of_front hdeclared hall
  rw [hfields] at hok
  obtain rfl := Except.ok.inj hok
  exact ⟨res', hm, rfl⟩

end EdgeOffloading.Discovery
