import EdgeOffloading.System.ComponentQueries

/-!
# The reply to a registration

The service writes eleven fields. The OM takes the address that the service has detected from the ninth of them, where
the configuration has been since the address moved to the tenth; the decoder of the protocol takes it from the tenth.

* `parseRegistrationResponse_line`: what the OM makes of a reply, whatever its fields are;
* `readsAsWritten_iff`: when that is what the service has written.
-/

namespace EdgeOffloading

open Discovery

/-! ## The line -/

section Line

variable {res : RegistrationResponse}

/-- The strings of the response have no separator in them. -/
def Discovery.RegistrationResponse.Free (res : RegistrationResponse) : Prop :=
  ∀ f ∈ (Message.registrationResponse res).stringFields, ';' ∉ f.toList

/-- The line with another text in the last field. -/
def registrationLine (res : RegistrationResponse) (text : List Char) : List Char :=
  [';'].intercalate ((Message.registrationResponse res).front.map String.toList ++ [text])

theorem encodeRegistrationResponse_line (res : RegistrationResponse) :
    (encodeRegistrationResponse res).toList = registrationLine res res.humanReadableMessage.toList := by
  have hline : encodeRegistrationResponse res = _ := encodeMessage_eq (.registrationResponse res)
  rw [hline, toList_line]
  rfl

theorem registrationLine_ends (res : RegistrationResponse) :
    ∃ mid, ∀ text, registrationLine res text = "DISC:ACK".toList ++ (mid ++ ';' :: text) := by
  refine ⟨';' :: [';'].intercalate ((Message.registrationResponse res).front.tail.map String.toList), fun text => ?_⟩
  simp [registrationLine, Message.front, List.intercalate_cons_cons]

theorem pyStrip_registrationLine (res : RegistrationResponse) (text : List Char) :
    pyStrip (registrationLine res text) = registrationLine res (text.reverse.dropWhile isPySpace).reverse := by
  obtain ⟨mid, hmid⟩ := registrationLine_ends res
  rw [hmid, hmid]
  exact stripBy_of_head ("ISC:ACK".toList ++ mid) text (by decide) (by decide)

theorem splitOn_registrationLine (hfree : res.Free) {text : List Char} (htext : ';' ∉ text) :
    (registrationLine res text).splitOn ';' = (Message.registrationResponse res).front.map String.toList ++ [text] := by
  refine List.splitOn_intercalate ';' (fun l hl => ?_) (List.append_ne_nil_of_right_ne_nil _ (List.cons_ne_nil _ _))
  rcases List.mem_append.mp hl with hl | hl
  · obtain ⟨f, hf, rfl⟩ := List.mem_map.mp hl
    exact semicolon_notMem_front hfree f hf
  · rw [List.mem_singleton.mp hl]
    exact htext

/-- **What the OM makes of a reply**: it decides by the code, and takes the configuration for the address. -/
theorem parseRegistrationResponse_line (hfree : res.Free) (s : RegistrationState) :
    s.parseRegistrationResponse (pyStrip (encodeRegistrationResponse res).toList) =
      if res.responseCode.toInt = 0 then ({ registered := true, detectedIp := some res.configJson }, true)
      else (s, false) := by
  have hlast : ';' ∉ res.humanReadableMessage.toList := hfree _ (by simp [Message.stringFields])
  have hsub : ∀ {text : List Char}, ';' ∉ text → ';' ∉ (text.reverse.dropWhile isPySpace).reverse := fun h hmem =>
    h (List.mem_reverse.mp ((List.dropWhile_sublist _).mem (List.mem_reverse.mp hmem)))
  obtain ⟨mid, hmid⟩ := registrationLine_ends res
  have hhead : ∀ text, "DISC:ACK".toList.isPrefixOf (registrationLine res text) = true := fun text => by
    rw [hmid, List.isPrefixOf_iff_prefix]
    exact List.prefix_append _ _
  unfold RegistrationState.parseRegistrationResponse
  rw [encodeRegistrationResponse_line, pyStrip_registrationLine, pyStrip_registrationLine,
    splitOn_registrationLine hfree (hsub (hsub hlast)), hhead]
  simp only [Message.front, List.map_cons, List.map_nil, List.cons_append, List.nil_append, List.length_cons,
    List.length_nil, List.getD_cons_succ, List.getD_cons_zero, String.ofList_toList, pyInt_toString]
  rfl

theorem decodeRegistrationResponse_of_last_empty (hfree : res.Free) (h : res.humanReadableMessage = "") :
    decodeRegistrationResponse (encodeRegistrationResponse res) = .error .malformedMessage := by
  have hparts : splitString (encodeRegistrationResponse res) ';' = (Message.registrationResponse res).front :=
    (splitString_encodeMessage hfree).trans (if_pos h)
  rw [decodeRegistrationResponse, hparts]
  rfl

theorem decodeRegistrationResponse_of_success (hfree : res.Free) (h : res.humanReadableMessage ≠ "")
    (hcode : res.responseCode.toInt = 0) :
    decodeRegistrationResponse (encodeRegistrationResponse res) = .ok { res with responseCode := .success } := by
  have hdeclared : ({ res with responseCode := .success } : RegistrationResponse).responseCode.Declared := trivial
  apply decodeRegistrationResponse_of_front hdeclared
  have hparts : splitString (encodeRegistrationResponse res) ';' =
      (Message.registrationResponse res).front ++ [res.humanReadableMessage] :=
    (splitString_encodeMessage hfree).trans (if_neg h)
  rw [hparts]
  simp only [Message.front, hcode]
  rfl

end Line

/-! ## The two readers -/

/-- The OM reads the reply as the service has written it: it is registered exactly if the code is that of a success, and
then it has the detected address, which the decoder of the protocol finds in the same line. -/
structure ReadsAsWritten (s : RegistrationState) (res : RegistrationResponse) : Prop where
  registered : (s.parseRegistrationResponse (pyStrip (encodeRegistrationResponse res).toList)).2 = true ↔
    res.responseCode.toInt = ResponseCode.success.toInt
  address : res.responseCode.toInt = ResponseCode.success.toInt →
    (s.parseRegistrationResponse (pyStrip (encodeRegistrationResponse res).toList)).1.detectedIp =
      some res.detectedClientAddress
  decoded : res.responseCode.toInt = ResponseCode.success.toInt →
    ∃ d, decodeRegistrationResponse (encodeRegistrationResponse res) = .ok d ∧ d.responseCode = .success ∧
      d.detectedClientAddress = res.detectedClientAddress

/-- **The reply to a registration is read as it was written** exactly if it is not that of a success, or the
configuration is the text of the address and the last field is not empty. -/
theorem readsAsWritten_iff (s : RegistrationState) (res : RegistrationResponse) (hfree : res.Free) :
    ReadsAsWritten s res ↔ res.responseCode.toInt ≠ ResponseCode.success.toInt ∨
      res.configJson = res.detectedClientAddress ∧ res.humanReadableMessage ≠ "" := by
  have hparse := parseRegistrationResponse_line hfree s
  by_cases hcode : res.responseCode.toInt = 0
  · rw [if_pos hcode] at hparse
    constructor
    · intro h
      refine .inr ⟨?_, fun hempty => ?_⟩
      · have haddress := h.address hcode
        rw [hparse] at haddress
        exact Option.some.inj haddress
      · obtain ⟨d, hd, -⟩ := h.decoded hcode
        rw [decodeRegistrationResponse_of_last_empty hfree hempty] at hd
        cases hd
    · rintro (hne | ⟨hsame, hne⟩)
      · exact absurd hcode hne
      · refine ⟨?_, fun _ => ?_, fun _ => ⟨_, decodeRegistrationResponse_of_success hfree hne hcode, rfl, rfl⟩⟩
        · rw [hparse]
          exact iff_of_true rfl hcode
        · rw [hparse, hsame]
  · rw [if_neg hcode] at hparse
    refine iff_of_true ⟨?_, fun h => absurd h hcode, fun h => absurd h hcode⟩ (.inl hcode)
    rw [hparse]
    exact iff_of_false Bool.false_ne_true hcode

/-- The reply to an OM whose id is taken. -/
def conflictReply : RegistrationResponse where
  responseCode := .idConflict
  assignedGroupId := 1
  assignedIdInGroup := 1
  connectionTargetType := ""
  connectionTargetAddress := ""
  connectionTargetPort := ""
  connectionTargetId := 0
  configJson := ""
  detectedClientAddress := "10.0.0.3"
  humanReadableMessage := "Component ID is already in use."

theorem readsAsWritten_iff_conflictReply : ReadsAsWritten {} conflictReply :=
  (readsAsWritten_iff {} conflictReply (by unfold RegistrationResponse.Free; decide)).mpr (.inl (by decide))

/-- The reply to the OM, which has sent its configuration. -/
def omReply : RegistrationResponse where
  responseCode := .success
  assignedGroupId := 1
  assignedIdInGroup := 1
  connectionTargetType := ""
  connectionTargetAddress := ""
  connectionTargetPort := ""
  connectionTargetId := 0
  configJson := "\x7b\"tasks\": []\x7d"
  detectedClientAddress := "10.0.0.3"
  humanReadableMessage := "Registration successful."

theorem omReply_not_readsAsWritten :
    omReply.Free ∧ ¬ ReadsAsWritten {} omReply ∧
      (RegistrationState.parseRegistrationResponse {} (pyStrip (encodeRegistrationResponse omReply).toList)).1 =
        { registered := true, detectedIp := some "\x7b\"tasks\": []\x7d" } := by
  have hfree : omReply.Free := by
    unfold RegistrationResponse.Free
    decide
  have hparse := parseRegistrationResponse_line hfree {}
  refine ⟨hfree, fun h => ?_, ?_⟩
  · have haddress := h.address rfl
    rw [hparse] at haddress
    exact absurd haddress (by decide)
  · rw [hparse]
    rfl

end EdgeOffloading
