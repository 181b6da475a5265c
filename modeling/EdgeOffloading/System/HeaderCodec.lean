import EdgeOffloading.Gateway.Receiver

/-!
# The header between gateway and Bridge

Two writers in the gateway, one reader in the Bridge and one in the gateway have to agree on the layout of the header.

* `parse_createHeaderInBuffer`: the Bridge reads what the gateway writes;
* `parsersAgree`: on any bytes that hold the topic they announce, the readers agree;
* `headerCodec`: the layout is one for all of them.
-/

namespace EdgeOffloading

open PartialRead

/-! ## The Bridge reads what the gateway writes -/

section Created

variable (topic : List UInt8) (type : MessageType) (idGroup identifierInGroup : UInt8) (dataSize : UInt32)
  (options : MessageOptions)

theorem parse_createHeaderInBuffer (rest : List UInt8) :
    parseMessageHeader (createHeaderInBuffer topic type idGroup identifierInGroup dataSize.toNat options ++ rest) =
      some ⟨constructRoutingKey idGroup identifierInGroup type.toUInt8,
        minHeaderLen + min topic.length 255 + dataSize.toNat, minHeaderLen + min topic.length 255, dataSize.toNat⟩ := by
  have hlength : ¬ (writtenTopic topic ++ rest).length < min topic.length 255 := by
    simp [writtenTopic]
    omega
  rw [createHeaderInBuffer_eq, List.append_assoc,
    parse_headerStart topic type idGroup identifierInGroup dataSize.toNat_lt options, if_neg hlength]

end Created

/-! ## The readers on any bytes -/

theorem byteAt_take {bytes : List UInt8} {n i : Nat} (h : i < n) : byteAt (bytes.take n) i = byteAt bytes i := by
  unfold byteAt
  rw [List.getD_eq_getElem?_getD, List.getD_eq_getElem?_getD, List.getElem?_take_of_lt h]

theorem parse_of_length {bytes : List UInt8} (hlength : minHeaderLen + (byteAt bytes 10).toNat ≤ bytes.length) :
    parseMessageHeader bytes =
      if readUint16BigEndian bytes 0 ≠ expectedMagicNumber then none
      else some ⟨constructRoutingKey (byteAt bytes 4) (byteAt bytes 5) (byteAt bytes 3),
        minHeaderLen + (byteAt bytes 10).toNat + readUint32BigEndian bytes 6, minHeaderLen + (byteAt bytes 10).toNat,
        readUint32BigEndian bytes 6⟩ := by
  unfold parseMessageHeader
  rw [if_neg (by omega)]
  dsimp only
  rw [if_neg (show ¬ bytes.length < minHeaderLen + (byteAt bytes 10).toNat by omega)]

/-- The Bridge rejects the bytes and the gateway fails on them, or both accept them, with the same header in front of
the same number of payload bytes. -/
def ParsersAgree (bytes : List UInt8) : Prop :=
  ∀ (t : GatewayTransport) (s : GatewaySocket) (schedule : List Outcome), s.Open → Clean schedule →
    bytes.length ≤ supply schedule →
      (parseMessageHeader bytes = none ∧ ∃ s', receiveHeader t (s.withSource ⟨bytes, schedule⟩) = .failed s') ∨
        ∃ info h schedule', parseMessageHeader bytes = some info ∧
          receiveHeader t (s.withSource ⟨bytes, schedule⟩) =
            .done h (s.withSource ⟨bytes.drop info.payloadOffset, schedule'⟩) ∧
          minHeaderLen + h.topic.length = info.payloadOffset ∧ h.dataSize.toNat = info.payloadSize

theorem parsersAgree {bytes : List UInt8} (hlength : minHeaderLen + (byteAt bytes 10).toNat ≤ bytes.length) :
    ParsersAgree bytes := by
  intro t s schedule hopen hclean henough
  rw [parse_of_length hlength]
  have hbyte : ∀ i < minHeaderLen, byteAt (bytes.take minHeaderLen) i = byteAt bytes i := fun i hi => byteAt_take hi
  cases hparse : parseHeaderStart (bytes.take minHeaderLen) with
  | none =>
      left
      have hmagic := (parseHeaderStart_eq_none_iff _).mp hparse
      rw [readMagic_congr hbyte] at hmagic
      obtain ⟨schedule', hfailed⟩ := receiveHeader_eq_failed t hopen ⟨bytes, schedule⟩ hclean
        (by dsimp only; omega) (by dsimp only; omega) hparse
      exact ⟨if_pos hmagic, _, hfailed⟩
  | some h =>
      right
      obtain ⟨hsize, htopic⟩ := dataSize_parseHeaderStart hparse
      rw [readSize_congr hbyte] at hsize
      rw [hbyte 10 (by decide)] at htopic
      have hmagic : ¬ readUint16BigEndian bytes 0 ≠ expectedMagicNumber := by
        intro hne
        rw [← readMagic_congr hbyte] at hne
        rw [(parseHeaderStart_eq_none_iff _).mpr hne] at hparse
        cases hparse
      rw [← htopic] at hlength ⊢
      obtain ⟨schedule', -, hdone⟩ := (reads_receiveHeader t hopen ⟨bytes, schedule⟩ hclean hparse
        hlength).done (by dsimp only; omega)
      refine ⟨_, _, schedule', if_neg hmagic, hdone, ?_, hsize⟩
      dsimp only
      rw [List.length_take, List.length_drop]
      omega

/-- **One layout.** The writers write the same header; the Bridge and the gateway read it back, the topic cut to 255
bytes and the version modulo eight; and the two readers agree on all bytes that hold the topic they announce. -/
theorem headerCodec (topic : List UInt8) (type : MessageType) (idGroup identifierInGroup : UInt8) (dataSize : UInt32)
    (options : MessageOptions) :
    createHeaderWithOptions topic type idGroup identifierInGroup dataSize options =
        createHeaderInBuffer topic type idGroup identifierInGroup dataSize.toNat options ∧
      (∀ rest, parseMessageHeader
          (createHeaderInBuffer topic type idGroup identifierInGroup dataSize.toNat options ++ rest) =
        some ⟨constructRoutingKey idGroup identifierInGroup type.toUInt8,
          11 + min topic.length 255 + dataSize.toNat, 11 + min topic.length 255, dataSize.toNat⟩) ∧
      (∀ (t : GatewayTransport) (s : GatewaySocket) (rest : List UInt8) (schedule : List Outcome), s.Open →
        Clean schedule → 11 + min topic.length 255 ≤ supply schedule → ∃ schedule',
          receiveHeader t (s.withSource
              ⟨createHeaderInBuffer topic type idGroup identifierInGroup dataSize.toNat options ++ rest, schedule⟩) =
            .done ⟨topic.take 255, type.toUInt8, idGroup, identifierInGroup, dataSize,
              { options with version := options.version % 8 }⟩ (s.withSource ⟨rest, schedule'⟩)) ∧
      ∀ bytes, 11 ≤ bytes.length → 11 + (byteAt bytes 10).toNat ≤ bytes.length → ParsersAgree bytes := by
  refine ⟨createHeaderWithOptions_eq .., fun rest => parse_createHeaderInBuffer .., ?_, fun bytes _ => parsersAgree⟩
  intro t s rest schedule hopen hclean henough
  have htopic : writtenTopic topic = topic.take 255 := by
    unfold writtenTopic
    rcases Nat.le_total topic.length 255 with hle | hle
    · rw [min_eq_left hle, List.take_of_length_le le_rfl, List.take_of_length_le hle]
    · rw [min_eq_right hle]
  obtain ⟨schedule', -, hdone⟩ := (reads_receiveHeader_created topic type idGroup identifierInGroup dataSize options t
    hopen rest hclean).done henough
  refine ⟨schedule', hdone.trans ?_⟩
  unfold recoveredHeader
  rw [htopic]
  dsimp only
  rw [List.drop_left' (length_createHeaderInBuffer ..)]

end EdgeOffloading
