import Tunnel.Proofs.Frame.Interchange

/-!
# Writing a family over the header that names it

A frame that came in names its family, and whoever passes it on writes that family over the header
again. This is the direction opposite to reading back what was written: the octets are whatever came
in, and only the family that was read is known of them. What is lost are flags and nothing else. A
number that was read as a family is the number of that family, also where both families share one,
since the family that is read is the one whose number is looked at first. The flags of the other
layout are not read, and are written as zero.

## Main definitions

* `FrameCodec.Retagged` — what a frame and the same frame under its own family have in common
* `FrameCodec.Retags` — what writing over the header of a frame comes to

## Main results

* `FrameCodec.header?_of_readHeader` — a header that was read as a family, and the family's header
* `FrameCodec.retagged_of_decodeFamily` — writing the family of a frame over its header
* `FrameCodec.writeHeader_retags` — writing over headers, whatever the frame and the family
-/

namespace Tunnel.FrameCodec

variable {codec : FrameCodec} {family : AddressFamily} {frame : Bytes} {a b c d : UInt8}

/-! ### The header of the family that was read -/

/-- The octets that are written where these were read as a family. -/
def rewritten : FrameCodec → UInt8 → UInt8 → UInt8 → UInt8 → Bytes
  | packetInfo, _, _, c, d => [0, 0, c, d]
  | familyHeader _ _, a, b, c, d => [a, b, c, d]

theorem ne_unrecognized_of_readHeader (h : codec.readHeader a b c d = .ok family) :
    family ≠ .unrecognized := by
  rintro rfl
  cases codec with
  | packetInfo =>
    simp only [readHeader] at h
    split at h
    · cases h
    · next hother => exact hother (Except.ok.inj h)
  | familyHeader inet inet6 =>
    simp only [readHeader] at h
    split at h
    · cases h
    · split at h <;> cases h

/-- **A header that was read as a family** is the header of that family, but for its flags. -/
theorem header?_of_readHeader (h : codec.readHeader a b c d = .ok family) :
    codec.header? family = some (codec.rewritten a b c d) := by
  have hne := ne_unrecognized_of_readHeader h
  cases codec with
  | packetInfo =>
    have hread : AddressFamily.ofEtherType (Bytes.uint16BE c d) = family := by
      simp only [readHeader] at h
      split at h
      · cases h
      · exact Except.ok.inj h
    have htag : family.etherType = some (Bytes.uint16BE c d) :=
      (AddressFamily.ofEtherType_eq_iff hne).1 hread
    show family.etherType.map (fun tag => 0 :: 0 :: Bytes.ofUInt16BE tag) = some [0, 0, c, d]
    rw [htag, Option.map_some, Bytes.ofUInt16BE_uint16BE]
  | familyHeader inet inet6 =>
    simp only [readHeader] at h
    -- the first number is looked at first, and so the second one is not it where it is found
    split at h
    · next hinet =>
      obtain rfl := Except.ok.inj h
      show some (Bytes.ofUInt32BE inet) = some [a, b, c, d]
      rw [← hinet, Bytes.ofUInt32BE_uint32BE]
    · split at h
      · next hinet6 =>
        obtain rfl := Except.ok.inj h
        show some (Bytes.ofUInt32BE inet6) = some [a, b, c, d]
        rw [← hinet6, Bytes.ofUInt32BE_uint32BE]
      · cases h

/-- A frame whose family can be read has a whole header, and the family was read there. -/
theorem exists_readHeader (h : codec.decodeFamily frame ≠ .unrecognized) :
    ∃ a b c d payload, frame = a :: b :: c :: d :: payload ∧
      codec.readHeader a b c d = .ok (codec.decodeFamily frame) := by
  match frame with
  | [] | [_] | [_, _] | [_, _, _] => exact absurd rfl h
  | a :: b :: c :: d :: payload =>
    refine ⟨a, b, c, d, payload, rfl, ?_⟩
    rw [decodeFamily] at h ⊢
    cases hread : codec.readHeader a b c d with
    | ok family => rfl
    | error notice =>
      rw [hread] at h
      exact absurd rfl h

/-- The flags are not read, so that clearing them changes no family. -/
theorem decodeFamily_rewritten (codec : FrameCodec) (a b c d : UInt8) (payload : Bytes) :
    codec.decodeFamily (codec.rewritten a b c d ++ payload) =
      codec.decodeFamily (a :: b :: c :: d :: payload) := by
  cases codec <;> rfl

/-! ### Writing it again -/

/-- What a frame and the same frame under its own family have in common. -/
structure Retagged (codec : FrameCodec) (frame after : Bytes) : Prop where
  /-- What follows the header is as it was. -/
  drop_eq : after.drop Frame.headerLength = frame.drop Frame.headerLength
  /-- The family is the same. -/
  family_eq : codec.decodeFamily after = codec.decodeFamily frame
  /-- A number comes back as it was, whatever the two numbers of the layout are. -/
  number_eq : ∀ inet inet6, codec = familyHeader inet inet6 → after = frame
  /-- An EtherType comes back as it was. -/
  tag_eq : codec = packetInfo → after.drop 2 = frame.drop 2
  /-- The flags are cleared. -/
  flags_eq : codec = packetInfo → after.take 2 = [0, 0]
  /-- So such a frame is as it was exactly if there were none. -/
  eq_iff : codec = packetInfo → (after = frame ↔ frame.take 2 = [0, 0])

theorem retagged_rewritten (codec : FrameCodec) (a b c d : UInt8) (payload : Bytes) :
    codec.Retagged (a :: b :: c :: d :: payload) (codec.rewritten a b c d ++ payload) where
  drop_eq := by cases codec <;> rfl
  family_eq := decodeFamily_rewritten codec a b c d payload
  number_eq := by
    rintro inet inet6 rfl
    rfl
  tag_eq := by
    rintro rfl
    rfl
  flags_eq := by
    rintro rfl
    rfl
  eq_iff := by
    rintro rfl
    show 0 :: 0 :: c :: d :: payload = a :: b :: c :: d :: payload ↔ [a, b] = [0, 0]
    simp only [List.cons.injEq, and_true]
    constructor
    · rintro ⟨ha, hb⟩
      exact ⟨ha.symm, hb.symm⟩
    · rintro ⟨ha, hb⟩
      exact ⟨ha.symm, hb.symm⟩

/-- **Writing the family of a frame over its header** goes well, and keeps what `Retagged` says. -/
theorem retagged_of_decodeFamily (h : codec.decodeFamily frame ≠ .unrecognized) :
    ∃ after, (codec.writeHeader (codec.decodeFamily frame)).run frame = ⟨.ok (), [], after⟩ ∧
      codec.Retagged frame after := by
  obtain ⟨a, b, c, d, payload, rfl, hread⟩ := exists_readHeader h
  refine ⟨codec.rewritten a b c d ++ payload, ?_, retagged_rewritten codec a b c d payload⟩
  have hwhole : ¬(a :: b :: c :: d :: payload).length < Frame.headerLength := by
    simp [Frame.headerLength]
  simp only [run_writeHeader, header?_of_readHeader hread, if_neg hwhole]
  rfl

/-! ### Writing over headers -/

theorem headerRefusal?_eq_some_iff {e : Error} :
    headerRefusal? family frame = some e ↔
      family = .unrecognized ∧ e = .unsupportedFamily .unrecognized ∨
        family ≠ .unrecognized ∧ frame.length < Frame.headerLength ∧
          e = .frameTooShort frame.length := by
  rw [headerRefusal?]
  by_cases hfamily : family = .unrecognized
  · simp [hfamily, eq_comm]
  · by_cases hshort : frame.length < Frame.headerLength
    · simp [hfamily, hshort, eq_comm]
    · simp [hfamily, hshort]

/-- What writing over the header of a frame comes to. -/
structure Retags (codec : FrameCodec) (frame : Bytes) : Prop where
  /-- The family of the frame can be written again, if it could be read. -/
  retagged : (codec.decodeFamily frame).isRecognized = true →
    ∃ after, (codec.writeHeader (codec.decodeFamily frame)).run frame = ⟨.ok (), [], after⟩ ∧
      codec.encodeFamily frame (codec.decodeFamily frame) = .ok after ∧
      codec.Retagged frame after
  /-- Of all families, only the unrecognized one is refused for its own sake, whatever the length;
  the others are refused where there is no room for a header. -/
  error_iff : ∀ family e, ((codec.writeHeader family).run frame).answer = .error e ↔
    family = .unrecognized ∧ e = .unsupportedFamily .unrecognized ∨
      family ≠ .unrecognized ∧ frame.length < Frame.headerLength ∧ e = .frameTooShort frame.length
  /-- A refusal leaves the frame as it was. -/
  unchanged : ∀ family e, ((codec.writeHeader family).run frame).answer = .error e →
    ((codec.writeHeader family).run frame).world = frame
  /-- Seen from outside it is the frame, or the failure. -/
  encodeFamily_eq : ∀ family, codec.encodeFamily frame family =
    ((codec.writeHeader family).run frame).answer.map fun _ =>
      ((codec.writeHeader family).run frame).world

/-- **Writing over headers**, under every layout, whatever the frame and the family: a frame that
came in keeps its payload and its family under the family that it names, and a refusal changes
nothing. -/
theorem writeHeader_retags (codec : FrameCodec) (frame : Bytes) : codec.Retags frame where
  retagged hrecognized := by
    have hne : codec.decodeFamily frame ≠ .unrecognized := bne_iff_ne.1 hrecognized
    obtain ⟨after, hrun, hretagged⟩ := retagged_of_decodeFamily hne
    refine ⟨after, hrun, ?_, hretagged⟩
    rw [encodeFamily, hrun]
    rfl
  error_iff family e := by
    rw [((alike_writeHeader codec codec family frame).error_iff e).1, headerRefusal?_eq_some_iff]
  unchanged family e he := by
    have hrefusal := ((alike_writeHeader codec codec family frame).error_iff e).1.1 he
    rw [run_writeHeader_refused codec hrefusal]
  encodeFamily_eq _ := rfl

/-- Flags that came in are gone, and the rest of the frame is as it was. -/
example : packetInfo.encodeFamily [0x12, 0x34, 0x86, 0xDD, 0x60] .ipv6 =
    .ok [0, 0, 0x86, 0xDD, 0x60] := rfl

end Tunnel.FrameCodec
