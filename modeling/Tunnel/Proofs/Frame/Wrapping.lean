import Tunnel.Frame

/-!
# Packets in frames

Putting a packet into a buffer comes to one of three things, told apart by the room that there is
and by the family. Either the frame stands at the front of the buffer, header and packet, and what
lies past it is as it was; or nothing was written at all. The frame gives back the packet, and the
family as well, unless the layout has one number for both families.

## Main definitions

* `FrameCodec.Separates` — a layout has a header of its own for each family
* `FrameCodec.Wraps` — what putting a packet into a buffer comes to

## Main results

* `FrameCodec.writeFrame_cases` — the three courses that writing a frame takes
* `FrameCodec.decodeFamily_header` — the family that a header gives back
* `FrameCodec.decodes_iff` — both families come back exactly under a layout that separates them
* `FrameCodec.writeFrame_wraps` — what writing a frame comes to, with every layout and buffer
-/

namespace Tunnel.FrameCodec

/-- The layout has a header of its own for each of the two families. -/
def Separates : FrameCodec → Prop
  | packetInfo => True
  | familyHeader inet inet6 => inet ≠ inet6

instance : DecidablePred Separates
  | packetInfo => inferInstanceAs (Decidable True)
  | familyHeader inet inet6 => inferInstanceAs (Decidable (inet ≠ inet6))

variable {codec : FrameCodec} {family : AddressFamily} {packet buffer header : Bytes}

/-! ### What a frame gives back -/

theorem payload?_frame (h : codec.header? family = some header) :
    Frame.payload? (header ++ packet) = some packet := by
  have hlength := length_header h
  rw [Frame.payload?, List.length_append, hlength, if_neg (by omega), List.drop_left' hlength]

/-- A header gives its family back. Where the layout has one number for both families, the number
is read as the first of them, IPv4. -/
theorem decodeFamily_header (h : codec.header? family = some header) :
    codec.decodeFamily (header ++ packet) = if codec.Separates then family else .ipv4 := by
  cases codec with
  | packetInfo =>
    obtain ⟨tag, htag, rfl⟩ := Option.map_eq_some_iff.1 h
    have hread := Bytes.uint16BE_octets tag
    have hfamily := AddressFamily.ofEtherType_etherType htag
    rw [if_pos (show Separates packetInfo from trivial)]
    show ((readHeader packetInfo 0 0 (tag >>> 8).toUInt8 tag.toUInt8).toOption).getD _ = family
    simp only [readHeader, hread, hfamily]
    cases family with
    | ipv4 => rfl
    | ipv6 => rfl
    | unrecognized => rfl
  | familyHeader inet inet6 =>
    cases family with
    | ipv4 =>
      obtain rfl := Option.some.inj h
      show ((readHeader (familyHeader inet inet6) _ _ _ _).toOption).getD _ = _
      simp only [readHeader, Bytes.uint32BE_octets, if_true, ite_self]
      rfl
    | ipv6 =>
      obtain rfl := Option.some.inj h
      show ((readHeader (familyHeader inet inet6) _ _ _ _).toOption).getD _ = _
      simp only [readHeader, Bytes.uint32BE_octets, if_true]
      by_cases hsame : inet6 = inet
      · have hjoined : ¬Separates (familyHeader inet inet6) := fun hne => hne hsame.symm
        rw [if_pos hsame, if_neg hjoined]
        rfl
      · have hseparate : Separates (familyHeader inet inet6) := fun heq => hsame heq.symm
        rw [if_neg hsame, if_pos hseparate]
        rfl
    | unrecognized => cases h

/-! ### What writing a frame comes to -/

/-- Writing a frame takes one of three courses: no room, no header, or the frame in its place. -/
theorem writeFrame_cases (codec : FrameCodec) (family : AddressFamily) (packet buffer : Bytes) :
    buffer.length < Frame.headerLength + packet.length ∧
        (codec.writeFrame family packet).run buffer =
          ⟨.error (.bufferTooSmall (Frame.headerLength + packet.length) buffer.length), [],
            buffer⟩ ∨
      Frame.headerLength + packet.length ≤ buffer.length ∧ family = .unrecognized ∧
        (codec.writeFrame family packet).run buffer =
          ⟨.error (.unsupportedFamily family), [], buffer⟩ ∨
      Frame.headerLength + packet.length ≤ buffer.length ∧ family ≠ .unrecognized ∧
        ∃ header, codec.header? family = some header ∧
          (codec.writeFrame family packet).run buffer = ⟨.ok (header ++ packet), [],
            header ++ packet ++ buffer.drop (Frame.headerLength + packet.length)⟩ := by
  rw [run_writeFrame]
  by_cases hroom : buffer.length < Frame.headerLength + packet.length
  · exact .inl ⟨hroom, if_pos hroom⟩
  · rw [if_neg hroom]
    have hle := Nat.le_of_not_lt hroom
    cases hheader : codec.header? family with
    | none => exact .inr (.inl ⟨hle, header?_eq_none_iff.1 hheader, rfl⟩)
    | some header =>
      have hfamily : family ≠ .unrecognized := fun h => by
        rw [header?_eq_none_iff.2 h] at hheader
        cases hheader
      exact .inr (.inr ⟨hle, hfamily, header, rfl, rfl⟩)

theorem answer_tooSmall_iff :
    ((codec.writeFrame family packet).run buffer).answer =
        .error (.bufferTooSmall (Frame.headerLength + packet.length) buffer.length) ↔
      buffer.length < Frame.headerLength + packet.length := by
  rcases writeFrame_cases codec family packet buffer with
    ⟨hroom, hrun⟩ | ⟨hroom, -, hrun⟩ | ⟨hroom, -, header, -, hrun⟩
  · simp [hrun, hroom]
  · simp [hrun, hroom]
  · simp [hrun, hroom]

theorem answer_unsupported_iff :
    ((codec.writeFrame family packet).run buffer).answer = .error (.unsupportedFamily family) ↔
      Frame.headerLength + packet.length ≤ buffer.length ∧ family = .unrecognized := by
  rcases writeFrame_cases codec family packet buffer with
    ⟨hroom, hrun⟩ | ⟨hroom, hfamily, hrun⟩ | ⟨-, hfamily, header, -, hrun⟩
  · simp [hrun, Nat.not_le.2 hroom]
  · rw [hrun]
    exact iff_of_true rfl ⟨hroom, hfamily⟩
  · simp [hrun, hfamily]

theorem answer_ok_iff {frame : Bytes} :
    ((codec.writeFrame family packet).run buffer).answer = .ok frame ↔
      Frame.headerLength + packet.length ≤ buffer.length ∧
        ∃ header, codec.header? family = some header ∧ frame = header ++ packet := by
  rcases writeFrame_cases codec family packet buffer with
    ⟨hroom, hrun⟩ | ⟨-, hfamily, hrun⟩ | ⟨hroom, -, header, hheader, hrun⟩
  · simp [hrun, Nat.not_le.2 hroom]
  · simp [hrun, header?_eq_none_iff.2 hfamily]
  · simp [hrun, hroom, hheader, eq_comm]

theorem answer_ne_tooShort (length : Nat) :
    ((codec.writeFrame family packet).run buffer).answer ≠ .error (.frameTooShort length) := by
  rcases writeFrame_cases codec family packet buffer with
    ⟨-, hrun⟩ | ⟨-, -, hrun⟩ | ⟨-, -, header, -, hrun⟩
  · simp [hrun]
  · simp [hrun]
  · simp [hrun]

/-- **A refusal writes nothing**; otherwise the frame stands ahead of what was past its end. -/
theorem world_writeFrame (codec : FrameCodec) (family : AddressFamily) (packet buffer : Bytes) :
    ((codec.writeFrame family packet).run buffer).world =
      match ((codec.writeFrame family packet).run buffer).answer with
      | .error _ => buffer
      | .ok frame => frame ++ buffer.drop (Frame.headerLength + packet.length) := by
  rcases writeFrame_cases codec family packet buffer with
    ⟨-, hrun⟩ | ⟨-, -, hrun⟩ | ⟨-, -, header, -, hrun⟩
  · rw [hrun]
  · rw [hrun]
  · rw [hrun]

/-- Of the buffer only the length counts for the answer. -/
theorem answer_eq_of_length_eq {other : Bytes} (h : other.length = buffer.length) :
    ((codec.writeFrame family packet).run other).answer =
      ((codec.writeFrame family packet).run buffer).answer := by
  rw [run_writeFrame, run_writeFrame, h]
  split
  · rfl
  · cases codec.header? family <;> rfl

/-- **Both families come back** exactly under a layout that separates them, in every buffer that
has room for the frame. -/
theorem decodes_iff (hroom : Frame.headerLength + packet.length ≤ buffer.length) :
    (∀ family frame, ((codec.writeFrame family packet).run buffer).answer = .ok frame →
      codec.decodeFamily frame = family) ↔ codec.Separates := by
  constructor
  · intro h
    obtain ⟨header, hheader⟩ : ∃ header, codec.header? .ipv6 = some header := by
      cases codec <;> exact ⟨_, rfl⟩
    have hdecoded := h .ipv6 _ (answer_ok_iff.2 ⟨hroom, header, hheader, rfl⟩)
    rw [decodeFamily_header hheader] at hdecoded
    refine Decidable.byContradiction fun hjoined => ?_
    rw [if_neg hjoined] at hdecoded
    cases hdecoded
  · intro hseparate family frame hframe
    obtain ⟨-, header, hheader, rfl⟩ := answer_ok_iff.1 hframe
    rw [decodeFamily_header hheader, if_pos hseparate]

/-- What putting a packet into a buffer comes to. -/
structure Wraps (codec : FrameCodec) (family : AddressFamily) (packet buffer : Bytes) : Prop where
  /-- Seen from outside it is a frame and a buffer, or a failure. -/
  wrap_eq : codec.wrap family packet buffer =
    ((codec.writeFrame family packet).run buffer).answer.map fun frame =>
      ⟨frame, ((codec.writeFrame family packet).run buffer).world⟩
  /-- A buffer without the room is refused, whatever the family. -/
  tooSmall_iff : ((codec.writeFrame family packet).run buffer).answer =
      .error (.bufferTooSmall (Frame.headerLength + packet.length) buffer.length) ↔
    buffer.length < Frame.headerLength + packet.length
  /-- Where there is room, a family without a header is refused. -/
  unsupported_iff : ((codec.writeFrame family packet).run buffer).answer =
      .error (.unsupportedFamily family) ↔
    Frame.headerLength + packet.length ≤ buffer.length ∧ family = .unrecognized
  /-- Nothing else is refused. -/
  ok_iff : (∃ frame, ((codec.writeFrame family packet).run buffer).answer = .ok frame) ↔
    Frame.headerLength + packet.length ≤ buffer.length ∧ family ≠ .unrecognized
  /-- The frame is never too short for its header. -/
  ne_tooShort : ∀ length,
    ((codec.writeFrame family packet).run buffer).answer ≠ .error (.frameTooShort length)
  /-- A refusal leaves the buffer as it was. -/
  unchanged : ∀ e, ((codec.writeFrame family packet).run buffer).answer = .error e →
    ((codec.writeFrame family packet).run buffer).world = buffer
  /-- The frame is as long as header and packet, and gives the packet back; it stands at the front
  of the buffer, and past it the buffer is as it was. -/
  framed : ∀ frame, ((codec.writeFrame family packet).run buffer).answer = .ok frame →
    frame.length = Frame.headerLength + packet.length ∧ Frame.payload? frame = some packet ∧
      ((codec.writeFrame family packet).run buffer).world =
        frame ++ buffer.drop (Frame.headerLength + packet.length)
  /-- Of the buffer only the length counts. -/
  answer_eq : ∀ other : Bytes, other.length = buffer.length →
    ((codec.writeFrame family packet).run other).answer =
      ((codec.writeFrame family packet).run buffer).answer
  /-- The family comes back, or IPv4 in its place where the layout does not separate the two. -/
  decodes : ∀ frame, ((codec.writeFrame family packet).run buffer).answer = .ok frame →
    codec.decodeFamily frame = if codec.Separates then family else .ipv4
  /-- Where there is room, both families come back exactly if the layout separates them. -/
  decodes_iff : Frame.headerLength + packet.length ≤ buffer.length →
    ((∀ family frame, ((codec.writeFrame family packet).run buffer).answer = .ok frame →
      codec.decodeFamily frame = family) ↔ codec.Separates)
  /-- A family that was guessed from the packet is the one guessed from the payload. -/
  decodes_guess : codec.Separates → family = AddressFamily.ofPacket packet →
    ∀ frame, ((codec.writeFrame family packet).run buffer).answer = .ok frame →
      (Frame.payload? frame).map AddressFamily.ofPacket = some (codec.decodeFamily frame)

/-- **Wrapping a packet**, under every layout, of every family, in every buffer: the frame stands in
the buffer whole, or nothing was written. -/
theorem writeFrame_wraps (codec : FrameCodec) (family : AddressFamily) (packet buffer : Bytes) :
    Wraps codec family packet buffer := by
  have hworld := world_writeFrame codec family packet buffer
  have hdecodes : ∀ frame, ((codec.writeFrame family packet).run buffer).answer = .ok frame →
      frame.length = Frame.headerLength + packet.length ∧ Frame.payload? frame = some packet ∧
        codec.decodeFamily frame = if codec.Separates then family else .ipv4 := by
    intro frame hframe
    obtain ⟨-, header, hheader, rfl⟩ := answer_ok_iff.1 hframe
    rw [List.length_append, length_header hheader]
    exact ⟨rfl, payload?_frame hheader, decodeFamily_header hheader⟩
  exact {
    wrap_eq := rfl
    tooSmall_iff := answer_tooSmall_iff
    unsupported_iff := answer_unsupported_iff
    ok_iff := by
      have hnone : codec.header? family = none ↔ family = .unrecognized := header?_eq_none_iff
      simp only [answer_ok_iff, ne_eq, ← hnone]
      cases codec.header? family <;> simp
    ne_tooShort := answer_ne_tooShort
    unchanged := fun e he => by rw [hworld, he]
    framed := fun frame hframe => by
      obtain ⟨hlength, hpayload, -⟩ := hdecodes frame hframe
      rw [hworld, hframe]
      exact ⟨hlength, hpayload, rfl⟩
    answer_eq := fun _ => answer_eq_of_length_eq
    decodes := fun frame hframe => (hdecodes frame hframe).2.2
    decodes_iff := decodes_iff
    decodes_guess := fun hseparate hguess frame hframe => by
      obtain ⟨-, hpayload, hfamily⟩ := hdecodes frame hframe
      rw [hpayload, hfamily, if_pos hseparate, hguess]
      rfl }

end Tunnel.FrameCodec
