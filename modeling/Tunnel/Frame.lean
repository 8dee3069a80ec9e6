import Tunnel.Action
import Tunnel.Bytes

/-!
# Frames

A frame is a packet behind a header of four octets that names the packet's family. There are two
layouts. One has two octets of flags and then the EtherType; the other has the number by which a
system knows the family. A header that names no known family, or that is cut short, is read as
unrecognized, never as a failure.

## Main definitions

* `FrameCodec` — a layout
* `FrameCodec.decodeFamily`, `FrameCodec.warning?` — reading a header, and what is said of one that
  cannot be read
* `Frame.payload?` — what follows the header
* `Frame.overwrite` — octets written over those of a buffer
* `FrameCodec.writeHeader`, `FrameCodec.encodeFamily` — writing a header over the first octets of a
  buffer: the work on the buffer, and what comes of it
* `FrameCodec.writeFrame`, `FrameCodec.wrap` — the same for a packet behind its header

## Main results

* `FrameCodec.length_header` — every header has four octets
* `FrameCodec.run_writeHeader`, `FrameCodec.run_writeFrame` — what the two leave behind
* `FrameCodec.length_encodeFamily`, `FrameCodec.length_wrap` — a buffer keeps its length
-/

namespace Tunnel

/-- The number of octets in a header. -/
def Frame.headerLength : Nat := 4

/-- What follows the header of a frame, if the frame has a whole header. -/
def Frame.payload? (frame : Bytes) : Option Bytes :=
  if frame.length < Frame.headerLength then none else some (frame.drop Frame.headerLength)

/-- A layout of the header. -/
inductive FrameCodec
  /-- Flags, which are written as zero and not read, and then the EtherType. -/
  | packetInfo
  /-- The number of the family: `inet` for IPv4 and `inet6` for IPv6. -/
  | familyHeader (inet inet6 : UInt32)
deriving DecidableEq, Repr

namespace FrameCodec

/-- The layout of the frames that an interface of this host carries. -/
def native : FrameCodec := packetInfo

/-- The layout with the host's own family numbers. -/
def hostFamilyHeader : FrameCodec :=
  familyHeader AddressFamily.ipv4.value AddressFamily.ipv6.value

/-- The header of a family that has one. -/
def header? : FrameCodec → AddressFamily → Option Bytes
  | packetInfo, family => family.etherType.map fun tag => 0 :: 0 :: Bytes.ofUInt16BE tag
  | familyHeader inet _, .ipv4 => some (Bytes.ofUInt32BE inet)
  | familyHeader _ inet6, .ipv6 => some (Bytes.ofUInt32BE inet6)
  | familyHeader _ _, .unrecognized => none

/-- The family that the first four octets of a frame name, or the notice that they name none. -/
def readHeader : FrameCodec → UInt8 → UInt8 → UInt8 → UInt8 → Except Notice AddressFamily
  | packetInfo, _, _, c, d =>
    let tag := Bytes.uint16BE c d
    match AddressFamily.ofEtherType tag with
    | .unrecognized => .error (.unknownEtherType tag)
    | family => .ok family
  | familyHeader inet inet6, a, b, c, d =>
    let number := Bytes.uint32BE a b c d
    if number = inet then .ok .ipv4
    else if number = inet6 then .ok .ipv6
    else .error (.unknownFamily number)

/-- The family that a frame's header names. -/
def decodeFamily (codec : FrameCodec) : Bytes → AddressFamily
  | a :: b :: c :: d :: _ => (codec.readHeader a b c d).toOption.getD .unrecognized
  | _ => .unrecognized

/-- What is said of a frame whose header is whole and names no known family. -/
def warning? (codec : FrameCodec) : Bytes → Option Notice
  | a :: b :: c :: d :: _ =>
    match codec.readHeader a b c d with
    | .error notice => some notice
    | .ok _ => none
  | _ => none

/-- Reads the header, and states what cannot be read. -/
def receive {σ : Type} (codec : FrameCodec) (frame : Bytes) : Action σ AddressFamily := do
  if let some notice := codec.warning? frame then
    Action.tell notice
  return codec.decodeFamily frame

end FrameCodec

/-! ### Work on a buffer

A header and a packet are written into a buffer that the caller owns, octet over octet. Whatever
goes wrong, the caller is left with the buffer as the last write left it. -/

namespace Frame

/-- The buffer as it is. -/
def buffer : Action Bytes Bytes := Action.state fun octets => (octets, octets)

/-- Writes octets over those of the buffer, from a place on. -/
def overwrite (place : Nat) (octets : Bytes) : Action Bytes Unit :=
  Action.state fun old => ((), old.take place ++ octets ++ old.drop (place + octets.length))

end Frame

namespace FrameCodec

/-- Writes the header of `family` over the first octets of the buffer. -/
def writeHeader (codec : FrameCodec) (family : AddressFamily) : Action Bytes (Except Error Unit) :=
  match codec.header? family with
  | none => return .error (.unsupportedFamily family)
  | some header => do
    let buffer ← Frame.buffer
    if buffer.length < Frame.headerLength then return .error (.frameTooShort buffer.length)
    else
      Frame.overwrite 0 header
      return .ok ()

/-- Writes the packet into the buffer behind the header of `family`, and answers with the frame. -/
def writeFrame (codec : FrameCodec) (family : AddressFamily) (packet : Bytes) :
    Action Bytes (Except Error Bytes) := do
  let total := Frame.headerLength + packet.length
  let buffer ← Frame.buffer
  if buffer.length < total then return .error (.bufferTooSmall total buffer.length)
  else
    (codec.writeHeader family).attempt fun _ => do
      Frame.overwrite Frame.headerLength packet
      let buffer ← Frame.buffer
      return .ok (buffer.take total)

/-- The buffer with the header of `family` over its first octets. -/
def encodeFamily (codec : FrameCodec) (buffer : Bytes) (family : AddressFamily) :
    Except Error Bytes :=
  let outcome := (codec.writeHeader family).run buffer
  outcome.answer.map fun _ => outcome.world

/-- A packet in a buffer: the frame, and the buffer that holds it at its front. -/
structure Wrapped where
  frame : Bytes
  buffer : Bytes
deriving DecidableEq, Repr

/-- Puts the packet into the buffer behind the header of `family`. What lies past the frame stays
as it was. -/
def wrap (codec : FrameCodec) (family : AddressFamily) (packet buffer : Bytes) :
    Except Error Wrapped :=
  let outcome := (codec.writeFrame family packet).run buffer
  outcome.answer.map fun frame => ⟨frame, outcome.world⟩

theorem length_header {codec : FrameCodec} {family : AddressFamily} {header : Bytes}
    (h : codec.header? family = some header) : header.length = Frame.headerLength := by
  cases codec <;> cases family <;> simp [header?, AddressFamily.etherType] at h <;>
    subst h <;> rfl

theorem header?_eq_none_iff {codec : FrameCodec} {family : AddressFamily} :
    codec.header? family = none ↔ family = .unrecognized := by
  cases codec <;> cases family <;> simp [header?, AddressFamily.etherType]

theorem run_writeHeader (codec : FrameCodec) (family : AddressFamily) (buffer : Bytes) :
    (codec.writeHeader family).run buffer =
      match codec.header? family with
      | none => ⟨.error (.unsupportedFamily family), [], buffer⟩
      | some header =>
        if buffer.length < Frame.headerLength then
          ⟨.error (.frameTooShort buffer.length), [], buffer⟩
        else ⟨.ok (), [], header ++ buffer.drop Frame.headerLength⟩ := by
  rw [writeHeader]
  cases h : codec.header? family with
  | none => rfl
  | some header =>
    by_cases hshort : buffer.length < Frame.headerLength
    · simp [Frame.buffer, hshort]
    · simp [Frame.buffer, Frame.overwrite, hshort, length_header h]

theorem length_encodeFamily {codec : FrameCodec} {buffer after : Bytes} {family : AddressFamily}
    (h : codec.encodeFamily buffer family = .ok after) : after.length = buffer.length := by
  simp only [encodeFamily, run_writeHeader] at h
  split at h
  · cases h
  · next header hheader =>
    split at h
    · cases h
    · cases h
      rw [List.length_append, length_header hheader, List.length_drop]
      omega

/-- In a buffer that has the room, the frame is the header and the packet behind it; without the
room, or without a header, the buffer is left alone. -/
theorem run_writeFrame (codec : FrameCodec) (family : AddressFamily) (packet buffer : Bytes) :
    (codec.writeFrame family packet).run buffer =
      if buffer.length < Frame.headerLength + packet.length then
        ⟨.error (.bufferTooSmall (Frame.headerLength + packet.length) buffer.length), [], buffer⟩
      else match codec.header? family with
        | none => ⟨.error (.unsupportedFamily family), [], buffer⟩
        | some header => ⟨.ok (header ++ packet), [],
            header ++ packet ++ buffer.drop (Frame.headerLength + packet.length)⟩ := by
  by_cases hroom : buffer.length < Frame.headerLength + packet.length
  · simp [writeFrame, Frame.buffer, hroom]
  · have hhead : ¬buffer.length < Frame.headerLength := by omega
    cases hheader : codec.header? family with
    | none =>
      simp [writeFrame, Frame.buffer, hroom, Action.attempt, run_writeHeader, hheader]
    | some header =>
      have hlength := length_header hheader
      have htotal : (header ++ packet).length = Frame.headerLength + packet.length := by
        rw [List.length_append, hlength]
      -- the header is in its place, and what the packet does not cover is as it was
      have hfront : (header ++ buffer.drop Frame.headerLength).take Frame.headerLength = header :=
        List.take_left' hlength
      have hback : (header ++ buffer.drop Frame.headerLength).drop
          (Frame.headerLength + packet.length) =
          buffer.drop (Frame.headerLength + packet.length) := by
        rw [← List.drop_drop, List.drop_left' hlength, List.drop_drop]
      simp only [writeFrame, Frame.buffer, Frame.overwrite, Action.attempt, Action.run_bind,
        Action.run_state, hroom, if_false, run_writeHeader, hheader, hhead, Action.run_pure, hfront,
        hback, List.take_left' htotal, List.append_nil]

theorem length_wrap {codec : FrameCodec} {family : AddressFamily} {packet buffer : Bytes}
    {w : Wrapped} (h : codec.wrap family packet buffer = .ok w) :
    w.buffer.length = buffer.length := by
  simp only [wrap, run_writeFrame] at h
  split at h
  · cases h
  · next hroom =>
    split at h
    · cases h
    · next header hheader =>
      cases h
      rw [List.length_append, List.length_append, length_header hheader, List.length_drop]
      omega

end FrameCodec

end Tunnel
