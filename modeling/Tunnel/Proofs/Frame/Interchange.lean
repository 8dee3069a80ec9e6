import Tunnel.Proofs.Frame.Wrapping

/-!
# Layouts in place of each other

Whoever writes headers and frames need not know under which layout. A call is refused for reasons in
which the layout has no part: the room that there is, the family, and the length of the buffer, in
this order. Where nothing is refused, the buffers that two layouts leave behind differ in the header
only, and each layout reads its own header as the family that was written, if it tells the families
apart. Nor does the layout matter where a header is cut short: there is no family and no payload,
and nothing is said of it.

## Main definitions

* `FrameCodec.headerRefusal?`, `FrameCodec.frameRefusal?` — why a call is refused, under any layout
* `FrameCodec.Alike` — what two calls leave behind differs in the header only
* `FrameCodec.Interchangeable` — one layout can take the place of another

## Main results

* `FrameCodec.run_writeHeader_refused`, `FrameCodec.run_writeHeader_written` — the two courses of
  writing a header
* `FrameCodec.run_writeFrame_refused`, `FrameCodec.run_writeFrame_written` — and of writing a frame
* `FrameCodec.receive_short` — a header that is cut short
* `FrameCodec.interchangeable` — any layout can take the place of any other
-/

namespace Tunnel.FrameCodec

/-! ### Refusals -/

/-- Why the header of a family is not written over a buffer. The family is looked at first. -/
def headerRefusal? (family : AddressFamily) (buffer : Bytes) : Option Error :=
  if family = .unrecognized then some (.unsupportedFamily family)
  else if buffer.length < Frame.headerLength then some (.frameTooShort buffer.length)
  else none

/-- Why a packet is not put into a buffer behind its header. The room is looked at first. -/
def frameRefusal? (family : AddressFamily) (packet buffer : Bytes) : Option Error :=
  if buffer.length < Frame.headerLength + packet.length then
    some (.bufferTooSmall (Frame.headerLength + packet.length) buffer.length)
  else headerRefusal? family buffer

variable {codec one other : FrameCodec} {family : AddressFamily} {packet buffer : Bytes} {e : Error}

theorem exists_header (codec : FrameCodec) (h : family ≠ .unrecognized) :
    ∃ header, codec.header? family = some header :=
  Option.ne_none_iff_exists'.1 (mt header?_eq_none_iff.1 h)

theorem headerRefusal?_eq_none_iff :
    headerRefusal? family buffer = none ↔
      family ≠ .unrecognized ∧ Frame.headerLength ≤ buffer.length := by
  rw [headerRefusal?]
  by_cases hfamily : family = .unrecognized
  · simp [hfamily]
  · by_cases hshort : buffer.length < Frame.headerLength
    · simp [hfamily, hshort]
    · simp [hfamily, hshort, Nat.le_of_not_lt hshort]

theorem frameRefusal?_eq_none_iff :
    frameRefusal? family packet buffer = none ↔
      family ≠ .unrecognized ∧ Frame.headerLength + packet.length ≤ buffer.length := by
  rw [frameRefusal?]
  by_cases hroom : buffer.length < Frame.headerLength + packet.length
  · simp [hroom]
  · rw [if_neg hroom, headerRefusal?_eq_none_iff]
    refine and_congr_right fun _ => ?_
    omega

/-! ### The two courses of a call -/

theorem run_writeHeader_refused (codec : FrameCodec) (h : headerRefusal? family buffer = some e) :
    (codec.writeHeader family).run buffer = ⟨.error e, [], buffer⟩ := by
  rw [headerRefusal?] at h
  rw [run_writeHeader]
  by_cases hfamily : family = .unrecognized
  · rw [if_pos hfamily, Option.some.injEq] at h
    rw [header?_eq_none_iff.2 hfamily, h]
  · rw [if_neg hfamily] at h
    obtain ⟨header, hheader⟩ := exists_header codec hfamily
    by_cases hshort : buffer.length < Frame.headerLength
    · rw [if_pos hshort, Option.some.injEq] at h
      simp only [hheader, if_pos hshort, h]
    · rw [if_neg hshort] at h
      cases h

theorem run_writeHeader_written (codec : FrameCodec) (h : headerRefusal? family buffer = none) :
    ∃ header, codec.header? family = some header ∧ (codec.writeHeader family).run buffer =
      ⟨.ok (), [], header ++ buffer.drop Frame.headerLength⟩ := by
  obtain ⟨hfamily, hlength⟩ := headerRefusal?_eq_none_iff.1 h
  obtain ⟨header, hheader⟩ := exists_header codec hfamily
  refine ⟨header, hheader, ?_⟩
  simp only [run_writeHeader, hheader, if_neg (Nat.not_lt.2 hlength)]

theorem run_writeFrame_refused (codec : FrameCodec)
    (h : frameRefusal? family packet buffer = some e) :
    (codec.writeFrame family packet).run buffer = ⟨.error e, [], buffer⟩ := by
  rw [frameRefusal?] at h
  rcases writeFrame_cases codec family packet buffer with
    ⟨hroom, hrun⟩ | ⟨hroom, hfamily, hrun⟩ | ⟨hroom, hfamily, -⟩
  · rw [if_pos hroom, Option.some.injEq] at h
    rw [hrun, h]
  · rw [if_neg (Nat.not_lt.2 hroom), headerRefusal?, if_pos hfamily, Option.some.injEq] at h
    rw [hrun, h]
  · -- with the room for a packet there is room for the header, and so there is no refusal
    have hnone : headerRefusal? family buffer = none :=
      headerRefusal?_eq_none_iff.2 ⟨hfamily, Nat.le_trans (Nat.le_add_right _ _) hroom⟩
    rw [if_neg (Nat.not_lt.2 hroom), hnone] at h
    cases h

theorem run_writeFrame_written (codec : FrameCodec)
    (h : frameRefusal? family packet buffer = none) :
    ∃ header, codec.header? family = some header ∧ (codec.writeFrame family packet).run buffer =
      ⟨.ok (header ++ packet), [],
        header ++ (packet ++ buffer.drop (Frame.headerLength + packet.length))⟩ := by
  obtain ⟨hfamily, hroom⟩ := frameRefusal?_eq_none_iff.1 h
  obtain ⟨header, hheader⟩ := exists_header codec hfamily
  refine ⟨header, hheader, ?_⟩
  simp only [run_writeFrame, if_neg (Nat.not_lt.2 hroom), hheader, List.append_assoc]

/-- A header that is cut short names no family, and nothing is said of it. -/
theorem receive_short {σ : Type} (codec : FrameCodec) {frame : Bytes}
    (h : frame.length < Frame.headerLength) (s : σ) :
    (codec.receive frame).run s = ⟨.unrecognized, [], s⟩ := by
  match frame, h with
  | [], _ => rfl
  | [_], _ => rfl
  | [_, _], _ => rfl
  | [_, _, _], _ => rfl

/-! ### Two layouts -/

/-- Two calls on one buffer are refused for the same reason, and then the buffer is as it was, or
neither is, and then the buffers that they leave behind are the same past the header. -/
structure Alike {α : Type} (refusal? : Option Error) (buffer : Bytes)
    (first second : Outcome Bytes (Except Error α)) : Prop where
  error_iff : ∀ e, (first.answer = .error e ↔ refusal? = some e) ∧
    (second.answer = .error e ↔ refusal? = some e)
  ok_iff : ((∃ a, first.answer = .ok a) ↔ refusal? = none) ∧
    ((∃ a, second.answer = .ok a) ↔ refusal? = none)
  unchanged : refusal? ≠ none → first.world = buffer ∧ second.world = buffer
  length_world : first.world.length = buffer.length ∧ second.world.length = buffer.length
  drop_world : first.world.drop Frame.headerLength = second.world.drop Frame.headerLength
  silent : first.notices = [] ∧ second.notices = []

namespace Alike

variable {α : Type} {header header' later : Bytes}

theorem refused (e : Error) (buffer : Bytes) :
    Alike (some e) buffer (⟨.error e, [], buffer⟩ : Outcome Bytes (Except Error α))
      ⟨.error e, [], buffer⟩ where
  error_iff := by simp
  ok_iff := by simp
  unchanged _ := ⟨rfl, rfl⟩
  length_world := ⟨rfl, rfl⟩
  drop_world := rfl
  silent := ⟨rfl, rfl⟩

theorem written (a b : α) (h : header.length = Frame.headerLength)
    (h' : header'.length = Frame.headerLength)
    (hlater : Frame.headerLength + later.length = buffer.length) :
    Alike none buffer (⟨.ok a, [], header ++ later⟩ : Outcome Bytes (Except Error α))
      ⟨.ok b, [], header' ++ later⟩ where
  error_iff := by simp
  ok_iff := by simp
  unchanged hne := absurd rfl hne
  length_world := by rw [List.length_append, List.length_append, h, h', hlater]; exact ⟨rfl, rfl⟩
  drop_world := by rw [List.drop_left' h, List.drop_left' h']
  silent := ⟨rfl, rfl⟩

end Alike

/-- A frame is read as a family and a payload. -/
structure ReadsAs (codec : FrameCodec) (octets : Bytes) (family : AddressFamily)
    (payload : Bytes) : Prop where
  family_eq : codec.decodeFamily octets = family
  payload_eq : Frame.payload? octets = some payload

/-- One layout can take the place of another. -/
structure Interchangeable (one other : FrameCodec) : Prop where
  /-- They write headers alike. -/
  header : ∀ family buffer, Alike (headerRefusal? family buffer) buffer
    ((one.writeHeader family).run buffer) ((other.writeHeader family).run buffer)
  /-- They put packets into buffers alike. -/
  frame : ∀ family packet buffer, Alike (frameRefusal? family packet buffer) buffer
    ((one.writeFrame family packet).run buffer) ((other.writeFrame family packet).run buffer)
  /-- Seen from outside, the same calls are refused, and for the same reasons. -/
  refused : ∀ family packet buffer e,
    (one.encodeFamily buffer family = .error e ↔ other.encodeFamily buffer family = .error e) ∧
      (one.wrap family packet buffer = .error e ↔ other.wrap family packet buffer = .error e)
  /-- Their frames are of one length. -/
  length_eq : ∀ family packet buffer octets octets',
    ((one.writeFrame family packet).run buffer).answer = .ok octets →
    ((other.writeFrame family packet).run buffer).answer = .ok octets' →
    octets.length = octets'.length
  /-- Each reads its own frame as the family and the packet that were written, if both tell the
  families apart. -/
  reads : one.Separates → other.Separates → ∀ family packet buffer octets octets',
    ((one.writeFrame family packet).run buffer).answer = .ok octets →
    ((other.writeFrame family packet).run buffer).answer = .ok octets' →
    one.ReadsAs octets family packet ∧ other.ReadsAs octets' family packet
  /-- And each reads the header that it wrote, with what stood behind it before. -/
  reads_header : one.Separates → other.Separates → ∀ family buffer,
    headerRefusal? family buffer = none →
    one.ReadsAs ((one.writeHeader family).run buffer).world family
        (buffer.drop Frame.headerLength) ∧
      other.ReadsAs ((other.writeHeader family).run buffer).world family
        (buffer.drop Frame.headerLength)
  /-- A header that is cut short is unrecognized under both, without a payload and without a
  notice. -/
  short : ∀ octets : Bytes, octets.length < Frame.headerLength → Frame.payload? octets = none ∧
    ∀ (σ : Type) (s : σ), (one.receive octets).run s = ⟨.unrecognized, [], s⟩ ∧
      (other.receive octets).run s = ⟨.unrecognized, [], s⟩

theorem alike_writeHeader (one other : FrameCodec) (family : AddressFamily) (buffer : Bytes) :
    Alike (headerRefusal? family buffer) buffer
      ((one.writeHeader family).run buffer) ((other.writeHeader family).run buffer) := by
  cases hrefusal : headerRefusal? family buffer with
  | some e =>
    rw [run_writeHeader_refused one hrefusal, run_writeHeader_refused other hrefusal]
    exact .refused e buffer
  | none =>
    obtain ⟨header, hheader, hrun⟩ := run_writeHeader_written one hrefusal
    obtain ⟨header', hheader', hrun'⟩ := run_writeHeader_written other hrefusal
    have hlength := (headerRefusal?_eq_none_iff.1 hrefusal).2
    rw [hrun, hrun']
    refine .written () () (length_header hheader) (length_header hheader') ?_
    rw [List.length_drop]
    omega

theorem alike_writeFrame (one other : FrameCodec) (family : AddressFamily)
    (packet buffer : Bytes) :
    Alike (frameRefusal? family packet buffer) buffer
      ((one.writeFrame family packet).run buffer)
      ((other.writeFrame family packet).run buffer) := by
  cases hrefusal : frameRefusal? family packet buffer with
  | some e =>
    rw [run_writeFrame_refused one hrefusal, run_writeFrame_refused other hrefusal]
    exact .refused e buffer
  | none =>
    obtain ⟨header, hheader, hrun⟩ := run_writeFrame_written one hrefusal
    obtain ⟨header', hheader', hrun'⟩ := run_writeFrame_written other hrefusal
    have hroom := (frameRefusal?_eq_none_iff.1 hrefusal).2
    rw [hrun, hrun']
    refine .written _ _ (length_header hheader) (length_header hheader') ?_
    rw [List.length_append, List.length_drop]
    omega

theorem encodeFamily_eq_error_iff :
    codec.encodeFamily buffer family = .error e ↔ headerRefusal? family buffer = some e := by
  rw [← ((alike_writeHeader codec codec family buffer).error_iff e).1, encodeFamily]
  cases ((codec.writeHeader family).run buffer).answer <;> simp [Except.map]

theorem wrap_eq_error_iff :
    codec.wrap family packet buffer = .error e ↔ frameRefusal? family packet buffer = some e := by
  rw [← ((alike_writeFrame codec codec family packet buffer).error_iff e).1, wrap]
  cases ((codec.writeFrame family packet).run buffer).answer <;> simp [Except.map]

/-- What a layout that tells the families apart reads behind a header of its own. -/
theorem readsAs_header {header : Bytes} (hseparate : codec.Separates)
    (h : codec.header? family = some header) (payload : Bytes) :
    codec.ReadsAs (header ++ payload) family payload where
  family_eq := by rw [decodeFamily_header h, if_pos hseparate]
  payload_eq := payload?_frame h

theorem readsAs_frame (hseparate : codec.Separates) {octets : Bytes}
    (h : ((codec.writeFrame family packet).run buffer).answer = .ok octets) :
    codec.ReadsAs octets family packet := by
  obtain ⟨-, header, hheader, rfl⟩ := answer_ok_iff.1 h
  exact readsAs_header hseparate hheader packet

theorem readsAs_writeHeader (hseparate : codec.Separates)
    (h : headerRefusal? family buffer = none) :
    codec.ReadsAs ((codec.writeHeader family).run buffer).world family
      (buffer.drop Frame.headerLength) := by
  obtain ⟨header, hheader, hrun⟩ := run_writeHeader_written codec h
  rw [hrun]
  exact readsAs_header hseparate hheader _

/-- **Any layout can take the place of any other**, whatever numbers it has for the families: the
same calls are refused for the same reasons, the buffers differ in the header only, and what was
written is read back under every layout that tells the families apart. -/
theorem interchangeable (one other : FrameCodec) : Interchangeable one other where
  header := alike_writeHeader one other
  frame := alike_writeFrame one other
  refused family packet buffer e :=
    ⟨encodeFamily_eq_error_iff.trans encodeFamily_eq_error_iff.symm,
      wrap_eq_error_iff.trans wrap_eq_error_iff.symm⟩
  length_eq family packet buffer octets octets' h h' := by
    obtain ⟨-, header, hheader, rfl⟩ := answer_ok_iff.1 h
    obtain ⟨-, header', hheader', rfl⟩ := answer_ok_iff.1 h'
    rw [List.length_append, List.length_append, length_header hheader, length_header hheader']
  reads hone hother family packet buffer octets octets' h h' :=
    ⟨readsAs_frame hone h, readsAs_frame hother h'⟩
  reads_header hone hother family buffer h :=
    ⟨readsAs_writeHeader hone h, readsAs_writeHeader hother h⟩
  short octets h := by
    refine ⟨if_pos h, fun σ s => ?_⟩
    exact ⟨receive_short one h s, receive_short other h s⟩

end Tunnel.FrameCodec
