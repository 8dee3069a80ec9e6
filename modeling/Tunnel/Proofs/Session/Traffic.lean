import Tunnel.Proofs.Frame.Wrapping
import Tunnel.Scripted.Host
import Tunnel.Session

/-!
# Traffic through a session

A session is open, and frames pass through the device of its interface: packets are sent, frames
are written and read, and at the other end frames are put in and taken out. Whatever is done, in
whatever order, frames cross whole or not at all, each once and in order. A packet that cannot be
framed leaves no trace, and a read that has less room than the frame has octets cuts the frame, and
nothing else.

What is expected of the device is a function of the history: a frame waits to be read if it was put
in, unless there were as many reads since the beginning as it takes to have taken it.

## Main definitions

* `Traffic.Use`, `Traffic.Reply`, `Traffic.follow` — uses of a device, and what comes of them
* `Session.traffic` — the same by way of a session
* `Traffic.waiting` — the frames that wait to be read, by the history
* `Traffic.Carries` — what a history has to be like

## Main results

* `Traffic.Reached.perform` — one use of the device
* `Traffic.reached_follow` — a sequence of uses
* `Traffic.echoes_wrapped` — what is read of a frame in which a packet was sent
* `Session.carries_traffic` — a session carries frames, whatever is done
-/

namespace Tunnel

namespace Traffic

/-! ### Uses of a device -/

/-- What is done with a device, at either end. -/
inductive Use
  /-- A packet is framed in a buffer of `room` octets, and the frame is written. -/
  | send (family : AddressFamily) (packet : Bytes) (room : Nat)
  /-- A frame is written as it is. -/
  | write (frame : Bytes)
  /-- The other end puts a frame in. -/
  | inject (frame : Bytes)
  /-- A frame is read into a buffer of `room` octets. -/
  | read (room : Nat) (pos : 0 < room)
  /-- The other end takes out what has arrived. -/
  | collect

/-- What comes of it. -/
inductive Reply
  | sent (result : Except Error (Except Errno Nat))
  | written (result : Except Errno Nat)
  | injected
  | received (result : Except Errno Received)
  | collected (frames : List Bytes)

/-- A use with its reply. -/
abbrev Event := Use × Reply

/-- Does one thing with a device. -/
def Use.perform (codec : FrameCodec) : Use → Action Device Reply
  | send family packet room => Reply.sent <$> Action.state (Device.send codec family packet room)
  | write frame => Reply.written <$> Action.state (Device.write frame)
  | inject frame => Action.state fun device => (.injected, device.inject frame)
  | read room _ => Reply.received <$> Device.receive codec room
  | collect => Reply.collected <$> Action.state Device.collect

/-- Does one thing after another, and answers with the history. -/
def follow (codec : FrameCodec) : List Use → Action Device (List Event)
  | [] => return []
  | use :: later => do
    let reply ← use.perform codec
    let history ← follow codec later
    return (use, reply) :: history

end Traffic

open Traffic (Use Reply Event)

/-- Does one thing after another with the interface of a session, if the session has one. -/
def Session.traffic (session : Session) (codec : FrameCodec) (uses : List Use) :
    Action Scripted.Host (Except Error (List Event)) :=
  match session.interface with
  | .error e => return .error e
  | .ok interface =>
    Except.ok <$> Scripted.Host.onDevice interface.descriptor (Traffic.follow codec uses)

namespace Traffic

variable {codec : FrameCodec} {history : List Event}

/-! ### Histories -/

/-- The frame that the other end has put in. -/
def injected? : Event → Option Bytes
  | (.inject frame, _) => some frame
  | _ => none

/-- The frame that was handed over to the other end: one that was written, or one in which a packet
was sent. -/
def handed? (codec : FrameCodec) : Event → Option Bytes
  | (.send family packet room, .sent (.ok (.ok _))) =>
    (codec.wrap family packet (Bytes.zeros room)).toOption.map FrameCodec.Wrapped.frame
  | (.write frame, .written (.ok _)) => some frame
  | _ => none

/-- The frames that the other end has taken out. -/
def out : Event → List Bytes
  | (_, .collected frames) => frames
  | _ => []

/-- Whether a frame was read. -/
def isTaken : Event → Bool
  | (_, .received (.ok _)) => true
  | _ => false

/-- The frames that were put in, in order. -/
def injected (history : List Event) : List Bytes := history.filterMap injected?

/-- The frames that were handed over, in order. -/
def handed (codec : FrameCodec) (history : List Event) : List Bytes :=
  history.filterMap (handed? codec)

/-- The frames that were taken out, in order. -/
def collected (history : List Event) : List Bytes := history.flatMap out

/-- The number of frames that were read. -/
def taken (history : List Event) : Nat := history.countP isTaken

/-- The frames that wait to be read: those that were put in, but for as many as were read. -/
def waiting (history : List Event) : List Bytes := (injected history).drop (taken history)

/-- A frame taken apart. -/
def apart (codec : FrameCodec) (frame : Bytes) : Received :=
  ⟨frame, codec.decodeFamily frame, Frame.payload? frame⟩

/-- The answer to a packet that is sent. -/
def sendAnswer (family : AddressFamily) (packet : Bytes) (room : Nat) :
    Except Error (Except Errno Nat) :=
  if room < Frame.headerLength + packet.length then
    .error (.bufferTooSmall (Frame.headerLength + packet.length) room)
  else if family = .unrecognized then .error (.unsupportedFamily family)
  else .ok (.ok (Frame.headerLength + packet.length))

/-- The answer to a read, if these frames wait. -/
def readAnswer (codec : FrameCodec) (room : Nat) : List Bytes → Except Errno Received
  | [] => .error Errno.wouldBlock
  | frame :: _ => .ok (apart codec (frame.take room))

/-- What is read of the frame in which a packet was sent. With less room than a header it is no
family and no packet; with less than the frame, the packet is cut short; else it is whole. -/
structure Echoes (family : AddressFamily) (packet frame : Bytes) (room : Nat)
    (received : Received) : Prop where
  short : room < Frame.headerLength → received = ⟨frame.take room, .unrecognized, none⟩
  cut : Frame.headerLength ≤ room →
    received = ⟨frame.take room, family, some (packet.take (room - Frame.headerLength))⟩
  whole : Frame.headerLength + packet.length ≤ room → received = ⟨frame, family, some packet⟩

/-- What a history has to be like, when the other end has yet to take these frames out. -/
structure Carries (codec : FrameCodec) (history : List Event) (outgoing : List Bytes) : Prop where
  /-- The other end gets the frames that were handed over, each once, whole and in order. -/
  whole : collected history ++ outgoing = handed codec history
  /-- A packet is sent if there is room for the frame and the family has a header. -/
  sent : ∀ family packet room reply, (.send family packet room, reply) ∈ history →
    reply = .sent (sendAnswer family packet room)
  /-- A frame that is written is taken. -/
  written : ∀ frame reply, (.write frame, reply) ∈ history → reply = .written (.ok frame.length)
  /-- A read takes the first frame that waits, cut to the room; without one it would block. -/
  read : ∀ before room pos reply after, history = before ++ (.read room pos, reply) :: after →
    reply = .received (readAnswer codec room (waiting before))
  /-- A frame in which a packet was sent, put in again, gives the packet back. -/
  echoed : ∀ before room pos reply after family packet space wrapped,
    history = before ++ (.read room pos, reply) :: after →
    codec.wrap family packet (Bytes.zeros space) = .ok wrapped →
    (waiting before).head? = some wrapped.frame →
    ∃ received, reply = .received (.ok received) ∧ Echoes family packet wrapped.frame room received

/-! ### A packet that is sent and read again -/

variable {family : AddressFamily} {packet : Bytes} {room : Nat}

/-- A packet is refused, and so is the sending of it, or its frame has its header and itself. -/
theorem wrap_cases (codec : FrameCodec) (family : AddressFamily) (packet : Bytes) (room : Nat) :
    (∃ e, codec.wrap family packet (Bytes.zeros room) = .error e ∧
        sendAnswer family packet room = .error e) ∨
      ∃ header wrapped, codec.header? family = some header ∧
        codec.wrap family packet (Bytes.zeros room) = .ok wrapped ∧
        wrapped.frame = header ++ packet ∧
        sendAnswer family packet room = .ok (.ok wrapped.frame.length) := by
  have hcases := FrameCodec.writeFrame_cases codec family packet (Bytes.zeros room)
  rw [Bytes.length_zeros] at hcases
  rw [FrameCodec.wrap, sendAnswer]
  rcases hcases with
    ⟨hroom, hrun⟩ | ⟨hroom, hfamily, hrun⟩ | ⟨hroom, hfamily, header, hheader, hrun⟩
  · rw [hrun, if_pos hroom]
    exact .inl ⟨_, rfl, rfl⟩
  · rw [hrun, if_neg (Nat.not_lt.2 hroom), if_pos hfamily]
    exact .inl ⟨_, rfl, rfl⟩
  · rw [hrun, if_neg (Nat.not_lt.2 hroom), if_neg hfamily, ← FrameCodec.length_header hheader,
      ← List.length_append]
    exact .inr ⟨header, ⟨header ++ packet, _⟩, hheader, rfl, rfl, rfl⟩

/-- What is shorter than a header is no family and no packet. -/
theorem apart_short (codec : FrameCodec) {frame : Bytes} (h : frame.length < Frame.headerLength) :
    apart codec frame = ⟨frame, .unrecognized, none⟩ := by
  have hfamily : codec.decodeFamily frame = .unrecognized := by
    match frame, h with
    | [], _ => rfl
    | [_], _ => rfl
    | [_, _], _ => rfl
    | [_, _, _], _ => rfl
  rw [apart, hfamily, Frame.payload?, if_pos h]

theorem apart_frame (hseparate : codec.Separates) {header : Bytes}
    (hheader : codec.header? family = some header) (packet : Bytes) :
    apart codec (header ++ packet) = ⟨header ++ packet, family, some packet⟩ := by
  rw [apart, FrameCodec.decodeFamily_header hheader, if_pos hseparate,
    FrameCodec.payload?_frame hheader]

/-- **A packet that was sent is read again**, as far as there is room for it. -/
theorem echoes_wrapped (hseparate : codec.Separates) {space : Nat} {wrapped : FrameCodec.Wrapped}
    (hwrap : codec.wrap family packet (Bytes.zeros space) = .ok wrapped) (room : Nat) :
    Echoes family packet wrapped.frame room (apart codec (wrapped.frame.take room)) := by
  obtain ⟨header, hheader, hframe⟩ : ∃ header, codec.header? family = some header ∧
      wrapped.frame = header ++ packet := by
    rcases wrap_cases codec family packet space with
      ⟨e, h, -⟩ | ⟨header, other, hheader, h, hframe, -⟩
    · rw [hwrap] at h
      cases h
    · obtain rfl := Except.ok.inj (hwrap.symm.trans h)
      exact ⟨header, hheader, hframe⟩
  have hlength := FrameCodec.length_header hheader
  rw [hframe]
  have hcut : Frame.headerLength ≤ room → (header ++ packet).take room =
      header ++ packet.take (room - Frame.headerLength) := by
    intro hroom
    rw [List.take_append, hlength, List.take_of_length_le (hlength ▸ hroom)]
  constructor
  · intro hroom
    refine apart_short codec ?_
    rw [List.length_take]
    exact Nat.lt_of_le_of_lt (Nat.min_le_left _ _) hroom
  · intro hroom
    rw [hcut hroom, apart_frame hseparate hheader]
  · intro hroom
    have hall : (header ++ packet).take room = header ++ packet := by
      refine List.take_of_length_le ?_
      rw [List.length_append, hlength]
      exact hroom
    rw [hall, apart_frame hseparate hheader]

/-! ### Single uses -/

/-- With this history, these frames wait to be read, and these to be taken out. -/
structure Reached (codec : FrameCodec) (history : List Event) (incoming outgoing : List Bytes) :
    Prop where
  incoming_eq : ∃ gone, injected history = gone ++ incoming ∧ gone.length = taken history
  outgoing_eq : handed codec history = collected history ++ outgoing

/-- The reply that is expected of a use, behind a history. -/
def Expected (codec : FrameCodec) (history : List Event) : Use → Reply → Prop
  | .send family packet room, reply => reply = .sent (sendAnswer family packet room)
  | .write frame, reply => reply = .written (.ok frame.length)
  | .inject _, reply => reply = .injected
  | .read room _, reply => reply = .received (readAnswer codec room (waiting history))
  | .collect, reply => ∃ frames, reply = .collected frames

variable {incoming outgoing : List Bytes}

theorem Reached.waiting_eq (h : Reached codec history incoming outgoing) :
    waiting history = incoming := by
  obtain ⟨gone, hinjected, hlength⟩ := h.incoming_eq
  rw [waiting, hinjected, List.drop_left' hlength]

theorem reached_start (codec : FrameCodec) : Reached codec [] [] [] := ⟨⟨[], rfl, rfl⟩, rfl⟩

theorem run_receive (codec : FrameCodec) (room : Nat) (device : Device) :
    ((Device.receive codec room).run device).answer = (device.read room).1.map (apart codec) ∧
      ((Device.receive codec room).run device).world = (device.read room).2 := by
  simp only [Device.receive, Action.run_bind, Action.run_state]
  cases (device.read room).1 with
  | error code => exact ⟨rfl, rfl⟩
  | ok frame =>
    simp only [FrameCodec.receive]
    cases codec.warning? frame <;> exact ⟨rfl, rfl⟩

/-- One event more: what it put in waits behind the rest, what it took stood at the front, and so at
the other end. -/
theorem Reached.concat (h : Reached codec history incoming outgoing) {event : Event}
    {incoming' outgoing' : List Bytes}
    (hin : ∃ gone, incoming ++ (injected? event).toList = gone ++ incoming' ∧
      gone.length = if isTaken event then 1 else 0)
    (hout : outgoing ++ (handed? codec event).toList = out event ++ outgoing') :
    Reached codec (history ++ [event]) incoming' outgoing' := by
  obtain ⟨before, hbefore, hcount⟩ := h.incoming_eq
  obtain ⟨gone, hgone, hlength⟩ := hin
  constructor
  · refine ⟨before ++ gone, ?_, ?_⟩
    · have hinjected : injected (history ++ [event]) =
          injected history ++ (injected? event).toList := by
        rw [injected, injected, List.filterMap_append]
        cases hevent : injected? event <;> simp [hevent]
      rw [hinjected, hbefore, List.append_assoc, hgone, List.append_assoc]
    · have htaken : taken (history ++ [event]) =
          taken history + if isTaken event then 1 else 0 := by
        rw [taken, taken, List.countP_append, List.countP_singleton]
      rw [List.length_append, hcount, hlength, htaken]
  · have hhanded : handed codec (history ++ [event]) =
        handed codec history ++ (handed? codec event).toList := by
      rw [handed, handed, List.filterMap_append]
      cases hevent : handed? codec event <;> simp [hevent]
    have hcollected : collected (history ++ [event]) = collected history ++ out event := by
      rw [collected, collected, List.flatMap_append, List.flatMap_singleton]
    rw [hhanded, hcollected, h.outgoing_eq, List.append_assoc, hout, List.append_assoc]

/-- **Sending** hands the frame over, or nothing. -/
theorem Reached.perform_send (h : Reached codec history incoming outgoing)
    (family : AddressFamily) (packet : Bytes) (room : Nat) :
    ∃ outgoing', ((Use.send family packet room).perform codec).run
        (.datagrams incoming outgoing) =
          ⟨.sent (sendAnswer family packet room), [], .datagrams incoming outgoing'⟩ ∧
      Reached codec (history ++ [(.send family packet room, .sent (sendAnswer family packet room))])
        incoming outgoing' := by
  rcases wrap_cases codec family packet room with
    ⟨e, hwrap, hanswer⟩ | ⟨header, wrapped, -, hwrap, -, hanswer⟩
  · rw [hanswer]
    refine ⟨outgoing, ?_, h.concat ⟨[], List.append_nil _, rfl⟩ (List.append_nil _)⟩
    simp [Use.perform, Device.send, hwrap]
  · rw [hanswer]
    refine ⟨outgoing ++ [wrapped.frame], ?_, h.concat ⟨[], List.append_nil _, rfl⟩ ?_⟩
    · simp [Use.perform, Device.send, hwrap, Device.write]
    · simp [handed?, hwrap, Except.toOption, out]

/-- **Reading** takes the first frame that waits, if there is one. -/
theorem Reached.perform_read (h : Reached codec history incoming outgoing) (room : Nat)
    (pos : 0 < room) :
    (((Use.read room pos).perform codec).run (.datagrams incoming outgoing)).answer =
        .received (readAnswer codec room incoming) ∧
      (((Use.read room pos).perform codec).run (.datagrams incoming outgoing)).world =
        .datagrams incoming.tail outgoing ∧
      Reached codec (history ++ [(.read room pos, .received (readAnswer codec room incoming))])
        incoming.tail outgoing := by
  obtain ⟨hanswer, hworld⟩ := run_receive codec room (.datagrams incoming outgoing)
  have hroom : room ≠ 0 := Nat.ne_of_gt pos
  simp only [Use.perform, Action.run_map, hanswer, hworld]
  cases incoming with
  | nil =>
    simp only [Device.read, if_neg hroom]
    exact ⟨rfl, rfl, h.concat ⟨[], rfl, rfl⟩ (List.append_nil _)⟩
  | cons frame later =>
    simp only [Device.read, if_neg hroom]
    exact ⟨rfl, rfl, h.concat ⟨[frame], List.append_nil _, rfl⟩ (List.append_nil _)⟩

/-- **One use of the device** gets the reply that is expected, and leaves the device as it should
be. -/
theorem Reached.perform (h : Reached codec history incoming outgoing) (use : Use) :
    ∃ reply incoming' outgoing',
      ((use.perform codec).run (.datagrams incoming outgoing)).answer = reply ∧
      ((use.perform codec).run (.datagrams incoming outgoing)).world =
        .datagrams incoming' outgoing' ∧
      Expected codec history use reply ∧
      Reached codec (history ++ [(use, reply)]) incoming' outgoing' := by
  cases use with
  | send family packet room =>
    obtain ⟨outgoing', hrun, hreached⟩ := h.perform_send family packet room
    rw [hrun]
    exact ⟨_, incoming, outgoing', rfl, rfl, rfl, hreached⟩
  | write frame =>
    refine ⟨_, incoming, outgoing ++ [frame], rfl, rfl, rfl, h.concat ?_ rfl⟩
    exact ⟨[], List.append_nil _, rfl⟩
  | inject frame =>
    refine ⟨_, incoming ++ [frame], outgoing, rfl, rfl, rfl, h.concat ?_ ?_⟩
    · exact ⟨[], rfl, rfl⟩
    · exact List.append_nil _
  | read room pos =>
    obtain ⟨hanswer, hworld, hreached⟩ := h.perform_read room pos
    refine ⟨_, _, _, hanswer, hworld, ?_, hreached⟩
    rw [Expected, h.waiting_eq]
  | collect =>
    refine ⟨_, incoming, [], rfl, rfl, ⟨outgoing, rfl⟩, h.concat ?_ ?_⟩
    · exact ⟨[], List.append_nil _, rfl⟩
    · rfl

/-! ### Sequences of uses -/

/-- **A sequence of uses** gets the replies that are expected, each behind all that went before. -/
theorem reached_follow (uses : List Use) {history : List Event} {incoming outgoing : List Bytes}
    (h : Reached codec history incoming outgoing) :
    ∃ later incoming' outgoing',
      ((follow codec uses).run (.datagrams incoming outgoing)).answer = later ∧
      ((follow codec uses).run (.datagrams incoming outgoing)).world =
        .datagrams incoming' outgoing' ∧
      later.map Prod.fst = uses ∧
      (∀ front use reply rest, later = front ++ (use, reply) :: rest →
        Expected codec (history ++ front) use reply) ∧
      Reached codec (history ++ later) incoming' outgoing' := by
  induction uses generalizing history incoming outgoing with
  | nil =>
    refine ⟨[], incoming, outgoing, rfl, rfl, rfl, by simp, ?_⟩
    rw [List.append_nil]
    exact h
  | cons use uses ih =>
    obtain ⟨reply, middle, sent, hanswer, hworld, hexpected, hreached⟩ := h.perform use
    obtain ⟨later, incoming', outgoing', hlater, hlast, hmap, hall, hend⟩ := ih hreached
    simp only [follow, Action.run_bind, hanswer, hworld, hlater, hlast, Action.run_pure]
    refine ⟨_, incoming', outgoing', rfl, rfl, congrArg (use :: ·) hmap, ?_, ?_⟩
    · intro front other answer rest hsplit
      cases front with
      | nil =>
        obtain ⟨hevent, -⟩ := List.cons.inj hsplit
        obtain ⟨rfl, rfl⟩ := Prod.mk.inj hevent
        rw [List.append_nil]
        exact hexpected
      | cons event front =>
        obtain ⟨rfl, hrest⟩ := List.cons.inj hsplit
        have hbehind := hall front other answer rest hrest
        rwa [List.append_assoc] at hbehind
    · rw [List.append_assoc] at hend
      exact hend

/-- A history with the replies that are expected is as it has to be. -/
theorem carries_of_expected (hseparate : codec.Separates)
    (hexpected : ∀ front use reply rest, history = front ++ (use, reply) :: rest →
      Expected codec front use reply)
    (hreached : Reached codec history incoming outgoing) : Carries codec history outgoing := by
  have hread : ∀ before room pos reply after,
      history = before ++ (.read room pos, reply) :: after →
      reply = .received (readAnswer codec room (waiting before)) :=
    fun before room pos reply after hsplit => hexpected before _ reply after hsplit
  constructor
  · exact hreached.outgoing_eq.symm
  · intro family packet room reply hmem
    obtain ⟨front, rest, hsplit⟩ := List.append_of_mem hmem
    exact hexpected front _ reply rest hsplit
  · intro frame reply hmem
    obtain ⟨front, rest, hsplit⟩ := List.append_of_mem hmem
    exact hexpected front _ reply rest hsplit
  · exact hread
  · intro before room pos reply after family packet space wrapped hsplit hwrap hhead
    refine ⟨apart codec (wrapped.frame.take room), ?_, echoes_wrapped hseparate hwrap room⟩
    obtain ⟨later, hwaiting⟩ := List.head?_eq_some_iff.1 hhead
    rw [hread before room pos reply after hsplit, hwaiting]
    rfl

end Traffic

/-! ### Sessions -/

open Traffic (Carries)

namespace Session

theorem separates_of_mem {codec : FrameCodec}
    (h : codec ∈ [Session.codec, FrameCodec.hostFamilyHeader]) : codec.Separates := by
  rcases List.mem_cons.1 h with rfl | hhost
  · trivial
  · obtain rfl := List.mem_singleton.1 hhost
    decide

/-- **A session carries frames**, whatever is done with it at either end and in whatever order, on a
host with either layout. What is done gets the replies that it should, and what the other end has
taken out, together with what it can still take out at the end, are the frames that were handed
over. -/
theorem carries_traffic {session : Session} {interface : Interface} {host : Scripted.Host}
    (hheld : session.interface = .ok interface)
    (hquiet : host.devices[interface.descriptor]? = some .quiet) {codec : FrameCodec}
    (hcodec : codec ∈ [Session.codec, FrameCodec.hostFamilyHeader]) (uses : List Use) :
    ∃ history, ((session.traffic codec uses).run host).answer = .ok history ∧
      history.map Prod.fst = uses ∧
      Carries codec history
        (((session.traffic codec uses).run host).world.device interface.descriptor).collect.1 := by
  obtain ⟨history, incoming, outgoing, hanswer, hworld, hmap, hexpected, hreached⟩ :=
    Traffic.reached_follow uses (Traffic.reached_start codec)
  have hdevice : host.device interface.descriptor = .datagrams [] [] := by
    rw [Scripted.Host.device, hquiet]
    rfl
  have hplace : interface.descriptor < host.devices.length :=
    (List.getElem?_eq_some_iff.1 hquiet).1
  have hrun : (session.traffic codec uses).run host =
      ⟨.ok history, ((Traffic.follow codec uses).run (.datagrams [] [])).notices,
        { host with devices :=
          host.devices.set interface.descriptor (.datagrams incoming outgoing) }⟩ := by
    rw [traffic, hheld, Action.run_map, ← hanswer, ← hworld, ← hdevice]
    rfl
  have hleft : ((session.traffic codec uses).run host).world.device interface.descriptor =
      .datagrams incoming outgoing := by
    rw [hrun, Scripted.Host.device, List.getElem?_set_self hplace]
    rfl
  refine ⟨history, by rw [hrun], hmap, ?_⟩
  rw [hleft]
  exact Traffic.carries_of_expected (separates_of_mem hcodec) hexpected hreached

/-- A session that was opened under the name `tun7`, with a host that is willing. -/
theorem carries_traffic_opened :
    let host : Scripted.Host := ⟨.willing, ⟨[], true, false, []⟩, []⟩
    let opened := (Session.openWith Scripted.Host.allocator Scripted.Host.backend .fresh
      ⟨some "tun7", [.ipv4], []⟩).run host
    let interface : Interface := ⟨"tun7", 0, .pointToPoint, true⟩
    let session : Session := ⟨"tun7", some interface, .fresh⟩
    let uses : List Use := [.send .ipv4 [0x45] 4, .send .ipv4 [0x45] 5, .collect,
      .inject [0, 0, 8, 0, 0x45], .read 5 (by decide), .read 5 (by decide)]
    opened.answer = .ok session ∧ session.interface = .ok interface ∧
      opened.world.devices[interface.descriptor]? = some .quiet ∧
      Session.codec ∈ [Session.codec, FrameCodec.hostFamilyHeader] ∧
      ∃ history, ((session.traffic Session.codec uses).run opened.world).answer = .ok history ∧
        history.map Prod.fst = uses ∧
        Carries Session.codec history
          (((session.traffic Session.codec uses).run opened.world).world.device
            interface.descriptor).collect.1 :=
  ⟨rfl, rfl, rfl, List.mem_cons_self, carries_traffic rfl rfl List.mem_cons_self _⟩

end Session

end Tunnel
