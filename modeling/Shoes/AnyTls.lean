import Shoes.Wire
import Shoes.Lib.Framing

/-!
# AnyTLS streams over a session

An `AnyTlsStream` hands each buffer `poll_write` is given to its session as one item of a
channel, and `poll_shutdown` sends an empty item. The session's `process_outgoing` turns an
item into a PSH frame carrying it, or into a FIN frame when the item is empty, and writes
`Frame::encode_into`: the command, the stream id, the data's length as a `u16`, and the data.
The peer's `recv_loop` appends what it reads to a buffer and decodes frames from its front with
`FrameCodec::decode`, which waits while the buffer holds less than the frame its header
announces; a PSH frame's data goes to the stream's channel and a FIN frame ends the stream.

Frames whose data fits the length field decode as themselves from any split of the bytes
(`recvLoop_processOutgoing`). Two writes break this: an empty buffer is taken for the FIN
signal, so the stream is ended in the middle of its data, and the length of a buffer of 65536
bytes or more is cut to 16 bits, so the peer reads the rest of the data as frames of its own
(`empty_write_ends_stream`, `decode_dataFrame`).
-/

namespace Shoes.AnyTls

open Wire

/-- `FRAME_HEADER_SIZE`: command, stream id and data length. -/
def frameHeaderSize : Nat := 7

inductive Command
  | waste | syn | psh | fin | settings | alert | updatePaddingScheme | synAck | heartRequest
  | heartResponse | serverSettings
  deriving DecidableEq, Repr

def Command.toByte : Command → UInt8
  | .waste => 0
  | .syn => 1
  | .psh => 2
  | .fin => 3
  | .settings => 4
  | .alert => 5
  | .updatePaddingScheme => 6
  | .synAck => 7
  | .heartRequest => 8
  | .heartResponse => 9
  | .serverSettings => 10

def Command.tryFrom (value : UInt8) : Result Command :=
  match value with
  | 0 => .ok .waste
  | 1 => .ok .syn
  | 2 => .ok .psh
  | 3 => .ok .fin
  | 4 => .ok .settings
  | 5 => .ok .alert
  | 6 => .ok .updatePaddingScheme
  | 7 => .ok .synAck
  | 8 => .ok .heartRequest
  | 9 => .ok .heartResponse
  | 10 => .ok .serverSettings
  | _ => fail .invalidData s!"unknown command: {value}"

@[simp] theorem Command.tryFrom_toByte (cmd : Command) : Command.tryFrom cmd.toByte = .ok cmd := by
  cases cmd <;> rfl

structure Frame where
  cmd : Command
  streamId : UInt32
  data : List UInt8
  deriving DecidableEq, Repr

namespace Frame

/-- `Frame::control`: a frame without data. -/
def control (cmd : Command) (streamId : UInt32) : Frame :=
  ⟨cmd, streamId, []⟩

/-- `Frame::data` (a field has that name here): a PSH frame. -/
def dataFrame (streamId : UInt32) (data : List UInt8) : Frame :=
  ⟨.psh, streamId, data⟩

/-- `Frame::encode_into`: the length field is `self.data.len() as u16`. -/
def encodeInto (frame : Frame) : List UInt8 :=
  [frame.cmd.toByte] ++ u32ToBe frame.streamId ++ u16ToBe (UInt16.ofNat frame.data.length) ++
    frame.data

def decodeHeader (header : List UInt8) : Result (Command × UInt32 × UInt16) := do
  let cmd ← Command.tryFrom (← byteAt header 0)
  let streamId := u32FromBe [← byteAt header 1, ← byteAt header 2, ← byteAt header 3, ← byteAt header 4]
  let length := u16FromBe [← byteAt header 5, ← byteAt header 6]
  .ok (cmd, streamId, length)

end Frame

/-- `FrameCodec::decode` on a buffer: a frame and the buffer after it, or `none`, leaving the
buffer as it is, while the buffer holds less than the header or than the frame it announces. -/
def FrameCodec.decode (buf : List UInt8) : Result (Option (Frame × List UInt8)) :=
  if buf.length < frameHeaderSize then .ok none
  else do
    let header ← slice buf 0 frameHeaderSize
    let (cmd, streamId, dataLen) ← Frame.decodeHeader header
    let totalLen := frameHeaderSize + dataLen.toNat
    if buf.length < totalLen then .ok none
    else
      let buf := buf.drop frameHeaderSize
      .ok (some (⟨cmd, streamId, buf.take dataLen.toNat⟩, buf.drop dataLen.toNat))

/-- `AnyTlsStream`, as its writing half sees it: its flags, and the items it has sent on the
session's channel, in order. -/
structure AnyTlsStream where
  id : UInt32
  streamClosed : Bool
  shutdownInProgress : Bool
  sessionClosed : Bool
  outgoing : List (UInt32 × List UInt8)
  deriving DecidableEq

/-- `AnyTlsStream::new`: open, with nothing sent. -/
def AnyTlsStream.new (id : UInt32) : AnyTlsStream :=
  ⟨id, false, false, false, []⟩

/-- `poll_write` with room in the channel: the buffer goes to the session as one item, and all
of it is reported written. -/
def AnyTlsStream.pollWrite (stream : AnyTlsStream) (buf : List UInt8) :
    Result (Nat × AnyTlsStream) :=
  if stream.streamClosed then fail .brokenPipe "stream closed"
  else if stream.shutdownInProgress then fail .brokenPipe "stream is shutting down"
  else if stream.sessionClosed then fail .brokenPipe "session closed"
  else .ok (buf.length, { stream with outgoing := stream.outgoing ++ [(stream.id, buf)] })

/-- `poll_shutdown` with room in the channel: the FIN signal, an empty item. -/
def AnyTlsStream.pollShutdown (stream : AnyTlsStream) : AnyTlsStream :=
  if stream.streamClosed then stream
  else if stream.sessionClosed then { stream with streamClosed := true }
  else
    { stream with
      shutdownInProgress := true
      streamClosed := true
      outgoing := stream.outgoing ++ [(stream.id, [])] }

/-- Successive `poll_write` calls: the counts they report, until one fails. -/
def AnyTlsStream.writeAll (stream : AnyTlsStream) : List (List UInt8) → Result (List Nat × AnyTlsStream)
  | [] => .ok ([], stream)
  | buf :: bufs => do
    let (written, stream) ← stream.pollWrite buf
    let (counts, stream) ← stream.writeAll bufs
    .ok (written :: counts, stream)

/-- The frame `process_outgoing` makes of one item: empty data is the FIN signal. -/
def outgoingFrame (item : UInt32 × List UInt8) : Frame :=
  if item.2.isEmpty then Frame.control .fin item.1 else Frame.dataFrame item.1 item.2

/-- The bytes `process_outgoing` writes for the items, through `write_frame`. -/
def processOutgoing (items : List (UInt32 × List UInt8)) : List UInt8 :=
  items.flatMap fun item => (outgoingFrame item).encodeInto

/-- One stream as the peer's session sees it: whether its channel is in the session's table,
and what has been sent on that channel, an empty chunk being the end of the stream. -/
structure StreamEnd where
  registered : Bool
  received : List (List UInt8)
  deriving DecidableEq

/-- `handle_frame` for the stream `id`: a PSH frame with data goes to the stream's channel, a
FIN frame removes the stream and ends it. -/
def StreamEnd.handleFrame (id : UInt32) (stream : StreamEnd) (frame : Frame) : StreamEnd :=
  match frame.cmd with
  | .psh =>
    -- zero-length PSH frames are skipped, and data for a stream not in the table is dropped
    if frame.data.isEmpty then stream
    else if frame.streamId = id ∧ stream.registered then
      { stream with received := stream.received ++ [frame.data] }
    else stream
  | .fin =>
    if frame.streamId = id ∧ stream.registered then ⟨false, stream.received ++ [[]]⟩ else stream
  | _ => stream

/-- The state of `recv_loop`: its buffer and the stream. -/
structure Receiver where
  buffer : List UInt8
  stream : StreamEnd
  deriving DecidableEq

/-- One pass of the inner loop of `recv_loop`: decode a frame and handle it. -/
def Receiver.decodeStep (id : UInt32) (receiver : Receiver) : Result (Option Frame × Receiver) := do
  match ← FrameCodec.decode receiver.buffer with
  | none => .ok (none, receiver)
  | some (frame, rest) => .ok (some frame, ⟨rest, receiver.stream.handleFrame id frame⟩)

/-- The buffer of `recv_loop`. -/
def Receiver.lens : Framing.Lens Receiver UInt8 where
  buffer := Receiver.buffer
  withBuffer receiver bytes := { receiver with buffer := bytes }
  buffer_withBuffer _ _ := rfl
  withBuffer_withBuffer _ _ _ := rfl

/-- `recv_loop` over the chunks its reads return: each is appended to the buffer and frames are
decoded until the buffer holds no whole frame. -/
def recvLoop (id : UInt32) (chunks : List (List UInt8)) (receiver : Receiver) :
    List Frame × Except Fault Receiver :=
  Framing.feed Receiver.lens (Receiver.decodeStep id) chunks receiver

/-- The seven bytes `encode_into` writes before the data. -/
def Frame.header (frame : Frame) : List UInt8 :=
  [frame.cmd.toByte] ++ u32ToBe frame.streamId ++ u16ToBe (UInt16.ofNat frame.data.length)

theorem Frame.encodeInto_eq (frame : Frame) : frame.encodeInto = frame.header ++ frame.data :=
  rfl

@[simp] theorem Frame.header_length (frame : Frame) : frame.header.length = frameHeaderSize := by
  simp [Frame.header, frameHeaderSize]

theorem Frame.decodeHeader_header (frame : Frame) :
    Frame.decodeHeader frame.header = .ok (frame.cmd, frame.streamId, UInt16.ofNat frame.data.length) := by
  obtain ⟨b0, b1, b2, b3, idBytes, idRead⟩ := u32ToBe_quad frame.streamId
  obtain ⟨high, low, lengthBytes, lengthRead⟩ := u16ToBe_pair (UInt16.ofNat frame.data.length)
  simp only [Frame.header, idBytes, lengthBytes, List.cons_append, List.nil_append]
  simp [Frame.decodeHeader, byteAt, idRead, lengthRead]

/-- A frame whose data fits the length field: the frames `encode_into` writes as they are. -/
structure WireFrame where
  frame : Frame
  fits : frame.data.length < 65536

theorem decode_encodeInto (frame : Frame) (fits : frame.data.length < 65536) (rest : List UInt8) :
    FrameCodec.decode (frame.encodeInto ++ rest) = .ok (some (frame, rest)) := by
  have field : (UInt16.ofNat frame.data.length).toNat = frame.data.length :=
    UInt16.toNat_ofNat_of_lt' fits
  have headerSlice : slice (frame.encodeInto ++ rest) 0 frameHeaderSize = .ok frame.header := by
    rw [Frame.encodeInto_eq, List.append_assoc]
    exact slice_front _ frame.header_length
  have long : ¬(frame.encodeInto ++ rest).length < frameHeaderSize := by
    simp [Frame.encodeInto_eq]
  have whole : ¬(frame.encodeInto ++ rest).length < frameHeaderSize + frame.data.length := by
    simp [Frame.encodeInto_eq]
  unfold FrameCodec.decode
  rw [if_neg long, headerSlice, ok_bind, Frame.decodeHeader_header, ok_bind]
  simp only [field]
  rw [if_neg whole, Frame.encodeInto_eq, List.append_assoc, List.drop_left' frame.header_length]
  simp

theorem encodeInto_dataFrame (id : UInt32) (data : List UInt8) :
    (Frame.dataFrame id data).encodeInto =
      (Frame.dataFrame id (data.take (data.length % 65536))).encodeInto ++
        data.drop (data.length % 65536) := by
  have shortLength : (data.take (data.length % 65536)).length = data.length % 65536 := by
    rw [List.length_take]
    omega
  have sameField : UInt16.ofNat (data.take (data.length % 65536)).length = UInt16.ofNat data.length := by
    apply UInt16.toNat_inj.mp
    rw [shortLength, UInt16.toNat_ofNat', UInt16.toNat_ofNat', Nat.mod_mod]
  simp only [Frame.encodeInto, Frame.dataFrame, sameField, List.append_assoc, List.take_append_drop]

/-- So the peer decodes a PSH frame of the first `len % 65536` bytes, and reads what follows
them as the next frames. -/
theorem decode_dataFrame (id : UInt32) (data rest : List UInt8) :
    FrameCodec.decode ((Frame.dataFrame id data).encodeInto ++ rest) =
      .ok (some (Frame.dataFrame id (data.take (data.length % 65536)),
        data.drop (data.length % 65536) ++ rest)) := by
  have fits : (Frame.dataFrame id (data.take (data.length % 65536))).data.length < 65536 := by
    simp only [Frame.dataFrame, List.length_take]
    omega
  rw [encodeInto_dataFrame, List.append_assoc, decode_encodeInto _ fits]

theorem decode_unfinished (frame : Frame) (fits : frame.data.length < 65536) {front back : List UInt8}
    (spelled : front ++ back = frame.encodeInto) (unfinished : back ≠ []) :
    FrameCodec.decode front = .ok none := by
  unfold FrameCodec.decode
  by_cases short : front.length < frameHeaderSize
  · rw [if_pos short]
  · have lengths := congrArg List.length spelled
    have backLong : 0 < back.length := List.length_pos_iff.mpr unfinished
    simp only [List.length_append, Frame.encodeInto_eq, Frame.header_length] at lengths
    have headerFront : front.take frameHeaderSize = frame.header := by
      have taken := congrArg (List.take frameHeaderSize) spelled
      rw [List.take_append_of_le_length (by omega), Frame.encodeInto_eq,
        List.take_left' frame.header_length] at taken
      exact taken
    have headerSlice : slice front 0 frameHeaderSize = .ok frame.header := by
      rw [slice_of_le (Nat.zero_le _) (by omega), List.drop_zero, Nat.sub_zero, headerFront]
    have field : (UInt16.ofNat frame.data.length).toNat = frame.data.length :=
      UInt16.toNat_ofNat_of_lt' fits
    rw [if_neg short, headerSlice, ok_bind, Frame.decodeHeader_header, ok_bind]
    simp only [field]
    rw [if_pos (by omega)]

/-- The frames of a stream of wire frames, handled one after another. -/
def handleAll (id : UInt32) (frames : List WireFrame) (receiver : Receiver) :
    List Frame × Except Fault Receiver :=
  let handled := (frames.map WireFrame.frame).foldl (StreamEnd.handleFrame id) receiver.stream
  (frames.map WireFrame.frame, .ok { receiver with stream := handled })

theorem decodeStep_decodes (id : UInt32) :
    Framing.Decodes Receiver.lens (fun wire : WireFrame => wire.frame.encodeInto)
      (Receiver.decodeStep id)
      (fun wire receiver => .ok (some wire.frame,
        { receiver with stream := receiver.stream.handleFrame id wire.frame })) where
  encode_ne_nil wire := by simp [Frame.encodeInto]
  call_empty _ := rfl
  call_prefix wire front back receiver spelled unfinished := by
    simp only [Receiver.decodeStep, Receiver.lens, decode_unfinished wire.frame wire.fits spelled
      unfinished, ok_bind]
  call_frame wire receiver rest := by
    simp only [Receiver.decodeStep, Receiver.lens, decode_encodeInto wire.frame wire.fits, ok_bind]
  apply_withBuffer _ _ _ := rfl

theorem specRun_handle (id : UInt32) (frames : List WireFrame) (receiver : Receiver) :
    Framing.specRun (fun wire receiver => .ok (some wire.frame,
        { receiver with stream := receiver.stream.handleFrame id wire.frame })) frames receiver =
      handleAll id frames receiver := by
  induction frames generalizing receiver with
  | nil => rfl
  | cons wire frames induction =>
    simp only [Framing.specRun, Option.toList_some, Framing.andThen_ok, induction, handleAll,
      List.map_cons, List.foldl_cons, List.singleton_append]

theorem recvLoop_wireFrames (id : UInt32) (frames : List Frame)
    (fit : ∀ frame ∈ frames, frame.data.length < 65536) (chunks : List (List UInt8))
    (stream : chunks.flatten = frames.flatMap Frame.encodeInto) (receiver : Receiver) :
    (recvLoop id chunks { receiver with buffer := [] }).2 =
      .ok ⟨[], frames.foldl (StreamEnd.handleFrame id) receiver.stream⟩ := by
  let wires := frames.pmap WireFrame.mk fit
  have unwrapped : wires.map WireFrame.frame = frames := by
    simp [wires, List.map_pmap]
  have wireStream : chunks.flatten = wires.flatMap fun wire => wire.frame.encodeInto := by
    rw [stream, ← unwrapped, List.flatMap_map]
  have fed := Framing.feed_eq_specRun (decodeStep_decodes id) chunks wires wireStream receiver
  rw [specRun_handle] at fed
  show (Framing.feed Receiver.lens (Receiver.decodeStep id) chunks
    (Receiver.lens.withBuffer receiver [])).2 = _
  rw [fed]
  simp [handleAll, Receiver.lens, unwrapped]

theorem writeAll_open (stream : AnyTlsStream) (bufs : List (List UInt8))
    (notClosed : stream.streamClosed = false) (notShutting : stream.shutdownInProgress = false)
    (alive : stream.sessionClosed = false) :
    stream.writeAll bufs =
      .ok (bufs.map List.length, { stream with outgoing := stream.outgoing ++ bufs.map (stream.id, ·) }) := by
  induction bufs generalizing stream with
  | nil => simp [AnyTlsStream.writeAll]
  | cons buf bufs induction =>
    have written : stream.pollWrite buf =
        .ok (buf.length, { stream with outgoing := stream.outgoing ++ [(stream.id, buf)] }) := by
      simp [AnyTlsStream.pollWrite, notClosed, notShutting, alive]
    simp only [AnyTlsStream.writeAll, written, ok_bind]
    rw [induction { stream with outgoing := stream.outgoing ++ [(stream.id, buf)] } notClosed
      notShutting alive]
    simp

theorem pollShutdown_outgoing (stream : AnyTlsStream) (notClosed : stream.streamClosed = false)
    (alive : stream.sessionClosed = false) :
    stream.pollShutdown.outgoing = stream.outgoing ++ [(stream.id, [])] := by
  simp [AnyTlsStream.pollShutdown, notClosed, alive]

theorem foldl_handleFrame_writes (id : UInt32) (bufs : List (List UInt8))
    (nonempty : ∀ buf ∈ bufs, buf ≠ []) (received : List (List UInt8)) :
    ((bufs.map (Frame.dataFrame id)) ++ [Frame.control .fin id]).foldl (StreamEnd.handleFrame id)
      ⟨true, received⟩ = ⟨false, received ++ bufs ++ [[]]⟩ := by
  induction bufs generalizing received with
  | nil => simp [StreamEnd.handleFrame, Frame.control]
  | cons buf bufs induction =>
    have notEmpty : buf.isEmpty = false := by simpa using nonempty buf (by simp)
    simp only [List.map_cons, List.cons_append, List.foldl_cons]
    rw [show StreamEnd.handleFrame id ⟨true, received⟩ (Frame.dataFrame id buf) =
        ⟨true, received ++ [buf]⟩ by simp [StreamEnd.handleFrame, Frame.dataFrame, notEmpty],
      induction (fun other mem => nonempty other (by simp [mem]))]
    simp

theorem processOutgoing_writes (id : UInt32) (bufs : List (List UInt8))
    (nonempty : ∀ buf ∈ bufs, buf ≠ []) :
    processOutgoing (bufs.map (id, ·) ++ [(id, [])]) =
      ((bufs.map (Frame.dataFrame id)) ++ [Frame.control .fin id]).flatMap Frame.encodeInto := by
  have dataItems : ∀ buf ∈ bufs, outgoingFrame (id, buf) = Frame.dataFrame id buf := by
    intro buf mem
    have notEmpty : buf.isEmpty = false := by simpa using nonempty buf mem
    simp [outgoingFrame, notEmpty]
  simp only [processOutgoing, List.flatMap_append, List.flatMap_map]
  congr 1
  exact List.flatMap_congr fun buf mem => by rw [dataItems buf mem]

/-- Non-empty writes that fit the length field reach the peer's stream whole and in order,
followed by the end of the stream, however the bytes are split into reads. -/
theorem recvLoop_processOutgoing (id : UInt32) (bufs : List (List UInt8))
    (nonempty : ∀ buf ∈ bufs, buf ≠ []) (fits : ∀ buf ∈ bufs, buf.length < 65536) :
    ∃ stream, (AnyTlsStream.new id).writeAll bufs = .ok (bufs.map List.length, stream) ∧
      ∀ chunks : List (List UInt8), chunks.flatten = processOutgoing stream.pollShutdown.outgoing →
        (recvLoop id chunks ⟨[], ⟨true, []⟩⟩).2 = .ok ⟨[], ⟨false, bufs ++ [[]]⟩⟩ := by
  refine ⟨_, writeAll_open (AnyTlsStream.new id) bufs rfl rfl rfl, fun chunks stream => ?_⟩
  have fit : ∀ frame ∈ (bufs.map (Frame.dataFrame id)) ++ [Frame.control .fin id],
      frame.data.length < 65536 := by
    intro frame mem
    simp only [List.mem_append, List.mem_map, List.mem_singleton] at mem
    rcases mem with ⟨buf, mem, rfl⟩ | rfl
    · exact fits buf mem
    · simp [Frame.control]
  rw [pollShutdown_outgoing _ rfl rfl] at stream
  simp only [AnyTlsStream.new, List.nil_append] at stream
  rw [processOutgoing_writes id bufs nonempty] at stream
  have received := recvLoop_wireFrames id _ fit chunks stream ⟨[], ⟨true, []⟩⟩
  rw [foldl_handleFrame_writes id bufs nonempty []] at received
  simpa using received

theorem recvLoop_processOutgoing_sample :
    (∀ buf ∈ [[(0x61 : UInt8), 0x62], [0x63]], buf ≠ []) ∧ (∀ buf ∈ [[(0x61 : UInt8), 0x62], [0x63]], buf.length < 65536) ∧
      ∃ stream, (AnyTlsStream.new 7).writeAll [[0x61, 0x62], [0x63]] =
          .ok ([[(0x61 : UInt8), 0x62], [0x63]].map List.length, stream) ∧
        ∀ chunks : List (List UInt8), chunks.flatten = processOutgoing stream.pollShutdown.outgoing →
          (recvLoop 7 chunks ⟨[], ⟨true, []⟩⟩).2 = .ok ⟨[], ⟨false, [[0x61, 0x62], [0x63]] ++ [[]]⟩⟩ :=
  ⟨by decide, by decide, recvLoop_processOutgoing 7 [[0x61, 0x62], [0x63]] (by decide) (by decide)⟩

/-- A write of no bytes, between writes of "a" and "b", is sent as the FIN signal: the peer's
stream ends after "a", and "b" is dropped. -/
theorem empty_write_ends_stream :
    (AnyTlsStream.new 1).writeAll [[0x61], [], [0x62]] =
        .ok ([1, 0, 1], ⟨1, false, false, false, [(1, [0x61]), (1, []), (1, [0x62])]⟩) ∧
      (recvLoop 1 [processOutgoing
          (AnyTlsStream.pollShutdown ⟨1, false, false, false, [(1, [0x61]), (1, []), (1, [0x62])]⟩).outgoing]
        ⟨[], ⟨true, []⟩⟩).2 = .ok ⟨[], ⟨false, [[0x61], []]⟩⟩ := by
  constructor <;> decide

end Shoes.AnyTls
