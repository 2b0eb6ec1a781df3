import Shoes.Wire

/-!
# WebSocket streams

`WebsocketStream` turns a byte stream into a stream of WebSocket frames and back. The reader
is a state machine over a 16 KiB buffer of bytes received but not yet processed; each state's
step function takes what it needs from the front of the buffer and calls the next step
directly, until it needs more bytes than the buffer holds. Binary and continuation payloads
are unmasked into the caller's `ReadBuf`; ping payloads are kept to be echoed in a pong;
pongs must be empty and other opcodes are skipped.

The buffer is kept as the window `unprocessed_buf[start..end]` with the start offset, which is
all the code reads of it. The mutually recursive step functions become one step function over
the phase being called, run for a number of calls bounded by a fuel argument.
-/

namespace Shoes.Websocket

open Wire

inductive ReadState
  | init
  | readLength (lengthBytesLen : Nat)
  | readMask
  | readBinaryContent
  | readPingContent
  | skipContent
  deriving DecidableEq, Repr

inductive OpCode
  | continue | text | binary | close | ping | pong
  | unknown (code : UInt8)
  deriving DecidableEq, Repr

def OpCode.ofByte (code : UInt8) : OpCode :=
  match code.toNat with
  | 0 => .continue
  | 1 => .text
  | 2 => .binary
  | 8 => .close
  | 9 => .ping
  | 10 => .pong
  | _ => .unknown code

/-- The `Debug` text of an opcode. -/
def OpCode.debug : OpCode → String
  | .continue => "Continue"
  | .text => "Text"
  | .binary => "Binary"
  | .close => "Close"
  | .ping => "Ping"
  | .pong => "Pong"
  | .unknown code => "Unknown(" ++ toString code ++ ")"

/-- The size of `unprocessed_buf`. -/
def unprocessedBufLen : Nat := 16384

/-- The size of `ping_data`. -/
def pingDataLen : Nat := 80

/-- The reading half of a `WebsocketStream`. -/
structure Reader where
  readState : ReadState
  readFrameMasked : Bool
  readFrameOpcode : OpCode
  readFrameLength : Nat
  readFrameMask : List UInt8
  readFrameMaskOffset : Nat
  unprocessedStartOffset : Nat
  /-- `unprocessed_buf[unprocessed_start_offset..unprocessed_end_offset]`. -/
  unprocessed : List UInt8
  /-- `ping_data[..ping_data_size]`. -/
  pingData : List UInt8
  pendingWritePong : Bool
  pendingInitialData : Bool

/-- `WebsocketStream::new`, reading side: the bytes that arrived with the upgrade request are
processed first. -/
def Reader.new (unprocessedData : List UInt8) : Reader where
  readState := .init
  readFrameMasked := false
  readFrameOpcode := .unknown 99
  readFrameLength := 0
  readFrameMask := [0, 0, 0, 0]
  readFrameMaskOffset := 0
  unprocessedStartOffset := 0
  unprocessed := unprocessedData
  pingData := []
  pendingWritePong := false
  pendingInitialData := !unprocessedData.isEmpty

def Reader.unprocessedEndOffset (reader : Reader) : Nat :=
  reader.unprocessedStartOffset + reader.unprocessed.length

/-- Moving the start offset over `count` processed bytes; both offsets go back to 0 when they
meet. -/
def Reader.consume (reader : Reader) (count : Nat) : Reader :=
  if reader.unprocessedStartOffset + count = reader.unprocessedEndOffset then
    { reader with unprocessedStartOffset := 0, unprocessed := [] }
  else
    { reader with
      unprocessedStartOffset := reader.unprocessedStartOffset + count
      unprocessed := reader.unprocessed.drop count }

/-- XOR with the mask, cycled from a phase: `iter().cycle().skip(offset)`. -/
def applyMask (mask : List UInt8) (offset : Nat) : List UInt8 → List UInt8
  | [] => []
  | byte :: rest => (byte ^^^ mask.getD (offset % 4) 0) :: applyMask mask (offset + 1) rest

/-- The step function being called. -/
inductive Phase
  | init
  | readLength (lengthBytesLen : Nat)
  | readMask
  | checkContent
  | skipContent
  | readPingContent
  | readBinaryContent
  deriving DecidableEq, Repr

/-- What a step function does: call the next one, return `Ok(())`, or fail. `room` is what
is left of the caller's `ReadBuf`, and `filled` the bytes it puts there. -/
inductive Step
  | call (phase : Phase) (reader : Reader) (filled : List UInt8)
  | done (reader : Reader) (filled : List UInt8)
  | failed (fault : Fault)

/-- One step function of the reader, up to its tail call. -/
def step (reader : Reader) (room : Nat) : Phase → Step
  | .init =>
    if reader.unprocessed.length < 2 then .done reader []
    else
      let first := reader.unprocessed.getD 0 0
      let second := reader.unprocessed.getD 1 0
      let reader := reader.consume 2
      let readFrameFinal := first &&& 0x80 ≠ 0
      let reader := { reader with
        readFrameMasked := second &&& 0x80 ≠ 0
        readFrameOpcode := OpCode.ofByte (first &&& 0x0f) }
      if !readFrameFinal ∧ reader.readFrameOpcode ≠ .binary ∧ reader.readFrameOpcode ≠ .continue then
        .failed (.error ⟨.other,
          "cannot handle non-final frames of type " ++ reader.readFrameOpcode.debug⟩)
      else
        let length := second &&& 0x7f
        if length = 126 then .call (.readLength 2) { reader with readState := .readLength 2 } []
        else if length = 127 then .call (.readLength 8) { reader with readState := .readLength 8 } []
        else
          let reader := { reader with readFrameLength := length.toNat }
          if reader.readFrameMasked then .call .readMask { reader with readState := .readMask } []
          else .call .checkContent reader []
  | .readLength lengthBytesLen =>
    if reader.unprocessed.length < lengthBytesLen then .done reader []
    else
      let lengthBytes := reader.unprocessed.take lengthBytesLen
      let reader := reader.consume lengthBytesLen
      let length := lengthBytes.foldl (fun length byte => (length <<< 8 ||| byte.toNat) % 2 ^ 64) 0
      let reader := { reader with readFrameLength := length }
      if 0x7fffffffffffffff < length then
        .failed (.error ⟨.other, "Invalid frame length (" ++ toString length ++ ")"⟩)
      else if reader.readFrameMasked then .call .readMask { reader with readState := .readMask } []
      else .call .checkContent reader []
  | .readMask =>
    if reader.unprocessed.length < 4 then .done reader []
    else
      let reader := { reader with readFrameMask := reader.unprocessed.take 4 }
      .call .checkContent (reader.consume 4) []
  | .checkContent =>
    match reader.readFrameOpcode with
    | .binary | .continue =>
      if reader.readFrameLength = 0 then .call .init { reader with readState := .init } []
      else .call .readBinaryContent { reader with readState := .readBinaryContent } []
    | .ping =>
      let reader := { reader with pingData := [] }
      if reader.readFrameLength = 0 then
        .call .init { reader with readState := .init, pendingWritePong := true } []
      else if pingDataLen < reader.readFrameLength then
        .failed (.error ⟨.other,
          "cannot handle ping data length (" ++ toString reader.readFrameLength ++ ")"⟩)
      else
        .call .readPingContent
          { reader with pendingWritePong := false, readState := .readPingContent } []
    | .pong =>
      if reader.readFrameLength ≠ 0 then
        .failed (.error ⟨.other,
          "unexpected pong data length (" ++ toString reader.readFrameLength ++ ")"⟩)
      else .call .init { reader with readState := .init } []
    | _ =>
      if reader.readFrameLength = 0 then .call .init { reader with readState := .init } []
      else .call .skipContent { reader with readState := .skipContent } []
  | .skipContent =>
    let skipped :=
      if 0 < reader.readFrameLength then
        let skipAmount := min reader.unprocessed.length reader.readFrameLength
        let reader := reader.consume skipAmount
        { reader with readFrameLength := reader.readFrameLength - skipAmount }
      else reader
    if 0 < skipped.readFrameLength then .done skipped []
    else .call .init { skipped with readState := .init } []
  | .readPingContent =>
    let readAmount := min reader.unprocessed.length reader.readFrameLength
    if readAmount = 0 then .done reader []
    else
      let content := reader.unprocessed.take readAmount
      -- the payload is unmasked in place, but the start offset is left where it was
      let (content, reader) :=
        if reader.readFrameMasked then
          let content := applyMask reader.readFrameMask reader.readFrameMaskOffset content
          (content,
            { reader with
              unprocessed := content ++ reader.unprocessed.drop readAmount
              readFrameMaskOffset := (reader.readFrameMaskOffset + readAmount) % 4 })
        else (content, reader)
      if pingDataLen < reader.pingData.length + readAmount then .failed .panic
      else
        let reader := { reader with
          pingData := reader.pingData ++ content
          readFrameLength := reader.readFrameLength - readAmount }
        if reader.readFrameLength = 0 then
          .call .init
            { reader with readFrameMaskOffset := 0, readState := .init, pendingWritePong := true } []
        else .done reader []
  | .readBinaryContent =>
    if room = 0 then .done reader []
    else
      let readAmount := min (min reader.unprocessed.length reader.readFrameLength) room
      if readAmount = 0 then .done reader []
      else
        let content := reader.unprocessed.take readAmount
        let (content, reader) :=
          if reader.readFrameMasked then
            (applyMask reader.readFrameMask reader.readFrameMaskOffset content,
              { reader with readFrameMaskOffset := (reader.readFrameMaskOffset + readAmount) % 4 })
          else (content, reader)
        let reader := reader.consume readAmount
        let reader := { reader with readFrameLength := reader.readFrameLength - readAmount }
        if reader.readFrameLength = 0 then
          .call .init { reader with readFrameMaskOffset := 0, readState := .init } content
        else .done reader content

/-- What a step function leaves and puts in the `ReadBuf`, unless it fails. -/
def Step.result? : Step → Option (Reader × List UInt8)
  | .call _ reader filled => some (reader, filled)
  | .done reader filled => some (reader, filled)
  | .failed _ => none

@[simp] theorem applyMask_length (mask : List UInt8) (offset : Nat) (bytes : List UInt8) :
    (applyMask mask offset bytes).length = bytes.length := by
  induction bytes generalizing offset with
  | nil => rfl
  | cons byte rest ih => simp [applyMask, ih]

/-- A step function with all the calls it makes, for at most `fuel` calls: the reader and the
bytes put in the `ReadBuf`, or the fault; `none` when the fuel runs out. -/
def runSteps : Nat → Phase → Reader → Nat → Option (Except Fault (Reader × List UInt8))
  | 0, _, _, _ => none
  | fuel + 1, phase, reader, room =>
    match step reader room phase with
    | .failed fault => some (.error fault)
    | .done reader filled => some (.ok (reader, filled))
    | .call phase reader filled =>
      (runSteps fuel phase reader (room - filled.length)).map
        (Except.map fun (reader, more) => (reader, filled ++ more))

/-- The phase that the reader's state resumes in `poll_read`. -/
def ReadState.phase : ReadState → Phase
  | .init => .init
  | .readLength lengthBytesLen => .readLength lengthBytesLen
  | .readMask => .readMask
  | .skipContent => .skipContent
  | .readBinaryContent => .readBinaryContent
  | .readPingContent => .readPingContent

/-- Enough calls for every chain of step functions over a buffer: each call to `step_init`
after the first takes two bytes. -/
def Reader.fuel (reader : Reader) : Nat :=
  4 * reader.unprocessed.length + 8

/-- How a `poll_read` ends. -/
inductive PollRead
  | ready (filled : List UInt8)
  | failed (fault : Fault)
  | pending
  deriving DecidableEq, Repr

/-- The loop of `poll_read`, for at most `fuel` rounds: move the window to the front of the
buffer once more than half of it is consumed, read more from the stream unless bytes that
arrived with the upgrade are still pending, and resume the state machine. -/
def pollReadLoop (capacity : Nat) :
    Nat → Reader → Incoming → Option (PollRead × Reader × Incoming)
  | 0, _, _ => none
  | fuel + 1, reader, incoming =>
    if unprocessedBufLen < reader.unprocessedStartOffset * 2 ∧
        ¬(0 < reader.unprocessedStartOffset ∧
          reader.unprocessedStartOffset < reader.unprocessedEndOffset) then
      -- the assertion of `reset_unprocessed_buf_offset`
      some (.failed .panic, reader, incoming)
    else
      let reader :=
        if unprocessedBufLen < reader.unprocessedStartOffset * 2 then
          { reader with unprocessedStartOffset := 0 }
        else reader
      let received : Option (Option (Reader × Incoming)) :=
        if !reader.pendingInitialData then
          match readIncoming (unprocessedBufLen - reader.unprocessedEndOffset) incoming with
          | none => none
          | some (bytes, incoming) =>
            if bytes.isEmpty then some none
            else some (some ({ reader with unprocessed := reader.unprocessed ++ bytes }, incoming))
        else some (some ({ reader with pendingInitialData := false }, incoming))
      if !reader.pendingInitialData ∧ unprocessedBufLen ≤ reader.unprocessedStartOffset then
        some (.failed .panic, reader, incoming)
      else
        match received with
        | none => some (.pending, reader, incoming)
        | some none => some (.ready [], reader, incoming)
        | some (some (reader, incoming)) =>
          match runSteps reader.fuel reader.readState.phase reader capacity with
          | none => none
          | some (.error fault) => some (.failed fault, reader, incoming)
          | some (.ok (reader, filled)) =>
            if filled.isEmpty then pollReadLoop capacity fuel reader incoming
            else some (.ready filled, reader, incoming)

/-- `poll_read` into a `ReadBuf` of `capacity` bytes. When a binary payload is being read
and bytes are buffered, the previous `ReadBuf` ran out of room, and the payload goes on
without reading the stream. -/
def pollRead (capacity : Nat) (reader : Reader) (incoming : Incoming) :
    Option (PollRead × Reader × Incoming) :=
  if 0 < reader.unprocessedEndOffset ∧ reader.readState = .readBinaryContent then
    match runSteps reader.fuel .readBinaryContent reader capacity with
    | none => none
    | some (.error fault) => some (.failed fault, reader, incoming)
    | some (.ok (reader, filled)) =>
      -- `assert!(!buf.filled().is_empty())`
      if filled.isEmpty then some (.failed .panic, reader, incoming)
      else some (.ready filled, reader, incoming)
  else
    pollReadLoop capacity ((incoming.map List.length).sum + incoming.length + 2) reader incoming

/-- Successive `poll_read`s with the given capacities, until one is pending, fails or reaches
the end of the stream: what each returned. -/
def readRun : List Nat → Reader → Incoming → List PollRead
  | [], _, _ => []
  | capacity :: capacities, reader, incoming =>
    match pollRead capacity reader incoming with
    | none => []
    | some (.ready [], _, _) => [.ready []]
    | some (.ready filled, reader, incoming) => .ready filled :: readRun capacities reader incoming
    | some (result, _, _) => [result]

/-- `pack_frame`: a final frame of the opcode with the payload, its length in 7, 16 or 64 bits,
and masked with the mask the random generator gave, if any. -/
def packFrame (opcode : UInt8) (mask : Option (List UInt8)) (input : List UInt8) : List UInt8 :=
  let maskBit : UInt8 := if mask.isSome then 0x80 else 0
  let header :=
    if input.length < 126 then [opcode ||| 0x80, UInt8.ofNat input.length ||| maskBit]
    else if input.length ≤ 65535 then
      [opcode ||| 0x80, 0x7e ||| maskBit] ++ beBytes 2 input.length
    else [opcode ||| 0x80, 0x7f ||| maskBit] ++ beBytes 8 input.length
  match mask with
  | some maskBytes => header ++ maskBytes ++ applyMask maskBytes 0 input
  | none => header ++ input

/-- A ping with the one-byte payload `A` and then a binary frame with the payload `B`, as
`pack_frame` writes them unmasked, in one read: the ping payload is left in the buffer and
read as the header of a non-final text frame, and the read fails instead of delivering `B`
as it does without the ping. -/
theorem readRun_after_ping_misreads_payload :
    readRun [16, 16] (Reader.new []) [packFrame 0x02 none [0x42]] = [.ready [0x42], .pending] ∧
    readRun [16, 16] (Reader.new []) [packFrame 0x09 none [0x41] ++ packFrame 0x02 none [0x42]] =
      [.failed (.error ⟨.other, "cannot handle non-final frames of type Text"⟩)] := by
  decide

end Shoes.Websocket
