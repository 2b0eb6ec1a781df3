import Shoes.Wire

/-!
# Reassembling TLS records

`TlsDeframer` of `tls_deframer.rs` collects the bytes of a TLS stream as they arrive (`feed`)
and hands out one whole record at a time (`next_record`). It reads a record in two states: in
`ReadingHeader` it waits for five bytes and checks the version, the length and the content type;
in `ReadingPayload` it knows the length and waits for the rest of the record, which it splits off
the front of the buffer.

The caller may interleave `feed` and `next_record` in any way. Against a stream of well-formed
records, the deframer behaves as an ideal one that knows where each record ends
(`run_deframes`): a call returns the next record exactly when its last byte has been fed, and
the records returned, followed by the bytes still buffered, are the bytes fed. The invariant
behind it (`Deframes`) says that the buffer is the start of the records not returned yet, and
that a pending length is the length of the next one.
-/

namespace Shoes.Vless

open Wire

def tlsRecordHeaderSize : Nat := 5

def maxTlsCiphertextLen : Nat := 16384 + 2048

def tlsProtocolVersionMajor : UInt8 := 0x03

def tlsProtocolVersionMinorMin : UInt8 := 0x01

def tlsProtocolVersionMinorMax : UInt8 := 0x03

inductive DeframerState
  | readingHeader
  | readingPayload (payloadLen : Nat)
  deriving DecidableEq, Repr

/-- `TlsDeframer`: the bytes received and not handed out yet, and the parsing state. -/
structure TlsDeframer where
  buffer : List UInt8
  state : DeframerState
  deriving DecidableEq, Repr

namespace TlsDeframer

def new : TlsDeframer :=
  ⟨[], .readingHeader⟩

def feed (deframer : TlsDeframer) (data : List UInt8) : TlsDeframer :=
  { deframer with buffer := deframer.buffer ++ data }

def remainingData (deframer : TlsDeframer) : List UInt8 :=
  deframer.buffer

/-- The checks of the `ReadingHeader` branch, in the order of the source: the version, the
length, then the content type. It returns the payload length. -/
def checkHeader (contentType versionMajor versionMinor : UInt8) (payloadLen : Nat) : Result Nat :=
  if versionMajor ≠ tlsProtocolVersionMajor ∨
      ¬(tlsProtocolVersionMinorMin ≤ versionMinor ∧ versionMinor ≤ tlsProtocolVersionMinorMax) then
    fail .invalidData ("Invalid TLS protocol version: 0x" ++ hexByte versionMajor ++
      hexByte versionMinor ++ " (expected 0x0301 to 0x0303)")
  else if maxTlsCiphertextLen < payloadLen then
    fail .invalidData ("TLS record ciphertext length " ++ toString payloadLen ++
      " exceeds maximum " ++ toString maxTlsCiphertextLen ++ " (TLS 1.2 limit)")
  else if ¬(0x14 ≤ contentType ∧ contentType ≤ 0x18) then
    fail .invalidData ("Invalid TLS content type: 0x" ++ hexByte contentType)
  else .ok payloadLen

/-- The `ReadingPayload` branch: the whole record is split off the buffer once it is there. -/
def readPayload (deframer : TlsDeframer) (payloadLen : Nat) :
    Result (Option (List UInt8) × TlsDeframer) :=
  let totalLen := tlsRecordHeaderSize + payloadLen
  if deframer.buffer.length < totalLen then .ok (none, deframer)
  else .ok (some (deframer.buffer.take totalLen), ⟨deframer.buffer.drop totalLen, .readingHeader⟩)

/-- `next_record`. Its loop goes round at most once: a header that passes the checks moves the
state to `ReadingPayload`, whose branch returns. -/
def nextRecord (deframer : TlsDeframer) : Result (Option (List UInt8) × TlsDeframer) :=
  match deframer.state with
  | .readingHeader =>
    if deframer.buffer.length < tlsRecordHeaderSize then .ok (none, deframer)
    else do
      let payloadLen ← checkHeader (deframer.buffer.getD 0 0) (deframer.buffer.getD 1 0)
        (deframer.buffer.getD 2 0) (u16FromBe [deframer.buffer.getD 3 0, deframer.buffer.getD 4 0]).toNat
      readPayload ⟨deframer.buffer, .readingPayload payloadLen⟩ payloadLen
  | .readingPayload payloadLen => readPayload deframer payloadLen

theorem readPayload_shorter {deframer next : TlsDeframer} {payloadLen : Nat} {record : List UInt8}
    (returned : deframer.readPayload payloadLen = .ok (some record, next)) :
    next.buffer.length < deframer.buffer.length := by
  unfold readPayload at returned
  dsimp only at returned
  split_ifs at returned with short
  · cases returned
  · cases returned
    simp only [List.length_drop, tlsRecordHeaderSize] at short ⊢
    omega

theorem nextRecord_shorter {deframer next : TlsDeframer} {record : List UInt8}
    (returned : deframer.nextRecord = .ok (some record, next)) :
    next.buffer.length < deframer.buffer.length := by
  unfold nextRecord at returned
  split at returned
  · split_ifs at returned with short
    · cases returned
    · obtain ⟨payloadLen, _, read⟩ := bind_eq_ok returned
      have shorter := readPayload_shorter read
      exact shorter
  · exact readPayload_shorter returned

/-- `next_records`: `next_record` until it returns no record. -/
def nextRecords (deframer : TlsDeframer) : Result (List (List UInt8) × TlsDeframer) :=
  match _returned : deframer.nextRecord with
  | .ok (some record, next) => do
    let (records, final) ← nextRecords next
    .ok (record :: records, final)
  | .ok (none, next) => .ok ([], next)
  | .error err => .error err
termination_by deframer.buffer.length
decreasing_by exact nextRecord_shorter _returned

end TlsDeframer

/-- A call a caller makes: feeding bytes, or asking for the next record. -/
inductive Call
  | feed (data : List UInt8)
  | nextRecord

/-- The bytes a call feeds. -/
def Call.fed : Call → List UInt8
  | .feed data => data
  | .nextRecord => []

/-- A caller's calls, with what each `next_record` returns, until one fails. -/
def TlsDeframer.run : List Call → TlsDeframer → Result (List (Option (List UInt8)) × TlsDeframer)
  | [], deframer => .ok ([], deframer)
  | .feed data :: calls, deframer => run calls (deframer.feed data)
  | .nextRecord :: calls, deframer => do
    let (record, deframer) ← deframer.nextRecord
    let (records, deframer) ← run calls deframer
    .ok (record :: records, deframer)

/-- A well-formed TLS record: a content type from `0x14` to `0x18`, a version from `0x0301` to
`0x0303`, and a payload of at most `MAX_TLS_CIPHERTEXT_LEN` bytes. -/
structure TlsRecord where
  contentType : UInt8
  versionMinor : UInt8
  payload : List UInt8
  contentType_valid : 0x14 ≤ contentType ∧ contentType ≤ 0x18
  version_valid : 1 ≤ versionMinor ∧ versionMinor ≤ 3
  payload_fits : payload.length ≤ maxTlsCiphertextLen

/-- The bytes of a record: the five-byte header and the payload. -/
def TlsRecord.bytes (record : TlsRecord) : List UInt8 :=
  [record.contentType, 3, record.versionMinor] ++ u16ToBe (UInt16.ofNat record.payload.length) ++
    record.payload

/-- What an ideal deframer, which knows where each frame ends, returns to the calls: the next
frame as soon as its last byte has been fed, and nothing before. -/
def ideal (frames : List (List UInt8)) : List Call → Nat → List UInt8 → List (Option (List UInt8))
  | [], _, _ => []
  | .feed data :: calls, returned, fed => ideal frames calls returned (fed ++ data)
  | .nextRecord :: calls, returned, fed =>
    match frames[returned]? with
    | some frame =>
      if ((frames.take returned).flatten ++ frame).length ≤ fed.length then
        some frame :: ideal frames calls (returned + 1) fed
      else none :: ideal frames calls returned fed
    | none => none :: ideal frames calls returned fed

namespace TlsRecord

theorem bytes_length (record : TlsRecord) :
    record.bytes.length = tlsRecordHeaderSize + record.payload.length := by
  simp only [bytes, List.length_append, List.length_cons, List.length_nil, u16ToBe_length,
    tlsRecordHeaderSize]

theorem header_getD (record : TlsRecord) {buffer later : List UInt8}
    (start : buffer <+: record.bytes ++ later) (header : tlsRecordHeaderSize ≤ buffer.length) :
    buffer.getD 0 0 = record.contentType ∧ buffer.getD 1 0 = 3 ∧
      buffer.getD 2 0 = record.versionMinor ∧
      (u16FromBe [buffer.getD 3 0, buffer.getD 4 0]).toNat = record.payload.length := by
  obtain ⟨high, low, spelled, decoded⟩ := u16ToBe_pair (UInt16.ofNat record.payload.length)
  have read : ∀ index < tlsRecordHeaderSize, buffer.getD index 0 = (record.bytes ++ later).getD index 0 :=
    fun index below => by
      rw [List.getD_eq_getElem _ _ (by omega), List.getD_eq_getElem _ _ (by
        have := start.length_le; omega)]
      exact start.getElem (by omega)
  have fits : record.payload.length < 65536 := by
    have := record.payload_fits
    simp only [maxTlsCiphertextLen] at this
    omega
  simp only [read 0 (by decide), read 1 (by decide), read 2 (by decide), read 3 (by decide),
    read 4 (by decide), bytes, spelled]
  refine ⟨rfl, rfl, rfl, ?_⟩
  simp only [List.cons_append, List.nil_append, List.getD_cons_succ, List.getD_cons_zero, decoded,
    UInt16.toNat_ofNat', Nat.mod_eq_of_lt fits]

theorem checkHeader_eq (record : TlsRecord) :
    TlsDeframer.checkHeader record.contentType 3 record.versionMinor record.payload.length =
      .ok record.payload.length := by
  have version := record.version_valid
  have kind := record.contentType_valid
  have fits := record.payload_fits
  simp only [TlsDeframer.checkHeader, tlsProtocolVersionMajor, tlsProtocolVersionMinorMin,
    tlsProtocolVersionMinorMax, ne_eq, not_true_eq_false, false_or, version, and_self,
    not_true_eq_false, if_false, Nat.not_lt.mpr fits, kind]

end TlsRecord

namespace TlsDeframer

theorem readPayload_record (record : TlsRecord) {buffer later : List UInt8}
    (start : buffer <+: record.bytes ++ later) (state : DeframerState) :
    readPayload ⟨buffer, state⟩ record.payload.length =
      if buffer.length < record.bytes.length then .ok (none, ⟨buffer, state⟩)
      else .ok (some record.bytes, ⟨buffer.drop record.bytes.length, .readingHeader⟩) := by
  simp only [readPayload, ← record.bytes_length]
  split_ifs with short
  · rfl
  · obtain ⟨tail, spelled⟩ := start
    have whole : buffer.take record.bytes.length = record.bytes := by
      have := congrArg (List.take record.bytes.length) spelled
      rwa [List.take_append_of_le_length (by omega), List.take_left] at this
    rw [whole]

theorem nextRecord_readingHeader (record : TlsRecord) {buffer later : List UInt8}
    (start : buffer <+: record.bytes ++ later) (header : tlsRecordHeaderSize ≤ buffer.length) :
    nextRecord ⟨buffer, .readingHeader⟩ =
      readPayload ⟨buffer, .readingPayload record.payload.length⟩ record.payload.length := by
  obtain ⟨kind, major, minor, length⟩ := record.header_getD start header
  simp only [nextRecord, Nat.not_lt.mpr header, if_false, kind, major, minor, length,
    record.checkHeader_eq, ok_bind]

end TlsDeframer

/-- Where a deframer stands after `returned` records of `records` have been handed out and `fed`
has been fed: the buffer holds the bytes after those records, which are the start of the
records still to come, and a pending payload length is that of the next record, whose header is
in the buffer. -/
structure Deframes (records : List TlsRecord) (returned : Nat) (fed : List UInt8)
    (deframer : TlsDeframer) : Prop where
  consumed : (records.take returned).flatMap TlsRecord.bytes ++ deframer.buffer = fed
  within : deframer.buffer <+: (records.drop returned).flatMap TlsRecord.bytes
  pending : ∀ payloadLen, deframer.state = .readingPayload payloadLen →
    ∃ record, records[returned]? = some record ∧ payloadLen = record.payload.length ∧
      tlsRecordHeaderSize ≤ deframer.buffer.length

section Invariant

variable {records : List TlsRecord} {returned : Nat} {fed : List UInt8} {deframer : TlsDeframer}

theorem deframes_new (records : List TlsRecord) : Deframes records 0 [] TlsDeframer.new where
  consumed := rfl
  within := List.nil_prefix
  pending := fun _ reading => nomatch reading

theorem drop_flatMap_bytes {record : TlsRecord} (found : records[returned]? = some record) :
    (records.drop returned).flatMap TlsRecord.bytes =
      record.bytes ++ (records.drop (returned + 1)).flatMap TlsRecord.bytes := by
  obtain ⟨inside, rfl⟩ := List.getElem?_eq_some_iff.mp found
  rw [List.drop_eq_getElem_cons inside, List.flatMap_cons]

theorem Deframes.feed (invariant : Deframes records returned fed deframer) {data : List UInt8}
    (delivered : fed ++ data <+: records.flatMap TlsRecord.bytes) :
    Deframes records returned (fed ++ data) (deframer.feed data) where
  consumed := by rw [TlsDeframer.feed, ← List.append_assoc, invariant.consumed]
  within := by
    rw [← invariant.consumed, ← List.take_append_drop returned records, List.flatMap_append,
      List.append_assoc] at delivered
    simpa only [TlsDeframer.feed, List.take_append_drop, List.prefix_append_right_inj] using
      delivered
  pending := fun payloadLen reading => by
    obtain ⟨record, found, length, header⟩ := invariant.pending payloadLen reading
    exact ⟨record, found, length, by simp only [TlsDeframer.feed, List.length_append]; omega⟩

theorem Deframes.advance (invariant : Deframes records returned fed deframer) {record : TlsRecord}
    (found : records[returned]? = some record) (whole : record.bytes.length ≤ deframer.buffer.length) :
    deframer.buffer = record.bytes ++ deframer.buffer.drop record.bytes.length ∧
      Deframes records (returned + 1) fed
        ⟨deframer.buffer.drop record.bytes.length, .readingHeader⟩ := by
  obtain ⟨tail, spelled⟩ := invariant.within
  rw [drop_flatMap_bytes found] at spelled
  have front : deframer.buffer.take record.bytes.length = record.bytes := by
    have := congrArg (List.take record.bytes.length) spelled
    rwa [List.take_append_of_le_length whole, List.take_left] at this
  have split : deframer.buffer = record.bytes ++ deframer.buffer.drop record.bytes.length := by
    conv => lhs; rw [← List.take_append_drop record.bytes.length deframer.buffer, front]
  refine ⟨split, ⟨?_, ?_, fun _ reading => nomatch reading⟩⟩
  · rw [List.take_add_one, found, Option.toList_some, List.flatMap_append, List.flatMap_singleton,
      List.append_assoc, ← split, invariant.consumed]
  · refine ⟨tail, ?_⟩
    have := congrArg (List.drop record.bytes.length) spelled
    rwa [List.drop_append_of_le_length whole, List.drop_left] at this

theorem Deframes.nextRecord_whole (invariant : Deframes records returned fed deframer)
    {record : TlsRecord} (found : records[returned]? = some record)
    (whole : record.bytes.length ≤ deframer.buffer.length) :
    ∃ next, deframer.nextRecord = .ok (some record.bytes, next) ∧
      Deframes records (returned + 1) fed next := by
  have start : deframer.buffer <+: record.bytes ++ (records.drop (returned + 1)).flatMap TlsRecord.bytes := by
    rw [← drop_flatMap_bytes found]
    exact invariant.within
  have reads : ∀ state, TlsDeframer.readPayload ⟨deframer.buffer, state⟩ record.payload.length =
      .ok (some record.bytes, ⟨deframer.buffer.drop record.bytes.length, .readingHeader⟩) :=
    fun state => by rw [TlsDeframer.readPayload_record record start, if_neg (Nat.not_lt.mpr whole)]
  have after := (invariant.advance found whole).2
  obtain ⟨buffer, state⟩ := deframer
  cases state with
  | readingHeader =>
    have header : tlsRecordHeaderSize ≤ buffer.length := by
      have := record.bytes_length
      simp only at whole
      omega
    exact ⟨_, (TlsDeframer.nextRecord_readingHeader record start header).trans (reads _), after⟩
  | readingPayload payloadLen =>
    obtain ⟨pendingRecord, pendingFound, rfl, _⟩ := invariant.pending payloadLen rfl
    obtain rfl : pendingRecord = record := Option.some.inj (pendingFound.symm.trans found)
    exact ⟨_, reads _, after⟩

theorem Deframes.nextRecord_short (invariant : Deframes records returned fed deframer)
    (short : ∀ record, records[returned]? = some record →
      deframer.buffer.length < record.bytes.length) :
    ∃ next, deframer.nextRecord = .ok (none, next) ∧ Deframes records returned fed next := by
  obtain ⟨buffer, state⟩ := deframer
  rcases found : records[returned]? with _ | record
  · -- every record has been handed out: the buffer is empty
    have empty : buffer = [] := by
      have := invariant.within
      rwa [List.drop_eq_nil_of_le (List.getElem?_eq_none_iff.mp found), List.flatMap_nil,
        List.prefix_nil] at this
    subst empty
    cases state with
    | readingHeader => exact ⟨_, rfl, invariant⟩
    | readingPayload payloadLen =>
      obtain ⟨record, pendingFound, _⟩ := invariant.pending payloadLen rfl
      simp [found] at pendingFound
  · have start : buffer <+: record.bytes ++ (records.drop (returned + 1)).flatMap TlsRecord.bytes := by
      rw [← drop_flatMap_bytes found]
      exact invariant.within
    have waits : ∀ state, TlsDeframer.readPayload ⟨buffer, state⟩ record.payload.length =
        .ok (none, ⟨buffer, state⟩) :=
      fun state => by rw [TlsDeframer.readPayload_record record start, if_pos (short record found)]
    cases state with
    | readingHeader =>
      by_cases header : tlsRecordHeaderSize ≤ buffer.length
      · -- the header is read and the state moves to the payload
        refine ⟨_, (TlsDeframer.nextRecord_readingHeader record start header).trans (waits _), ?_⟩
        exact ⟨invariant.consumed, invariant.within, fun payloadLen reading => by
          cases reading
          exact ⟨record, found, rfl, header⟩⟩
      · exact ⟨_, if_pos (Nat.not_le.mp header), invariant⟩
    | readingPayload payloadLen =>
      obtain ⟨pendingRecord, pendingFound, rfl, _⟩ := invariant.pending payloadLen rfl
      obtain rfl : pendingRecord = record := Option.some.inj (pendingFound.symm.trans found)
      exact ⟨_, waits _, invariant⟩

theorem Deframes.fed_iff (invariant : Deframes records returned fed deframer) (record : TlsRecord) :
    (((records.map TlsRecord.bytes).take returned).flatten ++ record.bytes).length ≤ fed.length ↔
      record.bytes.length ≤ deframer.buffer.length := by
  have lengths := congrArg List.length invariant.consumed
  rw [List.length_append] at lengths
  rw [← List.map_take, ← List.flatMap_def, List.length_append]
  omega

theorem Deframes.run (invariant : Deframes records returned fed deframer) (calls : List Call)
    (delivered : fed ++ calls.flatMap Call.fed <+: records.flatMap TlsRecord.bytes) :
    ∃ final count,
      deframer.run calls = .ok (ideal (records.map TlsRecord.bytes) calls returned fed, final) ∧
      Deframes records count (fed ++ calls.flatMap Call.fed) final ∧
      (records.take returned).map TlsRecord.bytes ++
          (ideal (records.map TlsRecord.bytes) calls returned fed).reduceOption =
        (records.take count).map TlsRecord.bytes := by
  induction calls generalizing returned fed deframer with
  | nil => exact ⟨deframer, returned, rfl, by simpa using invariant, by simp [ideal]⟩
  | cons call calls more =>
    cases call with
    | feed data =>
      rw [List.flatMap_cons, Call.fed, ← List.append_assoc] at delivered
      obtain ⟨final, count, ran, after, handed⟩ :=
        more (invariant.feed ((List.prefix_append _ _).trans delivered)) delivered
      refine ⟨final, count, ran, ?_, handed⟩
      simpa only [List.flatMap_cons, Call.fed, List.append_assoc] using after
    | nextRecord =>
      simp only [List.flatMap_cons, Call.fed, List.nil_append] at delivered ⊢
      rcases found : records[returned]? with _ | record
      · -- no record is left: nothing is returned
        obtain ⟨next, called, stays⟩ := invariant.nextRecord_short (by simp [found])
        obtain ⟨final, count, ran, after, handed⟩ := more stays delivered
        have answer : ideal (records.map TlsRecord.bytes) (.nextRecord :: calls) returned fed =
            none :: ideal (records.map TlsRecord.bytes) calls returned fed := by
          simp only [ideal, List.getElem?_map, found, Option.map_none]
        refine ⟨final, count, ?_, after, ?_⟩
        · simp only [TlsDeframer.run, called, ok_bind, ran, answer]
        · rwa [answer, List.reduceOption_cons_of_none]
      · by_cases whole : record.bytes.length ≤ deframer.buffer.length
        · -- the record is whole: it is returned and the count moves on
          obtain ⟨next, called, moved⟩ := invariant.nextRecord_whole found whole
          obtain ⟨final, count, ran, after, handed⟩ := more moved delivered
          have answer : ideal (records.map TlsRecord.bytes) (.nextRecord :: calls) returned fed =
              some record.bytes :: ideal (records.map TlsRecord.bytes) calls (returned + 1) fed := by
            simp only [ideal, List.getElem?_map, found, Option.map_some,
              if_pos ((invariant.fed_iff record).mpr whole)]
          refine ⟨final, count, ?_, after, ?_⟩
          · simp only [TlsDeframer.run, called, ok_bind, ran, answer]
          · rw [answer, List.reduceOption_cons_of_some, ← handed, List.take_add_one, found,
              Option.toList_some, List.map_append, List.map_singleton, List.append_assoc]
            rfl
        · -- the record is not whole yet: nothing is returned
          obtain ⟨next, called, stays⟩ := invariant.nextRecord_short (fun other found' =>
            Nat.lt_of_not_le (Option.some.inj (found'.symm.trans found) ▸ whole))
          obtain ⟨final, count, ran, after, handed⟩ := more stays delivered
          have answer : ideal (records.map TlsRecord.bytes) (.nextRecord :: calls) returned fed =
              none :: ideal (records.map TlsRecord.bytes) calls returned fed := by
            simp only [ideal, List.getElem?_map, found, Option.map_some,
              if_neg (mt (invariant.fed_iff record).mp whole)]
          refine ⟨final, count, ?_, after, ?_⟩
          · simp only [TlsDeframer.run, called, ok_bind, ran, answer]
          · rwa [answer, List.reduceOption_cons_of_none]

end Invariant

/-- `TlsDeframer` is an exact deframer: whatever calls a caller makes, as long as it feeds the
bytes of well-formed records, no call fails, each `next_record` returns what the ideal deframer
returns (the next record as soon as its last byte has been fed, nothing before), the records
returned are the first ones in order, and with the bytes still buffered they are the bytes
fed. -/
theorem run_deframes (records : List TlsRecord) (calls : List Call)
    (delivered : calls.flatMap Call.fed <+: records.flatMap TlsRecord.bytes) :
    ∃ final, TlsDeframer.new.run calls = .ok (ideal (records.map TlsRecord.bytes) calls 0 [], final) ∧
      (ideal (records.map TlsRecord.bytes) calls 0 []).reduceOption <+: records.map TlsRecord.bytes ∧
      (ideal (records.map TlsRecord.bytes) calls 0 []).reduceOption.flatten ++ final.remainingData =
        calls.flatMap Call.fed := by
  obtain ⟨final, count, ran, after, handed⟩ :=
    (deframes_new records).run calls (by simpa using delivered)
  simp only [List.take_zero, List.map_nil, List.nil_append] at handed
  refine ⟨final, ran, ?_, ?_⟩
  · rw [handed, List.map_take]
    exact List.take_prefix count _
  · have consumed := after.consumed
    rw [List.nil_append] at consumed
    rw [handed, ← List.flatMap_def, ← consumed]
    rfl

/-! ## Where the chunks end does not matter

A call made with more bytes in the buffer does what it would have done, with the extra bytes
kept after its buffer (`nextRecord_feed`); so draining after each chunk hands out the records
that draining once after the whole stream hands out (`feedRecords_eq`). -/

namespace TlsDeframer

theorem readPayload_feed {buffer : List UInt8} (data : List UInt8) (state : DeframerState)
    {payloadLen : Nat} (whole : tlsRecordHeaderSize + payloadLen ≤ buffer.length) :
    readPayload ⟨buffer ++ data, state⟩ payloadLen =
      .ok (some (buffer.take (tlsRecordHeaderSize + payloadLen)),
        ⟨buffer.drop (tlsRecordHeaderSize + payloadLen) ++ data, .readingHeader⟩) := by
  have longer : ¬(buffer ++ data).length < tlsRecordHeaderSize + payloadLen := by
    simp only [List.length_append]
    omega
  simp only [readPayload, longer, if_false, List.take_append_of_le_length whole,
    List.drop_append_of_le_length whole]

/-- `next_record` after a `feed` does what it did before the `feed`: a record comes out the
same, with the new bytes after the rest of the buffer; a call that returned nothing is made
again on the state it left, with the new bytes; an error is the same. -/
theorem nextRecord_feed (deframer : TlsDeframer) (data : List UInt8) :
    (deframer.feed data).nextRecord =
      match deframer.nextRecord with
      | .ok (some record, next) => .ok (some record, next.feed data)
      | .ok (none, next) => (next.feed data).nextRecord
      | .error err => .error err := by
  obtain ⟨buffer, state⟩ := deframer
  -- the payload branch, on a buffer that holds the record and on one that does not
  have payload : ∀ payloadLen,
      readPayload ⟨buffer ++ data, .readingPayload payloadLen⟩ payloadLen =
        match readPayload ⟨buffer, .readingPayload payloadLen⟩ payloadLen with
        | .ok (some record, next) => .ok (some record, next.feed data)
        | .ok (none, next) => (next.feed data).nextRecord
        | .error err => .error err := by
    intro payloadLen
    by_cases whole : tlsRecordHeaderSize + payloadLen ≤ buffer.length
    · have before : readPayload ⟨buffer, .readingPayload payloadLen⟩ payloadLen =
          .ok (some (buffer.take (tlsRecordHeaderSize + payloadLen)),
            ⟨buffer.drop (tlsRecordHeaderSize + payloadLen), .readingHeader⟩) :=
        if_neg (Nat.not_lt.mpr whole)
      rw [before, readPayload_feed data _ whole]
      rfl
    · have before : readPayload ⟨buffer, .readingPayload payloadLen⟩ payloadLen =
          .ok (none, ⟨buffer, .readingPayload payloadLen⟩) :=
        if_pos (Nat.lt_of_not_le whole)
      rw [before]
      rfl
  cases state with
  | readingPayload payloadLen => exact payload payloadLen
  | readingHeader =>
    by_cases short : buffer.length < tlsRecordHeaderSize
    · simp only [nextRecord, feed, if_pos short]
    · -- the header is in the buffer already: it is read the same
      have header : tlsRecordHeaderSize ≤ buffer.length := Nat.not_lt.mp short
      have read : ∀ index < tlsRecordHeaderSize, (buffer ++ data).getD index 0 = buffer.getD index 0 :=
        fun index below => List.getD_append _ _ _ _ (by omega)
      have longer : ¬(buffer ++ data).length < tlsRecordHeaderSize := by
        simp only [List.length_append]
        omega
      simp only [nextRecord, feed, if_neg short, if_neg longer, read 0 (by decide),
        read 1 (by decide), read 2 (by decide), read 3 (by decide), read 4 (by decide)]
      rcases checkHeader (buffer.getD 0 0) (buffer.getD 1 0) (buffer.getD 2 0)
          (u16FromBe [buffer.getD 3 0, buffer.getD 4 0]).toNat with err | payloadLen
      · rfl
      · exact payload payloadLen

theorem nextRecords_of_some {deframer next : TlsDeframer} {record : List UInt8}
    (returned : deframer.nextRecord = .ok (some record, next)) :
    deframer.nextRecords = (next.nextRecords).map fun (records, final) => (record :: records, final) := by
  rw [nextRecords]
  split
  · rename_i found
    rw [returned] at found
    cases found
    cases next.nextRecords <;> rfl
  · rename_i found
    rw [returned] at found
    cases found
  · rename_i found
    rw [returned] at found
    cases found

theorem nextRecords_of_none {deframer next : TlsDeframer}
    (returned : deframer.nextRecord = .ok (none, next)) :
    deframer.nextRecords = .ok ([], next) := by
  rw [nextRecords]
  split <;> rename_i found <;> rw [returned] at found <;> cases found
  rfl

theorem nextRecords_of_error {deframer : TlsDeframer} {err : Fault}
    (failed : deframer.nextRecord = .error err) : deframer.nextRecords = .error err := by
  rw [nextRecords]
  split <;> rename_i found <;> rw [failed] at found <;> cases found
  rfl

theorem nextRecords_congr {first second : TlsDeframer}
    (same : first.nextRecord = second.nextRecord) : first.nextRecords = second.nextRecords := by
  rcases called : second.nextRecord with err | ⟨_ | record, next⟩
  · rw [nextRecords_of_error (same.trans called), nextRecords_of_error called]
  · rw [nextRecords_of_none (same.trans called), nextRecords_of_none called]
  · rw [nextRecords_of_some (same.trans called), nextRecords_of_some called]

theorem nextRecord_none_stable {deframer next : TlsDeframer}
    (waits : deframer.nextRecord = .ok (none, next)) : next.nextRecord = .ok (none, next) := by
  obtain ⟨buffer, state⟩ := deframer
  have payload : ∀ payloadLen, readPayload ⟨buffer, .readingPayload payloadLen⟩ payloadLen =
      .ok (none, next) → next.nextRecord = .ok (none, next) := by
    intro payloadLen read
    unfold readPayload at read
    dsimp only at read
    split_ifs at read with short
    · cases read
      exact if_pos short
    · cases read
  cases state with
  | readingPayload payloadLen => exact payload payloadLen waits
  | readingHeader =>
    unfold nextRecord at waits
    dsimp only at waits
    split_ifs at waits with short
    · cases waits
      exact if_pos short
    · obtain ⟨payloadLen, _, read⟩ := bind_eq_ok waits
      exact payload payloadLen read

theorem nextRecords_feed (deframer : TlsDeframer) (data : List UInt8) :
    (deframer.feed data).nextRecords =
      deframer.nextRecords >>= fun (records, next) =>
        (next.feed data).nextRecords.map fun (more, final) => (records ++ more, final) := by
  fun_induction nextRecords deframer with
  | case1 deframer record next called more =>
    have fed : (deframer.feed data).nextRecord = .ok (some record, next.feed data) := by
      rw [nextRecord_feed, called]
    rw [nextRecords_of_some fed, more]
    rcases next.nextRecords with err | ⟨records, final⟩
    · rfl
    · simp only [ok_bind]
      rcases (final.feed data).nextRecords with err | ⟨later, last⟩ <;> rfl
  | case2 deframer next called =>
    have fed : (deframer.feed data).nextRecord = (next.feed data).nextRecord := by
      rw [nextRecord_feed, called]
    rw [nextRecords_congr fed, ok_bind]
    dsimp only
    rcases (next.feed data).nextRecords with err | ⟨later, last⟩ <;> rfl
  | case3 deframer err called =>
    have fed : (deframer.feed data).nextRecord = .error err := by
      rw [nextRecord_feed, called]
    rw [nextRecords_of_error fed]
    rfl

theorem nextRecords_stable {deframer final : TlsDeframer} {records : List (List UInt8)}
    (drained : deframer.nextRecords = .ok (records, final)) :
    final.nextRecord = .ok (none, final) := by
  fun_induction nextRecords deframer generalizing records with
  | case1 deframer record next called more =>
    obtain ⟨⟨rest, last⟩, rested, joined⟩ := bind_eq_ok drained
    cases joined
    exact more rested
  | case2 deframer next called =>
    cases drained
    exact nextRecord_none_stable called
  | case3 deframer err called => cases drained

end TlsDeframer

/-- A caller that feeds each chunk and then takes every record it can, until a call fails. -/
def feedRecords : List (List UInt8) → TlsDeframer → Result (List (List UInt8) × TlsDeframer)
  | [], deframer => .ok ([], deframer)
  | chunk :: chunks, deframer => do
    let (records, deframer) ← (deframer.feed chunk).nextRecords
    let (more, deframer) ← feedRecords chunks deframer
    .ok (records ++ more, deframer)

theorem feedRecords_eq (chunks : List (List UInt8)) {deframer : TlsDeframer}
    (stable : deframer.nextRecord = .ok (none, deframer)) :
    feedRecords chunks deframer = (deframer.feed chunks.flatten).nextRecords := by
  induction chunks generalizing deframer with
  | nil =>
    rw [feedRecords, List.flatten_nil, TlsDeframer.feed, List.append_nil,
      TlsDeframer.nextRecords_of_none stable]
  | cons chunk chunks more =>
    have twice : deframer.feed (chunk :: chunks).flatten = (deframer.feed chunk).feed chunks.flatten := by
      simp only [TlsDeframer.feed, List.flatten_cons, List.append_assoc]
    rw [feedRecords, twice, TlsDeframer.nextRecords_feed (deframer.feed chunk) chunks.flatten]
    rcases drained : (deframer.feed chunk).nextRecords with err | ⟨records, next⟩
    · rfl
    · simp only [ok_bind, more (TlsDeframer.nextRecords_stable drained)]
      rcases (next.feed chunks.flatten).nextRecords with err | ⟨later, last⟩ <;> rfl

/-- An application-data record with a two-byte payload. -/
def splitRecord : TlsRecord :=
  ⟨0x17, 3, [1, 2], by decide, by decide, by decide⟩

/-- Calls that feed `splitRecord` in three pieces, the first ending inside its header, and ask
for a record after each. -/
def splitCalls : List Call :=
  [.feed [0x17, 3], .nextRecord, .feed [3, 0, 2, 1], .nextRecord, .feed [2], .nextRecord]

theorem run_deframes_split_header :
    splitCalls.flatMap Call.fed <+: [splitRecord].flatMap TlsRecord.bytes ∧
      ∃ final, TlsDeframer.new.run splitCalls =
          .ok (ideal ([splitRecord].map TlsRecord.bytes) splitCalls 0 [], final) ∧
        (ideal ([splitRecord].map TlsRecord.bytes) splitCalls 0 []).reduceOption <+:
          [splitRecord].map TlsRecord.bytes ∧
        (ideal ([splitRecord].map TlsRecord.bytes) splitCalls 0 []).reduceOption.flatten ++
          final.remainingData = splitCalls.flatMap Call.fed :=
  ⟨⟨[], by decide⟩, run_deframes [splitRecord] splitCalls ⟨[], by decide⟩⟩

example : TlsDeframer.new.run splitCalls =
    .ok ([none, none, some [0x17, 3, 3, 0, 2, 1, 2]], ⟨[], .readingHeader⟩) := by
  decide

end Shoes.Vless
