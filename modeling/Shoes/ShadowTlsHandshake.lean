import Shoes.Wire

/-!
# The ShadowTLS server handshake relay

After a valid ClientHello, `setup_remote_handshake` relays TLS records both ways between the
client and the handshake server, whichever side has a record first, until the client sends an
application-data record that authenticates it: one whose payload starts with the four-byte HMAC,
under the chain `initial_hmac || ServerRandom || "C"`, of the rest of the payload. Records from
the handshake server go to the client, application data XORed with the key stream and prefixed
by the HMAC chain over `ServerRandom`; records from the client go to the handshake server as
they came. `setup_local_handshake` checks client records the same way and feeds the others to
its own TLS server.

The HMAC is taken over `client_payload_bytes[4..]` before anything checks that the payload has
four bytes, so an application-data record shorter than that panics (`authenticate_eq_abort_iff`),
and it is the only way the relay panics (`RemoteRelay.run_eq_abort`). The length field of a
relayed server record is `(len as u16).wrapping_add(4)`, which wraps for payloads of 65532 bytes
or more (`remoteServerRecord_tlsRecord`).
-/

namespace Shoes.ShadowTls

open Wire

def tlsHeaderLen : Nat := 5

/-- `TLS_FRAME_MAX_LEN`: the header and the largest payload its length field can give. -/
def tlsFrameMaxLen : Nat := tlsHeaderLen + 65535

def contentTypeApplicationData : UInt8 := 0x17

/-- The HMAC the chains are keyed with: the tag of a message under a key, which has at least the
four bytes a digest keeps. -/
structure Primitives where
  hmacSign : List UInt8 → List UInt8 → List UInt8
  sign_length : ∀ key message, 4 ≤ (hmacSign key message).length

/-- `ShadowTlsHmac`: an HMAC context, as its key and the bytes fed to it so far. -/
structure ShadowTlsHmac where
  key : List UInt8
  fed : List UInt8

namespace ShadowTlsHmac

def update (hmac : ShadowTlsHmac) (data : List UInt8) : ShadowTlsHmac :=
  { hmac with fed := hmac.fed ++ data }

/-- `ShadowTlsHmac::digest`, and `finalized_digest`: the first four bytes of the tag. -/
def digest (prims : Primitives) (hmac : ShadowTlsHmac) : List UInt8 :=
  (prims.hmacSign hmac.key hmac.fed).take 4

@[simp] theorem digest_length (prims : Primitives) (hmac : ShadowTlsHmac) :
    (hmac.digest prims).length = 4 := by
  simp [digest, prims.sign_length]

end ShadowTlsHmac

/-- `zip(key.iter().cycle())` followed by `*byte ^= key`: the data XORed with the key repeated
as often as the data needs. -/
def xorCycle (key data : List UInt8) : List UInt8 :=
  data.mapIdx fun index byte => byte ^^^ key.getD (index % key.length) 0

@[simp] theorem xorCycle_length (key data : List UInt8) : (xorCycle key data).length = data.length :=
  List.length_mapIdx

/-- The check made on a client record in both modes: for application data, the HMAC of
`payload[4..]` under the client chain against `payload[..4]`. On a match, the initial client
data and the client chain after it has taken that data and its own digest. -/
def authenticate (prims : Primitives) (hmacClientData : ShadowTlsHmac) (contentType : UInt8)
    (payload : List UInt8) : Result (Option (List UInt8 × ShadowTlsHmac)) :=
  if contentType = contentTypeApplicationData then do
    let tmpHmac := hmacClientData.update (← slice payload 4 payload.length)
    if tmpHmac.digest prims = (← slice payload 0 4) then do
      let initialClientData ← slice payload 4 payload.length
      let hmacClientData := hmacClientData.update initialClientData
      let hmacClientData := hmacClientData.update (hmacClientData.digest prims)
      .ok (some (initialClientData, hmacClientData))
    else .ok none
  else .ok none

/-- What one client record does: it is passed on (to the handshake server, or to the local TLS
server), or it authenticates the client, with the initial client data and the client chain after
it. -/
inductive ClientRecord
  | relayed (frame rest : List UInt8)
  | authenticated (initialClientData : List UInt8) (hmacClientData : ShadowTlsHmac)
      (rest : List UInt8)

/-- One client record in the relay loop of `setup_remote_handshake`, from the bytes `input` the
client has yet to send. -/
def remoteClientRecord (prims : Primitives) (hmacClientData : ShadowTlsHmac) (input : List UInt8) :
    Result ClientRecord := do
  let (header, input) ← withContext .connectionAborted
    "failed to read TLS header from client during handshake: "
    (StreamReader.readSlice tlsFrameMaxLen tlsHeaderLen input)
  let contentType ← byteAt header 0
  let payloadSize := (u16FromBe [← byteAt header 3, ← byteAt header 4]).toNat
  let (payload, input) ← withContext .connectionAborted
    s!"failed to read TLS payload from client during handshake (size {payloadSize}): "
    (StreamReader.readSlice tlsFrameMaxLen payloadSize input)
  match ← authenticate prims hmacClientData contentType payload with
  | some (initialClientData, hmacClientData) =>
    -- `ShadowTlsStream::new` refuses initial data larger than its read buffer
    if tlsFrameMaxLen < initialClientData.length then
      fail .other "failed to create ShadowTlsStream: initial processed data too large for read buffer"
    else .ok (.authenticated initialClientData hmacClientData input)
  | none => .ok (.relayed (header ++ payload) input)

/-- One client record in the relay loop of `setup_local_handshake`: the same check, with the
reader's errors returned as they are. -/
def localClientRecord (prims : Primitives) (hmacClientData : ShadowTlsHmac) (input : List UInt8) :
    Result ClientRecord := do
  let (header, input) ← StreamReader.readSlice tlsFrameMaxLen 5 input
  let contentType ← byteAt header 0
  let payloadSize := u16FromBe [← byteAt header 3, ← byteAt header 4]
  let (payload, input) ← StreamReader.readSlice tlsFrameMaxLen payloadSize.toNat input
  match ← authenticate prims hmacClientData contentType payload with
  | some (initialClientData, hmacClientData) =>
    if tlsFrameMaxLen < initialClientData.length then
      fail .invalidInput "initial processed data too large for read buffer"
    else .ok (.authenticated initialClientData hmacClientData input)
  | none => .ok (.relayed (header ++ payload) input)

/-- One record from the handshake server in the relay loop of `setup_remote_handshake`: the
frame written to the client, the `ServerRandom` chain after it, and the bytes left. -/
def remoteServerRecord (prims : Primitives) (serverAppDataXor : List UInt8)
    (hmacServerRandom : ShadowTlsHmac) (input : List UInt8) :
    Result (List UInt8 × ShadowTlsHmac × List UInt8) := do
  let (header, input) ← withContext .connectionAborted
    "failed to read TLS header from remote server during handshake: "
    (StreamReader.readSlice tlsFrameMaxLen tlsHeaderLen input)
  let serverPayloadSize := (u16FromBe (← slice header 3 5)).toNat
  let (payload, input) ← withContext .connectionAborted
    s!"failed to read TLS payload from remote server during handshake (size {serverPayloadSize}): "
    (StreamReader.readSlice tlsFrameMaxLen serverPayloadSize input)
  let serverContentType ← byteAt (header ++ payload) 0
  if serverContentType = contentTypeApplicationData then
    if tlsFrameMaxLen - 4 < serverPayloadSize then
      fail .invalidData "server payload too large to modify"
    else
      -- the payload is XORed in place, moved four bytes on, and the digest of the chain over
      -- it fills the four bytes before it
      let masked := xorCycle serverAppDataXor payload
      let hmacServerRandom := hmacServerRandom.update masked
      let updatedPayloadSize := UInt16.ofNat serverPayloadSize + 4
      .ok (header.take 3 ++ u16ToBe updatedPayloadSize ++ hmacServerRandom.digest prims ++ masked,
        hmacServerRandom, input)
  else .ok (header ++ payload, hmacServerRandom, input)

/-- The relay loop of `setup_remote_handshake`: the two chains, the bytes each side has yet to
send, and the bytes written to each so far. -/
structure RemoteRelay where
  hmacServerRandom : ShadowTlsHmac
  hmacClientData : ShadowTlsHmac
  fromServer : List UInt8
  fromClient : List UInt8
  toClient : List UInt8
  toServer : List UInt8

/-- The side whose read the `select!` completes first. -/
inductive Side
  | server
  | client

/-- The `ShadowTlsStream` the handshake ends with: the initial client data, the read and write
chains, and the bytes the client sends after the authenticating record. -/
structure Tunnel where
  initialClientData : List UInt8
  readHmac : ShadowTlsHmac
  writeHmac : ShadowTlsHmac
  unparsed : List UInt8

/-- Where the relay loop is after some records: still relaying, or handed over to the tunnel. -/
inductive RelayResult
  | running (relay : RemoteRelay)
  | tunnel (tunnel : Tunnel)

namespace RemoteRelay

/-- The loop's state after the ServerHello: the chains `initial_hmac || ServerRandom` and
`initial_hmac || ServerRandom || "C"`, and nothing relayed yet. -/
def start (initialHmac : ShadowTlsHmac) (serverRandom fromServer fromClient : List UInt8) :
    RemoteRelay :=
  ⟨initialHmac.update serverRandom, (initialHmac.update serverRandom).update (strBytes "C"),
    fromServer, fromClient, [], []⟩

/-- One pass of the loop, on the side whose read completes. -/
def step (prims : Primitives) (serverAppDataXor : List UInt8) (hmacServerData : ShadowTlsHmac)
    (relay : RemoteRelay) : Side → Result RelayResult
  | .server => do
    let (frame, hmacServerRandom, fromServer) ←
      remoteServerRecord prims serverAppDataXor relay.hmacServerRandom relay.fromServer
    .ok (.running { relay with hmacServerRandom, fromServer, toClient := relay.toClient ++ frame })
  | .client => do
    match ← remoteClientRecord prims relay.hmacClientData relay.fromClient with
    | .relayed frame fromClient =>
      .ok (.running { relay with fromClient, toServer := relay.toServer ++ frame })
    | .authenticated initialClientData hmacClientData rest =>
      .ok (.tunnel ⟨initialClientData, hmacClientData, hmacServerData, rest⟩)

/-- The loop over the order in which the two reads complete. -/
def run (prims : Primitives) (serverAppDataXor : List UInt8) (hmacServerData : ShadowTlsHmac) :
    List Side → RemoteRelay → Result RelayResult
  | [], relay => .ok (.running relay)
  | side :: sides, relay => do
    match ← relay.step prims serverAppDataXor hmacServerData side with
    | .running next => run prims serverAppDataXor hmacServerData sides next
    | .tunnel tunnel => .ok (.tunnel tunnel)

end RemoteRelay

/-! ## Records

What each side sends is a sequence of records; every statement below is about the record at the
front of the bytes a side has yet to send. -/

/-- A TLS record on the wire: content type, legacy version, the payload's length and the
payload. -/
def tlsRecord (contentType major minor : UInt8) (payload : List UInt8) : List UInt8 :=
  [contentType, major, minor] ++ u16ToBe (UInt16.ofNat payload.length) ++ payload

/-- The client chain after it has taken the initial client data and then its own digest. -/
def chainAfter (prims : Primitives) (hmac : ShadowTlsHmac) (data : List UInt8) : ShadowTlsHmac :=
  (hmac.update data).update ((hmac.update data).digest prims)

theorem authenticate_spec (prims : Primitives) (hmac : ShadowTlsHmac) (contentType : UInt8)
    (payload : List UInt8) :
    authenticate prims hmac contentType payload =
      if contentType = contentTypeApplicationData then
        if payload.length < 4 then abort
        else if (hmac.update (payload.drop 4)).digest prims = payload.take 4 then
          .ok (some (payload.drop 4, chainAfter prims hmac (payload.drop 4)))
        else .ok none
      else .ok none := by
  unfold authenticate
  by_cases appData : contentType = contentTypeApplicationData
  · by_cases short : payload.length < 4
    · simp [appData, slice, show ¬4 ≤ payload.length by omega, short]
    · rw [if_pos appData, if_pos appData, if_neg short, slice_of_le (by omega) le_rfl,
        slice_of_le (by omega) (by omega)]
      have rest : (payload.drop 4).take (payload.length - 4) = payload.drop 4 := by simp
      simp only [ok_bind, rest, Nat.sub_zero, List.drop_zero]
      rfl
  · simp [appData]

theorem authenticate_eq_abort_iff (prims : Primitives) (hmac : ShadowTlsHmac) (contentType : UInt8)
    (payload : List UInt8) :
    authenticate prims hmac contentType payload = abort ↔
      contentType = contentTypeApplicationData ∧ payload.length < 4 := by
  rw [authenticate_spec]
  split_ifs <;> simp_all [abort]


theorem lengthField_of_lt {payload : List UInt8} (fits : payload.length < 65536) {high low : UInt8}
    (written : u16ToBe (UInt16.ofNat payload.length) = [high, low]) :
    (u16FromBe [high, low]).toNat = payload.length := by
  rw [← written, u16FromBe_u16ToBe]
  exact UInt16.toNat_ofNat_of_lt' fits

theorem readSlice_tlsRecord (contentType major minor : UInt8) (payload rest : List UInt8)
    (fits : payload.length < 65536) :
    ∃ high low, u16ToBe (UInt16.ofNat payload.length) = [high, low] ∧
      StreamReader.readSlice tlsFrameMaxLen tlsHeaderLen
          (tlsRecord contentType major minor payload ++ rest) =
        .ok ([contentType, major, minor, high, low], payload ++ rest) ∧
      StreamReader.readSlice tlsFrameMaxLen (u16FromBe [high, low]).toNat (payload ++ rest) =
        .ok (payload, rest) := by
  obtain ⟨high, low, written, -⟩ := u16ToBe_pair (UInt16.ofNat payload.length)
  refine ⟨high, low, written, ?_, ?_⟩
  · simp only [tlsRecord, written, List.append_assoc]
    exact @StreamReader.readSlice_append [contentType, major, minor, high, low] _ _ _ rfl
      (by unfold tlsFrameMaxLen tlsHeaderLen; omega)
  · rw [lengthField_of_lt fits written]
    exact StreamReader.readSlice_append _ rfl (by unfold tlsFrameMaxLen tlsHeaderLen; omega)

theorem authenticate_eq_some {prims : Primitives} {hmac : ShadowTlsHmac} {contentType : UInt8}
    {payload data : List UInt8} {chain : ShadowTlsHmac}
    (authenticated : authenticate prims hmac contentType payload = .ok (some (data, chain))) :
    data = payload.drop 4 := by
  rw [authenticate_spec] at authenticated
  split_ifs at authenticated <;> simp_all [abort]

theorem remoteClientRecord_tlsRecord (prims : Primitives) (hmac : ShadowTlsHmac)
    (contentType major minor : UInt8) (payload rest : List UInt8) (fits : payload.length < 65536) :
    remoteClientRecord prims hmac (tlsRecord contentType major minor payload ++ rest) =
      (authenticate prims hmac contentType payload).map fun
        | some (data, chain) => .authenticated data chain rest
        | none => .relayed (tlsRecord contentType major minor payload) rest := by
  obtain ⟨high, low, written, headerRead, payloadRead⟩ :=
    readSlice_tlsRecord contentType major minor payload rest fits
  simp only [remoteClientRecord, headerRead, withContext_ok, ok_bind, byteAt,
    List.getElem?_cons_zero, List.getElem?_cons_succ, payloadRead]
  cases checked : authenticate prims hmac contentType payload with
  | error fault => rfl
  | ok result =>
    rcases result with _ | ⟨data, chain⟩
    · simp [tlsRecord, written, Except.map]
    · have small : ¬tlsFrameMaxLen < data.length := by
        rw [authenticate_eq_some checked, List.length_drop]
        unfold tlsFrameMaxLen tlsHeaderLen
        omega
      simp [small, Except.map]

/-- The bytes begin with a whole record: a header and as many payload bytes as it says. -/
def StartsWithRecord (input : List UInt8) : Prop :=
  ∃ contentType major minor payload rest, payload.length < 65536 ∧
    input = tlsRecord contentType major minor payload ++ rest

/-- The client's next record is application data with fewer than the four bytes of a digest. -/
def ShortApplicationData (input : List UInt8) : Prop :=
  ∃ major minor payload rest, payload.length < 4 ∧
    input = tlsRecord contentTypeApplicationData major minor payload ++ rest

theorem readRecord_cases (input : List UInt8) :
    (∃ err, StreamReader.readSlice tlsFrameMaxLen tlsHeaderLen input = .error (.error err)) ∨
      (∃ contentType major minor high low afterHeader,
        StreamReader.readSlice tlsFrameMaxLen tlsHeaderLen input =
          .ok ([contentType, major, minor, high, low], afterHeader) ∧
        ∃ err, StreamReader.readSlice tlsFrameMaxLen (u16FromBe [high, low]).toNat afterHeader =
          .error (.error err)) ∨
      StartsWithRecord input := by
  rcases StreamReader.readSlice_cases tlsFrameMaxLen tlsHeaderLen input with
    failed | ⟨header, afterHeader, headerRead, headerLength, split⟩
  · exact .inl failed
  match header, headerLength with
  | [contentType, major, minor, high, low], _ =>
    rcases StreamReader.readSlice_cases tlsFrameMaxLen (u16FromBe [high, low]).toNat afterHeader with
      failed | ⟨payload, rest, -, payloadLength, payloadSplit⟩
    · exact .inr (.inl ⟨_, _, _, _, _, _, headerRead, failed⟩)
    · -- the length field spells the payload's length, so the header is the record's own
      have field : u16ToBe (UInt16.ofNat payload.length) = [high, low] := by
        rw [payloadLength, UInt16.ofNat_toNat, u16ToBe_u16FromBe]
      refine .inr (.inr ⟨contentType, major, minor, payload, rest, ?_, ?_⟩)
      · rw [payloadLength]
        exact UInt16.toNat_lt _
      · rw [split, payloadSplit, tlsRecord, field]
        rfl

theorem remoteClientRecord_eq_abort_iff (prims : Primitives) (hmac : ShadowTlsHmac)
    (input : List UInt8) :
    remoteClientRecord prims hmac input = abort ↔ ShortApplicationData input := by
  constructor
  · intro panics
    rcases readRecord_cases input with
      ⟨err, failed⟩ | ⟨contentType, major, minor, high, low, afterHeader, headerRead, err, failed⟩ |
        ⟨contentType, major, minor, payload, rest, fits, rfl⟩
    · simp [remoteClientRecord, failed, fail, abort] at panics
    · simp [remoteClientRecord, headerRead, byteAt, failed, fail, abort] at panics
    · rw [remoteClientRecord_tlsRecord prims hmac contentType major minor payload rest fits]
        at panics
      cases checked : authenticate prims hmac contentType payload with
      | error fault =>
        have isPanic : fault = .panic := by
          simpa [checked, Except.map, abort] using panics
        rw [isPanic] at checked
        obtain ⟨appData, short⟩ :=
          (authenticate_eq_abort_iff prims hmac contentType payload).mp checked
        exact ⟨major, minor, payload, rest, short, by rw [appData]⟩
      | ok result => simp [checked, Except.map, abort] at panics
  · rintro ⟨major, minor, payload, rest, short, rfl⟩
    have panics := (authenticate_eq_abort_iff prims hmac contentTypeApplicationData payload).mpr
      ⟨rfl, short⟩
    rw [remoteClientRecord_tlsRecord prims hmac _ major minor payload rest (by omega), panics]
    rfl

/-- A record from the handshake server: application data goes on XORed with the key stream,
after the digest of the `ServerRandom` chain over it, with the length field four more modulo
2^16; any other record goes on as it came. -/
theorem remoteServerRecord_tlsRecord (prims : Primitives) (serverAppDataXor : List UInt8)
    (hmac : ShadowTlsHmac) (contentType major minor : UInt8) (payload rest : List UInt8)
    (fits : payload.length < 65536) :
    remoteServerRecord prims serverAppDataXor hmac (tlsRecord contentType major minor payload ++ rest) =
      .ok (if contentType = contentTypeApplicationData then
          let masked := xorCycle serverAppDataXor payload
          ([contentType, major, minor] ++ u16ToBe (UInt16.ofNat (payload.length + 4)) ++
            (hmac.update masked).digest prims ++ masked, hmac.update masked, rest)
        else (tlsRecord contentType major minor payload, hmac, rest)) := by
  obtain ⟨high, low, written, headerRead, payloadRead⟩ :=
    readSlice_tlsRecord contentType major minor payload rest fits
  have lengthSlice : slice [contentType, major, minor, high, low] 3 5 = .ok [high, low] := rfl
  simp only [remoteServerRecord, headerRead, withContext_ok, ok_bind, lengthSlice, payloadRead,
    byteAt, List.cons_append, List.getElem?_cons_zero]
  by_cases appData : contentType = contentTypeApplicationData
  · have small : ¬tlsFrameMaxLen - 4 < (u16FromBe [high, low]).toNat := by
      rw [lengthField_of_lt fits written]
      unfold tlsFrameMaxLen tlsHeaderLen
      omega
    have field : UInt16.ofNat payload.length + 4 = UInt16.ofNat (payload.length + 4) := by
      simp [UInt16.ofNat_add]
    rw [if_pos appData, if_neg small, if_pos appData, lengthField_of_lt fits written, field]
    rfl
  · rw [if_neg appData, if_neg appData]
    simp [tlsRecord, written]

theorem remoteServerRecord_ne_abort (prims : Primitives) (serverAppDataXor : List UInt8)
    (hmac : ShadowTlsHmac) (input : List UInt8) :
    remoteServerRecord prims serverAppDataXor hmac input ≠ abort := by
  rcases readRecord_cases input with
    ⟨err, failed⟩ | ⟨contentType, major, minor, high, low, afterHeader, headerRead, err, failed⟩ |
      ⟨contentType, major, minor, payload, rest, fits, rfl⟩
  · simp [remoteServerRecord, failed, fail, abort]
  · have lengthSlice : slice [contentType, major, minor, high, low] 3 5 = .ok [high, low] := rfl
    simp [remoteServerRecord, headerRead, lengthSlice, failed, fail, abort]
  · rw [remoteServerRecord_tlsRecord prims serverAppDataXor hmac contentType major minor payload
      rest fits]
    simp [abort]

namespace RemoteRelay

variable (prims : Primitives) (serverAppDataXor : List UInt8) (hmacServerData : ShadowTlsHmac)

theorem step_eq_abort_iff (relay : RemoteRelay) (side : Side) :
    relay.step prims serverAppDataXor hmacServerData side = abort ↔
      side = .client ∧ ShortApplicationData relay.fromClient := by
  cases side with
  | server =>
    have neverPanics := remoteServerRecord_ne_abort prims serverAppDataXor relay.hmacServerRandom
      relay.fromServer
    simp only [step, reduceCtorEq, false_and, iff_false]
    cases recorded : remoteServerRecord prims serverAppDataXor relay.hmacServerRandom
      relay.fromServer with
    | error fault =>
      rw [recorded] at neverPanics
      simpa [abort] using neverPanics
    | ok result => simp [abort]
  | client =>
    simp only [step, true_and, ← remoteClientRecord_eq_abort_iff prims relay.hmacClientData]
    cases recorded : remoteClientRecord prims relay.hmacClientData relay.fromClient with
    | error fault => simp [abort]
    | ok result => cases result <;> simp [abort]

/-- The loop panics only once it has reached a state in which the client's next record is short
application data. -/
theorem run_eq_abort (sides : List Side) (relay : RemoteRelay)
    (panics : run prims serverAppDataXor hmacServerData sides relay = abort) :
    ∃ done reached, run prims serverAppDataXor hmacServerData done relay = .ok (.running reached) ∧
      ShortApplicationData reached.fromClient := by
  induction sides generalizing relay with
  | nil => simp [run, abort] at panics
  | cons side sides ih =>
    cases stepped : relay.step prims serverAppDataXor hmacServerData side with
    | error fault =>
      have stepPanics : relay.step prims serverAppDataXor hmacServerData side = abort := by
        simp only [run, stepped, error_bind] at panics
        rw [stepped, panics]
      exact ⟨[], relay, rfl, ((step_eq_abort_iff _ _ _ relay side).mp stepPanics).2⟩
    | ok result =>
      cases result with
      | running next =>
        simp only [run, stepped, ok_bind] at panics
        obtain ⟨done, reached, ran, short⟩ := ih next panics
        exact ⟨side :: done, reached, by simp [run, stepped, ran], short⟩
      | tunnel tunnel => simp [run, stepped, abort] at panics

/-- Signatures of four zero bytes, for runs that never check one. -/
def zeroSignatures : Primitives := ⟨fun _ _ => [0, 0, 0, 0], fun _ _ => by simp⟩

/-- A relay whose client has sent a two-byte application-data record. -/
def shortRecordRelay : RemoteRelay :=
  ⟨⟨[], []⟩, ⟨[], []⟩, [], [0x17, 3, 3, 0, 2, 0xaa, 0xbb], [], []⟩

theorem run_eq_abort_sample :
    run zeroSignatures [] ⟨[], []⟩ [.client] shortRecordRelay = abort ∧
      ∃ done reached, run zeroSignatures [] ⟨[], []⟩ done shortRecordRelay = .ok (.running reached) ∧
        ShortApplicationData reached.fromClient := by
  have short : ShortApplicationData shortRecordRelay.fromClient := ⟨3, 3, [0xaa, 0xbb], [], by decide, by decide⟩
  have panics : run zeroSignatures [] ⟨[], []⟩ [.client] shortRecordRelay = abort := by
    simp only [run, (step_eq_abort_iff zeroSignatures [] ⟨[], []⟩ shortRecordRelay .client).mpr ⟨rfl, short⟩,
      abort, error_bind]
  exact ⟨panics, run_eq_abort zeroSignatures [] ⟨[], []⟩ [.client] shortRecordRelay panics⟩

end RemoteRelay

/-- A client application-data record of two payload bytes panics in both modes. -/
theorem short_client_record_panics (prims : Primitives) (hmac : ShadowTlsHmac) :
    remoteClientRecord prims hmac [0x17, 3, 3, 0, 2, 0xaa, 0xbb] = abort ∧
      localClientRecord prims hmac [0x17, 3, 3, 0, 2, 0xaa, 0xbb] = abort := by
  constructor
  · exact (remoteClientRecord_eq_abort_iff prims hmac _).mpr
      ⟨3, 3, [0xaa, 0xbb], [], by decide, by decide⟩
  · have headerRead : StreamReader.readSlice tlsFrameMaxLen 5 [0x17, 3, 3, 0, 2, 0xaa, 0xbb] =
        .ok ([0x17, 3, 3, 0, 2], [0xaa, 0xbb]) := by decide
    have payloadRead : StreamReader.readSlice tlsFrameMaxLen (u16FromBe [0, 2]).toNat
        [0xaa, 0xbb] = .ok ([0xaa, 0xbb], []) := by decide
    have panics := (authenticate_eq_abort_iff prims hmac contentTypeApplicationData [0xaa, 0xbb]).mpr
      ⟨rfl, by decide⟩
    simp only [localClientRecord, headerRead, ok_bind]
    rw [show byteAt [0x17, 3, 3, 0, 2] 0 = .ok 0x17 from rfl,
      show byteAt [0x17, 3, 3, 0, 2] 3 = .ok 0 from rfl,
      show byteAt [0x17, 3, 3, 0, 2] 4 = .ok 2 from rfl]
    simp only [ok_bind, payloadRead]
    rw [show (0x17 : UInt8) = contentTypeApplicationData from rfl, panics]
    rfl

end Shoes.ShadowTls
