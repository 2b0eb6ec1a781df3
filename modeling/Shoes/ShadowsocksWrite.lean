import Shoes.ShadowsocksRead

/-!
# Writing a Shadowsocks stream

What a writer sends after its header is stated once, without the cache: chunks, each the
payload's length and the payload sealed under the next two nonces (`sealChunks`). A reader with
the same key derivation opens the chunks back to the payloads (`openChunks_sealChunks`).

Every `do_write_cache` moves bytes from the front of the cache to the inner stream, so what the
inner stream has taken followed by what is cached only grows, by a sealed chunk per write
(`Sends`). Over any run of `poll_write`, `poll_write_message` and `poll_flush` calls on a writer
of the `Aead` edition, however the inner stream takes the bytes, a reader makes of them exactly
the bytes the calls reported written (`writeRun_roundTrip`). The fixed headers of the 2022
edition are left to the reader's side (`openHeader`).
-/

namespace Shoes.Shadowsocks

open Wire Cipher CopyBidirectional

/-- A chunk of `payload` sealed with `aeadKey` and the key after it: the sealed length of the
payload, then the sealed payload. -/
def sealChunk (aead : Aead) (aeadKey : AeadKey) (payload : List UInt8) : List UInt8 :=
  (aeadKey.sealInPlace aead (lengthHeader payload.length)).1 ++ (aeadKey.advance.sealInPlace aead payload).1

/-- The chunks of `payloads` sealed one after another from `aeadKey` on. -/
def sealChunks (aead : Aead) (aeadKey : AeadKey) : List (List UInt8) → List UInt8
  | [] => []
  | payload :: payloads => sealChunk aead aeadKey payload ++ sealChunks aead aeadKey.advance.advance payloads

theorem iterate_advance_succ (count : Nat) (aeadKey : AeadKey) :
    AeadKey.advance^[2 * (count + 1)] aeadKey = AeadKey.advance^[2 * count] aeadKey.advance.advance := by
  rw [Nat.mul_succ, Function.iterate_add_apply]
  rfl

theorem sealChunks_append (aead : Aead) (aeadKey : AeadKey) (payloads : List (List UInt8))
    (payload : List UInt8) :
    sealChunks aead aeadKey (payloads ++ [payload]) =
      sealChunks aead aeadKey payloads ++ sealChunk aead (AeadKey.advance^[2 * payloads.length] aeadKey) payload := by
  induction payloads generalizing aeadKey with
  | nil => simp [sealChunks]
  | cons first payloads ih =>
    simp only [List.cons_append, sealChunks, ih, List.length_cons, iterate_advance_succ, List.append_assoc]

theorem iterate_advance_nonce (aeadKey : AeadKey) (count : Nat) :
    (AeadKey.advance^[count] aeadKey).nonce = LittleEndian.increment^[count] aeadKey.nonce := by
  induction count generalizing aeadKey with
  | zero => rfl
  | succ count ih =>
    rw [Function.iterate_succ_apply, Function.iterate_succ_apply, ih]
    rfl

/-- A key from `IncreasingSequence::new` never uses a nonce twice within its first `256 ^ 12`
seals or opens: after `count` of them its nonce is `count` in little-endian bytes. -/
theorem advance_nonce_injective (key : List UInt8) {first second : Nat} (firstBelow : first < 256 ^ nonceLen)
    (secondBelow : second < 256 ^ nonceLen)
    (same : (AeadKey.advance^[first] (AeadKey.new key)).nonce = (AeadKey.advance^[second] (AeadKey.new key)).nonce) :
    first = second := by
  rw [iterate_advance_nonce, iterate_advance_nonce] at same
  exact LittleEndian.iterate_increment_injective firstBelow secondBelow same

theorem advance_nonce_injective_sample :
    1 < 256 ^ nonceLen ∧
      (AeadKey.advance^[1] (AeadKey.new [])).nonce = (AeadKey.advance^[1] (AeadKey.new [])).nonce ∧ 1 = 1 :=
  ⟨by decide, rfl, advance_nonce_injective [] (by decide) (by decide) rfl⟩

theorem beValue_lengthHeader {len : Nat} (small : len < 65536) : beValue (lengthHeader len) = len := by
  have high : (UInt8.ofNat (len >>> 8)).toNat = len / 256 := by
    rw [UInt8.toNat_ofNat', Nat.shiftRight_eq_div_pow]
    omega
  have low : (UInt8.ofNat (len &&& 0xff)).toNat = len % 256 := by
    rw [UInt8.toNat_ofNat', show (0xff : Nat) = 2 ^ 8 - 1 from rfl, Nat.and_two_pow_sub_one_eq_mod]
    omega
  simp only [lengthHeader, beValue, List.length_cons, List.length_nil, high, low]
  omega

section RoundTrip

variable {aead : Aead} {maxPayloadLen : Nat}

theorem openChunks_sealed (tagged : aead.tagLength = tagLen) (aeadKey : AeadKey) (payload rest : List UInt8) :
    openChunks aead maxPayloadLen aeadKey (some payload.length) ((aeadKey.sealInPlace aead payload).1 ++ rest) =
      payload ++ openChunks aead maxPayloadLen aeadKey.advance none rest := by
  have sealedLength : (aeadKey.sealInPlace aead payload).1.length = payload.length + tagLen := by
    simp [AeadKey.sealInPlace, tagged]
  have opens : aead.openInPlace aeadKey.key aeadKey.nonce []
      (((aeadKey.sealInPlace aead payload).1 ++ rest).take (payload.length + tagLen)) =
        some (payload ++ (aead.sealWithTag aeadKey.key aeadKey.nonce [] payload).2) := by
    rw [List.take_left' sealedLength]
    exact aead.openInPlace_sealed _ _ _ payload
  rw [openChunks_some_of_open (by simp only [List.length_append]; omega) opens, List.take_left' rfl,
    List.drop_left' sealedLength]

theorem openChunks_sealChunk (tagged : aead.tagLength = tagLen) (small : maxPayloadLen < 65536)
    (aeadKey : AeadKey) {payload : List UInt8} (fits : payload.length ≤ maxPayloadLen) (rest : List UInt8) :
    openChunks aead maxPayloadLen aeadKey none (sealChunk aead aeadKey payload ++ rest) =
      payload ++ openChunks aead maxPayloadLen aeadKey.advance.advance none rest := by
  have sealedLength : (aeadKey.sealInPlace aead (lengthHeader payload.length)).1.length = 2 + tagLen := by
    simp [AeadKey.sealInPlace, tagged, lengthHeader]
  have opens : aead.openInPlace aeadKey.key aeadKey.nonce []
      ((sealChunk aead aeadKey payload ++ rest).take (2 + tagLen)) =
        some (lengthHeader payload.length ++
          (aead.sealWithTag aeadKey.key aeadKey.nonce [] (lengthHeader payload.length)).2) := by
    rw [sealChunk, List.append_assoc, List.take_left' sealedLength]
    exact aead.openInPlace_sealed _ _ _ _
  have opened : beValue ((lengthHeader payload.length ++
      (aead.sealWithTag aeadKey.key aeadKey.nonce [] (lengthHeader payload.length)).2).take 2) =
        payload.length := by
    rw [List.take_left' (show (lengthHeader payload.length).length = 2 from rfl),
      beValue_lengthHeader (by omega)]
  rw [openChunks_none_of_open (by simp only [sealChunk, List.length_append]; omega) opens (by omega), opened,
    sealChunk, List.append_assoc, List.drop_left' sealedLength, openChunks_sealed tagged]

theorem openChunks_sealChunks (tagged : aead.tagLength = tagLen) (small : maxPayloadLen < 65536)
    (aeadKey : AeadKey) {payloads : List (List UInt8)} (fits : ∀ payload ∈ payloads, payload.length ≤ maxPayloadLen)
    (rest : List UInt8) :
    openChunks aead maxPayloadLen aeadKey none (sealChunks aead aeadKey payloads ++ rest) =
      payloads.flatten ++ openChunks aead maxPayloadLen (AeadKey.advance^[2 * payloads.length] aeadKey) none rest := by
  induction payloads generalizing aeadKey with
  | nil => rfl
  | cons payload payloads ih =>
    rw [sealChunks, List.append_assoc, openChunks_sealChunk tagged small aeadKey (fits payload (by simp)),
      ih _ (fun other member => fits other (by simp [member])), List.length_cons, iterate_advance_succ,
      List.flatten_cons, List.append_assoc]

end RoundTrip

namespace ShadowsocksStream

section Step

variable {aead : Aead} {stream next : ShadowsocksStream}

theorem encryptSingle_chunk {input : List UInt8} (encrypted : stream.encryptSingle aead input true = .ok next) :
    stream.writeCacheEndOffset + (2 + tagLen + input.length + tagLen) ≤ stream.maxPacketLen ∧
      next = { stream with
        sealingKey := stream.sealingKey.advance.advance
        writeCache := stream.writeCache ++ sealChunk aead stream.sealingKey input } := by
  simp only [encryptSingle, if_true] at encrypted
  by_cases full : stream.maxPacketLen < stream.writeCacheEndOffset + (2 + tagLen + input.length + tagLen)
  · rw [if_pos full] at encrypted
    cases encrypted
  · rw [if_neg full] at encrypted
    cases encrypted
    refine ⟨by omega, ?_⟩
    simp [sealChunk, AeadKey.sealInPlace, List.append_assoc]

/-- What `do_write_cache` leaves: the bytes the inner stream took come off the front of the cache,
the cache ends no later than before, and nothing else of the stream changes. -/
structure Flushes (stream next : ShadowsocksStream) (writer after : Writer) : Prop where
  sent : after.accepted ++ next.writeCache = writer.accepted ++ stream.writeCache
  bounded : next.writeCacheEndOffset ≤ stream.writeCacheEndOffset
  shape : ∃ start cache, next = { stream with writeCacheStartOffset := start, writeCache := cache }

theorem Flushes.refl {writer after : Writer} (same : after.accepted = writer.accepted) :
    Flushes stream stream writer after :=
  ⟨by rw [same], le_refl _, _, _, rfl⟩

theorem Flushes.trans {middle : ShadowsocksStream} {writer between after : Writer}
    (first : Flushes stream middle writer between) (second : Flushes middle next between after) :
    Flushes stream next writer after := by
  obtain ⟨start, cache, rfl⟩ := first.shape
  obtain ⟨start', cache', rfl⟩ := second.shape
  exact ⟨second.sent.trans first.sent, second.bounded.trans first.bounded, start', cache', rfl⟩

theorem doWriteCache_flushes (stream : ShadowsocksStream) (writer : Writer) :
    Flushes stream (stream.doWriteCache writer).2.1 writer (stream.doWriteCache writer).2.2 ∧
      ((stream.doWriteCache writer).1 = .ok true →
        (stream.doWriteCache writer).2.1.writeCache = [] ∧ (stream.doWriteCache writer).2.1.writeCacheStartOffset = 0) := by
  induction stream, writer using doWriteCache.induct with
  | case1 stream writer after taken =>
    -- the inner stream took nothing: an error, with the cache as it was
    rw [doWriteCache, taken]
    refine ⟨Flushes.refl ?_, by simp⟩
    simpa using (pollWrite_taken taken).2
  | case2 stream writer written after taken someTaken grown drained =>
    -- the inner stream took the rest of the cache
    have drained : stream.writeCache.drop written = [] := drained
    rw [doWriteCache, taken]
    simp only [someTaken, if_false, drained, if_true]
    obtain ⟨_, accepted⟩ := pollWrite_taken taken
    refine ⟨⟨?_, by simp [writeCacheEndOffset], _, _, rfl⟩, by simp⟩
    rw [← drained, accepted, List.append_assoc, List.take_append_drop]
  | case3 stream writer written after taken someTaken grown left ih =>
    -- the inner stream took a part, and the loop goes on with the rest
    have left : stream.writeCache.drop written ≠ [] := left
    rw [doWriteCache, taken]
    simp only [someTaken, if_false, left]
    obtain ⟨within, accepted⟩ := pollWrite_taken taken
    have moved : Flushes stream grown writer after :=
      ⟨by rw [accepted, List.append_assoc, List.take_append_drop],
        by simp only [grown, writeCacheEndOffset, List.length_drop]; omega, _, _, rfl⟩
    exact ⟨moved.trans ih.1, ih.2⟩
  | case4 stream writer err after failed =>
    rw [doWriteCache, failed]
    refine ⟨Flushes.refl ?_, by simp⟩
    exact pollWrite_untaken failed (by simp)
  | case5 stream writer after pending =>
    rw [doWriteCache, pending]
    refine ⟨Flushes.refl ?_, by simp⟩
    exact pollWrite_untaken pending (by simp)

theorem usizeSub_eq_ok {minuend subtrahend difference : Nat}
    (subtracted : usizeSub minuend subtrahend = .ok difference) :
    subtrahend ≤ minuend ∧ difference = minuend - subtrahend := by
  unfold usizeSub at subtracted
  split at subtracted
  · next le =>
    cases subtracted
    exact ⟨le, rfl⟩
  · cases subtracted

@[simp] theorem sealChunk_length (aead : Aead) (aeadKey : AeadKey) (payload : List UInt8) :
    (sealChunk aead aeadKey payload).length = 2 + aead.tagLength + (payload.length + aead.tagLength) := by
  simp [sealChunk, AeadKey.sealInPlace, lengthHeader]

end Step

/-- The bytes a writer whose header is out has sent and still caches: `header`, then the chunks of
`payloads` sealed from `chunkKey` on, each no longer than a longest payload, with the sealing key
the one after them; and the cache within its buffer, of a stream of the edition `edition`. -/
structure Sends (aead : Aead) (edition : ShadowsocksStreamType) (stream : ShadowsocksStream) (writer : Writer)
    (header : List UInt8) (chunkKey : AeadKey) (payloads : List (List UInt8)) : Prop where
  edition : stream.streamType = edition
  sent : writer.accepted ++ stream.writeCache = header ++ sealChunks aead chunkKey payloads
  sealingKey : stream.sealingKey = AeadKey.advance^[2 * payloads.length] chunkKey
  fits : ∀ payload ∈ payloads, payload.length ≤ stream.maxPayloadLen
  bounded : stream.writeCacheEndOffset ≤ stream.maxPacketLen
  started : stream.isInitialWrite = false

section Sends

variable {aead : Aead} {edition : ShadowsocksStreamType} {stream next : ShadowsocksStream} {writer after : Writer}
  {header : List UInt8} {chunkKey : AeadKey} {payloads : List (List UInt8)}

theorem Sends.flushes (sends : Sends aead edition stream writer header chunkKey payloads)
    (flushes : Flushes stream next writer after) : Sends aead edition next after header chunkKey payloads := by
  obtain ⟨start, cache, rfl⟩ := flushes.shape
  exact ⟨sends.edition, flushes.sent.trans sends.sent, sends.sealingKey, sends.fits, le_trans flushes.bounded sends.bounded,
    sends.started⟩

theorem Sends.encrypt (tagged : aead.tagLength = tagLen) (sends : Sends aead edition stream writer header chunkKey payloads)
    {input : List UInt8} (encrypted : stream.encryptSingle aead input true = .ok next)
    (short : input.length ≤ stream.maxPayloadLen) :
    Sends aead edition next writer header chunkKey (payloads ++ [input]) := by
  obtain ⟨room, rfl⟩ := encryptSingle_chunk encrypted
  refine ⟨sends.edition, ?_, ?_, ?_, ?_, sends.started⟩
  · rw [← List.append_assoc, sends.sent, sealChunks_append, sends.sealingKey, List.append_assoc]
  · rw [List.length_append, List.length_singleton, show 2 * (payloads.length + 1) = 2 + 2 * payloads.length by omega,
      Function.iterate_add_apply, ← sends.sealingKey]
    rfl
  · intro payload member
    rcases List.mem_append.mp member with earlier | last
    · exact sends.fits payload earlier
    · rw [List.mem_singleton.mp last]
      exact short
  · show stream.writeCacheStartOffset + (stream.writeCache ++ sealChunk aead stream.sealingKey input).length ≤
      stream.maxPacketLen
    simp only [writeCacheEndOffset] at room
    simp only [List.length_append, sealChunk_length, tagged]
    omega

theorem writeChunk_sends (tagged : aead.tagLength = tagLen) (sends : Sends aead edition stream writer header chunkKey payloads)
    {buf : List UInt8} {space : Nat} {poll : Poll Nat}
    (written : stream.writeChunk aead writer buf space = .ok (poll, next, after)) :
    poll ≠ .pending ∧
      ∀ count, poll = .ready (.ok count) → Sends aead edition next after header chunkKey (payloads ++ [buf.take count]) := by
  unfold writeChunk at written
  obtain ⟨maxData, _, rest⟩ := bind_eq_ok written
  obtain ⟨sealed, encrypted, rest⟩ := bind_eq_ok rest
  have grown := sends.encrypt tagged encrypted (by simp only [List.length_take]; omega)
  have moved := grown.flushes (doWriteCache_flushes sealed writer).1
  split at rest
  · cases rest
    exact ⟨by rintro ⟨⟩, fun count reported => by cases reported⟩
  · next flushed =>
    cases rest
    refine ⟨by rintro ⟨⟩, fun count reported => ?_⟩
    cases reported
    simpa only [flushed] using moved

theorem pollWrite_sends (tagged : aead.tagLength = tagLen) (sends : Sends aead edition stream writer header chunkKey payloads)
    {buf : List UInt8} {currentTimeSecs : Nat} {poll : Poll Nat}
    (written : stream.pollWrite aead writer buf currentTimeSecs = .ok (poll, next, after)) :
    (poll = .pending → Sends aead edition next after header chunkKey payloads) ∧
      ∀ count, poll = .ready (.ok count) → Sends aead edition next after header chunkKey (payloads ++ [buf.take count]) := by
  unfold pollWrite at written
  rw [if_neg (by simp [sends.started])] at written
  obtain ⟨space, _, rest⟩ := bind_eq_ok written
  split at rest
  · -- no room for a chunk: the cache is written out first
    have moved := sends.flushes (doWriteCache_flushes stream writer).1
    split at rest
    · cases rest
      exact ⟨by rintro ⟨⟩, fun count reported => by cases reported⟩
    · next flushed =>
      cases rest
      exact ⟨fun _ => by simpa only [flushed] using moved, fun count reported => by cases reported⟩
    · next flushed =>
      split at rest
      · have chunk := writeChunk_sends tagged (by simpa only [flushed] using moved) rest
        exact ⟨fun pending => absurd pending chunk.1, chunk.2⟩
      · cases rest
  · have chunk := writeChunk_sends tagged sends rest
    exact ⟨fun pending => absurd pending chunk.1, chunk.2⟩

theorem pollFlush_sends (sends : Sends aead edition stream writer header chunkKey payloads) :
    Sends aead edition (stream.pollFlush writer).2.1 (stream.pollFlush writer).2.2 header chunkKey payloads := by
  unfold pollFlush
  split
  · exact sends.flushes (Flushes.refl rfl)
  · have moved := sends.flushes (doWriteCache_flushes stream writer).1
    split
    · next flushed => simpa only [flushed] using moved
    · next flushed => simpa only [flushed] using moved
    · next flushed =>
      -- the inner stream is flushed after the cache is written out
      rw [flushed] at moved
      exact moved.flushes (Flushes.refl rfl)

theorem pollWriteMessage_sends (tagged : aead.tagLength = tagLen)
    (sends : Sends aead edition stream writer header chunkKey payloads) {buf : List UInt8} {currentTimeSecs : Nat}
    {poll : Poll Unit} (written : stream.pollWriteMessage aead buf currentTimeSecs = .ok (poll, next)) :
    (poll = .pending → Sends aead edition next writer header chunkKey payloads) ∧
      (poll = .ready (.ok ()) → Sends aead edition next writer header chunkKey (payloads ++ [buf])) := by
  unfold pollWriteMessage at written
  rw [if_neg (by simp [sends.started])] at written
  obtain ⟨space, _, rest⟩ := bind_eq_ok written
  dsimp only at rest
  split at rest
  · cases rest
  · next fitting =>
    split at rest
    · cases rest
      exact ⟨fun _ => sends, fun reported => by cases reported⟩
    · obtain ⟨sealed, encrypted, made⟩ := bind_eq_ok rest
      cases made
      have short : buf.length ≤ stream.maxPayloadLen := by
        simp only [maxPacketLen, ShadowsocksStreamType.maxPacketLen, metadataSize, tagLen] at fitting
        simp only [maxPayloadLen]
        omega
      exact ⟨by rintro ⟨⟩, fun _ => sends.encrypt tagged encrypted short⟩

end Sends

/-- A writer before its first write: nothing sent or cached, and the first key derived from its
salt. -/
structure Fresh (stream : ShadowsocksStream) (writer : Writer) : Prop where
  initial : stream.isInitialWrite = true
  accepted : writer.accepted = []
  writeCache : stream.writeCache = []
  startOffset : stream.writeCacheStartOffset = 0
  sealingKey : stream.sealingKey = AeadKey.new (stream.createSessionKey stream.encryptIv)

section First

variable {aead : Aead} {stream next : ShadowsocksStream} {writer after : Writer} {buf : List UInt8}
  {currentTimeSecs : Nat}

theorem processWriteHeader_aead (tagged : aead.tagLength = tagLen) (fresh : Fresh stream writer)
    (edition : stream.streamType = .aead) {handledLen : Nat}
    (processed : stream.processWriteHeader aead buf currentTimeSecs = .ok (handledLen, next)) :
    Sends aead .aead { next with isInitialWrite := false } writer stream.encryptIv stream.sealingKey
      [buf.take handledLen] := by
  unfold processWriteHeader at processed
  split at processed
  · -- the `Aead` arm
    obtain ⟨space, spaceEq, rest⟩ := bind_eq_ok processed
    obtain ⟨room, roomEq, rest⟩ := bind_eq_ok rest
    have spaceIs : space = stream.maxPacketLen - (stream.writeCacheStartOffset + stream.encryptIv.length) :=
      (usizeSub_eq_ok spaceEq).2
    have roomIs := (usizeSub_eq_ok roomEq).2
    dsimp only at rest
    split at rest
    · cases rest
    · obtain ⟨sealed, encrypted, made⟩ := bind_eq_ok rest
      cases made
      obtain ⟨fits, rfl⟩ := encryptSingle_chunk encrypted
      have fits : stream.writeCacheStartOffset + stream.encryptIv.length +
          (2 + tagLen + (buf.take (min buf.length room)).length + tagLen) ≤ stream.maxPacketLen := fits
      have limits : stream.maxPacketLen = 0x3fff + metadataSize ∧ stream.maxPayloadLen = 0x3fff := by
        simp [maxPacketLen, maxPayloadLen, ShadowsocksStreamType.maxPacketLen, ShadowsocksStreamType.maxPayloadLen,
          edition]
      rw [fresh.startOffset] at spaceIs fits
      refine ⟨edition, by simp [fresh.accepted, sealChunks], rfl, ?_, ?_, rfl⟩
      · intro payload member
        rw [List.mem_singleton.mp member, List.length_take]
        show _ ≤ stream.maxPayloadLen
        simp only [metadataSize, tagLen] at limits roomIs
        omega
      · show stream.writeCacheStartOffset +
          (stream.encryptIv ++ sealChunk aead stream.sealingKey (buf.take (min buf.length room))).length ≤
          stream.maxPacketLen
        simp only [List.length_append, sealChunk_length, tagged, fresh.startOffset]
        omega
  · next type => simp [edition] at type
  · next type => simp [edition] at type

theorem pollWrite_first (tagged : aead.tagLength = tagLen) (fresh : Fresh stream writer)
    (edition : stream.streamType = .aead) {poll : Poll Nat}
    (written : stream.pollWrite aead writer buf currentTimeSecs = .ok (poll, next, after)) :
    poll ≠ .pending ∧ ∀ count, poll = .ready (.ok count) →
      Sends aead .aead next after stream.encryptIv stream.sealingKey [buf.take count] := by
  unfold pollWrite at written
  rw [if_pos fresh.initial] at written
  obtain ⟨⟨handledLen, headed⟩, processed, rest⟩ := bind_eq_ok written
  have sends := processWriteHeader_aead tagged fresh edition processed
  dsimp only at rest
  split at rest
  · cases rest
  · have moved := sends.flushes (doWriteCache_flushes { headed with isInitialWrite := false } writer).1
    split at rest
    · cases rest
      exact ⟨by rintro ⟨⟩, fun count reported => by cases reported⟩
    · next flushed =>
      cases rest
      refine ⟨by rintro ⟨⟩, fun count reported => ?_⟩
      cases reported
      simpa only [flushed] using moved

theorem pollWriteMessage_first (tagged : aead.tagLength = tagLen) (fresh : Fresh stream writer)
    (edition : stream.streamType = .aead) {poll : Poll Unit}
    (written : stream.pollWriteMessage aead buf currentTimeSecs = .ok (poll, next)) :
    poll = .ready (.ok ()) ∧ Sends aead .aead next writer stream.encryptIv stream.sealingKey [buf] := by
  unfold pollWriteMessage at written
  rw [if_pos fresh.initial] at written
  obtain ⟨⟨handledLen, headed⟩, processed, rest⟩ := bind_eq_ok written
  have sends := processWriteHeader_aead tagged fresh edition processed
  dsimp only at rest
  split at rest
  · cases rest
  · next whole =>
    cases rest
    have whole : handledLen = buf.length := by simpa using whole
    rw [whole, List.take_length] at sends
    exact ⟨rfl, sends⟩

end First

/-- A call on the write side, with the seconds the clock reads: `poll_write` or
`poll_write_message` of a buffer, or `poll_flush`. -/
inductive WriteCall
  | write (buf : List UInt8) (currentTimeSecs : Nat)
  | writeMessage (buf : List UInt8) (currentTimeSecs : Nat)
  | flush

/-- What a call reports written, and the stream and the inner stream after it; nothing when it
fails. -/
def writeCall (aead : Aead) : WriteCall → ShadowsocksStream × Writer →
    Option (List UInt8 × (ShadowsocksStream × Writer))
  | .write buf currentTimeSecs, (stream, writer) =>
    match stream.pollWrite aead writer buf currentTimeSecs with
    | .ok (.ready (.ok count), stream, writer) => some (buf.take count, (stream, writer))
    | .ok (.pending, stream, writer) => some ([], (stream, writer))
    | _ => none
  | .writeMessage buf currentTimeSecs, (stream, writer) =>
    match stream.pollWriteMessage aead buf currentTimeSecs with
    | .ok (.ready (.ok ()), stream) => some (buf, (stream, writer))
    | .ok (.pending, stream) => some ([], (stream, writer))
    | _ => none
  | .flush, (stream, writer) =>
    match stream.pollFlush writer with
    | (.ready (.error _), _, _) => none
    | (_, stream, writer) => some ([], (stream, writer))

/-- The calls `calls`, one after another, up to the first that fails. -/
def writeRun (aead : Aead) (calls : List WriteCall) (stream : ShadowsocksStream) (writer : Writer) :
    List UInt8 × (ShadowsocksStream × Writer) :=
  Residual.run (writeCall aead) calls (stream, writer)

theorem openStream_salt {aead : Aead} {reader : ShadowsocksStream} (readsAead : reader.streamType = .aead)
    {salt : List UInt8} (sameSalt : reader.saltLen = salt.length) (rest : List UInt8) :
    reader.openStream aead (salt ++ rest) =
      openChunks aead reader.maxPayloadLen (AeadKey.new (reader.createSessionKey salt)) none rest := by
  have long : ¬(salt ++ rest).length < reader.readHeaderLen := by
    simp [readHeaderLen, readsAead, sameSalt]
  unfold openStream openHeader
  rw [if_neg long]
  simp only [readsAead, sameSalt, List.take_left' rfl, List.drop_left' rfl]

/-- What a writer of the `Aead` edition has sent and caches, to a reader of that edition with
the same key derivation and salt length: before the first write nothing, after it the salt and
chunks under the key the reader derives from it. -/
def AeadWrites (aead : Aead) (reader : ShadowsocksStream) (state : ShadowsocksStream × Writer) : Prop :=
  (Fresh state.1 state.2 ∧ state.1.streamType = .aead ∧ reader.createSessionKey = state.1.createSessionKey ∧
      reader.saltLen = state.1.saltLen) ∨
    ∃ salt payloads, Sends aead .aead state.1 state.2 salt (AeadKey.new (reader.createSessionKey salt)) payloads ∧
      reader.saltLen = salt.length

section Run

variable {aead : Aead} {reader : ShadowsocksStream}

theorem Sends.opened (tagged : aead.tagLength = tagLen) (readsAead : reader.streamType = .aead)
    {stream : ShadowsocksStream} {writer : Writer} {salt : List UInt8} {payloads : List (List UInt8)}
    (sends : Sends aead .aead stream writer salt (AeadKey.new (reader.createSessionKey salt)) payloads)
    (sameSalt : reader.saltLen = salt.length) :
    reader.openStream aead (writer.accepted ++ stream.writeCache) = payloads.flatten := by
  have limit : reader.maxPayloadLen = stream.maxPayloadLen := by
    simp [maxPayloadLen, readsAead, sends.edition]
  have small : reader.maxPayloadLen < 65536 := by
    simp [maxPayloadLen, readsAead, ShadowsocksStreamType.maxPayloadLen]
  rw [sends.sent, openStream_salt readsAead sameSalt, ← List.append_nil (sealChunks _ _ _),
    openChunks_sealChunks tagged small _ (fun payload member => limit ▸ sends.fits payload member),
    openChunks_none_short (by simp [tagLen]), List.append_nil]

theorem Fresh.opened (readsAead : reader.streamType = .aead) (salted : 0 < reader.saltLen)
    {stream : ShadowsocksStream} {writer : Writer} (fresh : Fresh stream writer) :
    reader.openStream aead (writer.accepted ++ stream.writeCache) = [] := by
  rw [fresh.accepted, fresh.writeCache]
  exact openStream_short (by simp [readHeaderLen, readsAead]; omega)

theorem Fresh.writes (tagged : aead.tagLength = tagLen) (readsAead : reader.streamType = .aead)
    (salted : 0 < reader.saltLen) {stream next : ShadowsocksStream} {writer after : Writer} {payload : List UInt8}
    (fresh : Fresh stream writer) (sameKey : reader.createSessionKey = stream.createSessionKey)
    (sameSalt : reader.saltLen = stream.saltLen)
    (sends : Sends aead .aead next after stream.encryptIv stream.sealingKey [payload]) :
    AeadWrites aead reader (next, after) ∧
      reader.openStream aead (after.accepted ++ next.writeCache) =
        reader.openStream aead (writer.accepted ++ stream.writeCache) ++ payload := by
  have before : reader.openStream aead (writer.accepted ++ stream.writeCache) = [] :=
    fresh.opened readsAead salted
  have key : stream.sealingKey = AeadKey.new (reader.createSessionKey stream.encryptIv) := by
    rw [fresh.sealingKey, sameKey]
  have saltLength : reader.saltLen = stream.encryptIv.length := sameSalt
  rw [key] at sends
  refine ⟨.inr ⟨_, _, sends, saltLength⟩, ?_⟩
  rw [before, sends.opened tagged readsAead saltLength]
  simp

theorem Sends.writes (tagged : aead.tagLength = tagLen) (readsAead : reader.streamType = .aead)
    {stream next : ShadowsocksStream} {writer after : Writer} {salt : List UInt8}
    {payloads grownPayloads more : List (List UInt8)}
    (sends : Sends aead .aead stream writer salt (AeadKey.new (reader.createSessionKey salt)) payloads)
    (grown : Sends aead .aead next after salt (AeadKey.new (reader.createSessionKey salt)) grownPayloads)
    (extended : grownPayloads = payloads ++ more) (sameSalt : reader.saltLen = salt.length) :
    AeadWrites aead reader (next, after) ∧
      reader.openStream aead (after.accepted ++ next.writeCache) =
        reader.openStream aead (writer.accepted ++ stream.writeCache) ++ more.flatten := by
  refine ⟨.inr ⟨_, _, grown, sameSalt⟩, ?_⟩
  rw [sends.opened tagged readsAead sameSalt, grown.opened tagged readsAead sameSalt, extended,
    List.flatten_append]

theorem pollFlush_idle {stream : ShadowsocksStream} {writer : Writer} (idle : stream.writeCacheEndOffset = 0) :
    (stream.pollFlush writer).2.1 = stream ∧ (stream.pollFlush writer).2.2.accepted = writer.accepted := by
  unfold pollFlush
  rw [if_pos idle]
  exact ⟨rfl, rfl⟩

theorem writeCall_step (tagged : aead.tagLength = tagLen) (readsAead : reader.streamType = .aead)
    (salted : 0 < reader.saltLen) {call : WriteCall} {state next : ShadowsocksStream × Writer} {out : List UInt8}
    (writes : AeadWrites aead reader state) (returned : writeCall aead call state = some (out, next)) :
    AeadWrites aead reader next ∧
      reader.openStream aead (next.2.accepted ++ next.1.writeCache) =
        reader.openStream aead (state.2.accepted ++ state.1.writeCache) ++ out := by
  obtain ⟨stream, writer⟩ := state
  rcases writes with ⟨fresh, edition, sameKey, sameSalt⟩ | ⟨salt, payloads, sends, sameSalt⟩
  · -- before the first write
    dsimp only at fresh edition sameKey sameSalt
    cases call with
    | write buf currentTimeSecs =>
      simp only [writeCall] at returned
      split at returned
      · next count written' writer' written =>
        cases returned
        exact fresh.writes tagged readsAead salted sameKey sameSalt
          ((pollWrite_first tagged fresh edition written).2 count rfl)
      · next written' writer' written =>
        exact absurd rfl (pollWrite_first tagged fresh edition written).1
      · cases returned
    | writeMessage buf currentTimeSecs =>
      simp only [writeCall] at returned
      split at returned
      · next written' written =>
        cases returned
        exact fresh.writes tagged readsAead salted sameKey sameSalt
          (pollWriteMessage_first tagged fresh edition written).2
      · next written' written =>
        cases (pollWriteMessage_first tagged fresh edition written).1
      · cases returned
    | flush =>
      simp only [writeCall] at returned
      have idle : stream.writeCacheEndOffset = 0 := by
        simp [writeCacheEndOffset, fresh.startOffset, fresh.writeCache]
      obtain ⟨same, accepted⟩ :
          (stream.pollFlush writer).2.1 = stream ∧ (stream.pollFlush writer).2.2.accepted = writer.accepted :=
        pollFlush_idle idle
      split at returned
      · cases returned
      · next reply flushed' writer' _ flushed =>
        cases returned
        rw [flushed] at same accepted
        dsimp only at same accepted
        rw [same]
        refine ⟨.inl ⟨⟨fresh.initial, accepted.trans fresh.accepted, fresh.writeCache, fresh.startOffset,
          fresh.sealingKey⟩, edition, sameKey, sameSalt⟩, ?_⟩
        dsimp only
        rw [accepted, List.append_nil]
  · -- after the first write
    dsimp only at sends
    cases call with
    | write buf currentTimeSecs =>
      simp only [writeCall] at returned
      split at returned
      · next count written' writer' written =>
        cases returned
        have grown := (pollWrite_sends tagged sends written).2 count rfl
        simpa only [List.flatten_singleton] using sends.writes tagged readsAead grown rfl sameSalt
      · next written' writer' written =>
        cases returned
        have kept := (pollWrite_sends tagged sends written).1 rfl
        exact sends.writes tagged readsAead kept (List.append_nil payloads).symm sameSalt
      · cases returned
    | writeMessage buf currentTimeSecs =>
      simp only [writeCall] at returned
      split at returned
      · next written' written =>
        cases returned
        have grown := (pollWriteMessage_sends tagged sends written).2 rfl
        simpa only [List.flatten_singleton] using sends.writes tagged readsAead grown rfl sameSalt
      · next written' written =>
        cases returned
        have kept := (pollWriteMessage_sends tagged sends written).1 rfl
        exact sends.writes tagged readsAead kept (List.append_nil payloads).symm sameSalt
      · cases returned
    | flush =>
      simp only [writeCall] at returned
      have kept : Sends aead .aead (stream.pollFlush writer).2.1 (stream.pollFlush writer).2.2 salt
          (AeadKey.new (reader.createSessionKey salt)) payloads := pollFlush_sends sends
      split at returned
      · cases returned
      · next reply flushed' writer' _ flushed =>
        cases returned
        rw [flushed] at kept
        exact sends.writes tagged readsAead kept (List.append_nil payloads).symm sameSalt

theorem writeCall_appends (tagged : aead.tagLength = tagLen) (readsAead : reader.streamType = .aead)
    (salted : 0 < reader.saltLen) :
    Residual.Appends (writeCall aead)
      (fun state => reader.openStream aead (state.2.accepted ++ state.1.writeCache)) (AeadWrites aead reader) :=
  ⟨fun writes returned => (writeCall_step tagged readsAead salted writes returned).1,
    fun writes returned => (writeCall_step tagged readsAead salted writes returned).2⟩

end Run

/-- Whatever the caller writes, as bytes or as messages, and flushes, and however the inner stream
takes the bytes, what a new writer of the `Aead` edition has sent followed by what it still caches
is, to a reader of that edition with the same key derivation and salt length, exactly the bytes
its calls reported written, in order. -/
theorem writeRun_roundTrip (aead : Aead) (tagged : aead.tagLength = tagLen) {stream : ShadowsocksStream}
    {writer : Writer} (fresh : Fresh stream writer) (edition : stream.streamType = .aead)
    {reader : ShadowsocksStream} (readsAead : reader.streamType = .aead)
    (sameKey : reader.createSessionKey = stream.createSessionKey) (sameSalt : reader.saltLen = stream.saltLen)
    (salted : 0 < stream.saltLen) (calls : List WriteCall) :
    reader.openStream aead ((writeRun aead calls stream writer).2.2.accepted ++
      (writeRun aead calls stream writer).2.1.writeCache) = (writeRun aead calls stream writer).1 := by
  have readerSalted : 0 < reader.saltLen := sameSalt ▸ salted
  have start : AeadWrites aead reader (stream, writer) := .inl ⟨fresh, edition, sameKey, sameSalt⟩
  have before : reader.openStream aead (writer.accepted ++ stream.writeCache) = [] :=
    fresh.opened readsAead readerSalted
  have run := (Residual.run_appends (writeCall_appends tagged readsAead readerSalted) calls start).2
  dsimp only at run
  rw [before, List.nil_append] at run
  exact run

theorem writeRun_roundTrip_sample :
    Aead.keyedXor.tagLength = tagLen ∧ Fresh (new .aead [1] id none) ⟨[], [], [], []⟩ ∧
      (new .aead [1] id none).streamType = .aead ∧ (new .aead [2] id none).streamType = .aead ∧
      (new .aead [2] id none).createSessionKey = (new .aead [1] id none).createSessionKey ∧
      (new .aead [2] id none).saltLen = (new .aead [1] id none).saltLen ∧ 0 < (new .aead [1] id none).saltLen ∧
      (new .aead [2] id none).openStream Aead.keyedXor
          ((writeRun Aead.keyedXor [.write [7] 0, .writeMessage [8, 9] 0, .flush] (new .aead [1] id none) ⟨[], [], [], []⟩).2.2.accepted ++
            (writeRun Aead.keyedXor [.write [7] 0, .writeMessage [8, 9] 0, .flush] (new .aead [1] id none) ⟨[], [], [], []⟩).2.1.writeCache) =
        (writeRun Aead.keyedXor [.write [7] 0, .writeMessage [8, 9] 0, .flush] (new .aead [1] id none) ⟨[], [], [], []⟩).1 :=
  ⟨rfl, ⟨rfl, rfl, rfl, rfl, rfl⟩, rfl, rfl, rfl, rfl, by decide,
    writeRun_roundTrip Aead.keyedXor rfl ⟨rfl, rfl, rfl, rfl, rfl⟩ rfl rfl rfl rfl (by decide) _⟩

end ShadowsocksStream

end Shoes.Shadowsocks
