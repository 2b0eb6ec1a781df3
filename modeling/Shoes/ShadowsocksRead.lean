import Shoes.ShadowsocksStream
import Shoes.Lib.Residual

/-!
# Reading a Shadowsocks stream

What a reader makes of the bytes it is sent is stated once, without buffers: after the salt and
the fixed header of the 2022 edition, chunks under the key derived from the salt, each a sealed
length and the sealed payload (`openChunks`), up to the first chunk that is not all there or does
not open. What a reader's state and the bytes still to come stand for (`expected`) is kept exact
by every call: the bytes a call hands out followed by what the stream after it stands for are
what the stream before stood for (`pollReadInner_step`). Over any run of `poll_read` and
`poll_read_message` calls the bytes handed out are therefore the front of the decrypted stream,
however the inner stream splits it and whatever room each call has, and all of it once a call is
pending (`pollRead_decrypts`).

The processed buffer holds one longest payload, and a new chunk whose payload does not fit it
would lose its opened length: `try_decrypt` consumes the sealed length before it finds the buffer
full and does not record the length as pending. This never happens: the bytes processed and
buffered never exceed the unprocessed buffer, which holds a longest chunk, and a read of the inner
stream comes only when the processed buffer is empty (`Consistent.held`).
-/

namespace Shoes.Shadowsocks

open Wire Cipher CopyBidirectional

/-- The bytes an inner stream sends before its end: its reads up to the first empty one. -/
def sentBeforeEnd : Incoming → List UInt8
  | [] => []
  | chunk :: rest => if chunk = [] then [] else chunk ++ sentBeforeEnd rest

/-- The payloads of the chunks at the front of `bytes` opened with `aeadKey`, starting from a
payload of length `pending` whose length was opened before: each chunk a sealed two-byte length
and the sealed payload of that length, up to the first chunk that is not all there, whose tag does
not check, or whose length is over `maxPayloadLen`. -/
def openChunks (aead : Aead) (maxPayloadLen : Nat) (aeadKey : AeadKey) (pending : Option Nat)
    (bytes : List UInt8) : List UInt8 :=
  match pending with
  | some len =>
    if bytes.length < len + tagLen then []
    else
      match aeadKey.openInPlace aead (bytes.take (len + tagLen)) with
      | (none, _) => []
      | (some opened, aeadKey) =>
        opened.take len ++ openChunks aead maxPayloadLen aeadKey none (bytes.drop (len + tagLen))
  | none =>
    if bytes.length < 2 + tagLen then []
    else
      match aeadKey.openInPlace aead (bytes.take (2 + tagLen)) with
      | (none, _) => []
      | (some opened, aeadKey) =>
        if maxPayloadLen < beValue (opened.take 2) then []
        else openChunks aead maxPayloadLen aeadKey (some (beValue (opened.take 2))) (bytes.drop (2 + tagLen))
termination_by bytes.length
decreasing_by all_goals simp only [List.length_drop, tagLen] at *; omega

theorem expect_eq_ok {α : Type} {option : Option α} {value : α} (found : expect option = .ok value) :
    option = some value := by
  cases option with
  | none => cases found
  | some found' => cases found; rfl

theorem openChunks_some_short {aead : Aead} {maxPayloadLen len : Nat} {aeadKey : AeadKey}
    {bytes : List UInt8} (short : bytes.length < len + tagLen) :
    openChunks aead maxPayloadLen aeadKey (some len) bytes = [] := by
  conv_lhs => rw [openChunks]
  simp [short]

theorem openChunks_none_short {aead : Aead} {maxPayloadLen : Nat} {aeadKey : AeadKey}
    {bytes : List UInt8} (short : bytes.length < 2 + tagLen) :
    openChunks aead maxPayloadLen aeadKey none bytes = [] := by
  conv_lhs => rw [openChunks]
  simp [short]

theorem openChunks_some_of_open {aead : Aead} {maxPayloadLen len : Nat} {aeadKey : AeadKey}
    {bytes opened : List UInt8} (enough : len + tagLen ≤ bytes.length)
    (opens : aead.openInPlace aeadKey.key aeadKey.nonce [] (bytes.take (len + tagLen)) = some opened) :
    openChunks aead maxPayloadLen aeadKey (some len) bytes =
      opened.take len ++ openChunks aead maxPayloadLen aeadKey.advance none (bytes.drop (len + tagLen)) := by
  conv_lhs => rw [openChunks]
  simp [Nat.not_lt.mpr enough, AeadKey.openInPlace, opens]

theorem openChunks_none_of_open {aead : Aead} {maxPayloadLen : Nat} {aeadKey : AeadKey}
    {bytes opened : List UInt8} (enough : 2 + tagLen ≤ bytes.length)
    (opens : aead.openInPlace aeadKey.key aeadKey.nonce [] (bytes.take (2 + tagLen)) = some opened)
    (fits : beValue (opened.take 2) ≤ maxPayloadLen) :
    openChunks aead maxPayloadLen aeadKey none bytes =
      openChunks aead maxPayloadLen aeadKey.advance (some (beValue (opened.take 2)))
        (bytes.drop (2 + tagLen)) := by
  conv_lhs => rw [openChunks]
  simp [Nat.not_lt.mpr enough, AeadKey.openInPlace, opens, Nat.not_lt.mpr fits]

namespace ShadowsocksStream

/-- What the header at the front of `bytes` gives a new reader: the opening key after it, the
length of the payload it announces, and its own length; `none` when it is not all there or does
not open, or its type or the request salt it echoes is wrong. The timestamp and the salt checker
are left to the call that reads it. -/
def openHeader (aead : Aead) (stream : ShadowsocksStream) (bytes : List UInt8) :
    Option (AeadKey × Option Nat × Nat) :=
  if bytes.length < stream.readHeaderLen then none
  else
    let aeadKey := AeadKey.new (stream.createSessionKey (bytes.take stream.saltLen))
    match stream.streamType with
    | .aead => some (aeadKey, none, stream.saltLen)
    | .aead2022Server =>
      match aeadKey.openInPlace aead ((bytes.drop stream.saltLen).take (11 + tagLen)) with
      | (none, _) => none
      | (some header, aeadKey) =>
        if header.getD 0 0 ≠ 0 then none
        else some (aeadKey, some (beValue ((header.drop 9).take 2)), stream.saltLen + (11 + tagLen))
    | .aead2022Client =>
      match aeadKey.openInPlace aead ((bytes.drop stream.saltLen).take (11 + stream.saltLen + tagLen)) with
      | (none, _) => none
      | (some header, aeadKey) =>
        if header.getD 0 0 ≠ 1 then none
        else if (header.drop 9).take stream.saltLen ≠ stream.encryptIv then none
        else
          some (aeadKey, some (beValue ((header.drop (9 + stream.saltLen)).take 2)),
            stream.saltLen + (11 + stream.saltLen + tagLen))

/-- What a new reader hands out of `bytes`: the payloads after the header. -/
def openStream (aead : Aead) (stream : ShadowsocksStream) (bytes : List UInt8) : List UInt8 :=
  match stream.openHeader aead bytes with
  | none => []
  | some (aeadKey, pending, headerLen) =>
    openChunks aead stream.maxPayloadLen aeadKey pending (bytes.drop headerLen)

/-- What a reader in this state hands out from here on when the inner stream goes on with
`unread`, which it no longer reads once it has seen the end: the processed bytes not read yet,
then what the buffered and unread bytes carry. -/
def expected (aead : Aead) (stream : ShadowsocksStream) (unread : List UInt8) : List UInt8 :=
  let bytes := stream.unprocessed ++ if stream.isEof then [] else unread
  stream.processedBuf.drop stream.processedStartOffset ++
    if stream.isInitialRead then
      if stream.isEof then [] else stream.openStream aead bytes
    else
      match stream.openingKey with
      | none => []
      | some aeadKey => openChunks aead stream.maxPayloadLen aeadKey stream.unprocessedPendingLen bytes

/-- The invariant of the read side. The header fits the unprocessed buffer, which holds the
unprocessed bytes; the processed bytes and the unprocessed ones together never exceed it; the
bytes read out of the processed buffer are within it; and before the header is read nothing is
processed, no key or length is known, and until the end of the stream less than a header is
buffered, from the front of the buffer. -/
structure Consistent (stream : ShadowsocksStream) : Prop where
  header : stream.readHeaderLen ≤ stream.maxPacketLen
  bounded : stream.unprocessedEndOffset ≤ stream.maxPacketLen
  held : stream.processedBuf.length + stream.unprocessed.length ≤ stream.maxPacketLen
  within : stream.processedStartOffset ≤ stream.processedBuf.length
  initial : stream.isInitialRead = true →
    stream.processedBuf = [] ∧ stream.processedStartOffset = 0 ∧ stream.openingKey = none ∧
      stream.unprocessedPendingLen = none
  waiting : stream.isInitialRead = true → stream.isEof = false →
    stream.unprocessedStartOffset = 0 ∧ stream.unprocessed.length < stream.readHeaderLen

/-- Two states of one stream: the same edition, key derivation and salt, so the same lengths and
the same meaning of a header. -/
structure SameConfig (stream next : ShadowsocksStream) : Prop where
  streamType : next.streamType = stream.streamType
  createSessionKey : next.createSessionKey = stream.createSessionKey
  encryptIv : next.encryptIv = stream.encryptIv

theorem resetIfDrained_eq (stream : ShadowsocksStream) :
    stream.resetIfDrained = { stream with
      unprocessedStartOffset := if stream.unprocessed = [] then 0 else stream.unprocessedStartOffset } := by
  unfold resetIfDrained
  split_ifs <;> rfl

theorem SameConfig.refl (stream : ShadowsocksStream) : SameConfig stream stream :=
  ⟨rfl, rfl, rfl⟩

theorem SameConfig.trans {stream middle next : ShadowsocksStream} (first : SameConfig stream middle)
    (second : SameConfig middle next) : SameConfig stream next :=
  ⟨second.streamType.trans first.streamType, second.createSessionKey.trans first.createSessionKey,
    second.encryptIv.trans first.encryptIv⟩

theorem SameConfig.maxPacketLen_eq {stream next : ShadowsocksStream} (same : SameConfig stream next) :
    next.maxPacketLen = stream.maxPacketLen := by
  simp [maxPacketLen, same.streamType]

theorem SameConfig.readHeaderLen_eq {stream next : ShadowsocksStream} (same : SameConfig stream next) :
    next.readHeaderLen = stream.readHeaderLen := by
  simp [readHeaderLen, saltLen, same.streamType, same.encryptIv]

theorem expected_keyed {aead : Aead} {stream : ShadowsocksStream} {aeadKey : AeadKey}
    (started : stream.isInitialRead = false) (keyed : stream.openingKey = some aeadKey)
    (unread : List UInt8) :
    stream.expected aead unread = stream.processedBuf.drop stream.processedStartOffset ++
      openChunks aead stream.maxPayloadLen aeadKey stream.unprocessedPendingLen
        (stream.unprocessed ++ if stream.isEof then [] else unread) := by
  simp [expected, started, keyed]

theorem Consistent.started {stream : ShadowsocksStream} {aeadKey : AeadKey}
    (consistent : Consistent stream) (keyed : stream.openingKey = some aeadKey) :
    stream.isInitialRead = false := by
  cases initial : stream.isInitialRead with
  | false => rfl
  | true => simp [(consistent.initial initial).2.2.1] at keyed

theorem Consistent.ended {stream : ShadowsocksStream} (consistent : Consistent stream) :
    Consistent { stream with isEof := true } :=
  ⟨consistent.header, consistent.bounded, consistent.held, consistent.within, consistent.initial,
    fun _ eof => by cases eof⟩

theorem Consistent.append {stream : ShadowsocksStream} {bytes : List UInt8} (consistent : Consistent stream)
    (empty : stream.processedBuf = [])
    (fits : stream.unprocessedEndOffset + bytes.length ≤ stream.maxPacketLen)
    (short : stream.isInitialRead = true → stream.isEof = false →
      stream.unprocessed.length + bytes.length < stream.readHeaderLen) :
    Consistent { stream with unprocessed := stream.unprocessed ++ bytes } := by
  simp only [unprocessedEndOffset] at fits
  refine ⟨consistent.header, ?_, ?_, consistent.within, consistent.initial, fun initial live => ?_⟩
  · show stream.unprocessedStartOffset + (stream.unprocessed ++ bytes).length ≤ stream.maxPacketLen
    simp only [List.length_append]
    omega
  · show stream.processedBuf.length + (stream.unprocessed ++ bytes).length ≤ stream.maxPacketLen
    simp only [empty, List.length_nil, List.length_append]
    omega
  · refine ⟨(consistent.waiting initial live).1, ?_⟩
    show (stream.unprocessed ++ bytes).length < stream.readHeaderLen
    simpa using short initial live

/-- What a step that decrypts or waits does to a reader: it keeps the invariant, the stream's
configuration and its flags, and what the reader stands for. -/
structure Decrypts (aead : Aead) (stream next : ShadowsocksStream) : Prop where
  consistent : Consistent next
  config : SameConfig stream next
  isEof : next.isEof = stream.isEof
  isInitialRead : next.isInitialRead = stream.isInitialRead
  follows : ∀ unread, next.expected aead unread = stream.expected aead unread

theorem Decrypts.refl {aead : Aead} {stream : ShadowsocksStream} (consistent : Consistent stream) :
    Decrypts aead stream stream :=
  ⟨consistent, SameConfig.refl stream, rfl, rfl, fun _ => rfl⟩

theorem Decrypts.trans {aead : Aead} {stream middle next : ShadowsocksStream}
    (first : Decrypts aead stream middle) (second : Decrypts aead middle next) :
    Decrypts aead stream next :=
  ⟨second.consistent, first.config.trans second.config, second.isEof.trans first.isEof,
    second.isInitialRead.trans first.isInitialRead,
    fun unread => (second.follows unread).trans (first.follows unread)⟩

section Decrypt

variable {aead : Aead} {stream next : ShadowsocksStream}

theorem decryptPayload_eq_ok {len : Nat} {state : DecryptState}
    (decrypted : stream.decryptPayload aead len = .ok (state, next)) :
    ∃ aeadKey opened, stream.openingKey = some aeadKey ∧
      aead.openInPlace aeadKey.key aeadKey.nonce [] (stream.unprocessed.take (len + tagLen)) =
        some opened ∧ state = .success ∧
      next = resetIfDrained ({ stream with
        openingKey := some aeadKey.advance
        processedBuf := stream.processedBuf ++ opened.take len }.consume (len + tagLen)) := by
  unfold decryptPayload at decrypted
  obtain ⟨aeadKey, keyed, opening⟩ := bind_eq_ok decrypted
  cases opens : aead.openInPlace aeadKey.key aeadKey.nonce [] (stream.unprocessed.take (len + tagLen)) with
  | none => simp [AeadKey.openInPlace, opens, fail] at opening
  | some opened =>
    simp only [AeadKey.openInPlace, opens] at opening
    cases opening
    exact ⟨aeadKey, opened, expect_eq_ok keyed, opens, rfl, rfl⟩

theorem decryptPayload_step {len : Nat} {state : DecryptState} (consistent : Consistent stream)
    (idle : stream.unprocessedPendingLen = none) (enough : len + tagLen ≤ stream.unprocessed.length)
    (decrypted : stream.decryptPayload aead len = .ok (state, next)) :
    ∃ aeadKey, stream.openingKey = some aeadKey ∧ state = .success ∧
      next.unprocessed.length < stream.unprocessed.length ∧ Consistent next ∧
      SameConfig stream next ∧ next.isEof = stream.isEof ∧ next.isInitialRead = stream.isInitialRead ∧
      ∀ unread, next.expected aead unread = stream.processedBuf.drop stream.processedStartOffset ++
        openChunks aead stream.maxPayloadLen aeadKey (some len)
          (stream.unprocessed ++ if stream.isEof then [] else unread) := by
  obtain ⟨aeadKey, opened, keyed, opens, rfl, rfl⟩ := decryptPayload_eq_ok decrypted
  have started := consistent.started keyed
  have held := consistent.held
  have bounded := consistent.bounded
  have within := consistent.within
  have header := consistent.header
  refine ⟨aeadKey, keyed, rfl, ?shorter, ?consistent, ?config, ?eof, ?initial, fun unread => ?follows⟩
  case shorter =>
    simp only [resetIfDrained_eq, consume, List.length_drop, tagLen] at enough ⊢
    omega
  case config => simp only [resetIfDrained_eq, consume]; exact ⟨rfl, rfl, rfl⟩
  case eof => simp only [resetIfDrained_eq, consume]
  case initial => simp only [resetIfDrained_eq, consume]
  case consistent =>
    refine ⟨by simpa [readHeaderLen, saltLen, maxPacketLen, resetIfDrained_eq, consume] using header,
      ?_, ?_, ?_, fun initial => by simp [resetIfDrained_eq, consume, started] at initial,
      fun initial => by simp [resetIfDrained_eq, consume, started] at initial⟩
    · simp only [resetIfDrained_eq, consume, unprocessedEndOffset, maxPacketLen] at bounded ⊢
      split <;> simp <;> omega
    · simp only [resetIfDrained_eq, consume, List.length_append, List.length_take, List.length_drop,
        maxPacketLen] at held ⊢
      omega
    · simp only [resetIfDrained_eq, consume, List.length_append]
      omega
  case follows =>
    have whole : len + tagLen ≤ (stream.unprocessed ++ if stream.isEof then [] else unread).length := by
      simp only [List.length_append]
      omega
    have front : (stream.unprocessed ++ if stream.isEof then [] else unread).take (len + tagLen) =
        stream.unprocessed.take (len + tagLen) := List.take_append_of_le_length enough
    rw [openChunks_some_of_open whole (front ▸ opens), List.drop_append_of_le_length enough]
    simp only [expected, resetIfDrained_eq, consume, started, idle, Bool.false_eq_true, if_false,
      List.drop_append_of_le_length within, List.append_assoc, maxPayloadLen]

theorem waiting_of_short {stream : ShadowsocksStream} (started : stream.isInitialRead = false)
    (short : match stream.unprocessedPendingLen with
      | some len => stream.unprocessed.length < len + tagLen
      | none => stream.unprocessed.length < 2 + tagLen) :
    stream.expected aead [] = stream.processedBuf.drop stream.processedStartOffset := by
  cases keyed : stream.openingKey with
  | none => simp [expected, started, keyed]
  | some aeadKey =>
    rw [expected_keyed started keyed]
    cases pending : stream.unprocessedPendingLen with
    | some len =>
      rw [pending] at short
      simp [openChunks_some_short (by simpa using short)]
    | none =>
      rw [pending] at short
      simp [openChunks_none_short (by simpa using short)]

/-- `try_decrypt` keeps the invariant and what the reader stands for. When it needs data the
buffered bytes carry nothing more, and a chunk it decrypts is consumed. A new chunk always fits
the processed buffer: the processed and buffered bytes together never exceed a longest chunk, so
the branch that would drop an opened length is never taken. -/
theorem tryDecrypt_step {state : DecryptState} (consistent : Consistent stream)
    (decrypted : stream.tryDecrypt aead = .ok (state, next)) :
    Decrypts aead stream next ∧
      (state = .needData → next.isInitialRead = false →
        next.expected aead [] = next.processedBuf.drop next.processedStartOffset) ∧
      (state = .success → next.unprocessed.length < stream.unprocessed.length) := by
  unfold tryDecrypt at decrypted
  cases pending : stream.unprocessedPendingLen with
  | some len =>
    simp only [pending] at decrypted
    split at decrypted
    · next short =>
      cases decrypted
      exact ⟨Decrypts.refl consistent, fun _ started => waiting_of_short started (by simpa [pending] using short),
        (by rintro ⟨⟩)⟩
    · next long =>
      split at decrypted
      · cases decrypted
        exact ⟨Decrypts.refl consistent, (by rintro ⟨⟩), (by rintro ⟨⟩)⟩
      · obtain ⟨aeadKey, keyed, rfl, shorter, consistent', same, eof, initial, follows⟩ :=
          decryptPayload_step
            (show Consistent { stream with unprocessedPendingLen := none } from
              ⟨consistent.header, consistent.bounded, consistent.held, consistent.within,
                fun initial => by
                  obtain ⟨empty, front, unkeyed, _⟩ := consistent.initial initial
                  exact ⟨empty, front, unkeyed, rfl⟩,
                consistent.waiting⟩)
            rfl (by simpa using long) decrypted
        have started := consistent.started keyed
        refine ⟨⟨consistent', ⟨same.streamType, same.createSessionKey, same.encryptIv⟩, eof, initial,
          fun unread => ?_⟩, (by rintro ⟨⟩), fun _ => shorter⟩
        rw [follows unread, expected_keyed started keyed, pending]
        rfl
  | none =>
    simp only [pending] at decrypted
    split at decrypted
    · next short =>
      cases decrypted
      exact ⟨Decrypts.refl consistent, fun _ started => waiting_of_short started (by simpa [pending] using short),
        (by rintro ⟨⟩)⟩
    · next long =>
      have long : 2 + tagLen ≤ stream.unprocessed.length := Nat.le_of_not_lt long
      obtain ⟨aeadKey, found, opening⟩ := bind_eq_ok decrypted
      have keyed := expect_eq_ok found
      have started := consistent.started keyed
      cases opens : aead.openInPlace aeadKey.key aeadKey.nonce [] (stream.unprocessed.take (2 + tagLen)) with
      | none => simp [AeadKey.openInPlace, opens, fail] at opening
      | some opened =>
        simp only [AeadKey.openInPlace, opens] at opening
        split at opening
        · simp [fail] at opening
        · next fits =>
          have fits : beValue (opened.take 2) ≤ stream.maxPayloadLen := Nat.le_of_not_lt fits
          -- what the stream stood for, one sealed length further on
          have opened' : ∀ unread, stream.expected aead unread =
              stream.processedBuf.drop stream.processedStartOffset ++
                openChunks aead stream.maxPayloadLen aeadKey.advance (some (beValue (opened.take 2)))
                  (stream.unprocessed.drop (2 + tagLen) ++ if stream.isEof then [] else unread) := by
            intro unread
            have whole : 2 + tagLen ≤ (stream.unprocessed ++ if stream.isEof then [] else unread).length := by
              simp only [List.length_append]
              omega
            have front : (stream.unprocessed ++ if stream.isEof then [] else unread).take (2 + tagLen) =
                stream.unprocessed.take (2 + tagLen) := List.take_append_of_le_length long
            rw [expected_keyed started keyed, pending, openChunks_none_of_open whole (front ▸ opens) fits,
              List.drop_append_of_le_length long]
          have held := consistent.held
          have bounded := consistent.bounded
          have within := consistent.within
          split at opening
          · next incomplete =>
            -- the payload has not all come: its length becomes the pending one
            cases opening
            simp only [consume, List.length_drop] at incomplete
            refine ⟨⟨?_, ?_, by simp [resetIfDrained_eq, consume], by simp [resetIfDrained_eq, consume],
              fun unread => ?_⟩, fun _ _ => ?_, (by rintro ⟨⟩)⟩
            · refine ⟨by simpa [readHeaderLen, saltLen, maxPacketLen, resetIfDrained_eq, consume] using
                consistent.header, ?_, ?_, ?_, fun initial => by simp [resetIfDrained_eq, consume, started] at initial,
                fun initial => by simp [resetIfDrained_eq, consume, started] at initial⟩
              · simp only [resetIfDrained_eq, consume, unprocessedEndOffset, maxPacketLen] at bounded ⊢
                split <;> simp <;> omega
              · simp only [resetIfDrained_eq, consume, List.length_drop, maxPacketLen] at held ⊢
                omega
              · simpa [resetIfDrained_eq, consume] using within
            · simp only [resetIfDrained_eq, consume]
              exact ⟨rfl, rfl, rfl⟩
            · rw [opened' unread]
              simp only [expected, resetIfDrained_eq, consume, started, Bool.false_eq_true, if_false,
                maxPayloadLen]
            · rw [waiting_of_short (by simp [resetIfDrained_eq, consume, started])
                (by simpa [resetIfDrained_eq, consume] using incomplete)]
          · next whole =>
            simp only [consume, List.length_drop, Nat.not_lt] at whole
            split at opening
            · next full =>
              -- a longest chunk is all the unprocessed buffer holds, so its payload fits
              exfalso
              simp only [consume, maxPayloadLen, maxPacketLen, ShadowsocksStreamType.maxPacketLen,
                metadataSize, tagLen] at full held whole fits
              omega
            · next room =>
              obtain ⟨_, keyed', rfl, shorter, consistent', same, eof, initial, follows⟩ :=
                decryptPayload_step
                  (show Consistent
                      ({ stream with openingKey := some aeadKey.advance, unprocessedPendingLen := none }.consume
                        (2 + tagLen)) from
                    ⟨by simpa [readHeaderLen, saltLen, maxPacketLen, consume] using consistent.header,
                      by simp only [consume, unprocessedEndOffset, maxPacketLen, List.length_drop] at bounded ⊢; omega,
                      by simp only [consume, List.length_drop, maxPacketLen] at held ⊢; omega,
                      by simpa [consume] using within,
                      fun initial => by simp [consume, started] at initial,
                      fun initial => by simp [consume, started] at initial⟩)
                  rfl (by simpa [consume] using whole) opening
              simp only [consume, Option.some.injEq] at keyed'
              subst keyed'
              refine ⟨⟨consistent', ⟨same.streamType, same.createSessionKey, same.encryptIv⟩, eof, initial,
                fun unread => ?_⟩, (by rintro ⟨⟩), fun _ => ?_⟩
              · rw [follows unread, opened' unread]
                rfl
              · simp only [consume, List.length_drop] at shorter
                omega

end Decrypt

theorem readIncoming_sent {room : Nat} {incoming rest : Incoming} {bytes : List UInt8}
    (roomy : 0 < room) (read : readIncoming room incoming = some (bytes, rest)) :
    (bytes = [] → sentBeforeEnd incoming = []) ∧
      (bytes ≠ [] → bytes ++ sentBeforeEnd rest = sentBeforeEnd incoming) := by
  cases incoming with
  | nil => cases read
  | cons chunk chunks =>
    simp only [readIncoming] at read
    split at read
    · next cut =>
      -- the read takes part of the chunk and leaves the rest of it
      cases read
      have present : chunk ≠ [] := by rintro rfl; simp at cut
      have left : chunk.drop room ≠ [] := by simpa [List.drop_eq_nil_iff] using cut
      have taken : chunk.take room ≠ [] := by simpa [List.take_eq_nil_iff, Nat.pos_iff_ne_zero.mp roomy] using present
      refine ⟨fun empty => absurd empty taken, fun _ => ?_⟩
      simp [sentBeforeEnd, present, left, ← List.append_assoc]
    · next whole =>
      cases read
      have all : chunk.take room = chunk :=
        List.take_of_length_le (by simp only [List.length_take] at whole; omega)
      rw [all]
      refine ⟨fun empty => by simp [sentBeforeEnd, empty], fun present => ?_⟩
      simp [sentBeforeEnd, present]

theorem expected_append {aead : Aead} {stream : ShadowsocksStream} (live : stream.isEof = false)
    (bytes unread : List UInt8) :
    { stream with unprocessed := stream.unprocessed ++ bytes }.expected aead unread =
      stream.expected aead (bytes ++ unread) := by
  simp only [expected, live, Bool.false_eq_true, if_false, List.append_assoc]
  rfl

theorem expected_of_end {aead : Aead} {stream : ShadowsocksStream} (started : stream.isInitialRead = false)
    (unread : List UInt8) :
    { stream with isEof := true }.expected aead unread = stream.expected aead [] := by
  simp only [expected, started, Bool.false_eq_true, if_false, if_true]
  split <;> simp [maxPayloadLen]

theorem expected_of_isEof {aead : Aead} {stream : ShadowsocksStream} (eof : stream.isEof = true)
    (unread : List UInt8) : stream.expected aead unread = stream.expected aead [] := by
  simp [expected, eof]

/-- The bytes a `poll_read` that does not fail put in the `ReadBuf`. -/
def filled : ReadPoll → List UInt8
  | .ready filled => filled
  | .pending => []

/-- What a call of `poll_read` or `poll_read_message` into `unfilledLen` bytes of room does, in
terms of what the reader stands for: it keeps the invariant, what it puts in the `ReadBuf`
followed by what the stream after stands for is what the stream before stood for, it puts in no
more than the room, and when it is pending or reports the end of the stream everything it stands
for has been handed out. -/
structure ReadStep (aead : Aead) (stream : ShadowsocksStream) (unfilledLen : Nat) (incoming : Incoming)
    (result : ReadPoll × ShadowsocksStream × Incoming) : Prop where
  consistent : Consistent result.2.1
  follows : filled result.1 ++ result.2.1.expected aead (sentBeforeEnd result.2.2) =
    stream.expected aead (sentBeforeEnd incoming)
  fits : (filled result.1).length ≤ unfilledLen
  drained : result.1 = .pending → result.2.1.expected aead (sentBeforeEnd result.2.2) = []
  ended : result.1 = .ready [] → result.2.1.expected aead (sentBeforeEnd result.2.2) = []

theorem ReadStep.stopped {aead : Aead} {stream next : ShadowsocksStream} {unfilledLen : Nat}
    {incoming rest : Incoming} {poll : ReadPoll} (step : ReadStep aead stream unfilledLen incoming (poll, next, rest))
    (stopped : poll = .pending ∨ poll = .ready []) : stream.expected aead (sentBeforeEnd incoming) = [] := by
  have follows := step.follows
  rcases stopped with rfl | rfl
  · simpa [filled, step.drained rfl] using follows.symm
  · simpa [filled, step.ended rfl] using follows.symm

section Call

variable {aead : Aead} {stream next : ShadowsocksStream} {unfilledLen : Nat} {fillBuffer : Bool}

theorem readProcessed_step {bytes : List UInt8} (consistent : Consistent stream)
    (read : stream.readProcessed unfilledLen = .ok (bytes, next)) :
    bytes.length ≤ unfilledLen ∧ Consistent next ∧
      ∀ unread, bytes ++ next.expected aead unread = stream.expected aead unread := by
  have within := consistent.within
  have held := consistent.held
  unfold readProcessed at read
  split at read
  · simp [abort] at read
  · next empty =>
    have keyed : stream.isInitialRead = false := by
      cases initial : stream.isInitialRead with
      | false => rfl
      | true => simp [(consistent.initial initial).1] at empty
    dsimp only at read
    split at read
    · simp [abort] at read
    · split at read
      · next reset =>
        -- the processed bytes are all read: the buffer starts over
        cases read
        have whole : (stream.processedBuf.drop stream.processedStartOffset).take
            (min unfilledLen (stream.processedBuf.length - stream.processedStartOffset)) =
              stream.processedBuf.drop stream.processedStartOffset :=
          List.take_of_length_le (by simp only [List.length_drop]; omega)
        refine ⟨by simp, ⟨consistent.header, consistent.bounded, ?_, by simp,
          fun initial => by simp [keyed] at initial, consistent.waiting⟩, fun unread => ?_⟩
        · show 0 + stream.unprocessed.length ≤ stream.maxPacketLen
          omega
        · simp only [expected, keyed, whole, Bool.false_eq_true, if_false, List.drop_nil, List.nil_append,
            maxPayloadLen]
      · cases read
        refine ⟨by simp, ⟨consistent.header, consistent.bounded, held, ?_,
          fun initial => by simp [keyed] at initial, consistent.waiting⟩, fun unread => ?_⟩
        · show stream.processedStartOffset + _ ≤ stream.processedBuf.length
          omega
        · simp only [expected, keyed, Bool.false_eq_true, if_false, ← List.append_assoc, maxPayloadLen]
          rw [← List.drop_drop, List.take_append_drop]

theorem readProcessed_ne_nil {bytes : List UInt8} (read : stream.readProcessed unfilledLen = .ok (bytes, next)) :
    bytes ≠ [] := by
  unfold readProcessed at read
  split at read
  · simp [abort] at read
  · dsimp only at read
    split at read
    · simp [abort] at read
    · next written =>
      split at read <;> cases read <;>
        exact List.ne_nil_of_length_pos (by simp only [List.length_take, List.length_drop]; omega)

theorem makeRoom_step (consistent : Consistent stream) (made : stream.makeRoom = .ok next) :
    Decrypts aead stream next ∧ next.processedBuf = stream.processedBuf ∧
      next.unprocessedEndOffset < next.maxPacketLen := by
  have bounded := consistent.bounded
  unfold makeRoom at made
  split at made
  · next full =>
    obtain ⟨moved, reset, roomy⟩ := bind_eq_ok made
    unfold resetUnprocessedBufOffset at reset
    split at reset
    · next consumed =>
      cases reset
      split at roomy
      · next fits =>
        cases roomy
        refine ⟨⟨⟨consistent.header, ?_, consistent.held, consistent.within, consistent.initial,
          fun initial live => ?_⟩, ⟨rfl, rfl, rfl⟩, rfl, rfl, fun _ => rfl⟩, rfl, fits⟩
        · show 0 + stream.unprocessed.length ≤ stream.maxPacketLen
          simp only [unprocessedEndOffset] at bounded
          omega
        · exact ⟨rfl, (consistent.waiting initial live).2⟩
      · simp [abort] at roomy
    · simp [abort] at reset
  · next room =>
    cases made
    exact ⟨Decrypts.refl consistent, rfl, by omega⟩

theorem decryptLoop_step (fuel : Nat) (consistent : Consistent stream)
    (looped : stream.decryptLoop aead fillBuffer fuel = some (.ok next)) :
    Decrypts aead stream next ∧
      (next.processedBuf = [] → next.isInitialRead = false → next.expected aead [] = []) := by
  induction fuel generalizing stream with
  | zero => cases looped
  | succ fuel ih =>
    unfold decryptLoop at looped
    cases decrypted : stream.tryDecrypt aead with
    | error fault => simp [decrypted] at looped
    | ok result =>
      obtain ⟨state, middle⟩ := result
      obtain ⟨decrypts, waiting, _⟩ := tryDecrypt_step consistent decrypted
      cases state with
      | needData =>
        simp only [decrypted] at looped
        cases looped
        refine ⟨decrypts, fun empty started => ?_⟩
        rw [waiting rfl started, empty, List.drop_nil]
      | bufferFull =>
        simp only [decrypted] at looped
        split at looped
        · simp [abort] at looped
        · next nonempty =>
          cases looped
          exact ⟨decrypts, fun empty => absurd (by simp [empty]) nonempty⟩
      | success =>
        simp only [decrypted] at looped
        split at looped
        · next stopped =>
          cases looped
          exact ⟨decrypts, fun empty => by simp [empty] at stopped⟩
        · obtain ⟨rest, settled⟩ := ih decrypts.consistent looped
          exact ⟨decrypts.trans rest, settled⟩

theorem decryptPass_step
    (decrypted : (if 0 < stream.unprocessedEndOffset then
        stream.decryptLoop aead fillBuffer (stream.unprocessed.length + 1) else some (.ok stream)) =
      some (.ok next)) (consistent : Consistent stream) :
    Decrypts aead stream next ∧
      (next.processedBuf = [] → next.isInitialRead = false → next.expected aead [] = []) := by
  split at decrypted
  · exact decryptLoop_step _ consistent decrypted
  · next empty =>
    cases decrypted
    refine ⟨Decrypts.refl consistent, fun processed started => ?_⟩
    have nothing : stream.unprocessed = [] := by
      simp only [unprocessedEndOffset] at empty
      exact List.eq_nil_of_length_eq_zero (by omega)
    have short : match stream.unprocessedPendingLen with
        | some len => stream.unprocessed.length < len + tagLen
        | none => stream.unprocessed.length < 2 + tagLen := by
      split <;> simp [nothing, tagLen]
    rw [waiting_of_short started short, processed, List.drop_nil]

/-- The main loop of `poll_read_inner`, entered once the header is read or the end came before it,
keeps the invariant and what the reader stands for, by induction on its passes: each decrypts what
it can, and returns processed bytes, nothing at the end, or pending when the inner stream is;
otherwise it reads after the buffered bytes, which it can since a read comes only when the
processed buffer is empty. -/
theorem readLoop_step (fuel : Nat) {incoming : Incoming} {result : ReadPoll × ShadowsocksStream × Incoming}
    (consistent : Consistent stream) (started : stream.isInitialRead = true → stream.isEof = true)
    (looped : stream.readLoop aead unfilledLen fillBuffer fuel incoming = some (.ok result)) :
    ReadStep aead stream unfilledLen incoming result := by
  induction fuel generalizing stream incoming with
  | zero => cases looped
  | succ fuel ih =>
    unfold readLoop at looped
    dsimp only at looped
    split at looped
    · cases looped
    · cases looped
    · next decrypted decryptedEq =>
      obtain ⟨decrypts, settled⟩ := decryptPass_step decryptedEq consistent
      split at looped
      · cases looped
      · next made madeEq =>
        obtain ⟨roomy, sameProcessed, room⟩ : Decrypts aead decrypted made ∧ _ :=
          makeRoom_step decrypts.consistent madeEq
        have sameMeaning : ∀ unread, made.expected aead unread = stream.expected aead unread :=
          fun unread => (roomy.follows unread).trans (decrypts.follows unread)
        have sameEof : made.isEof = stream.isEof := roomy.isEof.trans decrypts.isEof
        have sameInitial : made.isInitialRead = stream.isInitialRead :=
          roomy.isInitialRead.trans decrypts.isInitialRead
        split at looped
        · -- the processed bytes are handed out
          obtain ⟨⟨bytes, handed⟩, read, made'⟩ := map_eq_ok (Option.some.inj looped)
          cases made'
          obtain ⟨fits, consistent', follows⟩ := readProcessed_step roomy.consistent read
          refine ⟨consistent', by simp only [filled]; rw [follows, sameMeaning], fits, (by rintro ⟨⟩), ?_⟩
          intro handedNothing
          cases handedNothing
          exact absurd rfl (readProcessed_ne_nil read)
        · next nothingProcessed =>
          have empty : made.processedBuf = [] := List.eq_nil_of_length_eq_zero (by omega)
          split at looped
          · next atEnd =>
            -- the end of the stream with nothing processed: what is buffered is short of a chunk
            cases looped
            refine ⟨roomy.consistent, by simp only [filled, List.nil_append]; rw [sameMeaning], by simp [filled],
              (by rintro ⟨⟩), fun _ => ?_⟩
            rw [expected_of_isEof atEnd]
            cases initial : made.isInitialRead with
            | false =>
              rw [roomy.follows]
              exact settled (sameProcessed ▸ empty) (roomy.isInitialRead ▸ initial)
            | true => simp [expected, initial, atEnd, empty]
          · next live =>
            have live : made.isEof = false := by simpa using live
            have begun : made.isInitialRead = false := by
              cases initial : made.isInitialRead with
              | false => rfl
              | true =>
                rw [sameInitial] at initial
                rw [sameEof, started initial] at live
                cases live
            split at looped
            · next none =>
              -- the inner stream is pending: everything it sent is read and decrypted
              cases looped
              have nothing : incoming = [] := readIncoming_eq_none.mp none
              refine ⟨roomy.consistent, by simp only [filled, List.nil_append]; rw [sameMeaning],
                by simp [filled], fun _ => ?_, (by rintro ⟨⟩)⟩
              rw [nothing, sentBeforeEnd, roomy.follows]
              exact settled (sameProcessed ▸ empty) (roomy.isInitialRead ▸ begun)
            · next bytes rest readEq =>
              have roomyRead : 0 < made.maxPacketLen - made.unprocessedEndOffset := by omega
              obtain ⟨atEnd, goesOn⟩ := readIncoming_sent roomyRead readEq
              have taken := readIncoming_length_le readEq
              have bounded := roomy.consistent.bounded
              split at looped
              · next emptyRead =>
                -- a read of nothing is the end of the stream
                have noBytes : bytes = [] := List.isEmpty_iff.mp emptyRead
                have step := ih roomy.consistent.ended
                  (fun _ => rfl) looped
                refine ⟨step.consistent, ?_, step.fits, step.drained, step.ended⟩
                rw [step.follows, expected_of_end begun, ← atEnd noBytes, sameMeaning]
              · next someBytes =>
                have present : bytes ≠ [] := by simpa [List.isEmpty_iff] using someBytes
                have step := ih
                  (show Consistent { made with unprocessed := made.unprocessed ++ bytes } from
                    roomy.consistent.append empty (by omega) (fun initial => by simp [begun] at initial))
                  (fun initial => by simp [begun] at initial) looped
                refine ⟨step.consistent, ?_, step.fits, step.drained, step.ended⟩
                rw [step.follows, expected_append live, goesOn present, sameMeaning]

end Call

theorem checkSalt_eq_ok {stream next : ShadowsocksStream} {now : Nat} (checked : stream.checkSalt now = .ok next) :
    ∃ saltChecker, next = { stream with saltChecker := saltChecker } := by
  unfold checkSalt at checked
  split at checked
  · cases checked
    exact ⟨stream.saltChecker, rfl⟩
  · next checker _ =>
    cases inserting : checker.insertAndCheck now (stream.unprocessed.take stream.saltLen) with
    | mk fresh inserted =>
      cases fresh
      · simp [inserting, fail] at checked
      · simp only [inserting, if_true] at checked
        cases checked
        exact ⟨some inserted, rfl⟩

theorem openHeader_append {aead : Aead} {stream : ShadowsocksStream} {bytes : List UInt8}
    {header : AeadKey × Option Nat × Nat} (opened : stream.openHeader aead bytes = some header)
    (more : List UInt8) : stream.openHeader aead (bytes ++ more) = some header := by
  unfold openHeader at opened ⊢
  split at opened
  · cases opened
  · next long =>
    have within : ∀ start count : Nat, start + count ≤ bytes.length →
        ((bytes ++ more).drop start).take count = (bytes.drop start).take count := by
      intro start count inside
      rw [List.drop_append_of_le_length (by omega), List.take_append_of_le_length (by simp; omega)]
    have salt : (bytes ++ more).take stream.saltLen = bytes.take stream.saltLen :=
      List.take_append_of_le_length (by
        simp only [readHeaderLen] at long
        split at long <;> omega)
    rw [if_neg (by simp only [List.length_append]; omega), salt]
    simp only [readHeaderLen] at long
    split at long
    · next type => simpa [type] using opened
    · next type =>
      rw [within stream.saltLen (11 + tagLen) (by omega)]
      simpa [type] using opened
    · next type =>
      rw [within stream.saltLen (11 + stream.saltLen + tagLen) (by omega)]
      simpa [type] using opened

theorem openStream_short {aead : Aead} {stream : ShadowsocksStream} {bytes : List UInt8}
    (short : bytes.length < stream.readHeaderLen) : stream.openStream aead bytes = [] := by
  simp [openStream, openHeader, short]

/-- What reading the header leaves: the key and pending length it gives, the header consumed,
and all else the reader stands for as it was. -/
structure Headed (stream next : ShadowsocksStream) (aeadKey : AeadKey) (pending : Option Nat)
    (headerLen : Nat) : Prop where
  openingKey : next.openingKey = some aeadKey
  pendingLen : next.unprocessedPendingLen = pending
  unprocessed : next.unprocessed = stream.unprocessed.drop headerLen
  startOffset : next.unprocessedStartOffset ≤ stream.unprocessedStartOffset + headerLen
  processedBuf : next.processedBuf = stream.processedBuf
  processedStartOffset : next.processedStartOffset = stream.processedStartOffset
  isEof : next.isEof = stream.isEof
  isInitialRead : next.isInitialRead = stream.isInitialRead
  config : SameConfig stream next

theorem Headed.of_consume {stream middle : ShadowsocksStream} {aeadKey : AeadKey} {pending : Option Nat}
    {headerLen : Nat} (openingKey : middle.openingKey = some aeadKey)
    (pendingLen : middle.unprocessedPendingLen = pending) (unprocessed : middle.unprocessed = stream.unprocessed)
    (startOffset : middle.unprocessedStartOffset = stream.unprocessedStartOffset)
    (processedBuf : middle.processedBuf = stream.processedBuf)
    (processedStartOffset : middle.processedStartOffset = stream.processedStartOffset)
    (isEof : middle.isEof = stream.isEof) (isInitialRead : middle.isInitialRead = stream.isInitialRead)
    (config : SameConfig stream middle) :
    Headed stream (resetIfDrained (middle.consume headerLen)) aeadKey pending headerLen := by
  refine ⟨?_, ?_, ?_, ?_, ?_, ?_, ?_, ?_, ?_⟩ <;> simp only [resetIfDrained_eq, consume]
  · exact openingKey
  · exact pendingLen
  · rw [unprocessed]
  · split <;> omega
  · exact processedBuf
  · exact processedStartOffset
  · exact isEof
  · exact isInitialRead
  · exact ⟨config.streamType, config.createSessionKey, config.encryptIv⟩

/-- `process_read_header` reads the header `openHeader` describes, in each edition: the salt
check and the timestamp may still refuse it, but when it goes through, the key and the pending
length are the ones the header gives. -/
theorem processReadHeader_headed {aead : Aead} {stream next : ShadowsocksStream} {clock : Clock}
    (enough : stream.readHeaderLen ≤ stream.unprocessed.length) (idle : stream.unprocessedPendingLen = none)
    (processed : stream.processReadHeader aead clock = .ok next) :
    ∃ aeadKey pending, stream.openHeader aead stream.unprocessed =
      some (aeadKey, pending, stream.readHeaderLen) ∧
      Headed stream next aeadKey pending stream.readHeaderLen := by
  unfold processReadHeader at processed
  obtain ⟨middle, arm, rfl⟩ := map_eq_ok processed
  have long : ¬stream.unprocessed.length < stream.readHeaderLen := Nat.not_lt.mpr enough
  cases type : stream.streamType with
  | aead =>
    simp only [type] at arm
    obtain ⟨checked, salted, made⟩ := bind_eq_ok arm
    obtain ⟨saltChecker, rfl⟩ := checkSalt_eq_ok salted
    cases made
    have headerLen : stream.readHeaderLen = stream.saltLen := by simp [readHeaderLen, type]
    rw [headerLen] at long
    refine ⟨stream.openingKeyOf, none, ?_, ?_⟩
    · simp only [openHeader, long, if_false, type, headerLen]
      rfl
    · rw [headerLen]
      exact Headed.of_consume rfl idle rfl rfl rfl rfl rfl rfl ⟨rfl, rfl, rfl⟩
  | aead2022Server =>
    simp only [type] at arm
    unfold processServerHeader at arm
    cases opens : aead.openInPlace stream.openingKeyOf.key stream.openingKeyOf.nonce []
        ((stream.unprocessed.drop stream.saltLen).take (11 + tagLen)) with
    | none => simp [AeadKey.openInPlace, opens, fail] at arm
    | some header =>
      simp only [AeadKey.openInPlace, opens] at arm
      split at arm
      · simp [fail] at arm
      · next headerType =>
        obtain ⟨_, _, checking⟩ := bind_eq_ok arm
        obtain ⟨checked, salted, made⟩ := bind_eq_ok checking
        obtain ⟨saltChecker, rfl⟩ := checkSalt_eq_ok salted
        cases made
        have headerLen : stream.readHeaderLen = stream.saltLen + (11 + tagLen) := by
          simp [readHeaderLen, type]
          omega
        rw [headerLen] at long
        refine ⟨stream.openingKeyOf.advance, some (beValue ((header.drop 9).take 2)), ?_, ?_⟩
        · simp only [openHeader, long, if_false, type, headerLen]
          simp only [openingKeyOf] at opens
          have zero : header[0]?.getD 0 = 0 := by simpa using headerType
          simp [AeadKey.openInPlace, opens, zero, openingKeyOf]
        · rw [headerLen]
          exact Headed.of_consume rfl rfl rfl rfl rfl rfl rfl rfl ⟨rfl, rfl, rfl⟩
  | aead2022Client =>
    simp only [type] at arm
    unfold processClientHeader at arm
    cases opens : aead.openInPlace stream.openingKeyOf.key stream.openingKeyOf.nonce []
        ((stream.unprocessed.drop stream.saltLen).take (11 + stream.saltLen + tagLen)) with
    | none => simp [AeadKey.openInPlace, opens, fail] at arm
    | some header =>
      simp only [AeadKey.openInPlace, opens] at arm
      split at arm
      · simp [fail] at arm
      · next headerType =>
        obtain ⟨_, _, checking⟩ := bind_eq_ok arm
        obtain ⟨checked, salted, made⟩ := bind_eq_ok checking
        obtain ⟨saltChecker, rfl⟩ := checkSalt_eq_ok salted
        split at made
        · simp [fail] at made
        · next echoed =>
          cases made
          have headerLen : stream.readHeaderLen = stream.saltLen + (11 + stream.saltLen + tagLen) := by
            simp [readHeaderLen, type]
            omega
          rw [headerLen] at long
          refine ⟨stream.openingKeyOf.advance, some (beValue ((header.drop (9 + stream.saltLen)).take 2)), ?_, ?_⟩
          · simp only [openHeader, long, if_false, type, headerLen]
            simp only [openingKeyOf] at opens
            have salt : (header.drop 9).take stream.saltLen = stream.encryptIv := by
              simpa [saltLen] using echoed
            have one : header[0]?.getD 0 = 1 := by simpa using headerType
            simp [AeadKey.openInPlace, opens, one, salt, openingKeyOf]
          · rw [headerLen]
            exact Headed.of_consume rfl rfl rfl rfl rfl rfl rfl rfl ⟨rfl, rfl, rfl⟩

/-- What the first read loop of `poll_read_inner` needs before the header is processed: the
whole header buffered, within the buffer, and nothing processed or known yet. -/
structure HeaderBuffered (stream : ShadowsocksStream) : Prop where
  header : stream.readHeaderLen ≤ stream.maxPacketLen
  bounded : stream.unprocessedEndOffset ≤ stream.maxPacketLen
  enough : stream.readHeaderLen ≤ stream.unprocessed.length
  initial : stream.isInitialRead = true
  live : stream.isEof = false
  fresh : stream.processedBuf = [] ∧ stream.processedStartOffset = 0 ∧ stream.openingKey = none ∧
    stream.unprocessedPendingLen = none

theorem processReadHeader_step {aead : Aead} {stream next : ShadowsocksStream} {clock : Clock}
    (buffered : HeaderBuffered stream) (processed : stream.processReadHeader aead clock = .ok next) :
    Consistent { next with isInitialRead := false } ∧
      ∀ unread, { next with isInitialRead := false }.expected aead unread = stream.expected aead unread := by
  obtain ⟨empty, front, _, idle⟩ := buffered.fresh
  obtain ⟨aeadKey, pending, opened, headed⟩ := processReadHeader_headed buffered.enough idle processed
  have enough := buffered.enough
  have bounded := buffered.bounded
  refine ⟨⟨?_, ?_, ?_, ?_, fun initial => by simp at initial, fun initial => by simp at initial⟩,
    fun unread => ?_⟩
  · show next.readHeaderLen ≤ next.maxPacketLen
    rw [headed.config.readHeaderLen_eq, headed.config.maxPacketLen_eq]
    exact buffered.header
  · show next.unprocessedStartOffset + next.unprocessed.length ≤ next.maxPacketLen
    have start := headed.startOffset
    rw [headed.unprocessed, headed.config.maxPacketLen_eq, List.length_drop]
    simp only [unprocessedEndOffset] at bounded
    omega
  · show next.processedBuf.length + next.unprocessed.length ≤ next.maxPacketLen
    rw [headed.processedBuf, empty, headed.unprocessed, headed.config.maxPacketLen_eq, List.length_drop]
    simp only [unprocessedEndOffset] at bounded
    simp only [List.length_nil]
    omega
  · show next.processedStartOffset ≤ next.processedBuf.length
    rw [headed.processedStartOffset, front]
    exact Nat.zero_le _
  · have whole : (stream.unprocessed ++ unread).drop stream.readHeaderLen =
        stream.unprocessed.drop stream.readHeaderLen ++ unread := List.drop_append_of_le_length enough
    simp only [expected, buffered.initial, buffered.live, headed.isEof, headed.openingKey, headed.pendingLen,
      headed.unprocessed, headed.processedBuf, headed.processedStartOffset, empty, front, if_true,
      Bool.false_eq_true, if_false, List.drop_nil, List.nil_append]
    rw [openStream, openHeader_append opened]
    dsimp only
    rw [whole]
    simp only [maxPayloadLen, headed.config.streamType]

section Poll

variable {aead : Aead} {stream : ShadowsocksStream} {unfilledLen : Nat} {fillBuffer : Bool}

theorem expected_initial (initial : stream.isInitialRead = true) (live : stream.isEof = false)
    (empty : stream.processedBuf = []) (unread : List UInt8) :
    stream.expected aead unread = stream.openStream aead (stream.unprocessed ++ unread) := by
  simp [expected, initial, live, empty]

/-- What the first read loop leaves, in terms of what the reader stands for: pending with nothing
to hand out yet, the end of the stream before a whole header with nothing at all, or the whole
header buffered and the same bytes to come. -/
def HeaderOutcome (aead : Aead) (stream : ShadowsocksStream) (incoming : Incoming) : HeaderRead → Prop
  | .pending next rest => Consistent next ∧ rest = [] ∧ next.expected aead [] = [] ∧
      stream.expected aead (sentBeforeEnd incoming) = []
  | .ended next rest => Consistent next ∧ next.expected aead (sentBeforeEnd rest) = [] ∧
      stream.expected aead (sentBeforeEnd incoming) = []
  | .complete next rest => HeaderBuffered next ∧
      next.expected aead (sentBeforeEnd rest) = stream.expected aead (sentBeforeEnd incoming)

theorem HeaderOutcome.of_same {grown : ShadowsocksStream} {incoming rest : Incoming} {outcome : HeaderRead}
    (same : grown.expected aead (sentBeforeEnd rest) = stream.expected aead (sentBeforeEnd incoming))
    (later : HeaderOutcome aead grown rest outcome) : HeaderOutcome aead stream incoming outcome := by
  cases outcome with
  | pending next left =>
    obtain ⟨consistent, drained, nothing, before⟩ := later
    exact ⟨consistent, drained, nothing, same ▸ before⟩
  | ended next left =>
    obtain ⟨consistent, nothing, before⟩ := later
    exact ⟨consistent, nothing, same ▸ before⟩
  | complete next left =>
    obtain ⟨buffered, follows⟩ := later
    exact ⟨buffered, follows.trans same⟩

theorem headerLoop_step (fuel : Nat) {incoming : Incoming} {outcome : HeaderRead}
    (consistent : Consistent stream) (initial : stream.isInitialRead = true) (live : stream.isEof = false)
    (looped : headerLoop fuel stream incoming = some outcome) :
    HeaderOutcome aead stream incoming outcome := by
  induction fuel generalizing stream incoming with
  | zero => cases looped
  | succ fuel ih =>
    obtain ⟨front, short⟩ := consistent.waiting initial live
    obtain ⟨empty, processedFront, _, _⟩ := consistent.initial initial
    have header := consistent.header
    have nothing : stream.expected aead [] = [] := by
      rw [expected_initial initial live empty, List.append_nil, openStream_short short]
    have roomy : 0 < stream.maxPacketLen - stream.unprocessedEndOffset := by
      simp only [unprocessedEndOffset]
      omega
    unfold headerLoop at looped
    split at looped
    · next unread =>
      cases looped
      have drained : incoming = [] := readIncoming_eq_none.mp unread
      subst drained
      exact ⟨consistent, rfl, nothing, nothing⟩
    · next bytes rest read =>
      obtain ⟨atEnd, goesOn⟩ := readIncoming_sent roomy read
      have taken := readIncoming_length_le read
      split at looped
      · next emptyRead =>
        -- the inner stream ended before a whole header
        cases looped
        have noBytes : bytes = [] := List.isEmpty_iff.mp emptyRead
        refine ⟨consistent.ended, by simp [expected, initial, empty], ?_⟩
        rw [atEnd noBytes, nothing]
      · next someBytes =>
        have present : bytes ≠ [] := by simpa [List.isEmpty_iff] using someBytes
        have grownSame : { stream with unprocessed := stream.unprocessed ++ bytes }.expected aead
            (sentBeforeEnd rest) = stream.expected aead (sentBeforeEnd incoming) := by
          rw [expected_append live, goesOn present]
        have fits : stream.unprocessedEndOffset + bytes.length ≤ stream.maxPacketLen := by omega
        have sameHeader : { stream with unprocessed := stream.unprocessed ++ bytes }.readHeaderLen =
            stream.readHeaderLen := SameConfig.readHeaderLen_eq ⟨rfl, rfl, rfl⟩
        dsimp only at looped
        split at looped
        · next whole =>
          -- the whole header is there
          cases looped
          rw [sameHeader] at whole
          simp only [unprocessedEndOffset, front, List.length_append] at whole
          refine ⟨⟨header, ?_, ?_, initial, live, consistent.initial initial⟩, grownSame⟩
          · show stream.unprocessedStartOffset + (stream.unprocessed ++ bytes).length ≤ stream.maxPacketLen
            simp only [unprocessedEndOffset] at fits
            simp only [List.length_append]
            omega
          · show stream.readHeaderLen ≤ (stream.unprocessed ++ bytes).length
            simp only [List.length_append]
            omega
        · next incomplete =>
          rw [sameHeader] at incomplete
          simp only [unprocessedEndOffset, front, List.length_append] at incomplete
          have later := ih
            (show Consistent { stream with unprocessed := stream.unprocessed ++ bytes } from
              consistent.append empty fits (fun _ _ => by omega)) initial live looped
          exact HeaderOutcome.of_same grownSame later

/-- A call of `poll_read` or `poll_read_message` that does not fail is a `ReadStep`: before the
header, the first loop reads it and `process_read_header` takes it off, and then the main loop
decrypts the chunks after it. -/
theorem pollReadInner_step {clock : Clock} {incoming : Incoming}
    {result : ReadPoll × ShadowsocksStream × Incoming} (consistent : Consistent stream)
    (polled : stream.pollReadInner aead clock unfilledLen fillBuffer incoming = some (.ok result)) :
    ReadStep aead stream unfilledLen incoming result := by
  unfold pollReadInner at polled
  split at polled
  · next fresh =>
    simp only [Bool.and_eq_true, Bool.not_eq_eq_eq_not, Bool.not_true] at fresh
    obtain ⟨initial, live⟩ := fresh
    split at polled
    · cases polled
    · next next rest looped =>
      cases polled
      obtain ⟨consistent', drained, nothing, before⟩ : HeaderOutcome aead stream incoming (.pending next rest) :=
        headerLoop_step _ consistent initial live looped
      subst drained
      exact ⟨consistent', by simp only [filled, List.nil_append, sentBeforeEnd]; rw [nothing, before],
        by simp [filled], fun _ => nothing, (by rintro ⟨⟩)⟩
    · next next rest looped =>
      cases polled
      obtain ⟨consistent', nothing, before⟩ : HeaderOutcome aead stream incoming (.ended next rest) :=
        headerLoop_step _ consistent initial live looped
      exact ⟨consistent', by simp only [filled, List.nil_append]; rw [nothing, before], by simp [filled],
        (by rintro ⟨⟩), fun _ => nothing⟩
    · next buffered rest looped =>
      obtain ⟨header, same⟩ : HeaderOutcome aead stream incoming (.complete buffered rest) :=
        headerLoop_step _ consistent initial live looped
      split at polled
      · cases polled
      · next headed processed =>
        obtain ⟨consistent', keeps⟩ := processReadHeader_step header processed
        have step := readLoop_step _ consistent' (by simp) polled
        exact ⟨step.consistent, by rw [step.follows, keeps, same], step.fits, step.drained, step.ended⟩
  · next later =>
    refine readLoop_step _ consistent (fun initial => ?_) polled
    simpa [initial] using later

end Poll

theorem consistent_new (streamType : ShadowsocksStreamType) (encryptIv : List UInt8)
    (createSessionKey : List UInt8 → List UInt8) (saltChecker : Option TimedSaltChecker)
    (salted : 0 < encryptIv.length) (saltBound : encryptIv.length ≤ 32) :
    Consistent (new streamType encryptIv createSessionKey saltChecker) := by
  have header : 0 < (new streamType encryptIv createSessionKey saltChecker).readHeaderLen ∧
      (new streamType encryptIv createSessionKey saltChecker).readHeaderLen ≤
        (new streamType encryptIv createSessionKey saltChecker).maxPacketLen := by
    cases streamType <;>
      simp only [readHeaderLen, maxPacketLen, ShadowsocksStreamType.maxPacketLen,
        ShadowsocksStreamType.maxPayloadLen, metadataSize, tagLen, saltLen, new] <;> omega
  refine ⟨header.2, ?_, ?_, by simp [new], fun _ => ⟨rfl, rfl, rfl, rfl⟩, fun _ _ => ⟨rfl, ?_⟩⟩
  · simp [unprocessedEndOffset, new]
  · simp [new]
  · simpa [new] using header.1

theorem expected_new (streamType : ShadowsocksStreamType) (encryptIv : List UInt8)
    (createSessionKey : List UInt8 → List UInt8) (saltChecker : Option TimedSaltChecker) (aead : Aead)
    (unread : List UInt8) :
    (new streamType encryptIv createSessionKey saltChecker).expected aead unread =
      (new streamType encryptIv createSessionKey saltChecker).openStream aead unread := by
  simp [expected, new]

/-- One call of `poll_read` (`fillBuffer` set) or `poll_read_message`, with the clocks it reads and
the room of its `ReadBuf`: the bytes it puts there, unless it fails. -/
def readCall (aead : Aead) (arg : Clock × Nat × Bool) (state : ShadowsocksStream × Incoming) :
    Option (List UInt8 × (ShadowsocksStream × Incoming)) :=
  match state.1.pollReadInner aead arg.1 arg.2.1 arg.2.2 state.2 with
  | some (.ok (poll, stream, incoming)) => some (filled poll, (stream, incoming))
  | _ => none

/-- The calls `calls`, one after another, up to the first that fails. -/
def readRun (aead : Aead) (calls : List (Clock × Nat × Bool)) (stream : ShadowsocksStream)
    (incoming : Incoming) : List UInt8 × (ShadowsocksStream × Incoming) :=
  Residual.run (readCall aead) calls (stream, incoming)

theorem readCall_faithful (aead : Aead) :
    Residual.Faithful (readCall aead) (fun state => state.1.expected aead (sentBeforeEnd state.2))
      (fun state => Consistent state.1) := by
  constructor
  · intro arg state out next consistent returned
    unfold readCall at returned
    split at returned
    · next poll stream incoming polled =>
      cases returned
      exact (pollReadInner_step consistent polled).consistent
    · cases returned
  · intro arg state out next consistent returned
    unfold readCall at returned
    split at returned
    · next poll stream incoming polled =>
      cases returned
      exact (pollReadInner_step consistent polled).follows
    · cases returned

/-- A reader whose inner stream ends after a sealed length's worth of bytes but before the whole
header reports the end of the stream, and then panics on the next call: the header loop is not
entered again once the end is seen, so the main loop opens the buffered bytes without the opening
key that only the header gives. -/
theorem pollRead_after_short_header_panics (aead : Aead) (streamType : ShadowsocksStreamType)
    (encryptIv : List UInt8) (createSessionKey : List UInt8 → List UInt8) (saltChecker : Option TimedSaltChecker)
    (clock clock' : Clock) (unfilledLen unfilledLen' : Nat) (fillBuffer fillBuffer' : Bool) {bytes : List UInt8}
    (enough : 2 + tagLen ≤ bytes.length)
    (short : bytes.length < (new streamType encryptIv createSessionKey saltChecker).readHeaderLen)
    (header : (new streamType encryptIv createSessionKey saltChecker).readHeaderLen ≤
      (new streamType encryptIv createSessionKey saltChecker).maxPacketLen) :
    ∃ ended, (new streamType encryptIv createSessionKey saltChecker).pollReadInner aead clock unfilledLen fillBuffer
        [bytes, []] = some (.ok (.ready [], ended, [])) ∧
      ended.pollReadInner aead clock' unfilledLen' fillBuffer' [] = some (.error .panic) := by
  set stream := new streamType encryptIv createSessionKey saltChecker
  have emptyEnd : stream.unprocessedEndOffset = 0 := rfl
  have room : bytes.length ≤ stream.maxPacketLen - stream.unprocessedEndOffset := by
    rw [emptyEnd]
    omega
  have firstRead : readIncoming (stream.maxPacketLen - stream.unprocessedEndOffset) [bytes, []] =
      some (bytes, [[]]) := by
    simp [readIncoming, List.take_of_length_le room]
  have secondRead : ∀ room, readIncoming room [[]] = some ([], []) := by
    intro room
    simp [readIncoming]
  -- the reader after the first read: the bytes buffered, still short of the header
  set buffered := { stream with unprocessed := stream.unprocessed ++ bytes }
  have sameHeader : buffered.readHeaderLen = stream.readHeaderLen := SameConfig.readHeaderLen_eq ⟨rfl, rfl, rfl⟩
  have bufferedEnd : buffered.unprocessedEndOffset = bytes.length := by
    simp [buffered, unprocessedEndOffset, stream, new]
  have incomplete : ¬stream.readHeaderLen ≤ buffered.unprocessedEndOffset := by
    rw [bufferedEnd]
    omega
  have nonempty : bytes.isEmpty = false := by
    cases bytes with
    | nil => simp [tagLen] at enough
    | cons byte rest => rfl
  refine ⟨{ buffered with isEof := true }, ?_, ?_⟩
  · -- one read short of the header, then the empty read
    have fuel : readFuel [bytes, []] = (bytes.length + 1) + 1 := by simp [readFuel]
    rw [pollReadInner, if_pos (by simp [stream, new]), fuel, headerLoop, firstRead]
    simp only [nonempty, Bool.false_eq_true, if_false]
    rw [sameHeader, if_neg incomplete, headerLoop, secondRead]
    simp [buffered]
  · -- the salt was never processed: no opening key for the sealed length already buffered
    have available : ¬bytes.length < 2 + tagLen := Nat.not_lt.mpr enough
    have noKey : ({ buffered with isEof := true }).tryDecrypt aead = abort := by
      simp [tryDecrypt, buffered, stream, new, available, expect]
    have fuel : readFuel [] = 1 + 1 := rfl
    have started : 0 < ({ buffered with isEof := true }).unprocessedEndOffset := by
      show 0 < buffered.unprocessedEndOffset
      rw [bufferedEnd]
      omega
    rw [pollReadInner, if_neg (by simp), fuel, readLoop]
    simp only [if_pos started, decryptLoop, noKey, abort]

theorem pollRead_after_short_header_panics_sample :
    2 + tagLen ≤ (List.replicate 18 (0 : UInt8)).length ∧
      (List.replicate 18 (0 : UInt8)).length < (new .aead (List.replicate 32 0) id none).readHeaderLen ∧
      (new .aead (List.replicate 32 0) id none).readHeaderLen ≤ (new .aead (List.replicate 32 0) id none).maxPacketLen ∧
      ∃ ended, (new .aead (List.replicate 32 0) id none).pollReadInner Aead.transparent ⟨0, 0⟩ 0 true
          [List.replicate 18 0, []] = some (.ok (.ready [], ended, [])) ∧
        ended.pollReadInner Aead.transparent ⟨0, 0⟩ 0 true [] = some (.error .panic) :=
  ⟨by decide, by decide, by decide,
    pollRead_after_short_header_panics Aead.transparent .aead (List.replicate 32 0) id none ⟨0, 0⟩ ⟨0, 0⟩ 0 0 true true
      (by decide) (by decide) (by decide)⟩

end ShadowsocksStream

end Shoes.Shadowsocks
