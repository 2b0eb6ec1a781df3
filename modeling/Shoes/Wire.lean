import Mathlib

/-!
# Bytes on the wire

The byte-level vocabulary shared by the protocol models: how a Rust function stops early
(an `std::io::Error` returned through `?`, or a panic), big-endian words, the cursor
operations of a byte buffer that consume from the front and panic when too few bytes
remain, bounds-checked slicing, and the UTF-8 bytes of a string.

Buffers are `List UInt8` rather than arrays: the proofs take them apart at the front.
-/

namespace Wire

/-- The `std::io::ErrorKind`s raised by the modelled code. -/
inductive ErrorKind
  | invalidData | invalidInput | unexpectedEof | unsupported | connectionReset | connectionAborted
  | notConnected | notFound | permissionDenied | brokenPipe | writeZero | other
  deriving DecidableEq, Repr

/-- An `std::io::Error`: its kind and its message. -/
structure IoError where
  kind : ErrorKind
  message : String
  deriving DecidableEq, Repr

/-- How a Rust computation stops without a value: an error it returns, or a panic. -/
inductive Fault
  | error (err : IoError)
  | panic
  deriving DecidableEq, Repr

/-- A Rust computation that returns a value, an error, or panics. -/
abbrev Result (α : Type) := Except Fault α

def fail (kind : ErrorKind) (message : String) : Result α :=
  .error (.error ⟨kind, message⟩)

/-- A panic: an out-of-range index or slice, an `unwrap` of `None`, a failed `assert!`. -/
def abort : Result α :=
  .error .panic

@[simp] theorem ok_bind {α β : Type} (value : α) (next : α → Result β) :
    (Except.ok value : Result α) >>= next = next value :=
  rfl

@[simp] theorem error_bind {α β : Type} (fault : Fault) (next : α → Result β) :
    (Except.error fault : Result α) >>= next = .error fault :=
  rfl

@[simp] theorem abort_bind {α β : Type} (next : α → Result β) :
    (abort : Result α) >>= next = abort :=
  rfl

@[simp] theorem fail_bind {α β : Type} (kind : ErrorKind) (message : String) (next : α → Result β) :
    (fail kind message : Result α) >>= next = fail kind message :=
  rfl

@[simp] theorem pure_eq_ok {α : Type} (value : α) : (pure value : Result α) = .ok value :=
  rfl

@[simp] theorem fail_ne_ok {α : Type} (kind : ErrorKind) (message : String) (value : α) :
    fail kind message ≠ .ok value := by
  simp [fail]

@[simp] theorem abort_ne_ok {α : Type} (value : α) : (abort : Result α) ≠ .ok value := by
  simp [abort]

/-- `usize` subtraction, which panics (`attempt to subtract with overflow`) when the result would
be negative, as a build with overflow checks has it. -/
def usizeSub (minuend subtrahend : Nat) : Result Nat :=
  if subtrahend ≤ minuend then .ok (minuend - subtrahend) else abort

@[simp] theorem usizeSub_of_le {minuend subtrahend : Nat} (le : subtrahend ≤ minuend) :
    usizeSub minuend subtrahend = .ok (minuend - subtrahend) :=
  if_pos le

@[simp] theorem usizeSub_of_lt {minuend subtrahend : Nat} (lt : minuend < subtrahend) :
    usizeSub minuend subtrahend = abort :=
  if_neg (Nat.not_le.mpr lt)

/-- `usize` remainder, which panics (`attempt to calculate the remainder with a divisor of
zero`) on a zero divisor. -/
def usizeRem (dividend divisor : Nat) : Result Nat :=
  if divisor = 0 then abort else .ok (dividend % divisor)

@[simp] theorem usizeRem_of_pos {dividend divisor : Nat} (positive : 0 < divisor) :
    usizeRem dividend divisor = .ok (dividend % divisor) :=
  if_neg (Nat.pos_iff_ne_zero.mp positive)

/-- `Option::expect`: the value, or a panic. -/
def expect {α : Type} : Option α → Result α
  | some value => .ok value
  | none => abort

@[simp] theorem expect_some {α : Type} (value : α) : expect (some value) = .ok value :=
  rfl

/-- An `std::io::Result` passed on with `?`. -/
def liftIo {α : Type} : Except IoError α → Result α
  | .ok value => .ok value
  | .error err => .error (.error err)

@[simp] theorem liftIo_ok {α : Type} (value : α) : liftIo (.ok value : Except IoError α) = .ok value :=
  rfl

theorem bind_eq_ok {ε α β : Type} {first : Except ε α} {next : α → Except ε β} {result : β}
    (bound : first >>= next = .ok result) :
    ∃ value, first = .ok value ∧ next value = .ok result := by
  cases first with
  | error fault => cases bound
  | ok value => exact ⟨value, rfl, bound⟩

theorem map_eq_ok {ε α β : Type} {f : α → β} {x : Except ε α} {y : β} (mapped : x.map f = .ok y) :
    ∃ value, x = .ok value ∧ f value = y := by
  cases x with
  | error err => cases mapped
  | ok value => exact ⟨value, rfl, by simpa [Except.map] using mapped⟩

/-- `map_err(|e| io::Error::new(kind, format!("{context}{e}")))`: an error is replaced by one
of `kind` whose message is the context followed by the error's own; a panic stays a panic. -/
def withContext {α : Type} (kind : ErrorKind) (context : String) : Result α → Result α
  | .error (.error err) => fail kind (context ++ err.message)
  | other => other

@[simp] theorem withContext_ok {α : Type} (kind : ErrorKind) (context : String) (value : α) :
    withContext kind context (.ok value) = .ok value :=
  rfl

@[simp] theorem withContext_abort {α : Type} (kind : ErrorKind) (context : String) :
    withContext kind context (abort : Result α) = abort :=
  rfl

@[simp] theorem withContext_fail {α : Type} (kind : ErrorKind) (context : String) (err : IoError) :
    withContext kind context (.error (.error err) : Result α) = fail kind (context ++ err.message) :=
  rfl

/-- The number that big-endian bytes spell, most significant byte first. -/
def beValue : List UInt8 → Nat
  | [] => 0
  | byte :: rest => byte.toNat * 256 ^ rest.length + beValue rest

/-- The low `width` bytes of a number, most significant first (`to_be_bytes`). -/
def beBytes : Nat → Nat → List UInt8
  | 0, _ => []
  | width + 1, value => UInt8.ofNat (value / 256 ^ width) :: beBytes width value

@[simp] theorem beBytes_length (width value : Nat) : (beBytes width value).length = width := by
  induction width with
  | zero => rfl
  | succ width ih => simp [beBytes, ih]

theorem beValue_lt (bytes : List UInt8) : beValue bytes < 256 ^ bytes.length := by
  induction bytes with
  | nil => simp [beValue]
  | cons byte rest ih =>
    have byteBound : byte.toNat < 256 := byte.toNat_lt
    have step : byte.toNat * 256 ^ rest.length + beValue rest < (byte.toNat + 1) * 256 ^ rest.length := by
      rw [Nat.succ_mul]
      omega
    calc beValue (byte :: rest) < (byte.toNat + 1) * 256 ^ rest.length := step
      _ ≤ 256 * 256 ^ rest.length := Nat.mul_le_mul_right _ byteBound
      _ = 256 ^ (byte :: rest).length := by rw [List.length_cons, Nat.pow_succ, Nat.mul_comm]

theorem beValue_beBytes (width value : Nat) : beValue (beBytes width value) = value % 256 ^ width := by
  induction width with
  | zero => simp [beBytes, beValue, Nat.mod_one]
  | succ width ih =>
    have top : (UInt8.ofNat (value / 256 ^ width)).toNat = value / 256 ^ width % 256 := by
      simp
    rw [beBytes, beValue, beBytes_length, ih, top, Nat.pow_succ, Nat.mod_mul]
    rw [Nat.mul_comm (value / 256 ^ width % 256), Nat.add_comm]

theorem shiftByte (value : Nat) (byte : UInt8) :
    (value <<< 8) ||| byte.toNat = value * 256 + byte.toNat := by
  rw [← Nat.shiftLeft_add_eq_or_of_lt (show byte.toNat < 2 ^ 8 from byte.toNat_lt), Nat.shiftLeft_eq]

theorem foldl_shiftByte (init : Nat) (bytes : List UInt8) :
    bytes.foldl (fun value byte => (value <<< 8) ||| byte.toNat) init =
      init * 256 ^ bytes.length + beValue bytes := by
  induction bytes generalizing init with
  | nil => simp [beValue]
  | cons byte rest ih =>
    rw [List.foldl_cons, ih, shiftByte, beValue, List.length_cons, Nat.pow_succ]
    rw [Nat.add_mul, Nat.mul_assoc, Nat.mul_comm 256, Nat.add_assoc]

def u16FromBe (bytes : List UInt8) : UInt16 :=
  UInt16.ofNat (beValue bytes)

def u32FromBe (bytes : List UInt8) : UInt32 :=
  UInt32.ofNat (beValue bytes)

def u64FromBe (bytes : List UInt8) : UInt64 :=
  UInt64.ofNat (beValue bytes)

/-- `u32::from_le_bytes`: the least significant byte first. -/
def u32FromLe (bytes : List UInt8) : UInt32 :=
  UInt32.ofNat (beValue bytes.reverse)

def u16ToBe (value : UInt16) : List UInt8 :=
  beBytes 2 value.toNat

@[simp] theorem u16ToBe_length (value : UInt16) : (u16ToBe value).length = 2 :=
  beBytes_length 2 value.toNat

@[simp] theorem u16FromBe_u16ToBe (value : UInt16) : u16FromBe (u16ToBe value) = value := by
  have bound : value.toNat < 256 ^ 2 := value.toNat_lt
  simp only [u16FromBe, u16ToBe, beValue_beBytes, Nat.mod_eq_of_lt bound, UInt16.ofNat_toNat]

def u32ToBe (value : UInt32) : List UInt8 :=
  beBytes 4 value.toNat

def u64ToBe (value : UInt64) : List UInt8 :=
  beBytes 8 value.toNat

@[simp] theorem u32ToBe_length (value : UInt32) : (u32ToBe value).length = 4 :=
  beBytes_length 4 value.toNat

@[simp] theorem u64ToBe_length (value : UInt64) : (u64ToBe value).length = 8 :=
  beBytes_length 8 value.toNat

@[simp] theorem u32FromBe_u32ToBe (value : UInt32) : u32FromBe (u32ToBe value) = value := by
  have bound : value.toNat < 256 ^ 4 := value.toNat_lt
  simp only [u32FromBe, u32ToBe, beValue_beBytes, Nat.mod_eq_of_lt bound, UInt32.ofNat_toNat]

@[simp] theorem u64FromBe_u64ToBe (value : UInt64) : u64FromBe (u64ToBe value) = value := by
  have bound : value.toNat < 256 ^ 8 := value.toNat_lt
  simp only [u64FromBe, u64ToBe, beValue_beBytes, Nat.mod_eq_of_lt bound, UInt64.ofNat_toNat]

theorem u16ToBe_eq (value : UInt16) :
    u16ToBe value = [UInt8.ofNat (value.toNat / 256), UInt8.ofNat value.toNat] := by
  simp [u16ToBe, beBytes]

theorem u16ToBe_pair (value : UInt16) :
    ∃ high low, u16ToBe value = [high, low] ∧ u16FromBe [high, low] = value :=
  ⟨_, _, u16ToBe_eq value, by rw [← u16ToBe_eq]; exact u16FromBe_u16ToBe value⟩

theorem u32ToBe_eq (value : UInt32) :
    u32ToBe value = [UInt8.ofNat (value.toNat / 256 ^ 3), UInt8.ofNat (value.toNat / 256 ^ 2),
      UInt8.ofNat (value.toNat / 256), UInt8.ofNat value.toNat] := by
  simp [u32ToBe, beBytes]

theorem u32ToBe_quad (value : UInt32) :
    ∃ b0 b1 b2 b3, u32ToBe value = [b0, b1, b2, b3] ∧ u32FromBe [b0, b1, b2, b3] = value :=
  ⟨_, _, _, _, u32ToBe_eq value, by rw [← u32ToBe_eq]; exact u32FromBe_u32ToBe value⟩

theorem u16ToBe_u16FromBe (high low : UInt8) : u16ToBe (u16FromBe [high, low]) = [high, low] := by
  have highBound := high.toNat_lt
  have lowBound := low.toNat_lt
  have value : (u16FromBe [high, low]).toNat = high.toNat * 256 + low.toNat := by
    simp [u16FromBe, beValue]
    omega
  rw [u16ToBe_eq, value]
  congr 1
  · apply UInt8.toNat_inj.mp
    simp
    omega
  · congr 1
    apply UInt8.toNat_inj.mp
    simp

/-! ## Nibbles

A byte that packs a high and a low nibble, as `(high << 4) | low`. -/

theorem nibbles_toNat (high low : UInt8) (highSmall : high.toNat < 16) (lowSmall : low.toNat < 16) :
    ((high <<< 4) ||| low).toNat = 16 * high.toNat + low.toNat := by
  have shifted : (high <<< 4).toNat = 2 ^ 4 * high.toNat := by
    rw [UInt8.toNat_shiftLeft, Nat.shiftLeft_eq]
    simp
    omega
  rw [UInt8.toNat_or, shifted, ← Nat.two_pow_add_eq_or_of_lt (by simpa using lowSmall)]

theorem nibbles_high (high low : UInt8) (highSmall : high.toNat < 16) (lowSmall : low.toNat < 16) :
    ((high <<< 4) ||| low) >>> 4 = high := by
  apply UInt8.toNat_inj.mp
  rw [UInt8.toNat_shiftRight, nibbles_toNat high low highSmall lowSmall, Nat.shiftRight_eq_div_pow]
  simp
  omega

theorem nibbles_low (high low : UInt8) (highSmall : high.toNat < 16) (lowSmall : low.toNat < 16) :
    ((high <<< 4) ||| low) &&& 0xf = low := by
  apply UInt8.toNat_inj.mp
  rw [UInt8.toNat_and, nibbles_toNat high low highSmall lowSmall,
    show (0xf : UInt8).toNat = 2 ^ 4 - 1 from rfl, Nat.and_two_pow_sub_one_eq_mod]
  omega

@[simp] theorem low_nibble_lt (byte : UInt8) : (byte &&& 0xf).toNat < 16 := by
  rw [UInt8.toNat_and, show (0xf : UInt8).toNat = 2 ^ 4 - 1 from rfl, Nat.and_two_pow_sub_one_eq_mod]
  omega

/-! ## Buffer cursors

The `bytes::Buf` operations on a `BytesMut` read and consume from the front of the buffer;
each panics when fewer bytes remain than it reads. -/

namespace Buf

def getU8 : List UInt8 → Result (UInt8 × List UInt8)
  | byte :: rest => .ok (byte, rest)
  | [] => abort

/-- `Buf::get_u16`: a big-endian word. -/
def getU16 : List UInt8 → Result (UInt16 × List UInt8)
  | high :: low :: rest => .ok (u16FromBe [high, low], rest)
  | _ => abort

def advance (count : Nat) (buf : List UInt8) : Result (List UInt8) :=
  if count ≤ buf.length then .ok (buf.drop count) else abort

/-- `Buf::copy_to_bytes` and `Buf::copy_to_slice`: the next `count` bytes. -/
def take (count : Nat) (buf : List UInt8) : Result (List UInt8 × List UInt8) :=
  if count ≤ buf.length then .ok (buf.take count, buf.drop count) else abort

@[simp] theorem getU8_cons (byte : UInt8) (rest : List UInt8) :
    getU8 (byte :: rest) = .ok (byte, rest) :=
  rfl

@[simp] theorem getU16_u16ToBe (value : UInt16) (rest : List UInt8) :
    getU16 (u16ToBe value ++ rest) = .ok (value, rest) := by
  have word := u16FromBe_u16ToBe value
  rw [u16ToBe_eq] at word ⊢
  simpa [getU16] using word

@[simp] theorem advance_append {front : List UInt8} (rest : List UInt8) :
    advance front.length (front ++ rest) = .ok rest := by
  simp [advance]

@[simp] theorem take_append {front : List UInt8} (rest : List UInt8) :
    take front.length (front ++ rest) = .ok (front, rest) := by
  simp [take]

theorem take_append_of_length {front : List UInt8} {count : Nat} (rest : List UInt8)
    (length : front.length = count) : take count (front ++ rest) = .ok (front, rest) := by
  subst length
  exact take_append rest

theorem getU16_eq_ok {buf rest : List UInt8} {value : UInt16}
    (read : getU16 buf = .ok (value, rest)) : rest.length + 2 = buf.length := by
  match buf, read with
  | _ :: _ :: _, read =>
    simp only [getU16, Except.ok.injEq, Prod.mk.injEq] at read
    simp [read.2]

theorem getU8_eq_ok {buf rest : List UInt8} {value : UInt8}
    (read : getU8 buf = .ok (value, rest)) : rest.length + 1 = buf.length := by
  match buf, read with
  | _ :: _, read =>
    simp only [getU8, Except.ok.injEq, Prod.mk.injEq] at read
    simp [read.2]

theorem advance_eq_ok {count : Nat} {buf rest : List UInt8}
    (advanced : advance count buf = .ok rest) : rest.length + count = buf.length := by
  unfold advance at advanced
  split_ifs at advanced with enough
  · cases advanced
    simp
    omega
  · cases advanced

end Buf

/-- What an inner stream returns to successive reads: the chunks it has; an empty chunk
is the end of the stream, and with no chunk left a read is pending. A read takes no more of
a chunk than the buffer has room for and leaves the rest for the next read. -/
abbrev Incoming := List (List UInt8)

/-- One read of at most `room` bytes from the inner stream: the new bytes and what the stream
has left; `none` when the read is pending. -/
def readIncoming (room : Nat) : Incoming → Option (List UInt8 × Incoming)
  | [] => none
  | chunk :: rest =>
    let taken := chunk.take room
    if taken.length < chunk.length then some (taken, chunk.drop room :: rest)
    else some (taken, rest)

theorem readIncoming_length_le {room : Nat} {incoming rest : Incoming} {bytes : List UInt8}
    (read : readIncoming room incoming = some (bytes, rest)) : bytes.length ≤ room := by
  unfold readIncoming at read
  split at read
  · cases read
  · dsimp only at read
    split_ifs at read <;> cases read <;> exact List.length_take_le _ _

theorem readIncoming_eq_none {room : Nat} {incoming : Incoming} :
    readIncoming room incoming = none ↔ incoming = [] := by
  cases incoming with
  | nil => simp [readIncoming]
  | cons chunk rest =>
    simp only [readIncoming, reduceCtorEq, iff_false]
    split <;> simp

theorem readIncoming_flatten {room : Nat} {incoming rest : Incoming} {bytes : List UInt8}
    (read : readIncoming room incoming = some (bytes, rest)) :
    bytes ++ rest.flatten = incoming.flatten ∧
      (rest.map List.length).sum + bytes.length = (incoming.map List.length).sum := by
  cases incoming with
  | nil => cases read
  | cons chunk chunks =>
    simp only [readIncoming] at read
    split at read
    · next cut =>
      cases read
      refine ⟨by simp [← List.append_assoc], ?_⟩
      simp only [List.map_cons, List.sum_cons, List.length_drop, List.length_take]
      simp only [List.length_take] at cut
      omega
    · next whole =>
      cases read
      have taken : chunk.take room = chunk :=
        List.take_of_length_le (by simp only [List.length_take] at whole; omega)
      simp [taken, Nat.add_comm]

theorem readIncoming_live {room : Nat} (roomy : 0 < room) {chunk : List UInt8} {rest : Incoming}
    (live : ∀ read ∈ chunk :: rest, read ≠ []) :
    ∃ bytes incoming, readIncoming room (chunk :: rest) = some (bytes, incoming) ∧
      bytes ≠ [] ∧ bytes.length ≤ room ∧ bytes ++ incoming.flatten = (chunk :: rest).flatten ∧
      (incoming.map List.length).sum + bytes.length = ((chunk :: rest).map List.length).sum ∧
      ∀ read ∈ incoming, read ≠ [] := by
  have nonempty : chunk ≠ [] := live chunk List.mem_cons_self
  have taken : chunk.take room ≠ [] := by
    simpa [List.take_eq_nil_iff, Nat.pos_iff_ne_zero.mp roomy] using nonempty
  by_cases split : (chunk.take room).length < chunk.length
  · refine ⟨_, _, if_pos split, taken, List.length_take_le _ _, ?_, ?_, ?_⟩
    · simp [← List.append_assoc]
    · simp only [List.map_cons, List.sum_cons, List.length_drop, List.length_take]
      omega
    · intro read member
      rcases List.mem_cons.mp member with rfl | later
      · simpa [List.drop_eq_nil_iff] using split
      · exact live read (List.mem_cons_of_mem _ later)
  · have whole : chunk.take room = chunk :=
      List.take_of_length_le (by simp only [List.length_take] at split; omega)
    refine ⟨_, _, if_neg split, taken, List.length_take_le _ _, ?_, ?_, ?_⟩
    · simp [whole]
    · simp [whole, Nat.add_comm]
    · exact fun read member => live read (List.mem_cons_of_mem _ member)

/-- `&data[start..stop]`: the bytes in the range, panicking when it is not within the data. -/
def slice (data : List UInt8) (start stop : Nat) : Result (List UInt8) :=
  if start ≤ stop ∧ stop ≤ data.length then .ok ((data.drop start).take (stop - start)) else abort

/-- `data[index]`: panics past the end. -/
def byteAt (data : List UInt8) (index : Nat) : Result UInt8 :=
  match data[index]? with
  | some byte => .ok byte
  | none => abort

theorem byteAt_of_lt {data : List UInt8} {index : Nat} (within : index < data.length) :
    byteAt data index = .ok data[index] := by
  simp [byteAt, within]

theorem slice_of_le {data : List UInt8} {start stop : Nat} (ordered : start ≤ stop)
    (within : stop ≤ data.length) :
    slice data start stop = .ok ((data.drop start).take (stop - start)) := by
  simp [slice, ordered, within]

theorem slice_append (before middle after : List UInt8) :
    slice (before ++ middle ++ after) before.length (before.length + middle.length) = .ok middle := by
  rw [slice_of_le (by omega) (by simp), List.append_assoc, List.drop_left, Nat.add_sub_cancel_left,
    List.take_left]

theorem slice_front {front : List UInt8} {count : Nat} (back : List UInt8)
    (length : front.length = count) : slice (front ++ back) 0 count = .ok front := by
  subst length
  simpa using slice_append [] front back

theorem slice_eq_error {data : List UInt8} {start stop : Nat} {fault : Fault}
    (failed : slice data start stop = .error fault) : ¬(start ≤ stop ∧ stop ≤ data.length) := by
  intro within
  simp [slice, within] at failed

theorem slice_of_gt {data : List UInt8} {start stop : Nat} (beyond : data.length < stop) :
    slice data start stop = abort := by
  simp [slice]
  omega

/-- `StreamReader::read_slice` of `len` bytes, with a buffer of `bufferSize` bytes, from the
bytes `input` the stream will deliver: the slice and the bytes left. -/
def StreamReader.readSlice (bufferSize len : Nat) (input : List UInt8) :
    Result (List UInt8 × List UInt8) :=
  if bufferSize < len then
    fail .invalidInput s!"Requested length {len} exceeds buffer size {bufferSize}"
  else if input.length < len then fail .connectionAborted "EOF while reading"
  else .ok (input.take len, input.drop len)

theorem StreamReader.readSlice_append {front : List UInt8} {bufferSize count : Nat}
    (rest : List UInt8) (length : front.length = count) (fits : count ≤ bufferSize) :
    readSlice bufferSize count (front ++ rest) = .ok (front, rest) := by
  subst length
  simp [readSlice, fits]

theorem StreamReader.readSlice_cases (bufferSize len : Nat) (input : List UInt8) :
    (∃ err, readSlice bufferSize len input = .error (.error err)) ∨
      ∃ front rest, readSlice bufferSize len input = .ok (front, rest) ∧ front.length = len ∧
        input = front ++ rest := by
  unfold readSlice
  split_ifs with tooLong short
  · exact .inl ⟨_, rfl⟩
  · exact .inl ⟨_, rfl⟩
  · exact .inr ⟨_, _, rfl, by simp; omega, (List.take_append_drop len input).symm⟩

/-- `StreamReader::read_u8`: the next byte, or the end of the stream. -/
def StreamReader.readU8 (input : List UInt8) : Result (UInt8 × List UInt8) :=
  match input with
  | [] => fail .connectionAborted "EOF while reading"
  | byte :: rest => .ok (byte, rest)

@[simp] theorem StreamReader.readU8_cons (byte : UInt8) (rest : List UInt8) :
    readU8 (byte :: rest) = .ok (byte, rest) :=
  rfl

/-- `AsyncReadExt::read_exact` of `len` bytes, straight from the stream: it fails when the stream
ends first. -/
def readExact (len : Nat) (input : List UInt8) : Result (List UInt8 × List UInt8) :=
  if input.length < len then fail .unexpectedEof "early eof"
  else .ok (input.take len, input.drop len)

theorem readExact_append {front : List UInt8} {count : Nat} (rest : List UInt8)
    (length : front.length = count) : readExact count (front ++ rest) = .ok (front, rest) := by
  subst length
  simp [readExact]

/-! ## Strings

A Rust `String` is valid UTF-8, as a Lean `String` is; `as_bytes` and `str::from_utf8` move
between the two views. -/

/-- `format!("{:02x}", byte)`: two lowercase hex digits. -/
def hexByte (byte : UInt8) : String :=
  String.ofList ((if byte.toNat < 16 then ['0'] else []) ++ Nat.toDigits 16 byte.toNat)

def strBytes (text : String) : List UInt8 :=
  text.toByteArray.data.toList

/-- `str::from_utf8`: `none` on bytes that are not UTF-8. -/
def strFromUtf8 (bytes : List UInt8) : Option String :=
  String.fromUTF8? ⟨bytes.toArray⟩

/-- `str::from_utf8` whose error is returned as one of `kind` after `context`; the text of the
`Utf8Error` itself is not modelled. -/
def fromUtf8 (kind : ErrorKind) (context : String) (bytes : List UInt8) : Result String :=
  match strFromUtf8 bytes with
  | none => fail kind (context ++ "invalid utf-8")
  | some text => .ok text

@[simp] theorem strFromUtf8_strBytes (text : String) : strFromUtf8 (strBytes text) = some text := by
  simp [strFromUtf8, strBytes, String.fromUTF8?, text.isValidUTF8]
  rfl

theorem strBytes_length (text : String) : (strBytes text).length = text.utf8ByteSize := by
  rw [strBytes, Array.length_toList, ← String.size_toByteArray]
  rfl

/-- `StreamReader::read_line` with a buffer of `bufferSize` bytes, from the bytes the stream will
deliver: the line before the first `\n`, which must come after a `\r`, as UTF-8, and the bytes
after the line. A line with its ending must fit the buffer. -/
def StreamReader.readLine (bufferSize : Nat) (input : List UInt8) : Result (String × List UInt8) :=
  match input.idxOf? 10 with
  | none =>
    if bufferSize ≤ input.length then fail .connectionAborted "cache is full"
    else fail .connectionAborted "EOF while reading"
  | some newline =>
    if bufferSize ≤ newline then fail .connectionAborted "cache is full"
    else if newline = 0 ∨ input[newline - 1]? ≠ some 13 then
      fail .invalidData "Line is not terminated by CRLF"
    else do
      let line ← fromUtf8 .invalidData "Failed to decode utf8: " (input.take (newline - 1))
      .ok (line, input.drop (newline + 1))

theorem StreamReader.readLine_shorter {bufferSize : Nat} {input rest : List UInt8} {line : String}
    (read : readLine bufferSize input = .ok (line, rest)) : rest.length < input.length := by
  unfold readLine at read
  split at read
  · split_ifs at read <;> exact absurd read (fail_ne_ok _ _ _)
  · rename_i newline found
    have within := (List.idxOf?_eq_some_iff.mp found).1
    split_ifs at read with full broken
    · exact absurd read (fail_ne_ok _ _ _)
    · exact absurd read (fail_ne_ok _ _ _)
    obtain ⟨text, -, taken⟩ := bind_eq_ok read
    cases taken
    simp only [List.length_drop]
    omega

theorem StreamReader.readLine_crlf {bufferSize : Nat} {line : String} (rest : List UInt8)
    (unbroken : (10 : UInt8) ∉ strBytes line) (fits : (strBytes line).length + 2 ≤ bufferSize) :
    readLine bufferSize (strBytes line ++ 13 :: 10 :: rest) = .ok (line, rest) := by
  have found : (strBytes line ++ 13 :: 10 :: rest).idxOf? 10 = some ((strBytes line).length + 1) := by
    rw [List.idxOf?_eq_some_iff]
    refine ⟨by simp, by simp, ?_⟩
    intro index before
    by_cases inLine : index < (strBytes line).length
    · rw [List.getElem_append_left inLine]
      intro isNewline
      exact unbroken (isNewline ▸ List.getElem_mem inLine)
    · rw [List.getElem_append_right (by omega)]
      have atReturn : index - (strBytes line).length = 0 := by omega
      simp [atReturn]
  have after : (strBytes line ++ 13 :: 10 :: rest).drop ((strBytes line).length + 1 + 1) = rest := by
    have skipped : (strBytes line).length + 1 + 1 - (strBytes line).length = 2 := by omega
    rw [List.drop_append, List.drop_eq_nil_of_le (by omega), List.nil_append, skipped]
    rfl
  simp [readLine, found, fromUtf8, after,
    Nat.not_le.mpr (by omega : (strBytes line).length + 1 < bufferSize)]

end Wire
