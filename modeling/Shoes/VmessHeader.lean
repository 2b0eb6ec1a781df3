import Shoes.Address
import Shoes.Lib.Cipher

/-!
# The VMess AEAD request header

`setup_client_tcp_stream` writes the request header of an AEAD VMess connection and
`setup_server_stream` reads it. The header has three parts:

* the auth ID: a timestamp, four random bytes and their CRC-32, encrypted as one AES block
  under a key derived from the user's instruction key;
* the length of the instruction, sealed with AES-128-GCM, and an eight-byte nonce;
* the instruction, sealed with AES-128-GCM under keys derived from the auth ID and the nonce:
  38 fixed bytes (version, data IV and key, response byte, options, margin length and data
  cipher, command), the port and destination, the margin, and an FNV-1a check of all of these.

SHA-256, AES-128 and AES-128-GCM come from `aws_lc_rs` and are parameters (`Primitives`); the
key derivation built on SHA-256, the CRC and FNV-1a are modelled from the source.

The server takes the header only when the timestamp the client chose is within 120 seconds of
the server's clock. The client draws that timestamp up to 120 seconds away from its own clock,
so with any skew between the two clocks some headers are refused
(`late_timestamp_rejected`); inside the window the server reads back what the client wrote
(`setupServerStream_setupClientTcpStream`).
-/

namespace Shoes.Vmess

open Wire Cipher

def tagLen : Nat := 16

def commandTcp : UInt8 := 1

def commandUdp : UInt8 := 2

def commandMux : UInt8 := 3

inductive DataCipher
  | any
  | aes128Gcm
  | chaCha20Poly1305
  | none
  deriving DecidableEq, Repr

/-- The `Debug` text of a `DataCipher`. -/
def DataCipher.debug : DataCipher → String
  | .any => "Any"
  | .aes128Gcm => "Aes128Gcm"
  | .chaCha20Poly1305 => "ChaCha20Poly1305"
  | .none => "None"

/-- What VMess takes from `aws_lc_rs`: SHA-256, AES-128 on one block (ECB mode), and
AES-128-GCM with its 16-byte tag. -/
structure Primitives where
  sha256 : List UInt8 → List UInt8
  aes128 : BlockCipher
  aes128Gcm : Aead
  aes128_blockLength : aes128.blockLength = 16
  aes128Gcm_tagLength : aes128Gcm.tagLength = tagLen

def fnvPrime : UInt32 := 16777619

/-- `Fnv1aHasher::new`: the offset basis. -/
def Fnv1aHasher.new : UInt32 := 0x811c9dc5

def Fnv1aHasher.write (hash : UInt32) (data : List UInt8) : UInt32 :=
  data.foldl (fun hash byte => (hash ^^^ byte.toUInt32) * fnvPrime) hash

@[simp] theorem Fnv1aHasher.write_write (hash : UInt32) (first second : List UInt8) :
    Fnv1aHasher.write (Fnv1aHasher.write hash first) second =
      Fnv1aHasher.write hash (first ++ second) := by
  simp [Fnv1aHasher.write, List.foldl_append]

example : Fnv1aHasher.write Fnv1aHasher.new [0x00] = 0x050c5d1f := by decide

/-- `POLY`: the reflected polynomial of CRC-32 (IEEE), although the function is named after
the Castagnoli one. -/
def poly : UInt32 := 0xEDB88320

/-- One bit of the loop of `make_table`. -/
def tableBit (poly crc : UInt32) : UInt32 :=
  if crc &&& 1 = 1 then (crc >>> 1) ^^^ poly else crc >>> 1

/-- `make_table`: entry `i` is `i` after eight bits of the loop. The reversed table the loop
also fills is never read. -/
def makeTable (poly : UInt32) : List UInt32 :=
  (List.range 256).map fun index => (tableBit poly)^[8] (UInt32.ofNat index)

/-- Table `j` of the slice-by-16 tables: each entry of the byte table advanced by `j` more
bytes. -/
def sliceTable (table : List UInt32) (j : Nat) : List UInt32 :=
  table.map fun entry =>
    (fun crc : UInt32 => (crc >>> 8) ^^^ table.getD crc.toUInt8.toNat 0)^[j] entry

/-- `crc32c_slice8`: eight bytes at a time through the slice tables, the rest one at a time
through the byte table. -/
def crc32cSlice8 (table : List UInt32) : List UInt8 → UInt32 → UInt32
  | b0 :: b1 :: b2 :: b3 :: b4 :: b5 :: b6 :: b7 :: rest, crc =>
    let crc := crc ^^^ u32FromLe [b0, b1, b2, b3]
    let lookup (j : Nat) (index : UInt8) : UInt32 := (sliceTable table j).getD index.toNat 0
    let crc := lookup 0 b7 ^^^ lookup 1 b6 ^^^ lookup 2 b5 ^^^ lookup 3 b4 ^^^
      lookup 4 (crc >>> 24).toUInt8 ^^^ lookup 5 (crc >>> 16).toUInt8 ^^^
      lookup 6 (crc >>> 8).toUInt8 ^^^ lookup 7 crc.toUInt8
    crc32cSlice8 table rest crc
  | rest, crc =>
    rest.foldl (fun crc byte => table.getD (crc.toUInt8 ^^^ byte).toNat 0 ^^^ (crc >>> 8)) crc

def crc32c (buf : List UInt8) : UInt32 :=
  ~~~(crc32cSlice8 (makeTable poly) buf (~~~0))

example : crc32c (strBytes "123456789") = 0xCBF43926 := by decide

/-- A 64-byte HMAC pad of `RecursiveHash::create`: `pad` with the key XORed into its front.
The key is asserted to be at most 64 bytes, as every key `kdf` is given is. -/
def padKey (pad : UInt8) (key : List UInt8) : List UInt8 :=
  (List.range 64).map fun index => pad ^^^ key.getD index 0

/-- `RecursiveHash::create(key, hash)`, as the digest it finalizes to after `update(message)`:
the HMAC of `hash` keyed by `key`. -/
def recursiveHash (key : List UInt8) (hash : List UInt8 → List UInt8) (message : List UInt8) :
    List UInt8 :=
  hash (padKey 0x5c key ++ hash (padKey 0x36 key ++ message))

/-- `kdf`: HMAC-SHA-256 keyed by `VMess AEAD KDF`, with one more HMAC layer keyed by each item
of the path. -/
def kdf (sha256 : List UInt8 → List UInt8) (key : List UInt8) (path : List (List UInt8)) :
    List UInt8 :=
  path.foldl (fun current item => recursiveHash item current)
    (recursiveHash (strBytes "VMess AEAD KDF") sha256) key

/-- The auth ID key of both handlers: the first 16 bytes of
`kdf(instruction_key, ["AES Auth ID Encryption"])`. -/
def authIdKey (prims : Primitives) (instructionKey : List UInt8) : List UInt8 :=
  (kdf prims.sha256 instructionKey [strBytes "AES Auth ID Encryption"]).take 16

/-- A key of the header AEAD, `kdf(instruction_key, [label, cert_hash, nonce])` cut to
`length` bytes: 16 for a key, 12 for a nonce. -/
def headerKdf (prims : Primitives) (instructionKey : List UInt8) (label : String) (length : Nat)
    (certHash nonce : List UInt8) : List UInt8 :=
  (kdf prims.sha256 instructionKey [strBytes label, certHash, nonce]).take length

/-- Sealing the instruction length of a header. -/
def sealLength (prims : Primitives) (instructionKey certHash nonce : List UInt8) :
    List UInt8 → List UInt8 :=
  prims.aes128Gcm.sealed
    (headerKdf prims instructionKey "VMess Header AEAD Key_Length" 16 certHash nonce)
    (headerKdf prims instructionKey "VMess Header AEAD Nonce_Length" 12 certHash nonce) certHash

/-- Opening the instruction length of a header in place. -/
def openLength (prims : Primitives) (instructionKey certHash nonce : List UInt8) :
    List UInt8 → Option (List UInt8) :=
  prims.aes128Gcm.openInPlace
    (headerKdf prims instructionKey "VMess Header AEAD Key_Length" 16 certHash nonce)
    (headerKdf prims instructionKey "VMess Header AEAD Nonce_Length" 12 certHash nonce) certHash

/-- Sealing the instruction of a header. -/
def sealHeader (prims : Primitives) (instructionKey certHash nonce : List UInt8) :
    List UInt8 → List UInt8 :=
  prims.aes128Gcm.sealed (headerKdf prims instructionKey "VMess Header AEAD Key" 16 certHash nonce)
    (headerKdf prims instructionKey "VMess Header AEAD Nonce" 12 certHash nonce) certHash

/-- Opening the instruction of a header in place. -/
def openHeader (prims : Primitives) (instructionKey certHash nonce : List UInt8) :
    List UInt8 → Option (List UInt8) :=
  prims.aes128Gcm.openInPlace
    (headerKdf prims instructionKey "VMess Header AEAD Key" 16 certHash nonce)
    (headerKdf prims instructionKey "VMess Header AEAD Nonce" 12 certHash nonce) certHash

/-- The 38 fixed bytes of the instruction, `fixed_header`. -/
structure FixedHeader where
  version : UInt8
  dataEncryptionIv : List UInt8
  dataEncryptionKey : List UInt8
  responseAuthenticationV : UInt8
  option : UInt8
  -- the margin length in the high four bits, the data cipher in the low four
  marginAndCipher : UInt8
  reserved : UInt8
  command : UInt8
  deriving DecidableEq

/-- The bytes of a fixed header. -/
def FixedHeader.bytes (fixed : FixedHeader) : List UInt8 :=
  fixed.version :: fixed.dataEncryptionIv ++ fixed.dataEncryptionKey ++
    [fixed.responseAuthenticationV, fixed.option, fixed.marginAndCipher, fixed.reserved,
      fixed.command]

/-- The fields of a `[u8; 38]` read as `fixed_header`: bytes 0, 1 to 16, 17 to 32, and 33 to
37. -/
def FixedHeader.ofBytes (bytes : List UInt8) : Result FixedHeader :=
  match bytes, bytes.drop 33 with
  | version :: _, [responseAuthenticationV, option, marginAndCipher, reserved, command] =>
    .ok ⟨version, (bytes.drop 1).take 16, (bytes.drop 17).take 16, responseAuthenticationV, option,
      marginAndCipher, reserved, command⟩
  | _, _ => abort

/-- The port and destination the client writes after the fixed bytes: type 1 and four octets,
type 3 and sixteen, or type 2, a length byte and the hostname. -/
def encodeDestination (location : NetLocation) : Except IoError (List UInt8) :=
  match location.address with
  | .ipv4 addr => .ok (u16ToBe location.port ++ 1 :: addr.octets)
  | .ipv6 addr => .ok (u16ToBe location.port ++ 3 :: addr.octets)
  | .hostname hostname =>
    if 255 < (strBytes hostname).length then
      .error ⟨.invalidData, s!"Hostname is too long: {hostname}"⟩
    else .ok (u16ToBe location.port ++ 2 :: UInt8.ofNat (strBytes hostname).length :: strBytes hostname)

/-- The destination part of the server's instruction reader, each piece hashed as it is read:
none for a MUX command; otherwise the port and address type, then the address. -/
def readDestination (command : UInt8) (hash : UInt32) (header : List UInt8) :
    Result (NetLocation × UInt32 × List UInt8) :=
  if command = commandMux then .ok (⟨.ipv4 (Ipv4Addr.new 0 0 0 0), 0⟩, hash, header)
  else do
    let (portAndAddrType, header) ← Buf.take 3 header
    let hash := Fnv1aHasher.write hash portAndAddrType
    let port := u16FromBe (← slice portAndAddrType 0 2)
    match ← byteAt portAndAddrType 2 with
    | 1 => do
      let (addressBytes, header) ← Buf.take 4 header
      let addr ← ipv4OfSlice addressBytes
      .ok (⟨.ipv4 addr, port⟩, Fnv1aHasher.write hash addressBytes, header)
    | 2 => do
      let (domainNameLen, header) ← Buf.take 1 header
      let hash := Fnv1aHasher.write hash domainNameLen
      let (domainNameBytes, header) ← Buf.take (← byteAt domainNameLen 0).toNat header
      let hash := Fnv1aHasher.write hash domainNameBytes
      match strFromUtf8 domainNameBytes with
      | none => fail .invalidData "Failed to decode address: invalid utf-8"
      | some addressStr =>
        match Address.fromStr addressStr with
        | .error err => .error (.error err)
        | .ok address => .ok (⟨address, port⟩, hash, header)
    | 3 => do
      let (addressBytes, header) ← Buf.take 16 header
      let addr ← ipv6OfSlice addressBytes
      .ok (⟨.ipv6 addr, port⟩, Fnv1aHasher.write hash addressBytes, header)
    | invalidType => fail .invalidData s!"Invalid address type: {invalidType}"

/-- The instruction reader of `setup_server_stream` on the decrypted header: the fixed bytes,
the destination, the margin, and the FNV-1a check of all of them. -/
def readInstruction (header : List UInt8) : Result (FixedHeader × NetLocation) := do
  let (fixedBytes, header) ← Buf.take 38 header
  let fixed ← FixedHeader.ofBytes fixedBytes
  let hash := Fnv1aHasher.write Fnv1aHasher.new fixedBytes
  let version := fixed.version
  if version ≠ 1 then fail .invalidData s!"Invalid version {version}"
  else do
    let (remoteLocation, hash, header) ← readDestination fixed.command hash header
    let marginLen := fixed.marginAndCipher >>> 4
    let (hash, header) ←
      if 0 < marginLen then do
        let (marginBytes, header) ← Buf.take marginLen.toNat header
        pure (Fnv1aHasher.write hash marginBytes, header)
      else pure (hash, header)
    let (checkBytes, _) ← Buf.take 4 header
    let expectedCheckValue := u32FromBe checkBytes
    let actualCheckValue := hash
    if expectedCheckValue ≠ actualCheckValue then
      fail .invalidData s!"Bad fnv1a checksum, expected {expectedCheckValue}, got {actualCheckValue}"
    else .ok (fixed, remoteLocation)

/-- The option checks of `setup_server_stream`: the standard format is required, the auth
length option refused, and global padding needs chunk masking. Whether chunk masking and
global padding are on. -/
def checkOption (option : UInt8) : Result (Bool × Bool) :=
  if option &&& 0x01 ≠ 0x01 then fail .invalidData "Standard format data stream was not requested"
  else if option &&& 0x10 = 0x10 then fail .invalidData "Auth length option is not supported"
  else
    let enableChunkMasking := decide (option &&& 0x04 = 0x04)
    let enableGlobalPadding := decide (option &&& 0x08 = 0x08)
    if enableGlobalPadding ∧ ¬enableChunkMasking then
      fail .invalidData "Global padding cannot be enabled without chunk masking"
    else .ok (enableChunkMasking, enableGlobalPadding)

/-- The data cipher the low four bits of `fixed_header[35]` request. -/
def requestedDataCipher (method : UInt8) : Result DataCipher :=
  match method with
  | 1 => fail .invalidData "Unsupported aes-128-cfb data cipher requested"
  | 3 => .ok .aes128Gcm
  | 4 => .ok .chaCha20Poly1305
  | 5 => .ok .none
  | unknownCipherType => fail .invalidData s!"Unknown requested cipher: {unknownCipherType}"

/-- The configuration `setup_client_tcp_stream` reads. -/
structure ClientHandler where
  dataCipher : DataCipher
  instructionKey : List UInt8

/-- The client's random choices for one header. -/
structure ClientRandom where
  randomDelta : UInt64
  randomDelta_lt : randomDelta < 241
  authIdRandom : List UInt8
  authIdRandom_length : authIdRandom.length = 4
  dataEncryptionIv : List UInt8
  dataEncryptionIv_length : dataEncryptionIv.length = 16
  dataEncryptionKey : List UInt8
  dataEncryptionKey_length : dataEncryptionKey.length = 16
  responseAuthenticationV : UInt8
  -- of this byte only the low four bits are used, as the margin length
  marginRandom : UInt8
  marginBytes : List UInt8
  marginBytes_length : marginBytes.length = (marginRandom &&& 0xf).toNat
  nonce : List UInt8
  nonce_length : nonce.length = 8

/-- The method byte the client sends for its configured cipher; `any` asks for ChaCha20. -/
def encryptionMethod : DataCipher → UInt8
  | .aes128Gcm => 3
  | .chaCha20Poly1305 | .any => 4
  | .none => 5

/-- The auth ID of `setup_client_tcp_stream`: the timestamp and four random bytes with their
CRC, encrypted as one AES block. -/
def encodeAuthId (prims : Primitives) (instructionKey : List UInt8) (timeSecs : UInt64)
    (authIdRandom : List UInt8) : List UInt8 :=
  let aeadBytes := u64ToBe timeSecs ++ authIdRandom
  prims.aes128.encrypt (authIdKey prims instructionKey) (aeadBytes ++ u32ToBe (crc32c aeadBytes))

/-- The fixed bytes the client writes: version 1, its data IV and key and response byte,
options standard format and chunk masking, its margin length and cipher, and TCP. -/
def ClientRandom.fixedHeader (random : ClientRandom) (dataCipher : DataCipher) : FixedHeader :=
  ⟨1, random.dataEncryptionIv, random.dataEncryptionKey, random.responseAuthenticationV,
    0x01 ||| 0x04, ((random.marginRandom &&& 0xf) <<< 4) ||| encryptionMethod dataCipher, 0,
    commandTcp⟩

/-- `header_bytes[0..cursor]` of `setup_client_tcp_stream`: the fixed bytes, the destination,
the margin, and the FNV-1a check of all three. -/
def encodeInstruction (handler : ClientHandler) (random : ClientRandom) (location : NetLocation) :
    Except IoError (List UInt8) := do
  let destination ← encodeDestination location
  let marginLen := random.marginRandom &&& 0xf
  let body := (random.fixedHeader handler.dataCipher).bytes ++ destination ++
    (if 0 < marginLen then random.marginBytes else [])
  .ok (body ++ u32ToBe (Fnv1aHasher.write Fnv1aHasher.new body))

/-- The request `setup_client_tcp_stream` writes at time `now`: the auth ID, the sealed
instruction length, the nonce, and the sealed instruction. -/
def setupClientTcpStream (prims : Primitives) (handler : ClientHandler) (now : UInt64)
    (random : ClientRandom) (location : NetLocation) : Except IoError (List UInt8) := do
  let timeSecs := now - 120 + random.randomDelta
  let certHash := encodeAuthId prims handler.instructionKey timeSecs random.authIdRandom
  let instruction ← encodeInstruction handler random location
  let encryptedPayloadLength := sealLength prims handler.instructionKey certHash random.nonce
    (u16ToBe (UInt16.ofNat instruction.length))
  .ok (certHash ++ encryptedPayloadLength ++ random.nonce ++
    sealHeader prims handler.instructionKey certHash random.nonce instruction)

/-- The configuration `setup_server_stream` reads. -/
structure ServerHandler where
  dataCipher : DataCipher
  instructionKey : List UInt8
  udpEnabled : Bool

/-- The server's `StreamReader` over the bytes the client sends: `read_slice` of `len` bytes
from a buffer of 8192. -/
def readSlice (len : Nat) (input : List UInt8) : Result (List UInt8 × List UInt8) :=
  if 8192 < len then fail .invalidInput s!"Requested length {len} exceeds buffer size 8192"
  else if input.length < len then fail .connectionAborted "EOF while reading"
  else .ok (input.take len, input.drop len)

def absDiff (a b : UInt64) : UInt64 :=
  if a < b then b - a else a - b

/-- The auth ID check of `setup_server_stream` at time `now`: decrypt, compare the CRC, and
refuse a timestamp more than 120 seconds away. -/
def checkAuthId (prims : Primitives) (instructionKey : List UInt8) (now : UInt64)
    (certHash : List UInt8) : Result Unit := do
  let aeadBytes := prims.aes128.decrypt (authIdKey prims instructionKey) certHash
  let checksum := crc32c (← slice aeadBytes 0 12)
  let expectedChecksum := u32FromBe (← slice aeadBytes 12 16)
  if checksum ≠ expectedChecksum then
    fail .invalidData "AEAD authentication failed: checksum mismatch"
  else do
    let timeSecs := u64FromBe (← slice aeadBytes 0 8)
    let timeDelta := absDiff timeSecs now
    if 120 < timeDelta then
      fail .invalidData s!"Hash timestamp is too old ({timeSecs} is {timeDelta} seconds old)"
    else .ok ()

/-- The response header the server keeps to write before its first data: the sealed length
4, then the sealed `[response_authentication_v, 0, 0, 0]`, under keys derived from the first
16 bytes of the SHA-256 of the data key and IV. -/
def encryptedResponseHeader (prims : Primitives) (dataEncryptionIv dataEncryptionKey : List UInt8)
    (responseAuthenticationV : UInt8) : List UInt8 :=
  let responseHeaderIv := (prims.sha256 dataEncryptionIv).take 16
  let responseHeaderKey := (prims.sha256 dataEncryptionKey).take 16
  prims.aes128Gcm.sealed
      (kdf prims.sha256 responseHeaderKey [strBytes "AEAD Resp Header Len Key"] |>.take 16)
      (kdf prims.sha256 responseHeaderIv [strBytes "AEAD Resp Header Len IV"] |>.take 12) [] [0, 4] ++
    prims.aes128Gcm.sealed (kdf prims.sha256 responseHeaderKey [strBytes "AEAD Resp Header Key"] |>.take 16)
      (kdf prims.sha256 responseHeaderIv [strBytes "AEAD Resp Header IV"] |>.take 12) []
      [responseAuthenticationV, 0, 0, 0]

/-- How `setup_server_stream` hands the connection on. -/
inductive SetupKind
  | tcpForward
  | bidirectionalUdp
  | sessionBasedUdp
  deriving DecidableEq, Repr

/-- The command dispatch at the end of `setup_server_stream`. -/
def commandKind (udpEnabled : Bool) (command : UInt8) : Result SetupKind :=
  if command = commandTcp then .ok .tcpForward
  else if command = commandUdp then
    if udpEnabled then .ok .bidirectionalUdp else fail .invalidData "UDP not enabled"
  else if command = commandMux then
    if udpEnabled then .ok .sessionBasedUdp
    else fail .invalidData "MUX/XUDP requires UDP to be enabled"
  else fail .invalidData s!"Unknown requested protocol: {command}"

/-- What `setup_server_stream` hands on: how the connection is used, the fixed header and
destination it read, the data cipher and options, the response header it will send, and the
bytes that followed the header. -/
structure ServerSetup where
  kind : SetupKind
  fixedHeader : FixedHeader
  remoteLocation : NetLocation
  dataCipher : DataCipher
  enableChunkMasking : Bool
  enableGlobalPadding : Bool
  prefixBytes : List UInt8
  unparsedData : List UInt8

/-- `setup_server_stream` at time `now` on the bytes `input` the client sends. -/
def setupServerStream (prims : Primitives) (handler : ServerHandler) (now : UInt64)
    (input : List UInt8) : Result ServerSetup := do
  let (certHash, input) ← readSlice 16 input
  checkAuthId prims handler.instructionKey now certHash
  let (encryptedPayloadLength, input) ← readSlice 18 input
  let (nonce, input) ← readSlice 8 input
  match openLength prims handler.instructionKey certHash nonce encryptedPayloadLength with
  | none => fail .other "failed to open encrypted header length"
  | some openedLength => do
    let payloadLength := u16FromBe (← slice openedLength 0 2)
    let (encryptedHeader, input) ← readSlice (payloadLength.toNat + tagLen) input
    match openHeader prims handler.instructionKey certHash nonce encryptedHeader with
    | none => fail .other "failed to open encrypted header"
    | some decryptedHeader => do
      let (fixed, remoteLocation) ← readInstruction decryptedHeader
      let (enableChunkMasking, enableGlobalPadding) ← checkOption fixed.option
      let requested ← requestedDataCipher (fixed.marginAndCipher &&& 0b1111)
      if handler.dataCipher ≠ .any ∧ requested ≠ handler.dataCipher then
        let allowed := handler.dataCipher.debug
        let requestedName := requested.debug
        fail .invalidData s!"Server only allows {allowed} but client requested {requestedName}"
      else do
        let kind ← commandKind handler.udpEnabled fixed.command
        .ok ⟨kind, fixed, remoteLocation, requested, enableChunkMasking, enableGlobalPadding,
          encryptedResponseHeader prims fixed.dataEncryptionIv fixed.dataEncryptionKey
            fixed.responseAuthenticationV, input⟩

/-! ## What the client writes, read back

The server reads back the client's header part by part: the fixed bytes, the destination, the
instruction with its margin and check, the auth ID, and the two sealed parts. -/

/-- The address a server reads back for a destination a client sends: an IP address as it
is, a hostname as `Address::from` parses it. The client refuses a hostname of more than 255
bytes. -/
def receivedAddress : Address → Except IoError Address
  | .hostname hostname =>
    if 255 < (strBytes hostname).length then .error ⟨.invalidData, s!"Hostname is too long: {hostname}"⟩
    else Address.fromStr hostname
  | address => .ok address

/-- The cipher a client configured with `dataCipher` asks for. -/
def DataCipher.requested : DataCipher → DataCipher
  | .any => .chaCha20Poly1305
  | dataCipher => dataCipher

theorem requestedDataCipher_encryptionMethod (dataCipher : DataCipher) :
    requestedDataCipher (encryptionMethod dataCipher) = .ok dataCipher.requested := by
  cases dataCipher <;> rfl

@[simp] theorem FixedHeader.bytes_length (fixed : FixedHeader)
    (ivLength : fixed.dataEncryptionIv.length = 16) (keyLength : fixed.dataEncryptionKey.length = 16) :
    fixed.bytes.length = 38 := by
  simp [FixedHeader.bytes, ivLength, keyLength]

theorem FixedHeader.ofBytes_bytes (fixed : FixedHeader)
    (ivLength : fixed.dataEncryptionIv.length = 16) (keyLength : fixed.dataEncryptionKey.length = 16) :
    FixedHeader.ofBytes fixed.bytes = .ok fixed := by
  have tail : fixed.bytes.drop 33 = [fixed.responseAuthenticationV, fixed.option,
      fixed.marginAndCipher, fixed.reserved, fixed.command] := by
    simp [FixedHeader.bytes, List.drop_append, ivLength, keyLength]
  unfold FixedHeader.ofBytes
  rw [tail]
  simp [FixedHeader.bytes, List.drop_append, ivLength, keyLength]

theorem encryptionMethod_lt (dataCipher : DataCipher) : (encryptionMethod dataCipher).toNat < 16 := by
  cases dataCipher <;> decide

theorem readDestination_encodeDestination {location : NetLocation} {destination : List UInt8}
    {address : Address} (encoded : encodeDestination location = .ok destination)
    (received : receivedAddress location.address = .ok address) {command : UInt8}
    (notMux : command ≠ commandMux) (hash : UInt32) (rest : List UInt8) :
    readDestination command hash (destination ++ rest) =
      .ok (⟨address, location.port⟩, Fnv1aHasher.write hash destination, rest) := by
  obtain ⟨high, low, portEq, wordEq⟩ := u16ToBe_pair location.port
  unfold encodeDestination at encoded
  unfold readDestination
  rw [if_neg notMux]
  cases addressEq : location.address with
  | ipv4 addr =>
    simp only [addressEq, receivedAddress, Except.ok.injEq] at encoded received
    subst encoded received
    have spelled : u16ToBe location.port ++ 1 :: addr.octets ++ rest =
        [high, low, 1] ++ (addr.octets ++ rest) := by
      simp [portEq]
    rw [spelled, @Buf.take_append_of_length [high, low, 1] 3 _ rfl, ok_bind]
    simp only [slice, byteAt]
    simp [Buf.take_append_of_length rest addr.octets_length, wordEq, portEq]
  | ipv6 addr =>
    simp only [addressEq, receivedAddress, Except.ok.injEq] at encoded received
    subst encoded received
    have spelled : u16ToBe location.port ++ 3 :: addr.octets ++ rest =
        [high, low, 3] ++ (addr.octets ++ rest) := by
      simp [portEq]
    rw [spelled, @Buf.take_append_of_length [high, low, 3] 3 _ rfl, ok_bind]
    simp only [slice, byteAt]
    simp [Buf.take_append_of_length rest addr.octets_length, wordEq, portEq]
  | hostname name =>
    simp only [addressEq, receivedAddress] at encoded received
    split_ifs at encoded received with tooLong
    simp only [Except.ok.injEq] at encoded
    subst encoded
    -- the length byte reads back as the hostname's length
    have lengthByte : (strBytes name).length % 256 = (strBytes name).length :=
      Nat.mod_eq_of_lt (by omega)
    have spelled : u16ToBe location.port ++ 2 :: UInt8.ofNat (strBytes name).length :: strBytes name ++
        rest = [high, low, 2] ++ ([UInt8.ofNat (strBytes name).length] ++ (strBytes name ++ rest)) := by
      simp [portEq]
    rw [spelled, @Buf.take_append_of_length [high, low, 2] 3 _ rfl, ok_bind]
    simp only [slice, byteAt]
    rw [@Buf.take_append_of_length [UInt8.ofNat (strBytes name).length] 1 _ rfl]
    simp [lengthByte, wordEq, portEq, received]


theorem encodeDestination_of_received {location : NetLocation} {address : Address}
    (received : receivedAddress location.address = .ok address) :
    ∃ destination, encodeDestination location = .ok destination := by
  unfold encodeDestination
  cases addressEq : location.address with
  | ipv4 addr => exact ⟨_, rfl⟩
  | ipv6 addr => exact ⟨_, rfl⟩
  | hostname name =>
    simp only [addressEq, receivedAddress] at received
    split_ifs at received with tooLong
    exact ⟨_, if_neg tooLong⟩

theorem encodeDestination_length {location : NetLocation} {destination : List UInt8}
    (encoded : encodeDestination location = .ok destination) : destination.length ≤ 259 := by
  unfold encodeDestination at encoded
  split at encoded
  · cases encoded
    simp [Ipv4Addr.octets_length]
  · cases encoded
    simp [Ipv6Addr.octets_length]
  · split_ifs at encoded with tooLong
    cases encoded
    simp only [List.length_append, u16ToBe_length, List.length_cons]
    omega

theorem readInstruction_encodeInstruction {handler : ClientHandler} {random : ClientRandom}
    {location : NetLocation} {instruction : List UInt8} {address : Address}
    (encoded : encodeInstruction handler random location = .ok instruction)
    (received : receivedAddress location.address = .ok address) (tail : List UInt8) :
    readInstruction (instruction ++ tail) =
      .ok (random.fixedHeader handler.dataCipher, ⟨address, location.port⟩) := by
  obtain ⟨destination, destinationEq, encoded⟩ := bind_eq_ok encoded
  simp only [Except.ok.injEq] at encoded
  subst encoded
  have fixedLength := (random.fixedHeader handler.dataCipher).bytes_length
    random.dataEncryptionIv_length random.dataEncryptionKey_length
  have fixedRead := (random.fixedHeader handler.dataCipher).ofBytes_bytes
    random.dataEncryptionIv_length random.dataEncryptionKey_length
  have marginLen : (random.fixedHeader handler.dataCipher).marginAndCipher >>> 4 =
      random.marginRandom &&& 0xf :=
    nibbles_high _ _ (low_nibble_lt _) (encryptionMethod_lt _)
  unfold readInstruction
  simp only [List.append_assoc]
  have versionEq : (random.fixedHeader handler.dataCipher).version = 1 := rfl
  have commandEq : (random.fixedHeader handler.dataCipher).command = commandTcp := rfl
  rw [Buf.take_append_of_length _ fixedLength, ok_bind, fixedRead, ok_bind]
  simp only [versionEq, commandEq, ne_eq, not_true_eq_false, if_false, marginLen]
  rw [readDestination_encodeDestination destinationEq received (by decide), ok_bind]
  -- the margin is read exactly when the client wrote one
  by_cases withMargin : 0 < random.marginRandom &&& 0xf
  · simp only [withMargin, if_true]
    rw [Buf.take_append_of_length _ random.marginBytes_length, ok_bind, pure_eq_ok, ok_bind,
      Buf.take_append_of_length _ (u32ToBe_length _), ok_bind, u32FromBe_u32ToBe]
    simp
  · simp only [withMargin, if_false]
    rw [pure_eq_ok, ok_bind, List.nil_append, Buf.take_append_of_length _ (u32ToBe_length _), ok_bind,
      u32FromBe_u32ToBe]
    simp


theorem encodeInstruction_length {handler : ClientHandler} {random : ClientRandom}
    {location : NetLocation} {instruction : List UInt8}
    (encoded : encodeInstruction handler random location = .ok instruction) :
    instruction.length ≤ 316 := by
  obtain ⟨destination, destinationEq, encoded⟩ := bind_eq_ok encoded
  simp only [Except.ok.injEq] at encoded
  subst encoded
  have fixedLength := (random.fixedHeader handler.dataCipher).bytes_length
    random.dataEncryptionIv_length random.dataEncryptionKey_length
  have destinationLength := encodeDestination_length destinationEq
  have marginLength : (if 0 < random.marginRandom &&& 0xf then random.marginBytes else []).length ≤ 15 := by
    have small := low_nibble_lt random.marginRandom
    split_ifs
    · rw [random.marginBytes_length]
      omega
    · simp
  simp only [List.length_append, u32ToBe_length]
  omega

theorem readSlice_append {front : List UInt8} {count : Nat} (rest : List UInt8)
    (length : front.length = count) (fits : count ≤ 8192) :
    readSlice count (front ++ rest) = .ok (front, rest) := by
  subst length
  simp [readSlice, fits]

theorem checkAuthId_encodeAuthId (prims : Primitives) (instructionKey : List UInt8)
    (now timeSecs : UInt64) {authIdRandom : List UInt8} (fourBytes : authIdRandom.length = 4) :
    checkAuthId prims instructionKey now (encodeAuthId prims instructionKey timeSecs authIdRandom) =
      let timeDelta := absDiff timeSecs now
      if 120 < timeDelta then
        fail .invalidData s!"Hash timestamp is too old ({timeSecs} is {timeDelta} seconds old)"
      else .ok () := by
  have block : (u64ToBe timeSecs ++ authIdRandom ++
      u32ToBe (crc32c (u64ToBe timeSecs ++ authIdRandom))).length = prims.aes128.blockLength := by
    simp [fourBytes, prims.aes128_blockLength]
  -- the CRC covers the first twelve bytes, the timestamp the first eight
  have checked := slice_append [] (u64ToBe timeSecs ++ authIdRandom)
    (u32ToBe (crc32c (u64ToBe timeSecs ++ authIdRandom)))
  have stored := slice_append (u64ToBe timeSecs ++ authIdRandom)
    (u32ToBe (crc32c (u64ToBe timeSecs ++ authIdRandom))) []
  have stamped := slice_append [] (u64ToBe timeSecs)
    (authIdRandom ++ u32ToBe (crc32c (u64ToBe timeSecs ++ authIdRandom)))
  simp only [List.nil_append, List.append_nil, List.length_nil, List.length_append, u64ToBe_length,
    u32ToBe_length, fourBytes, List.append_assoc] at checked stored stamped
  unfold checkAuthId encodeAuthId
  rw [prims.aes128.decrypt_encrypt _ _ block]
  simp only [List.append_assoc]
  rw [checked, ok_bind, stored, ok_bind, u32FromBe_u32ToBe, if_neg (not_not.mpr rfl), stamped,
    ok_bind, u64FromBe_u64ToBe]

theorem openLength_sealLength (prims : Primitives) (instructionKey certHash nonce plaintext : List UInt8) :
    openLength prims instructionKey certHash nonce (sealLength prims instructionKey certHash nonce plaintext) =
      some (plaintext ++ (prims.aes128Gcm.sealWithTag
        (headerKdf prims instructionKey "VMess Header AEAD Key_Length" 16 certHash nonce)
        (headerKdf prims instructionKey "VMess Header AEAD Nonce_Length" 12 certHash nonce) certHash
        plaintext).2) :=
  prims.aes128Gcm.openInPlace_sealed _ _ _ plaintext

theorem openHeader_sealHeader (prims : Primitives) (instructionKey certHash nonce plaintext : List UInt8) :
    openHeader prims instructionKey certHash nonce (sealHeader prims instructionKey certHash nonce plaintext) =
      some (plaintext ++ (prims.aes128Gcm.sealWithTag
        (headerKdf prims instructionKey "VMess Header AEAD Key" 16 certHash nonce)
        (headerKdf prims instructionKey "VMess Header AEAD Nonce" 12 certHash nonce) certHash
        plaintext).2) :=
  prims.aes128Gcm.openInPlace_sealed _ _ _ plaintext

theorem sealLength_length (prims : Primitives) (instructionKey certHash nonce plaintext : List UInt8) :
    (sealLength prims instructionKey certHash nonce plaintext).length = plaintext.length + 16 := by
  simp [sealLength, prims.aes128Gcm_tagLength, tagLen]

theorem sealHeader_length (prims : Primitives) (instructionKey certHash nonce plaintext : List UInt8) :
    (sealHeader prims instructionKey certHash nonce plaintext).length = plaintext.length + 16 := by
  simp [sealHeader, prims.aes128Gcm_tagLength, tagLen]

theorem encodeAuthId_length (prims : Primitives) (instructionKey : List UInt8) (timeSecs : UInt64)
    {authIdRandom : List UInt8} (fourBytes : authIdRandom.length = 4) :
    (encodeAuthId prims instructionKey timeSecs authIdRandom).length = 16 := by
  rw [← prims.aes128_blockLength]
  exact prims.aes128.encrypt_length _ _ (by simp [fourBytes, prims.aes128_blockLength])

/-- Within the timestamp window, a server of the same user whose cipher setting allows the
client's reads back the fixed header, the destination and the cipher the client sent, and
leaves exactly the bytes after the header unread. -/
theorem setupServerStream_setupClientTcpStream (prims : Primitives) (client : ClientHandler)
    (server : ServerHandler) (sameUser : server.instructionKey = client.instructionKey)
    (allowed : server.dataCipher = .any ∨ server.dataCipher = client.dataCipher.requested)
    (clientNow serverNow : UInt64) (random : ClientRandom) (location : NetLocation) {address : Address}
    (received : receivedAddress location.address = .ok address)
    (inWindow : absDiff (clientNow - 120 + random.randomDelta) serverNow ≤ 120) (unparsed : List UInt8) :
    ∃ request, setupClientTcpStream prims client clientNow random location = .ok request ∧
      setupServerStream prims server serverNow (request ++ unparsed) =
        .ok ⟨.tcpForward, random.fixedHeader client.dataCipher, ⟨address, location.port⟩,
          client.dataCipher.requested, true, false,
          encryptedResponseHeader prims random.dataEncryptionIv random.dataEncryptionKey
            random.responseAuthenticationV, unparsed⟩ := by
  obtain ⟨destination, destinationEq⟩ := encodeDestination_of_received received
  obtain ⟨instruction, encoded⟩ :
      ∃ instruction, encodeInstruction client random location = .ok instruction := by
    unfold encodeInstruction
    rw [destinationEq]
    exact ⟨_, rfl⟩
  have instructionLength := encodeInstruction_length encoded
  refine ⟨_, by unfold setupClientTcpStream; rw [encoded]; rfl, ?_⟩
  unfold setupServerStream
  rw [sameUser]
  simp only [List.append_assoc]
  -- the auth ID, then the sealed length and the nonce
  rw [readSlice_append _ (encodeAuthId_length _ _ _ random.authIdRandom_length) (by omega), ok_bind,
    checkAuthId_encodeAuthId _ _ _ _ random.authIdRandom_length]
  simp only [if_neg (UInt64.not_lt.mpr inWindow), ok_bind]
  rw [readSlice_append _ (by simp [sealLength_length]) (by omega), ok_bind,
    readSlice_append _ random.nonce_length (by omega), ok_bind]
  dsimp only
  rw [openLength_sealLength]
  dsimp only
  -- the length the server reads is the instruction's
  have payloadLength : (UInt16.ofNat instruction.length).toNat = instruction.length := by
    rw [UInt16.toNat_ofNat', Nat.mod_eq_of_lt (by omega)]
  rw [slice_front _ (u16ToBe_length _), ok_bind, u16FromBe_u16ToBe, payloadLength,
    readSlice_append _ (by simp [sealHeader_length, tagLen]) (by simp [tagLen]; omega), ok_bind]
  dsimp only
  rw [openHeader_sealHeader]
  dsimp only
  rw [readInstruction_encodeInstruction encoded received, ok_bind]
  -- the fixed header asks for chunk masking and the client's cipher
  have optionEq : (random.fixedHeader client.dataCipher).option = 0x05 := by
    simp only [ClientRandom.fixedHeader]
    decide
  have optionChecked : checkOption (random.fixedHeader client.dataCipher).option = .ok (true, false) := by
    rw [optionEq]
    decide
  have cipherBits : (random.fixedHeader client.dataCipher).marginAndCipher &&& 15 =
      encryptionMethod client.dataCipher :=
    nibbles_low _ _ (low_nibble_lt _) (encryptionMethod_lt _)
  have permitted : ¬(server.dataCipher ≠ .any ∧ client.dataCipher.requested ≠ server.dataCipher) := by
    rintro ⟨notAny, other⟩
    rcases allowed with isAny | same
    · exact notAny isAny
    · exact other same.symm
  rw [optionChecked, ok_bind, cipherBits, requestedDataCipher_encryptionMethod, ok_bind, if_neg permitted]
  rfl

/-- Stand-in primitives for running the model on concrete inputs: both ciphers are the
identity with a zero tag, and the hash is constant. -/
def identityPrimitives : Primitives where
  sha256 := fun _ => List.replicate 32 0
  aes128 := ⟨16, fun _ block => block, fun _ block => block, fun _ _ fits => fits, fun _ _ _ => rfl⟩
  aes128Gcm := Cipher.Aead.transparent
  aes128_blockLength := rfl
  aes128Gcm_tagLength := rfl

/-- Keyed stand-in primitives for running the model on concrete inputs: the block cipher and the
AEAD XOR with their key, the AEAD's tag sums what it covers, and the hash is sixteen copies of
the sum of the bytes it hashes, twice. -/
def keyedPrimitives : Primitives where
  sha256 := fun data => List.replicate 32 (Cipher.byteSum data)
  aes128 := Cipher.BlockCipher.keyedXor 16
  aes128Gcm := Cipher.Aead.keyedXor
  aes128_blockLength := rfl
  aes128Gcm_tagLength := rfl

/-- A client that draws the earliest timestamp, `random_delta` 0, and zeros for the rest. -/
def earliestRandom : ClientRandom :=
  ⟨0, by decide, [0, 0, 0, 0], rfl, List.replicate 16 0, List.length_replicate, List.replicate 16 0,
    List.length_replicate, 0, 0, [], rfl, List.replicate 8 0, rfl⟩

theorem header_round_trip_sample :
    absDiff (1700000000 - 120 + earliestRandom.randomDelta) 1700000000 ≤ 120 ∧
      ∃ request, setupClientTcpStream keyedPrimitives ⟨.aes128Gcm, [7]⟩ 1700000000 earliestRandom
          ⟨.ipv4 ⟨[1, 2, 3, 4], rfl⟩, 443⟩ = .ok request ∧
        setupServerStream keyedPrimitives ⟨.any, [7], false⟩ 1700000000 (request ++ [9]) =
          .ok ⟨.tcpForward, earliestRandom.fixedHeader .aes128Gcm, ⟨.ipv4 ⟨[1, 2, 3, 4], rfl⟩, 443⟩,
            .aes128Gcm, true, false,
            encryptedResponseHeader keyedPrimitives earliestRandom.dataEncryptionIv
              earliestRandom.dataEncryptionKey earliestRandom.responseAuthenticationV, [9]⟩ :=
  ⟨by decide, setupServerStream_setupClientTcpStream keyedPrimitives ⟨.aes128Gcm, [7]⟩
    ⟨.any, [7], false⟩ rfl (Or.inl rfl) 1700000000 1700000000 earliestRandom
    ⟨.ipv4 ⟨[1, 2, 3, 4], rfl⟩, 443⟩ rfl (by decide) [9]⟩

theorem setupServerStream_late_earliest (prims : Primitives) (client : ClientHandler)
    (udpEnabled : Bool) (unparsed : List UInt8) :
    ∃ request, setupClientTcpStream prims client 1700000000 earliestRandom
        ⟨.ipv4 ⟨[1, 2, 3, 4], rfl⟩, 443⟩ = .ok request ∧
      setupServerStream prims ⟨client.dataCipher, client.instructionKey, udpEnabled⟩ 1700000001
          (request ++ unparsed) =
        fail .invalidData "Hash timestamp is too old (1699999880 is 121 seconds old)" := by
  refine ⟨_, rfl, ?_⟩
  unfold setupServerStream
  simp only [List.append_assoc]
  rw [readSlice_append _ (encodeAuthId_length _ _ _ earliestRandom.authIdRandom_length) (by omega),
    ok_bind, checkAuthId_encodeAuthId _ _ _ _ earliestRandom.authIdRandom_length]
  -- the timestamp is 1699999880, 121 seconds behind the server
  have late : absDiff (1700000000 - 120 + earliestRandom.randomDelta) 1700000001 = 121 := by decide
  simp only [late, if_pos (show (120 : UInt64) < 121 by decide)]
  rfl

/-- The sample user of `header_round_trip_sample`, one second behind the server. -/
theorem late_timestamp_rejected :
    ∃ request, setupClientTcpStream identityPrimitives ⟨.aes128Gcm, [7]⟩ 1700000000 earliestRandom
        ⟨.ipv4 ⟨[1, 2, 3, 4], rfl⟩, 443⟩ = .ok request ∧
      setupServerStream identityPrimitives ⟨.aes128Gcm, [7], false⟩ 1700000001 (request ++ [9]) =
        fail .invalidData "Hash timestamp is too old (1699999880 is 121 seconds old)" :=
  setupServerStream_late_earliest identityPrimitives ⟨.aes128Gcm, [7]⟩ false [9]

end Shoes.Vmess
