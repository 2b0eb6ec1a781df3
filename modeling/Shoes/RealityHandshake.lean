import Shoes.Wire

/-!
# The Reality client's encrypted handshake

After the ServerHello, a Reality client reads the server's encrypted handshake flight:
EncryptedExtensions, Certificate, CertificateVerify and Finished, each a one-byte type, a
24-bit length and a body, in one or more TLS records. `process_encrypted_handshake` decrypts
one record at a time, appends its plaintext to what earlier records gave, and scans the new
plaintext for messages, checking the certificate and remembering where CertificateVerify
starts. Once all four are found it checks the CertificateVerify signature over the transcript
before it, and the transcript of the whole flight determines the client Finished and the
application keys.

The AEAD, the certificate's HMAC and key extraction, and the signature check are
cryptography the model takes as parameters; the message scan and the record handling are
the code's.
-/

namespace Shoes.Reality

open Wire

def tlsRecordHeaderSize : Nat := 5

def contentTypeChangeCipherSpec : UInt8 := 0x14

def contentTypeAlert : UInt8 := 0x15

def contentTypeHandshake : UInt8 := 0x16

def contentTypeApplicationData : UInt8 := 0x17

def handshakeTypeCertificate : UInt8 := 11

def handshakeTypeCertificateVerify : UInt8 := 15

/-- `strip_content_type_with_padding`: drops the zero padding and the content type byte after
the content, which must be handshake, application data or alert. -/
def stripContentTypeWithPadding (plaintext : List UInt8) : Except IoError (List UInt8) :=
  if plaintext.isEmpty then .error ⟨.invalidData, "Empty plaintext"⟩
  else
    match plaintext.reverse.dropWhile (· == 0) with
    | [] => .error ⟨.invalidData, "Plaintext is all zeros"⟩
    | contentType :: reversedContent =>
      if contentType ≠ contentTypeHandshake ∧ contentType ≠ contentTypeApplicationData ∧
          contentType ≠ contentTypeAlert then
        .error ⟨.invalidData, "Invalid content type: 0x" ++ hexByte contentType⟩
      else .ok reversedContent.reverse

/-- The cryptography the handshake relies on, over the type of the server's public key. -/
structure Crypto (κ : Type) where
  /-- `AeadKey::open` with the server handshake key, at a sequence number. -/
  aeadOpen : Nat → List UInt8 → Except IoError (List UInt8)
  /-- `extract_certificate_der`, `verify_certificate_hmac` and `extract_ed25519_public_key`
  on the Certificate message. -/
  verifyCertificate : List UInt8 → Except IoError κ
  /-- `extract_certificate_verify_signature` and `verify_certificate_verify_signature`: the
  key, the transcript before CertificateVerify, and the message. -/
  verifyCertificateVerify : κ → List UInt8 → List UInt8 → Except IoError Unit

def decryptHandshakeMessage {κ : Type} (crypto : Crypto κ) (seq : Nat) (ciphertext : List UInt8) :
    Except IoError (List UInt8) := do
  let plaintext ← crypto.aeadOpen seq ciphertext
  stripContentTypeWithPadding plaintext

/-- The fields of `HandshakeState::ProcessingHandshake` that the processing of the flight
changes. -/
structure Progress (κ : Type) where
  handshakeSeq : Nat
  accumulatedPlaintext : List UInt8
  messagesFound : Nat
  certificateVerified : Bool
  ed25519PublicKey : Option κ
  certVerifyOffset : Option Nat
  deriving DecidableEq

/-- The state when the ServerHello has been processed. -/
def Progress.start {κ : Type} : Progress κ :=
  ⟨0, [], 0, false, none, none⟩

/-- The scan loop of `process_encrypted_handshake`, from `offset`, for at most `fuel` rounds:
each round reads one complete message, checks a Certificate and records where
CertificateVerify starts; it stops at an incomplete header or body, at the end of the
plaintext, or at the fourth message. -/
def scanMessages {κ : Type} (verifyCertificate : List UInt8 → Except IoError κ)
    (accumulated : List UInt8) : Nat → Nat → Progress κ → Except IoError (Progress κ)
  | 0, _, progress => .ok progress
  | fuel + 1, offset, progress =>
    if offset < accumulated.length ∧ progress.messagesFound < 4 then
      if accumulated.length < offset + 4 then .ok progress
      else
        let msgType := accumulated.getD offset 0
        let msgLen := beValue ((accumulated.drop (offset + 1)).take 3)
        if accumulated.length < offset + 4 + msgLen then .ok progress
        else
          let message := (accumulated.drop offset).take (4 + msgLen)
          let verified :=
            if msgType = handshakeTypeCertificate then
              (verifyCertificate message).map fun key =>
                { progress with ed25519PublicKey := some key, certificateVerified := true }
            else .ok progress
          match verified with
          | .error err => .error err
          | .ok progress =>
            let progress :=
              if msgType = handshakeTypeCertificateVerify then
                { progress with certVerifyOffset := some offset }
              else progress
            scanMessages verifyCertificate accumulated fuel (offset + 4 + msgLen)
              { progress with messagesFound := progress.messagesFound + 1 }
    else .ok progress

/-- Where the processing of the flight stands after a record. -/
inductive Outcome (κ : Type)
  | waiting (progress : Progress κ)
  /-- All four messages found and checked: the transcript that gives the client Finished
  and the application keys. -/
  | complete (handshakeTranscript : List UInt8)

/-- `process_encrypted_handshake` once a record has been decrypted: the plaintext is added
to what earlier records gave and only the new part is scanned, from
`prev_accumulated_len`. -/
def processPlaintext {κ : Type} (crypto : Crypto κ) (transcriptBytes : List UInt8)
    (progress : Progress κ) (plaintext : List UInt8) : Result (Outcome κ) := do
  let prevAccumulatedLen := progress.accumulatedPlaintext.length
  let accumulated := progress.accumulatedPlaintext ++ plaintext
  let progress := { progress with
    handshakeSeq := progress.handshakeSeq + 1
    accumulatedPlaintext := accumulated }
  match scanMessages crypto.verifyCertificate accumulated (accumulated.length + 1)
      prevAccumulatedLen progress with
  | .error err => .error (.error err)
  | .ok progress =>
    if progress.messagesFound < 4 then .ok (.waiting progress)
    else if !progress.certificateVerified then
      fail .permissionDenied
        "REALITY handshake failed: Certificate message not received or not verified"
    else
      match progress.ed25519PublicKey, progress.certVerifyOffset with
      | some publicKey, some cvOffset =>
        let cvMsgLen := beValue ((accumulated.drop (cvOffset + 1)).take 3)
        match slice accumulated cvOffset (cvOffset + 4 + cvMsgLen) with
        | .error fault => .error fault
        | .ok cvMessage =>
          match crypto.verifyCertificateVerify publicKey
              (transcriptBytes ++ accumulated.take cvOffset) cvMessage with
          | .error err => .error (.error err)
          | .ok () => .ok (.complete (transcriptBytes ++ accumulated))
      | _, _ =>
        fail .permissionDenied "REALITY handshake failed: CertificateVerify not verified"

/-- `process_encrypted_handshake` on the bytes received, for at most `fuel` records: `none`
when a whole record has not arrived (`Ok(false)`), otherwise the outcome and the bytes after
the record. ChangeCipherSpec records are skipped. -/
def processEncryptedHandshake {κ : Type} (crypto : Crypto κ) (transcriptBytes : List UInt8)
    (progress : Progress κ) : Nat → List UInt8 → Result (Option (Outcome κ × List UInt8))
  | 0, _ => .ok none
  | fuel + 1, buffer =>
    if buffer.length < tlsRecordHeaderSize then .ok none
    else
      let recordType := buffer.getD 0 0
      let recordLen := beValue ((buffer.drop 3).take 2)
      let totalRecordLen := tlsRecordHeaderSize + recordLen
      if buffer.length < totalRecordLen then .ok none
      else if recordType = contentTypeChangeCipherSpec then
        processEncryptedHandshake crypto transcriptBytes progress fuel (buffer.drop totalRecordLen)
      else if recordType ≠ contentTypeApplicationData then
        fail .invalidData ("Expected Application Data record, got 0x" ++ hexByte recordType)
      else
        let ciphertext := (buffer.drop tlsRecordHeaderSize).take recordLen
        match decryptHandshakeMessage crypto progress.handshakeSeq ciphertext with
        | .error err => .error (.error err)
        | .ok plaintext =>
          (processPlaintext crypto transcriptBytes progress plaintext).map fun outcome =>
            some (outcome, buffer.drop totalRecordLen)

/-- The flight processed record by record, from the plaintexts the records decrypt to (with
their content type and padding): each is stripped and processed as it arrives, until the
flight is complete or fails. -/
def feedPlaintexts {κ : Type} (crypto : Crypto κ) (transcriptBytes : List UInt8) :
    Progress κ → List (List UInt8) → Result (Outcome κ)
  | progress, [] => .ok (.waiting progress)
  | progress, decrypted :: rest =>
    match stripContentTypeWithPadding decrypted with
    | .error err => .error (.error err)
    | .ok plaintext =>
      match processPlaintext crypto transcriptBytes progress plaintext with
      | .ok (.waiting progress) => feedPlaintexts crypto transcriptBytes progress rest
      | outcome => outcome

/-- A flight of four small messages (EncryptedExtensions with an empty extension list,
then one-byte Certificate, CertificateVerify and Finished bodies), whatever the cryptography
says of them. In one record it is never left waiting: all four messages are found and the
flight completes or fails on a check. Split after the first three bytes of the
EncryptedExtensions header, the second record is scanned from its own first byte, in the
middle of that header: the scan reads a message of type 2 and length 11 there, then an
incomplete one, and the client waits for records that never come. -/
theorem feedPlaintexts_record_split_in_header {κ : Type} (crypto : Crypto κ)
    (transcriptBytes : List UInt8) :
    feedPlaintexts crypto transcriptBytes .start
        [[8, 0, 0, 0x16], [2, 0, 0, 11, 0, 0, 1, 0xAA, 15, 0, 0, 1, 0xBB, 20, 0, 0, 1, 0xCC, 0x16]] =
      .ok (.waiting ⟨2, [8, 0, 0, 2, 0, 0, 11, 0, 0, 1, 0xAA, 15, 0, 0, 1, 0xBB, 20, 0, 0, 1, 0xCC],
        1, false, none, none⟩) ∧
    ∀ progress, feedPlaintexts crypto transcriptBytes .start
        [[8, 0, 0, 2, 0, 0, 11, 0, 0, 1, 0xAA, 15, 0, 0, 1, 0xBB, 20, 0, 0, 1, 0xCC, 0x16]] ≠
      .ok (.waiting progress) := by
  refine ⟨rfl, fun progress => ?_⟩
  obtain ⟨aeadOpen, verifyCertificate, verifyCertificateVerify⟩ := crypto
  -- the outcome in one record turns on the two checks only
  rcases certified : verifyCertificate [11, 0, 0, 1, 0xAA] with err | key
  · intro waiting
    simp [feedPlaintexts, processPlaintext, scanMessages, stripContentTypeWithPadding, certified,
      contentTypeHandshake, Progress.start, handshakeTypeCertificate,
      handshakeTypeCertificateVerify, beValue, Except.map] at waiting
  · rcases signed : verifyCertificateVerify key
        (transcriptBytes ++ [8, 0, 0, 2, 0, 0, 11, 0, 0, 1, 0xAA]) [15, 0, 0, 1, 0xBB] with err | _
    all_goals
      intro waiting
      simp [feedPlaintexts, processPlaintext, scanMessages, stripContentTypeWithPadding, certified,
        signed, contentTypeHandshake, Progress.start, handshakeTypeCertificate,
        handshakeTypeCertificateVerify, beValue, slice, Except.map] at waiting

end Shoes.Reality
