import Shoes.RuleMasks

/-!
# The HTTP proxy server

`setup_http_server_stream_inner` of `http_handler.rs`: the request line and header block of an
HTTP proxy request, read line by line through a `StreamReader`. A CONNECT request names its
target between `CONNECT ` and the HTTP version; any other request names an `http://` URL, and
is forwarded with its headers, less the connection headers, and `Connection: close`. With an
authentication token configured, one header line must be `Proxy-Authorization: Basic` with the
token; without one, the request is refused.

Rust strings are sliced at byte offsets, and a slice whose end is not a character boundary
panics. The checks of the request line make every slice of it fall on a boundary, and so do those
of the forwarded request's headers; but a CONNECT request's header line is cut at byte 27 before
anything checks that it starts with the ASCII prefix, so a header with a character across that
byte panics (`connect_header_split_char_panics`).

The response written before a missing-authentication error, and the `Display` text of the
stream's own errors, are not modelled.
-/

namespace Shoes.HttpHandler

open Wire ClientProxySelector

def proxyAuthHeaderPrefix : String := "proxy-authorization: basic "

def connectionHeaderPrefix : String := "connection: "

def proxyConnectionHeaderPrefix : String := "proxy-connection: "

/-- The buffer of `StreamReader::new`. -/
def defaultBufferSize : Nat := 32768

/-- `str::is_char_boundary`: the start, the end, or an offset whose byte does not continue a
character. -/
def isCharBoundary (text : String) (index : Nat) : Bool :=
  index == 0 ||
    match (strBytes text)[index]? with
    | none => index == (strBytes text).length
    | some byte => byte < 0x80 || 0xC0 ≤ byte

/-- `&text[start..stop]`, which panics unless the ends are in order and are character
boundaries. -/
def sliceStr (text : String) (start stop : Nat) : Result String :=
  if start ≤ stop ∧ isCharBoundary text start ∧ isCharBoundary text stop then
    .ok (strSlice text start stop)
  else abort

def toAsciiLowercase (text : String) : String :=
  String.ofList (text.toList.map Char.toLower)

/-- `str::starts_with` of a string. -/
def startsWith (text pattern : String) : Bool :=
  (strBytes pattern).isPrefixOf (strBytes text)

/-- `str::ends_with` of a string. -/
def endsWith (text pattern : String) : Bool :=
  (strBytes pattern).isSuffixOf (strBytes text)

/-- `str::find` of an ASCII character, given by its byte: its byte offset. -/
def findByte (text : String) (byte : UInt8) : Option Nat :=
  (strBytes text).idxOf? byte

/-- `parse::<u16>`, its error returned as `InvalidData`. -/
def parsePort (text : String) : Result UInt16 :=
  match parseUnsigned 65536 (strBytes text) with
  | .ok port => .ok (UInt16.ofNat port)
  | .error err => fail .invalidData err.display

/-- The checks on the request line, and its HTTP version `line[line.len() - 8..]`. -/
def requestVersion (line : String) : Result String :=
  if !(endsWith line " HTTP/1.0" || endsWith line " HTTP/1.1") then
    fail .invalidInput ("Unrecognized http request: " ++ line)
  else if (strBytes line).length < 19 then fail .invalidInput ("Invalid http request: " ++ line)
  else sliceStr line ((strBytes line).length - 8) (strBytes line).length

/-- The target of a CONNECT request: the text between `CONNECT ` and the HTTP version, split at
its first `:` into an address and a port. -/
def connectLocation (line : String) : Result NetLocation := do
  let address ← sliceStr line 8 ((strBytes line).length - 9)
  let separatorIndex ← match findByte address 58 with
    | none => fail .invalidInput "Invalid address format"
    | some index => .ok index
  if (strBytes address).length ≤ separatorIndex + 1 then fail .invalidInput "Invalid address format"
  else do
    let domainName ← sliceStr address 0 separatorIndex
    let port ← parsePort (← sliceStr address (separatorIndex + 1) (strBytes address).length)
    let address ← liftIo (Address.fromStr domainName)
    .ok ⟨address, port⟩

/-- The target of a forwarded request `directive http://address/location HTTP/1.x`: the
location to connect to, the directive, and the path, `/` when the URL has none; the port is 80
unless the address gives one after a `:`. -/
def forwardTarget (line httpVersion : String) : Result (NetLocation × String × String) := do
  let line ← sliceStr line 0 ((strBytes line).length - 9)
  let spaceIndex ← match findByte line 32 with
    | none => fail .invalidInput ("Unrecognized http request: " ++ line ++ " " ++ httpVersion)
    | some index => .ok index
  let directive ← sliceStr line 0 spaceIndex
  let url ← sliceStr line (spaceIndex + 1) (strBytes line).length
  if !startsWith url "http://" then fail .invalidInput ("Unsupported http forward url: " ++ url)
  else do
    let url ← sliceStr url 7 (strBytes url).length
    let (address, location) ← match findByte url 47 with
      | some index => do .ok (← sliceStr url 0 index, ← sliceStr url index (strBytes url).length)
      | none => .ok (url, "/")
    let remoteLocation ← match findByte address 58 with
      | some index => do
        let port ← parsePort (← sliceStr address (index + 1) (strBytes address).length)
        .ok ⟨← liftIo (Address.fromStr (← sliceStr address 0 index)), port⟩
      | none => do .ok ⟨← liftIo (Address.fromStr address), 80⟩
    .ok (remoteLocation, directive, location)

/-- The header loop of a CONNECT request, up to the empty line. While authentication is needed,
a line longer than the prefix has its first 27 bytes compared with the prefix in lower case, and
if they match, the rest must be the token. Whether authentication is still needed, and the bytes
after the empty line. -/
def connectHeaders (authToken : Option String) (needAuth : Bool) (input : List UInt8) :
    Result (Bool × List UInt8) :=
  match reading : StreamReader.readLine defaultBufferSize input with
  | .error fault => .error fault
  | .ok (line, rest) =>
    if line.isEmpty then .ok (needAuth, rest)
    else if needAuth ∧ (strBytes proxyAuthHeaderPrefix).length + 1 < (strBytes line).length then do
      -- the line is cut before its prefix is known to be ASCII
      let head ← sliceStr line 0 (strBytes proxyAuthHeaderPrefix).length
      if toAsciiLowercase head = proxyAuthHeaderPrefix then do
        let credentials ← sliceStr line (strBytes proxyAuthHeaderPrefix).length (strBytes line).length
        let token ← expect authToken
        if credentials ≠ token then fail .invalidInput "Incorrect HTTP CONNECT authentication"
        else connectHeaders authToken false rest
      else connectHeaders authToken needAuth rest
    else connectHeaders authToken needAuth rest
termination_by input.length
decreasing_by all_goals exact StreamReader.readLine_shorter reading

/-- The header loop of a forwarded request, up to the empty line: an authentication line is
checked while authentication is needed and dropped, connection headers are dropped, and other
lines are added to the request, which may not grow past 16384 bytes. Whether authentication is
still needed, the request, and the bytes after the empty line. -/
def forwardHeaders (authToken : Option String) (needAuth : Bool) (request : String)
    (input : List UInt8) : Result (Bool × String × List UInt8) :=
  match reading : StreamReader.readLine defaultBufferSize input with
  | .error fault => .error fault
  | .ok (line, rest) =>
    if line.isEmpty then .ok (needAuth, request, rest)
    else
      let lowercaseLine := toAsciiLowercase line
      if (strBytes proxyAuthHeaderPrefix).length + 1 < (strBytes line).length ∧
          startsWith lowercaseLine proxyAuthHeaderPrefix then
        if needAuth then do
          let credentials ←
            sliceStr line (strBytes proxyAuthHeaderPrefix).length (strBytes line).length
          let token ← expect authToken
          if credentials ≠ token then fail .invalidInput "Incorrect HTTP GET authentication"
          else forwardHeaders authToken false request rest
        else forwardHeaders authToken needAuth request rest
      else if startsWith lowercaseLine connectionHeaderPrefix ∨
          startsWith lowercaseLine proxyConnectionHeaderPrefix then
        forwardHeaders authToken needAuth request rest
      else
        let request := request ++ line ++ "\r\n"
        if 16384 < (strBytes request).length then fail .invalidData "HTTP GET request is too long"
        else forwardHeaders authToken needAuth request rest
termination_by input.length
decreasing_by all_goals exact StreamReader.readLine_shorter reading

theorem connectHeaders_line {authToken : Option String} {needAuth : Bool}
    {input rest : List UInt8} {line : String}
    (read : StreamReader.readLine defaultBufferSize input = .ok (line, rest)) :
    connectHeaders authToken needAuth input =
      if line.isEmpty then .ok (needAuth, rest)
      else if needAuth ∧ (strBytes proxyAuthHeaderPrefix).length + 1 < (strBytes line).length then do
        let head ← sliceStr line 0 (strBytes proxyAuthHeaderPrefix).length
        if toAsciiLowercase head = proxyAuthHeaderPrefix then do
          let credentials ←
            sliceStr line (strBytes proxyAuthHeaderPrefix).length (strBytes line).length
          let token ← expect authToken
          if credentials ≠ token then fail .invalidInput "Incorrect HTTP CONNECT authentication"
          else connectHeaders authToken false rest
        else connectHeaders authToken needAuth rest
      else connectHeaders authToken needAuth rest := by
  rw [connectHeaders]
  split
  · rename_i fault failed
    rw [read] at failed
    cases failed
  · rename_i line' rest' reading
    rw [read] at reading
    cases reading
    rfl

/-- The `TcpForward` result of a request: where to connect, the response for the client, the
request to send first, whether to flush, and the client's bytes after the header block (those
already buffered are sent as initial data). -/
structure HttpForward where
  remoteLocation : NetLocation
  connectionSuccessResponse : Option String
  request : Option String
  needInitialFlush : Bool
  afterHeaders : List UInt8
  deriving DecidableEq

/-- `setup_http_server_stream_inner` on the bytes the client sends. -/
def setupHttpServerStreamInner (authToken : Option String) (input : List UInt8) :
    Result HttpForward := do
  let (line, input) ← StreamReader.readLine defaultBufferSize input
  let httpVersion ← requestVersion line
  if startsWith line "CONNECT " then do
    let remoteLocation ← connectLocation line
    let (needAuth, input) ← connectHeaders authToken authToken.isSome input
    if needAuth then fail .invalidInput "Missing HTTP CONNECT authentication"
    else
      .ok ⟨remoteLocation, some (httpVersion ++ " 200 Connection established\r\n\r\n"), none, true,
        input⟩
  else do
    let (remoteLocation, directive, location) ← forwardTarget line httpVersion
    let (needAuth, request, input) ← forwardHeaders authToken authToken.isSome
      (directive ++ " " ++ location ++ " " ++ httpVersion ++ "\r\n") input
    if needAuth then fail .invalidInput "Missing HTTP GET authentication"
    else .ok ⟨remoteLocation, none, some (request ++ "Connection: close\r\n\r\n"), false, input⟩

/-- With authentication on, a CONNECT request whose first header line has more than 28 bytes and
a character across byte 27 makes the handler panic: the line is cut at byte 27 before anything
checks that it starts with the ASCII prefix. -/
theorem connect_header_split_char_panics {token requestLine header version : String}
    {location : NetLocation} (rest : List UInt8)
    (requestUnbroken : (10 : UInt8) ∉ strBytes requestLine)
    (requestFits : (strBytes requestLine).length + 2 ≤ defaultBufferSize)
    (versioned : requestVersion requestLine = .ok version)
    (connect : startsWith requestLine "CONNECT " = true)
    (target : connectLocation requestLine = .ok location)
    (headerUnbroken : (10 : UInt8) ∉ strBytes header)
    (headerFits : (strBytes header).length + 2 ≤ defaultBufferSize)
    (long : 28 < (strBytes header).length) (splitChar : isCharBoundary header 27 = false) :
    setupHttpServerStreamInner (some token)
      (strBytes requestLine ++ 13 :: 10 :: strBytes header ++ 13 :: 10 :: rest) = abort := by
  have firstLine := StreamReader.readLine_crlf (strBytes header ++ 13 :: 10 :: rest)
    requestUnbroken requestFits
  have headerLine := StreamReader.readLine_crlf rest headerUnbroken headerFits
  have prefixLength : (strBytes proxyAuthHeaderPrefix).length = 27 := by decide
  have nonempty : header.isEmpty = false := by
    rw [strBytes_length] at long
    simp only [String.isEmpty, beq_eq_false_iff_ne, ne_eq]
    omega
  have cut : sliceStr header 0 27 = abort := by
    simp [sliceStr, splitChar]
  have headers : connectHeaders (some token) true (strBytes header ++ 13 :: 10 :: rest) = abort := by
    rw [connectHeaders_line headerLine, if_neg (by simp [nonempty]), if_pos ⟨rfl, by omega⟩,
      prefixLength, cut]
    rfl
  rw [List.append_assoc, List.cons_append, List.cons_append, setupHttpServerStreamInner]
  simp [firstLine, versioned, connect, target, headers]

theorem connect_header_split_char_panics_sample :
    (10 : UInt8) ∉ strBytes "CONNECT a.b:1 HTTP/1.1" ∧
      (strBytes "CONNECT a.b:1 HTTP/1.1").length + 2 ≤ defaultBufferSize ∧
      requestVersion "CONNECT a.b:1 HTTP/1.1" = .ok "HTTP/1.1" ∧
      startsWith "CONNECT a.b:1 HTTP/1.1" "CONNECT " = true ∧
      connectLocation "CONNECT a.b:1 HTTP/1.1" = .ok ⟨.hostname "a.b", 1⟩ ∧
      (10 : UInt8) ∉ strBytes "aaaaaaaaaaaaaaaaaaaaaaaaaaéxx" ∧
      (strBytes "aaaaaaaaaaaaaaaaaaaaaaaaaaéxx").length + 2 ≤ defaultBufferSize ∧
      28 < (strBytes "aaaaaaaaaaaaaaaaaaaaaaaaaaéxx").length ∧
      isCharBoundary "aaaaaaaaaaaaaaaaaaaaaaaaaaéxx" 27 = false ∧
      setupHttpServerStreamInner (some "dXNlcjpwYXNz")
        (strBytes "CONNECT a.b:1 HTTP/1.1" ++ 13 :: 10 :: strBytes "aaaaaaaaaaaaaaaaaaaaaaaaaaéxx" ++ 13 :: 10 :: []) = abort := by
  have requestUnbroken : (10 : UInt8) ∉ strBytes "CONNECT a.b:1 HTTP/1.1" := by decide
  have requestFits : (strBytes "CONNECT a.b:1 HTTP/1.1").length + 2 ≤ defaultBufferSize := by decide
  have versioned : requestVersion "CONNECT a.b:1 HTTP/1.1" = .ok "HTTP/1.1" := by decide
  have connect : startsWith "CONNECT a.b:1 HTTP/1.1" "CONNECT " = true := by decide
  have target : connectLocation "CONNECT a.b:1 HTTP/1.1" = .ok ⟨.hostname "a.b", 1⟩ := by decide
  have headerUnbroken : (10 : UInt8) ∉ strBytes "aaaaaaaaaaaaaaaaaaaaaaaaaaéxx" := by decide
  have headerFits : (strBytes "aaaaaaaaaaaaaaaaaaaaaaaaaaéxx").length + 2 ≤ defaultBufferSize := by decide
  have long : 28 < (strBytes "aaaaaaaaaaaaaaaaaaaaaaaaaaéxx").length := by decide
  have splitChar : isCharBoundary "aaaaaaaaaaaaaaaaaaaaaaaaaaéxx" 27 = false := by decide
  exact ⟨requestUnbroken, requestFits, versioned, connect, target, headerUnbroken, headerFits, long,
    splitChar, connect_header_split_char_panics [] requestUnbroken requestFits versioned connect
      target headerUnbroken headerFits long splitChar⟩

end Shoes.HttpHandler
