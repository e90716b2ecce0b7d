import VpnHub.Library.Prog
import VpnHub.Program.Transport

/-! The proxy clients of `ovpn-transport/src/proxy.rs`, from the connection to the proxy on. -/

namespace VpnHub.Transport

open BigEndian

/-- A connection: what has been written to it, and what the other side sends that has not been
read. The other side closes it after that. -/
structure Duplex where
  sent : Bytes := []
  incoming : Bytes
  deriving DecidableEq, Repr

abbrev Handshake := Prog Duplex TransportError

def writeAll (bytes : Bytes) : Handshake Unit :=
  modify fun stream => { stream with sent := stream.sent ++ bytes }

def readExact (n : ℕ) : Handshake Bytes :=
  Prog.ofFun fun stream =>
    if stream.incoming.length < n then
      (.error (.io "early eof".toList), { stream with incoming := [] })
    else (.ok (stream.incoming.take n), { stream with incoming := stream.incoming.drop n })

/-- `{:#04x}`. -/
def hexByte (b : UInt8) : Text :=
  "0x".toList ++ [Nat.digitChar (b.toNat / 16), Nat.digitChar (b.toNat % 16)]

/-- `{:?}` of two bytes. -/
def debugPair (bytes : Bytes) : Text :=
  "[".toList ++ Text.join (bytes.map fun b => Text.ofNat b.toNat) ", ".toList ++ "]".toList

/-! ## SOCKS5 -/

namespace Socks5Client

def failed (reason : Text) : TransportError := .proxyHandshakeFailed "SOCKS5".toList reason

/-- The sub-negotiation of user name and password. -/
def authRequest (u p : Text) : Bytes :=
  [0x01] ++ [UInt8.ofNat (Text.utf8Encode u).length] ++ Text.utf8Encode u ++
    [UInt8.ofNat (Text.utf8Encode p).length] ++ Text.utf8Encode p

def connectRequest (targetHost : Text) (targetPort : UInt16) : Bytes :=
  [0x05, 0x01, 0x00, 0x03] ++ [UInt8.ofNat (Text.utf8Encode targetHost).length] ++
    Text.utf8Encode targetHost ++ toBE 2 targetPort.toNat

/-- Greeting and method negotiation. -/
def negotiate (auth : Option (Text × Text)) : Handshake Unit :=
  match auth with
  | some (u, p) => do
    writeAll [0x05, 0x02, 0x00, 0x02]
    let resp ← readExact 2
    if resp.getD 0 0 ≠ 0x05 then
      throw (failed ("Unsupported SOCKS version: ".toList ++ Text.ofNat (resp.getD 0 0).toNat))
    else if resp.getD 1 0 = 0x02 then do
      writeAll (authRequest u p)
      let authResp ← readExact 2
      if authResp.getD 1 0 ≠ 0x00 then throw (failed "Authentication failed".toList) else pure ()
    else if resp.getD 1 0 ≠ 0x00 then
      throw (failed ("No acceptable authentication method: ".toList ++
        Text.ofNat (resp.getD 1 0).toNat))
    else pure ()
  | none => do
    writeAll [0x05, 0x01, 0x00]
    let resp ← readExact 2
    if resp.getD 0 0 ≠ 0x05 ∨ resp.getD 1 0 ≠ 0x00 then
      throw (failed ("SOCKS5 greeting failed: ".toList ++ debugPair resp))
    else pure ()

/-- Skips the bound address and port of the response. -/
def skipBound (addressType : UInt8) : Handshake Unit :=
  if addressType = 0x01 then do
    let _ ← readExact (4 + 2)
    pure ()
  else if addressType = 0x03 then do
    let lenBuf ← readExact 1
    let _ ← readExact ((lenBuf.getD 0 0).toNat + 2)
    pure ()
  else if addressType = 0x04 then do
    let _ ← readExact (16 + 2)
    pure ()
  else
    throw (failed ("Unknown address type ".toList ++ Text.ofNat addressType.toNat ++
      " in response".toList))

def connect (targetHost : Text) (targetPort : UInt16) (auth : Option (Text × Text)) :
    Handshake Unit := do
  negotiate auth
  writeAll (connectRequest targetHost targetPort)
  let header ← readExact 4
  if header.getD 0 0 ≠ 0x05 ∨ header.getD 1 0 ≠ 0x00 then
    throw (failed ("CONNECT command failed with status ".toList ++ hexByte (header.getD 1 0)))
  else skipBound (header.getD 3 0)

end Socks5Client

/-! ## HTTP CONNECT -/

namespace HttpConnectClient

def b64Chars : Text :=
  "ABCDEFGHIJKLMNOPQRSTUVWXYZabcdefghijklmnopqrstuvwxyz0123456789+/".toList

def b64Char (b : UInt8) : Char := b64Chars.getD b.toNat '='

/-- A chunk of one to three bytes. -/
def b64Chunk (b0 : UInt8) (b1 b2 : Option UInt8) : Text :=
  [b64Char (b0 >>> 2),
    b64Char (((b0 &&& 0x03) <<< 4) ||| (b1.getD 0 >>> 4)),
    if b1.isSome then b64Char (((b1.getD 0 &&& 0x0F) <<< 2) ||| (b2.getD 0 >>> 6)) else '=',
    if b2.isSome then b64Char (b2.getD 0 &&& 0x3F) else '=']

def b64 : Bytes → Text
  | [] => []
  | [b0] => b64Chunk b0 none none
  | [b0, b1] => b64Chunk b0 (some b1) none
  | b0 :: b1 :: b2 :: rest => b64Chunk b0 (some b1) (some b2) ++ b64 rest

example : b64 (Text.utf8Encode "user:pass1".toList) = "dXNlcjpwYXNzMQ==".toList := by decide

def request (targetHost : Text) (targetPort : UInt16) (auth : Option (Text × Text)) : Text :=
  let target := targetHost ++ ":".toList ++ Text.ofNat targetPort.toNat
  let req := "CONNECT ".toList ++ target ++ " HTTP/1.1\r\nHost: ".toList ++ target ++
    "\r\nProxy-Connection: Keep-Alive\r\n".toList
  let req := match auth with
    | some (u, p) =>
      req ++ "Proxy-Authorization: Basic ".toList ++
        b64 (Text.utf8Encode (u ++ ":".toList ++ p)) ++ "\r\n".toList
    | none => req
  req ++ "\r\n".toList

/-- `\r\n\r\n`. -/
def terminator : Bytes := [0x0D, 0x0A, 0x0D, 0x0A]

/-- The bytes read one by one until they end with the terminator or are 4096 bytes, and what is
left of those that come in. -/
def readHeader (respBuf incoming : Bytes) : Except TransportError Bytes × Bytes :=
  if ¬ terminator <:+ respBuf ∧ respBuf.length < 4096 then
    match incoming with
    | [] => (.error .connectionClosed, [])
    | b :: incoming => readHeader (respBuf ++ [b]) incoming
  else (.ok respBuf, incoming)

/-- The response reports success. -/
def accepts (respBuf : Bytes) : Bool :=
  let respStr := Text.fromUtf8Lossy respBuf
  Text.startsWith respStr "HTTP/1.1 200".toList || Text.startsWith respStr "HTTP/1.0 200".toList

def connect (targetHost : Text) (targetPort : UInt16) (auth : Option (Text × Text)) :
    Handshake Unit := do
  writeAll (Text.utf8Encode (request targetHost targetPort auth))
  let respBuf ← Prog.ofFun fun stream =>
    ((readHeader [] stream.incoming).1,
      { stream with incoming := (readHeader [] stream.incoming).2 })
  if accepts respBuf then pure ()
  else
    let statusLine :=
      (Text.lines (Text.fromUtf8Lossy respBuf)).head?.getD "Unknown response".toList
    throw (.proxyHandshakeFailed "HTTP CONNECT".toList statusLine)

end HttpConnectClient

end VpnHub.Transport
