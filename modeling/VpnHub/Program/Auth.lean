import VpnHub.Library.BigEndian
import VpnHub.Library.Text
import VpnHub.Program.Aead

/-! Authentication messages of `ovpn-protocol/src/auth.rs`. -/

namespace VpnHub.Protocol

open BigEndian

inductive AuthChallenge where
  | crV1 (flags stateId username prompt : Text)
  | webSso (url : Text)
  | userPassRequired
  deriving DecidableEq, Repr

namespace AuthHandler

/-- The length counts the terminating zero and is cut to 16 bits. -/
def writeAuthString (s : Text) : Bytes :=
  if s.isEmpty then toBE 2 0
  else
    let bytes := Text.utf8Encode s
    toBE 2 (UInt16.ofNat (bytes.length + 1)).toNat ++ bytes ++ [0]

/-- `random` is what the random number generator delivers: 48 bytes of pre-master secret and
two times 32 bytes. -/
def encodeKeyMethod2 (random : FixedBytes 112) (options : Text) (username password : Option Text)
    (peerInfo : Text) : Bytes :=
  [0, 0, 0, 0, 2] ++ random.val ++ writeAuthString options ++
    writeAuthString (username.getD []) ++ writeAuthString (password.getD []) ++
    writeAuthString peerInfo

def optionsString : Text :=
  ("V4,dev-type tun,link-mtu 1550,tun-mtu 1500,proto TCPv4_CLIENT,keydir 1," ++
    "cipher AES-256-GCM,auth [null-digest],keysize 256,tls-auth,key-method 2,tls-client").toList

def peerInfoString : Text :=
  ("IV_VER=3.0\nIV_PLAT=linux\nIV_NCP=2\nIV_TCP=1\nIV_PROTO=30\n" ++
    "IV_CIPHERS=AES-256-GCM:AES-128-GCM:CHACHA20-POLY1305\n" ++
    "IV_GUI_VER=VPNHub-Daemon/0.1.2\n").toList

def encodeCredentials (random : FixedBytes 112) (username password : Text) : Bytes :=
  encodeKeyMethod2 random optionsString (some username) (some password) peerInfoString

def encodeCrv1Response (stateId responseToken : Text) : Bytes :=
  Text.utf8Encode ("CRV1::".toList ++ stateId ++ "::".toList ++ responseToken ++ ['\n'])

/-- A `CRV1:` message with fewer than four fields falls through to the other forms. -/
def parseChallenge (message : Text) : Option AuthChallenge :=
  let trimmed := Text.trim message
  let crV1 := (Text.stripPrefix trimmed "CRV1:".toList).bind fun rest =>
    match Text.splitN rest 4 ':' with
    | [flags, stateId, username, prompt] => some (.crV1 flags stateId username prompt)
    | _ => none
  let openUrl := (Text.stripPrefix trimmed "OPEN_URL:".toList).map fun url =>
    AuthChallenge.webSso (Text.trim url)
  let webAuth := (Text.stripPrefix trimmed "INFO_PRE:WEB_AUTH:".toList).map fun url =>
    AuthChallenge.webSso (Text.trim url)
  (crV1.or openUrl).or webAuth

end AuthHandler

end VpnHub.Protocol
