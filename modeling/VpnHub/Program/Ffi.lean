import VpnHub.Program.Session

/-! The events that `ovpn-ffi/src/c_api.rs` hands to the callback of a C program. -/

namespace VpnHub

/-! ## What `{:?}` prints -/

/-- A character inside a string. `unprintable` holds of those that Unicode makes extend a
grapheme and of those that are not printable. -/
def escapeDebug (unprintable : Char → Bool) (c : Char) : Text :=
  if c = Char.ofNat 0 then "\\0".toList
  else if c = '\t' then "\\t".toList
  else if c = '\r' then "\\r".toList
  else if c = '\n' then "\\n".toList
  else if c = '"' ∨ c = '\\' then ['\\', c]
  else if unprintable c then "\\u\x7b".toList ++ Nat.toDigits 16 c.toNat ++ "\x7d".toList
  else [c]

def debugText (unprintable : Char → Bool) (s : Text) : Text :=
  ['"'] ++ s.flatMap (escapeDebug unprintable) ++ ['"']

def Protocol.EngineState.debug : Protocol.EngineState → Text
  | disconnected => "Disconnected".toList
  | connecting => "Connecting".toList
  | tlsHandshake => "TlsHandshake".toList
  | authenticating => "Authenticating".toList
  | pullingConfig => "PullingConfig".toList
  | connected => "Connected".toList
  | rekeying => "Rekeying".toList
  | disconnecting => "Disconnecting".toList
  | error => "Error".toList

def Protocol.AuthChallenge.debug (unprintable : Char → Bool) : Protocol.AuthChallenge → Text
  | crV1 flags stateId username prompt =>
    "CrV1 \x7b flags: ".toList ++ debugText unprintable flags ++
      ", state_id: ".toList ++ debugText unprintable stateId ++
      ", username: ".toList ++ debugText unprintable username ++
      ", prompt: ".toList ++ debugText unprintable prompt ++ " \x7d".toList
  | webSso url => "WebSso \x7b url: ".toList ++ debugText unprintable url ++ " \x7d".toList
  | userPassRequired => "UserPassRequired".toList

namespace Ffi

open VpnHub.Core

/-! ## Events -/

def eventStateChanged : Int32 := 1
def eventNetworkConfigured : Int32 := 2
def eventAuthChallenge : Int32 := 3
def eventStatsUpdated : Int32 := 4
def eventDisconnected : Int32 := 5
def eventError : Int32 := 6

/-- A call of the callback. The payload is the bytes up to the terminating zero, included. -/
structure Invocation where
  eventType : Int32
  jsonPayload : Bytes
  userData : UInt64
  deriving DecidableEq, Repr

/-- `CString::new`. -/
def cString (s : Text) : Option Bytes :=
  let bytes := Text.utf8Encode s
  if 0 ∈ bytes then none else some (bytes ++ [0])

/-- The type and the payload of an event. -/
def payloadJson (unprintable : Char → Bool) : SessionEvent → Int32 × Text
  | .stateChanged state =>
    (eventStateChanged, "\x7b\"state\":\"".toList ++ state.debug ++ "\"\x7d".toList)
  | .networkConfigured prov =>
    let ip := (prov.ipv4Address.map Ipv4Addr.toText).getD []
    (eventNetworkConfigured, "\x7b\"ip\":\"".toList ++ ip ++ "\",\"mtu\":".toList ++
      Text.ofNat prov.mtu.toNat ++ "\x7d".toList)
  | .authChallenge ch =>
    (eventAuthChallenge, "\x7b\"challenge\":".toList ++ ch.debug unprintable ++ "\x7d".toList)
  | .statsUpdated stats =>
    (eventStatsUpdated, "\x7b\"bytes_in\":".toList ++ Text.ofNat stats.bytesIn.toNat ++
      ",\"bytes_out\":".toList ++ Text.ofNat stats.bytesOut.toNat ++ "\x7d".toList)
  | .disconnected reason =>
    (eventDisconnected, "\x7b\"reason\":\"".toList ++ reason ++ "\"\x7d".toList)
  | .error message => (eventError, "\x7b\"error\":\"".toList ++ message ++ "\"\x7d".toList)

/-- What the dispatching task does with an event. `callback` says whether one is
registered. -/
def dispatch (unprintable : Char → Bool) (callback : Bool) (userData : UInt64)
    (event : SessionEvent) : List Invocation :=
  if callback then
    let (eventType, payload) := payloadJson unprintable event
    match cString payload with
    | some cJson => [⟨eventType, cJson, userData⟩]
    | none => []
  else []

/-- What `recv` returns: an event, or the error of a closed channel or of events missed. -/
inductive Received where
  | event (event : SessionEvent)
  | closed
  | lagged (missed : UInt64)
  deriving DecidableEq

/-- The dispatching task. Its loop ends with either error. -/
def dispatchAll (unprintable : Char → Bool) (callback : Bool) (userData : UInt64) :
    List Received → List Invocation
  | .event event :: rest =>
    dispatch unprintable callback userData event ++
      dispatchAll unprintable callback userData rest
  | _ => []

end Ffi

end VpnHub
