import VpnHub.Library.BigEndian
import VpnHub.Library.Text
import VpnHub.Program.Errors

/-! The codec between the application and the daemon (`ipc/codec.rs`). -/

namespace VpnHub.Ipc

open BigEndian

inductive IpcError where
  | bindFailed (endpoint source : Text)
  | unauthorized (message : Text)
  | authInspectionFailed (message : Text)
  | frameTooLarge (size maxSize : ℕ)
  | protocolCodec (message : Text)
  | connectionClosed (message : Text)
  | io (message : Text)
  deriving DecidableEq, Repr

/-- `serde_json` at the types that are read and written. Errors are given as they print. -/
structure SerdeJson (In Out : Type*) where
  fromSlice : Bytes → Except Text In
  toVec : Out → Except Text Bytes

structure JsonLengthDelimitedCodec where
  maxFrameSize : ℕ
  deriving DecidableEq, Repr

namespace JsonLengthDelimitedCodec

variable {In Out : Type*}

/-- The answer and what is left of the buffer. -/
def decode (serde : SerdeJson In Out) (codec : JsonLengthDelimitedCodec) (src : Bytes) :
    Except IpcError (Option In) × Bytes :=
  if src.length < 4 then (.ok none, src)
  else
    let length := ofBE (src.take 4)
    if length > codec.maxFrameSize then (.error (.frameTooLarge length codec.maxFrameSize), src)
    else if src.length < 4 + length then (.ok none, src)
    else
      let frameBytes := (src.drop 4).take length
      let src := (src.drop 4).drop length
      match serde.fromSlice frameBytes with
      | .ok item => (.ok (some item), src)
      | .error e =>
        (.error (.protocolCodec ("Failed to deserialize JSON frame (".toList ++
          Text.ofNat length ++ " bytes): ".toList ++ e)), src)

/-- The buffer with the item at its end. -/
def encode (serde : SerdeJson In Out) (codec : JsonLengthDelimitedCodec) (item : Out)
    (dst : Bytes) : Except IpcError Unit × Bytes :=
  match serde.toVec item with
  | .ok serialized =>
    if serialized.length > codec.maxFrameSize then
      (.error (.frameTooLarge serialized.length codec.maxFrameSize), dst)
    else
      let length := UInt32.ofNat serialized.length
      (.ok (), dst ++ toBE 4 length.toNat ++ serialized)
  | .error e =>
    (.error (.protocolCodec ("Failed to serialize outbound JSON item: ".toList ++ e)), dst)

end JsonLengthDelimitedCodec

end VpnHub.Ipc
