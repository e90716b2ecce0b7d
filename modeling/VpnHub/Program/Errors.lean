import Mathlib.Data.UInt

/-! Error types of the Rust crates, with the data each variant carries. -/

namespace VpnHub

/-- A Rust `String`, as the sequence of its characters. -/
abbrev Text := List Char

/-- A Rust byte buffer (`Vec<u8>`, `Bytes`, `BytesMut`, `&[u8]`). -/
abbrev Bytes := List UInt8

/-- `std::time::Instant` and `Duration`, in nanoseconds. -/
abbrev Instant := ℕ
abbrev Duration := ℕ

namespace Crypto

inductive CryptoError where
  | aeadEncryption (message : Text)
  | aeadAuthenticationFailed
  | antiReplayRejection (packetId windowBase : UInt64)
  | invalidKeySize (expected actual : ℕ)
  | invalidNonceSize (expected actual : ℕ)
  | invalidTagSize (expected actual : ℕ)
  | kdfError (message : Text)
  | postQuantumKemError (message : Text)
  | pkcs11Error (message : Text)
  | keyringError (message : Text)
  | invalidKey (message : Text)
  | decryptionFailed (message : Text)
  | invalidSerialization (message : Text)
  deriving DecidableEq, Repr

end Crypto

namespace Config

inductive ConfigError where
  | io (message : Text)
  | nomParse (line : ℕ) (message : Text)
  | syntaxError (line : ℕ) (message : Text)
  | unclosedInlineTag (tag : Text) (line : ℕ)
  | invalidIpAddress (value : Text)
  | invalidInteger (directive value : Text)
  | pkcs12Error (message : Text)
  | base64Error (message : Text)
  | missingRequiredConfig (message : Text)
  | conflict (message : Text)
  | unsupported (directive reason : Text)
  | invalidPushReply (message : Text)
  deriving DecidableEq, Repr

/-- The text that is printed. -/
def ConfigError.toText : ConfigError → Text
  | io message => "I/O error while reading configuration: ".toList ++ message
  | nomParse line message =>
    "Nom parsing error at line ".toList ++ Nat.toDigits 10 line ++ ": ".toList ++ message
  | syntaxError line message =>
    "Syntax error at line ".toList ++ Nat.toDigits 10 line ++ ": ".toList ++ message
  | unclosedInlineTag tag line =>
    "Unclosed inline tag '<".toList ++ tag ++ ">' starting at line ".toList ++ Nat.toDigits 10 line
  | invalidIpAddress value => "Invalid IP address: '".toList ++ value ++ "'".toList
  | invalidInteger directive value =>
    "Invalid integer for directive '".toList ++ directive ++ "': '".toList ++ value ++ "'".toList
  | pkcs12Error message => "Invalid PKCS#12 data or password: ".toList ++ message
  | base64Error message => "Base64 decoding error for inline block: ".toList ++ message
  | missingRequiredConfig message => "Missing required configuration: ".toList ++ message
  | conflict message => "Conflicting configuration directives: ".toList ++ message
  | unsupported directive reason =>
    "Unsupported directive or option: '".toList ++ directive ++ "' - ".toList ++ reason
  | invalidPushReply message => "Invalid PUSH_REPLY payload: ".toList ++ message

end Config

namespace Protocol

/-- `rustls::CertificateError`: the two name-mismatch variants, and every other one by the
text it prints. -/
inductive CertificateError where
  | notValidForName
  | notValidForNameContext (expected : Text) (presented : List Text)
  | other (text : Text)
  deriving DecidableEq, Repr

/-- `rustls::Error`, split as the certificate verifier splits it. -/
inductive TlsError where
  | invalidCertificate (error : CertificateError)
  | other (text : Text)
  deriving DecidableEq, Repr

/-- `std::io::Error`, as far as the code looks at its kind. -/
inductive IoError where
  | wouldBlock
  | other (text : Text)
  deriving DecidableEq, Repr

inductive ProtocolError where
  | packetTooShort (length : ℕ)
  | unknownOpcode (value : UInt8)
  | sessionIdMismatch (expected actual : UInt64)
  | invalidFraming (message : Text)
  | crypto (error : Crypto.CryptoError)
  | config (error : Config.ConfigError)
  | tls (error : TlsError)
  | io (error : IoError)
  | reliableWindowOverflow
  | handshakeTimeout (after : Duration)
  | authenticationFailed (message : Text)
  | invalidStateTransition (state event : Text)
  | serverExit (message : Text)
  deriving DecidableEq, Repr

end Protocol

end VpnHub
