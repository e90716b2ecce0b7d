import VpnHub.Library.Prog
import VpnHub.Program.Aead

/-! The TLS adapter and certificate verifier of `ovpn-protocol/src/tls.rs`. -/

namespace VpnHub.Protocol

abbrev CertificateDer := Bytes
abbrev PrivateKey := Bytes
abbrev RootCertStore := List CertificateDer
abbrev ServerName := Text
abbrev UnixTime := ℕ

/-- The root store stands for the inner WebPKI verifier that is built from it. -/
structure OpenVpnServerCertVerifier where
  rootStore : RootCertStore
  verifyX509Name : Option Text
  deriving DecidableEq

/-- `rustls::ClientConfig`: the verifier and the client certificate chain with its key. -/
structure ClientConfig where
  verifier : OpenVpnServerCertVerifier
  clientAuth : Option (List CertificateDer × PrivateKey)
  deriving DecidableEq

/-- What the adapter calls of `rustls`, `rustls-pemfile` and `webpki-roots`. A connection is
a state in `Conn` that its methods change, also when they fail. -/
structure Rustls (Conn : Type) where
  /-- `rustls_pemfile::certs`, `none` for an item that cannot be read. -/
  pemCerts : Bytes → List (Option CertificateDer)
  pemPrivateKey : Bytes → Except Text (Option PrivateKey)
  webpkiRoots : RootCertStore
  /-- Whether `RootCertStore::add` takes a certificate. -/
  addRoot : CertificateDer → Except TlsError Unit
  clientAuthCert : List CertificateDer → PrivateKey → Except TlsError Unit
  serverName : Text → Except Text ServerName
  /-- `WebPkiServerVerifier::verify_server_cert`. -/
  webpkiVerify : RootCertStore → CertificateDer → List CertificateDer → ServerName → Bytes →
    UnixTime → Except TlsError Unit
  /-- `rustls::Error::to_string`. -/
  display : TlsError → Text
  /-- `ClientConnection::new`; the number says which random draw it uses. -/
  connect : ClientConfig → ServerName → ℕ → Except TlsError Conn
  /-- The number of bytes taken from the given input. -/
  readTls : Conn → Bytes → Except IoError ℕ × Conn
  processNewPackets : Conn → Except TlsError Unit × Conn
  wantsWrite : Conn → Bool
  writeTls : Conn → Except IoError Bytes × Conn
  /-- One `read` of decrypted data into a buffer of 4096 bytes. -/
  read : Conn → Except IoError Bytes × Conn
  writeAll : Conn → Bytes → Except IoError Unit × Conn
  isHandshaking : Conn → Bool
  /-- Fills an array of the given length. -/
  exportKeyingMaterial : Conn → Bytes → Option Bytes → (n : ℕ) → Except TlsError (FixedBytes n)

variable {Conn : Type}

namespace OpenVpnServerCertVerifier

/-- Building the inner verifier from an empty root store fails, and `unwrap` panics. -/
def new (rootStore : RootCertStore) (verifyX509Name : Option Text) :
    Option OpenVpnServerCertVerifier :=
  if rootStore.isEmpty then none else some { rootStore, verifyX509Name }

/-- The two texts that count as a name mismatch. -/
def isNameMismatchText (text : Text) : Bool :=
  Text.contains text "not valid for name".toList || Text.contains text "NotValidForName".toList

def verifyServerCert (tls : Rustls Conn) (v : OpenVpnServerCertVerifier)
    (endEntity : CertificateDer) (intermediates : List CertificateDer) (serverName : ServerName)
    (ocspResponse : Bytes) (now : UnixTime) : Except TlsError Unit :=
  match tls.webpkiVerify v.rootStore endEntity intermediates serverName ocspResponse now with
  | .ok () => .ok ()
  | .error (.invalidCertificate .notValidForName) => .ok ()
  | .error err => if isNameMismatchText (tls.display err) then .ok () else .error err

end OpenVpnServerCertVerifier

/-- A connection keeps the configuration it was made with. -/
structure TlsStreamAdapter (Conn : Type) where
  config : ClientConfig
  conn : Conn

namespace TlsStreamAdapter

/-- The certificates of the CA file that can be read, each added to the store. -/
def rootsOf (tls : Rustls Conn) : List (Option CertificateDer) → Except ProtocolError RootCertStore
  | [] => .ok []
  | none :: rest => rootsOf tls rest
  | some cert :: rest =>
    match tls.addRoot cert with
    | .error e => .error (.tls e)
    | .ok () => (rootsOf tls rest).map (cert :: ·)

def loadRoots (tls : Rustls Conn) (caPem : Option Text) : Except ProtocolError RootCertStore :=
  match caPem with
  | some ca => rootsOf tls (tls.pemCerts (Text.utf8Encode ca))
  | none => .ok tls.webpkiRoots

/-- Certificate and key for client authentication, when both are given. -/
def loadClientAuth (tls : Rustls Conn) (clientCertPem clientKeyPem : Option Text) :
    Except ProtocolError (Option (List CertificateDer × PrivateKey)) :=
  match clientCertPem, clientKeyPem with
  | some certStr, some keyStr =>
    let certs := (tls.pemCerts (Text.utf8Encode certStr)).filterMap id
    match tls.pemPrivateKey (Text.utf8Encode keyStr) with
    | .error e => .error (.invalidFraming ("Failed to parse private key: ".toList ++ e))
    | .ok none => .error (.invalidFraming "No private key found in PEM".toList)
    | .ok (some key) =>
      match tls.clientAuthCert certs key with
      | .error e => .error (.tls e)
      | .ok () => .ok (some (certs, key))
  | _, _ => .ok none

/-- `none` when the verifier cannot be built. -/
def new (tls : Rustls Conn) (draw : ℕ) (serverNameStr : Text)
    (caPem clientCertPem clientKeyPem : Option Text) :
    Option (Except ProtocolError (TlsStreamAdapter Conn)) :=
  match loadRoots tls caPem with
  | .error e => some (.error e)
  | .ok rootStore =>
    match OpenVpnServerCertVerifier.new rootStore none with
    | none => none
    | some verifier =>
      match loadClientAuth tls clientCertPem clientKeyPem with
      | .error e => some (.error e)
      | .ok clientAuth =>
        match tls.serverName serverNameStr with
        | .error e => some (.error (.invalidFraming ("Invalid server name: ".toList ++ e)))
        | .ok serverName =>
          match tls.connect { verifier, clientAuth } serverName draw with
          | .error e => some (.error (.tls e))
          | .ok conn => some (.ok { config := { verifier, clientAuth }, conn })

abbrev Method (Conn : Type) := Prog (TlsStreamAdapter Conn) ProtocolError

/-- A call of a connection method that can fail. -/
def call {α ε : Type} (method : Conn → Except ε α × Conn) (onError : ε → ProtocolError) :
    Method Conn α :=
  Prog.ofFun fun a => ((method a.conn).1.mapError onError, { a with conn := (method a.conn).2 })

/-- The loop of `feed_tls_bytes`. Without enough turns it has no outcome, as a loop in which
`read_tls` takes nothing any more. -/
def feedLoop (tls : Rustls Conn) : ℕ → Bytes → Method Conn Unit
  | 0, data => if data.isEmpty then pure () else Prog.stuck
  | turns + 1, data =>
    if data.isEmpty then pure ()
    else do
      let n ← call (tls.readTls · data) .io
      call tls.processNewPackets .tls
      feedLoop tls turns (data.drop n)

/-- `while wants_write`. -/
def extractLoop (tls : Rustls Conn) : ℕ → Bytes → Method Conn Bytes
  | 0, output => do
    let a ← get
    if tls.wantsWrite a.conn then Prog.stuck else pure output
  | turns + 1, output => do
    let a ← get
    if tls.wantsWrite a.conn then
      let written ← call tls.writeTls .io
      extractLoop tls turns (output ++ written)
    else pure output

/-- Reads until there is nothing left: an empty read, or one that would block. -/
def readLoop (tls : Rustls Conn) : ℕ → Bytes → Method Conn Bytes
  | 0, _ => Prog.stuck
  | turns + 1, total => do
    let a ← get
    set { a with conn := (tls.read a.conn).2 }
    match (tls.read a.conn).1 with
    | .ok [] => pure total
    | .ok bytes => readLoop tls turns (total ++ bytes)
    | .error .wouldBlock => pure total
    | .error e => throw (.io e)

def sendPlaintextAppData (tls : Rustls Conn) (data : Bytes) : Method Conn Unit :=
  call (tls.writeAll · data) .io

end TlsStreamAdapter

end VpnHub.Protocol
