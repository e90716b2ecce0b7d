import VpnHub.Library.Text
import VpnHub.Program.Errors

/-! The DNS settings on Linux (`network/dns/systemd_resolved.rs`). -/

namespace VpnHub.Daemon

inductive DnsError where
  | systemdResolvedFailed (message : Text)
  | networkManagerFailed (message : Text)
  | resolvConfFailed (message : Text)
  | nrptFailed (message : Text)
  deriving DecidableEq, Repr

/-! ## The file system -/

/-- How `fs::write` ends: the file is replaced, or it cannot be opened, or the write stops after
some bytes, the old content being gone. -/
inductive WriteOutcome where
  | written
  | notOpened (message : Text)
  | interrupted (n : ℕ) (message : Text)
  deriving DecidableEq, Repr

/-- The file afterwards; it is absent or has any content. -/
def fsWrite (outcome : WriteOutcome) (content : Bytes) (file : Option Bytes) :
    Except Text Unit × Option Bytes :=
  match outcome with
  | .written => (.ok (), some content)
  | .notOpened message => (.error message, file)
  | .interrupted n message => (.error message, some (content.take n))

/-- `String::from_utf8`. -/
def fromUtf8 (bytes : Bytes) : Option Text :=
  let text := Text.fromUtf8Lossy bytes
  if Text.utf8Encode text = bytes then some text else none

/-- `fs::read_to_string`, of a file that can be read or not. -/
def readToString (readable : Bool) (file : Option Bytes) : Option Text :=
  if readable then file.bind fromUtf8 else none

/-! ## The manager -/

structure LinuxDnsManager where
  resolvConfBackup : Option Text := none
  activeIface : Option Text := none
  deriving DecidableEq, Repr

/-- What the system does during a call of `configure_dns`: whether `resolvectl dns` succeeds,
whether `exists` sees a file that is there, whether the file can be read, and how the write
ends. -/
structure DnsConditions where
  resolvectl : Bool
  visible : Bool
  readable : Bool
  write : WriteOutcome
  deriving DecidableEq, Repr

namespace LinuxDnsManager

def new : LinuxDnsManager := {}

def resolvConf (dnsServers : List Text) : Text :=
  "# Generated by VPNHub Daemon\n".toList ++
    dnsServers.flatMap fun s => "nameserver ".toList ++ s ++ "\n".toList

def applyResolvConfFallback (dns : LinuxDnsManager) (dnsServers : List Text)
    (conditions : DnsConditions) (file : Option Bytes) :
    Except DnsError Unit × LinuxDnsManager × Option Bytes :=
  let present := file.isSome && conditions.visible
  let dns :=
    if present ∧ dns.resolvConfBackup.isNone then
      match readToString conditions.readable file with
      | some content => { dns with resolvConfBackup := some content }
      | none => dns
    else dns
  let newContent := Text.utf8Encode (resolvConf dnsServers)
  let result := fsWrite conditions.write newContent file
  (result.1.mapError fun e =>
      .resolvConfFailed ("Failed to write /etc/resolv.conf: ".toList ++ e), dns, result.2)

def configureDns (dns : LinuxDnsManager) (tunnelIface : Text) (dnsServers : List Text)
    (conditions : DnsConditions) (file : Option Bytes) :
    Except DnsError Unit × LinuxDnsManager × Option Bytes :=
  if dnsServers.isEmpty then (.ok (), dns, file)
  else
    let dns := { dns with activeIface := some tunnelIface }
    if conditions.resolvectl then (.ok (), dns, file)
    else dns.applyResolvConfFallback dnsServers conditions file

/-- A write that fails is only logged. -/
def restoreDns (dns : LinuxDnsManager) (write : WriteOutcome) (file : Option Bytes) :
    Except DnsError Unit × LinuxDnsManager × Option Bytes :=
  match dns.resolvConfBackup with
  | some backup =>
    let result := fsWrite write (Text.utf8Encode backup) file
    (.ok (), { dns with resolvConfBackup := none, activeIface := none }, result.2)
  | none => (.ok (), { dns with activeIface := none }, file)

end LinuxDnsManager

end VpnHub.Daemon
