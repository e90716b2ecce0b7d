import VpnHub.Library.Transition
import VpnHub.Program.Daemon.Dns

/-! Runs of the DNS manager: its calls in any order, each under any conditions. -/

namespace VpnHub.Daemon

inductive DnsCall where
  | configure (iface : Text) (servers : List Text) (conditions : DnsConditions)
  | restore (write : WriteOutcome)
  deriving DecidableEq, Repr

structure DnsState where
  dns : LinuxDnsManager
  file : Option Bytes
  deriving DecidableEq, Repr

namespace DnsState

/-- Before the first call. -/
def start (file : Option Bytes) : DnsState := { dns := .new, file }

/-- The state after a call, whatever it returns. -/
def after (s : DnsState) : DnsCall → DnsState
  | .configure iface servers conditions =>
    let outcome := s.dns.configureDns iface servers conditions s.file
    { dns := outcome.2.1, file := outcome.2.2 }
  | .restore write =>
    let outcome := s.dns.restoreDns write s.file
    { dns := outcome.2.1, file := outcome.2.2 }

def step (s : DnsState) (call : DnsCall) : Option DnsState := some (s.after call)

/-- A `restore_dns` whose write succeeds leaves the file in this state. -/
def Restorable (original : Option Bytes) (s : DnsState) : Prop :=
  (s.after (.restore .written)).file = original

/-! ## The calls that keep a file restorable -/

/-- The write leaves the file as it is. -/
def Idle (outcome : WriteOutcome) (content : Bytes) (file : Option Bytes) : Prop :=
  match outcome with
  | .written => file = some content
  | .notOpened _ => True
  | .interrupted n _ => file = some (content.take n)

/-- A configuration leaves the file alone, or finds a backup, or can make one. -/
def ConfiguresSafely (s : DnsState) (servers : List Text) (conditions : DnsConditions) : Prop :=
  servers = [] ∨ conditions.resolvectl = true ∨ s.dns.resolvConfBackup ≠ none ∨
    (conditions.visible = true ∧ conditions.readable = true ∧
      ∃ text, s.file.bind fromUtf8 = some text) ∨
    Idle conditions.write (Text.utf8Encode (LinuxDnsManager.resolvConf servers)) s.file

/-- A backup is written without an error, or was not needed: the file reads as the backup when
it cannot be opened, or all bytes have been written before the error. -/
def RestoresSafely (s : DnsState) (write : WriteOutcome) : Prop :=
  ∀ backup, s.dns.resolvConfBackup = some backup →
    match write with
    | .written => True
    | .notOpened _ => s.file = some (Text.utf8Encode backup)
    | .interrupted n _ => (Text.utf8Encode backup).length ≤ n

def CallsSafely (s : DnsState) : DnsCall → Prop
  | .configure _ servers conditions => s.ConfiguresSafely servers conditions
  | .restore write => s.RestoresSafely write

end DnsState

end VpnHub.Daemon
