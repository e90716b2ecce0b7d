import VpnHub.Library.Redaction
import VpnHub.Program.Errors

/-! The log buffer (`security/ring_buffer.rs`). -/

namespace VpnHub.Daemon

structure LogRingBuffer where
  capacity : ℕ
  buffer : List Text := []
  deriving DecidableEq, Repr

namespace LogRingBuffer

/-- Both redactions concern the first occurrence only. -/
def sanitize (input : Text) : Text :=
  let sanitized :=
    Redaction.redact "PrivateKey = ".toList '\n' "[REDACTED_PRIVATE_KEY]".toList input
  Redaction.redact "password:".toList ' ' " [REDACTED]".toList sanitized

def new (capacity : ℕ) : LogRingBuffer := { capacity }

def push (rb : LogRingBuffer) (line : Text) : LogRingBuffer :=
  let buf := if rb.buffer.length ≥ rb.capacity then rb.buffer.tail else rb.buffer
  { rb with buffer := buf ++ [sanitize line] }

def getSnapshot (rb : LogRingBuffer) : List Text := rb.buffer

def clear (rb : LogRingBuffer) : LogRingBuffer := { rb with buffer := [] }

end LogRingBuffer

end VpnHub.Daemon
