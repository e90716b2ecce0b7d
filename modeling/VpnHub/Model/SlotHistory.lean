import VpnHub.Program.KeySlots

/-! The history of a `KeySlotManager`: all slots ever installed, of which the manager is to keep the
two newest. -/

namespace VpnHub.Protocol

open Crypto

/-- The calls on a manager. A slot that is in use is written through the reference to it. -/
inductive SlotOp where
  | installNewKey (sessionKeys : SessionKeySet) (now : Instant)
  | retireSecondary
  | use (ref : SlotRef) (write : KeySlot → KeySlot)

namespace KeySlotManager

def step (m : KeySlotManager) : SlotOp → KeySlotManager
  | .installNewKey sessionKeys now => (m.installNewKey sessionKeys now).2
  | .retireSecondary => m.retireSecondary
  | .use .primary write => { m with primary := m.primary.map write }
  | .use .secondary write => { m with secondary := m.secondary.map write }

def run (cipherSuite : CipherSuite) (ops : List SlotOp) : KeySlotManager :=
  ops.foldl step (new cipherSuite)

end KeySlotManager

/-- The slots of all successful installations, the newest first, each as it was last written, and
whether the secondary slot has been retired since the last of them. -/
structure SlotHistory where
  installs : List KeySlot := []
  retired : Bool := false

namespace SlotHistory

def newest (h : SlotHistory) : Option KeySlot := h.installs.head?

/-- The slot displaced by the last installation. -/
def previous (h : SlotHistory) : Option KeySlot := if h.retired then none else h.installs[1]?

/-- The slots that are still in use, the newest first. -/
def live (h : SlotHistory) : List KeySlot := h.newest.toList ++ h.previous.toList

def step (cipherSuite : CipherSuite) (h : SlotHistory) : SlotOp → SlotHistory
  | .installNewKey sessionKeys now =>
    match KeySlot.new sessionKeys cipherSuite now h.installs.length with
    | .ok slot => { installs := slot :: h.installs }
    | .error _ => h
  | .retireSecondary => { h with retired := true }
  | .use .primary write => { h with installs := h.installs.modify 0 write }
  | .use .secondary write =>
    if h.retired then h else { h with installs := h.installs.modify 1 write }

def run (cipherSuite : CipherSuite) (ops : List SlotOp) : SlotHistory :=
  ops.foldl (step cipherSuite) {}

end SlotHistory

end VpnHub.Protocol
