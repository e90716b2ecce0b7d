import VpnHub.Program.Errors

/-! The 128-packet anti-replay window of `ovpn-crypto/src/anti_replay.rs`. -/

namespace VpnHub.Crypto

/-- `bitmap0` and `bitmap1` are the two words of the source's `bitmap` array: offsets
`0..63` and `64..127` below `maxSeq`. The counters are `u64` and wrap. -/
structure AntiReplayWindow where
  maxSeq : UInt64
  bitmap0 : UInt64
  bitmap1 : UInt64
  acceptedCount : UInt64
  rejectedCount : UInt64
  initialized : Bool
  deriving DecidableEq, Repr

namespace AntiReplayWindow

def windowSize : UInt64 := 128

def new : AntiReplayWindow where
  maxSeq := 0
  bitmap0 := 0
  bitmap1 := 0
  acceptedCount := 0
  rejectedCount := 0
  initialized := false

/-- `self.bitmap[word]`; the callers index with `diff / 64` for a `diff < 128`. -/
def word (w : AntiReplayWindow) (i : UInt64) : UInt64 :=
  if i = 0 then w.bitmap0 else w.bitmap1

/-- `self.bitmap[word] |= mask`. -/
def orWord (w : AntiReplayWindow) (i mask : UInt64) : AntiReplayWindow :=
  if i = 0 then { w with bitmap0 := w.bitmap0 ||| mask }
  else { w with bitmap1 := w.bitmap1 ||| mask }

/-- `self.max_seq.saturating_sub(WINDOW_SIZE - 1)`. -/
def windowBase (w : AntiReplayWindow) : UInt64 :=
  if w.maxSeq < windowSize - 1 then 0 else w.maxSeq - (windowSize - 1)

def checkOnly (w : AntiReplayWindow) (seq : UInt64) : Except CryptoError Unit :=
  if !w.initialized then .ok ()
  else if seq > w.maxSeq then .ok ()
  else
    let diff := w.maxSeq - seq
    if diff ≥ windowSize then .error (.antiReplayRejection seq w.windowBase)
    else if w.word (diff / 64) &&& (1 <<< (diff % 64)) ≠ 0 then
      .error (.antiReplayRejection seq w.windowBase)
    else .ok ()

/-- The bitmap after the window has moved forward by `diff > 0`. -/
def advance (w : AntiReplayWindow) (diff : UInt64) : AntiReplayWindow :=
  if diff ≥ windowSize then
    -- large gap forward: the previous window is wiped out
    { w with bitmap0 := 1, bitmap1 := 0 }
  else if diff ≥ 64 then
    { w with bitmap0 := 1, bitmap1 := w.bitmap0 <<< (diff - 64) }
  else
    let carry := w.bitmap0 >>> (64 - diff)
    { w with bitmap0 := w.bitmap0 <<< diff ||| 1, bitmap1 := w.bitmap1 <<< diff ||| carry }

/-- The outcome of the call and the window it leaves behind. -/
def checkAndUpdate (w : AntiReplayWindow) (seq : UInt64) :
    Except CryptoError Unit × AntiReplayWindow :=
  if !w.initialized then
    (.ok (), { w with
      maxSeq := seq, bitmap0 := 1, bitmap1 := 0, initialized := true,
      acceptedCount := w.acceptedCount + 1 })
  else if seq > w.maxSeq then
    (.ok (), { w.advance (seq - w.maxSeq) with
      maxSeq := seq, acceptedCount := w.acceptedCount + 1 })
  else
    let diff := w.maxSeq - seq
    if diff ≥ windowSize then
      (.error (.antiReplayRejection seq w.windowBase),
        { w with rejectedCount := w.rejectedCount + 1 })
    else
      let mask := 1 <<< (diff % 64)
      if w.word (diff / 64) &&& mask ≠ 0 then
        (.error (.antiReplayRejection seq w.windowBase),
          { w with rejectedCount := w.rejectedCount + 1 })
      else
        (.ok (), { w.orWord (diff / 64) mask with acceptedCount := w.acceptedCount + 1 })

/-- The window after a sequence of calls, whatever each of them returned. -/
def feed (w : AntiReplayWindow) (seqs : List UInt64) : AntiReplayWindow :=
  seqs.foldl (fun w seq => (w.checkAndUpdate seq).2) w

/-- The sequence numbers of those calls that returned `Ok`. -/
def accepted (w : AntiReplayWindow) : List UInt64 → List UInt64
  | [] => []
  | seq :: seqs =>
    let (result, w') := w.checkAndUpdate seq
    match result with
    | .ok () => seq :: w'.accepted seqs
    | .error _ => w'.accepted seqs

end AntiReplayWindow

end VpnHub.Crypto
