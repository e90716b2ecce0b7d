import VpnHub.Library.Text
import VpnHub.Program.Daemon.State

/-! The telemetry of `health/metrics.rs`: the byte counters of an interface as the kernel shows
them, and the loop that samples and publishes them. The rates are floating point and left out. -/

namespace VpnHub.Daemon

/-! ## Counters -/

/-- What the kernel shows: a file by its path, and the names in `/sys/class/net`. -/
structure NetFiles where
  readToString : Text → Option Text := fun _ => none
  classNet : List Text := []

def NetFiles.counter (files : NetFiles) (iface : Text) (name : String) : Option UInt64 :=
  (files.readToString ("/sys/class/net/".toList ++ iface ++ "/statistics/".toList ++
    name.toList)).bind fun content => Text.parseU64 (Text.trim content)

def readInterfaceBytes (files : NetFiles) (iface : Text) : Option (UInt64 × UInt64) := do
  let rx ← files.counter iface "rx_bytes"
  let tx ← files.counter iface "tx_bytes"
  return (rx, tx)

/-- What a line of `/proc/net/dev` returns, if it ends the loop. -/
def procNetDevLine (iface line : Text) : Option (Option (UInt64 × UInt64)) :=
  match Text.splitOnce (Text.trim line) ':' with
  | none => none
  | some (name, stats) =>
    if Text.trim name = iface then
      let parts := Text.splitWhitespace stats
      match parts[0]?, parts[8]? with
      | some first, some ninth =>
        some ((Text.parseU64 first).bind fun rx => (Text.parseU64 ninth).map fun tx => (rx, tx))
      | _, _ => none
    else none

def readProcNetDev (files : NetFiles) (iface : Text) : Option (UInt64 × UInt64) :=
  (files.readToString "/proc/net/dev".toList).bind fun content =>
    ((Text.lines content).findSome? (procNetDevLine iface)).join

def isTunnelName (name : Text) : Bool :=
  Text.startsWith name "tun".toList || Text.startsWith name "wg".toList ||
    Text.startsWith name "tap".toList || Text.startsWith name "vpn".toList

/-- The counters of the interface, else those of the first tunnel device that has any. -/
def findActiveVpnBytes (files : NetFiles) (preferredIface : Text) : UInt64 × UInt64 :=
  match (readInterfaceBytes files preferredIface).or (readProcNetDev files preferredIface) with
  | some bytes => bytes
  | none =>
    let active (name : Text) : Option (UInt64 × UInt64) :=
      if isTunnelName name then
        (readInterfaceBytes files name).filter fun bytes => bytes.1 > 0 || bytes.2 > 0
      else none
    (files.classNet.findSome? active).getD (0, 0)

/-! ## The collector -/

/-- The metrics with the latency of the last probe. -/
structure LiveMetrics where
  metrics : BandwidthMetrics := {}
  latencyRttMs : Option UInt32 := none
  deriving DecidableEq, Repr

/-- What the loops share: the collector, the receivers of its events and the host. -/
structure Telemetry where
  isRunning : Bool := false
  latestMetrics : LiveMetrics := {}
  /-- The `MetricsUpdate` events so far. -/
  published : List LiveMetrics := []
  files : NetFiles := {}
  /-- What `probe_live_rtt` would measure. -/
  liveRtt : Option UInt32 := none

/-- Where a `start` and the loop that it spawns stand. -/
inductive CollectorPc where
  /-- Before `is_running` is set. -/
  | starting
  /-- At the condition of the `while`. -/
  | looping
  /-- At `sleep(..).await`. -/
  | sleeping
  /-- At `probe_live_rtt().await`. -/
  | probing
  /-- Before `sample_metrics`. -/
  | sampling
  /-- At `latest_metrics.lock().await`. -/
  | storing (metrics : LiveMetrics)
  /-- Before `event_tx.send`. -/
  | sending (metrics : LiveMetrics)
  | ended
  deriving DecidableEq, Repr

/-- The variables of a loop, with what it has published. -/
structure CollectorLoop where
  intervalMs : UInt64
  ifaceName : Text
  uptime : UInt64 := 0
  tickCounter : UInt64 := 0
  currentRtt : Option UInt32 := some 24
  pc : CollectorPc := .starting
  published : List LiveMetrics := []
  deriving DecidableEq, Repr

namespace CollectorLoop

/-- The seconds that a tick counts for. -/
def tickSecs (loop : CollectorLoop) : UInt64 := max (loop.intervalMs / 1000) 1

/-- The interval is over, and the loop is still to run. -/
def tick (loop : CollectorLoop) : CollectorLoop :=
  let tickCounter := loop.tickCounter + 1
  { loop with
    uptime := loop.uptime + loop.tickSecs
    tickCounter
    pc := if tickCounter % 2 = 0 then .probing else .sampling }

/-- `sample_metrics`, with the uptime and the latency that the loop puts in. -/
def sample (loop : CollectorLoop) (files : NetFiles) : LiveMetrics :=
  let (currentRx, currentTx) := findActiveVpnBytes files loop.ifaceName
  ⟨⟨currentRx, currentTx, loop.uptime⟩, loop.currentRtt⟩

/-- What the loop does up to where another task may come in between. -/
def advance (s : Telemetry) (loop : CollectorLoop) : Option (Telemetry × CollectorLoop) :=
  match loop.pc with
  | .starting => some ({ s with isRunning := true }, { loop with pc := .looping })
  | .looping => some (s, { loop with pc := if s.isRunning then .sleeping else .ended })
  | .sleeping => some (s, if s.isRunning then loop.tick else { loop with pc := .ended })
  | .probing =>
    some (s, { loop with currentRtt := s.liveRtt.or loop.currentRtt, pc := .sampling })
  | .sampling => some (s, { loop with pc := .storing (loop.sample s.files) })
  | .storing metrics =>
    some ({ s with latestMetrics := metrics }, { loop with pc := .sending metrics })
  | .sending metrics =>
    some ({ s with published := s.published ++ [metrics] },
      { loop with pc := .looping, published := loop.published ++ [metrics] })
  | .ended => none

end CollectorLoop

end VpnHub.Daemon
