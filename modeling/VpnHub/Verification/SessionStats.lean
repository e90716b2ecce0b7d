import VpnHub.Verification.Session
import VpnHub.Verification.StateEvents

/-! # The statistics of a session

Each packet that goes through is counted once, and each tick reports the counts so far. -/

namespace VpnHub.Core.Pipeline

open Config Protocol ProtocolEngine

variable {Conn : Type} {env : SessionEnv Conn} {p p' : Pipeline Conn}

/-! ## Counting -/

/-- The packet that an input brings in from the network. -/
def Input.received : Input → Option Bytes
  | .network (.ok packet) _ => some packet
  | _ => none

/-- The packet that an input takes out to the network; the engine is not called for an empty one. -/
def Input.sent : Input → Option Bytes
  | .tun (.ok packet) _ => if packet ≠ [] then some packet else none
  | _ => none

/-- When the input is counted, if it is. -/
def Input.counted : Input → Option Instant
  | .network (.ok _) now => some now
  | .tun (.ok packet) now => if packet ≠ [] then some now else none
  | _ => none

/-- The statistics after the inputs of a loop that began at `startTime` with the statistics `s`. -/
def totals (startTime : Instant) (s : SessionStats) (inputs : List Input) : SessionStats where
  bytesIn := s.bytesIn + UInt64.ofNat ((inputs.filterMap Input.received).map List.length).sum
  bytesOut := s.bytesOut + UInt64.ofNat ((inputs.filterMap Input.sent).map List.length).sum
  packetsIn := s.packetsIn + UInt64.ofNat (inputs.filterMap Input.received).length
  packetsOut := s.packetsOut + UInt64.ofNat (inputs.filterMap Input.sent).length
  uptimeSecs := ((inputs.filterMap Input.counted).getLast?.map fun now =>
    UInt64.ofNat ((now - startTime) / 1000000000)).getD s.uptimeSecs

def Input.isTick : Input → Bool
  | .tick _ => true
  | _ => false

/-- The statistics at each tick. -/
def reports (startTime : Instant) (s : SessionStats) (inputs : List Input) : List SessionStats :=
  (inputs.inits.filter fun before => before.getLast?.any Input.isTick).map (totals startTime s)

/-- The statistics that were broadcast. -/
def statsEvents (effects : List Effect) : List SessionStats :=
  effects.filterMap fun
    | .event (.statsUpdated stats) => some stats
    | _ => none

theorem totals_append (startTime : Instant) (s : SessionStats) (before after : List Input) :
    totals startTime s (before ++ after) = totals startTime (totals startTime s before) after := by
  simp only [totals, List.filterMap_append, List.map_append, List.sum_append, List.length_append,
    UInt64.ofNat_add, UInt64.add_assoc]
  congr 1
  cases h : (after.filterMap Input.counted).getLast? with
  | none =>
      obtain hnil : after.filterMap Input.counted = [] := List.getLast?_eq_none_iff.mp h
      simp [hnil]
  | some now => simp [List.getLast?_append, h]

theorem reports_append (startTime : Instant) (s : SessionStats) (before : List Input)
    (input : Input) :
    reports startTime s (before ++ [input]) = reports startTime s before ++
      if input.isTick then [totals startTime s (before ++ [input])] else [] := by
  simp only [reports, List.inits_append, List.filter_append, List.map_append]
  congr 1
  cases hinput : input.isTick <;> simp [hinput]

theorem statsEvents_append (effects : List Effect) (effect : Effect) :
    statsEvents (effects ++ [effect]) = statsEvents effects ++ statsEvents [effect] := by
  simp [statsEvents]

/-! ## A turn -/

/-- Neither the counts change nor are they broadcast. -/
def Uncounted (p p' : Pipeline Conn) : Prop :=
  p'.stats = p.stats ∧ p'.startTime = p.startTime ∧
    statsEvents p'.effects = statsEvents p.effects

theorem Uncounted.refl (p : Pipeline Conn) : Uncounted p p := ⟨rfl, rfl, rfl⟩

theorem Uncounted.trans (p₁ p₂ p₃ : Pipeline Conn) (h : Uncounted p₁ p₂) (h' : Uncounted p₂ p₃) :
    Uncounted p₁ p₃ :=
  ⟨h'.1.trans h.1, h'.2.1.trans h.2.1, h'.2.2.trans h.2.2⟩

theorem uncounted_emit {effect : Effect} (h : statsEvents [effect] = []) :
    Prog.Keeps Uncounted (emit effect : PipelineM Conn Unit) :=
  Prog.Keeps.modify fun p => ⟨rfl, rfl, by rw [statsEvents_append, h, List.append_nil]⟩

theorem uncounted_write {effect : Effect} (h : statsEvents [effect] = []) :
    Prog.Keeps Uncounted (write env effect) := by
  intro p r p' hrun
  rw [run_write] at hrun
  split at hrun
  · obtain ⟨-, rfl⟩ : _ ∧ _ = p' := by simpa using hrun
    exact ⟨rfl, rfl, rfl⟩
  · obtain ⟨-, rfl⟩ : _ ∧ _ = p' := by simpa using hrun
    exact ⟨rfl, rfl, by rw [statsEvents_append, h, List.append_nil]⟩

theorem uncounted_dispatch (action : OutputAction) :
    Prog.Keeps Uncounted (dispatch env action) := by
  cases action with
  | sendToNetwork packet => exact uncounted_write rfl
  | sendToTun packet => exact uncounted_write rfl
  | configureNetwork config => exact uncounted_emit rfl
  | requestAuthChallenge challenge => exact uncounted_emit rfl
  | stateChange state => exact uncounted_emit rfl
  | closeSession reason =>
      exact Prog.Keeps.bind Uncounted.trans (uncounted_emit rfl) fun _ =>
        Prog.Keeps.throw Uncounted.refl _

theorem uncounted_drainEngineActions : Prog.Keeps Uncounted (drainEngineActions env) := by
  have hdrain (actions : List OutputAction) : Prog.Keeps Uncounted (drainActions env actions) := by
    induction actions with
    | nil => exact Prog.Keeps.pure Uncounted.refl ()
    | cons action rest ih =>
        exact Prog.Keeps.bind Uncounted.trans (Prog.Keeps.modify fun _ => ⟨rfl, rfl, rfl⟩) fun _ =>
          Prog.Keeps.bind Uncounted.trans (uncounted_dispatch action) fun _ => ih
  exact Prog.Keeps.bind Uncounted.trans (Prog.Keeps.get Uncounted.refl) fun p => hdrain _

theorem uncounted_onEngine (call : EngineM Conn Unit) :
    Prog.Keeps Uncounted (onEngine call : PipelineM Conn Unit) := by
  intro p r p' hrun
  rw [run_onEngine] at hrun
  obtain ⟨⟨r, engine⟩, -, hout⟩ := Option.map_eq_some_iff.mp hrun
  obtain ⟨-, rfl⟩ : _ ∧ _ = p' := by simpa using hout
  exact ⟨rfl, rfl, rfl⟩

/-- What a turn after which the loop goes on makes of the statistics. -/
structure Counted (input : Input) (p p' : Pipeline Conn) : Prop where
  stats : p'.stats = totals p.startTime p.stats [input]
  startTime : p'.startTime = p.startTime
  events : statsEvents p'.effects = statsEvents p.effects ++ if input.isTick then [p'.stats] else []

/-- A turn whose input is not counted. -/
theorem counted_of_uncounted {input : Input} (hreceived : input.received = none)
    (hsent : input.sent = none) (hcounted : input.counted = none) (htick : input.isTick = false)
    (h : Uncounted p p') : Counted input p p' := by
  refine ⟨?_, h.2.1, by rw [htick, h.2.2]; simp⟩
  rw [h.1]
  simp [totals, hreceived, hsent, hcounted]

/-- A call of the engine with its drain, around a count. -/
theorem count_between {call : EngineM Conn Unit} {stats : Pipeline Conn → SessionStats}
    {f : PipelineM Conn Unit}
    (hf : f = modify fun p => { p with stats := stats p })
    (hstats : ∀ p p' : Pipeline Conn, Uncounted p p' → stats p' = stats p)
    (hrun : (do
      onEngine call
      f
      drainEngineActions env
      return true : PipelineM Conn Bool).run p = some (.ok true, p')) :
    p'.stats = stats p ∧ p'.startTime = p.startTime ∧
      statsEvents p'.effects = statsEvents p.effects := by
  subst hf
  obtain ⟨_, p₁, hengine, hcounts⟩ := Prog.run_bind_eq_ok.mp hrun
  have hcalled : Uncounted p p₁ := (uncounted_onEngine call).of_run hengine
  rw [Prog.run_modify_bind] at hcounts
  obtain ⟨_, p₂, hdrain, hends⟩ := Prog.run_bind_eq_ok.mp hcounts
  obtain ⟨hstats₂, hstart₂, hevents₂⟩ := uncounted_drainEngineActions.of_run hdrain
  obtain rfl : p₂ = p' := by simpa using hends
  exact ⟨hstats₂.trans (hstats _ _ hcalled), hstart₂.trans hcalled.2.1,
    hevents₂.trans hcalled.2.2⟩

theorem counted_turn {input : Input} (hrun : (turn env input).run p = some (.ok true, p')) :
    Counted input p p' := by
  cases input with
  | network result now =>
      cases result with
      | error e => cases hrun
      | ok packet =>
          obtain ⟨hstats, hstart, hevents⟩ := count_between rfl
            (fun p p' h => by simp only [h.1, uptime, h.2.1]) hrun
          refine ⟨?_, hstart, by simpa [Input.isTick] using hevents⟩
          simp [hstats, totals, List.filterMap_cons, Input.received, Input.sent, Input.counted,
            uptime]
  | tun result now =>
      cases result with
      | error e => cases hrun
      | ok packet =>
          by_cases hpacket : packet ≠ []
          · simp only [turn, Prog.run_ofExcept_ok_bind, if_pos hpacket] at hrun
            obtain ⟨hstats, hstart, hevents⟩ := count_between rfl
              (fun p p' h => by simp only [h.1, uptime, h.2.1]) hrun
            refine ⟨?_, hstart, by simpa [Input.isTick] using hevents⟩
            simp [hstats, totals, List.filterMap_cons, Input.received, Input.sent, Input.counted,
              uptime, hpacket]
          · simp only [turn, Prog.run_ofExcept_ok_bind, if_neg hpacket] at hrun
            obtain rfl : p = p' := by simpa using hrun
            exact counted_of_uncounted rfl (if_neg hpacket) (if_neg hpacket) rfl
              (Uncounted.refl p)
  | command command now =>
      refine counted_of_uncounted rfl rfl rfl rfl ?_
      obtain _ | ⟨username, password⟩ | ⟨stateId, response⟩ | reason := command
      · cases hrun
      · obtain ⟨_, p₁, hdrain, hends⟩ := Prog.run_bind_eq_ok.mp hrun
        obtain rfl : p₁ = p' := by simpa using hends
        exact uncounted_drainEngineActions.of_run hdrain
      · obtain ⟨_, p₁, hengine, hdrains⟩ := Prog.run_bind_eq_ok.mp hrun
        obtain ⟨_, p₂, hdrain, hends⟩ := Prog.run_bind_eq_ok.mp hdrains
        obtain rfl : p₂ = p' := by simpa using hends
        exact Uncounted.trans _ _ _ ((uncounted_onEngine _).of_run hengine)
          (uncounted_drainEngineActions.of_run hdrain)
      · obtain ⟨_, p₁, -, hends⟩ := Prog.run_bind_eq_ok.mp hrun
        cases hends
  | tick now =>
      obtain ⟨_, p₁, hengine, hdrains⟩ := Prog.run_bind_eq_ok.mp hrun
      obtain ⟨_, p₂, hdrain, hends⟩ := Prog.run_bind_eq_ok.mp hdrains
      obtain ⟨hstats, hstart, hevents⟩ := Uncounted.trans _ _ _
        ((uncounted_onEngine _).of_run hengine) (uncounted_drainEngineActions.of_run hdrain)
      rw [Prog.run_get_bind] at hends
      obtain ⟨_, p₃, hemit, hends⟩ := Prog.run_bind_eq_ok.mp hends
      obtain rfl : _ = p₃ := by simpa [emit] using hemit
      split at hends
      · cases hends
      · obtain rfl : _ = p' := by simpa using hends
        refine ⟨?_, hstart, ?_⟩
        · simp [hstats, totals, List.filterMap_cons, Input.received, Input.sent, Input.counted]
        · rw [statsEvents_append, hevents]
          rfl

/-! ## A session -/

theorem counted_next {input : Input} (h : next env p input = some p') : Counted input p p' := by
  rw [next] at h
  split at h
  · rename_i p₁ hrun
    exact counted_turn (Option.some.inj h ▸ hrun)
  · cases h

theorem start_stats {config : OpenVpnConfig} {now : Instant} {sessionId : UInt64}
    {stats : SessionStats} {startTime : Instant}
    (h : start env config now sessionId stats startTime = some (.ok p)) :
    p.stats = stats ∧ p.startTime = startTime ∧ statsEvents p.effects = [] := by
  rw [start_eq] at h
  obtain ⟨⟨r, p₁⟩, hrun, hout⟩ := Option.map_eq_some_iff.mp h
  cases r with
  | error e => cases hout
  | ok _ =>
      obtain rfl := Except.ok.inj hout
      obtain ⟨_, p₂, hengine, hdrain⟩ := Prog.run_bind_eq_ok.mp hrun
      exact Uncounted.trans _ _ _ ((uncounted_onEngine _).of_run hengine)
        (uncounted_drainEngineActions.of_run hdrain)

theorem stats_of_done {startTime : Instant} {stats : SessionStats} (done : List Input)
    {inputs : List Input} (run : Transition.Run (next env) (fun _ _ => True) p inputs p')
    (hstart : p.startTime = startTime) (hstats : p.stats = totals startTime stats done)
    (hevents : statsEvents p.effects = reports startTime stats done) :
    p'.stats = totals startTime stats (done ++ inputs) ∧
      statsEvents p'.effects = reports startTime stats (done ++ inputs) := by
  induction run generalizing done with
  | nil p => simpa using ⟨hstats, hevents⟩
  | @cons p p₁ p' input inputs _ hnext _ ih =>
      have hcounted := counted_next hnext
      have hstats₁ : p₁.stats = totals startTime stats (done ++ [input]) := by
        rw [hcounted.stats, hstart, hstats, ← totals_append]
      have hevents₁ : statsEvents p₁.effects = reports startTime stats (done ++ [input]) := by
        rw [hcounted.events, hevents, hstats₁, reports_append]
      simpa using ih _ (hcounted.startTime.trans hstart) hstats₁ hevents₁

/-- The statistics of a session count each packet of its turns once and are at every tick reported
as they are then; the uptime is that of the last packet, a tick does not bring it up to date. -/
theorem stats_of_run {config : OpenVpnConfig} {now : Instant} {sessionId : UInt64}
    {stats : SessionStats} {startTime : Instant} {p₀ : Pipeline Conn} {inputs : List Input}
    (hstart : start env config now sessionId stats startTime = some (.ok p₀))
    (run : Transition.Run (next env) (fun _ _ => True) p₀ inputs p) :
    p.stats = totals startTime stats inputs ∧
      statsEvents p.effects = reports startTime stats inputs := by
  obtain ⟨hstats, hbegins, hevents⟩ := start_stats hstart
  refine stats_of_done [] run hbegins ?_ hevents
  rw [hstats]
  simp [totals]

/-- Two ticks around a packet from the tun device, on the loopback. -/
def countedInputs : List Input :=
  sampleInputs ++ [.tick 1000000000, .tun (.ok Loopback.ipPacket) 2000000000, .tick 3000000000]

/-- The second report has the packet and its time, the time of the tick goes unseen. -/
theorem stats_loopback : ∃ p₀ p,
    start Loopback.sessionEnv {} 0 42 {} 0 = some (.ok p₀) ∧
    Transition.Run (next Loopback.sessionEnv) (fun _ _ => True) p₀ countedInputs p ∧
    statsEvents p.effects = [
      { bytesIn := 104, bytesOut := 0, packetsIn := 4, packetsOut := 0, uptimeSecs := 0 },
      { bytesIn := 104, bytesOut := 20, packetsIn := 4, packetsOut := 1, uptimeSecs := 2 }] := by
  have hruns : ((start Loopback.sessionEnv {} 0 42 {} 0).any fun result =>
      result.toOption.any fun p₀ => (Transition.runList (next Loopback.sessionEnv)
        (fun _ _ => True) p₀ countedInputs).isSome) = true := by decide +kernel
  obtain ⟨result, hstart, hcheck⟩ := (Option.any_eq_true _ _).mp hruns
  cases result with
  | error err => cases hcheck
  | ok p₀ =>
      obtain ⟨p, hrun⟩ := Option.isSome_iff_exists.mp hcheck
      have run := Transition.run_of_runList hrun
      exact ⟨p₀, p, hstart, run, (stats_of_run hstart run).2.trans (by decide +kernel)⟩

end VpnHub.Core.Pipeline
