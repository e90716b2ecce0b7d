import VpnHub.Model.StoreRuns

/-! # The connection as it is shown

What makes the store say that the tunnel is up, and for how long it says so. -/

namespace VpnHub.App

variable {rt : TotpRuntime}

/-! ## The functions of the store -/

theorem VpnStore.connectionState_connect (rt : TotpRuntime) (now : Ecma.Number) (s : VpnStore)
    (targetProfileId overridePassword : Option Text) :
    (s.connect rt now targetProfileId overridePassword).1.connectionState = s.connectionState ∨
      (s.connect rt now targetProfileId overridePassword).1.connectionState =
        "connecting".toList := by
  unfold connect
  split
  · exact .inl rfl
  · split
    · exact .inl rfl
    · split
      · exact .inl rfl
      · exact .inr rfl

namespace LiveStore

def clock (s : LiveStore) : Text × Option ℤ × ℤ :=
  (s.connectionState, s.connectedAt, s.uptimeSeconds)

/-- The clock goes on as it was, or no connection is shown. -/
def Leaves (s t : LiveStore) : Prop := t.clock = s.clock ∨ t.connectionState ≠ "connected".toList

theorem leaves_of_state {s t : LiveStore} (state : String) (h : t.connectionState = state.toList)
    (hne : state ≠ "connected") : s.Leaves t :=
  .inr fun hconnected => hne (String.toList_inj.mp (h.symm.trans hconnected))

theorem leaves_connect (now : ℤ) (s : LiveStore) (targetProfileId overridePassword : Option Text) :
    s.Leaves (s.connect rt now targetProfileId overridePassword).1 := by
  obtain h | h := VpnStore.connectionState_connect rt (some now) s.toVpnStore targetProfileId
    overridePassword
  · exact .inl (congrArg (·, s.connectedAt, s.uptimeSeconds) h)
  · exact leaves_of_state "connecting" h (by decide)

theorem leaves_disconnect (s : LiveStore) : s.Leaves s.disconnect.1 := by
  unfold disconnect
  split
  · exact .inl rfl
  · split
    · exact leaves_of_state "disconnected" rfl (by decide)
    · exact leaves_of_state "disconnecting" rfl (by decide)

theorem leaves_connectAnswered (s : LiveStore) (failed : Bool) :
    s.Leaves (s.connectAnswered failed) := by
  cases failed with
  | false => exact .inl rfl
  | true => exact leaves_of_state "error" rfl (by decide)

theorem leaves_disconnectAnswered (s : LiveStore) (force : Bool) :
    s.Leaves (s.disconnectAnswered force) := by
  cases force with
  | false => exact leaves_of_state "disconnected" rfl (by decide)
  | true => exact .inl rfl

theorem leaves_daemonProbed (s : LiveStore) (wasError alive : Bool) :
    s.Leaves (s.daemonProbed wasError alive) := by
  unfold daemonProbed
  by_cases h : alive = true ∧ wasError = true
  · rw [if_pos h]
    exact leaves_of_state "disconnected" rfl (by decide)
  · rw [if_neg h]
    exact .inl rfl

theorem leaves_onDaemonStatusChange (s : LiveStore) (status : Text) :
    s.Leaves (s.onDaemonStatusChange status).1 := by
  simp only [onDaemonStatusChange]
  split
  · split
    · exact leaves_of_state "error" rfl (by decide)
    · exact .inl rfl
  · exact .inl rfl

theorem clock_onMetricsUpdate (s : LiveStore) (rxKbps txKbps : Ecma.Number)
    (latencyRttMs : Option UInt32) :
    (s.onMetricsUpdate rxKbps txKbps latencyRttMs).clock = s.clock := by
  unfold onMetricsUpdate clock VpnStore.setActivePing
  split <;> rfl

end LiveStore

namespace View

open LiveStore

theorem leaves_connect (v : View) (now : ℤ) (targetProfileId overridePassword : Option Text) :
    v.store.Leaves (v.connect rt now targetProfileId overridePassword).store := by
  have hleaves : v.store.Leaves (v.store.connect rt now targetProfileId overridePassword).1 :=
    v.store.leaves_connect now targetProfileId overridePassword
  unfold connect
  generalize v.store.connect rt now targetProfileId overridePassword = out at hleaves
  obtain ⟨store, _ | ⟨params, _ | _⟩⟩ := out <;> exact hleaves

theorem leaves_disconnect (v : View) : v.store.Leaves v.disconnect.store := by
  have hleaves := v.store.leaves_disconnect
  unfold disconnect
  generalize v.store.disconnect = out at hleaves
  obtain ⟨store, _ | force⟩ := out <;> exact hleaves

theorem leaves_daemonStatus (v : View) (status : Text) (moduleFirst : Bool) :
    v.store.Leaves (v.daemonStatus status moduleFirst).store := by
  let before := if moduleFirst then v.store.setDaemonHealth status else v.store
  have hclock : before.clock = v.store.clock := by
    cases moduleFirst <;> rfl
  have hleaves : v.store.Leaves (before.onDaemonStatusChange status).1 := by
    rw [Leaves, ← hclock]
    exact before.leaves_onDaemonStatusChange status
  unfold daemonStatus
  dsimp only
  generalize before.onDaemonStatusChange status = out at hleaves ⊢
  obtain ⟨store, _ | _⟩ := out <;> exact hleaves

/-! ## The actions -/

def tickTime : ViewAction → Option ℤ
  | .tick now => some now
  | _ => none

/-- Only the timer, a report and the answer to a question for the status may do more than leave. -/
theorem step_cases {u w : View} {a : ViewAction} (h : u.step rt a = some w) :
    (tickTime a = none ∧ u.store.Leaves w.store) ∨
      (∃ now, a = .tick now ∧ w.store = u.store.tickTelemetry now) ∨
      (∃ now response, a = .vpnStatus now response ∧
        w.store = u.store.onVpnStatusUpdate now response) ∨
      ∃ i response, a = .answer i (.status response) ∧ u.calls[i]? = some .restoring ∧
        w.store = u.store.statusRestored response := by
  cases a with
  | connect now targetProfileId overridePassword =>
      obtain rfl := Option.some.inj h
      exact .inl ⟨rfl, u.leaves_connect now _ _⟩
  | disconnect =>
      obtain rfl := Option.some.inj h
      exact .inl ⟨rfl, u.leaves_disconnect⟩
  | trayToggle now =>
      obtain rfl := Option.some.inj h
      refine .inl ⟨rfl, ?_⟩
      unfold trayToggle
      split
      · exact u.leaves_disconnect
      · exact u.leaves_connect now _ _
  | retryDaemonIpc =>
      obtain rfl := Option.some.inj h
      exact .inl ⟨rfl, .inl rfl⟩
  | answer i answer =>
      obtain ⟨call, hcall, hresume⟩ := Option.bind_eq_some_iff.mp h
      obtain ⟨⟨store, next, requests⟩, hout, rfl⟩ := Option.map_eq_some_iff.mp hresume
      cases call <;> cases answer <;> try cases hout
      · exact .inl ⟨rfl, .inl rfl⟩
      · exact .inl ⟨rfl, u.store.leaves_connectAnswered _⟩
      · exact .inl ⟨rfl, u.store.leaves_disconnectAnswered _⟩
      · exact .inl ⟨rfl, u.store.leaves_daemonProbed _ _⟩
      · exact .inr (.inr (.inr ⟨i, _, rfl, hcall, rfl⟩))
  | daemonStatus status moduleFirst =>
      obtain rfl := Option.some.inj h
      exact .inl ⟨rfl, u.leaves_daemonStatus status moduleFirst⟩
  | daemonPinged alive =>
      obtain rfl := Option.some.inj h
      exact .inl ⟨rfl, .inl rfl⟩
  | vpnStatus now response =>
      obtain rfl := Option.some.inj h
      exact .inr (.inr (.inl ⟨now, response, rfl, rfl⟩))
  | metrics rxKbps txKbps latencyRttMs =>
      obtain rfl := Option.some.inj h
      exact .inl ⟨rfl, .inl (u.store.clock_onMetricsUpdate _ _ _)⟩
  | tick now =>
      obtain rfl := Option.some.inj h
      exact .inr (.inl ⟨now, rfl, rfl⟩)
  | edit profiles activeProfileId settings mfaPromptProfile =>
      obtain rfl := Option.some.inj h
      exact .inl ⟨rfl, .inl rfl⟩

/-! ## While a connection is shown -/

section Connected

variable {u w : View} {a : ViewAction}

theorem Connected.of_leaves (h : u.store.Leaves w.store) (hw : w.Connected) :
    u.Connected ∧ w.store.connectedAt = u.store.connectedAt ∧
      w.store.uptimeSeconds = u.store.uptimeSeconds := by
  obtain h | h := h
  · obtain ⟨hstate, htimes⟩ := Prod.mk.inj h
    obtain ⟨hat, huptime⟩ := Prod.mk.inj htimes
    exact ⟨hstate.symm.trans hw, hat, huptime⟩
  · exact absurd hw h

/-- A tick that meets a connection counts on from its start. -/
theorem step_stays (h : u.step rt a = some w) (hu : u.Connected) (hw : w.Connected) :
    w.store.connectedAt = u.store.connectedAt ∧ w.store.uptimeSeconds =
      ((tickTime a).map fun now =>
        realUptime now u.store.connectedAt u.store.uptimeSeconds).getD u.store.uptimeSeconds := by
  obtain ⟨htick, hleaves⟩ | ⟨now, rfl, hstore⟩ | ⟨now, response, rfl, hstore⟩ |
    ⟨i, response, rfl, -, hstore⟩ := step_cases h
  · rw [htick]
    exact (Connected.of_leaves hleaves hw).2
  · have htick : u.store.tickTelemetry now = _ := if_neg (not_not.mpr hu)
    rw [hstore, htick]
    exact ⟨rfl, rfl⟩
  · cases response with
    | status snap =>
        -- What the daemon reports is what is shown already.
        have hsame : ¬ snap.state.name ≠ u.store.connectionState := by
          intro hne
          have hupdate : u.store.onVpnStatusUpdate now (.status snap) = _ := if_pos hne
          have hname : snap.state.name = "connected".toList := by
            rw [← hw, shown, hstore, hupdate]
          exact hne (hname.trans hu.symm)
        have hupdate : u.store.onVpnStatusUpdate now (.status snap) = _ := if_neg hsame
        rw [hstore, hupdate]
        exact ⟨rfl, rfl⟩
    | success | pong | metrics | error =>
        rw [hstore]
        exact ⟨rfl, rfl⟩
  · obtain _ | response := response
    · rw [hstore]
      exact ⟨rfl, rfl⟩
    · cases response <;> rw [hstore] <;> exact ⟨rfl, rfl⟩

/-- A report with the time it came, or the answer to the question that is put after an outage. -/
theorem step_enters (h : u.step rt a = some w) (hu : ¬ u.Connected) (hw : w.Connected) :
    (∃ now snap, a = .vpnStatus now (.status snap) ∧ snap.state = .connected ∧
      w.store.connectedAt = some (now - snap.sessionDurationSecs.toNat * 1000) ∧
      w.store.uptimeSeconds = snap.sessionDurationSecs.toNat) ∨
    ∃ i snap, a = .answer i (.status (some (.status snap))) ∧ snap.state = .connected ∧
      u.calls[i]? = some .restoring ∧ w.store.connectedAt = u.store.connectedAt ∧
      w.store.uptimeSeconds = u.store.uptimeSeconds := by
  have hname (state : Daemon.SessionState) (h : state.name = "connected".toList) :
      state = .connected := by
    revert h
    cases state <;> decide
  obtain ⟨-, hleaves⟩ | ⟨now, rfl, hstore⟩ | ⟨now, response, rfl, hstore⟩ |
    ⟨i, response, rfl, hcall, hstore⟩ := step_cases h
  · exact absurd (Connected.of_leaves hleaves hw).1 hu
  · have htick : (u.store.tickTelemetry now).connectionState = u.store.connectionState := by
      simp only [tickTelemetry]
      split
      · split <;> rfl
      · rfl
    rw [Connected, shown, hstore, htick] at hw
    exact absurd hw hu
  · cases response with
    | status snap =>
        by_cases hne : snap.state.name ≠ u.store.connectionState
        · have hupdate : u.store.onVpnStatusUpdate now (.status snap) = _ := if_pos hne
          rw [Connected, shown, hstore, hupdate] at hw
          have hstate := hname _ hw
          refine .inl ⟨now, snap, rfl, hstate, ?_, ?_⟩
          · rw [hstore, hupdate, if_pos hstate]
          · rw [hstore, hupdate]
        · have hupdate : u.store.onVpnStatusUpdate now (.status snap) = _ := if_neg hne
          rw [Connected, shown, hstore, hupdate] at hw
          exact absurd hw hu
    | success | pong | metrics | error =>
        rw [Connected, shown, hstore] at hw
        exact absurd hw hu
  · obtain _ | response := response
    · rw [Connected, shown, hstore] at hw
      exact absurd hw hu
    · cases response with
      | status snap =>
          rw [Connected, shown, hstore] at hw
          exact .inr ⟨i, snap, rfl, hname _ hw, hcall, by rw [hstore]; rfl, by rw [hstore]; rfl⟩
      | success | pong | metrics | error =>
          rw [Connected, shown, hstore] at hw
          exact absurd hw hu

end Connected

/-! ## Runs -/

/-- Every action leads to a view that shows a connection. -/
abbrev Stays (rt : TotpRuntime) :=
  Transition.Run (View.step rt) fun v a => ∀ w, v.step rt a = some w → w.Connected

def lastTick (as : List ViewAction) : Option ℤ := (as.filterMap tickTime).getLast?

theorem lastTick_cons (a : ViewAction) (as : List ViewAction) :
    lastTick (a :: as) = (lastTick as).or (tickTime a) := by
  unfold lastTick
  cases htick : tickTime a with
  | none => rw [List.filterMap_cons_none htick, Option.or_none]
  | some now =>
      rw [List.filterMap_cons_some htick, List.getLast?_cons]
      cases (as.filterMap tickTime).getLast? <;> rfl

theorem realUptime_realUptime (now before : ℤ) (connectedAt : Option ℤ) (uptimeSeconds : ℤ) :
    realUptime now connectedAt (realUptime before connectedAt uptimeSeconds) =
      realUptime now connectedAt uptimeSeconds := by
  unfold realUptime
  cases connectedAt.filter (· ≠ 0) <;> rfl

/-- The last tick alone decides on the uptime. -/
theorem uptime_of_stays {v w : View} {as : List ViewAction} (run : Stays rt w as v)
    (hw : w.Connected) : v.store.connectedAt = w.store.connectedAt ∧ v.store.uptimeSeconds =
      ((lastTick as).map fun now =>
        realUptime now w.store.connectedAt w.store.uptimeSeconds).getD w.store.uptimeSeconds := by
  induction run with
  | nil w => exact ⟨rfl, rfl⟩
  | @cons w u v a as allowed taken _ ih =>
      have hu := allowed u taken
      obtain ⟨hat, huptime⟩ := step_stays taken hw hu
      obtain ⟨ihat, ihuptime⟩ := ih hu
      refine ⟨ihat.trans hat, ?_⟩
      rw [ihuptime, hat, huptime, lastTick_cons]
      cases tickTime a <;> cases lastTick as <;>
        simp [realUptime_realUptime]

/-- A shown connection goes back to one report, and the uptime at the last tick is that of the
report with the time since then; or to the answer to the question that is put after an outage, and
without a report of before the outage the uptime stays as it is. -/
theorem connected_of_run {v : View} {as : List ViewAction} (run : ViewRun rt {} as v)
    (hv : v.Connected) : ∃ before a after u w, as = before ++ a :: after ∧
      ViewRun rt {} before u ∧ u.step rt a = some w ∧ ¬ u.Connected ∧ w.Connected ∧
      Stays rt w after v ∧
      ((∃ now snap, a = .vpnStatus now (.status snap) ∧ snap.state = .connected ∧
        (now ≠ snap.sessionDurationSecs.toNat * 1000 → v.store.uptimeSeconds =
          snap.sessionDurationSecs.toNat +
            ((lastTick after).map fun tick => (tick - now) / 1000).getD 0)) ∨
      ∃ i snap, a = .answer i (.status (some (.status snap))) ∧ snap.state = .connected ∧
        u.calls[i]? = some .restoring ∧
        (u.store.connectedAt = none → v.store.uptimeSeconds = u.store.uptimeSeconds)) := by
  obtain ⟨hstart, -⟩ | ⟨before, a, after, u, w, has, hbefore, hstep, hu, hw, hafter⟩ :=
    run.exists_entry hv
  · exact absurd hstart (by decide)
  refine ⟨before, a, after, u, w, has, hbefore, hstep, hu, hw, hafter, ?_⟩
  obtain ⟨-, huptime⟩ := uptime_of_stays hafter hw
  obtain ⟨now, snap, rfl, hstate, hat, hsecs⟩ | ⟨i, snap, rfl, hstate, hcall, hat, hsecs⟩ :=
    step_enters hstep hu hw
  · refine .inl ⟨now, snap, rfl, hstate, fun hnow => ?_⟩
    have hcounts (tick : ℤ) : realUptime tick w.store.connectedAt w.store.uptimeSeconds =
        snap.sessionDurationSecs.toNat + (tick - now) / 1000 := by
      have hne : now - snap.sessionDurationSecs.toNat * 1000 ≠ 0 := sub_ne_zero.mpr hnow
      simp only [realUptime, hat, Option.filter, hne, decide_true, ne_eq, not_false_eq_true,
        if_true, Option.map_some, Option.getD_some]
      omega
    rw [huptime, hsecs]
    cases lastTick after with
    | none => simp
    | some tick => simp [← hsecs, hcounts tick]
  · refine .inr ⟨i, snap, rfl, hstate, hcall, fun hnone => ?_⟩
    rw [huptime, hat, hsecs, hnone]
    cases lastTick after <;> rfl

/-- The daemon reports twelve seconds, and the timer runs three and a half later. -/
theorem connected_of_run_sample : ∃ v : View, v.store.uptimeSeconds = 15 ∧
    ∃ before a after u w, Sample.reportActions = before ++ a :: after ∧
      ViewRun Sample.runtime {} before u ∧ u.step Sample.runtime a = some w ∧
      ¬ u.Connected ∧ w.Connected ∧ Stays Sample.runtime w after v := by
  obtain ⟨v, run, hv⟩ := Transition.exists_run_of_any (p := fun v : View =>
    decide (v.Connected ∧ v.store.uptimeSeconds = 15))
    (show (Transition.runList (View.step Sample.runtime) (fun _ _ => True) {}
      Sample.reportActions).any _ = true by decide +kernel)
  obtain ⟨hconnected, huptime⟩ := of_decide_eq_true hv
  obtain ⟨before, a, after, u, w, has, hbefore, hstep, hu, hw, hafter, -⟩ :=
    connected_of_run run hconnected
  exact ⟨v, huptime, before, a, after, u, w, has, hbefore, hstep, hu, hw, hafter⟩

/-! ## After an outage -/

/-- The daemon cannot be reached for a moment while a connection is shown. If the answer to the
question for the status comes before the next report, the uptime is zero as long as the connection
is shown, whatever the reports say. -/
theorem frozen_after_outage {v : View} (hv : v.Connected) {snap : Ipc.DaemonStatusSnapshot}
    (hsnap : snap.state = .connected) (moduleFirst : Bool) :
    ∃ w, ViewRun rt v [.daemonStatus "offline".toList moduleFirst,
        .daemonStatus "connected".toList false,
        .answer v.calls.length (.status (some (.status snap)))] w ∧ w.Connected ∧
      ∀ as u, Stays rt w as u → u.store.uptimeSeconds = 0 := by
  let offline : LiveStore := { v.store with
    daemonHealth := "offline".toList
    connectionState := "error".toList
    uptimeSeconds := 0
    connectedAt := none
    telemetry := {} }
  let asking : View :=
    ({ v with store := offline }).push (offline.setDaemonHealth "connected".toList) .restoring []
  let w : View := { asking with
    store := asking.store.statusRestored (some (.status snap))
    calls := v.calls ++ [.returned]
    sent := asking.sent ++ [] }
  have hoffline : v.daemonStatus "offline".toList moduleFirst = { v with store := offline } := by
    have hstate : v.store.connectionState = "connected".toList := hv
    cases moduleFirst <;>
      simp [daemonStatus, onDaemonStatusChange, setDaemonHealth, hstate, offline]
  have hanswer : asking.answer v.calls.length (.status (some (.status snap))) = some w := by
    simp [answer, asking, push, resume, w]
  have hw : w.Connected := by
    show snap.state.name = _
    rw [hsnap]
    rfl
  refine ⟨w, .cons trivial (congrArg some hoffline) (.cons trivial rfl
    (.cons trivial hanswer (.nil w))), hw, fun as u run => ?_⟩
  obtain ⟨-, huptime⟩ := uptime_of_stays run hw
  rw [huptime]
  cases lastTick as <;> rfl

theorem frozen_after_outage_sample : ∃ w,
    ViewRun Sample.runtime Sample.connectedView
      [.daemonStatus "offline".toList false, .daemonStatus "connected".toList false,
        .answer 0 (.status (some (.status { state := .connected, sessionDurationSecs := 90 })))] w ∧
      w.Connected ∧ ∀ as u, Stays Sample.runtime w as u → u.store.uptimeSeconds = 0 :=
  frozen_after_outage (show Sample.connectedView.Connected by decide) rfl false

/-! ## Who hears first -/

theorem mem_calls_connect {v : View} {now : ℤ} {targetProfileId overridePassword : Option Text}
    (h : .restoring ∈ (v.connect rt now targetProfileId overridePassword).calls) :
    .restoring ∈ v.calls := by
  unfold connect at h
  split at h
  · exact h
  · simpa [push] using h
  · simpa [push] using h

theorem mem_calls_disconnect {v : View} (h : .restoring ∈ v.disconnect.calls) :
    .restoring ∈ v.calls := by
  unfold disconnect at h
  split at h
  · exact h
  · simpa [push] using h

/-- The health is the new one already. -/
theorem mem_calls_daemonStatus {v : View} {status : Text}
    (h : .restoring ∈ (v.daemonStatus status true).calls) : .restoring ∈ v.calls := by
  have hasks : ((v.store.setDaemonHealth status).onDaemonStatusChange status).2 = false := by
    simp only [onDaemonStatusChange]
    split
    · split <;> rfl
    · exact decide_eq_false fun h => ‹¬ status = _› h.2
  simp only [daemonStatus, if_true] at h
  generalize (v.store.setDaemonHealth status).onDaemonStatusChange status = out at h hasks
  obtain ⟨store, _ | _⟩ := out
  · exact h
  · cases hasks

theorem mem_calls_answer {u w : View} {i : ℕ} {a : Answer} (h : u.answer i a = some w)
    (hmem : .restoring ∈ w.calls) : .restoring ∈ u.calls := by
  obtain ⟨call, -, hresume⟩ := Option.bind_eq_some_iff.mp h
  obtain ⟨⟨store, next, requests⟩, hout, rfl⟩ := Option.map_eq_some_iff.mp hresume
  obtain hold | hnew := List.mem_or_eq_of_mem_set hmem
  · exact hold
  · subst hnew
    cases call <;> cases a <;> cases hout

def ModuleFirst (_ : View) : ViewAction → Prop
  | .daemonStatus _ moduleFirst => moduleFirst = true
  | _ => True

instance (v : View) : ∀ a, Decidable (ModuleFirst v a)
  | .daemonStatus _ moduleFirst => inferInstanceAs (Decidable (moduleFirst = true))
  | .connect .. | .disconnect | .trayToggle _ | .retryDaemonIpc | .answer .. | .daemonPinged _
  | .vpnStatus .. | .metrics .. | .tick _ | .edit .. => isTrue trivial

/-- Where the listener of the module always hears first, the store never asks. -/
theorem no_restoring_of_run {v : View} {as : List ViewAction}
    (run : Transition.Run (View.step rt) ModuleFirst {} as v) : .restoring ∉ v.calls := by
  refine run.invariant (I := fun v => .restoring ∉ v.calls) (fun u a w hguard hstep hu hw => ?_)
    List.not_mem_nil
  refine hu ?_
  cases a with
  | answer i a => exact mem_calls_answer hstep hw
  | connect now targetProfileId overridePassword =>
      obtain rfl := Option.some.inj hstep
      exact mem_calls_connect hw
  | disconnect =>
      obtain rfl := Option.some.inj hstep
      exact mem_calls_disconnect hw
  | trayToggle now =>
      obtain rfl := Option.some.inj hstep
      unfold trayToggle at hw
      split at hw
      · exact mem_calls_disconnect hw
      · exact mem_calls_connect hw
  | retryDaemonIpc =>
      obtain rfl := Option.some.inj hstep
      simpa [push] using hw
  | daemonStatus status moduleFirst =>
      obtain rfl := Option.some.inj hstep
      cases moduleFirst with
      | false => cases hguard
      | true => exact mem_calls_daemonStatus hw
  | daemonPinged | vpnStatus | metrics | tick | edit =>
      obtain rfl := Option.some.inj hstep
      exact hw

theorem no_restoring_of_run_sample : ∃ v : View, v.shown = "error".toList ∧
    .restoring ∉ v.calls := by
  obtain ⟨v, run, hv⟩ := Transition.exists_run_of_any (p := fun v : View =>
    decide (v.shown = "error".toList))
    (show (Transition.runList (View.step Sample.runtime) ModuleFirst {}
      (Sample.reportActions ++ [.daemonStatus "offline".toList true,
        .daemonStatus "connected".toList true])).any _ = true by decide +kernel)
  exact ⟨v, of_decide_eq_true hv, no_restoring_of_run run⟩

end View

end VpnHub.App
