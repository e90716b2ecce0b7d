import VpnHub.Verification.App.Ipc

/-! # Requests and their responses

Frames do not say which request they answer, so a response goes to the call that waits when it
is read. This is about when that is the call that it was produced for. -/

namespace VpnHub.Ipc

namespace System

variable {s s' : System} {c : CallId}

/-! ## Streams on which no call has timed out -/

/-- Every response went to its own call, and no call waits on a stream on which another has
timed out. -/
structure Straight (s : System) : Prop where
  own : ∀ x ∈ s.streams, ∀ c i, (c, some i) ∈ x.log → i = c
  fresh : ∀ x, s.current = some x → x.waiting ≠ none → ∀ entry ∈ x.log, entry.2 ≠ none

theorem Straight.of_same (h : Straight s) (hstreams : s'.streams = s.streams)
    (hclient : s'.client.stream = s.client.stream ∨ s'.client.stream = none) : Straight s' := by
  refine ⟨hstreams ▸ h.own, fun x hx => ?_⟩
  rcases hclient with hclient | hclient
  · rw [current, hclient, hstreams] at hx
    exact h.fresh x hx
  · rw [current, hclient] at hx
    cases hx

theorem Straight.served (h : Straight s) {k : StreamId} {f : Stream → Option Stream}
    (hf : ∀ x x', f x = some x' → Served x x') (hstep : s.onStream k f = some s') :
    Straight s' := by
  obtain ⟨x, x', hx, hx', rfl⟩ := onStream_eq_some.mp hstep
  have hserved := hf x x' hx'
  constructor
  · intro y hy c i hlog
    rcases List.mem_or_eq_of_mem_set hy with hy | rfl
    · exact h.own y hy c i hlog
    · rw [hserved.log] at hlog
      exact h.own x (List.mem_of_getElem? hx) c i hlog
  · intro y hy hwaiting
    rcases current_set hx hy with hy | ⟨hx, rfl⟩
    · exact h.fresh y hy hwaiting
    · rw [hserved.waiting] at hwaiting
      rw [hserved.log]
      exact h.fresh x hx hwaiting

/-- Steps that leave the streams as they are. -/
theorem same_runWorker (hstep : s.runWorker = some s') :
    s'.streams = s.streams ∧ s'.client.stream = s.client.stream := by
  unfold System.runWorker at hstep
  split at hstep
  · obtain rfl := Option.some.inj hstep
    exact ⟨rfl, rfl⟩
  · obtain ⟨result, -, rfl⟩ := Option.map_eq_some_iff.mp hstep
    split <;> exact ⟨rfl, rfl⟩
  all_goals
    obtain ⟨result, -, rfl⟩ := Option.map_eq_some_iff.mp hstep
    exact ⟨rfl, rfl⟩

theorem Straight.write (h : Straight s) (hwrite : s.write c = some s') :
    (∀ x ∈ s'.streams, ∀ c i, (c, some i) ∈ x.log → i = c) ∧
      ∀ y, s'.current = some y → ∃ x, s.current = some x ∧ y.log = x.log := by
  obtain ⟨call, k, x, hcall, hk, hx, rfl⟩ := write_eq_some.mp hwrite
  constructor
  · intro y hy c i hlog
    rcases List.mem_or_eq_of_mem_set hy with hy | rfl
    · exact h.own y hy c i hlog
    · exact h.own x (List.mem_of_getElem? hx) c i hlog
  · intro y hy
    rcases current_set hx hy with hy | ⟨hx, rfl⟩
    · exact ⟨y, hy, rfl⟩
    · exact ⟨x, hx, rfl⟩

theorem Straight.received (h : Straight s) (hcons : Consistent s)
    (hstep : s.received c = some s') : Straight s' := by
  have hcons' := hcons.received hstep
  obtain ⟨deadline, k, x, response, x', hphase, hk, hx, hread, rfl⟩ := received_cases hstep
  obtain ⟨hlt, -⟩ := List.getElem?_eq_some_iff.mp hx
  have hcurrent := current_eq_some.mpr ⟨k, hk, hx⟩
  have hwaits := hcons.waits hphase trivial hcurrent
  have hsound := hcons.sound x (List.mem_of_getElem? hx)
  have hsound' := hsound.read hwaits hread
  obtain ⟨i, r, hlog, -⟩ := Exchange.read_log hsound.carries hwaits hread
  have hfresh := h.fresh x hcurrent (by rw [hwaits]; exact Option.some_ne_none c)
  -- nobody gave up before, so the response is its own
  have hown : i = c := (hsound'.order.own_iff hsound'.once hlog).mpr hfresh
  constructor
  · intro y hy c' i' hy'
    rcases List.mem_or_eq_of_mem_set hy with hy | rfl
    · exact h.own y hy c' i' hy'
    · rw [hlog] at hy'
      rcases List.mem_append.mp hy' with hy' | hy'
      · exact h.own x (List.mem_of_getElem? hx) c' i' hy'
      · obtain ⟨rfl, rfl⟩ : c' = c ∧ i' = i := by simpa using hy'
        exact hown
  · intro y hy _ entry hentry
    rcases current_set hx hy with hy | ⟨-, rfl⟩
    · obtain rfl := Option.some.inj (hcurrent.symm.trans hy)
      exact hfresh entry hentry
    · rw [hlog] at hentry
      rcases List.mem_append.mp hentry with hentry | hentry
      · exact hfresh entry hentry
      · obtain rfl := List.mem_singleton.mp hentry
        exact Option.some_ne_none i

theorem Straight.timedOut (h : Straight s) (hstep : s.timedOut c = some s') : Straight s' := by
  obtain ⟨deadline, k, x, hphase, hk, hx, rfl⟩ := timedOut_cases hstep
  constructor
  · intro y hy c' i hlog
    rcases List.mem_or_eq_of_mem_set hy with hy | rfl
    · exact h.own y hy c' i hlog
    · rcases List.mem_append.mp hlog with hlog | hlog
      · exact h.own x (List.mem_of_getElem? hx) c' i hlog
      · simp at hlog
  · intro y hy hwaiting
    obtain ⟨j, hj, hy⟩ := current_eq_some.mp hy
    obtain rfl : k = j := Option.some.inj (hk.symm.trans hj)
    obtain ⟨hlt, -⟩ := List.getElem?_eq_some_iff.mp hx
    obtain rfl : x.giveUp = y := Option.some.inj ((List.getElem?_set_self hlt).symm.trans hy)
    exact absurd rfl hwaiting

theorem Straight.sent (h : Straight s) (hallowed : s.Untroubled (.sent c))
    (hstep : s.sent c = some s') : Straight s' := by
  unfold System.sent at hstep
  split at hstep
  · obtain ⟨s₁, hwrite, rfl⟩ := Option.map_eq_some_iff.mp hstep
    obtain ⟨hown, hlog⟩ := h.write hwrite
    refine ⟨hown, fun y hy _ => ?_⟩
    obtain ⟨x, hx, hsame⟩ := hlog y hy
    rw [hsame]
    exact hallowed x hx
  · cases hstep

theorem Straight.sendFailed (h : Straight s) {message : Text} {arrived : Bool}
    (hstep : s.sendFailed c message arrived = some s') : Straight s' := by
  unfold System.sendFailed at hstep
  split at hstep
  · obtain ⟨s₁, hwrite, rfl⟩ := Option.map_eq_some_iff.mp hstep
    refine ⟨?_, fun y hy => by cases hy⟩
    cases arrived with
    | false =>
        obtain rfl := Option.some.inj hwrite
        exact h.own
    | true => exact (h.write hwrite).1
  · cases hstep

theorem Straight.connected (h : Straight s) {result : Except Text Unit}
    (hstep : s.connected c result = some s') : Straight s' := by
  unfold System.connected at hstep
  split at hstep
  · cases result with
    | error e =>
        obtain rfl := Option.some.inj hstep
        exact h.of_same rfl (.inr rfl)
    | ok =>
        obtain rfl := Option.some.inj hstep
        constructor
        · intro x hx c' i hlog
          rcases List.mem_append.mp hx with hx | hx
          · exact h.own x hx c' i hlog
          · obtain rfl := List.mem_singleton.mp hx
            cases hlog
        · intro x hx hwaiting
          obtain ⟨k, hk, hx⟩ := current_eq_some.mp hx
          obtain rfl : s.streams.length = k := Option.some.inj hk
          obtain rfl : ({} : Stream) = x := by simpa using hx
          exact absurd rfl hwaiting
  · cases hstep

/-- Steps that leave the streams as they are, and the client with the one it has or none. -/
theorem same_of_step {event : Event} (hstep : s.step event = some s')
    (hevent : match event with
      | .call _ | .ensure _ | .lock _ | .malformed _ _ | .closed _ | .elapse _ | .worker => True
      | _ => False) :
    s'.streams = s.streams ∧
      (s'.client.stream = s.client.stream ∨ s'.client.stream = none) := by
  cases event with
  | worker => exact ⟨(same_runWorker hstep).1, .inl (same_runWorker hstep).2⟩
  | ensure c =>
      simp only [System.step, System.ensure] at hstep
      split at hstep
      · split at hstep <;> obtain rfl := Option.some.inj hstep <;> exact ⟨rfl, .inl rfl⟩
      · cases hstep
  | lock c =>
      simp only [System.step, System.lock] at hstep
      split at hstep
      · split at hstep <;> obtain rfl := Option.some.inj hstep <;> exact ⟨rfl, .inl rfl⟩
      · cases hstep
  | malformed c message =>
      simp only [System.step, System.malformed] at hstep
      split at hstep
      · obtain rfl := Option.some.inj hstep
        exact ⟨rfl, .inr rfl⟩
      · cases hstep
  | closed c =>
      simp only [System.step, System.closed] at hstep
      split at hstep
      · split at hstep
        · obtain rfl := Option.some.inj hstep
          exact ⟨rfl, .inr rfl⟩
        · cases hstep
      · cases hstep
  | call request =>
      obtain rfl := Option.some.inj hstep
      exact ⟨rfl, .inl rfl⟩
  | elapse duration =>
      obtain rfl := Option.some.inj hstep
      exact ⟨rfl, .inl rfl⟩
  | connected c result => exact hevent.elim
  | sent c => exact hevent.elim
  | sendFailed c message arrived => exact hevent.elim
  | received c => exact hevent.elim
  | timedOut c => exact hevent.elim
  | take k => exact hevent.elim
  | respond k operations => exact hevent.elim
  | hangUp k => exact hevent.elim

theorem Straight.step (h : Straight s) (hcons : Consistent s) {event : Event}
    (hallowed : s.Untroubled event) (hstep : s.step event = some s') : Straight s' := by
  have hsame := same_of_step hstep
  cases event with
  | connected c result => exact h.connected hstep
  | sent c => exact h.sent hallowed hstep
  | sendFailed c message arrived => exact h.sendFailed hstep
  | received c => exact h.received hcons hstep
  | timedOut c => exact h.timedOut hstep
  | take k => exact h.served (fun _ _ => served_take) hstep
  | respond k operations => exact h.served (fun _ _ => served_respond) hstep
  | hangUp k =>
      refine h.served (fun x x' hx => ?_) hstep
      obtain rfl := Option.some.inj hx
      exact served_hangUp x
  | call request => exact h.of_same (hsame trivial).1 (hsame trivial).2
  | ensure c => exact h.of_same (hsame trivial).1 (hsame trivial).2
  | lock c => exact h.of_same (hsame trivial).1 (hsame trivial).2
  | malformed c message => exact h.of_same (hsame trivial).1 (hsame trivial).2
  | closed c => exact h.of_same (hsame trivial).1 (hsame trivial).2
  | elapse duration => exact h.of_same (hsame trivial).1 (hsame trivial).2
  | worker => exact h.of_same (hsame trivial).1 (hsame trivial).2

theorem Straight.initial (path : SocketPath) :
    Straight { client := { socketPath := path } } where
  own x hx := by cases hx
  fresh x hx := by cases hx

/-- A response that is on record for its own call was produced for the request of that call. -/
theorem paired_of_own (h : Consistent s)
    (hown : ∀ x ∈ s.streams, ∀ c i, (c, some i) ∈ x.log → i = c) : s.Paired := by
  intro c call result hcall hreturned hreply
  have hphase : s.phase c = some (.returned result) := phase_eq_some.mpr ⟨call, hcall, hreturned⟩
  obtain ⟨x, hx, i, r, response, hlog, hproduced, hresult⟩ := h.recorded c result hphase hreply
  obtain rfl := hown x hx c i hlog
  obtain ⟨call', hcall', hrequest⟩ := (h.sound x hx).carries.produced _ hproduced
  obtain rfl := Option.some.inj (hcall'.symm.trans hcall)
  exact ⟨x, hx, hlog, response, hrequest ▸ hproduced, hresult⟩

end System

/-- In every run in which no request is written to a stream on which another has timed out,
every call that returns a response returns the one to its own request. In any run, the response
that a call is given is its own iff no call has timed out before it on the same stream. -/
theorem responses_paired (path : SocketPath) :
    (∀ events s, Transition.Run System.step System.Untroubled { client := { socketPath := path } } events s →
      s.Paired) ∧
    ∀ s, Reachable path s → ∀ stream ∈ s.streams, ∀ earlier later c i,
      stream.log = earlier ++ (c, some i) :: later →
        (i = c ↔ ∀ entry ∈ earlier, entry.2 ≠ none) := by
  constructor
  · intro events s run
    have hinv : s.Consistent ∧ s.Straight :=
      run.invariant (I := fun s => s.Consistent ∧ s.Straight)
        (fun _ _ _ hallowed hstep h => ⟨h.1.step hstep, h.2.step h.1 hallowed hstep⟩)
        ⟨.initial path, .initial path⟩
    exact System.paired_of_own hinv.1 hinv.2.own
  · intro s hreach stream hstream earlier later c i hlog
    have hsound := (System.consistent_of_reachable hreach).sound stream hstream
    exact hsound.order.own_iff hsound.once hlog

/-! ## Two requests -/

def daemonSocket : SocketPath where
  display := "/run/vpnhub.sock".toList
  debug := "\"/run/vpnhub.sock\"".toList

/-- The first request, on a new stream. -/
def firstRequest (request : DaemonRequest) : List Event :=
  [.call request, .ensure 0, .connected 0 (.ok ()), .lock 0, .sent 0, .take 0]

/-- Two pings that the daemon answers in time. -/
def twoPings : List Event :=
  firstRequest .ping ++ [.respond 0 {}, .received 0, .worker, .ensure 1, .lock 1, .sent 1,
    .take 0, .respond 0 {}, .received 1, .worker]

theorem responses_paired_pings : ∃ s : System, s.Paired ∧
    s.emitted = [.daemonStatus "connected".toList] := by
  have hrun : ((Transition.runList System.step System.Untroubled
      { client := { socketPath := daemonSocket } } twoPings).any fun s =>
        decide (s.emitted = [.daemonStatus "connected".toList])) = true := by decide +kernel
  obtain ⟨s, run, hs⟩ := Transition.exists_run_of_any hrun
  exact ⟨s, (responses_paired daemonSocket).1 twoPings s run, of_decide_eq_true hs⟩

/-- A disconnect that takes longer than ten seconds, and the worker's ping after it. -/
def slowDisconnect : List Event :=
  firstRequest (.change (.disconnect false)) ++ [.elapse requestTimeout, .timedOut 0, .worker,
    .ensure 1, .lock 1, .sent 1, .respond 0 {}, .received 1, .worker]

/-- Whether a call has got `Success`. -/
def Phase.succeeded : Phase → Bool
  | .returned (.ok .success) => true
  | _ => false

theorem Phase.eq_of_succeeded {phase : Phase} (h : phase.succeeded = true) :
    phase = .returned (.ok .success) := by
  unfold Phase.succeeded at h
  split at h
  · rfl
  · cases h

/-- The ping gets the response to the disconnect, and the worker shows the daemon as offline. -/
theorem late_response_shifts :
    ¬ ∀ path s, Reachable path s → s.Paired := by
  intro hclaim
  have hrun : ((Transition.runList System.step (fun _ _ => True)
      { client := { socketPath := daemonSocket } } slowDisconnect).any fun s =>
        (s.calls[1]?).any (·.phase.succeeded) &&
          s.streams.all fun stream => decide ((1, some 1) ∉ stream.log)) = true := by
    decide +kernel
  obtain ⟨s, run, hs⟩ := Transition.exists_run_of_any hrun
  rw [Bool.and_eq_true, Option.any_eq_true] at hs
  obtain ⟨⟨call, hcall, hsucceeded⟩, hlogs⟩ := hs
  obtain ⟨stream, hstream, hlog, -⟩ := hclaim daemonSocket s ⟨slowDisconnect, run⟩ 1 call _ hcall
    (Phase.eq_of_succeeded hsucceeded) rfl
  have hnot := List.all_eq_true.mp hlogs stream hstream
  exact of_decide_eq_true hnot hlog

end VpnHub.Ipc
