import VpnHub.Model.StoreRuns

/-! # The requests for the daemon

Every call of the user that has an effect sends one request. A connection that waits for a one-time
password sends it late. -/

namespace VpnHub.App.View

variable {rt : TotpRuntime}

/-- The request that the call has yet to send. -/
def pending : ViewCall → Option DaemonCall
  | .signing params => some (.connect params)
  | _ => none

def waiting (v : View) : List DaemonCall := v.calls.filterMap pending

def asksConnect (rt : TotpRuntime) (v : View) (now : ℤ)
    (targetProfileId overridePassword : Option Text) : List DaemonCall :=
  ((v.store.connect rt now targetProfileId overridePassword).2.map fun out =>
    .connect out.1).toList

def asksDisconnect (v : View) : List DaemonCall := (v.store.disconnect.2.map .disconnect).toList

/-- What the user asks for with an action, told from the store alone. -/
def asks (rt : TotpRuntime) (v : View) : ViewAction → List DaemonCall
  | .connect now targetProfileId overridePassword =>
    v.asksConnect rt now targetProfileId overridePassword
  | .disconnect => v.asksDisconnect
  | .trayToggle now =>
    if v.trayDisconnects then v.asksDisconnect
    else v.asksConnect rt now (some v.store.activeProfileId) none
  | _ => []

/-- What the user asks for along a run. -/
abbrev asked (rt : TotpRuntime) : View → List ViewAction → List DaemonCall :=
  Transition.observed (View.step rt) (asks rt)

/-! ## One action -/

/-- At most one request, which goes out or waits. -/
inductive Issues (v w : View) : List DaemonCall → Prop where
  | nothing (calls : w.waiting = v.waiting) (sent : w.sent = v.sent) : Issues v w []
  | sends (request : DaemonCall) (calls : w.waiting = v.waiting)
      (sent : w.sent = v.sent ++ [request]) : Issues v w [request]
  | waits (request : DaemonCall) (calls : w.waiting = v.waiting ++ [request])
      (sent : w.sent = v.sent) : Issues v w [request]

theorem waiting_push (v : View) (store : LiveStore) (call : ViewCall) (requests : List DaemonCall) :
    (v.push store call requests).waiting = v.waiting ++ (pending call).toList := by
  simp only [waiting, push, List.filterMap_append]
  cases h : pending call <;> simp [h]

theorem issues_push {v : View} {store : LiveStore} {call : ViewCall} (h : pending call = none) :
    Issues v (v.push store call []) [] :=
  .nothing (by rw [waiting_push, h]; exact List.append_nil _) (List.append_nil _)

theorem issues_connect (v : View) (now : ℤ) (targetProfileId overridePassword : Option Text) :
    Issues v (v.connect rt now targetProfileId overridePassword)
      (v.asksConnect rt now targetProfileId overridePassword) := by
  unfold connect asksConnect
  obtain ⟨store, _ | ⟨params, _ | _⟩⟩ := v.store.connect rt now targetProfileId overridePassword
  · exact .nothing rfl rfl
  · exact .sends _ ((waiting_push ..).trans (List.append_nil _)) rfl
  · exact .waits _ (waiting_push ..) (List.append_nil _)

theorem issues_disconnect (v : View) : Issues v v.disconnect v.asksDisconnect := by
  unfold disconnect asksDisconnect
  obtain ⟨store, _ | force⟩ := v.store.disconnect
  · exact .nothing rfl rfl
  · exact .sends _ ((waiting_push ..).trans (List.append_nil _)) rfl

theorem issues_daemonStatus (v : View) (status : Text) (moduleFirst : Bool) :
    Issues v (v.daemonStatus status moduleFirst) [] := by
  simp only [daemonStatus]
  split
  · exact issues_push rfl
  · exact .nothing rfl rfl

/-- An answer sends the request that its call has held back. -/
theorem sends_answer {v w : View} {i : ℕ} {a : Answer} (h : v.answer i a = some w) :
    ∃ before, ∃ request : Option DaemonCall, ∃ after,
      v.waiting = before ++ (request.toList ++ after) ∧ w.waiting = before ++ after ∧
      w.sent = v.sent ++ request.toList := by
  obtain ⟨call, hcall, hresume⟩ := Option.bind_eq_some_iff.mp h
  obtain ⟨⟨store, next, requests⟩, hout, rfl⟩ := Option.map_eq_some_iff.mp hresume
  obtain ⟨hi, hget⟩ := List.getElem?_eq_some_iff.mp hcall
  have hcalls : v.calls = v.calls.take i ++ call :: v.calls.drop (i + 1) := by
    rw [← hget, List.getElem_cons_drop, List.take_append_drop]
  have hnext : pending next = none ∧ requests = (pending call).toList := by
    cases call <;> cases a <;> cases hout <;> exact ⟨rfl, rfl⟩
  refine ⟨(v.calls.take i).filterMap pending, pending call,
    (v.calls.drop (i + 1)).filterMap pending, (congrArg (List.filterMap pending) hcalls).trans ?_,
    ?_, congrArg (v.sent ++ ·) hnext.2⟩
  · rw [List.filterMap_append]
    cases hpending : pending call <;> simp [hpending]
  · simp only [waiting]
    rw [List.set_eq_take_append_cons_drop, if_pos hi, List.filterMap_append,
      List.filterMap_cons_none hnext.1]

/-- An answer, or at most one request more. -/
theorem step_issues {v w : View} {a : ViewAction} (h : v.step rt a = some w) :
    Issues v w (v.asks rt a) ∨ ∃ i answer, a = .answer i answer ∧ v.answer i answer = some w := by
  cases a with
  | connect now targetProfileId overridePassword =>
      obtain rfl := Option.some.inj h
      exact .inl (v.issues_connect now targetProfileId overridePassword)
  | disconnect =>
      obtain rfl := Option.some.inj h
      exact .inl v.issues_disconnect
  | trayToggle now =>
      obtain rfl := Option.some.inj h
      refine .inl ?_
      unfold trayToggle asks
      split
      · exact v.issues_disconnect
      · exact v.issues_connect now _ _
  | answer i answer => exact .inr ⟨i, answer, rfl, h⟩
  | retryDaemonIpc =>
      obtain rfl := Option.some.inj h
      exact .inl (issues_push rfl)
  | daemonStatus status moduleFirst =>
      obtain rfl := Option.some.inj h
      exact .inl (v.issues_daemonStatus status moduleFirst)
  | daemonPinged | vpnStatus | metrics | tick | edit =>
      obtain rfl := Option.some.inj h
      exact .inl (.nothing rfl rfl)

/-! ## Runs -/

/-- What has been sent and what waits, together. -/
theorem step_perm {v w : View} {a : ViewAction} (h : v.step rt a = some w) :
    (w.sent ++ w.waiting).Perm (v.sent ++ v.waiting ++ v.asks rt a) := by
  obtain hissues | ⟨i, answer, rfl, hanswer⟩ := step_issues h
  · generalize v.asks rt a = requests at hissues
    cases hissues with
    | nothing hcalls hsent => rw [hcalls, hsent, List.append_nil]
    | sends request hcalls hsent =>
        rw [hcalls, hsent, List.append_assoc, List.append_assoc]
        exact List.perm_append_comm.append_left _
    | waits request hcalls hsent => rw [hcalls, hsent, List.append_assoc]
  · obtain ⟨before, request, after, hold, hwaiting, hsent⟩ := sends_answer hanswer
    have hasks : v.asks rt (.answer i answer) = [] := rfl
    rw [hasks, List.append_nil, hwaiting, hsent, hold, List.append_assoc]
    exact (List.perm_append_comm_assoc _ _ _).append_left _

/-- Along every run each request of the user goes out once, or still waits. -/
theorem sent_of_run {v w : View} {as : List ViewAction} (run : ViewRun rt v as w) :
    (w.sent ++ w.waiting).Perm (v.sent ++ v.waiting ++ asked rt v as) := by
  refine run.keeps_observed (R := fun requests w =>
    (w.sent ++ w.waiting).Perm (v.sent ++ v.waiting ++ requests)) (l := [])
    (fun u a w requests _ hstep h => ?_) (List.append_nil _ ▸ .refl _)
  rw [← List.append_assoc]
  exact (step_perm hstep).trans (h.append_right _)

/-- An abort goes before the connection that it aborts. -/
theorem sent_of_run_sample : ∃ w : View, w.shown = "disconnected".toList ∧
    (w.sent ++ w.waiting).Perm (asked Sample.runtime Sample.totpView
      [.connect 0 none none, .disconnect, .answer 0 .signed]) := by
  obtain ⟨w, run, hw⟩ := Transition.exists_run_of_any (p := fun w : View =>
    decide (w.shown = "disconnected".toList))
    (show (Transition.runList (View.step Sample.runtime) (fun _ _ => True) Sample.totpView
      [.connect 0 none none, .disconnect, .answer 0 .signed]).any _ = true by decide +kernel)
  exact ⟨w, of_decide_eq_true hw, sent_of_run run⟩

/-- The user asks for nothing while a connection waits for its one-time password. -/
def Patient (rt : TotpRuntime) (v : View) (a : ViewAction) : Prop :=
  v.asks rt a ≠ [] → v.waiting = []

instance (v : View) (a : ViewAction) : Decidable (Patient rt v a) :=
  inferInstanceAs (Decidable (_ → _))

theorem step_in_order {v w : View} {a : ViewAction} (h : v.step rt a = some w)
    (hpatient : Patient rt v a) (hv : v.waiting.length ≤ 1) : w.waiting.length ≤ 1 ∧
      w.sent ++ w.waiting = v.sent ++ v.waiting ++ v.asks rt a := by
  obtain hissues | ⟨i, answer, rfl, hanswer⟩ := step_issues h
  · unfold Patient at hpatient
    generalize v.asks rt a = requests at hissues hpatient
    cases hissues with
    | nothing hcalls hsent => exact ⟨hcalls ▸ hv, by rw [hcalls, hsent, List.append_nil]⟩
    | sends request hcalls hsent =>
        have hnone := hpatient (List.cons_ne_nil _ _)
        refine ⟨hcalls ▸ hv, ?_⟩
        rw [hcalls, hsent, hnone, List.append_nil, List.append_nil]
    | waits request hcalls hsent =>
        have hnone := hpatient (List.cons_ne_nil _ _)
        refine ⟨?_, by rw [hcalls, hsent, List.append_assoc]⟩
        rw [hcalls, hnone]
        exact Nat.le_refl 1
  · obtain ⟨before, request, after, hold, hwaiting, hsent⟩ := sends_answer hanswer
    have hasks : v.asks rt (.answer i answer) = [] := rfl
    rw [hasks, List.append_nil, hwaiting, hsent, hold, List.append_assoc]
    rw [hold, List.length_append, List.length_append] at hv
    cases request with
    | none => exact ⟨by rw [List.length_append]; omega, rfl⟩
    | some request =>
        rw [Option.toList_some, List.length_singleton] at hv
        obtain rfl := List.eq_nil_of_length_eq_zero (show before.length = 0 by omega)
        obtain rfl := List.eq_nil_of_length_eq_zero (show after.length = 0 by omega)
        exact ⟨Nat.zero_le 1, rfl⟩

/-- Then the requests go out in the order in which the user asks for them. -/
theorem sent_in_order {v w : View} {as : List ViewAction}
    (run : Transition.Run (View.step rt) (Patient rt) v as w) (hv : v.waiting.length ≤ 1) :
    w.sent ++ w.waiting = v.sent ++ v.waiting ++ asked rt v as := by
  refine (run.keeps_observed (R := fun requests w => w.waiting.length ≤ 1 ∧
    w.sent ++ w.waiting = v.sent ++ v.waiting ++ requests) (l := [])
    (fun u a w requests hpatient hstep ⟨hu, h⟩ => ?_) ⟨hv, (List.append_nil _).symm⟩).2
  obtain ⟨hw, horder⟩ := step_in_order hstep hpatient hu
  exact ⟨hw, by rw [horder, h, List.append_assoc]⟩

theorem sent_in_order_sample : ∃ w : View, w.shown = "disconnected".toList ∧
    w.sent ++ w.waiting = asked Sample.runtime Sample.totpView
      [.connect 0 none none, .answer 0 .signed, .disconnect] := by
  obtain ⟨w, run, hw⟩ := Transition.exists_run_of_any (p := fun w : View =>
    decide (w.shown = "disconnected".toList))
    (show (Transition.runList (View.step Sample.runtime) (Patient Sample.runtime) Sample.totpView
      [.connect 0 none none, .answer 0 .signed, .disconnect]).any _ = true by decide +kernel)
  exact ⟨w, of_decide_eq_true hw, sent_in_order run (Nat.zero_le 1)⟩

/-- The user aborts a connection that waits for its one-time password: nothing is shown any more,
and the daemon is asked to connect after it has been asked to disconnect. -/
theorem overtaken_of_abort {v : View} {i : ℕ} {params : VpnConnectParams}
    (hcall : v.calls[i]? = some (.signing params)) (hshown : v.shown = "connecting".toList) :
    ∃ w, ViewRun rt v [.disconnect, .answer i .signed] w ∧ w.shown = "disconnected".toList ∧
      w.sent = v.sent ++ [.disconnect true, .connect params] := by
  let aborted : LiveStore := { v.store with
    connectionState := "disconnected".toList
    connectedAt := none
    uptimeSeconds := 0 }
  have hdisconnect : v.disconnect =
      v.push aborted (.disconnecting true) [.disconnect true] := by
    have hstate : v.store.connectionState = "connecting".toList := hshown
    simp [disconnect, LiveStore.disconnect, hstate, aborted]
  obtain ⟨hi, -⟩ := List.getElem?_eq_some_iff.mp hcall
  have hanswer : (v.push aborted (.disconnecting true) [.disconnect true]).answer i .signed =
      some ⟨aborted, (v.calls ++ [ViewCall.disconnecting true]).set i .connecting,
        v.sent ++ [.disconnect true] ++ [.connect params]⟩ := by
    simp [answer, push, List.getElem?_append_left hi, hcall, resume]
  exact ⟨_, .cons trivial (congrArg some hdisconnect) (.cons trivial hanswer (.nil _)), rfl,
    List.append_assoc ..⟩

theorem overtaken_of_abort_sample : ∃ params w,
    ViewRun Sample.runtime Sample.signingView [.disconnect, .answer 0 .signed] w ∧
      w.shown = "disconnected".toList ∧ w.sent = [.disconnect true, .connect params] := by
  obtain ⟨params, hparams⟩ : ∃ params,
      Sample.signingView.calls[0]? = some (.signing params) := ⟨_, rfl⟩
  obtain ⟨w, run, hshown, hsent⟩ := overtaken_of_abort hparams rfl
  exact ⟨params, w, run, hshown, hsent⟩

end VpnHub.App.View
