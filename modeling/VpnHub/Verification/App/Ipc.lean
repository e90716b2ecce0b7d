import VpnHub.Model.Ipc

/-! # The client's lock and its streams

The call that uses the stream holds the lock, so the stream has one request at a time that is
waited for. This is the invariant of every run of the application and the daemon. -/

namespace VpnHub.Ipc

/-! ## Calls -/

/-- The call holds the lock of the stream. -/
def Phase.Holds : Phase → Prop
  | .connecting | .sending | .awaiting _ => True
  | _ => False

/-- The call may have written its request. -/
def Phase.Past : Phase → Prop
  | .awaiting _ | .returned _ => True
  | _ => False

/-- The call waits for a response. -/
def Phase.Awaits : Phase → Prop
  | .awaiting _ => True
  | _ => False

theorem Phase.Awaits.holds {phase : Phase} (h : phase.Awaits) : phase.Holds := by
  cases phase <;> trivial

namespace System

variable {s s' : System} {c : CallId}

theorem phase_eq_some {phase : Phase} :
    s.phase c = some phase ↔ ∃ call, s.calls[c]? = some call ∧ call.phase = phase :=
  Option.map_eq_some_iff

theorem phase_goto_self {old new : Phase} (h : s.phase c = some old) :
    (s.goto c new).phase c = some new := by
  obtain ⟨call, hcall, -⟩ := phase_eq_some.mp h
  simp [phase, goto, hcall]

theorem phase_goto_ne {c' : CallId} (new : Phase) (h : c' ≠ c) :
    (s.goto c new).phase c' = s.phase c' := by
  have hne : c ≠ c' := Ne.symm h
  cases hcall : s.calls[c']? <;> simp [phase, goto, hne, hcall]

/-- Calls go on: they keep their requests, and what they may have written. -/
def Evolves (calls calls' : List Call) : Prop :=
  ∀ (c : CallId) (call : Call), calls[c]? = some call → ∃ call', calls'[c]? = some call' ∧
    call'.request = call.request ∧ (call.phase.Past → call'.phase.Past)

theorem Evolves.refl (calls : List Call) : Evolves calls calls :=
  fun _ call h => ⟨call, h, rfl, id⟩

theorem evolves_begin (s : System) (request : DaemonRequest) :
    Evolves s.calls (s.begin request).calls := by
  intro c call hcall
  obtain ⟨hlt, -⟩ := List.getElem?_eq_some_iff.mp hcall
  exact ⟨call, (List.getElem?_append_left hlt).trans hcall, rfl, id⟩

theorem evolves_goto {old new : Phase} (h : s.phase c = some old) (hpast : old.Past → new.Past) :
    Evolves s.calls (s.goto c new).calls := by
  intro c' call hcall
  by_cases hc : c' = c
  · subst hc
    obtain ⟨call', hcall', rfl⟩ := phase_eq_some.mp h
    obtain rfl := Option.some.inj (hcall'.symm.trans hcall)
    exact ⟨{ call' with phase := new }, by simp [goto, hcall], rfl, hpast⟩
  · have hne : c ≠ c' := Ne.symm hc
    exact ⟨call, by simp [goto, hne, hcall], rfl, id⟩

/-! ## Streams -/

/-- A stream answers in order what calls have written, each call once. -/
structure Sound (calls : List Call) (x : Stream) : Prop where
  order : x.InOrder
  once : x.sent.Nodup
  carries : x.Carries fun c r => ∃ call, calls[c]? = some call ∧ call.request = r
  past : ∀ c ∈ x.sent, ∃ call, calls[c]? = some call ∧ call.phase.Past

variable {calls calls' : List Call} {x x' : Stream}

theorem Sound.new (calls : List Call) : Sound calls {} where
  order := .new
  once := List.nodup_nil
  carries := .new
  past _ h := by cases h

theorem Sound.evolve (h : Sound calls x) (hcalls : Evolves calls calls') : Sound calls' x where
  order := h.order
  once := h.once
  carries := h.carries.mono fun c _ ⟨call, hcall, hr⟩ =>
    let ⟨call', hcall', hrequest, _⟩ := hcalls c call hcall
    ⟨call', hcall', hrequest.trans hr⟩
  past c hc := by
    obtain ⟨call, hcall, hpast⟩ := h.past c hc
    obtain ⟨call', hcall', -, hmono⟩ := hcalls c call hcall
    exact ⟨call', hcall', hmono hpast⟩

/-- A move of the daemon's end: the client has read nothing new. -/
structure Served (x x' : Stream) : Prop where
  waiting : x'.waiting = x.waiting
  log : x'.log = x.log
  produced : x.produced ⊆ x'.produced
  order : x.InOrder → x'.InOrder
  carries : ∀ P, x.Carries P → x'.Carries P

theorem Sound.served (h : Sound calls x) (hserved : Served x x') : Sound calls x' := by
  have hsent : x'.sent = x.sent := by
    rw [Exchange.sent, Exchange.sent, hserved.log, hserved.waiting]
  exact ⟨hserved.order h.order, hsent ▸ h.once, hserved.carries _ h.carries, hsent ▸ h.past⟩

theorem served_take (h : x.take = some x') : Served x x' := by
  refine ⟨?_, ?_, ?_, fun ho => ho.take h, fun _ hc => hc.take h⟩
  all_goals
    unfold Exchange.take at h
    split at h
    · obtain rfl := Option.some.inj h
      simp
    · cases h

theorem served_respond {answer : DaemonRequest → DaemonResponse} (h : x.respond answer = some x') :
    Served x x' := by
  refine ⟨?_, ?_, ?_, fun ho => ho.respond h, fun _ hc => hc.respond h⟩
  all_goals
    unfold Exchange.respond at h
    obtain ⟨⟨i, r⟩, -, rfl⟩ := Option.map_eq_some_iff.mp h
    simp

theorem served_hangUp (x : Stream) : Served x x.hangUp where
  waiting := rfl
  log := rfl
  produced := List.Subset.refl _
  order := Exchange.InOrder.hangUp
  carries _ := Exchange.Carries.hangUp

/-- A call that has not written before writes its request. -/
theorem Sound.write (h : Sound calls x) (hidle : x.waiting = none) (hnew : c ∉ x.sent) {call : Call}
    (hcall : calls[c]? = some call) (hcalls : Evolves calls calls')
    (hpast : ∃ call, calls'[c]? = some call ∧ call.phase.Past) :
    Sound calls' (x.write c call.request) := by
  have hsent : (x.write c call.request).sent = x.sent ++ [c] := by
    simp [Exchange.sent, Exchange.write, hidle]
  have h' := h.evolve hcalls
  refine ⟨h.order.write hidle _ _, ?_, ?_, ?_⟩
  · rw [hsent]
    exact List.nodup_append_comm.mp (List.nodup_cons.mpr ⟨hnew, h.once⟩)
  · obtain ⟨call', hcall', hrequest, -⟩ := hcalls c call hcall
    exact h'.carries.write ⟨call', hcall', hrequest⟩
  · intro c' hc'
    rw [hsent] at hc'
    rcases List.mem_append.mp hc' with hc' | hc'
    · exact h'.past c' hc'
    · obtain rfl := List.mem_singleton.mp hc'
      exact hpast

theorem Sound.of_sent (h : Sound calls x) (hsent : x'.sent = x.sent) (horder : x'.InOrder)
    (hcarries : ∀ P, x.Carries P → x'.Carries P) : Sound calls x' :=
  ⟨horder, hsent ▸ h.once, hcarries _ h.carries, hsent ▸ h.past⟩

theorem Sound.read (h : Sound calls x) (hwaiting : x.waiting = some c) {response : DaemonResponse}
    (hread : x.read = some (response, x')) : Sound calls x' := by
  refine h.of_sent ?_ (h.order.read hwaiting hread) fun _ hc => hc.read hread
  obtain ⟨i, r, hlog, -⟩ := Exchange.read_log h.carries hwaiting hread
  have hnone : x'.waiting = none := by
    unfold Exchange.read at hread
    split at hread
    · cases hread
    · obtain ⟨-, rfl⟩ : _ ∧ _ = x' := by simpa using hread
      rfl
  simp [Exchange.sent, hlog, hnone, hwaiting]

theorem Sound.giveUp (h : Sound calls x) : Sound calls x.giveUp := by
  refine h.of_sent ?_ h.order.giveUp fun _ => Exchange.Carries.giveUp
  cases hwaiting : x.waiting <;> simp [Exchange.sent, Exchange.giveUp, hwaiting]

/-! ## The invariant -/

/-- The response of a call is on record: the call was given the one that was produced for some
request. -/
def Recorded (streams : List Stream) (c : CallId) (result : RequestResult) : Prop :=
  ∃ x ∈ streams, ∃ i r response, (c, some i) ∈ x.log ∧ (i, r, response) ∈ x.produced ∧
    result = reply response

/-- The lock is held by the call that uses the stream, and the stream waits for its response
and for no other. -/
structure Consistent (s : System) : Prop where
  lock : ∀ c phase, s.phase c = some phase → phase.Holds → s.holder = some c
  known : ∀ k, s.client.stream = some k → k < s.streams.length
  waiting : ∀ x, s.current = some x → ∀ c, x.waiting = some c ↔
    ∃ phase, s.phase c = some phase ∧ phase.Awaits
  sound : ∀ x ∈ s.streams, Sound s.calls x
  recorded : ∀ c result, s.phase c = some (.returned result) → isReply result = true →
    Recorded s.streams c result

/-- What is on record stays. -/
def Grows (streams streams' : List Stream) : Prop :=
  ∀ x ∈ streams, ∃ x' ∈ streams', x.log ⊆ x'.log ∧ x.produced ⊆ x'.produced

theorem Grows.refl (streams : List Stream) : Grows streams streams :=
  fun x hx => ⟨x, hx, List.Subset.refl _, List.Subset.refl _⟩

theorem grows_append (streams new : List Stream) : Grows streams (streams ++ new) :=
  fun x hx => ⟨x, List.mem_append_left _ hx, List.Subset.refl _, List.Subset.refl _⟩

theorem grows_set {streams : List Stream} {k : StreamId} (h : streams[k]? = some x)
    (hlog : x.log ⊆ x'.log) (hproduced : x.produced ⊆ x'.produced) :
    Grows streams (streams.set k x') := by
  intro y hy
  obtain ⟨j, hj⟩ := List.mem_iff_getElem?.mp hy
  obtain ⟨hlt, -⟩ := List.getElem?_eq_some_iff.mp h
  by_cases hjk : j = k
  · subst hjk
    obtain rfl := Option.some.inj (h.symm.trans hj)
    exact ⟨x', List.mem_set hlt x', hlog, hproduced⟩
  · have hset : (streams.set k x')[j]? = some y := by
      rw [List.getElem?_set_ne (Ne.symm hjk), hj]
    exact ⟨y, List.mem_of_getElem? hset, List.Subset.refl _, List.Subset.refl _⟩

theorem Recorded.grow {streams streams' : List Stream} {result : RequestResult}
    (h : Recorded streams c result) (hgrows : Grows streams streams') :
    Recorded streams' c result := by
  obtain ⟨x, hx, i, r, response, hlog, hproduced, hresult⟩ := h
  obtain ⟨x', hx', hl, hp⟩ := hgrows x hx
  exact ⟨x', hx', i, r, response, hl hlog, hp hproduced, hresult⟩

/-- A stream on which no call waits for a response is idle. -/
theorem Consistent.idle (h : Consistent s) (hx : s.current = some x)
    (hfree : s.holder = none ∨ s.holder = some c)
    (hnot : ∀ phase, s.phase c = some phase → ¬ phase.Awaits) : x.waiting = none := by
  cases hwaiting : x.waiting with
  | none => rfl
  | some c' =>
      obtain ⟨phase, hphase, hawaits⟩ := (h.waiting x hx c').mp hwaiting
      have hholder := h.lock c' phase hphase hawaits.holds
      rcases hfree with hnone | hself
      · rw [hnone] at hholder
        cases hholder
      · obtain rfl : c = c' := Option.some.inj (hself.symm.trans hholder)
        exact absurd hawaits (hnot phase hphase)

/-- A step of a call, which holds the lock or takes it. -/
theorem Consistent.advance (h : Consistent s) {old new : Phase} (hold : s.phase c = some old)
    (hcalls : s'.calls = (s.goto c new).calls)
    (hfree : s.holder = none ∨ s.holder = some c)
    (hlock : new.Holds → s'.holder = some c)
    (hpast : old.Past → new.Past)
    (hknown : ∀ k, s'.client.stream = some k → k < s'.streams.length)
    (hwaiting : ∀ x, s'.current = some x →
      (new.Awaits → x.waiting = some c) ∧ (¬ new.Awaits → x.waiting = none))
    (hsound : ∀ x ∈ s'.streams, x ∈ s.streams ∨ Sound s'.calls x)
    (hgrows : Grows s.streams s'.streams)
    (hreply : ∀ result, new = .returned result → isReply result = true →
      Recorded s'.streams c result) : Consistent s' := by
  have hself : s'.phase c = some new := by
    rw [phase, hcalls]
    exact phase_goto_self hold
  have hother (c' : CallId) (hc : c' ≠ c) : s'.phase c' = s.phase c' := by
    rw [phase, hcalls]
    exact phase_goto_ne new hc
  -- nobody else holds the lock
  have hnone (c' : CallId) (hc : c' ≠ c) (phase : Phase) (hphase : s.phase c' = some phase) :
      ¬ phase.Holds := by
    intro hholds
    have hholder := h.lock c' phase hphase hholds
    rcases hfree with hfree | hfree
    · rw [hfree] at hholder
      cases hholder
    · exact hc (Option.some.inj (hholder.symm.trans hfree))
  have hevolves : Evolves s.calls s'.calls := by
    rw [hcalls]
    exact evolves_goto hold hpast
  refine ⟨?_, hknown, ?_, ?_, ?_⟩
  · intro c' phase hphase hholds
    by_cases hc : c' = c
    · subst hc
      obtain rfl := Option.some.inj (hself.symm.trans hphase)
      exact hlock hholds
    · rw [hother c' hc] at hphase
      exact absurd hholds (hnone c' hc phase hphase)
  · intro x hx c'
    obtain ⟨hsome, hidle⟩ := hwaiting x hx
    constructor
    · intro hc'
      by_cases hawaits : new.Awaits
      · obtain rfl : c = c' := Option.some.inj ((hsome hawaits).symm.trans hc')
        exact ⟨new, hself, hawaits⟩
      · rw [hidle hawaits] at hc'
        cases hc'
    · rintro ⟨phase, hphase, hawaits⟩
      by_cases hc : c' = c
      · subst hc
        obtain rfl := Option.some.inj (hself.symm.trans hphase)
        exact hsome hawaits
      · rw [hother c' hc] at hphase
        exact absurd hawaits.holds (hnone c' hc phase hphase)
  · intro x hx
    rcases hsound x hx with hx | hx
    · exact (h.sound x hx).evolve hevolves
    · exact hx
  · intro c' result hphase hreplied
    by_cases hc : c' = c
    · subst hc
      exact hreply result (Option.some.inj (hself.symm.trans hphase)) hreplied
    · rw [hother c' hc] at hphase
      exact (h.recorded c' result hphase hreplied).grow hgrows

/-! ## Steps of the daemon and the worker -/

theorem onStream_eq_some {k : StreamId} {f : Stream → Option Stream} :
    s.onStream k f = some s' ↔ ∃ x x', s.streams[k]? = some x ∧ f x = some x' ∧
      { s with streams := s.streams.set k x' } = s' := by
  simp [onStream, Option.bind_eq_some_iff]

theorem current_eq_some : s.current = some x ↔
    ∃ k, s.client.stream = some k ∧ s.streams[k]? = some x :=
  Option.bind_eq_some_iff

theorem current_set {k : StreamId} {y : Stream} (h : s.streams[k]? = some x)
    (hy : { s with streams := s.streams.set k x' }.current = some y) :
    s.current = some y ∨ s.current = some x ∧ x' = y := by
  obtain ⟨j, hj, hset⟩ := current_eq_some.mp hy
  obtain ⟨hlt, -⟩ := List.getElem?_eq_some_iff.mp h
  by_cases hjk : j = k
  · subst hjk
    rw [List.getElem?_set_self hlt] at hset
    exact .inr ⟨current_eq_some.mpr ⟨j, hj, h⟩, Option.some.inj hset⟩
  · rw [List.getElem?_set_ne (Ne.symm hjk)] at hset
    exact .inl (current_eq_some.mpr ⟨j, hj, hset⟩)

theorem Consistent.served (h : Consistent s) {k : StreamId} {f : Stream → Option Stream}
    (hf : ∀ x x', f x = some x' → Served x x') (hstep : s.onStream k f = some s') :
    Consistent s' := by
  obtain ⟨x, x', hx, hx', rfl⟩ := onStream_eq_some.mp hstep
  have hserved := hf x x' hx'
  refine ⟨h.lock, ?_, ?_, ?_, ?_⟩
  · intro j hj
    simpa using h.known j hj
  · intro y hy c
    rcases current_set hx hy with hy | ⟨hx, rfl⟩
    · exact h.waiting y hy c
    · rw [hserved.waiting]
      exact h.waiting x hx c
  · intro y hy
    rcases List.mem_or_eq_of_mem_set hy with hy | rfl
    · exact h.sound y hy
    · exact (h.sound x (List.mem_of_getElem? hx)).served hserved
  · intro c result hphase hreply
    have hlog : x.log ⊆ x'.log := by
      rw [hserved.log]
      exact List.Subset.refl _
    exact (h.recorded c result hphase hreply).grow (grows_set hx hlog hserved.produced)

theorem phase_begin {request : DaemonRequest} {phase : Phase}
    (h : (s.begin request).phase c = some phase) : s.phase c = some phase ∨ phase = .ensuring := by
  obtain ⟨call, hcall, rfl⟩ := phase_eq_some.mp h
  rcases Nat.lt_or_ge c s.calls.length with hlt | hge
  · rw [begin, List.getElem?_append_left hlt] at hcall
    exact .inl (phase_eq_some.mpr ⟨call, hcall, rfl⟩)
  · rw [begin, List.getElem?_append_right hge] at hcall
    have hmem := List.mem_of_getElem? hcall
    obtain rfl := List.mem_singleton.mp hmem
    exact .inr rfl

theorem phase_begin_of_some {phase : Phase} (request : DaemonRequest)
    (h : s.phase c = some phase) : (s.begin request).phase c = some phase := by
  obtain ⟨call, hcall, hphase⟩ := phase_eq_some.mp h
  obtain ⟨hlt, -⟩ := List.getElem?_eq_some_iff.mp hcall
  exact phase_eq_some.mpr ⟨call, (List.getElem?_append_left hlt).trans hcall, hphase⟩

theorem Consistent.begin (h : Consistent s) (request : DaemonRequest) :
    Consistent (s.begin request) := by
  refine ⟨?_, h.known, ?_, ?_, ?_⟩
  · intro c phase hphase hholds
    rcases phase_begin hphase with hphase | rfl
    · exact h.lock c phase hphase hholds
    · cases hholds
  · intro x hx c
    rw [h.waiting x hx c]
    constructor
    · rintro ⟨phase, hphase, hawaits⟩
      exact ⟨phase, phase_begin_of_some request hphase, hawaits⟩
    · rintro ⟨phase, hphase, hawaits⟩
      rcases phase_begin hphase with hphase | rfl
      · exact ⟨phase, hphase, hawaits⟩
      · cases hawaits
  · exact fun x hx => (h.sound x hx).evolve (evolves_begin s request)
  · intro c result hphase hreply
    rcases phase_begin hphase with hphase | hphase
    · exact h.recorded c result hphase hreply
    · cases hphase

theorem Consistent.runWorker (h : Consistent s) (hstep : s.runWorker = some s') :
    Consistent s' := by
  have hshown {s : System} (h : Consistent s) (shown : Worker × List Emission) (pc : WorkerPc) :
      Consistent (s.present shown pc) :=
    ⟨h.lock, h.known, h.waiting, h.sound, h.recorded⟩
  unfold System.runWorker at hstep
  split at hstep
  · obtain rfl := Option.some.inj hstep
    have hb := h.begin .ping
    exact ⟨hb.lock, hb.known, hb.waiting, hb.sound, hb.recorded⟩
  · obtain ⟨result, -, rfl⟩ := Option.map_eq_some_iff.mp hstep
    split
    · exact hshown (h.begin _) _ _
    · exact hshown h _ _
  · obtain ⟨result, -, rfl⟩ := Option.map_eq_some_iff.mp hstep
    exact hshown (h.begin _) _ _
  · obtain ⟨result, -, rfl⟩ := Option.map_eq_some_iff.mp hstep
    exact hshown h _ _

/-! ## Steps of a call -/

theorem Consistent.free (h : Consistent s) {phase : Phase} (hphase : s.phase c = some phase)
    (hholds : phase.Holds) : s.holder = none ∨ s.holder = some c :=
  .inr (h.lock c phase hphase hholds)

theorem Consistent.idle_of_phase (h : Consistent s) {phase : Phase}
    (hphase : s.phase c = some phase) (hfree : s.holder = none ∨ s.holder = some c)
    (hnot : ¬ phase.Awaits) (hx : s.current = some x) : x.waiting = none :=
  h.idle hx hfree fun phase' hphase' => by
    obtain rfl := Option.some.inj (hphase.symm.trans hphase')
    exact hnot

/-- A step towards writing the request, on the streams as they are. -/
theorem Consistent.approach (h : Consistent s) {old new : Phase} (hold : s.phase c = some old)
    (hcalls : s'.calls = (s.goto c new).calls) (hfree : s.holder = none ∨ s.holder = some c)
    (hearly : ¬ old.Past) (hnew : ¬ new.Past) (hlock : new.Holds → s'.holder = some c)
    (hclient : s'.client = s.client) (hstreams : s'.streams = s.streams) : Consistent s' := by
  have hidle (phase : Phase) (hp : ¬ phase.Past) : ¬ phase.Awaits := by
    cases phase <;> simp_all [Phase.Past, Phase.Awaits]
  refine h.advance hold hcalls hfree hlock (absurd · hearly) ?_ ?_ ?_ ?_ ?_
  · rw [hclient, hstreams]
    exact h.known
  · intro x hx
    rw [current, hclient, hstreams] at hx
    exact ⟨(absurd · (hidle new hnew)), fun _ => h.idle_of_phase hold hfree (hidle old hearly) hx⟩
  · rw [hstreams]
    exact fun x hx => .inl hx
  · rw [hstreams]
    exact Grows.refl _
  · rintro result rfl
    exact absurd trivial hnew

/-- A call that fails and leaves the client without a stream. -/
theorem Consistent.fail (h : Consistent s) {old : Phase} (hold : s.phase c = some old)
    {result : RequestResult} (hcalls : s'.calls = (s.goto c (.returned result)).calls)
    (hfree : s.holder = none ∨ s.holder = some c) (hresult : isReply result = false)
    (hstream : s'.client.stream = none)
    (hsound : ∀ x ∈ s'.streams, x ∈ s.streams ∨ Sound s'.calls x)
    (hgrows : Grows s.streams s'.streams) : Consistent s' := by
  refine h.advance hold hcalls hfree False.elim (fun _ => trivial) ?_ ?_ hsound hgrows ?_
  · intro k hk
    rw [hstream] at hk
    cases hk
  · intro x hx
    rw [current, hstream] at hx
    cases hx
  · intro result' hr hreply
    cases hr
    exact absurd (hresult.symm.trans hreply) (by decide)

theorem Consistent.ensure (h : Consistent s) (hstep : s.ensure c = some s') : Consistent s' := by
  unfold System.ensure at hstep
  split at hstep
  · rename_i hphase hholder
    split at hstep
    · obtain rfl := Option.some.inj hstep
      exact h.approach hphase rfl (.inl hholder) id id False.elim rfl rfl
    · obtain rfl := Option.some.inj hstep
      exact h.approach hphase rfl (.inl hholder) id id (fun _ => rfl) rfl rfl
  · cases hstep

theorem Consistent.connected (h : Consistent s) {result : Except Text Unit}
    (hstep : s.connected c result = some s') : Consistent s' := by
  unfold System.connected at hstep
  split at hstep
  · rename_i hphase
    have hfree := h.free hphase trivial
    cases result with
    | error e =>
        obtain rfl := Option.some.inj hstep
        exact h.fail hphase rfl hfree rfl rfl (fun x hx => .inl hx) (Grows.refl _)
    | ok =>
        obtain rfl := Option.some.inj hstep
        refine h.advance hphase rfl hfree False.elim id ?_ ?_ ?_ (grows_append _ _) ?_
        · intro k hk
          obtain rfl : s.streams.length = k := Option.some.inj hk
          simp
        · intro x hx
          obtain ⟨k, hk, hx⟩ := current_eq_some.mp hx
          obtain rfl : s.streams.length = k := Option.some.inj hk
          obtain rfl : ({} : Stream) = x := by simpa using hx
          exact ⟨False.elim, fun _ => rfl⟩
        · intro x hx
          rcases List.mem_append.mp hx with hx | hx
          · exact .inl hx
          · obtain rfl := List.mem_singleton.mp hx
            exact .inr (.new _)
        · intro result hr
          cases hr
  · cases hstep

theorem Consistent.lockStream (h : Consistent s) (hstep : s.lock c = some s') : Consistent s' := by
  unfold System.lock at hstep
  split at hstep
  · rename_i hphase hholder
    split at hstep
    · obtain rfl := Option.some.inj hstep
      exact h.approach hphase rfl (.inl hholder) id id (fun _ => rfl) rfl rfl
    · rename_i hnone
      obtain rfl := Option.some.inj hstep
      exact h.fail hphase rfl (.inl hholder) rfl (Option.not_isSome_iff_eq_none.mp hnone)
        (fun x hx => .inl hx) (Grows.refl _)
  · cases hstep

theorem write_eq_some : s.write c = some s' ↔ ∃ call k x, s.calls[c]? = some call ∧
    s.client.stream = some k ∧ s.streams[k]? = some x ∧
    { s with streams := s.streams.set k (x.write c call.request) } = s' := by
  simp [System.write, onStream_eq_some, Option.bind_eq_some_iff]

/-- The stream after a call has written its request. -/
theorem Consistent.sound_write (h : Consistent s) (hphase : s.phase c = some .sending)
    {call : Call} (hcall : s.calls[c]? = some call) (hx : s.current = some x) {new : Phase}
    (hpast : new.Past) : Sound (s.goto c new).calls (x.write c call.request) := by
  have hidle := h.idle_of_phase hphase (h.free hphase trivial) id hx
  obtain ⟨k, -, hk⟩ := current_eq_some.mp hx
  have hsound := h.sound x (List.mem_of_getElem? hk)
  have hnew : c ∉ x.sent := by
    intro hsent
    obtain ⟨call', hcall', hpast'⟩ := hsound.past c hsent
    have hphase' := phase_eq_some.mpr ⟨call', hcall', rfl⟩
    rw [Option.some.inj (hphase'.symm.trans hphase)] at hpast'
    exact hpast'
  have hself : (s.goto c new).phase c = some new := phase_goto_self hphase
  obtain ⟨call', hcall', hnew'⟩ := phase_eq_some.mp hself
  exact hsound.write hidle hnew hcall (evolves_goto hphase fun _ => hpast)
    ⟨call', hcall', hnew' ▸ hpast⟩

theorem grows_write {k : StreamId} (hk : s.streams[k]? = some x) (request : DaemonRequest) :
    Grows s.streams (s.streams.set k (x.write c request)) :=
  grows_set hk (List.Subset.refl _) (List.Subset.refl _)

theorem Consistent.sent (h : Consistent s) (hstep : s.sent c = some s') : Consistent s' := by
  unfold System.sent at hstep
  split at hstep
  · rename_i hphase
    obtain ⟨s₁, hwrite, rfl⟩ := Option.map_eq_some_iff.mp hstep
    obtain ⟨call, k, x, hcall, hk, hx, rfl⟩ := write_eq_some.mp hwrite
    have hcurrent := current_eq_some.mpr ⟨k, hk, hx⟩
    have hsound : Sound (s.goto c (.awaiting (s.now + requestTimeout))).calls
        (x.write c call.request) := h.sound_write hphase hcall hcurrent trivial
    refine h.advance hphase rfl (h.free hphase trivial) (fun _ => h.lock c _ hphase trivial)
      (fun _ => trivial) ?_ ?_ ?_ (grows_write hx _) ?_
    · intro j hj
      simpa [goto] using h.known j hj
    · intro y hy
      obtain ⟨j, hj, hy⟩ := current_eq_some.mp hy
      obtain rfl : k = j := Option.some.inj (hk.symm.trans hj)
      obtain ⟨hlt, -⟩ := List.getElem?_eq_some_iff.mp hx
      obtain rfl : x.write c call.request = y :=
        Option.some.inj ((List.getElem?_set_self hlt).symm.trans hy)
      exact ⟨fun _ => rfl, (absurd trivial ·)⟩
    · intro y hy
      rcases List.mem_or_eq_of_mem_set hy with hy | rfl
      · exact .inl hy
      · exact .inr hsound
    · intro result hr
      cases hr
  · cases hstep

theorem Consistent.sendFailed (h : Consistent s) {message : Text} {arrived : Bool}
    (hstep : s.sendFailed c message arrived = some s') : Consistent s' := by
  unfold System.sendFailed at hstep
  split at hstep
  · rename_i hphase
    have hfree := h.free hphase trivial
    obtain ⟨s₁, hwrite, rfl⟩ := Option.map_eq_some_iff.mp hstep
    cases arrived with
    | false =>
        obtain rfl := Option.some.inj hwrite
        exact h.fail hphase rfl hfree rfl rfl (fun x hx => .inl hx) (Grows.refl _)
    | true =>
        obtain ⟨call, k, x, hcall, hk, hx, rfl⟩ := write_eq_some.mp hwrite
        have hcurrent := current_eq_some.mpr ⟨k, hk, hx⟩
        refine h.fail hphase rfl hfree rfl rfl (fun y hy => ?_) (grows_write hx _)
        rcases List.mem_or_eq_of_mem_set hy with hy | rfl
        · exact .inl hy
        · exact .inr (h.sound_write hphase hcall hcurrent trivial)
  · cases hstep

theorem conclude_response (client : DaemonClient) (response : DaemonResponse) :
    client.conclude (.response response) = (reply response, client) := by
  cases response <;> rfl

/-- The stream of a call that waits, and that it waits. -/
theorem Consistent.waits (h : Consistent s) {phase : Phase} (hphase : s.phase c = some phase)
    (hawaits : phase.Awaits) (hx : s.current = some x) : x.waiting = some c :=
  (h.waiting x hx c).mpr ⟨phase, hphase, hawaits⟩

/-- A call that ends its wait and leaves the stream to the next one. -/
theorem Consistent.settle (h : Consistent s) {phase : Phase} (hphase : s.phase c = some phase)
    (hawaits : phase.Awaits) {k : StreamId} (hk : s.client.stream = some k)
    (hx : s.streams[k]? = some x) {result : RequestResult}
    (hcalls : s'.calls = (s.goto c (.returned result)).calls) (hclient : s'.client = s.client)
    (hstreams : s'.streams = s.streams.set k x') (hidle : x'.waiting = none)
    (hsound : Sound s.calls x') (hlog : x.log ⊆ x'.log) (hproduced : x.produced ⊆ x'.produced)
    (hreply : isReply result = true → Recorded s'.streams c result) : Consistent s' := by
  obtain ⟨hlt, -⟩ := List.getElem?_eq_some_iff.mp hx
  have hevolves : Evolves s.calls s'.calls := by
    rw [hcalls]
    exact evolves_goto hphase fun _ => trivial
  refine h.advance hphase hcalls (h.free hphase hawaits.holds) False.elim (fun _ => trivial)
    ?_ ?_ ?_ ?_ ?_
  · rw [hclient, hstreams, List.length_set]
    exact h.known
  · intro y hy
    rw [current_eq_some, hclient, hstreams] at hy
    obtain ⟨j, hj, hy⟩ := hy
    obtain rfl : k = j := Option.some.inj (hk.symm.trans hj)
    rw [List.getElem?_set_self hlt] at hy
    obtain rfl := Option.some.inj hy
    exact ⟨False.elim, fun _ => hidle⟩
  · intro y hy
    rw [hstreams] at hy
    rcases List.mem_or_eq_of_mem_set hy with hy | rfl
    · exact .inl hy
    · exact .inr (hsound.evolve hevolves)
  · rw [hstreams]
    exact grows_set hx hlog hproduced
  · intro result' hr
    cases hr
    exact hreply

theorem received_cases (hstep : s.received c = some s') :
    ∃ deadline k x response x', s.phase c = some (.awaiting deadline) ∧
      s.client.stream = some k ∧ s.streams[k]? = some x ∧ x.read = some (response, x') ∧
      s' = { s with streams := s.streams.set k x' }.finish c (reply response, s.client) := by
  unfold System.received at hstep
  split at hstep
  · rename_i deadline hphase
    simp only [Option.bind_eq_bind, Option.bind_eq_some_iff, Prod.exists, Option.some.injEq] at hstep
    obtain ⟨k, hk, x, hx, response, x', hread, rfl⟩ := hstep
    exact ⟨deadline, k, x, response, x', hphase, hk, hx, hread, by rw [conclude_response]⟩
  · cases hstep

theorem Consistent.received (h : Consistent s) (hstep : s.received c = some s') :
    Consistent s' := by
  obtain ⟨deadline, k, x, response, x', hphase, hk, hx, hread, rfl⟩ := received_cases hstep
  have hcurrent := current_eq_some.mpr ⟨k, hk, hx⟩
  have hwaits := h.waits hphase trivial hcurrent
  have hsound := h.sound x (List.mem_of_getElem? hx)
  obtain ⟨i, r, hlog, hproduced⟩ := Exchange.read_log hsound.carries hwaits hread
  obtain ⟨hidle, hsame⟩ : x'.waiting = none ∧ x'.produced = x.produced := by
    unfold Exchange.read at hread
    split at hread
    · cases hread
    · obtain ⟨-, rfl⟩ : _ ∧ _ = x' := by simpa using hread
      exact ⟨rfl, rfl⟩
  obtain ⟨hlt, -⟩ := List.getElem?_eq_some_iff.mp hx
  refine h.settle hphase trivial hk hx rfl rfl rfl hidle (hsound.read hwaits hread) ?_ ?_ ?_
  · rw [hlog]
    exact List.subset_append_left _ _
  · rw [hsame]
    exact List.Subset.refl _
  · refine fun _ => ⟨x', List.mem_set hlt x', i, r, response, ?_, hproduced, rfl⟩
    rw [hlog]
    exact List.mem_append_right _ (List.mem_singleton.mpr rfl)

theorem Consistent.malformed (h : Consistent s) {message : Text}
    (hstep : s.malformed c message = some s') : Consistent s' := by
  unfold System.malformed at hstep
  split at hstep
  · rename_i hphase
    obtain rfl := Option.some.inj hstep
    exact h.fail hphase rfl (h.free hphase trivial) rfl rfl (fun x hx => .inl hx) (Grows.refl _)
  · cases hstep

theorem Consistent.closed (h : Consistent s) (hstep : s.closed c = some s') : Consistent s' := by
  unfold System.closed at hstep
  split at hstep
  · rename_i hphase _
    split at hstep
    · obtain rfl := Option.some.inj hstep
      exact h.fail hphase rfl (h.free hphase trivial) rfl rfl (fun x hx => .inl hx) (Grows.refl _)
    · cases hstep
  · cases hstep

theorem timedOut_cases (hstep : s.timedOut c = some s') :
    ∃ deadline k x, s.phase c = some (.awaiting deadline) ∧ s.client.stream = some k ∧
      s.streams[k]? = some x ∧
      s' = { s with streams := s.streams.set k x.giveUp }.finish c
        (s.client.conclude .timedOut) := by
  unfold System.timedOut at hstep
  split at hstep
  · rename_i deadline hphase
    simp only [Option.bind_eq_bind, Option.bind_eq_some_iff, Option.ite_none_right_eq_some,
      Option.some.injEq] at hstep
    obtain ⟨k, hk, x, hx, -, rfl⟩ := hstep
    exact ⟨deadline, k, x, hphase, hk, hx, rfl⟩
  · cases hstep

theorem Consistent.timedOut (h : Consistent s) (hstep : s.timedOut c = some s') :
    Consistent s' := by
  obtain ⟨deadline, k, x, hphase, hk, hx, rfl⟩ := timedOut_cases hstep
  have hsound := h.sound x (List.mem_of_getElem? hx)
  exact h.settle hphase trivial hk hx rfl rfl rfl rfl hsound.giveUp
    (List.subset_append_left _ _) (List.Subset.refl _) fun hreply => by cases hreply

/-! ## Runs -/

theorem Consistent.step (h : Consistent s) {event : Event} (hstep : s.step event = some s') :
    Consistent s' := by
  cases event with
  | call request =>
      obtain rfl := Option.some.inj hstep
      exact h.begin request
  | ensure c => exact h.ensure hstep
  | connected c result => exact h.connected hstep
  | lock c => exact h.lockStream hstep
  | sent c => exact h.sent hstep
  | sendFailed c message arrived => exact h.sendFailed hstep
  | received c => exact h.received hstep
  | malformed c message => exact h.malformed hstep
  | closed c => exact h.closed hstep
  | timedOut c => exact h.timedOut hstep
  | elapse duration =>
      obtain rfl := Option.some.inj hstep
      exact ⟨h.lock, h.known, h.waiting, h.sound, h.recorded⟩
  | take k => exact h.served (fun _ _ => served_take) hstep
  | respond k operations => exact h.served (fun _ _ => served_respond) hstep
  | hangUp k =>
      refine h.served (fun x x' hx => ?_) hstep
      obtain rfl := Option.some.inj hx
      exact served_hangUp x
  | worker => exact h.runWorker hstep

theorem Consistent.initial (path : SocketPath) :
    Consistent { client := { socketPath := path } } where
  lock c phase hphase := by cases hphase
  known k hk := by cases hk
  waiting x hx := by cases hx
  sound x hx := by cases hx
  recorded c result hphase := by cases hphase

theorem consistent_of_reachable {path : SocketPath} (h : Reachable path s) : Consistent s := by
  obtain ⟨events, run⟩ := h
  exact run.invariant (fun _ _ _ _ hstep h => h.step hstep) (.initial path)

end System

end VpnHub.Ipc
