import Mathlib.Data.List.Nodup
import Mathlib.Data.Option.Basic

/-! # Requests and answers on an ordered stream

One end of a stream writes requests and waits for one answer at a time; the other end takes
the requests one after the other and answers them. The frames do not say which request they
answer, so an answer goes to whoever waits when it is read. The names `ι` of the requests are
history: no operation looks at them. -/

namespace VpnHub

structure Exchange (ι ρ σ : Type) where
  /-- The requests that were written and not yet taken. -/
  requests : List (ι × ρ) := []
  /-- The request that is being answered. -/
  handling : Option (ι × ρ) := none
  /-- The answers that were not yet read. -/
  responses : List (ι × σ) := []
  /-- The answering end has hung up. -/
  closed : Bool := false
  /-- The request whose answer is waited for. -/
  waiting : Option ι := none
  /-- The requests that are no longer waited for, with the request whose answer each was
  given; none was given if the wait was given up. -/
  log : List (ι × Option ι) := []
  /-- The answers that were produced, each for its request. -/
  produced : List (ι × ρ × σ) := []
  deriving Repr

namespace Exchange

variable {ι ρ σ : Type} {x x' : Exchange ι ρ σ}

def write (x : Exchange ι ρ σ) (i : ι) (r : ρ) : Exchange ι ρ σ :=
  { x with
    requests := if x.closed then x.requests else x.requests ++ [(i, r)]
    waiting := some i }

def take (x : Exchange ι ρ σ) : Option (Exchange ι ρ σ) :=
  match x.handling, x.requests with
  | none, request :: rest => some { x with requests := rest, handling := some request }
  | _, _ => none

def respond (x : Exchange ι ρ σ) (answer : ρ → σ) : Option (Exchange ι ρ σ) :=
  x.handling.map fun (i, r) =>
    { x with
      handling := none
      responses := x.responses ++ [(i, answer r)]
      produced := x.produced ++ [(i, r, answer r)] }

def hangUp (x : Exchange ι ρ σ) : Exchange ι ρ σ :=
  { x with requests := [], handling := none, closed := true }

def read (x : Exchange ι ρ σ) : Option (σ × Exchange ι ρ σ) :=
  match x.responses with
  | [] => none
  | (i, s) :: rest =>
    some (s, { x with
      responses := rest
      waiting := none
      log := x.log ++ x.waiting.toList.map (·, some i) })

def giveUp (x : Exchange ι ρ σ) : Exchange ι ρ σ :=
  { x with waiting := none, log := x.log ++ x.waiting.toList.map (·, none) }

/-! ## Order -/

/-- The requests in the order in which they were written. -/
def sent (x : Exchange ι ρ σ) : List ι := x.log.map (·.1) ++ x.waiting.toList

/-- The requests whose answers were read. -/
def answered (x : Exchange ι ρ σ) : List ι := x.log.filterMap (·.2)

/-- The requests on their way: behind the answers the request in work, behind it the rest. -/
def pending (x : Exchange ι ρ σ) : List ι :=
  x.responses.map (·.1) ++ x.handling.toList.map (·.1) ++ x.requests.map (·.1)

/-- Answers are read in the order of the requests. Those that the other end has not answered
when it hangs up are lost, and so are later ones. -/
structure InOrder (x : Exchange ι ρ σ) : Prop where
  order : ∃ lost, x.sent = x.answered ++ x.pending ++ lost ∧ (x.closed = false → lost = [])
  hungUp : x.closed = true → x.handling = none ∧ x.requests = []

theorem InOrder.new : InOrder ({} : Exchange ι ρ σ) where
  order := ⟨[], rfl, fun _ => rfl⟩
  hungUp h := by cases h

theorem InOrder.write (h : x.InOrder) (hidle : x.waiting = none) (i : ι) (r : ρ) :
    (x.write i r).InOrder := by
  obtain ⟨lost, horder, hlost⟩ := h.order
  have hsent : (x.write i r).sent = x.sent ++ [i] := by
    simp [Exchange.sent, Exchange.write, hidle]
  cases hclosed : x.closed with
  | true =>
      have hpending : (x.write i r).pending = x.pending := by
        simp [Exchange.pending, Exchange.write, hclosed]
      refine ⟨⟨lost ++ [i], ?_, fun hopen => ?_⟩, fun _ => ?_⟩
      · rw [hsent, horder, hpending]
        simp [Exchange.answered, Exchange.write]
      · exact absurd (hclosed.symm.trans hopen) (by decide)
      · simpa [Exchange.write, hclosed] using h.hungUp hclosed
  | false =>
      have hpending : (x.write i r).pending = x.pending ++ [i] := by
        simp [Exchange.pending, Exchange.write, hclosed]
      refine ⟨⟨[], ?_, fun _ => rfl⟩, fun hc => ?_⟩
      · rw [hsent, horder, hpending, hlost hclosed]
        simp [Exchange.answered, Exchange.write]
      · exact absurd (hclosed.symm.trans hc) (by decide)

theorem InOrder.take (h : x.InOrder) (htake : x.take = some x') : x'.InOrder := by
  unfold Exchange.take at htake
  split at htake
  · rename_i request rest hhandling hrequests
    obtain rfl := Option.some.inj htake
    have hopen : x.closed = false := by
      by_contra hc
      have hempty := (h.hungUp (Bool.not_eq_false _ ▸ hc)).2
      rw [hrequests] at hempty
      cases hempty
    obtain ⟨lost, horder, hlost⟩ := h.order
    refine ⟨⟨lost, ?_, hlost⟩, fun hc => absurd (hopen.symm.trans hc) (by decide)⟩
    simpa [Exchange.sent, Exchange.answered, Exchange.pending, hhandling, hrequests] using horder
  · cases htake

theorem InOrder.respond (h : x.InOrder) {answer : ρ → σ} (hresp : x.respond answer = some x') :
    x'.InOrder := by
  unfold Exchange.respond at hresp
  obtain ⟨⟨i, r⟩, hhandling, rfl⟩ := Option.map_eq_some_iff.mp hresp
  obtain ⟨lost, horder, hlost⟩ := h.order
  refine ⟨⟨lost, ?_, hlost⟩, fun hc => ⟨rfl, (h.hungUp hc).2⟩⟩
  simpa [Exchange.sent, Exchange.answered, Exchange.pending, hhandling] using horder

theorem InOrder.hangUp (h : x.InOrder) : x.hangUp.InOrder := by
  obtain ⟨lost, horder, -⟩ := h.order
  refine ⟨⟨x.handling.toList.map (·.1) ++ x.requests.map (·.1) ++ lost, ?_, fun hc => by cases hc⟩,
    fun _ => ⟨rfl, rfl⟩⟩
  simpa [Exchange.sent, Exchange.answered, Exchange.pending, Exchange.hangUp] using horder

theorem InOrder.giveUp (h : x.InOrder) : x.giveUp.InOrder := by
  obtain ⟨lost, horder, hlost⟩ := h.order
  refine ⟨⟨lost, ?_, hlost⟩, h.hungUp⟩
  cases hwaiting : x.waiting <;>
    simpa [Exchange.sent, Exchange.answered, Exchange.pending, Exchange.giveUp, hwaiting]
      using horder

theorem InOrder.read (h : x.InOrder) {c : ι} (hwaiting : x.waiting = some c) {s : σ}
    (hread : x.read = some (s, x')) : x'.InOrder := by
  unfold Exchange.read at hread
  split at hread
  · cases hread
  · rename_i i s' rest hresponses
    obtain ⟨-, rfl⟩ : _ ∧ _ = x' := by simpa using hread
    obtain ⟨lost, horder, hlost⟩ := h.order
    refine ⟨⟨lost, ?_, hlost⟩, h.hungUp⟩
    simpa [Exchange.sent, Exchange.answered, Exchange.pending, hwaiting, hresponses] using horder

/-! ## Whose answer it was -/

/-- A request is given the answer to the request that was written as many places before it as
there were waits given up before. -/
theorem InOrder.sent_getElem? (h : x.InOrder) {earlier later : List (ι × Option ι)} {c i : ι}
    (hlog : x.log = earlier ++ (c, some i) :: later) :
    x.sent[(earlier.filterMap (·.2)).length]? = some i ∧ x.sent[earlier.length]? = some c := by
  obtain ⟨lost, horder, -⟩ := h.order
  constructor
  · rw [horder, answered, hlog]
    simp
  · rw [sent, hlog]
    simp

/-- A request is given its own answer iff no wait was given up before it. -/
theorem InOrder.own_iff (h : x.InOrder) (hnodup : x.sent.Nodup)
    {earlier later : List (ι × Option ι)} {c i : ι}
    (hlog : x.log = earlier ++ (c, some i) :: later) :
    i = c ↔ ∀ entry ∈ earlier, entry.2 ≠ none := by
  obtain ⟨hi, hc⟩ := h.sent_getElem? hlog
  obtain ⟨hlt, -⟩ := List.getElem?_eq_some_iff.mp hc
  have hall : (earlier.filterMap (·.2)).length = earlier.length ↔
      ∀ entry ∈ earlier, entry.2 ≠ none := by
    rw [List.filterMap_length_eq_length]
    simp only [Option.isSome_iff_ne_none]
  rw [← hall]
  constructor
  · rintro rfl
    exact ((List.getElem?_inj hlt hnodup).mp (hc.trans hi.symm)).symm
  · intro hlength
    rw [hlength] at hi
    exact Option.some.inj (hi.symm.trans hc)

/-! ## What an answer was produced for -/

/-- The requests on the stream are related to their names by `P`, and an answer that is to be
read was produced. -/
structure Carries (P : ι → ρ → Prop) (x : Exchange ι ρ σ) : Prop where
  requests : ∀ q ∈ x.requests, P q.1 q.2
  handling : ∀ q ∈ x.handling, P q.1 q.2
  produced : ∀ q ∈ x.produced, P q.1 q.2.1
  responses : ∀ q ∈ x.responses, ∃ r, (q.1, r, q.2) ∈ x.produced

variable {P : ι → ρ → Prop}

theorem Carries.new : Carries P ({} : Exchange ι ρ σ) where
  requests := by simp
  handling := by simp
  produced := by simp
  responses := by simp

theorem Carries.mono {Q : ι → ρ → Prop} (h : x.Carries P) (hle : ∀ i r, P i r → Q i r) :
    x.Carries Q where
  requests q hq := hle _ _ (h.requests q hq)
  handling q hq := hle _ _ (h.handling q hq)
  produced q hq := hle _ _ (h.produced q hq)
  responses := h.responses

theorem Carries.write (h : x.Carries P) {i : ι} {r : ρ} (hi : P i r) : (x.write i r).Carries P where
  requests q hq := by
    simp only [Exchange.write] at hq
    split at hq
    · exact h.requests q hq
    · rcases List.mem_append.mp hq with hq | hq
      · exact h.requests q hq
      · obtain rfl := List.mem_singleton.mp hq
        exact hi
  handling := h.handling
  produced := h.produced
  responses := h.responses

theorem Carries.take (h : x.Carries P) (htake : x.take = some x') : x'.Carries P := by
  unfold Exchange.take at htake
  split at htake
  · rename_i request rest hhandling hrequests
    obtain rfl := Option.some.inj htake
    have hall := h.requests
    rw [hrequests] at hall
    refine ⟨fun q hq => hall q (List.mem_cons_of_mem _ hq), fun q hq => ?_, h.produced, h.responses⟩
    obtain rfl : request = q := Option.some.inj hq
    exact hall _ List.mem_cons_self
  · cases htake

theorem Carries.respond (h : x.Carries P) {answer : ρ → σ} (hresp : x.respond answer = some x') :
    x'.Carries P := by
  unfold Exchange.respond at hresp
  obtain ⟨⟨i, r⟩, hhandling, rfl⟩ := Option.map_eq_some_iff.mp hresp
  refine ⟨h.requests, fun q hq => (by cases hq), fun q hq => ?_, fun q hq => ?_⟩
  · rcases List.mem_append.mp hq with hq | hq
    · exact h.produced q hq
    · obtain rfl := List.mem_singleton.mp hq
      exact h.handling (i, r) hhandling
  · rcases List.mem_append.mp hq with hq | hq
    · obtain ⟨r', hr⟩ := h.responses q hq
      exact ⟨r', List.mem_append_left _ hr⟩
    · obtain rfl := List.mem_singleton.mp hq
      exact ⟨r, List.mem_append_right _ (List.mem_singleton.mpr rfl)⟩

theorem Carries.hangUp (h : x.Carries P) : x.hangUp.Carries P where
  requests := by simp [Exchange.hangUp]
  handling := by simp [Exchange.hangUp]
  produced := h.produced
  responses := h.responses

theorem Carries.giveUp (h : x.Carries P) : x.giveUp.Carries P :=
  ⟨h.requests, h.handling, h.produced, h.responses⟩

theorem Carries.read (h : x.Carries P) {s : σ} (hread : x.read = some (s, x')) :
    x'.Carries P := by
  unfold Exchange.read at hread
  split at hread
  · cases hread
  · rename_i i s' rest hresponses
    obtain ⟨-, rfl⟩ : _ ∧ _ = x' := by simpa using hread
    have hall := h.responses
    rw [hresponses] at hall
    exact ⟨h.requests, h.handling, h.produced, fun q hq => hall q (List.mem_cons_of_mem _ hq)⟩

/-- What a read logs: the answer was produced for the request that it is logged with. -/
theorem read_log (h : x.Carries P) {c : ι} (hwaiting : x.waiting = some c) {s : σ}
    (hread : x.read = some (s, x')) :
    ∃ i r, x'.log = x.log ++ [(c, some i)] ∧ (i, r, s) ∈ x'.produced := by
  unfold Exchange.read at hread
  split at hread
  · cases hread
  · rename_i i s' rest hresponses
    obtain ⟨rfl, rfl⟩ : s' = s ∧ _ = x' := by simpa using hread
    obtain ⟨r, hr⟩ := h.responses (i, s') (by rw [hresponses]; exact List.mem_cons_self)
    exact ⟨i, r, by simp [hwaiting], hr⟩

end Exchange

end VpnHub
