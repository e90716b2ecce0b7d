import Mathlib.Data.List.Infix
import VpnHub.Library.BigEndian

/-! # Messages in a byte stream

A decoder looks at the bytes received so far and either takes one message off their front or
leaves them. Two laws, about a message that is there and about one that is not there yet, say
what it makes of a whole stream, however the stream is cut and whenever the decoder is called.
Last come frames that carry their length in front. -/

namespace VpnHub.Framing

variable {α ε : Type*}

/-- The answer to one call and the buffer after it. -/
abbrev Decoder (ε α : Type*) := List UInt8 → Except ε (Option α) × List UInt8

/-- The decoder undoes the encoding of the valid messages. -/
structure Inverts (decode : Decoder ε α) (encode : α → List UInt8) (Valid : α → Prop) :
    Prop where
  whole : ∀ {x}, Valid x → ∀ rest, decode (encode x ++ rest) = (.ok (some x), rest)
  part : ∀ {x}, Valid x → ∀ {bytes}, bytes <+: encode x → bytes ≠ encode x →
    decode bytes = (.ok none, bytes)
  empty : decode [] = (.ok none, [])

/-- Bytes that hold no whole message: nothing, or a part of one from its beginning. -/
def Unfinished (encode : α → List UInt8) (Valid : α → Prop) (tail : List UInt8) : Prop :=
  tail = [] ∨ ∃ x, Valid x ∧ tail <+: encode x ∧ tail ≠ encode x

variable {decode : Decoder ε α} {encode : α → List UInt8} {Valid : α → Prop}

theorem Unfinished.of_prefix {tail bytes : List UInt8} (h : Unfinished encode Valid tail)
    (hb : bytes <+: tail) : Unfinished encode Valid bytes := by
  obtain rfl | ⟨x, hx, hpre, hne⟩ := h
  · exact .inl (List.prefix_nil.mp hb)
  · refine .inr ⟨x, hx, hb.trans hpre, fun heq => hne ?_⟩
    exact hpre.eq_of_length_le (heq ▸ hb.length_le)

theorem Inverts.unfinished (h : Inverts decode encode Valid) {tail : List UInt8}
    (ht : Unfinished encode Valid tail) : decode tail = (.ok none, tail) := by
  obtain rfl | ⟨x, hx, hpre, hne⟩ := ht
  · exact h.empty
  · exact h.part hx hpre hne

/-- One call in the middle of a stream: the buffer holds no whole message and stays as it is,
or the next message comes off its front. -/
theorem Inverts.decode_cases (h : Inverts decode encode Valid) {xs : List α}
    (hxs : ∀ x ∈ xs, Valid x) {tail buffer coming : List UInt8}
    (ht : Unfinished encode Valid tail)
    (heq : buffer ++ coming = xs.flatMap encode ++ tail) :
    (decode buffer = (.ok none, buffer) ∧ (coming = [] → xs = [] ∧ buffer = tail)) ∨
      ∃ x xs' rest, xs = x :: xs' ∧ decode buffer = (.ok (some x), rest) ∧
        rest ++ coming = xs'.flatMap encode ++ tail := by
  cases xs with
  | nil =>
      left
      rw [List.flatMap_nil, List.nil_append] at heq
      refine ⟨h.unfinished (ht.of_prefix ⟨coming, heq⟩), ?_⟩
      rintro rfl
      exact ⟨rfl, by rw [← heq, List.append_nil]⟩
  | cons x xs =>
      have hx := hxs x List.mem_cons_self
      rw [List.flatMap_cons, List.append_assoc] at heq
      by_cases hwhole : encode x <+: buffer
      · right
        obtain ⟨rest, rfl⟩ := hwhole
        rw [List.append_assoc] at heq
        exact ⟨x, xs, rest, rfl, h.whole hx rest, List.append_cancel_left heq⟩
      · left
        have hpre : buffer <+: encode x := by
          refine (List.prefix_or_prefix_of_prefix ⟨coming, heq⟩ ⟨_, rfl⟩).resolve_right hwhole
        have hne : buffer ≠ encode x := fun he => hwhole (he ▸ List.prefix_rfl)
        refine ⟨h.part hx hpre hne, ?_⟩
        rintro rfl
        rw [List.append_nil] at heq
        exact absurd ⟨_, heq.symm⟩ hwhole

/-- Messages that are written one after the other are the stream of their encodings. -/
theorem foldl_write {write : List UInt8 → α → List UInt8} {xs : List α}
    (h : ∀ x ∈ xs, ∀ dst, write dst x = dst ++ encode x) (dst : List UInt8) :
    xs.foldl write dst = dst ++ xs.flatMap encode := by
  induction xs generalizing dst with
  | nil => simp
  | cons x xs ih =>
      obtain ⟨hx, hxs⟩ := List.forall_mem_cons.mp h
      rw [List.foldl_cons, hx, ih hxs, List.flatMap_cons, List.append_assoc]

/-! ## Runs -/

/-- What happens to a buffer: bytes arrive at its end, or the decoder is called. -/
inductive Event where
  | arrive (bytes : List UInt8)
  | call

/-- The bytes that arrive in a run. -/
def arrived : List Event → List UInt8
  | [] => []
  | .arrive bytes :: events => bytes ++ arrived events
  | .call :: events => arrived events

/-- The answers of a run in order, and the buffer after it. -/
def run (decode : Decoder ε α) : List UInt8 → List Event →
    List (Except ε (Option α)) × List UInt8
  | buffer, [] => ([], buffer)
  | buffer, .arrive bytes :: events => run decode (buffer ++ bytes) events
  | buffer, .call :: events =>
    let answer := decode buffer
    let later := run decode answer.2 events
    (answer.1 :: later.1, later.2)

/-- The messages among the answers. -/
def messages (answers : List (Except ε (Option α))) : List α :=
  answers.filterMap fun answer => answer.toOption.join

theorem arrived_append (events more : List Event) :
    arrived (events ++ more) = arrived events ++ arrived more := by
  induction events with
  | nil => rfl
  | cons event events ih =>
      cases event with
      | arrive bytes => simp only [List.cons_append, arrived, ih, List.append_assoc]
      | call => exact ih

@[simp] theorem arrived_calls (n : ℕ) : arrived (List.replicate n .call) = [] := by
  induction n with
  | zero => rfl
  | succ n ih => exact ih

theorem run_append (buffer : List UInt8) (events more : List Event) :
    run decode buffer (events ++ more) =
      ((run decode buffer events).1 ++ (run decode (run decode buffer events).2 more).1,
        (run decode (run decode buffer events).2 more).2) := by
  induction events generalizing buffer with
  | nil => rfl
  | cons event events ih =>
      cases event with
      | arrive bytes => exact ih _
      | call => simp only [List.cons_append, run, ih]

@[simp] theorem messages_nil : messages ([] : List (Except ε (Option α))) = [] := rfl

@[simp] theorem messages_none (answers : List (Except ε (Option α))) :
    messages (.ok none :: answers) = messages answers := rfl

@[simp] theorem messages_some (x : α) (answers : List (Except ε (Option α))) :
    messages (.ok (some x) :: answers) = x :: messages answers := rfl

@[simp] theorem messages_append (answers more : List (Except ε (Option α))) :
    messages (answers ++ more) = messages answers ++ messages more :=
  List.filterMap_append

/-- No answer is an error. -/
def Succeeds (answers : List (Except ε (Option α))) : Prop :=
  ∀ answer ∈ answers, ∃ x, answer = .ok x

theorem Succeeds.cons {x : Option α} {answers : List (Except ε (Option α))}
    (h : Succeeds answers) : Succeeds (.ok x :: answers) := by
  intro answer hanswer
  obtain rfl | hin := List.mem_cons.mp hanswer
  · exact ⟨x, rfl⟩
  · exact h answer hin

theorem Succeeds.append {answers more : List (Except ε (Option α))} (h : Succeeds answers)
    (h' : Succeeds more) : Succeeds (answers ++ more) := by
  intro answer hanswer
  exact (List.mem_append.mp hanswer).elim (h answer) (h' answer)

/-- In a run over a stream the messages come out in order; those that have not come out yet are
what the buffer holds. -/
theorem Inverts.run_eq (h : Inverts decode encode Valid) {xs : List α}
    (hxs : ∀ x ∈ xs, Valid x) {tail : List UInt8} (ht : Unfinished encode Valid tail)
    {buffer : List UInt8} {events : List Event}
    (heq : buffer ++ arrived events = xs.flatMap encode ++ tail) :
    Succeeds (run decode buffer events).1 ∧
      ∃ left, xs = messages (run decode buffer events).1 ++ left ∧
        (run decode buffer events).2 = left.flatMap encode ++ tail := by
  induction events generalizing buffer xs with
  | nil =>
      rw [arrived, List.append_nil] at heq
      exact ⟨fun _ hin => absurd hin List.not_mem_nil, xs, rfl, heq⟩
  | cons event events ih =>
      cases event with
      | arrive bytes =>
          apply ih hxs
          rw [List.append_assoc]
          exact heq
      | call =>
          rw [arrived] at heq
          obtain ⟨hnone, -⟩ | ⟨x, xs', rest, rfl, hsome, hrest⟩ := h.decode_cases hxs ht heq
          · obtain ⟨hok, left, hleft, hbuffer⟩ := ih hxs heq
            simp only [run, hnone, messages_none]
            exact ⟨hok.cons, left, hleft, hbuffer⟩
          · obtain ⟨hok, left, hleft, hbuffer⟩ :=
              ih (fun y hy => hxs y (List.mem_cons_of_mem _ hy)) hrest
            simp only [run, hsome, messages_some]
            exact ⟨hok.cons, left, by rw [List.cons_append, ← hleft], hbuffer⟩

/-- As many calls as there are messages in the buffer take all of them out. -/
theorem Inverts.run_calls (h : Inverts decode encode Valid) {xs : List α}
    (hxs : ∀ x ∈ xs, Valid x) {tail : List UInt8} (ht : Unfinished encode Valid tail)
    {n : ℕ} (hn : xs.length ≤ n) :
    messages (run decode (xs.flatMap encode ++ tail) (List.replicate n .call)).1 = xs ∧
      (run decode (xs.flatMap encode ++ tail) (List.replicate n .call)).2 = tail := by
  induction n generalizing xs with
  | zero =>
      have hnil : xs = [] := List.eq_nil_of_length_eq_zero (by omega)
      subst hnil
      exact ⟨rfl, rfl⟩
  | succ n ih =>
      rw [List.replicate_succ]
      cases xs with
      | nil =>
          have hcall := h.unfinished ht
          simp only [List.flatMap_nil, List.nil_append, run, hcall, messages_none]
          exact ih hxs (Nat.zero_le n)
      | cons x xs =>
          have hcall := h.whole (hxs x List.mem_cons_self) (xs.flatMap encode ++ tail)
          obtain ⟨hmessages, hbuffer⟩ := ih (fun y hy => hxs y (List.mem_cons_of_mem _ hy))
            (Nat.le_of_succ_le_succ hn)
          simp only [List.flatMap_cons, List.append_assoc, run, hcall, messages_some,
            hmessages]
          exact ⟨trivial, hbuffer⟩

/-- A stream that arrives in any pieces, with any calls in between and enough of them after it,
is decoded to its messages; what is unfinished stays in the buffer. -/
theorem Inverts.run_stream (h : Inverts decode encode Valid) {xs : List α}
    (hxs : ∀ x ∈ xs, Valid x) {tail : List UInt8} (ht : Unfinished encode Valid tail)
    {events : List Event} (heq : arrived events = xs.flatMap encode ++ tail) {n : ℕ}
    (hn : xs.length ≤ n) :
    Succeeds (run decode [] (events ++ List.replicate n .call)).1 ∧
      messages (run decode [] (events ++ List.replicate n .call)).1 = xs ∧
      (run decode [] (events ++ List.replicate n .call)).2 = tail := by
  have hempty : [] ++ arrived events = xs.flatMap encode ++ tail := heq
  have hcalls : [] ++ arrived (events ++ List.replicate n .call) = xs.flatMap encode ++ tail := by
    rw [arrived_append, arrived_calls, List.append_nil, hempty]
  obtain ⟨hok, -⟩ := h.run_eq hxs ht hcalls
  obtain ⟨-, left, hleft, hbuffer⟩ := h.run_eq hxs ht hempty
  have hle : left.length ≤ n := by
    have := congrArg List.length hleft
    rw [List.length_append] at this
    omega
  have hvalid : ∀ x ∈ left, Valid x := by
    intro x hx
    apply hxs
    rw [hleft]
    exact List.mem_append_right _ hx
  obtain ⟨hmessages, htail⟩ := h.run_calls hvalid ht hle
  refine ⟨hok, ?_⟩
  rw [run_append, hbuffer, messages_append, hmessages]
  exact ⟨hleft.symm, htail⟩

/-! ## Length prefixes -/

open BigEndian

variable {w : ℕ} {body : List UInt8}

/-- The length of the body in `w` bytes, then the body. -/
def frame (w : ℕ) (body : List UInt8) : List UInt8 := toBE w body.length ++ body

theorem length_frame (w : ℕ) (body : List UInt8) : (frame w body).length = w + body.length := by
  rw [frame, List.length_append, length_toBE]

theorem take_frame_append (body rest : List UInt8) :
    (frame w body ++ rest).take w = toBE w body.length := by
  rw [frame, List.append_assoc]
  exact List.take_left' (length_toBE w body.length)

/-- The length that a frame begins with, also when only a part of the frame is there. -/
theorem ofBE_take_of_prefix {bytes : List UInt8} (hfits : body.length < 256 ^ w)
    (hpre : bytes <+: frame w body) (hlong : w ≤ bytes.length) :
    ofBE (bytes.take w) = body.length := by
  obtain ⟨rest, hrest⟩ := hpre
  have htake := take_frame_append (w := w) body []
  rw [List.append_nil, ← hrest, List.take_append_of_le_length hlong] at htake
  rw [htake, ofBE_toBE, Nat.mod_eq_of_lt hfits]

theorem ofBE_take_frame (hfits : body.length < 256 ^ w) (rest : List UInt8) :
    ofBE ((frame w body ++ rest).take w) = body.length := by
  rw [take_frame_append, ofBE_toBE, Nat.mod_eq_of_lt hfits]

theorem drop_frame_append (body rest : List UInt8) :
    (frame w body ++ rest).drop w = body ++ rest := by
  rw [frame, List.append_assoc]
  exact List.drop_left' (length_toBE w body.length)

/-- A part of a frame is shorter than the header or than what the header announces. -/
theorem length_lt_of_part {bytes : List UInt8} (hpre : bytes <+: frame w body)
    (hne : bytes ≠ frame w body) : bytes.length < w + body.length := by
  rw [← length_frame]
  exact lt_of_le_of_ne hpre.length_le fun hlen => hne (hpre.eq_of_length hlen)

end VpnHub.Framing
