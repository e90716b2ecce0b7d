import Mathlib.Logic.Basic
import Mathlib.Data.List.Basic

/-! # Fallible programs over a state

A program reads and changes a state, and returns a value or an error; an error keeps the
changes made before it. A program may also have no outcome at all: it panics or never
returns. -/

namespace VpnHub

/-- Programs over the state `σ` with errors in `ε`. -/
abbrev Prog (σ ε : Type) : Type → Type := ExceptT ε (StateT σ Option)

namespace Prog

variable {σ τ ε α β : Type}

/-- The outcome from a given state: result and final state, or none. -/
def run (p : Prog σ ε α) (s : σ) : Option (Except ε α × σ) := StateT.run (ExceptT.run p) s

/-- A program without outcome. -/
def stuck : Prog σ ε α := ExceptT.mk fun _ => none

/-- A program given by its outcome function. -/
def ofFun (f : σ → Except ε α × σ) : Prog σ ε α := ExceptT.mk fun s => some (f s)

def ofExcept (r : Except ε α) : Prog σ ε α := ofFun fun s => (r, s)

/-- Runs `p` if the condition holds, and does nothing otherwise. -/
def when (c : Prop) [Decidable c] (p : Prog σ ε Unit) : Prog σ ε Unit :=
  if c then p else pure ()

/-- Runs `p` on a part of the state and puts the part back, also after an error. -/
def within (part : τ) (put : τ → σ → σ) (p : Prog τ ε α) : Prog σ ε α :=
  ExceptT.mk fun s => (p.run part).map fun (r, t) => (r, put t s)

/-- Runs `p` and goes on whatever it returns. -/
def ignore (p : Prog σ ε Unit) : Prog σ ε Unit :=
  ExceptT.mk fun s => (p.run s).map fun (_, t) => (.ok (), t)

/-! ## Evaluation -/

theorem ext {p q : Prog σ ε α} (h : ∀ s, p.run s = q.run s) : p = q := funext h

@[simp] theorem run_pure (a : α) (s : σ) : (pure a : Prog σ ε α).run s = some (.ok a, s) := rfl

@[simp] theorem run_throw (e : ε) (s : σ) :
    (throw e : Prog σ ε α).run s = some (.error e, s) := rfl

@[simp] theorem run_get (s : σ) : (get : Prog σ ε σ).run s = some (.ok s, s) := rfl

@[simp] theorem run_set (s t : σ) : (set t : Prog σ ε PUnit).run s = some (.ok ⟨⟩, t) := rfl

@[simp] theorem run_modify (f : σ → σ) (s : σ) :
    (modify f : Prog σ ε PUnit).run s = some (.ok ⟨⟩, f s) := rfl

@[simp] theorem run_stuck (s : σ) : (stuck : Prog σ ε α).run s = none := rfl

@[simp] theorem run_ofFun (f : σ → Except ε α × σ) (s : σ) :
    (ofFun f : Prog σ ε α).run s = some (f s) := rfl

@[simp] theorem run_ofExcept (r : Except ε α) (s : σ) :
    (ofExcept r : Prog σ ε α).run s = some (r, s) := rfl

@[simp] theorem run_within (part : τ) (put : τ → σ → σ) (p : Prog τ ε α) (s : σ) :
    (within part put p).run s = (p.run part).map fun (r, t) => (r, put t s) := rfl

@[simp] theorem run_ignore (p : Prog σ ε Unit) (s : σ) :
    (ignore p).run s = (p.run s).map fun (_, t) => (.ok (), t) := rfl

theorem run_bind (p : Prog σ ε α) (f : α → Prog σ ε β) (s : σ) :
    (p >>= f).run s = (p.run s).bind fun
      | (.ok a, t) => (f a).run t
      | (.error e, t) => some (.error e, t) := by
  change (p.run s).bind _ = _
  congr 1
  funext ⟨r, t⟩
  cases r <;> rfl

theorem run_bind_of_ok {p : Prog σ ε α} {f : α → Prog σ ε β} {s t : σ} {a : α}
    (h : p.run s = some (.ok a, t)) : (p >>= f).run s = (f a).run t := by
  simp [run_bind, h]

theorem run_bind_of_error {p : Prog σ ε α} {f : α → Prog σ ε β} {s t : σ} {e : ε}
    (h : p.run s = some (.error e, t)) : (p >>= f).run s = some (.error e, t) := by
  simp [run_bind, h]

/-- The outcome of a sequence comes from its second part, or is an error of the first. -/
theorem exists_of_run_bind {p : Prog σ ε α} {f : α → Prog σ ε β} {s t : σ} {r : Except ε β}
    (h : (p >>= f).run s = some (r, t)) :
    (∃ a u, p.run s = some (.ok a, u) ∧ (f a).run u = some (r, t)) ∨
      ∃ e, p.run s = some (.error e, t) ∧ r = .error e := by
  cases hp : p.run s with
  | none => simp [run_bind, hp] at h
  | some out =>
      obtain ⟨r₁, u⟩ := out
      cases r₁ with
      | ok a => exact .inl ⟨a, u, rfl, by rwa [run_bind_of_ok hp] at h⟩
      | error e =>
          rw [run_bind_of_error hp] at h
          obtain ⟨rfl, rfl⟩ : Except.error e = r ∧ u = t := by simpa using h
          exact .inr ⟨e, rfl, rfl⟩

/-- A sequence returns a value when both of its parts do. -/
theorem run_bind_eq_ok {p : Prog σ ε α} {f : α → Prog σ ε β} {s t : σ} {b : β} :
    (p >>= f).run s = some (.ok b, t) ↔
      ∃ a u, p.run s = some (.ok a, u) ∧ (f a).run u = some (.ok b, t) := by
  constructor
  · intro h
    obtain hok | ⟨e, -, herror⟩ := exists_of_run_bind h
    · exact hok
    · cases herror
  · rintro ⟨a, u, hp, hf⟩
    rw [run_bind_of_ok hp, hf]

@[simp] theorem run_pure_bind (a : α) (f : α → Prog σ ε β) (s : σ) :
    ((pure a : Prog σ ε α) >>= f).run s = (f a).run s := run_bind_of_ok rfl

@[simp] theorem run_get_bind (f : σ → Prog σ ε β) (s : σ) :
    ((get : Prog σ ε σ) >>= f).run s = (f s).run s := run_bind_of_ok rfl

@[simp] theorem run_modify_bind (g : σ → σ) (f : PUnit → Prog σ ε β) (s : σ) :
    ((modify g : Prog σ ε PUnit) >>= f).run s = (f ⟨⟩).run (g s) := run_bind_of_ok rfl

@[simp] theorem run_throw_bind (e : ε) (f : α → Prog σ ε β) (s : σ) :
    ((throw e : Prog σ ε α) >>= f).run s = some (.error e, s) := run_bind_of_error rfl

@[simp] theorem run_ofExcept_ok_bind (a : α) (f : α → Prog σ ε β) (s : σ) :
    ((ofExcept (.ok a) : Prog σ ε α) >>= f).run s = (f a).run s := run_bind_of_ok rfl

@[simp] theorem run_ofExcept_error_bind (e : ε) (f : α → Prog σ ε β) (s : σ) :
    ((ofExcept (.error e) : Prog σ ε α) >>= f).run s = some (.error e, s) :=
  run_bind_of_error rfl

theorem run_ite {c : Prop} [Decidable c] (p q : Prog σ ε α) (s : σ) :
    (if c then p else q).run s = if c then p.run s else q.run s := by
  split <;> rfl

/-! ## Checking outcomes -/

/-- Whether `p` returns an error. -/
def fails (p : Prog σ ε α) (s : σ) : Bool :=
  match p.run s with
  | some (.error _, _) => true
  | _ => false

/-- Whether `p` returns a value. -/
def succeeds (p : Prog σ ε α) (s : σ) : Bool :=
  match p.run s with
  | some (.ok _, _) => true
  | _ => false

theorem exists_of_fails {p : Prog σ ε α} {s : σ} (h : p.fails s = true) :
    ∃ e t, p.run s = some (.error e, t) := by
  unfold fails at h
  split at h
  · exact ⟨_, _, by assumption⟩
  · cases h

theorem exists_of_succeeds {p : Prog σ ε α} {s : σ} (h : p.succeeds s = true) :
    ∃ a t, p.run s = some (.ok a, t) := by
  unfold succeeds at h
  split at h
  · exact ⟨_, _, by assumption⟩
  · cases h

/-! ## Weakest preconditions -/

/-- Every outcome of `p` from `s` satisfies `Q`. -/
def wp (p : Prog σ ε α) (Q : Except ε α → σ → Prop) (s : σ) : Prop :=
  ∀ r t, p.run s = some (r, t) → Q r t

variable {Q Q' : Except ε α → σ → Prop} {s : σ}

theorem wp.of_run {p : Prog σ ε α} (h : p.wp Q s) {r : Except ε α} {t : σ}
    (run : p.run s = some (r, t)) : Q r t := h r t run

theorem wp.mono {p : Prog σ ε α} (h : p.wp Q s) (imp : ∀ r t, Q r t → Q' r t) : p.wp Q' s :=
  fun r t run => imp r t (h r t run)

theorem wp.and {p : Prog σ ε α} (h : p.wp Q s) (h' : p.wp Q' s) :
    p.wp (fun r t => Q r t ∧ Q' r t) s :=
  fun r t run => ⟨h r t run, h' r t run⟩

@[simp] theorem wp_pure {a : α} : (pure a : Prog σ ε α).wp Q s ↔ Q (.ok a) s := by
  simp [wp, eq_comm]

@[simp] theorem wp_throw {e : ε} : (throw e : Prog σ ε α).wp Q s ↔ Q (.error e) s := by
  simp [wp, eq_comm]

@[simp] theorem wp_stuck : (stuck : Prog σ ε α).wp Q s ↔ True := by
  simp [wp]

@[simp] theorem wp_get {Q : Except ε σ → σ → Prop} :
    (get : Prog σ ε σ).wp Q s ↔ Q (.ok s) s := by
  simp [wp, eq_comm]

@[simp] theorem wp_modify {Q : Except ε PUnit → σ → Prop} {f : σ → σ} :
    (modify f : Prog σ ε PUnit).wp Q s ↔ Q (.ok ⟨⟩) (f s) := by
  simp [wp, eq_comm]

@[simp] theorem wp_ofFun {f : σ → Except ε α × σ} :
    (ofFun f : Prog σ ε α).wp Q s ↔ Q (f s).1 (f s).2 := by
  constructor
  · intro h
    exact h _ _ rfl
  · intro h r t run
    obtain ⟨rfl, rfl⟩ : (f s).1 = r ∧ (f s).2 = t := by simpa [Prod.ext_iff] using run
    exact h

@[simp] theorem wp_ofExcept {r : Except ε α} : (ofExcept r : Prog σ ε α).wp Q s ↔ Q r s :=
  wp_ofFun

theorem wp_within {part : τ} {put : τ → σ → σ} {p : Prog τ ε α} :
    (within part put p).wp Q s ↔ p.wp (fun r t => Q r (put t s)) part := by
  constructor
  · intro h r t run
    exact h r (put t s) (by simp [run])
  · intro h r t run
    obtain ⟨⟨r', t'⟩, run', heq⟩ := Option.map_eq_some_iff.mp run
    obtain ⟨rfl, rfl⟩ : r' = r ∧ put t' s = t := by simpa using heq
    exact h r' t' run'

theorem wp_bind {p : Prog σ ε α} {f : α → Prog σ ε β} {Q : Except ε β → σ → Prop} :
    (p >>= f).wp Q s ↔ p.wp (fun r t =>
      match r with
      | .ok a => (f a).wp Q t
      | .error e => Q (.error e) t) s := by
  constructor
  · intro h r t run
    cases r with
    | ok a => exact fun r' t' run' => h r' t' (by rw [run_bind_of_ok run]; exact run')
    | error e => exact h _ _ (run_bind_of_error run)
  · intro h r t run
    rcases exists_of_run_bind run with ⟨a, u, hp, hf⟩ | ⟨e, hp, rfl⟩
    · exact h _ _ hp r t hf
    · exact h _ _ hp

/-- Programs that go on in the same way from every value `p` can return. -/
theorem run_bind_congr {p : Prog σ ε α} {f g : α → Prog σ ε β}
    (h : p.wp (fun r t => ∀ a, r = .ok a → (f a).run t = (g a).run t) s) :
    (p >>= f).run s = (p >>= g).run s := by
  cases hp : p.run s with
  | none => simp [run_bind, hp]
  | some out =>
      obtain ⟨r, t⟩ := out
      cases r with
      | ok a => rw [run_bind_of_ok hp, run_bind_of_ok hp, h.of_run hp a rfl]
      | error e => rw [run_bind_of_error hp, run_bind_of_error hp]

/-! ## Frame relations -/

/-- Every outcome of `p`, an error included, is related to the state it started from. -/
def Keeps (R : σ → σ → Prop) (p : Prog σ ε α) : Prop := ∀ s, p.wp (fun _ t => R s t) s

theorem Keeps.of_run {R : σ → σ → Prop} {p : Prog σ ε α} (h : Keeps R p) {s t : σ}
    {r : Except ε α} (run : p.run s = some (r, t)) : R s t := h s r t run

theorem Keeps.mono {R R' : σ → σ → Prop} {p : Prog σ ε α} (h : Keeps R p)
    (imp : ∀ s t, R s t → R' s t) : Keeps R' p :=
  fun s r t run => imp s t (h s r t run)

theorem Keeps.modify {R : σ → σ → Prop} {f : σ → σ} (h : ∀ s, R s (f s)) :
    Keeps R (modify f : Prog σ ε PUnit) :=
  fun s => wp_modify.mpr (h s)

theorem Keeps.ofFun {R : σ → σ → Prop} {f : σ → Except ε α × σ} (h : ∀ s, R s (f s).2) :
    Keeps R (ofFun f) :=
  fun s => wp_ofFun.mpr (h s)

theorem Keeps.within {R : σ → σ → Prop} {part : τ} {put : τ → σ → σ} {p : Prog τ ε α}
    (h : ∀ s t, R s (put t s)) : Keeps R (within part put p) :=
  fun s => wp_within.mpr fun _ t _ => h s t

/-- What holds after a sequence, from what the first part can change. -/
theorem Keeps.bind_wp {R : σ → σ → Prop} {p : Prog σ ε α} (hp : Keeps R p) {f : α → Prog σ ε β}
    {Q : Except ε β → σ → Prop} {s : σ} (herror : ∀ e t, R s t → Q (.error e) t)
    (hok : ∀ a t, R s t → (f a).wp Q t) : (p >>= f).wp Q s := by
  refine wp_bind.mpr fun r t run => ?_
  cases r with
  | ok a => exact hok a t (hp.of_run run)
  | error e => exact herror e t (hp.of_run run)

section Preorder

variable {R : σ → σ → Prop}

theorem Keeps.pure (refl : ∀ s, R s s) (a : α) : Keeps R (pure a : Prog σ ε α) :=
  fun s => wp_pure.mpr (refl s)

theorem Keeps.throw (refl : ∀ s, R s s) (e : ε) : Keeps R (throw e : Prog σ ε α) :=
  fun s => wp_throw.mpr (refl s)

theorem Keeps.get (refl : ∀ s, R s s) : Keeps R (get : Prog σ ε σ) :=
  fun s => wp_get.mpr (refl s)

theorem Keeps.ofExcept (refl : ∀ s, R s s) (r : Except ε α) :
    Keeps R (ofExcept r : Prog σ ε α) :=
  Keeps.ofFun refl

theorem Keeps.stuck : Keeps R (stuck : Prog σ ε α) := fun _ => wp_stuck.mpr trivial

theorem Keeps.bind (trans : ∀ s t u, R s t → R t u → R s u) {p : Prog σ ε α}
    {f : α → Prog σ ε β} (hp : Keeps R p) (hf : ∀ a, Keeps R (f a)) : Keeps R (p >>= f) := by
  intro s
  refine wp_bind.mpr fun r t run => ?_
  cases r with
  | ok a => exact fun r' t' run' => trans _ _ _ (hp.of_run run) ((hf a).of_run run')
  | error e => exact hp.of_run run

theorem Keeps.ite {c : Prop} [Decidable c] {p q : Prog σ ε α} (hp : Keeps R p)
    (hq : Keeps R q) : Keeps R (if c then p else q) := by
  split
  · exact hp
  · exact hq

theorem Keeps.when (refl : ∀ s, R s s) {c : Prop} [Decidable c] {p : Prog σ ε Unit}
    (hp : Keeps R p) : Keeps R (when c p) :=
  Keeps.ite hp (Keeps.pure refl ())

theorem Keeps.forM (refl : ∀ s, R s s) (trans : ∀ s t u, R s t → R t u → R s u)
    {f : β → Prog σ ε PUnit} (hf : ∀ b, Keeps R (f b)) (l : List β) : Keeps R (l.forM f) := by
  induction l with
  | nil => exact Keeps.pure refl _
  | cons b l ih => exact Keeps.bind trans (hf b) fun _ => ih

end Preorder

/-! ## What a program does when it returns a value -/

/-- Every state that `p` returns a value in is related to the state it started from. -/
def OkKeeps (R : σ → σ → Prop) (p : Prog σ ε α) : Prop :=
  ∀ s a t, p.run s = some (.ok a, t) → R s t

section Preorder

variable {R : σ → σ → Prop}

theorem Keeps.okKeeps {p : Prog σ ε α} (h : Keeps R p) : OkKeeps R p :=
  fun _ _ _ run => h.of_run run

theorem OkKeeps.bind (trans : ∀ s t u, R s t → R t u → R s u) {p : Prog σ ε α}
    {f : α → Prog σ ε β} (hp : OkKeeps R p) (hf : ∀ a, OkKeeps R (f a)) :
    OkKeeps R (p >>= f) := by
  intro s b t run
  rcases exists_of_run_bind run with ⟨a, u, hrun, hrest⟩ | ⟨e, -, hr⟩
  · exact trans _ _ _ (hp s a u hrun) (hf a u b t hrest)
  · cases hr

theorem OkKeeps.when (refl : ∀ s, R s s) {c : Prop} [Decidable c] {p : Prog σ ε Unit}
    (hp : OkKeeps R p) : OkKeeps R (when c p) := by
  unfold Prog.when
  split
  · exact hp
  · exact (Keeps.pure refl ()).okKeeps

/-- What every second part ends with. -/
theorem OkKeeps.bind_right {Q : σ → Prop} {p : Prog σ ε α} {f : α → Prog σ ε β}
    (hf : ∀ a, OkKeeps (fun _ t => Q t) (f a)) : OkKeeps (fun _ t => Q t) (p >>= f) := by
  intro s b t run
  rcases exists_of_run_bind run with ⟨a, u, -, hrest⟩ | ⟨e, -, hr⟩
  · exact hf a u b t hrest
  · cases hr

/-- What comes before an error does not count. -/
theorem OkKeeps.bind_throw (p : Prog σ ε α) (e : ε) :
    OkKeeps R (p >>= fun _ => (throw e : Prog σ ε β)) := by
  intro s b t run
  rcases exists_of_run_bind run with ⟨a, u, -, hrest⟩ | ⟨e', -, hr⟩
  · cases hrest
  · cases hr

end Preorder

end Prog

end VpnHub
