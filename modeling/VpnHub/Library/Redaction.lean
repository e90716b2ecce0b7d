import Mathlib.Data.List.Infix
import Mathlib.Data.List.TakeWhile

/-! # Redaction and texts with holes

Redaction replaces what follows the first occurrence of a pattern, up to a letter where it stops.
A text with holes is a list of letters and names; an assignment fills the holes. Redaction can run
on a text with holes as well, and the two results are compared. -/

namespace VpnHub.Redaction

variable {α β ν : Type*}

/-! ## First occurrences -/

/-- An occurrence of the pattern after these letters is the first one. -/
def First (pattern before : List α) : Prop :=
  ∀ u v, before ++ pattern = u ++ pattern ++ v → u = before

variable {pattern before s : List α}

theorem First.of_cons {c : α} (h : First pattern (c :: before)) : First pattern before := by
  intro u v heq
  have hcons : c :: before ++ pattern = c :: u ++ pattern ++ v := by simpa using heq
  exact (List.cons.inj (h (c :: u) v hcons)).2

theorem first_nil (pattern : List α) : First pattern [] := by
  intro u v heq
  have hlen := congrArg List.length heq
  simp only [List.length_append, List.length_nil] at hlen
  exact List.eq_nil_of_length_eq_zero (by omega)

theorem First.cons {c : α} (h : First pattern before)
    (hc : ¬ pattern <+: c :: (before ++ pattern)) : First pattern (c :: before) := by
  intro u v heq
  cases u with
  | nil => exact absurd ⟨v, heq.symm⟩ hc
  | cons d u =>
      obtain ⟨rfl, htail⟩ := List.cons.inj heq
      rw [h u v htail]

theorem exists_first (h : pattern <:+: s) :
    ∃ before after, s = before ++ pattern ++ after ∧ First pattern before := by
  induction s with
  | nil =>
      obtain rfl : pattern = [] := List.infix_nil.mp h
      exact ⟨[], [], rfl, first_nil []⟩
  | cons c s ih =>
      by_cases hpre : pattern <+: c :: s
      · obtain ⟨after, hafter⟩ := hpre
        exact ⟨[], after, hafter.symm, first_nil pattern⟩
      · obtain hpre' | hin := List.infix_cons_iff.mp h
        · exact absurd hpre' hpre
        · obtain ⟨before, after, rfl, hfirst⟩ := ih hin
          refine ⟨c :: before, after, rfl, hfirst.cons fun hc => hpre (hc.trans ?_)⟩
          exact List.prefix_append (c :: (before ++ pattern)) after

/-- Before a first occurrence there is none. -/
theorem First.not_infix (h : First pattern before) (hne : pattern ≠ []) :
    ¬ pattern <:+: before := by
  rintro ⟨u, v, heq⟩
  have hu := h u (v ++ pattern) (by rw [← heq, List.append_assoc])
  have hlen := congrArg List.length heq
  have hpos := List.length_pos_of_ne_nil hne
  rw [hu] at hlen
  simp only [List.length_append] at hlen
  omega

/-- A first occurrence is not after any other. -/
theorem First.length_le (h : First pattern before) {after u v : List α}
    (heq : before ++ pattern ++ after = u ++ pattern ++ v) : before.length ≤ u.length := by
  by_contra hlt
  have hpre : u ++ pattern <+: before ++ pattern := by
    apply List.prefix_of_prefix_length_le ⟨v, heq.symm⟩ (List.prefix_append _ after)
    simp only [List.length_append]
    omega
  obtain ⟨w, hw⟩ := hpre
  rw [h u w hw.symm] at hlt
  exact hlt le_rfl

/-- A letter that a beginning lacks stands behind it. -/
theorem behind_of_notMem {c : α} {s t u v : List α} (hc : c ∉ s) (h : s ++ t = u ++ c :: v) :
    ∃ w, u = s ++ w ∧ t = w ++ c :: v := by
  obtain ⟨w, rfl, htail⟩ | ⟨w, rfl, htail⟩ := List.append_eq_append_iff.mp h
  · exact ⟨w, rfl, htail⟩
  · cases w with
    | nil => exact ⟨[], by rw [List.append_nil, List.append_nil], htail.symm⟩
    | cons d w =>
        obtain ⟨rfl, -⟩ := List.cons.inj htail
        exact absurd (List.mem_append_right u List.mem_cons_self) hc

/-- An end of a text that lacks a letter lies after the letter. -/
theorem suffix_of_notMem {p m n : List α} {c : α} (h : p <:+ m ++ c :: n) (hc : c ∉ p) :
    p <:+ n := by
  have hn : n <:+ m ++ c :: n := ⟨m ++ [c], by simp⟩
  obtain hpn | ⟨w, rfl⟩ := List.suffix_or_suffix_of_suffix h hn
  · exact hpn
  · cases w using List.reverseRecOn with
    | nil => exact List.suffix_rfl
    | append_singleton w d =>
        have hcn : c :: n <:+ m ++ c :: n := List.suffix_append m (c :: n)
        have hdn : d :: n <:+ m ++ c :: n := by
          refine List.IsSuffix.trans ⟨w, ?_⟩ h
          simp
        have heq := (List.suffix_of_suffix_length_le hcn hdn le_rfl).eq_of_length rfl
        obtain ⟨rfl, -⟩ := List.cons.inj heq
        simp at hc

/-! ## Redaction -/

section Redact

variable [DecidableEq α] [DecidableEq β]

/-- The position of the first occurrence. -/
def find : List α → List α → Option ℕ
  | [], pattern => if pattern = [] then some 0 else none
  | c :: s, pattern => if pattern <+: c :: s then some 0 else (find s pattern).map (· + 1)

/-- Puts the replacement between the first occurrence of the pattern and the next letter to stop
at, or the end. -/
def redact (pattern : List α) (stop : α) (replacement s : List α) : List α :=
  match find s pattern with
  | none => s
  | some pos =>
    let start := pos + pattern.length
    let len := (find (s.drop start) [stop]).getD (s.length - start)
    s.take start ++ replacement ++ s.drop (start + len)

theorem find_eq_none (h : ¬ pattern <:+: s) : find s pattern = none := by
  induction s with
  | nil =>
      have hne : pattern ≠ [] := by
        rintro rfl
        exact h List.infix_rfl
      rw [find, if_neg hne]
  | cons c s ih =>
      have htail : ¬ pattern <:+: s := fun hin => h (List.infix_cons_iff.mpr (.inr hin))
      rw [find, if_neg fun hpre => h hpre.isInfix, ih htail]
      rfl

theorem find_eq_zero (h : pattern <+: s) : find s pattern = some 0 := by
  cases s with
  | nil => rw [find, if_pos (List.prefix_nil.mp h)]
  | cons c s => rw [find, if_pos h]

theorem find_first (h : First pattern before) (after : List α) :
    find (before ++ pattern ++ after) pattern = some before.length := by
  induction before with
  | nil => exact find_eq_zero ⟨after, rfl⟩
  | cons c before ih =>
      have hpre : ¬ pattern <+: c :: (before ++ pattern ++ after) := by
        intro hpre
        obtain ⟨v, hv⟩ : pattern <+: c :: before ++ pattern := by
          apply List.prefix_of_prefix_length_le hpre (List.prefix_append (c :: before ++ pattern) _)
          rw [List.length_append]
          omega
        exact absurd (h [] v hv.symm) (List.cons_ne_nil c before).symm
      rw [List.cons_append, List.cons_append, find, if_neg hpre, ih h.of_cons]
      rfl

theorem redact_eq_self (h : ¬ pattern <:+: s) (stop : α) (replacement : List α) :
    redact pattern stop replacement s = s := by
  rw [redact, find_eq_none h]

/-- The letters from the one to stop at. -/
theorem drop_find (s : List α) (stop : α) :
    s.drop ((find s [stop]).getD s.length) = s.dropWhile (· ≠ stop) := by
  induction s with
  | nil => rfl
  | cons c s ih =>
      by_cases hc : c = stop
      · subst hc
        have hpre : [c] <+: c :: s := ⟨s, rfl⟩
        rw [find_eq_zero hpre, List.dropWhile_cons_of_neg (by simp)]
        rfl
      · have hpre : ¬ [stop] <+: c :: s := fun hpre =>
          hc (List.cons_prefix_cons.mp hpre).1.symm
        rw [find, if_neg hpre, List.dropWhile_cons_of_pos (by simpa using hc), ← ih]
        cases find s [stop] with
        | none => rfl
        | some k => rfl

theorem redact_first (h : First pattern before) (stop : α) (replacement after : List α) :
    redact pattern stop replacement (before ++ pattern ++ after) =
      before ++ pattern ++ (replacement ++ after.dropWhile (· ≠ stop)) := by
  have hstart : before.length + pattern.length = (before ++ pattern).length := by
    rw [List.length_append]
  have hlen : (before ++ pattern ++ after).length - (before ++ pattern).length =
      after.length := by
    rw [List.length_append, Nat.add_sub_cancel_left]
  rw [redact, find_first h after]
  simp only [hstart, hlen, List.take_left, List.drop_left, ← List.drop_drop]
  rw [drop_find, List.append_assoc (before ++ pattern)]

/-- Redaction leaves a beginning alone in which no occurrence begins. -/
theorem redact_append {front : List α}
    (h : ∀ u v, front ++ s = u ++ pattern ++ v → front <+: u) (stop : α)
    (replacement : List α) :
    redact pattern stop replacement (front ++ s) = front ++ redact pattern stop replacement s := by
  by_cases hin : pattern <:+: s
  · obtain ⟨before, after, rfl, hfirst⟩ := exists_first hin
    have hfirst' : First pattern (front ++ before) := by
      intro u v heq
      have hwhole : front ++ (before ++ pattern ++ after) = u ++ pattern ++ (v ++ after) := by
        rw [← List.append_assoc _ v, ← heq]
        simp only [List.append_assoc]
      obtain ⟨w, rfl⟩ := h u _ hwhole
      rw [hfirst w v (by simpa using heq)]
    have hassoc : front ++ (before ++ pattern ++ after) =
        front ++ before ++ pattern ++ after := by simp only [List.append_assoc]
    rw [hassoc, redact_first hfirst', redact_first hfirst]
    simp only [List.append_assoc]
  · have hin' : ¬ pattern <:+: front ++ s := by
      rintro ⟨u, v, heq⟩
      obtain ⟨w, rfl⟩ := h u v heq.symm
      exact hin ⟨w, v, by simpa using heq⟩
    rw [redact_eq_self hin, redact_eq_self hin']

/-- Redaction leaves alone what begins with the letter to stop at, behind an occurrence. -/
theorem suffix_redact (h : pattern <:+: s) (stop : α) (replacement t : List α) :
    stop :: t <:+ redact pattern stop replacement (s ++ stop :: t) := by
  obtain ⟨before, after, rfl, hfirst⟩ := exists_first h
  have hdrop : stop :: t <:+ (after ++ stop :: t).dropWhile (· ≠ stop) := by
    clear h
    induction after with
    | nil => simp
    | cons c after ih =>
        by_cases hc : c = stop
        · subst hc
          rw [List.cons_append, List.dropWhile_cons_of_neg (by simp)]
          exact List.suffix_append (c :: after) (c :: t)
        · rw [List.cons_append, List.dropWhile_cons_of_pos (by simpa using hc)]
          exact ih
  rw [List.append_assoc, redact_first hfirst, ← List.append_assoc]
  exact hdrop.trans (List.suffix_append _ _)

/-- What comes right behind these letters is replaced. -/
def Replaced (pattern : List α) (stop : α) (before : List α) : Prop :=
  ∃ a b, before = a ++ pattern ++ b ∧ First pattern a ∧ stop ∉ b

omit [DecidableEq α] in
theorem Replaced.infix {stop : α} (h : Replaced pattern stop before) : pattern <:+: before := by
  obtain ⟨a, b, rfl, -⟩ := h
  exact ⟨a, b, rfl⟩

omit [DecidableEq α] in
/-- A letter that the pattern lacks stands before or behind an occurrence. -/
theorem append_cons_eq_cases {c : α} (hc : c ∉ pattern) {m n a b : List α}
    (h : a ++ pattern ++ b = m ++ c :: n) :
    (∃ w, a = m ++ c :: w ∧ n = w ++ pattern ++ b) ∨
      ∃ w, m = a ++ pattern ++ w ∧ b = w ++ c :: n := by
  rw [List.append_assoc] at h
  obtain ⟨w, rfl, htail⟩ | ⟨w, rfl, htail⟩ := List.append_eq_append_iff.mp h
  · obtain ⟨w', rfl, hb⟩ | ⟨w', hp, hn⟩ := List.append_eq_append_iff.mp htail
    · exact .inr ⟨w', by rw [List.append_assoc], hb⟩
    · cases w' with
      | nil =>
          rw [List.append_nil] at hp
          exact .inr ⟨[], by rw [hp, List.append_nil], hn.symm⟩
      | cons d w' =>
          obtain ⟨rfl, -⟩ := List.cons.inj hn
          exact absurd (hp ▸ List.mem_append_right w List.mem_cons_self) hc
  · cases w with
    | nil =>
        cases pattern with
        | nil => exact .inr ⟨[], by simp, htail.symm⟩
        | cons d p =>
            obtain ⟨rfl, -⟩ := List.cons.inj htail
            exact absurd List.mem_cons_self hc
    | cons d w =>
        obtain ⟨rfl, rfl⟩ := List.cons.inj htail
        exact .inl ⟨w, rfl, (List.append_assoc _ _ _).symm⟩

theorem eq_of_dropWhile {stop c : α} {t : List α} (h : s.dropWhile (· ≠ stop) = c :: t) :
    c = stop := by
  have hhead := List.head?_dropWhile_not (fun d => decide (d ≠ stop)) s
  rw [h] at hhead
  simpa using hhead

/-- A letter that is not replaced is kept. -/
theorem redact_kept {stop c : α} (hne : pattern ≠ []) (hc : c ∉ pattern) {replacement m : List α}
    (h : ¬ Replaced pattern stop m) (n : List α) :
    ∃ n', redact pattern stop replacement (m ++ c :: n) =
      redact pattern stop replacement m ++ c :: n' := by
  by_cases hin : pattern <:+: m ++ c :: n
  · obtain ⟨a, b, heq, hfirst⟩ := exists_first hin
    rw [heq, redact_first hfirst]
    obtain ⟨w, rfl, -⟩ | ⟨w, rfl, rfl⟩ := append_cons_eq_cases hc heq.symm
    · have hm : ¬ pattern <:+: m := fun hm =>
        hfirst.not_infix hne (hm.trans (List.prefix_append m _).isInfix)
      rw [redact_eq_self hm]
      exact ⟨w ++ pattern ++ (replacement ++ b.dropWhile (· ≠ stop)), by simp⟩
    · have hstop : stop ∈ w := by
        by_contra hw
        exact h ⟨a, w, rfl, hfirst, hw⟩
      have hdrop : (w.dropWhile (· ≠ stop)).isEmpty = false := by
        rw [List.isEmpty_eq_false_iff]
        intro hnil
        exact absurd (List.dropWhile_eq_nil_iff.mp hnil stop hstop) (by simp)
      rw [redact_first hfirst, List.dropWhile_append, hdrop]
      exact ⟨n, by simp⟩
  · have hm : ¬ pattern <:+: m := fun hm => hin (hm.trans (List.prefix_append m _).isInfix)
    rw [redact_eq_self hin, redact_eq_self hm]
    exact ⟨n, rfl⟩

/-- A letter in the result that neither pattern nor replacement has was not replaced. -/
theorem exists_of_redact {stop c : α} (hne : pattern ≠ []) (hc : c ∉ pattern) (hstop : c ≠ stop)
    {replacement : List α} (hr : c ∉ replacement) {u v : List α}
    (h : redact pattern stop replacement s = u ++ c :: v) :
    ∃ m n, s = m ++ c :: n ∧ ¬ Replaced pattern stop m ∧
      u = redact pattern stop replacement m := by
  by_cases hin : pattern <:+: s
  · obtain ⟨a, b, rfl, hfirst⟩ := exists_first hin
    rw [redact_first hfirst] at h
    obtain ⟨w, rfl, -⟩ | ⟨w, rfl, hw⟩ := append_cons_eq_cases hc h
    · have hm : ¬ pattern <:+: u := fun hm =>
        hfirst.not_infix hne (hm.trans (List.prefix_append u _).isInfix)
      exact ⟨u, w ++ pattern ++ b, by simp, fun hrep => hm hrep.infix,
        (redact_eq_self hm stop replacement).symm⟩
    · obtain ⟨w', hnil, -⟩ | ⟨d, rfl, hd⟩ := @append_cons_eq_cases _ _ _ hr _ _ [] _ hw
      · exact absurd (congrArg List.length hnil) (by simp)
      · cases d with
        | nil => exact absurd (eq_of_dropWhile hd) hstop
        | cons e d =>
            obtain rfl := eq_of_dropWhile hd
            have hskip : ∀ x ∈ b.takeWhile (· ≠ e), decide (x ≠ e) = true := by
              intro x hx
              simpa using List.mem_takeWhile_imp hx
            have hb : b = b.takeWhile (· ≠ e) ++ e :: (d ++ c :: v) := by
              conv_lhs => rw [← @List.takeWhile_append_dropWhile _ (· ≠ e) b, hd]
              rfl
            refine ⟨a ++ pattern ++ (b.takeWhile (· ≠ e) ++ e :: d), v, ?_, ?_, ?_⟩
            · conv_lhs => rw [hb]
              simp
            · rintro ⟨a', b', heq, hfirst', hb'⟩
              have hle := hfirst.length_le heq
              have hle' := hfirst'.length_le heq.symm
              rw [List.append_assoc, List.append_assoc] at heq
              obtain ⟨rfl, htail⟩ := List.append_inj heq (hle.antisymm hle')
              rw [← List.append_cancel_left htail] at hb'
              simp at hb'
            · rw [redact_first hfirst, List.dropWhile_append_of_pos hskip,
                List.dropWhile_cons_of_neg (by simp)]
              simp
  · rw [redact_eq_self hin] at h
    have hm : ¬ pattern <:+: u := fun hm =>
      hin (h ▸ hm.trans (List.prefix_append u _).isInfix)
    exact ⟨u, v, h, fun hrep => hm hrep.infix, (redact_eq_self hm stop replacement).symm⟩

/-- Redaction commutes with a renaming of letters that keeps the letters of the pattern and the
letter to stop at apart from all others. -/
theorem redact_map {f : α → β} {stop : α} (h : ∀ c ∈ stop :: pattern, ∀ d, f d = f c → d = c)
    (replacement : List α) (s : List α) :
    redact (pattern.map f) (f stop) (replacement.map f) (s.map f) =
      (redact pattern stop replacement s).map f := by
  have hback : ∀ p q : List α, (∀ c ∈ q, c ∈ pattern) → p.map f = q.map f → p = q := by
    intro p q
    induction q generalizing p with
    | nil =>
        intro _ heq
        exact List.map_eq_nil_iff.mp heq
    | cons c q ih =>
        intro hq heq
        obtain ⟨d, p, rfl, hd, htail⟩ := List.map_eq_cons_iff.mp heq
        rw [h c (List.mem_cons_of_mem _ (hq c List.mem_cons_self)) d hd,
          ih p (fun x hx => hq x (List.mem_cons_of_mem _ hx)) htail]
  have hsplit : ∀ t u v, t.map f = u ++ pattern.map f ++ v →
      ∃ u' v', t = u' ++ pattern ++ v' ∧ u'.map f = u ∧ v'.map f = v := by
    intro t u v heq
    obtain ⟨w, v', rfl, hw, hv⟩ := List.map_eq_append_iff.mp heq
    obtain ⟨u', p, rfl, hu, hp⟩ := List.map_eq_append_iff.mp hw
    rw [hback p pattern (fun _ hc => hc) hp]
    exact ⟨u', v', rfl, hu, hv⟩
  by_cases hin : pattern <:+: s
  · obtain ⟨before, after, rfl, hfirst⟩ := exists_first hin
    have hfirst' : First (pattern.map f) (before.map f) := by
      intro u v heq
      rw [← List.map_append] at heq
      obtain ⟨u', v', heq', rfl, rfl⟩ := hsplit _ u v heq
      rw [hfirst u' v' heq']
    have hdrop : (after.map f).dropWhile (· ≠ f stop) = (after.dropWhile (· ≠ stop)).map f := by
      rw [List.dropWhile_map]
      congr 2
      funext d
      have hiff : f d = f stop ↔ d = stop :=
        ⟨h stop List.mem_cons_self d, congrArg f⟩
      simp [hiff]
    rw [redact_first hfirst, List.map_append, List.map_append, redact_first hfirst', hdrop]
    simp only [List.map_append]
  · have hin' : ¬ pattern.map f <:+: s.map f := by
      rintro ⟨u, v, heq⟩
      obtain ⟨u', v', rfl, -, -⟩ := hsplit s u v heq.symm
      exact hin ⟨u', v', rfl⟩
    rw [redact_eq_self hin, redact_eq_self hin']

end Redact

/-! ## Texts with holes -/

/-- The text that an assignment makes of a text with holes. -/
def fill (σ : ν → List α) (m : List (α ⊕ ν)) : List α := m.flatMap (Sum.elim ([·]) σ)

/-- Letters without holes. -/
def letters (s : List α) : List (α ⊕ ν) := s.map .inl

variable {σ : ν → List α}

@[simp] theorem fill_nil : fill σ ([] : List (α ⊕ ν)) = [] := rfl

@[simp] theorem fill_append (m n : List (α ⊕ ν)) : fill σ (m ++ n) = fill σ m ++ fill σ n :=
  List.flatMap_append

@[simp] theorem fill_letter (c : α) (m : List (α ⊕ ν)) : fill σ (.inl c :: m) = c :: fill σ m :=
  rfl

@[simp] theorem fill_hole (x : ν) (m : List (α ⊕ ν)) : fill σ (.inr x :: m) = σ x ++ fill σ m :=
  rfl

@[simp] theorem fill_letters (s : List α) : fill σ (letters s : List (α ⊕ ν)) = s := by
  induction s with
  | nil => rfl
  | cons c s ih => exact congrArg (c :: ·) ih

/-- One letter in each hole. -/
theorem fill_single (c : α) (m : List (α ⊕ ν)) :
    fill (fun _ => [c]) m = m.map (Sum.elim id fun _ => c) := by
  induction m with
  | nil => rfl
  | cons mark m ih =>
      cases mark with
      | inl d => exact congrArg (d :: ·) ih
      | inr x => exact congrArg (c :: ·) ih

/-- Where a text that fills holes is cut: between two marks, or inside of what fills a hole. -/
theorem fill_eq_append {m : List (α ⊕ ν)} {u v : List α} (h : fill σ m = u ++ v) :
    (∃ m₁ m₂, m = m₁ ++ m₂ ∧ fill σ m₁ = u ∧ fill σ m₂ = v) ∨
      ∃ m₁ x m₂ y z, m = m₁ ++ .inr x :: m₂ ∧ σ x = y ++ z ∧ z ≠ [] ∧ u = fill σ m₁ ++ y ∧
        v = z ++ fill σ m₂ := by
  induction m generalizing u with
  | nil =>
      obtain ⟨rfl, rfl⟩ := List.append_eq_nil_iff.mp h.symm
      exact .inl ⟨[], [], rfl, rfl, rfl⟩
  | cons mark m ih =>
      cases u with
      | nil => exact .inl ⟨[], mark :: m, rfl, rfl, h⟩
      | cons d u =>
          cases mark with
          | inl c =>
              obtain ⟨rfl, htail⟩ := List.cons.inj h
              obtain ⟨m₁, m₂, rfl, rfl, hv⟩ | ⟨m₁, x, m₂, y, z, rfl, hx, hz, rfl, hv⟩ := ih htail
              · exact .inl ⟨.inl c :: m₁, m₂, rfl, rfl, hv⟩
              · exact .inr ⟨.inl c :: m₁, x, m₂, y, z, rfl, hx, hz, rfl, hv⟩
          | inr x =>
              rw [fill_hole] at h
              obtain ⟨w, hu, hrest⟩ | ⟨z, hx, hv⟩ := List.append_eq_append_iff.mp h
              · obtain ⟨m₁, m₂, rfl, rfl, hv⟩ | ⟨m₁, x', m₂, y, z, rfl, hx, hz, rfl, hv⟩ := ih hrest
                · exact .inl ⟨.inr x :: m₁, m₂, rfl, hu.symm, hv⟩
                · refine .inr ⟨.inr x :: m₁, x', m₂, y, z, rfl, hx, hz, ?_, hv⟩
                  rw [hu, fill_hole, List.append_assoc]
              · by_cases hz : z = []
                · subst hz
                  refine .inl ⟨[.inr x], m, rfl, ?_, hv.symm⟩
                  rw [fill_hole, fill_nil, hx, List.append_nil, List.append_nil]
                · exact .inr ⟨[], x, m, d :: u, z, rfl, hx, hz, rfl, hv⟩

/-- Letters at the beginning of a text that fills holes: they are letters of the text with holes,
or a hole comes before they end. -/
theorem fill_eq_letters_append {m : List (α ⊕ ν)} {p v : List α} (h : fill σ m = p ++ v) :
    (∃ m', m = letters p ++ m' ∧ fill σ m' = v) ∨
      ∃ q x m', m = letters q ++ .inr x :: m' ∧ q <+: p ∧ q ≠ p := by
  induction p generalizing m with
  | nil => exact .inl ⟨m, rfl, h⟩
  | cons d p ih =>
      cases m with
      | nil => cases h
      | cons mark m =>
          cases mark with
          | inr x => exact .inr ⟨[], x, m, rfl, List.nil_prefix, (List.cons_ne_nil d p).symm⟩
          | inl c =>
              obtain ⟨rfl, htail⟩ := List.cons.inj h
              obtain ⟨m', rfl, hv⟩ | ⟨q, x, m', rfl, hpre, hne⟩ := ih htail
              · exact .inl ⟨m', rfl, hv⟩
              · refine .inr ⟨c :: q, x, m', rfl, List.cons_prefix_cons.mpr ⟨rfl, hpre⟩, ?_⟩
                exact fun heq => hne (List.cons.inj heq).2

/-- A text without holes does not depend on the assignment. -/
def Closed (m : List (α ⊕ ν)) : Prop := ∀ x, .inr x ∉ m

theorem Closed.fill_eq {m : List (α ⊕ ν)} (h : Closed m) (σ' : ν → List α) :
    fill σ m = fill σ' m := by
  apply List.flatMap_congr
  intro mark hin
  cases mark with
  | inl c => rfl
  | inr x => exact absurd hin (h x)

theorem Closed.append {m n : List (α ⊕ ν)} (h : Closed (m ++ n)) : Closed m ∧ Closed n :=
  ⟨fun x hin => h x (List.mem_append_left n hin), fun x hin => h x (List.mem_append_right m hin)⟩

/-- Texts without holes are made of letters. -/
theorem Closed.exists_letters {m : List (α ⊕ ν)} (h : Closed m) : ∃ s, m = letters s := by
  induction m with
  | nil => exact ⟨[], rfl⟩
  | cons mark m ih =>
      cases mark with
      | inr x => exact absurd List.mem_cons_self (h x)
      | inl c =>
          obtain ⟨s, rfl⟩ := ih fun x hin => h x (List.mem_cons_of_mem _ hin)
          exact ⟨c :: s, rfl⟩

theorem letters_append (s t : List α) :
    (letters (s ++ t) : List (α ⊕ ν)) = letters s ++ letters t := List.map_append

theorem letters_injective {s t : List α} (h : (letters s : List (α ⊕ ν)) = letters t) : s = t :=
  List.map_injective_iff.mpr (fun _ _ hc => Sum.inl.inj hc) h

theorem mem_letters {s : List α} {c : α} : (.inl c : α ⊕ ν) ∈ letters s ↔ c ∈ s := by
  simp [letters]

theorem hole_notMem_letters (s : List α) (x : ν) : .inr x ∉ letters s := by
  simp [letters]

theorem map_letters {f : α ⊕ ν → β} (s : List α) :
    (letters s).map f = s.map fun c => f (.inl c) := List.map_map

theorem first_letters (h : First (letters pattern : List (α ⊕ ν)) (letters before)) :
    First pattern before := by
  intro u v heq
  apply letters_injective
  apply h (letters u) (letters v)
  rw [← letters_append, ← letters_append, ← letters_append, heq]

/-- Where a pattern occurs in a text with a hole, and not before the hole, it occurs behind it. -/
theorem behind_hole {p : List α} {m n u v : List (α ⊕ ν)} {x : ν} (hp : p ≠ [])
    (hm : ¬ letters p <:+: m) (h : m ++ .inr x :: n = u ++ (letters p ++ v)) :
    ∃ w, u = m ++ .inr x :: w ∧ n = w ++ (letters p ++ v) := by
  obtain ⟨w, rfl, htail⟩ | ⟨w, rfl, htail⟩ := List.append_eq_append_iff.mp h
  · cases w with
    | nil =>
        cases p with
        | nil => exact absurd rfl hp
        | cons c p => cases htail
    | cons mark w =>
        obtain ⟨rfl, rfl⟩ := List.cons.inj htail
        exact ⟨w, rfl, rfl⟩
  · obtain ⟨w', rfl, -⟩ | ⟨w', hw, htail⟩ := List.append_eq_append_iff.mp htail
    · exact absurd ⟨u, w', by simp⟩ hm
    · cases w' with
      | nil =>
          rw [List.append_nil] at hw
          exact absurd ⟨u, [], by simp [hw]⟩ hm
      | cons mark w' =>
          obtain ⟨rfl, -⟩ := List.cons.inj htail
          have hin : .inr x ∈ letters p := by
            rw [hw]
            exact List.mem_append_right w List.mem_cons_self
          exact absurd hin (hole_notMem_letters p x)

theorem hole_behind_letters {t : List α} {n u v : List (α ⊕ ν)} {x : ν}
    (h : letters t ++ n = u ++ .inr x :: v) :
    ∃ w, u = letters t ++ w ∧ n = w ++ .inr x :: v :=
  behind_of_notMem (hole_notMem_letters t x) h

/-- Letters without the first one of a pattern come before each occurrence of it. -/
theorem behind_letters {c : α} {p t : List α} {n u v : List (α ⊕ ν)} (hc : c ∉ t)
    (h : letters t ++ n = u ++ (letters (c :: p) ++ v)) :
    ∃ w, u = letters t ++ w ∧ n = w ++ (letters (c :: p) ++ v) :=
  behind_of_notMem (fun hin => hc (mem_letters.mp hin)) h

/-- Skipping up to a letter commutes with filling holes when no skipped hole has the letter. -/
theorem fill_dropWhile [DecidableEq α] [DecidableEq ν] {stop : α} {m : List (α ⊕ ν)}
    (h : ∀ x, .inr x ∈ m.takeWhile (· ≠ .inl stop) → stop ∉ σ x) :
    fill σ (m.dropWhile (· ≠ .inl stop)) = (fill σ m).dropWhile (· ≠ stop) := by
  induction m with
  | nil => rfl
  | cons mark m ih =>
      by_cases hmark : mark = .inl stop
      · subst hmark
        rw [List.dropWhile_cons_of_neg (by simp), fill_letter,
          List.dropWhile_cons_of_neg (by simp)]
      · rw [List.takeWhile_cons_of_pos (by simpa using hmark)] at h
        have ih := ih fun x hin => h x (List.mem_cons_of_mem _ hin)
        rw [List.dropWhile_cons_of_pos (by simpa using hmark), ih]
        cases mark with
        | inl c =>
            have hc : c ≠ stop := fun hc => hmark (congrArg _ hc)
            rw [fill_letter, List.dropWhile_cons_of_pos (by simpa using hc)]
        | inr x =>
            have hx := h x List.mem_cons_self
            have hall : ∀ c ∈ σ x, decide (c ≠ stop) = true := by
              intro c hin
              rw [decide_eq_true_iff]
              rintro rfl
              exact hx hin
            rw [fill_hole, List.dropWhile_append_of_pos hall]

/-- Two assignments that begin with different letters everywhere tell whether there is a hole. -/
theorem closed_of_fill_eq {σ' : ν → List α} {m : List (α ⊕ ν)} {c c' : α} (hc : c ≠ c')
    (hσ : ∀ x, ∃ s, σ x = c :: s) (hσ' : ∀ x, ∃ s, σ' x = c' :: s)
    (h : fill σ m = fill σ' m) : Closed m := by
  intro x
  induction m with
  | nil => exact List.not_mem_nil
  | cons mark m ih =>
      cases mark with
      | inl d =>
          have htail := ih (List.cons.inj h).2
          simpa using htail
      | inr y =>
          obtain ⟨s, hs⟩ := hσ y
          obtain ⟨s', hs'⟩ := hσ' y
          rw [fill_hole, fill_hole, hs, hs'] at h
          exact absurd (List.cons.inj h).1 hc

end VpnHub.Redaction
