import VpnHub.Model.LogTemplate

/-! When the log buffer hides the credentials of a line, and which lines it keeps. -/

namespace VpnHub.Daemon

open Redaction

/-! ## Slots and the words that announce them -/

/-- The words that announce the slot come right before it. -/
def Announced : Slot → Marked → Prop
  | .privateKey _, m => letters keyWords <:+ m
  | .password _, m =>
    letters passwordWords <:+ m ∨ letters (passwordWords ++ [' ']) <:+ m

def Guarded (m : Marked) : Prop :=
  ∀ before x after, m = before ++ .inr x :: after → Announced x before

theorem Announced.append {x : Slot} {m : Marked} (h : Announced x m) (n : Marked) :
    Announced x (n ++ m) := by
  have hm := List.suffix_append n m
  cases x with
  | privateKey => exact List.IsSuffix.trans h hm
  | password => exact h.imp (·.trans hm) (·.trans hm)

theorem Guarded.append {m n : Marked} (hm : Guarded m) (hn : Guarded n) : Guarded (m ++ n) := by
  intro before x after heq
  obtain ⟨w, rfl, htail⟩ | ⟨w, rfl, htail⟩ := List.append_eq_append_iff.mp heq
  · exact (hn w x after htail).append m
  · cases w with
    | nil => simpa using (hn [] x after htail.symm).append before
    | cons mark w =>
        obtain ⟨rfl, -⟩ := List.cons.inj htail
        exact hm before x w rfl

theorem guarded_of_announced {s : Text} {x : Slot} (h : Announced x (letters s)) :
    Guarded (letters s ++ [.inr x]) := by
  intro before y after heq
  obtain ⟨w, rfl, htail⟩ := hole_behind_letters heq
  cases w with
  | nil =>
      obtain ⟨hx, -⟩ := List.cons.inj htail
      cases hx
      rwa [List.append_nil]
  | cons mark w =>
      have hlen := congrArg List.length htail
      simp at hlen

theorem Piece.guarded (piece : Piece) : Guarded piece.marks := by
  cases piece with
  | text t =>
      intro before x after heq
      have hin : .inr x ∈ letters t := by
        rw [show letters t = _ from heq]
        exact List.mem_append_right _ List.mem_cons_self
      exact absurd hin (hole_notMem_letters t x)
  | privateKey name => exact guarded_of_announced List.suffix_rfl
  | password name space =>
      rw [Piece.marks, ← letters_append]
      apply guarded_of_announced
      cases space with
      | false => exact .inl List.suffix_rfl
      | true => exact .inr List.suffix_rfl

theorem Template.guarded (template : Template) : Guarded template.marks := by
  induction template with
  | nil =>
      intro before x after heq
      exact absurd heq (by simp [Template.marks])
  | cons piece template ih => exact piece.guarded.append ih

/-- In what begins with the rest of a pattern no slot is announced within the rest. -/
theorem notAnnounced_within {x : Slot} {m : Marked} {y : Slot} {n : ℕ} {q : Text}
    (hpre : q <+: keyWords.drop n) (hne : q ≠ keyWords.drop n) :
    ¬ Announced x (m ++ .inr y :: letters q) := by
  have hmem : ∀ c ∈ q, c ∈ keyWords := fun c hc => List.mem_of_mem_drop (hpre.subset hc)
  have hcolon : ':' ∉ q := fun hc => absurd (hmem _ hc) (by decide)
  have hsuffix : ∀ p : Text, letters p <:+ m ++ .inr y :: letters q → p <:+ q := by
    intro p hp
    obtain ⟨w, hw⟩ := suffix_of_notMem hp (hole_notMem_letters p y)
    obtain ⟨w', t, hq, hw', ht⟩ := List.map_eq_append_iff.mp hw.symm
    refine ⟨w', ?_⟩
    rw [hq, letters_injective ht]
  cases x with
  | privateKey =>
      intro h
      have hlen := (hsuffix _ h).length_le
      have hlt : q.length < (keyWords.drop n).length :=
        lt_of_le_of_ne hpre.length_le fun heq => hne (hpre.eq_of_length heq)
      rw [List.length_drop] at hlt
      omega
  | password =>
      rintro (h | h)
      · exact hcolon ((hsuffix _ h).subset (by decide))
      · exact hcolon ((hsuffix _ h).subset (by decide))

/-- Behind a slot the rest of the words for a private key is fixed text. -/
theorem letters_behind_slot {before after : Marked} {y : Slot} {σ : Slot → Text} {n : ℕ}
    {v : Text} (hg : Guarded (before ++ .inr y :: after))
    (h : fill σ after = keyWords.drop n ++ v) :
    ∃ m, after = letters (keyWords.drop n) ++ m ∧ fill σ m = v := by
  obtain hm | ⟨q, x, m, rfl, hpre, hne⟩ := fill_eq_letters_append h
  · exact hm
  · have hx := hg (before ++ .inr y :: letters q) x m (by simp)
    exact absurd hx (notAnnounced_within hpre hne)

/-! ## Occurrences of the words for a private key -/

theorem Secrets.newline_notMem (secrets : Secrets) (x : Slot) : '\n' ∉ secrets.secret x := by
  cases x with
  | privateKey name => exact secrets.privateKey_line name
  | password name =>
      intro hin
      exact absurd (secrets.password_word name _ hin) (by decide)

theorem Secrets.blank_notMem (secrets : Secrets) (name : ℕ) :
    ' ' ∉ secrets.secret (.password name) := by
  intro hin
  exact absurd (secrets.password_word name _ hin) (by decide)

/-- A word at the beginning of the words is a part of the first of them. -/
theorem eq_take_of_word {z t v : Text} (hz : ' ' ∉ z) (h : z ++ t = keyWords ++ v) :
    ∃ n ≤ 10, z = keyWords.take n ∧ t = keyWords.drop n ++ v := by
  have hshort : z.length ≤ 10 := by
    by_contra hlong
    have hpre : keyWords.take 11 <+: z := by
      have hwords : keyWords.take 11 <+: keyWords ++ v :=
        (List.take_prefix 11 keyWords).trans (List.prefix_append keyWords v)
      exact List.prefix_of_prefix_length_le hwords ⟨t, h⟩ (Nat.lt_of_not_le hlong)
    exact hz (hpre.subset (by decide))
  have hle : z.length ≤ keyWords.length := hshort.trans (by decide)
  refine ⟨z.length, hshort, ?_, ?_⟩
  · have htake := congrArg (List.take z.length) h
    rwa [List.take_left, List.take_append_of_le_length hle] at htake
  · have hdrop := congrArg (List.drop z.length) h
    rwa [List.drop_left, List.drop_append_of_le_length hle] at hdrop

/-- How the words come to stand in a line: as fixed text, completed by the password before
them, or somewhere behind an occurrence in fixed text. -/
inductive KeyOccurs (σ : Slot → Text) (m : Marked) (u v : Text) : Prop where
  | fixed {m₁ m₂} (hm : m = m₁ ++ letters keyWords ++ m₂) (hu : fill σ m₁ = u)
      (hv : fill σ m₂ = v)
  | completed {m₁ name n m₂ y} (h₁ : 1 ≤ n) (h₁₀ : n ≤ 10)
      (hm : m = m₁ ++ .inr (.password name) :: (letters (keyWords.drop n) ++ m₂))
      (hsecret : σ (.password name) = y ++ keyWords.take n) (hu : u = fill σ m₁ ++ y)
      (hv : fill σ m₂ = v)
  | behind {m₁ m₂} (hm : m = m₁ ++ letters keyWords ++ m₂)
      (hlt : (fill σ m₁).length < u.length)

theorem keyOccurs_of_password {m₁ m₂ : Marked} {name : ℕ} {secrets : Secrets} {y z v : Text}
    (hg : Guarded (m₁ ++ .inr (.password name) :: m₂))
    (hsecret : secrets.secret (.password name) = y ++ z)
    (h : z ++ fill secrets.secret m₂ = keyWords ++ v) :
    KeyOccurs secrets.secret (m₁ ++ .inr (.password name) :: m₂) (fill secrets.secret m₁ ++ y)
      v := by
  have hz : ' ' ∉ z := by
    intro hin
    exact secrets.blank_notMem name (hsecret ▸ List.mem_append_right y hin)
  obtain ⟨n, hn, rfl, hrest⟩ := eq_take_of_word hz h
  obtain ⟨m, rfl, hv⟩ := letters_behind_slot hg hrest
  cases n with
  | zero =>
      have hm : m₁ ++ .inr (.password name) :: (letters (keyWords.drop 0) ++ m) =
          m₁ ++ [.inr (.password name)] ++ letters keyWords ++ m := by simp
      refine .fixed hm ?_ hv
      rw [fill_append, fill_hole, fill_nil, hsecret, List.take_zero, List.append_nil,
        List.append_nil]
  | succ n => exact .completed (Nat.le_add_left 1 n) hn rfl hsecret rfl hv

theorem eq_concat_of_suffix {m : Marked} {p q : Text} {c : Char}
    (h : letters (p ++ [c]) <:+ m ++ letters q) (hq : q ≠ []) :
    ∃ q', q = q' ++ [c] ∧ letters p <:+ m ++ letters q' := by
  cases q using List.reverseRecOn with
  | nil => exact absurd rfl hq
  | append_singleton q d =>
      obtain ⟨w, hw⟩ := h
      rw [letters_append, letters_append, ← List.append_assoc, ← List.append_assoc] at hw
      obtain ⟨hinit, hlast⟩ := List.append_inj' hw rfl
      cases hlast
      exact ⟨q, rfl, w, hinit⟩

/-- The words for a password end with letters that cannot begin the words for a key. -/
theorem eq_nil_of_password {m : Marked} {name : ℕ} {q : Text} (hpre : q <+: keyWords)
    (h : Announced (.password name) (m ++ letters q)) : q = [] := by
  have hcolon : ∀ q', q' ++ [':'] <+: keyWords → False := by
    intro q' hq'
    have hin : ':' ∈ keyWords := hq'.subset (List.mem_append_right q' List.mem_cons_self)
    exact absurd hin (by decide)
  by_contra hq
  obtain h | h := h
  · obtain ⟨q', rfl, -⟩ := @eq_concat_of_suffix m "password".toList q ':' h hq
    exact hcolon q' hpre
  · obtain ⟨q', rfl, h'⟩ := eq_concat_of_suffix h hq
    by_cases hq' : q' = []
    · subst hq'
      exact absurd hpre (by decide)
    · obtain ⟨q'', rfl, -⟩ := @eq_concat_of_suffix m "password".toList q' ':' h' hq'
      exact hcolon q'' ((List.prefix_append _ _).trans hpre)

theorem length_fill_append_letters {σ : Slot → Text} {m : Marked} {s : Text} :
    (fill σ (m ++ letters s)).length = (fill σ m).length + s.length := by
  rw [fill_append, fill_letters, List.length_append]

theorem keyOccurs {m : Marked} (hg : Guarded m) (secrets : Secrets) {u v : Text}
    (h : fill secrets.secret m = u ++ (keyWords ++ v)) : KeyOccurs secrets.secret m u v := by
  obtain ⟨m₁, m₂, rfl, rfl, hv⟩ | ⟨m₁, x, m₂, y, z, rfl, hx, hz, rfl, hv⟩ := fill_eq_append h
  · obtain ⟨m', rfl, hm'⟩ | ⟨q, x, m', rfl, hpre, hne⟩ := fill_eq_letters_append hv
    · exact .fixed (List.append_assoc _ _ _).symm rfl hm'
    · have hannounced := hg (m₁ ++ letters q) x m' (by simp)
      cases x with
      | privateKey name =>
          obtain ⟨m₀, heq⟩ : letters keyWords <:+ m₁ ++ letters q := hannounced
          have hlen := congrArg (fun m => (fill secrets.secret m).length) heq
          simp only [length_fill_append_letters] at hlen
          have hlt : q.length < keyWords.length :=
            lt_of_le_of_ne hpre.length_le fun hl => hne (hpre.eq_of_length hl)
          have hm : m₁ ++ (letters q ++ .inr (.privateKey name) :: m') =
              m₀ ++ letters keyWords ++ .inr (.privateKey name) :: m' := by
            rw [heq, List.append_assoc]
          exact .behind hm (by omega)
      | password name =>
          obtain rfl := eq_nil_of_password hpre hannounced
          have hoccurs := keyOccurs_of_password hg (List.nil_append _).symm hv
          rwa [List.append_nil] at hoccurs
  · cases x with
    | privateKey name =>
        obtain ⟨m₀, rfl⟩ : letters keyWords <:+ m₁ := hg m₁ _ m₂ rfl
        refine .behind rfl ?_
        rw [List.length_append, length_fill_append_letters]
        have hpos : 0 < keyWords.length := by decide
        omega
    | password name => exact keyOccurs_of_password hg hx hv.symm

/-! ## The redaction of the key -/

/-- Behind a slot that is followed by an end of the words for a key, these words occur only
after this end. -/
theorem front_prefix {before after u v : Marked} {x : Slot} {n : ℕ} (hn : 1 ≤ n)
    (hbefore : ¬ letters keyWords <:+: before)
    (h : before ++ .inr x :: letters (keyWords.drop n) ++ after =
      u ++ letters keyWords ++ v) :
    before ++ .inr x :: letters (keyWords.drop n) <+: u := by
  have hhead : 'P' ∉ keyWords.drop n := by
    intro hin
    have hsub : 'P' ∈ keyWords.drop 1 := by
      rw [show n = 1 + (n - 1) from by omega, ← List.drop_drop] at hin
      exact List.mem_of_mem_drop hin
    exact absurd hsub (by decide)
  rw [List.append_assoc, List.append_assoc] at h
  obtain ⟨w, rfl, htail⟩ := behind_hole (by decide) hbefore h
  obtain ⟨w', rfl, -⟩ := @behind_letters Char Slot 'P' "rivateKey = ".toList _ _ _ _ hhead htail
  exact ⟨w', by simp⟩

theorem redactKey_front {before after : Marked} {x : Slot} {n : ℕ} (hn : 1 ≤ n)
    (hbefore : ¬ letters keyWords <:+: before) :
    redactKey (before ++ .inr x :: (letters (keyWords.drop n) ++ after)) =
      before ++ .inr x :: (letters (keyWords.drop n) ++ redactKey after) := by
  have hshape : before ++ .inr x :: (letters (keyWords.drop n) ++ after) =
      before ++ .inr x :: letters (keyWords.drop n) ++ after := by simp
  rw [hshape, redactKey, redact_append fun u v => front_prefix hn hbefore, List.append_assoc]
  rfl

theorem fill_dropWhile_line (secrets : Secrets) (m : Marked) :
    fill secrets.secret (m.dropWhile (· ≠ .inl '\n')) =
      (fill secrets.secret m).dropWhile (· ≠ '\n') :=
  fill_dropWhile fun x _ => secrets.newline_notMem x

/-- A first occurrence in the line that is fixed text is the first one of the template. -/
theorem first_of_fill {σ : Slot → Text} {p : Text} {c : Char} {m : Marked}
    (h : First (p ++ [c]) (fill σ m)) : First (letters (p ++ [c])) m := by
  intro u v heq
  have hfill := congrArg (fill σ) heq
  simp only [fill_append, fill_letters] at hfill
  have hu := h (fill σ u) (fill σ v) hfill
  cases v using List.reverseRecOn with
  | nil =>
      rw [List.append_nil] at heq
      exact (List.append_cancel_right heq).symm
  | append_singleton v mark =>
      -- the last mark is a letter, so that the line would be longer than it is
      rw [letters_append, ← List.append_assoc, ← List.append_assoc] at heq
      obtain ⟨-, hlast⟩ := List.append_inj' heq rfl
      cases hlast
      have hlen := congrArg List.length hfill
      rw [hu, fill_append] at hlen
      simp at hlen

/-- The redaction of the key commutes with filling in the credentials. -/
theorem redactKey_fill {m : Marked} (hg : Guarded m) (hu : Untrapped m) (secrets : Secrets) :
    redact keyWords '\n' redactedKey (fill secrets.secret m) =
      fill secrets.secret (redactKey m) := by
  by_cases hin : keyWords <:+: fill secrets.secret m
  · obtain ⟨u, v, hline, hfirst⟩ := exists_first hin
    have hstored : redact keyWords '\n' redactedKey (fill secrets.secret m) =
        u ++ keyWords ++ (redactedKey ++ v.dropWhile (· ≠ '\n')) := by
      rw [hline, redact_first hfirst]
    rw [hstored]
    rw [List.append_assoc] at hline
    cases keyOccurs hg secrets hline with
    | @fixed m₁ m₂ hm hm₁ hm₂ =>
        subst hm₁ hm₂
        have hfirst' : First (letters keyWords) m₁ :=
          @first_of_fill secrets.secret "PrivateKey =".toList ' ' m₁ hfirst
        rw [hm, redactKey, redact_first hfirst']
        simp only [fill_append, fill_letters, fill_dropWhile_line]
    | @completed m₁ name n m₂ y h₁ h₁₀ hm hsecret hu' hv =>
        subst hu' hv
        have hbefore : ¬ letters keyWords <:+: m₁ := by
          rintro ⟨a, b, hab⟩
          apply hfirst.not_infix (by decide)
          refine ⟨fill secrets.secret a, fill secrets.secret b ++ y, ?_⟩
          rw [← hab]
          simp
        have hafter := hu m₁ name n m₂ h₁ h₁₀ hm hbefore
        rw [hm, redactKey_front h₁ hbefore, ← hafter, fill_append, fill_hole, fill_append,
          fill_letters, fill_append, fill_letters, fill_dropWhile_line, hsecret]
        have hwords := List.take_append_drop n keyWords
        simp only [List.append_assoc]
        rw [← List.append_assoc (keyWords.take n), hwords]
    | @behind m₁ m₂ hm hlt =>
        have heq : u ++ keyWords ++ v =
            fill secrets.secret m₁ ++ keyWords ++ fill secrets.secret m₂ := by
          rw [List.append_assoc, ← hline, hm]
          simp
        exact absurd (hfirst.length_le heq) (Nat.not_le_of_lt hlt)
  · have hin' : ¬ letters keyWords <:+: m := by
      rintro ⟨a, b, rfl⟩
      exact hin ⟨fill secrets.secret a, fill secrets.secret b, by simp⟩
    rw [redact_eq_self hin, redactKey, redact_eq_self hin']

/-! ## The redaction of the password -/

theorem redactPassword_fill_of_first {σ : Slot → Text} {a : Text} {b : Marked}
    (hfirst : First (letters passwordWords) (letters a : Marked))
    (hb : ∀ x, .inr x ∈ b.takeWhile (· ≠ .inl ' ') → ' ' ∉ σ x) :
    redact passwordWords ' ' redactedPassword (fill σ (letters a ++ letters passwordWords ++ b)) =
      fill σ (redactPassword (letters a ++ letters passwordWords ++ b)) := by
  rw [redactPassword, redact_first hfirst]
  simp only [fill_append, fill_letters]
  rw [redact_first (first_letters hfirst), fill_dropWhile hb]

/-- A private key comes right after a blank. -/
def Spaced (m : Marked) : Prop :=
  ∀ before name after, m = before ++ .inr (.privateKey name) :: after → [.inl ' '] <:+ before

theorem Guarded.spaced {m : Marked} (hg : Guarded m) : Spaced m := by
  intro before name after heq
  have hannounced : letters keyWords <:+ before := hg before _ after heq
  exact List.IsSuffix.trans ⟨letters "PrivateKey =".toList, rfl⟩ hannounced

theorem Spaced.redactKey {m : Marked} (hs : Spaced m) : Spaced (redactKey m) := by
  by_cases hin : letters keyWords <:+: m
  · obtain ⟨before, after, rfl, hfirst⟩ := exists_first hin
    rw [Daemon.redactKey, redact_first hfirst]
    intro front name rest heq
    obtain ⟨w, hw, -⟩ | ⟨w, rfl, htail⟩ := append_cons_eq_cases (hole_notMem_letters _ _) heq
    · refine hs front name (w ++ letters keyWords ++ after) ?_
      rw [hw]
      simp
    · obtain ⟨w, rfl, hhole⟩ := hole_behind_letters htail
      cases w with
      | nil => exact absurd (eq_of_dropWhile hhole) (by simp)
      | cons mark w =>
          obtain rfl := eq_of_dropWhile hhole
          -- the hole stands behind the same line break as before
          have hm : before ++ letters keyWords ++ after =
              before ++ letters keyWords ++ after.takeWhile (· ≠ .inl '\n') ++
                .inl '\n' :: w ++ .inr (.privateKey name) :: rest := by
            conv_lhs => rw [← @List.takeWhile_append_dropWhile _ (· ≠ .inl '\n') after, hhole]
            simp
          have hblank := suffix_of_notMem (hs _ name rest hm) (by simp)
          exact hblank.trans ⟨before ++ letters keyWords ++ (letters redactedKey ++ [.inl '\n']),
            by simp⟩
  · rwa [Daemon.redactKey, redact_eq_self hin]

theorem redactPassword_fill {m : Marked} (hs : Spaced m) (hc : Closed (redactPassword m))
    (secrets : Secrets) :
    redact passwordWords ' ' redactedPassword (fill secrets.secret m) =
      fill secrets.secret (redactPassword m) := by
  by_cases hin : letters passwordWords <:+: m
  · obtain ⟨before, after, rfl, hfirst⟩ := exists_first hin
    have hresult := hc
    rw [redactPassword, redact_first hfirst, List.append_assoc] at hresult
    obtain ⟨a, rfl⟩ := hresult.append.1.exists_letters
    apply redactPassword_fill_of_first hfirst
    intro x hx
    cases x with
    | password name => exact secrets.blank_notMem name
    | privateKey name =>
        obtain ⟨b, b', hb⟩ := List.append_of_mem hx
        have hm : letters a ++ letters passwordWords ++ after =
            letters a ++ letters passwordWords ++ b ++
              .inr (.privateKey name) :: (b' ++ after.dropWhile (· ≠ .inl ' ')) := by
          conv_lhs => rw [← @List.takeWhile_append_dropWhile _ (· ≠ .inl ' ') after, hb]
          simp
        have hsplit : letters a ++ letters passwordWords ++ b =
            letters a ++ letters "password".toList ++ .inl ':' :: b := by
          rw [List.append_assoc, List.append_assoc]
          rfl
        have hblank := hs _ name _ hm
        rw [hsplit] at hblank
        have hin : .inl ' ' ∈ after.takeWhile (· ≠ .inl ' ') := by
          rw [hb]
          apply List.mem_append_left
          exact (suffix_of_notMem hblank (by simp)).subset List.mem_cons_self
        exact absurd (List.mem_takeWhile_imp hin) (by simp)
  · rw [redactPassword, redact_eq_self hin] at hc ⊢
    obtain ⟨s, rfl⟩ := hc.exists_letters
    rw [fill_letters, redact_eq_self]
    rintro ⟨u, v, rfl⟩
    exact hin ⟨letters u, letters v, by rw [letters_append, letters_append]⟩

/-! ## What is stored -/

/-- Both redactions leave no slot exactly when the template is covered. -/
theorem covered_iff {m : Marked} : Covered m ↔ Closed (redactPassword (redactKey m)) := by
  have hkey (x : Slot) : .inr x ∉ (letters keyWords : Marked) := hole_notMem_letters _ x
  have hpassword (x : Slot) : .inr x ∉ (letters passwordWords : Marked) :=
    hole_notMem_letters _ x
  constructor
  · intro h x hin
    obtain ⟨u, v, hresult⟩ := List.append_of_mem hin
    obtain ⟨m₁, n₁, hm₁, hnot, -⟩ := exists_of_redact (by decide) (hpassword x) (by simp)
      (hole_notMem_letters _ x) hresult
    obtain ⟨m₂, n₂, hm₂, hnot', rfl⟩ := exists_of_redact (by decide) (hkey x) (by simp)
      (hole_notMem_letters _ x) hm₁
    exact (h m₂ x n₂ hm₂).elim hnot' hnot
  · intro h before x after hm
    by_contra hnot
    obtain ⟨hnot, hnot'⟩ := not_or.mp hnot
    obtain ⟨n₁, hn₁⟩ := @redact_kept _ _ _ _ _ (by decide) (hkey x) (letters redactedKey) _
      hnot after
    obtain ⟨n₂, hn₂⟩ := @redact_kept _ _ _ _ _ (by decide) (hpassword x)
      (letters redactedPassword) _ hnot' n₁
    rw [hm, redactKey, hn₁] at h
    apply h x
    rw [redactPassword]
    exact hn₂ ▸ List.mem_append_right _ List.mem_cons_self

/-- A covered template without traps leaves nothing of the credentials. -/
theorem sanitize_fill {m : Marked} (hg : Guarded m)
    (hc : Closed (redactPassword (redactKey m))) (hu : Untrapped m) (secrets : Secrets) :
    LogRingBuffer.sanitize (fill secrets.secret m) =
      fill secrets.secret (redactPassword (redactKey m)) := by
  rw [← redactPassword_fill hg.spaced.redactKey hc, ← redactKey_fill hg hu]
  rfl

theorem map_letters_id (c : Char) (s : Text) :
    (letters s : Marked).map (Sum.elim id fun _ => c) = s := by
  rw [map_letters]
  exact List.map_id s

/-- Credentials of one letter that no pattern has are letters as any other. -/
theorem sanitize_single {c : Char} (hkey : c ∉ '\n' :: keyWords)
    (hpassword : c ∉ ' ' :: passwordWords) (m : Marked) :
    LogRingBuffer.sanitize (fill (fun _ => [c]) m) =
      fill (fun _ => [c]) (redactPassword (redactKey m)) := by
  have hapart : ∀ {p : Text} {stop : Char}, c ∉ stop :: p →
      ∀ mark ∈ (.inl stop :: letters p : Marked), ∀ mark',
        Sum.elim id (fun _ => c) mark' = Sum.elim id (fun _ => c) mark → mark' = mark := by
    intro p stop hc mark hmark mark' heq
    obtain ⟨d, hd, rfl⟩ : ∃ d ∈ stop :: p, .inl d = mark := List.mem_map.mp hmark
    cases mark' with
    | inl d' => exact congrArg _ heq
    | inr x =>
        have hcd : c = d := heq
        exact absurd (hcd ▸ hd) hc
  have hfirst := redact_map (hapart hkey) (letters redactedKey) m
  have hsecond := redact_map (hapart hpassword) (letters redactedPassword) (redactKey m)
  rw [map_letters_id, map_letters_id] at hfirst hsecond
  rw [fill_single, fill_single, redactPassword, ← hsecond, redactKey, ← hfirst]
  rfl

/-! ## What a template gives away -/

/-- The same letter in all slots. -/
def constantSecrets (c : Char) (hc : Text.isWhitespace c = false) : Secrets where
  secret _ := [c]
  privateKey_line _ hin := by
    obtain rfl := List.mem_singleton.mp hin
    exact absurd hc (by decide)
  password_word _ d hd := by
    obtain rfl := List.mem_singleton.mp hd
    exact hc

/-- A password that ends with the beginning of the words for a key; the same letter in all other
slots and before these words. -/
def completingSecrets (c : Char) (hc : Text.isWhitespace c = false) (name n : ℕ) (hn : n ≤ 10) :
    Secrets where
  secret x := if x = .password name then c :: keyWords.take n else [c]
  privateKey_line name' hin := by
    rw [if_neg (by simp)] at hin
    obtain rfl := List.mem_singleton.mp hin
    exact absurd hc (by decide)
  password_word name' d hd := by
    have hwords : (keyWords.take 10).all (!Text.isWhitespace ·) = true := by decide
    split at hd
    · obtain rfl | hd := List.mem_cons.mp hd
      · exact hc
      · simpa using List.all_eq_true.mp hwords d ((List.take_subset_take_left _ hn) hd)
    · obtain rfl := List.mem_singleton.mp hd
      exact hc

theorem push_eq_iff {rb : LogRingBuffer} {line line' : Text} :
    rb.push line = rb.push line' ↔ LogRingBuffer.sanitize line = LogRingBuffer.sanitize line' := by
  simp [LogRingBuffer.push]

theorem Template.hidden_iff_sanitize {template : Template} :
    template.Hidden ↔ ∀ secrets secrets' : Secrets,
      LogRingBuffer.sanitize (template.line secrets) =
        LogRingBuffer.sanitize (template.line secrets') :=
  ⟨fun h secrets secrets' => push_eq_iff.mp (h secrets secrets' (.new 0)),
    fun h secrets secrets' _ => push_eq_iff.mpr (h secrets secrets')⟩

theorem closed_of_hidden {template : Template} (h : template.Hidden) :
    Closed (redactPassword (redactKey template.marks)) := by
  have heq := Template.hidden_iff_sanitize.mp h (constantSecrets 'x' (by decide))
    (constantSecrets 'z' (by decide))
  rw [Template.line, Template.line, constantSecrets, constantSecrets,
    sanitize_single (by decide) (by decide), sanitize_single (by decide) (by decide)] at heq
  have hne : 'x' ≠ 'z' := by decide
  exact closed_of_fill_eq hne (fun _ => ⟨[], rfl⟩) (fun _ => ⟨[], rfl⟩) heq

/-! ### A slot before the words for a key -/

section Trap

variable {before after : Marked} {name n : ℕ} {m : Marked}

theorem passwordWords_before (hg : Guarded (before ++ .inr (.password name) :: after)) :
    letters passwordWords <:+: before := by
  obtain h | h := hg before _ after rfl
  · exact h.isInfix
  · refine List.IsInfix.trans ?_ h.isInfix
    rw [letters_append]
    exact (List.prefix_append _ _).isInfix

/-- No blank stands between the words for a password and a covered slot. -/
theorem notAnnounced_blank (hn : 1 ≤ n) (hbefore : ¬ letters keyWords <:+: before)
    (hm : m = before ++ .inr (.password name) :: (letters (keyWords.drop n) ++ after))
    (hc : Closed (redactPassword (redactKey m))) {x y : Marked}
    (hxy : before = x ++ .inl ' ' :: y) :
    ¬ letters passwordWords <:+: x := by
  intro hin
  rw [hm, redactKey_front hn hbefore, hxy, List.append_assoc] at hc
  have hsuffix := suffix_redact hin (.inl ' ') (letters redactedPassword)
    (y ++ .inr (.password name) :: (letters (keyWords.drop n) ++ redactKey after))
  apply hc (.password name)
  apply hsuffix.subset
  simp

theorem keyWords_drop (hn : n ≤ 10) :
    keyWords.drop n = (keyWords.take 10).drop n ++ ' ' :: "= ".toList :=
  @List.drop_append_of_le_length _ (keyWords.take 10) _ n hn

section Completing

variable {c : Char} {hspace : Text.isWhitespace c = false} {h₁₀ : n ≤ 10}

theorem completing_eq_cons (x : Slot) :
    ∃ s, (completingSecrets c hspace name n h₁₀).secret x = c :: s := by
  by_cases hx : x = .password name
  · exact ⟨keyWords.take n, if_pos hx⟩
  · exact ⟨[], if_neg hx⟩

theorem completing_blank (x : Slot) :
    ' ' ∉ (completingSecrets c hspace name n h₁₀).secret x := by
  cases x with
  | password name' => exact (completingSecrets c hspace name n h₁₀).blank_notMem name'
  | privateKey name' =>
      intro hin
      obtain rfl := List.mem_singleton.mp hin
      exact absurd hspace (by decide)

theorem fill_completing (before after : Marked) :
    fill (completingSecrets c hspace name n h₁₀).secret
        (before ++ .inr (.password name) :: (letters (keyWords.drop n) ++ after)) =
      fill (completingSecrets c hspace name n h₁₀).secret before ++ [c] ++ keyWords ++
        fill (completingSecrets c hspace name n h₁₀).secret after := by
  have hsecret : (completingSecrets c hspace name n h₁₀).secret (.password name) =
      c :: keyWords.take n := if_pos rfl
  have hwords := List.take_append_drop n keyWords
  rw [fill_append, fill_hole, hsecret, fill_append, fill_letters]
  simp only [List.append_assoc, List.cons_append, List.nil_append]
  rw [← List.append_assoc (keyWords.take n), hwords]

end Completing

/-- The words that a password completes are the first ones of the line. -/
theorem first_completed (hg : Guarded m) (hc : Closed (redactPassword (redactKey m)))
    (h₁ : 1 ≤ n) (h₁₀ : n ≤ 10)
    (hm : m = before ++ .inr (.password name) :: (letters (keyWords.drop n) ++ after))
    (hbefore : ¬ letters keyWords <:+: before) {c : Char} (hspace : Text.isWhitespace c = false)
    (hletter : c ≠ 'P') :
    First keyWords (fill (completingSecrets c hspace name n h₁₀).secret before ++ [c]) := by
  set secrets := completingSecrets c hspace name n h₁₀ with hsecrets
  have hsecret : secrets.secret (.password name) = c :: keyWords.take n := if_pos rfl
  have hline : fill secrets.secret m =
      fill secrets.secret before ++ [c] ++ keyWords ++ fill secrets.secret after := by
    rw [hm]
    exact fill_completing before after
  have hin : keyWords <:+: fill secrets.secret m := ⟨_, _, hline.symm⟩
  obtain ⟨u, v, huv, hfirst⟩ := exists_first hin
  have hle := hfirst.length_le (huv.symm.trans hline)
  have hsame : (fill secrets.secret before ++ [c]).length ≤ u.length →
      First keyWords (fill secrets.secret before ++ [c]) := by
    intro hge
    have heq := huv.symm.trans hline
    rw [List.append_assoc, List.append_assoc] at heq
    rw [← (List.append_inj heq (hle.antisymm hge)).1]
    exact hfirst
  have hfront : ∀ m₁ m₂, m = m₁ ++ letters keyWords ++ m₂ →
      (fill secrets.secret before ++ [c]).length ≤ (fill secrets.secret m₁).length := by
    intro m₁ m₂ heq
    have hshape : before ++ .inr (.password name) :: letters (keyWords.drop n) ++ after =
        m₁ ++ letters keyWords ++ m₂ := by
      rw [← heq, hm]
      simp
    obtain ⟨w, rfl⟩ := front_prefix h₁ hbefore hshape
    rw [fill_append, fill_append, fill_hole, hsecret]
    simp only [List.length_append, List.length_cons, List.length_nil]
    omega
  apply hsame
  cases keyOccurs hg secrets (huv.trans (List.append_assoc _ _ _)) with
  | @fixed m₁ m₂ heq hu hv =>
      rw [← hu]
      exact hfront m₁ m₂ heq
  | @behind m₁ m₂ heq hlt => exact (hfront m₁ m₂ heq).trans hlt.le
  | @completed m₁ name' n' m₂ y h₁' h₁₀' heq hsecret' hu hv =>
      have hsame : name' = name → m₁ = before →
          (fill secrets.secret before ++ [c]).length ≤ u.length := by
        rintro rfl rfl
        rw [hu, List.length_append, List.length_append]
        apply Nat.add_le_add_left
        rw [hsecret] at hsecret'
        cases y with
        | nil =>
            obtain ⟨k, rfl⟩ := Nat.exists_eq_add_of_le' h₁'
            exact absurd (List.cons.inj hsecret').1 hletter
        | cons d y => exact Nat.le_add_left 1 _
      have hannounced := passwordWords_before (heq ▸ hg)
      rw [hm] at heq
      obtain ⟨w, rfl, htail⟩ | ⟨w, hw, htail⟩ := List.append_eq_append_iff.mp heq
      · cases w with
        | nil =>
            obtain ⟨hslot, -⟩ := List.cons.inj htail
            exact hsame (Slot.password.inj (Sum.inr.inj hslot)).symm (List.append_nil _)
        | cons mark w =>
            obtain ⟨rfl, -⟩ := List.cons.inj htail
            rw [hu, fill_append, fill_hole, hsecret]
            simp only [List.length_append, List.length_cons, List.length_nil]
            omega
      · cases w with
        | nil =>
            obtain ⟨hslot, -⟩ := List.cons.inj htail
            rw [List.append_nil] at hw
            exact hsame (Slot.password.inj (Sum.inr.inj hslot)) hw.symm
        | cons mark w =>
            -- another slot before, with a blank behind it, would not be covered
            obtain ⟨rfl, hrest⟩ := List.cons.inj htail
            obtain ⟨w', rfl, -⟩ := hole_behind_letters hrest
            have hxy : before = m₁ ++ .inr (.password name') ::
                letters ((keyWords.take 10).drop n') ++ .inl ' ' ::
                  (letters "= ".toList ++ w') := by
              rw [hw, keyWords_drop h₁₀', letters_append, List.append_assoc, List.append_assoc]
              rfl
            refine absurd ?_ (notAnnounced_blank h₁ hbefore hm hc hxy)
            exact hannounced.trans (List.prefix_append _ _).isInfix

/-- The redaction of the password in a line with a slot before the words for a key. -/
theorem redactPassword_front {front skipped : Marked}
    (hsplit : before = front ++ letters passwordWords ++ skipped)
    (hfirst : First (letters passwordWords) front) (hskipped : .inl ' ' ∉ skipped)
    (h₁₀ : n ≤ 10) (rest : Marked) :
    redactPassword (before ++ .inr (.password name) :: (letters (keyWords.drop n) ++ rest)) =
      front ++ letters passwordWords ++ (letters redactedPassword ++
        (letters " = ".toList ++ rest)) := by
  have hword : ' ' ∉ (keyWords.take 10).drop n := fun hin =>
    absurd (List.mem_of_mem_drop hin) (by decide)
  have hbehind : skipped ++ .inr (.password name) :: (letters (keyWords.drop n) ++ rest) =
      skipped ++ .inr (.password name) :: letters ((keyWords.take 10).drop n) ++
        .inl ' ' :: (letters "= ".toList ++ rest) := by
    rw [keyWords_drop h₁₀, letters_append, List.append_assoc, List.append_assoc]
    rfl
  rw [hsplit, List.append_assoc (front ++ letters passwordWords), redactPassword,
    redact_first hfirst, hbehind, List.dropWhile_append_of_pos,
    List.dropWhile_cons_of_neg (by simp)]
  · rfl
  · intro mark hin
    rw [decide_eq_true_iff]
    rintro rfl
    obtain hin | hin := List.mem_append.mp hin
    · exact hskipped hin
    · obtain heq | hin := List.mem_cons.mp hin
      · cases heq
      · exact hword (mem_letters.mp hin)

/-- What is stored when the password completes the words for a key. -/
theorem sanitize_completed {a : Text} {skipped : Marked} (hg : Guarded m)
    (hc : Closed (redactPassword (redactKey m))) (h₁ : 1 ≤ n) (h₁₀ : n ≤ 10)
    (hm : m = before ++ .inr (.password name) :: (letters (keyWords.drop n) ++ after))
    (hbefore : ¬ letters keyWords <:+: before)
    (hsplit : before = letters a ++ letters passwordWords ++ skipped)
    (hfirst : First (letters passwordWords) (letters a : Marked))
    (hskipped : .inl ' ' ∉ skipped) {c : Char} (hspace : Text.isWhitespace c = false)
    (hletter : c ≠ 'P') :
    LogRingBuffer.sanitize (fill (completingSecrets c hspace name n h₁₀).secret m) =
      a ++ passwordWords ++ (redactedPassword ++ (" = ".toList ++
        fill (completingSecrets c hspace name n h₁₀).secret
          (letters redactedKey ++ after.dropWhile (· ≠ .inl '\n')))) := by
  set rest := letters redactedKey ++ after.dropWhile (· ≠ .inl '\n') with hrest
  have hkey : redact keyWords '\n' redactedKey
      (fill (completingSecrets c hspace name n h₁₀).secret m) =
      fill (completingSecrets c hspace name n h₁₀).secret
        (before ++ .inr (.password name) :: (letters (keyWords.drop n) ++ rest)) := by
    have hwords := first_completed hg hc h₁ h₁₀ hm hbefore hspace hletter
    rw [hm, fill_completing, fill_completing, redact_first hwords, hrest, fill_append,
      fill_letters, fill_dropWhile_line]
  have hsanitize : LogRingBuffer.sanitize
      (fill (completingSecrets c hspace name n h₁₀).secret m) =
      redact passwordWords ' ' redactedPassword (redact keyWords '\n' redactedKey
        (fill (completingSecrets c hspace name n h₁₀).secret m)) := rfl
  have hassoc : before ++ .inr (.password name) :: (letters (keyWords.drop n) ++ rest) =
      letters a ++ letters passwordWords ++
        (skipped ++ .inr (.password name) :: (letters (keyWords.drop n) ++ rest)) := by
    rw [hsplit, List.append_assoc]
  rw [hsanitize, hkey, hassoc, redactPassword_fill_of_first hfirst fun x _ => completing_blank x,
    ← hassoc, redactPassword_front hsplit hfirst hskipped h₁₀]
  simp only [fill_append, fill_letters]

theorem untrapped_of_hidden {template : Template} (h : template.Hidden) :
    Untrapped template.marks := by
  intro before name n after h₁ h₁₀ hm hbefore
  have hg := template.guarded
  have hc := closed_of_hidden h
  obtain ⟨front, skipped, hsplit, hfirst⟩ := exists_first (passwordWords_before (hm ▸ hg))
  have hskipped : .inl ' ' ∉ skipped := by
    intro hin
    obtain ⟨x, y, rfl⟩ := List.append_of_mem hin
    have hxy : before = front ++ letters passwordWords ++ x ++ .inl ' ' :: y := by
      rw [hsplit]
      simp
    exact notAnnounced_blank h₁ hbefore hm hc hxy ⟨front, x, rfl⟩
  have hresult := hc
  rw [hm, redactKey_front h₁ hbefore, redactPassword_front hsplit hfirst hskipped h₁₀] at hresult
  obtain ⟨hfront, hrest⟩ := hresult.append
  obtain ⟨a, rfl⟩ := hfront.append.1.exists_letters
  obtain ⟨e, he⟩ := hrest.append.2.append.2.exists_letters
  have hconstant : LogRingBuffer.sanitize (template.line (constantSecrets 'x' (by decide))) =
      a ++ passwordWords ++ (redactedPassword ++ (" = ".toList ++ e)) := by
    rw [Template.line, constantSecrets, sanitize_single (by decide) (by decide), hm,
      redactKey_front h₁ hbefore, redactPassword_front hsplit hfirst hskipped h₁₀, he]
    simp only [fill_append, fill_letters]
  -- a password that completes the words stores the rest of its line in the place of `e`
  have hfill (c : Char) (hspace : Text.isWhitespace c = false) (hletter : c ≠ 'P') :
      fill (completingSecrets c hspace name n h₁₀).secret
        (letters redactedKey ++ after.dropWhile (· ≠ .inl '\n')) = e := by
    have heq := Template.hidden_iff_sanitize.mp h (completingSecrets c hspace name n h₁₀)
      (constantSecrets 'x' (by decide))
    rw [hconstant, Template.line,
      sanitize_completed hg hc h₁ h₁₀ hm hbefore hsplit hfirst hskipped hspace hletter] at heq
    exact List.append_cancel_left (List.append_cancel_left (List.append_cancel_left heq))
  have hx := hfill 'x' (by decide) (by decide)
  have hz := hfill 'z' (by decide) (by decide)
  have hne : 'x' ≠ 'z' := by decide
  obtain ⟨d, hd⟩ := (closed_of_fill_eq hne completing_eq_cons completing_eq_cons
    (hx.trans hz.symm)).exists_letters
  rw [hd, fill_letters] at hx
  rw [hd, hx, he]

end Trap

/-- What is stored of the lines of a template is free of credentials exactly when the two
redactions cover all slots and no password can set a trap for the first of them. -/
theorem Template.hidden_iff (template : Template) :
    template.Hidden ↔ Covered template.marks ∧ Untrapped template.marks := by
  rw [covered_iff]
  constructor
  · intro h
    exact ⟨closed_of_hidden h, untrapped_of_hidden h⟩
  · rintro ⟨hc, hu⟩
    rw [Template.hidden_iff_sanitize]
    intro secrets secrets'
    rw [Template.line, Template.line, sanitize_fill template.guarded hc hu,
      sanitize_fill template.guarded hc hu]
    exact hc.fill_eq secrets'.secret

/-! ## The lines that are kept -/

/-- A buffer keeps one line at least. -/
theorem buffer_push_all (capacity : ℕ) (lines : List Text) :
    (lines.foldl LogRingBuffer.push (.new capacity)).capacity = capacity ∧
      (lines.foldl LogRingBuffer.push (.new capacity)).buffer =
        (lines.drop (lines.length - max capacity 1)).map LogRingBuffer.sanitize := by
  induction lines using List.reverseRecOn with
  | nil => exact ⟨rfl, by rw [List.drop_nil]; rfl⟩
  | append_singleton lines line ih =>
      obtain ⟨hcapacity, hbuffer⟩ := ih
      rw [List.foldl_append, List.foldl_cons, List.foldl_nil]
      generalize lines.foldl LogRingBuffer.push (.new capacity) = rb at hcapacity hbuffer
      refine ⟨hcapacity, ?_⟩
      have hlen : rb.buffer.length = min lines.length (max capacity 1) := by
        rw [hbuffer, List.length_map, List.length_drop]
        omega
      have hdrop : (lines ++ [line]).drop ((lines ++ [line]).length - max capacity 1) =
          lines.drop (lines.length + 1 - max capacity 1) ++ [line] := by
        rw [List.length_append, List.length_singleton, List.drop_append_of_le_length]
        omega
      rw [hdrop, List.map_append, LogRingBuffer.push, hcapacity]
      by_cases hfull : rb.buffer.length ≥ capacity
      · have htail : rb.buffer.tail =
            (lines.drop (lines.length + 1 - max capacity 1)).map LogRingBuffer.sanitize := by
          rw [hbuffer, ← List.drop_one, ← List.map_drop, List.drop_drop]
          by_cases hempty : lines = []
          · rw [hempty, List.drop_nil, List.drop_nil]
          · have hpos := List.length_pos_of_ne_nil hempty
            congr 2
            omega
        simp only [if_pos hfull, htail]
        rfl
      · have hshort : lines.length + 1 - max capacity 1 = lines.length - max capacity 1 := by
          omega
        rw [hshort, ← hbuffer]
        simp only [if_neg hfull]
        rfl

theorem snapshot_iff (capacity : ℕ) (lines : List Text) :
    (lines.foldl LogRingBuffer.push (.new capacity)).getSnapshot =
        (lines.drop (lines.length - capacity)).map LogRingBuffer.sanitize ↔
      0 < capacity ∨ lines = [] := by
  rw [LogRingBuffer.getSnapshot, (buffer_push_all capacity lines).2]
  obtain rfl | hpos := Nat.eq_zero_or_pos capacity
  · constructor
    · intro h
      have hlen := congrArg List.length h
      rw [List.length_map, List.length_map, List.length_drop, List.length_drop] at hlen
      exact .inr (List.eq_nil_of_length_eq_zero (by omega))
    · rintro (h | rfl)
      · exact absurd h (Nat.lt_irrefl 0)
      · rfl
  · rw [Nat.max_eq_left hpos]
    exact iff_of_true rfl (.inl hpos)

/-- What the buffer stores of a line does not depend on the credentials in it exactly when both
redactions together cover all of them and no password can complete the words for a key. A snapshot
holds the latest lines, as many as the capacity says, exactly when there is a capacity. -/
theorem logBuffer_iff (template : Template) (capacity : ℕ) (lines : List Text) :
    (template.Hidden ↔ Covered template.marks ∧ Untrapped template.marks) ∧
      ((lines.foldl LogRingBuffer.push (.new capacity)).getSnapshot =
          (lines.drop (lines.length - capacity)).map LogRingBuffer.sanitize ↔
        0 < capacity ∨ lines = []) :=
  ⟨template.hidden_iff, snapshot_iff capacity lines⟩

/-- A password after a blank is stored, so is the second of two passwords, and a buffer without
capacity keeps a line. -/
theorem credentials_stored :
    ¬ Template.Hidden [.text "login: ".toList, .password 0 true] ∧
      ¬ Template.Hidden [.password 0 false, .text [' '], .password 1 false] ∧
      ([['a']].foldl LogRingBuffer.push (.new 0)).getSnapshot ≠
        ([['a']].drop ([['a']].length - 0)).map LogRingBuffer.sanitize := by
  refine ⟨fun h => ?_, fun h => ?_, by decide⟩
  · have heq := Template.hidden_iff_sanitize.mp h (constantSecrets 'x' (by decide))
      (constantSecrets 'z' (by decide))
    exact absurd heq (by decide)
  · have heq := Template.hidden_iff_sanitize.mp h (constantSecrets 'x' (by decide))
      (constantSecrets 'z' (by decide))
    exact absurd heq (by decide)

end VpnHub.Daemon
