import VpnHub.Library.Substring
import VpnHub.Library.Trim
import VpnHub.Program.Push

/-! The item splitter of `PUSH_REPLY` texts: separators and white space at the edges make no
difference, and a text that leaves no quote open can be split on its own. -/

namespace VpnHub.Config

open Text (isWhitespace trim)

namespace SplitState

variable {s t : SplitState} {c : Char}

/-- The next separator ends an item. -/
structure Neutral (s : SplitState) : Prop where
  inDoubleQuote : s.inDoubleQuote = false
  inSingleQuote : s.inSingleQuote = false
  escaped : s.escaped = false

instance (s : SplitState) : Decidable s.Neutral :=
  decidable_of_iff
    (s.inDoubleQuote = false ∧ s.inSingleQuote = false ∧ s.escaped = false)
    ⟨fun h => ⟨h.1, h.2.1, h.2.2⟩, fun h => ⟨h.1, h.2, h.3⟩⟩

/-- The same state with further items before. -/
def after (items : List Text) (s : SplitState) : SplitState := { s with items := items ++ s.items }

theorem flush_after (items : List Text) (s : SplitState) :
    (s.after items).flush = s.flush.after items := by
  by_cases h : trim s.current.reverse = []
  · simp [flush, after, h]
  · simp [flush, after, h]

theorem step_after (items : List Text) (s : SplitState) (c : Char) :
    (s.after items).step c = (s.step c).after items := by
  unfold step
  simp only [show (s.after items).escaped = s.escaped from rfl,
    show (s.after items).inDoubleQuote = s.inDoubleQuote from rfl,
    show (s.after items).inSingleQuote = s.inSingleQuote from rfl, flush_after]
  split_ifs <;> rfl

theorem foldl_after (items : List Text) (text : Text) (s : SplitState) :
    text.foldl step (s.after items) = (text.foldl step s).after items := by
  induction text generalizing s with
  | nil => rfl
  | cons c text ih => rw [List.foldl_cons, List.foldl_cons, step_after, ih]

/-! ## The end of a text -/

theorem flush_flush (s : SplitState) : s.flush.flush = s.flush := by
  simp [flush, trim, Text.trimMatches, Text.trimStartMatches, Text.trimEndMatches]

/-- White space is taken up, or it ends the item. -/
theorem step_space (h : isWhitespace c = true) (s : SplitState) :
    s.step c = { s with current := c :: s.current, escaped := false } ∨ s.step c = s.flush := by
  have hbackslash : c ≠ '\\' := by
    rintro rfl
    exact absurd h (by decide)
  have hdouble : c ≠ '"' := by
    rintro rfl
    exact absurd h (by decide)
  have hsingle : c ≠ '\'' := by
    rintro rfl
    exact absurd h (by decide)
  unfold step
  by_cases hescaped : s.escaped = true
  · rw [if_pos hescaped]
    exact .inl rfl
  · rw [if_neg hescaped, if_neg hbackslash, if_neg (by simp [hdouble]), if_neg (by simp [hsingle])]
    split
    · exact .inr rfl
    · refine .inl ?_
      simp [Bool.eq_false_iff.mpr hescaped]

/-- White space at the end of a text adds nothing, whatever stands before it. -/
theorem items_flush_step (h : isWhitespace c = true) (s : SplitState) :
    (s.step c).flush.items = s.flush.items := by
  rcases step_space h s with hstep | hstep
  · simp only [hstep, flush, List.reverse_cons, Text.trim_concat_of_pos h]
  · rw [hstep, flush_flush]

theorem items_flush_foldl {text : Text} (h : ∀ c ∈ text, isWhitespace c = true)
    (s : SplitState) : (text.foldl step s).flush.items = s.flush.items := by
  induction text generalizing s with
  | nil => rfl
  | cons c text ih =>
      rw [List.foldl_cons, ih (fun d hd => h d (List.mem_cons_of_mem _ hd)),
        items_flush_step (h c (by simp)) s]

theorem step_comma (h : s.Neutral) : s.step ',' = s.flush := by
  simp [step, h.escaped, h.inDoubleQuote, h.inSingleQuote]

theorem Neutral.flush (h : s.Neutral) : s.flush.Neutral := ⟨h.1, h.2, h.3⟩

theorem Neutral.flush_eq (h : s.Neutral) : s.flush = after s.flush.items {} := by
  simp [SplitState.flush, after, h.inDoubleQuote, h.inSingleQuote, h.escaped]

theorem foldl_commas (h : s.Neutral) {text : Text} (hall : ∀ c ∈ text, c = ',') :
    (text.foldl step s).flush = s.flush := by
  induction text generalizing s with
  | nil => rfl
  | cons c text ih =>
      rw [List.foldl_cons, hall c (by simp), step_comma h,
        ih h.flush fun d hd => hall d (List.mem_cons_of_mem _ hd), flush_flush]

/-! ## The beginning of a text -/

/-- The current item of the first begins with white space that the second does not have. -/
def Leads (s t : SplitState) : Prop :=
  ∃ space : Text, (∀ c ∈ space, isWhitespace c = true) ∧
    s = { t with current := t.current ++ space }

theorem Leads.refl (s : SplitState) : Leads s s := ⟨[], by simp, by simp⟩

theorem Leads.trans {u : SplitState} (h : Leads s t) (h' : Leads t u) : Leads s u := by
  obtain ⟨space, hall, rfl⟩ := h
  obtain ⟨space', hall', rfl⟩ := h'
  refine ⟨space' ++ space, ?_, by simp⟩
  intro c hc
  rcases List.mem_append.mp hc with hc | hc
  · exact hall' c hc
  · exact hall c hc

theorem Leads.neutral_iff (h : Leads s t) : s.Neutral ↔ t.Neutral := by
  obtain ⟨space, -, rfl⟩ := h
  exact ⟨fun h => ⟨h.1, h.2, h.3⟩, fun h => ⟨h.1, h.2, h.3⟩⟩

theorem Leads.flush (h : Leads s t) : s.flush = t.flush := by
  obtain ⟨space, hall, rfl⟩ := h
  have htrim : trim (t.current ++ space).reverse = trim t.current.reverse := by
    rw [List.reverse_append]
    exact Text.trim_append_of_all (fun c hc => hall c (List.mem_reverse.mp hc)) _
  simp only [SplitState.flush, htrim]

theorem Leads.step (h : Leads s t) (c : Char) : Leads (s.step c) (t.step c) := by
  have hflush := h.flush
  obtain ⟨space, hall, rfl⟩ := h
  unfold SplitState.step
  split_ifs
  · exact ⟨space, hall, rfl⟩
  · exact ⟨space, hall, rfl⟩
  · exact ⟨space, hall, rfl⟩
  · exact ⟨space, hall, rfl⟩
  · rw [hflush]
    exact .refl _
  · exact ⟨space, hall, rfl⟩

theorem Leads.foldl (h : Leads s t) (text : Text) :
    Leads (text.foldl SplitState.step s) (text.foldl SplitState.step t) := by
  induction text generalizing s t with
  | nil => exact h
  | cons c text ih => exact ih (h.step c)

/-- A separator or white space at the very beginning. -/
theorem leads_step_start (h : c = ',' ∨ isWhitespace c = true) : Leads (step {} c) {} := by
  rcases h with rfl | h
  · exact .refl _
  · rcases step_space h {} with hstep | hstep
    · exact ⟨[c], by simpa using h, hstep⟩
    · rw [hstep]
      exact .refl _

theorem leads_start {front : Text} (h : ∀ c ∈ front, c = ',' ∨ isWhitespace c = true)
    (text : Text) : Leads ((front ++ text).foldl step {}) (text.foldl step {}) := by
  induction front with
  | nil => exact .refl _
  | cons c front ih =>
      have hfirst := (leads_step_start (h c (by simp))).foldl (front ++ text)
      exact hfirst.trans (ih fun d hd => h d (List.mem_cons_of_mem _ hd))

end SplitState

/-! ## Items -/

/-- The items of a text without `PUSH_REPLY` in front. -/
def itemsOf (text : Text) : List Text := (text.foldl SplitState.step {}).flush.items

/-- Quotes are balanced and no backslash is left over at the end. -/
def Closed (text : Text) : Prop := (text.foldl SplitState.step {}).Neutral

instance (text : Text) : Decidable (Closed text) := inferInstanceAs (Decidable (_ : SplitState).Neutral)

variable {a b text : Text}

theorem closed_nil : Closed [] := by decide

theorem itemsOf_nil : itemsOf [] = [] := rfl

/-- After a closed text and a separator the splitter starts over. -/
theorem foldl_append_comma (h : Closed a) (b : Text) :
    (a ++ ',' :: b).foldl SplitState.step {} = (b.foldl SplitState.step {}).after (itemsOf a) := by
  rw [List.foldl_append, List.foldl_cons, SplitState.step_comma h, h.flush_eq,
    SplitState.foldl_after]
  rfl

theorem itemsOf_append_comma (h : Closed a) (b : Text) :
    itemsOf (a ++ ',' :: b) = itemsOf a ++ itemsOf b := by
  rw [itemsOf, foldl_append_comma h, SplitState.flush_after]
  rfl

theorem Closed.append_comma (h : Closed a) (h' : Closed b) : Closed (a ++ ',' :: b) := by
  rw [Closed, foldl_append_comma h]
  exact ⟨h'.1, h'.2, h'.3⟩

theorem closed_join {options : List Text} (h : ∀ option ∈ options, Closed option) :
    Closed (Text.join options [',']) := by
  induction options with
  | nil => exact closed_nil
  | cons option options ih =>
      cases options with
      | nil => simpa [Text.join] using h option (by simp)
      | cons next options =>
          rw [Text.join_cons_cons]
          exact (h option (by simp)).append_comma
            (ih fun o ho => h o (List.mem_cons_of_mem _ ho))

/-- Closed options are split one by one. -/
theorem itemsOf_join {options : List Text} (h : ∀ option ∈ options, Closed option) :
    itemsOf (Text.join options [',']) = options.flatMap itemsOf := by
  induction options with
  | nil => rfl
  | cons option options ih =>
      cases options with
      | nil => simp [Text.join]
      | cons next options =>
          rw [Text.join_cons_cons, itemsOf_append_comma (h option (by simp)), List.flatMap_cons]
          exact congrArg _ (ih fun o ho => h o (List.mem_cons_of_mem _ ho))

theorem itemsOf_trimStart {p : Char → Bool} (h : ∀ c, p c = true → c = ',' ∨ isWhitespace c = true)
    (text : Text) : itemsOf (Text.trimStartMatches p text) = itemsOf text := by
  obtain ⟨front, htext, hall⟩ := Text.exists_trimStartMatches p text
  have hleads := SplitState.leads_start (fun c hc => h c (hall c hc)) (Text.trimStartMatches p text)
  rw [← htext] at hleads
  rw [itemsOf, itemsOf, hleads.flush]

theorem closed_trimStart_iff {p : Char → Bool}
    (h : ∀ c, p c = true → c = ',' ∨ isWhitespace c = true) (text : Text) :
    Closed (Text.trimStartMatches p text) ↔ Closed text := by
  obtain ⟨front, htext, hall⟩ := Text.exists_trimStartMatches p text
  have hleads := SplitState.leads_start (fun c hc => h c (hall c hc)) (Text.trimStartMatches p text)
  rw [← htext] at hleads
  exact hleads.neutral_iff.symm

theorem itemsOf_trimEnd (text : Text) :
    itemsOf (Text.trimEndMatches isWhitespace text) = itemsOf text := by
  obtain ⟨back, htext, hall⟩ := Text.exists_trimEndMatches isWhitespace text
  conv_rhs => rw [htext]
  rw [itemsOf, itemsOf, List.foldl_append, SplitState.items_flush_foldl hall]

theorem itemsOf_trim (text : Text) : itemsOf (trim text) = itemsOf text :=
  (itemsOf_trimEnd _).trans (itemsOf_trimStart (fun _ h => .inr h) text)

/-! ## The text the engine puts together -/

theorem pushReply_append (text : Text) :
    "PUSH_REPLY,".toList ++ text = "PUSH_REPLY".toList ++ ',' :: text := by
  have hcomma : "PUSH_REPLY,".toList = "PUSH_REPLY".toList ++ [','] := by decide
  rw [hcomma, List.append_assoc, List.singleton_append]

theorem splitPushReplyItems_eq (acc : Text) :
    splitPushReplyItems ("PUSH_REPLY,".toList ++ acc) = itemsOf acc := by
  have htrim : trim ("PUSH_REPLY".toList ++ ',' :: acc) =
      "PUSH_REPLY".toList ++ ',' :: Text.trimEndMatches isWhitespace acc :=
    Text.trimEndMatches_append_cons (by decide) "PUSH_REPLY".toList acc
  have hstrip : Text.stripPrefix
      ("PUSH_REPLY".toList ++ ',' :: Text.trimEndMatches isWhitespace acc) "PUSH_REPLY".toList =
      some (',' :: Text.trimEndMatches isWhitespace acc) := Text.stripPrefix_append _ _
  have hseparators (c : Char) (h : [',', ' ', '\t', '\n', '\r'].contains c = true) :
      c = ',' ∨ isWhitespace c = true := by
    simp only [List.contains_cons, List.contains_nil, Bool.or_false, Bool.or_eq_true,
      beq_iff_eq] at h
    rcases h with rfl | rfl | rfl | rfl | rfl
    · exact .inl rfl
    all_goals exact .inr (by decide)
  simp only [splitPushReplyItems, pushReply_append, htrim, hstrip]
  change itemsOf (Text.trimStartMatches _ (',' :: Text.trimEndMatches isWhitespace acc)) = _
  rw [itemsOf_trimStart hseparators]
  exact (itemsOf_append_comma closed_nil _).trans (itemsOf_trimEnd acc)

end VpnHub.Config
