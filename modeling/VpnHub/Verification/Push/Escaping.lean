import VpnHub.Model.Writers
import VpnHub.Verification.Push.Splitter

/-! Escaping is undone by the item splitter, and every list of items can be written so that the
splitter gives it back. -/

namespace VpnHub.Config

open Text (isWhitespace trim)

variable {item text : Text} {items : List Text}

namespace SplitState

/-- Outside quotes, an escaped text is taken up as it is. -/
theorem foldl_escapeItem (item : Text) {s : SplitState} (h : s.Neutral) :
    (escapeItem item).foldl step s = { s with current := item.reverse ++ s.current } := by
  induction item generalizing s with
  | nil => rfl
  | cons c item ih =>
      have hnext : Neutral { s with current := c :: s.current } := ⟨h.1, h.2, h.3⟩
      have hfirst :
          (if c ∈ ['\\', '"', '\'', ',', '\r', '\n'] then ['\\', c] else [c]).foldl step s =
            { s with current := c :: s.current } := by
        by_cases hc : c ∈ ['\\', '"', '\'', ',', '\r', '\n']
        · simp [hc, step, h.escaped]
        · simp only [List.mem_cons, List.not_mem_nil, or_false, not_or] at hc
          simp [step, h.escaped, hc]
      rw [escapeItem, escape, List.flatMap_cons, List.foldl_append, hfirst]
      refine (ih hnext).trans ?_
      simp

/-- Inside double quotes, only a backslash and a double quote need one. -/
theorem foldl_escape_quoted (item : Text) {s : SplitState} (hdouble : s.inDoubleQuote = true)
    (hsingle : s.inSingleQuote = false) (hescaped : s.escaped = false) :
    (escape ['\\', '"'] item).foldl step s = { s with current := item.reverse ++ s.current } := by
  induction item generalizing s with
  | nil => rfl
  | cons c item ih =>
      have hfirst : (if c ∈ ['\\', '"'] then ['\\', c] else [c]).foldl step s =
          { s with current := c :: s.current } := by
        by_cases hc : c ∈ ['\\', '"']
        · simp [hc, step, hescaped]
        · simp only [List.mem_cons, List.not_mem_nil, or_false, not_or] at hc
          simp [step, hescaped, hc, hdouble]
      rw [escape, List.flatMap_cons, List.foldl_append, hfirst]
      refine (ih (s := { s with current := c :: s.current }) hdouble hsingle hescaped).trans ?_
      simp

theorem foldl_quoteItem (item : Text) {s : SplitState} (h : s.Neutral) :
    (quoteItem item).foldl step s = { s with current := item.reverse ++ s.current } := by
  have hopen : s.step '"' = { s with inDoubleQuote := true } := by
    simp [step, h.escaped, h.inDoubleQuote, h.inSingleQuote]
  have hinner := foldl_escape_quoted item (s := { s with inDoubleQuote := true }) rfl
    h.inSingleQuote h.escaped
  rw [quoteItem, List.cons_append, List.foldl_cons, hopen, List.foldl_append, hinner]
  simp [step, h.escaped, h.inDoubleQuote, h.inSingleQuote]

end SplitState

/-! ## Written items -/

theorem foldl_of_writes (h : WritesItem item text) :
    text.foldl SplitState.step {} = { current := item.reverse } := by
  have hneutral : SplitState.Neutral {} := ⟨rfl, rfl, rfl⟩
  cases h with
  | escaped => simpa using SplitState.foldl_escapeItem item hneutral
  | quoted => simpa using SplitState.foldl_quoteItem item hneutral

theorem WritesItem.closed (h : WritesItem item text) : Closed text := by
  rw [Closed, foldl_of_writes h]
  exact ⟨rfl, rfl, rfl⟩

theorem WritesItem.itemsOf (h : WritesItem item text) (hitem : IsItem item) :
    itemsOf text = [item] := by
  rw [Config.itemsOf, foldl_of_writes h]
  simp [SplitState.flush, hitem.trimmed, hitem.nonempty]

theorem closed_of_written {written : List Text} (h : List.Forall₂ WritesItem items written) :
    ∀ text ∈ written, Closed text := by
  induction h with
  | nil => simp
  | cons hfirst _ ih => exact List.forall_mem_cons.mpr ⟨hfirst.closed, ih⟩

theorem flatMap_itemsOf {written : List Text} (hitems : ∀ item ∈ items, IsItem item)
    (h : List.Forall₂ WritesItem items written) : written.flatMap itemsOf = items := by
  induction h with
  | nil => rfl
  | cons hfirst _ ih =>
      rw [List.flatMap_cons, hfirst.itemsOf (hitems _ (by simp)),
        ih fun item hitem => hitems item (by simp [hitem])]
      rfl

theorem itemsOf_written {written : List Text} (hitems : ∀ item ∈ items, IsItem item)
    (h : List.Forall₂ WritesItem items written) : itemsOf (Text.join written [',']) = items := by
  rw [itemsOf_join (closed_of_written h), flatMap_itemsOf hitems h]

/-- The splitter gives back the items that were written. -/
theorem split_replyOf_written (items written : List Text) (hitems : ∀ item ∈ items, IsItem item)
    (h : List.Forall₂ WritesItem items written) : splitPushReplyItems (replyOf written) = items :=
  (splitPushReplyItems_eq _).trans (itemsOf_written hitems h)

/-- `it's, \` and `a "b"`, the first escaped and the second between quotes. -/
theorem split_replyOf_written_both :
    splitPushReplyItems (replyOf ["it\\'s\\, \\\\".toList, "\"a \\\"b\\\"\"".toList]) =
      ["it's, \\".toList, "a \"b\"".toList] := by
  refine split_replyOf_written _ _ ?_ ?_
  · intro item hitem
    simp only [List.mem_cons, List.not_mem_nil, or_false] at hitem
    rcases hitem with rfl | rfl
    · exact ⟨by decide, by decide⟩
    · exact ⟨by decide, by decide⟩
  · exact .cons .escaped (.cons .quoted .nil)

/-! ## Items of a split -/

namespace SplitState

theorem isItem_flush {s : SplitState} (h : ∀ item ∈ s.items, IsItem item) :
    ∀ item ∈ s.flush.items, IsItem item := by
  unfold flush
  by_cases hempty : (trim s.current.reverse).isEmpty = true
  · simpa [hempty] using h
  · intro item hitem
    simp only [hempty, Bool.false_eq_true, if_false, List.mem_append, List.mem_singleton] at hitem
    rcases hitem with hitem | rfl
    · exact h item hitem
    · exact ⟨by simpa using hempty, Text.trim_trim _⟩

theorem isItem_step {s : SplitState} (h : ∀ item ∈ s.items, IsItem item) (c : Char) :
    ∀ item ∈ (s.step c).items, IsItem item := by
  have hflush := isItem_flush h
  unfold step
  split_ifs
  · exact h
  · exact h
  · exact h
  · exact h
  · exact hflush
  · exact h

theorem isItem_foldl {s : SplitState} (h : ∀ item ∈ s.items, IsItem item) (text : Text) :
    ∀ item ∈ (text.foldl step s).items, IsItem item := by
  induction text generalizing s with
  | nil => exact h
  | cons c text ih => exact ih (isItem_step h c)

end SplitState

theorem isItem_of_mem_split {payload : Text} (h : item ∈ splitPushReplyItems payload) :
    IsItem item :=
  SplitState.isItem_flush (SplitState.isItem_foldl (by simp) _) item h

/-- Any list of items is what some reply splits into. -/
theorem exists_reply (hitems : ∀ item ∈ items, IsItem item) :
    ∃ payload, splitPushReplyItems payload = items := by
  refine ⟨replyOf (items.map escapeItem),
    (splitPushReplyItems_eq _).trans (itemsOf_written hitems ?_)⟩
  exact List.forall₂_map_right_iff.mpr (List.forall₂_same.mpr fun _ _ => .escaped)

end VpnHub.Config
