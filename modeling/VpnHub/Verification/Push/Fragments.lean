import VpnHub.Model.Loopback
import VpnHub.Verification.Push.Messages
import VpnHub.Verification.Push.Splitter

/-! A `PUSH_REPLY` in parts means what the whole would mean in one message, unless trimming
the message cuts off a comma that a backslash has made part of its last option. -/

namespace VpnHub.Config

open Text (isWhitespace trim)

/-! ## Trimming at the end -/

namespace SplitState

variable {s : SplitState} {c : Char}

theorem quotes_step (hdouble : c ≠ '"') (hsingle : c ≠ '\'') (s : SplitState) :
    (s.step c).inDoubleQuote = s.inDoubleQuote ∧ (s.step c).inSingleQuote = s.inSingleQuote := by
  unfold step
  rw [if_neg (show ¬(c = '"' ∧ _) by simp [hdouble]),
    if_neg (show ¬(c = '\'' ∧ _) by simp [hsingle])]
  split_ifs <;> exact ⟨rfl, rfl⟩

theorem quotes_foldl {text : Text} (h : ∀ c ∈ text, c ≠ '"' ∧ c ≠ '\'') (s : SplitState) :
    (text.foldl step s).inDoubleQuote = s.inDoubleQuote ∧
      (text.foldl step s).inSingleQuote = s.inSingleQuote := by
  induction text generalizing s with
  | nil => exact ⟨rfl, rfl⟩
  | cons c text ih =>
      have hc := h c (by simp)
      have hstep := quotes_step hc.1 hc.2 s
      have hrest := ih (fun d hd => h d (List.mem_cons_of_mem _ hd)) (s.step c)
      exact ⟨hrest.1.trans hstep.1, hrest.2.trans hstep.2⟩

end SplitState

/-- The text without the commas at its end, after white space. -/
def withoutCommas (text : Text) : Text :=
  Text.trimEndMatches (· = ',') (Text.trimEndMatches isWhitespace text)

/-- Trimming the end cuts off a comma that a backslash has made part of an option. -/
def StripsEscapedComma (text : Text) : Prop :=
  withoutCommas text ≠ Text.trimEndMatches isWhitespace text ∧
    ((withoutCommas text).foldl SplitState.step {}).escaped = true

instance (text : Text) : Decidable (StripsEscapedComma text) :=
  inferInstanceAs (Decidable (_ ∧ _))

theorem quotes_withoutCommas {text : Text} (h : Closed text) :
    ((withoutCommas text).foldl SplitState.step {}).inDoubleQuote = false ∧
      ((withoutCommas text).foldl SplitState.step {}).inSingleQuote = false := by
  obtain ⟨space, htext, hspace⟩ := Text.exists_trimEndMatches isWhitespace text
  obtain ⟨commas, hmid, hcommas⟩ :=
    Text.exists_trimEndMatches (· = ',') (Text.trimEndMatches isWhitespace text)
  have hplain : ∀ c ∈ commas ++ space, c ≠ '"' ∧ c ≠ '\'' := by
    intro c hc
    rcases List.mem_append.mp hc with hc | hc
    · obtain rfl : c = ',' := by simpa using hcommas c hc
      decide
    · have hc := hspace c hc
      constructor <;> rintro rfl <;> exact absurd hc (by decide)
  have hquotes :=
    SplitState.quotes_foldl hplain ((withoutCommas text).foldl SplitState.step {})
  rw [← List.foldl_append, ← List.append_assoc] at hquotes
  rw [show withoutCommas text ++ commas ++ space = text by rw [withoutCommas, ← hmid, ← htext]]
    at hquotes
  exact ⟨hquotes.1.symm.trans h.inDoubleQuote, hquotes.2.symm.trans h.inSingleQuote⟩

/-- Commas that are cut off and not escaped have only separated items. -/
theorem itemsOf_withoutCommas {text : Text} (h : Closed text) (hstrip : ¬ StripsEscapedComma text) :
    itemsOf (withoutCommas text) = itemsOf text := by
  rw [← itemsOf_trimEnd text]
  by_cases hsame : withoutCommas text = Text.trimEndMatches isWhitespace text
  · rw [hsame]
  · have hescaped : ((withoutCommas text).foldl SplitState.step {}).escaped = false := by
      by_contra hne
      exact hstrip ⟨hsame, by simpa using hne⟩
    obtain ⟨hdouble, hsingle⟩ := quotes_withoutCommas h
    obtain ⟨commas, hmid, hcommas⟩ :=
      Text.exists_trimEndMatches (· = ',') (Text.trimEndMatches isWhitespace text)
    have hall : ∀ c ∈ commas, c = ',' := fun c hc => by simpa using hcommas c hc
    have hfold := SplitState.foldl_commas ⟨hdouble, hsingle, hescaped⟩ hall
    rw [itemsOf, itemsOf, hmid, List.foldl_append, ← withoutCommas, hfold]

/-- An escaped comma that is cut off is missing from the last item. -/
theorem itemsOf_withoutCommas_ne {text : Text} (h : Closed text)
    (hstrip : StripsEscapedComma text) : itemsOf (withoutCommas text) ≠ itemsOf text := by
  obtain ⟨hne, hescaped⟩ := hstrip
  obtain ⟨hdouble, hsingle⟩ := quotes_withoutCommas h
  obtain ⟨commas, hmid, hcommas⟩ :=
    Text.exists_trimEndMatches (· = ',') (Text.trimEndMatches isWhitespace text)
  rw [← withoutCommas] at hmid
  rw [← itemsOf_trimEnd text, itemsOf, itemsOf, hmid, List.foldl_append]
  generalize (withoutCommas text).foldl SplitState.step {} = s at hescaped hdouble hsingle
  cases commas with
  | nil => exact absurd (by simpa using hmid.symm) hne
  | cons c commas =>
      obtain rfl : c = ',' := by simpa using hcommas c (by simp)
      have hstep : s.step ',' = { s with current := ',' :: s.current, escaped := false } := by
        simp [SplitState.step, hescaped]
      have hall : ∀ c ∈ commas, c = ',' := fun c hc => by
        simpa using hcommas c (List.mem_cons_of_mem _ hc)
      have hfold := SplitState.foldl_commas (s := s.step ',')
        (hstep ▸ ⟨hdouble, hsingle, rfl⟩) hall
      rw [List.foldl_cons, hfold, hstep]
      -- the comma makes the last item longer
      have hlong : trim (s.current.reverse ++ [',']) =
          Text.trimStartMatches isWhitespace s.current.reverse ++ [','] :=
        Text.trim_concat_of_neg (by decide)
      have hshort : (trim s.current.reverse).length ≤
          (Text.trimStartMatches isWhitespace s.current.reverse).length := by
        obtain ⟨back, hback, -⟩ := Text.exists_trimEndMatches isWhitespace
          (Text.trimStartMatches isWhitespace s.current.reverse)
        conv_rhs => rw [hback]
        rw [trim, Text.trimMatches, List.length_append]
        exact Nat.le_add_right _ _
      intro heq
      simp only [SplitState.flush, List.reverse_cons, hlong] at heq
      split at heq
      · simp at heq
      · have hitem : trim s.current.reverse =
            Text.trimStartMatches isWhitespace s.current.reverse ++ [','] := by simpa using heq
        rw [hitem, List.length_append] at hshort
        exact absurd hshort (by simp)

/-! ## What is kept of a message -/

/-- A part of a message as the engine stores it. -/
def pushedPart (part : Text) : Text := trim (Text.trimMatches (· = ',') (trim part))

theorem trim_comma_cons (text : Text) :
    trim (',' :: text) = ',' :: Text.trimEndMatches isWhitespace text :=
  Text.trimEndMatches_append_cons (by decide) [] text

/-- Trimming a whole message costs no more than the commas at its end. -/
theorem itemsOf_pushedPart (text : Text) :
    itemsOf (pushedPart (',' :: text)) = itemsOf (withoutCommas text) := by
  rw [pushedPart, itemsOf_trim, trim_comma_cons, Text.trimMatches,
    Text.trimStartMatches_cons_of_pos (by decide), Text.trimEndMatches_trimStartMatches]
  exact itemsOf_trimStart (fun c hc => .inl (by simpa using hc)) _

/-- A part with a last character that stays loses its front separators only. -/
theorem pushedPart_concat {c : Char} (hspace : isWhitespace c = false) (hcomma : c ≠ ',')
    (text : Text) : pushedPart (',' :: (text ++ [c])) =
      Text.trimStartMatches isWhitespace (Text.trimStartMatches (· = ',') text) ++ [c] := by
  have hc : decide (c = ',') = false := by simpa using hcomma
  rw [pushedPart, trim_comma_cons, Text.trimEndMatches_concat_of_neg hspace, Text.trimMatches,
    Text.trimStartMatches_cons_of_pos (by decide), Text.trimStartMatches_append_cons hc,
    Text.trimEndMatches_concat_of_neg hc, Text.trim_concat_of_neg hspace]

theorem itemsOf_pushedPart_of_end {c : Char} (hspace : isWhitespace c = false) (hcomma : c ≠ ',')
    {text front : Text} (htext : text = front ++ [c]) :
    itemsOf (pushedPart (',' :: text)) = itemsOf text ∧
      (Closed (pushedPart (',' :: text)) ↔ Closed text) := by
  have hc : decide (c = ',') = false := by simpa using hcomma
  rw [htext, pushedPart_concat hspace hcomma, ← Text.trimStartMatches_append_cons hspace,
    ← Text.trimStartMatches_append_cons (p := fun d => decide (d = ',')) hc]
  constructor
  · rw [itemsOf_trimStart fun _ h => .inr h, itemsOf_trimStart fun d h => .inl (by simpa using h)]
  · rw [closed_trimStart_iff fun _ h => .inr h,
      closed_trimStart_iff fun d h => .inl (by simpa using h)]

/-! ## Options -/

/-- Options that differ in the custom option `push-continuation` at most. -/
structure SameButMarker (o o' : PushOptions) : Prop where
  rest : o' = { o with customOptions := o'.customOptions }
  custom : ∀ key, key ≠ "push-continuation".toList →
    o'.customOptions.find? key = o.customOptions.find? key

namespace SameButMarker

variable {o o' : PushOptions}

theorem refl (o : PushOptions) : SameButMarker o o := ⟨rfl, fun _ _ => rfl⟩

theorem applyDhcpOption (h : SameButMarker o o') (optType optVal : Text) :
    SameButMarker (o.applyDhcpOption optType optVal) (o'.applyDhcpOption optType optVal) := by
  obtain ⟨hrest, hcustom⟩ := h
  generalize o'.customOptions = custom at hrest hcustom
  subst hrest
  unfold PushOptions.applyDhcpOption
  split_ifs
  · cases IpAddr.parse optVal with
    | some ip => exact ⟨rfl, hcustom⟩
    | none => exact ⟨rfl, hcustom⟩
  · exact ⟨rfl, hcustom⟩
  · cases IpAddr.parseIpv4 optVal with
    | some ip => exact ⟨rfl, hcustom⟩
    | none => exact ⟨rfl, hcustom⟩
  · cases IpAddr.parse optVal with
    | some ip => exact ⟨rfl, hcustom⟩
    | none => exact ⟨rfl, hcustom⟩
  · exact ⟨rfl, hcustom⟩

theorem ite {c : Prop} [Decidable c] {a a' b b' : PushOptions} (h : SameButMarker a a')
    (h' : SameButMarker b b') : SameButMarker (if c then a else b) (if c then a' else b') := by
  split
  · exact h
  · exact h'

/-- No option reads the custom ones. -/
theorem apply (h : SameButMarker o o') (verb : Text) (args : List Text) :
    SameButMarker (o.apply verb args) (o'.apply verb args) := by
  have hdhcp := h.applyDhcpOption
  obtain ⟨hrest, hcustom⟩ := h
  generalize o'.customOptions = custom at hrest hcustom
  subst hrest
  unfold PushOptions.apply
  refine .ite ?_ (.ite ?_ (.ite ?_ (.ite ?_ (.ite ?_ (.ite ?_ (.ite ?_ (.ite ?_ (.ite ?_ (.ite ?_
    (.ite ?_ (.ite ?_ (.ite ?_ (.ite ?_ (.ite ?_ (.ite ?_ (.ite ?_ (.ite ?_ ?_)))))))))))))))))
  case refine_9 =>
    rcases args with _ | ⟨optType, _ | ⟨optVal, rest⟩⟩
    · exact ⟨rfl, hcustom⟩
    · exact ⟨rfl, hcustom⟩
    · exact hdhcp _ _
  case refine_19 =>
    refine ⟨rfl, fun key hkey => ?_⟩
    rw [OrdMap.find?_insert, OrdMap.find?_insert, hcustom key hkey]
  all_goals first
    | exact ⟨rfl, hcustom⟩
    | split <;> exact ⟨rfl, hcustom⟩

theorem applyItem (h : SameButMarker o o') (item : Text) :
    SameButMarker (o.applyItem item) (o'.applyItem item) := by
  unfold PushOptions.applyItem
  split
  · exact h
  · exact h.apply _ _

theorem foldl (h : SameButMarker o o') (items : List Text) :
    SameButMarker (items.foldl PushOptions.applyItem o)
      (items.foldl PushOptions.applyItem o') := by
  induction items generalizing o o' with
  | nil => exact h
  | cons item items ih => exact ih (h.applyItem item)

/-- The marker of a part only sets the custom option. -/
theorem marker (h : SameButMarker o o') {item : Text} {args : List Text}
    (hitem : Text.splitWhitespace item = "push-continuation".toList :: args) :
    SameButMarker o (o'.applyItem item) := by
  have happly : o'.apply (Text.toAsciiLowercase "push-continuation".toList) args =
      { o' with
        customOptions := o'.customOptions.insert "push-continuation".toList
          (Text.join args [' ']) } := rfl
  simp only [PushOptions.applyItem, hitem, happly]
  refine ⟨?_, fun key hkey => ?_⟩
  · conv_lhs => rw [h.rest]
  · rw [OrdMap.find?_insert, if_neg (Ne.symm hkey)]
    exact h.custom key hkey

end SameButMarker

end VpnHub.Config

namespace VpnHub.Protocol

open Config Crypto

/-! ## Messages -/

/-- An option string that is neither a reply nor a marker, with balanced quotes and no
backslash left over. -/
structure PlainOption (option : Text) : Prop where
  noReply : Text.contains option "PUSH_REPLY".toList = false
  noMarker : Text.contains option "push-continuation".toList = false
  closed : Closed option

def optionText (options : List Text) : Text := Text.join options [',']

/-- All options in one message. -/
def wholeReply (options : List Text) : Text := "PUSH_REPLY,".toList ++ optionText options

def marker (c : Char) : Text := "push-continuation ".toList ++ [c]

/-- A part of a reply, with the marker of its place. -/
def replyPart (c : Char) (options : List Text) : Text :=
  "PUSH_REPLY,".toList ++ (optionText options ++ ',' :: marker c)

section Text

variable {options : List Text}

theorem closed_optionText (h : ∀ option ∈ options, Closed option) :
    Closed (optionText options) := closed_join h

theorem itemsOf_optionText (h : ∀ option ∈ options, Closed option) :
    itemsOf (optionText options) = options.flatMap itemsOf := itemsOf_join h

theorem contains_optionText_reply (h : ∀ option ∈ options, PlainOption option) :
    Text.contains (optionText options) "PUSH_REPLY".toList = false := by
  rw [optionText, Text.contains_join (by decide) (by decide), List.any_eq_false]
  intro option ho
  rw [(h option ho).noReply]
  exact Bool.false_ne_true

theorem contains_optionText_marker (h : ∀ option ∈ options, PlainOption option) :
    Text.contains (optionText options) "push-continuation 2".toList = false := by
  rw [optionText, Text.contains_join (by decide) (by decide), List.any_eq_false]
  intro option ho hcontains
  have hwithin : "push-continuation".toList <:+: "push-continuation 2".toList :=
    ⟨[], " 2".toList, by decide⟩
  have hshort := Text.contains_iff_occurs.mpr (hwithin.trans (Text.contains_iff_occurs.mp hcontains))
  rw [(h option ho).noMarker] at hshort
  cases hshort

end Text

/-- What is used of the two markers. -/
structure IsMarker (c : Char) : Prop where
  ends : ∃ front, marker c = front ++ [c]
  stays : Text.isWhitespace c = false ∧ c ≠ ','
  noReply : Text.contains (marker c) "PUSH_REPLY".toList = false
  closed : Closed (marker c)
  items : itemsOf (marker c) = [marker c]
  words : Text.splitWhitespace (marker c) = ["push-continuation".toList, [c]]

theorem isMarker_continued : IsMarker '2' :=
  ⟨⟨_, rfl⟩, by decide, by decide, by decide, by decide, by decide⟩

theorem isMarker_last : IsMarker '1' :=
  ⟨⟨_, rfl⟩, by decide, by decide, by decide, by decide, by decide⟩

namespace ProtocolEngine

/-! ## The accumulator -/

theorem accumulatePushed_eq (acc part : Text) : accumulatePushed acc part =
    if (pushedPart part).isEmpty then acc
    else (if acc.isEmpty then acc else acc ++ [',']) ++ pushedPart part := rfl

/-- The accumulator of a message with a single `PUSH_REPLY`, at its beginning. -/
theorem accumulate_body {body : Text} (h : Text.contains body "PUSH_REPLY".toList = false)
    (acc : Text) : accumulate acc ("PUSH_REPLY,".toList ++ body) =
      accumulatePushed acc (',' :: body) := by
  have hbody : Text.contains (',' :: body) "PUSH_REPLY".toList = false := by
    have hcomma : ',' ∉ "PUSH_REPLY".toList := by decide
    have happend := Text.contains_append_cons (s := []) (t := body) hcomma
    rw [List.nil_append, h] at happend
    rw [happend]
    decide
  rw [pushReply_append, accumulate_pushReply, Text.split_of_not_contains hbody, List.foldl_cons,
    List.foldl_nil]

theorem itemsOf_accumulatePushed {acc : Text} (hacc : Closed acc) (part : Text) :
    itemsOf (accumulatePushed acc part) = itemsOf acc ++ itemsOf (pushedPart part) := by
  rw [accumulatePushed_eq]
  cases hpart : pushedPart part with
  | nil => simp [itemsOf_nil]
  | cons c rest =>
      cases acc with
      | nil => rfl
      | cons d acc => simpa using itemsOf_append_comma hacc (c :: rest)

theorem itemsOf_accumulatePushed_nil (part : Text) :
    itemsOf (accumulatePushed [] part) = itemsOf (pushedPart part) := by
  rw [itemsOf_accumulatePushed closed_nil]
  exact List.nil_append _

theorem closed_accumulatePushed {acc part : Text} (hacc : Closed acc)
    (hpart : Closed (pushedPart part)) : Closed (accumulatePushed acc part) := by
  rw [accumulatePushed_eq]
  cases hp : pushedPart part with
  | nil => exact hacc
  | cons c rest =>
      rw [hp] at hpart
      cases acc with
      | nil => exact hpart
      | cons d acc => simpa using hacc.append_comma hpart

/-- A part adds the items of its options and its marker. -/
theorem accumulate_replyPart {c : Char} (hc : IsMarker c) {options : List Text}
    (h : ∀ option ∈ options, PlainOption option) {acc : Text} (hacc : Closed acc) :
    Closed (accumulate acc (replyPart c options)) ∧
      itemsOf (accumulate acc (replyPart c options)) =
        itemsOf acc ++ (options.flatMap itemsOf ++ [marker c]) := by
  have hclosed := closed_optionText fun o ho => (h o ho).closed
  have hbody : Text.contains (optionText options ++ ',' :: marker c) "PUSH_REPLY".toList =
      false := by
    rw [Text.contains_append_cons (by decide), contains_optionText_reply h, hc.noReply]
    rfl
  obtain ⟨front, hfront⟩ := hc.ends
  have htext : optionText options ++ ',' :: marker c =
      (optionText options ++ ',' :: front) ++ [c] := by
    rw [hfront]
    simp
  obtain ⟨hitems, hpart⟩ := itemsOf_pushedPart_of_end hc.stays.1 hc.stays.2 htext
  have hacc' : accumulate acc (replyPart c options) =
      accumulatePushed acc (',' :: (optionText options ++ ',' :: marker c)) :=
    accumulate_body hbody acc
  constructor
  · rw [hacc']
    exact closed_accumulatePushed hacc (hpart.mpr (hclosed.append_comma hc.closed))
  · calc itemsOf (accumulate acc (replyPart c options))
        = itemsOf acc ++ itemsOf (pushedPart (',' :: (optionText options ++ ',' :: marker c))) := by
          rw [hacc', itemsOf_accumulatePushed hacc]
      _ = itemsOf acc ++ (itemsOf (optionText options) ++ itemsOf (marker c)) := by
          rw [hitems, itemsOf_append_comma hclosed]
      _ = itemsOf acc ++ (options.flatMap itemsOf ++ [marker c]) := by
          rw [hc.items, itemsOf_optionText fun o ho => (h o ho).closed]

/-- The parts before the last leave the items of their options and their markers. -/
theorem accumulate_replyParts {groups : List (List Text)}
    (h : ∀ option ∈ groups.flatten, PlainOption option) {acc : Text} (hacc : Closed acc) :
    Closed ((groups.map (replyPart '2')).foldl accumulate acc) ∧
      itemsOf ((groups.map (replyPart '2')).foldl accumulate acc) =
        itemsOf acc ++ groups.flatMap fun group => group.flatMap itemsOf ++ [marker '2'] := by
  induction groups generalizing acc with
  | nil => exact ⟨hacc, by simp⟩
  | cons group groups ih =>
      have hgroup : ∀ option ∈ group, PlainOption option := fun o ho =>
        h o (by simp [ho])
      obtain ⟨hclosed, hitems⟩ := accumulate_replyPart isMarker_continued hgroup hacc
      obtain ⟨hclosed', hitems'⟩ := ih (fun o ho => h o (by
        rw [List.flatten_cons]
        exact List.mem_append_right _ ho)) hclosed
      refine ⟨hclosed', hitems'.trans ?_⟩
      rw [hitems, List.flatMap_cons, List.append_assoc]

theorem pushedOptions_eq (acc : Text) :
    pushedOptions acc = (itemsOf acc).foldl PushOptions.applyItem {} := by
  rw [pushedOptions, splitPushReplyItems_eq]

/-- Markers in between make no other difference. -/
theorem sameButMarker_groups (groups : List (List Text)) {o o' : PushOptions}
    (h : SameButMarker o o') :
    SameButMarker ((groups.flatten.flatMap itemsOf).foldl PushOptions.applyItem o)
      ((groups.flatMap fun group => group.flatMap itemsOf ++ [marker '2']).foldl
        PushOptions.applyItem o') := by
  induction groups generalizing o o' with
  | nil => exact h
  | cons group groups ih =>
      simp only [List.flatten_cons, List.flatMap_append, List.flatMap_cons, List.foldl_append,
        List.foldl_cons, List.foldl_nil]
      exact ih ((h.foldl _).marker isMarker_continued.words)

theorem isPushReply_append (body : Text) : IsPushReply ("PUSH_REPLY,".toList ++ body) :=
  Text.contains_append_left (by decide) body

theorem waits_replyPart (options : List Text) :
    IsPushReply (replyPart '2' options) ∧ IsContinued (replyPart '2' options) := by
  refine ⟨isPushReply_append _, ?_⟩
  have hmarker : Text.contains (marker '2') "push-continuation 2".toList = true := by decide
  have hbody := Text.contains_append_right hmarker (optionText options ++ [','])
  rw [List.append_assoc, List.singleton_append] at hbody
  exact Text.contains_append_right hbody _

theorem not_isContinued_last {options : List Text}
    (h : ∀ option ∈ options, PlainOption option) : ¬ IsContinued (replyPart '1' options) := by
  have htext : replyPart '1' options =
      "PUSH_REPLY".toList ++ ',' :: (optionText options ++ ',' :: marker '1') := pushReply_append _
  rw [IsContinued, htext, Text.contains_append_cons (by decide),
    Text.contains_append_cons (by decide), contains_optionText_marker h]
  decide

theorem not_isContinued_whole {options : List Text}
    (h : ∀ option ∈ options, PlainOption option) : ¬ IsContinued (wholeReply options) := by
  have htext : wholeReply options = "PUSH_REPLY".toList ++ ',' :: optionText options :=
    pushReply_append _
  rw [IsContinued, htext, Text.contains_append_cons (by decide), contains_optionText_marker h]
  decide

/-! ## Parts and the whole -/

/-- Configurations that differ in the custom option `push-continuation` at most. -/
structure SameConfiguration (config config' : NetworkProvisioningConfig) : Prop where
  rest : config' = { config with customOptions := config'.customOptions }
  custom : ∀ key, key ≠ "push-continuation".toList →
    config'.customOptions.find? key = config.customOptions.find? key

variable {Conn : Type}

/-- Options that differ in the marker at most are provisioned alike. -/
theorem provision_of_sameButMarker (e : ProtocolEngine Conn) {acc acc' : Text}
    (h : SameButMarker (pushedOptions acc) (pushedOptions acc')) (acc₀ : Text) :
    ∃ config config', emittedBy e (e.provision acc) = [config] ∧
      emittedBy { e with pushedOptionsAccumulator := acc₀ }
        ({ e with pushedOptionsAccumulator := acc₀ }.provision acc') = [config'] ∧
      SameConfiguration config config' ∧
      SameSettings (e.provision acc) ({ e with pushedOptionsAccumulator := acc₀ }.provision acc') := by
  refine ⟨_, _, emittedBy_provision e acc, emittedBy_provision _ acc', ?_, ?_⟩
  · generalize pushedOptions acc = o at h
    generalize pushedOptions acc' = o' at h
    obtain ⟨hrest, hcustom⟩ := h
    refine ⟨?_, hcustom⟩
    rw [hrest]
    rfl
  · obtain ⟨hpeer, hconfig, htoken⟩ := settings_provision e acc
    obtain ⟨hpeer', hconfig', htoken'⟩ :=
      settings_provision { e with pushedOptionsAccumulator := acc₀ } acc'
    generalize pushedOptions acc = o at h hpeer hconfig htoken
    generalize pushedOptions acc' = o' at h hpeer' hconfig' htoken'
    obtain ⟨hrest, -⟩ := h
    rw [hrest] at hpeer' hconfig' htoken'
    exact ⟨hpeer'.trans hpeer.symm, by rw [hconfig', hconfig]; rfl,
      by rw [hconfig', hconfig]; rfl, htoken'.trans htoken.symm⟩

/-- The whole reply has the items of its options exactly if trimming cuts none of them
short. -/
theorem itemsOf_wholeReply_iff {options : List Text}
    (hoptions : ∀ option ∈ options, PlainOption option) :
    itemsOf (accumulate [] (wholeReply options)) = options.flatMap itemsOf ↔
      ¬ StripsEscapedComma (optionText options) := by
  have hclosed : ∀ option ∈ options, Closed option := fun o ho => (hoptions o ho).closed
  have hwhole : accumulate [] (wholeReply options) =
      accumulatePushed [] (',' :: optionText options) :=
    accumulate_body (contains_optionText_reply hoptions) []
  rw [hwhole, itemsOf_accumulatePushed_nil, itemsOf_pushedPart, ← itemsOf_optionText hclosed]
  constructor
  · intro hitems hstrip
    exact itemsOf_withoutCommas_ne (closed_optionText hclosed) hstrip hitems
  · exact itemsOf_withoutCommas (closed_optionText hclosed)

theorem sameButMarker_parts {first : List (List Text)} {last : List Text}
    (hoptions : ∀ option ∈ (first ++ [last]).flatten, PlainOption option)
    (hstrip : ¬ StripsEscapedComma (optionText (first ++ [last]).flatten)) :
    SameButMarker (pushedOptions (accumulate [] (wholeReply (first ++ [last]).flatten)))
      (pushedOptions (accumulate ((first.map (replyPart '2')).foldl accumulate [])
        (replyPart '1' last))) := by
  have hfirst : ∀ option ∈ first.flatten, PlainOption option := fun o ho =>
    hoptions o (by rw [List.flatten_append]; exact List.mem_append_left _ ho)
  have hlast : ∀ option ∈ last, PlainOption option := fun o ho => hoptions o (by simp [ho])
  obtain ⟨hclosed, hitems⟩ := accumulate_replyParts hfirst closed_nil
  have hparts := (accumulate_replyPart isMarker_last hlast hclosed).2
  have hwhole : (first ++ [last]).flatten.flatMap itemsOf =
      first.flatten.flatMap itemsOf ++ last.flatMap itemsOf := by simp
  have hgroups := (sameButMarker_groups first (.refl {})).foldl (last.flatMap itemsOf)
  rw [pushedOptions_eq, pushedOptions_eq, (itemsOf_wholeReply_iff hoptions).mpr hstrip, hwhole,
    hparts, hitems, List.foldl_append, List.foldl_append, List.foldl_append, List.foldl_cons,
    List.foldl_nil]
  exact hgroups.marker isMarker_last.words

/-- However the options are cut into parts: nothing is emitted before the last part, then one
configuration, the one for all options in a single message. -/
theorem fragments_agree (e : ProtocolEngine Conn) (hfresh : e.pushedOptionsAccumulator = [])
    (first : List (List Text)) (last : List Text)
    (hoptions : ∀ option ∈ (first ++ [last]).flatten, PlainOption option)
    (hstrip : ¬ StripsEscapedComma (optionText (first ++ [last]).flatten)) :
    let before := (first.map (replyPart '2')).foldl receive e
    let after := before.receive (replyPart '1' last)
    let whole := e.receive (wholeReply (first ++ [last]).flatten)
    emittedBy e before = [] ∧ ∃ config config', emittedBy e whole = [config] ∧
      emittedBy before after = [config'] ∧ SameConfiguration config config' ∧
      SameSettings whole after := by
  intro before after whole
  have hlast : ∀ option ∈ last, PlainOption option := fun o ho => hoptions o (by simp [ho])
  have hbefore : before = { e with pushedOptionsAccumulator :=
      (first.map (replyPart '2')).foldl accumulate [] } := by
    have hwaits : ∀ message ∈ first.map (replyPart '2'),
        IsPushReply message ∧ IsContinued message := by
      intro message hm
      obtain ⟨options, -, rfl⟩ := List.mem_map.mp hm
      exact waits_replyPart options
    have hwait := foldl_receive_waiting hwaits e
    rw [hfresh] at hwait
    exact hwait
  have hsame := sameButMarker_parts hoptions hstrip
  obtain ⟨config, config', hwhole, hafter, hconfig, hsettings⟩ :=
    provision_of_sameButMarker e hsame ((first.map (replyPart '2')).foldl accumulate [])
  have hwhole_eq : whole = e.provision (accumulate [] (wholeReply (first ++ [last]).flatten)) := by
    rw [← hfresh]
    exact receive_final e (isPushReply_append _) (not_isContinued_whole hoptions)
  have hafter_eq : after = before.provision (accumulate before.pushedOptionsAccumulator
      (replyPart '1' last)) :=
    receive_final before (isPushReply_append _) (not_isContinued_last hlast)
  rw [hbefore] at hafter_eq
  refine ⟨?_, config, config', ?_, ?_, hconfig, ?_⟩
  · rw [hbefore]
    simp [emittedBy, configsOf]
  · rw [hwhole_eq]
    exact hwhole
  · rw [hafter_eq, hbefore]
    exact hafter
  · rw [hwhole_eq, hafter_eq]
    exact hsettings

theorem fragments_agree_route :
    ∃ (e : ProtocolEngine Loopback.Conn) (config config' : NetworkProvisioningConfig),
      emittedBy e (e.receive (wholeReply ["route 10.8.0.0 255.255.0.0".toList,
        "peer-id 3".toList])) = [config] ∧
      emittedBy (e.receive (replyPart '2' ["route 10.8.0.0 255.255.0.0".toList]))
        ((e.receive (replyPart '2' ["route 10.8.0.0 255.255.0.0".toList])).receive
          (replyPart '1' ["peer-id 3".toList])) = [config'] ∧
      SameConfiguration config config' := by
  have hroute : PlainOption "route 10.8.0.0 255.255.0.0".toList :=
    ⟨by decide, by decide, by decide⟩
  have hpeer : PlainOption "peer-id 3".toList := ⟨by decide, by decide, by decide⟩
  have hoptions : ∀ option ∈ ([["route 10.8.0.0 255.255.0.0".toList]] ++
      [["peer-id 3".toList]]).flatten, PlainOption option := by
    intro option ho
    rcases List.mem_cons.mp ho with rfl | ho
    · exact hroute
    · rw [List.mem_singleton.mp ho]
      exact hpeer
  obtain ⟨-, config, config', hwhole, hparts, hconfig, -⟩ := fragments_agree
    (Loopback.newEngine {}) rfl [["route 10.8.0.0 255.255.0.0".toList]] ["peer-id 3".toList]
    hoptions (by decide +kernel)
  exact ⟨_, config, config', hwhole, hparts, hconfig⟩

/-- A token that ends in an escaped comma loses it in a single message. -/
theorem token_comma_cut_off :
    PlainOption "auth-token abc\\,".toList ∧
      ((Loopback.newEngine {}).receive (replyPart '1' ["auth-token abc\\,".toList])).authToken ≠
        ((Loopback.newEngine {}).receive (wholeReply ["auth-token abc\\,".toList])).authToken :=
  ⟨⟨by decide, by decide, by decide⟩, by decide +kernel⟩

end ProtocolEngine

end VpnHub.Protocol
