import VpnHub.Model.Loopback
import VpnHub.Verification.Push.Fragments

/-! A zero byte after a `PUSH_REPLY` becomes part of its last option. It does no harm only
where that option does not read the argument it ends up in. -/

namespace VpnHub.Config

open Text (isWhitespace trim)

/-! ## What an option reads -/

/-- The types of a `dhcp-option` that are taken over. -/
def dhcpTypes : List Text :=
  ["DNS".toList, "DOMAIN".toList, "DOMAIN-SEARCH".toList, "ADAPTER_DOMAIN_SUFFIX".toList,
    "WINS".toList, "NTP".toList]

/-- Whether an option reads its last argument, which comes after the given ones, in a way that can
be seen later. -/
def readsAfter (verb : Text) (args : List Text) : Bool :=
  if verb = "topology".toList then args.length = 0
  else if verb = "ifconfig".toList then args.length = 1
  else if verb = "ifconfig-ipv6".toList then args.length ≤ 1
  else if verb = "route-gateway".toList then args.length = 0
  else if verb = "route-metric".toList then false
  else if verb = "route".toList then args.length ≤ 3
  else if verb = "route-ipv6".toList then args.length ≤ 2
  else if verb = "redirect-gateway".toList ∨ verb = "redirect-private".toList then true
  else if verb = "dhcp-option".toList then
    args.head?.any fun optType => dhcpTypes.any (Text.toAsciiUppercase optType = ·)
  else if verb = "block-outside-dns".toList then false
  else if verb = "ping".toList then args.length = 0
  else if verb = "ping-restart".toList then args.length = 0
  else if verb = "peer-id".toList then args.length = 0
  else if verb = "mssfix".toList then args.length = 0
  else if verb = "tun-mtu".toList then args.length = 0
  else if verb = "explicit-exit-notify".toList then false
  else if verb = "auth-token".toList then args.length = 0
  else if verb = "cipher".toList then false
  else true

theorem applyDhcpOption_of_notMem (o : PushOptions) {optType : Text} (h : optType ∉ dhcpTypes)
    (optVal : Text) : o.applyDhcpOption optType optVal = o := by
  simp only [dhcpTypes, List.mem_cons, List.not_mem_nil, or_false, not_or] at h
  obtain ⟨hdns, hdomain, hsearch, hsuffix, hwins, hntp⟩ := h
  rw [PushOptions.applyDhcpOption, if_neg hdns,
    if_neg (not_or.mpr ⟨hdomain, not_or.mpr ⟨hsearch, hsuffix⟩⟩), if_neg hwins, if_neg hntp]

/-- Options that differ in what neither the network configuration nor the engine takes over. -/
def SameVisible (o o' : PushOptions) : Prop :=
  o' = { o with
    routeMetric := o'.routeMetric
    explicitExitNotify := o'.explicitExitNotify
    cipher := o'.cipher }

theorem SameVisible.ite {c : Prop} [Decidable c] {a a' b b' : PushOptions} {p q : Bool}
    (hread : (if c then p else q) = false) (h : p = false → SameVisible a a')
    (h' : q = false → SameVisible b b') :
    SameVisible (if c then a else b) (if c then a' else b') := by
  by_cases hc : c
  · rw [if_pos hc] at hread ⊢
    rw [if_pos hc]
    exact h hread
  · rw [if_neg hc] at hread ⊢
    rw [if_neg hc]
    exact h' hread

section Arguments

variable {args rest rest' : List Text} {i : ℕ}

/-- Arguments that are the same but for the last place. -/
theorem getElem?_append_of_ne (hi : i ≠ args.length) (hrest : rest.length ≤ 1)
    (hrest' : rest'.length ≤ 1) : (args ++ rest)[i]? = (args ++ rest')[i]? := by
  rcases Nat.lt_or_gt_of_ne hi with hlt | hgt
  · rw [List.getElem?_append_left hlt, List.getElem?_append_left hlt]
  · rw [List.getElem?_eq_none (by simp; omega), List.getElem?_eq_none (by simp; omega)]

theorem argAt_append_of_ne {α : Type} (read : Text → Option α) (hi : i ≠ args.length)
    (hrest : rest.length ≤ 1) (hrest' : rest'.length ≤ 1) :
    argAt (args ++ rest) i read = argAt (args ++ rest') i read := by
  rw [argAt, argAt, getElem?_append_of_ne hi hrest hrest']

theorem head?_append_of_ne (hi : args.length ≠ 0) (hrest : rest.length ≤ 1)
    (hrest' : rest'.length ≤ 1) : (args ++ rest).head? = (args ++ rest').head? := by
  rw [List.head?_eq_getElem?, List.head?_eq_getElem?, getElem?_append_of_ne hi.symm hrest hrest']

theorem firstArg_append_of_ne {α : Type} (read : Text → Option α) (hi : args.length ≠ 0)
    (hrest : rest.length ≤ 1) (hrest' : rest'.length ≤ 1) :
    firstArg (args ++ rest) read = firstArg (args ++ rest') read := by
  rw [firstArg, firstArg, head?_append_of_ne hi hrest hrest']

/-- What stands in a place that the option does not read makes no difference. -/
theorem apply_of_unread (o : PushOptions) {verb : Text} (h : readsAfter verb args = false)
    (hrest : rest.length ≤ 1) (hrest' : rest'.length ≤ 1) :
    SameVisible (o.apply verb (args ++ rest)) (o.apply verb (args ++ rest')) := by
  unfold readsAfter at h
  unfold PushOptions.apply
  refine .ite h (fun h => ?_) fun h => .ite h (fun h => ?_) fun h => .ite h (fun h => ?_)
    fun h => .ite h (fun h => ?_) fun h => .ite h (fun h => ?_) fun h => .ite h (fun h => ?_)
    fun h => .ite h (fun h => ?_) fun h => .ite h (fun h => ?_) fun h => .ite h (fun h => ?_)
    fun h => .ite h (fun h => ?_) fun h => .ite h (fun h => ?_) fun h => .ite h (fun h => ?_)
    fun h => .ite h (fun h => ?_) fun h => .ite h (fun h => ?_) fun h => .ite h (fun h => ?_)
    fun h => .ite h (fun h => ?_) fun h => .ite h (fun h => ?_) fun h => .ite h (fun h => ?_)
    fun h => ?_
  case refine_1 | refine_17 =>
    rw [head?_append_of_ne (of_decide_eq_false h) hrest hrest']
    rfl
  case refine_2 =>
    have h := of_decide_eq_false h
    rw [argAt_append_of_ne _ (Ne.symm h) hrest hrest']
    by_cases hzero : args.length = 0
    · have hnone : argAt (args ++ rest') 1 IpAddr.parseIpv4 = none := by
        rw [argAt, List.getElem?_eq_none (by simp; omega)]
        rfl
      rw [hnone]
      cases argAt (args ++ rest) 0 IpAddr.parseIpv4 <;>
        cases argAt (args ++ rest') 0 IpAddr.parseIpv4 <;> rfl
    · rw [argAt_append_of_ne _ (Ne.symm hzero) hrest hrest']
      rfl
  case refine_3 =>
    have h := of_decide_eq_false h
    rw [firstArg_append_of_ne _ (by omega) hrest hrest',
      argAt_append_of_ne _ (by omega) hrest hrest']
    rfl
  case refine_5 =>
    cases firstArg (args ++ rest) Text.parseU32 <;> cases firstArg (args ++ rest') Text.parseU32 <;>
      rfl
  case refine_6 =>
    have h := of_decide_eq_false h
    rw [firstArg_append_of_ne _ (by omega) hrest hrest',
      argAt_append_of_ne _ (show 1 ≠ _ by omega) hrest hrest',
      argAt_append_of_ne _ (show 2 ≠ _ by omega) hrest hrest',
      argAt_append_of_ne _ (show 3 ≠ _ by omega) hrest hrest']
    rfl
  case refine_7 =>
    have h := of_decide_eq_false h
    rw [firstArg_append_of_ne _ (by omega) hrest hrest',
      argAt_append_of_ne _ (show 1 ≠ _ by omega) hrest hrest',
      argAt_append_of_ne _ (show 2 ≠ _ by omega) hrest hrest']
    rfl
  case refine_8 | refine_19 => cases h
  case refine_9 =>
    cases args with
    | nil =>
        rcases rest with _ | ⟨a, _ | ⟨b, rest⟩⟩
        · rcases rest' with _ | ⟨a', _ | ⟨b', rest'⟩⟩
          · rfl
          · rfl
          · simp at hrest'
        · rcases rest' with _ | ⟨a', _ | ⟨b', rest'⟩⟩
          · rfl
          · rfl
          · simp at hrest'
        · simp at hrest
    | cons optType args =>
        have hunknown : Text.toAsciiUppercase optType ∉ dhcpTypes := fun hmem => by
          simp only [List.head?_cons, Option.any_some, List.any_eq_false] at h
          exact h _ hmem (decide_eq_true rfl)
        cases hargs : args ++ rest <;> cases hargs' : args ++ rest' <;>
          simp only [List.cons_append, hargs, hargs', applyDhcpOption_of_notMem o hunknown] <;> rfl
  case refine_10 | refine_16 => rfl
  case refine_18 =>
    cases (args ++ rest).head? <;> cases (args ++ rest').head? <;> rfl
  all_goals
    rw [firstArg_append_of_ne _ (of_decide_eq_false h) hrest hrest']
    rfl

end Arguments

end VpnHub.Config

namespace VpnHub.Protocol

open Config Crypto
open Text (isWhitespace trim)

/-- The zero byte that ends a string in C. -/
def terminator : Char := '\x00'

/-- What follows the last `PUSH_REPLY` of a message, without white space at its edges. -/
def lastReply (message : Text) : Text :=
  trim ((Text.split message "PUSH_REPLY".toList).getLastD [])

namespace ProtocolEngine

/-- The splitter when it comes to the terminator of a message. -/
def beforeTerminator (acc message : Text) : SplitState :=
  (accumulate acc (message ++ [terminator])).dropLast.foldl SplitState.step {}

/-- The message does not end in a separator, and its last option does not read the argument
that the terminator ends up in. -/
structure TerminatorUnread (acc message : Text) : Prop where
  ends : ∃ front c, lastReply message = front ++ [c] ∧ c ≠ ','
  unread : ∃ verb args, Text.splitWhitespace
    ((beforeTerminator acc message).current.reverse ++ [terminator]) = verb :: args ∧
    args ≠ [] ∧ readsAfter (Text.toAsciiLowercase verb) args.dropLast = false

/-! ## The accumulator -/

/-- A part that does not end in a separator keeps white space before the terminator only. -/
theorem pushedPart_terminated {part front : Text} {c : Char} (h : trim part = front ++ [c])
    (hc : c ≠ ',') : ∃ back, (∀ d ∈ back, isWhitespace d = true) ∧
      pushedPart (part ++ [terminator]) = pushedPart part ++ back ++ [terminator] := by
  have hterminator : isWhitespace terminator = false := by decide
  have hcomma : decide (terminator = ',') = false := by decide
  have hspace : isWhitespace c = false := Text.not_of_trimEndMatches_eq_concat h
  have hc : decide (c = ',') = false := by simpa using hc
  obtain ⟨back, hback, hall⟩ := Text.exists_trimEndMatches isWhitespace
    (Text.trimStartMatches isWhitespace part)
  have hstart : Text.trimStartMatches isWhitespace part = front ++ c :: back := by
    rw [hback]
    change trim part ++ back = _
    simp [h]
  have hpart : pushedPart part =
      Text.trimStartMatches isWhitespace (Text.trimStartMatches (· = ',') front) ++ [c] := by
    rw [pushedPart, h, Text.trimMatches, Text.trimStartMatches_append_cons hc,
      Text.trimEndMatches_concat_of_neg hc, Text.trim_concat_of_neg hspace]
  have hterminated : pushedPart (part ++ [terminator]) =
      Text.trimStartMatches isWhitespace (Text.trimStartMatches (· = ',') front) ++
        c :: back ++ [terminator] := by
    rw [pushedPart, Text.trim_concat_of_neg hterminator, hstart, Text.trimMatches,
      Text.trimStartMatches_append_cons hcomma, Text.trimEndMatches_concat_of_neg hcomma,
      Text.trimStartMatches_append_cons hc, Text.trim_concat_of_neg hterminator,
      Text.trimStartMatches_append_cons hspace]
  refine ⟨back, hall, ?_⟩
  rw [hterminated, hpart]
  simp

theorem accumulate_terminated {acc message front : Text} {c : Char}
    (h : lastReply message = front ++ [c]) (hc : c ≠ ',') :
    ∃ back, (∀ d ∈ back, isWhitespace d = true) ∧
      accumulate acc (message ++ [terminator]) =
        accumulate acc message ++ back ++ [terminator] := by
  obtain ⟨parts, last, hparts, hparts'⟩ :=
    Text.split_concat (c := terminator) (by decide) pushReply_ne_nil message
  rw [lastReply, hparts, List.getLastD_concat] at h
  obtain ⟨back, hall, hback⟩ := pushedPart_terminated h hc
  refine ⟨back, hall, ?_⟩
  have hne : (pushedPart (last ++ [terminator])).isEmpty = false := by
    rw [hback]
    simp
  have hne' : (pushedPart last).isEmpty = false := by
    have hspace : isWhitespace c = false := Text.not_of_trimEndMatches_eq_concat h
    have hc : decide (c = ',') = false := by simpa using hc
    rw [pushedPart, h, Text.trimMatches, Text.trimStartMatches_append_cons hc,
      Text.trimEndMatches_concat_of_neg hc, Text.trim_concat_of_neg hspace]
    simp
  rw [accumulate, accumulate, hparts, hparts', List.foldl_append, List.foldl_append,
    List.foldl_cons, List.foldl_cons, List.foldl_nil, List.foldl_nil, accumulatePushed_eq,
    accumulatePushed_eq, hne, hne', hback]
  simp

/-! ## The last item -/

theorem step_terminator (s : SplitState) :
    s.step terminator = { s with current := terminator :: s.current, escaped := false } := by
  have hquote (b : Prop) : ¬(terminator = '"' ∧ b) := fun h => absurd h.1 (by decide)
  have hapostrophe (b : Prop) : ¬(terminator = '\'' ∧ b) := fun h => absurd h.1 (by decide)
  have hseparator (b : Prop) : ¬((terminator = ',' ∨ terminator = '\n' ∨ terminator = '\r') ∧ b) :=
    fun h => absurd h.1 (by decide)
  unfold SplitState.step
  by_cases hescaped : s.escaped = true
  · rw [if_pos hescaped]
  · rw [if_neg hescaped, if_neg (by decide), if_neg (hquote _), if_neg (hapostrophe _),
      if_neg (hseparator _)]
    simp [Bool.eq_false_iff.mpr hescaped]

theorem applyItem_of_words (o : PushOptions) {item verb : Text} {args : List Text}
    (h : Text.splitWhitespace item = verb :: args) :
    o.applyItem item = o.apply (Text.toAsciiLowercase verb) args := by
  simp only [PushOptions.applyItem, h]

/-- Where the terminator is not read, the last item sets the same with it and without. -/
theorem sameVisible_terminated {acc message : Text} (h : TerminatorUnread acc message) :
    SameVisible (pushedOptions (accumulate acc message))
      (pushedOptions (accumulate acc (message ++ [terminator]))) := by
  obtain ⟨front, c, hfront, hc⟩ := h.ends
  obtain ⟨verb, args, hwords, hargs, hread⟩ := h.unread
  obtain ⟨back, hback, hacc⟩ :
      ∃ back, (∀ d ∈ back, isWhitespace d = true) ∧
        accumulate acc (message ++ [terminator]) =
          accumulate acc message ++ back ++ [terminator] :=
    accumulate_terminated hfront hc
  have hbefore : beforeTerminator acc message =
      (accumulate acc message ++ back).foldl SplitState.step {} := by
    rw [beforeTerminator, hacc, List.dropLast_concat]
  generalize beforeTerminator acc message = s at hbefore hwords
  -- the items without the terminator and with it
  have hitems : itemsOf (accumulate acc message) = s.flush.items := by
    rw [hbefore, List.foldl_append, SplitState.items_flush_foldl hback, itemsOf]
  have hitems' : itemsOf (accumulate acc (message ++ [terminator])) =
      (s.step terminator).flush.items := by
    rw [itemsOf, hacc, List.foldl_append, ← hbefore, List.foldl_cons, List.foldl_nil]
  obtain ⟨words, last, hlast, hwithout⟩ :=
    Text.splitWhitespace_concat_of_neg (c := terminator) (by decide) s.current.reverse
  rw [hwords] at hlast
  cases words with
  | nil => exact absurd (List.cons.inj hlast).2 hargs
  | cons word before =>
      obtain ⟨rfl, rfl⟩ : verb = word ∧ args = before ++ [last ++ [terminator]] := by
        simpa using hlast
      obtain ⟨rest, hrest, hwithout⟩ : ∃ rest : List Text, rest.length ≤ 1 ∧
          Text.splitWhitespace s.current.reverse = verb :: (before ++ rest) := by
        rcases hwithout with hwithout | hwithout
        · exact ⟨[], by simp, by rw [hwithout, List.append_nil]⟩
        · exact ⟨[last], by simp, by rw [hwithout, List.cons_append]⟩
      have hflush : s.flush.items = s.items ++ [trim s.current.reverse] := by
        have hne : trim s.current.reverse ≠ [] := by
          intro hnil
          rw [← Text.splitWhitespace_trim, hnil] at hwithout
          cases hwithout
        simp [SplitState.flush, hne]
      have hflush' : (s.step terminator).flush.items =
          s.items ++ [trim (s.current.reverse ++ [terminator])] := by
        have hne : trim (s.current.reverse ++ [terminator]) ≠ [] := by
          rw [Text.trim_concat_of_neg (by decide)]
          simp
        simp [step_terminator, SplitState.flush, hne]
      rw [List.dropLast_concat] at hread
      rw [pushedOptions_eq, pushedOptions_eq, hitems, hitems', hflush, hflush', List.foldl_append,
        List.foldl_append, List.foldl_cons, List.foldl_cons, List.foldl_nil, List.foldl_nil,
        applyItem_of_words _ ((Text.splitWhitespace_trim _).trans hwithout),
        applyItem_of_words _ ((Text.splitWhitespace_trim _).trans hwords)]
      exact apply_of_unread _ hread hrest (by simp)

/-! ## Messages -/

variable {Conn : Type}

theorem isContinued_terminated (message : Text) :
    IsContinued (message ++ [terminator]) ↔ IsContinued message := by
  rw [IsContinued, IsContinued, Text.contains_append_cons (by decide), Bool.or_eq_true]
  constructor
  · rintro (h | h)
    · exact h
    · exact absurd h (by decide)
  · exact .inl

theorem provision_of_sameVisible (e : ProtocolEngine Conn) {acc acc' : Text}
    (h : SameVisible (pushedOptions acc) (pushedOptions acc')) :
    emittedBy e (e.provision acc') = emittedBy e (e.provision acc) ∧
      SameSettings (e.provision acc) (e.provision acc') := by
  obtain ⟨hpeer, hconfig, htoken⟩ := settings_provision e acc
  obtain ⟨hpeer', hconfig', htoken'⟩ := settings_provision e acc'
  rw [emittedBy_provision, emittedBy_provision]
  generalize pushedOptions acc = o at h hpeer hconfig htoken
  generalize pushedOptions acc' = o' at h hpeer' hconfig' htoken'
  rw [SameVisible] at h
  rw [h] at hpeer' hconfig' htoken'
  refine ⟨?_, hpeer'.trans hpeer.symm, ?_, ?_, htoken'.trans htoken.symm⟩
  · rw [h]
    rfl
  · rw [hconfig', hconfig]
    rfl
  · rw [hconfig', hconfig]
    rfl

/-- A terminator makes no difference to a part that is to be continued, nor where the last
option does not read it. -/
theorem terminator_harmless (e : ProtocolEngine Conn) {message : Text}
    (hpush : IsPushReply message)
    (h : IsContinued message ∨ TerminatorUnread e.pushedOptionsAccumulator message) :
    emittedBy e (e.receive (message ++ [terminator])) = emittedBy e (e.receive message) ∧
      SameSettings (e.receive message) (e.receive (message ++ [terminator])) := by
  have hpush' : IsPushReply (message ++ [terminator]) := Text.contains_append_left hpush _
  by_cases hcont : IsContinued message
  · rw [receive_continued e hpush hcont,
      receive_continued e hpush' ((isContinued_terminated message).mpr hcont)]
    exact ⟨rfl, rfl, rfl, rfl, rfl⟩
  · rw [receive_final e hpush hcont,
      receive_final e hpush' (fun h => hcont ((isContinued_terminated message).mp h))]
    exact provision_of_sameVisible e (sameVisible_terminated (h.resolve_left hcont))

/-- A second argument of `ping` is not read. -/
theorem terminator_harmless_ping :
    ∃ e : ProtocolEngine Loopback.Conn,
      emittedBy e (e.receive ("PUSH_REPLY,peer-id 3,ping 10 60".toList ++ [terminator])) =
        emittedBy e (e.receive "PUSH_REPLY,peer-id 3,ping 10 60".toList) := by
  have hunread : TerminatorUnread [] "PUSH_REPLY,peer-id 3,ping 10 60".toList :=
    ⟨⟨",peer-id 3,ping 10 6".toList, '0', by decide +kernel, by decide⟩,
      "ping".toList, ["10".toList, "60".toList ++ [terminator]], by decide +kernel, by simp,
      by decide⟩
  exact ⟨Loopback.newEngine {},
    (terminator_harmless (Loopback.newEngine {}) (by decide) (.inr hunread)).1⟩

/-- A terminated `peer-id` is lost. -/
theorem terminated_peer_id_lost :
    ((Loopback.newEngine {}).receive "PUSH_REPLY,peer-id 3".toList).peerId = some 3 ∧
      ((Loopback.newEngine {}).receive
        ("PUSH_REPLY,peer-id 3".toList ++ [terminator])).peerId = none := by
  decide +kernel

end ProtocolEngine

end VpnHub.Protocol
