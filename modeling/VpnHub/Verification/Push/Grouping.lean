import VpnHub.Model.Loopback
import VpnHub.Verification.Push.Messages

/-! How TLS groups server messages into reads, and when the grouping makes no difference. -/

namespace VpnHub.Protocol

open Config Crypto

/-- A complete control message of the server: a part of a `PUSH_REPLY`, a challenge, or
`AUTH_FAILED`. -/
structure ServerMessage where
  text : Text
  kind : Text.startsWith text "PUSH_REPLY".toList = true ∨
    ¬ IsPushReply text ∧ ((AuthHandler.parseChallenge text).isSome = true ∨
      Text.contains text "AUTH_FAILED".toList = true)

namespace ServerMessage

/-- A part of a `PUSH_REPLY` that more parts are to follow. -/
def Waits (m : ServerMessage) : Prop := IsPushReply m.text ∧ IsContinued m.text

instance (m : ServerMessage) : Decidable m.Waits := inferInstanceAs (Decidable (_ ∧ _))

theorem Waits.exists_body {m : ServerMessage} (h : m.Waits) :
    ∃ body, m.text = "PUSH_REPLY".toList ++ body := by
  rcases m.kind with hstart | ⟨hpush, -⟩
  · obtain ⟨body, hbody⟩ := List.isPrefixOf_iff_prefix.mp hstart
    exact ⟨body, hbody.symm⟩
  · exact absurd h.1 hpush

end ServerMessage

/-- The text of adjacent messages in one read. -/
def joined (group : List ServerMessage) : Text := (group.map (·.text)).flatten

@[simp] theorem joined_cons (m : ServerMessage) (group : List ServerMessage) :
    joined (m :: group) = m.text ++ joined group := rfl

namespace ProtocolEngine

variable {Conn : Type}

/-- The engine after messages that come in one read each. -/
def readEach (e : ProtocolEngine Conn) (messages : List ServerMessage) : ProtocolEngine Conn :=
  messages.foldl (fun e m => e.receive m.text) e

/-- The engine after messages that come in groups, one read for each group. -/
def readGrouped (e : ProtocolEngine Conn) (groups : List (List ServerMessage)) :
    ProtocolEngine Conn :=
  groups.foldl (fun e group => e.receive (joined group)) e

/-- Actions that a message of its own brings about, besides changes of state. -/
def isAnswer : OutputAction → Bool
  | .configureNetwork _ | .requestAuthChallenge _ | .closeSession _ => true
  | _ => false

/-- The actions that server messages bring about. -/
def isReport : OutputAction → Bool
  | .stateChange _ => true
  | action => isAnswer action

def answers (e : ProtocolEngine Conn) : ℕ := e.outbox.countP isAnswer

/-! ## Counting answers -/

@[simp] theorem answers_become (e : ProtocolEngine Conn) (state : EngineState) :
    (e.become state).answers = e.answers := by
  unfold become
  split
  · simp [answers, isAnswer]
  · rfl

theorem answers_queue (e : ProtocolEngine Conn) {action : OutputAction}
    (h : isAnswer action = true) : (e.queue action).answers = e.answers + 1 := by
  simp [answers, queue, h]

theorem answers_noted (e : ProtocolEngine Conn) (event : TraceEvent) :
    (e.noted event).answers = e.answers := rfl

theorem answers_applyPushed (e : ProtocolEngine Conn) (opts : PushOptions) :
    (e.applyPushed opts).answers = e.answers := rfl

theorem answers_provision (e : ProtocolEngine Conn) (acc : Text) :
    (e.provision acc).answers = e.answers + 1 := by
  simp only [provision]
  rw [answers_noted, answers_queue _ rfl, answers_become, answers_applyPushed, answers, answers]

/-- One read brings about at most one answer, and none if it seems to be continued. -/
theorem answers_receive_le (e : ProtocolEngine Conn) (message : Text) :
    (e.receive message).answers ≤ e.answers + 1 := by
  rcases receive_cases e message with ⟨-, -, heq⟩ | ⟨-, -, heq⟩ | ⟨-, challenge, -, heq⟩ |
    ⟨-, -, -, heq⟩ | ⟨-, -, -, heq⟩
  · rw [heq]
    exact Nat.le_succ _
  · rw [heq, answers_provision]
  · rw [heq, answers_queue _ rfl, answers_become]
  · rw [heq, answers_queue _ rfl, answers_become]
  · rw [heq]
    exact Nat.le_succ _

theorem answers_receive_waits (e : ProtocolEngine Conn) {message : Text}
    (hpush : IsPushReply message) (hcont : IsContinued message) :
    (e.receive message).answers = e.answers := by
  rw [receive_continued e hpush hcont]
  rfl

theorem answers_receive (e : ProtocolEngine Conn) {m : ServerMessage} (h : ¬ m.Waits) :
    (e.receive m.text).answers = e.answers + 1 := by
  rcases receive_cases e m.text with ⟨hpush, hcont, -⟩ | ⟨-, -, heq⟩ | ⟨-, challenge, -, heq⟩ |
    ⟨-, -, -, heq⟩ | ⟨hpush, hch, hfailed, -⟩
  · exact absurd ⟨hpush, hcont⟩ h
  · rw [heq, answers_provision]
  · rw [heq, answers_queue _ rfl, answers_become]
  · rw [heq, answers_queue _ rfl, answers_become]
  · rcases m.kind with hstart | ⟨-, hsome | hcontains⟩
    · have hstart := List.isPrefixOf_iff_prefix.mp hstart
      exact absurd (Text.contains_iff_occurs.mpr hstart.isInfix) hpush
    · simp [hch] at hsome
    · exact absurd hcontains hfailed

/-- Messages that are answered. -/
def answered (messages : List ServerMessage) : ℕ := messages.countP fun m => decide ¬ m.Waits

theorem answers_readEach (messages : List ServerMessage) (e : ProtocolEngine Conn) :
    (e.readEach messages).answers = e.answers + answered messages := by
  induction messages generalizing e with
  | nil => rfl
  | cons m messages ih =>
      have hread : e.readEach (m :: messages) = (e.receive m.text).readEach messages := rfl
      rw [hread, ih]
      by_cases hm : m.Waits
      · simp [answers_receive_waits e hm.1 hm.2, answered, hm]
      · simp only [answers_receive e hm, answered, List.countP_cons, hm]
        simp
        omega

/-! ## Groups -/

/-- A read with one message, or with parts of a `PUSH_REPLY` that are all to be continued. -/
def Separable (group : List ServerMessage) : Prop :=
  group.length ≤ 1 ∨ ∀ m ∈ group, m.Waits

theorem isPushReply_joined {group : List ServerMessage} {m : ServerMessage} (hm : m ∈ group)
    (h : m.Waits) : IsPushReply (joined group) ∧ IsContinued (joined group) := by
  have hwithin : m.text <:+: joined group :=
    List.infix_of_mem_flatten (List.mem_map_of_mem hm)
  exact ⟨Text.contains_of_occurs hwithin h.1, Text.contains_of_occurs hwithin h.2⟩

/-- A group that is not separable gets fewer answers than its messages on their own. -/
theorem answers_receive_joined_lt (e : ProtocolEngine Conn) {group : List ServerMessage}
    (h : ¬ Separable group) : (e.receive (joined group)).answers < e.answers + answered group := by
  rw [Separable, not_or, not_le] at h
  obtain ⟨hlen, hall⟩ := h
  push Not at hall
  obtain ⟨m, hm, hmw⟩ := hall
  have hpos : 0 < answered group := List.countP_pos_iff.mpr ⟨m, hm, by simpa using hmw⟩
  by_cases hex : ∃ m' ∈ group, m'.Waits
  · obtain ⟨m', hm', hw⟩ := hex
    obtain ⟨hpush, hcont⟩ := isPushReply_joined hm' hw
    rw [answers_receive_waits e hpush hcont]
    omega
  · push Not at hex
    have hcount : answered group = group.length :=
      List.countP_eq_length.mpr fun m hm => by simpa using hex m hm
    have hle := answers_receive_le e (joined group)
    omega

theorem accumulate_append (acc text body : Text) :
    accumulate acc (text ++ ("PUSH_REPLY".toList ++ body)) =
      accumulate (accumulate acc text) ("PUSH_REPLY".toList ++ body) := by
  rw [accumulate_pushReply]
  simp only [accumulate, Text.split_append_pattern unbordered_pushReply pushReply_ne_nil,
    List.foldl_append]

/-- Parts that are all to be continued add up in the accumulator, read together or not. -/
theorem accumulate_joined {group : List ServerMessage} (hne : group ≠ [])
    (h : ∀ m ∈ group, m.Waits) (acc : Text) :
    accumulate acc (joined group) = group.foldl (fun acc m => accumulate acc m.text) acc := by
  induction group generalizing acc with
  | nil => contradiction
  | cons m group ih =>
      cases group with
      | nil => simp [joined]
      | cons m' group =>
          have hrest := ih (by simp) fun m hm => h m (List.mem_cons_of_mem _ hm)
          obtain ⟨body, hbody⟩ := (h m' (by simp)).exists_body
          have hjoined : joined (m' :: group) = "PUSH_REPLY".toList ++ (body ++ joined group) := by
            rw [joined_cons, hbody, List.append_assoc]
          rw [joined_cons, hjoined, accumulate_append, ← hjoined, hrest]
          rfl

theorem readEach_waits {group : List ServerMessage} (h : ∀ m ∈ group, m.Waits)
    (e : ProtocolEngine Conn) : e.readEach group = { e with
      pushedOptionsAccumulator :=
        group.foldl (fun acc m => accumulate acc m.text) e.pushedOptionsAccumulator } := by
  induction group generalizing e with
  | nil => rfl
  | cons m group ih =>
      have hm := h m (by simp)
      have hread : e.readEach (m :: group) = (e.receive m.text).readEach group := rfl
      rw [hread, ih fun m hm => h m (List.mem_cons_of_mem _ hm), receive_continued e hm.1 hm.2]
      rfl

theorem receive_joined_of_separable {group : List ServerMessage} (h : Separable group)
    (e : ProtocolEngine Conn) : e.receive (joined group) = e.readEach group := by
  cases group with
  | nil => exact receive_of_run (run_handleAppMessage_ignored (by decide) (by decide) (by decide))
  | cons m group =>
      cases group with
      | nil => simp [joined, readEach]
      | cons m' group =>
          have hwaits := h.resolve_left (by simp)
          obtain ⟨hpush, hcont⟩ := isPushReply_joined List.mem_cons_self (hwaits m (by simp))
          rw [receive_continued e hpush hcont, accumulate_joined (by simp) hwaits,
            readEach_waits hwaits]

/-! ## Reads and groups of reads -/

theorem readEach_append (e : ProtocolEngine Conn) (first second : List ServerMessage) :
    e.readEach (first ++ second) = (e.readEach first).readEach second := List.foldl_append

theorem readGrouped_of_separable {groups : List (List ServerMessage)}
    (h : ∀ group ∈ groups, Separable group) (e : ProtocolEngine Conn) :
    e.readGrouped groups = e.readEach groups.flatten := by
  induction groups generalizing e with
  | nil => rfl
  | cons group groups ih =>
      have hread : e.readGrouped (group :: groups) =
          (e.receive (joined group)).readGrouped groups := rfl
      rw [hread, ih fun g hg => h g (List.mem_cons_of_mem _ hg), List.flatten_cons,
        readEach_append, receive_joined_of_separable (h group (by simp))]

/-- Reading in groups never brings about more answers, and fewer if a group is not
separable. -/
theorem answers_readGrouped_le (groups : List (List ServerMessage)) (e : ProtocolEngine Conn) :
    (e.readGrouped groups).answers ≤ e.answers + answered groups.flatten ∧
      ((e.readGrouped groups).answers = e.answers + answered groups.flatten →
        ∀ group ∈ groups, Separable group) := by
  induction groups generalizing e with
  | nil => exact ⟨le_rfl, by simp⟩
  | cons group groups ih =>
      have hread : e.readGrouped (group :: groups) =
          (e.receive (joined group)).readGrouped groups := rfl
      have hcount : answered (group :: groups).flatten =
          answered group + answered groups.flatten := by
        simp [answered]
      obtain ⟨hle, hall⟩ := ih (e.receive (joined group))
      rw [hread, hcount]
      by_cases hgroup : Separable group
      · have hfirst : (e.receive (joined group)).answers = e.answers + answered group := by
          rw [receive_joined_of_separable hgroup, answers_readEach]
        refine ⟨by omega, fun heq => ?_⟩
        exact List.forall_mem_cons.mpr ⟨hgroup, hall (by omega)⟩
      · have hlt := answers_receive_joined_lt e hgroup
        exact ⟨by omega, fun heq => by omega⟩

/-- The grouping makes no difference: the same reports in the same order, and the same engine
in the end. -/
def GroupingIrrelevant (e : ProtocolEngine Conn) (groups : List (List ServerMessage)) : Prop :=
  (e.readGrouped groups).outbox.filter isReport =
      (e.readEach groups.flatten).outbox.filter isReport ∧
    e.readGrouped groups = e.readEach groups.flatten

theorem not_groupingIrrelevant (e : ProtocolEngine Conn) {groups : List (List ServerMessage)}
    {group : List ServerMessage} (hgroup : group ∈ groups) (h : ¬ Separable group) :
    ¬ GroupingIrrelevant e groups := by
  rintro ⟨-, heq⟩
  have hanswers : (e.readGrouped groups).answers = e.answers + answered groups.flatten := by
    rw [heq, answers_readEach]
  exact h ((answers_readGrouped_le groups e).2 hanswers group hgroup)

/-- Messages are handled independently of their grouping exactly if every read brings a single
message or only parts of a `PUSH_REPLY` that are all to be continued. -/
theorem grouping_irrelevant_iff (e : ProtocolEngine Conn) (groups : List (List ServerMessage)) :
    GroupingIrrelevant e groups ↔ ∀ group ∈ groups, Separable group := by
  constructor
  · intro h group hgroup
    by_contra hsep
    exact not_groupingIrrelevant e hgroup hsep h
  · intro h
    have heq := readGrouped_of_separable h e
    exact ⟨by rw [heq], heq⟩

/-- A fragment of a reply and the last part of it. -/
def fragment : ServerMessage where
  text := "PUSH_REPLY,peer-id 3,push-continuation 2".toList
  kind := .inl (by decide)

def lastPart : ServerMessage where
  text := "PUSH_REPLY,ping 10,push-continuation 1".toList
  kind := .inl (by decide)

/-- A fragment and the last part in one read: the engine waits for a continuation that has
already come. -/
theorem fragment_and_last_part_together :
    ¬ GroupingIrrelevant (Loopback.newEngine {}) [[fragment, lastPart]] := by
  have hlast : ¬ lastPart.Waits := by
    rintro ⟨-, hcont⟩
    exact absurd hcont (by decide)
  have hsep : ¬ Separable [fragment, lastPart] := by
    rintro (hlen | hwaits)
    · exact absurd hlen (by simp)
    · exact hlast (hwaits lastPart (by simp))
  exact not_groupingIrrelevant _ List.mem_cons_self hsep

end ProtocolEngine

end VpnHub.Protocol
