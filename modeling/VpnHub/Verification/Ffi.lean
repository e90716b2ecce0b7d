import VpnHub.Library.IpText
import VpnHub.Library.Json
import VpnHub.Library.Utf8
import VpnHub.Program.Ffi

/-! # The events of the C interface as JSON -/

namespace VpnHub.Ffi

open VpnHub.Core Json Protocol

/-! ## What a callback should receive -/

def eventType : SessionEvent → Int32
  | .stateChanged _ => eventStateChanged
  | .networkConfigured _ => eventNetworkConfigured
  | .authChallenge _ => eventAuthChallenge
  | .statsUpdated _ => eventStatsUpdated
  | .disconnected _ => eventDisconnected
  | .error _ => eventError

/-- The names and values of the fields of a challenge. -/
def challengeFields : AuthChallenge → List (Text × Text)
  | .crV1 flags stateId username prompt =>
    [("flags".toList, flags), ("state_id".toList, stateId), ("username".toList, username),
      ("prompt".toList, prompt)]
  | .webSso url => [("url".toList, url)]
  | .userPassRequired => []

/-- The decoded value gives back what the event says. An address that is not there is the empty
text. -/
def GivesBack (v : Json) : SessionEvent → Prop
  | .stateChanged state => v.field "state".toList = some (.str state.debug)
  | .networkConfigured prov =>
    v.field "ip".toList = some (.str ((prov.ipv4Address.map Ipv4Addr.toText).getD [])) ∧
      v.field "mtu".toList = some (.num prov.mtu.toNat 0)
  | .authChallenge ch => ∃ challenge, v.field "challenge".toList = some challenge ∧
      ∀ entry ∈ challengeFields ch, challenge.field entry.1 = some (.str entry.2)
  | .statsUpdated stats =>
    v.field "bytes_in".toList = some (.num stats.bytesIn.toNat 0) ∧
      v.field "bytes_out".toList = some (.num stats.bytesOut.toNat 0)
  | .disconnected reason => v.field "reason".toList = some (.str reason)
  | .error message => v.field "error".toList = some (.str message)

/-- The callback is called once, with the type of the event and a text that ends with its only
zero byte and is JSON for the event. -/
def Faithful (unprintable : Char → Bool) (userData : UInt64) (event : SessionEvent) : Prop :=
  ∃ text v, dispatch unprintable true userData event =
      [⟨eventType event, Text.utf8Encode text ++ [0], userData⟩] ∧
    0 ∉ Text.utf8Encode text ∧ parse text = some v ∧ GivesBack v event

/-- Every character stands for itself in a JSON string. -/
def PlainText (s : Text) : Prop := ∀ c ∈ s, c ≠ '"' ∧ c ≠ '\\' ∧ 0x20 ≤ c.toNat

/-- The event is no challenge, and its text, if it has one, is plain. -/
def PlainEvent : SessionEvent → Prop
  | .stateChanged _ | .networkConfigured _ | .statsUpdated _ => True
  | .authChallenge _ => False
  | .disconnected text | .error text => PlainText text

variable {unprintable : Char → Bool} {userData : UInt64} {event : SessionEvent} {s t : Text}
  {c : Char}

theorem isPlain_iff : isPlain c = true ↔ c ≠ '"' ∧ c ≠ '\\' ∧ 0x20 ≤ c.toNat := by
  simp [isPlain, and_assoc]

/-! ## Dispatching -/

/-- Of the texts only the payload can be the one that the callback receives. -/
theorem faithful_iff : Faithful unprintable userData event ↔
    0 ∉ Text.utf8Encode (payloadJson unprintable event).2 ∧
      ∃ v, parse (payloadJson unprintable event).2 = some v ∧ GivesBack v event := by
  have htype : (payloadJson unprintable event).1 = eventType event := by cases event <;> rfl
  rw [Faithful, dispatch, if_pos rfl]
  simp only [cString]
  by_cases hzero : 0 ∈ Text.utf8Encode (payloadJson unprintable event).2
  · rw [if_pos hzero]
    refine iff_of_false ?_ fun h => h.1 hzero
    rintro ⟨text, v, hcalls, -⟩
    cases hcalls
  · rw [if_neg hzero, htype]
    constructor
    · rintro ⟨text, v, hcalls, -, hparse, hgives⟩
      have hbytes := congrArg Invocation.jsonPayload (List.singleton_inj.mp hcalls)
      have htext := Text.utf8Encode_inj (List.append_cancel_right hbytes)
      exact ⟨hzero, v, htext ▸ hparse, hgives⟩
    · rintro ⟨-, v, hparse, hgives⟩
      exact ⟨_, v, rfl, hzero, hparse, hgives⟩

/-! ## Objects of one text -/

/-- The object with one member, a text as it is between quotation marks. -/
def textObject (name s : Text) : Text :=
  '{' :: '"' :: (name ++ '"' :: ':' :: ('"' :: s ++ ['"']) ++ ['}'])

theorem parse_textObject {name : Text} (hname : ∀ c ∈ name, isPlain c = true)
    (hs : PlainText s) : parse (textObject name s) = some (.obj [(name, .str s)]) :=
  parse_member hname (reads_str fun c hc => isPlain_iff.mpr (hs c hc))

/-- The text comes back only if it is plain. -/
theorem plainText_of_parse {name : Text} {v : Json} (h : parse (textObject name s) = some v)
    (hfield : v.field name = some (.str s)) : PlainText s := by
  have hcost := length_of_field h hfield
  simp only [textObject, List.length_cons, List.length_append, List.length_nil] at hcost
  exact fun c hc => isPlain_iff.mp (isPlain_of_cost_le (by omega) c hc)

theorem field_singleton (name : Text) (v : Json) : (Json.obj [(name, v)]).field name = some v := by
  simp [field]

/-! ## Zero bytes -/

/-- No control characters. -/
def Printable (s : Text) : Prop := ∀ c ∈ s, 0x20 ≤ c.toNat

theorem Printable.append (hs : Printable s) (ht : Printable t) : Printable (s ++ t) := by
  intro c hc
  rcases List.mem_append.mp hc with hc | hc
  · exact hs c hc
  · exact ht c hc

theorem PlainText.printable (h : PlainText s) : Printable s := fun c hc => (h c hc).2.2

theorem printable_of_all (h : s.all (fun c => decide (0x20 ≤ c.toNat)) = true) : Printable s :=
  fun c hc => of_decide_eq_true (List.all_eq_true.mp h c hc)

theorem printable_ofNat (n : ℕ) : Printable (Text.ofNat n) := by
  intro c hc
  have hdigit := Text.isDigit_of_mem_ofNat hc
  rw [Char.isDigit, Bool.and_eq_true, decide_eq_true_iff] at hdigit
  exact (by decide : 0x20 ≤ 48).trans hdigit.1

theorem Printable.zero_notMem (h : Printable s) : 0 ∉ Text.utf8Encode s := by
  refine Text.zero_notMem_utf8Encode fun hzero => ?_
  exact absurd (h _ hzero) (by decide)

/-! ## Events with a text -/

theorem faithful_iff_of_textObject (name s : Text) (hname : PlainText name)
    (hpayload : (payloadJson unprintable event).2 = textObject name s)
    (hgives : ∀ v, GivesBack v event ↔ v.field name = some (.str s)) :
    Faithful unprintable userData event ↔ PlainText s := by
  have hname' : ∀ c ∈ name, isPlain c = true := fun c hc => isPlain_iff.mpr (hname c hc)
  rw [faithful_iff, hpayload]
  constructor
  · rintro ⟨-, v, hparse, hback⟩
    exact plainText_of_parse hparse ((hgives v).mp hback)
  · intro hs
    have hprintable : Printable (textObject name s) := by
      have hquote : Printable ['"'] := printable_of_all (by decide)
      have hstart : Printable ['{', '"'] := printable_of_all (by decide)
      have hcolon : Printable ['"', ':', '"'] := printable_of_all (by decide)
      have hend : Printable ['"', '}'] := printable_of_all (by decide)
      have h := ((hstart.append hname.printable).append hcolon).append
        (hs.printable.append hend)
      simpa [textObject] using h
    exact ⟨hprintable.zero_notMem, _, parse_textObject hname' hs,
      (hgives _).mpr (field_singleton name _)⟩

theorem plainText_of_all (h : s.all isPlain = true) : PlainText s :=
  fun c hc => isPlain_iff.mp (List.all_eq_true.mp h c hc)

theorem plainText_debug (state : EngineState) : PlainText state.debug :=
  plainText_of_all (by cases state <;> decide)

/-! ## Events with numbers -/

/-- The object with two members as their texts are between the signs. -/
def pairObject (name text name' text' : Text) : Text :=
  '{' :: '"' :: (name ++ '"' :: ':' :: text ++ ',' :: ('"' :: name' ++ '"' :: ':' :: text' ++ ['}']))

theorem faithful_of_pairObject (name name' : Text) {text text' : Text} {v v' : Json}
    (hname : PlainText name) (hname' : PlainText name') (hvalue : Reads text v)
    (hvalue' : Reads text' v') (htext : Printable text) (htext' : Printable text')
    (hpayload : (payloadJson unprintable event).2 = pairObject name text name' text')
    (hgives : GivesBack (.obj [(name, v), (name', v')]) event) :
    Faithful unprintable userData event := by
  have hparse := parse_two_members (fun c hc => isPlain_iff.mpr (hname c hc)) hvalue
    (fun c hc => isPlain_iff.mpr (hname' c hc)) hvalue'
  have hprintable : Printable (pairObject name text name' text') := by
    have hstart : Printable ['{', '"'] := printable_of_all (by decide)
    have hcolon : Printable ['"', ':'] := printable_of_all (by decide)
    have hcomma : Printable [',', '"'] := printable_of_all (by decide)
    have hend : Printable ['}'] := printable_of_all (by decide)
    have h := ((hstart.append hname.printable).append hcolon).append (htext.append
      (hcomma.append (hname'.printable.append (hcolon.append (htext'.append hend)))))
    simpa [pairObject] using h
  rw [faithful_iff, hpayload]
  exact ⟨hprintable.zero_notMem, _, hparse, hgives⟩

theorem plainText_toText (addr : Ipv4Addr) : PlainText addr.toText := by
  intro c hc
  rcases IpAddr.isDigit_or_dot_of_mem_toText hc with hdigit | rfl
  · refine ⟨?_, ?_, ?_⟩
    · rintro rfl
      cases hdigit
    · rintro rfl
      cases hdigit
    · rw [Char.isDigit, Bool.and_eq_true, decide_eq_true_iff] at hdigit
      exact (by decide : 0x20 ≤ 48).trans hdigit.1
  · decide

/-! ## Challenges -/

/-- What `{:?}` prints of a challenge begins with a letter that begins no JSON value. -/
theorem exists_debug_eq (unprintable : Char → Bool) (ch : AuthChallenge) :
    ∃ c s, c.isUpper = true ∧ ch.debug unprintable = c :: s := by
  cases ch with
  | crV1 flags stateId username prompt => exact ⟨'C', _, by decide, rfl⟩
  | webSso url => exact ⟨'W', _, by decide, rfl⟩
  | userPassRequired => exact ⟨'U', _, by decide, rfl⟩

theorem not_faithful_authChallenge (ch : AuthChallenge) :
    ¬ Faithful unprintable userData (.authChallenge ch) := by
  obtain ⟨c, s, hc, hdebug⟩ := exists_debug_eq unprintable ch
  have hname : ∀ c ∈ "challenge".toList, isPlain c = true := by
    have hall : "challenge".toList.all isPlain = true := by decide
    exact List.all_eq_true.mp hall
  have hparse := parse_of_isUpper hname hc (s ++ ['}'])
  have hpayload : (payloadJson unprintable (.authChallenge ch)).2 =
      '{' :: '"' :: ("challenge".toList ++ '"' :: ':' :: c :: (s ++ ['}'])) := by
    simp [payloadJson, hdebug]
  rw [faithful_iff, hpayload, hparse]
  rintro ⟨-, v, hnone, -⟩
  cases hnone

/-- The events before the first error are handed over in their order, and nothing is after it. -/
theorem dispatchAll_error (unprintable : Char → Bool) (callback : Bool) (userData : UInt64)
    (events : List SessionEvent) {error : Received} (herror : ∀ event, error ≠ .event event)
    (rest : List Received) :
    dispatchAll unprintable callback userData (events.map Received.event ++ error :: rest) =
      events.flatMap (dispatch unprintable callback userData) := by
  induction events with
  | nil =>
    cases error with
    | event event => exact absurd rfl (herror event)
    | closed => rfl
    | lagged missed => rfl
  | cons event events ih =>
    rw [List.map_cons, List.cons_append, dispatchAll, ih, List.flatMap_cons]

/-- An event is handed over faithfully exactly if it is plain. -/
theorem dispatch_faithful_iff (unprintable : Char → Bool) (userData : UInt64)
    (event : SessionEvent) : Faithful unprintable userData event ↔ PlainEvent event := by
  cases event with
  | stateChanged state =>
    refine (faithful_iff_of_textObject "state".toList state.debug
      (plainText_of_all (by decide)) ?_ fun v => Iff.rfl).trans
      (iff_true_intro (plainText_debug state))
    simp [payloadJson, textObject]
  | networkConfigured prov =>
    refine iff_true_intro ?_
    let ip := (prov.ipv4Address.map Ipv4Addr.toText).getD []
    have hip : PlainText ip := by
      cases haddr : prov.ipv4Address with
      | none => simp [ip, haddr, PlainText]
      | some addr => simpa [ip, haddr] using plainText_toText addr
    have htext : Printable ('"' :: ip ++ ['"']) := by
      have hquote : Printable ['"'] := printable_of_all (by decide)
      exact (hquote.append hip.printable).append hquote
    refine faithful_of_pairObject "ip".toList "mtu".toList
      (plainText_of_all (by decide)) (plainText_of_all (by decide))
      (reads_str fun c hc => isPlain_iff.mpr (hip c hc)) (reads_num prov.mtu.toNat) htext
      (printable_ofNat _) ?_ ?_
    · simp [payloadJson, pairObject, ip]
    · exact ⟨field_pair_first (by decide) _ _, field_pair_second _ _ _ _⟩
  | authChallenge ch => exact iff_false_intro (not_faithful_authChallenge ch)
  | statsUpdated stats =>
    refine iff_true_intro ?_
    refine faithful_of_pairObject "bytes_in".toList "bytes_out".toList
      (plainText_of_all (by decide)) (plainText_of_all (by decide))
      (reads_num stats.bytesIn.toNat) (reads_num stats.bytesOut.toNat) (printable_ofNat _)
      (printable_ofNat _) ?_ ?_
    · simp [payloadJson, pairObject]
    · exact ⟨field_pair_first (by decide) _ _, field_pair_second _ _ _ _⟩
  | disconnected reason =>
    refine faithful_iff_of_textObject "reason".toList reason
      (plainText_of_all (by decide)) ?_ fun v => Iff.rfl
    simp [payloadJson, textObject]
  | error message =>
    refine faithful_iff_of_textObject "error".toList message
      (plainText_of_all (by decide)) ?_ fun v => Iff.rfl
    simp [payloadJson, textObject]

/-- A web login, and a reason with quotation marks. -/
theorem dispatch_not_faithful :
    ¬ Faithful (fun _ => false) 0 (.authChallenge (.webSso "https://sso.example/".toList)) ∧
      ¬ Faithful (fun _ => false) 0 (.disconnected "server said \"bye\"".toList) := by
  refine ⟨not_faithful_authChallenge _, ?_⟩
  rw [faithful_iff_of_textObject "reason".toList _ (plainText_of_all (by decide))
    (by simp [payloadJson, textObject]) fun v => Iff.rfl]
  intro h
  exact (h '"' (by decide)).1 rfl

end VpnHub.Ffi
