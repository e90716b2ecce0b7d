import VpnHub.Program.Proxy

/-! What the proxy clients have sent and read when they hand the connection over. -/

namespace VpnHub.Transport

open BigEndian

/-! ## Reading and writing -/

variable {α : Type} {s t : Duplex} {a : α}

theorem run_writeAll_bind (bytes : Bytes) (p : Unit → Handshake α) (s : Duplex) :
    (writeAll bytes >>= p).run s = (p ()).run { s with sent := s.sent ++ bytes } :=
  Prog.run_bind_of_ok rfl

/-- `read_exact` takes that many bytes off the front of what comes in. -/
theorem run_readExact_bind {n : ℕ} {p : Bytes → Handshake α} :
    (readExact n >>= p).run s = some (.ok a, t) ↔
      ∃ bytes rest, s.incoming = bytes ++ rest ∧ bytes.length = n ∧
        (p bytes).run { s with incoming := rest } = some (.ok a, t) := by
  obtain ⟨sent, incoming⟩ := s
  rw [Prog.run_bind_eq_ok]
  constructor
  · rintro ⟨bytes, u, hread, hp⟩
    simp only [readExact, Prog.run_ofFun, Option.some.injEq] at hread
    split at hread
    · cases hread
    · rename_i hlen
      cases hread
      exact ⟨_, _, (List.take_append_drop n incoming).symm,
        List.length_take_of_le (Nat.le_of_not_lt hlen), hp⟩
  · rintro ⟨bytes, rest, rfl, rfl, hp⟩
    refine ⟨bytes, _, ?_, hp⟩
    have hlen : ¬ (bytes ++ rest).length < bytes.length := by
      rw [List.length_append]
      omega
    simp only [readExact, Prog.run_ofFun, if_neg hlen, List.take_left, List.drop_left]

theorem run_readPair_bind {p : Bytes → Handshake α} :
    (readExact 2 >>= p).run s = some (.ok a, t) ↔
      ∃ x y rest, s.incoming = [x, y] ++ rest ∧
        (p [x, y]).run { s with incoming := rest } = some (.ok a, t) := by
  rw [run_readExact_bind]
  constructor
  · rintro ⟨bytes, rest, hin, hlen, hp⟩
    obtain ⟨x, y, rfl⟩ := List.length_eq_two.mp hlen
    exact ⟨x, y, rest, hin, hp⟩
  · rintro ⟨x, y, rest, hin, hp⟩
    exact ⟨_, rest, hin, rfl, hp⟩

/-- A check that is passed. -/
theorem run_throw_or {c : Prop} [Decidable c] {e : TransportError} {p : Handshake α} :
    (if c then throw e else p).run s = some (.ok a, t) ↔ ¬ c ∧ p.run s = some (.ok a, t) := by
  rw [Prog.run_ite]
  split
  · rename_i h
    exact ⟨nofun, fun h' => absurd h h'.1⟩
  · rename_i h
    exact ⟨fun hp => ⟨h, hp⟩, And.right⟩

/-- Bytes that are read and not looked at. -/
theorem run_readExact_done {n : ℕ} :
    (readExact n >>= fun _ => (pure () : Handshake Unit)).run s = some (.ok (), t) ↔
      ∃ bytes, s.incoming = bytes ++ t.incoming ∧ bytes.length = n ∧ t.sent = s.sent := by
  obtain ⟨sent', incoming'⟩ := t
  rw [run_readExact_bind]
  constructor
  · rintro ⟨bytes, rest, hin, hlen, hdone⟩
    cases hdone
    exact ⟨bytes, hin, hlen, rfl⟩
  · rintro ⟨bytes, hin, hlen, rfl⟩
    exact ⟨bytes, incoming', hin, hlen, rfl⟩

theorem run_done : (pure () : Handshake Unit).run s = some (.ok (), t) ↔ s = t := by
  simp

/-! ## SOCKS5 -/

namespace Socks5Client

/-- The proxy's side of a negotiation that succeeds, and the method it chooses. -/
inductive Negotiation : Bool → UInt8 → Bytes → Prop where
  | free (offered : Bool) : Negotiation offered 0x00 [0x05, 0x00]
  | credentials (version : UInt8) : Negotiation true 0x02 [0x05, 0x02, version, 0x00]

/-- Bound address and port, by the type of the address. -/
inductive BoundAddress : UInt8 → Bytes → Prop where
  | ipv4 {bytes} (h : bytes.length = 4 + 2) : BoundAddress 0x01 bytes
  | domain {len bytes} (h : bytes.length = len.toNat + 2) : BoundAddress 0x03 (len :: bytes)
  | ipv6 {bytes} (h : bytes.length = 16 + 2) : BoundAddress 0x04 bytes

/-- All replies of a proxy that accepts the connection. -/
inductive Replies (offered : Bool) (method : UInt8) : Bytes → Prop where
  | intro {negotiation bound reserved addressType} (hn : Negotiation offered method negotiation)
      (hb : BoundAddress addressType bound) :
      Replies offered method (negotiation ++ ([0x05, 0x00, reserved, addressType] ++ bound))

/-- What is sent until the connection is requested. -/
def greeting (auth : Option (Text × Text)) (method : UInt8) : Bytes :=
  match auth with
  | some (u, p) => [0x05, 0x02, 0x00, 0x02] ++ if method = 0x02 then authRequest u p else []
  | none => [0x05, 0x01, 0x00]

theorem run_negotiate {auth : Option (Text × Text)} :
    (negotiate auth).run s = some (.ok (), t) ↔
      ∃ method received, Negotiation auth.isSome method received ∧
        s.incoming = received ++ t.incoming ∧ t.sent = s.sent ++ greeting auth method := by
  obtain ⟨sent', incoming'⟩ := t
  cases auth with
  | none =>
      rw [negotiate, run_writeAll_bind, run_readPair_bind]
      constructor
      · rintro ⟨x, y, rest, hin, hrest⟩
        obtain ⟨hcheck, hdone⟩ := run_throw_or.mp hrest
        obtain ⟨hx, hy⟩ := not_or.mp hcheck
        obtain rfl : x = 0x05 := not_not.mp hx
        obtain rfl : y = 0x00 := not_not.mp hy
        cases run_done.mp hdone
        exact ⟨_, _, .free false, hin, rfl⟩
      · rintro ⟨method, received, hn, hin, rfl⟩
        cases hn with
        | free => exact ⟨_, _, _, hin, run_throw_or.mpr ⟨by decide, rfl⟩⟩
  | some creds =>
      rw [negotiate, run_writeAll_bind, run_readPair_bind]
      constructor
      · rintro ⟨x, y, rest, hin, hrun⟩
        obtain ⟨hx, hchoice⟩ := run_throw_or.mp hrun
        obtain rfl : x = 0x05 := not_not.mp hx
        clear hrun hx
        rw [Prog.run_ite] at hchoice
        split at hchoice
        · rename_i hy
          obtain rfl : y = 0x02 := hy
          rw [run_writeAll_bind, run_readPair_bind] at hchoice
          obtain ⟨version, z, rest', rfl, hrest⟩ := hchoice
          obtain ⟨hz, hdone⟩ := run_throw_or.mp hrest
          obtain rfl : z = 0x00 := not_not.mp hz
          cases run_done.mp hdone
          exact ⟨_, _, .credentials version, hin, List.append_assoc _ _ _⟩
        · obtain ⟨hy, hdone⟩ := run_throw_or.mp hchoice
          obtain rfl : y = 0x00 := not_not.mp hy
          cases run_done.mp hdone
          exact ⟨_, _, .free true, hin, rfl⟩
      · rintro ⟨method, received, hn, hin, rfl⟩
        cases hn with
        | free => exact ⟨_, _, _, hin, run_throw_or.mpr ⟨by decide, rfl⟩⟩
        | credentials version =>
            refine ⟨_, _, [version, 0x00] ++ incoming', hin, run_throw_or.mpr ⟨by decide, ?_⟩⟩
            rw [Prog.run_ite, if_pos (by decide), run_writeAll_bind, run_readPair_bind]
            refine ⟨_, _, _, rfl, run_throw_or.mpr ⟨not_not.mpr rfl, run_done.mpr ?_⟩⟩
            rw [List.append_assoc]
            rfl

theorem run_skipBound {addressType : UInt8} :
    (skipBound addressType).run s = some (.ok (), t) ↔
      ∃ bound, BoundAddress addressType bound ∧ s.incoming = bound ++ t.incoming ∧
        t.sent = s.sent := by
  unfold skipBound
  by_cases h1 : addressType = 0x01
  · subst h1
    rw [if_pos rfl, run_readExact_done]
    constructor
    · rintro ⟨bytes, hin, hlen, hsent⟩
      exact ⟨bytes, .ipv4 hlen, hin, hsent⟩
    · rintro ⟨bound, hb, hin, hsent⟩
      cases hb with
      | ipv4 hlen => exact ⟨bound, hin, hlen, hsent⟩
  by_cases h3 : addressType = 0x03
  · subst h3
    rw [if_neg h1, if_pos rfl, run_readExact_bind]
    constructor
    · rintro ⟨lenBuf, rest, hin, hlen, hrest⟩
      obtain ⟨len, rfl⟩ := List.length_eq_one_iff.mp hlen
      obtain ⟨bytes, hbytes, hlen', hsent⟩ := run_readExact_done.mp hrest
      refine ⟨len :: bytes, .domain hlen', ?_, hsent⟩
      rw [hin, show rest = bytes ++ t.incoming from hbytes]
      rfl
    · rintro ⟨bound, hb, hin, hsent⟩
      cases hb with
      | @domain len bytes hlen =>
          exact ⟨[len], bytes ++ t.incoming, hin, rfl,
            run_readExact_done.mpr ⟨bytes, rfl, hlen, hsent⟩⟩
  by_cases h4 : addressType = 0x04
  · subst h4
    rw [if_neg h1, if_neg h3, if_pos rfl, run_readExact_done]
    constructor
    · rintro ⟨bytes, hin, hlen, hsent⟩
      exact ⟨bytes, .ipv6 hlen, hin, hsent⟩
    · rintro ⟨bound, hb, hin, hsent⟩
      cases hb with
      | ipv6 hlen => exact ⟨bound, hin, hlen, hsent⟩
  rw [if_neg h1, if_neg h3, if_neg h4]
  constructor
  · intro h
    cases h
  · rintro ⟨bound, hb, -⟩
    cases hb with
    | ipv4 => exact absurd rfl h1
    | domain => exact absurd rfl h3
    | ipv6 => exact absurd rfl h4

/-! ### The replies are told apart from what follows them -/

theorem Negotiation.unique {offered : Bool} {method method' : UInt8}
    {bytes bytes' rest rest' : Bytes} (h : Negotiation offered method bytes)
    (h' : Negotiation offered method' bytes') (heq : bytes ++ rest = bytes' ++ rest') :
    method = method' ∧ bytes = bytes' ∧ rest = rest' := by
  cases h with
  | free =>
      cases h' with
      | free => exact ⟨rfl, rfl, List.append_cancel_left heq⟩
      | credentials => exact absurd (List.cons.inj (List.cons.inj heq).2).1 (by decide)
  | credentials version =>
      cases h' with
      | free => exact absurd (List.cons.inj (List.cons.inj heq).2).1 (by decide)
      | credentials version' =>
          obtain ⟨hbytes, hrest⟩ := List.append_inj heq rfl
          exact ⟨rfl, hbytes, hrest⟩

theorem BoundAddress.unique {addressType : UInt8} {bytes bytes' rest rest' : Bytes}
    (h : BoundAddress addressType bytes) (h' : BoundAddress addressType bytes')
    (heq : bytes ++ rest = bytes' ++ rest') : bytes = bytes' ∧ rest = rest' := by
  apply List.append_inj heq
  cases h with
  | ipv4 hlen =>
      cases h' with
      | ipv4 hlen' => rw [hlen, hlen']
  | ipv6 hlen =>
      cases h' with
      | ipv6 hlen' => rw [hlen, hlen']
  | domain hlen =>
      cases h' with
      | domain hlen' =>
          obtain ⟨hhead, -⟩ := List.cons.inj heq
          rw [List.length_cons, List.length_cons, hlen, hlen', hhead]

theorem Replies.unique {offered : Bool} {method method' : UInt8}
    {replies replies' rest rest' : Bytes} (h : Replies offered method replies)
    (h' : Replies offered method' replies') (heq : replies ++ rest = replies' ++ rest') :
    method = method' ∧ replies = replies' ∧ rest = rest' := by
  obtain ⟨hn, hb⟩ := h
  obtain ⟨hn', hb'⟩ := h'
  simp only [List.append_assoc] at heq
  obtain ⟨rfl, rfl, htail⟩ := hn.unique hn' heq
  obtain ⟨hheader, hbound⟩ := List.append_inj htail rfl
  obtain ⟨rfl, rfl⟩ : _ = _ ∧ _ = _ := by simpa using hheader
  obtain ⟨rfl, rfl⟩ := hb.unique hb' hbound
  exact ⟨rfl, rfl, rfl⟩

variable {host : Text} {port : UInt16} {auth : Option (Text × Text)}

/-- The client returns when the proxy sends all replies. It has read them then and nothing
else. -/
theorem run_connect :
    (connect host port auth).run s = some (.ok (), t) ↔
      ∃ method replies, Replies auth.isSome method replies ∧
        s.incoming = replies ++ t.incoming ∧
        t.sent = s.sent ++ (greeting auth method ++ connectRequest host port) := by
  obtain ⟨sent', incoming'⟩ := t
  rw [connect, Prog.run_bind_eq_ok]
  constructor
  · rintro ⟨⟨⟩, u, hnegotiate, hrest⟩
    obtain ⟨method, negotiation, hn, hin, hsent⟩ := run_negotiate.mp hnegotiate
    rw [run_writeAll_bind, run_readExact_bind] at hrest
    obtain ⟨header, rest, hin', hlen, hcheck⟩ := hrest
    obtain ⟨version, status, reserved, addressType, rfl⟩ := List.length_eq_four.mp hlen
    obtain ⟨hok, hskip⟩ := run_throw_or.mp hcheck
    obtain ⟨hversion, hstatus⟩ := not_or.mp hok
    obtain rfl : version = 0x05 := not_not.mp hversion
    obtain rfl : status = 0x00 := not_not.mp hstatus
    obtain ⟨bound, hb, hbound, hsent'⟩ := run_skipBound.mp hskip
    refine ⟨method, _, @Replies.intro _ _ negotiation bound reserved addressType hn hb, ?_, ?_⟩
    · rw [hin, show u.incoming = [0x05, 0x00, reserved, addressType] ++ rest from hin',
        show rest = bound ++ incoming' from hbound, List.append_assoc, List.append_assoc]
    · rw [hsent', ← List.append_assoc, ← hsent]
  · rintro ⟨method, replies, hr, hin, rfl⟩
    cases hr with
    | @intro negotiation bound reserved addressType hn hb =>
        refine ⟨(), ⟨s.sent ++ greeting auth method,
          [0x05, 0x00, reserved, addressType] ++ bound ++ incoming'⟩, ?_, ?_⟩
        · refine run_negotiate.mpr ⟨method, negotiation, hn, ?_, rfl⟩
          rw [hin, List.append_assoc]
        · rw [run_writeAll_bind, run_readExact_bind]
          refine ⟨[0x05, 0x00, reserved, addressType], bound ++ incoming', rfl, rfl,
            run_throw_or.mpr ⟨?_, run_skipBound.mpr ⟨bound, hb, rfl, ?_⟩⟩⟩
          · exact not_or.mpr ⟨not_not.mpr rfl, not_not.mpr rfl⟩
          · rw [List.append_assoc]

/-! ### What the proxy reads -/

/-- The contents of the three messages a client sends. -/
structure Request where
  methods : Bytes
  credentials : Option (Bytes × Bytes)
  host : Bytes
  port : UInt16
  deriving DecidableEq, Repr

/-- A length in one byte, then that many bytes. -/
def readCounted : Bytes → Option (Bytes × Bytes)
  | [] => none
  | n :: rest =>
    if rest.length < n.toNat then none else some (rest.take n.toNat, rest.drop n.toNat)

def readGreeting : Bytes → Option (Bytes × Bytes)
  | 0x05 :: rest => readCounted rest
  | _ => none

/-- User name and password have 1 to 255 bytes each. -/
def readCredentials : Bytes → Option ((Bytes × Bytes) × Bytes)
  | 0x01 :: rest =>
    (readCounted rest).bind fun user =>
      (readCounted user.2).bind fun pass =>
        if user.1 = [] ∨ pass.1 = [] then none else some ((user.1, pass.1), pass.2)
  | _ => none

/-- The request to connect to a host by its name, and nothing after it. -/
def readConnect : Bytes → Option (Bytes × UInt16)
  | 0x05 :: 0x01 :: 0x00 :: 0x03 :: rest =>
    (readCounted rest).bind fun host =>
      if host.2.length = 2 then some (host.1, UInt16.ofNat (ofBE host.2)) else none
  | _ => none

/-- What a client has sent to a proxy that chose the method. -/
def parseRequest (method : UInt8) (sent : Bytes) : Option Request :=
  (readGreeting sent).bind fun methods =>
    if method = 0x02 then
      (readCredentials methods.2).bind fun credentials =>
        (readConnect credentials.2).map fun target =>
          ⟨methods.1, some credentials.1, target.1, target.2⟩
    else
      (readConnect methods.2).map fun target => ⟨methods.1, none, target.1, target.2⟩

/-- What the client is to tell a proxy that chose the method. -/
def intended (host : Text) (port : UInt16) (auth : Option (Text × Text)) (method : UInt8) :
    Request where
  methods := if auth.isSome then [0x00, 0x02] else [0x00]
  credentials := if method = 0x02 then
      auth.map fun creds => (Text.utf8Encode creds.1, Text.utf8Encode creds.2)
    else none
  host := Text.utf8Encode host
  port := port

/-- The lengths of what a proxy is told fit into their bytes. -/
def LengthsFit (host : Text) (auth : Option (Text × Text)) (method : UInt8) : Prop :=
  (Text.utf8Encode host).length ≤ 255 ∧
    ∀ creds, auth = some creds → method = 0x02 →
      (1 ≤ (Text.utf8Encode creds.1).length ∧ (Text.utf8Encode creds.1).length ≤ 255) ∧
        1 ≤ (Text.utf8Encode creds.2).length ∧ (Text.utf8Encode creds.2).length ≤ 255

theorem readCounted_append {bytes : Bytes} (h : bytes.length ≤ 255) (rest : Bytes) :
    readCounted (UInt8.ofNat bytes.length :: (bytes ++ rest)) = some (bytes, rest) := by
  have hn : (UInt8.ofNat bytes.length).toNat = bytes.length := by
    rw [UInt8.toNat_ofNat', Nat.mod_eq_of_lt (Nat.lt_succ_of_le h)]
  have hlen : ¬ (bytes ++ rest).length < bytes.length := by
    rw [List.length_append]
    omega
  simp only [readCounted, hn, if_neg hlen, List.take_left, List.drop_left]

/-- A length of one byte counts no more than 255. -/
theorem length_of_readCounted {bytes : Bytes} {field : Bytes × Bytes}
    (h : readCounted bytes = some field) : field.1.length ≤ 255 := by
  cases bytes with
  | nil => cases h
  | cons n rest =>
      have hn := n.toNat_lt
      rw [readCounted] at h
      split at h
      · cases h
      · cases h
        rw [List.length_take]
        omega

theorem length_of_readCredentials {bytes rest user pass : Bytes}
    (h : readCredentials bytes = some ((user, pass), rest)) :
    (1 ≤ user.length ∧ user.length ≤ 255) ∧ 1 ≤ pass.length ∧ pass.length ≤ 255 := by
  unfold readCredentials at h
  split at h
  · obtain ⟨u, hu, h⟩ := Option.bind_eq_some_iff.mp h
    obtain ⟨p, hp, h⟩ := Option.bind_eq_some_iff.mp h
    split at h
    · cases h
    · rename_i hne
      cases h
      obtain ⟨huser, hpass⟩ := not_or.mp hne
      exact ⟨⟨List.length_pos_of_ne_nil huser, length_of_readCounted hu⟩,
        List.length_pos_of_ne_nil hpass, length_of_readCounted hp⟩
  · cases h

theorem length_of_readConnect {bytes : Bytes} {target : Bytes × UInt16}
    (h : readConnect bytes = some target) : target.1.length ≤ 255 := by
  unfold readConnect at h
  split at h
  · obtain ⟨field, hfield, h⟩ := Option.bind_eq_some_iff.mp h
    split at h
    · cases h
      exact length_of_readCounted hfield
    · cases h
  · cases h

theorem readCredentials_authRequest {u p : Text}
    (hu : 1 ≤ (Text.utf8Encode u).length ∧ (Text.utf8Encode u).length ≤ 255)
    (hp : 1 ≤ (Text.utf8Encode p).length ∧ (Text.utf8Encode p).length ≤ 255) (rest : Bytes) :
    readCredentials (authRequest u p ++ rest) =
      some ((Text.utf8Encode u, Text.utf8Encode p), rest) := by
  have hbytes : authRequest u p ++ rest =
      0x01 :: (UInt8.ofNat (Text.utf8Encode u).length :: (Text.utf8Encode u ++
        (UInt8.ofNat (Text.utf8Encode p).length :: (Text.utf8Encode p ++ rest)))) := by
    simp only [authRequest, List.append_assoc, List.cons_append, List.nil_append]
  have hne : ¬ (Text.utf8Encode u = [] ∨ Text.utf8Encode p = []) :=
    not_or.mpr ⟨List.ne_nil_of_length_pos hu.1, List.ne_nil_of_length_pos hp.1⟩
  rw [hbytes, readCredentials, readCounted_append hu.2, Option.bind_some,
    readCounted_append hp.2, Option.bind_some, if_neg hne]

theorem readConnect_connectRequest (hhost : (Text.utf8Encode host).length ≤ 255) :
    readConnect (connectRequest host port) = some (Text.utf8Encode host, port) := by
  have hport : UInt16.ofNat (ofBE (toBE 2 port.toNat)) = port := by
    have hlt : port.toNat < 256 ^ 2 := port.toNat_lt
    rw [ofBE_toBE, Nat.mod_eq_of_lt hlt, UInt16.ofNat_toNat]
  have hbytes : connectRequest host port =
      0x05 :: 0x01 :: 0x00 :: 0x03 :: (UInt8.ofNat (Text.utf8Encode host).length ::
        (Text.utf8Encode host ++ toBE 2 port.toNat)) := by
    simp only [connectRequest, List.cons_append, List.nil_append]
  rw [hbytes, readConnect, readCounted_append hhost, Option.bind_some,
    if_pos (length_toBE 2 port.toNat), hport]

theorem map_readConnect_iff (methods : Bytes) (credentials : Option (Bytes × Bytes)) :
    ((readConnect (connectRequest host port)).map fun target =>
        (⟨methods, credentials, target.1, target.2⟩ : Request)) =
      some ⟨methods, credentials, Text.utf8Encode host, port⟩ ↔
        (Text.utf8Encode host).length ≤ 255 := by
  constructor
  · intro h
    obtain ⟨target, hread, htarget⟩ := Option.map_eq_some_iff.mp h
    have hhost : target.1 = Text.utf8Encode host := congrArg Request.host htarget
    rw [← hhost]
    exact length_of_readConnect hread
  · intro h
    rw [readConnect_connectRequest h]
    rfl

/-- A proxy reads what the client is to tell it exactly when the lengths fit. -/
theorem parseRequest_iff {method : UInt8} {received : Bytes}
    (hn : Negotiation auth.isSome method received) :
    parseRequest method (greeting auth method ++ connectRequest host port) =
      some (intended host port auth method) ↔ LengthsFit host auth method := by
  cases auth with
  | none =>
      cases hn with
      | free =>
          have hgreeting : readGreeting (greeting none 0x00 ++ connectRequest host port) =
              some ([0x00], connectRequest host port) := rfl
          rw [parseRequest, hgreeting, Option.bind_some, if_neg (by decide), LengthsFit]
          refine (map_readConnect_iff _ _).trans ⟨fun h => ⟨h, nofun⟩, And.left⟩
  | some creds =>
      obtain ⟨u, p⟩ := creds
      cases hn with
      | free =>
          have hgreeting : readGreeting (greeting (some (u, p)) 0x00 ++
              connectRequest host port) = some ([0x00, 0x02], connectRequest host port) := rfl
          rw [parseRequest, hgreeting, Option.bind_some, if_neg (by decide), LengthsFit]
          refine (map_readConnect_iff _ _).trans ⟨fun h => ⟨h, fun _ _ h2 => ?_⟩, And.left⟩
          exact absurd h2 (by decide)
      | credentials version =>
          have hgreeting : readGreeting (greeting (some (u, p)) 0x02 ++
              connectRequest host port) =
              some ([0x00, 0x02], authRequest u p ++ connectRequest host port) := rfl
          rw [parseRequest, hgreeting, Option.bind_some, if_pos rfl, LengthsFit]
          constructor
          · intro h
            obtain ⟨⟨⟨user, pass⟩, rest⟩, hread, hmap⟩ := Option.bind_eq_some_iff.mp h
            obtain ⟨target, hconnect, htarget⟩ := Option.map_eq_some_iff.mp hmap
            have hhost : target.1 = Text.utf8Encode host := congrArg Request.host htarget
            have hcreds : some (user, pass) = some (Text.utf8Encode u, Text.utf8Encode p) :=
              congrArg Request.credentials htarget
            cases hcreds
            refine ⟨hhost ▸ length_of_readConnect hconnect, ?_⟩
            intro creds heq _
            cases heq
            exact length_of_readCredentials hread
          · rintro ⟨hhost, hcreds⟩
            obtain ⟨hu, hp⟩ := hcreds (u, p) rfl rfl
            rw [readCredentials_authRequest hu hp, Option.bind_some]
            exact (map_readConnect_iff _ _).mpr hhost

/-- When the client returns, it has told the proxy what it is to tell it and read the replies of
the proxy, all of them and nothing else. -/
def HandsOver (host : Text) (port : UInt16) (auth : Option (Text × Text)) (stream : Bytes) :
    Prop :=
  ∀ t, (connect host port auth).run { incoming := stream } = some (.ok (), t) →
    ∃ method replies, Replies auth.isSome method replies ∧ stream = replies ++ t.incoming ∧
      parseRequest method t.sent = some (intended host port auth method)

theorem handsOver_iff (host : Text) (port : UInt16) (auth : Option (Text × Text))
    (stream : Bytes) :
    HandsOver host port auth stream ↔
      ∀ method replies tunnel, stream = replies ++ tunnel →
        Replies auth.isSome method replies → LengthsFit host auth method := by
  have hsent (method : UInt8) : [] ++ (greeting auth method ++ connectRequest host port) =
      greeting auth method ++ connectRequest host port := List.nil_append _
  constructor
  · rintro h method replies tunnel rfl hr
    obtain ⟨method', replies', hr', heq, hparse⟩ :=
      h ⟨_, tunnel⟩ (run_connect.mpr ⟨method, replies, hr, rfl, rfl⟩)
    obtain ⟨rfl, rfl, -⟩ := hr.unique hr' heq
    cases hr with
    | intro hn hb => exact (parseRequest_iff hn).mp hparse
  · intro h t hrun
    obtain ⟨method, replies, hr, hin, hsent⟩ := run_connect.mp hrun
    refine ⟨method, replies, hr, hin, ?_⟩
    have hfit := h method replies t.incoming hin hr
    cases hr with
    | intro hn hb =>
        rw [hsent]
        exact (parseRequest_iff hn).mpr hfit

end Socks5Client

/-! ## HTTP CONNECT -/

namespace HttpConnectClient

/-- A response header: it ends with the first empty line in it. -/
def IsHeader (header : Bytes) : Prop :=
  terminator <:+ header ∧ ∀ part, part <+: header → terminator <:+ part → part = header

/-- Why the loop stops. -/
theorem terminated_or_full {respBuf : Bytes} (hlen : respBuf.length ≤ 4096)
    (hstop : ¬ (¬ terminator <:+ respBuf ∧ respBuf.length < 4096)) :
    terminator <:+ respBuf ∨ respBuf.length = 4096 := by
  by_cases hterm : terminator <:+ respBuf
  · exact .inl hterm
  · exact .inr (hlen.antisymm (Nat.le_of_not_lt fun hlt => hstop ⟨hterm, hlt⟩))

/-- What has been read is a header, or the limit is reached without one. -/
theorem readHeader_ok {respBuf incoming header rest : Bytes}
    (hbuf : ∀ part, part <+: respBuf → terminator <:+ part → part = respBuf)
    (hlen : respBuf.length ≤ 4096) (h : readHeader respBuf incoming = (.ok header, rest)) :
    respBuf ++ incoming = header ++ rest ∧
      (∀ part, part <+: header → terminator <:+ part → part = header) ∧
      (terminator <:+ header ∨ header.length = 4096) := by
  induction incoming generalizing respBuf with
  | nil =>
      rw [readHeader] at h
      split at h
      · cases h
      · rename_i hstop
        cases h
        exact ⟨rfl, hbuf, terminated_or_full hlen hstop⟩
  | cons b incoming ih =>
      rw [readHeader] at h
      split at h
      · rename_i hgo
        obtain ⟨hterm, hshort⟩ := hgo
        have hnext : ∀ part, part <+: respBuf ++ [b] → terminator <:+ part →
            part = respBuf ++ [b] := by
          intro part hpart hend
          obtain hpart | hpart := List.prefix_concat_iff.mp hpart
          · exact hpart
          · exact absurd (hbuf part hpart hend ▸ hend) hterm
        have hlen' : (respBuf ++ [b]).length ≤ 4096 := by
          rw [List.length_append, List.length_singleton]
          omega
        obtain ⟨heq, hrest⟩ := ih hnext hlen' h
        refine ⟨?_, hrest⟩
        rw [← heq, List.append_assoc]
        rfl
      · rename_i hstop
        cases h
        exact ⟨rfl, hbuf, terminated_or_full hlen hstop⟩

/-- Without an empty line the first 4096 bytes are taken for the header. -/
theorem readHeader_full {respBuf incoming : Bytes} (hlen : respBuf.length ≤ 4096)
    (hlong : 4096 ≤ (respBuf ++ incoming).length)
    (hnone : ¬ terminator <:+: (respBuf ++ incoming).take 4096) :
    readHeader respBuf incoming =
      (.ok ((respBuf ++ incoming).take 4096), (respBuf ++ incoming).drop 4096) := by
  induction incoming generalizing respBuf with
  | nil =>
      rw [List.append_nil] at hlong hnone ⊢
      have hfull : ¬ (¬ terminator <:+ respBuf ∧ respBuf.length < 4096) := by omega
      rw [readHeader, if_neg hfull, List.take_of_length_le hlen, List.drop_of_length_le hlen]
  | cons b incoming ih =>
      by_cases hshort : respBuf.length < 4096
      · have hterm : ¬ terminator <:+ respBuf := by
          intro hend
          apply hnone
          have hpre : respBuf <+: (respBuf ++ b :: incoming).take 4096 := by
            rw [List.take_append, List.take_of_length_le hlen]
            exact List.prefix_append _ _
          exact hend.isInfix.trans hpre.isInfix
        have hstep : respBuf ++ b :: incoming = respBuf ++ [b] ++ incoming := by
          rw [List.append_assoc]
          rfl
        have hlen' : (respBuf ++ [b]).length ≤ 4096 := by
          rw [List.length_append, List.length_singleton]
          omega
        rw [hstep] at hlong hnone ⊢
        rw [readHeader, if_pos ⟨hterm, hshort⟩]
        exact ih hlen' hlong hnone
      · have hfull : respBuf.length = 4096 := by omega
        rw [readHeader, if_neg fun h => hshort h.2, List.take_left' hfull, List.drop_left' hfull]

variable {host : Text} {port : UInt16} {auth : Option (Text × Text)}

theorem run_connect :
    (connect host port auth).run s = some (.ok (), t) ↔
      ∃ header, readHeader [] s.incoming = (.ok header, t.incoming) ∧ accepts header = true ∧
        t.sent = s.sent ++ Text.utf8Encode (request host port auth) := by
  obtain ⟨sent', incoming'⟩ := t
  rw [connect, run_writeAll_bind, Prog.run_bind_eq_ok]
  constructor
  · rintro ⟨header, u, hread, hrest⟩
    rw [Prog.run_ofFun, Option.some.injEq] at hread
    obtain ⟨hheader, rfl⟩ := Prod.mk.inj hread
    rw [Prog.run_ite] at hrest
    split at hrest
    · rename_i haccepts
      cases hrest
      exact ⟨header, Prod.ext hheader rfl, haccepts, rfl⟩
    · cases hrest
  · rintro ⟨header, hread, haccepts, rfl⟩
    refine ⟨header, ⟨s.sent ++ Text.utf8Encode (request host port auth), incoming'⟩, ?_, ?_⟩
    · rw [Prog.run_ofFun, hread]
    · rw [if_pos haccepts, Prog.run_pure]

/-- When the client returns, it has read the response header and nothing else. -/
def HandsOver (host : Text) (port : UInt16) (auth : Option (Text × Text)) (stream : Bytes) :
    Prop :=
  ∀ t, (connect host port auth).run { incoming := stream } = some (.ok (), t) →
    ∃ header, IsHeader header ∧ stream = header ++ t.incoming

theorem handsOver_iff (host : Text) (port : UInt16) (auth : Option (Text × Text))
    (stream : Bytes) :
    HandsOver host port auth stream ↔
      (4096 ≤ stream.length → accepts (stream.take 4096) = true →
        terminator <:+: stream.take 4096) := by
  constructor
  · intro h hlong haccepts
    by_contra hnone
    have hread : readHeader [] stream = (.ok (stream.take 4096), stream.drop 4096) :=
      readHeader_full (Nat.zero_le 4096) hlong hnone
    obtain ⟨header, hheader, heq⟩ :=
      h ⟨_, stream.drop 4096⟩ (run_connect.mpr ⟨_, hread, haccepts, rfl⟩)
    have hsplit : stream.take 4096 ++ stream.drop 4096 = header ++ stream.drop 4096 := by
      rw [List.take_append_drop, ← heq]
    have htake : stream.take 4096 = header := List.append_cancel_right hsplit
    exact hnone (htake ▸ hheader.1.isInfix)
  · intro h t hrun
    obtain ⟨header, hread, haccepts, -⟩ := run_connect.mp hrun
    have hempty : ∀ part, part <+: ([] : Bytes) → terminator <:+ part → part = [] :=
      fun part hpart _ => List.prefix_nil.mp hpart
    obtain ⟨heq, hfirst, hend⟩ := readHeader_ok hempty (Nat.zero_le 4096) hread
    refine ⟨header, ⟨?_, hfirst⟩, heq⟩
    obtain hend | hlen := hend
    · exact hend
    · have htake : stream.take 4096 = header := by
        rw [show stream = header ++ t.incoming from heq]
        exact List.take_left' hlen
      have hlong : 4096 ≤ stream.length := by
        rw [← hlen, ← htake]
        exact List.length_take_le' _ _
      obtain ⟨before, after, hline⟩ := htake ▸ h hlong (htake ▸ haccepts)
      have hpart : before ++ terminator <+: header := ⟨after, hline⟩
      have hsuffix : terminator <:+ before ++ terminator := List.suffix_append _ _
      exact hfirst _ hpart hsuffix ▸ hsuffix

end HttpConnectClient

/-- Both clients hand a connection over exactly: the SOCKS5 client when the lengths of what it
tells a proxy that accepts fit into their bytes, the HTTP client unless the first 4096 bytes of
the response report success and hold no empty line. -/
theorem handOver_exact_iff (host : Text) (port : UInt16) (auth : Option (Text × Text))
    (stream : Bytes) :
    (Socks5Client.HandsOver host port auth stream ↔
        ∀ method replies tunnel, stream = replies ++ tunnel →
          Socks5Client.Replies auth.isSome method replies →
            Socks5Client.LengthsFit host auth method) ∧
      (HttpConnectClient.HandsOver host port auth stream ↔
        (4096 ≤ stream.length → HttpConnectClient.accepts (stream.take 4096) = true →
          HttpConnectClient.terminator <:+: stream.take 4096)) :=
  ⟨Socks5Client.handsOver_iff host port auth stream,
    HttpConnectClient.handsOver_iff host port auth stream⟩

/-- A host name of 256 letters is sent with the length 0, and a response header of more than
4096 bytes is not read to its end. -/
theorem handOver_shifted :
    ¬ Socks5Client.HandsOver (List.replicate 256 'a') 1194 none
        [0x05, 0x00, 0x05, 0x00, 0x00, 0x01, 0, 0, 0, 0, 0, 0] ∧
      ¬ HttpConnectClient.HandsOver "vpn".toList 1194 none
        (Text.utf8Encode "HTTP/1.1 200 OK".toList ++ List.replicate 4096 32 ++
          HttpConnectClient.terminator) := by
  constructor
  · rw [Socks5Client.handsOver_iff]
    intro h
    have hfit := h 0x00 _ [] (List.append_nil _).symm
      (@Socks5Client.Replies.intro false 0x00 [0x05, 0x00] [0, 0, 0, 0, 0, 0] 0x00 0x01
        (.free false) (.ipv4 rfl))
    exact absurd hfit.1 (by decide +kernel)
  · rw [HttpConnectClient.handsOver_iff]
    intro h
    have hline := h (by decide +kernel) (by decide +kernel)
    rw [List.take_append_of_le_length (by decide +kernel)] at hline
    -- without a carriage return there is no empty line
    have hcr : 0x0D ∈ Text.utf8Encode "HTTP/1.1 200 OK".toList ++ List.replicate 4096 32 :=
      List.mem_of_mem_take (hline.subset List.mem_cons_self)
    obtain hcr | hcr := List.mem_append.mp hcr
    · exact absurd hcr (by decide)
    · exact absurd (List.eq_of_mem_replicate hcr) (by decide)

end VpnHub.Transport
