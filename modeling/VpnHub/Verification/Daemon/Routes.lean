import VpnHub.Library.IpText
import VpnHub.Model.Notation
import VpnHub.Program.Daemon.Driver
import VpnHub.Verification.Push.Merging
import VpnHub.Verification.Push.Reordering

/-! # Subnets as text

What the readers of a subnet make of its notations, and what becomes of the netmask of a pushed
route. -/

namespace VpnHub.Daemon

open IpAddr

variable {addr mask : Ipv4Addr} {len : ℕ}

/-! ## The canonical notations -/

theorem countOnes_le (mask : Ipv4Addr) : mask.countOnes ≤ 32 := by
  have hle := List.countP_le_length (p := mask.toNat.testBit) (l := List.range 32)
  rwa [List.length_range] at hle

/-- No length looks like an address. -/
theorem ofNat_len : ∀ n < 33, Text.ofNat n ≠ "255.255.255.255".toList ∧
    parseIpv4 (Text.ofNat n) = none := by
  decide +kernel

theorem parse_toText (addr : Ipv4Addr) : Ipv4Net.parse addr.toText = some ⟨addr, 32⟩ := by
  rw [Ipv4Net.parse, parseIpv4_toText]

theorem parse_cidr (addr : Ipv4Addr) (h : len ≤ 32) :
    Ipv4Net.parse (addr.toText ++ '/' :: Text.ofNat len) = some ⟨addr, len⟩ := by
  rw [Ipv4Net.parse, parseIpv4_toText_append addr (by decide),
    Text.splitOnce_append (slash_notMem_toText addr)]
  simp [parseIpv4_toText, Text.parseUnsigned_ofNat len (by omega)]

theorem trim_toText_append {rest : Text} (h : ∀ c ∈ rest.getLast?, Text.isWhitespace c = false) :
    Text.trim (addr.toText ++ rest) = addr.toText ++ rest := by
  refine Text.trim_eq_self (fun c hc => ?_) fun c hc => ?_
  · rw [List.head?_append_of_ne_nil _ (toText_ne_nil addr)] at hc
    exact not_isWhitespace_of_mem_toText (List.mem_of_mem_head? hc)
  · rw [List.getLast?_append] at hc
    rcases Option.or_eq_some_iff.mp hc with hc | ⟨-, hc⟩
    · exact h c hc
    · exact not_isWhitespace_of_mem_toText (List.mem_of_mem_getLast? hc)

theorem cidrText_length (addr : Ipv4Addr) (h : len ≤ 32) :
    cidrText (addr.toText ++ '/' :: Text.ofNat len) = addr.toText ++ '/' :: Text.ofNat len := by
  obtain ⟨hne, hparse⟩ := ofNat_len len (by omega)
  rw [cidrText, Text.splitOnce_append (slash_notMem_toText addr)]
  simp only [if_neg hne, hparse]

theorem cidrText_mask (addr mask : Ipv4Addr) : cidrText (addr.toText ++ '/' :: mask.toText) =
    addr.toText ++ '/' :: Text.ofNat mask.countOnes := by
  rw [cidrText, Text.splitOnce_append (slash_notMem_toText addr)]
  by_cases hone : mask.toText = "255.255.255.255".toList
  · have hmask := parseIpv4_toText mask
    rw [hone] at hmask
    obtain rfl : (⟨255, 255, 255, 255⟩ : Ipv4Addr) = mask :=
      Option.some.inj ((by decide : _ = _).symm.trans hmask)
    have hsuffix : "/32".toList =
        '/' :: Text.ofNat (Ipv4Addr.countOnes ⟨255, 255, 255, 255⟩) := by decide +kernel
    simp only [if_pos hone, hsuffix]
  · simp only [if_neg hone, parseIpv4_toText]

/-! ## The three readers -/

namespace SubnetNotation

variable {form : SubnetNotation}

theorem getLast?_suffix (h : form.Valid) :
    ∀ c ∈ form.suffix.getLast?, Text.isWhitespace c = false := by
  have hmask (mask : Ipv4Addr) (c d : Char) (hd : d ∈ (c :: mask.toText).getLast?) :
      Text.isWhitespace d = false := by
    rw [List.getLast?_cons_of_ne_nil (toText_ne_nil mask)] at hd
    exact not_isWhitespace_of_mem_toText (List.mem_of_mem_getLast? hd)
  cases form with
  | address => simp [suffix]
  | length len =>
      intro c hc
      rcases List.mem_cons.mp (List.mem_of_mem_getLast? hc) with rfl | hc
      · decide
      · exact Text.not_isWhitespace_of_isDigit (Text.isDigit_of_mem_ofNat hc)
  | slashMask mask => exact hmask mask '/'
  | blankMask mask => exact hmask mask ' '

/-- What the readers see of a notation between blanks. -/
theorem trim_text {front back : Text} (h : form.Valid)
    (hfront : ∀ c ∈ front, Text.isWhitespace c = true)
    (hback : ∀ c ∈ back, Text.isWhitespace c = true) (addr : Ipv4Addr) :
    Text.trim (front ++ (addr.toText ++ form.suffix) ++ back) = addr.toText ++ form.suffix := by
  rw [Text.trim_append_right_of_all hback, Text.trim_append_of_all hfront,
    trim_toText_append (getLast?_suffix h)]

end SubnetNotation

theorem blank_notMem_toText (addr : Ipv4Addr) : ' ' ∉ addr.toText := fun h =>
  absurd (not_isWhitespace_of_mem_toText h) (by decide)

theorem slash_notMem_blankMask (addr mask : Ipv4Addr) :
    '/' ∉ addr.toText ++ ' ' :: mask.toText := by
  simp [slash_notMem_toText]

theorem words_blankMask (addr mask : Ipv4Addr) :
    Text.splitWhitespace (addr.toText ++ ' ' :: mask.toText) = [addr.toText, mask.toText] := by
  have hword (a : Ipv4Addr) : ∀ c ∈ a.toText, Text.isWhitespace c = false :=
    fun c hc => not_isWhitespace_of_mem_toText hc
  rw [Text.splitWhitespace_append (toText_ne_nil addr) (hword addr) (by simp; rfl),
    Text.splitWhitespace_cons_of_pos (by decide),
    Text.splitWhitespace_word (toText_ne_nil mask) (hword mask)]

/-- A text without blanks is one word. -/
theorem words_suffix {form : SubnetNotation} (h : form.Valid)
    (hform : ∀ mask, form ≠ .blankMask mask) (addr : Ipv4Addr) :
    Text.splitWhitespace (addr.toText ++ form.suffix) = [addr.toText ++ form.suffix] := by
  have hsuffix : ∀ c ∈ form.suffix, Text.isWhitespace c = false := by
    cases form with
    | address => simp [SubnetNotation.suffix]
    | length len =>
        intro c hc
        rcases List.mem_cons.mp hc with rfl | hc
        · decide
        · exact Text.not_isWhitespace_of_isDigit (Text.isDigit_of_mem_ofNat hc)
    | slashMask mask =>
        intro c hc
        rcases List.mem_cons.mp hc with rfl | hc
        · decide
        · exact not_isWhitespace_of_mem_toText hc
    | blankMask mask => exact absurd rfl (hform mask)
  refine Text.splitWhitespace_word (by simp [toText_ne_nil]) fun c hc => ?_
  rcases List.mem_append.mp hc with hc | hc
  · exact not_isWhitespace_of_mem_toText hc
  · exact hsuffix c hc

/-- On Linux every notation is turned into the canonical one. -/
theorem routedOnLinux_eq {form : SubnetNotation} {s : Text} (h : form.Valid)
    (htrim : Text.trim s = addr.toText ++ form.suffix) :
    routedOnLinux s = some ⟨addr, form.len⟩ := by
  unfold routedOnLinux normalizeRoute
  simp only [htrim]
  cases form with
  | address =>
      simp only [SubnetNotation.suffix, List.append_nil,
        Text.splitOnce_of_notMem (slash_notMem_toText addr), if_neg (blank_notMem_toText addr)]
      exact parse_toText addr
  | length len =>
      simp only [SubnetNotation.suffix, Text.splitOnce_append (slash_notMem_toText addr),
        cidrText_length addr h]
      exact parse_cidr addr h
  | slashMask mask =>
      simp only [SubnetNotation.suffix, Text.splitOnce_append (slash_notMem_toText addr),
        cidrText_mask]
      exact parse_cidr addr (countOnes_le mask)
  | blankMask mask =>
      have hblank : ' ' ∈ addr.toText ++ ' ' :: mask.toText := by simp
      simp only [SubnetNotation.suffix, if_pos hblank, words_blankMask, parseIpv4_toText,
        Text.splitOnce_of_notMem (slash_notMem_blankMask addr mask)]
      exact parse_cidr addr (countOnes_le mask)

theorem protectedOnLinux_eq {form : SubnetNotation} {s : Text} (h : form.Valid)
    (hform : ∀ mask, form ≠ .blankMask mask)
    (htrim : Text.trim s = addr.toText ++ form.suffix) :
    protectedOnLinux s = some ⟨addr, form.len⟩ := by
  unfold protectedOnLinux
  rw [htrim]
  cases form with
  | address =>
      rw [SubnetNotation.suffix, List.append_nil, cidrText,
        Text.splitOnce_of_notMem (slash_notMem_toText addr)]
      exact parse_toText addr
  | length len =>
      rw [SubnetNotation.suffix, cidrText_length addr h]
      exact parse_cidr addr h
  | slashMask mask =>
      rw [SubnetNotation.suffix, cidrText_mask]
      exact parse_cidr addr (countOnes_le mask)
  | blankMask mask => exact absurd rfl (hform mask)

/-- The packet filter does not know a netmask after a blank. -/
theorem protectedOnLinux_blankMask {s : Text}
    (htrim : Text.trim s = addr.toText ++ ' ' :: mask.toText) : protectedOnLinux s = none := by
  have hsplit := Text.splitOnce_of_notMem (slash_notMem_blankMask addr mask)
  unfold protectedOnLinux
  rw [htrim, cidrText, hsplit]
  simp only [Ipv4Net.parse, parseIpv4_toText_append addr (by decide : radixDigit? 10 ' ' = none),
    hsplit]
  rfl

/-- What Windows makes of a text that is one word. -/
theorem parseCidrOrMask_of_word {s : Text}
    (hword : Text.splitWhitespace (Text.trim s) = [Text.trim s]) :
    parseCidrOrMask s =
      ((Text.splitOnce (Text.trim s) '/').bind fun parts =>
        (parseIpv4 parts.1).bind fun ip => (Text.parseU8 parts.2).map fun len => (ip, len)).or
      ((parseIpv4 (Text.trim s)).map fun ip => (ip, 32)) := by
  unfold parseCidrOrMask
  simp only [hword, Option.none_or]
  congr 1
  rcases Text.splitOnce (Text.trim s) '/' with _ | ⟨ipPart, prefixPart⟩
  · rfl
  · simp only [Option.bind_some]
    cases parseIpv4 ipPart with
    | none => rfl
    | some ip =>
        cases Text.parseU8 prefixPart with
        | none => rfl
        | some len => rfl

theorem parseU8_len : ∀ n < 33, Text.parseU8 (Text.ofNat n) = some (UInt8.ofNat n) := by
  decide +kernel

theorem parseU8_toText (mask : Ipv4Addr) : Text.parseU8 mask.toText = none := by
  rw [Text.parseU8, Text.parseUnsigned_of_mem (by decide) (by decide) (dot_mem_toText mask)]
  rfl

theorem routedOnWindows_eq {form : SubnetNotation} {s : Text} (h : form.Valid)
    (hform : ∀ mask, form ≠ .slashMask mask)
    (htrim : Text.trim s = addr.toText ++ form.suffix) :
    routedOnWindows s = some ⟨addr, form.len⟩ := by
  unfold routedOnWindows
  cases form with
  | address =>
      have hword := words_suffix h (by simp) addr
      rw [← htrim] at hword
      rw [parseCidrOrMask_of_word hword, htrim]
      simp only [SubnetNotation.suffix, List.append_nil,
        Text.splitOnce_of_notMem (slash_notMem_toText addr), parseIpv4_toText]
      rfl
  | length len =>
      have hlt : len < 33 := by simpa [SubnetNotation.Valid, Nat.lt_succ_iff] using h
      have hword := words_suffix h (by simp) addr
      rw [← htrim] at hword
      rw [parseCidrOrMask_of_word hword, htrim]
      simp only [SubnetNotation.suffix, Text.splitOnce_append (slash_notMem_toText addr),
        Option.bind_some, parseIpv4_toText, parseU8_len len hlt, Option.map_some, Option.some_or,
        SubnetNotation.len, UInt8.toNat_ofNat', Option.some.injEq, Ipv4Net.mk.injEq, true_and]
      omega
  | slashMask mask => exact absurd rfl (hform mask)
  | blankMask mask =>
      have hle := countOnes_le mask
      have hwords := words_blankMask addr mask
      rw [SubnetNotation.suffix] at htrim
      rw [parseCidrOrMask, htrim]
      simp only [hwords, parseIpv4_toText, Option.some_or, Option.map_some, SubnetNotation.len,
        UInt8.toNat_ofNat', Option.some.injEq, Ipv4Net.mk.injEq, true_and]
      omega

/-- Windows does not know a netmask after a slash. -/
theorem routedOnWindows_slashMask {s : Text} (hmask : mask.Contiguous)
    (htrim : Text.trim s = addr.toText ++ '/' :: mask.toText) : routedOnWindows s = none := by
  have hword := @words_suffix (.slashMask mask) hmask (by simp) addr
  rw [SubnetNotation.suffix, ← htrim] at hword
  rw [routedOnWindows, parseCidrOrMask_of_word hword, htrim,
    Text.splitOnce_append (slash_notMem_toText addr),
    parseIpv4_toText_append addr (by decide : radixDigit? 10 '/' = none)]
  simp [parseU8_toText]

/-- On Windows a subnet becomes a route of the interface, unless a slash is before its netmask. -/
theorem mem_routesToAdd {form : SubnetNotation} {s : Text} {pushedRoutes customSubnets : List Text}
    (h : form.Valid) (hform : ∀ mask, form ≠ .slashMask mask)
    (htrim : Text.trim s = addr.toText ++ form.suffix) (hs : s ∈ pushedRoutes ++ customSubnets)
    (intranetOnly : Bool) :
    ∃ l, l.toNat = form.len ∧ (addr, l) ∈ routesToAdd intranetOnly pushedRoutes customSubnets := by
  have hrouted := routedOnWindows_eq h hform htrim
  unfold routedOnWindows at hrouted
  obtain ⟨⟨ip, l⟩, hread, hnet⟩ := Option.map_eq_some_iff.mp hrouted
  obtain ⟨rfl, hlen⟩ := (Ipv4Net.mk.injEq _ _ _ _).mp hnet
  have hmem : (ip, l) ∈ (pushedRoutes ++ customSubnets).filterMap parseCidrOrMask :=
    List.mem_filterMap.mpr ⟨s, hs, hread⟩
  refine ⟨l, hlen, ?_⟩
  unfold routesToAdd
  cases intranetOnly with
  | true => exact hmem
  | false => exact List.mem_cons_of_mem _ (List.mem_cons_of_mem _ hmem)

/-- All three readers accept the text, and read the same network. -/
def ReadersAgree (s : Text) : Prop :=
  ∃ net, routedOnLinux s = some net ∧ protectedOnLinux s = some net ∧ routedOnWindows s = some net

/-- The readers agree on a subnet, whatever blanks are around it, where it has no netmask, and
only there. -/
theorem readersAgree_iff (addr : Ipv4Addr) {form : SubnetNotation} (h : form.Valid)
    {front back : Text} (hfront : ∀ c ∈ front, Text.isWhitespace c = true)
    (hback : ∀ c ∈ back, Text.isWhitespace c = true) :
    ReadersAgree (front ++ (addr.toText ++ form.suffix) ++ back) ↔ form.Plain := by
  have htrim := SubnetNotation.trim_text h hfront hback addr
  generalize front ++ (addr.toText ++ form.suffix) ++ back = s at htrim
  have hplain (hslash : ∀ mask, form ≠ .slashMask mask) (hblank : ∀ mask, form ≠ .blankMask mask) :
      ReadersAgree s :=
    ⟨⟨addr, form.len⟩, routedOnLinux_eq h htrim, protectedOnLinux_eq h hblank htrim,
      routedOnWindows_eq h hslash htrim⟩
  cases form with
  | address => exact iff_of_true (hplain (by simp) (by simp)) trivial
  | length len => exact iff_of_true (hplain (by simp) (by simp)) trivial
  | slashMask mask =>
      refine iff_of_false ?_ id
      rintro ⟨net, -, -, hwindows⟩
      rw [routedOnWindows_slashMask h htrim] at hwindows
      cases hwindows
  | blankMask mask =>
      refine iff_of_false ?_ id
      rintro ⟨net, -, hprotected, -⟩
      rw [protectedOnLinux_blankMask htrim] at hprotected
      cases hprotected

theorem readersAgree_iff_office : ReadersAgree " 10.0.0.0/8\n".toList := by
  have htext : " 10.0.0.0/8\n".toList = [' '] ++ (Ipv4Addr.toText ⟨10, 0, 0, 0⟩ ++
      SubnetNotation.suffix (.length 8)) ++ ['\n'] := by decide +kernel
  have hvalid : SubnetNotation.Valid (.length 8) := (by decide : 8 ≤ 32)
  rw [htext]
  exact (readersAgree_iff ⟨10, 0, 0, 0⟩ hvalid (by simp; rfl) (by simp; rfl)).mpr trivial

/-- A route with a netmask is not protected, or not set on Windows. -/
theorem netmasks_read_differently :
    routedOnLinux "10.0.0.0 255.0.0.0".toList = some ⟨⟨10, 0, 0, 0⟩, 8⟩ ∧
      protectedOnLinux "10.0.0.0 255.0.0.0".toList = none ∧
      routedOnLinux "10.0.0.0/255.0.0.0".toList = some ⟨⟨10, 0, 0, 0⟩, 8⟩ ∧
      routedOnWindows "10.0.0.0/255.0.0.0".toList = none := by
  decide +kernel

/-! ## Pushed routes -/

open Config PushOptions

theorem denotes_cidr_iff (h : len ≤ 32) (p : Ipv4Addr → Prop) :
    Denotes (addr.toText ++ '/' :: Text.ofNat len) p ↔
      ∀ a, Ipv4Addr.SharesPrefix len addr a ↔ p a := by
  have hcontains (a : Ipv4Addr) :
      Ipv4Net.contains ⟨addr, len⟩ a = true ↔ Ipv4Addr.SharesPrefix len addr a := by
    rw [Ipv4Net.contains, beq_iff_eq, Ipv4Addr.SharesPrefix, eq_comm]
  unfold Denotes
  rw [parse_cidr addr h]
  constructor
  · rintro ⟨net, hnet, hp⟩ a
    obtain rfl : (⟨addr, len⟩ : Ipv4Net) = net := Option.some.inj hnet
    rw [← hcontains, hp]
  · exact fun hp => ⟨⟨addr, len⟩, rfl, fun a => (hcontains a).trans (hp a)⟩

/-- The driver writes a route in canonical notation, which the manager takes over. -/
theorem normalizeRoute_routeText (r : Ipv4Route) : normalizeRoute (routeText r) = routeText r := by
  have hle := countOnes_le r.netmask
  have hvalid : SubnetNotation.Valid (.length r.netmask.countOnes) := hle
  have htrim : Text.trim (routeText r) = routeText r :=
    trim_toText_append (SubnetNotation.getLast?_suffix hvalid)
  unfold normalizeRoute
  simp only [htrim]
  rw [routeText, Text.splitOnce_append (slash_notMem_toText r.destination)]
  exact cidrText_length r.destination hle

theorem passes_of_mem (env : Env) {args : RoutingArgs} {route : Text}
    (h : route ∈ args.pushedRoutes) (st : LinuxRouteManager × Shell) :
    HandsOn env args st (normalizeRoute route) := by
  obtain ⟨front, back, hsplit⟩ := List.append_of_mem
    (List.mem_map_of_mem (f := normalizeRoute) (List.mem_append_left args.customSubnets h))
  unfold HandsOn LinuxRouteManager.injectRoutes
  simp only [hsplit]
  split
  · exact ⟨_, _, back, by rw [List.foldl_append, List.foldl_cons]⟩
  · exact ⟨_, _, back, by rw [List.foldl_cons, List.foldl_cons, List.foldl_append, List.foldl_cons]⟩

/-- Every item leaves the routes that are there. -/
theorem routesV4_subset_foldl (items : List Text) (o : PushOptions) :
    o.routesV4 ⊆ (items.foldl applyItem o).routesV4 := by
  induction items generalizing o with
  | nil => exact List.Subset.refl _
  | cons item items ih =>
      refine List.Subset.trans ?_ (ih (o.applyItem item))
      by_cases hverb : verbOf item = some "route".toList
      · rw [applyItem_of_verb hverb, readsRoutes_v4.own]
        exact List.subset_append_left _ _
      · rw [read_applyItem_of_ne readsRoutes_v4.frame hverb]
        exact List.Subset.refl _

theorem exists_pushed_route {items : List Text} {item verb dest netmask : Text} {rest : List Text}
    (hitem : item ∈ items) (hwords : Text.splitWhitespace item = verb :: dest :: netmask :: rest)
    (hverb : Text.toAsciiLowercase verb = "route".toList)
    (hdest : parseIpv4 dest = some addr) (hmask : parseIpv4 netmask = some mask) :
    ∃ r ∈ (items.foldl applyItem {}).routesV4, r.destination = addr ∧ r.netmask = mask := by
  obtain ⟨front, back, rfl⟩ := List.append_of_mem hitem
  rw [List.foldl_append, List.foldl_cons]
  generalize front.foldl applyItem {} = o
  have hitemVerb : verbOf item = some "route".toList := by
    rw [verbOf, hwords, List.head?_cons, Option.map_some, hverb]
  obtain ⟨route, hmade, hroute⟩ : ∃ route,
      routeV4Of o.routeGateway o.routeMetric (dest :: netmask :: rest) = some route ∧
        route.destination = addr ∧ route.netmask = mask := by
    simp [routeV4Of, firstArg, argAt, hdest, hmask]
  have hrouted := readsRoutes_v4.own o (dest :: netmask :: rest)
  rw [hmade] at hrouted
  refine ⟨route, routesV4_subset_foldl back _ ?_, hroute⟩
  rw [applyItem_of_verb hitemVerb, hwords, List.tail_cons, hrouted]
  exact List.mem_append_right _ (List.mem_singleton_self _)

/-- A pushed route reaches the interface of the tunnel, whatever its netmask is, and it is the route
that was pushed if and only if the netmask is contiguous. -/
theorem pushed_route_exact_iff {payload item verb dest netmask : Text} {rest : List Text}
    (hitem : item ∈ splitPushReplyItems payload)
    (hwords : Text.splitWhitespace item = verb :: dest :: netmask :: rest)
    (hverb : Text.toAsciiLowercase verb = "route".toList)
    (hdest : parseIpv4 dest = some addr) (hmask : parseIpv4 netmask = some mask)
    (base : OpenVpnConfig) :
    ∃ options, parsePushReply payload = .ok options ∧
      ∃ r ∈ (options.buildProvisioningConfig base).routesV4,
        r.destination = addr ∧ r.netmask = mask ∧
        (∀ env args st,
          args.pushedRoutes = (options.buildProvisioningConfig base).routesV4.map routeText →
          HandsOn env args st (normalizeRoute (routeText r))) ∧
        (Denotes (normalizeRoute (routeText r)) (Ipv4Addr.Matches mask addr) ↔
          mask.Contiguous) := by
  obtain ⟨r, hr, hdest, hmask⟩ := exists_pushed_route hitem hwords hverb hdest hmask
  refine ⟨_, rfl, r, mem_foldl_pushNew.mpr (.inl hr), hdest, hmask, ?_, ?_⟩
  · intro env args st hargs
    refine passes_of_mem env ?_ st
    rw [hargs]
    exact List.mem_map_of_mem (mem_foldl_pushNew.mpr (.inl hr))
  · subst hdest hmask
    rw [normalizeRoute_routeText, routeText, denotes_cidr_iff (countOnes_le r.netmask),
      Ipv4Addr.sharesPrefix_countOnes_iff]

theorem pushed_route_exact_iff_office :
    ∃ options, parsePushReply "PUSH_REPLY,route 10.1.0.0 255.255.0.0".toList = .ok options ∧
      ∃ r ∈ (options.buildProvisioningConfig {}).routesV4,
        Denotes (normalizeRoute (routeText r))
          (Ipv4Addr.Matches ⟨255, 255, 0, 0⟩ ⟨10, 1, 0, 0⟩) := by
  have hitem : "route 10.1.0.0 255.255.0.0".toList ∈
      splitPushReplyItems "PUSH_REPLY,route 10.1.0.0 255.255.0.0".toList := by decide +kernel
  have hwords : Text.splitWhitespace "route 10.1.0.0 255.255.0.0".toList =
      ["route".toList, "10.1.0.0".toList, "255.255.0.0".toList] := by decide +kernel
  have hdest : parseIpv4 "10.1.0.0".toList = some ⟨10, 1, 0, 0⟩ := by decide +kernel
  have hmask : parseIpv4 "255.255.0.0".toList = some ⟨255, 255, 0, 0⟩ := by decide +kernel
  obtain ⟨options, hparse, r, hr, -, -, -, hexact⟩ :=
    pushed_route_exact_iff hitem hwords (by decide +kernel) hdest hmask {}
  exact ⟨options, hparse, r, hr, hexact.mpr (by decide +kernel)⟩

/-- The count of the ones of this netmask is the length of a network with other addresses. -/
theorem noncontiguous_route_moved :
    ∃ options, parsePushReply "PUSH_REPLY,route 10.0.0.0 255.0.255.0".toList = .ok options ∧
      (options.buildProvisioningConfig {}).routesV4.map (normalizeRoute ∘ routeText) =
        ["10.0.0.0/16".toList] ∧
      ¬ Denotes "10.0.0.0/16".toList (Ipv4Addr.Matches ⟨255, 0, 255, 0⟩ ⟨10, 0, 0, 0⟩) := by
  refine ⟨_, rfl, by decide +kernel, ?_⟩
  rintro ⟨net, hnet, haddrs⟩
  have hparse : Ipv4Net.parse "10.0.0.0/16".toList = some ⟨⟨10, 0, 0, 0⟩, 16⟩ := by decide +kernel
  obtain rfl : (⟨⟨10, 0, 0, 0⟩, 16⟩ : Ipv4Net) = net := Option.some.inj (hparse.symm.trans hnet)
  have hmatches := (haddrs ⟨10, 0, 1, 0⟩).mp (by decide +kernel)
  unfold Ipv4Addr.Matches at hmatches
  exact absurd hmatches (by decide +kernel)

end VpnHub.Daemon
