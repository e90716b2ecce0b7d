import VpnHub.Model.Loopback
import VpnHub.Verification.Parser.Lines
import VpnHub.Verification.Push.Escaping
import VpnHub.Verification.Push.Merging

/-! # Options of the profile and of a reply

An option that both parsers know can stand in the profile or be pushed. The two provisionings are
related by an invariant of the directives that come after the option. -/

namespace VpnHub.Config

/-- A directive `name` sets anew what the option `verb` has set. The lists are only added to. -/
def Overrides (name verb : Text) : Prop :=
  (name = verb ∧ verb ∈ ["topology".toList, "ifconfig".toList, "ifconfig-ipv6".toList,
    "tun-mtu".toList, "mssfix".toList, "ping".toList, "ping-restart".toList]) ∨
  ((name = "redirect-gateway".toList ∨ name = "redirect-private".toList) ∧
    (verb = "redirect-gateway".toList ∨ verb = "redirect-private".toList)) ∨
  (name = "keepalive".toList ∧ (verb = "ping".toList ∨ verb = "ping-restart".toList))

instance (name verb : Text) : Decidable (Overrides name verb) :=
  inferInstanceAs (Decidable (_ ∨ _ ∨ _))

/-- What a directive sets is not among the pushed options. -/
structure Leaves (name : Text) (options : PushOptions) : Prop where
  topology : name = "topology".toList → options.topology = none
  ifconfigV4 : name = "ifconfig".toList → options.ifconfigV4 = none
  ifconfigV6 : name = "ifconfig-ipv6".toList → options.ifconfigV6 = none
  redirectGateway : name = "redirect-gateway".toList ∨ name = "redirect-private".toList →
    options.redirectGateway = none
  tunMtu : name = "tun-mtu".toList → options.tunMtu = none
  mssFix : name = "mssfix".toList → options.mssFix = none
  pingInterval : name = "ping".toList ∨ name = "keepalive".toList → options.pingInterval = none
  pingRestart : name = "ping-restart".toList ∨ name = "keepalive".toList →
    options.pingRestart = none

/-- The profile `w` has what `options` push, and otherwise what the profile `b` has. -/
structure Covers (options : PushOptions) (w b : OpenVpnConfig) : Prop where
  dev : w.dev = b.dev
  tunMtu : w.tunMtu = options.tunMtu.or b.tunMtu
  topology : w.topology = options.topology.or b.topology
  ifconfigV4 : w.ifconfigV4 = options.ifconfigV4.or b.ifconfigV4
  ifconfigV6 : (w.ifconfigV6.map fun s => (s.1, (64 : UInt8), some s.2)) =
    options.ifconfigV6.or (b.ifconfigV6.map fun s => (s.1, (64 : UInt8), some s.2))
  dnsServers : w.dnsServers.foldl pushNew options.dnsServers =
    b.dnsServers.foldl pushNew options.dnsServers
  searchDomains : w.searchDomains.foldl pushNew options.searchDomains =
    b.searchDomains.foldl pushNew options.searchDomains
  routesV4 : w.routesV4.foldl pushNew options.routesV4 = b.routesV4.foldl pushNew options.routesV4
  routesV6 : w.routesV6.foldl pushNew options.routesV6 = b.routesV6.foldl pushNew options.routesV6
  redirectGateway : w.redirectGateway = options.redirectGateway.getD b.redirectGateway
  blockOutsideDns : w.blockOutsideDns = (options.blockOutsideDns || b.blockOutsideDns)
  mssFix : w.mssFix = options.mssFix.or b.mssFix
  pingInterval : w.pingInterval = options.pingInterval.or b.pingInterval
  pingRestart : w.pingRestart = options.pingRestart.or b.pingRestart

section Unset

variable {α : Type} {pushed a b value : Option α}

theorem eq_or_of_none (h : pushed = none) (value : Option α) : value = pushed.or value := by
  rw [h, Option.none_or]

theorem or_eq_or_of_none (h : pushed = none) (hab : a = pushed.or b) :
    value.or a = pushed.or (value.or b) := by
  rw [hab, h, Option.none_or, Option.none_or]

end Unset

section Rel

variable {α : Type} {r : α → α → Prop} {a a' b b' : Option α}

theorem rel_or (h : Option.Rel r a a') (h' : Option.Rel r b b') :
    Option.Rel r (a.or b) (a'.or b') := by
  cases h with
  | some h => exact .some h
  | none => exact h'

theorem rel_getD (h : Option.Rel r a a') {d d' : α} (hd : r d d') :
    r (a.getD d) (a'.getD d') := by
  cases h with
  | some h => exact h
  | none => exact hd

end Rel

namespace Covers

variable {options : PushOptions} {w b : OpenVpnConfig} {name : Text} {args : List Text}

/-- The branches that are left come first, so that a chain of tests is taken apart in one go. -/
theorem ite {c : Prop} [Decidable c] {a a' d d' : Option OpenVpnConfig}
    (h' : ¬ c → Option.Rel (Covers options) d d') (h : c → Option.Rel (Covers options) a a') :
    Option.Rel (Covers options) (if c then a else d) (if c then a' else d') := by
  split
  · exact h ‹_›
  · exact h' ‹_›

theorem pushRemote (h : Covers options w b) (args : List Text) :
    Covers options (w.pushRemote args) (b.pushRemote args) := by
  unfold OpenVpnConfig.pushRemote
  split
  · exact { h with }
  · exact h

theorem setProto (h : Covers options w b) (args : List Text) :
    Covers options (w.setProto args) (b.setProto args) := by
  unfold OpenVpnConfig.setProto
  split
  · exact { h with }
  · exact h

theorem setProxy (h : Covers options w b) (args : List Text)
    (make : Text → UInt16 → Option Text → ProxyConfig) :
    Covers options (w.setProxy args make) (b.setProxy args make) := by
  unfold OpenVpnConfig.setProxy
  split
  · split
    · exact { h with }
    · exact h
  · exact h

theorem tls (h : Covers options w b) (name : Text) (args : List Text) :
    Option.Rel (Covers options) (w.applyTlsDirective name args)
      (b.applyTlsDirective name args) := by
  unfold OpenVpnConfig.applyTlsDirective
  iterate 19 refine ite (fun _ => ?_) fun _ => ?_
  · exact .none
  all_goals
    try split
    all_goals exact .some { h with }

theorem session (h : Covers options w b) (hleaves : Leaves name options) (args : List Text) :
    Option.Rel (Covers options) (w.applySessionDirective name args)
      (b.applySessionDirective name args) := by
  unfold OpenVpnConfig.applySessionDirective
  iterate 20 refine ite (fun _ => ?_) fun hname => ?_
  · exact .none
  all_goals
    try split
    all_goals try exact .some { h with }
  · exact .some (h.setProxy _ _)
  · exact .some (h.setProxy _ _)
  · exact .some { h with
      pingInterval := eq_or_of_none (hleaves.pingInterval (.inr hname)) _
      pingRestart := eq_or_of_none (hleaves.pingRestart (.inr hname)) _ }
  · exact .some { h with
      pingRestart := or_eq_or_of_none (hleaves.pingRestart (.inl hname)) h.pingRestart }
  · exact .some { h with
      pingInterval := or_eq_or_of_none (hleaves.pingInterval (.inl hname)) h.pingInterval }
  · exact .some (h.pushRemote _)
  · exact .some (h.setProto _)
  · exact .some { h with dev := rfl }

theorem applyDhcpOption (h : Covers options w b) (optType optVal : Text) :
    Covers options (w.applyDhcpOption optType optVal) (b.applyDhcpOption optType optVal) := by
  unfold OpenVpnConfig.applyDhcpOption
  split
  · split
    · refine { h with dnsServers := ?_ }
      rw [foldl_pushNew_pushNew, foldl_pushNew_pushNew, h.dnsServers]
    · exact h
  · split
    · refine { h with searchDomains := ?_ }
      rw [foldl_pushNew_pushNew, foldl_pushNew_pushNew, h.searchDomains]
    · exact h

theorem network (h : Covers options w b) (hleaves : Leaves name options) (args : List Text) :
    Option.Rel (Covers options) (w.applyNetworkDirective name args)
      (b.applyNetworkDirective name args) := by
  unfold OpenVpnConfig.applyNetworkDirective
  iterate 11 refine ite (fun _ => ?_) fun hname => ?_
  · exact .none
  all_goals
    try split
    all_goals try exact .some { h with }
  · exact .some { h with mssFix := eq_or_of_none (hleaves.mssFix hname) _ }
  · exact .some { h with tunMtu := or_eq_or_of_none (hleaves.tunMtu hname) h.tunMtu }
  · exact .some { h with blockOutsideDns := (Bool.or_true _).symm }
  · exact .some (h.applyDhcpOption _ _)
  · refine .some { h with redirectGateway := ?_ }
    rw [hleaves.redirectGateway hname, Option.getD_none]
  · refine .some { h with routesV6 := ?_ }
    rw [List.foldl_concat, List.foldl_concat, h.routesV6]
  · refine .some { h with routesV4 := ?_ }
    rw [List.foldl_concat, List.foldl_concat, h.routesV4]
  · exact .some { h with ifconfigV6 := eq_or_of_none (hleaves.ifconfigV6 hname) _ }
  · exact .some { h with ifconfigV4 := eq_or_of_none (hleaves.ifconfigV4 hname) _ }
  · exact .some { h with topology := eq_or_of_none (hleaves.topology hname) _ }

/-- A later directive, applied to both profiles. -/
theorem applyDirective {dir : Directive} (h : Covers options w b)
    (hleaves : Leaves dir.name options) :
    Covers options (w.applyDirective dir) (b.applyDirective dir) := by
  unfold OpenVpnConfig.applyDirective
  exact rel_getD (rel_or (rel_or (h.session hleaves _) (h.tls _ _)) (h.network hleaves _)) h

theorem foldl {dirs : List Directive} (h : Covers options w b)
    (hleaves : ∀ dir ∈ dirs, Leaves dir.name options) :
    Covers options (dirs.foldl OpenVpnConfig.applyDirective w)
      (dirs.foldl OpenVpnConfig.applyDirective b) := by
  induction dirs generalizing w b with
  | nil => exact h
  | cons dir dirs ih =>
      exact ih (h.applyDirective (hleaves dir (by simp)))
        fun next hnext => hleaves next (List.mem_cons_of_mem _ hnext)

end Covers

/-- An option leaves what the later directives set, unless one of them overrides it. -/
theorem leaves_apply {verb name : Text} (h : ¬ Overrides name verb) (args : List Text) :
    Leaves name (({} : PushOptions).apply verb args) := by
  have hframe := PushOptions.frame_apply {} verb args
  obtain ⟨hsame, hredirect, hkeepalive⟩ := not_or.mp h |>.imp_right not_or.mp
  constructor
  · intro hname
    exact hframe.topology fun hverb => hsame ⟨hname.trans hverb.symm, by simp [hverb]⟩
  · intro hname
    exact hframe.ifconfigV4 fun hverb => hsame ⟨hname.trans hverb.symm, by simp [hverb]⟩
  · intro hname
    exact hframe.ifconfigV6 fun hverb => hsame ⟨hname.trans hverb.symm, by simp [hverb]⟩
  · intro hname
    exact hframe.redirectGateway fun hverb => hredirect ⟨hname, hverb⟩
  · intro hname
    exact hframe.tunMtu fun hverb => hsame ⟨hname.trans hverb.symm, by simp [hverb]⟩
  · intro hname
    exact hframe.mssFix fun hverb => hsame ⟨hname.trans hverb.symm, by simp [hverb]⟩
  · rintro (hname | hname)
    · exact hframe.pingInterval fun hverb => hsame ⟨hname.trans hverb.symm, by simp [hverb]⟩
    · exact hframe.pingInterval fun hverb => hkeepalive ⟨hname, .inl hverb⟩
  · rintro (hname | hname)
    · exact hframe.pingRestart fun hverb => hsame ⟨hname.trans hverb.symm, by simp [hverb]⟩
    · exact hframe.pingRestart fun hverb => hkeepalive ⟨hname, .inr hverb⟩

/-! ## One option -/

/-- What only a reply can set is not set. -/
structure ReplyOnly (options : PushOptions) : Prop where
  routeGateway : options.routeGateway = none
  winsServers : options.winsServers = []
  ntpServers : options.ntpServers = []
  peerId : options.peerId = none
  customOptions : options.customOptions = .empty

structure Matches (options : PushOptions) (w b : OpenVpnConfig) : Prop extends
  Covers options w b, ReplyOnly options

/-- Arguments that the two parsers read alike: no unknown topology, no peer of a point-to-point
link, no IPv6 address with a prefix or without a second one, no name server of several words. -/
structure SameReading (verb : Text) (args : List Text) (base : OpenVpnConfig) : Prop where
  topology : verb = "topology".toList →
    ∀ name ∈ args.head?, (NetworkTopology.fromName name).isSome
  ifconfigV4 : verb = "ifconfig".toList → base.topology.getD .subnet = .subnet
  ifconfigV6 : verb = "ifconfig-ipv6".toList → (∀ addr ∈ args.head?, '/' ∉ addr) ∧
    ((firstArg args IpAddr.parseIpv6).isSome → (argAt args 1 IpAddr.parseIpv6).isSome)
  dhcpOption : verb = "dhcp-option".toList → args.length ≤ 2 ∧
    ∀ kind ∈ args.head?, Text.toAsciiUppercase kind ∉ ["WINS".toList, "NTP".toList]

/-- The verbs of the options that set addresses, routes, name servers and packet sizes. -/
def networkVerbs : List Text :=
  ["topology".toList, "ifconfig".toList, "ifconfig-ipv6".toList, "route".toList,
    "route-ipv6".toList, "redirect-gateway".toList, "dhcp-option".toList,
    "block-outside-dns".toList, "tun-mtu".toList, "mssfix".toList]

/-- The options that stand for the same in the profile and in a reply. -/
def sharedVerbs : List Text := networkVerbs ++ ["ping".toList, "ping-restart".toList]

def sessionVerbs : List Text :=
  ["client".toList, "dev".toList, "dev-type".toList, "proto".toList, "remote".toList,
    "remote-random".toList, "resolv-retry".toList, "nobind".toList, "persist-key".toList,
    "persist-tun".toList, "pull".toList, "ping".toList, "ping-restart".toList,
    "keepalive".toList, "explicit-exit-notify".toList, "http-proxy".toList, "socks-proxy".toList,
    "verb".toList, "fast-io".toList, "compress".toList, "comp-lzo".toList]

def tlsVerbs : List Text :=
  ["ca".toList, "cert".toList, "key".toList, "extra-certs".toList, "pkcs12".toList,
    "tls-auth".toList, "tls-crypt".toList, "tls-crypt-v2".toList, "key-direction".toList,
    "cipher".toList, "data-ciphers".toList, "data-ciphers-fallback".toList, "auth".toList,
    "auth-user-pass".toList, "remote-cert-tls".toList, "verify-x509-name".toList,
    "tls-version-min".toList, "reneg-sec".toList, "hand-window".toList]

theorem applySessionDirective_of_notMem {name : Text} (c : OpenVpnConfig) (args : List Text)
    (h : name ∉ sessionVerbs) : c.applySessionDirective name args = none := by
  simp only [sessionVerbs, List.mem_cons, List.not_mem_nil, or_false, not_or] at h
  obtain ⟨h1, h2, h3, h4, h5, h6, h7, h8, h9, h10, h11, h12, h13, h14, h15, h16, h17, h18, h19,
    h20⟩ := h
  unfold OpenVpnConfig.applySessionDirective
  rw [if_neg h1, if_neg h2, if_neg h3, if_neg h4, if_neg h5, if_neg h6, if_neg h7, if_neg h8,
    if_neg h9, if_neg h10, if_neg h11, if_neg h12, if_neg h13, if_neg h14, if_neg h15, if_neg h16,
    if_neg h17, if_neg h18, if_neg h19, if_neg (not_or.mpr h20)]

theorem applyTlsDirective_of_notMem {name : Text} (c : OpenVpnConfig) (args : List Text)
    (h : name ∉ tlsVerbs) : c.applyTlsDirective name args = none := by
  simp only [tlsVerbs, List.mem_cons, List.not_mem_nil, or_false, not_or] at h
  obtain ⟨h1, h2, h3, h4, h5, h6, h7, h8, h9, h10, h11, h12, h13, h14, h15, h16, h17, h18,
    h19⟩ := h
  unfold OpenVpnConfig.applyTlsDirective
  rw [if_neg h1, if_neg h2, if_neg h3, if_neg h4, if_neg h5, if_neg h6, if_neg h7, if_neg h8,
    if_neg h9, if_neg h10, if_neg h11, if_neg h12, if_neg h13, if_neg h14, if_neg h15, if_neg h16,
    if_neg h17, if_neg h18, if_neg h19]

theorem networkVerbs_disjoint : ∀ verb ∈ networkVerbs, verb ∉ sessionVerbs ∧ verb ∉ tlsVerbs ∧
    verb ∉ ["route-gateway".toList, "route-metric".toList, "ping".toList, "ping-restart".toList,
      "peer-id".toList, "link-mtu".toList] := by decide +kernel

theorem ipv6WithPrefix_of_notMem {addr : Text} (h : '/' ∉ addr) (default : UInt8) :
    ipv6WithPrefix addr default = (IpAddr.parseIpv6 addr).map fun ip => (ip, default) := by
  simp [ipv6WithPrefix, Text.splitChar_of_notMem h, argAt]

namespace Matches

variable {c : OpenVpnConfig} {verb : Text} {args : List Text}

theorem refl (c : OpenVpnConfig) : Matches {} c c where
  dev := rfl
  tunMtu := rfl
  topology := rfl
  ifconfigV4 := rfl
  ifconfigV6 := rfl
  dnsServers := rfl
  searchDomains := rfl
  routesV4 := rfl
  routesV6 := rfl
  redirectGateway := rfl
  blockOutsideDns := rfl
  mssFix := rfl
  pingInterval := rfl
  pingRestart := rfl
  routeGateway := rfl
  winsServers := rfl
  ntpServers := rfl
  peerId := rfl
  customOptions := rfl

theorem applyDhcpOption {optType : Text} (c : OpenVpnConfig) (optVal : Text)
    (htype : optType ∉ ["WINS".toList, "NTP".toList]) :
    Matches (({} : PushOptions).applyDhcpOption optType optVal)
      (c.applyDhcpOption optType optVal) c := by
  simp only [List.mem_cons, List.not_mem_nil, or_false, not_or] at htype
  unfold PushOptions.applyDhcpOption OpenVpnConfig.applyDhcpOption
  split
  · cases IpAddr.parse optVal with
    | none => exact refl c
    | some ip =>
        refine { refl c with dnsServers := ?_ }
        rw [foldl_pushNew_pushNew]
        exact pushNew_foldl_of_mem (List.mem_singleton_self _)
  · split
    · refine { refl c with searchDomains := ?_ }
      rw [foldl_pushNew_pushNew]
      exact pushNew_foldl_of_mem (List.mem_singleton_self _)
    · rw [if_neg htype.1, if_neg htype.2]
      exact refl c

theorem exists_ite {p : Prop} [Decidable p] {a d : Option OpenVpnConfig} {o o' : PushOptions}
    (h : p → ∃ w, a = some w ∧ Matches o w c) (h' : ¬ p → ∃ w, d = some w ∧ Matches o' w c) :
    ∃ w, (if p then a else d) = some w ∧ Matches (if p then o else o') w c := by
  split
  · exact h ‹_›
  · exact h' ‹_›

/-- The two parsers test the verb in the same order, but for the options that only one of them
knows and the last ones. -/
theorem network {base : OpenVpnConfig} (c : OpenVpnConfig)
    (hverb : verb ∈ networkVerbs) (hsame : SameReading verb args base) :
    ∃ w, c.applyNetworkDirective verb args = some w ∧
      Matches (({} : PushOptions).apply verb args) w c := by
  obtain ⟨-, -, hother⟩ := networkVerbs_disjoint verb hverb
  simp only [List.mem_cons, List.not_mem_nil, or_false, not_or] at hother
  obtain ⟨hrouteGateway, hrouteMetric, hping, hpingRestart, hpeerId, hlinkMtu⟩ := hother
  unfold OpenVpnConfig.applyNetworkDirective PushOptions.apply
  refine exists_ite (fun h => ?_) fun htopology => ?_
  · have hname := hsame.topology h
    cases htop : args.head? with
    | none => exact ⟨c, rfl, refl c⟩
    | some top =>
        obtain ⟨topology, htopology⟩ := Option.isSome_iff_exists.mp (hname top htop)
        refine ⟨_, rfl, { refl c with topology := ?_ }⟩
        dsimp only
        rw [htopology, Option.some_or]
  refine exists_ite (fun _ => ?_) fun hifconfig => ?_
  · rcases argAt args 0 IpAddr.parseIpv4 with _ | loc
    · exact ⟨c, rfl, refl c⟩
    rcases argAt args 1 IpAddr.parseIpv4 with _ | remote
    · exact ⟨c, rfl, refl c⟩
    · exact ⟨_, rfl, { refl c with ifconfigV4 := rfl }⟩
  refine exists_ite (fun h => ?_) fun hifconfigV6 => ?_
  · obtain ⟨hslash, hgateway⟩ := hsame.ifconfigV6 h
    rcases args with _ | ⟨addr, args⟩
    · exact ⟨c, rfl, refl c⟩
    have hplain : firstArg (addr :: args) (ipv6WithPrefix · 64) =
        (IpAddr.parseIpv6 addr).map fun ip => (ip, 64) :=
      ipv6WithPrefix_of_notMem (hslash addr rfl) 64
    have hfirst : argAt (addr :: args) 0 IpAddr.parseIpv6 = IpAddr.parseIpv6 addr := rfl
    rw [hplain, hfirst]
    cases hparse : IpAddr.parseIpv6 addr with
    | none => exact ⟨c, rfl, refl c⟩
    | some ip =>
        obtain ⟨gateway, hgateway⟩ :=
          Option.isSome_iff_exists.mp (hgateway (by rw [firstArg]; simp [hparse]))
        rw [hgateway]
        exact ⟨_, rfl, { refl c with ifconfigV6 := rfl }⟩
  rw [if_neg hrouteGateway, if_neg hrouteMetric]
  refine exists_ite (fun _ => ?_) fun hroute => ?_
  · cases firstArg args IpAddr.parseIpv4 with
    | none => exact ⟨c, rfl, refl c⟩
    | some dest =>
        refine ⟨_, rfl, { refl c with routesV4 := ?_ }⟩
        simp only [Option.or_none, List.nil_append]
        rw [List.foldl_concat, pushNew_foldl_of_mem (List.mem_singleton_self _)]
  refine exists_ite (fun _ => ?_) fun hrouteV6 => ?_
  · rcases firstArg args (ipv6WithPrefix · 128) with _ | ⟨dest, len⟩
    · exact ⟨c, rfl, refl c⟩
    · refine ⟨_, rfl, { refl c with routesV6 := ?_ }⟩
      simp only [Option.or_none, List.nil_append]
      rw [List.foldl_concat, pushNew_foldl_of_mem (List.mem_singleton_self _)]
  refine exists_ite (fun _ => ?_) fun hredirect => ?_
  · exact ⟨_, rfl, { refl c with redirectGateway := rfl }⟩
  refine exists_ite (fun h => ?_) fun hdhcp => ?_
  · obtain ⟨hlength, htype⟩ := hsame.dhcpOption h
    rcases args with _ | ⟨optType, _ | ⟨optVal, _ | ⟨more, rest⟩⟩⟩
    · exact ⟨c, rfl, refl c⟩
    · exact ⟨c, rfl, refl c⟩
    · have hjoin : Text.join [optVal] [' '] = optVal := by simp [Text.join]
      dsimp only
      rw [hjoin]
      exact ⟨_, rfl, applyDhcpOption c optVal (htype optType rfl)⟩
    · exact absurd hlength (by simp)
  refine exists_ite (fun _ => ?_) fun hblock => ?_
  · exact ⟨_, rfl, { refl c with blockOutsideDns := rfl }⟩
  rw [if_neg hping, if_neg hpingRestart, if_neg hpeerId]
  by_cases htunMtu : verb = "tun-mtu".toList
  · have hmssfix : verb ≠ "mssfix".toList := by
      rw [htunMtu]
      decide +kernel
    rw [if_pos htunMtu, if_neg hmssfix, if_pos htunMtu]
    cases firstArg args Text.parseU32 with
    | none => exact ⟨c, rfl, refl c⟩
    | some m => exact ⟨_, rfl, { refl c with tunMtu := rfl }⟩
  rw [if_neg htunMtu, if_neg hlinkMtu]
  have hmssfix : verb = "mssfix".toList := by
    simp only [networkVerbs, List.mem_cons, List.not_mem_nil, or_false] at hverb
    rcases hverb with h | h | h | h | h | h | h | h | h | h
    · exact absurd h htopology
    · exact absurd h hifconfig
    · exact absurd h hifconfigV6
    · exact absurd h hroute
    · exact absurd h hrouteV6
    · exact absurd (.inl h) hredirect
    · exact absurd h hdhcp
    · exact absurd h hblock
    · exact absurd h htunMtu
    · exact h
  rw [if_pos hmssfix, if_pos hmssfix]
  exact ⟨_, rfl, { refl c with mssFix := rfl }⟩

/-- An option, in the profile `c` or in a reply. -/
theorem applyDirective {base : OpenVpnConfig} (c : OpenVpnConfig)
    (hverb : verb ∈ sharedVerbs) (hsame : SameReading verb args base) (n : ℕ) :
    Matches (({} : PushOptions).apply verb args)
      (c.applyDirective { name := verb, args, lineNumber := n }) c := by
  rw [sharedVerbs, List.mem_append, List.mem_cons, List.mem_singleton] at hverb
  rcases hverb with hverb | rfl | rfl
  · obtain ⟨hsession, htls, -⟩ := networkVerbs_disjoint verb hverb
    obtain ⟨w, hw, hmatches⟩ := network c hverb hsame
    have happly : c.applyDirective { name := verb, args, lineNumber := n } = w := by
      simp only [OpenVpnConfig.applyDirective, applySessionDirective_of_notMem c args hsession,
        applyTlsDirective_of_notMem c args htls, hw, Option.none_or, Option.getD_some]
    rw [happly]
    exact hmatches
  · have happly : c.applyDirective { name := "ping".toList, args, lineNumber := n } =
        { c with
          pingInterval := ((firstArg args Text.parseU64).map fromSecs).or c.pingInterval } := by
      rfl
    unfold PushOptions.apply
    rw [happly, if_neg (by decide), if_neg (by decide), if_neg (by decide), if_neg (by decide),
      if_neg (by decide), if_neg (by decide), if_neg (by decide), if_neg (by decide),
      if_neg (by decide), if_neg (by decide), if_pos rfl]
    cases firstArg args Text.parseU64 with
    | none => exact refl c
    | some sec => exact { refl c with pingInterval := rfl }
  · have happly : c.applyDirective { name := "ping-restart".toList, args, lineNumber := n } =
        { c with
          pingRestart := ((firstArg args Text.parseU64).map fromSecs).or c.pingRestart } := by
      rfl
    unfold PushOptions.apply
    rw [happly, if_neg (by decide), if_neg (by decide), if_neg (by decide), if_neg (by decide),
      if_neg (by decide), if_neg (by decide), if_neg (by decide), if_neg (by decide),
      if_neg (by decide), if_neg (by decide), if_neg (by decide), if_pos rfl]
    cases firstArg args Text.parseU64 with
    | none => exact refl c
    | some sec => exact { refl c with pingRestart := rfl }

end Matches

/-! ## Provisioning -/

/-- The entries that the options push come first in their lists. -/
def PushOptions.putFirst (options : PushOptions) (config : NetworkProvisioningConfig) :
    NetworkProvisioningConfig :=
  { config with
    dnsServers := config.dnsServers.foldl pushNew options.dnsServers
    searchDomains := config.searchDomains.foldl pushNew options.searchDomains
    routesV4 := config.routesV4.foldl pushNew options.routesV4
    routesV6 := config.routesV6.foldl pushNew options.routesV6 }

theorem ipv6Settings_eq (options : PushOptions) (base : OpenVpnConfig) :
    options.ipv6Settings base =
      ((options.ifconfigV6.or (base.ifconfigV6.map fun s => (s.1, (64 : UInt8), some s.2))).map
        fun s => (some s.1, some s.2.1, s.2.2)).getD (none, none, none) := by
  unfold PushOptions.ipv6Settings
  rcases options.ifconfigV6 with _ | ⟨loc, len, gw⟩
  · rcases base.ifconfigV6 with _ | ⟨loc, remote⟩
    · rfl
    · rfl
  · rfl

namespace Covers

variable {options : PushOptions} {w b : OpenVpnConfig}

theorem ipv4Settings (h : Covers options w b) (hreply : ReplyOnly options)
    {topology : NetworkTopology} (htopology : options.ifconfigV4 ≠ none → topology = .subnet) :
    options.ipv4Settings b topology = ({} : PushOptions).ipv4Settings w topology := by
  have hw := h.ifconfigV4
  unfold PushOptions.ipv4Settings
  cases hpushed : options.ifconfigV4 with
  | none => rw [hw, hpushed, Option.none_or]
  | some pair =>
      obtain rfl := htopology (by simp [hpushed])
      rw [hw, hpushed, Option.some_or, hreply.routeGateway]

theorem ipv6Settings (h : Covers options w b) :
    options.ipv6Settings b = ({} : PushOptions).ipv6Settings w := by
  rw [ipv6Settings_eq, ipv6Settings_eq, ← h.ifconfigV6]
  rfl

theorem buildProvisioningConfig (h : Covers options w b) (hreply : ReplyOnly options)
    (htopology : options.ifconfigV4 ≠ none →
      (options.topology.or b.topology).getD .subnet = .subnet) :
    options.buildProvisioningConfig b =
      options.putFirst (({} : PushOptions).buildProvisioningConfig w) := by
  have hresolved : options.topology.or b.topology = w.topology := h.topology.symm
  rw [hresolved] at htopology
  simp only [PushOptions.buildProvisioningConfig, PushOptions.putFirst,
    h.ipv4Settings hreply htopology, h.ipv6Settings, hresolved, h.dev, h.tunMtu, h.redirectGateway,
    h.blockOutsideDns, h.mssFix, h.pingInterval, h.pingRestart, foldl_foldl_pushNew,
    List.foldl_nil, h.dnsServers, h.searchDomains, h.routesV4, h.routesV6, hreply.winsServers,
    hreply.ntpServers, hreply.peerId, hreply.customOptions, Option.none_or, Option.getD_none,
    Bool.false_or]

end Covers

/-- The entries that the options push come first already. -/
structure First (options : PushOptions) (config : NetworkProvisioningConfig) : Prop where
  dnsServers : options.dnsServers <+: config.dnsServers
  searchDomains : options.searchDomains <+: config.searchDomains
  routesV4 : options.routesV4 <+: config.routesV4
  routesV6 : options.routesV6 <+: config.routesV6

theorem putFirst_eq_self_iff (options : PushOptions) (w : OpenVpnConfig) :
    options.putFirst (({} : PushOptions).buildProvisioningConfig w) =
        ({} : PushOptions).buildProvisioningConfig w ↔
      First options (({} : PushOptions).buildProvisioningConfig w) := by
  have hdns := nodup_foldl_pushNew List.nodup_nil w.dnsServers
  have hdomains := nodup_foldl_pushNew List.nodup_nil w.searchDomains
  have hroutesV4 := nodup_foldl_pushNew List.nodup_nil w.routesV4
  have hroutesV6 := nodup_foldl_pushNew List.nodup_nil w.routesV6
  constructor
  · intro h
    exact ⟨(foldl_pushNew_eq_self_iff hdns).mp (congrArg (·.dnsServers) h),
      (foldl_pushNew_eq_self_iff hdomains).mp (congrArg (·.searchDomains) h),
      (foldl_pushNew_eq_self_iff hroutesV4).mp (congrArg (·.routesV4) h),
      (foldl_pushNew_eq_self_iff hroutesV6).mp (congrArg (·.routesV6) h)⟩
  · intro h
    have hdns := (foldl_pushNew_eq_self_iff hdns).mpr h.dnsServers
    have hdomains := (foldl_pushNew_eq_self_iff hdomains).mpr h.searchDomains
    have hroutesV4 := (foldl_pushNew_eq_self_iff hroutesV4).mpr h.routesV4
    have hroutesV6 := (foldl_pushNew_eq_self_iff hroutesV6).mpr h.routesV6
    simp only [PushOptions.putFirst, PushOptions.buildProvisioningConfig, hdns, hdomains,
      hroutesV4, hroutesV6]

/-! ## Plain options -/

section Plain

variable {env : ParserEnv} {option word : Text} {args : List Text}

theorem IsPlain.escapeItem_eq (h : IsPlain option) : escapeItem option = option := by
  unfold escapeItem escape
  induction option with
  | nil => rfl
  | cons c option ih =>
      have hc := h c (by simp)
      simp only [List.mem_cons, List.not_mem_nil, or_false, not_or] at hc
      rw [List.flatMap_cons, ih h.tail, if_neg (by simp [hc])]
      rfl

theorem IsPlain.parsePushReply_eq (h : IsPlain option)
    (hwords : Text.splitWhitespace option = word :: args) :
    parsePushReply ("PUSH_REPLY,".toList ++ option) =
      .ok (({} : PushOptions).apply (Text.toAsciiLowercase word) args) := by
  have hwrites : WritesItem option option := by
    conv_rhs => rw [← h.escapeItem_eq]
    exact .escaped
  have hne : ¬ (Text.trim option).isEmpty = true := by
    intro hempty
    rw [← Text.splitWhitespace_trim, List.isEmpty_iff.mp hempty] at hwords
    cases hwords
  have hitems : itemsOf option = [Text.trim option] := by
    rw [itemsOf, foldl_of_writes hwrites]
    simp [SplitState.flush, hne]
  rw [parsePushReply, splitPushReplyItems_eq, hitems, List.foldl_cons, List.foldl_nil,
    PushOptions.applyItem, Text.splitWhitespace_trim, hwords]

theorem head?_ne_of_shared (hverb : Text.toAsciiLowercase word ∈ sharedVerbs) :
    word.head? ≠ some '<' := by
  have hshared : ∀ verb ∈ sharedVerbs, verb.head? ≠ some '<' := by decide +kernel
  intro hopen
  refine hshared _ hverb ?_
  rw [Text.toAsciiLowercase, List.head?_map, hopen]
  rfl

end Plain

/-- The options that add to a list. -/
def listVerbs : List Text := ["route".toList, "route-ipv6".toList, "dhcp-option".toList]

theorem first_of_notMem {verb : Text} (h : verb ∉ listVerbs) (args : List Text)
    (config : NetworkProvisioningConfig) : First (({} : PushOptions).apply verb args) config := by
  simp only [listVerbs, List.mem_cons, List.not_mem_nil, or_false, not_or] at h
  have hframe := PushOptions.frame_apply {} verb args
  constructor
  · rw [hframe.dnsServers h.2.2]
    exact List.nil_prefix
  · rw [hframe.searchDomains h.2.2]
    exact List.nil_prefix
  · rw [hframe.routesV4 h.1]
    exact List.nil_prefix
  · rw [hframe.routesV6 h.2.1]
    exact List.nil_prefix

/-- Where the parsers read an option alike and no later line overrides it, the profile with the
option and the reply with the option differ at most in that what a reply pushes comes first. -/
theorem static_option_as_pushed {env : ParserEnv} {profile rest option word : Text}
    {args before after : List Text} {front : ParsedOvpnFile} {base : OpenVpnConfig}
    (hplain : IsPlain option) (hwords : Text.splitWhitespace option = word :: args)
    (hverb : Text.toAsciiLowercase word ∈ sharedVerbs)
    (hprofile : Text.lines profile = before ++ option :: after)
    (hrest : Text.lines rest = before ++ after) (hbefore : Reads env before front)
    (hafter : ∀ back, Reads env after back →
      ∀ dir ∈ back.directives, ¬ Overrides dir.name (Text.toAsciiLowercase word))
    (hbase : parseOvpnConfig env rest = some (.ok base))
    (hsame : SameReading (Text.toAsciiLowercase word) args base) :
    ∃ static empty options, parseOvpnConfig env profile = some (.ok static) ∧
      parsePushReply "PUSH_REPLY".toList = .ok empty ∧
      parsePushReply ("PUSH_REPLY,".toList ++ option) = .ok options ∧
      let fromProfile := empty.buildProvisioningConfig static
      let fromReply := options.buildProvisioningConfig base
      fromReply = options.putFirst fromProfile ∧
        (fromReply = fromProfile ↔ First options fromProfile) ∧
        (Text.toAsciiLowercase word ∉ listVerbs → fromReply = fromProfile) := by
  have hline : Reads env [option] { directives :=
      [{ name := Text.toAsciiLowercase word, args, lineNumber := 1 }] } :=
    hplain.reads hwords (head?_ne_of_shared hverb)
  obtain ⟨config, back, hback, rfl, hstatic⟩ :=
    parseOvpnConfig_insert hbefore hline hprofile hrest hbase
  have hmatches := Matches.applyDirective config hverb hsame 1
  have hcovers := hmatches.toCovers.foldl fun dir hdir =>
    leaves_apply (hafter back hback dir hdir) args
  have hframe := PushOptions.frame_apply {} (Text.toAsciiLowercase word) args
  have htopology := hcovers.buildProvisioningConfig hmatches.toReplyOnly fun hset => by
    have hifconfig : Text.toAsciiLowercase word = "ifconfig".toList := by
      by_contra hne
      exact hset (hframe.ifconfigV4 hne)
    have hnone := hframe.topology (by rw [hifconfig]; decide)
    rw [hnone]
    exact hsame.ifconfigV4 hifconfig
  have hfirst := putFirst_eq_self_iff (({} : PushOptions).apply (Text.toAsciiLowercase word) args)
    (back.directives.foldl OpenVpnConfig.applyDirective (config.applyDirective
      { name := Text.toAsciiLowercase word, args, lineNumber := 1 }))
  refine ⟨_, {}, _, hstatic, rfl, hplain.parsePushReply_eq hwords, htopology, ?_, ?_⟩
  · rw [htopology]
    exact hfirst
  · intro hlist
    rw [htopology]
    exact hfirst.mpr (first_of_notMem hlist args _)

open Protocol.Loopback (parserEnv exists_parsed)

/-- A name server between two other lines of a profile. -/
theorem static_option_as_pushed_dns :
    ∃ base static empty options,
      parseOvpnConfig parserEnv "client\nverb 4\n".toList = some (.ok base) ∧
      parseOvpnConfig parserEnv "client\ndhcp-option DNS 10.8.0.1\nverb 4\n".toList =
        some (.ok static) ∧
      parsePushReply "PUSH_REPLY".toList = .ok empty ∧
      parsePushReply ("PUSH_REPLY,".toList ++ "dhcp-option DNS 10.8.0.1".toList) = .ok options ∧
      options.buildProvisioningConfig base =
        options.putFirst (empty.buildProvisioningConfig static) := by
  obtain ⟨base, hbase, -⟩ : ∃ base, parseOvpnConfig parserEnv "client\nverb 4\n".toList =
      some (.ok base) ∧ true = true := exists_parsed (by decide +kernel)
  have hafter : ∀ back, Reads parserEnv ["verb 4".toList] back →
      ∀ dir ∈ back.directives, ¬ Overrides dir.name
        (Text.toAsciiLowercase "dhcp-option".toList) := by
    intro back hback
    obtain rfl := congrArg AstState.result (Option.some.inj hback)
    decide +kernel
  have hbefore : Reads parserEnv ["client".toList]
      { directives := [{ name := "client".toList, args := [], lineNumber := 1 }] } := rfl
  have hwords : Text.splitWhitespace "dhcp-option DNS 10.8.0.1".toList =
      "dhcp-option".toList :: ["DNS".toList, "10.8.0.1".toList] := by decide +kernel
  have hprofile : Text.lines "client\ndhcp-option DNS 10.8.0.1\nverb 4\n".toList =
      ["client".toList] ++ "dhcp-option DNS 10.8.0.1".toList :: ["verb 4".toList] := by
    decide +kernel
  obtain ⟨static, empty, options, hstatic, hempty, hoptions, heq, -⟩ :=
    static_option_as_pushed (by decide +kernel) hwords (by decide +kernel) hprofile
      (by decide +kernel) hbefore hafter hbase
      ⟨fun h => absurd h (by decide), fun h => absurd h (by decide), fun h => absurd h (by decide),
        fun _ => by decide⟩
  exact ⟨base, static, empty, options, hbase, hstatic, hempty, hoptions, heq⟩

/-- A route of the profile goes behind a pushed one, and stays before a later one of the profile. -/
theorem pushed_route_comes_first :
    ∃ static base empty options,
      parseOvpnConfig parserEnv
          "route 10.1.0.0 255.255.0.0\nroute 10.2.0.0 255.255.0.0\n".toList = some (.ok static) ∧
      parseOvpnConfig parserEnv "route 10.1.0.0 255.255.0.0\n".toList = some (.ok base) ∧
      parsePushReply "PUSH_REPLY".toList = .ok empty ∧
      parsePushReply "PUSH_REPLY,route 10.2.0.0 255.255.0.0".toList = .ok options ∧
      (options.buildProvisioningConfig base).routesV4 ≠
        (empty.buildProvisioningConfig static).routesV4 := by
  let routeTo (n : UInt8) : Ipv4Route := ⟨⟨10, n, 0, 0⟩, ⟨255, 255, 0, 0⟩, none, none⟩
  obtain ⟨static, hstatic, hroutes⟩ : ∃ static, parseOvpnConfig parserEnv
      "route 10.1.0.0 255.255.0.0\nroute 10.2.0.0 255.255.0.0\n".toList = some (.ok static) ∧
      decide (static.routesV4 = [routeTo 1, routeTo 2]) = true := exists_parsed (by decide +kernel)
  obtain ⟨base, hbase, hroute⟩ : ∃ base, parseOvpnConfig parserEnv
      "route 10.1.0.0 255.255.0.0\n".toList = some (.ok base) ∧
      decide (base.routesV4 = [routeTo 1]) = true := exists_parsed (by decide +kernel)
  refine ⟨static, base, {}, _, hstatic, hbase, rfl, rfl, ?_⟩
  simp only [PushOptions.buildProvisioningConfig, of_decide_eq_true hroutes,
    of_decide_eq_true hroute]
  decide +kernel

end VpnHub.Config
