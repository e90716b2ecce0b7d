import VpnHub.Model.Endpoints
import VpnHub.Model.Loopback
import VpnHub.Verification.Parser.Lines

/-! # Connection blocks

The lines of the connection blocks and those outside the blocks all set the same fields of the
profile, one after the other. -/

namespace VpnHub.Config

variable {env : ParserEnv} {config next : OpenVpnConfig} {dir : Directive} {name : Text}
variable {args : List Text} {remote : RemoteEntry}

/-- The session connects to what the way names. -/
theorem peerOf_eq (config : OpenVpnConfig) (remote : RemoteEntry) (addr : Core.SocketAddr) :
    Core.SessionPc.peerOf config remote addr =
      (wayTo config remote).proxy.elim (some addr) Core.ProxyConfig.addr := by
  unfold Core.SessionPc.peerOf wayTo
  by_cases htcp : Core.isTcp (remote.proto.getD config.proto) = true
  · simp only [htcp, if_true]
    cases config.proxy with
    | none => rfl
    | some proxy => rfl
  · simp [htcp]

theorem linesOf_of_parse {block : InlineBlock} {ast : ParsedOvpnFile}
    (h : parseOvpnAst env block.content = some (.ok ast)) :
    linesOf env block = ast.directives := by
  rw [linesOf, h]

/-! ## The last line -/

theorem lastOf_append {α : Type} (read : Directive → Option α) (front back : List Directive) :
    lastOf read (front ++ back) = (lastOf read back).or (lastOf read front) := by
  simp [lastOf, List.getLast?_append]

theorem lastOf_concat {α : Type} (read : Directive → Option α) (dirs : List Directive)
    (dir : Directive) : lastOf read (dirs ++ [dir]) = (read dir).or (lastOf read dirs) := by
  have hone : lastOf read [dir] = read dir := by
    cases hdir : read dir <;> simp [lastOf, hdir]
  rw [lastOf_append, hone]

/-! ## One line -/

/-- The fields that say how the remotes are reached. -/
structure Endpoints where
  remotes : List RemoteEntry
  proto : TransportProtocol
  proxy : Option ProxyConfig

namespace Endpoints

def ofConfig (config : OpenVpnConfig) : Endpoints := ⟨config.remotes, config.proto, config.proxy⟩

def apply (endpoints : Endpoints) (dir : Directive) : Endpoints where
  remotes := endpoints.remotes ++ (remoteOf dir).toList
  proto := (protoOf dir).getD endpoints.proto
  proxy := (proxyOf dir).or endpoints.proxy

/-- The lines that say something about it. -/
def verbs : List Text :=
  ["remote".toList, "proto".toList, "http-proxy".toList, "socks-proxy".toList]

theorem notMem_verbs_iff : name ∉ verbs ↔ name ≠ "remote".toList ∧ name ≠ "proto".toList ∧
    name ≠ "http-proxy".toList ∧ name ≠ "socks-proxy".toList := by
  simp only [verbs, List.mem_cons, List.not_mem_nil, or_false, not_or, ne_eq]

theorem ofConfig_pushRemote (h : dir.name = "remote".toList) (config : OpenVpnConfig) :
    ofConfig (config.pushRemote dir.args) = (ofConfig config).apply dir := by
  cases hargs : dir.args with
  | nil => simp [ofConfig, apply, OpenVpnConfig.pushRemote, remoteOf, protoOf, proxyOf, h, hargs]
  | cons host args =>
      simp [ofConfig, apply, OpenVpnConfig.pushRemote, remoteOf, protoOf, proxyOf, h, hargs]

theorem ofConfig_setProto (h : dir.name = "proto".toList) (config : OpenVpnConfig) :
    ofConfig (config.setProto dir.args) = (ofConfig config).apply dir := by
  unfold OpenVpnConfig.setProto
  cases hproto : firstArg dir.args TransportProtocol.fromStr with
  | none => simp [ofConfig, apply, remoteOf, protoOf, proxyOf, h, hproto]
  | some proto => simp [ofConfig, apply, remoteOf, protoOf, proxyOf, h, hproto]

theorem ofConfig_setProxy {make : Text → UInt16 → Option Text → ProxyConfig}
    (h : proxyOf dir = proxyOfArgs make dir.args) (hremote : remoteOf dir = none)
    (hproto : protoOf dir = none) (config : OpenVpnConfig) :
    ofConfig (config.setProxy dir.args make) = (ofConfig config).apply dir := by
  unfold OpenVpnConfig.setProxy
  rw [apply, h, hremote, hproto]
  rcases dir.args with _ | ⟨host, _ | ⟨port, rest⟩⟩
  · simp [ofConfig, proxyOfArgs]
  · simp [ofConfig, proxyOfArgs]
  · cases hport : Text.parseU16 port with
    | none => simp [ofConfig, proxyOfArgs, hport]
    | some port => simp [ofConfig, proxyOfArgs, hport]

theorem apply_of_notMem (h : dir.name ∉ verbs) (endpoints : Endpoints) :
    endpoints.apply dir = endpoints := by
  obtain ⟨hremote, hproto, hhttp, hsocks⟩ := notMem_verbs_iff.mp h
  rw [apply, remoteOf, protoOf, proxyOf, if_neg hremote, if_neg hproto, if_neg hhttp,
    if_neg hsocks]
  simp

theorem ofConfig_applyConnectionDirective (config : OpenVpnConfig) (dir : Directive) :
    ofConfig (config.applyConnectionDirective dir) = (ofConfig config).apply dir := by
  unfold OpenVpnConfig.applyConnectionDirective
  by_cases hremote : dir.name = "remote".toList
  · rw [if_pos hremote, ofConfig_pushRemote hremote]
  by_cases hproto : dir.name = "proto".toList
  · rw [if_neg hremote, if_pos hproto, ofConfig_setProto hproto]
  have hremotes : remoteOf dir = none := if_neg hremote
  have hprotos : protoOf dir = none := if_neg hproto
  by_cases hhttp : dir.name = "http-proxy".toList
  · rw [if_neg hremote, if_neg hproto, if_pos hhttp]
    exact ofConfig_setProxy (if_pos hhttp) hremotes hprotos config
  by_cases hsocks : dir.name = "socks-proxy".toList
  · rw [if_neg hremote, if_neg hproto, if_neg hhttp, if_pos hsocks]
    exact ofConfig_setProxy ((if_neg hhttp).trans (if_pos hsocks)) hremotes hprotos config
  · rw [if_neg hremote, if_neg hproto, if_neg hhttp, if_neg hsocks,
      apply_of_notMem (notMem_verbs_iff.mpr ⟨hremote, hproto, hhttp, hsocks⟩)]

/-! ### Lines outside the blocks -/

/-- Whatever a group of directives makes of the profile, the endpoints stay. -/
def Keeps (config : OpenVpnConfig) (outcome : Option OpenVpnConfig) : Prop :=
  ∀ next ∈ outcome, ofConfig next = ofConfig config

theorem Keeps.none : Keeps config none := by simp [Keeps]

theorem Keeps.some (h : ofConfig next = ofConfig config) : Keeps config (some next) := by
  simpa [Keeps] using h

theorem Keeps.ite {c : Prop} [Decidable c] {a b : Option OpenVpnConfig}
    (hb : ¬ c → Keeps config b) (ha : c → Keeps config a) :
    Keeps config (if c then a else b) := by
  split
  · exact ha ‹_›
  · exact hb ‹_›

theorem keeps_tls (config : OpenVpnConfig) (name : Text) (args : List Text) :
    Keeps config (config.applyTlsDirective name args) := by
  unfold OpenVpnConfig.applyTlsDirective
  repeat refine .ite (fun _ => ?_) fun _ => ?_
  · exact .none
  all_goals
    try split
    all_goals exact .some rfl

theorem keeps_network (config : OpenVpnConfig) (name : Text) (args : List Text) :
    Keeps config (config.applyNetworkDirective name args) := by
  have hdhcp (optType optVal : Text) :
      ofConfig (config.applyDhcpOption optType optVal) = ofConfig config := by
    unfold OpenVpnConfig.applyDhcpOption
    split
    · split
      · rfl
      · rfl
    · split
      · rfl
      · rfl
  unfold OpenVpnConfig.applyNetworkDirective
  repeat refine .ite (fun _ => ?_) fun _ => ?_
  · exact .none
  all_goals
    try split
    all_goals try exact .some rfl
  exact .some (hdhcp _ _)

theorem keeps_session (h : name ∉ verbs) (config : OpenVpnConfig) (args : List Text) :
    Keeps config (config.applySessionDirective name args) := by
  obtain ⟨hremote, hproto, hhttp, hsocks⟩ := notMem_verbs_iff.mp h
  unfold OpenVpnConfig.applySessionDirective
  repeat refine .ite (fun _ => ?_) fun hname => ?_
  · exact .none
  all_goals
    try split
    all_goals try exact .some rfl
  · exact absurd hname hsocks
  · exact absurd hname hhttp
  · exact absurd hname hremote
  · exact absurd hname hproto

/-- The four directives outside a block are those inside it. -/
theorem applyDirective_of_mem (h : dir.name ∈ verbs) (config : OpenVpnConfig) :
    config.applyDirective dir = config.applyConnectionDirective dir := by
  have hsession : config.applySessionDirective dir.name dir.args =
      some (config.applyConnectionDirective dir) := by
    unfold OpenVpnConfig.applySessionDirective OpenVpnConfig.applyConnectionDirective
    simp only [verbs, List.mem_cons, List.not_mem_nil, or_false] at h
    rcases h with h | h | h | h
    · rw [h, if_pos rfl]
      repeat rw [if_neg (by decide)]
      rw [if_pos rfl]
    · rw [h]
      repeat rw [if_neg (by decide)]
      rw [if_pos rfl, if_neg (by decide), if_pos rfl]
    · rw [h]
      repeat rw [if_neg (by decide)]
      rw [if_pos rfl]
      repeat rw [if_neg (by decide)]
      rw [if_pos rfl]
    · rw [h]
      repeat rw [if_neg (by decide)]
      rw [if_pos rfl]
      repeat rw [if_neg (by decide)]
      rw [if_pos rfl]
  simp [OpenVpnConfig.applyDirective, hsession]

theorem ofConfig_applyDirective (config : OpenVpnConfig) (dir : Directive) :
    ofConfig (config.applyDirective dir) = (ofConfig config).apply dir := by
  by_cases hverb : dir.name ∈ verbs
  · rw [applyDirective_of_mem hverb, ofConfig_applyConnectionDirective]
  · rw [apply_of_notMem hverb]
    have hkeeps : Keeps config (((config.applySessionDirective dir.name dir.args).or
        (config.applyTlsDirective dir.name dir.args)).or
        (config.applyNetworkDirective dir.name dir.args)) := by
      intro next hnext
      simp only [Option.mem_def, Option.or_eq_some_iff] at hnext
      rcases hnext with (hsession | ⟨-, htls⟩) | ⟨-, hnetwork⟩
      · exact keeps_session hverb config dir.args next hsession
      · exact keeps_tls config dir.name dir.args next htls
      · exact keeps_network config dir.name dir.args next hnetwork
    unfold OpenVpnConfig.applyDirective
    generalize ((config.applySessionDirective dir.name dir.args).or
      (config.applyTlsDirective dir.name dir.args)).or
      (config.applyNetworkDirective dir.name dir.args) = outcome at hkeeps
    cases outcome with
    | none => rfl
    | some next => exact hkeeps next rfl

/-! ## Many lines -/

theorem ofConfig_foldl {f : OpenVpnConfig → Directive → OpenVpnConfig}
    (h : ∀ config dir, ofConfig (f config dir) = (ofConfig config).apply dir)
    (config : OpenVpnConfig) (dirs : List Directive) :
    ofConfig (dirs.foldl f config) = dirs.foldl apply (ofConfig config) := by
  induction dirs generalizing config with
  | nil => rfl
  | cons dir dirs ih => rw [List.foldl_cons, List.foldl_cons, ih, h]

/-- Where a block is accepted, the endpoints stay. -/
def KeepsBlock (config : OpenVpnConfig)
    (outcome : Option (Except ConfigError OpenVpnConfig)) : Prop :=
  ∀ next, outcome = some (.ok next) → ofConfig next = ofConfig config

theorem KeepsBlock.ok (h : ofConfig next = ofConfig config) :
    KeepsBlock config (some (.ok next)) := by
  intro other hother
  obtain rfl : next = other := by simpa using hother
  exact h

theorem KeepsBlock.ite {c : Prop} [Decidable c]
    {a b : Option (Except ConfigError OpenVpnConfig)} (hb : ¬ c → KeepsBlock config b)
    (ha : c → KeepsBlock config a) : KeepsBlock config (if c then a else b) := by
  split
  · exact ha ‹_›
  · exact hb ‹_›

theorem keepsBlock {block : InlineBlock} (h : block.tag ≠ "connection".toList)
    (config : OpenVpnConfig) : KeepsBlock config (config.applyBlock env block) := by
  unfold OpenVpnConfig.applyBlock
  rw [if_neg h]
  repeat refine .ite (fun _ => ?_) fun _ => ?_
  · exact .ok rfl
  all_goals try exact .ok rfl
  simp only
  split
  · exact .ok rfl
  · intro next hnext
    cases hnext

theorem ofConfig_applyBlock_connection {block : InlineBlock} (htag : isConnection block = true)
    (h : config.applyBlock env block = some (.ok next)) :
    ofConfig next = (linesOf env block).foldl apply (ofConfig config) := by
  unfold OpenVpnConfig.applyBlock at h
  rw [of_decide_eq_true htag] at h
  repeat rw [if_neg (by decide)] at h
  rw [if_pos rfl] at h
  rcases hast : parseOvpnAst env block.content with _ | err | ast
  · rw [hast] at h
    cases h
  · rw [hast] at h
    cases h
  · rw [hast] at h
    obtain rfl : config.applyConnectionBlock ast = next := by simpa using h
    rw [linesOf_of_parse hast]
    exact ofConfig_foldl ofConfig_applyConnectionDirective config ast.directives

theorem ofConfig_applyBlocks {blocks : List InlineBlock}
    (h : OpenVpnConfig.applyBlocks env config blocks = some (.ok next)) :
    ofConfig next = (connectionLines env blocks).foldl apply (ofConfig config) := by
  induction blocks generalizing config with
  | nil =>
      obtain rfl : config = next := by simpa [OpenVpnConfig.applyBlocks] using h
      rfl
  | cons block blocks ih =>
      rw [OpenVpnConfig.applyBlocks] at h
      rcases hblock : config.applyBlock env block with _ | err | between
      · rw [hblock] at h
        cases h
      · rw [hblock] at h
        cases h
      · rw [hblock] at h
        rw [ih h, connectionLines, connectionLines]
        by_cases htag : isConnection block = true
        · rw [List.filter_cons_of_pos htag, List.flatMap_cons, List.foldl_append,
            ofConfig_applyBlock_connection htag hblock]
        · have hne : block.tag ≠ "connection".toList := fun heq => htag (decide_eq_true heq)
          rw [List.filter_cons_of_neg htag, keepsBlock hne config between hblock]

/-- The last line of a kind counts, and all remotes do. -/
theorem foldl_apply (dirs : List Directive) (endpoints : Endpoints) :
    dirs.foldl apply endpoints = {
      remotes := endpoints.remotes ++ dirs.filterMap remoteOf
      proto := (lastOf protoOf dirs).getD endpoints.proto
      proxy := (lastOf proxyOf dirs).or endpoints.proxy } := by
  induction dirs using List.reverseRecOn with
  | nil => simp [lastOf]
  | append_singleton dirs dir ih =>
      have hremotes : (dirs ++ [dir]).filterMap remoteOf =
          dirs.filterMap remoteOf ++ (remoteOf dir).toList := by
        cases hdir : remoteOf dir <;> simp [hdir]
      have hproto : ((protoOf dir).or (lastOf protoOf dirs)).getD endpoints.proto =
          (protoOf dir).getD ((lastOf protoOf dirs).getD endpoints.proto) := by
        cases protoOf dir <;> rfl
      rw [List.foldl_concat, ih, apply, hremotes, lastOf_concat, lastOf_concat, hproto,
        Option.or_assoc, List.append_assoc]

end Endpoints

/-! ## Profiles -/

/-- The lines of the blocks come before those outside them. -/
theorem endpoints_of_parse {content : Text} {file : ParsedOvpnFile}
    (hconfig : parseOvpnConfig env content = some (.ok config))
    (hfile : parseOvpnAst env content = some (.ok file)) :
    Endpoints.ofConfig config =
      (connectionLines env file.inlineBlocks ++ file.directives).foldl Endpoints.apply
        ⟨[], .udp, none⟩ := by
  obtain ⟨file', between, hreads, hblocks, rfl⟩ := parseOvpnConfig_eq_ok.mp hconfig
  obtain rfl : file' = file := by
    have hfile' := parseOvpnAst_eq_ok.mpr hreads
    simpa [hfile] using hfile'.symm
  rw [Endpoints.ofConfig_foldl Endpoints.ofConfig_applyDirective, List.foldl_append,
    Endpoints.ofConfig_applyBlocks hblocks]
  rfl

theorem agrees_iff {α : Type} {read : Directive → Option α} {default : Option α}
    {top own blocks : List Directive} : Agrees read default top own blocks ↔
      ((lastOf read top).or (lastOf read blocks)).or default =
        ((lastOf read own).or (lastOf read top)).or default := by
  constructor
  · rintro ⟨hoverridden, hlast⟩
    cases htop : lastOf read top with
    | none => simpa using hlast htop
    | some x =>
        cases hown : lastOf read own with
        | none => simp
        | some y => simp [hoverridden x htop y hown]
  · intro h
    refine ⟨fun x hx y hy => ?_, fun htop => ?_⟩
    · rw [Option.mem_def.mp hx, Option.mem_def.mp hy] at h
      simpa using h.symm
    · simpa [htop] using h

/-- A remote of a connection block is among the remotes of the session, which reaches it as its
block says if and only if no line elsewhere takes it another way. -/
theorem wayTo_eq_ownWay_iff {content : Text} {file own : ParsedOvpnFile} {block : InlineBlock}
    (hconfig : parseOvpnConfig env content = some (.ok config))
    (hfile : parseOvpnAst env content = some (.ok file)) (hblock : block ∈ file.inlineBlocks)
    (htag : isConnection block = true) (hown : parseOvpnAst env block.content = some (.ok own))
    (hremote : remote ∈ own.directives.filterMap remoteOf) :
    remote ∈ config.remotes ∧
      (wayTo config remote = ownWay file.directives own.directives remote ↔
        Undisturbed file.directives own.directives (connectionLines env file.inlineBlocks)
          remote) := by
  have hends := endpoints_of_parse hconfig hfile
  rw [Endpoints.foldl_apply, lastOf_append, lastOf_append, Endpoints.ofConfig,
    Endpoints.mk.injEq] at hends
  obtain ⟨hremotes, hproto, hproxy⟩ := hends
  constructor
  · have hmem : remote ∈ (linesOf env block).filterMap remoteOf := by
      rwa [linesOf_of_parse hown]
    obtain ⟨dir, hdir, hread⟩ := List.mem_filterMap.mp hmem
    have hline : dir ∈ connectionLines env file.inlineBlocks :=
      List.mem_flatMap.mpr ⟨block, List.mem_filter.mpr ⟨hblock, htag⟩, hdir⟩
    rw [hremotes, List.nil_append]
    exact List.mem_filterMap.mpr ⟨dir, List.mem_append_left _ hline, hread⟩
  · generalize connectionLines env file.inlineBlocks = blocks at hproto hproxy ⊢
    generalize file.directives = top at hproto hproxy ⊢
    generalize own.directives = own
    have hway : wayTo config remote = ownWay top own remote ↔
        remote.proto.getD config.proto = (ownWay top own remote).proto ∧
          (Core.isTcp (ownWay top own remote).proto →
            config.proxy = (lastOf proxyOf own).or (lastOf proxyOf top)) := by
      unfold wayTo ownWay
      simp only [Way.mk.injEq]
      refine and_congr_right fun heq => ?_
      rw [heq]
      split
      · rename_i htcp
        exact ⟨fun h _ => h, fun h => h htcp⟩
      · rename_i hudp
        exact ⟨fun _ htcp => absurd htcp hudp, fun _ => rfl⟩
    have hprotoIff : remote.proto.getD config.proto = (ownWay top own remote).proto ↔
        (remote.proto = none → Agrees protoOf (some .udp) top own blocks) := by
      rw [agrees_iff, hproto, ownWay]
      cases remote.proto with
      | some proto => simp
      | none =>
          simp only [Option.getD_none, Option.none_or, forall_const, Option.or_some,
            Option.some.injEq]
    have hproxyIff : config.proxy = (lastOf proxyOf own).or (lastOf proxyOf top) ↔
        Agrees proxyOf none top own blocks := by
      rw [agrees_iff, hproxy, Option.or_none]
      simp
    rw [hway, hprotoIff, hproxyIff]
    exact ⟨fun h => ⟨h.1, h.2⟩, fun h => ⟨h.proto, h.proxy⟩⟩

/-! ## Two blocks -/

open Protocol.Loopback (parserEnv exists_parsed)

/-- The second of two blocks has the given lines after its remote. -/
def twoBlocks (lines : Text) : Text :=
  "<connection>\nremote a 1194\n</connection>\n<connection>\nremote b 443 tcp\n".toList ++ lines ++
    "</connection>\n".toList

def firstRemote : RemoteEntry := ⟨"a".toList, 1194, none⟩

def secondRemote : RemoteEntry := ⟨"b".toList, 443, some .tcp⟩

theorem wayTo_eq_ownWay_iff_proxy : ∃ config,
    parseOvpnConfig parserEnv (twoBlocks "http-proxy c 8080\n".toList) = some (.ok config) ∧
      wayTo config secondRemote = ⟨.tcp, some (.http "c".toList 8080 none)⟩ := by
  have hparsed : ((parseOvpnConfig parserEnv (twoBlocks "http-proxy c 8080\n".toList)).any
      fun result => result.toOption.any fun _ => true) = true := by decide +kernel
  obtain ⟨config, hconfig, -⟩ := exists_parsed hparsed
  let first : InlineBlock := ⟨"connection".toList, "remote a 1194".toList, none, 1⟩
  let second : InlineBlock :=
    ⟨"connection".toList, "remote b 443 tcp\nhttp-proxy c 8080".toList, none, 4⟩
  have hfile : parseOvpnAst parserEnv (twoBlocks "http-proxy c 8080\n".toList) =
      some (.ok { inlineBlocks := [first, second] }) := by decide +kernel
  have hown : parseOvpnAst parserEnv second.content = some (.ok {
      directives := [⟨"remote".toList, ["b".toList, "443".toList, "tcp".toList], 1⟩,
        ⟨"http-proxy".toList, ["c".toList, "8080".toList], 2⟩] }) := by decide +kernel
  have hsecond : second ∈ [first, second] := by simp
  obtain ⟨-, hway⟩ := wayTo_eq_ownWay_iff hconfig hfile hsecond rfl hown
    (by decide +kernel : secondRemote ∈ _)
  refine ⟨config, hconfig, (hway.mpr ⟨fun hnone => ?_, fun _ => ?_⟩).trans (by decide +kernel)⟩
  · cases hnone
  · exact agrees_iff.mpr (by decide +kernel)

/-- The protocol of the second block is taken for the first. -/
theorem proto_of_other_block : ∃ config config',
    parseOvpnConfig parserEnv (twoBlocks []) = some (.ok config) ∧
      parseOvpnConfig parserEnv (twoBlocks "proto tcp\n".toList) = some (.ok config') ∧
      firstRemote ∈ config.remotes ∧ firstRemote ∈ config'.remotes ∧
      wayTo config firstRemote = ⟨.udp, none⟩ ∧ wayTo config' firstRemote = ⟨.tcp, none⟩ := by
  have hudp : ((parseOvpnConfig parserEnv (twoBlocks [])).any fun result =>
      result.toOption.any fun config => decide (firstRemote ∈ config.remotes ∧
        wayTo config firstRemote = ⟨.udp, none⟩)) = true := by decide +kernel
  have htcp : ((parseOvpnConfig parserEnv (twoBlocks "proto tcp\n".toList)).any fun result =>
      result.toOption.any fun config => decide (firstRemote ∈ config.remotes ∧
        wayTo config firstRemote = ⟨.tcp, none⟩)) = true := by decide +kernel
  obtain ⟨config, hconfig, hway⟩ := exists_parsed hudp
  obtain ⟨config', hconfig', hway'⟩ := exists_parsed htcp
  obtain ⟨hremote, hway⟩ := of_decide_eq_true hway
  obtain ⟨hremote', hway'⟩ := of_decide_eq_true hway'
  exact ⟨config, config', hconfig, hconfig', hremote, hremote', hway, hway'⟩

end VpnHub.Config
