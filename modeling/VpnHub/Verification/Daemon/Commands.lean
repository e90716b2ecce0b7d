import VpnHub.Program.Daemon.Network

/-! Which parts of the host each operation of the network manager leaves alone. -/

namespace VpnHub.Daemon

/-! ## Single commands -/

/-- The command is about the kill switch table. -/
def Command.onKillswitch : Command → Bool
  | nftLoad _ => true
  | nftDeleteTable => true
  | _ => false

/-- The command is about the IPv6 shield routes. -/
def Command.onShield : Command → Bool
  | shieldAdd _ => true
  | shieldDel _ => true
  | _ => false

/-- The command is about the IPv4 routes. -/
def Command.onRoutes : Command → Bool
  | routeReplace _ _ _ _ => true
  | routeDel _ _ _ _ => true
  | _ => false

/-- A successful command changes only the part of the host it is about. -/
theorem Command.effect_frame {command : Command} {host host' : Host}
    (h : command.effect host = some host') :
    (command.onKillswitch = false → host'.killswitch = host.killswitch) ∧
    (command.onShield = false → host'.shieldRoutes = host.shieldRoutes) ∧
    (command.onRoutes = false → host'.routes = host.routes) ∧ host'.output = host.output := by
  cases command with
  | nftLoad chain =>
      obtain ⟨-, rfl⟩ := by simpa [effect] using h
      simp [onKillswitch]
  | nftDeleteTable =>
      obtain ⟨-, -, rfl⟩ := by simpa [effect, Option.map_eq_some_iff] using h
      simp [onKillswitch]
  | iptablesNew =>
      simp only [effect] at h
      split at h
      · cases h
        simp
      · cases h
  | iptablesAppend rule =>
      simp only [effect] at h
      split at h
      · obtain ⟨rules, -, rfl⟩ := Option.map_eq_some_iff.mp h
        simp
      · cases h
  | iptablesFlush =>
      obtain ⟨-, -, rfl⟩ := Option.map_eq_some_iff.mp h
      simp
  | iptablesDelete =>
      simp only [effect] at h
      split at h
      · split at h
        · cases h
        · cases h
          simp
      · cases h
  | shieldAdd kind =>
      simp only [effect] at h
      split at h
      · cases h
      · cases h
        simp [onShield]
  | shieldDel kind =>
      simp only [effect] at h
      split at h
      · cases h
        simp [onShield]
      · cases h
  | routeReplace dest via dev metric =>
      obtain ⟨net, -, rfl⟩ := Option.map_eq_some_iff.mp h
      simp [onRoutes]
  | routeDel dest via dev metric =>
      obtain ⟨net, -, h⟩ := Option.bind_eq_some_iff.mp h
      simp only at h
      split at h
      · cases h
        simp [onRoutes]
      · cases h

namespace Shell

variable {env : Env} {command : Command} {sh : Shell}

/-- Running a command changes the host only through the command's effect. -/
theorem run_cases (env : Env) (command : Command) (sh : Shell) :
    ((sh.run env command).2.host = sh.host ∧ (sh.run env command).1 ≠ .success) ∨
      ∃ host, command.effect sh.host = some host ∧ (sh.run env command).2.host = host ∧
        (sh.run env command).1 = .success := by
  cases hout : env.outcome sh.asked command with
  | notRun => exact .inl (by simp [run, hout])
  | failure => exact .inl (by simp [run, hout])
  | success =>
      cases heff : command.effect sh.host with
      | none => exact .inl (by simp [run, hout, heff])
      | some host => exact .inr ⟨host, rfl, by simp [run, hout, heff]⟩

/-- A command that is allowed to succeed and can does. -/
theorem run_success {host : Host} (hout : env.outcome sh.asked command = .success)
    (heff : command.effect sh.host = some host) :
    sh.run env command = (.success, ⟨host, sh.asked + 1⟩) := by
  simp [run, hout, heff]

/-! ## Programs -/

/-- `sh'` comes from `sh` by commands of one kind, and by questions, which change nothing. -/
inductive Runs (env : Env) (kind : Command → Bool) : Shell → Shell → Prop where
  | refl (sh : Shell) : Runs env kind sh sh
  | exec {sh sh' : Shell} (command : Command) (h : kind command = true)
      (before : Runs env kind sh sh') : Runs env kind sh (sh'.exec env command)
  | asked {sh sh' sh'' : Shell} (before : Runs env kind sh sh') (same : sh''.host = sh'.host) :
      Runs env kind sh sh''

variable {kind : Command → Bool} {sh' sh'' : Shell}

theorem Runs.trans (first : Runs env kind sh sh') (second : Runs env kind sh' sh'') :
    Runs env kind sh sh'' := by
  induction second with
  | refl => exact first
  | exec command h _ ih => exact ih.exec command h
  | asked _ same ih => exact ih.asked same

theorem Runs.of_host (same : sh'.host = sh.host) : Runs env kind sh sh' :=
  (Runs.refl sh).asked same

theorem Runs.mono {kind' : Command → Bool} (weaker : ∀ c, kind c = true → kind' c = true)
    (h : Runs env kind sh sh') : Runs env kind' sh sh' := by
  induction h with
  | refl => exact .refl _
  | exec command h _ ih => exact ih.exec command (weaker command h)
  | asked _ same ih => exact ih.asked same

theorem Runs.execAll {commands : List Command} (h : ∀ c ∈ commands, kind c = true) :
    Runs env kind sh (sh.execAll env commands) := by
  induction commands generalizing sh with
  | nil => exact .refl sh
  | cons c commands ih =>
      have first : Runs env kind sh (sh.exec env c) := (Runs.refl sh).exec c (h c (by simp))
      exact first.trans (ih fun d hd => h d (by simp [hd]))

/-- A part of the host that no command of the kind is about is left alone. -/
theorem Runs.killswitch (other : ∀ c, kind c = true → c.onKillswitch = false)
    (h : Runs env kind sh sh') : sh'.host.killswitch = sh.host.killswitch := by
  induction h with
  | refl => rfl
  | @exec sh' command hc _ ih =>
      rcases run_cases env command sh' with ⟨hhost, -⟩ | ⟨host, heff, hhost, -⟩
      · rw [Shell.exec, hhost, ih]
      · rw [Shell.exec, hhost, (Command.effect_frame heff).1 (other command hc), ih]
  | asked _ same ih => rw [same, ih]

theorem Runs.shieldRoutes (other : ∀ c, kind c = true → c.onShield = false)
    (h : Runs env kind sh sh') : sh'.host.shieldRoutes = sh.host.shieldRoutes := by
  induction h with
  | refl => rfl
  | @exec sh' command hc _ ih =>
      rcases run_cases env command sh' with ⟨hhost, -⟩ | ⟨host, heff, hhost, -⟩
      · rw [Shell.exec, hhost, ih]
      · rw [Shell.exec, hhost, (Command.effect_frame heff).2.1 (other command hc), ih]
  | asked _ same ih => rw [same, ih]

theorem Runs.routes (other : ∀ c, kind c = true → c.onRoutes = false)
    (h : Runs env kind sh sh') : sh'.host.routes = sh.host.routes := by
  induction h with
  | refl => rfl
  | @exec sh' command hc _ ih =>
      rcases run_cases env command sh' with ⟨hhost, -⟩ | ⟨host, heff, hhost, -⟩
      · rw [Shell.exec, hhost, ih]
      · rw [Shell.exec, hhost, (Command.effect_frame heff).2.2.1 (other command hc), ih]
  | asked _ same ih => rw [same, ih]

end Shell

/-! ## Routing -/

open Shell

variable {env : Env}

theorem host_resolveServerIps (serverIp : Text) (sh : Shell) :
    (resolveServerIps env serverIp sh).2.host = sh.host := by
  simp only [resolveServerIps]
  cases IpAddr.parse serverIp <;> rfl

theorem resolveServerIps_ne_nil (serverIp : Text) (sh : Shell) :
    (resolveServerIps env serverIp sh).1 ≠ [] := by
  simp only [resolveServerIps]
  cases IpAddr.parse serverIp with
  | some ip => simp
  | none =>
      simp only
      split <;> simp_all

namespace LinuxRouteManager

theorem host_discoverOriginalGateway (router : LinuxRouteManager) (sh : Shell) :
    (router.discoverOriginalGateway env sh).2.host = sh.host := by
  simp only [discoverOriginalGateway, Shell.query]
  cases env.stdout sh.asked .routeShowDefault <;> rfl

theorem host_detectLocalLanSubnet (router : LinuxRouteManager) (sh : Shell) :
    (router.detectLocalLanSubnet env sh).2.host = sh.host := by
  simp only [detectLocalLanSubnet]
  cases router.physicalInterface with
  | none => rfl
  | some dev =>
      simp only [Shell.query]
      split
      · rfl
      · split <;> rfl

/-- The kind takes in the commands that set the routes of a tunnel. -/
structure SetsRoutes (kind : Command → Bool) : Prop where
  bypass : ∀ target gw dev, kind (.routeReplace target (some gw) dev (some 1)) = true
  tunnel : ∀ route iface, kind (.routeReplace route none (some iface) none) = true

theorem SetsRoutes.onRoutes : SetsRoutes Command.onRoutes := ⟨fun _ _ _ => rfl, fun _ _ => rfl⟩

variable {kind : Command → Bool}

theorem runs_inject {checked : Bool} {command : Command} (note : Text)
    (h : kind command = true) (st : LinuxRouteManager × Shell) :
    Runs env kind st.2 (inject env checked command note st).2 := by
  have hrun : Runs env kind st.2 (st.2.run env command).2 := (Runs.refl _).exec command h
  simp only [inject]
  split <;> exact hrun

theorem runs_foldl {step : LinuxRouteManager × Shell → Text → LinuxRouteManager × Shell}
    (h : ∀ st route, Runs env kind st.2 (step st route).2)
    (targets : List Text) (st : LinuxRouteManager × Shell) :
    Runs env kind st.2 (targets.foldl step st).2 := by
  induction targets generalizing st with
  | nil => exact .refl _
  | cons target targets ih => exact (h st target).trans (ih (step st target))

theorem runs_injectBypass (hkind : SetsRoutes kind) (gw : Text) (st : LinuxRouteManager × Shell)
    (target : Text) : Runs env kind st.2 (injectBypass env gw st target).2 :=
  runs_inject _ (hkind.bypass _ _ _) st

theorem runs_injectTunnel (hkind : SetsRoutes kind) (checked : Bool) (iface : Text)
    (st : LinuxRouteManager × Shell) (route : Text) :
    Runs env kind st.2 (injectTunnel env checked iface st route).2 :=
  runs_inject _ (hkind.tunnel _ _) st

theorem runs_bypassServer (hkind : SetsRoutes kind) (serverIp : Text)
    (st : LinuxRouteManager × Shell) : Runs env kind st.2 (bypassServer env serverIp st).2 := by
  simp only [bypassServer]
  cases st.1.originalGateway with
  | none => exact .refl _
  | some gw =>
      have hresolve : Runs env kind st.2 (resolveServerIps env serverIp st.2).2 :=
        .of_host (host_resolveServerIps serverIp st.2)
      exact hresolve.trans (runs_foldl (runs_injectBypass hkind gw) _ (st.1, _))

theorem runs_injectRoutes (hkind : SetsRoutes kind) (args : RoutingArgs)
    (st : LinuxRouteManager × Shell) : Runs env kind st.2 (injectRoutes env args st).2 := by
  simp only [injectRoutes]
  split
  · exact (runs_foldl (runs_injectTunnel hkind false args.tunnelIface) _ st).trans
      (runs_foldl (runs_injectTunnel hkind true args.tunnelIface) _ _)
  · exact runs_foldl (runs_injectTunnel hkind false args.tunnelIface) _ st

/-- The routes into the tunnel are set after those past it. -/
theorem runs_after_bypass (hkind : SetsRoutes kind) (args : RoutingArgs)
    (router : LinuxRouteManager) (sh : Shell) :
    Runs env kind (bypassServer env args.serverIp (router.discoverOriginalGateway env sh)).2
      (router.setupVpnRouting env args sh).2 := by
  simp only [setupVpnRouting]
  split
  · have hdetect : Runs env kind
        (bypassServer env args.serverIp (router.discoverOriginalGateway env sh)).2
        ((bypassServer env args.serverIp (router.discoverOriginalGateway env sh)).1
          |>.detectLocalLanSubnet env
            (bypassServer env args.serverIp (router.discoverOriginalGateway env sh)).2).2 :=
      .of_host (host_detectLocalLanSubnet _ _)
    exact hdetect.trans (runs_injectRoutes hkind args _)
  · exact runs_injectRoutes hkind args _

/-- Setting the routes of a tunnel up runs no other commands. -/
theorem runs_setupVpnRouting (hkind : SetsRoutes kind) (args : RoutingArgs)
    (router : LinuxRouteManager) (sh : Shell) :
    Runs env kind sh (router.setupVpnRouting env args sh).2 := by
  have hdiscover : Runs env kind sh (router.discoverOriginalGateway env sh).2 :=
    .of_host (host_discoverOriginalGateway router sh)
  exact (hdiscover.trans (runs_bypassServer hkind args.serverIp _)).trans
    (runs_after_bypass hkind args router sh)

theorem onRoutes_deletion {entry : Text} {command : Command} (h : deletion entry = some command) :
    command.onRoutes = true := by
  unfold deletion at h
  split at h
  · split at h
    · obtain rfl := Option.some.inj h
      rfl
    · split at h
      · obtain rfl := Option.some.inj h
        rfl
      · split at h
        · obtain ⟨metric, -, rfl⟩ := Option.map_eq_some_iff.mp h
          rfl
        · cases h
  · cases h

theorem runs_forget (sh : Shell) (entry : Text) :
    Runs env Command.onRoutes sh (forget env sh entry) := by
  unfold forget
  split
  · rename_i command hdeletion
    exact (Runs.refl sh).exec command (onRoutes_deletion hdeletion)
  · exact .refl sh

theorem runs_foldl_forget (entries : List Text) (sh : Shell) :
    Runs env Command.onRoutes sh (entries.foldl (forget env) sh) := by
  induction entries generalizing sh with
  | nil => exact .refl sh
  | cons entry entries ih => exact (runs_forget sh entry).trans (ih _)

theorem runs_teardownVpnRouting (serverIp tunnelIface : Text) (router : LinuxRouteManager)
    (sh : Shell) :
    Runs env Command.onRoutes sh (router.teardownVpnRouting env serverIp tunnelIface sh).2 := by
  have hentries : Runs env Command.onRoutes sh (router.injectedRoutes.foldl (forget env) sh) :=
    runs_foldl_forget router.injectedRoutes sh
  have hhalves := (hentries.exec (.routeDel "0.0.0.0/1".toList none (some tunnelIface) none) rfl).exec
    (.routeDel "128.0.0.0/1".toList none (some tunnelIface) none) rfl
  simp only [teardownVpnRouting]
  cases router.originalGateway with
  | none => exact hhalves
  | some gw => exact hhalves.exec _ rfl

end LinuxRouteManager

end VpnHub.Daemon
