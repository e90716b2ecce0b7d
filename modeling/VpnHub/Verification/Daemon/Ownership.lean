import VpnHub.Model.Daemon

/-! Who owns the driver, the session and the network changes of a connection, over all
interleavings of requests, monitors and drivers. -/

namespace VpnHub.Daemon

/-! ## Tasks that are under way -/

namespace Task

/-- A `Connect` request that has passed its state check and has not stored its driver yet. -/
def connecting : Task → Bool
  | starting _ _ => true
  | storeSession _ _ _ => true
  | storeDriver _ _ _ => true
  | _ => false

/-- A `Disconnect` request that has taken the active driver and has not finished. -/
def releasing : Task → Bool
  | stopping _ => true
  | teardown => true
  | clearSession => true
  | _ => false

/-- A task that has a running driver in hand. -/
def holding : Task → Bool
  | storeSession _ _ _ => true
  | storeDriver _ _ _ => true
  | stopping _ => true
  | _ => false

/-- What a task that is under way relies on. -/
def Fits (d : Daemon) : Task → Prop
  | starting _ _ => d.activeDriver = none ∧ d.state ≠ .disconnected ∧ d.running = []
  | storeSession _ driver _ =>
    d.activeDriver = none ∧ d.state ≠ .disconnected ∧ d.running = [driver]
  | storeDriver _ driver _ =>
    d.activeDriver = none ∧ d.state ≠ .disconnected ∧ d.running = [driver] ∧
      d.activeSession ≠ none
  | stopping driver => d.activeDriver = none ∧ ∀ x ∈ d.running, x = driver
  | teardown => d.activeDriver = none
  | clearSession => d.activeDriver = none ∧ d.net.Clear
  | _ => True

/-- Two tasks that may be under way together: a connection is made alone. -/
def Compatible (a b : Task) : Prop :=
  (a.connecting = true → b.connecting = false ∧ b.releasing = false) ∧
    (b.connecting = true → a.connecting = false ∧ a.releasing = false)

theorem Compatible.symm {a b : Task} (h : Compatible a b) : Compatible b a := ⟨h.2, h.1⟩

/-- A task that neither makes nor takes a connection apart relies on nothing. -/
theorem fits_of_quiet {d : Daemon} {t : Task} (hc : t.connecting = false)
    (hr : t.releasing = false) : t.Fits d := by
  cases t <;> simp_all [connecting, releasing, Fits]

/-- What a task relies on survives a change that leaves a connection in the making alone and
takes at most drivers away. -/
theorem Fits.mono {d d' : Daemon} {t : Task} (h : t.Fits d)
    (hdriver : d.activeDriver = none → d'.activeDriver = none)
    (hrunning : ∀ x ∈ d'.running, x ∈ d.running)
    (hconnecting : t.connecting = true → d'.state ≠ .disconnected ∧ d'.running = d.running ∧
      (d.activeSession ≠ none → d'.activeSession ≠ none))
    (hclear : t = .clearSession → d'.net.Clear) : t.Fits d' := by
  cases t with
  | starting params driver =>
      obtain ⟨hstate, hsame, -⟩ := hconnecting rfl
      exact ⟨hdriver h.1, hstate, hsame.trans h.2.2⟩
  | storeSession params driver session =>
      obtain ⟨hstate, hsame, -⟩ := hconnecting rfl
      exact ⟨hdriver h.1, hstate, hsame.trans h.2.2⟩
  | storeDriver params driver iface =>
      obtain ⟨hstate, hsame, hsession⟩ := hconnecting rfl
      exact ⟨hdriver h.1, hstate, hsame.trans h.2.2.1, hsession h.2.2.2⟩
  | stopping driver => exact ⟨hdriver h.1, fun x hx => h.2 x (hrunning x hx)⟩
  | teardown => exact hdriver h
  | clearSession => exact ⟨hdriver h.1, hclear rfl⟩
  | connect | disconnect | takeDriver | setKillSwitch | done => trivial

theorem not_holding {t : Task} (hc : t.connecting = false) (hr : t.releasing = false) :
    t.holding = false := by
  cases t <;> simp_all [connecting, releasing, holding]

theorem compatible_of_quiet {a b : Task} (hc : a.connecting = false) (hr : a.releasing = false) :
    Compatible a b := by
  simp [Compatible, hc, hr]

theorem compatible_of_not_connecting {a b : Task} (ha : a.connecting = false)
    (hb : b.connecting = false) : Compatible a b := by
  simp [Compatible, ha, hb]

end Task

/-! ## The invariant -/

/-- The tasks and the shared state fit together: a running driver has an owner, and what a
connection has set up has a session. -/
structure Tidy (d : Daemon) (tasks : List Task) : Prop where
  fits : ∀ t ∈ tasks, t.Fits d
  compatible : tasks.Pairwise Task.Compatible
  held : d.activeDriver = none → (∀ t ∈ tasks, t.holding = false) → d.running = []
  active : ∀ driver ∈ d.activeDriver, ∀ x ∈ d.running, x = driver
  single : d.running.length ≤ 1
  session : d.activeSession = none → d.activeDriver = none ∧ d.net.Clear
  idle : d.state = .disconnected → d.activeSession = none

namespace Tidy

variable {d : Daemon} {old : Task} {others tasks : List Task}

theorem owned (h : Tidy d tasks) : d.Owned := by
  constructor
  · intro hstate
    have hsession := h.idle hstate
    exact ⟨(h.session hsession).1, hsession, (h.session hsession).2⟩
  · exact h.single

theorem initial : Tidy {} [] := by
  constructor <;> simp [NetworkManager.Clear, NetworkManager.isKillSwitchActive,
    NetworkManager.isIpv6Protected]

/-- The order of the tasks does not matter. -/
theorem perm {tasks' : List Task} (hperm : tasks.Perm tasks') (h : Tidy d tasks) :
    Tidy d tasks' := by
  constructor
  · exact fun t ht => h.fits t (hperm.mem_iff.mpr ht)
  · exact (hperm.pairwise_iff Task.Compatible.symm).mp h.compatible
  · exact fun hnone hall => h.held hnone fun t ht => hall t (hperm.mem_iff.mp ht)
  · exact h.active
  · exact h.single
  · exact h.session
  · exact h.idle

theorem state_ne {t : Task} (h : Tidy d tasks) (ht : t ∈ tasks) (hc : t.connecting = true) :
    d.state ≠ .disconnected := by
  have hfits := h.fits t ht
  cases t with
  | starting => exact hfits.2.1
  | storeSession => exact hfits.2.1
  | storeDriver => exact hfits.2.1
  | _ => cases hc

/-- A task without a driver in hand may come to rest. -/
theorem rest {new : Task} (h : Tidy d (old :: others)) (hold : old.holding = false)
    (hc : new.connecting = false) (hr : new.releasing = false) : Tidy d (new :: others) := by
  constructor
  · intro t ht
    rcases List.mem_cons.mp ht with rfl | ht
    · exact Task.fits_of_quiet hc hr
    · exact h.fits t (List.mem_cons_of_mem _ ht)
  · exact List.pairwise_cons.mpr
      ⟨fun t _ => Task.compatible_of_quiet hc hr, (List.pairwise_cons.mp h.compatible).2⟩
  · intro hnone hall
    apply h.held hnone
    intro t ht
    rcases List.mem_cons.mp ht with rfl | ht
    · exact hold
    · exact hall t (List.mem_cons_of_mem _ ht)
  · exact h.active
  · exact h.single
  · exact h.session
  · exact h.idle

/-- A new request is at rest. -/
theorem request {new : Task} (h : Tidy d tasks) (hc : new.connecting = false)
    (hr : new.releasing = false) : Tidy d (new :: tasks) := by
  constructor
  · intro t ht
    rcases List.mem_cons.mp ht with rfl | ht
    · exact Task.fits_of_quiet hc hr
    · exact h.fits t ht
  · exact List.pairwise_cons.mpr ⟨fun t _ => Task.compatible_of_quiet hc hr, h.compatible⟩
  · exact fun hnone hall => h.held hnone fun t ht => hall t (List.mem_cons_of_mem _ ht)
  · exact h.active
  · exact h.single
  · exact h.session
  · exact h.idle

/-- Where the drivers stay, only what is said about state, session and network is at stake. -/
theorem same_drivers {d' : Daemon} (h : Tidy d tasks)
    (hdriver : d'.activeDriver = d.activeDriver) (hrunning : d'.running = d.running)
    (hconnecting : ∀ t ∈ tasks, t.connecting = true →
      d'.state ≠ .disconnected ∧ (d.activeSession ≠ none → d'.activeSession ≠ none))
    (hclear : .clearSession ∈ tasks → d'.net.Clear)
    (hsession : d'.activeSession = none → d.activeDriver = none ∧ d'.net.Clear)
    (hidle : d'.state = .disconnected → d'.activeSession = none) : Tidy d' tasks := by
  constructor
  · intro t ht
    apply (h.fits t ht).mono
    · exact hdriver.trans
    · rw [hrunning]
      exact fun x hx => hx
    · intro hc
      obtain ⟨hstate, hkept⟩ := hconnecting t ht hc
      exact ⟨hstate, hrunning, hkept⟩
    · rintro rfl
      exact hclear ht
  · exact h.compatible
  · rw [hdriver, hrunning]
    exact h.held
  · rw [hdriver, hrunning]
    exact h.active
  · rw [hrunning]
    exact h.single
  · rw [hdriver]
    exact hsession
  · exact hidle

theorem clear_of_mem (h : Tidy d tasks) (hmem : .clearSession ∈ tasks) : d.net.Clear :=
  (h.fits _ hmem).2

/-- Any state but `Disconnected` fits. -/
theorem restate {state : SessionState} (h : Tidy d tasks) (hstate : state ≠ .disconnected) :
    Tidy { d with state } tasks := by
  refine h.same_drivers rfl rfl ?_ ?_ ?_ ?_
  · exact fun _ _ _ => ⟨hstate, id⟩
  · exact h.clear_of_mem
  · exact h.session
  · exact fun hdisc => absurd hdisc hstate

/-- So does `Disconnected`, where there is no session and none is being made. -/
theorem restate_disconnected (h : Tidy d tasks) (hsession : d.activeSession = none)
    (halone : ∀ t ∈ tasks, t.connecting = false) :
    Tidy { d with state := .disconnected } tasks := by
  refine h.same_drivers rfl rfl ?_ ?_ ?_ ?_
  · intro t ht hc
    rw [halone t ht] at hc
    cases hc
  · exact h.clear_of_mem
  · exact h.session
  · exact fun _ => hsession

/-! ### Requests -/

/-- The tasks beside one that makes a connection are at rest. -/
theorem others_quiet (h : Tidy d (old :: others)) (hold : old.connecting = true) :
    ∀ t ∈ others, t.connecting = false ∧ t.releasing = false :=
  fun t ht => ((List.pairwise_cons.mp h.compatible).1 t ht).1 hold

/-- The tasks beside one that takes a connection apart make none. -/
theorem others_not_connecting (h : Tidy d (old :: others)) (hold : old.releasing = true) :
    ∀ t ∈ others, t.connecting = false := by
  intro t ht
  have hcompat := ((List.pairwise_cons.mp h.compatible).1 t ht).2
  by_contra hne
  rw [(hcompat (Bool.eq_true_of_not_eq_false hne)).2] at hold
  cases hold

theorem fits_cons {new : Task} (hnew : new.Fits d)
    (hothers : ∀ t ∈ others, t.connecting = false ∧ t.releasing = false) :
    ∀ t ∈ new :: others, t.Fits d := by
  intro t ht
  rcases List.mem_cons.mp ht with rfl | ht
  · exact hnew
  · exact Task.fits_of_quiet (hothers t ht).1 (hothers t ht).2

theorem compatible_cons {new : Task} (h : Tidy d (old :: others))
    (hothers : ∀ t ∈ others, t.connecting = false ∧ t.releasing = false) :
    (new :: others).Pairwise Task.Compatible :=
  List.pairwise_cons.mpr
    ⟨fun t ht => (Task.compatible_of_quiet (hothers t ht).1 (hothers t ht).2).symm,
      (List.pairwise_cons.mp h.compatible).2⟩

theorem connect {params : ConnectParams} {driver : DriverId} (h : Tidy d (.connect params :: others))
    (hdriver : d.activeDriver = none)
    (hothers : ∀ t ∈ others, t.connecting = false ∧ t.releasing = false) :
    Tidy { d with state := .connecting } (.starting params driver :: others) := by
  have hrunning : d.running = [] := by
    apply h.held hdriver
    intro t ht
    rcases List.mem_cons.mp ht with rfl | ht
    · rfl
    · exact Task.not_holding (hothers t ht).1 (hothers t ht).2
  constructor
  · exact fits_cons ⟨hdriver, by simp, hrunning⟩ hothers
  · exact h.compatible_cons hothers
  · exact fun _ _ => hrunning
  · exact h.active
  · exact h.single
  · exact h.session
  · simp

theorem started {params : ConnectParams} {driver : DriverId} {session : ActiveSession}
    (h : Tidy d (.starting params driver :: others)) :
    Tidy { d with running := d.running ++ [driver] }
      (.storeSession params driver session :: others) := by
  obtain ⟨hdriver, hstate, hrunning⟩ := h.fits _ (List.mem_cons_self ..)
  have hothers := h.others_quiet rfl
  constructor
  · exact fits_cons ⟨hdriver, hstate, by simp [hrunning]⟩ hothers
  · exact h.compatible_cons hothers
  · intro _ hall
    cases hall _ (List.mem_cons_self ..)
  · simp [hdriver]
  · simp [hrunning]
  · exact h.session
  · exact h.idle

theorem storeSession {params : ConnectParams} {driver : DriverId} {session : ActiveSession}
    (h : Tidy d (.storeSession params driver session :: others)) :
    Tidy { d with activeSession := some session }
      (.storeDriver params driver session.interfaceName :: others) := by
  obtain ⟨hdriver, hstate, hrunning⟩ := h.fits _ (List.mem_cons_self ..)
  have hothers := h.others_quiet rfl
  constructor
  · exact fits_cons ⟨hdriver, hstate, hrunning, by simp⟩ hothers
  · exact h.compatible_cons hothers
  · intro _ hall
    cases hall _ (List.mem_cons_self ..)
  · exact h.active
  · exact h.single
  · simp
  · exact fun hdisc => absurd hdisc hstate

theorem storeDriver {params : ConnectParams} {driver : DriverId} {iface : Text}
    (h : Tidy d (.storeDriver params driver iface :: others)) :
    Tidy { d with activeDriver := some driver } (.done (.ok ()) :: others) := by
  obtain ⟨-, -, hrunning, hsession⟩ := h.fits _ (List.mem_cons_self ..)
  have hothers := h.others_quiet rfl
  constructor
  · exact fits_cons trivial hothers
  · exact h.compatible_cons hothers
  · simp
  · simp [hrunning]
  · exact h.single
  · exact fun hnone => absurd hnone hsession
  · exact h.idle

theorem takeDriver (h : Tidy d (.takeDriver :: others))
    (hothers : ∀ t ∈ others, t.connecting = false) :
    Tidy d.takeDriver.1 (d.takeDriver.2 :: others) := by
  cases hdriver : d.activeDriver with
  | some driver =>
      -- nobody else takes a connection apart, since the driver was still there
      have hquiet : ∀ t ∈ others, t.connecting = false ∧ t.releasing = false := by
        intro t ht
        have hfits := h.fits t (List.mem_cons_of_mem _ ht)
        refine ⟨hothers t ht, ?_⟩
        cases t <;> simp_all [Task.Fits, Task.releasing]
      simp only [Daemon.takeDriver, hdriver]
      constructor
      · exact fits_cons ⟨rfl, h.active driver hdriver⟩ hquiet
      · exact h.compatible_cons hquiet
      · intro _ hall
        cases hall _ (List.mem_cons_self ..)
      · simp
      · exact h.single
      · exact fun hnone => ⟨rfl, (h.session hnone).2⟩
      · exact h.idle
  | none =>
      simp only [Daemon.takeDriver, hdriver]
      constructor
      · intro t ht
        rcases List.mem_cons.mp ht with rfl | ht
        · exact hdriver
        · exact h.fits t (List.mem_cons_of_mem _ ht)
      · exact List.pairwise_cons.mpr
          ⟨fun t ht => Task.compatible_of_not_connecting rfl (hothers t ht),
            (List.pairwise_cons.mp h.compatible).2⟩
      · intro hnone hall
        apply h.held hnone
        intro t ht
        rcases List.mem_cons.mp ht with rfl | ht
        · rfl
        · exact hall t (List.mem_cons_of_mem _ ht)
      · exact h.active
      · exact h.single
      · exact h.session
      · exact h.idle

theorem activeDriver_eq_none (h : Tidy d (old :: others)) (hold : old.releasing = true) :
    d.activeDriver = none := by
  have hfits := h.fits old (List.mem_cons_self ..)
  cases old <;> simp_all [Task.releasing, Task.Fits]

/-- A task that takes a connection apart goes on to its next await point. -/
theorem release {d' : Daemon} {new : Task} (h : Tidy d (old :: others))
    (hold : old.releasing = true) (hnew : new.connecting = false) (hfits : new.Fits d')
    (hothers : .clearSession ∈ others → d'.net.Clear) (hdriver : d'.activeDriver = none)
    (hrunning : d'.running = d.running ∧ old.holding = false ∨ d'.running = [])
    (hclear : d'.activeSession = none → d'.net.Clear)
    (hidle : d'.state = .disconnected → d'.activeSession = none) : Tidy d' (new :: others) := by
  have hconnecting := h.others_not_connecting hold
  constructor
  · intro t ht
    rcases List.mem_cons.mp ht with rfl | ht
    · exact hfits
    · have hsubset : ∀ x ∈ d'.running, x ∈ d.running := by
        rcases hrunning with ⟨hsame, -⟩ | hnil
        · simp [hsame]
        · simp [hnil]
      apply (h.fits t (List.mem_cons_of_mem _ ht)).mono
      · exact fun _ => hdriver
      · exact hsubset
      · simp [hconnecting t ht]
      · rintro rfl
        exact hothers ht
  · exact List.pairwise_cons.mpr
      ⟨fun t ht => Task.compatible_of_not_connecting hnew (hconnecting t ht),
        (List.pairwise_cons.mp h.compatible).2⟩
  · intro _ hall
    rcases hrunning with ⟨hsame, hholding⟩ | hnil
    · rw [hsame]
      apply h.held (h.activeDriver_eq_none hold)
      intro t ht
      rcases List.mem_cons.mp ht with rfl | ht
      · exact hholding
      · exact hall t (List.mem_cons_of_mem _ ht)
    · exact hnil
  · simp [hdriver]
  · rcases hrunning with ⟨hsame, -⟩ | hnil
    · rw [hsame]
      exact h.single
    · simp [hnil]
  · exact fun hnone => ⟨hdriver, hclear hnone⟩
  · exact hidle

theorem stopped {driver : DriverId} (h : Tidy d (.stopping driver :: others)) :
    Tidy (d.stopped driver).1 ((d.stopped driver).2 :: others) := by
  obtain ⟨hdriver, hrunning⟩ := h.fits _ (List.mem_cons_self ..)
  have hnil : d.running.erase driver = [] := by
    cases hlist : d.running with
    | nil => rfl
    | cons x rest =>
        have hlength := h.single
        obtain rfl : rest = [] := by simpa [hlist] using hlength
        obtain rfl : x = driver := hrunning x (by simp [hlist])
        simp
  apply h.release rfl rfl
  · exact hdriver
  · exact fun hmem => (h.fits _ (List.mem_cons_of_mem _ hmem)).2
  · exact hdriver
  · exact .inr hnil
  · exact fun hnone => (h.session hnone).2
  · exact h.idle

theorem clear_teardown (env : Env) (d : Daemon) :
    (d.onNetwork (NetworkManager.teardownVpnNetwork env)).net.Clear := by
  simp only [Daemon.onNetwork, NetworkManager.teardownVpnNetwork,
    LinuxFirewallManager.disableKillSwitch, PlatformIpv6Manager.disableIpv6Protection,
    NetworkManager.Clear, NetworkManager.isKillSwitchActive, NetworkManager.isIpv6Protected]
  cases htunnel : d.net.activeTunnel <;> cases hfirewall : d.net.firewall.isActive <;>
    cases hipv6 : d.net.ipv6.isActive <;> simp [hfirewall, hipv6]

theorem teardown {env : Env} (h : Tidy d (.teardown :: others)) :
    Tidy (d.onNetwork (NetworkManager.teardownVpnNetwork env)) (.clearSession :: others) := by
  have hdriver : d.activeDriver = none := h.fits _ (List.mem_cons_self ..)
  have hclear := clear_teardown env d
  apply h.release rfl rfl
  · exact ⟨hdriver, hclear⟩
  · exact fun _ => hclear
  · exact hdriver
  · exact .inl ⟨rfl, rfl⟩
  · exact fun _ => hclear
  · exact h.idle

theorem clearSession (h : Tidy d (.clearSession :: others)) :
    Tidy d.clearSession.1 (d.clearSession.2 :: others) := by
  obtain ⟨hdriver, hclear⟩ := h.fits _ (List.mem_cons_self ..)
  -- whatever the transition gives, the state is the only other thing that changes
  have hcleared : ∀ state result,
      Tidy { d with activeSession := none, state } (.done result :: others) := by
    intro state result
    apply h.release rfl rfl
    · trivial
    · exact fun _ => hclear
    · exact hdriver
    · exact .inl ⟨rfl, rfl⟩
    · exact fun _ => hclear
    · exact fun _ => rfl
  simp only [Daemon.clearSession]
  split
  · exact hcleared d.state _
  · exact hcleared _ _

/-! ### The network and the monitors -/

theorem setKillSwitch_of_clear {env : Env} {enabled : Bool} {mode : Option KillSwitchMode}
    (hclear : d.net.Clear) :
    (d.onNetwork (NetworkManager.setKillSwitch env enabled mode)).net = d.net := by
  simp [Daemon.onNetwork, NetworkManager.setKillSwitch, hclear.1]

theorem onNetwork {method : NetworkManager → Shell → NetworkManager × Shell} (h : Tidy d tasks)
    (hclear : d.activeSession = none ∨ .clearSession ∈ tasks → (d.onNetwork method).net.Clear) :
    Tidy (d.onNetwork method) tasks := by
  refine h.same_drivers rfl rfl ?_ ?_ ?_ ?_
  · exact fun t ht hc => ⟨h.state_ne ht hc, id⟩
  · exact fun hmem => hclear (.inr hmem)
  · exact fun hnone => ⟨(h.session hnone).1, hclear (.inl hnone)⟩
  · exact h.idle

theorem setKillSwitch {env : Env} {enabled : Bool} {mode : Option KillSwitchMode}
    (h : Tidy d tasks) : Tidy (d.onNetwork (NetworkManager.setKillSwitch env enabled mode)) tasks := by
  apply h.onNetwork
  intro hnone
  have hclear : d.net.Clear := by
    rcases hnone with hnone | hmem
    · exact (h.session hnone).2
    · exact h.clear_of_mem hmem
  rw [setKillSwitch_of_clear hclear]
  exact hclear

theorem writeSession {reading : Reading} (h : Tidy d tasks) : Tidy (d.writeSession reading) tasks := by
  refine h.same_drivers rfl rfl ?_ ?_ ?_ ?_
  · exact fun t ht hc => ⟨h.state_ne ht hc, by simp [Daemon.writeSession]⟩
  · exact h.clear_of_mem
  · simpa [Daemon.writeSession] using h.session
  · simpa [Daemon.writeSession] using h.idle

theorem setupNetwork {env : Env} {params : ConnectParams} {iface : Text} {reading : Reading}
    (h : Tidy d tasks) (hsession : d.activeSession ≠ none) (htasks : .clearSession ∉ tasks) :
    Tidy (d.setupNetwork env params iface reading) tasks := by
  have hnet : Tidy (d.onNetwork
      (NetworkManager.setupVpnNetwork env (params.setupArgs iface reading))) tasks := by
    apply h.onNetwork
    rintro (hnone | hmem)
    · exact absurd hnone hsession
    · exact absurd hmem htasks
  have hstate : d.state.attempt .connected ≠ .disconnected := by
    intro hdisc
    -- a rejected transition leaves a state that has a session
    rw [SessionState.attempt_eq] at hdisc
    split at hdisc
    · cases hdisc
    · exact hsession (h.idle hdisc)
  exact hnet.restate hstate

theorem receive {event : DriverEvent} (h : Tidy d tasks)
    (hdown : event = .stateChanged .disconnected →
      d.state.isValidTransition .disconnected = true →
      d.activeSession = none ∧ ∀ t ∈ tasks, t.connecting = false) :
    Tidy (d.receive event).1 tasks := by
  have hattempt : ∀ next, (next = .disconnected → d.state.isValidTransition .disconnected = true →
      d.activeSession = none ∧ ∀ t ∈ tasks, t.connecting = false) →
      Tidy { d with state := d.state.attempt next } tasks := by
    intro next hnext
    rw [SessionState.attempt_eq]
    split
    · rename_i hvalid
      by_cases hdisc : next = .disconnected
      · subst hdisc
        rcases hvalid with hsame | hvalid
        · rw [← hsame]
          exact h
        · obtain ⟨hsession, halone⟩ := hnext rfl hvalid
          exact h.restate_disconnected hsession halone
      · exact h.restate hdisc
    · exact h
  cases event with
  | stateChanged next =>
      simp only [Daemon.receive]
      split
      · exact h
      · split
        · exact h
        · exact hattempt next fun hnext => hdown (by rw [hnext])
  | metrics => exact h
  | log => exact h
  | fatalError e => exact hattempt .error (by simp)

end Tidy

/-! ## Runs -/

namespace System

/-- The steps that keep the daemon's ownership in order. A `Connect` request passes its state
check only when no driver is active and no other connection is being made or taken apart; a
`Disconnect` request takes the driver only when none is being made; a monitor sets the network
up only for a session whose network was not torn down already; and a driver's report moves the
daemon to `Disconnected` only when there is no session and none is being made. -/
def Orderly (sys : System) : Action → Prop
  | .task i _ =>
    match sys.tasks[i]? with
    | some (.connect _) =>
      sys.state = .disconnected ∨ sys.state = .error →
        sys.activeDriver = none ∧ ∀ t ∈ sys.tasks, t.connecting = false ∧ t.releasing = false
    | some .takeDriver => ∀ t ∈ sys.tasks, t.connecting = false
    | _ => True
  | .monitor i _ => ∀ m ∈ sys.monitors[i]?,
    (∀ reading, m.pc = .setupNetwork reading →
      sys.activeSession ≠ none ∧ .clearSession ∉ sys.tasks) ∧
    (sys.nextEvent m = some (.stateChanged .disconnected) →
      sys.state.isValidTransition .disconnected = true →
      sys.activeSession = none ∧ ∀ t ∈ sys.tasks, t.connecting = false)
  | _ => True

variable {sys sys' : System}

/-- A task goes on and the others stay as they are. -/
theorem tidy_task {world : World} {task : Task} {result : Daemon × Task}
    {others : List Task} (h : Tidy sys.toDaemon (task :: others))
    (hconnect : ∀ params, task = .connect params → sys.state = .disconnected ∨ sys.state = .error →
      sys.activeDriver = none ∧ ∀ t ∈ others, t.connecting = false ∧ t.releasing = false)
    (htake : task = .takeDriver → ∀ t ∈ others, t.connecting = false)
    (hresume : sys.resume world task = some result) : Tidy result.1 (result.2 :: others) := by
  cases task with
  | connect params =>
      obtain rfl := Option.some.inj hresume
      simp only [Daemon.connect]
      split
      · exact h.rest rfl rfl rfl
      · rename_i hstate
        have hstate : sys.state = .disconnected ∨ sys.state = .error := by
          by_contra hne
          exact hstate (by simpa using hne)
        obtain ⟨hdriver, hothers⟩ := hconnect params rfl hstate
        split
        · exact h.rest rfl rfl rfl
        · rename_i state hok
          obtain rfl := (SessionState.transitionTo_eq_ok.mp hok).1
          exact h.connect hdriver hothers
  | starting params driver =>
      obtain rfl := Option.some.inj hresume
      simp only [Daemon.started]
      split
      · split
        · exact h.rest rfl rfl rfl
        · rename_i state hok
          obtain rfl := (SessionState.transitionTo_eq_ok.mp hok).1
          exact (h.rest rfl rfl rfl).restate (by simp)
      · exact h.started
  | storeSession params driver session =>
      obtain rfl := Option.some.inj hresume
      exact h.storeSession
  | storeDriver params driver iface =>
      simp only [resume] at hresume
      split at hresume
      · cases hresume
      · obtain rfl := Option.some.inj hresume
        exact h.storeDriver
  | disconnect =>
      obtain rfl := Option.some.inj hresume
      simp only [Daemon.disconnect]
      split
      · exact h.rest rfl rfl rfl
      · split
        · exact h.rest rfl rfl rfl
        · rename_i state hok
          obtain rfl := (SessionState.transitionTo_eq_ok.mp hok).1
          exact (h.rest rfl rfl rfl).restate (by simp)
  | takeDriver =>
      simp only [resume] at hresume
      split at hresume
      · cases hresume
      · obtain rfl := Option.some.inj hresume
        exact h.takeDriver (htake rfl)
  | stopping driver =>
      obtain rfl := Option.some.inj hresume
      exact h.stopped
  | teardown =>
      obtain rfl := Option.some.inj hresume
      exact h.teardown
  | clearSession =>
      obtain rfl := Option.some.inj hresume
      exact h.clearSession
  | setKillSwitch enabled mode =>
      obtain rfl := Option.some.inj hresume
      exact (h.rest rfl rfl rfl).setKillSwitch
  | done result => cases hresume

/-- A list with one entry put in front, before and after the entry is replaced. -/
theorem perm_set {α : Type} {l : List α} {i : ℕ} {a : α} (h : l[i]? = some a) (b : α) :
    l.Perm (a :: l.eraseIdx i) ∧ (l.set i b).Perm (b :: l.eraseIdx i) := by
  obtain ⟨hi, rfl⟩ := List.getElem?_eq_some_iff.mp h
  constructor
  · exact (List.getElem_cons_eraseIdx_perm hi).symm
  · have hperm := List.getElem_cons_eraseIdx_perm (l := l.set i b) (n := i) (by simpa using hi)
    rw [List.getElem_set_self, List.eraseIdx_set_eq] at hperm
    exact hperm.symm

/-- An orderly step keeps the tasks and the shared state fitting together. -/
theorem tidy_step {action : Action} (h : Tidy sys.toDaemon sys.tasks) (horderly : sys.Orderly action)
    (hstep : sys.step action = some sys') : Tidy sys'.toDaemon sys'.tasks := by
  cases action with
  | request request =>
      obtain rfl := Option.some.inj hstep
      have hnew : Tidy sys.toDaemon (.new request :: sys.tasks) := by
        cases request <;> exact h.request rfl rfl
      exact hnew.perm (List.perm_append_singleton _ _).symm
  | task i world =>
      simp only [step, Option.bind_eq_bind, Option.bind_eq_some_iff] at hstep
      obtain ⟨task, htask, result, hresume, hsys⟩ := hstep
      obtain rfl := Option.some.inj hsys
      obtain ⟨hbefore, hafter⟩ := perm_set htask result.2
      have hothers : ∀ t ∈ sys.tasks.eraseIdx i, t ∈ sys.tasks :=
        fun t ht => hbefore.mem_iff.mpr (List.mem_cons_of_mem _ ht)
      simp only [Orderly, htask] at horderly
      refine (tidy_task (h.perm hbefore) ?_ ?_ hresume).perm hafter.symm
      · rintro params rfl hstate
        exact ⟨(horderly hstate).1, fun t ht => (horderly hstate).2 t (hothers t ht)⟩
      · rintro rfl t ht
        exact horderly t (hothers t ht)
  | monitor i world =>
      simp only [step, Option.bind_eq_bind, Option.bind_eq_some_iff] at hstep
      obtain ⟨m, hm, hstep⟩ := hstep
      obtain ⟨hsetup, hdown⟩ := horderly m hm
      split at hstep
      · rename_i event hevent
        obtain rfl := Option.some.inj hstep
        exact h.receive fun hdisc => hdown (by rw [hevent, hdisc])
      · split at hstep
        · split at hstep
          · obtain rfl := Option.some.inj hstep
            exact h
          · cases hstep
        · obtain ⟨result, hproceed, hstep⟩ := Option.bind_eq_some_iff.mp hstep
          obtain rfl := Option.some.inj hstep
          cases hpc : m.pc with
          | recv => simp [proceed, hpc] at hproceed
          | readDriver =>
              simp only [proceed, hpc] at hproceed
              split at hproceed
              · cases hproceed
              · obtain rfl := Option.some.inj hproceed
                exact h
          | writeSession reading =>
              simp only [proceed, hpc] at hproceed
              obtain rfl := Option.some.inj hproceed
              exact h.writeSession
          | setupNetwork reading =>
              simp only [proceed, hpc] at hproceed
              obtain rfl := Option.some.inj hproceed
              obtain ⟨hsession, htasks⟩ := hsetup reading hpc
              exact h.setupNetwork hsession htasks
          | ended => simp [proceed, hpc] at hproceed
  | emit driver event =>
      simp only [step, Option.bind_eq_bind, Option.bind_eq_some_iff] at hstep
      obtain ⟨ch, -, hstep⟩ := hstep
      split at hstep
      · cases hstep
      · obtain rfl := Option.some.inj hstep
        exact h
  | close driver =>
      obtain ⟨ch, -, rfl⟩ := Option.map_eq_some_iff.mp hstep
      exact h

/-- In every state that orderly steps lead to, a disconnected daemon owns nothing and at most
one driver runs. -/
theorem owned_of_orderly {actions : List Action}
    (run : Transition.Run step Orderly {} actions sys) : sys.toDaemon.Owned := by
  have htidy : Tidy sys.toDaemon sys.tasks := run.invariant
    (fun _ _ _ horderly hstep h => tidy_step h horderly hstep) Tidy.initial
  exact htidy.owned

/-! ### A connection and its end -/

def profile : ConnectParams where
  profileId := "office".toList
  protocol := .openvpnUdp
  serverEndpoint := "203.0.113.7".toList
  serverPort := 1194
  authConfig := .rawOvpnConfig "remote 203.0.113.7 1194".toList none none

/-- A world in which drivers start and commands succeed. -/
def fine : World where
  env := { outcome := fun _ _ => .success, stdout := fun _ _ => none, lookup := fun _ _ => none }
  started := .ok ("tun0".toList, none)
  getters := {}

theorem owned_of_orderly_connect : ∃ sys, Transition.Run step Orderly {}
    [.request (.connect profile), .task 0 fine, .task 0 fine, .task 0 fine, .task 0 fine] sys ∧
    sys.activeDriver = some 0 ∧ sys.toDaemon.Owned := by
  have hconnect : Orderly { tasks := [.connect profile] } (.task 0 fine) :=
    fun _ => ⟨rfl, by simp [Task.connecting, Task.releasing]⟩
  have hrun : Transition.Run step Orderly {}
      [.request (.connect profile), .task 0 fine, .task 0 fine, .task 0 fine, .task 0 fine] _ :=
    .cons trivial rfl (.cons hconnect rfl (.cons trivial rfl (.cons trivial rfl
      (.cons trivial rfl (.nil _)))))
  exact ⟨_, hrun, rfl, owned_of_orderly hrun⟩

/-- A driver reports the end of its session before the request that stopped it has torn the
network down. -/
theorem disconnected_with_driver : ¬ ∀ (actions : List Action) (sys : System),
    Transition.Run step (fun _ _ => True) {} actions sys → sys.toDaemon.Owned := by
  intro hclaim
  have hend : (Transition.runList step (fun _ _ => True) {}
      [.request (.connect profile), .task 0 fine, .task 0 fine, .task 0 fine, .task 0 fine,
        .request (.disconnect false), .task 1 fine,
        .emit 0 (.stateChanged .disconnected), .monitor 0 fine]).any (fun sys =>
          decide (sys.state = .disconnected) && sys.activeDriver.isSome) = true := by
    decide +kernel
  obtain ⟨sys, run, hsys⟩ := Transition.exists_run_of_any hend
  obtain ⟨hstate, hdriver⟩ : sys.state = .disconnected ∧ sys.activeDriver.isSome = true := by
    simpa using hsys
  rw [((hclaim _ sys run).disconnected hstate).1] at hdriver
  cases hdriver

end System

end VpnHub.Daemon
