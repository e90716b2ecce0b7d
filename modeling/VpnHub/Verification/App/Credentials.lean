import VpnHub.Model.Loopback
import VpnHub.Model.StoreRuns
import VpnHub.Program.App.Vpn
import VpnHub.Program.Daemon.Driver
import VpnHub.Verification.App.Storage

/-! # The credentials of a connection

What the OpenVPN driver authenticates with, from the saves of the profile to the request. -/

namespace VpnHub

/-! ## The secret in the vault -/

namespace Storage

open Protocol Crypto EncryptedVault StorageManager TrackedStorage

/-- The last operation about a profile decides on its secret. -/
def lastSecret (id : Text) (secret : Option StoredProfileSecret) :
    StorageOp → Option StoredProfileSecret
  | .saveProfile input profile (some sec) =>
    if (withId profile input.uuid).id = id then some sec else secret
  | .saveProfile _ _ none => secret
  | .deleteProfile _ profileId => if profileId = id then none else secret
  | .restart _ => secret

theorem RecordedVault.filedAfter_of_saves {env : VaultEnv} {input : SaveInput}
    {secrets : Secrets} (h : Saves env input secrets) (filed : Secrets) :
    filedAfter env input secrets filed = secrets := by
  obtain ⟨hfault, bytes, hbytes⟩ := h
  rw [filedAfter, hbytes, hfault]

namespace TrackedStorage

variable {env : StorageEnv} {s t : TrackedStorage} {op : StorageOp} {id : Text}

/-- The vault can be written, and be read at a start. The other files may fail. -/
def VaultWorks (env : StorageEnv) (s : TrackedStorage) : StorageOp → Prop
  | .saveProfile input profile (some sec) => ∀ m, s.state = .running m →
      Saves env.vault input.save (m.vault.cache.insert (withId profile input.uuid).id sec)
  | .saveProfile _ _ none => True
  | .deleteProfile input profileId => ∀ m, s.state = .running m →
      Saves env.vault input.save (m.vault.cache.erase profileId)
  | .restart input => input.vaultFault = none

instance (env : VaultEnv) (input : SaveInput) (secrets : Secrets) :
    Decidable (Saves env input secrets) :=
  decidable_of_iff (input.fault = none ∧ (payload env secrets input.nonce).isOk = true) <|
    and_congr_right fun _ => by
      cases payload env secrets input.nonce <;> simp [Except.isOk, Except.toBool]

instance (s : TrackedStorage) (P : StorageManager → Prop) [∀ m, Decidable (P m)] :
    Decidable (∀ m, s.state = .running m → P m) :=
  match h : s.state with
  | .stopped _ => isTrue fun _ hm => by cases hm
  | .running m => decidable_of_iff (P m) ⟨fun hP _ hm => by cases hm; exact hP, fun hP => hP m rfl⟩

instance (env : StorageEnv) (s : TrackedStorage) : ∀ op, Decidable (VaultWorks env s op)
  | .saveProfile _ _ (some _) => inferInstanceAs (Decidable (∀ m, s.state = .running m → _))
  | .saveProfile _ _ none => isTrue trivial
  | .deleteProfile _ _ => inferInstanceAs (Decidable (∀ m, s.state = .running m → _))
  | .restart input => inferInstanceAs (Decidable (input.vaultFault = none))

def isRunning (s : TrackedStorage) : Bool :=
  match s.state with
  | .running _ => true
  | .stopped _ => false

/-- A running application holds the secrets on record. -/
def Holds (s : TrackedStorage) : Prop := ∀ m, s.state = .running m → m.vault.cache = s.filed

theorem filed_of_store {m : StorageManager} {input : ProfileInput} {profile : StoredProfile}
    {sec : StoredProfileSecret} (hstate : s.state = .running m)
    (hsaves : Saves env.vault input.save (m.vault.cache.insert (withId profile input.uuid).id sec))
    (h : step env s (.saveProfile input profile (some sec)) = some t) :
    t.filed = m.vault.cache.insert (withId profile input.uuid).id sec := by
  simp only [step, hstate] at h
  obtain ⟨out, -, rfl⟩ := Option.map_eq_some_iff.mp h
  exact RecordedVault.filedAfter_of_saves hsaves _

theorem filed_of_remove {m : StorageManager} {input : ProfileInput} {profileId : Text}
    (hstate : s.state = .running m)
    (hsaves : Saves env.vault input.save (m.vault.cache.erase profileId))
    (h : step env s (.deleteProfile input profileId) = some t) :
    t.filed = m.vault.cache.erase profileId := by
  simp only [step, hstate] at h
  obtain ⟨out, -, rfl⟩ := Option.map_eq_some_iff.mp h
  exact RecordedVault.filedAfter_of_saves hsaves _

/-- A step that the vault takes part in leaves memory and record the same. -/
theorem holds_step (contract : VaultContract env.vault) (hrecorded : Recorded env s)
    (hholds : Holds s) (hworks : VaultWorks env s op) (hstep : step env s op = some t) :
    Holds t ∧ t.filed.find? id = lastSecret id (s.filed.find? id) op := by
  cases step_cases contract hrecorded hstep with
  | @saved m m' _ _ hstate hvault =>
      refine ⟨?_, rfl⟩
      rintro _ ⟨⟩
      rw [hvault]
      exact hholds m hstate
  | @stored m m' input profile sec filed deleted hstate hcache =>
      have hfiled : filed = _ := filed_of_store hstate (hworks m hstate) hstep
      refine ⟨?_, ?_⟩
      · rintro _ ⟨⟩
        exact hcache.trans hfiled.symm
      · change filed.find? id = _
        rw [hfiled, OrdMap.find?_insert, hholds m hstate, lastSecret]
        by_cases heq : (withId profile input.uuid).id = id
        · rw [if_pos heq, if_pos heq]
        · rw [if_neg heq, if_neg heq]
  | @removed m m' input profileId filed deleted hstate hcache =>
      have hfiled : filed = _ := filed_of_remove hstate (hworks m hstate) hstep
      refine ⟨?_, ?_⟩
      · rintro _ ⟨⟩
        exact hcache.trans hfiled.symm
      · change filed.find? id = _
        rw [hfiled, OrdMap.find?_erase, hholds m hstate, lastSecret]
        by_cases heq : profileId = id
        · rw [if_pos heq, if_pos heq]
        · rw [if_neg heq, if_neg heq]
  | @started m input hstarts hvault =>
      refine ⟨?_, rfl⟩
      rintro _ ⟨⟩
      have hread : input.vaultFault = none := hworks
      rw [hvault, new_eq, if_pos hread]
      exact hrecorded
  | failed _ _ =>
      refine ⟨?_, rfl⟩
      rintro _ ⟨⟩

/-- In a run that the vault takes part in, the secret of a profile is that of the last operation
about it, restarts included. -/
theorem find?_of_run (contract : VaultContract env.vault) {ops : List StorageOp}
    (run : Transition.Run (step env) (VaultWorks env) s ops t) (hrecorded : Recorded env s)
    (hholds : Holds s) :
    Holds t ∧ t.filed.find? id = ops.foldl (lastSecret id) (s.filed.find? id) := by
  induction run with
  | nil => exact ⟨hholds, rfl⟩
  | cons hworks hstep _ ih =>
      obtain ⟨hholds', hfiled⟩ := holds_step contract hrecorded hholds hworks hstep
      rw [List.foldl_cons, ← hfiled]
      exact ih (hrecorded.step contract hstep) hholds'

/-- The secret that a profile has been left with, since before the first start. -/
def secretAfter (env : StorageEnv) (dir : Directory) (ops : List StorageOp) (id : Text) :
    Option StoredProfileSecret :=
  ops.foldl (lastSecret id) ((reopened env.vault dir.vaultEnc).find? id)

theorem getSecret_of_run (contract : VaultContract env.vault) {dir : Directory}
    {ops : List StorageOp} {m : StorageManager}
    (run : Transition.Run (step env) (VaultWorks env) (start env dir) ops t)
    (hrunning : t.state = .running m) (id : Text) :
    m.vault.getSecret id = secretAfter env dir ops id := by
  obtain ⟨hholds, hfiled⟩ := find?_of_run contract run rfl (by rintro _ ⟨⟩)
  rw [EncryptedVault.getSecret, hholds m hrunning]
  exact hfiled

end TrackedStorage

end Storage

/-! ## The request -/

namespace App

open Config Storage Daemon
open Storage.EncryptedVault (reopened)

namespace VpnStore

/-- The password that goes into the request: the typed one, else one with a one-time password, else
none. -/
def givenPassword (rt : TotpRuntime) (now : Ecma.Number) (profile : VpnProfile)
    (overridePassword : Option Text) : Text :=
  (Ecma.truthy overridePassword).getD (totpPassword rt now (profile.credentials.getD {}))

/-- The user name that goes into the request. -/
def givenUsername (profile : VpnProfile) : Text := (profile.credentials.getD {}).username.getD []

variable {rt : TotpRuntime} {now : Ecma.Number} {s : VpnStore} {profile : VpnProfile}
  {target overridePassword : Option Text} {params : VpnConnectParams}
  {request : Daemon.ConnectParams}

theorem connectParams_of_connect (hprofile : s.profileFor target = some profile)
    (h : (s.connect rt now target overridePassword).2 = some params) :
    params = connectParams rt now s.securitySettings profile overridePassword := by
  unfold connect at h
  split at h
  · cases h
  · rw [hprofile] at h
    simp only at h
    split at h
    · cases h
    · exact (Option.some.inj h).symm

theorem deserialize_eq_some (h : params.deserialize = some request) :
    request.profileId = params.profileId ∧ protocolType params.protocol = some request.protocol ∧
      params.authConfig.deserialize = some request.authConfig := by
  unfold VpnConnectParams.deserialize at h
  obtain ⟨protocol, hprotocol, h⟩ := Option.bind_eq_some_iff.mp h
  obtain ⟨port, -, h⟩ := Option.bind_eq_some_iff.mp h
  obtain ⟨auth, hauth, h⟩ := Option.bind_eq_some_iff.mp h
  obtain ⟨mode, -, h⟩ := Option.bind_eq_some_iff.mp h
  obtain rfl := Option.some.inj h
  exact ⟨rfl, hprotocol, hauth⟩

/-- What a request to an OpenVPN server authenticates with before the vault is asked. -/
theorem exists_authConfig (hprofile : s.profileFor target = some profile)
    (hconnect : (s.connect rt now target overridePassword).2 = some params)
    (hrequest : params.deserialize = some request) (hprotocol : request.protocol ≠ .wireguard) :
    request.profileId = profile.id ∧ ∃ ca cert key tlsAuth tlsCrypt direction text,
      request.authConfig = .userPassword (givenUsername profile)
        (givenPassword rt now profile overridePassword) ca cert key tlsAuth tlsCrypt direction
        text := by
  obtain rfl := connectParams_of_connect hprofile hconnect
  obtain ⟨hid, hprotocolType, hauth⟩ := deserialize_eq_some hrequest
  refine ⟨hid, ?_⟩
  have hopenvpn : profile.protocol ≠ "wireguard".toList := by
    intro hwireguard
    rw [connectParams, hwireguard] at hprotocolType
    exact hprotocol (Option.some.inj hprotocolType).symm
  simp only [connectParams, authConfig, if_neg hopenvpn, AuthConfig.deserialize] at hauth
  obtain ⟨-, -, hauth⟩ := Option.map_eq_some_iff.mp hauth
  exact ⟨_, _, _, _, _, _, _, hauth.symm⟩

end VpnStore

/-! ## The profile of the session -/

theorem vpnConnect_of_getSecret {m : StorageManager} {request : Daemon.ConnectParams}
    {secret : StoredProfileSecret} (h : m.vault.getSecret request.profileId = some secret) :
    vpnConnect m request = { request with authConfig := withSecret request.authConfig secret } := by
  rw [vpnConnect, h]

theorem getD_truthy (text fallback : Text) :
    (Ecma.truthy (some text)).getD fallback = if text ≠ [] then text else fallback := by
  by_cases h : text = []
  · rw [h]
    rfl
  · rw [Ecma.truthy_eq_some.mpr ⟨rfl, h⟩, if_pos h, Option.getD_some]

/-- The driver takes what the request gives, and the rest from the text of the profile. -/
structure Authenticates (cfg : OpenVpnConfig) (username password : Text) (ca cert key tlsAuth
    tlsCrypt direction : Option Text) : Prop where
  authUserPass : cfg.authUserPass = some ⟨some username, some password, none⟩
  ca : ∀ pem, ca = some pem → cfg.ca = some pem
  cert : ∀ pem, cert = some pem → cfg.cert = some pem
  key : ∀ pem, key = some pem → cfg.key = some pem
  tlsAuth : ∀ k, tlsAuth = some k → cfg.tlsAuth = some ⟨k, direction.bind KeyDirection.fromStr⟩
  tlsCrypt : ∀ k, tlsCrypt = some k → cfg.tlsCrypt = some k

theorem exists_driverConfig {parser : ParserEnv} {request : Daemon.ConnectParams}
    {username password : Text} {ca cert key tlsAuth tlsCrypt direction text : Option Text}
    (hauth : request.authConfig =
      .userPassword username password ca cert key tlsAuth tlsCrypt direction text)
    (htext : ∀ content, text = some content →
      ∃ parsed, parseOvpnConfig parser content = some (.ok parsed)) :
    ∃ cfg, driverConfig parser request = some (.ok cfg) ∧
      Authenticates cfg username password ca cert key tlsAuth tlsCrypt direction := by
  cases text with
  | none =>
      rw [driverConfig, baseConfig, hauth]
      exact ⟨_, rfl, rfl, by rintro _ rfl; rfl, by rintro _ rfl; rfl, by rintro _ rfl; rfl,
        by rintro _ rfl; rfl, by rintro _ rfl; rfl⟩
  | some content =>
      obtain ⟨parsed, hparsed⟩ := htext content rfl
      rw [driverConfig, baseConfig, hauth]
      simp only [hparsed]
      exact ⟨_, rfl, rfl, by rintro _ rfl; rfl, by rintro _ rfl; rfl, by rintro _ rfl; rfl,
        by rintro _ rfl; rfl, by rintro _ rfl; rfl⟩

namespace VpnStore

variable {rt : TotpRuntime} {now : Ecma.Number} {s : VpnStore} {profile : VpnProfile}
  {target overridePassword : Option Text} {params : VpnConnectParams}
  {request : Daemon.ConnectParams}
  {env : StorageEnv} {dir : Directory} {ops : List StorageOp} {t : TrackedStorage}
  {m : StorageManager} {parser : ParserEnv}

/-- After any run that the vault takes part in, an OpenVPN profile is connected with the user name
and the certificates it was last saved with, and with the saved password unless the user or a
one-time password gives another. -/
theorem authenticates_of_run (contract : VaultContract env.vault)
    (run : Transition.Run (TrackedStorage.step env) (TrackedStorage.VaultWorks env)
      (TrackedStorage.start env dir) ops t) (hrunning : t.state = .running m)
    (hprofile : s.profileFor target = some profile)
    (hconnect : (s.connect rt now target overridePassword).2 = some params)
    (hrequest : params.deserialize = some request) (hprotocol : request.protocol ≠ .wireguard)
    {username password : Text} {ca cert key tlsAuth tlsCrypt direction text totpSecret totpFormat :
      Option Text} {remoteCertTlsServer : Option Bool} {renegSec : Option UInt32}
    (hsecret : TrackedStorage.secretAfter env dir ops profile.id =
      some (.userPassword username password totpSecret totpFormat ca cert key tlsAuth tlsCrypt
        direction remoteCertTlsServer renegSec text))
    (htext : ∀ content, text = some content →
      ∃ parsed, parseOvpnConfig parser content = some (.ok parsed)) :
    ∃ cfg, driverConfig parser (vpnConnect m request) = some (.ok cfg) ∧
      Authenticates cfg username
        ((Ecma.truthy (some (givenPassword rt now profile overridePassword))).getD password)
        ca cert key tlsAuth tlsCrypt direction := by
  obtain ⟨hid, _, _, _, _, _, _, _, hauth⟩ :=
    exists_authConfig hprofile hconnect hrequest hprotocol
  have hget := TrackedStorage.getSecret_of_run contract run hrunning request.profileId
  rw [hid, hsecret, ← hid] at hget
  rw [vpnConnect_of_getSecret hget]
  refine exists_driverConfig ?_ htext
  simp only [hauth, withSecret, getD_truthy]

/-- What a profile that is kept as a text authenticates with in place of what the text says. -/
def rawCredentials (username password : Option Text) (givenUsername givenPassword : Text) :
    Option AuthUserPassConfig :=
  if givenPassword = [] then
    username.bind fun u => password.map fun p => ⟨some u, some p, none⟩
  else
    ((Ecma.truthy (some givenUsername)).or username).map fun u => ⟨some u, some givenPassword, none⟩

/-- A profile that is kept as a text is connected with the given password only if there is a user
name for it, else with what the text says: the password is dropped. -/
theorem rawAuthenticates_of_run (contract : VaultContract env.vault)
    (run : Transition.Run (TrackedStorage.step env) (TrackedStorage.VaultWorks env)
      (TrackedStorage.start env dir) ops t) (hrunning : t.state = .running m)
    (hprofile : s.profileFor target = some profile)
    (hconnect : (s.connect rt now target overridePassword).2 = some params)
    (hrequest : params.deserialize = some request) (hprotocol : request.protocol ≠ .wireguard)
    {content : Text} {username password totpSecret totpFormat : Option Text}
    (hsecret : TrackedStorage.secretAfter env dir ops profile.id =
      some (.rawOvpnConfig content username password totpSecret totpFormat))
    {parsed : OpenVpnConfig} (hparsed : parseOvpnConfig parser content = some (.ok parsed)) :
    ∃ cfg, driverConfig parser (vpnConnect m request) = some (.ok cfg) ∧
      cfg.authUserPass = (rawCredentials username password (givenUsername profile)
        (givenPassword rt now profile overridePassword)).or parsed.authUserPass := by
  obtain ⟨hid, _, _, _, _, _, _, _, hauth⟩ :=
    exists_authConfig hprofile hconnect hrequest hprotocol
  have hget := TrackedStorage.getSecret_of_run contract run hrunning request.profileId
  rw [hid, hsecret, ← hid] at hget
  rw [vpnConnect_of_getSecret hget, driverConfig, baseConfig]
  simp only [hauth, withSecret, hparsed]
  refine ⟨_, rfl, ?_⟩
  rw [rawCredentials, finishConfig]
  by_cases hgiven : givenPassword rt now profile overridePassword = []
  · simp only [hgiven, ne_eq, not_true_eq_false, if_false, if_true]
    cases username <;> cases password <;> rfl
  · simp only [hgiven, ne_eq, not_false_eq_true, if_false, if_true]
    by_cases hname : givenUsername profile = []
    · simp only [hname, not_true_eq_false, if_false]
      cases username <;> rfl
    · rw [Ecma.truthy_eq_some.mpr ⟨rfl, hname⟩]
      simp only [hname, not_false_eq_true, if_true]
      rfl

end VpnStore

/-! ## A concrete profile -/

namespace Sample

open VpnStore

/-- A user name and a password. -/
def alice : StoredProfileSecret :=
  .userPassword "alice".toList "s3cret".toList none none none none none none none none none none
    none

/-- The text of a profile, without a user name. -/
def rawProfile : StoredProfileSecret :=
  .rawOvpnConfig "client\nremote vpn.example.com 1194\n".toList none none none none

/-- The JSON text of the secrets. -/
def texts : List (Storage.Secrets × Bytes) :=
  [(.empty, Text.utf8Encode "\x7b\x7d".toList),
    (OrdMap.empty.insert "office".toList alice, Text.utf8Encode
      ("\x7b\"office\":\x7b\"type\":\"user_password\",".toList ++
        "\"username\":\"alice\",\"password\":\"s3cret\",".toList ++
        "\"totp_secret\":null,\"totp_format\":null,".toList ++
        "\"ca_cert\":null,\"client_cert\":null,".toList ++
        "\"client_key\":null,\"tls_auth_key\":null,".toList ++
        "\"tls_crypt_key\":null,\"key_direction\":null,".toList ++
        "\"remote_cert_tls_server\":null,".toList ++
        "\"reneg_sec\":null,\"ovpn_config\":null\x7d\x7d".toList)),
    (OrdMap.empty.insert "office".toList rawProfile, Text.utf8Encode
      ("\x7b\"office\":\x7b\"type\":\"raw_ovpn_config\",".toList ++
        "\"config_content\":\"client\\nremote ".toList ++
        "vpn.example.com 1194\\n\",\"username\":null,".toList ++
        "\"password\":null,\"totp_secret\":null,".toList ++
        "\"totp_format\":null\x7d\x7d".toList))]

def vaultEnv : VaultEnv where
  toVec secrets :=
    match texts.find? (·.1 = secrets) with
    | some entry => .ok entry.2
    | none => .error "not in the sample".toList
  fromSlice serialized :=
    match texts.find? (·.2 = serialized) with
    | some entry => .ok entry.1
    | none => .error "expected value at line 1 column 1".toList
  encrypt := Storage.Sample.env.encrypt
  decrypt := Storage.Sample.env.decrypt

theorem vaultContract : VaultContract vaultEnv where
  fromSlice_toVec secrets serialized h := by
    have hread : ∀ entry ∈ texts, vaultEnv.fromSlice entry.2 = .ok entry.1 := by decide +kernel
    simp only [vaultEnv] at h
    split at h
    · rename_i entry hfind
      obtain rfl := Except.ok.inj h
      rw [hread entry (List.mem_of_find?_eq_some hfind)]
      simpa using List.find?_some hfind
    · cases h
  decrypt_encrypt := Storage.Sample.contract.decrypt_encrypt
  rejects_cut _ nonce serialized ciphertext _ h n hn := by
    obtain rfl := Except.ok.inj h
    exact Storage.Sample.unlock_cut serialized hn

def storageEnv : StorageEnv := { Storage.Sample.storageEnv with vault := vaultEnv }

/-- The application is started, and the profile is saved with the secret. -/
def savingOps (secret : StoredProfileSecret) : List StorageOp :=
  [.restart {}, .saveProfile { save := { nonce := .zero 12 } } Storage.Sample.office (some secret)]

/-- The store shows the profile. -/
def officeStore : VpnStore := { profiles := [profile "office".toList] }

theorem exists_saved (secret : StoredProfileSecret)
    (h : ((Transition.runList (TrackedStorage.step storageEnv)
      (TrackedStorage.VaultWorks storageEnv)
      (TrackedStorage.start storageEnv Storage.Sample.noDirectory) (savingOps secret)).any
        fun t => t.isRunning) = true) :
    ∃ t m, Transition.Run (TrackedStorage.step storageEnv) (TrackedStorage.VaultWorks storageEnv)
      (TrackedStorage.start storageEnv Storage.Sample.noDirectory) (savingOps secret) t ∧
        t.state = .running m := by
  obtain ⟨t, run, hrunning⟩ := Transition.exists_run_of_any h
  cases hstate : t.state with
  | stopped dir => simp [TrackedStorage.isRunning, hstate] at hrunning
  | running m => exact ⟨t, m, run, hstate⟩

/-- The request for the profile. -/
def request (overridePassword : Option Text) : Option Daemon.ConnectParams :=
  (officeStore.connect runtime none none overridePassword).2.bind (·.deserialize)

theorem exists_request (overridePassword : Option Text)
    (h : (request overridePassword).any (·.protocol ≠ .wireguard) = true) : ∃ params request,
      (officeStore.connect runtime none none overridePassword).2 = some params ∧
        params.deserialize = some request ∧ request.protocol ≠ .wireguard := by
  cases hr : request overridePassword with
  | none => simp [hr] at h
  | some r =>
      obtain ⟨params, hconnect, hrequest⟩ := Option.bind_eq_some_iff.mp hr
      exact ⟨params, r, hconnect, hrequest, by simpa [hr] using h⟩

/-- The saved password is used without the user's doing anything. -/
theorem authenticates_alice : ∃ m params request cfg,
    (officeStore.connect runtime none none none).2 = some params ∧
      params.deserialize = some request ∧
      driverConfig Protocol.Loopback.parserEnv (vpnConnect m request) = some (.ok cfg) ∧
      cfg.authUserPass = some ⟨some "alice".toList, some "s3cret".toList, none⟩ := by
  obtain ⟨t, m, run, hrunning⟩ := exists_saved alice (by decide +kernel)
  obtain ⟨params, request, hconnect, hrequest, hprotocol⟩ := exists_request none (by decide +kernel)
  have hprofile : officeStore.profileFor none = some (profile "office".toList) := by decide +kernel
  have hsecret : TrackedStorage.secretAfter storageEnv Storage.Sample.noDirectory
      (savingOps alice) "office".toList = some alice := by decide +kernel
  obtain ⟨cfg, hcfg, hauth⟩ := authenticates_of_run vaultContract run hrunning hprofile hconnect
    hrequest hprotocol hsecret (fun _ h => by cases h)
  exact ⟨m, params, request, cfg, hconnect, hrequest, hcfg, hauth.authUserPass⟩

/-- What the user types is not used where no user name is known. -/
theorem rawAuthenticates_dropped : ∃ m params request cfg, ∃ parsed : OpenVpnConfig,
    (officeStore.connect runtime none none (some "typed".toList)).2 = some params ∧
      params.deserialize = some request ∧
      driverConfig Protocol.Loopback.parserEnv (vpnConnect m request) = some (.ok cfg) ∧
      cfg.authUserPass = parsed.authUserPass ∧ parsed.authUserPass = none := by
  obtain ⟨t, m, run, hrunning⟩ := exists_saved rawProfile (by decide +kernel)
  obtain ⟨params, request, hconnect, hrequest, hprotocol⟩ :=
    exists_request (some "typed".toList) (by decide +kernel)
  have hprofile : officeStore.profileFor none = some (profile "office".toList) := by decide +kernel
  have hcheck : ((parseOvpnConfig Protocol.Loopback.parserEnv
      "client\nremote vpn.example.com 1194\n".toList).any fun result =>
        result.toOption.any fun cfg => cfg.authUserPass = none) = true := by decide +kernel
  obtain ⟨parsed, hparsed, hnone⟩ := Protocol.Loopback.exists_parsed hcheck
  have hsecret : TrackedStorage.secretAfter storageEnv Storage.Sample.noDirectory
      (savingOps rawProfile) "office".toList = some rawProfile := by decide +kernel
  obtain ⟨cfg, hcfg, hauth⟩ := rawAuthenticates_of_run vaultContract run hrunning hprofile hconnect
    hrequest hprotocol hsecret hparsed
  exact ⟨m, params, request, cfg, parsed, hconnect, hrequest, hcfg, hauth, of_decide_eq_true hnone⟩

end Sample

end App

end VpnHub
