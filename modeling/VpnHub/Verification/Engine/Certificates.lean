import VpnHub.Model.Loopback
import VpnHub.Verification.Engine.Steps

/-! Which server certificates the engine's TLS connection accepts. -/

namespace VpnHub.Protocol

open Config

/-! ## The verifier -/

/-- What a server presents in the handshake. -/
structure Chain where
  endEntity : CertificateDer
  intermediates : List CertificateDer
  serverName : ServerName
  ocspResponse : Bytes
  now : UnixTime
  deriving DecidableEq

/-- Errors that say the certificate is for another name. -/
def IsNameMismatch : TlsError → Prop
  | .invalidCertificate .notValidForName => True
  | .invalidCertificate (.notValidForNameContext _ _) => True
  | _ => False

namespace OpenVpnServerCertVerifier

variable {Conn : Type} {tls : Rustls Conn} {v : OpenVpnServerCertVerifier} {chain : Chain}

/-- The verdict of the inner WebPKI verifier. -/
def verdict (tls : Rustls Conn) (roots : RootCertStore) (chain : Chain) : Except TlsError Unit :=
  tls.webpkiVerify roots chain.endEntity chain.intermediates chain.serverName chain.ocspResponse
    chain.now

def Accepts (tls : Rustls Conn) (v : OpenVpnServerCertVerifier) (chain : Chain) : Prop :=
  v.verifyServerCert tls chain.endEntity chain.intermediates chain.serverName chain.ocspResponse
    chain.now = .ok ()

instance : Decidable (Accepts tls v chain) := inferInstanceAs (Decidable (_ = _))

/-- Errors that the verifier takes for a name mismatch and overrules. -/
def Overruled (tls : Rustls Conn) (err : TlsError) : Prop :=
  err = .invalidCertificate .notValidForName ∨ isNameMismatchText (tls.display err) = true

/-- The configured name plays no part. -/
theorem accepts_iff :
    Accepts tls v chain ↔ ∀ err, verdict tls v.rootStore chain = .error err → Overruled tls err := by
  unfold Accepts verifyServerCert verdict
  cases tls.webpkiVerify v.rootStore chain.endEntity chain.intermediates chain.serverName
      chain.ocspResponse chain.now with
  | ok => simp
  | error err =>
      cases err with
      | other text => simp [Overruled]
      | invalidCertificate reason =>
          cases reason with
          | notValidForName => simp [Overruled]
          | notValidForNameContext expected presented => simp [Overruled]
          | other text => simp [Overruled]

end OpenVpnServerCertVerifier

/-! ## The verifier of an engine -/

namespace ProtocolEngine

variable {Conn : Type} {env : Env Conn} {config : OpenVpnConfig} {e e' : ProtocolEngine Conn}

/-- A connection is made with the profile's roots and without a name. -/
structure VerifierInv (env : Env Conn) (config : OpenVpnConfig) (e : ProtocolEngine Conn) : Prop
    where
  profile : SameProfile config e.config
  verifier : ∀ clientConfig, e.tlsAdapter.map (·.config) = some clientConfig →
    TlsStreamAdapter.loadRoots env.tls config.ca = .ok clientConfig.verifier.rootStore

theorem config_of_new {tls : Rustls Conn} {draw : ℕ} {host : Text} {ca cert key : Option Text}
    {a : TlsStreamAdapter Conn} (h : TlsStreamAdapter.new tls draw host ca cert key = some (.ok a)) :
    TlsStreamAdapter.loadRoots tls ca = .ok a.config.verifier.rootStore := by
  unfold TlsStreamAdapter.new OpenVpnServerCertVerifier.new at h
  cases hroots : TlsStreamAdapter.loadRoots tls ca with
  | error err => simp [hroots] at h
  | ok roots =>
      simp only [hroots] at h
      by_cases hempty : roots.isEmpty = true
      · simp [hempty] at h
      · simp only [hempty, Bool.false_eq_true, if_false] at h
        split at h
        · simp at h
        · split at h
          · simp at h
          · split at h
            · simp at h
            · obtain rfl : _ = a := by simpa using h
              rfl

theorem VerifierInv.control (h : VerifierInv env config e) (hframe : ControlFrame env e e') :
    VerifierInv env config e' := by
  refine ⟨?_, ?_⟩
  · have hprofile := h.profile
    have hprofile' := hframe.profile
    unfold SameProfile at hprofile hprofile' ⊢
    rw [hprofile'] at *
    rw [hprofile]
  · rw [hframe.adapter]
    exact h.verifier

theorem verifierInv_of_reachable (h : Reachable env config e) : VerifierInv env config e := by
  refine h.invariant ?_ ?_
  · intro now sessionId
    exact ⟨rfl, by simp [initial]⟩
  · intro e op e' hstep hinv
    cases step_cases hstep with
    | control hframe => exact hinv.control hframe
    | @connect now e₁ tls hframe hnew =>
        have hinv₁ := hinv.control hframe
        have hca : e₁.config.ca = config.ca := by rw [hinv₁.profile]
        refine ⟨hinv₁.profile, ?_⟩
        intro clientConfig hconfig
        obtain rfl : tls.config = clientConfig := by simpa using hconfig
        rw [← hca]
        exact config_of_new hnew
    | receive hframe =>
        rw [hframe.rest]
        exact ⟨hinv.profile, hinv.verifier⟩
    | send hop hframe hkeys hsends hframe' =>
        have hsent := hinv.control hframe
        refine VerifierInv.control ?_ hframe'
        cases hsends with
        | failed hs hseal => exact ⟨hsent.profile, hsent.verifier⟩
        | sealed hs hseal => exact ⟨hsent.profile, hsent.verifier⟩
    | poll =>
        unfold pollOutputAction
        split
        · exact hinv
        · exact ⟨hinv.profile, hinv.verifier⟩

/-- An accepted chain is one whose certificate matches the configured name. What it means for a
name to match is left open. -/
def NameChecked (env : Env Conn) (nameMatches : VerifyX509Name → CertificateDer → Prop)
    (v : VerifyX509Name) (tls : TlsStreamAdapter Conn) (chain : Chain) : Prop :=
  tls.config.verifier.Accepts env.tls chain → nameMatches v chain.endEntity

/-- A chain that WebPKI has rejected is accepted on account of a name mismatch only. -/
def ReasonChecked (env : Env Conn) (tls : TlsStreamAdapter Conn) (chain : Chain) : Prop :=
  tls.config.verifier.Accepts env.tls chain → ∀ err,
    OpenVpnServerCertVerifier.verdict env.tls tls.config.verifier.rootStore chain = .error err →
      IsNameMismatch err

open OpenVpnServerCertVerifier in
/-- The verdict of WebPKI on the roots of the profile decides alone. The configured name is
checked on a chain if and only if the certificate happens to match it, or the verdict is an
error that the verifier does not overrule; and other reasons stand if and only if their text
is not taken for a name mismatch. -/
theorem verify_x509_name_checked_iff {tls : TlsStreamAdapter Conn}
    (nameMatches : VerifyX509Name → CertificateDer → Prop) (hreach : Reachable env config e)
    (hadapter : e.tlsAdapter = some tls) (chain : Chain) :
    ∃ roots, TlsStreamAdapter.loadRoots env.tls config.ca = .ok roots ∧
      (∀ v, config.verifyX509Name = some v →
        (NameChecked env nameMatches v tls chain ↔
          nameMatches v chain.endEntity ∨
            ∃ err, verdict env.tls roots chain = .error err ∧ ¬ Overruled env.tls err)) ∧
      (ReasonChecked env tls chain ↔
        ∀ err, verdict env.tls roots chain = .error err → ¬ IsNameMismatch err →
          isNameMismatchText (env.tls.display err) = false) := by
  refine ⟨tls.config.verifier.rootStore,
    (verifierInv_of_reachable hreach).verifier tls.config (by rw [hadapter]; rfl), ?_, ?_⟩
  · intro v _
    rw [NameChecked, accepts_iff]
    constructor
    · intro h
      by_cases hmatch : nameMatches v chain.endEntity
      · exact .inl hmatch
      · have hreject := mt h hmatch
        push Not at hreject
        exact .inr hreject
    · intro h hoverruled
      rcases h with hmatch | ⟨err, herr, hstands⟩
      · exact hmatch
      · exact absurd (hoverruled err herr) hstands
  · rw [ReasonChecked, accepts_iff]
    constructor
    · intro h err herr hreason
      cases htext : isNameMismatchText (env.tls.display err) with
      | false => rfl
      | true =>
          refine absurd (h ?_ err herr) hreason
          intro err' herr'
          obtain rfl : err = err' := by simpa [herr] using herr'
          exact .inr htext
    · intro h hoverruled err herr
      by_contra hreason
      have htext := h err herr hreason
      rcases hoverruled err herr with hname | hbypass
      · rw [hname] at hreason
        exact hreason trivial
      · rw [htext] at hbypass
        cases hbypass

/-- A profile that asks for one particular server. -/
def pinnedProfile : Text := "verify-x509-name vpn.example.com name".toList

/-- On the loopback a certificate is the name it is issued to. -/
def isIssuedTo (v : VerifyX509Name) (cert : CertificateDer) : Prop :=
  cert = Text.utf8Encode v.name

instance (v : VerifyX509Name) (cert : CertificateDer) : Decidable (isIssuedTo v cert) :=
  inferInstanceAs (Decidable (_ = _))

/-- The chain of a server with the given name. -/
def chainOf (name : Text) : Chain where
  endEntity := Text.utf8Encode name
  intermediates := []
  serverName := "vpn.example.com".toList
  ocspResponse := []
  now := 0

/-- The connection that an engine makes for the profile. -/
theorem exists_pinned_connection (check : VerifyX509Name → TlsStreamAdapter Loopback.Conn → Bool)
    (h : ((parseOvpnConfig Loopback.parserEnv pinnedProfile).any fun result =>
      result.toOption.any fun config => config.verifyX509Name.any fun v =>
        (Transition.runList (step Loopback.env) (fun _ _ => True) (Loopback.newEngine config)
          [.startConnect 0]).any fun e => e.tlsAdapter.any (check v)) = true) :
    ∃ config v e tls, parseOvpnConfig Loopback.parserEnv pinnedProfile = some (.ok config) ∧
      config.verifyX509Name = some v ∧ Reachable Loopback.env config e ∧
      e.tlsAdapter = some tls ∧ check v tls = true := by
  obtain ⟨config, hparse, h⟩ := Loopback.exists_parsed h
  rw [Option.any_eq_true] at h
  obtain ⟨v, hv, h⟩ := h
  obtain ⟨e, hrun, h⟩ := Transition.exists_run_of_any h
  rw [Option.any_eq_true] at h
  obtain ⟨tls, htls, h⟩ := h
  exact ⟨config, v, e, tls, hparse, hv, ⟨_, 0, 42, hrun⟩, htls, h⟩

theorem verify_x509_name_checked_iff_pinned :
    ∃ config v e tls, parseOvpnConfig Loopback.parserEnv pinnedProfile = some (.ok config) ∧
      config.verifyX509Name = some v ∧ Reachable Loopback.env config e ∧
      e.tlsAdapter = some tls ∧
      NameChecked Loopback.env isIssuedTo v tls (chainOf "vpn.example.com".toList) := by
  obtain ⟨config, v, e, tls, hparse, hv, hreach, hadapter, hname⟩ := exists_pinned_connection
    (fun v _ => isIssuedTo v (chainOf "vpn.example.com".toList).endEntity)
    (by decide +kernel)
  obtain ⟨roots, -, hchecked, -⟩ :=
    verify_x509_name_checked_iff isIssuedTo hreach hadapter (chainOf "vpn.example.com".toList)
  exact ⟨config, v, e, tls, hparse, hv, hreach, hadapter,
    (hchecked v hv).mpr (.inl (of_decide_eq_true hname))⟩

/-- Another server's certificate is accepted although the profile names one server. -/
theorem other_server_accepted :
    ∃ config v e tls, parseOvpnConfig Loopback.parserEnv pinnedProfile = some (.ok config) ∧
      config.verifyX509Name = some v ∧ Reachable Loopback.env config e ∧
      e.tlsAdapter = some tls ∧
      ¬ NameChecked Loopback.env isIssuedTo v tls (chainOf "evil.example.org".toList) := by
  obtain ⟨config, v, e, tls, hparse, hv, hreach, hadapter, hcheck⟩ := exists_pinned_connection
    (fun v tls =>
      tls.config.verifier.Accepts Loopback.env.tls (chainOf "evil.example.org".toList) ∧
        ¬ isIssuedTo v (chainOf "evil.example.org".toList).endEntity) (by decide +kernel)
  obtain ⟨haccepted, hname⟩ := of_decide_eq_true hcheck
  refine ⟨config, v, e, tls, hparse, hv, hreach, hadapter, ?_⟩
  intro hchecked
  exact hname (hchecked haccepted)

end ProtocolEngine

end VpnHub.Protocol
