import VpnHub.Model.DnsRuns

/-! When `/etc/resolv.conf` can be brought back to what it was. -/

namespace VpnHub.Daemon

open Transition

theorem utf8Encode_of_fromUtf8 {bytes : Bytes} {text : Text} (h : fromUtf8 bytes = some text) :
    Text.utf8Encode text = bytes := by
  rw [fromUtf8] at h
  split at h
  · rename_i heq
    cases h
    exact heq
  · cases h

namespace DnsState

variable {original : Option Bytes} {s : DnsState}

/-- What a write leaves in the file, when it was the original before. -/
theorem fsWrite_iff_idle (outcome : WriteOutcome) (content : Bytes) (file : Option Bytes) :
    (fsWrite outcome content file).2 = file ↔ Idle outcome content file := by
  cases outcome with
  | written => exact eq_comm
  | notOpened message => exact iff_of_true rfl trivial
  | interrupted n message => exact eq_comm

/-- The file is restorable when the backup is the original, or there is none and the file is. -/
theorem restorable_iff :
    s.Restorable original ↔
      (∀ backup, s.dns.resolvConfBackup = some backup →
        some (Text.utf8Encode backup) = original) ∧
        (s.dns.resolvConfBackup = none → s.file = original) := by
  obtain ⟨⟨backup, iface⟩, file⟩ := s
  cases backup with
  | none =>
      constructor
      · intro h
        exact ⟨fun _ => nofun, fun _ => h⟩
      · intro h
        exact h.2 rfl
  | some backup =>
      constructor
      · intro h
        refine ⟨fun b hb => ?_, nofun⟩
        cases hb
        exact h
      · intro h
        exact h.1 backup rfl

/-- What the fallback reads before it writes. -/
def fallbackBackup (s : DnsState) (conditions : DnsConditions) : Option Text :=
  if conditions.visible then readToString conditions.readable s.file else none

theorem fallbackBackup_eq_some {conditions : DnsConditions} {text : Text} :
    s.fallbackBackup conditions = some text ↔
      conditions.visible = true ∧ conditions.readable = true ∧
        s.file.bind fromUtf8 = some text := by
  cases hv : conditions.visible <;> cases hr : conditions.readable <;>
    simp [fallbackBackup, readToString, hv, hr]

/-- The fallback keeps a backup it has, or makes one if it can, and then writes. -/
theorem after_fallback {iface : Text} {servers : List Text} {conditions : DnsConditions}
    (hservers : servers ≠ []) (hresolvectl : conditions.resolvectl = false) :
    (s.after (.configure iface servers conditions)).dns.resolvConfBackup =
        s.dns.resolvConfBackup.or (s.fallbackBackup conditions) ∧
      (s.after (.configure iface servers conditions)).file =
        (fsWrite conditions.write
          (Text.utf8Encode (LinuxDnsManager.resolvConf servers)) s.file).2 := by
  obtain ⟨⟨backup, active⟩, file⟩ := s
  have hempty : servers.isEmpty = false := by rwa [List.isEmpty_eq_false_iff]
  simp only [after, LinuxDnsManager.configureDns, hempty, hresolvectl, if_false,
    Bool.false_eq_true, LinuxDnsManager.applyResolvConfFallback, and_true]
  cases backup with
  | some backup => simp
  | none =>
      cases file with
      | none => cases hv : conditions.visible <;> simp [fallbackBackup, readToString, hv]
      | some bytes =>
          cases hv : conditions.visible with
          | false => simp [fallbackBackup, hv]
          | true =>
              cases hread : readToString conditions.readable (some bytes) with
              | none => simp [fallbackBackup, hv, hread]
              | some content => simp [fallbackBackup, hv, hread]

theorem configure_restorable_iff (h : s.Restorable original) (iface : Text)
    (servers : List Text) (conditions : DnsConditions) :
    (s.after (.configure iface servers conditions)).Restorable original ↔
      s.ConfiguresSafely servers conditions := by
  by_cases hservers : servers = []
  · subst hservers
    exact iff_of_true h (.inl rfl)
  cases hresolvectl : conditions.resolvectl with
  | true =>
      have hafter : (s.after (.configure iface servers conditions)).dns.resolvConfBackup =
            s.dns.resolvConfBackup ∧
          (s.after (.configure iface servers conditions)).file = s.file := by
        have hempty : servers.isEmpty = false := by rwa [List.isEmpty_eq_false_iff]
        simp [after, LinuxDnsManager.configureDns, hempty, hresolvectl]
      rw [restorable_iff, hafter.1, hafter.2, ← restorable_iff]
      exact iff_of_true h (.inr (.inl hresolvectl))
  | false =>
      obtain ⟨hbackup, hfile⟩ := @after_fallback s iface servers conditions hservers hresolvectl
      rw [restorable_iff] at h ⊢
      rw [hbackup, hfile]
      cases hhad : s.dns.resolvConfBackup with
      | some backup =>
          refine iff_of_true ?_ (.inr (.inr (.inl (by simp [hhad]))))
          rw [Option.some_or]
          exact ⟨fun b hb => h.1 b (hhad.trans hb), nofun⟩
      | none =>
          have horiginal := h.2 hhad
          rw [Option.none_or]
          cases hmade : s.fallbackBackup conditions with
          | some text =>
              obtain ⟨hvisible, hreadable, hread⟩ := fallbackBackup_eq_some.mp hmade
              refine iff_of_true ⟨?_, nofun⟩
                (.inr (.inr (.inr (.inl ⟨hvisible, hreadable, text, hread⟩))))
              rintro b ⟨⟩
              obtain ⟨bytes, hbytes, htext⟩ := Option.bind_eq_some_iff.mp hread
              rw [utf8Encode_of_fromUtf8 htext, ← hbytes, horiginal]
          | none =>
              rw [← horiginal]
              constructor
              · intro hafter
                exact .inr (.inr (.inr (.inr
                  ((fsWrite_iff_idle _ _ _).mp (hafter.2 rfl)))))
              · rintro (hnil | hresolved | hbackup | ⟨hvisible, hreadable, text, hread⟩ | hidle)
                · exact absurd hnil hservers
                · exact absurd (hresolvectl.symm.trans hresolved) (by decide)
                · exact absurd hhad hbackup
                · have hsome := fallbackBackup_eq_some.mpr ⟨hvisible, hreadable, hread⟩
                  exact absurd (hmade.symm.trans hsome) (by simp)
                · exact ⟨nofun, fun _ => (fsWrite_iff_idle _ _ _).mpr hidle⟩

theorem restore_restorable_iff (h : s.Restorable original) (write : WriteOutcome) :
    (s.after (.restore write)).Restorable original ↔ s.RestoresSafely write := by
  obtain ⟨⟨backup, active⟩, file⟩ := s
  cases backup with
  | none => exact iff_of_true h fun _ => nofun
  | some backup =>
      have horiginal : some (Text.utf8Encode backup) = original := h
      have hafter : (DnsState.after ⟨⟨some backup, active⟩, file⟩ (.restore write)).Restorable
          original ↔ (fsWrite write (Text.utf8Encode backup) file).2 = original := Iff.rfl
      have hsafe : RestoresSafely ⟨⟨some backup, active⟩, file⟩ write ↔
          (fsWrite write (Text.utf8Encode backup) file).2 = original := by
        rw [← horiginal]
        constructor
        · intro hs
          have hs := hs backup rfl
          cases write with
          | written => rfl
          | notOpened message => exact hs
          | interrupted n message => exact congrArg some (List.take_of_length_le hs)
        · rintro hs b ⟨⟩
          cases write with
          | written => trivial
          | notOpened message => exact hs
          | interrupted n message => exact List.take_eq_self_iff _ |>.mp (Option.some.inj hs)
      rw [hafter, hsafe]

/-- In every state that the calls of a run lead through, a `restore_dns` whose write succeeds
brings the file back to what it was before the run, exactly when all calls are safe. -/
theorem rollback_iff (file : Option Bytes) (calls : List DnsCall) :
    Holds step (Restorable file) (start file) calls ↔
      Meets step CallsSafely (start file) calls := by
  have hexact : ∀ s call t, step s call = some t → True → Restorable file s →
      (Restorable file t ↔ CallsSafely s call) := by
    rintro s call t ⟨⟩ - hs
    cases call with
    | configure iface servers conditions =>
        exact configure_restorable_iff hs iface servers conditions
    | restore write => exact restore_restorable_iff hs write
  exact holds_iff_meets (fun _ _ _ _ _ => trivial) hexact trivial rfl

/-- The file is absent; its content is no text; the write of the first restoration fails. -/
theorem rollback_lost :
    ∃ fallback : DnsConditions,
      (((start none).after (.configure "tun0".toList ["10.0.0.1".toList] fallback)).after
          (.restore .written)).file ≠ none ∧
        (((start (some [0xFF])).after (.configure "tun0".toList ["10.0.0.1".toList]
          fallback)).after (.restore .written)).file ≠ some [0xFF] ∧
        ((((start (some [0x23])).after (.configure "tun0".toList ["10.0.0.1".toList]
          fallback)).after (.restore (.notOpened "read-only".toList))).after
            (.restore .written)).file ≠ some [0x23] :=
  ⟨⟨false, true, true, .written⟩, by decide, by decide, by decide⟩

end DnsState

end VpnHub.Daemon
