import Mathlib.Data.List.Nodup
import VpnHub.Verification.Push.Options

/-! The lists of a `PUSH_REPLY` are put before those of the profile, and nothing in either is
lost. -/

namespace VpnHub.Config

section Lists

variable {α : Type} [DecidableEq α] {pushed static list : List α}

/-- The pushed entries, then each other entry of the profile once, where it occurs first. -/
structure Merges (pushed static merged : List α) : Prop where
  eq : merged = pushed ++ (static.filter (· ∉ pushed)).eraseDups
  mem_iff : ∀ x, x ∈ merged ↔ x ∈ pushed ∨ x ∈ static

theorem pushNew_of_mem {x : α} (h : x ∈ list) : pushNew list x = list := by
  rw [pushNew, if_pos (by simpa using h)]

theorem pushNew_of_notMem {x : α} (h : x ∉ list) : pushNew list x = list ++ [x] := by
  rw [pushNew, if_neg (by simpa using h)]

theorem nodup_pushNew (h : list.Nodup) (x : α) : (pushNew list x).Nodup := by
  by_cases hx : x ∈ list
  · rw [pushNew_of_mem hx]
    exact h
  · rw [pushNew_of_notMem hx]
    exact h.append (List.nodup_singleton x) (by simpa using hx)

theorem nodup_foldl_pushNew (h : pushed.Nodup) (static : List α) :
    (static.foldl pushNew pushed).Nodup := by
  induction static generalizing pushed with
  | nil => exact h
  | cons x static ih => exact ih (nodup_pushNew h x)

theorem foldl_pushNew (pushed static : List α) :
    static.foldl pushNew pushed = pushed ++ (static.filter (· ∉ pushed)).eraseDups := by
  induction static generalizing pushed with
  | nil => simp
  | cons x static ih =>
      rw [List.foldl_cons]
      by_cases hx : x ∈ pushed
      · rw [pushNew_of_mem hx, ih, List.filter_cons_of_neg (by simpa using hx)]
      · have hrest : static.filter (· ∉ pushed ++ [x]) =
            (static.filter (· ∉ pushed)).filter fun y => !y == x := by
          rw [List.filter_filter]
          refine List.filter_congr fun y _ => ?_
          by_cases hy : y = x
          · simp [hy]
          · simp [hy]
        rw [pushNew_of_notMem hx, ih, List.filter_cons_of_pos (by simpa using hx),
          List.eraseDups_cons, hrest, List.append_assoc]
        rfl

theorem merges_foldl_pushNew (pushed static : List α) :
    Merges pushed static (static.foldl pushNew pushed) := by
  refine ⟨foldl_pushNew pushed static, fun x => ?_⟩
  rw [foldl_pushNew, List.mem_append, List.mem_eraseDups, List.mem_filter]
  by_cases hx : x ∈ pushed
  · simp [hx]
  · simp [hx]

theorem mem_foldl_pushNew {x : α} : x ∈ static.foldl pushNew pushed ↔ x ∈ pushed ∨ x ∈ static :=
  (merges_foldl_pushNew pushed static).mem_iff x

theorem pushNew_foldl_of_mem {x : α} (h : x ∈ pushed) :
    pushNew (static.foldl pushNew pushed) x = static.foldl pushNew pushed :=
  pushNew_of_mem (mem_foldl_pushNew.mpr (.inl h))

theorem foldl_pushNew_pushNew (pushed static : List α) (x : α) :
    (pushNew static x).foldl pushNew pushed = pushNew (static.foldl pushNew pushed) x := by
  by_cases hx : x ∈ static
  · rw [pushNew_of_mem hx, pushNew_of_mem (mem_foldl_pushNew.mpr (.inr hx))]
  · rw [pushNew_of_notMem hx, List.foldl_concat]

/-- Entries that were added twice are added once. -/
theorem foldl_foldl_pushNew (pushed static list : List α) :
    (list.foldl pushNew static).foldl pushNew pushed =
      list.foldl pushNew (static.foldl pushNew pushed) := by
  induction list generalizing static with
  | nil => rfl
  | cons x list ih => rw [List.foldl_cons, ih, foldl_pushNew_pushNew, List.foldl_cons]

theorem foldl_pushNew_of_nodup (h : (pushed ++ static).Nodup) :
    static.foldl pushNew pushed = pushed ++ static := by
  induction static generalizing pushed with
  | nil => simp
  | cons x static ih =>
      have hx : x ∉ pushed := fun hmem => (List.nodup_append.mp h).2.2 x hmem x (by simp) rfl
      rw [List.append_cons] at h ⊢
      rw [List.foldl_cons, pushNew_of_notMem hx, ih h]

theorem foldl_pushNew_eq_self_iff (h : static.Nodup) :
    static.foldl pushNew pushed = static ↔ pushed <+: static := by
  constructor
  · intro heq
    rw [foldl_pushNew] at heq
    exact ⟨_, heq⟩
  · rintro ⟨rest, rfl⟩
    have hself : pushed.foldl pushNew pushed = pushed := by
      rw [foldl_pushNew, List.filter_eq_nil_iff.mpr (by simp), List.eraseDups_nil, List.append_nil]
    rw [List.foldl_append, hself, foldl_pushNew_of_nodup h]

end Lists

/-! ## Pushed name servers and domains -/

namespace PushOptions

/-- The lists that the parser checks before it adds to them. -/
structure Distinct (o : PushOptions) : Prop where
  dnsServers : o.dnsServers.Nodup
  searchDomains : o.searchDomains.Nodup

namespace Distinct

variable {o : PushOptions}

theorem applyDhcpOption (h : o.Distinct) (optType optVal : Text) :
    (o.applyDhcpOption optType optVal).Distinct := by
  unfold PushOptions.applyDhcpOption
  split
  · split
    · exact ⟨nodup_pushNew h.dnsServers _, h.searchDomains⟩
    · exact h
  · split
    · exact ⟨h.dnsServers, nodup_pushNew h.searchDomains _⟩
    · split
      · split
        · exact ⟨h.dnsServers, h.searchDomains⟩
        · exact h
      · split
        · split
          · exact ⟨h.dnsServers, h.searchDomains⟩
          · exact h
        · exact h

theorem apply (h : o.Distinct) (verb : Text) (args : List Text) : (o.apply verb args).Distinct := by
  by_cases hverb : verb = "dhcp-option".toList
  · subst hverb
    unfold PushOptions.apply
    rw [if_neg (by decide), if_neg (by decide), if_neg (by decide), if_neg (by decide),
      if_neg (by decide), if_neg (by decide), if_neg (by decide), if_neg (by decide), if_pos rfl]
    rcases args with _ | ⟨optType, _ | ⟨optVal, rest⟩⟩
    · exact h
    · exact h
    · exact h.applyDhcpOption _ _
  · have hframe := frame_apply o verb args
    exact ⟨by rw [hframe.dnsServers hverb]; exact h.dnsServers,
      by rw [hframe.searchDomains hverb]; exact h.searchDomains⟩

theorem foldl (h : o.Distinct) (items : List Text) : (items.foldl applyItem o).Distinct := by
  induction items generalizing o with
  | nil => exact h
  | cons item items ih =>
      refine ih ?_
      unfold applyItem
      split
      · exact h
      · exact h.apply _ _

end Distinct

end PushOptions

/-- What a reply pushes comes before what any profile has, nothing is lost, and no name server and
no search domain is there twice. -/
theorem merges_pushed_and_static (payload : Text) (base : OpenVpnConfig) :
    ∃ options, parsePushReply payload = .ok options ∧
      let merged := options.buildProvisioningConfig base
      Merges options.dnsServers base.dnsServers merged.dnsServers ∧
        Merges options.searchDomains base.searchDomains merged.searchDomains ∧
        Merges options.routesV4 base.routesV4 merged.routesV4 ∧
        Merges options.routesV6 base.routesV6 merged.routesV6 ∧
        merged.dnsServers.Nodup ∧ merged.searchDomains.Nodup := by
  have hdistinct := PushOptions.Distinct.foldl ⟨List.nodup_nil, List.nodup_nil⟩
    (splitPushReplyItems payload) (o := {})
  exact ⟨_, rfl, merges_foldl_pushNew _ _, merges_foldl_pushNew _ _, merges_foldl_pushNew _ _,
    merges_foldl_pushNew _ _, nodup_foldl_pushNew hdistinct.dnsServers _,
    nodup_foldl_pushNew hdistinct.searchDomains _⟩

end VpnHub.Config
