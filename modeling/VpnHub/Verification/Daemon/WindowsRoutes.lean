import Mathlib.Data.Set.Insert
import VpnHub.Library.Transition
import VpnHub.Program.Daemon.WindowsRouting

/-! # The routing table on Windows

What is in the table of the host after any number of set-ups and teardowns, against what was in it
before. -/

namespace VpnHub.Daemon

open WindowsRouteManager

variable {T : Type} {api : IpHelper T} {rows : T → Set ForwardRow}

/-! ## The IP helper -/

/-- The documented effect of the functions on the rows. -/
structure IpHelperContract (api : IpHelper T) (rows : T → Set ForwardRow) : Prop where
  converted : ∀ iface t, rows (api.convertInterfaceAliasToLuid iface t).2 = rows t
  created : ∀ row t, (api.createIpForwardEntry2 row t).1 = 0 →
    rows (api.createIpForwardEntry2 row t).2 = insert row (rows t)
  not_created : ∀ row t, (api.createIpForwardEntry2 row t).1 ≠ 0 →
    rows (api.createIpForwardEntry2 row t).2 = rows t
  existing : ∀ row t, (api.createIpForwardEntry2 row t).1 = 5010 → row ∈ rows t
  deleted : ∀ row t, (api.deleteIpForwardEntry2 row t).1 = 0 →
    rows (api.deleteIpForwardEntry2 row t).2 = rows t \ {row}
  not_deleted : ∀ row t, (api.deleteIpForwardEntry2 row t).1 ≠ 0 →
    rows (api.deleteIpForwardEntry2 row t).2 = rows t
  missing : ∀ row t, (api.deleteIpForwardEntry2 row t).1 = 1168 → row ∉ rows t

/-- A row that is in the table can be deleted. -/
def Deletes (api : IpHelper T) : Prop :=
  ∀ row t, (api.deleteIpForwardEntry2 row t).1 = 0 ∨ (api.deleteIpForwardEntry2 row t).1 = 1168

def rowsOf (luid : Luid) (routes : List (Ipv4Addr × UInt8)) : Set ForwardRow :=
  {row | row ∈ routes.map (rowOf luid)}

theorem rowsOf_nil (luid : Luid) : rowsOf luid [] = ∅ := by
  ext row
  simp [rowsOf]

theorem rowsOf_cons (luid : Luid) (route : Ipv4Addr × UInt8)
    (routes : List (Ipv4Addr × UInt8)) :
    rowsOf luid (route :: routes) = {rowOf luid route} ∪ rowsOf luid routes := by
  ext row
  simp [rowsOf, eq_comm]

theorem rowsOf_singleton (luid : Luid) (route : Ipv4Addr × UInt8) :
    rowsOf luid [route] = {rowOf luid route} := by
  rw [rowsOf_cons, rowsOf_nil, Set.union_empty]

namespace IpHelperContract

theorem rows_luidOf (contract : IpHelperContract api rows) (iface : Text) (t : T) :
    rows (luidOf api iface t).2 = rows t := by
  have hfirst := contract.converted iface t
  have hsecond := contract.converted iface (api.convertInterfaceAliasToLuid iface t).2
  simp only [luidOf]
  split
  · exact hfirst
  · split
    · exact hsecond.trans hfirst
    · exact hsecond.trans hfirst

/-- A route that counts as added is in the table then, whether it was before or not. -/
theorem rows_addRouteLuid (contract : IpHelperContract api rows) (luid : Luid)
    (route : Ipv4Addr × UInt8) (t : T) : rows (addRouteLuid api luid route t).2 =
      rows t ∪ rowsOf luid (if (addRouteLuid api luid route t).1 then [route] else []) := by
  by_cases hzero : (api.createIpForwardEntry2 (rowOf luid route) t).1 = 0
  · have hadded : (addRouteLuid api luid route t).1 = true := by simp [addRouteLuid, hzero]
    rw [hadded, if_pos rfl, rowsOf_singleton, Set.union_singleton]
    exact contract.created _ _ hzero
  · have hrows := contract.not_created _ _ hzero
    by_cases hexists : (api.createIpForwardEntry2 (rowOf luid route) t).1 = 5010
    · have hadded : (addRouteLuid api luid route t).1 = true := by simp [addRouteLuid, hexists]
      rw [hadded, if_pos rfl, rowsOf_singleton, Set.union_singleton,
        Set.insert_eq_of_mem (contract.existing _ _ hexists)]
      exact hrows
    · have hadded : (addRouteLuid api luid route t).1 = false := by
        simp [addRouteLuid, hzero, hexists]
      rw [hadded, if_neg Bool.false_ne_true, rowsOf_nil, Set.union_empty]
      exact hrows

/-- The loop adds some of the routes. -/
theorem rows_addRoutes (contract : IpHelperContract api rows) (luid : Luid)
    (routes added : List (Ipv4Addr × UInt8)) (t : T) :
    ∃ new, (addRoutes api luid routes (added, t)).1 = added ++ new ∧ new.Sublist routes ∧
      rows (addRoutes api luid routes (added, t)).2 = rows t ∪ rowsOf luid new := by
  induction routes generalizing added t with
  | nil =>
      refine ⟨[], (List.append_nil _).symm, .slnil, ?_⟩
      rw [rowsOf_nil, Set.union_empty]
      rfl
  | cons route routes ih =>
      have hroute := contract.rows_addRouteLuid luid route t
      rw [addRoutes]
      generalize addRouteLuid api luid route t = out at hroute
      obtain ⟨ok, t'⟩ := out
      obtain ⟨new, hadded, hsub, hrows⟩ := ih (if ok then added ++ [route] else added) t'
      cases ok with
      | true =>
          refine ⟨route :: new, hadded.trans (List.append_assoc ..), hsub.cons_cons route, ?_⟩
          rw [if_pos rfl, rowsOf_singleton] at hroute
          rw [rowsOf_cons, ← Set.union_assoc]
          exact hrows.trans (congrArg (· ∪ _) hroute)
      | false =>
          refine ⟨new, hadded, hsub.cons route, ?_⟩
          rw [if_neg Bool.false_ne_true, rowsOf_nil, Set.union_empty] at hroute
          exact hrows.trans (congrArg (· ∪ _) hroute)

/-- Deleting touches no other row. -/
theorem rows_deleteRouteLuid_subset (contract : IpHelperContract api rows) (luid : Luid)
    (route : Ipv4Addr × UInt8) (t : T) :
    rows t \ {rowOf luid route} ⊆ rows (deleteRouteLuid api luid route t) := by
  by_cases hzero : (api.deleteIpForwardEntry2 (rowOf luid route) t).1 = 0
  · exact (contract.deleted _ _ hzero).ge
  · exact Set.sdiff_subset.trans (contract.not_deleted _ _ hzero).ge

theorem rows_deleteRouteLuid (contract : IpHelperContract api rows) (hdeletes : Deletes api)
    (luid : Luid) (route : Ipv4Addr × UInt8) (t : T) :
    rows (deleteRouteLuid api luid route t) = rows t \ {rowOf luid route} := by
  obtain hzero | hmissing := hdeletes (rowOf luid route) t
  · exact contract.deleted _ _ hzero
  · have hne : (api.deleteIpForwardEntry2 (rowOf luid route) t).1 ≠ 0 := by
      rw [hmissing]
      decide
    rw [Set.sdiff_singleton_eq_self (contract.missing _ _ hmissing)]
    exact contract.not_deleted _ _ hne

theorem rows_deleteRoutes_subset (contract : IpHelperContract api rows) (luid : Luid)
    (routes : List (Ipv4Addr × UInt8)) (t : T) :
    rows t \ rowsOf luid routes ⊆ rows (deleteRoutes api luid routes t) := by
  induction routes generalizing t with
  | nil => exact Set.sdiff_subset
  | cons route routes ih =>
      rw [rowsOf_cons, ← Set.sdiff_sdiff]
      exact (Set.sdiff_subset_sdiff_left (contract.rows_deleteRouteLuid_subset luid route t)).trans
        (ih _)

theorem rows_deleteRoutes (contract : IpHelperContract api rows) (hdeletes : Deletes api)
    (luid : Luid) (routes : List (Ipv4Addr × UInt8)) (t : T) :
    rows (deleteRoutes api luid routes t) = rows t \ rowsOf luid routes := by
  induction routes generalizing t with
  | nil =>
      rw [rowsOf_nil, Set.sdiff_empty]
      rfl
  | cons route routes ih =>
      rw [rowsOf_cons, ← Set.sdiff_sdiff, ← contract.rows_deleteRouteLuid hdeletes]
      exact ih _

end IpHelperContract

/-! ## Runs -/

/-- The manager and the host. -/
structure RoutedHost (T : Type) where
  router : WindowsRouteManager := {}
  table : T
  deriving DecidableEq

inductive RoutingCall where
  | setup (args : WindowsRoutingArgs)
  | teardown

namespace WindowsRouteManager

/-- What the manager would delete. -/
def ownedRows (router : WindowsRouteManager) : List ForwardRow :=
  match router.luid with
  | some luid => router.addedRoutes.map (rowOf luid)
  | none => []

def owned (router : WindowsRouteManager) : Set ForwardRow := {row | row ∈ router.ownedRows}

theorem owned_of_luid {router : WindowsRouteManager} {luid : Luid} (h : router.luid = some luid) :
    router.owned = rowsOf luid router.addedRoutes := by
  simp only [owned, ownedRows, h]
  rfl

theorem owned_of_none {router : WindowsRouteManager} (h : router.luid = none) :
    router.owned = ∅ := by
  ext row
  simp [owned, ownedRows, h]

/-- A set-up fails and changes no row, or adds the rows of the new manager. -/
theorem setupVpnRouting_cases (contract : IpHelperContract api rows) (args : WindowsRoutingArgs)
    (router : WindowsRouteManager) (t : T) :
    (∃ e t', setupVpnRouting api args router t = (.error e, router, t') ∧ rows t' = rows t) ∨
      ∃ router' t', setupVpnRouting api args router t = (.ok (), router', t') ∧
        rows t' = rows t ∪ router'.owned := by
  have hluid := contract.rows_luidOf args.tunnelIface t
  unfold setupVpnRouting
  generalize luidOf api args.tunnelIface t = out at hluid
  obtain ⟨e | luid, table⟩ := out
  · exact .inl ⟨e, table, rfl, hluid⟩
  · obtain ⟨new, hadded, -, hrows⟩ := contract.rows_addRoutes luid
      (routesToAdd args.intranetOnly args.pushedRoutes args.customSubnets) [] table
    refine .inr ⟨_, _, rfl, ?_⟩
    rw [owned_of_luid rfl, hrows, hadded, List.nil_append]
    exact congrArg (· ∪ _) hluid

end WindowsRouteManager

namespace RoutedHost

def step (api : IpHelper T) (h : RoutedHost T) : RoutingCall → Option (RoutedHost T)
  | .setup args =>
    let out := setupVpnRouting api args h.router h.table
    some { router := out.2.1, table := out.2.2 }
  | .teardown =>
    let out := teardownVpnRouting api h.router h.table
    some { router := out.1, table := out.2 }

/-- The rows that a call makes the manager's. -/
def claims (api : IpHelper T) (h : RoutedHost T) : RoutingCall → List ForwardRow
  | .setup args =>
    let out := setupVpnRouting api args h.router h.table
    if out.1.isOk then out.2.1.ownedRows else []
  | .teardown => []

/-- The rows that the calls of a run make the manager's. -/
abbrev claimed (api : IpHelper T) : RoutedHost T → List RoutingCall → List ForwardRow :=
  Transition.observed (step api) (claims api)

theorem setup_cases (contract : IpHelperContract api rows) (h : RoutedHost T)
    (args : WindowsRoutingArgs) : ∃ g, h.step api (.setup args) = some g ∧
      ((h.claims api (.setup args) = [] ∧ g.router = h.router ∧ rows g.table = rows h.table) ∨
        (h.claims api (.setup args) = g.router.ownedRows ∧
          rows g.table = rows h.table ∪ g.router.owned)) := by
  refine ⟨_, rfl, ?_⟩
  obtain ⟨e, t, hsetup, hrows⟩ | ⟨router, t, hsetup, hrows⟩ :=
    setupVpnRouting_cases contract args h.router h.table
  · refine .inl ⟨?_, ?_, ?_⟩ <;> simp only [claims, hsetup]
    · rfl
    · exact hrows
  · refine .inr ⟨?_, ?_⟩ <;> simp only [claims, hsetup]
    · rfl
    · exact hrows

theorem teardown_eq (api : IpHelper T) (rows : T → Set ForwardRow) (h : RoutedHost T) :
    ∃ g, h.step api .teardown = some g ∧ g.router.owned = ∅ ∧
      (IpHelperContract api rows → rows h.table \ h.router.owned ⊆ rows g.table) ∧
      (IpHelperContract api rows → Deletes api → rows g.table = rows h.table \ h.router.owned) := by
  refine ⟨_, rfl, ?_⟩
  simp only [teardownVpnRouting]
  cases hluid : h.router.luid with
  | none =>
      rw [owned_of_none hluid, Set.sdiff_empty]
      exact ⟨rfl, fun _ => subset_rfl, fun _ _ => rfl⟩
  | some luid =>
      rw [owned_of_luid hluid]
      exact ⟨owned_of_none rfl, fun contract => contract.rows_deleteRoutes_subset luid _ _,
        fun contract hdeletes => contract.rows_deleteRoutes hdeletes luid _ _⟩

/-- A set-up comes only where nothing is set up. -/
def TornDown (h : RoutedHost T) : RoutingCall → Prop
  | .setup _ => h.router.luid = none
  | .teardown => True

instance (h : RoutedHost T) : ∀ call, Decidable (h.TornDown call)
  | .setup _ => inferInstanceAs (Decidable (h.router.luid = none))
  | .teardown => isTrue trivial

/-- The table is that of the start without the rows that were claimed, and with those that the
manager owns. -/
structure Balanced (rows : T → Set ForwardRow) (start : Set ForwardRow) (claimed : List ForwardRow)
    (h : RoutedHost T) : Prop where
  owned : h.router.owned ⊆ {row | row ∈ claimed}
  rows : rows h.table = start \ {row | row ∈ claimed} ∪ h.router.owned

theorem Balanced.step (contract : IpHelperContract api rows) (hdeletes : Deletes api)
    {start : Set ForwardRow} {claimed : List ForwardRow} {h g : RoutedHost T} {call : RoutingCall}
    (hguard : h.TornDown call) (hstep : h.step api call = some g)
    (hbalanced : Balanced rows start claimed h) :
    Balanced rows start (claimed ++ h.claims api call) g := by
  obtain ⟨howned, hrows⟩ := hbalanced
  cases call with
  | setup args =>
      have hnone : h.router.owned = ∅ := owned_of_none hguard
      obtain ⟨g', hg', hcases⟩ := setup_cases contract h args
      obtain rfl := Option.some.inj (hg'.symm.trans hstep)
      obtain ⟨hclaims, hrouter, htable⟩ | ⟨hclaims, htable⟩ := hcases
      · rw [hclaims, List.append_nil]
        exact ⟨hrouter ▸ howned, by rw [htable, hrouter, hrows]⟩
      · rw [hclaims]
        refine ⟨fun row hrow => List.mem_append_right claimed hrow, ?_⟩
        rw [htable, hrows, hnone, Set.union_empty]
        ext row
        simp only [Set.mem_union, Set.mem_sdiff, Set.mem_ofPred_eq, List.mem_append,
          WindowsRouteManager.owned]
        tauto
  | teardown =>
      obtain ⟨g', hg', hempty, -, htable⟩ := teardown_eq api rows h
      obtain rfl := Option.some.inj (hg'.symm.trans hstep)
      have hclaims : h.claims api .teardown = [] := rfl
      rw [hclaims, List.append_nil]
      refine ⟨hempty ▸ Set.empty_subset _, ?_⟩
      rw [hempty, htable contract hdeletes, hrows, Set.union_empty]
      ext row
      have hmem := @howned row
      simp only [Set.mem_union, Set.mem_sdiff, Set.mem_ofPred_eq] at hmem ⊢
      tauto

theorem balanced_of_run (contract : IpHelperContract api rows) (hdeletes : Deletes api) {t : T}
    {calls : List RoutingCall} {h : RoutedHost T}
    (run : Transition.Run (step api) TornDown { table := t } calls h) :
    Balanced rows (rows t) (claimed api { table := t } calls) h := by
  refine run.keeps_observed (R := Balanced rows (rows t)) (l := [])
    (fun _ _ _ _ hguard hstep h => h.step contract hdeletes hguard hstep) ⟨?_, ?_⟩
  · rw [owned_of_none rfl]
    exact Set.empty_subset _
  · rw [owned_of_none rfl]
    ext row
    simp

/-- Where a set-up comes only after a teardown, no row is left at the end. The table is as before
exactly if no row that was claimed had been there: those that had been are gone. -/
theorem restored_iff_of_run (contract : IpHelperContract api rows) (hdeletes : Deletes api) {t : T}
    {calls : List RoutingCall} {h : RoutedHost T}
    (run : Transition.Run (step api) TornDown { table := t } calls h)
    (hend : h.router.luid = none) :
    rows h.table = rows t \ {row | row ∈ claimed api { table := t } calls} ∧
      (rows h.table = rows t ↔ ∀ row ∈ claimed api { table := t } calls, row ∉ rows t) := by
  have hrows := (balanced_of_run contract hdeletes run).rows
  rw [owned_of_none hend, Set.union_empty] at hrows
  refine ⟨hrows, ?_⟩
  rw [hrows, sdiff_eq_left, Set.disjoint_left]
  exact ⟨fun h row hclaimed hrow => h hrow hclaimed, fun h row hrow hclaimed => h row hclaimed hrow⟩

/-! ## Set-ups without a teardown -/

/-- A row that the manager does not own stays until it is claimed. -/
theorem stays_of_run (contract : IpHelperContract api rows) {row : ForwardRow}
    {calls : List RoutingCall} {h g : RoutedHost T}
    (run : Transition.Run (step api) (fun _ _ => True) h calls g) (hrow : row ∈ rows h.table)
    (howned : row ∉ h.router.owned) (hclaimed : row ∉ claimed api h calls) :
    row ∈ rows g.table := by
  suffices row ∈ claimed api h calls ∨ row ∈ rows g.table ∧ row ∉ g.router.owned from
    (this.resolve_left hclaimed).1
  refine run.keeps_observed (R := fun (l : List ForwardRow) g =>
    row ∈ l ∨ row ∈ rows g.table ∧ row ∉ g.router.owned) (l := [])
    (fun h call g l _ hstep hkept => ?_) (.inr ⟨hrow, howned⟩)
  obtain hmem | ⟨hrow, howned⟩ := hkept
  · exact .inl (List.mem_append_left _ hmem)
  · cases call with
    | setup args =>
        obtain ⟨g', hg', hcases⟩ := setup_cases contract h args
        obtain rfl := Option.some.inj (hg'.symm.trans hstep)
        obtain ⟨-, hrouter, htable⟩ | ⟨hclaims, htable⟩ := hcases
        · exact .inr ⟨htable ▸ hrow, hrouter ▸ howned⟩
        · by_cases hnew : row ∈ g'.router.owned
          · exact .inl (List.mem_append_right l (hclaims ▸ hnew))
          · exact .inr ⟨htable ▸ .inl hrow, hnew⟩
    | teardown =>
        obtain ⟨g', hg', hempty, hsubset, -⟩ := teardown_eq api rows h
        obtain rfl := Option.some.inj (hg'.symm.trans hstep)
        exact .inr ⟨hsubset contract ⟨hrow, howned⟩, hempty ▸ Set.notMem_empty row⟩

/-- A second set-up forgets the rows of the first that are not among its own: they stay in the
table, teardowns included, for as long as no further set-up claims them. -/
theorem leaked_of_setup (contract : IpHelperContract api rows) {row : ForwardRow}
    {args : WindowsRoutingArgs} {calls : List RoutingCall} {h g k : RoutedHost T}
    (hrow : row ∈ rows h.table) (hsetup : h.step api (.setup args) = some g)
    (hforgotten : row ∉ g.router.owned)
    (run : Transition.Run (step api) (fun _ _ => True) g calls k)
    (hclaimed : row ∉ claimed api g calls) : row ∈ rows k.table := by
  obtain ⟨g', hg', hcases⟩ := setup_cases contract h args
  obtain rfl := Option.some.inj (hg'.symm.trans hsetup)
  refine stays_of_run contract run ?_ hforgotten hclaimed
  obtain ⟨-, -, htable⟩ | ⟨-, htable⟩ := hcases
  · exact htable ▸ hrow
  · exact htable ▸ .inl hrow

/-! ## A host -/

namespace Sample

/-- A list as the table, one interface, and no prefixes of more than 32 bits (87). -/
def ipHelper : IpHelper (List ForwardRow) where
  convertInterfaceAliasToLuid _ table := ((0, 7), table)
  createIpForwardEntry2 row table :=
    if 32 < row.prefixLength then (87, table)
    else if row ∈ table then (5010, table)
    else (0, row :: table)
  deleteIpForwardEntry2 row table :=
    if row ∈ table then (0, table.filter (· ≠ row)) else (1168, table)

def listed (table : List ForwardRow) : Set ForwardRow := {row | row ∈ table}

theorem contract : IpHelperContract ipHelper listed where
  converted _ _ := rfl
  created row table h := by
    simp only [ipHelper] at h ⊢
    split at h
    · cases h
    · split at h
      · cases h
      · rename_i hprefix hmem
        rw [if_neg hprefix, if_neg hmem]
        ext other
        simp [listed]
  not_created row table h := by
    simp only [ipHelper] at h ⊢
    split
    · rfl
    · rename_i hprefix
      rw [if_neg hprefix] at h
      split
      · rfl
      · rename_i hmem
        rw [if_neg hmem] at h
        exact absurd rfl h
  existing row table h := by
    simp only [ipHelper] at h
    split at h
    · cases h
    · split at h
      · assumption
      · cases h
  deleted row table h := by
    simp only [ipHelper] at h ⊢
    split at h
    · rename_i hmem
      rw [if_pos hmem]
      ext other
      simp [listed]
    · cases h
  not_deleted row table h := by
    simp only [ipHelper] at h ⊢
    split
    · rename_i hmem
      rw [if_pos hmem] at h
      exact absurd rfl h
    · rfl
  missing row table h := by
    simp only [ipHelper] at h
    split at h
    · cases h
    · assumption

theorem deletes : Deletes ipHelper := by
  intro row table
  simp only [ipHelper]
  split
  · exact .inl rfl
  · exact .inr rfl

def tunnelArgs (subnet : String) : WindowsRoutingArgs where
  tunnelIface := "wintun".toList
  intranetOnly := true
  pushedRoutes := []
  customSubnets := [subnet.toList]

def office : ForwardRow := ⟨7, ⟨10, 0, 0, 0⟩, 8⟩

/-- A tunnel to the office, and after it one to another subnet. -/
def toOffice : RoutedHost (List ForwardRow) where
  router := { addedRoutes := [(⟨10, 0, 0, 0⟩, 8)], luid := some 7 }
  table := [office]

def elsewhere : RoutedHost (List ForwardRow) where
  router := { addedRoutes := [(⟨192, 168, 0, 0⟩, 16)], luid := some 7 }
  table := [⟨7, ⟨192, 168, 0, 0⟩, 16⟩, office]

end Sample

/-- The route to the office had been there, and is gone after the tunnel. -/
theorem restored_iff_of_run_office : ∃ h, Transition.Run (step Sample.ipHelper) TornDown
    { table := [Sample.office] } [.setup (Sample.tunnelArgs "10.0.0.0/8"), .teardown] h ∧
      ¬ Sample.listed h.table = Sample.listed [Sample.office] := by
  obtain ⟨h, run, hend⟩ := Transition.exists_run_of_any (p := fun h : RoutedHost _ =>
    decide (h.router.luid = none))
    (show (Transition.runList (step Sample.ipHelper) TornDown { table := [Sample.office] }
      [.setup (Sample.tunnelArgs "10.0.0.0/8"), .teardown]).any _ = true by decide +kernel)
  refine ⟨h, run, fun hrestored => ?_⟩
  have hclaimed : Sample.office ∈ claimed Sample.ipHelper { table := [Sample.office] }
      [.setup (Sample.tunnelArgs "10.0.0.0/8"), .teardown] := by decide +kernel
  exact (restored_iff_of_run Sample.contract Sample.deletes run (of_decide_eq_true hend)).2.mp
    hrestored _ hclaimed (List.mem_singleton_self _)

/-- The teardown leaves the route of the first tunnel. -/
theorem leaked_of_setup_office : ∃ k,
    step Sample.ipHelper { table := [] } (.setup (Sample.tunnelArgs "10.0.0.0/8")) =
        some Sample.toOffice ∧
      Sample.toOffice.step Sample.ipHelper (.setup (Sample.tunnelArgs "192.168.0.0/16")) =
        some Sample.elsewhere ∧
      Sample.elsewhere.step Sample.ipHelper .teardown = some k ∧
      Sample.office ∈ Sample.listed k.table := by
  have hsecond : Sample.toOffice.step Sample.ipHelper
      (.setup (Sample.tunnelArgs "192.168.0.0/16")) = some Sample.elsewhere := by decide +kernel
  have hrow : Sample.office ∈ Sample.listed Sample.toOffice.table :=
    List.mem_singleton_self Sample.office
  have hforgotten : Sample.office ∉ Sample.elsewhere.router.ownedRows := by decide +kernel
  have hclaimed : Sample.office ∉ claimed Sample.ipHelper Sample.elsewhere [.teardown] := by
    decide +kernel
  exact ⟨_, by decide +kernel, hsecond, rfl,
    leaked_of_setup Sample.contract hrow hsecond hforgotten (.cons trivial rfl (.nil _)) hclaimed⟩

end RoutedHost

end VpnHub.Daemon
