import VpnHub.Model.StoreRuns

/-! # The active profile

The selection follows the list of profiles: what an action makes of the ids and of the active id
tells whether the active profile still exists. -/

namespace VpnHub.App

/-! ## Selections -/

/-- The selected id is one of the ids, and is empty only if there are none. -/
def Selects (ids : List Text) (active : Text) : Prop :=
  if active = [] then ids = [] else active ∈ ids

theorem selects_of_mem {ids : List Text} {active : Text} (h : active ∈ ids) :
    Selects ids active ↔ active ≠ [] := by
  unfold Selects
  split
  · rename_i hempty
    exact iff_of_false (List.ne_nil_of_mem h) (not_not_intro hempty)
  · rename_i hne
    exact iff_of_true h hne

theorem selects_nil : Selects [] [] := rfl

theorem Selects.mem {ids : List Text} {active : Text} (h : Selects ids active) (hne : ids ≠ []) :
    active ∈ ids := by
  unfold Selects at h
  split at h
  · exact absurd h hne
  · exact h

theorem Selects.filter_ne {ids : List Text} {active id : Text} (h : Selects ids active)
    (hne : active ≠ id) : Selects (ids.filter (· ≠ id)) active := by
  unfold Selects at h ⊢
  split at h
  · rename_i hempty
    rw [if_pos hempty, h, List.filter_nil]
  · rename_i hactive
    rw [if_neg hactive]
    exact List.mem_filter.mpr ⟨h, decide_eq_true hne⟩

namespace VpnStore

variable {s : VpnStore}

theorem ids_eq_nil : s.ids = [] ↔ s.profiles = [] := List.map_eq_nil_iff

theorem ids_mapWithId (id : Text) {f : VpnProfile → VpnProfile}
    (hf : ∀ p, p.id = id → (f p).id = id) : (s.mapWithId id f).ids = s.ids := by
  unfold ids mapWithId
  rw [List.map_map]
  refine List.map_congr_left fun p _ => ?_
  simp only [Function.comp_apply]
  split
  · rename_i hid
    rw [hf p hid, hid]
  · rfl

theorem fullProfile_id (profile : VpnProfile) (secret : Option ProfileSecretPayload) :
    (fullProfile profile secret).id = profile.id := by
  rcases secret with _ | secret
  · rfl
  · cases secret <;> rfl

/-! ### Loading -/

theorem find?_mapProfiles (snapshot : FullStorageSnapshotPayload) :
    ((mapProfiles snapshot).find? (·.isFavorite)).map (·.id) =
      (snapshot.profiles.find? (·.isFavorite)).map (·.id) := by
  rw [mapProfiles, List.find?_map, Option.map_map]
  rfl

theorem head?_mapProfiles (snapshot : FullStorageSnapshotPayload) :
    (mapProfiles snapshot).head?.map (·.id) = snapshot.profiles.head?.map (·.id) := by
  rw [mapProfiles, List.head?_map, Option.map_map]
  rfl

/-- The snapshot selects one of its profiles. -/
theorem initialActiveId_mem {profiles : List VpnProfile} (h : profiles ≠ []) :
    initialActiveId profiles ∈ profiles.map (·.id) := by
  unfold initialActiveId
  cases hfavorite : Ecma.truthy ((profiles.find? (·.isFavorite)).map (·.id)) with
  | some id =>
      obtain ⟨p, hp, rfl⟩ := Option.map_eq_some_iff.mp (Ecma.truthy_eq_some.mp hfavorite).1
      exact List.mem_map_of_mem (List.mem_of_find?_eq_some hp)
  | none =>
      cases profiles with
      | nil => exact absurd rfl h
      | cons p profiles => exact List.mem_cons_self

theorem selects_loadSnapshot_iff (s : VpnStore) (snapshot : FullStorageSnapshotPayload) :
    Selects (s.loadSnapshot snapshot).ids (s.loadSnapshot snapshot).activeProfileId ↔
      StoreRun.SelectsNamed snapshot := by
  change Selects ((mapProfiles snapshot).map (·.id)) (initialActiveId (mapProfiles snapshot)) ↔ _
  by_cases hempty : snapshot.profiles = []
  · have hmapped : mapProfiles snapshot = [] := by rw [mapProfiles, hempty, List.map_nil]
    rw [hmapped]
    exact iff_of_true selects_nil (.inl hempty)
  · have hmapped : mapProfiles snapshot ≠ [] := fun h => hempty (List.map_eq_nil_iff.mp h)
    rw [selects_of_mem (initialActiveId_mem hmapped), initialActiveId, Ecma.getD_truthy_or_ne_nil,
      find?_mapProfiles, head?_mapProfiles, StoreRun.SelectsNamed, or_iff_right hempty]
    simp only [Option.mem_map, exists_exists_and_eq_and]

/-! ### Deleting -/

theorem ids_deleteProfile (s : VpnStore) (profileId : Text) :
    (s.deleteProfile profileId).ids = s.ids.filter (· ≠ profileId) := by
  unfold ids
  rw [List.filter_map]
  rfl

/-- The first profile takes the place of the active one, also if it is the one that goes. -/
theorem selects_deleteProfile_iff (h : Selects s.ids s.activeProfileId) {profileId : Text}
    (hactive : s.activeProfileId = profileId) :
    Selects (s.deleteProfile profileId).ids (s.deleteProfile profileId).activeProfileId ↔
      s.profiles = [] ∨ ∃ p ∈ s.profiles.head?, p.id ≠ profileId ∧ p.id ≠ [] := by
  have hreplaced : (s.deleteProfile profileId).activeProfileId =
      (s.profiles.head?.map (·.id)).getD [] := if_pos hactive
  rw [hreplaced, ids_deleteProfile]
  cases hprofiles : s.profiles with
  | nil => simp [ids, hprofiles, Selects]
  | cons p profiles =>
      have hne : s.ids ≠ [] := by simp [ids, hprofiles]
      have hselected : profileId ≠ [] := by
        rw [← hactive]
        exact (selects_of_mem (h.mem hne)).mp h
      have hids : s.ids = p.id :: profiles.map (·.id) := by rw [ids, hprofiles, List.map_cons]
      rw [hids]
      by_cases hp : p.id = profileId
      · have hgone : ¬ Selects ((p.id :: profiles.map (·.id)).filter (· ≠ profileId)) p.id := by
          simp [Selects, hp, hselected]
        simpa [hp] using hgone
      · have hmem : p.id ∈ (p.id :: profiles.map (·.id)).filter (· ≠ profileId) := by simp [hp]
        simpa [hp] using selects_of_mem hmem

/-! ### Connecting -/

theorem mem_of_profileFor {target : Option Text} {p : VpnProfile}
    (h : s.profileFor target = some p) : p.id ∈ s.ids := by
  apply List.mem_map_of_mem
  rcases Option.or_eq_some_iff.mp h with h | ⟨-, h⟩
  · exact List.mem_of_find?_eq_some h
  · exact List.mem_of_head? h

/-- The first profile stands in for one that does not exist. -/
theorem profileFor_eq_head? {target : Option Text} {id : Text} (htarget : id ∈ Ecma.truthy target)
    (hmissing : id ∉ s.ids) : s.profileFor target = s.profiles.head? := by
  have hnone : s.profiles.find? (·.id = id) = none := by
    simpa [ids] using hmissing
  simp [profileFor, Option.mem_def.mp htarget, hnone]

theorem profileFor_id_ne_nil_iff (h : Selects s.ids s.activeProfileId) {target : Option Text}
    {p : VpnProfile} (hp : s.profileFor target = some p) :
    p.id ≠ [] ↔ ∀ id ∈ Ecma.truthy target, id ∉ s.ids → ∀ p ∈ s.profiles.head?, p.id ≠ [] := by
  have hne : s.ids ≠ [] := List.ne_nil_of_mem (mem_of_profileFor hp)
  have hactive : s.activeProfileId ≠ [] := (selects_of_mem (h.mem hne)).mp h
  cases htarget : Ecma.truthy target with
  | none =>
      refine iff_of_true ?_ (by simp)
      obtain ⟨q, hq, hid⟩ := List.mem_map.mp (h.mem hne)
      have hsome : (s.profiles.find? (·.id = s.activeProfileId)).isSome := by
        simpa using ⟨q, hq, hid⟩
      obtain ⟨r, hr⟩ := Option.isSome_iff_exists.mp hsome
      obtain rfl : r = p := by simpa [profileFor, htarget, hr] using hp
      have hrid : r.id = s.activeProfileId := by simpa using List.find?_some hr
      rwa [hrid]
  | some id =>
      cases hfound : s.profiles.find? (·.id = id) with
      | some q =>
          obtain rfl : q = p := by simpa [profileFor, htarget, hfound] using hp
          have hqid : q.id = id := by simpa using List.find?_some hfound
          have hmem : id ∈ s.ids := hqid ▸ mem_of_profileFor hp
          refine iff_of_true ?_ (by simp [hmem])
          rw [hqid]
          exact (Ecma.truthy_eq_some.mp htarget).2
      | none =>
          have hmissing : id ∉ s.ids := by
            simpa [ids] using hfound
          have hhead := (profileFor_eq_head? htarget hmissing).symm.trans hp
          simp [hmissing, hhead]

end VpnStore

/-! ## Steps -/

namespace StoreRun

variable {rt : TotpRuntime} {s t : StoreRun} {a : StoreAction}

/-- What an action makes of the selection. -/
inductive StepShape (s : StoreRun) : StoreAction → StoreRun → Prop where
  | stays {a : StoreAction} {t : StoreRun} (hids : t.store.ids = s.store.ids)
      (hactive : t.store.activeProfileId = s.store.activeProfileId) (hset : t.wasSet = s.wasSet)
      (hsafe : Selects s.store.ids s.store.activeProfileId → Safe s a) : StepShape s a t
  | removes {profileId : Text} {t : StoreRun} (hother : s.store.activeProfileId ≠ profileId)
      (hids : t.store.ids = s.store.ids.filter (· ≠ profileId))
      (hactive : t.store.activeProfileId = s.store.activeProfileId) (hset : t.wasSet = s.wasSet) :
      StepShape s (.deleteProfile profileId) t
  | sets {a : StoreAction} {t : StoreRun} (hset : t.wasSet = true)
      (hexact : Selects s.store.ids s.store.activeProfileId →
        (Selects t.store.ids t.store.activeProfileId ↔ Safe s a)) : StepShape s a t

theorem update_set (s : StoreRun) (store : VpnStore) : (s.update store true).wasSet = true :=
  Bool.or_true _

theorem update_kept (s : StoreRun) (store : VpnStore) :
    (s.update store false).wasSet = s.wasSet := Bool.or_false _

/-- An action that changes profiles and keeps their ids. -/
theorem stays_mapWithId {profileId : Text} {f : VpnProfile → VpnProfile}
    (hf : ∀ p, p.id = profileId → (f p).id = profileId)
    (hsafe : Selects s.store.ids s.store.activeProfileId → Safe s a) :
    StepShape s a (s.update (s.store.mapWithId profileId f) false) :=
  .stays (VpnStore.ids_mapWithId profileId hf) rfl (update_kept s _) hsafe

theorem shape_connect (rt : TotpRuntime) (now : Ecma.Number) (target override : Option Text) :
    StepShape s (.connect now target override)
      (s.update (s.store.connect rt now target override).1
        (s.store.connect rt now target override).2.isSome) := by
  unfold VpnStore.connect
  split
  · rename_i hbusy
    exact .stays rfl rfl (update_kept s _) fun _ hidle => by simp [hbusy] at hidle
  · rename_i hidle
    have hsafe {p : VpnProfile} (hp : s.store.profileFor target = some p) :
        Safe s (.connect now target override) ↔ ∀ id ∈ Ecma.truthy target, id ∉ s.store.ids →
          ∀ q ∈ s.store.profiles.head?, VpnStore.prompts p override = false → q.id ≠ [] := by
      simp only [Safe, Bool.not_eq_true _ ▸ hidle, forall_const]
      refine forall₃_congr fun id hid hmissing => forall₂_congr fun q hq => ?_
      obtain rfl : q = p := Option.some.inj
        (hq.symm.trans ((VpnStore.profileFor_eq_head? hid hmissing).symm.trans hp))
      rfl
    cases hprofile : s.store.profileFor target with
    | none =>
        refine .stays rfl rfl (update_kept s _) fun _ _ id hid hmissing p hp => ?_
        cases hp.symm.trans ((VpnStore.profileFor_eq_head? hid hmissing).symm.trans hprofile)
    | some p =>
        cases hprompts : VpnStore.prompts p override with
        | true =>
            simp only [hprompts, if_true]
            exact .stays rfl rfl (update_kept s _) fun _ =>
              (hsafe hprofile).mpr (by simp [hprompts])
        | false =>
            simp only [hprompts, Bool.false_eq_true, if_false]
            refine .sets (update_set s _) fun h => ?_
            rw [hsafe hprofile, hprompts]
            simp only [forall_const]
            exact (selects_of_mem (VpnStore.mem_of_profileFor hprofile)).trans
              (VpnStore.profileFor_id_ne_nil_iff h hprofile)

theorem step_cases (h : step rt s a = some t) : StepShape s a t := by
  cases a with
  | loadStorage force =>
      simp only [step] at h
      split at h
      · obtain rfl := Option.some.inj h
        exact .stays rfl rfl rfl fun _ => trivial
      · obtain rfl := Option.some.inj h
        exact .stays rfl rfl rfl fun _ => trivial
  | snapshotArrives snapshot =>
      simp only [step] at h
      split at h
      · cases h
      · obtain rfl := Option.some.inj h
        cases snapshot with
        | none => exact .stays rfl rfl (update_kept s s.store) fun _ _ => nofun
        | some snapshot =>
            refine .sets (update_set s (s.store.loadSnapshot snapshot)) fun _ => ?_
            exact (VpnStore.selects_loadSnapshot_iff s.store snapshot).trans (by simp [Safe])
  | loadReturns =>
      simp only [step] at h
      split at h
      · cases h
      · obtain rfl := Option.some.inj h
        exact .stays rfl rfl rfl fun _ => trivial
  | addProfile profile secret =>
      obtain rfl := Option.some.inj h
      refine .sets (update_set s _) fun _ => ?_
      rw [Safe, ← VpnStore.fullProfile_id profile secret]
      exact selects_of_mem List.mem_cons_self
  | updateProfile profile secret =>
      obtain rfl := Option.some.inj h
      exact stays_mapWithId (fun _ _ => rfl) fun _ => trivial
  | deleteProfile profileId =>
      obtain rfl := Option.some.inj h
      by_cases hactive : s.store.activeProfileId = profileId
      · refine .sets (by simp [update, hactive]) fun h => ?_
        exact (VpnStore.selects_deleteProfile_iff h hactive).trans (by simp [Safe, hactive])
      · refine .removes hactive (VpnStore.ids_deleteProfile s.store profileId) (if_neg hactive) ?_
        simp [update, hactive]
  | selectProfile profileId =>
      simp only [step] at h
      split at h
      · rename_i hmem
        obtain rfl := Option.some.inj h
        exact .sets (update_set s _) fun _ => selects_of_mem hmem
      · cases h
  | connect now target override =>
      obtain rfl := Option.some.inj h
      exact shape_connect rt now target override
  | toggleFavorite profileId =>
      obtain rfl := Option.some.inj h
      exact stays_mapWithId (fun _ hp => hp) fun _ => trivial
  | hostPinged profileId pingMs =>
      obtain rfl := Option.some.inj h
      exact stays_mapWithId (fun _ hp => hp) fun _ => trivial
  | metricsArrive pingMs =>
      obtain rfl := Option.some.inj h
      unfold VpnStore.setActivePing
      split
      · exact .stays rfl rfl (update_kept s _) fun _ => trivial
      · exact stays_mapWithId (fun _ hp => hp) fun _ => trivial
  | connectionChanges connectionState =>
      obtain rfl := Option.some.inj h
      exact .stays rfl rfl (update_kept s _) fun _ => trivial
  | promptCloses =>
      obtain rfl := Option.some.inj h
      exact .stays rfl rfl (update_kept s _) fun _ => trivial

/-! ## Runs -/

/-- Before the active profile has been set there are no profiles. -/
def Fresh (s : StoreRun) : Prop :=
  s.wasSet = false → s.store.ids = [] ∧ s.store.activeProfileId = []

theorem activeExists_iff (h : Fresh s) :
    ActiveExists s ↔ Selects s.store.ids s.store.activeProfileId := by
  unfold Selects
  split
  · rename_i hactive
    constructor
    · intro hexists
      rcases hexists.never_set_or_none hactive with hset | hnone
      · exact (h hset).1
      · exact VpnStore.ids_eq_nil.mpr hnone
    · intro hids
      exact ⟨.inl hactive, fun _ => .inr (VpnStore.ids_eq_nil.mp hids)⟩
  · rename_i hactive
    constructor
    · intro hexists
      exact hexists.exists_or_empty.resolve_left hactive
    · intro hmem
      exact ⟨.inr hmem, fun hempty => absurd hempty hactive⟩

theorem Fresh.step (h : Fresh s) (hstep : step rt s a = some t) : Fresh t := by
  intro hunset
  cases step_cases hstep with
  | stays hids hactive hset _ =>
      rw [hids, hactive]
      exact h (hset.symm.trans hunset)
  | removes _ hids hactive hset =>
      obtain ⟨hnone, hempty⟩ := h (hset.symm.trans hunset)
      exact ⟨by rw [hids, hnone, List.filter_nil], hactive.trans hempty⟩
  | sets hset _ => cases hset.symm.trans hunset

/-- A step keeps the active profile exactly if it is one of those that are meant. -/
theorem selects_step_iff (hstep : step rt s a = some t)
    (h : Selects s.store.ids s.store.activeProfileId) :
    Selects t.store.ids t.store.activeProfileId ↔ Safe s a := by
  cases step_cases hstep with
  | stays hids hactive _ hsafe =>
      rw [hids, hactive]
      exact iff_of_true h (hsafe h)
  | removes hother hids hactive _ =>
      rw [hids, hactive]
      exact iff_of_true (h.filter_ne hother) fun heq => absurd heq hother
  | sets _ hexact => exact hexact h

/-- In every run of the store, the active profile exists in all states exactly if no action selects
an empty id and the active profile is never deleted while it is the first. -/
theorem active_exists_iff_safe (rt : TotpRuntime) (actions : List StoreAction) :
    Transition.Holds (step rt) ActiveExists {} actions ↔
      Transition.Meets (step rt) Safe {} actions := by
  have hfresh : Fresh {} := fun _ => ⟨rfl, rfl⟩
  refine Transition.holds_iff_meets (fun _ _ _ hstep h => h.step hstep) ?_ hfresh
    ((activeExists_iff hfresh).mpr selects_nil)
  intro s a t hstep hs hexists
  rw [activeExists_iff (hs.step hstep)]
  exact selects_step_iff hstep ((activeExists_iff hs).mp hexists)

/-- Two profiles are added, and the newer one is deleted: it is the first, and stays active. -/
theorem active_not_always_exists :
    ¬ ∀ (rt : TotpRuntime) (actions : List StoreAction),
      Transition.Holds (step rt) ActiveExists {} actions := by
  intro hclaim
  have hcheck : (Transition.runList (step Sample.runtime) (fun _ _ => True) {} [
      .addProfile (Sample.profile "office".toList) none,
      .addProfile (Sample.profile "home".toList) none,
      .deleteProfile "home".toList]).any (fun s =>
        !(s.store.activeProfileId.isEmpty || s.store.activeProfileId ∈ s.store.ids)) = true := by
    decide
  obtain ⟨s, run, hgone⟩ := Transition.exists_run_of_any hcheck
  have hexists := ((hclaim Sample.runtime _).last run).exists_or_empty
  simp at hgone
  exact hexists.elim hgone.1 hgone.2

end StoreRun

end VpnHub.App
