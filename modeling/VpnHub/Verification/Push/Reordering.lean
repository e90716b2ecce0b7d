import VpnHub.Library.Reordering
import VpnHub.Verification.Push.Escaping
import VpnHub.Verification.Push.Options

/-! The order of the options in a `PUSH_REPLY`: a route takes the gateway and the metric that were
pushed before it, and of the two redirections the last one counts. -/

namespace VpnHub.Config

open PushOptions

variable {α : Type} {items items' : List Text} {item verb : Text}

/-- The verb of an item, as the parser compares it. -/
def verbOf (item : Text) : Option Text :=
  (Text.splitWhitespace item).head?.map Text.toAsciiLowercase

/-- The arguments of the items with the verb. -/
def argsOf (verb : Text) (items : List Text) : List (List Text) :=
  (items.filter (verbOf · = some verb)).map fun item => (Text.splitWhitespace item).tail

/-- Some option with the verb has a first argument that can be read. -/
def Sets {γ : Type} (verb : Text) (read : Text → Option γ) (items : List Text) : Prop :=
  ∃ args ∈ argsOf verb items, (firstArg args read).isSome = true

/-- Every valid option with the verb has an argument of its own in place `i`. -/
def OwnAt {γ δ : Type} (verb : Text) (valid : Text → Option γ) (i : ℕ) (read : Text → Option δ)
    (items : List Text) : Prop :=
  ∀ args ∈ argsOf verb items, (firstArg args valid).isSome = true →
    (argAt args i read).isSome = true

/-- No route waits for a gateway or a metric that the reply pushes, and the two redirections, where
both are there, agree. -/
structure OrderFree (items : List Text) : Prop where
  gateway : Sets "route-gateway".toList IpAddr.parseIpv4 items →
    OwnAt "route".toList IpAddr.parseIpv4 2 IpAddr.parseIpv4 items
  metric : Sets "route-metric".toList Text.parseU32 items →
    OwnAt "route".toList IpAddr.parseIpv4 3 Text.parseU32 items ∧
      OwnAt "route-ipv6".toList (ipv6WithPrefix · 128) 2 Text.parseU32 items
  redirect : ∀ args ∈ (argsOf "redirect-gateway".toList items).getLast?,
    ∀ args' ∈ (argsOf "redirect-private".toList items).getLast?,
      RedirectGatewayFlags.fromArgs args = RedirectGatewayFlags.fromArgs args'

/-! ## One item -/

theorem argsOf_cons_of_verb (h : verbOf item = some verb) (items : List Text) :
    argsOf verb (item :: items) = (Text.splitWhitespace item).tail :: argsOf verb items := by
  simp [argsOf, h]

theorem argsOf_cons_of_ne (h : verbOf item ≠ some verb) (items : List Text) :
    argsOf verb (item :: items) = argsOf verb items := by
  simp [argsOf, h]

theorem argsOf_eq (h : Reordered verbOf items items') (verb : Text) :
    argsOf verb items = argsOf verb items' := by
  rw [argsOf, argsOf, h.filter_eq]

theorem applyItem_of_verb (h : verbOf item = some verb) (o : PushOptions) :
    o.applyItem item = o.apply verb (Text.splitWhitespace item).tail := by
  cases hwords : Text.splitWhitespace item with
  | nil => simp [verbOf, hwords] at h
  | cons word args =>
      rw [verbOf, hwords] at h
      obtain rfl := Option.some.inj h
      simp only [applyItem, hwords, List.tail_cons]

theorem applyItem_of_none (h : verbOf item = none) (o : PushOptions) : o.applyItem item = o := by
  cases hwords : Text.splitWhitespace item with
  | nil => simp only [applyItem, hwords]
  | cons word args => simp [verbOf, hwords] at h

section Item

variable {β : Type} {read : PushOptions → β}

theorem read_applyItem_of_ne
    (hframe : ∀ o verb' args, verb' ≠ verb → read (o.apply verb' args) = read o)
    (h : verbOf item ≠ some verb) (o : PushOptions) : read (o.applyItem item) = read o := by
  cases hitem : verbOf item with
  | none => rw [applyItem_of_none hitem]
  | some verb' =>
      rw [applyItem_of_verb hitem]
      refine hframe o verb' _ ?_
      rintro rfl
      exact h hitem

/-- What one verb sets by itself is the same in every order. -/
theorem read_eq_of_reordered
    (hframe : ∀ {verb' o o'}, Frame verb' o o' → verb' ≠ verb → read o' = read o)
    (halone : ∀ {o p o' p'}, Alone o p o' p' → read o = read p → read o' = read p')
    (h : Reordered verbOf items items') :
    read (items.foldl applyItem {}) = read (items'.foldl applyItem {}) := by
  have hframe : ∀ o verb' args, verb' ≠ verb → read (PushOptions.apply o verb' args) = read o :=
    fun o verb' args => hframe (frame_apply o verb' args)
  refine h.read_foldl_eq (fun o item => (read_applyItem_of_ne hframe · o)) ?_ {}
  intro o p item hsame
  cases hitem : verbOf item with
  | none => rw [applyItem_of_none hitem, applyItem_of_none hitem, hsame]
  | some verb =>
      rw [applyItem_of_verb hitem, applyItem_of_verb hitem]
      exact halone (alone_apply o p verb _) hsame

end Item

/-! ## A setting that others fall back on -/

/-- The last valid option with the verb is what `read` reads. -/
structure ReadsSetting {γ : Type} (read : PushOptions → Option γ) (verb : Text)
    (valid : Text → Option γ) : Prop where
  frame : ∀ o verb' args, verb' ≠ verb → read (o.apply verb' args) = read o
  own : ∀ o args, read (apply o verb args) = (firstArg args valid).or (read o)

theorem readsSetting_gateway :
    ReadsSetting (·.routeGateway) "route-gateway".toList IpAddr.parseIpv4 := by
  refine ⟨fun o verb' args => (frame_apply o verb' args).routeGateway, fun o args => ?_⟩
  unfold PushOptions.apply
  rw [if_neg (by decide), if_neg (by decide), if_neg (by decide), if_pos rfl]
  cases firstArg args IpAddr.parseIpv4 with
  | some gw => rfl
  | none => rfl

theorem readsSetting_metric : ReadsSetting (·.routeMetric) "route-metric".toList Text.parseU32 := by
  refine ⟨fun o verb' args => (frame_apply o verb' args).routeMetric, fun o args => ?_⟩
  unfold PushOptions.apply
  rw [if_neg (by decide), if_neg (by decide), if_neg (by decide), if_neg (by decide), if_pos rfl]
  cases firstArg args Text.parseU32 with
  | some m => rfl
  | none => rfl

section Setting

variable {γ : Type} {read : PushOptions → Option γ} {valid : Text → Option γ}

theorem Sets.cons (h : Sets verb valid items) (item : Text) : Sets verb valid (item :: items) := by
  obtain ⟨args, hmem, hvalid⟩ := h
  obtain ⟨other, hother, rfl⟩ := List.mem_map.mp hmem
  obtain ⟨hother, hverb⟩ := List.mem_filter.mp hother
  exact ⟨_, List.mem_map_of_mem
    (List.mem_filter.mpr ⟨List.mem_cons_of_mem _ hother, hverb⟩), hvalid⟩

/-- An item that does not set the value leaves it. -/
theorem ReadsSetting.keeps (h : ReadsSetting read verb valid)
    (hnot : ¬ Sets verb valid (item :: items)) (o : PushOptions) :
    read (o.applyItem item) = read o := by
  by_cases hitem : verbOf item = some verb
  · have hinvalid : firstArg (Text.splitWhitespace item).tail valid = none := by
      rw [← Option.not_isSome_iff_eq_none]
      intro hvalid
      exact hnot ⟨_, by rw [argsOf_cons_of_verb hitem]; exact List.mem_cons_self, hvalid⟩
    rw [applyItem_of_verb hitem, h.own, hinvalid, Option.none_or]
  · exact read_applyItem_of_ne h.frame hitem o

theorem ReadsSetting.isSome_foldl_of_isSome (h : ReadsSetting read verb valid) (items : List Text)
    {o : PushOptions} (ho : (read o).isSome = true) :
    (read (items.foldl applyItem o)).isSome = true := by
  induction items generalizing o with
  | nil => exact ho
  | cons item items ih =>
      refine ih ?_
      by_cases hitem : verbOf item = some verb
      · rw [applyItem_of_verb hitem, h.own, Option.isSome_or, ho, Bool.or_true]
      · rw [read_applyItem_of_ne h.frame hitem]
        exact ho

theorem ReadsSetting.isSome_foldl (h : ReadsSetting read verb valid) (hsets : Sets verb valid items)
    (o : PushOptions) : (read (items.foldl applyItem o)).isSome = true := by
  induction items generalizing o with
  | nil =>
      obtain ⟨args, hmem, -⟩ := hsets
      cases hmem
  | cons item items ih =>
      obtain ⟨args, hmem, hvalid⟩ := hsets
      by_cases hitem : verbOf item = some verb
      · rw [argsOf_cons_of_verb hitem] at hmem
        rcases List.mem_cons.mp hmem with rfl | hmem
        · refine h.isSome_foldl_of_isSome items ?_
          rw [applyItem_of_verb hitem, h.own, Option.isSome_or, hvalid, Bool.true_or]
        · exact ih ⟨args, hmem, hvalid⟩ _
      · rw [argsOf_cons_of_ne hitem] at hmem
        exact ih ⟨args, hmem, hvalid⟩ _

end Setting

/-! ## Routes -/

/-- The routes of one address family: `make` builds the route from the gateway and the metric that
hold at that point, and the arguments. -/
structure ReadsRoutes {β : Type} (read : PushOptions → List β) (verb : Text)
    (make : Option Ipv4Addr → Option UInt32 → List Text → Option β) : Prop where
  frame : ∀ o verb' args, verb' ≠ verb → read (o.apply verb' args) = read o
  own : ∀ o args,
    read (apply o verb args) = read o ++ (make o.routeGateway o.routeMetric args).toList

def routeV4Of (gateway : Option Ipv4Addr) (metric : Option UInt32) (args : List Text) :
    Option Ipv4Route :=
  (firstArg args IpAddr.parseIpv4).map fun dest => {
    destination := dest
    netmask := (argAt args 1 IpAddr.parseIpv4).getD ipv4HostMask
    gateway := (argAt args 2 IpAddr.parseIpv4).or gateway
    metric := (argAt args 3 Text.parseU32).or metric }

def routeV6Of (metric : Option UInt32) (args : List Text) : Option Ipv6Route :=
  (firstArg args (ipv6WithPrefix · 128)).map fun dest => {
    destination := dest.1
    prefixLen := dest.2
    gateway := argAt args 1 IpAddr.parseIpv6
    metric := (argAt args 2 Text.parseU32).or metric }

theorem readsRoutes_v4 : ReadsRoutes (·.routesV4) "route".toList routeV4Of := by
  refine ⟨fun o verb' args => (frame_apply o verb' args).routesV4, fun o args => ?_⟩
  unfold PushOptions.apply
  rw [if_neg (by decide), if_neg (by decide), if_neg (by decide), if_neg (by decide),
    if_neg (by decide), if_pos rfl, routeV4Of]
  cases firstArg args IpAddr.parseIpv4 with
  | some dest => rfl
  | none => simp

theorem readsRoutes_v6 : ReadsRoutes (·.routesV6) "route-ipv6".toList fun _ => routeV6Of := by
  refine ⟨fun o verb' args => (frame_apply o verb' args).routesV6, fun o args => ?_⟩
  unfold PushOptions.apply
  rw [if_neg (by decide), if_neg (by decide), if_neg (by decide), if_neg (by decide),
    if_neg (by decide), if_neg (by decide), if_pos rfl, routeV6Of]
  cases firstArg args (ipv6WithPrefix · 128) with
  | some dest => rfl
  | none => simp

/-- The value stays what it is, as no item sets it. -/
def Holds {γ : Type} (current value : Option γ) (verb : Text) (valid : Text → Option γ)
    (items : List Text) : Prop :=
  current = value ∧ ¬ Sets verb valid items

theorem Holds.tail {γ : Type} {read : PushOptions → Option γ} {valid : Text → Option γ}
    {value : Option γ} {o : PushOptions} (hreads : ReadsSetting read verb valid)
    (h : Holds (read o) value verb valid (item :: items)) :
    Holds (read (o.applyItem item)) value verb valid items :=
  ⟨(hreads.keeps h.2 o).trans h.1, fun hsets => h.2 (hsets.cons item)⟩

section Routes

variable {β : Type} {read : PushOptions → List β}
  {make : Option Ipv4Addr → Option UInt32 → List Text → Option β} {gateway : Option Ipv4Addr}
  {metric : Option UInt32}

/-- Every route gets the gateway and the metric that hold all along, unless it needs none. -/
theorem ReadsRoutes.foldl (h : ReadsRoutes read verb make) {o : PushOptions}
    (hgateway : Holds o.routeGateway gateway "route-gateway".toList IpAddr.parseIpv4 items ∨
      ∀ args ∈ argsOf verb items, ∀ g g' m, make g m args = make g' m args)
    (hmetric : Holds o.routeMetric metric "route-metric".toList Text.parseU32 items ∨
      ∀ args ∈ argsOf verb items, ∀ g m m', make g m args = make g m' args) :
    read (items.foldl applyItem o) =
      read o ++ (argsOf verb items).filterMap (make gateway metric) := by
  induction items generalizing o with
  | nil => simp [argsOf]
  | cons item items ih =>
      have hsub : ∀ args ∈ argsOf verb items, args ∈ argsOf verb (item :: items) := by
        intro args hargs
        by_cases hitem : verbOf item = some verb
        · rw [argsOf_cons_of_verb hitem]
          exact List.mem_cons_of_mem _ hargs
        · rw [argsOf_cons_of_ne hitem]
          exact hargs
      have hrest := ih
        (hgateway.imp (·.tail readsSetting_gateway) fun hown args hargs =>
          hown args (hsub args hargs))
        (hmetric.imp (·.tail readsSetting_metric) fun hown args hargs =>
          hown args (hsub args hargs))
      rw [List.foldl_cons, hrest]
      by_cases hitem : verbOf item = some verb
      · have hhead : (Text.splitWhitespace item).tail ∈ argsOf verb (item :: items) := by
          rw [argsOf_cons_of_verb hitem]
          exact List.mem_cons_self
        have hmade : make o.routeGateway o.routeMetric (Text.splitWhitespace item).tail =
            make gateway metric (Text.splitWhitespace item).tail := by
          have hfirst : make o.routeGateway o.routeMetric (Text.splitWhitespace item).tail =
              make gateway o.routeMetric (Text.splitWhitespace item).tail := by
            rcases hgateway with hgateway | hgateway
            · rw [hgateway.1]
            · exact hgateway _ hhead _ _ _
          rcases hmetric with hmetric | hmetric
          · rw [hfirst, hmetric.1]
          · exact hfirst.trans (hmetric _ hhead _ _ _)
        rw [applyItem_of_verb hitem, h.own, hmade, argsOf_cons_of_verb hitem, List.append_assoc]
        cases hroute : make gateway metric (Text.splitWhitespace item).tail with
        | some route => rw [List.filterMap_cons_some hroute]; rfl
        | none => rw [List.filterMap_cons_none hroute]; rfl
      · rw [read_applyItem_of_ne h.frame hitem, argsOf_cons_of_ne hitem]

/-- Without a route that waits for a pushed value, every route is what its arguments say. -/
theorem ReadsRoutes.foldl_of_own (h : ReadsRoutes read verb make)
    (hgateway : Sets "route-gateway".toList IpAddr.parseIpv4 items →
      ∀ args ∈ argsOf verb items, ∀ g g' m, make g m args = make g' m args)
    (hmetric : Sets "route-metric".toList Text.parseU32 items →
      ∀ args ∈ argsOf verb items, ∀ g m m', make g m args = make g m' args) :
    read (items.foldl applyItem {}) =
      read {} ++ (argsOf verb items).filterMap (make none none) := by
  refine h.foldl ?_ ?_
  · by_cases hsets : Sets "route-gateway".toList IpAddr.parseIpv4 items
    · exact .inr (hgateway hsets)
    · exact .inl ⟨rfl, hsets⟩
  · by_cases hsets : Sets "route-metric".toList Text.parseU32 items
    · exact .inr (hmetric hsets)
    · exact .inl ⟨rfl, hsets⟩

theorem not_sets_filter {γ : Type} {valid : Text → Option γ} {other : Text} (hne : other ≠ verb)
    (items : List Text) : ¬ Sets other valid (items.filter (verbOf · = some verb)) := by
  rintro ⟨args, hmem, -⟩
  obtain ⟨item, hitem, -⟩ := List.mem_map.mp hmem
  obtain ⟨hitem, hother⟩ := List.mem_filter.mp hitem
  have hverb := of_decide_eq_true (List.mem_filter.mp hitem).2
  exact hne (Option.some.inj ((of_decide_eq_true hother).symm.trans hverb))

/-- Routes at the front and routes at the end of the reply: when every order gives the same, the
pushed gateway and metric make no difference. -/
theorem ReadsRoutes.make_eq (h : ReadsRoutes read verb make) (hempty : read {} = [])
    (hgateway : "route-gateway".toList ≠ verb) (hmetric : "route-metric".toList ≠ verb)
    (hsame : ∀ items', Reordered verbOf items items' →
      items'.foldl applyItem {} = items.foldl applyItem {}) :
    (argsOf verb items).filterMap (make none none) =
      (argsOf verb items).filterMap (make (items.foldl applyItem {}).routeGateway
        (items.foldl applyItem {}).routeMetric) := by
  have hroutes : ∀ o : PushOptions,
      read ((items.filter (verbOf · = some verb)).foldl applyItem o) =
        read o ++ (argsOf verb items).filterMap (make o.routeGateway o.routeMetric) := by
    intro o
    rw [h.foldl (.inl ⟨rfl, not_sets_filter hgateway items⟩)
      (.inl ⟨rfl, not_sets_filter hmetric items⟩)]
    simp [argsOf, List.filter_filter]
  have hothers : ∀ o : PushOptions,
      read ((items.filter fun item => ¬ verbOf item = some verb).foldl applyItem o) = read o :=
    read_foldl_of_forall fun o item hitem =>
      read_applyItem_of_ne h.frame (by simpa using (List.mem_filter.mp hitem).2) o
  have hfirst := hsame _ (.moveFirst verbOf (some verb) items)
  have hlast := hsame _ (.moveLast verbOf (some verb) items)
  rw [List.foldl_append] at hfirst hlast
  generalize hbefore : (items.filter fun item => ¬ verbOf item = some verb).foldl applyItem {} =
    before at hlast
  have hsettings : before.routeGateway = (items.foldl applyItem {}).routeGateway ∧
      before.routeMetric = (items.foldl applyItem {}).routeMetric := by
    rw [← hlast]
    refine ⟨(read_foldl_of_forall ?_ before).symm,
      (read_foldl_of_forall ?_ before).symm⟩
    all_goals
      intro o item hitem
      have hitem := of_decide_eq_true (List.mem_filter.mp hitem).2
      rw [applyItem_of_verb hitem]
    · exact (frame_apply o verb _).routeGateway hgateway.symm
    · exact (frame_apply o verb _).routeMetric hmetric.symm
  have hempty' : read before = [] := by
    rw [← hbefore, hothers, hempty]
  have hread := congrArg read (hfirst.trans hlast.symm)
  rw [hothers, hroutes, hroutes, hempty, hempty', hsettings.1, hsettings.2] at hread
  simpa using hread

end Routes

/-! ## Redirection -/

/-- An item that replaces the redirection. -/
def redirects (item : Text) : Bool :=
  verbOf item = some "redirect-gateway".toList ∨ verbOf item = some "redirect-private".toList

def redirectOf (item : Text) : RedirectGatewayFlags :=
  RedirectGatewayFlags.fromArgs (Text.splitWhitespace item).tail

theorem redirectGateway_applyItem (item : Text) (o : PushOptions) :
    (o.applyItem item).redirectGateway =
      if redirects item then some (redirectOf item) else o.redirectGateway := by
  by_cases h : redirects item = true
  · rw [if_pos h]
    rcases of_decide_eq_true h with hitem | hitem
    · rw [applyItem_of_verb hitem]
      rfl
    · rw [applyItem_of_verb hitem]
      rfl
  · rw [if_neg h]
    cases hitem : verbOf item with
    | none => rw [applyItem_of_none hitem]
    | some verb =>
        rw [applyItem_of_verb hitem]
        refine (frame_apply o verb _).redirectGateway fun hverb => h (decide_eq_true ?_)
        rw [hitem]
        exact hverb.imp (congrArg some) (congrArg some)

theorem redirectGateway_foldl (items : List Text) :
    (items.foldl applyItem {}).redirectGateway =
      (items.filter redirects).getLast?.map redirectOf := by
  induction items using List.reverseRecOn with
  | nil => rfl
  | append_singleton items item ih =>
      rw [List.foldl_concat, redirectGateway_applyItem, List.filter_append]
      by_cases h : redirects item = true
      · simp [h]
      · simp [h, ih]

theorem redirects_of_verb (h : verbOf item = some verb)
    (hverb : verb = "redirect-gateway".toList ∨ verb = "redirect-private".toList) :
    redirects item = true :=
  decide_eq_true (hverb.imp (h.trans <| congrArg some ·) (h.trans <| congrArg some ·))

theorem getLast?_argsOf (verb : Text) (items : List Text) :
    (argsOf verb items).getLast? = (items.filter (verbOf · = some verb)).getLast?.map
      fun item => (Text.splitWhitespace item).tail := by
  rw [argsOf, List.getLast?_map]

/-- The last redirection is the last one with its verb. -/
theorem tail_mem_getLast? (h : (items.filter redirects).getLast? = some item)
    (hitem : verbOf item = some verb)
    (hverb : verb = "redirect-gateway".toList ∨ verb = "redirect-private".toList) :
    (Text.splitWhitespace item).tail ∈ (argsOf verb items).getLast? := by
  have hsub : items.filter (verbOf · = some verb) =
      (items.filter redirects).filter (verbOf · = some verb) := by
    rw [List.filter_filter]
    refine List.filter_congr fun other _ => ?_
    by_cases hother : verbOf other = some verb
    · simp [hother, redirects_of_verb hother hverb]
    · simp [hother]
  obtain ⟨front, hfront⟩ := List.getLast?_eq_some_iff.mp h
  rw [getLast?_argsOf, hsub, hfront, List.filter_append]
  simp [hitem]

theorem OrderFree.redirectOf_eq (hfree : OrderFree items) (h : Reordered verbOf items items')
    {item' : Text} (hlast : (items.filter redirects).getLast? = some item)
    (hlast' : (items'.filter redirects).getLast? = some item') :
    redirectOf item = redirectOf item' := by
  have hverb := of_decide_eq_true (List.mem_filter.mp (List.mem_of_getLast? hlast)).2
  have hverb' := of_decide_eq_true (List.mem_filter.mp (List.mem_of_getLast? hlast')).2
  rcases hverb with hverb | hverb
  · have hmem := tail_mem_getLast? hlast hverb (.inl rfl)
    rcases hverb' with hverb' | hverb'
    · have hmem' := tail_mem_getLast? hlast' hverb' (.inl rfl)
      rw [← argsOf_eq h] at hmem'
      exact congrArg RedirectGatewayFlags.fromArgs (Option.mem_unique hmem hmem')
    · have hmem' := tail_mem_getLast? hlast' hverb' (.inr rfl)
      rw [← argsOf_eq h] at hmem'
      exact hfree.redirect _ hmem _ hmem'
  · have hmem := tail_mem_getLast? hlast hverb (.inr rfl)
    rcases hverb' with hverb' | hverb'
    · have hmem' := tail_mem_getLast? hlast' hverb' (.inl rfl)
      rw [← argsOf_eq h] at hmem'
      exact (hfree.redirect _ hmem' _ hmem).symm
    · have hmem' := tail_mem_getLast? hlast' hverb' (.inr rfl)
      rw [← argsOf_eq h] at hmem'
      exact congrArg RedirectGatewayFlags.fromArgs (Option.mem_unique hmem hmem')

/-- Where the two redirections agree, the last of both is the same in every order. -/
theorem OrderFree.redirectGateway_eq (hfree : OrderFree items) (h : Reordered verbOf items items') :
    (items.foldl applyItem {}).redirectGateway = (items'.foldl applyItem {}).redirectGateway := by
  rw [redirectGateway_foldl, redirectGateway_foldl]
  have hperm := h.perm.filter redirects
  cases hlast : (items.filter redirects).getLast? with
  | none =>
      rw [List.getLast?_eq_none_iff.mp hlast] at hperm
      rw [← hperm.nil_eq]
      rfl
  | some item =>
      cases hlast' : (items'.filter redirects).getLast? with
      | none =>
          rw [List.getLast?_eq_none_iff.mp hlast'] at hperm
          rw [hperm.eq_nil] at hlast
          cases hlast
      | some item' => rw [Option.map_some, Option.map_some, hfree.redirectOf_eq h hlast hlast']

/-- With one of the redirections at the end, the last of these counts. -/
theorem redirectGateway_moveLast {args : List Text}
    (hverb : verb = "redirect-gateway".toList ∨ verb = "redirect-private".toList)
    (hlast : args ∈ (argsOf verb items).getLast?) :
    (((items.filter fun item => ¬ verbOf item = some verb) ++
      items.filter (verbOf · = some verb)).foldl applyItem {}).redirectGateway =
        some (RedirectGatewayFlags.fromArgs args) := by
  rw [getLast?_argsOf] at hlast
  obtain ⟨item, hitem, rfl⟩ := Option.map_eq_some_iff.mp hlast
  have hall : (items.filter (verbOf · = some verb)).filter redirects =
      items.filter (verbOf · = some verb) := by
    refine List.filter_eq_self.mpr fun other hother => ?_
    exact redirects_of_verb (of_decide_eq_true (List.mem_filter.mp hother).2) hverb
  rw [redirectGateway_foldl, List.filter_append, hall, List.getLast?_append, hitem]
  rfl

/-! ## The whole reply -/

theorem routeV4Of_gateway {args : List Text} (g g' : Option Ipv4Addr) (m : Option UInt32)
    (h : (firstArg args IpAddr.parseIpv4).isSome = true →
      (argAt args 2 IpAddr.parseIpv4).isSome = true) :
    routeV4Of g m args = routeV4Of g' m args := by
  unfold routeV4Of
  cases hdest : firstArg args IpAddr.parseIpv4 with
  | none => rfl
  | some dest =>
      obtain ⟨own, hown⟩ := Option.isSome_iff_exists.mp (h (by rw [hdest]; rfl))
      rw [hown]
      rfl

theorem routeV4Of_metric {args : List Text} (g : Option Ipv4Addr) (m m' : Option UInt32)
    (h : (firstArg args IpAddr.parseIpv4).isSome = true →
      (argAt args 3 Text.parseU32).isSome = true) :
    routeV4Of g m args = routeV4Of g m' args := by
  unfold routeV4Of
  cases hdest : firstArg args IpAddr.parseIpv4 with
  | none => rfl
  | some dest =>
      obtain ⟨own, hown⟩ := Option.isSome_iff_exists.mp (h (by rw [hdest]; rfl))
      rw [hown]
      rfl

theorem routeV6Of_metric {args : List Text} (m m' : Option UInt32)
    (h : (firstArg args (ipv6WithPrefix · 128)).isSome = true →
      (argAt args 2 Text.parseU32).isSome = true) :
    routeV6Of m args = routeV6Of m' args := by
  unfold routeV6Of
  cases hdest : firstArg args (ipv6WithPrefix · 128) with
  | none => rfl
  | some dest =>
      obtain ⟨own, hown⟩ := Option.isSome_iff_exists.mp (h (by rw [hdest]; rfl))
      rw [hown]
      rfl

theorem OrderFree.reordered (hfree : OrderFree items) (h : Reordered verbOf items items') :
    OrderFree items' := by
  obtain ⟨hgateway, hmetric, hredirect⟩ := hfree
  simp only [Sets, OwnAt, argsOf_eq h] at hgateway hmetric hredirect
  exact ⟨hgateway, hmetric, hredirect⟩

theorem OrderFree.routesV4_eq (hfree : OrderFree items) :
    (items.foldl applyItem {}).routesV4 =
      (argsOf "route".toList items).filterMap (routeV4Of none none) :=
  readsRoutes_v4.foldl_of_own
    (fun hsets args hargs g g' m => routeV4Of_gateway g g' m (hfree.gateway hsets args hargs))
    (fun hsets args hargs g m m' => routeV4Of_metric g m m' ((hfree.metric hsets).1 args hargs))

theorem OrderFree.routesV6_eq (hfree : OrderFree items) :
    (items.foldl applyItem {}).routesV6 =
      (argsOf "route-ipv6".toList items).filterMap (routeV6Of none) :=
  readsRoutes_v6.foldl_of_own (fun _ _ _ _ _ _ => rfl)
    (fun hsets args hargs _ m m' => routeV6Of_metric m m' ((hfree.metric hsets).2 args hargs))

/-- Options that wait for no other give the same in every order. -/
theorem OrderFree.foldl_eq (hfree : OrderFree items) (h : Reordered verbOf items items') :
    items.foldl applyItem {} = items'.foldl applyItem {} := by
  have hfree' := hfree.reordered h
  apply PushOptions.ext
  case routesV4 => rw [hfree.routesV4_eq, hfree'.routesV4_eq, argsOf_eq h]
  case routesV6 => rw [hfree.routesV6_eq, hfree'.routesV6_eq, argsOf_eq h]
  case redirectGateway => exact hfree.redirectGateway_eq h
  case customOptions =>
    refine OrdMap.ext_find? fun key => ?_
    exact (read_eq_of_reordered (fun hframe => hframe.customOptions key)
      (fun halone => halone.customOptions key) h :)
  case topology => exact (read_eq_of_reordered Frame.topology Alone.topology h :)
  case ifconfigV4 => exact (read_eq_of_reordered Frame.ifconfigV4 Alone.ifconfigV4 h :)
  case ifconfigV6 => exact (read_eq_of_reordered Frame.ifconfigV6 Alone.ifconfigV6 h :)
  case routeGateway => exact (read_eq_of_reordered Frame.routeGateway Alone.routeGateway h :)
  case routeMetric => exact (read_eq_of_reordered Frame.routeMetric Alone.routeMetric h :)
  case dnsServers => exact (read_eq_of_reordered Frame.dnsServers Alone.dnsServers h :)
  case searchDomains => exact (read_eq_of_reordered Frame.searchDomains Alone.searchDomains h :)
  case winsServers => exact (read_eq_of_reordered Frame.winsServers Alone.winsServers h :)
  case ntpServers => exact (read_eq_of_reordered Frame.ntpServers Alone.ntpServers h :)
  case blockOutsideDns =>
    exact (read_eq_of_reordered Frame.blockOutsideDns Alone.blockOutsideDns h :)
  case pingInterval => exact (read_eq_of_reordered Frame.pingInterval Alone.pingInterval h :)
  case pingRestart => exact (read_eq_of_reordered Frame.pingRestart Alone.pingRestart h :)
  case peerId => exact (read_eq_of_reordered Frame.peerId Alone.peerId h :)
  case mssFix => exact (read_eq_of_reordered Frame.mssFix Alone.mssFix h :)
  case tunMtu => exact (read_eq_of_reordered Frame.tunMtu Alone.tunMtu h :)
  case explicitExitNotify =>
    exact (read_eq_of_reordered Frame.explicitExitNotify Alone.explicitExitNotify h :)
  case authToken => exact (read_eq_of_reordered Frame.authToken Alone.authToken h :)
  case cipher => exact (read_eq_of_reordered Frame.cipher Alone.cipher h :)

section Converse

variable {β γ : Type}

theorem eq_of_filterMap_eq {f g : α → Option β} {l : List α}
    (hsome : ∀ a, (f a).isSome = (g a).isSome) (h : l.filterMap f = l.filterMap g) :
    ∀ a ∈ l, f a = g a := by
  induction l with
  | nil => simp
  | cons a l ih =>
      have ha := hsome a
      cases hf : f a with
      | none =>
          have hg : g a = none := by simpa [hf] using ha
          rw [List.filterMap_cons_none hf, List.filterMap_cons_none hg] at h
          exact List.forall_mem_cons.mpr ⟨hf.trans hg.symm, ih h⟩
      | some b =>
          obtain ⟨b', hg⟩ := Option.isSome_iff_exists.mp (by simpa [hf] using ha)
          rw [List.filterMap_cons_some hf, List.filterMap_cons_some hg] at h
          obtain ⟨hb, hrest⟩ := List.cons.inj h
          exact List.forall_mem_cons.mpr ⟨by rw [hf, hg, hb], ih hrest⟩

theorem isSome_of_or_eq {own value : Option γ} (h : own.or none = own.or value)
    (hvalue : value.isSome = true) : own.isSome = true := by
  cases own with
  | some _ => rfl
  | none =>
      obtain rfl : none = value := h
      cases hvalue

/-- Options that give the same in every order wait for no other. -/
theorem orderFree_of_same (hsame : ∀ items', Reordered verbOf items items' →
    items'.foldl applyItem {} = items.foldl applyItem {}) : OrderFree items := by
  have hv4 := eq_of_filterMap_eq (fun _ => by simp [routeV4Of])
    (readsRoutes_v4.make_eq rfl (by decide) (by decide) hsame)
  have hv6 := eq_of_filterMap_eq (fun _ => by simp [routeV6Of])
    (readsRoutes_v6.make_eq rfl (by decide) (by decide) hsame)
  refine ⟨fun hsets args hargs hvalid => ?_, fun hsets => ⟨fun args hargs hvalid => ?_,
    fun args hargs hvalid => ?_⟩, fun args hargs args' hargs' => ?_⟩
  · obtain ⟨dest, hdest⟩ := Option.isSome_iff_exists.mp hvalid
    have hroute := hv4 args hargs
    simp only [routeV4Of, hdest, Option.map_some, Option.some.injEq, Ipv4Route.mk.injEq] at hroute
    exact isSome_of_or_eq hroute.2.2.1 (readsSetting_gateway.isSome_foldl hsets {})
  · obtain ⟨dest, hdest⟩ := Option.isSome_iff_exists.mp hvalid
    have hroute := hv4 args hargs
    simp only [routeV4Of, hdest, Option.map_some, Option.some.injEq, Ipv4Route.mk.injEq] at hroute
    exact isSome_of_or_eq hroute.2.2.2 (readsSetting_metric.isSome_foldl hsets {})
  · obtain ⟨dest, hdest⟩ := Option.isSome_iff_exists.mp hvalid
    have hroute := hv6 args hargs
    simp only [routeV6Of, hdest, Option.map_some, Option.some.injEq, Ipv6Route.mk.injEq] at hroute
    exact isSome_of_or_eq hroute.2.2.2 (readsSetting_metric.isSome_foldl hsets {})
  · have hgateway := redirectGateway_moveLast (.inl rfl) hargs
    have hprivate := redirectGateway_moveLast (.inr rfl) hargs'
    rw [hsame _ (.moveLast _ _ _)] at hgateway hprivate
    exact Option.some.inj (hgateway.symm.trans hprivate)

end Converse

/-- A reply means the same in every order of its options that keeps the options of one verb in
order exactly if no route waits for a gateway or a metric that the reply pushes, and the two
redirections agree. -/
theorem order_is_free_iff (payload : Text) :
    (∀ payload', Reordered verbOf (splitPushReplyItems payload) (splitPushReplyItems payload') →
      parsePushReply payload' = parsePushReply payload) ↔
        OrderFree (splitPushReplyItems payload) := by
  constructor
  · intro hsame
    refine orderFree_of_same fun items' h => ?_
    obtain ⟨payload', rfl⟩ := exists_reply fun item hitem =>
      isItem_of_mem_split (h.perm.mem_iff.mpr hitem)
    exact Except.ok.inj (hsame payload' h)
  · intro hfree payload' h
    exact congrArg Except.ok (hfree.foldl_eq h).symm

/-- A route before the pushed gateway goes without it. -/
theorem route_before_gateway :
    ∃ payload payload',
      Reordered verbOf (splitPushReplyItems payload) (splitPushReplyItems payload') ∧
      (parsePushReply payload).map (fun o => o.routesV4.map (·.gateway)) =
        .ok [some ⟨10, 8, 0, 1⟩] ∧
      (parsePushReply payload').map (fun o => o.routesV4.map (·.gateway)) = .ok [none] := by
  refine ⟨"PUSH_REPLY,route-gateway 10.8.0.1,route 10.0.0.0 255.0.0.0".toList,
    "PUSH_REPLY,route 10.0.0.0 255.0.0.0,route-gateway 10.8.0.1".toList, ?_, by decide +kernel,
    by decide +kernel⟩
  have hsplit : splitPushReplyItems
      "PUSH_REPLY,route-gateway 10.8.0.1,route 10.0.0.0 255.0.0.0".toList =
        ["route-gateway 10.8.0.1".toList, "route 10.0.0.0 255.0.0.0".toList] := by decide +kernel
  have hsplit' : splitPushReplyItems
      "PUSH_REPLY,route 10.0.0.0 255.0.0.0,route-gateway 10.8.0.1".toList =
        ["route 10.0.0.0 255.0.0.0".toList, "route-gateway 10.8.0.1".toList] := by decide +kernel
  rw [hsplit, hsplit']
  exact .swap (by decide +kernel) []

end VpnHub.Config
