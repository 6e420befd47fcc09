import Mathlib.Data.Multiset.Filter
import Pokrov.Linux.Network.Convergence

/-!
# Policy routes are taken back exactly

The rules and routes of the kernel are multisets, one for each family, that other
software may change at any moment outside the daemon's table. A rollback that
returns nil leaves what those changes alone would have made of the initial rules
and routes, and no deletion on the way strikes anything that `Apply` did not add.
-/

namespace Pokrov.Linux.Network

open Effects Contract

/-! ## The kernel -/

/-- The rules or the routes of a family. -/
abbrev Target := Family × RouteKind

abbrev Kernel := Target → Multiset IpObject

/-- The object lies in the daemon's table. -/
def inTable (object : IpObject) : Bool := number (object.raw "table") = ownedRouteTable

/-- What `Apply` adds, as it is listed. -/
def ours (plan : Plan) (target : Target) : IpObject := printed plan target.1 target.2

/-- The command that adds or deletes it. -/
def targetArguments (action : String) (plan : Plan) (target : Target) : List String :=
  kindArguments target.2 target.1 action plan

/-- Where an addition of a rule or route of this plan goes. -/
def adds (plan : Plan) (arguments : List String) : Option Target :=
  RouteParticipant.rollbackTargets.find? fun target =>
    targetArguments "add" plan target = arguments

/-- A change that other software makes. -/
inductive Change
  | add (target : Target) (object : IpObject)
  | remove (target : Target) (object : IpObject)

def Change.object : Change → IpObject
  | add _ object => object
  | remove _ object => object

def Kernel.change (kernel : Kernel) : Change → Kernel
  | .add target object => Function.update kernel target (object ::ₘ kernel target)
  | .remove target object => Function.update kernel target ((kernel target).erase object)

/-- What a deletion strikes is the kernel's choice: some object of the table that
the command names, and it does not miss the one that the command describes. -/
structure Strikes (plan : Plan) (struck : Target → Multiset IpObject → Option IpObject) :
    Prop where
  named : ∀ target objects object, struck target objects = some object →
    object ∈ objects ∧ inTable object = true
  found : ∀ target objects, ours plan target ∈ objects → (struck target objects).isSome = true

/-- The kernel and what is known of how it came about. -/
structure Routing where
  kernel : Kernel
  /-- The initial rules and routes, changed by nobody but the others. -/
  others : Kernel
  /-- What `Apply` has added so far. -/
  added : Kernel
  /-- What the others change after each of the calls to come. -/
  changes : List (List Change)

section Routing

variable (plan : Plan) (struck : Target → Multiset IpObject → Option IpObject)

namespace Routing

/-- The others make their next changes. -/
def disturbed (w : Routing) : Routing :=
  { w with
    kernel := (w.changes.headD []).foldl Kernel.change w.kernel
    others := (w.changes.headD []).foldl Kernel.change w.others
    changes := w.changes.tail }

/-- A command takes effect. -/
def ran (w : Routing) (name : String) (arguments : List String) : Routing :=
  if name ≠ "ip" then w
  else
    match adds plan arguments, deletes plan arguments with
    | some target, _ =>
      { w with
        kernel := Function.update w.kernel target (ours plan target ::ₘ w.kernel target)
        added := Function.update w.added target (ours plan target ::ₘ w.added target) }
    | none, some target =>
      match struck target (w.kernel target) with
      | some object =>
        { w with kernel := Function.update w.kernel target ((w.kernel target).erase object) }
      | none => w
    | none, none => w

def next (w : Routing) : Event Net → Routing
  | ⟨.run name arguments _, .output _⟩ => (w.ran plan struck name arguments).disturbed
  | ⟨.run name arguments _, .failed _ applied⟩ =>
    (if applied then w.ran plan struck name arguments else w).disturbed
  | _ => w

/-- A listing shows the rules or routes there are; any command may fail. -/
def Faithful (w : Routing) : Event Net → Prop
  | ⟨.run name arguments _, .output text⟩ =>
    ∀ target : Target, name = "ip" → arguments = listArguments target.1 target.2 →
      ∃ objects : List IpObject, (objects : Multiset IpObject) = w.kernel target ∧
        ListsObjects objects text
  | _ => True

end Routing

/-- A deletion strikes only what `Apply` has added. -/
def Spares (w : Routing) : Call → Prop
  | .run name arguments _ => ∀ target object, name = "ip" →
      arguments = targetArguments "del" plan target →
      struck target (w.kernel target) = some object →
      object ∈ w.added target ∧ object ∉ w.others target
  | _ => True

def routing : Contract Net Routing where
  next := Routing.next plan struck
  rely := Routing.Faithful
  guar := fun w e => Spares plan struck w e.call

end Routing

/-! ## Commands -/

theorem printed_named (plan : Plan) (family : Family) (kind : RouteKind) :
    (printed plan family kind).raw "table" = "\"20555\"".toList ∧
      (printed plan family kind).raw "protocol" = "\"243\"".toList := by
  cases family <;> cases kind
  · exact ⟨rfl, rfl⟩
  · simp [printed, IpObject.raw, IpObject.raw?]
  · simp [printed, IpObject.raw, IpObject.raw?]
  · cases h : plan.ipv6 <;> simp [printed, IpObject.raw, IpObject.raw?, h]

theorem printed_table (plan : Plan) (family : Family) (kind : RouteKind) :
    inOwnedTable (printed plan family kind) = true := by
  obtain ⟨htable, hprotocol⟩ := printed_named plan family kind
  unfold inOwnedTable
  rw [htable, hprotocol]
  decide

theorem printed_rule (plan : Plan) (family : Family) :
    ownedRule (printed plan family .rule) plan = true := by
  have hpriority : number "20555".toList = ownedRulePriority := by decide
  unfold ownedRule
  rw [show (printed plan family .rule).raw "priority" = "20555".toList from rfl, hpriority]
  simp [printed, IpObject.raw, IpObject.raw?]

theorem printed_route (plan : Plan) (family : Family) :
    ownedRoute family (printed plan family .route) plan = true := by
  have hmetric : number "42700".toList = ownedRouteMetric := by decide
  have hscope : number ['\"', '2', '5', '3', '\"'] = 253 := by decide
  have htype : number ['\"', '7', '\"'] = 7 := by decide
  unfold ownedRoute
  cases family with
  | v4 =>
    rw [show (printed plan .v4 .route).raw "metric" = "42700".toList from rfl, hmetric]
    simp [printed, IpObject.raw, IpObject.raw?, hscope]
  | v6 =>
    have hraw : (printed plan .v6 .route).raw "metric" = "42700".toList := by
      cases h : plan.ipv6 <;> simp [printed, IpObject.raw, IpObject.raw?, h]
    rw [hraw, hmetric]
    cases h : plan.ipv6 <;> simp [printed, IpObject.raw, IpObject.raw?, h, htype]

theorem printed_object (plan : Plan) (family : Family) (kind : RouteKind) :
    ownedRouteObject kind family (printed plan family kind) plan = true := by
  cases kind with
  | rule => exact printed_rule plan family
  | route => exact printed_route plan family

theorem inTable_of_owned {object : IpObject} (h : inOwnedTable object = true) :
    inTable object = true := by
  simp only [inOwnedTable, Bool.and_eq_true] at h
  exact h.1

theorem inTable_ours (plan : Plan) (target : Target) : inTable (ours plan target) = true :=
  inTable_of_owned (printed_table plan target.1 target.2)

theorem adds_targetArguments (plan : Plan) (target : Target) :
    adds plan (targetArguments "add" plan target) = some target := by
  obtain ⟨family, kind⟩ := target
  cases family <;> cases kind <;>
    simp [adds, RouteParticipant.rollbackTargets, targetArguments, kindArguments, ruleArguments,
      routeArguments, Family.flag]

/-- Additions, deletions and listings are different commands. -/
theorem adds_del (plan : Plan) (target : Target) :
    adds plan (targetArguments "del" plan target) = none := by
  unfold adds
  rw [List.find?_eq_none]
  rintro ⟨family', kind'⟩ - heq
  obtain ⟨family, kind⟩ := target
  cases family <;> cases kind <;> cases family' <;> cases kind' <;>
    simp [targetArguments, kindArguments, ruleArguments, routeArguments, Family.flag] at heq

theorem adds_listing {plan : Plan} {arguments : List String}
    (h : arguments.take 2 = ["-N", "-j"]) : adds plan arguments = none := by
  unfold adds
  rw [List.find?_eq_none]
  rintro ⟨family, kind⟩ - heq
  rw [decide_eq_true_eq] at heq
  rw [← heq] at h
  cases family <;> cases kind <;>
    simp [targetArguments, kindArguments, ruleArguments, routeArguments, Family.flag] at h

theorem targetArguments_del {plan : Plan} {target target' : Target}
    (h : targetArguments "del" plan target = targetArguments "del" plan target') :
    target = target' := by
  have hdel := deletes_kindArguments plan target.1 target.2
  rw [show kindArguments target.2 target.1 "del" plan = targetArguments "del" plan target from rfl,
    h, show targetArguments "del" plan target' = kindArguments target'.2 target'.1 "del" plan
      from rfl, deletes_kindArguments] at hdel
  exact (Option.some.inj hdel).symm

/-! ## What the transaction has added and what it has not -/

/-- There is nothing of the transaction among these rules or routes. -/
def Routing.Bare (w : Routing) (target : Target) : Prop := w.kernel target = w.others target

/-- What is there is what the others leave, and ours at most once. -/
structure Routing.Mixed (plan : Plan) (w : Routing) : Prop where
  foreign : ∀ changes ∈ w.changes, ∀ change ∈ changes, inTable change.object = false
  outside : ∀ target, ∀ object ∈ w.others target, inTable object = false
  kernel : ∀ target, w.Bare target ∨
    w.kernel target = ours plan target ::ₘ w.others target ∧ ours plan target ∈ w.added target

section Changes

variable {plan : Plan} {struck : Target → Multiset IpObject → Option IpObject} {w w' : Routing}
  {target : Target}

theorem change_outside {kernel : Kernel} {change : Change} (hc : inTable change.object = false)
    (h : ∀ object ∈ kernel target, inTable object = false) :
    ∀ object ∈ kernel.change change target, inTable object = false := by
  intro object hmem
  cases change with
  | add target' object' =>
    by_cases htarget : target = target'
    · subst htarget
      simp only [Kernel.change, Function.update_self, Multiset.mem_cons] at hmem
      rcases hmem with rfl | hmem
      · exact hc
      · exact h object hmem
    · rw [Kernel.change, Function.update_of_ne htarget] at hmem
      exact h object hmem
  | remove target' object' =>
    by_cases htarget : target = target'
    · subst htarget
      rw [Kernel.change, Function.update_self] at hmem
      exact h object (Multiset.mem_of_mem_erase hmem)
    · rw [Kernel.change, Function.update_of_ne htarget] at hmem
      exact h object hmem

/-- A change acts on what is there beside ours. -/
theorem change_split {kernel others : Kernel} {mine : Multiset IpObject} {change : Change}
    (hmine : change.object ∉ mine) (h : kernel target = mine + others target) :
    kernel.change change target = mine + others.change change target := by
  cases change with
  | add target' object =>
    by_cases htarget : target = target'
    · subst htarget
      simp only [Kernel.change, Function.update_self, h, Multiset.add_cons]
    · simp only [Kernel.change, Function.update_of_ne htarget, h]
  | remove target' object =>
    by_cases htarget : target = target'
    · subst htarget
      simp only [Kernel.change, Function.update_self, h]
      exact Multiset.erase_add_right_neg _ hmine
    · simp only [Kernel.change, Function.update_of_ne htarget, h]

theorem changes_split {kernel others : Kernel} {mine : Multiset IpObject} {changes : List Change}
    (hmine : ∀ change ∈ changes, change.object ∉ mine)
    (h : kernel target = mine + others target) :
    changes.foldl Kernel.change kernel target =
      mine + changes.foldl Kernel.change others target := by
  induction changes generalizing kernel others with
  | nil => exact h
  | cons change changes ih =>
    exact ih (fun c hc => hmine c (List.mem_cons_of_mem _ hc))
      (change_split (hmine change List.mem_cons_self) h)

theorem changes_outside {kernel : Kernel} {changes : List Change}
    (hc : ∀ change ∈ changes, inTable change.object = false)
    (h : ∀ object ∈ kernel target, inTable object = false) :
    ∀ object ∈ changes.foldl Kernel.change kernel target, inTable object = false := by
  induction changes generalizing kernel with
  | nil => exact h
  | cons change changes ih =>
    exact ih (fun c hmem => hc c (List.mem_cons_of_mem _ hmem))
      (change_outside (hc change List.mem_cons_self) h)

theorem headD_foreign (hforeign : ∀ changes ∈ w.changes, ∀ change ∈ changes,
      inTable change.object = false) :
    ∀ change ∈ w.changes.headD [], inTable change.object = false := by
  cases h : w.changes with
  | nil => exact nofun
  | cons changes rest => exact hforeign changes (by rw [h]; exact List.mem_cons_self)

theorem Routing.Bare.disturbed (h : w.Bare target) : w.disturbed.Bare target := by
  have hsplit : w.disturbed.kernel target = 0 + w.disturbed.others target :=
    changes_split (by simp) (by rw [Multiset.zero_add]; exact h)
  rwa [Multiset.zero_add] at hsplit

theorem Routing.Mixed.disturbed (h : w.Mixed plan) : w.disturbed.Mixed plan := by
  have hhead := headD_foreign h.foreign
  refine ⟨fun changes hmem => h.foreign changes (List.mem_of_mem_tail hmem), ?_, ?_⟩
  · exact fun target => changes_outside hhead (h.outside target)
  · intro target
    rcases h.kernel target with hbare | ⟨hkernel, hadded⟩
    · exact .inl hbare.disturbed
    · refine .inr ⟨?_, hadded⟩
      rw [← Multiset.singleton_add] at hkernel ⊢
      refine changes_split (fun change hchange hmem => ?_) hkernel
      rw [Multiset.mem_singleton] at hmem
      have hout := hhead change hchange
      rw [hmem, inTable_ours] at hout
      cases hout

/-! ## The calls of the participant -/

/-- A listing leaves the kernel to the others. -/
theorem next_list (family : Family) (kind : RouteKind) (r : RunResult) :
    w.next plan struck ⟨.run "ip" (listArguments family kind) none, r⟩ = w.disturbed := by
  have htake : (listArguments family kind).take 2 = ["-N", "-j"] := rfl
  have hran : w.ran plan struck "ip" (listArguments family kind) = w := by
    unfold Routing.ran
    rw [if_neg (by simp), adds_listing htake, deletes_listing htake]
  rcases r with text | ⟨message, applied⟩
  · simp only [Routing.next, hran]
  · cases applied <;> simp [Routing.next, hran]

theorem spares_list (family : Family) (kind : RouteKind) :
    Spares plan struck w (.run "ip" (listArguments family kind) none) := by
  rintro target object - hargs -
  have hdel := deletes_kindArguments plan target.1 target.2
  rw [show kindArguments target.2 target.1 "del" plan = listArguments family kind from hargs.symm,
    deletes_listing rfl] at hdel
  cases hdel

/-- A listing, and what follows it. -/
theorem wpa_list {α : Type} {family : Family} {kind : RouteKind}
    {k : Except String (List IpObject) → Act Net RouteParticipant α}
    {Q : α → RouteParticipant → Routing → Prop} {p : RouteParticipant}
    (hfailed : ∀ message, (routing plan struck).wpa (k (.error message)) Q p w.disturbed)
    (hlisted : ∀ objects : List IpObject, (objects : Multiset IpObject) = w.kernel (family, kind) →
      (routing plan struck).wpa (k (.ok objects)) Q p w.disturbed) :
    (routing plan struck).wpa (RouteParticipant.list family kind >>= k) Q p w := by
  unfold RouteParticipant.list
  rw [wpa_bind]
  refine wpa_call fun r hrely => ⟨spares_list family kind, ?_⟩
  rw [show (routing plan struck).next w ⟨.run "ip" (listArguments family kind) none, r⟩ =
    w.disturbed from next_list family kind r]
  rcases r with text | ⟨message, applied⟩
  · obtain ⟨objects, hobjects, hlists⟩ := hrely (family, kind) rfl rfl
    dsimp only
    rw [decodeIpObjects_lists hlists]
    exact hlisted objects hobjects
  · exact hfailed message

end Changes

/-! ## `Checkpoint` -/

section Methods

variable {plan : Plan} {struck : Target → Multiset IpObject → Option IpObject} {w : Routing}

/-- Nothing has been added, and the others keep out of the table. -/
structure Routing.Before (w : Routing) : Prop where
  foreign : ∀ changes ∈ w.changes, ∀ change ∈ changes, inTable change.object = false
  bare : ∀ target, w.Bare target

theorem Routing.Before.disturbed (h : w.Before) : w.disturbed.Before :=
  ⟨fun changes hmem => h.foreign changes (List.mem_of_mem_tail hmem),
    fun target => (h.bare target).disturbed⟩

/-- The table is empty but for the transaction. -/
def Routing.Free (w : Routing) (target : Target) : Prop :=
  ∀ object ∈ w.others target, inTable object = false

theorem Routing.Free.disturbed {target : Target} (h : w.Free target) (hb : w.Before) :
    w.disturbed.Free target :=
  changes_outside (headD_foreign hb.foreign) h

/-- A family that passes has nothing in the table. -/
theorem wpa_checkpointFamily (p : RouteParticipant) (family : Family) (hb : w.Before) :
    (routing plan struck).wpa (RouteParticipant.checkpointFamily family) (fun r p' w' =>
      p' = p ∧ w'.Before ∧ (∀ target, w.Free target → w'.Free target) ∧
        (r = none → ∀ kind, w'.Free (family, kind))) p w := by
  unfold RouteParticipant.checkpointFamily
  have hb1 := hb.disturbed
  refine wpa_list (fun message => ⟨rfl, hb1, fun _ h => h.disturbed hb, nofun⟩)
    fun rules hrules => ?_
  dsimp only
  rw [wpa_ite]
  refine ⟨fun _ => ⟨rfl, hb1, fun _ h => h.disturbed hb, nofun⟩, fun hnone => ?_⟩
  have hrule : w.Free (family, .rule) := by
    intro object hmem
    rw [← hb.bare, ← hrules, Multiset.mem_coe] at hmem
    by_contra hin
    refine hnone (List.any_eq_true.mpr ⟨object, hmem, ?_⟩)
    simp only [inTable, decide_eq_false_iff_not, not_not] at hin
    simp [hin]
  refine wpa_list (fun message => ⟨rfl, hb1.disturbed,
    fun _ h => (h.disturbed hb).disturbed hb1, nofun⟩) fun routes hroutes => ?_
  dsimp only
  rw [wpa_ite]
  refine ⟨fun _ => ⟨rfl, hb1.disturbed, fun _ h => (h.disturbed hb).disturbed hb1, nofun⟩,
    fun hnone => ?_⟩
  have hroute : w.disturbed.Free (family, .route) := by
    intro object hmem
    rw [← hb1.bare, ← hroutes, Multiset.mem_coe] at hmem
    by_contra hin
    refine hnone (List.any_eq_true.mpr ⟨object, hmem, ?_⟩)
    simp only [inTable, decide_eq_false_iff_not, not_not] at hin
    simp [hin]
  refine ⟨rfl, hb1.disturbed, fun _ h => (h.disturbed hb).disturbed hb1, fun _ kind => ?_⟩
  cases kind with
  | rule => exact (hrule.disturbed hb).disturbed hb1
  | route => exact hroute.disturbed hb1

theorem wpa_routeCheckpoint (p : RouteParticipant) (hb : w.Before) :
    (routing plan struck).wpa (RouteParticipant.checkpoint plan) (fun r p' w' =>
      p' = p ∧ (r = none → w'.Before ∧ ∀ target, w'.Free target)) p w := by
  unfold RouteParticipant.checkpoint
  refine wpa_mono (wpa_untilError (J := fun rest p' w' => p' = p ∧ w'.Before ∧
    ∀ target : Target, target.1 ∉ rest → w'.Free target)
    (Q := fun _ p' _ => p' = p) families ?_ p w ⟨rfl, hb, ?_⟩) ?_
  · rintro family rest p' w' ⟨rfl, hb', hfree⟩
    refine wpa_mono (wpa_checkpointFamily p' family hb') ?_
    rintro (_ | error) p'' w'' ⟨rfl, hb'', hkept, hnew⟩
    · refine ⟨rfl, hb'', fun target hnot => ?_⟩
      by_cases heq : target.1 = family
      · obtain ⟨family', kind⟩ := target
        subst heq
        exact hnew rfl kind
      · exact hkept target (hfree target (by simp [heq, hnot]))
    · rfl
  · intro target hnot
    refine absurd ?_ hnot
    cases target.1 <;> decide
  · rintro (_ | error) p' w' h
    · exact ⟨h.1, fun _ => ⟨h.2.1, fun target => h.2.2 target (by simp)⟩⟩
    · exact ⟨h, nofun⟩

/-! ## `Apply` -/

/-- What an addition that takes effect does. -/
theorem ran_add (target : Target) :
    w.ran plan struck "ip" (targetArguments "add" plan target) =
      { w with
        kernel := Function.update w.kernel target (ours plan target ::ₘ w.kernel target)
        added := Function.update w.added target (ours plan target ::ₘ w.added target) } := by
  unfold Routing.ran
  rw [if_neg (by simp), adds_targetArguments]

theorem Routing.Mixed.add (h : w.Mixed plan) {target : Target} (hbare : w.Bare target) :
    (w.ran plan struck "ip" (targetArguments "add" plan target)).Mixed plan ∧
      ∀ target', target' ≠ target → w.Bare target' →
        (w.ran plan struck "ip" (targetArguments "add" plan target)).Bare target' := by
  rw [ran_add]
  refine ⟨⟨h.foreign, h.outside, fun target' => ?_⟩, fun target' hne hb => ?_⟩
  · by_cases heq : target' = target
    · subst heq
      refine .inr ⟨?_, ?_⟩
      · show Function.update w.kernel target' _ target' = _
        rw [Function.update_self, hbare]
      · show _ ∈ Function.update w.added target' _ target'
        rw [Function.update_self]
        exact Multiset.mem_cons_self _ _
    · rcases h.kernel target' with hb | ⟨hk, ha⟩
      · refine .inl ?_
        show Function.update w.kernel target _ target' = _
        rw [Function.update_of_ne heq]
        exact hb
      · refine .inr ⟨?_, ?_⟩
        · show Function.update w.kernel target _ target' = _
          rw [Function.update_of_ne heq, hk]
        · show _ ∈ Function.update w.added target _ target'
          rw [Function.update_of_ne heq]
          exact ha
  · show Function.update w.kernel target _ target' = _
    rw [Function.update_of_ne hne]
    exact hb

theorem spares_add (target : Target) :
    Spares plan struck w (.run "ip" (targetArguments "add" plan target) none) := by
  rintro target' object - hargs -
  have hadd := adds_targetArguments plan target
  rw [hargs, adds_del] at hadd
  cases hadd

/-- One addition, and what follows it. -/
theorem wpa_add {α : Type} {target : Target} {k : RunResult → Act Net RouteParticipant α}
    {Q : α → RouteParticipant → Routing → Prop} {p : RouteParticipant} (h : w.Mixed plan)
    (hbare : w.Bare target)
    (hk : ∀ r w', w'.Mixed plan → (∀ target', target' ≠ target → w.Bare target' →
      w'.Bare target') → (routing plan struck).wpa (k r) Q p w') :
    (routing plan struck).wpa (run "ip" (targetArguments "add" plan target) none >>= k) Q p w := by
  refine wpa_call fun r _ => ⟨spares_add target, ?_⟩
  have hadd : (w.ran plan struck "ip" (targetArguments "add" plan target)).Mixed plan ∧ _ :=
    h.add hbare
  obtain ⟨hmixed, hothers⟩ := hadd
  have hran : (w.ran plan struck "ip" (targetArguments "add" plan target)).disturbed.Mixed plan ∧
      ∀ target', target' ≠ target → w.Bare target' →
        (w.ran plan struck "ip" (targetArguments "add" plan target)).disturbed.Bare target' :=
    ⟨hmixed.disturbed, fun target' hne hb => (hothers target' hne hb).disturbed⟩
  rcases r with text | ⟨message, applied⟩
  · exact hk _ _ hran.1 hran.2
  · cases applied
    · exact hk _ _ h.disturbed fun target' _ hb => hb.disturbed
    · exact hk _ _ hran.1 hran.2

theorem wpa_applyFamily (p : RouteParticipant) (family : Family) (h : w.Mixed plan)
    (hbare : ∀ kind, w.Bare (family, kind)) :
    (routing plan struck).wpa (RouteParticipant.applyFamily plan family) (fun _ p' w' =>
      p' = p ∧ w'.Mixed plan ∧
        ∀ target : Target, target.1 ≠ family → w.Bare target → w'.Bare target) p w := by
  have hne : ∀ {target : Target} {kind : RouteKind}, target.1 ≠ family →
      target ≠ (family, kind) := by
    rintro target kind hne rfl
    exact hne rfl
  unfold RouteParticipant.applyFamily
  have hroute : w.Bare (family, .route) := hbare .route
  refine wpa_add h hroute fun r w1 h1 hothers1 => ?_
  rcases r with text | ⟨message, applied⟩
  swap
  · exact ⟨rfl, h1, fun target hfam hb => hothers1 target (hne hfam) hb⟩
  have hrule : w1.Bare (family, .rule) := hothers1 _ (by simp) (hbare .rule)
  refine wpa_add h1 hrule fun r w2 h2 hothers2 => ?_
  rcases r with text | ⟨message, applied⟩ <;>
    exact ⟨rfl, h2, fun target hfam hb =>
      hothers2 target (hne hfam) (hothers1 target (hne hfam) hb)⟩

/-- However far `Apply` comes, it adds each of its objects at most once. -/
theorem wpa_routeApply (p : RouteParticipant) (h : w.Mixed plan) (hbare : ∀ target, w.Bare target) :
    (routing plan struck).wpa (RouteParticipant.apply plan) (fun _ p' w' =>
      p'.dirty = true ∧ w'.Mixed plan) p w := by
  unfold RouteParticipant.apply
  rw [wpa_bind, wpa_modify]
  refine wpa_mono (wpa_untilError (J := fun rest p' w' => p'.dirty = true ∧ w'.Mixed plan ∧
    rest.Nodup ∧ ∀ target : Target, target.1 ∈ rest → w'.Bare target)
    (Q := fun _ p' w' => p'.dirty = true ∧ w'.Mixed plan) families ?_ _ w
    ⟨rfl, h, by decide, fun target _ => hbare target⟩) ?_
  · rintro family rest p' w' ⟨hdirty, hmixed, hnodup, hrest⟩
    rw [List.nodup_cons] at hnodup
    refine wpa_mono (wpa_applyFamily p' family hmixed fun kind =>
      hrest (family, kind) List.mem_cons_self) ?_
    rintro (_ | error) p'' w'' ⟨rfl, hmixed', hothers⟩
    · refine ⟨hdirty, hmixed', hnodup.2, fun target hmem => ?_⟩
      refine hothers target (fun heq => ?_) (hrest target (List.mem_cons_of_mem _ hmem))
      exact hnodup.1 (heq ▸ hmem)
    · exact ⟨hdirty, hmixed'⟩
  · rintro (_ | error) p' w' h'
    · exact ⟨h'.1, h'.2.1⟩
    · exact h'

/-! ## `Rollback` -/

/-- What the kernel strikes is ours: nothing else is in the table. -/
theorem Routing.Mixed.struck_ours (hstrikes : Strikes plan struck) (h : w.Mixed plan)
    {target : Target} {object : IpObject} (hstruck : struck target (w.kernel target) = some object) :
    object = ours plan target ∧ w.kernel target = ours plan target ::ₘ w.others target ∧
      ours plan target ∈ w.added target := by
  obtain ⟨hmem, hin⟩ := hstrikes.named _ _ _ hstruck
  have hout : object ∉ w.others target := fun hother => by
    rw [h.outside target object hother] at hin
    cases hin
  rcases h.kernel target with hbare | ⟨hkernel, hadded⟩
  · rw [hbare] at hmem
    exact absurd hmem hout
  · rw [hkernel, Multiset.mem_cons] at hmem
    exact ⟨hmem.resolve_right hout, hkernel, hadded⟩

theorem Routing.Mixed.spares_del (hstrikes : Strikes plan struck) (h : w.Mixed plan)
    (target : Target) :
    Spares plan struck w (.run "ip" (targetArguments "del" plan target) none) := by
  rintro target' object - hargs hstruck
  obtain rfl := targetArguments_del hargs
  obtain ⟨rfl, -, hadded⟩ := h.struck_ours hstrikes hstruck
  refine ⟨hadded, fun hother => ?_⟩
  have hout := h.outside target _ hother
  rw [inTable_ours] at hout
  cases hout

/-- What a deletion that takes effect does. -/
theorem Routing.Mixed.del (hstrikes : Strikes plan struck) (h : w.Mixed plan) (target : Target) :
    (w.ran plan struck "ip" (targetArguments "del" plan target)).Mixed plan ∧
      (w.ran plan struck "ip" (targetArguments "del" plan target)).Bare target ∧
      ∀ target', w.Bare target' →
        (w.ran plan struck "ip" (targetArguments "del" plan target)).Bare target' := by
  have hran : w.ran plan struck "ip" (targetArguments "del" plan target) =
      match struck target (w.kernel target) with
      | some object =>
        { w with kernel := Function.update w.kernel target ((w.kernel target).erase object) }
      | none => w := by
    unfold Routing.ran
    rw [if_neg (by simp), adds_del, show deletes plan (targetArguments "del" plan target) =
      some target from deletes_kindArguments plan target.1 target.2]
  rw [hran]
  cases hstruck : struck target (w.kernel target) with
  | none =>
    refine ⟨h, ?_, fun _ hb => hb⟩
    rcases h.kernel target with hbare | ⟨hkernel, -⟩
    · exact hbare
    · have hfound := hstrikes.found target (w.kernel target)
        (by rw [hkernel]; exact Multiset.mem_cons_self _ _)
      rw [hstruck] at hfound
      cases hfound
  | some object =>
    obtain ⟨rfl, hkernel, -⟩ := h.struck_ours hstrikes hstruck
    dsimp only
    have hself : Function.update w.kernel target ((w.kernel target).erase (ours plan target))
        target = w.others target := by
      rw [Function.update_self, hkernel, Multiset.erase_cons_head]
    have hothers : ∀ target', target' ≠ target → Function.update w.kernel target
        ((w.kernel target).erase (ours plan target)) target' = w.kernel target' :=
      fun target' hne => Function.update_of_ne hne _ _
    refine ⟨⟨h.foreign, h.outside, fun target' => ?_⟩, hself, fun target' hb => ?_⟩
    · by_cases heq : target' = target
      · subst heq
        exact .inl hself
      · rcases h.kernel target' with hb | ⟨hk, ha⟩
        · exact .inl ((hothers target' heq).trans hb)
        · exact .inr ⟨(hothers target' heq).trans hk, ha⟩
    · by_cases heq : target' = target
      · subst heq
        exact hself
      · exact (hothers target' heq).trans hb

/-- The objects of a listing that lie in the daemon's table and protocol. -/
theorem filter_owned (h : w.Mixed plan) {target : Target} {objects : List IpObject}
    (hobjects : (objects : Multiset IpObject) = w.kernel target) :
    w.Bare target ∧ objects.filter inOwnedTable = [] ∨
      objects.filter inOwnedTable = [ours plan target] := by
  have hnone : (w.others target).filter (inOwnedTable · = true) = 0 := by
    rw [Multiset.filter_eq_nil]
    intro object hmem hown
    have hout := h.outside target object hmem
    rw [inTable_of_owned hown] at hout
    cases hout
  have hfilter : ((objects.filter inOwnedTable : List IpObject) : Multiset IpObject) =
      (w.kernel target).filter (inOwnedTable · = true) := by
    rw [← hobjects, Multiset.filter_coe]
    simp
  rcases h.kernel target with hbare | ⟨hkernel, -⟩
  · rw [hbare, hnone] at hfilter
    exact .inl ⟨hbare, by simpa using hfilter⟩
  · have hours : inOwnedTable (ours plan target) = true := printed_table plan target.1 target.2
    rw [hkernel, Multiset.filter_cons_of_pos (w.others target) hours, hnone] at hfilter
    exact .inr (by simpa using hfilter)

/-- One listing of `Rollback`. -/
theorem wpa_rollbackOne (hstrikes : Strikes plan struck) (p : RouteParticipant)
    (h : w.Mixed plan) (target : Target) :
    (routing plan struck).wpa (RouteParticipant.rollbackOne plan target) (fun r p' w' =>
      p' = p ∧ w'.Mixed plan ∧ (∀ target', w.Bare target' → w'.Bare target') ∧
        (r = none → w'.Bare target)) p w := by
  obtain ⟨family, kind⟩ := target
  unfold RouteParticipant.rollbackOne
  have h1 := h.disturbed
  refine wpa_list (fun message => ⟨rfl, h1, fun _ hb => hb.disturbed, nofun⟩)
    fun objects hobjects => ?_
  dsimp only
  rw [countOwned_filter]
  rcases filter_owned h hobjects with ⟨hbare, hempty⟩ | hone
  · rw [hempty]
    exact ⟨rfl, h1, fun _ hb => hb.disturbed, fun _ => hbare.disturbed⟩
  · have hcount : countOwned kind family plan (objects.filter inOwnedTable) = .ok 1 := by
      rw [hone]
      simp [countOwned, ours, printed_table, printed_object, Except.map]
    rw [hcount]
    dsimp only
    rw [wpa_ite]
    refine ⟨fun hmany => absurd hmany (by decide), fun _ => ?_⟩
    rw [wpa_ite]
    refine ⟨fun _ => ?_, fun hno => absurd rfl hno⟩
    obtain ⟨hmixed, hgone, hothers⟩ := h1.del hstrikes (family, kind)
    refine wpa_call fun r _ => ⟨h1.spares_del hstrikes (family, kind), ?_⟩
    have hdone : ∀ target', w.Bare target' → ((w.disturbed.ran plan struck "ip"
        (targetArguments "del" plan (family, kind))).disturbed).Bare target' :=
      fun target' hb => (hothers target' hb.disturbed).disturbed
    rcases r with text | ⟨message, applied⟩
    · exact ⟨rfl, hmixed.disturbed, hdone, fun _ => hgone.disturbed⟩
    · cases applied
      · exact ⟨rfl, h1.disturbed, fun _ hb => hb.disturbed.disturbed, nofun⟩
      · exact ⟨rfl, hmixed.disturbed, hdone, nofun⟩

/-- An attempt keeps what is added apart from the rest, and one that returns nil
has taken all of it back. -/
theorem wpa_routeRollback (hstrikes : Strikes plan struck) (p : RouteParticipant)
    (h : w.Mixed plan) (hclean : p.dirty = false → ∀ target, w.Bare target) :
    (routing plan struck).wpa (RouteParticipant.rollback plan) (fun r p' w' =>
      w'.Mixed plan ∧ (p'.dirty = false → ∀ target, w'.Bare target) ∧
        (r = none → ∀ target, w'.Bare target)) p w := by
  unfold RouteParticipant.rollback
  rw [wpa_bind, wpa_get, wpa_ite]
  refine ⟨fun hp => ⟨h, hclean, fun _ => hclean (by simpa using hp)⟩, fun hp => ?_⟩
  have hdirty : p.dirty = true := by simpa using hp
  refine wpa_seq (wpa_untilError (J := fun rest p' w' => p' = p ∧ w'.Mixed plan ∧
    ∀ target, target ∉ rest → w'.Bare target)
    (Q := fun _ p' w' => p' = p ∧ w'.Mixed plan) RouteParticipant.rollbackTargets ?_ p w
    ⟨rfl, h, ?_⟩) ?_
  · rintro target rest p' w' ⟨rfl, hmixed, hbare⟩
    refine wpa_mono (wpa_rollbackOne hstrikes p' hmixed target) ?_
    rintro (_ | error) p'' w'' ⟨rfl, hmixed', hkept, hnew⟩
    · refine ⟨rfl, hmixed', fun target' hnot => ?_⟩
      by_cases heq : target' = target
      · subst heq
        exact hnew rfl
      · exact hkept target' (hbare target' (by simp [heq, hnot]))
    · exact ⟨rfl, hmixed'⟩
  · rintro ⟨family, kind⟩ hnot
    exact absurd (by cases family <;> cases kind <;> decide) hnot
  · rintro (_ | error) p' w' h'
    · have hall : ∀ target, w'.Bare target := fun target => h'.2.2 target (by simp)
      exact ⟨h'.2.1, fun _ => hall, fun _ => hall⟩
    · obtain ⟨rfl, hmixed⟩ := h'
      refine ⟨hmixed, fun hd => ?_, nofun⟩
      rw [hdirty] at hd
      cases hd

end Methods

/-! ## Attempts -/

/-- Rollbacks that returned, one after another. -/
inductive Attempted (plan : Plan) : RouteParticipant → List (Event Net) → RouteParticipant → Prop
  | none (p : RouteParticipant) : Attempted plan p [] p
  | again {p p' p'' : RouteParticipant} {error : GoError} {tr rest : List (Event Net)}
      (hrun : Steps (RouteParticipant.rollback plan p) tr (.ret (error, p')))
      (hrest : Attempted plan p' rest p'') : Attempted plan p (tr ++ rest) p''

section Attempts

variable {plan : Plan} {struck : Target → Multiset IpObject → Option IpObject} {w : Routing}
  {p p' : RouteParticipant} {tr : List (Event Net)}

/-- What holds between two attempts. -/
structure Between (plan : Plan) (p : RouteParticipant) (w : Routing) : Prop where
  mixed : w.Mixed plan
  clean : p.dirty = false → ∀ target, w.Bare target

theorem Between.rollback {q : Prog Net (GoError × RouteParticipant)}
    (hstrikes : Strikes plan struck) (h : Between plan p w) (hrun : Steps (RouteParticipant.rollback plan p) tr q)
    (hfaithful : (routing plan struck).Relied w tr) :
    (routing plan struck).Guaranteed w tr ∧ ∀ error p', q = .ret (error, p') →
      Between plan p' ((routing plan struck).after w tr) ∧
        (error = none → ∀ target, ((routing plan struck).after w tr).Bare target) := by
  obtain ⟨hguar, hend⟩ := (routing plan struck).wp_steps
    (wpa_routeRollback hstrikes p h.mixed h.clean) hrun hfaithful
  refine ⟨hguar, ?_⟩
  rintro error p' rfl
  exact ⟨⟨hend.1, hend.2.1⟩, hend.2.2⟩

theorem Between.attempted (hstrikes : Strikes plan struck) (ha : Attempted plan p tr p') :
    ∀ {w : Routing}, Between plan p w → (routing plan struck).Relied w tr →
      (routing plan struck).Guaranteed w tr ∧
        Between plan p' ((routing plan struck).after w tr) := by
  induction ha with
  | none p => exact fun h _ => ⟨trivial, h⟩
  | again hrun _ ih =>
    intro w h hfaithful
    obtain ⟨hfirst, hlast⟩ := ((routing plan struck).along_append).mp hfaithful
    obtain ⟨hguar, hend⟩ := h.rollback hstrikes hrun hfirst
    obtain ⟨hguar', h'⟩ := ih (hend _ _ rfl).1 hlast
    refine ⟨((routing plan struck).along_append).mpr ⟨hguar, hguar'⟩, ?_⟩
    rw [(routing plan struck).after_append]
    exact h'

end Attempts

/-- Nothing has been added to these rules and routes yet. -/
def Routing.start (kernel : Kernel) (changes : List (List Change)) : Routing where
  kernel := kernel
  others := kernel
  added := fun _ => 0
  changes := changes

/-- **Rollback is an exact inverse.** Take any rules and routes on which
`Checkpoint` succeeds, any plan, `Apply` with any outcome, and any attempts at a
rollback, each with any outcome, while others change what is outside the table
after any call. No deletion of any attempt, cut off anywhere, strikes an object
that `Apply` did not add; and when an attempt returns nil, the rules and routes
are the initial ones with the changes of the others. -/
theorem rollback_inverts {plan : Plan} {struck : Target → Multiset IpObject → Option IpObject}
    {kernel : Kernel} {changes : List (List Change)} {p₀ p₁ p₂ p₃ : RouteParticipant}
    {error : GoError} {checked applied attempted tr : List (Event Net)}
    {q : Prog Net (GoError × RouteParticipant)} (hstrikes : Strikes plan struck)
    (hforeign : ∀ cs ∈ changes, ∀ change ∈ cs, inTable change.object = false)
    (hcheckpoint : Steps (RouteParticipant.checkpoint plan p₀) checked (.ret (none, p₁)))
    (happly : Steps (RouteParticipant.apply plan p₁) applied (.ret (error, p₂)))
    (hattempts : Attempted plan p₂ attempted p₃)
    (hrollback : Steps (RouteParticipant.rollback plan p₃) tr q)
    (hfaithful : (routing plan struck).Relied (.start kernel changes)
      (checked ++ applied ++ attempted ++ tr)) :
    (∀ pre target input r post object,
      checked ++ applied ++ attempted ++ tr =
        pre ++ ⟨.run "ip" (targetArguments "del" plan target) input, r⟩ :: post →
      struck target (((routing plan struck).after (.start kernel changes) pre).kernel target) =
        some object →
      object ∈ ((routing plan struck).after (.start kernel changes) pre).added target ∧
        object ∉ ((routing plan struck).after (.start kernel changes) pre).others target) ∧
    ∀ p, q = .ret (none, p) →
      ((routing plan struck).after (.start kernel changes)
        (checked ++ applied ++ attempted ++ tr)).kernel =
      ((routing plan struck).after (.start kernel changes)
        (checked ++ applied ++ attempted ++ tr)).others := by
  have hbefore : (Routing.start kernel changes).Before := ⟨hforeign, fun _ => rfl⟩
  obtain ⟨hf₃, hf₄⟩ := ((routing plan struck).along_append).mp hfaithful
  obtain ⟨hf₂, hf₃⟩ := ((routing plan struck).along_append).mp hf₃
  obtain ⟨hf₁, hf₂⟩ := ((routing plan struck).along_append).mp hf₂
  obtain ⟨hg₁, -, hchecked⟩ := (routing plan struck).wp_steps
    (wpa_routeCheckpoint p₀ hbefore) hcheckpoint hf₁
  obtain ⟨hb₁, hfree⟩ := hchecked rfl
  have hmixed₁ : ((routing plan struck).after (.start kernel changes) checked).Mixed plan :=
    ⟨hb₁.foreign, hfree, fun target => .inl (hb₁.bare target)⟩
  obtain ⟨hg₂, hdirty, hmixed₂⟩ := (routing plan struck).wp_steps
    (wpa_routeApply p₁ hmixed₁ hb₁.bare) happly hf₂
  have happlied : Between plan p₂ ((routing plan struck).after (.start kernel changes)
      (checked ++ applied)) := by
    rw [(routing plan struck).after_append]
    refine ⟨hmixed₂, fun hclean => ?_⟩
    rw [hdirty] at hclean
    cases hclean
  obtain ⟨hg₃, hbetween⟩ := happlied.attempted hstrikes hattempts hf₃
  rw [← (routing plan struck).after_append] at hbetween
  obtain ⟨hg₄, hend⟩ := hbetween.rollback hstrikes hrollback hf₄
  rw [← (routing plan struck).after_append] at hend
  have hguar : (routing plan struck).Guaranteed (.start kernel changes)
      (checked ++ applied ++ attempted ++ tr) :=
    ((routing plan struck).along_append).mpr ⟨((routing plan struck).along_append).mpr
      ⟨((routing plan struck).along_append).mpr ⟨hg₁, hg₂⟩, hg₃⟩, hg₄⟩
  refine ⟨?_, ?_⟩
  · intro pre target input r post object hsplit hstruck
    rw [hsplit] at hguar
    have hspares := Along.at (routing plan struck) hguar
    exact hspares target object rfl rfl hstruck
  · rintro p rfl
    exact funext ((hend none p rfl).2 rfl)

/-! ## A rollback retried -/

/-- A listing without null elements shows what is read from it. -/
theorem listsObjects_decoded {objects : List IpObject} {text : String}
    (h : decodeIpObjects text = some objects) (hfields : ∀ object ∈ objects, object ≠ []) :
    ListsObjects objects text := by
  unfold decodeIpObjects at h
  split at h
  · rename_i items hread
    refine ⟨items, hread, ?_⟩
    clear hread
    induction items generalizing objects with
    | nil =>
      obtain rfl : [] = objects := by simpa using h
      exact .nil
    | cons item items ih =>
      rw [List.mapM_cons] at h
      obtain ⟨object, hobject, h⟩ := Option.bind_eq_some_iff.mp h
      obtain ⟨rest, hrest, h⟩ := Option.bind_eq_some_iff.mp h
      obtain rfl : object :: rest = objects := by simpa using h
      refine .cons ?_ (ih (fun o ho => hfields o (List.mem_cons_of_mem _ ho)) hrest)
      have hne := hfields object List.mem_cons_self
      unfold decodeIpObject at hobject
      split at hobject
      · simp_all
      · rename_i fields hv
        exact ⟨fields, hv, by simpa using hobject.symm⟩
      · cases hobject
  · cases h

theorem listArguments_injective {target target' : Target}
    (h : listArguments target.1 target.2 = listArguments target'.1 target'.2) :
    target = target' := by
  obtain ⟨family, kind⟩ := target
  obtain ⟨family', kind'⟩ := target'
  cases family <;> cases kind <;> cases family' <;> cases kind' <;>
    first | rfl | exact absurd h (by decide)

/-- A listing of one kind, with this result. -/
def listing (target : Target) (result : RunResult) : Event Net :=
  ⟨.run "ip" (listArguments target.1 target.2) none, result⟩

def deletion (plan : Plan) (target : Target) (result : RunResult) : Event Net :=
  ⟨.run "ip" (targetArguments "del" plan target) none, result⟩

theorem faithful_listing {w : Routing} {target : Target} {text : String}
    {objects : List IpObject} (hobjects : (objects : Multiset IpObject) = w.kernel target)
    (htext : decodeIpObjects text = some objects) (hfields : ∀ object ∈ objects, object ≠ []) :
    w.Faithful (listing target (.output text)) := by
  intro target' _ harguments
  obtain rfl := listArguments_injective harguments
  exact ⟨objects, hobjects, listsObjects_decoded htext hfields⟩

theorem faithful_deletion (w : Routing) (plan : Plan) (target : Target) (result : RunResult) :
    w.Faithful (deletion plan target result) := by
  cases result with
  | failed message applied => trivial
  | output text =>
    rintro ⟨family', kind'⟩ _ harguments
    obtain ⟨family, kind⟩ := target
    cases family <;> cases kind <;> cases family' <;> cases kind' <;>
      simp [targetArguments, kindArguments, ruleArguments, routeArguments, listArguments,
        Family.flag] at harguments

/-- A kernel that never misses the object a command describes. -/
def strikesOurs (plan : Plan) (target : Target) (objects : Multiset IpObject) :
    Option IpObject :=
  if ours plan target ∈ objects then some (ours plan target) else none

theorem strikes_ours (plan : Plan) : Strikes plan (strikesOurs plan) where
  named target objects object h := by
    simp only [strikesOurs, Option.ite_none_right_eq_some, Option.some.injEq] at h
    obtain ⟨hmem, rfl⟩ := h
    exact ⟨hmem, inTable_ours plan target⟩
  found target objects h := by
    simp [strikesOurs, h]

/-- A host that gives these results, one after another. -/
def scripted (results : List RunResult) (seen : List (Event Net)) : (c : Call) → c.Answer
  | .run _ _ _ => results.getD seen.length (RunResult.output "")
  | c => plainHost false seen c

def lanRoute : IpObject := [("dst", "\"10.0.0.0/8\"".toList), ("table", "\"254\"".toList)]

def bothListing : String :=
  "[\x7b\"dst\":\"10.0.0.0/8\",\"table\":\"254\"\x7d," ++
  "\x7b\"dst\":\"default\",\"dev\":\"pokrov0\",\"table\":\"20555\"," ++
  "\"protocol\":\"243\"," ++
  "\"scope\":\"253\",\"metric\":42700,\"flags\":[]\x7d]"

def noOutput : RunResult := .output "[]"

/-- `Checkpoint`, an `Apply` whose first command takes effect and is reported
failed, a rollback whose deletion fails, and one that goes through. -/
def routeResults : List (List RunResult) :=
  [[noOutput, noOutput, noOutput, noOutput], [.failed "signal: killed" true],
    [noOutput, .output bothListing, .failed "exit status 2" false],
    [noOutput, .output bothListing, .output "", noOutput, noOutput]]

def routeRun (method : Act Net RouteParticipant GoError) (n : Nat) (p : RouteParticipant) :=
  (method p).play (scripted (routeResults.getD n [])) []

theorem routeRun_steps {method : Act Net RouteParticipant GoError} {n : Nat}
    {p p' : RouteParticipant} {tr : List (Event Net)} {error : GoError}
    (h : (routeRun method n p).1 = tr ∧ (routeRun method n p).2.1 = error ∧
      (routeRun method n p).2.2.dirty = p'.dirty) : Steps (method p) tr (.ret (error, p')) := by
  have hrun := steps_play_pair (I := Net) (scripted (routeResults.getD n [])) (method p)
  obtain ⟨dirty⟩ := p'
  obtain ⟨rfl, rfl, hdirty⟩ := h
  subst hdirty
  exact hrun

def checkedTrace : List (Event Net) :=
  [listing (.v4, .rule) noOutput, listing (.v4, .route) noOutput, listing (.v6, .rule) noOutput,
    listing (.v6, .route) noOutput]

def appliedTrace : List (Event Net) :=
  [⟨.run "ip" (targetArguments "add" samplePlan (.v4, .route)) none,
    RunResult.failed "signal: killed" true⟩]

def attemptTrace : List (Event Net) :=
  [listing (.v4, .rule) noOutput, listing (.v4, .route) (.output bothListing),
    deletion samplePlan (.v4, .route) (.failed "exit status 2" false)]

def rollbackTrace : List (Event Net) :=
  [listing (.v4, .rule) noOutput, listing (.v4, .route) (.output bothListing),
    deletion samplePlan (.v4, .route) (.output ""), listing (.v6, .rule) noOutput,
    listing (.v6, .route) noOutput]

def emptyKernel : Kernel := fun _ => 0

/-- Somebody adds a route of his own after `Apply`. -/
def lanChanges : List (List Change) := [[], [], [], [], [.add (.v4, .route) lanRoute]]

theorem retried_relied : (routing samplePlan (strikesOurs samplePlan)).Relied
    (.start emptyKernel lanChanges)
    (checkedTrace ++ appliedTrace ++ attemptTrace ++ rollbackTrace) := by
  have hempty : decodeIpObjects "[]" = some [] := by decide +kernel
  have hboth : decodeIpObjects bothListing = some [lanRoute, ours samplePlan (.v4, .route)] := by
    decide +kernel
  have hfields : ∀ object ∈ [lanRoute, ours samplePlan (.v4, .route)], object ≠ [] := by
    decide
  refine ⟨faithful_listing rfl hempty nofun, faithful_listing rfl hempty nofun,
    faithful_listing rfl hempty nofun, faithful_listing rfl hempty nofun, trivial,
    faithful_listing rfl hempty nofun, faithful_listing rfl hboth hfields, trivial,
    faithful_listing rfl hempty nofun, faithful_listing rfl hboth hfields,
    faithful_deletion _ samplePlan (.v4, .route) (.output ""), faithful_listing rfl hempty nofun,
    faithful_listing rfl hempty nofun, trivial⟩

/-- The route of the others is all that is left. -/
theorem rollback_inverts_retried :
    ((routing samplePlan (strikesOurs samplePlan)).after (.start emptyKernel lanChanges)
        (checkedTrace ++ appliedTrace ++ attemptTrace ++ rollbackTrace)).kernel =
      Function.update emptyKernel (.v4, .route) {lanRoute} := by
  have hchecked : Steps (RouteParticipant.checkpoint samplePlan {}) checkedTrace
      (.ret (none, {})) :=
    routeRun_steps (n := 0) (by decide +kernel)
  have happlied : Steps (RouteParticipant.apply samplePlan {}) appliedTrace
      (.ret (some "signal: killed", ⟨true⟩)) :=
    routeRun_steps (n := 1) (by decide +kernel)
  have hattempt : Steps (RouteParticipant.rollback samplePlan ⟨true⟩) attemptTrace
      (.ret (some "exit status 2", ⟨true⟩)) :=
    routeRun_steps (n := 2) (by decide +kernel)
  have hrollback : Steps (RouteParticipant.rollback samplePlan ⟨true⟩) rollbackTrace
      (.ret (none, ⟨false⟩)) :=
    routeRun_steps (n := 3) (by decide +kernel)
  have hforeign : ∀ cs ∈ lanChanges, ∀ change ∈ cs, inTable change.object = false := by
    intro cs hcs change hmem
    have hchange : change = .add (.v4, .route) lanRoute := by
      simp only [lanChanges, List.mem_cons, List.not_mem_nil, or_false] at hcs
      rcases hcs with rfl | rfl | rfl | rfl | rfl
      iterate 4 cases hmem
      simpa using hmem
    rw [hchange]
    decide +kernel
  have h := (rollback_inverts (strikes_ours samplePlan) hforeign hchecked happlied
    (.again hattempt (.none _)) hrollback (by simpa using retried_relied)).2 _ rfl
  exact h.trans rfl


end Pokrov.Linux.Network
