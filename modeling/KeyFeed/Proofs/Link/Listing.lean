/-
This file says what the list of ports is: the ports of the machine, each with all that is
known of it, by the codes of their names and, where names are equal, in the order in which
the machine gave them. A port counts as available when its name is an address or stands in
that list. Asking for either never reports anything to the user.
-/

import KeyFeed.Link.Connection
import KeyFeed.Proofs.Rig.Observed
import KeyFeed.Proofs.Rig.Activity
import Mathlib.Data.List.Lex

namespace KeyFeed

open KeyFeed.Run

/-- A text for the user on the standard error output, which is no record of the log. -/
def Event.isReport : Event → Bool
  | reported _ => true
  | _ => false

/-- Nothing is reported to the user. -/
structure Rig.Unreported (rig next : Rig) : Prop where
  plan : next.plan = rig.plan
  reports : Event.only Event.isReport next.events = Event.only Event.isReport rig.events

instance : IsPreorder Rig Rig.Unreported where
  refl _ := ⟨rfl, rfl⟩
  trans _ _ _ earlier later :=
    ⟨later.plan.trans earlier.plan, later.reports.trans earlier.reports⟩

theorem Rig.Unreported.push {event : Event} (silent : event.isReport = false) (rig : Rig) :
    rig.Unreported { rig with events := rig.events.push event } :=
  ⟨rfl, Event.only_push_of_not_sort silent rig.events⟩

namespace Link

/-! ### Sorting -/

/-- The codes of the characters of a name. -/
def codes (name : String) : List Nat := name.toList.map Char.toNat

theorem map_toNat_lt_iff (first second : List Char) :
    first.map Char.toNat < second.map Char.toNat ↔ first < second := by
  induction first generalizing second with
  | nil => cases second <;> simp
  | cons char rest inductionHypothesis =>
    cases second with
    | nil => simp
    | cons other others =>
      have sameCode : char.toNat = other.toNat ↔ char = other := Char.toNat_inj
      have lessCode : char.toNat < other.toNat ↔ char < other := Iff.rfl
      rw [List.map_cons, List.map_cons, List.cons_lt_cons_iff, List.cons_lt_cons_iff,
        inductionHypothesis, sameCode, lessCode]

/-- Names are ordered by their codes. -/
theorem codes_le_iff (first second : String) : codes first ≤ codes second ↔ first ≤ second :=
  not_lt.symm.trans (not_congr (map_toNat_lt_iff second.toList first.toList))

/-- The order by which the ports are sorted. -/
def precedes (first second : PortInfo) : Bool := first.name ≤ second.name

theorem precedes_trans (first second third : PortInfo) (earlier : precedes first second = true)
    (later : precedes second third = true) : precedes first third = true := by
  simp only [precedes, decide_eq_true_eq] at earlier later ⊢
  exact String.le_trans earlier later

theorem precedes_total (first second : PortInfo) :
    (precedes first second || precedes second first) = true := by
  simp only [precedes, Bool.or_eq_true, decide_eq_true_eq]
  exact String.le_total first.name second.name

theorem sortPorts_perm (ports : List PortInfo) : (sortPorts ports).Perm ports :=
  List.mergeSort_perm ports precedes

theorem sortPorts_ascending (ports : List PortInfo) :
    (sortPorts ports).Pairwise fun first second => codes first.name ≤ codes second.name := by
  refine (List.pairwise_mergeSort precedes_trans precedes_total ports).imp fun ordered => ?_
  rw [codes_le_iff]
  simpa [precedes] using ordered

/-- Ports of one name keep their order. -/
theorem sortPorts_filter (ports : List PortInfo) (name : String) :
    (sortPorts ports).filter (·.name = name) = ports.filter (·.name = name) := by
  have alike :
      (ports.filter (·.name = name)).Pairwise fun first second => precedes first second := by
    refine List.pairwise_of_forall_mem_list fun first among second amongToo => ?_
    have named : first.name = name := by simpa using (List.mem_filter.mp among).2
    have namedToo : second.name = name := by simpa using (List.mem_filter.mp amongToo).2
    simp [precedes, named, namedToo]
  have within : (ports.filter (·.name = name)).Sublist (sortPorts ports) :=
    List.sublist_mergeSort precedes_trans precedes_total alike List.filter_sublist
  have kept := within.filter (·.name = name)
  rw [List.filter_filter] at kept
  simp only [Bool.and_self] at kept
  exact (kept.eq_of_length ((sortPorts_perm ports).filter _).length_eq.symm).symm

/-! ### Availability -/

theorem contains_iff (part text : List Char) : contains part text = true ↔ part <:+: text := by
  induction text with
  | nil => simp [contains]
  | cons char rest inductionHypothesis =>
    rw [contains, Bool.or_eq_true, inductionHypothesis, List.isPrefixOf_iff_prefix,
      List.infix_cons_iff]

/-- The name is an address with a scheme, or one of the ports has it. -/
def Available (ports : List PortInfo) (name : String) : Prop :=
  "://".toList <:+: name.toList ∨ ∃ port ∈ ports, port.name = name

theorem isListed_sortPorts (ports : List PortInfo) (name : String) :
    isListed (sortPorts ports) name = true ↔ ∃ port ∈ ports, port.name = name := by
  unfold isListed
  rw [List.any_eq_true]
  refine exists_congr fun port => ?_
  rw [(sortPorts_perm ports).mem_iff, beq_iff_eq]

/-! ### Asking the machine -/

/-- The ports that the machine gives. A machine that cannot answer has none. -/
def portsOf (plan : Plan) : List PortInfo :=
  match plan.ports with
  | .ok ports => ports
  | .error _ => []

/-- Listing the ports sorts what the machine gives, unless it fails for a reason other than the
system. -/
theorem findPorts_of_listing (rig : Rig)
    (lists : ∀ failure, rig.plan.ports = .error failure → failure.isSystem = true) :
    ∃ next, findPorts rig = (.ok (sortPorts (portsOf rig.plan)), next) ∧ rig.Unreported next := by
  unfold findPorts portsOf
  rw [look_bind]
  cases asked : rig.plan.ports with
  | ok ports => exact ⟨rig, rfl, Std.Refl.refl rig⟩
  | error failure =>
    dsimp only
    rw [if_pos (lists failure asked), log_bind, sortPorts, List.mergeSort_nil]
    exact ⟨_, rfl, .push rfl rig⟩

/-- Asking for a port tells whether it is available. -/
theorem isAvailable_of_listing (rig : Rig)
    (lists : ∀ failure, rig.plan.ports = .error failure → failure.isSystem = true)
    (name : String) :
    ∃ known next, isAvailable name rig = (.ok known, next) ∧ rig.Unreported next ∧
      (known = true ↔ Available (portsOf rig.plan) name) := by
  have address : isAddress name = true ↔ "://".toList <:+: name.toList := contains_iff _ _
  unfold isAvailable Available
  by_cases known : isAddress name = true
  · rw [if_pos known]
    exact ⟨true, rig, rfl, Std.Refl.refl rig, iff_of_true rfl (Or.inl (address.mp known))⟩
  · obtain ⟨next, listed, unreported⟩ := findPorts_of_listing rig lists
    rw [if_neg known, bind_of_ok listed]
    refine ⟨_, next, rfl, unreported, (isListed_sortPorts _ _).trans ?_⟩
    rw [← address, or_iff_right known]

/-! ### Names in a message -/

theorem intercalate_eq_empty_iff (names : List String) :
    ", ".intercalate names = "" ↔ names = [] ∨ names = [""] := by
  rw [← String.toList_inj, String.toList_intercalate]
  cases names with
  | nil => simp
  | cons first rest =>
    cases rest with
    | nil => simp
    | cons second others => simp [List.intercalate_cons_cons]

/-- The names are joined, unless there is nothing to show. -/
theorem portNames_eq (ports : List PortInfo) :
    portNames ports =
      if ports.map (·.name) = [] ∨ ports.map (·.name) = [""] then "none"
      else ", ".intercalate (ports.map (·.name)) := by
  unfold portNames
  dsimp only
  simp only [intercalate_eq_empty_iff]

end Link

end KeyFeed
