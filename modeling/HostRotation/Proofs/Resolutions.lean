/-
# Resolved addresses

A list of entries is resolved one entry after the other: of what an entry stands
for the policy selects some, and what is new is appended. What comes out is said
here without the loop. The selections of all entries are put in a row
(`selections`), and the result is that row with every address once, where it
occurs first (`FirstOccurrences`), which determines it (`FirstOccurrences.unique`).
The family is chosen entry by entry, but addresses are told apart over the whole
list, so the result need not have one family first.

What a policy selects follows from the family in its name
(`FamilyPolicy.favoured`): there are three kinds of policies, each for either
family (`select_only`, `select_preferred`, `select_all`).
-/
import HostRotation.Address.Resolution
import Mathlib.Data.List.Basic

namespace HostRotation

/-! ### Selections -/

namespace FamilyPolicy

variable {β : Type} {isIpv4 : β → Bool} {policy : FamilyPolicy} {v4 : Bool} {xs ys : List β}
  {a : β}

/-- The addresses of one family, in their order. -/
def family (isIpv4 : β → Bool) (v4 : Bool) (xs : List β) : List β :=
  xs.filter fun a => isIpv4 a == v4

/-- Whether the family that a policy keeps, prefers or puts first is IPv4. -/
def favoured : FamilyPolicy → Bool
  | ipv4Only | ipv4Preferred | ipv4First => true
  | ipv6Only | ipv6Preferred | ipv6First => false

theorem mem_family : a ∈ family isIpv4 v4 xs ↔ a ∈ xs ∧ isIpv4 a = v4 := by
  simp [family]

theorem filter_families (isIpv4 : β → Bool) (xs : List β) :
    xs.filter isIpv4 = family isIpv4 true xs ∧
      (xs.filter fun a => !isIpv4 a) = family isIpv4 false xs := by
  simp [family]

@[simp] theorem family_append :
    family isIpv4 v4 (xs ++ ys) = family isIpv4 v4 xs ++ family isIpv4 v4 ys :=
  List.filter_append xs ys

@[simp] theorem family_same : family isIpv4 v4 (family isIpv4 v4 xs) = family isIpv4 v4 xs := by
  simp [family]

theorem family_other {w4 : Bool} (h : w4 ≠ v4) :
    family isIpv4 w4 (family isIpv4 v4 xs) = [] := by
  refine List.filter_eq_nil_iff.mpr fun a ha => ?_
  simp [(mem_family.mp ha).2, h.symm]

@[simp] theorem family_not_family : family isIpv4 (!v4) (family isIpv4 v4 xs) = [] :=
  family_other (by simp)

@[simp] theorem family_family_not : family isIpv4 v4 (family isIpv4 (!v4) xs) = [] :=
  family_other (by simp)

/-- Both families together are the whole list, in another order. -/
theorem perm_families (isIpv4 : β → Bool) (v4 : Bool) (xs : List β) :
    (family isIpv4 v4 xs ++ family isIpv4 (!v4) xs).Perm xs := by
  have hsplit := List.filter_append_perm (fun a => isIpv4 a == v4) xs
  have hother : (xs.filter fun a => !(isIpv4 a == v4)) = family isIpv4 (!v4) xs :=
    List.filter_congr fun a _ => by cases isIpv4 a <;> cases v4 <;> rfl
  rwa [hother] at hsplit

theorem eq_nil_of_families (h : family isIpv4 v4 xs = []) (h' : family isIpv4 (!v4) xs = []) :
    xs = [] := by
  have hperm := perm_families isIpv4 v4 xs
  rw [h, h'] at hperm
  exact hperm.symm.eq_nil

/-! The three kinds of policies, for either family. -/

theorem select_only (h : policy = ipv4Only ∨ policy = ipv6Only) (xs : List β) :
    policy.select isIpv4 xs = family isIpv4 policy.favoured xs := by
  obtain ⟨hv4, hv6⟩ := filter_families isIpv4 xs
  rcases h with rfl | rfl
  · exact hv4
  · exact hv6

theorem select_preferred (h : policy = ipv4Preferred ∨ policy = ipv6Preferred) (xs : List β) :
    policy.select isIpv4 xs =
      if family isIpv4 policy.favoured xs = [] then family isIpv4 (!policy.favoured) xs
      else family isIpv4 policy.favoured xs := by
  obtain ⟨hv4, hv6⟩ := filter_families isIpv4 xs
  rcases h with rfl | rfl <;>
    simp only [select, favoured, hv4, hv6, List.isEmpty_iff, Bool.not_true, Bool.not_false]

theorem select_all (h : policy = ipv4First ∨ policy = ipv6First) (xs : List β) :
    policy.select isIpv4 xs =
      family isIpv4 policy.favoured xs ++ family isIpv4 (!policy.favoured) xs := by
  obtain ⟨hv4, hv6⟩ := filter_families isIpv4 xs
  rcases h with rfl | rfl <;>
    simp only [select, favoured, hv4, hv6, Bool.not_true, Bool.not_false]

theorem kinds (policy : FamilyPolicy) :
    (policy = ipv4Only ∨ policy = ipv6Only) ∨ (policy = ipv4Preferred ∨ policy = ipv6Preferred) ∨
      (policy = ipv4First ∨ policy = ipv6First) := by
  cases policy <;> simp

/-- What is selected is one of the families, or both in a row. -/
theorem select_cases (policy : FamilyPolicy) (isIpv4 : β → Bool) (xs : List β) :
    (∃ v4, policy.select isIpv4 xs = family isIpv4 v4 xs) ∨
      policy.select isIpv4 xs =
        family isIpv4 policy.favoured xs ++ family isIpv4 (!policy.favoured) xs := by
  rcases policy.kinds with h | h | h
  · exact .inl ⟨_, select_only h xs⟩
  · rw [select_preferred h]
    split
    · exact .inl ⟨_, rfl⟩
    · exact .inl ⟨_, rfl⟩
  · exact .inr (select_all h xs)

/-- Of a family everything is selected, in its order and as often as it comes, or
nothing. -/
theorem family_select (policy : FamilyPolicy) (isIpv4 : β → Bool) (v4 : Bool) (xs : List β) :
    family isIpv4 v4 (policy.select isIpv4 xs) = family isIpv4 v4 xs ∨
      family isIpv4 v4 (policy.select isIpv4 xs) = [] := by
  rcases policy.select_cases isIpv4 xs with ⟨w4, h⟩ | h
  · rw [h]
    by_cases heq : v4 = w4
    · subst heq
      exact .inl family_same
    · exact .inr (family_other heq)
  · left
    rw [h, family_append]
    by_cases heq : v4 = policy.favoured
    · simp [heq]
    · simp [Bool.eq_not.mpr heq]

theorem select_select (policy : FamilyPolicy) (isIpv4 : β → Bool) (xs : List β) :
    policy.select isIpv4 (policy.select isIpv4 xs) = policy.select isIpv4 xs := by
  rcases policy.kinds with h | h | h
  · rw [select_only h, select_only h, family_same]
  · rw [select_preferred h xs]
    split
    · rw [select_preferred h, family_family_not, if_pos rfl, family_same]
    · rename_i hsome
      rw [select_preferred h, family_same, if_neg hsome]
  · simp [select_all h]

theorem select_all_perm (h : policy = ipv4First ∨ policy = ipv6First) :
    (policy.select isIpv4 xs).Perm xs := by
  rw [select_all h]
  exact perm_families isIpv4 policy.favoured xs

/-- No address of the favoured family comes after one of the other family. -/
theorem select_all_ordered (h : policy = ipv4First ∨ policy = ipv6First) :
    (policy.select isIpv4 xs).Pairwise
      fun a b => isIpv4 b = policy.favoured → isIpv4 a = policy.favoured := by
  rw [select_all h, List.pairwise_append]
  refine ⟨List.pairwise_of_forall_mem_list fun a ha _ _ _ => (mem_family.mp ha).2,
    List.pairwise_of_forall_mem_list fun _ _ b hb heq => ?_,
    fun a ha _ _ _ => (mem_family.mp ha).2⟩
  have hother : policy.favoured = !policy.favoured := heq.symm.trans (mem_family.mp hb).2
  exact absurd hother (by simp)

theorem select_preferred_one (h : policy = ipv4Preferred ∨ policy = ipv6Preferred) :
    ∃ v4, ∀ a ∈ policy.select isIpv4 xs, isIpv4 a = v4 := by
  rw [select_preferred h]
  split
  · exact ⟨_, fun a ha => (mem_family.mp ha).2⟩
  · exact ⟨_, fun a ha => (mem_family.mp ha).2⟩

theorem select_preferred_eq_nil_iff (h : policy = ipv4Preferred ∨ policy = ipv6Preferred) :
    policy.select isIpv4 xs = [] ↔ xs = [] := by
  constructor
  · rw [select_preferred h]
    split
    · rename_i hnone
      exact eq_nil_of_families hnone
    · rename_i hsome
      exact fun hnil => absurd hnil hsome
  · rintro rfl
    rw [select_preferred h]
    split <;> rfl

theorem select_preferred_favoured (h : policy = ipv4Preferred ∨ policy = ipv6Preferred)
    (hsome : ∃ a ∈ xs, isIpv4 a = policy.favoured) :
    ∀ a ∈ policy.select isIpv4 xs, isIpv4 a = policy.favoured := by
  obtain ⟨b, hb, hfamily⟩ := hsome
  have hne : family isIpv4 policy.favoured xs ≠ [] :=
    List.ne_nil_of_mem (mem_family.mpr ⟨hb, hfamily⟩)
  rw [select_preferred h, if_neg hne]
  exact fun a ha => (mem_family.mp ha).2

/-- What a policy is to select from a list. -/
structure IsSelection (policy : FamilyPolicy) (isIpv4 : β → Bool) (xs selected : List β) :
    Prop where
  /-- Of a family everything is selected, in its order and as often as it comes, or
  nothing. -/
  families : ∀ v4, family isIpv4 v4 selected = family isIpv4 v4 xs ∨
    family isIpv4 v4 selected = []
  idempotent : policy.select isIpv4 selected = selected
  /-- The policies that return everything put one family first. -/
  all : policy = ipv4First ∨ policy = ipv6First → selected.Perm xs ∧
    selected.Pairwise fun a b => isIpv4 b = policy.favoured → isIpv4 a = policy.favoured
  /-- The policies that prefer a family return one, and that one if there is any. -/
  preferred : policy = ipv4Preferred ∨ policy = ipv6Preferred →
    (∃ v4, ∀ a ∈ selected, isIpv4 a = v4) ∧ (selected = [] ↔ xs = []) ∧
      ((∃ a ∈ xs, isIpv4 a = policy.favoured) → ∀ a ∈ selected, isIpv4 a = policy.favoured)
  ipv4 : policy = ipv4Only → selected = xs.filter isIpv4
  ipv6 : policy = ipv6Only → selected = xs.filter fun a => !isIpv4 a

theorem isSelection_select (policy : FamilyPolicy) (isIpv4 : β → Bool) (xs : List β) :
    policy.IsSelection isIpv4 xs (policy.select isIpv4 xs) where
  families v4 := policy.family_select isIpv4 v4 xs
  idempotent := policy.select_select isIpv4 xs
  all h := ⟨select_all_perm h, select_all_ordered h⟩
  preferred h := ⟨select_preferred_one h, select_preferred_eq_nil_iff h,
    select_preferred_favoured h⟩
  ipv4 := by
    rintro rfl
    rfl
  ipv6 := by
    rintro rfl
    rfl

end FamilyPolicy

/-! ### First occurrences -/

section

variable {β : Type} [DecidableEq β] {known seen found : List β}

/-- The members of a row, each of them once, in the order in which they first
occur in it. -/
structure FirstOccurrences (known seen : List β) : Prop where
  nodup : known.Nodup
  mem_iff : ∀ a, a ∈ known ↔ a ∈ seen
  ordered : known.Pairwise fun a b => seen.idxOf a < seen.idxOf b

namespace FirstOccurrences

theorem nil : FirstOccurrences ([] : List β) [] where
  nodup := List.nodup_nil
  mem_iff _ := Iff.rfl
  ordered := List.Pairwise.nil

/-- They are still in order when the row goes on. -/
theorem ordered_append (h : FirstOccurrences known seen) (more : List β) :
    known.Pairwise fun a b => (seen ++ more).idxOf a < (seen ++ more).idxOf b := by
  refine h.ordered.imp_of_mem fun {a b} ha hb hlt => ?_
  rwa [List.idxOf_append_of_mem ((h.mem_iff a).mp ha),
    List.idxOf_append_of_mem ((h.mem_iff b).mp hb)]

/-- One more member of the row is appended if it is new. -/
theorem visit (h : FirstOccurrences known seen) (a : β) :
    FirstOccurrences (if a ∈ known then known else known ++ [a]) (seen ++ [a]) := by
  have hordered := h.ordered_append [a]
  split
  · rename_i hold
    refine ⟨h.nodup, fun b => ?_, hordered⟩
    rw [h.mem_iff, List.mem_append, List.mem_singleton]
    refine ⟨.inl, ?_⟩
    rintro (hb | rfl)
    · exact hb
    · exact (h.mem_iff b).mp hold
  · rename_i hnew
    have hunseen : a ∉ seen := fun ha => hnew ((h.mem_iff a).mpr ha)
    refine ⟨?_, fun b => ?_, ?_⟩
    · refine List.nodup_append.mpr ⟨h.nodup, List.pairwise_singleton _ _, fun b hb c hc => ?_⟩
      obtain rfl := List.mem_singleton.mp hc
      exact fun heq => hnew (heq ▸ hb)
    · rw [List.mem_append, List.mem_append, h.mem_iff]
    · refine List.pairwise_append.mpr ⟨hordered, List.pairwise_singleton _ _, fun b hb c hc => ?_⟩
      obtain rfl := List.mem_singleton.mp hc
      have hseen : b ∈ seen := (h.mem_iff b).mp hb
      have hbefore : seen.idxOf b < seen.length := List.idxOf_lt_length_iff.mpr hseen
      rw [List.idxOf_append_of_mem hseen, List.idxOf_append_of_notMem hunseen]
      omega

theorem addNew (h : FirstOccurrences known seen) :
    FirstOccurrences (Resolution.addNew known found) (seen ++ found) := by
  induction found generalizing known seen with
  | nil => rwa [List.append_nil]
  | cons a found ih =>
    rw [← List.singleton_append, ← List.append_assoc]
    exact ih (h.visit a)

/-- A row says all there is to its first occurrences. -/
theorem unique {known' : List β} (h : FirstOccurrences known seen)
    (h' : FirstOccurrences known' seen) : known = known' := by
  have hperm : known.Perm known' :=
    (List.perm_ext_iff_of_nodup h.nodup h'.nodup).mpr fun a =>
      (h.mem_iff a).trans (h'.mem_iff a).symm
  refine hperm.eq_of_pairwise (fun a b _ _ hab hba => ?_) h.ordered h'.ordered
  exact absurd hba (Nat.lt_asymm hab)

end FirstOccurrences
end

/-! ### Resolving -/

namespace Resolution

variable {η ε β : Type}

/-- What is selected of all entries, in a row. -/
def selections (lookup : η → Except ε (List β)) (isIpv4 : β → Bool) (policy : FamilyPolicy)
    (entries : List η) : List β :=
  entries.flatMap fun entry =>
    match lookup entry with
    | .ok found => policy.select isIpv4 found
    | .error _ => []

variable {lookup : η → Except ε (List β)} {isIpv4 : β → Bool} {policy : FamilyPolicy}
  {entries : List η} {e : ε} {a : β}

theorem mem_selections : a ∈ selections lookup isIpv4 policy entries ↔
    ∃ entry ∈ entries, ∃ found, lookup entry = .ok found ∧ a ∈ policy.select isIpv4 found := by
  unfold selections
  rw [List.mem_flatMap]
  refine exists_congr fun entry => and_congr_right fun _ => ?_
  cases lookup entry <;> simp

/-- The error of an entry whose lookup fails. -/
def fault? (lookup : η → Except ε (List β)) (entry : η) : Option ε :=
  match lookup entry with
  | .ok _ => none
  | .error e => some e

theorem fault?_eq_some_iff {entry : η} :
    fault? lookup entry = some e ↔ lookup entry = .error e := by
  unfold fault?
  cases lookup entry <;> simp

theorem fault?_eq_none_iff {entry : η} :
    fault? lookup entry = none ↔ ∃ found, lookup entry = .ok found := by
  unfold fault?
  cases lookup entry <;> simp

variable [DecidableEq β] {known seen addresses : List β}

/-- Whatever addresses there are already, the first entry that fails ends it. -/
theorem resolveFrom_eq_error_iff : resolveFrom lookup isIpv4 policy entries known = .error e ↔
    entries.findSome? (fault? lookup) = some e := by
  induction entries generalizing known with
  | nil => simp [resolveFrom]
  | cons entry entries ih =>
    rw [List.findSome?_cons]
    cases hentry : lookup entry with
    | error e' => simp [resolveFrom, fault?, hentry]
    | ok found =>
      simp only [resolveFrom, fault?, hentry]
      exact ih

theorem resolveWith_eq_error_iff : resolveWith lookup isIpv4 policy entries = .error e ↔
    ∃ before entry after, entries = before ++ entry :: after ∧
      (∀ x ∈ before, ∃ found, lookup x = .ok found) ∧ lookup entry = .error e := by
  rw [resolveWith, resolveFrom_eq_error_iff, List.findSome?_eq_some_iff]
  simp only [fault?_eq_some_iff, fault?_eq_none_iff]
  refine exists_congr fun before => exists_congr fun entry => exists_congr fun after => ?_
  exact and_congr_right fun _ => and_comm

theorem exists_error_iff : (∃ e, resolveWith lookup isIpv4 policy entries = .error e) ↔
    ∃ entry ∈ entries, ∃ e, lookup entry = .error e := by
  simp only [resolveWith, resolveFrom_eq_error_iff, ← Option.isSome_iff_exists,
    List.findSome?_isSome_iff]
  simp only [Option.isSome_iff_exists, fault?_eq_some_iff]

/-- A resolution that succeeds goes on with the first occurrences in what was seen
before and is selected now. -/
theorem resolveFrom_eq_ok (h : FirstOccurrences known seen)
    (hr : resolveFrom lookup isIpv4 policy entries known = .ok addresses) :
    FirstOccurrences addresses (seen ++ selections lookup isIpv4 policy entries) := by
  induction entries generalizing known seen with
  | nil =>
    obtain rfl := Except.ok.inj hr
    rwa [selections, List.flatMap_nil, List.append_nil]
  | cons entry entries ih =>
    cases hentry : lookup entry with
    | error e => simp [resolveFrom, hentry] at hr
    | ok found =>
      simp only [resolveFrom, hentry] at hr
      have hfirst := ih h.addNew hr
      rw [List.append_assoc] at hfirst
      rw [selections, List.flatMap_cons, hentry]
      exact hfirst

/-- With lookups that all succeed, the first occurrences are the only result. -/
theorem resolveWith_eq_ok_iff : resolveWith lookup isIpv4 policy entries = .ok addresses ↔
    (∀ entry ∈ entries, ∃ found, lookup entry = .ok found) ∧
      FirstOccurrences addresses (selections lookup isIpv4 policy entries) := by
  have hnone : (∀ entry ∈ entries, ∃ found, lookup entry = .ok found) ↔
      ¬ ∃ e, resolveWith lookup isIpv4 policy entries = .error e := by
    rw [exists_error_iff, not_exists]
    refine forall_congr' fun entry => ?_
    rw [not_and]
    refine forall_congr' fun _ => ?_
    cases lookup entry <;> simp
  rw [hnone]
  constructor
  · intro hr
    exact ⟨by simp [hr], resolveFrom_eq_ok .nil hr⟩
  · rintro ⟨hok, hfirst⟩
    cases hr : resolveWith lookup isIpv4 policy entries with
    | error e => exact absurd ⟨e, hr⟩ hok
    | ok addresses' => rw [(resolveFrom_eq_ok .nil hr).unique hfirst]

/-- **A resolution is the first occurrences in a row of selections.** Whatever the
entries stand for, a list of them fails to resolve just when the lookup of one
fails, and then with the error of the first that does. Otherwise its addresses
are those that are selected of some entry, each of them once, in the order in
which they first occur when the selections of the entries are put in a row. What
is selected of an entry keeps or drops families as a whole, with their order and
repetitions, and is what the policy is to select (`FamilyPolicy.IsSelection`). -/
theorem resolution_exact (lookup : η → Except ε (List β)) (isIpv4 : β → Bool)
    (policy : FamilyPolicy) (entries : List η) :
    ((∃ e, resolveWith lookup isIpv4 policy entries = .error e) ↔
      ∃ entry ∈ entries, ∃ e, lookup entry = .error e) ∧
    (∀ e, resolveWith lookup isIpv4 policy entries = .error e ↔
      ∃ before entry after, entries = before ++ entry :: after ∧
        (∀ x ∈ before, ∃ found, lookup x = .ok found) ∧ lookup entry = .error e) ∧
    (∀ addresses, resolveWith lookup isIpv4 policy entries = .ok addresses ↔
      (∀ entry ∈ entries, ∃ found, lookup entry = .ok found) ∧
        FirstOccurrences addresses (selections lookup isIpv4 policy entries)) ∧
    (∀ a, a ∈ selections lookup isIpv4 policy entries ↔
      ∃ entry ∈ entries, ∃ found, lookup entry = .ok found ∧ a ∈ policy.select isIpv4 found) ∧
    ∀ xs, policy.IsSelection isIpv4 xs (policy.select isIpv4 xs) :=
  ⟨exists_error_iff, fun _ => resolveWith_eq_error_iff, fun _ => resolveWith_eq_ok_iff,
    fun _ => mem_selections, policy.isSelection_select isIpv4⟩

/-- The first and the last of three hosts share an address, which comes once. The one
between them has only an IPv6 address, which is kept although the others have IPv4.
Of two hosts more that fail, the first one counts. -/
theorem resolution_exact_sharedAddress :
    let near : SocketAddress := .v4 ⟨10, 0, 0, 1⟩ 80
    let far : SocketAddress := .v4 ⟨10, 0, 0, 2⟩ 80
    let local6 : SocketAddress := .v6 ⟨[0, 0, 0, 0, 0, 0, 0, 1], rfl⟩ 80 0
    let entries : List (Except String (List SocketAddress)) :=
      [.ok [local6, near], .ok [local6], .ok [far, local6, near]]
    resolveWith id SocketAddress.isIpv4 .ipv4Preferred entries = .ok [near, local6, far] ∧
      resolveWith id SocketAddress.isIpv4 .ipv4Preferred
        (entries ++ [.error "unknown", .error "refused"]) = .error "unknown" := by
  intro near far local6 entries
  refine ⟨?_, ?_⟩
  · refine ((resolution_exact id SocketAddress.isIpv4 .ipv4Preferred entries).2.2.1 _).mpr
      ⟨by simp [entries], ?_⟩
    show FirstOccurrences [near, local6, far] [near, local6, far, near]
    exact ⟨by decide, fun a => by simp; tauto, by decide⟩
  · refine ((resolution_exact id SocketAddress.isIpv4 .ipv4Preferred _).2.1 _).mpr
      ⟨entries, .error "unknown", [.error "refused"], rfl, ?_, rfl⟩
    simp [entries]

end Resolution
end HostRotation
