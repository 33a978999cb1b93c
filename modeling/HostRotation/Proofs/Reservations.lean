/-
# Reservations

A selector may reserve what it accepts, so that no other selection gets the
connection until its caller releases it. The reservation is made when the
selector answers, and the connection is handed out when the selection ends; if
anything could come in between, a reservation could be made for nobody.

Nothing can: the step in which a connection is newly reserved is the one in
which it is handed out, and the other way round (`reserved_iff_handedOut`). So
as long as the callers do nothing but release what is reserved, a connection is
handed out as often as it was released, and once more while it is reserved
(`handouts_run`): no two callers hold it at once.
-/
import HostRotation.Proofs.Answers
import HostRotation.Rehearsal.Predicate

namespace HostRotation

variable {α σ : Type}

/-- A selector that reserves what it accepts. -/
structure Reserving (reserved : ConnId → σ → Bool) (accepts : Selector (Link α) σ) : Prop where
  /-- It accepts what is free, and reserves this and no more. -/
  takes : ∀ l s s', accepts l s = (true, s') → reserved l.id s = false ∧
    ∀ c, reserved c s' = (decide (l.id = c) || reserved c s)
  /-- It refuses without a trace. -/
  leaves : ∀ l s s', accepts l s = (false, s') → ∀ c, reserved c s' = reserved c s

/-- Whether an event respects reservations: selectors reserve, callers only
release. -/
def Event.Honours (reserved : ConnId → σ → Bool) : Event α σ → Prop
  | .select accepts => Reserving reserved accepts
  | .callersChange f => ∀ c s, reserved c (f s) = true → reserved c s = true
  | _ => True

/-- Whether a selection returned a connection. -/
def Selection.handed (s : Selection α σ) (c : ConnId) : Bool :=
  s.granted.any fun l => l.id = c

namespace Balancer

/-- How many selections returned a connection. -/
def handouts (b : Balancer α σ) (c : ConnId) : Nat :=
  b.selections.countP fun s => s.handed c

/-- How often a connection that was reserved is free after a step of a run. -/
def releases [DecidableEq α] (b : Balancer α σ) (reserved : ConnId → σ → Bool) (c : ConnId) :
    List (Event α σ) → Nat
  | [] => 0
  | e :: events =>
    (reserved c b.callers && !reserved c (b.step e).callers).toNat +
      (b.step e).releases reserved c events

end Balancer

/-! ### Answers -/

/-- Reserving a connection unless it is reserved is such a selector. -/
theorem reserving_reserve :
    Reserving (fun c held => held.contains c) Rehearsal.Predicate.reserve.selector where
  takes := by
    intro l held held' ha
    unfold Rehearsal.Predicate.selector at ha
    dsimp only at ha
    split at ha
    · simp at ha
    · rename_i hfree
      obtain ⟨-, rfl⟩ := Prod.mk.inj ha
      refine ⟨by simpa using hfree, fun c => ?_⟩
      have hsame : (c == l.id) = decide (l.id = c) := by
        rw [beq_eq_decide]
        exact decide_eq_decide.mpr eq_comm
      rw [List.contains_cons, hsame]
  leaves := by
    intro l held held' ha c
    unfold Rehearsal.Predicate.selector at ha
    dsimp only at ha
    split at ha
    · obtain ⟨-, rfl⟩ := Prod.mk.inj ha
      rfl
    · simp at ha

section

variable {reserved : ConnId → σ → Bool} {accepts : Selector (Link α) σ} {s s' : σ}

/-- Whatever is asked, what was accepted was free and is reserved now, and
nothing else is. -/
theorem Reserving.verdict (hr : Reserving reserved accepts) {shown : List (Link α × Bool)}
    {found : Option (Link α)} (hv : Verdict found shown) (ha : Asked accepts s shown s')
    (c : ConnId) : reserved c s' = ((found.any fun l => l.id = c) || reserved c s) ∧
      ((found.any fun l => l.id = c) = true → reserved c s = false) := by
  obtain ⟨refused, rfl⟩ := hv
  induction refused generalizing s with
  | nil =>
    cases found with
    | none =>
      cases ha
      exact ⟨rfl, by simp⟩
    | some l =>
      cases ha with
      | cons ha hm =>
        cases hm
        obtain ⟨hfree, htaken⟩ := hr.takes l s s' ha
        refine ⟨htaken c, fun hc => ?_⟩
        have hid : l.id = c := by simpa using hc
        rw [← hid]
        exact hfree
  | cons l refused ih =>
    cases ha with
    | cons ha hm =>
      have hsame := hr.leaves l s _ ha c
      obtain ⟨htaken, hfree⟩ := ih hm
      rw [hsame] at htaken hfree
      exact ⟨htaken, hfree⟩

end

/-! ### Steps -/

section

variable [DecidableEq α] {b : Balancer α σ} {e : Event α σ} {i : SelectionId}
  {s : Selection α σ} {r : Balancer α σ × Selection α σ} {reserved : ConnId → σ → Bool}

/-- Whether all selections reserve what they accept. -/
def Balancer.Reserves (b : Balancer α σ) (reserved : ConnId → σ → Bool) : Prop :=
  ∀ s ∈ b.selections, Reserving reserved s.accepts

theorem Turn.reserves (ht : Turn b e i s r) (hb : b.Reserves reserved) (he : e.Honours reserved) :
    Reserving reserved s.accepts := by
  obtain hmem | ⟨accepts, rfl, rfl⟩ := ht.origin
  · exact hb s hmem
  · exact he

theorem reserves_step (hb : b.Reserves reserved) (he : e.Honours reserved) :
    (b.step e).Reserves reserved := by
  refine selections_keep hb (fun _ _ => id) fun i s r ht _ => ?_
  rw [ht.accepts_eq]
  exact ht.reserves hb he

omit [DecidableEq α] in
/-- One entry of a list is new or changes. -/
theorem countP_of_getElem?_eq {β : Type} {p : β → Bool} {xs ys : List β} {i : Nat} {y : β}
    (hy : ∀ j, ys[j]? = if j = i then some y else xs[j]?) :
    ys.countP p + ((xs[i]?).any p).toNat = xs.countP p + (p y).toNat := by
  by_cases hlt : i < xs.length
  · have hset : ys = xs.set i y := by
      apply List.ext_getElem?
      intro j
      rw [hy j, getElem?_set_eq (List.getElem?_eq_getElem hlt)]
    have hy' : (if p y then 1 else 0) = (p y).toNat := by cases p y <;> rfl
    rw [hset, List.countP_set hlt, List.getElem?_eq_getElem hlt, Option.any_some, hy']
    cases hp : p xs[i] with
    | false => rw [if_neg Bool.false_ne_true, Bool.toNat_false, Nat.sub_zero, Nat.add_zero]
    | true =>
      have hpos : 0 < xs.countP p := List.countP_pos_iff.mpr ⟨xs[i], List.getElem_mem hlt, hp⟩
      rw [if_pos rfl, Bool.toNat_true]
      omega
  · have heq : i = xs.length := by
      refine Nat.le_antisymm (Nat.le_of_not_lt fun hgt => ?_) (Nat.not_lt.mp hlt)
      -- There would be a gap.
      have hgap := hy xs.length
      rw [if_neg (Nat.ne_of_lt hgt), List.getElem?_eq_none (Nat.le_refl _)] at hgap
      have hlast := hy i
      rw [if_pos rfl] at hlast
      have hle : ys.length ≤ xs.length := List.getElem?_eq_none_iff.mp hgap
      have hmore := (List.getElem?_eq_some_iff.mp hlast).1
      omega
    have hconcat : ys = xs ++ [y] := by
      apply List.ext_getElem?
      intro j
      rw [hy j, getElem?_concat_eq, heq]
    rw [hconcat, List.countP_append, heq, List.getElem?_eq_none (Nat.le_refl _), Option.any_none]
    cases hp : p y <;> simp [hp]

/-- What a step does about reservations: a selection that had no result goes
on and reserves what it returns, or callers release. -/
theorem reservation_step (hb : b.Reserves reserved) (he : e.Honours reserved) :
    (∃ i s, b.result? i = none ∧ (b.step e).selections[i]? = some s ∧
      (∀ j, j ≠ i → (b.step e).result? j = b.result? j) ∧
      ∀ c, (b.step e).handouts c = b.handouts c + (s.handed c).toNat ∧
        reserved c (b.step e).callers = (s.handed c || reserved c b.callers) ∧
        (s.handed c = true → reserved c b.callers = false)) ∨
    (b.step e).selections = b.selections ∧
      ∀ c, reserved c (b.step e).callers = true → reserved c b.callers = true := by
  by_cases hs : e.Selects
  · obtain heq | ⟨i, s, r, ht, hstep, hbefore, hsel⟩ := turn_step (b := b) hs
    · rw [heq]
      exact .inr ⟨rfl, fun _ => id⟩
    · have hunfinished : ∀ s', b.selections[i]? = some s' → s'.result? = none := by
        intro s' hi
        rw [hbefore s' hi]
        exact ht.unfinished
      refine .inl ⟨i, r.2, ?_, by rw [hsel, if_pos rfl], fun j hj => ?_, fun c => ⟨?_, ?_⟩⟩
      · unfold Balancer.result?
        cases hi : b.selections[i]? with
        | none => rfl
        | some s' => exact hunfinished s' hi
      · unfold Balancer.result?
        rw [hsel, if_neg hj]
      · have hnothing : (b.selections[i]?).any (fun s => s.handed c) = false := by
          cases hi : b.selections[i]? with
          | none => rfl
          | some s' =>
            rw [Option.any_some, Selection.handed,
              Selection.granted_of_unfinished (hunfinished s' hi)]
            rfl
        have hcount := countP_of_getElem?_eq (p := fun s => s.handed c) hsel
        rwa [hnothing, Bool.toNat_false, Nat.add_zero] at hcount
      · obtain ⟨new, hasks⟩ := ht.asks
        have hcallers : (b.step e).callers = r.1.callers := by rw [hstep]
        rw [hcallers]
        exact (ht.reserves hb he).verdict hasks.verdict hasks.asked c
  · refine .inr ⟨b.selections_step hs, fun c hc => ?_⟩
    by_cases hf : ∃ f, e = .callersChange f
    · obtain ⟨f, rfl⟩ := hf
      exact he c b.callers hc
    · rwa [b.callers_step_of_ne hs fun f h => hf ⟨f, h⟩] at hc

/-- **Reservations are handed out at once.** In a step a connection is newly
reserved if and only if a selection returns it. -/
theorem reserved_iff_handedOut (hb : b.Reserves reserved) (he : e.Honours reserved) (c : ConnId) :
    (reserved c b.callers = false ∧ reserved c (b.step e).callers = true) ↔
      ∃ i l, l.id = c ∧ b.result? i = none ∧ (b.step e).result? i = some (.ok l) := by
  obtain ⟨i, s, hnone, hi, hothers, hall⟩ | ⟨hsame, hreleases⟩ := reservation_step hb he
  · obtain ⟨-, hafter, hfree⟩ := hall c
    constructor
    · rintro ⟨hbefore, hnow⟩
      rw [hafter, hbefore, Bool.or_false] at hnow
      obtain ⟨l, hl, hid⟩ := (Option.any_eq_true _ _).mp hnow
      refine ⟨i, l, by simpa using hid, hnone, ?_⟩
      unfold Balancer.result?
      rw [hi]
      exact Selection.granted_eq_some.mp hl
    · rintro ⟨j, l, rfl, hj, hok⟩
      have hij : j = i := by
        by_contra hne
        rw [hothers j hne, hj] at hok
        simp at hok
      rw [hij] at hok
      unfold Balancer.result? at hok
      rw [hi] at hok
      have hhanded : s.handed l.id = true := by
        unfold Selection.handed
        rw [Selection.granted_eq_some.mpr hok]
        simp
      rw [hafter, hhanded]
      exact ⟨hfree hhanded, rfl⟩
  · constructor
    · rintro ⟨hbefore, hnow⟩
      rw [hreleases c hnow] at hbefore
      simp at hbefore
    · rintro ⟨j, l, -, hj, hok⟩
      unfold Balancer.result? at hj hok
      rw [hsame, hj] at hok
      simp at hok

/-- What a step hands out was free or is reserved no more. -/
theorem handouts_step (hb : b.Reserves reserved) (he : e.Honours reserved) (c : ConnId) :
    (b.step e).handouts c + (reserved c b.callers).toNat =
      b.handouts c + (reserved c b.callers && !reserved c (b.step e).callers).toNat +
        (reserved c (b.step e).callers).toNat := by
  obtain ⟨i, s, -, -, -, hall⟩ | ⟨hsame, hreleases⟩ := reservation_step hb he
  · obtain ⟨hcount, hafter, hfree⟩ := hall c
    rw [hcount, hafter]
    cases hh : s.handed c with
    | true =>
      rw [hfree hh]
      rfl
    | false =>
      cases reserved c b.callers with
      | true => rfl
      | false => rfl
  · have hcount : (b.step e).handouts c = b.handouts c := by
      unfold Balancer.handouts
      rw [hsame]
    rw [hcount]
    cases hnow : reserved c (b.step e).callers with
    | true =>
      rw [hreleases c hnow]
      rfl
    | false =>
      cases reserved c b.callers with
      | true => rfl
      | false => rfl

/-- **A connection is handed out once for each reservation**, over any run. -/
theorem handouts_run : ∀ (events : List (Event α σ)) (b : Balancer α σ), b.Reserves reserved →
    (∀ e ∈ events, e.Honours reserved) → (b.run events).Reserves reserved ∧
      ∀ c, (b.run events).handouts c + (reserved c b.callers).toNat =
        b.handouts c + b.releases reserved c events + (reserved c (b.run events).callers).toNat
  | [], b, hb, _ => ⟨hb, fun _ => rfl⟩
  | e :: events, b, hb, he => by
    obtain ⟨hfirst, hlater⟩ := List.forall_mem_cons.mp he
    obtain ⟨hreserves, hrest⟩ := handouts_run events (b.step e) (reserves_step hb hfirst) hlater
    refine ⟨hreserves, fun c => ?_⟩
    have hone := handouts_step hb hfirst c
    have hrest := hrest c
    have hrun : b.run (e :: events) = (b.step e).run events := rfl
    rw [hrun, Balancer.releases]
    omega

end
end HostRotation
