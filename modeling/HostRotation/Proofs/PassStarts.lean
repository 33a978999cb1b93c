/-
# Where passes start

The rotation is asked once for every pass that begins, whoever begins it and
whatever happens in between, so the starts of the passes along a run are those of
consecutive questions (`passStarts_run`). Over tables of one size they go round the
table one host after the other, and so they fall evenly on its places.

The counter is one 64-bit word. Where it wraps around, the starts jump unless the
size of the table divides the number of words. The starts before and after the
jump each fall evenly, so all of them together are at most one off
(`rotation_fair`).

Key definitions: `Balancer.passStart?`, `Balancer.passStarts`.
-/
import HostRotation.Proofs.Connects
import Mathlib.Data.Int.CardIntervalMod

namespace HostRotation

variable {α σ : Type}

/-- A pass that begins: among how many hosts, and at which place of the table. -/
structure PassStart where
  hosts : Nat
  place : Nat
deriving DecidableEq

namespace Balancer

/-- The pass that begins in the step of an event. -/
def passStart? (b : Balancer α σ) : Event α σ → Option PassStart
  | .select _ =>
    if b.isClosed then none
    else (b.rotation.start? b.table.length).map fun start => ⟨b.table.length, start⟩
  | _ => none

/-- The passes that begin along a run, in order. -/
def passStarts [DecidableEq α] (b : Balancer α σ) : List (Event α σ) → List PassStart
  | [] => []
  | e :: events => (b.passStart? e).toList ++ (b.step e).passStarts events

end Balancer

/-! ### Consecutive starts -/

theorem lt_of_start? {r : Rotation} {hosts place : Nat} (hs : r.start? hosts = some place) :
    place < hosts := by
  unfold Rotation.start? at hs
  split at hs
  · cases hs
  · rename_i hpos
    obtain rfl := Option.some.inj hs
    exact Nat.mod_lt _ (Nat.pos_of_ne_zero hpos)

/-- The starts over tables of one size, place by place. -/
theorem starts_replicate (hosts : Nat) : ∀ (n : Nat) (r : Rotation), 0 < hosts →
    r.starts (List.replicate n hosts) =
      (List.range n).map fun i => some ((r.counter.toNat + i) % UInt64.size % hosts)
  | 0, _, _ => rfl
  | n + 1, r, hpos => by
    have hfirst : r.start? hosts = some (r.counter.toNat % UInt64.size % hosts) := by
      rw [Nat.mod_eq_of_lt r.counter.toNat_lt_size]
      exact if_neg (Nat.ne_of_gt hpos)
    have hnext (i : Nat) : (r.advance.counter.toNat + i) % UInt64.size =
        (r.counter.toNat + (i + 1)) % UInt64.size := by
      rw [Rotation.advance, UInt64.toNat_add, UInt64.toNat_one, Nat.add_comm i 1, ← Nat.add_assoc]
      exact Nat.mod_add_mod _ _ _
    rw [List.replicate_succ, Rotation.starts, starts_replicate hosts n r.advance hpos,
      List.range_succ_eq_map, List.map_cons, List.map_map, hfirst]
    refine congrArg _ (List.map_congr_left fun i _ => ?_)
    rw [hnext i]
    rfl

/-- Of so many places in a row, as many fall on each entry of a cycle, or one
more. -/
theorem count_cyclic {size p : Nat} (hp : p < size) (start n : Nat) :
    Nat.count (fun i => (start + i) % size = p) n = n / size ∨
      Nat.count (fun i => (start + i) % size = p) n = (n + size - 1) / size := by
  have hpos : 0 < size := Nat.zero_lt_of_lt hp
  -- The place at a distance of `p - start`, written without subtraction.
  have hplace (i : Nat) : (start + i) % size = p ↔ i ≡ p + start * (size - 1) [MOD size] := by
    have hround : start + (p + start * (size - 1)) = p + start * size := by
      obtain ⟨m, rfl⟩ : ∃ m, size = m + 1 := ⟨size - 1, by omega⟩
      rw [Nat.add_sub_cancel]
      ring
    have hmod : (start + (p + start * (size - 1))) % size = p := by
      rw [hround, Nat.add_mul_mod_self_right, Nat.mod_eq_of_lt hp]
    calc (start + i) % size = p
      _ ↔ start + i ≡ start + (p + start * (size - 1)) [MOD size] := by rw [Nat.ModEq, hmod]
      _ ↔ i ≡ p + start * (size - 1) [MOD size] := Nat.ModEq.add_iff_left rfl
  have hcount : Nat.count (fun i => (start + i) % size = p) n =
      n / size + if (p + start * (size - 1)) % size < n % size then 1 else 0 := by
    simp only [hplace]
    exact Nat.count_modEq_card n hpos _
  rw [hcount]
  split
  · rename_i hlt
    -- There is a remainder, so the quotient is rounded up.
    have hrest : n + size - 1 = (n % size - 1) + size * (n / size + 1) := by
      have hn := Nat.div_add_mod n size
      rw [Nat.mul_add]
      omega
    have hsmall : n % size - 1 < size := Nat.lt_of_le_of_lt (Nat.sub_le _ _) (Nat.mod_lt n hpos)
    rw [hrest, Nat.add_mul_div_left _ _ hpos, Nat.div_eq_of_lt hsmall, Nat.zero_add]
    exact .inr rfl
  · exact .inl rfl

theorem count_congr {p q : Nat → Prop} [DecidablePred p] [DecidablePred q] {n : Nat}
    (h : ∀ i < n, p i ↔ q i) : Nat.count p n = Nat.count q n :=
  le_antisymm (Nat.count_mono_left fun i hi => (h i hi).mp)
    (Nat.count_mono_left fun i hi => (h i hi).mpr)

/-- How often a place comes, in products instead of quotients. -/
theorem count_cyclic_bounds {size p : Nat} (hp : p < size) (start n : Nat) :
    let count := Nat.count (fun i => (start + i) % size = p) n
    n < size * (count + 1) ∧ size * count < n + size := by
  intro count
  have hpos : 0 < size := Nat.zero_lt_of_lt hp
  obtain hcount | hcount : count = n / size ∨ count = (n + size - 1) / size :=
    count_cyclic hp start n
  · have hle : size * (n / size) ≤ n := Nat.mul_div_le n size
    rw [hcount]
    exact ⟨Nat.lt_mul_div_succ n hpos, by omega⟩
  · have hle : size * ((n + size - 1) / size) ≤ n + size - 1 := Nat.mul_div_le _ size
    have hlt : n + size - 1 < size * ((n + size - 1) / size + 1) := Nat.lt_mul_div_succ _ hpos
    rw [hcount]
    exact ⟨by omega, by omega⟩

/-- The same for a start that is counted in words and may wrap around once. -/
theorem count_wrapped_bounds {words size p : Nat} (hp : p < size) {start n : Nat}
    (hstart : start < words) (hn : n ≤ words) :
    let count := Nat.count (fun i => (start + i) % words % size = p) n
    n < size * (count + 2) ∧ size * count < n + 2 * size := by
  intro count
  by_cases hlast : start + n ≤ words
  · have hsame : count = Nat.count (fun i => (start + i) % size = p) n := by
      refine count_congr fun i hi => ?_
      rw [Nat.mod_eq_of_lt (show start + i < words by omega)]
    obtain ⟨hlower, hupper⟩ := count_cyclic_bounds hp start n
    rw [← hsame] at hlower hupper
    rw [Nat.mul_add] at hlower ⊢
    omega
  · -- The last word is among them: some places come before it and some after.
    obtain ⟨rest, hrest⟩ : ∃ rest, n = (words - start) + rest := ⟨n - (words - start), by omega⟩
    have hbefore : Nat.count (fun i => (start + i) % words % size = p) (words - start) =
        Nat.count (fun i => (start + i) % size = p) (words - start) := by
      refine count_congr fun i hi => ?_
      rw [Nat.mod_eq_of_lt (show start + i < words by omega)]
    have hafter : Nat.count (fun i => (start + (words - start + i)) % words % size = p) rest =
        Nat.count (fun i => (0 + i) % size = p) rest := by
      refine count_congr fun i hi => ?_
      rw [← Nat.add_assoc, Nat.add_sub_cancel' (Nat.le_of_lt hstart), Nat.add_mod_left,
        Nat.mod_eq_of_lt (show i < words by omega), Nat.zero_add]
    have hsplit : count = Nat.count (fun i => (start + i) % size = p) (words - start) +
        Nat.count (fun i => (0 + i) % size = p) rest := by
      simp only [count]
      rw [hrest, Nat.count_add, hbefore, hafter]
    obtain ⟨hlower, hupper⟩ := count_cyclic_bounds hp start (words - start)
    obtain ⟨hlower', hupper'⟩ := count_cyclic_bounds hp 0 rest
    rw [hsplit]
    simp only [Nat.mul_add] at hlower hlower' ⊢
    omega

/-! ### The passes of a run -/

open Balancer

section

variable {b : Balancer α σ} {e : Event α σ} {o : PassStart}

theorem passStart?_eq_some (ho : b.passStart? e = some o) : (∃ accepts, e = .select accepts) ∧
    b.isClosed = false ∧ o.hosts = b.table.length ∧
      b.rotation.start? o.hosts = some o.place := by
  cases e with
  | select accepts =>
    cases hc : b.isClosed with
    | true => simp [passStart?, hc] at ho
    | false =>
      simp only [passStart?, hc, Bool.false_eq_true, ↓reduceIte] at ho
      obtain ⟨start, hstart, rfl⟩ := Option.map_eq_some_iff.mp ho
      exact ⟨⟨accepts, rfl⟩, rfl, rfl, hstart⟩
  | _ => cases ho

variable [DecidableEq α]

/-- A pass comes to the first of the hosts that are left. -/
theorem head?_visits (b : Balancer α σ) (accepts : Selector (Link α) σ) (hs : List HostId) :
    ((b.visits accepts hs).head?).map Visit.host = hs.head? := by
  cases hs with
  | nil => rfl
  | cons h rest =>
    unfold visits
    split
    · rfl
    · split <;> rfl

/-- The first host that a pass comes to is the one at its start. -/
theorem first_visit (ho : b.passStart? e = some o) :
    ((b.visitsIn b.selections.length e).head?).map Visit.host = b.table[o.place]? := by
  obtain ⟨⟨accepts, rfl⟩, hopen, hhosts, hstart⟩ := passStart?_eq_some ho
  rw [hhosts] at hstart
  have hlt : o.place < b.table.length := lt_of_start? hstart
  have hpos : 0 < b.table.length := Nat.zero_lt_of_lt hlt
  have horder : b.itinerary = cyclicFrom o.place b.table := by
    simp only [itinerary, hopen, hstart, Bool.false_eq_true, ↓reduceIte]
  have hhead : b.itinerary.head? = b.table[o.place]? := by
    have hfirst := getElem?_cyclicFrom hlt hpos
    rwa [Nat.add_zero, Nat.mod_eq_of_lt hlt, ← horder, ← List.head?_eq_getElem?] at hfirst
  rw [← hhead, visitsIn, if_pos rfl]
  exact head?_visits _ accepts b.itinerary

theorem Turn.rotation {i : SelectionId} {s : Selection α σ} {r : Balancer α σ × Selection α σ}
    (ht : Turn b e i s r) : r.1.rotation =
      if (b.passStart? e).isSome then b.rotation.advance else b.rotation := by
  cases ht with
  | refused hc => simp [passStart?, hc]
  | hostless ho ht =>
    simp only [passStart?, ho, ht, Rotation.start?]
    rfl
  | begins ho hs hp =>
    obtain ⟨_, _, _, _, _, _, _, _, heq, -⟩ := hp.footprint
    simp [passStart?, ho, hs, heq]
  | @connected _ _ _ h _ _ host b' l _ _ _ ho =>
    obtain ⟨connections, rfl⟩ := connections_of_obtain ho
    obtain ⟨_, _, _, _, _, heq, -⟩ := { b with connections }.poolAndOffer_footprint h s l
    rw [heq]
    rfl
  | @failed _ _ _ h _ _ _ _ _ _ _ hp _ =>
    obtain ⟨_, _, _, _, _, hfailed, -⟩ := b.connectFailed_footprint h
    obtain ⟨_, _, _, _, _, _, _, _, heq, -⟩ := hp.footprint
    rw [heq, hfailed]
    rfl
  | late => rfl

/-- The rotation advances in a step just when a pass begins. -/
theorem rotation_passStart (b : Balancer α σ) (e : Event α σ) : (b.step e).rotation =
    if (b.passStart? e).isSome then b.rotation.advance else b.rotation := by
  by_cases hs : e.Selects
  · cases e with
    | select accepts =>
      obtain ⟨r, ht, heq⟩ := turn_select (b := b) accepts
      rw [show b.step (.select accepts) = _ from heq]
      exact ht.rotation
    | dialled i outcome =>
      obtain heq | ⟨s, r, -, ht, heq⟩ := turn_dialled (b := b) i outcome
      · exact congrArg Balancer.rotation heq
      · rw [show b.step (.dialled i outcome) = _ from heq]
        exact ht.rotation
    | discarded i =>
      obtain heq | ⟨s, r, -, ht, heq⟩ := turn_discarded (b := b) i
      · exact congrArg Balancer.rotation heq
      · rw [show b.step (.discarded i) = _ from heq]
        exact ht.rotation
    | _ => exact hs.elim
  · obtain ⟨_, _, _, _, _, _, _, _, _, _, _, _, _, _, heq, -, -⟩ := b.outside_footprint hs
    have hnone : b.passStart? e = none := by
      cases e with
      | select => exact absurd trivial hs
      | _ => rfl
    rw [heq, hnone]
    rfl

/-- **The starts of passes are consecutive.** Whatever else happens along a run,
each pass that begins asks the rotation next. -/
theorem passStarts_run (b : Balancer α σ) (events : List (Event α σ)) :
    (b.passStarts events).map (fun o => some o.place) =
      b.rotation.starts ((b.passStarts events).map PassStart.hosts) := by
  induction events generalizing b with
  | nil => rfl
  | cons e events ih =>
    have hstep := rotation_passStart b e
    cases ho : b.passStart? e with
    | none =>
      rw [ho] at hstep
      have ih := ih (b.step e)
      rw [hstep] at ih
      simpa [passStarts, ho] using ih
    | some o =>
      rw [ho] at hstep
      have ih := ih (b.step e)
      rw [hstep] at ih
      obtain ⟨-, -, -, hstart⟩ := passStart?_eq_some ho
      simpa [passStarts, ho, Rotation.starts, hstart] using ih

end

/-- **Rotation is fair.** Ask a rotation so many times in a row, from any value of
its counter on, where a pass over so many hosts starts. Each answer is a place of
the table. If the counter does not wrap around in between, each place is the
answer equally often, the quotient rounded down or up; if it does, once, each is
so up to one more or less.

The passes that begin along a run of a balancer over tables of this size are such
questions in a row, whatever happens in between and whichever selections begin
them, and each pass first comes to the host at the place where it starts. -/
theorem rotation_fair [DecidableEq α] (r : Rotation) {hosts : Nat} (hpos : 0 < hosts) (n : Nat) :
    let starts := r.starts (List.replicate n hosts)
    (∀ s ∈ starts, ∃ p < hosts, s = some p) ∧
    (r.counter.toNat + n ≤ UInt64.size → ∀ p < hosts,
      starts.count (some p) = n / hosts ∨ starts.count (some p) = (n + hosts - 1) / hosts) ∧
    (n ≤ UInt64.size → ∀ p < hosts,
      n / hosts ≤ starts.count (some p) + 1 ∧
        starts.count (some p) ≤ (n + hosts - 1) / hosts + 1) ∧
    ∀ (b : Balancer α σ) (events : List (Event α σ)), b.rotation = r →
      (b.passStarts events).map PassStart.hosts = List.replicate n hosts →
      (b.passStarts events).map (fun o => some o.place) = starts ∧
      ∀ before e after, events = before ++ e :: after → ∀ o, (b.run before).passStart? e = some o →
        (((b.run before).visitsIn (b.run before).selections.length e).head?).map Visit.host =
          (b.run before).table[o.place]? := by
  intro starts
  have hstarts := starts_replicate hosts n r hpos
  have hcount (p : Nat) : starts.count (some p) =
      Nat.count (fun i => (r.counter.toNat + i) % UInt64.size % hosts = p) n := by
    simp only [starts, hstarts]
    refine List.countP_map.trans (List.countP_congr fun i _ => ?_)
    simp
  refine ⟨fun s hs => ?_, fun hn p hp => ?_, fun hn p hp => ?_,
    fun b events hr hsizes => ⟨?_, fun before e after _ o ho => first_visit ho⟩⟩
  · simp only [starts, hstarts] at hs
    obtain ⟨i, -, rfl⟩ := List.mem_map.mp hs
    exact ⟨_, Nat.mod_lt _ hpos, rfl⟩
  · have hsame : Nat.count (fun i => (r.counter.toNat + i) % UInt64.size % hosts = p) n =
        Nat.count (fun i => (r.counter.toNat + i) % hosts = p) n := by
      refine count_congr fun i hi => ?_
      rw [Nat.mod_eq_of_lt (show r.counter.toNat + i < UInt64.size by omega)]
    rw [hcount, hsame]
    exact count_cyclic hp _ n
  · obtain ⟨hlower, hupper⟩ := count_wrapped_bounds hp r.counter.toNat_lt_size hn
    rw [← hcount] at hlower hupper
    constructor
    · refine Nat.le_of_lt_succ ((Nat.div_lt_iff_lt_mul hpos).mpr ?_)
      rwa [Nat.mul_comm]
    · refine Nat.le_add_of_sub_le ((Nat.le_div_iff_mul_le hpos).mpr ?_)
      rw [Nat.mul_comm, Nat.mul_sub]
      omega
  · have hall := passStarts_run b events
    rwa [hr, hsizes] at hall

/-- Three hosts appear. -/
def threeHosts : List (Event Nat Unit) :=
  [.startReconciler,
    .deliver (.batch [⟨1, .available⟩, ⟨2, .available⟩, ⟨3, .available⟩]), .takeNotice]

/-- Two words are left before the counter wraps around. -/
def lastWords : Rotation := ⟨18446744073709551614⟩

/-- Three selections begin, and the connect of one ends in between. -/
def interleaved : List (Event Nat Unit) :=
  [.select (.pure fun _ => true), .select (.pure fun _ => true), .dialled 1 .opened,
    .select (.pure fun _ => true)]

/-- Where the counter wraps around, the first host is the start twice in a row, and
the second is left out. -/
theorem rotation_fair_lastWords :
    let b := { (freshBalancer true).run threeHosts with rotation := lastWords }
    lastWords.starts (List.replicate 3 3) = [some 2, some 0, some 0] ∧
      (b.passStarts interleaved).map (fun o => some o.place) = [some 2, some 0, some 0] ∧
      ∀ p < 3, 3 / 3 ≤ [some 2, some 0, some 0].count (some p) + 1 ∧
        [some 2, some 0, some 0].count (some p) ≤ (3 + 3 - 1) / 3 + 1 := by
  intro b
  obtain ⟨-, -, hwrapped, hpasses⟩ :=
    rotation_fair (α := Nat) (σ := Unit) lastWords (show 0 < 3 by decide) 3
  have hstarts : lastWords.starts (List.replicate 3 3) = [some 2, some 0, some 0] := by decide
  have hsizes : (b.passStarts interleaved).map PassStart.hosts = List.replicate 3 3 := by
    decide +kernel
  rw [← hstarts]
  exact ⟨rfl, (hpasses b interleaved rfl hsizes).1, hwrapped (by decide)⟩

end HostRotation
