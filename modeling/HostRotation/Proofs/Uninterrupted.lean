/-
# Passes that nothing interrupts

A selection begins, and whenever it waits for a connect, the connect ends before
anything else happens (`Balancer.passAlone`). Then what the selection returns
and what becomes of every host is the one that can be told beforehand
(`pass_foretold`).

The proof follows the pass from host to host. Each stop either has no offer,
and the pass goes on with what the stop made of the balancer (`Trial.Vain`), or
it decides the pass.
-/
import HostRotation.Proofs.Stops

namespace HostRotation

variable {α σ : Type}

/-! ### Passes -/

namespace Balancer

section

variable [DecidableEq α]

/-- Every connect that a selection waits for ends at once, up to `n` of them. -/
def awaitEnd (i : SelectionId) (outcome : HostId → DialOutcome) : Nat → Balancer α σ → Balancer α σ
  | 0, b => b
  | n + 1, b =>
    match b.dialling? i with
    | none => b
    | some h => awaitEnd i outcome n (b.dialled i (outcome h))

/-- A selection begins and nothing else happens until it ends: it does not begin
more connects than the table has hosts. -/
def passAlone (b : Balancer α σ) (accepts : Selector (Link α) σ)
    (outcome : HostId → DialOutcome) : Balancer α σ :=
  awaitEnd b.selections.length outcome b.table.length (b.select accepts)

variable {b : Balancer α σ} {i : SelectionId} {outcome : HostId → DialOutcome} {n : Nat}

theorem awaitEnd_of_none (hd : b.dialling? i = none) : awaitEnd i outcome n b = b := by
  cases n with
  | zero => rfl
  | succ n => simp [awaitEnd, hd]

theorem awaitEnd_of_some {h : HostId} (hd : b.dialling? i = some h) :
    awaitEnd i outcome (n + 1) b = awaitEnd i outcome n (b.dialled i (outcome h)) := by
  simp [awaitEnd, hd]

/-- Puts selection `i` back among the selections, as the last one. -/
def place (i : SelectionId) (r : Balancer α σ × Selection α σ) : Balancer α σ :=
  { r.1 with selections := r.1.selections.take i ++ [r.2] }

variable {r : Balancer α σ × Selection α σ}

omit [DecidableEq α]

theorem set_eq_place (hi : r.1.selections.length = i + 1) :
    { r.1 with selections := r.1.selections.set i r.2 } = place i r := by
  have hlt : i < r.1.selections.length := by
    rw [hi]
    exact Nat.lt_succ_self i
  have hdrop : r.1.selections.drop (i + 1) = [] := List.drop_eq_nil_of_le (Nat.le_of_eq hi)
  rw [place, List.set_eq_take_append_cons_drop, if_pos hlt, hdrop]

theorem selections_walk [DecidableEq α] (s : Selection α σ) (pass : Pass) (rest : List HostId) :
    (b.walk s pass rest).1.selections = b.selections := by
  obtain ⟨_, _, _, _, _, _, _, _, heq, -⟩ := (passage_walk rest b s pass).footprint
  rw [heq]

end

theorem selections_connectFailed (b : Balancer α σ) (h : HostId) :
    (b.connectFailed h).selections = b.selections := by
  obtain ⟨_, _, _, _, _, heq, -⟩ := b.connectFailed_footprint h
  rw [heq]

end Balancer

open Balancer

namespace Trial

/-- A selection while it is connecting to the host of a stop. -/
def dialling (st : Stop α) (s : Selection α σ) (pass : Pass) (rest : List HostId) :
    Selection α σ :=
  { s with phase := .connecting st.id { pass with attempted := pass.attempted + 1 } rest }

/-- The offer of a connection that was just opened to a selector that only looks at
it. -/
theorem offer_pure (t : Trial α σ) {b : Balancer α σ} (hsetup : b.setup = t.start.setup)
    {s : Selection α σ} (hs : s.accepts = .pure t.accepts) (l : Link α) : ∃ s',
    b.offer s l = ({ b with metrics := { b.metrics with
        created := b.metrics.created + 1
        rejections := b.metrics.rejections + if (t.verdict l).toBool then 0 else 1 } }, s') ∧
      s'.result? = some (t.verdict l) := by
  cases hp : t.accepts l <;>
    simp [Balancer.offer, Balancer.reject, hs, Selector.pure, hp, verdict, Except.toBool,
      Selection.finish, Selection.result?, hsetup]

section

variable [DecidableEq α] {t : Trial α σ} {b : Balancer α σ} {st : Stop α} {s : Selection α σ}
  {i : SelectionId} {before : List (Selection α σ)} {stops : List (Stop α)}

/-! ### A connect that ends -/

/-- The connect to the host of a stop ends. -/
theorem dialled_waiting (ht : t.Holds b) (hh : b.hosts[st.id]? = some st.host)
    (hi : before.length = i) (s : Selection α σ) (pass : Pass) (rest : List HostId)
    (tape : Tape) :
    let s' := dialling st s pass rest
    let waiting := t.waiting b st tape (before ++ [s'])
    let joined : Balancer α σ := { waiting with connections := (t.dial st).1.connections }
    let r : Balancer α σ × Selection α σ :=
      match (t.dial st).2 with
      | .ok l => joined.poolAndOffer s' st.id l
      | .error reason => (joined.connectFailed st.id).walk s'
          { pass with
            attempted := pass.attempted + 1
            lastError := some (.connectFailed (t.start.setup.describe st.host.address)
              (.foreign reason)) } rest
    waiting.dialled i (t.outcome st.id) =
      { r.1 with selections := r.1.selections.set i r.2 } := by
  intro s' waiting joined r
  have hs : waiting.selections[i]? = some s' := by simp [waiting, Trial.waiting, ← hi]
  have hphase : s'.phase = .connecting st.id { pass with attempted := pass.attempted + 1 } rest :=
    rfl
  have hhost : waiting.hosts[st.id]? = some (t.pruned st) := getElem?_searched hh tape
  have hw : t.Holds waiting := ⟨ht.setup, ht.connections⟩
  have hdescribe : waiting.setup.describe = t.start.setup.describe := by rw [hw.setup]
  simp only [dialled, hs, hphase, hhost, address_pruned, hw.dial, r]
  cases (t.dial st).2 with
  | ok l => rfl
  | error reason =>
    simp only [hdescribe]
    rfl

/-- A connect that is refused sends the pass on. -/
theorem dialled_refused (ht : t.Holds b) (hh : b.hosts[st.id]? = some st.host)
    (hi : before.length = i) (ha : st.isActive = true) (ho : t.offer st = none)
    (s : Selection α σ) (pass : Pass) (rest : List HostId) (tape : Tape) :
    let s' := dialling st s pass rest
    let waiting := t.waiting b st tape (before ++ [s'])
    waiting.dialled i (t.outcome st.id) = place i ((waiting.connectFailed st.id).walk s'
      { pass with attempted := pass.attempted + 1, lastError := some (t.failure st) } rest) := by
  intro s' waiting
  obtain ⟨reason, hdial, hfailure⟩ := dial_of_none ha ho
  have hsame : { waiting with connections := t.start.connections } = waiting := by
    rw [← ht.connections]
    rfl
  rw [dialled_waiting ht hh hi s pass rest tape]
  simp only [hdial, hfailure]
  rw [hsame]
  refine set_eq_place ?_
  rw [selections_walk, selections_connectFailed]
  simp [waiting, Trial.waiting, hi]

/-! ### The end of a pass -/

/-- Selection `i`, which is the last one, ended as it was foretold. -/
def Ended (t : Trial α σ) (i : SelectionId) (b : Balancer α σ) (pass : Pass)
    (stops : List (Stop α)) (b' : Balancer α σ) : Prop :=
  ∃ r s', Foretold t b pass stops b' r ∧ b'.selections = b.selections.take i ++ [s'] ∧
    s'.result? = some r

/-- Nothing more happens to a selection that ended. -/
theorem Ended.awaitEnd {pass : Pass} {b' : Balancer α σ} (he : Ended t i b pass stops b')
    (hi : i ≤ b.selections.length) (n : Nat) : Balancer.awaitEnd i t.outcome n b' = b' := by
  obtain ⟨r, s', -, hselections, hresult⟩ := he
  have hs : b'.selections[i]? = some s' := by simp [hselections, hi]
  refine awaitEnd_of_none ?_
  unfold Selection.result? at hresult
  unfold dialling?
  rw [hs]
  cases hp : s'.phase <;> simp_all

/-- The pass visited every host in vain. -/
theorem ended_nil (ht : t.Holds b) (i : SelectionId) (s : Selection α σ) (pass : Pass) :
    Ended t i b pass [] (place i (b.endPass s pass)) := by
  have hsecond : (b.endPass s pass).2 = s.finish (t.resultFrom [] pass) := by
    unfold endPass
    split <;> simp_all [resultFrom, reject, ht.setup]
  have hfails : (t.resultFrom [] pass).toBool = false := by
    simp only [resultFrom, List.findSome?_nil]
    split <;> rfl
  have hcounters := (b.counters_endPass s pass).1
  obtain ⟨tasks, monitor, metrics, tape, heq, -⟩ := b.endPass_footprint s pass
  rw [heq] at hcounters
  have hplaced : place i (b.endPass s pass) = { b with
      tasks, monitor, metrics, tape
      selections := b.selections.take i ++ [s.finish (t.resultFrom [] pass)] } := by
    simp only [place, heq, hsecond]
  rw [hplaced]
  refine ⟨t.resultFrom [] pass, _, ⟨rfl, ?_, ?_, ?_, ?_, ?_, ?_, rfl⟩, rfl, rfl⟩
  · simp [visited, upTo]
  · simp
  · simp [visited, upTo]
  · simp [visited, upTo]
  · simp [visited, upTo]
  · rw [hfails]
    simpa [visited, upTo, Metrics.counters] using hcounters

/-- A connect that succeeds ends the pass. -/
theorem ended_opened (ht : t.Holds b) (hh : b.hosts[st.id]? = some st.host) {l : Link α}
    (ho : t.offer st = some (.opened l)) (hs : s.accepts = .pure t.accepts)
    (hi : i ≤ b.selections.length) (pass : Pass) (rest : List HostId) (tape : Tape)
    (stops : List (Stop α)) :
    Ended t i b pass (st :: stops)
      ((t.waiting b st tape (b.selections.take i ++ [dialling st s pass rest])).dialled i
        (t.outcome st.id)) := by
  obtain ⟨ha, -, hdial⟩ := dial_of_offer ho
  have hactive : st.host.status = .active := by simpa [Stop.isActive] using ha
  have hlen : (b.selections.take i).length = i := List.length_take_of_le hi
  let s' := dialling st s pass rest
  let joined : Balancer α σ := { t.waiting b st tape (b.selections.take i ++ [s']) with
    connections := (t.dial st).1.connections }
  have hhost : joined.hosts[st.id]? = some (t.pruned st) := getElem?_searched hh tape
  have hne : (t.pruned st).status ≠ .closed ∧ (t.pruned st).status ≠ .unhealthy := by
    simp [hactive]
  have hw : (joined.setHost st.id ((t.pruned st).add l).1).setup = t.start.setup := ht.setup
  obtain ⟨s'', hoffer, hresult⟩ := offer_pure t hw (show s'.accepts = _ from hs) l
  rw [dialled_waiting ht hh hlen s pass rest tape, hdial]
  dsimp only
  rw [poolAndOffer_of_ne hhost s' l hne.1 hne.2, hoffer]
  refine ⟨_, s'', foretold_opened hh ho pass stops tape _, ?_, hresult⟩
  simp [setHost, joined, waiting, hlen]

/-! ### From host to host -/

/-- What a stop makes of the pass of selection `i`: its end, or a pass over the
hosts that are left. -/
inductive Onward (t : Trial α σ) (i : SelectionId) (b : Balancer α σ) (pass : Pass) (st : Stop α)
    (rest : List HostId) : Balancer α σ → Prop
  | ends {b' : Balancer α σ} (h : ∀ stops, Ended t i b pass (st :: stops) b') :
    Onward t i b pass st rest b'
  | goesOn {b₁ : Balancer α σ} {s₁ : Selection α σ} {pass₁ : Pass} {n : Nat}
    (hv : Vain t b pass st b₁ pass₁) (hs : s₁.accepts = .pure t.accepts)
    (hi : i ≤ b₁.selections.length)
    (hkept : b₁.selections.take i = b.selections.take i) (hn : rest.length ≤ n) :
    Onward t i b pass st rest (Balancer.awaitEnd i t.outcome n (place i (b₁.walk s₁ pass₁ rest)))

variable {n : Nat} {rest : List HostId}

/-- A selection waits for the connect to a host, which ends. -/
theorem onward_waiting (ht : t.Holds b) (hh : b.hosts[st.id]? = some st.host)
    (hs : s.accepts = .pure t.accepts) (hi : i ≤ b.selections.length) (hn : rest.length < n)
    (ha : st.isActive = true) (hf : t.found st = none) (pass : Pass) (tape : Tape) :
    Onward t i b pass st rest (Balancer.awaitEnd i t.outcome n
      (t.waiting b st tape (b.selections.take i ++ [dialling st s pass rest]))) := by
  have hlen : (b.selections.take i).length = i := List.length_take_of_le hi
  let waiting := t.waiting b st tape (b.selections.take i ++ [dialling st s pass rest])
  have hdialling : waiting.dialling? i = some st.id := by
    simp [dialling?, waiting, Trial.waiting, dialling, hlen]
  obtain ⟨n, rfl⟩ := Nat.exists_eq_succ_of_ne_zero (Nat.ne_zero_of_lt hn)
  rw [awaitEnd_of_some hdialling]
  cases ho : t.offer st with
  | none =>
    have hselections : (waiting.connectFailed st.id).selections =
        b.selections.take i ++ [dialling st s pass rest] := selections_connectFailed waiting st.id
    rw [dialled_refused ht hh hlen ha ho]
    refine .goesOn (vain_of_active ht hh ha ho tape _ pass) hs ?_ ?_ (Nat.le_of_lt_succ hn)
    · simp [waiting, hselections, hlen]
    · simp [waiting, hselections, hlen]
  | some o =>
    obtain ⟨l, rfl⟩ : ∃ l, o = .opened l := by
      simp only [offer, Stop.isUsable_of_isActive ha, hf, ha, ↓reduceIte,
        Option.map_eq_some_iff] at ho
      exact ho.imp fun _ h => h.2.symm
    refine .ends fun stops => ?_
    have hended := ended_opened ht hh ho hs hi pass rest tape stops
    rwa [hended.awaitEnd hi]

/-- What the pass of a selection comes to at the next host. -/
theorem onward_walk {h : HostId} {host : Host α (Link α)} (ht : t.Holds b)
    (hh : b.hosts[h]? = some host) (hs : s.accepts = .pure t.accepts)
    (hi : i ≤ b.selections.length) (hn : rest.length < n) (pass : Pass) :
    ∃ drawn, t.IsAt b ⟨h, host, drawn⟩ ∧ Onward t i b pass ⟨h, host, drawn⟩ rest
      (Balancer.awaitEnd i t.outcome n (place i (b.walk s pass (h :: rest)))) := by
  cases hu : host.isUsable with
  | false =>
    have hat := isAt_sample t hh
    refine ⟨_, hat, ?_⟩
    have hwalk : b.walk s pass (h :: rest) = b.walk s pass rest := by simp [walk, hh, hu]
    have hv := t.vain_of_inactive hat.host (Stop.not_isActive hu) (by simp [offer, hu]) b.tape pass
    rw [searched_of_unusable hat.host hu] at hv
    rw [hwalk]
    exact .goesOn hv hs hi rfl hn.le
  | true =>
    -- The draw is the one that the search took from the tape.
    obtain ⟨drawn, tape, f, hat, hsearch, hfound⟩ := searchHost_eq ht hh hu
    refine ⟨drawn, hat, ?_⟩
    let st : Stop α := ⟨h, host, drawn⟩
    let s' := s.noteShown f.shown
    cases hf : t.found st with
    | some l =>
      have ho : t.offer st = some (.pooled l) := by simp [offer, st, hu, hf]
      have hwalk : b.walk s pass (h :: rest) = (t.searched b st tape, s'.finish (.ok l)) := by
        simp only [walk, hh, hu, ↓reduceIte, hs, hsearch, hfound.trans hf, st, s']
      have hended (stops : List (Stop α)) : Ended t i b pass (st :: stops)
          (place i (b.walk s pass (h :: rest))) := by
        rw [hwalk]
        exact ⟨_, _, foretold_pooled hat.host ho pass stops tape _, rfl, rfl⟩
      refine .ends fun stops => ?_
      rw [(hended stops).awaitEnd hi]
      exact hended stops
    | none =>
      have hwalk : b.walk s pass (h :: rest) =
          if st.isActive then (t.searched b st tape).beginDial s' h host.address pass rest
          else (t.searched b st tape).walk s' pass rest := by
        simp only [walk, hh, hu, ↓reduceIte, hs, hsearch, hfound.trans hf, st, s', Stop.isActive,
          decide_eq_true_eq]
      rw [hwalk]
      cases ha : st.isActive with
      | false =>
        have ho : t.offer st = none := by simp [offer, hf, ha]
        exact .goesOn (vain_of_inactive hat.host ha ho tape pass) hs hi rfl hn.le
      | true =>
        have hs' : s'.accepts = .pure t.accepts := hs
        exact onward_waiting ht hat.host hs' hi hn ha hf pass tape

end

/-- There are stops at any hosts. -/
theorem exists_stops (t : Trial α σ) {b : Balancer α σ} : ∀ (rest : List HostId),
    (∀ h ∈ rest, ∃ host, b.hosts[h]? = some host) →
    ∃ stops : List (Stop α), stops.map Stop.id = rest ∧ ∀ st ∈ stops, t.IsAt b st
  | [], _ => ⟨[], rfl, by simp⟩
  | h :: rest, hhosts => by
    obtain ⟨host, hh⟩ := hhosts h List.mem_cons_self
    obtain ⟨stops, hids, hats⟩ := exists_stops t rest fun h hm =>
      hhosts h (List.mem_cons_of_mem _ hm)
    exact ⟨_ :: stops, by rw [List.map_cons, hids],
      List.forall_mem_cons.mpr ⟨isAt_sample t hh, hats⟩⟩

section

variable [DecidableEq α] {t : Trial α σ} {i : SelectionId}

/-- A pass over the hosts that are left comes to what was foretold. -/
theorem ended_walk : ∀ (rest : List HostId) {b : Balancer α σ} {s : Selection α σ} (pass : Pass)
    {n : Nat}, rest.Nodup → (∀ h ∈ rest, ∃ host, b.hosts[h]? = some host) → rest.length ≤ n →
    t.Holds b → s.accepts = .pure t.accepts → i ≤ b.selections.length →
    ∃ stops : List (Stop α), stops.map Stop.id = rest ∧ (∀ st ∈ stops, t.IsAt b st) ∧
      Ended t i b pass stops (Balancer.awaitEnd i t.outcome n (place i (b.walk s pass rest)))
  | [], b, s, pass, n, _, _, _, ht, _, hi => by
    have hended := ended_nil ht i s pass
    refine ⟨[], rfl, by simp, ?_⟩
    change Ended t i b pass [] (Balancer.awaitEnd i t.outcome n (place i (b.endPass s pass)))
    rwa [hended.awaitEnd hi]
  | h :: rest, b, s, pass, n, hnd, hhosts, hn, ht, hs, hi => by
    obtain ⟨hout, hnd⟩ := List.nodup_cons.mp hnd
    obtain ⟨host, hh⟩ := hhosts h List.mem_cons_self
    obtain ⟨drawn, hat, honward⟩ := onward_walk ht hh hs hi (Nat.lt_of_succ_le hn) pass
    generalize Balancer.awaitEnd i t.outcome n (place i (b.walk s pass (h :: rest))) = b'
      at honward ⊢
    cases honward with
    | ends hended =>
      -- No host after this one is visited, so any draws of their pools will do.
      obtain ⟨stops, hids, hats⟩ := exists_stops t rest fun h' hm =>
        hhosts h' (List.mem_cons_of_mem _ hm)
      exact ⟨_ :: stops, by rw [List.map_cons, hids], List.forall_mem_cons.mpr ⟨hat, hats⟩,
        hended stops⟩
    | @goesOn b₁ s₁ pass₁ n₁ hv hs₁ hi₁ hkept hn₁ =>
      -- The stop changed its own host alone, so the others are as they were.
      have hsame {h' : HostId} (hm : h' ∈ rest) : b₁.hosts[h']? = b.hosts[h']? :=
        hv.unvisited h' fun heq => hout (by rwa [heq] at hm)
      have hhosts₁ : ∀ h' ∈ rest, ∃ host, b₁.hosts[h']? = some host := fun h' hm => by
        rw [hsame hm]
        exact hhosts h' (List.mem_cons_of_mem _ hm)
      have ht₁ : t.Holds b₁ := by
        rw [hv.rest]
        exact ⟨ht.setup, ht.connections⟩
      obtain ⟨stops, hids, hats, r, s', hforetold, hselections, hresult⟩ :=
        ended_walk rest pass₁ hnd hhosts₁ hn₁ ht₁ hs₁ hi₁
      refine ⟨⟨h, host, drawn⟩ :: stops, by rw [List.map_cons, hids],
        List.forall_mem_cons.mpr ⟨hat, fun st hm => ?_⟩, r, s', ?_, ?_, hresult⟩
      · have hmem : st.id ∈ rest := hids ▸ List.mem_map_of_mem hm
        exact ⟨hsame hmem ▸ (hats st hm).host, (hats st hm).draw⟩
      · exact .cons hv hforetold (by rwa [hids])
      · rw [hselections, hkept]

end

end Trial

/-! ### The whole pass -/

section

variable [DecidableEq α] {b : Balancer α σ}

/-- A balancer when a pass over its table begins. -/
def Balancer.begun (b : Balancer α σ) : Balancer α σ :=
  { b with
    rotation := b.rotation.advance
    metrics := { b.metrics with selections := b.metrics.selections + 1 } }

theorem Balancer.select_eq_place (hopen : b.isClosed = false) (hne : b.table ≠ [])
    (accepts : Selector (Link α) σ) :
    b.select accepts = place b.selections.length (b.begun.walk { accepts }
      { size := b.table.length }
      (cyclicFrom (b.rotation.counter.toNat % b.table.length) b.table)) := by
  let r := b.begun.walk { accepts } { size := b.table.length }
    (cyclicFrom (b.rotation.counter.toNat % b.table.length) b.table)
  have hstart : b.rotation.start? b.table.length =
      some (b.rotation.counter.toNat % b.table.length) := if_neg (by simpa using hne)
  have hselect : b.select accepts = { r.1 with selections := r.1.selections ++ [r.2] } := by
    simp only [select, hopen, Bool.false_eq_true, ↓reduceIte, beginPass, hstart]
    rfl
  have htake : r.1.selections.take b.selections.length = r.1.selections := by
    rw [selections_walk]
    exact List.take_length
  rw [hselect, place, htake]

/-- A pass that nothing interrupts is a run of its balancer, in which the selection
begins and its connects end. -/
theorem Balancer.passAlone_eq_run (accepts : Selector (Link α) σ)
    (outcome : HostId → DialOutcome) : ∃ ends : List DialOutcome,
    b.passAlone accepts outcome =
      b.run (.select accepts :: ends.map (.dialled b.selections.length)) := by
  have hwait (n : Nat) : ∀ b' : Balancer α σ, ∃ ends : List DialOutcome,
      awaitEnd b.selections.length outcome n b' =
        b'.run (ends.map (.dialled b.selections.length)) := by
    induction n with
    | zero => exact fun _ => ⟨[], rfl⟩
    | succ n ih =>
      intro b'
      cases hd : b'.dialling? b.selections.length with
      | none => exact ⟨[], awaitEnd_of_none hd⟩
      | some h =>
        obtain ⟨ends, heq⟩ := ih (b'.dialled b.selections.length (outcome h))
        exact ⟨outcome h :: ends, (awaitEnd_of_some hd).trans heq⟩
  exact hwait b.table.length (b.select accepts)

/-- **A pass that nothing interrupts.** The table lists hosts that exist, each once,
as it does in every run (`tidy_run`), and at least one. Then for any statuses,
pools, draws and connect outcomes, and for a selector that only looks at
connections, the selection ends. Its pass stops at the hosts in cyclic order from
the place in the rotation. The first of them that offers a pooled connection, or
one that a connect opens, decides the result; if there is none, the result is the
error that counts the hosts, or the active hosts, with the last failed connect as
its source. Hosts are visited up to the one that decides, and each ends up as told
by `Trial.after`; every other host, and whatever else the balancer is about, stays
as it is. -/
theorem pass_foretold (hopen : b.isClosed = false) (hne : b.table ≠ []) (hnd : b.table.Nodup)
    (hhosts : ∀ h ∈ b.table, h < b.hosts.length) (accepts : Link α → Bool)
    (outcome : HostId → DialOutcome) :
    let t : Trial α σ := ⟨b, accepts, outcome⟩
    let b' := b.passAlone (.pure accepts) outcome
    (∃ ends : List DialOutcome, b' =
        b.run (.select (.pure accepts) :: ends.map (.dialled b.selections.length))) ∧
    ∃ (stops : List (Stop α)) (s : Selection α σ),
      stops.map Stop.id = cyclicFrom (b.rotation.counter.toNat % b.table.length) b.table ∧
      (∀ st ∈ stops, t.IsAt b st) ∧
      b'.selections = b.selections ++ [s] ∧ s.result? = some (t.result stops) ∧
      t.Foretold b.begun { size := b.table.length } stops b' (t.result stops) := by
  intro t b'
  let order := cyclicFrom (b.rotation.counter.toNat % b.table.length) b.table
  have hlength : order.length = b.table.length := length_cyclicFrom _ _
  have hexist : ∀ h ∈ order, ∃ host, b.begun.hosts[h]? = some host := fun h hm =>
    ⟨_, List.getElem?_eq_getElem (hhosts h (mem_cyclicFrom.mp hm))⟩
  have ht : t.Holds b.begun := ⟨rfl, rfl⟩
  obtain ⟨stops, hids, hats, r, s, hforetold, hselections, hresult⟩ :=
    Trial.ended_walk order (s := { accepts := .pure accepts }) { size := b.table.length }
      (nodup_cyclicFrom hnd _) hexist hlength.le ht rfl (Nat.le_refl b.selections.length)
  rw [← select_eq_place hopen hne] at hforetold hselections
  have hsize : stops.length = b.table.length := by rw [← hlength, ← hids, List.length_map]
  have hr : r = t.result stops := by
    rw [hforetold.result, ← hsize, t.resultFrom_start]
  have hbefore : b.begun.selections.take b.selections.length = b.selections := List.take_length
  rw [hbefore] at hselections
  exact ⟨passAlone_eq_run _ _, stops, s, hids, fun st hm => ⟨(hats st hm).host, (hats st hm).draw⟩,
    hselections, hr ▸ hresult, hr ▸ hforetold⟩

end

/-- The connect to the first host is refused, which makes it unhealthy; the connect
to the second one is not. -/
theorem pass_foretold_twoHosts :
    let b := (freshBalancer true).run twoHosts
    let outcome : HostId → DialOutcome := fun h => if h = 0 then .refused "down" else .opened
    let t : Trial Nat Unit := ⟨b, fun _ => true, outcome⟩
    let b' := b.passAlone (.pure fun _ => true) outcome
    ∃ stops : List (Stop Nat), stops.map Stop.id = [0, 1] ∧
      (t.result stops).toOption = some ⟨0, 2⟩ ∧ b'.result? 0 = some (t.result stops) ∧
      b'.attempts = [2, 1] ∧ b'.hosts.map Host.status = [.unhealthy, .active] := by
  intro b outcome t b'
  have horder : cyclicFrom (b.rotation.counter.toNat % b.table.length) b.table = [0, 1] := by
    decide
  obtain ⟨-, stops, s, hids, -, hselections, hresult, -⟩ :=
    pass_foretold (b := b) (by decide) (by decide) (by decide) (by decide) (fun _ => true) outcome
  have hfirst : b'.result? 0 = some (t.result stops) := by
    rw [Balancer.result?, hselections, ← hresult]
    rfl
  have hserved : (b'.result? 0).bind Except.toOption = some ⟨0, 2⟩ := by decide
  rw [hfirst] at hserved
  exact ⟨stops, hids.trans horder, hserved, hfirst, by decide, by decide⟩

end HostRotation
