/-
# Accounting for connections

For each connection that exists, the times it is pooled, in the hands of the
step, pruned, to be closed in the background, and closed by the balancer add
up to one. Every move keeps this equation (`accounted_move`), as long as no
connect ends with a connection that was handed out before: a move only takes
a connection from one of these places to another, and a new one begins in
hand.
-/
import HostRotation.Proofs.Table
import Mathlib.Algebra.Ring.Nat

namespace HostRotation

variable {α σ : Type}

/-! ### Counting -/

/-- How often a connection occurs among links. -/
def copies (ls : List (Link α)) (c : ConnId) : Nat := ls.countP fun l => l.id = c

section

variable (c : ConnId)

@[simp] theorem copies_nil : copies ([] : List (Link α)) c = 0 := rfl

@[simp] theorem copies_cons (l : Link α) (ls : List (Link α)) :
    copies (l :: ls) c = copies ls c + if l.id = c then 1 else 0 := by
  simp [copies, List.countP_cons]

@[simp] theorem copies_append (ls ls' : List (Link α)) :
    copies (ls ++ ls') c = copies ls c + copies ls' c :=
  List.countP_append

theorem copies_pos {ls : List (Link α)} {l : Link α} (hl : l ∈ ls) : 0 < copies ls l.id :=
  List.countP_pos_iff.mpr ⟨l, hl, by simp⟩

theorem copies_erase [DecidableEq α] {ls : List (Link α)} {l : Link α} (hl : l ∈ ls) :
    copies (ls.erase l) c + (if l.id = c then 1 else 0) = copies ls c := by
  rw [← copies_cons]
  exact ((List.perm_cons_erase hl).countP_eq _).symm

/-- A sum over a list, one of whose places is set. -/
theorem sum_map_set {β : Type} (f : β → Nat) {x y : β} : ∀ {l : List β} {i : Nat},
    l[i]? = some x → ((l.set i y).map f).sum + f x = (l.map f).sum + f y
  | z :: l, 0, h => by
    obtain rfl : z = x := by simpa using h
    simp only [List.set_cons_zero, List.map_cons, List.sum_cons]
    omega
  | z :: l, i + 1, h => by
    have ih := sum_map_set f (y := y) (l := l) (i := i) (by simpa using h)
    simp only [List.set_cons_succ, List.map_cons, List.sum_cons]
    omega

/-- How often a connection is pooled, over all hosts. -/
def poolCopies (hosts : List (Host α (Link α))) : Nat :=
  (hosts.map fun host => copies host.pool c).sum

/-- How often a connection occurs in what is yet to be closed in the
background. -/
def closingCopies (closings : List (Closing α)) : Nat :=
  (closings.map fun k => if k.begun then 0 else copies k.links c).sum

/-- How often the balancer closed a connection. -/
def closeCalls (connections : List (Connection α)) : Nat :=
  ((connections[c]?).map Connection.closeCalls).getD 0

/-- Whether a connection exists and is closed. -/
def isDown (connections : List (Connection α)) : Bool := (connections[c]?).any Connection.closed

end

section

variable {hosts : List (Host α (Link α))} {h : HostId} {host host' : Host α (Link α)}

theorem poolCopies_set (hh : hosts[h]? = some host) (host' : Host α (Link α)) (c : ConnId) :
    poolCopies c (hosts.set h host') + copies host.pool c =
      poolCopies c hosts + copies host'.pool c :=
  sum_map_set (fun k : Host α (Link α) => copies k.pool c) hh

theorem poolCopies_set_same (hh : hosts[h]? = some host) (hp : host'.pool = host.pool)
    (c : ConnId) : poolCopies c (hosts.set h host') = poolCopies c hosts := by
  have hset := poolCopies_set hh host' c
  rw [hp] at hset
  omega

theorem copies_le_poolCopies (hh : hosts[h]? = some host) (c : ConnId) :
    copies host.pool c ≤ poolCopies c hosts := by
  have hset := poolCopies_set hh { host with pool := [] } c
  simp only [copies_nil] at hset
  omega

/-- What a host has pooled. -/
def poolAt (hosts : List (Host α (Link α))) (h : HostId) : List (Link α) :=
  ((hosts[h]?).map Host.pool).getD []

theorem poolAt_of_getElem? (hh : hosts[h]? = some host) : poolAt hosts h = host.pool := by
  simp [poolAt, hh]

theorem poolAt_set (hh : hosts[h]? = some host) (j : HostId) :
    poolAt (hosts.set h host') j = if j = h then host'.pool else poolAt hosts j := by
  obtain ⟨hlt, -⟩ := List.getElem?_eq_some_iff.mp hh
  unfold poolAt
  split
  · subst j
    simp [hlt]
  · rename_i hne
    rw [List.getElem?_set_ne (Ne.symm hne)]

theorem poolAt_set_same (hh : hosts[h]? = some host) (host' : Host α (Link α))
    (hp : host'.pool = host.pool) (j : HostId) :
    poolAt (hosts.set h host') j = poolAt hosts j := by
  rw [poolAt_set hh, hp]
  split
  · subst j
    rw [poolAt_of_getElem? hh]
  · rfl

theorem poolAt_append (hosts : List (Host α (Link α))) (a : α) (j : HostId) :
    poolAt (hosts ++ [{ address := a }]) j = poolAt hosts j := by
  unfold poolAt
  rcases Nat.lt_trichotomy j hosts.length with hlt | rfl | hgt
  · rw [List.getElem?_append_left hlt]
  · simp
  · rw [List.getElem?_eq_none (by simp; omega), List.getElem?_eq_none (by omega)]

theorem lt_of_mem_poolAt {l : Link α} (hl : l ∈ poolAt hosts h) : h < hosts.length := by
  refine Nat.lt_of_not_le fun hge => ?_
  simp [poolAt, List.getElem?_eq_none hge] at hl

/-- What is pooled counts. -/
theorem poolCopies_pos {l : Link α} (hl : l ∈ poolAt hosts h) : 0 < poolCopies l.id hosts := by
  have hh := List.getElem?_eq_getElem (lt_of_mem_poolAt hl)
  rw [poolAt_of_getElem? hh] at hl
  exact Nat.lt_of_lt_of_le (copies_pos hl) (copies_le_poolCopies hh l.id)

/-- What counts is pooled. -/
theorem exists_of_poolCopies_pos {c : ConnId} (hc : 0 < poolCopies c hosts) :
    ∃ h, ∃ l ∈ poolAt hosts h, l.id = c := by
  by_cases hnone : ∀ n ∈ hosts.map fun host => copies host.pool c, n = 0
  · rw [poolCopies, List.sum_eq_zero_iff_forall_eq_nat.mpr hnone] at hc
    exact absurd hc (Nat.lt_irrefl 0)
  · simp only [List.mem_map, forall_exists_index, and_imp, forall_apply_eq_imp_iff₂,
      Classical.not_forall] at hnone
    obtain ⟨host, hmem, hne⟩ := hnone
    obtain ⟨h, hh⟩ := List.getElem?_of_mem hmem
    obtain ⟨l, hl, hlc⟩ := List.countP_pos_iff.mp (Nat.pos_of_ne_zero hne)
    exact ⟨h, l, by rwa [poolAt_of_getElem? hh], by simpa using hlc⟩

/-- A connection that is pooled once is pooled at one host, as one link. -/
theorem eq_of_poolCopies_le_one [DecidableEq α] {h' : HostId} {l l' : Link α}
    (hone : poolCopies l.id hosts ≤ 1) (hl : l ∈ poolAt hosts h) (hl' : l' ∈ poolAt hosts h')
    (hid : l'.id = l.id) : h' = h ∧ l' = l := by
  have hh := List.getElem?_eq_getElem (lt_of_mem_poolAt hl)
  -- Without `l`, nothing of this connection would be pooled any more.
  obtain ⟨rest, hrest⟩ : ∃ k : Host α (Link α), k.pool = (poolAt hosts h).erase l :=
    ⟨{ address := l.address, pool := (poolAt hosts h).erase l }, rfl⟩
  have hset := poolCopies_set hh rest l.id
  have herase := copies_erase l.id hl
  rw [hrest, ← poolAt_of_getElem? hh] at hset
  rw [if_pos rfl] at herase
  have hnone : poolCopies l.id (hosts.set h rest) = 0 := by omega
  by_cases hsame : h' = h ∧ l' = l
  · exact hsame
  · have hmem : l' ∈ poolAt (hosts.set h rest) h' := by
      rw [poolAt_set hh]
      split
      · subst h'
        rw [hrest]
        exact (List.mem_erase_of_ne fun heq => hsame ⟨rfl, heq⟩).mpr hl'
      · exact hl'
    have hpos := poolCopies_pos hmem
    rw [hid] at hpos
    exact absurd hnone (Nat.ne_of_gt hpos)

/-- Closing a host hands over what it had pooled. -/
theorem copies_close (host : Host α (Link α)) (c : ConnId) :
    copies host.close.1.pool c + copies host.close.2 c = copies host.pool c := by
  unfold Host.close
  split <;> simp

theorem closeCalls_append (connections : List (Connection α)) (a : α) (c : ConnId) :
    closeCalls c (connections ++ [{ address := a }]) = closeCalls c connections := by
  unfold closeCalls
  rcases Nat.lt_trichotomy c connections.length with hlt | rfl | hgt
  · rw [List.getElem?_append_left hlt]
  · simp
  · rw [List.getElem?_eq_none (by simp; omega), List.getElem?_eq_none (by omega)]

theorem closeCalls_modify_same {connections : List (Connection α)}
    {f : Connection α → Connection α} (hf : ∀ k, (f k).closeCalls = k.closeCalls) (i c : ConnId) :
    closeCalls c (connections.modify i f) = closeCalls c connections := by
  unfold closeCalls
  rw [List.getElem?_modify]
  split <;> cases connections[c]? <;> simp [hf]

theorem closeCalls_close {connections : List (Connection α)} {i : ConnId}
    (hi : i < connections.length) (c : ConnId) :
    closeCalls c (connections.modify i fun k =>
      { k with closed := true, closeCalls := k.closeCalls + 1 }) =
        closeCalls c connections + if i = c then 1 else 0 := by
  unfold closeCalls
  rw [List.getElem?_modify]
  split
  · subst i
    simp [hi]
  · simp

end

/-! ### The equation -/

/-- Every connection that exists is in one place. -/
def Accounted (hosts : List (Host α (Link α))) (inHand pruned : List (Link α))
    (closings : List (Closing α)) (connections : List (Connection α)) : Prop :=
  ∀ c, poolCopies c hosts + copies inHand c + copies pruned c + closingCopies c closings +
    closeCalls c connections = if c < connections.length then 1 else 0

namespace Accounted

variable {hosts : List (Host α (Link α))} {inHand pruned ls : List (Link α)}
  {closings : List (Closing α)} {connections : List (Connection α)} {h : HostId}
  {host host' : Host α (Link α)} {l : Link α}

theorem le_one (hm : Accounted hosts inHand pruned closings connections) (c : ConnId) :
    poolCopies c hosts + copies inHand c + copies pruned c + closingCopies c closings +
      closeCalls c connections ≤ 1 := by
  rw [hm c]
  split <;> omega

/-- A connection that is pooled exists. -/
theorem lt_of_pool (hm : Accounted hosts inHand pruned closings connections) {c : ConnId}
    (hc : 0 < poolCopies c hosts) : c < connections.length := by
  have hsum := hm c
  split at hsum
  · assumption
  · omega

/-- A connection in hand exists. -/
theorem lt_of_cons (hm : Accounted hosts (l :: ls) pruned closings connections) :
    l.id < connections.length := by
  have hsum := hm l.id
  simp only [copies_cons, ↓reduceIte] at hsum
  split at hsum
  · assumption
  · omega

/-- A host changes and its pool does not. -/
theorem keep (hm : Accounted hosts inHand pruned closings connections)
    (hh : hosts[h]? = some host) (hp : host'.pool = host.pool) :
    Accounted (hosts.set h host') inHand pruned closings connections := by
  intro c
  rw [poolCopies_set_same hh hp]
  exact hm c

theorem appear (hm : Accounted hosts inHand pruned closings connections) (a : α) :
    Accounted (hosts ++ [{ address := a }]) inHand pruned closings connections := by
  intro c
  have hsame : poolCopies c (hosts ++ [{ address := a }]) = poolCopies c hosts := by
    simp [poolCopies]
  rw [hsame]
  exact hm c

/-- A host is closed, and what it had pooled is in hand. -/
theorem close (hm : Accounted hosts inHand pruned closings connections)
    (hh : hosts[h]? = some host) (hp : host'.pool = host.close.1.pool) :
    Accounted (hosts.set h host') (inHand ++ host.close.2) pruned closings connections := by
  intro c
  have hset := poolCopies_set hh host' c
  have hclose := copies_close host c
  have hsum := hm c
  rw [hp] at hset
  simp only [copies_append]
  omega

/-- A new connection is in hand. -/
theorem opens (hm : Accounted hosts inHand pruned closings connections) (a : α) :
    Accounted hosts (⟨connections.length, a⟩ :: inHand) pruned closings
      (connections ++ [{ address := a }]) := by
  intro c
  have hsum := hm c
  rw [closeCalls_append, copies_cons, List.length_append, List.length_singleton]
  rcases Nat.lt_trichotomy c connections.length with hlt | rfl | hgt
  · rw [if_pos hlt] at hsum
    rw [if_neg (Nat.ne_of_gt hlt), if_pos (Nat.lt_succ_of_lt hlt)]
    omega
  · rw [if_neg (Nat.lt_irrefl _)] at hsum
    rw [if_pos rfl, if_pos (Nat.lt_succ_self _)]
    omega
  · rw [if_neg (Nat.not_lt.mpr (Nat.le_of_lt hgt))] at hsum
    rw [if_neg (Nat.ne_of_lt hgt), if_neg (Nat.not_lt.mpr hgt)]
    exact hsum

theorem closeLink (hm : Accounted hosts (l :: ls) pruned closings connections) :
    Accounted hosts ls pruned closings (connections.modify l.id fun k =>
      { k with closed := true, closeCalls := k.closeCalls + 1 }) := by
  intro c
  have hsum := hm c
  rw [closeCalls_close hm.lt_of_cons]
  simp only [copies_cons, List.length_modify] at hsum ⊢
  omega

theorem handOver (hm : Accounted hosts inHand pruned closings connections) :
    Accounted hosts [] pruned (closings ++ [{ links := inHand }]) connections := by
  intro c
  have hsum := hm c
  have hnew : closingCopies c (closings ++ [{ links := inHand }]) =
      closingCopies c closings + copies inHand c := by
    simp [closingCopies]
  rw [hnew, copies_nil]
  omega

theorem beginClosing (hm : Accounted hosts inHand pruned closings connections) {i : Nat}
    {k : Closing α} (hk : closings[i]? = some k) (hb : k.begun = false) :
    Accounted hosts (k.links ++ inHand) pruned (closings.set i { k with begun := true })
      connections := by
  intro c
  have hsum := hm c
  have hset := sum_map_set (fun k : Closing α => if k.begun then 0 else copies k.links c)
    (y := { k with begun := true }) hk
  simp only [hb, Bool.false_eq_true, ↓reduceIte] at hset
  simp only [closingCopies, copies_append] at hsum ⊢
  omega

/-- A connection changes, but not how often it was closed. -/
theorem modify (hm : Accounted hosts inHand pruned closings connections) (i : ConnId)
    (f : Connection α → Connection α) (hf : ∀ k, (f k).closeCalls = k.closeCalls) :
    Accounted hosts inHand pruned closings (connections.modify i f) := by
  intro c
  rw [closeCalls_modify_same hf, List.length_modify]
  exact hm c

variable [DecidableEq α]

/-- A connection in hand is pooled. -/
theorem pool (hm : Accounted hosts inHand pruned closings connections)
    (hh : hosts[h]? = some host) (hc : host.status ≠ .closed) (hl : inHand = l :: ls)
    (hp : host'.pool = (host.add l).1.pool) :
    Accounted (hosts.set h host') ls pruned closings connections := by
  subst hl
  -- It is not pooled yet, or it would be in two places.
  have hnot : l ∉ host.pool := by
    intro hmem
    have hpos := copies_pos hmem
    have hle := copies_le_poolCopies hh l.id
    have hone := hm.le_one l.id
    simp only [copies_cons, ↓reduceIte] at hone
    omega
  intro c
  have hset := poolCopies_set hh host' c
  have hsum := hm c
  rw [hp, Host.pool_add hc hnot] at hset
  simp only [copies_append, copies_cons, copies_nil] at hset hsum
  omega

theorem prune (hm : Accounted hosts inHand pruned closings connections)
    (hh : hosts[h]? = some host) (hl : l ∈ host.pool) :
    Accounted (hosts.set h (host.remove l).1) inHand (pruned ++ [l]) closings connections := by
  intro c
  have hset := poolCopies_set hh (host.remove l).1 c
  have herase := copies_erase c hl
  have hsum := hm c
  rw [Host.pool_remove hl] at hset
  simp only [copies_append, copies_cons, copies_nil]
  omega

end Accounted

section

variable [DecidableEq α] {e : Event α σ} {m m' : Moment α σ}

theorem accounted_move (hn : ¬ e.Reopens) (hmove : Move e m m')
    (hm : Accounted m.hosts m.inHand m.pruned m.closings m.connections) :
    Accounted m'.hosts m'.inHand m'.pruned m'.closings m'.connections := by
  cases hmove with
  | note | listen | lose | resubscribe | heed | shut | settle | arm | fire | attempt => exact hm
  | skip | discard | discarded | giveUp | unplanned => exact hm
  | withdraw | ignore | retire | closeNone => exact hm
  | reach _ _ _ _ _ hh hs hl => exact hm.pool hh hs hl rfl
  | welcome _ hh hu hl => exact hm.pool hh (by simp [hu]) hl rfl
  | pool _ hh hs _ hl => exact hm.pool hh hs hl rfl
  | retry _ _ _ _ _ hh _ => exact hm.keep hh rfl
  | fail hh _ => exact hm.keep hh (Host.pool_recordFailure _ _)
  | fallSick _ _ hh _ _ => exact hm.keep hh (Host.pool_recordFailure _ _)
  | reannounce _ _ hh _ => exact hm.keep hh (Host.pool_activate _)
  | revive _ _ hh _ => exact hm.keep hh (Host.pool_activate _)
  | expire _ _ hh _ => exact hm.keep hh (Host.pool_expire _)
  | expireOut _ _ hh _ => exact hm.keep hh (Host.pool_expire _)
  | appear a => exact hm.appear a
  | prune hh hl _ => exact hm.prune hh hl
  | closeHost _ _ hh => exact hm.close hh rfl
  | opens a _ => exact hm.opens a
  | reopen _ he _ => exact absurd he hn
  | closeLink hl => exact Accounted.closeLink (hl ▸ hm)
  | handOver => exact hm.handOver
  | beginClosing _ hk hb => exact hm.beginClosing hk hb
  | peerCloses i _ => exact hm.modify i _ fun _ => rfl
  | closeWillFail i _ => exact hm.modify i _ fun _ => rfl

end
end HostRotation
