import Mathlib.Data.Set.Insert
import Mathlib.Logic.Function.Basic
import Mathlib.Logic.Relation

/-!
This module contains the outbox pattern: a source that changes keyed values, a log of the keys
whose change has not been acknowledged, and a replica that receives the logged values through a
queue of writes. A write can be lost, sent any number of times, and acknowledged late.
-/

namespace Outbox

variable {κ ν τ : Type}

structure Write (κ ν τ : Type) where
  key : κ
  value : ν
  tag : τ

structure State (κ ν τ : Type) where
  -- the value each key has to get at the replica
  target : κ → ν
  -- the log records, each with the key it is about
  log : Set (τ × κ)
  replica : κ → ν
  -- the writes sent and not yet answered, oldest first
  queue : List (Write κ ν τ)
  -- the answers not yet delivered: the record that was sent, and whether it was applied
  acks : List (τ × Bool)

section Apply

variable [DecidableEq κ]

def applyWrite (replica : κ → ν) (w : Write κ ν τ) : κ → ν :=
  Function.update replica w.key w.value

def applyAll (replica : κ → ν) (ws : List (Write κ ν τ)) : κ → ν :=
  ws.foldl applyWrite replica

@[simp]
theorem applyWrite_self (replica : κ → ν) (w : Write κ ν τ)
    : applyWrite replica w w.key = w.value := by
  simp [applyWrite]

theorem applyWrite_ne (replica : κ → ν) (w : Write κ ν τ) {x : κ} (h : x ≠ w.key)
    : applyWrite replica w x = replica x := by
  simp [applyWrite, Function.update_of_ne h]

@[simp]
theorem applyAll_nil (replica : κ → ν) : applyAll replica ([] : List (Write κ ν τ)) = replica := rfl

@[simp]
theorem applyAll_cons (replica : κ → ν) (w : Write κ ν τ) (ws : List (Write κ ν τ))
    : applyAll replica (w :: ws) = applyAll (applyWrite replica w) ws := rfl

theorem applyAll_append (replica : κ → ν) (ws vs : List (Write κ ν τ))
    : applyAll replica (ws ++ vs) = applyAll (applyAll replica ws) vs := by
  simp [applyAll]

end Apply

/-! ## Queues that agree on a key -/

def Agree (x : κ) (v : ν) (q : List (Write κ ν τ)) : Prop :=
  ∀ w ∈ q, w.key = x → w.value = v

theorem Agree.tail {x : κ} {v : ν} {w : Write κ ν τ} {q : List (Write κ ν τ)}
    (h : Agree x v (w :: q)) : Agree x v q := by
  intro w' hw'
  exact h w' (List.mem_cons_of_mem w hw')

theorem Agree.append {x : κ} {v : ν} {q ws : List (Write κ ν τ)} (hq : Agree x v q)
    (hws : Agree x v ws) : Agree x v (q ++ ws) := by
  intro w hw
  cases List.mem_append.mp hw with
  | inl hw => exact hq w hw
  | inr hw => exact hws w hw

theorem applyAll_of_agree [DecidableEq κ] {x : κ} {v : ν} {ws : List (Write κ ν τ)}
    {replica : κ → ν} (hr : replica x = v) (hws : Agree x v ws)
    : applyAll replica ws x = v := by
  induction ws generalizing replica with
  | nil => exact hr
  | cons w ws ih =>
    rw [applyAll_cons]
    apply ih
    . by_cases hx : x = w.key
      . rw [hx, applyWrite_self]
        exact hws w List.mem_cons_self hx.symm
      . rw [applyWrite_ne replica w hx]
        exact hr
    . exact hws.tail

theorem applyAll_append_of_mem [DecidableEq κ] {x : κ} {v : ν} {q ws : List (Write κ ν τ)}
    {replica : κ → ν} (hws : Agree x v ws) (hmem : ∃ w ∈ ws, w.key = x)
    : applyAll replica (q ++ ws) x = v := by
  rw [applyAll_append]
  generalize applyAll replica q = replica
  induction ws generalizing replica with
  | nil => simp at hmem
  | cons w ws ih =>
    rw [applyAll_cons]
    by_cases hx : w.key = x
    . apply applyAll_of_agree
      . rw [← hx, applyWrite_self]
        exact hws w List.mem_cons_self hx
      . exact hws.tail
    . apply ih hws.tail
      obtain ⟨w', hw', hkey⟩ := hmem
      cases List.mem_cons.mp hw' with
      | inl heq => exact absurd (heq ▸ hkey) hx
      | inr hmem => exact ⟨w', hmem, hkey⟩

/-! ## What the replica can still become -/

def Settled (s : State κ ν τ) (x : κ) : Prop :=
  -- The replica has the target value of `x`, and no write of the queue can change that.
  s.replica x = s.target x ∧ Agree x (s.target x) s.queue

theorem settled_iff [DecidableEq κ] (s : State κ ν τ) (x : κ)
    : Settled s x ↔ ∀ ws, ws.Sublist s.queue → applyAll s.replica ws x = s.target x := by
  constructor
  . intro h ws hws
    apply applyAll_of_agree h.1
    intro w hw
    exact h.2 w (hws.subset hw)
  . intro h
    constructor
    . exact h [] (List.nil_sublist _)
    . intro w hw hx
      have := h [w] (List.singleton_sublist.mpr hw)
      rw [← hx] at this ⊢
      simpa using this

def UpToDate (t : τ) (x : κ) (v : ν) : List (Write κ ν τ) → Prop
  -- From the first write tagged `t` on, all writes of the queue to `x` write `v`.
  | [] => True
  | w :: q => (w.tag = t → Agree x v (w :: q)) ∧ UpToDate t x v q

theorem UpToDate.of_unused {t : τ} {x : κ} {v : ν} {q : List (Write κ ν τ)}
    (h : ∀ w ∈ q, w.tag ≠ t) : UpToDate t x v q := by
  induction q with
  | nil => trivial
  | cons w q ih =>
    constructor
    . intro ht
      exact absurd ht (h w List.mem_cons_self)
    . exact ih fun w' hw' => h w' (List.mem_cons_of_mem w hw')

theorem UpToDate.append {t : τ} {x : κ} {v : ν} {q ws : List (Write κ ν τ)}
    (hq : UpToDate t x v q) (hws : Agree x v ws) : UpToDate t x v (q ++ ws) := by
  induction q with
  | nil =>
    induction ws with
    | nil => trivial
    | cons w ws ih => exact ⟨fun _ => hws, ih hws.tail⟩
  | cons w q ih => exact ⟨fun ht => (hq.1 ht).append hws, ih hq.2⟩

structure Fresh (s : State κ ν τ) (t : τ) (x : κ) : Prop where
  -- The record `t` is a live record of `x`, whatever was sent for it is the present value of `x`,
  -- and so is everything sent to `x` since.
  live : (t, x) ∈ s.log
  queue : UpToDate t x (s.target x) s.queue
  acks : (t, true) ∈ s.acks → Settled s x

structure Inv (s : State κ ν τ) : Prop where
  key : ∀ x, (∃ t, Fresh s t x) ∨ Settled s x
  tag : ∀ w ∈ s.queue, ∀ x, (w.tag, x) ∈ s.log → w.key = x
  log : ∀ t x y, (t, x) ∈ s.log → (t, y) ∈ s.log → x = y

theorem Inv.init {s : State κ ν τ} (htarget : s.replica = s.target) (hlog : s.log = ∅)
    (hqueue : s.queue = []) : Inv s where
  key := by
    intro x
    right
    simp [Settled, Agree, htarget, hqueue]
  tag := by simp [hqueue]
  log := by simp [hlog]

/-! ## The steps -/

def Unused (s : State κ ν τ) (t : τ) : Prop :=
  (∀ x, (t, x) ∉ s.log) ∧ (∀ w ∈ s.queue, w.tag ≠ t) ∧ (∀ a ∈ s.acks, a.1 ≠ t)

def State.change [DecidableEq κ] (s : State κ ν τ) (x : κ) (v : ν) (keep : Set τ) (t : τ)
    : State κ ν τ :=
  -- `x` gets the value `v`, logged with the new record `t`. Of the old records of `x` only those in
  -- `keep` stay.
  { s with
    target := Function.update s.target x v
    log := insert (t, x) { r ∈ s.log | r.2 = x → r.1 ∈ keep }
  }

def State.send (s : State κ ν τ) (t : τ) (x : κ) : State κ ν τ :=
  { s with queue := s.queue ++ [⟨x, s.target x, t⟩] }

inductive Step [DecidableEq κ] : State κ ν τ → State κ ν τ → Prop
  | change {s} (x : κ) (v : ν) (keep : Set τ) (t : τ) (h : Unused s t)
      : Step s (s.change x v keep t)
  | send {s} (t : τ) (x : κ) (h : (t, x) ∈ s.log) : Step s (s.send t x)
  | apply {s} (w : Write κ ν τ) (q) (h : s.queue = w :: q)
      : Step s { s with
          replica := applyWrite s.replica w
          queue := q
          acks := s.acks ++ [(w.tag, true)]
        }
  | reject {s} (w : Write κ ν τ) (q) (h : s.queue = w :: q)
      : Step s { s with queue := q, acks := s.acks ++ [(w.tag, false)] }
  | ack {s} (t : τ) (ok : Bool) (l r) (h : s.acks = l ++ (t, ok) :: r)
      : Step s { s with
          log := { a ∈ s.log | ok = true → a.1 ≠ t }
          acks := l ++ r
        }
  | lose {s} (a : τ × Bool) (l r) (h : s.acks = l ++ a :: r) : Step s { s with acks := l ++ r }

theorem Inv.change [DecidableEq κ] {s : State κ ν τ} (hs : Inv s) (x : κ) (v : ν) (keep : Set τ)
    {t : τ} (ht : Unused s t) : Inv (s.change x v keep t) where
  key := by
    intro y
    by_cases hy : y = x
    . subst hy
      left
      refine ⟨t, by simp [State.change], .of_unused ht.2.1, ?_⟩
      intro hack
      exact absurd rfl (ht.2.2 _ hack)
    . have htarget : (s.change x v keep t).target y = s.target y := by
        simp [State.change, Function.update_of_ne hy]
      cases hs.key y with
      | inl h =>
        obtain ⟨t', hlive, hqueue, hacks⟩ := h
        left
        refine ⟨t', ?_, ?_, ?_⟩
        . right
          exact ⟨hlive, fun h => absurd h hy⟩
        . rw [htarget]
          exact hqueue
        . intro hack
          unfold Settled
          rw [htarget]
          exact hacks hack
      | inr h =>
        right
        unfold Settled
        rw [htarget]
        exact h
  tag := by
    intro w hw y hy
    cases hy with
    | inl hy =>
      have : w.tag = t := congrArg Prod.fst hy
      exact absurd this (ht.2.1 w hw)
    | inr hy => exact hs.tag w hw y hy.1
  log := by
    intro t' y z hy hz
    cases hy with
    | inl hy =>
      cases hy
      cases hz with
      | inl hz =>
        cases hz
        rfl
      | inr hz => exact absurd hz.1 (ht.1 z)
    | inr hy =>
      cases hz with
      | inl hz =>
        cases hz
        exact absurd hy.1 (ht.1 y)
      | inr hz => exact hs.log t' y z hy.1 hz.1

theorem Inv.send {s : State κ ν τ} (hs : Inv s) {t : τ} {x : κ} (ht : (t, x) ∈ s.log)
    : Inv (s.send t x) where
  key := by
    intro y
    have hagree : Agree y (s.target y) [(⟨x, s.target x, t⟩ : Write κ ν τ)] := by
      intro w hw hkey
      cases List.mem_singleton.mp hw
      dsimp at hkey ⊢
      rw [hkey]
    cases hs.key y with
    | inl h =>
      obtain ⟨t', hlive, hqueue, hacks⟩ := h
      left
      refine ⟨t', hlive, hqueue.append hagree, ?_⟩
      intro hack
      exact ⟨(hacks hack).1, (hacks hack).2.append hagree⟩
    | inr h =>
      right
      exact ⟨h.1, h.2.append hagree⟩
  tag := by
    intro w hw y hy
    cases List.mem_append.mp hw with
    | inl hw => exact hs.tag w hw y hy
    | inr hw =>
      cases List.mem_singleton.mp hw
      exact hs.log t x y ht hy
  log := hs.log

theorem Settled.pop {s : State κ ν τ} {x : κ} {w : Write κ ν τ} {q : List (Write κ ν τ)}
    {replica : κ → ν} (hs : Settled s x) (hq : s.queue = w :: q)
    (hr : replica x = s.replica x ∨ (w.key = x ∧ replica x = w.value))
    (acks : List (τ × Bool))
    : Settled { s with replica := replica, queue := q, acks := acks } x := by
  obtain ⟨hreplica, hagree⟩ := hs
  rw [hq] at hagree
  constructor
  . cases hr with
    | inl hr => exact hr.trans hreplica
    | inr hr => exact hr.2.trans (hagree w List.mem_cons_self hr.1)
  . exact hagree.tail

theorem applyWrite_cases [DecidableEq κ] (replica : κ → ν) (w : Write κ ν τ) (x : κ)
    : applyWrite replica w x = replica x ∨ (w.key = x ∧ applyWrite replica w x = w.value) := by
  by_cases hx : x = w.key
  . right
    rw [hx]
    exact ⟨rfl, applyWrite_self _ _⟩
  . left
    exact applyWrite_ne _ _ hx

theorem Inv.apply [DecidableEq κ] {s : State κ ν τ} (hs : Inv s) {w : Write κ ν τ}
    {q : List (Write κ ν τ)} (hq : s.queue = w :: q)
    : Inv { s with
        replica := applyWrite s.replica w
        queue := q
        acks := s.acks ++ [(w.tag, true)]
      } where
  key := by
    intro x
    have hr := applyWrite_cases s.replica w x
    cases hs.key x with
    | inl h =>
      obtain ⟨t, hlive, hqueue, hacks⟩ := h
      left
      refine ⟨t, hlive, ?_, ?_⟩
      . rw [hq] at hqueue
        exact hqueue.2
      . intro hack
        cases List.mem_append.mp hack with
        | inl hack => exact (hacks hack).pop hq hr _
        | inr hack =>
          -- the head of the queue was sent for `t`, so the whole queue agrees with the target
          have htag : w.tag = t := by
            have := List.mem_singleton.mp hack
            exact (congrArg Prod.fst this).symm
          rw [hq] at hqueue
          have hagree := hqueue.1 htag
          have hkey : w.key = x := hs.tag w (by rw [hq]; exact List.mem_cons_self) x (htag ▸ hlive)
          constructor
          . dsimp
            rw [← hkey, applyWrite_self, hkey]
            exact hagree w List.mem_cons_self hkey
          . exact hagree.tail
    | inr h =>
      right
      exact h.pop hq hr _
  tag := by
    intro w' hw' x hx
    exact hs.tag w' (by rw [hq]; exact List.mem_cons_of_mem w hw') x hx
  log := hs.log

theorem Inv.reject {s : State κ ν τ} (hs : Inv s) {w : Write κ ν τ} {q : List (Write κ ν τ)}
    (hq : s.queue = w :: q)
    : Inv { s with queue := q, acks := s.acks ++ [(w.tag, false)] } where
  key := by
    intro x
    cases hs.key x with
    | inl h =>
      obtain ⟨t, hlive, hqueue, hacks⟩ := h
      left
      refine ⟨t, hlive, ?_, ?_⟩
      . rw [hq] at hqueue
        exact hqueue.2
      . intro hack
        cases List.mem_append.mp hack with
        | inl hack => exact (hacks hack).pop hq (.inl rfl) _
        | inr hack =>
          have := congrArg Prod.snd (List.mem_singleton.mp hack)
          simp at this
    | inr h =>
      right
      exact h.pop hq (.inl rfl) _
  tag := by
    intro w' hw' x hx
    exact hs.tag w' (by rw [hq]; exact List.mem_cons_of_mem w hw') x hx
  log := hs.log

theorem Inv.ack {s : State κ ν τ} (hs : Inv s) {t : τ} {ok : Bool} {l r : List (τ × Bool)}
    (h : s.acks = l ++ (t, ok) :: r)
    : Inv { s with log := { a ∈ s.log | ok = true → a.1 ≠ t }, acks := l ++ r } where
  key := by
    intro x
    cases hs.key x with
    | inl hx =>
      obtain ⟨t', hlive, hqueue, hacks⟩ := hx
      by_cases hok : ok = true ∧ t' = t
      . -- the fresh record is acknowledged: then its key has settled
        right
        obtain ⟨hok, heq⟩ := hok
        subst hok heq
        exact hacks (by simp [h])
      . left
        refine ⟨t', ⟨hlive, fun h₁ h₂ => hok ⟨h₁, h₂⟩⟩, hqueue, ?_⟩
        intro hack
        apply hacks
        rw [h]
        cases List.mem_append.mp hack with
        | inl hack => exact List.mem_append_left _ hack
        | inr hack => exact List.mem_append_right _ (List.mem_cons_of_mem _ hack)
    | inr hx =>
      right
      exact hx
  tag := by
    intro w hw x hx
    exact hs.tag w hw x hx.1
  log := by
    intro t' x y hx hy
    exact hs.log t' x y hx.1 hy.1

theorem Inv.lose {s : State κ ν τ} (hs : Inv s) {a : τ × Bool} {l r : List (τ × Bool)}
    (h : s.acks = l ++ a :: r) : Inv { s with acks := l ++ r } where
  key := by
    intro x
    cases hs.key x with
    | inl hx =>
      obtain ⟨t, hlive, hqueue, hacks⟩ := hx
      left
      refine ⟨t, hlive, hqueue, ?_⟩
      intro hack
      apply hacks
      rw [h]
      cases List.mem_append.mp hack with
      | inl hack => exact List.mem_append_left _ hack
      | inr hack => exact List.mem_append_right _ (List.mem_cons_of_mem _ hack)
    | inr hx =>
      right
      exact hx
  tag := hs.tag
  log := hs.log

theorem Inv.step [DecidableEq κ] {s s' : State κ ν τ} (hs : Inv s) (h : Step s s') : Inv s' := by
  cases h with
  | change x v keep t ht => exact hs.change x v keep ht
  | send t x ht => exact hs.send ht
  | apply w q hq => exact hs.apply hq
  | reject w q hq => exact hs.reject hq
  | ack t ok l r h => exact hs.ack h
  | lose a l r h => exact hs.lose h

theorem Inv.steps [DecidableEq κ] {s s' : State κ ν τ} (hs : Inv s)
    (h : Relation.ReflTransGen Step s s') : Inv s' := by
  induction h with
  | refl => exact hs
  | tail _ hstep ih => exact ih.step hstep

/--
A key without a log record has its target value at the replica, whichever of the writes in the
queue still arrive.
-/
theorem Inv.converges [DecidableEq κ] {s : State κ ν τ} (hs : Inv s) (x : κ)
    : (∃ t, (t, x) ∈ s.log)
        ∨ ∀ ws, ws.Sublist s.queue → applyAll s.replica ws x = s.target x := by
  cases hs.key x with
  | inl h =>
    obtain ⟨t, ht⟩ := h
    exact .inl ⟨t, ht.live⟩
  | inr h => exact .inr ((settled_iff s x).mp h)

/-! ## Replicas that others write to -/

theorem Inv.congr {s s' : State κ ν τ} (hs : Inv s) (hlog : s'.log = s.log)
    (hqueue : s'.queue = s.queue) (hacks : s'.acks = s.acks)
    (hkey : ∀ x, Settled s' x ∨ (s'.target x = s.target x
      ∧ (s'.replica x = s.replica x ∨ s'.replica x = s.target x))) : Inv s' where
  key := by
    intro x
    cases hkey x with
    | inl hsettled => exact .inr hsettled
    | inr h =>
      obtain ⟨htarget, hreplica⟩ := h
      have hsettled (h : Settled s x) : Settled s' x := by
        constructor
        . rw [htarget]
          cases hreplica with
          | inl hsame => exact hsame.trans h.1
          | inr htarget => exact htarget
        . rw [htarget, hqueue]
          exact h.2
      cases hs.key x with
      | inl hfresh =>
        obtain ⟨t, hlive, huptodate, hack⟩ := hfresh
        left
        refine ⟨t, ?_, ?_, ?_⟩
        . rw [hlog]
          exact hlive
        . rw [htarget, hqueue]
          exact huptodate
        . intro h
          rw [hacks] at h
          exact hsettled (hack h)
      | inr h => exact .inr (hsettled h)
  tag := by
    rw [hlog, hqueue]
    exact hs.tag
  log := by
    rw [hlog]
    exact hs.log

/-! ## Starting again from the log alone -/

def Kept (s : State κ ν τ) (x : κ) : Prop :=
  (∃ t, (t, x) ∈ s.log) ∨ Settled s x

theorem Inv.kept {s : State κ ν τ} (hs : Inv s) (x : κ) : Kept s x := by
  cases hs.key x with
  | inl h =>
    obtain ⟨t, ht⟩ := h
    exact .inl ⟨t, ht.live⟩
  | inr h => exact .inr h

theorem Kept.append {s : State κ ν τ} {x : κ} (hs : Kept s x) {ws : List (Write κ ν τ)}
    (hws : Agree x (s.target x) ws) : Kept { s with queue := s.queue ++ ws } x := by
  cases hs with
  | inl h => exact .inl h
  | inr h => exact .inr ⟨h.1, h.2.append hws⟩

theorem Kept.apply [DecidableEq κ] {s : State κ ν τ} {x : κ} (hs : Kept s x) {w : Write κ ν τ}
    {q : List (Write κ ν τ)} (hq : s.queue = w :: q) (acks : List (τ × Bool))
    : Kept { s with replica := applyWrite s.replica w, queue := q, acks := acks } x := by
  cases hs with
  | inl h => exact .inl h
  | inr h => exact .inr (h.pop hq (applyWrite_cases s.replica w x) acks)

theorem Kept.reject {s : State κ ν τ} {x : κ} (hs : Kept s x) {w : Write κ ν τ}
    {q : List (Write κ ν τ)} (hq : s.queue = w :: q) (acks : List (τ × Bool))
    : Kept { s with queue := q, acks := acks } x := by
  cases hs with
  | inl h => exact .inl h
  | inr h => exact .inr (h.pop hq (.inl rfl) acks)

/--
If some of the queued writes are applied, then a write for every logged key, `x` has its target.
-/
theorem Kept.flush [DecidableEq κ] {s : State κ ν τ} {x : κ} (hs : Kept s x)
    {q ws : List (Write κ ν τ)} (hq : q.Sublist s.queue) (hws : Agree x (s.target x) ws)
    (hall : ∀ t, (t, x) ∈ s.log → ∃ w ∈ ws, w.key = x)
    : applyAll s.replica (q ++ ws) x = s.target x := by
  cases hs with
  | inl h =>
    obtain ⟨t, ht⟩ := h
    exact applyAll_append_of_mem hws (hall t ht)
  | inr h =>
    apply applyAll_of_agree h.1
    apply Agree.append _ hws
    intro w hw
    exact h.2 w (hq.subset hw)

end Outbox
