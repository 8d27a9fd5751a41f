import Mathlib.Data.List.Induction
import Mathlib.Order.Monotone.Basic
import CaptainCue.Library.Machine

/-!
This module contains replicas of a changing value that are fed through a queue. Such a replica shows
an old version of the value, and the versions it shows never become older.
-/

namespace Lag

variable {σ ε ν : Type}

/--
The values of the queue, oldest first, are versions of a value at times from `seen` to `now`, none
older than the one before it.
-/
def Carries (history : Nat → Option ν) (now : Nat) : Nat → List ν → Prop
  | seen, [] => seen ≤ now
  | seen, v :: queue => ∃ t, seen ≤ t ∧ history t = some v ∧ Carries history now t queue

variable {history : Nat → Option ν} {now seen : Nat}

theorem Carries.le {queue : List ν} (h : Carries history now seen queue) : seen ≤ now := by
  induction queue generalizing seen with
  | nil => exact h
  | cons v queue ih =>
    obtain ⟨t, hseen, -, hrest⟩ := h
    exact hseen.trans (ih hrest)

theorem Carries.of_le {queue : List ν} {seen' : Nat} (h : Carries history now seen queue)
    (hseen : seen' ≤ seen) : Carries history now seen' queue := by
  cases queue with
  | nil => exact hseen.trans h
  | cons v queue =>
    obtain ⟨t, ht, hv, hrest⟩ := h
    exact ⟨t, hseen.trans ht, hv, hrest⟩

theorem Carries.later {history' : Nat → Option ν} {now' : Nat} {queue : List ν}
    (h : Carries history now seen queue) (hnow : now ≤ now')
    (hagree : ∀ t, t ≤ now → history' t = history t) : Carries history' now' seen queue := by
  induction queue generalizing seen with
  | nil => exact h.le.trans hnow
  | cons v queue ih =>
    obtain ⟨t, ht, hv, hrest⟩ := h
    refine ⟨t, ht, ?_, ih hrest⟩
    rw [hagree t hrest.le]
    exact hv

theorem Carries.append {queue : List ν} {v : ν} (h : Carries history now seen queue)
    (hv : history now = some v) : Carries history now seen (queue ++ [v]) := by
  induction queue generalizing seen with
  | nil => exact ⟨now, h.le, hv, le_refl now⟩
  | cons v' queue ih =>
    obtain ⟨t, ht, hv', hrest⟩ := h
    exact ⟨t, ht, hv', ih hrest⟩

theorem Carries.append_replicate {queue : List ν} {v : ν} (h : Carries history now seen queue)
    (hv : history now = some v) (n : Nat)
    : Carries history now seen (queue ++ List.replicate n v) := by
  induction n with
  | zero => simpa using h
  | succ n ih =>
    rw [List.replicate_succ', ← List.append_assoc]
    exact ih.append hv

theorem Carries.tail {queue : List ν} {v : ν} (h : Carries history now seen (v :: queue))
    : Carries history now seen queue := by
  obtain ⟨t, ht, -, hrest⟩ := h
  exact hrest.of_le ht

/--
What a step may do to the value, the replica and the queue between them.
-/
inductive Move (v v' replica : ν) : List ν → ν → List ν → Prop where
  -- the value changes at most once, and is sent any number of times before and after
  | send (queue : List ν) (before after : Nat)
      : Move v v' replica queue replica
          (queue ++ List.replicate before v ++ List.replicate after v')
  | receive (w : ν) (queue : List ν) (hsame : v' = v)
      : Move v v' replica (w :: queue) w queue
  | drop (w : ν) (queue : List ν) (hsame : v' = v)
      : Move v v' replica (w :: queue) replica queue

theorem Move.carries {v v' replica replica' : ν} {queue queue' : List ν}
    (hmove : Move v v' replica queue replica' queue') {history' : Nat → Option ν}
    (hagree : ∀ t, t ≤ now → history' t = history t) (hnow : history now = some v)
    (hnext : history' (now + 1) = some v') (hreplica : history seen = some replica)
    (hcarries : Carries history now seen queue)
    : ∃ seen', seen ≤ seen' ∧ history' seen' = some replica'
        ∧ Carries history' (now + 1) seen' queue' := by
  cases hmove with
  | send _ before after =>
    refine ⟨seen, le_refl seen, ?_, ?_⟩
    . rw [hagree seen hcarries.le]
      exact hreplica
    . apply Carries.append_replicate _ hnext
      exact (hcarries.append_replicate hnow before).later (Nat.le_succ now) hagree
  | receive w _ hsame =>
    obtain ⟨t, ht, hw, hrest⟩ := hcarries
    refine ⟨t, ht, ?_, hrest.later (Nat.le_succ now) hagree⟩
    rw [hagree t hrest.le]
    exact hw
  | drop w _ hsame =>
    refine ⟨seen, le_refl seen, ?_, hcarries.tail.later (Nat.le_succ now) hagree⟩
    rw [hagree seen hcarries.le]
    exact hreplica

theorem Move.forall_mem {v v' replica replica' : ν} {queue queue' : List ν} {P : ν → Prop}
    (hmove : Move v v' replica queue replica' queue') (hqueue : ∀ w ∈ queue, P w) (hv : P v)
    (hv' : P v') : ∀ w ∈ queue', P w := by
  cases hmove with
  | send _ before after =>
    intro w hw
    rw [List.append_assoc, List.mem_append, List.mem_append] at hw
    obtain hw | hw | hw := hw
    . exact hqueue w hw
    . rw [List.eq_of_mem_replicate hw]
      exact hv
    . rw [List.eq_of_mem_replicate hw]
      exact hv'
  | receive => exact fun w hw => hqueue w (List.mem_cons_of_mem _ hw)
  | drop => exact fun w hw => hqueue w (List.mem_cons_of_mem _ hw)

theorem Move.replica {v v' replica replica' : ν} {queue queue' : List ν}
    (hmove : Move v v' replica queue replica' queue')
    : replica' = replica ∨ replica' ∈ queue := by
  cases hmove with
  | send => exact .inl rfl
  | receive => exact .inr List.mem_cons_self
  | drop => exact .inl rfl

/-! ### Runs -/

variable (M : Machine σ ε)

def versions (value : σ → ν) (s : σ) (es : List ε) (n : Nat) : Option ν :=
  -- the value after the first `n` events
  (M.run s (es.take n)).map value

variable {M}

theorem versions_append {value : σ → ν} {s : σ} {es fs : List ε} {n : Nat} (h : n ≤ es.length)
    : versions M value s (es ++ fs) n = versions M value s es n := by
  unfold versions
  rw [List.take_append_of_le_length h]

theorem versions_length {value : σ → ν} {s t : σ} {es : List ε} (h : M.run s es = some t)
    : versions M value s es es.length = some (value t) := by
  unfold versions
  rw [List.take_length, h]
  rfl

def upTo (seen : Nat → Nat) (n t : Nat) : Nat → Nat :=
  fun i => if i ≤ n then seen i else t

theorem monotone_upTo {seen : Nat → Nat} {n t : Nat} (hseen : Monotone seen) (ht : seen n ≤ t)
    : Monotone (upTo seen n t) := by
  intro i j hij
  unfold upTo
  split
  . split
    . exact hseen hij
    . next hi _ => exact (hseen hi).trans ht
  . next hi =>
    rw [if_neg]
    intro hj
    exact hi (hij.trans hj)

theorem upTo_le {seen : Nat → Nat} {n t : Nat} (hseen : ∀ i, seen i ≤ i) (ht : t ≤ n + 1) (i : Nat)
    : upTo seen n t i ≤ i := by
  unfold upTo
  split
  . exact hseen i
  . omega

/--
In a run whose steps move the values in this way, the replica shows the value as it was at some
earlier time, and these times never decrease.
-/
theorem run_lags {I : σ → Prop} {value replica : σ → ν} {queue : σ → List ν}
    (hstep : ∀ s e s', I s → M.step s e = some s' →
      I s' ∧ Move (value s) (value s') (replica s) (queue s) (replica s') (queue s'))
    {s t : σ} {es : List ε} (hs : I s) (hreplica : replica s = value s) (hqueue : queue s = [])
    (hrun : M.run s es = some t)
    : ∃ seen : Nat → Nat, Monotone seen ∧ (∀ n, seen n ≤ n)
        ∧ ∀ n, n ≤ es.length →
            (M.run s (es.take n)).map replica = (M.run s (es.take (seen n))).map value := by
  -- the times of the values still in the queue carry the induction
  suffices h : I t ∧ ∃ seen : Nat → Nat, Monotone seen ∧ (∀ n, seen n ≤ n)
      ∧ (∀ n, n ≤ es.length →
          (M.run s (es.take n)).map replica = versions M value s es (seen n))
      ∧ Carries (versions M value s es) es.length (seen es.length) (queue t) by
    obtain ⟨-, seen, hmono, hle, hshows, -⟩ := h
    exact ⟨seen, hmono, hle, hshows⟩
  induction es using List.reverseRecOn generalizing t with
  | nil =>
    cases hrun
    refine ⟨hs, fun _ => 0, monotone_const, fun n => Nat.zero_le n, ?_, ?_⟩
    . intro n _
      simp [versions, hreplica]
    . rw [hqueue]
      exact le_refl 0
  | append_singleton es e ih =>
    obtain ⟨mid, hbefore, hlast⟩ := Machine.run_append_eq_some.mp hrun
    obtain ⟨t', hone, hnil⟩ := Machine.run_cons_eq_some.mp hlast
    cases hnil
    obtain ⟨hmid, seen, hmono, hle, hshows, hcarries⟩ := ih hbefore
    obtain ⟨ht, hmove⟩ := hstep mid e t hmid hone
    have hnext : versions M value s (es ++ [e]) (es.length + 1) = some (value t) := by
      have hlast : versions M value s (es ++ [e]) (es ++ [e]).length = some (value t) :=
        versions_length hrun
      rwa [List.length_append] at hlast
    have hseen : versions M value s es (seen es.length) = some (replica mid) := by
      rw [← hshows es.length (le_refl _), List.take_length, hbefore]
      rfl
    obtain ⟨time, htime, hreplica', hcarries'⟩ := hmove.carries
      (fun t ht => versions_append ht) (versions_length hbefore) hnext hseen hcarries
    refine ⟨ht, upTo seen es.length time, monotone_upTo hmono htime,
      upTo_le hle hcarries'.le, ?_, ?_⟩
    . intro n hn
      by_cases hn' : n ≤ es.length
      . rw [upTo, if_pos hn', List.take_append_of_le_length hn',
          versions_append ((hle n).trans hn')]
        exact hshows n hn'
      . have heq : n = (es ++ [e]).length := by
          rw [List.length_append, List.length_singleton] at hn ⊢
          omega
        rw [upTo, if_neg hn', heq, List.take_length, hrun, hreplica']
        rfl
    . rw [upTo, if_neg (by simp), List.length_append]
      exact hcarries'

end Lag
