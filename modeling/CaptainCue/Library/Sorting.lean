import Mathlib.Data.List.Perm.Basic
import Mathlib.Order.Lattice

/-!
This module contains lists sorted by a key. Where the keys are distinct, the result does not depend
on the order of the input.
-/

section Sorting

variable {α β γ : Type} [LinearOrder γ]

def sortedBy (key : α → γ) (l : List α) : List α :=
  l.mergeSort fun a b => key a ≤ key b

theorem sortedBy_perm (key : α → γ) (l : List α) : (sortedBy key l).Perm l :=
  List.mergeSort_perm l _

theorem pairwise_sortedBy (key : α → γ) (l : List α)
    : (sortedBy key l).Pairwise fun a b => key a ≤ key b := by
  have hsorted : (sortedBy key l).Pairwise fun a b => decide (key a ≤ key b) = true := by
    apply List.pairwise_mergeSort
    . intro a b c hab hbc
      simp only [decide_eq_true_eq] at hab hbc ⊢
      exact le_trans hab hbc
    . intro a b
      simp only [Bool.or_eq_true, decide_eq_true_eq]
      exact le_total (key a) (key b)
  apply hsorted.imp
  intro a b hab
  exact of_decide_eq_true hab

/--
Sorting commutes with a map that keeps the order of the keys and keeps them apart.
-/
theorem sortedBy_eq_map {key : α → γ} {key' : β → γ} {f : α → β} {l : List α} {l' : List β}
    (hperm : l'.Perm (l.map f)) (hmono : ∀ a b, key a ≤ key b → key' (f a) ≤ key' (f b))
    (hdistinct : ∀ a ∈ l, ∀ b ∈ l, key' (f a) = key' (f b) → a = b)
    : sortedBy key' l' = (sortedBy key l).map f := by
  have hperm' : (sortedBy key' l').Perm ((sortedBy key l).map f) :=
    (sortedBy_perm key' l').trans (hperm.trans ((sortedBy_perm key l).map f).symm)
  have hsource : ∀ b ∈ (sortedBy key l).map f, ∃ a ∈ l, f a = b := by
    intro b hb
    obtain ⟨a, ha, rfl⟩ := List.mem_map.mp hb
    exact ⟨a, (sortedBy_perm key l).mem_iff.mp ha, rfl⟩
  apply List.Perm.eq_of_pairwise _ (pairwise_sortedBy key' l') _ hperm'
  . intro b b' hb hb' hle hge
    obtain ⟨a, ha, rfl⟩ := hsource b (hperm'.mem_iff.mp hb)
    obtain ⟨a', ha', rfl⟩ := hsource b' hb'
    rw [hdistinct a ha a' ha' (le_antisymm hle hge)]
  . apply List.pairwise_map.mpr
    apply (pairwise_sortedBy key l).imp
    intro a b hab
    exact hmono a b hab

theorem sortedBy_map {key : α → γ} {f : α → α} (hkey : ∀ a, key (f a) = key a) (l : List α)
    : sortedBy key (l.map f) = (sortedBy key l).map f := by
  symm
  apply List.map_mergeSort
  intro a _ b _
  rw [hkey, hkey]

theorem eq_sortedBy {key : α → γ} {l l' : List α} (hperm : l'.Perm l)
    (hsorted : l'.Pairwise fun a b => key a ≤ key b)
    (hdistinct : ∀ a ∈ l, ∀ b ∈ l, key a = key b → a = b) : l' = sortedBy key l := by
  apply List.Perm.eq_of_pairwise _ hsorted (pairwise_sortedBy key l)
  . exact hperm.trans (sortedBy_perm key l).symm
  . intro a b ha hb hle hge
    exact hdistinct a (hperm.mem_iff.mp ha) b ((sortedBy_perm key l).mem_iff.mp hb)
      (le_antisymm hle hge)

theorem sortedBy_filter {key : α → γ} {l : List α} (p : α → Bool)
    (hdistinct : ∀ a ∈ l, ∀ b ∈ l, key a = key b → a = b)
    : (sortedBy key l).filter p = sortedBy key (l.filter p) := by
  apply eq_sortedBy
  . exact (sortedBy_perm key l).filter p
  . exact (pairwise_sortedBy key l).sublist List.filter_sublist
  . intro a ha b hb
    exact hdistinct a (List.mem_of_mem_filter ha) b (List.mem_of_mem_filter hb)

theorem pairwise_lt_sortedBy {key : α → γ} {l : List α} (hnodup : l.Nodup)
    (hdistinct : ∀ a ∈ l, ∀ b ∈ l, key a = key b → a = b)
    : (sortedBy key l).Pairwise fun a b => key a < key b := by
  have hne : (sortedBy key l).Nodup := (sortedBy_perm key l).nodup_iff.mpr hnodup
  apply ((pairwise_sortedBy key l).and hne).imp_of_mem
  rintro a b ha hb ⟨hle, hab⟩
  apply lt_of_le_of_ne hle
  intro heq
  exact hab (hdistinct a ((sortedBy_perm key l).mem_iff.mp ha) b
    ((sortedBy_perm key l).mem_iff.mp hb) heq)

def sortedByDescending (key : α → γ) (l : List α) : List α :=
  sortedBy (fun a => OrderDual.toDual (key a)) l

theorem pairwise_sortedByDescending (key : α → γ) (l : List α)
    : (sortedByDescending key l).Pairwise fun a b => key b ≤ key a := by
  apply (pairwise_sortedBy (fun a => OrderDual.toDual (key a)) l).imp
  intro a b hab
  exact OrderDual.toDual_le_toDual.mp hab

end Sorting
