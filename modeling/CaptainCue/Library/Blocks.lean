import Mathlib.Algebra.GroupWithZero.Nat
import Mathlib.Algebra.Order.BigOperators.Group.List
import Mathlib.Algebra.Order.Group.Nat
import Mathlib.Data.List.DropRight
import Mathlib.Order.Bounds.Basic

/-!
This module contains the blocks of consecutive elements of a list that all satisfy a predicate, the
length of the longest block, and how both behave when the list is extended or split into parts.
-/

section Blocks

variable {α κ : Type} {p : α → Bool} {l : List α} {n : Nat}

def IsBlock (p : α → Bool) (l block : List α) : Prop :=
  block <:+: l ∧ ∀ a ∈ block, p a

def IsLongestBlock (p : α → Bool) (l : List α) (n : Nat) : Prop :=
  IsGreatest { n | ∃ block, IsBlock p l block ∧ block.length = n } n

def trailing (p : α → Bool) (l : List α) : Nat :=
  (l.rtakeWhile p).length

theorem IsBlock.length_le {block : List α} (h : IsBlock p l block) (hn : IsLongestBlock p l n)
    : block.length ≤ n :=
  hn.2 ⟨block, h, rfl⟩

theorem isBlock_nil (p : α → Bool) (l : List α) : IsBlock p l [] :=
  ⟨List.nil_infix, by simp⟩

/-! ### One more element at the end -/

@[simp]
theorem trailing_nil (p : α → Bool) : trailing p [] = 0 := by
  simp [trailing, List.rtakeWhile]

theorem trailing_concat_pos {a : α} (h : p a) : trailing p (l ++ [a]) = trailing p l + 1 := by
  unfold trailing
  rw [List.rtakeWhile_concat_pos _ _ _ h, List.length_append, List.length_singleton]

theorem trailing_concat_neg {a : α} (h : ¬ p a) : trailing p (l ++ [a]) = 0 := by
  unfold trailing
  rw [List.rtakeWhile_concat_neg _ _ _ h, List.length_nil]

theorem length_le_trailing {block : List α} (hsuffix : block <:+ l) (hblock : ∀ a ∈ block, p a)
    : block.length ≤ trailing p l := by
  induction l using List.reverseRecOn generalizing block with
  | nil => simp [List.suffix_nil.mp hsuffix]
  | append_singleton l a ih =>
    cases List.suffix_concat_iff.mp hsuffix with
    | inl hnil => simp [hnil]
    | inr hconcat =>
      obtain ⟨block', rfl, hsuffix'⟩ := hconcat
      have ha : p a := hblock a (by simp)
      rw [trailing_concat_pos ha, List.length_append, List.length_singleton]
      have := ih hsuffix' fun b hb => hblock b (List.mem_append_left _ hb)
      omega

theorem isLongestBlock_nil (p : α → Bool) : IsLongestBlock p [] 0 := by
  refine ⟨⟨[], isBlock_nil p [], rfl⟩, ?_⟩
  rintro m ⟨block, ⟨hwithin, -⟩, rfl⟩
  simp [List.infix_nil.mp hwithin]

theorem IsLongestBlock.concat_neg {a : α} (h : IsLongestBlock p l n) (ha : ¬ p a)
    : IsLongestBlock p (l ++ [a]) n := by
  constructor
  . obtain ⟨block, ⟨hwithin, hblock⟩, hlength⟩ := h.1
    exact ⟨block, ⟨hwithin.trans (List.prefix_append l [a]).isInfix, hblock⟩, hlength⟩
  . rintro m ⟨block, ⟨hwithin, hblock⟩, rfl⟩
    cases List.infix_concat_iff.mp hwithin with
    | inl hsuffix =>
      have := length_le_trailing hsuffix hblock
      rw [trailing_concat_neg ha] at this
      omega
    | inr hwithin => exact IsBlock.length_le ⟨hwithin, hblock⟩ h

theorem IsLongestBlock.concat_pos {a : α} (h : IsLongestBlock p l n) (ha : p a)
    : IsLongestBlock p (l ++ [a]) (max n (trailing p l + 1)) := by
  constructor
  . cases Nat.le_total n (trailing p l + 1) with
    | inl hle =>
      rw [Nat.max_eq_right hle, ← trailing_concat_pos ha]
      exact ⟨_, ⟨(List.rtakeWhile_suffix p _).isInfix, fun b hb => List.mem_rtakeWhile_imp hb⟩, rfl⟩
    | inr hge =>
      rw [Nat.max_eq_left hge]
      obtain ⟨block, ⟨hwithin, hblock⟩, hlength⟩ := h.1
      exact ⟨block, ⟨hwithin.trans (List.prefix_append l [a]).isInfix, hblock⟩, hlength⟩
  . rintro m ⟨block, ⟨hwithin, hblock⟩, rfl⟩
    cases List.infix_concat_iff.mp hwithin with
    | inl hsuffix =>
      have := length_le_trailing hsuffix hblock
      rw [trailing_concat_pos ha] at this
      omega
    | inr hwithin =>
      have := IsBlock.length_le ⟨hwithin, hblock⟩ h
      omega

/-! ### Other lists -/

theorem IsLongestBlock.map {β : Type} {q : β → Bool} {f : β → α} {l : List β}
    (h : IsLongestBlock q l n) (hq : ∀ b, p (f b) = q b) : IsLongestBlock p (l.map f) n := by
  constructor
  . obtain ⟨block, ⟨hwithin, hblock⟩, hlength⟩ := h.1
    refine ⟨block.map f, ⟨hwithin.map f, ?_⟩, by rw [List.length_map, hlength]⟩
    intro a ha
    obtain ⟨b, hb, rfl⟩ := List.mem_map.mp ha
    rw [hq]
    exact hblock b hb
  . rintro m ⟨block, ⟨⟨s, t, hl⟩, hblock⟩, rfl⟩
    obtain ⟨st, t', rfl, hst, rfl⟩ := List.map_eq_append_iff.mp hl.symm
    obtain ⟨s', block', rfl, rfl, rfl⟩ := List.map_eq_append_iff.mp hst
    rw [List.length_map]
    apply IsBlock.length_le _ h
    refine ⟨⟨s', t', rfl⟩, ?_⟩
    intro b hb
    rw [← hq]
    exact hblock (f b) (List.mem_map_of_mem hb)

theorem IsLongestBlock.cons_neg {a : α} (h : IsLongestBlock p l n) (ha : ¬ p a)
    : IsLongestBlock p (a :: l) n := by
  constructor
  . obtain ⟨block, ⟨hwithin, hblock⟩, hlength⟩ := h.1
    exact ⟨block, ⟨hwithin.trans (List.suffix_cons a l).isInfix, hblock⟩, hlength⟩
  . rintro m ⟨block, ⟨hwithin, hblock⟩, rfl⟩
    cases List.infix_cons_iff.mp hwithin with
    | inl hprefix =>
      cases block with
      | nil => exact Nat.zero_le n
      | cons b block =>
        have hb : b = a := (List.cons_prefix_cons.mp hprefix).1
        exact absurd (hblock b List.mem_cons_self) (hb ▸ ha)
    | inr hwithin => exact IsBlock.length_le ⟨hwithin, hblock⟩ h

theorem IsLongestBlock.append_left {front : List α} (h : IsLongestBlock p l n)
    (hfront : ∀ a ∈ front, ¬ p a) : IsLongestBlock p (front ++ l) n := by
  induction front with
  | nil => exact h
  | cons a front ih =>
    have hrest := ih fun b hb => hfront b (List.mem_cons_of_mem _ hb)
    exact hrest.cons_neg (hfront a List.mem_cons_self)

/-! ### The parts of a list -/

variable [DecidableEq κ] (key : α → κ)

theorem sum_countP_parts (p : α → Bool) {keys : List κ} (hnodup : keys.Nodup) {l : List α}
    (hkeys : ∀ a ∈ l, key a ∈ keys)
    : (keys.map fun k => (l.filter fun a => key a = k).countP p).sum = l.countP p := by
  induction keys generalizing l with
  | nil =>
    cases l with
    | nil => rfl
    | cons a l => exact absurd (hkeys a List.mem_cons_self) List.not_mem_nil
  | cons k keys ih =>
    rw [List.nodup_cons] at hnodup
    have hrest : ∀ a ∈ l.filter fun a => !decide (key a = k), key a ∈ keys := by
      intro a ha
      obtain ⟨hmem, hne⟩ := List.mem_filter.mp ha
      cases List.mem_cons.mp (hkeys a hmem) with
      | inl heq => simp [heq] at hne
      | inr hin => exact hin
    have hparts : ∀ k' ∈ keys,
        ((l.filter fun a => !decide (key a = k)).filter fun a => decide (key a = k')).countP p
          = (l.filter fun a => decide (key a = k')).countP p := by
      intro k' hk'
      rw [List.filter_filter]
      congr 1
      apply List.filter_congr
      intro a _
      by_cases ha : key a = k'
      . have hne : key a ≠ k := by
          rw [ha]
          rintro rfl
          exact hnodup.1 hk'
        simp [ha, ha ▸ hne]
      . simp [ha]
    have hsum := ih hnodup.2 hrest
    rw [List.map_congr_left hparts] at hsum
    rw [List.map_cons, List.sum_cons, hsum]
    exact (List.countP_eq_countP_filter_add l p fun a => decide (key a = k)).symm

theorem IsLongestBlock.le_sum_parts {ι : Type} {items : List ι} {part : ι → κ}
    (hnodup : (items.map part).Nodup) (hkeys : ∀ a ∈ l, key a ∈ items.map part)
    (h : IsLongestBlock p l n) {longest : ι → Nat}
    (hparts : ∀ i ∈ items, IsLongestBlock p (l.filter fun a => key a = part i) (longest i))
    : n ≤ (items.map longest).sum := by
  obtain ⟨block, ⟨hwithin, hblock⟩, rfl⟩ := h.1
  have hlength : block.countP (fun _ => true) = block.length := congrFun List.countP_true block
  rw [← hlength, ← sum_countP_parts key _ hnodup fun a ha => hkeys a (hwithin.mem ha), List.map_map]
  apply List.sum_le_sum
  intro i hi
  -- what a block of the list has in common with a part is a block of the part
  have hpart : IsBlock p (l.filter fun a => key a = part i) (block.filter fun a => key a = part i) :=
    ⟨hwithin.filter _, fun a ha => hblock a (List.mem_of_mem_filter ha)⟩
  rw [Function.comp_apply, List.countP_true]
  exact hpart.length_le (hparts i hi)

theorem IsLongestBlock.le_of_within {l' : List α} {m : Nat} (h : IsLongestBlock p l n)
    (h' : IsLongestBlock p l' m) (hwithin : l' <:+: l) : m ≤ n := by
  obtain ⟨block, ⟨hblock, hp⟩, rfl⟩ := h'.1
  exact IsBlock.length_le ⟨hblock.trans hwithin, hp⟩ h

theorem filter_prefix_of_closed {r : α → α → Prop} {q : α → Bool} (hsorted : l.Pairwise r)
    (hclosed : ∀ a ∈ l, ∀ b ∈ l, r a b → q b → q a) : l.filter q <+: l := by
  induction l with
  | nil => exact List.prefix_rfl
  | cons a l ih =>
    rw [List.pairwise_cons] at hsorted
    have hrest := ih hsorted.2 fun b hb c hc =>
      hclosed b (List.mem_cons_of_mem _ hb) c (List.mem_cons_of_mem _ hc)
    by_cases ha : q a
    . rw [List.filter_cons_of_pos ha]
      exact (List.prefix_cons_inj a).mpr hrest
    . have hnone : (a :: l).filter q = [] := by
        apply List.filter_eq_nil_iff.mpr
        intro b hb hq
        cases List.mem_cons.mp hb with
        | inl heq => exact ha (heq ▸ hq)
        | inr hb =>
          exact ha (hclosed a List.mem_cons_self b (List.mem_cons_of_mem _ hb) (hsorted.1 b hb) hq)
      rw [hnone]
      exact List.nil_prefix

/--
In a sorted list, what has no stranger in between stands together.
-/
theorem filter_infix_of_convex {r : α → α → Prop} {q : α → Bool} (hsorted : l.Pairwise r)
    (hconvex : ∀ a ∈ l, ∀ b ∈ l, ∀ c ∈ l, r a b → r b c → q a → q c → q b)
    : l.filter q <:+: l := by
  induction l with
  | nil => exact List.infix_rfl
  | cons a l ih =>
    rw [List.pairwise_cons] at hsorted
    by_cases ha : q a
    . rw [List.filter_cons_of_pos ha]
      apply List.IsPrefix.isInfix
      apply (List.prefix_cons_inj a).mpr
      apply filter_prefix_of_closed hsorted.2
      intro b hb c hc hbc hq
      exact hconvex a List.mem_cons_self b (List.mem_cons_of_mem _ hb) c
        (List.mem_cons_of_mem _ hc) (hsorted.1 b hb) hbc ha hq
    . rw [List.filter_cons_of_neg ha]
      have hrest := ih hsorted.2 fun b hb c hc d hd =>
        hconvex b (List.mem_cons_of_mem _ hb) c (List.mem_cons_of_mem _ hc) d
          (List.mem_cons_of_mem _ hd)
      exact hrest.trans (List.suffix_cons a l).isInfix

end Blocks
