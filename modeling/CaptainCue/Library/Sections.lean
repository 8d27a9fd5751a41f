import Mathlib.Data.List.Chain
import Mathlib.Data.List.Forall2
import Mathlib.Data.List.Perm.Basic

/-!
This module contains lists cut into sections of consecutive elements with the same key, and what a
section is when the list is sorted and no key comes back.
-/

section Sections

variable {α κ : Type} {key : α → κ} {l : List α} {sections : List (List α)}

structure Sectioned (key : α → κ) (l : List α) (sections : List (List α)) : Prop where
  flatten : sections.flatten = l
  ne_nil : ∀ s ∈ sections, s ≠ []
  same : ∀ s ∈ sections, ∀ a ∈ s, ∀ b ∈ s, key a = key b
  differ : sections.IsChain fun s t => ∀ a ∈ s, ∀ b ∈ t, key a ≠ key b

theorem sectioned_nil (key : α → κ) : Sectioned key [] [] :=
  ⟨rfl, by simp, by simp, .nil⟩

theorem sectioned_singleton (key : α → κ) (a : α) : Sectioned key [a] [[a]] := by
  refine ⟨rfl, by simp, ?_, .singleton _⟩
  intro s hs b hb c hc
  rw [List.mem_singleton] at hs
  subst hs
  rw [List.mem_singleton.mp hb, List.mem_singleton.mp hc]

/-! ### One more element at the end -/

theorem Sectioned.extend {done : List (List α)} {temp : List α} {a : α}
    (h : Sectioned key l (done ++ [temp])) (ha : ∀ b ∈ temp, key a = key b)
    : Sectioned key (l ++ [a]) (done ++ [temp ++ [a]]) := by
  have htemp : temp ≠ [] := h.ne_nil temp (by simp)
  have hsame : ∀ b ∈ temp ++ [a], key a = key b := by
    intro b hb
    cases List.mem_append.mp hb with
    | inl hb => exact ha b hb
    | inr hb => rw [List.mem_singleton.mp hb]
  obtain ⟨hdone, -, hlast⟩ := List.isChain_append.mp h.differ
  refine ⟨?_, ?_, ?_, ?_⟩
  . rw [← h.flatten]
    simp
  . intro s hs
    cases List.mem_append.mp hs with
    | inl hs => exact h.ne_nil s (List.mem_append_left _ hs)
    | inr hs =>
      rw [List.mem_singleton.mp hs]
      simp
  . intro s hs b hb c hc
    cases List.mem_append.mp hs with
    | inl hs => exact h.same s (List.mem_append_left _ hs) b hb c hc
    | inr hs =>
      rw [List.mem_singleton.mp hs] at hb hc
      rw [← hsame b hb, ← hsame c hc]
  . apply List.isChain_append.mpr
    refine ⟨hdone, .singleton _, ?_⟩
    intro s hs t ht b hb c hc
    cases ht
    obtain ⟨d, hd⟩ := List.exists_mem_of_ne_nil temp htemp
    rw [← hsame c hc, ha d hd]
    exact hlast s hs temp rfl b hb d hd

theorem Sectioned.start {done : List (List α)} {temp : List α} {a : α}
    (h : Sectioned key l (done ++ [temp])) (ha : ∀ b ∈ temp, key b ≠ key a)
    : Sectioned key (l ++ [a]) (done ++ [temp] ++ [[a]]) := by
  have hone := sectioned_singleton key a
  refine ⟨?_, ?_, ?_, ?_⟩
  . rw [List.flatten_append, h.flatten, hone.flatten]
  . intro s hs
    cases List.mem_append.mp hs with
    | inl hs => exact h.ne_nil s hs
    | inr hs => exact hone.ne_nil s hs
  . intro s hs
    cases List.mem_append.mp hs with
    | inl hs => exact h.same s hs
    | inr hs => exact hone.same s hs
  . apply List.isChain_append.mpr
    refine ⟨h.differ, hone.differ, ?_⟩
    intro s hs t ht b hb c hc
    rw [List.getLast?_append_of_ne_nil _ (by simp)] at hs
    cases hs
    cases ht
    rw [List.mem_singleton.mp hc]
    exact ha b hb

/-! ### Sorted lists in which no key comes back -/

theorem Sectioned.mem_iff (h : Sectioned key l sections) {a : α}
    : a ∈ l ↔ ∃ s ∈ sections, a ∈ s := by
  rw [← h.flatten, List.mem_flatten]

theorem Sectioned.eq_nil_iff (h : Sectioned key l sections) : sections = [] ↔ l = [] := by
  constructor
  . rintro rfl
    exact h.flatten.symm
  . rintro rfl
    apply List.eq_nil_iff_forall_not_mem.mpr
    intro s hs
    exact h.ne_nil s hs (List.flatten_eq_nil_iff.mp h.flatten s hs)

theorem Sectioned.pairwise {r : α → α → Prop} (h : Sectioned key l sections) (hl : l.Pairwise r)
    : sections.Pairwise fun s t => ∀ a ∈ s, ∀ b ∈ t, r a b := by
  rw [← h.flatten] at hl
  exact (List.pairwise_flatten.mp hl).2

theorem Sectioned.pairwise_ne {r : α → α → Prop} (h : Sectioned key l sections)
    (hl : l.Pairwise r)
    (hconvex : ∀ a ∈ l, ∀ b ∈ l, ∀ c ∈ l, r a b → r b c → key a = key c → key b = key a)
    : sections.Pairwise fun s t => ∀ a ∈ s, ∀ b ∈ t, key a ≠ key b := by
  induction sections generalizing l with
  | nil => exact .nil
  | cons s sections ih =>
    have hsorted := h.pairwise hl
    have hdiffer := h.differ
    have hmem : ∀ a, a ∈ l ↔ ∃ t ∈ s :: sections, a ∈ t := fun a => h.mem_iff
    rw [List.pairwise_cons] at hsorted
    rw [List.isChain_cons] at hdiffer
    have hrest : Sectioned key sections.flatten sections :=
      ⟨rfl, fun t ht => h.ne_nil t (List.mem_cons_of_mem _ ht),
        fun t ht => h.same t (List.mem_cons_of_mem _ ht), hdiffer.2⟩
    have hsub : ∀ a ∈ sections.flatten, a ∈ l := by
      intro a ha
      obtain ⟨t, ht, hat⟩ := List.mem_flatten.mp ha
      exact (hmem a).mpr ⟨t, List.mem_cons_of_mem _ ht, hat⟩
    have hpairwise : sections.flatten.Pairwise r := by
      rw [← h.flatten, List.flatten_cons] at hl
      exact (List.pairwise_append.mp hl).2.1
    rw [List.pairwise_cons]
    refine ⟨?_, ih hrest hpairwise fun a ha b hb c hc =>
      hconvex a (hsub a ha) b (hsub b hb) c (hsub c hc)⟩
    intro t ht a ha b hb heq
    cases sections with
    | nil => cases ht
    | cons next sections =>
      have hnext := hdiffer.1 next rfl
      cases List.mem_cons.mp ht with
      | inl hfirst =>
        subst hfirst
        exact hnext a ha b hb heq
      | inr hlater =>
        -- the section in between has the key of `a` as well
        obtain ⟨c, hc⟩ := List.exists_mem_of_ne_nil next (h.ne_nil next (by simp))
        have hac := hsorted.1 next List.mem_cons_self a ha c hc
        have hcb := (List.pairwise_cons.mp hsorted.2).1 t hlater c hc b hb
        have hal := (hmem a).mpr ⟨s, by simp, ha⟩
        have hcl := (hmem c).mpr ⟨next, by simp, hc⟩
        have hbl := (hmem b).mpr ⟨t, List.mem_cons_of_mem _ ht, hb⟩
        exact hnext a ha c hc (hconvex a hal c hcl b hbl hac hcb heq).symm

theorem Sectioned.mem_of_key_eq (h : Sectioned key l sections)
    (hne : sections.Pairwise fun s t => ∀ a ∈ s, ∀ b ∈ t, key a ≠ key b) {s : List α}
    (hs : s ∈ sections) {a b : α} (ha : a ∈ s) (hb : b ∈ l) (heq : key b = key a) : b ∈ s := by
  obtain ⟨t, ht, hbt⟩ := h.mem_iff.mp hb
  by_contra hbs
  have hst : s ≠ t := by
    rintro rfl
    exact hbs hbt
  have hsymm : Std.Symm fun s t : List α => ∀ a ∈ s, ∀ b ∈ t, key a ≠ key b :=
    ⟨fun s t h a ha b hb heq => h b hb a ha heq.symm⟩
  exact hne.forall hs ht hst a ha b hbt heq.symm

/-! ### Two lists with the same keys -/

theorem Sectioned.head? (h : Sectioned key l sections) {s : List α} (hs : s ∈ sections) {a : α}
    (ha : a ∈ s) : s.head?.map key = some (key a) := by
  cases s with
  | nil => cases ha
  | cons b s => exact congrArg some (h.same _ hs b List.mem_cons_self a ha)

theorem Sectioned.mem_map_head? (h : Sectioned key l sections) {k : Option κ}
    : (k ∈ sections.map fun s => s.head?.map key) ↔ ∃ a ∈ l, some (key a) = k := by
  rw [List.mem_map]
  constructor
  . rintro ⟨s, hs, rfl⟩
    obtain ⟨a, ha⟩ := List.exists_mem_of_ne_nil s (h.ne_nil s hs)
    exact ⟨a, h.mem_iff.mpr ⟨s, hs, ha⟩, (h.head? hs ha).symm⟩
  . rintro ⟨a, ha, rfl⟩
    obtain ⟨s, hs, has⟩ := h.mem_iff.mp ha
    exact ⟨s, hs, h.head? hs has⟩

theorem Sectioned.pairwise_head? {before : κ → κ → Prop}
    (hsorted : sections.Pairwise fun s t => ∀ a ∈ s, ∀ b ∈ t, before (key a) (key b))
    : (sections.map fun s => s.head?.map key).Pairwise
        fun k k' => ∀ a, k = some a → ∀ b, k' = some b → before a b := by
  apply List.pairwise_map.mpr
  apply hsorted.imp
  intro s t hst k hk k' hk'
  obtain ⟨a, ha, rfl⟩ := Option.map_eq_some_iff.mp hk
  obtain ⟨b, hb, rfl⟩ := Option.map_eq_some_iff.mp hk'
  exact hst a (List.mem_of_mem_head? ha) b (List.mem_of_mem_head? hb)

/--
Two lists with the same keys, in sections that are sorted by their keys, have one section for each
key, at the same place.
-/
theorem Sectioned.forall₂ {β : Type} {key' : β → κ} {l' : List β} {sections' : List (List β)}
    {before : κ → κ → Prop} (h : Sectioned key l sections) (h' : Sectioned key' l' sections')
    (hsorted : sections.Pairwise fun s t => ∀ a ∈ s, ∀ b ∈ t, before (key a) (key b))
    (hsorted' : sections'.Pairwise fun s t => ∀ a ∈ s, ∀ b ∈ t, before (key' a) (key' b))
    (hasymm : ∀ a ∈ l, ∀ b ∈ l, before (key a) (key b) → ¬ before (key b) (key a))
    (hkeys : ∀ k, (∃ a ∈ l, key a = k) ↔ ∃ b ∈ l', key' b = k)
    : List.Forall₂ (fun s t => s ∈ sections ∧ t ∈ sections' ∧ ∀ a ∈ s, ∀ b ∈ t, key a = key' b)
        sections sections' := by
  have hmem : ∀ k, (k ∈ sections.map fun s => s.head?.map key)
      ↔ k ∈ sections'.map fun s => s.head?.map key' := by
    intro k
    rw [h.mem_map_head?, h'.mem_map_head?]
    cases k with
    | none => simp
    | some k => simpa only [Option.some.injEq] using hkeys k
  have hheads := Sectioned.pairwise_head? hsorted
  have hheads' := Sectioned.pairwise_head? hsorted'
  have hne : ∀ k k' : Option κ, (k ∈ sections.map fun s => s.head?.map key) →
      (∀ a, k = some a → ∀ b, k' = some b → before a b) → k ≠ k' := by
    rintro k k' hk hbefore rfl
    obtain ⟨a, ha, rfl⟩ := h.mem_map_head?.mp hk
    have := hbefore _ rfl _ rfl
    exact hasymm a ha a ha this this
  have hperm : (sections.map fun s => s.head?.map key).Perm
      (sections'.map fun s => s.head?.map key') := by
    apply (List.perm_ext_iff_of_nodup _ _).mpr hmem
    . exact hheads.imp_of_mem fun hk _ hbefore => hne _ _ hk hbefore
    . exact hheads'.imp_of_mem fun hk _ hbefore => hne _ _ ((hmem _).mpr hk) hbefore
  have heq : (sections.map fun s => s.head?.map key) = sections'.map fun s => s.head?.map key' := by
    apply hperm.eq_of_pairwise _ hheads hheads'
    intro k k' hk hk' hbefore hbefore'
    obtain ⟨a, ha, rfl⟩ := h.mem_map_head?.mp hk
    obtain ⟨b, hb, rfl⟩ := h.mem_map_head?.mp ((hmem k').mpr hk')
    exact absurd (hbefore' _ rfl _ rfl) (hasymm a ha b hb (hbefore _ rfl _ rfl))
  apply List.forall₂_iff_get.mpr
  refine ⟨by simpa using congrArg List.length heq, ?_⟩
  intro i hi hi'
  have hs := List.get_mem sections ⟨i, hi⟩
  have ht := List.get_mem sections' ⟨i, hi'⟩
  have hget : (sections.map fun s => s.head?.map key)[i]?
      = (sections'.map fun s => s.head?.map key')[i]? := by
    rw [heq]
  rw [List.getElem?_map, List.getElem?_map, List.getElem?_eq_getElem hi,
    List.getElem?_eq_getElem hi'] at hget
  refine ⟨hs, ht, ?_⟩
  intro a ha b hb
  have hhead : (sections.get ⟨i, hi⟩).head?.map key = (sections'.get ⟨i, hi'⟩).head?.map key' :=
    Option.some.inj hget
  rw [h.head? hs ha, h'.head? ht hb] at hhead
  exact Option.some.inj hhead

end Sections
