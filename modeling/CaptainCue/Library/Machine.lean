import Mathlib.Logic.Relation

/-!
This module contains state machines that take one event after the other, their runs, and the two
rules by which a fact about single steps becomes a fact about whole runs.
-/

/--
`step s e` is the state after the event `e`, or `none` if `e` cannot happen in `s`.
-/
structure Machine (σ ε : Type) where
  step : σ → ε → Option σ

namespace Machine

variable {σ ε : Type}

def run (M : Machine σ ε) (s : σ) : List ε → Option σ
  | [] => some s
  | e :: es =>
    match M.step s e with
    | some s' => M.run s' es
    | none => none

/--
Every step of the run meets the condition `C` on the state before it and on its event.
-/
def Meets (M : Machine σ ε) (C : σ → ε → Prop) (s : σ) : List ε → Prop
  | [] => True
  | e :: es => C s e ∧ ∀ s', M.step s e = some s' → M.Meets C s' es

variable {M : Machine σ ε}

@[simp]
theorem run_nil (s : σ) : M.run s [] = some s := rfl

theorem run_cons_eq_some {s t : σ} {e : ε} {es : List ε}
    : M.run s (e :: es) = some t ↔ ∃ s', M.step s e = some s' ∧ M.run s' es = some t := by
  cases h : M.step s e with
  | none => simp [run, h]
  | some s' => simp [run, h]

theorem run_append_eq_some {s t : σ} {es fs : List ε}
    : M.run s (es ++ fs) = some t ↔ ∃ s', M.run s es = some s' ∧ M.run s' fs = some t := by
  induction es generalizing s with
  | nil => simp
  | cons e es ih =>
    rw [List.cons_append, run_cons_eq_some]
    constructor
    . rintro ⟨s₁, hstep, hrun⟩
      obtain ⟨s₂, h₁, h₂⟩ := ih.mp hrun
      exact ⟨s₂, run_cons_eq_some.mpr ⟨s₁, hstep, h₁⟩, h₂⟩
    . rintro ⟨s₂, h₁, h₂⟩
      obtain ⟨s₁, hstep, hrun⟩ := run_cons_eq_some.mp h₁
      exact ⟨s₁, hstep, ih.mpr ⟨s₂, hrun, h₂⟩⟩

theorem meets_cons {C : σ → ε → Prop} {s s' : σ} {e : ε} {es : List ε} (h : M.step s e = some s')
    : M.Meets C s (e :: es) ↔ C s e ∧ M.Meets C s' es := by
  simp [Meets, h]

theorem meets_append {C : σ → ε → Prop} {s t : σ} {es fs : List ε} (hrun : M.run s es = some t)
    : M.Meets C s (es ++ fs) ↔ M.Meets C s es ∧ M.Meets C t fs := by
  induction es generalizing s with
  | nil =>
    cases hrun
    simp [Meets]
  | cons e es ih =>
    obtain ⟨s', h₁, h₂⟩ := run_cons_eq_some.mp hrun
    rw [List.cons_append, meets_cons h₁, meets_cons h₁, ih h₂, and_assoc]

theorem meets_of_forall {C : σ → ε → Prop} {es : List ε} (h : ∀ s, ∀ e ∈ es, C s e) (s : σ)
    : M.Meets C s es := by
  induction es generalizing s with
  | nil => trivial
  | cons e es ih =>
    refine ⟨h s e List.mem_cons_self, ?_⟩
    intro s' _
    apply ih
    intro s e' he'
    exact h s e' (List.mem_cons_of_mem e he')

theorem meets_congr {I : σ → Prop} {C D : σ → ε → Prop}
    (hstep : ∀ s e s', I s → M.step s e = some s' → I s')
    (hiff : ∀ s e s', I s → M.step s e = some s' → (C s e ↔ D s e))
    {s t : σ} {es : List ε} (hs : I s) (hrun : M.run s es = some t)
    : M.Meets C s es ↔ M.Meets D s es := by
  induction es generalizing s with
  | nil => exact Iff.rfl
  | cons e es ih =>
    obtain ⟨s', h₁, h₂⟩ := run_cons_eq_some.mp hrun
    rw [meets_cons h₁, meets_cons h₁, hiff s e s' hs h₁, ih (hstep s e s' hs h₁) h₂]

theorem invariant_of_meets {I : σ → Prop} {C : σ → ε → Prop}
    (hstep : ∀ s e s', I s → C s e → M.step s e = some s' → I s')
    {s t : σ} {es : List ε} (hs : I s) (hC : M.Meets C s es) (hrun : M.run s es = some t)
    : I t := by
  induction es generalizing s with
  | nil =>
    cases hrun
    exact hs
  | cons e es ih =>
    obtain ⟨s', h₁, h₂⟩ := run_cons_eq_some.mp hrun
    exact ih (hstep s e s' hs hC.1 h₁) (hC.2 s' h₁) h₂

theorem invariant {I : σ → Prop} (hstep : ∀ s e s', I s → M.step s e = some s' → I s')
    {s t : σ} {es : List ε} (hs : I s) (hrun : M.run s es = some t) : I t := by
  induction es generalizing s with
  | nil =>
    cases hrun
    exact hs
  | cons e es ih =>
    obtain ⟨s', h₁, h₂⟩ := run_cons_eq_some.mp hrun
    exact ih (hstep s e s' hs h₁) h₂

/--
Where a step that does not meet the condition does damage for good, a run either meets the condition
all along or ends damaged.
-/
theorem invariant_or_lost {I L : σ → Prop} {C : σ → ε → Prop}
    (hstep : ∀ s e s', I s → C s e → M.step s e = some s' → I s')
    (hbad : ∀ s e s', I s → ¬ C s e → M.step s e = some s' → L s')
    (hlost : ∀ s e s', L s → M.step s e = some s' → L s')
    {s t : σ} {es : List ε} (hs : I s) (hrun : M.run s es = some t)
    : (M.Meets C s es ∧ I t) ∨ (¬ M.Meets C s es ∧ L t) := by
  induction es generalizing s with
  | nil =>
    cases hrun
    exact .inl ⟨trivial, hs⟩
  | cons e es ih =>
    obtain ⟨s', h₁, h₂⟩ := run_cons_eq_some.mp hrun
    rw [meets_cons h₁]
    by_cases hC : C s e
    . cases ih (hstep s e s' hs hC h₁) h₂ with
      | inl h => exact .inl ⟨⟨hC, h.1⟩, h.2⟩
      | inr h => exact .inr ⟨fun hmeets => h.1 hmeets.2, h.2⟩
    . exact .inr ⟨fun hmeets => hC hmeets.1, invariant hlost (hbad s e s' hs hC h₁) h₂⟩

theorem run_simulates {α : Type} {R : α → α → Prop} {I : σ → Prop} (abs : σ → α)
    (hstep : ∀ s e s', I s → M.step s e = some s' → I s' ∧ Relation.ReflTransGen R (abs s) (abs s'))
    {s t : σ} {es : List ε} (hs : I s) (hrun : M.run s es = some t)
    : I t ∧ Relation.ReflTransGen R (abs s) (abs t) := by
  induction es generalizing s with
  | nil =>
    cases hrun
    exact ⟨hs, .refl⟩
  | cons e es ih =>
    obtain ⟨s', h₁, h₂⟩ := run_cons_eq_some.mp hrun
    obtain ⟨hs', hR⟩ := hstep s e s' hs h₁
    obtain ⟨ht, hR'⟩ := ih hs' h₂
    exact ⟨ht, hR.trans hR'⟩

/--
A machine refines another if each step is matched by a run that the observer cannot tell from it.
-/
theorem run_refines {τ δ α : Type} {N : Machine τ δ} {I : σ → Prop} (abs : σ → τ)
    {observe : ε → Option α} {observe' : δ → Option α}
    (hstep : ∀ s e s', I s → M.step s e = some s' →
      I s' ∧ ∃ ds, N.run (abs s) ds = some (abs s') ∧ ds.filterMap observe' = (observe e).toList)
    {s t : σ} {es : List ε} (hs : I s) (hrun : M.run s es = some t)
    : I t ∧ ∃ ds, N.run (abs s) ds = some (abs t)
        ∧ ds.filterMap observe' = es.filterMap observe := by
  induction es generalizing s with
  | nil =>
    cases hrun
    exact ⟨hs, [], rfl, rfl⟩
  | cons e es ih =>
    obtain ⟨s', h₁, h₂⟩ := run_cons_eq_some.mp hrun
    obtain ⟨hs', ds, hds, hobserved⟩ := hstep s e s' hs h₁
    obtain ⟨ht, ds', hds', hobserved'⟩ := ih hs' h₂
    refine ⟨ht, ds ++ ds', run_append_eq_some.mpr ⟨abs s', hds, hds'⟩, ?_⟩
    rw [List.filterMap_append, hobserved, hobserved', List.filterMap_cons]
    cases observe e <;> rfl

end Machine
