/-!
This module contains programs with a state and exceptions, and the rules by which one shows that a
program returns without raising, in a state with a given property.
-/

section Returns

variable {σ ε α β : Type}

/--
Started in `s`, the program `x` raises nothing, and its result and last state satisfy `Q`.
-/
def Returns (x : StateT σ (Except ε) α) (s : σ) (Q : α → σ → Prop) : Prop :=
  ∃ a t, x.run s = .ok (a, t) ∧ Q a t

variable {x : StateT σ (Except ε) α} {s : σ} {Q : α → σ → Prop}

theorem Returns.mono {Q' : α → σ → Prop} (h : Returns x s Q) (hQ : ∀ a t, Q a t → Q' a t)
    : Returns x s Q' := by
  obtain ⟨a, t, hx, ha⟩ := h
  exact ⟨a, t, hx, hQ a t ha⟩

theorem Returns.pure {a : α} (h : Q a s)
    : Returns (Pure.pure a : StateT σ (Except ε) α) s Q :=
  ⟨a, s, rfl, h⟩

theorem Returns.bind {f : α → StateT σ (Except ε) β} {R : β → σ → Prop}
    (h : Returns x s fun a t => Returns (f a) t R) : Returns (x >>= f) s R := by
  obtain ⟨a, t, hx, b, u, hb, hR⟩ := h
  refine ⟨b, u, ?_, hR⟩
  rw [StateT.run_bind, hx]
  exact hb

theorem Returns.get {Q : σ → σ → Prop} (h : Q s s)
    : Returns (MonadState.get : StateT σ (Except ε) σ) s Q :=
  ⟨s, s, rfl, h⟩

theorem Returns.set {t : σ} {Q : PUnit → σ → Prop} (h : Q ⟨⟩ t)
    : Returns (MonadStateOf.set t : StateT σ (Except ε) PUnit) s Q :=
  ⟨⟨⟩, t, rfl, h⟩

theorem Returns.modify {f : σ → σ} {Q : PUnit → σ → Prop} (h : Q ⟨⟩ (f s))
    : Returns (modify f : StateT σ (Except ε) PUnit) s Q :=
  ⟨⟨⟩, f s, rfl, h⟩

/--
A loop simulates a fold: `R` relates the states of the two, and the invariant `J` speaks about the
elements that are still to come.
-/
theorem Returns.forM_foldl {τ γ : Type} {f : α → StateT σ (Except ε) PUnit} {body : τ → γ → τ}
    {R : σ → τ → Prop} {J : List α → List γ → σ → Prop}
    (hstep : ∀ a as c cs s t, R s t → J (a :: as) (c :: cs) s →
      Returns (f a) s fun _ s' => R s' (body t c) ∧ J as cs s')
    {as : List α} {cs : List γ} {t : τ} (hlength : as.length = cs.length) (hR : R s t)
    (hJ : J as cs s) : Returns (as.forM f) s fun _ s' => R s' (cs.foldl body t) ∧ J [] [] s' := by
  induction as generalizing cs s t with
  | nil =>
    cases List.eq_nil_of_length_eq_zero hlength.symm
    exact Returns.pure ⟨hR, hJ⟩
  | cons a as ih =>
    cases cs with
    | nil => cases hlength
    | cons c cs =>
      apply Returns.bind
      apply (hstep a as c cs s t hR hJ).mono
      rintro _ s' ⟨hR', hJ'⟩
      have htail := ih (Nat.add_right_cancel hlength) hR' hJ'
      exact htail

end Returns
