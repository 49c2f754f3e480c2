import Mathlib.Order.Basic

/-! # Computations That Need Not End

    A computation is run with an amount of fuel and may run out of it; more fuel
    never changes a result. It returns what some amount of fuel yields, and it
    does not end if no amount suffices.

    A loop returns what its next turn returns (`returns_loop_of_next`). To show
    that it does not end it is enough to find an invariant under which there is
    always a next turn (`not_returns_loop`).
-/

namespace Fuel

/-- A computation with a result in `α`, by the fuel it is given. -/
structure Comp (α : Type) where
  run  : Nat → Option α
  mono : ∀ {m n : Nat} {a : α}, m ≤ n → run m = some a → run n = some a

variable {α β σ : Type}

/-- Enough fuel yields the result. -/
def Comp.Returns (c : Comp α) (a : α) : Prop := ∃ n, c.run n = some a

theorem Comp.Returns.unique {c : Comp α} {a b : α} (ha : c.Returns a) (hb : c.Returns b) :
    a = b := by
  obtain ⟨m, hm⟩ := ha
  obtain ⟨n, hn⟩ := hb
  have hm' := c.mono (Nat.le_max_left m n) hm
  have hn' := c.mono (Nat.le_max_right m n) hn
  rw [hm'] at hn'
  exact Option.some.inj hn'

/-! ### Sequences -/

/-- A computation that has ended. -/
def Comp.pure (a : α) : Comp α := ⟨fun _ => some a, fun _ h => h⟩

/-- One computation after another. -/
def Comp.bind (c : Comp α) (f : α → Comp β) : Comp β where
  run n := (c.run n).bind (fun a => (f a).run n)
  mono := by
    intro m n b hmn h
    obtain ⟨a, ha, hb⟩ := Option.bind_eq_some_iff.mp h
    exact Option.bind_eq_some_iff.mpr ⟨a, c.mono hmn ha, (f a).mono hmn hb⟩

@[simp] theorem returns_pure {a b : α} : (Comp.pure a).Returns b ↔ b = a := by
  constructor
  · rintro ⟨n, hn⟩
    exact (Option.some.inj hn).symm
  · rintro rfl
    exact ⟨0, rfl⟩

theorem returns_bind {c : Comp α} {f : α → Comp β} {b : β} :
    (c.bind f).Returns b ↔ ∃ a, c.Returns a ∧ (f a).Returns b := by
  constructor
  · rintro ⟨n, hn⟩
    obtain ⟨a, ha, hb⟩ := Option.bind_eq_some_iff.mp hn
    exact ⟨a, ⟨n, ha⟩, ⟨n, hb⟩⟩
  · rintro ⟨a, ⟨m, hm⟩, ⟨n, hn⟩⟩
    exact ⟨max m n, Option.bind_eq_some_iff.mpr
      ⟨a, c.mono (Nat.le_max_left m n) hm, (f a).mono (Nat.le_max_right m n) hn⟩⟩

/-- Behind a computation that returns, the rest decides. -/
theorem returns_bind_of {c : Comp α} {f : α → Comp β} {a : α} (h : c.Returns a) {b : β} :
    (c.bind f).Returns b ↔ (f a).Returns b := by
  rw [returns_bind]
  constructor
  · rintro ⟨a', ha', hb⟩
    rwa [← h.unique ha'] at hb
  · intro hb
    exact ⟨a, h, hb⟩

/-! ### Loops -/

/-- Take so many turns at most; a turn leads to a next state or ends the loop. -/
def turns (step : σ → σ ⊕ α) : Nat → σ → Option α
  | 0, _ => none
  | n + 1, s =>
      match step s with
      | .inl s' => turns step n s'
      | .inr a => some a

theorem turns_mono {step : σ → σ ⊕ α} {m n : Nat} {s : σ} {a : α} (hmn : m ≤ n)
    (h : turns step m s = some a) : turns step n s = some a := by
  induction m generalizing n s with
  | zero => cases h
  | succ m ih =>
    obtain ⟨n, rfl⟩ : ∃ k, n = k + 1 := ⟨n - 1, by omega⟩
    simp only [turns] at h ⊢
    split at h
    · exact ih (by omega) h
    · exact h

/-- The loop from a state on. -/
def Comp.loop (step : σ → σ ⊕ α) (s : σ) : Comp α := ⟨fun n => turns step n s, turns_mono⟩

section loop
variable {step : σ → σ ⊕ α} {s s' : σ} {a : α}

theorem returns_loop_of_next (h : step s = .inl s') :
    (Comp.loop step s).Returns a ↔ (Comp.loop step s').Returns a := by
  constructor
  · rintro ⟨n, hn⟩
    cases n with
    | zero => cases hn
    | succ n =>
      simp only [Comp.loop, turns, h] at hn
      exact ⟨n, hn⟩
  · rintro ⟨n, hn⟩
    refine ⟨n + 1, ?_⟩
    simp only [Comp.loop, turns, h]
    exact hn

theorem returns_loop_of_end (h : step s = .inr a) : (Comp.loop step s).Returns a :=
  ⟨1, by simp only [Comp.loop, turns, h]⟩

/-- **No end**: an invariant under which every turn leads to another one. -/
theorem not_returns_loop (Inv : σ → Prop)
    (hstep : ∀ s, Inv s → ∃ s', step s = .inl s' ∧ Inv s') (hs : Inv s) :
    ¬ (Comp.loop step s).Returns a := by
  rintro ⟨n, hn⟩
  have hnone : ∀ n s, Inv s → turns step n s = none := by
    intro n
    induction n with
    | zero => intro s _; rfl
    | succ n ih =>
      intro s hs
      obtain ⟨s', hnext, hs'⟩ := hstep s hs
      simp only [turns, hnext]
      exact ih s' hs'
  have hrun : turns step n s = some a := hn
  rw [hnone n s hs] at hrun
  cases hrun

end loop

end Fuel
