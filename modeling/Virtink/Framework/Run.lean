import Virtink.Framework.Prog

/-! # What a Program Can Do and Must Do

    Two readings of a program that runs alone on a state. The angelic one,
    `Can`, asks for a run with a property, the demonic one, `Must`, says that
    every run has it. A property is about the calls that were made, the result
    and the state that is left; both readings have a rule for each way to put
    programs together.
-/

namespace Calls

namespace Prog

variable {σ : Sig} {α β S : Type} {sem : Sem σ S} {s : S}

/-! ### Some Path -/

/-- If every call can be answered in a good way, so can all calls of a program. -/
theorem exists_path (good : Entry σ → Prop) (hgood : ∀ o, ∃ x, good ⟨o, x⟩) (p : Prog σ α) :
    ∃ l a, Path p l a ∧ ∀ e ∈ l, good e := by
  induction p with
  | pure a => exact ⟨[], a, .pure a, by simp⟩
  | call o k ih =>
    obtain ⟨x, hx⟩ := hgood o
    obtain ⟨l, a, hpath, hl⟩ := ih x
    refine ⟨⟨o, x⟩ :: l, a, .call hpath, ?_⟩
    intro e he
    rcases List.mem_cons.mp he with rfl | he
    · exact hx
    · exact hl e he

/-! ### Some Run -/

/-- Started alone in `s`, the program `p` can make calls, stop with a result
    and leave a state that together meet `Q`. -/
def Can (sem : Sem σ S) (p : Prog σ α) (s : S) (Q : List (Entry σ) → α → S → Prop) : Prop :=
  ∃ l a s', Exec sem p s l a s' ∧ Q l a s'

theorem Can.pure {a : α} {Q : List (Entry σ) → α → S → Prop} (h : Q [] a s) :
    Can sem (.pure a) s Q :=
  ⟨[], a, s, .pure a s, h⟩

theorem Can.call {o : σ.Op} {k : σ.Ans o → Prog σ α} {x : σ.Ans o} {s₁ : S}
    {Q : List (Entry σ) → α → S → Prop} (hans : sem o s x s₁)
    (h : Can sem (k x) s₁ (fun l a s' => Q (⟨o, x⟩ :: l) a s')) : Can sem (.call o k) s Q := by
  obtain ⟨l, a, s', hexec, hQ⟩ := h
  exact ⟨⟨o, x⟩ :: l, a, s', .call hans hexec, hQ⟩

theorem Can.mono {p : Prog σ α} {P Q : List (Entry σ) → α → S → Prop} (h : Can sem p s P)
    (hPQ : ∀ l a s', P l a s' → Q l a s') : Can sem p s Q := by
  obtain ⟨l, a, s', hexec, hP⟩ := h
  exact ⟨l, a, s', hexec, hPQ l a s' hP⟩

theorem Can.bind {p : Prog σ α} {f : α → Prog σ β} {Q : List (Entry σ) → β → S → Prop}
    (h : Can sem p s (fun l a s₁ => Can sem (f a) s₁ (fun l' b s' => Q (l ++ l') b s'))) :
    Can sem (p.bind f) s Q := by
  obtain ⟨l, a, s₁, h₁, l', b, s', h₂, hQ⟩ := h
  exact ⟨l ++ l', b, s', h₁.bind h₂, hQ⟩

/-! ### Every Run -/

/-- Started alone in `s`, whatever calls the program `p` makes, whatever it
    stops with and leaves together meet `Q`. -/
def Must (sem : Sem σ S) (p : Prog σ α) (s : S) (Q : List (Entry σ) → α → S → Prop) : Prop :=
  ∀ l a s', Exec sem p s l a s' → Q l a s'

theorem Must.pure {a : α} {Q : List (Entry σ) → α → S → Prop} (h : Q [] a s) :
    Must sem (.pure a) s Q := by
  intro l b s' hexec
  cases hexec
  exact h

theorem Must.call {o : σ.Op} {k : σ.Ans o → Prog σ α} {Q : List (Entry σ) → α → S → Prop}
    (h : ∀ x s₁, sem o s x s₁ → Must sem (k x) s₁ (fun l a s' => Q (⟨o, x⟩ :: l) a s')) :
    Must sem (.call o k) s Q := by
  intro l a s' hexec
  obtain ⟨x, s₁, l', rfl, hans, hrest⟩ := hexec.of_call
  exact h x s₁ hans l' a s' hrest

theorem Must.mono {p : Prog σ α} {P Q : List (Entry σ) → α → S → Prop} (h : Must sem p s P)
    (hPQ : ∀ l a s', P l a s' → Q l a s') : Must sem p s Q :=
  fun l a s' hexec => hPQ l a s' (h l a s' hexec)

theorem Must.bind {p : Prog σ α} {f : α → Prog σ β} {Q : List (Entry σ) → β → S → Prop}
    (h : Must sem p s (fun l a s₁ => Must sem (f a) s₁ (fun l' b s' => Q (l ++ l') b s'))) :
    Must sem (p.bind f) s Q := by
  intro l b s' hexec
  obtain ⟨l₁, l₂, a, s₁, rfl, h₁, h₂⟩ := hexec.of_bind
  exact h l₁ a s₁ h₁ l₂ b s' h₂

/-- What some run has, together with what every run has. -/
theorem Can.and {p : Prog σ α} {P Q : List (Entry σ) → α → S → Prop} (h : Can sem p s P)
    (hall : Must sem p s Q) : Can sem p s (fun l a s' => P l a s' ∧ Q l a s') := by
  obtain ⟨l, a, s', hexec, hP⟩ := h
  exact ⟨l, a, s', hexec, hP, hall l a s' hexec⟩

/-! ### One Run

    Where each call is answered by a function, the run can be computed. -/

/-- The run in which `answer` answers each call, as long as it does. -/
def play (answer : (o : σ.Op) → S → Option (σ.Ans o × S)) :
    Prog σ α → S → Option (List (Entry σ) × α × S)
  | .pure a, s => some ([], a, s)
  | .call o k, s => (answer o s).bind fun x =>
      ((k x.1).play answer x.2).map fun y => (⟨o, x.1⟩ :: y.1, y.2)

theorem exec_of_play {answer : (o : σ.Op) → S → Option (σ.Ans o × S)}
    (hanswer : ∀ o s x, answer o s = some x → sem o s x.1 x.2) {p : Prog σ α}
    {y : List (Entry σ) × α × S} (h : p.play answer s = some y) :
    Exec sem p s y.1 y.2.1 y.2.2 := by
  induction p generalizing s y with
  | pure a =>
    obtain rfl : ([], a, s) = y := Option.some.inj h
    exact .pure a s
  | call o k ih =>
    obtain ⟨x, hx, hrest⟩ := Option.bind_eq_some_iff.mp h
    obtain ⟨z, hz, rfl⟩ := Option.map_eq_some_iff.mp hrest
    exact .call (hanswer o s x hx) (ih x.1 hz)

end Prog

end Calls
