import Mathlib.Init

/-! # Programs that Make Calls

    A program over a signature of calls is a finite tree: it either stops with
    a result or makes a call and goes on as the answer says. What a call does
    is left to the machine the program runs on, so the same program can be
    read

    * as a set of paths, one for every sequence of answers (`Prog.Path`);
    * as a transaction that runs alone on a state (`Prog.Exec`);
    * as one process of many, interleaved call by call (`Framework.Machine`).
-/

namespace Calls

/-! ### Signatures and Programs -/

/-- A signature: the calls a program can make, and what each is answered with. -/
structure Sig where
  Op  : Type
  Ans : Op → Type

/-- Programs over the signature `σ` with a result in `α`. -/
inductive Prog (σ : Sig) (α : Type) where
  /-- Stop with a result. -/
  | pure (a : α)
  /-- Make the call `o` and go on with its answer. -/
  | call (o : σ.Op) (k : σ.Ans o → Prog σ α)

namespace Prog

variable {σ : Sig} {α β S : Type}

/-- Sequential composition. -/
def bind : Prog σ α → (α → Prog σ β) → Prog σ β
  | .pure a, f => f a
  | .call o k, f => .call o (fun x => (k x).bind f)

instance : Monad (Prog σ) where
  pure := .pure
  bind := bind

@[simp] theorem pure_eq (a : α) : (Pure.pure a : Prog σ α) = .pure a := rfl

@[simp] theorem bind_eq (p : Prog σ α) (f : α → Prog σ β) : p >>= f = p.bind f := rfl

@[simp] theorem bind_pure (a : α) (f : α → Prog σ β) : (Prog.pure a).bind f = f a := rfl

@[simp] theorem bind_call (o : σ.Op) (k : σ.Ans o → Prog σ α) (f : α → Prog σ β) :
    (Prog.call o k).bind f = .call o (fun x => (k x).bind f) := rfl

/-! ### Paths

    The calls a program can make when nothing is known about the answers. -/

/-- One call together with the answer it got. -/
abbrev Entry (σ : Sig) := (o : σ.Op) × σ.Ans o

/-- `Path p l a`: answered as in `l`, the program `p` makes exactly the calls
    of `l` and stops with `a`. -/
inductive Path : Prog σ α → List (Entry σ) → α → Prop where
  | pure (a : α) : Path (.pure a) [] a
  | call {o : σ.Op} {k : σ.Ans o → Prog σ α} {x : σ.Ans o} {l : List (Entry σ)} {a : α} :
      Path (k x) l a → Path (.call o k) (⟨o, x⟩ :: l) a

theorem Path.of_call {o : σ.Op} {k : σ.Ans o → Prog σ α} {l : List (Entry σ)} {a : α}
    (h : Path (.call o k) l a) : ∃ x l', l = ⟨o, x⟩ :: l' ∧ Path (k x) l' a := by
  cases h with
  | call h => exact ⟨_, _, rfl, h⟩

/-- A path through a sequential composition is a path through each part. -/
theorem Path.of_bind {p : Prog σ α} {f : α → Prog σ β} {l : List (Entry σ)} {b : β}
    (h : Path (p.bind f) l b) :
    ∃ l₁ l₂ a, l = l₁ ++ l₂ ∧ Path p l₁ a ∧ Path (f a) l₂ b := by
  induction p generalizing l with
  | pure a => exact ⟨[], l, a, rfl, .pure a, h⟩
  | call o k ih =>
    cases h with
    | call h =>
      obtain ⟨l₁, l₂, a, rfl, h₁, h₂⟩ := ih _ h
      exact ⟨_ :: l₁, l₂, a, rfl, .call h₁, h₂⟩

/-- Paths through the two parts compose. -/
theorem Path.bind {p : Prog σ α} {f : α → Prog σ β} {l₁ l₂ : List (Entry σ)} {a : α} {b : β}
    (h₁ : Path p l₁ a) (h₂ : Path (f a) l₂ b) : Path (p.bind f) (l₁ ++ l₂) b := by
  induction h₁ with
  | pure a => exact h₂
  | call _ ih => exact .call (ih h₂)

/-- Every call that `p` can make, however it is answered, meets `ok`. -/
def Only (ok : σ.Op → Prop) : Prog σ α → Prop
  | .pure _ => True
  | .call o k => ok o ∧ ∀ x, (k x).Only ok

theorem Only.bind {ok : σ.Op → Prop} {p : Prog σ α} {f : α → Prog σ β}
    (hp : p.Only ok) (hf : ∀ a, (f a).Only ok) : (p.bind f).Only ok := by
  induction p with
  | pure a => exact hf a
  | call o k ih => exact ⟨hp.1, fun x => ih x (hp.2 x)⟩

theorem Only.mono {ok ok' : σ.Op → Prop} {p : Prog σ α} (hp : p.Only ok)
    (h : ∀ o, ok o → ok' o) : p.Only ok' := by
  induction p with
  | pure a => trivial
  | call o k ih => exact ⟨h o hp.1, fun x => ih x (hp.2 x)⟩

/-- The calls on a path are calls the program can make. -/
theorem Only.path {ok : σ.Op → Prop} {p : Prog σ α} {l : List (Entry σ)} {a : α}
    (hp : p.Only ok) (h : Path p l a) : ∀ e ∈ l, ok e.1 := by
  induction h with
  | pure a => simp
  | call _ ih =>
    intro e he
    rcases List.mem_cons.mp he with rfl | he
    · exact hp.1
    · exact ih (hp.2 _) e he

/-! ### Running Alone

    The program as one transaction: nobody else touches the state meanwhile. -/

/-- What a call can be answered with in a state, and the state it leaves. -/
abbrev Sem (σ : Sig) (S : Type) := (o : σ.Op) → S → σ.Ans o → S → Prop

/-- `Exec sem p s l a s'`: started alone in `s`, the program `p` can make the
    calls of `l`, answered as there, and stop with the result `a` in `s'`. -/
inductive Exec (sem : Sem σ S) : Prog σ α → S → List (Entry σ) → α → S → Prop where
  | pure (a : α) (s : S) : Exec sem (.pure a) s [] a s
  | call {o : σ.Op} {k : σ.Ans o → Prog σ α} {s s₁ s' : S} {x : σ.Ans o}
      {l : List (Entry σ)} {a : α} :
      sem o s x s₁ → Exec sem (k x) s₁ l a s' → Exec sem (.call o k) s (⟨o, x⟩ :: l) a s'

/-- What runs alone is a path. -/
theorem Exec.path {sem : Sem σ S} {p : Prog σ α} {s s' : S} {l : List (Entry σ)} {a : α}
    (h : Exec sem p s l a s') : Path p l a := by
  induction h with
  | pure a s => exact .pure a
  | call _ _ ih => exact .call ih

/-- Calls that leave the state alone leave it alone together. -/
theorem Exec.unchanged {sem : Sem σ S} {ok : σ.Op → Prop} {p : Prog σ α} {s s' : S}
    {l : List (Entry σ)} {a : α} (h : Exec sem p s l a s') (hp : p.Only ok)
    (hsem : ∀ o s x s', ok o → sem o s x s' → s' = s) : s' = s := by
  induction h with
  | pure a s => rfl
  | call hans _ ih => exact (ih (hp.2 _)).trans (hsem _ _ _ _ hp.1 hans)

theorem Exec.of_call {sem : Sem σ S} {o : σ.Op} {k : σ.Ans o → Prog σ α} {s s' : S}
    {l : List (Entry σ)} {a : α} (h : Exec sem (.call o k) s l a s') :
    ∃ x s₁ l', l = ⟨o, x⟩ :: l' ∧ sem o s x s₁ ∧ Exec sem (k x) s₁ l' a s' := by
  cases h with
  | call h₁ h₂ => exact ⟨_, _, _, rfl, h₁, h₂⟩

/-- A run of a sequential composition splits at the state in between. -/
theorem Exec.of_bind {sem : Sem σ S} {p : Prog σ α} {f : α → Prog σ β} {s s' : S}
    {l : List (Entry σ)} {b : β} (h : Exec sem (p.bind f) s l b s') :
    ∃ l₁ l₂ a s₁, l = l₁ ++ l₂ ∧ Exec sem p s l₁ a s₁ ∧ Exec sem (f a) s₁ l₂ b s' := by
  induction p generalizing s l with
  | pure a => exact ⟨[], l, a, s, rfl, .pure a s, h⟩
  | call o k ih =>
    obtain ⟨x, s₁, l', rfl, h₁, h₂⟩ := h.of_call
    obtain ⟨l₁, l₂, a, s₂, rfl, h₃, h₄⟩ := ih x h₂
    exact ⟨_ :: l₁, l₂, a, s₂, rfl, .call h₁ h₃, h₄⟩

/-- Runs of the two parts compose. -/
theorem Exec.bind {sem : Sem σ S} {p : Prog σ α} {f : α → Prog σ β} {s s₁ s' : S}
    {l₁ l₂ : List (Entry σ)} {a : α} {b : β}
    (h₁ : Exec sem p s l₁ a s₁) (h₂ : Exec sem (f a) s₁ l₂ b s') :
    Exec sem (p.bind f) s (l₁ ++ l₂) b s' := by
  induction h₁ with
  | pure a s => exact h₂
  | call h _ ih => exact .call h (ih h₂)

end Prog

end Calls
