import Virtink.Framework.View

/-! # Handlers and Protocols

    A *handler* carries out every call of one signature by a program over
    another, finer one; `Prog.interp` puts these programs in place of the
    calls. The handler may keep a local state from call to call.

    A *protocol* is a discipline for one program: `told` says what it has
    learnt after each answer, and `guard` which calls it may make knowing
    that. Unlike a contract it does not refer to a machine, so that a program
    can be shown to obey it once and then run on any machine whose views are
    kept by `told` (`Protocol.Obeys.wp`).

    Both notions compose. If every call is carried out in a way that keeps the
    finer protocol, a program that obeys the coarse one obeys the finer one
    when it is interpreted (`Protocol.Obeys.interp`), and a contract of a
    coarse machine is kept on the finer one (`Contract.wp_interp`).
-/

namespace Calls

variable {σ τ : Sig} {α β L V V' : Type}

/-! ### Handlers -/

/-- How each call of `σ` is carried out over `τ`. -/
abbrev Handler (σ τ : Sig) (L : Type) := (o : σ.Op) → L → Prog τ (σ.Ans o × L)

/-- The program with every call carried out by the handler. -/
def Prog.interp (h : Handler σ τ L) : Prog σ α → L → Prog τ (α × L)
  | .pure a, l => .pure (a, l)
  | .call o k, l => (h o l).bind fun x => (k x.1).interp h x.2

section
variable {h : Handler σ τ L}

@[simp] theorem Prog.interp_pure (a : α) (l : L) :
    (Prog.pure a : Prog σ α).interp h l = .pure (a, l) := rfl

@[simp] theorem Prog.interp_call (o : σ.Op) (k : σ.Ans o → Prog σ α) (l : L) :
    (Prog.call o k).interp h l = (h o l).bind fun x => (k x.1).interp h x.2 := rfl

end

/-! ### Protocols -/

/-- What a program learns from each answer, and what it has to know for each
    call. -/
structure Protocol (σ : Sig) (V : Type) where
  told  : (o : σ.Op) → σ.Ans o → V → V
  guard : σ.Op → V → Prop

namespace Protocol

/-- Beginning with the knowledge `v`, every call the program makes is guarded,
    and if it stops, its result and what it knows then satisfy `Q`. -/
def Obeys (D : Protocol σ V) : Prog σ α → (α → V → Prop) → V → Prop
  | .pure a, Q, v => Q a v
  | .call o k, Q, v => D.guard o v ∧ ∀ a, D.Obeys (k a) Q (D.told o a v)

variable {D : Protocol σ V} {D' : Protocol τ V'}

/-- **Consequence**. -/
theorem Obeys.mono {p : Prog σ α} {Q Q' : α → V → Prop} {v : V} (h : D.Obeys p Q v)
    (hQ : ∀ a v, Q a v → Q' a v) : D.Obeys p Q' v := by
  induction p generalizing v with
  | pure a => exact hQ a v h
  | call o k ih => exact ⟨h.1, fun a => ih a (h.2 a)⟩

/-- **Sequencing**. -/
theorem Obeys.bind {p : Prog σ α} {f : α → Prog σ β} {Q : β → V → Prop} {v : V}
    (h : D.Obeys p (fun a v => D.Obeys (f a) Q v) v) : D.Obeys (p.bind f) Q v := by
  induction p generalizing v with
  | pure a => exact h
  | call o k ih => exact ⟨h.1, fun a => ih a (h.2 a)⟩

/-- A sequence is obeyed only if its first part is. -/
theorem Obeys.of_bind {p : Prog σ α} {f : α → Prog σ β} {Q : β → V → Prop} {v : V}
    (h : D.Obeys (p.bind f) Q v) : D.Obeys p (fun a v => D.Obeys (f a) Q v) v := by
  induction p generalizing v with
  | pure a => exact h
  | call o k ih => exact ⟨h.1, fun a => ih a (h.2 a)⟩

/-- **Harmless calls**: calls that are guarded as long as `P` holds of what is
    known, and keep it so. -/
theorem Obeys.of_only {ok : σ.Op → Prop} {P : V → Prop} {p : Prog σ α} (hp : p.Only ok)
    (hguard : ∀ o v, ok o → P v → D.guard o v)
    (hkeep : ∀ o v a, ok o → P v → P (D.told o a v)) {v : V} (hv : P v) :
    D.Obeys p (fun _ v' => P v') v := by
  induction p generalizing v with
  | pure a => exact hv
  | call o k ih =>
    exact ⟨hguard o v hp.1 hv, fun a => ih a (hp.2 a) (hkeep o v a hp.1 hv)⟩

/-- **Free programs**: where every call is guarded, every program will do. -/
theorem Obeys.of_guard {p : Prog σ α} (hguard : ∀ o v, D.guard o v) (v : V) :
    D.Obeys p (fun _ _ => True) v := by
  induction p generalizing v with
  | pure a => trivial
  | call o k ih => exact ⟨hguard o v, fun a => ih a _⟩

/-- **Interpretation**: the handler keeps the finer protocol and a relation
    between what is known on the two levels. -/
theorem Obeys.interp {h : Handler σ τ L} {J : L → V → V' → Prop}
    (hh : ∀ o l v v', J l v v' → D.guard o v →
      D'.Obeys (h o l) (fun x w' => J x.2 (D.told o x.1 v) w') v')
    {p : Prog σ α} {Q : α → V → Prop} {l : L} {v : V} {v' : V'} (hp : D.Obeys p Q v)
    (hJ : J l v v') :
    D'.Obeys (p.interp h l) (fun x w' => ∃ w, J x.2 w w' ∧ Q x.1 w) v' := by
  induction p generalizing l v v' with
  | pure a => exact ⟨v, hJ, hp⟩
  | call o k ih =>
    refine Obeys.bind ((hh o l v v' hJ hp.1).mono ?_)
    intro x w' hJ'
    exact ih x.1 (hp.2 x.1) hJ'

end Protocol

/-! ### Contracts -/

section contracts
variable {S S' P C C' E E' R R' : Type} {M : Machine σ S P C E R} {M' : Machine τ S' P C' E' R'}
  {W : Views M V} {W' : Views M' V'} {T : Contract W} {T' : Contract W'} {i : P}

/-- **Adequacy** of protocols: where views are kept by `told`, a program that
    obeys the protocol has its weakest precondition. -/
theorem Protocol.Obeys.wp {D : Protocol σ V} (hguard : ∀ o v, D.guard o v → T.guard i o v)
    (htold : ∀ o v a v', Contract.Sees W i o v a v' → v' = D.told o a v)
    {p : Prog σ α} {Q : α → V → Prop} {v : V} (h : D.Obeys p Q v) : T.wp i p Q v := by
  induction p generalizing v with
  | pure a => exact h
  | call o k ih =>
    refine ⟨hguard o v h.1, fun a v' hsees => ?_⟩
    rw [htold o v a v' hsees]
    exact ih a (h.2 a)

/-- **Refinement** of contracts: if every call is carried out so that it looks
    like an answer of the coarse machine, an interpreted program keeps the
    coarse contract. -/
theorem Contract.wp_interp {h : Handler σ τ L} {f : V' → V}
    (hh : ∀ o l v, T.guard i o (f v) →
      T'.wp i (h o l) (fun x v' => Contract.Sees W i o (f v) x.1 (f v')) v)
    {p : Prog σ α} {Q : α → V → Prop} {l : L} {v : V'} (hp : T.wp i p Q (f v)) :
    T'.wp i (p.interp h l) (fun x v' => Q x.1 (f v')) v := by
  induction p generalizing l v with
  | pure a => exact hp
  | call o k ih =>
    refine Contract.wp_bind (Contract.wp_mono (hh o l v hp.1) ?_)
    intro x v' hsees
    exact ih x.1 (hp.2 x.1 _ hsees)

end contracts

end Calls
