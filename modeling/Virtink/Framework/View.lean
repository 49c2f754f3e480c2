import Virtink.Framework.Machine

/-! # Local Views and Guards

    What a process of an interleaving machine can know is its *view*: a part
    of the store that only its own calls change. Other processes, crashes of
    them and events leave it alone, so a program can be verified against its
    view as if it ran alone, while the rest of the store moves on.

    A *contract* says which calls a process may make with which view (`guard`)
    and with which view it may stop (`done`). A program keeps it if its
    weakest precondition `wp` over views holds when it begins. If every
    program keeps the contract, the programs can be forgotten: the store moves
    as it would under clients that make any call their guard allows (`GStep`),
    and an invariant of those moves is an invariant of the machine
    (`Kept.simulates`).
-/

namespace Calls

variable {σ : Sig} {S P C E R V : Type}

/-! ### Guarded Moves -/

/-- When clients may make their moves. -/
structure Guards (σ : Sig) (S P : Type) where
  /-- Client `i` may begin. -/
  idle : P → S → Prop
  /-- Client `i` may make the call `o`. -/
  guard : P → σ.Op → S → Prop
  /-- Client `i` may stop. -/
  done : P → S → Prop

/-- A move of the store under clients that are held back by the guards only. -/
inductive GStep (M : Machine σ S P C E R) (G : Guards σ S P) : S → Act σ P C E → S → Prop where
  | start {s : S} {i : P} : G.idle i s → GStep M G s (.start i) (M.enter i s)
  | call {s s' : S} {i : P} {o : σ.Op} {ch : C} {a : σ.Ans o} :
      G.guard i o s → M.answer i o ch s = some (a, s') → GStep M G s (.call i o ch) s'
  | finish {s : S} {i : P} : G.done i s → GStep M G s (.finish i) (M.enter i s)
  | crash {s : S} {i : P} : GStep M G s (.crash i) (M.crash i s)
  | event {s s' : S} {e : E} : M.event e s = some s' → GStep M G s (.event e) s'

/-- Stores reached by guarded moves that all meet the condition `ok`. -/
inductive GReach (M : Machine σ S P C E R) (G : Guards σ S P)
    (ok : S → Act σ P C E → Prop) (I : S → Prop) : S → Prop where
  | init {s : S} : I s → GReach M G ok I s
  | step {s s' : S} {a : Act σ P C E} :
      GReach M G ok I s → ok s a → GStep M G s a s' → GReach M G ok I s'

section guarded
variable {M : Machine σ S P C E R} {G : Guards σ S P}
  {ok : S → Act σ P C E → Prop} {I : S → Prop}

/-- **Invariant rule**: what holds at first and is kept by every allowed
    guarded move from a store reached holds in every store reached. -/
theorem GReach.invariant {Inv : S → Prop} (hinit : ∀ s, I s → Inv s)
    (hstep : ∀ s a s', GReach M G ok I s → Inv s → ok s a → GStep M G s a s' → Inv s') :
    ∀ {s}, GReach M G ok I s → Inv s := by
  intro s h
  induction h with
  | init hI => exact hinit _ hI
  | step hs hok hmove ih => exact hstep _ _ _ hs ih hok hmove

end guarded

/-! ### Views -/

/-- A view for every process: only its own calls change it, and it is fresh
    whenever the process begins, ends or is thrown away. -/
structure Views (M : Machine σ S P C E R) (V : Type) where
  view : P → S → V
  fresh : V
  view_enter : ∀ i s, view i (M.enter i s) = fresh
  view_crash : ∀ i s, view i (M.crash i s) = fresh
  view_enter_ne : ∀ {i j}, i ≠ j → ∀ s, view i (M.enter j s) = view i s
  view_crash_ne : ∀ {i j}, i ≠ j → ∀ s, view i (M.crash j s) = view i s
  view_call_ne : ∀ {i j}, i ≠ j → ∀ {o ch a s s'},
    M.answer j o ch s = some (a, s') → view i s' = view i s
  view_event : ∀ {i e s s'}, M.event e s = some s' → view i s' = view i s

/-- A contract over views. -/
structure Contract {M : Machine σ S P C E R} (W : Views M V) where
  /-- When process `i` may make the call `o`. -/
  guard : P → σ.Op → V → Prop
  /-- When the program of process `i` may stop. -/
  done : P → V → Prop

namespace Contract

variable {M : Machine σ S P C E R} {W : Views M V} (T : Contract W)

/-! ### Weakest Preconditions -/

/-- `Sees W i o v a v'`: in some store that process `i` views as `v`, the call
    `o` is answered with `a` and leaves the view `v'`. -/
def Sees (W : Views M V) (i : P) (o : σ.Op) (v : V) (a : σ.Ans o) (v' : V) : Prop :=
  ∃ s ch s', W.view i s = v ∧ M.answer i o ch s = some (a, s') ∧ W.view i s' = v'

/-- The weakest precondition of a program of process `i`: every call it makes
    is guarded, and if it stops, the result and the view satisfy `Q`. -/
def wp {α : Type} (i : P) : Prog σ α → (α → V → Prop) → V → Prop
  | .pure a, Q, v => Q a v
  | .call o k, Q, v => T.guard i o v ∧ ∀ a v', Sees W i o v a v' → wp i (k a) Q v'

variable {T} {α β : Type} {i : P}

/-- **Consequence**. -/
theorem wp_mono {p : Prog σ α} {Q Q' : α → V → Prop} {v : V}
    (h : T.wp i p Q v) (hQ : ∀ a v, Q a v → Q' a v) : T.wp i p Q' v := by
  induction p generalizing v with
  | pure a => exact hQ a v h
  | call o k ih => exact ⟨h.1, fun a v' hs => ih a (h.2 a v' hs)⟩

/-- **Sequencing**. -/
theorem wp_bind {p : Prog σ α} {f : α → Prog σ β} {Q : β → V → Prop} {v : V}
    (h : T.wp i p (fun a v => T.wp i (f a) Q v) v) : T.wp i (p.bind f) Q v := by
  induction p generalizing v with
  | pure a => exact h
  | call o k ih => exact ⟨h.1, fun a v' hs => ih a (h.2 a v' hs)⟩

/-- **Paths**: what a program ends with it ends with on some path. -/
theorem wp_path {p : Prog σ α} {Q : α → V → Prop} {v : V} (h : T.wp i p Q v) :
    T.wp i p (fun a v' => (∃ l, p.Path l a) ∧ Q a v') v := by
  induction p generalizing v with
  | pure a => exact ⟨⟨[], .pure a⟩, h⟩
  | call o k ih =>
    refine ⟨h.1, fun a v' hs => wp_mono (ih a (h.2 a v' hs)) ?_⟩
    rintro b v'' ⟨⟨l, hl⟩, hQ⟩
    exact ⟨⟨⟨o, a⟩ :: l, .call hl⟩, hQ⟩

/-- **Harmless calls**: a program whose calls are all guarded as long as `P`
    holds of the view, and keep it so. -/
theorem wp_of_only {ok : σ.Op → Prop} {P : V → Prop} {p : Prog σ α} (hp : p.Only ok)
    (hguard : ∀ o v, ok o → P v → T.guard i o v)
    (hkeep : ∀ o v a v', ok o → P v → Sees W i o v a v' → P v') {v : V} (hv : P v) :
    T.wp i p (fun _ v' => P v') v := by
  induction p generalizing v with
  | pure a => exact hv
  | call o k ih =>
    obtain ⟨ho, hk⟩ := hp
    refine ⟨hguard o v ho hv, fun a v' hs => ?_⟩
    exact ih a (hk a) (hkeep o v a v' ho hv hs)

/-- **Free processes**: where every call is guarded, every program will do. -/
theorem wp_of_guard {p : Prog σ α} (hguard : ∀ o v, T.guard i o v) (v : V) :
    T.wp i p (fun _ _ => True) v := by
  induction p generalizing v with
  | pure a => trivial
  | call o k ih => exact ⟨hguard o v, fun a v' _ => ih a v'⟩

/-! ### Adequacy -/

/-- The contract, read in the store. -/
def guards (T : Contract W) : Guards σ S P where
  idle i s := W.view i s = W.fresh
  guard i o s := T.guard i o (W.view i s)
  done i s := T.done i (W.view i s)

section adequacy
variable [DecidableEq P]

/-- Every program keeps the contract from its beginning. -/
def Kept (T : Contract W) : Prop :=
  ∀ i, T.wp i (M.main i) (fun _ v => T.done i v) W.fresh

variable {ok : S → Act σ P C E → Prop} {I : S → Prop}

/-- In every configuration reached, what is left of each program still has its
    weakest precondition. -/
theorem Kept.wp_running (hT : T.Kept) {c : Conf σ S P R} (h : Reach M ok I c) :
    ∀ i p, c.running i = some p → T.wp i p (fun _ v => T.done i v) (W.view i c.store) := by
  induction h with
  | init _ => intro i p hp; cases hp
  | @step c c' a hreach _ hstep ih =>
    intro i p hp
    cases hstep with
    | @start j hj =>
      by_cases hij : i = j
      · subst hij; simp only [setAt_self, Option.some.injEq] at hp; subst hp
        rw [W.view_enter]; exact hT i
      · simp only [setAt_ne _ _ hij] at hp
        rw [W.view_enter_ne hij]; exact ih i p hp
    | @call j o k ch a s' hj hans =>
      by_cases hij : i = j
      · subst hij; simp only [setAt_self, Option.some.injEq] at hp; subst hp
        exact (ih i _ hj).2 a _ ⟨c.store, ch, s', rfl, hans, rfl⟩
      · simp only [setAt_ne _ _ hij] at hp
        rw [W.view_call_ne hij hans]; exact ih i p hp
    | @finish j r hj =>
      by_cases hij : i = j
      · subst hij; simp at hp
      · simp only [setAt_ne _ _ hij] at hp
        rw [W.view_enter_ne hij]; exact ih i p hp
    | @crash j =>
      by_cases hij : i = j
      · subst hij; simp at hp
      · simp only [setAt_ne _ _ hij] at hp
        rw [W.view_crash_ne hij]; exact ih i p hp
    | event hev => rw [W.view_event hev]; exact ih i p hp

/-- The view of an idle process is fresh, if views are fresh at first. -/
theorem view_idle (W : Views M V) (hI : ∀ s, I s → ∀ i, W.view i s = W.fresh)
    {c : Conf σ S P R} (h : Reach M ok I c) :
    ∀ i, c.running i = none → W.view i c.store = W.fresh := by
  induction h with
  | init hs => intro i _; exact hI _ hs i
  | @step c c' a hreach _ hstep ih =>
    intro i hi
    cases hstep with
    | @start j hj =>
      by_cases hij : i = j
      · subst hij; exact W.view_enter i _
      · simp only [setAt_ne _ _ hij] at hi
        rw [W.view_enter_ne hij]; exact ih i hi
    | @call j o k ch a s' hj hans =>
      by_cases hij : i = j
      · subst hij; simp at hi
      · simp only [setAt_ne _ _ hij] at hi
        rw [W.view_call_ne hij hans]; exact ih i hi
    | @finish j r hj =>
      by_cases hij : i = j
      · subst hij; exact W.view_enter i _
      · simp only [setAt_ne _ _ hij] at hi
        rw [W.view_enter_ne hij]; exact ih i hi
    | @crash j =>
      by_cases hij : i = j
      · subst hij; exact W.view_crash i _
      · simp only [setAt_ne _ _ hij] at hi
        rw [W.view_crash_ne hij]; exact ih i hi
    | event hev => rw [W.view_event hev]; exact ih i hi

/-- Every step of the machine is a guarded move of its store. -/
theorem Kept.gstep (hT : T.Kept) (hI : ∀ s, I s → ∀ i, W.view i s = W.fresh)
    {c c' : Conf σ S P R} {a : Act σ P C E} (h : Reach M ok I c) (hstep : Step M c a c') :
    GStep M T.guards c.store a c'.store := by
  cases hstep with
  | start hj => exact .start (view_idle W hI h _ hj)
  | call hj hans => exact .call (hT.wp_running h _ _ hj).1 hans
  | finish hj => exact .finish (hT.wp_running h _ _ hj)
  | crash => exact .crash
  | event hev => exact .event hev

/-- **Simulation**: the store of a configuration reached by the programs is
    reached by guarded moves, under the same condition on the steps. -/
theorem Kept.simulates (hT : T.Kept) (hI : ∀ s, I s → ∀ i, W.view i s = W.fresh)
    {c : Conf σ S P R} (h : Reach M ok I c) : GReach M T.guards ok I c.store := by
  induction h with
  | init hs => exact .init hs
  | step hreach hok hstep ih => exact .step ih hok (hT.gstep hI hreach hstep)

end adequacy

end Contract

end Calls
