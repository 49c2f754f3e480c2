import Virtink.Framework.Prog

/-! # Interleaving Machines

    A machine runs one program per process over a shared store. A process is
    idle or in the middle of its program; one step of the machine is

    * `start` — an idle process begins its program from the top;
    * `call` — a process makes its next call, which is answered at once;
    * `finish` — a process that has stopped becomes idle again;
    * `crash` — a process is thrown away wherever it stands;
    * `event` — the environment changes the store.

    Between two calls of one process the others may take any number of steps.
    A run may be restricted by a condition on each step (`Reach`), and a list
    of moves can be executed (`execAll`) to exhibit a particular run.
-/

namespace Calls

/-! ### Functional Update -/

section update
variable {ι α : Type} [DecidableEq ι]

/-- `f` with the value at `i` replaced by `a`. -/
def setAt (f : ι → α) (i : ι) (a : α) : ι → α :=
  fun j => if j = i then a else f j

@[simp] theorem setAt_self (f : ι → α) (i : ι) (a : α) : setAt f i a i = a := by
  simp [setAt]

@[simp] theorem setAt_ne (f : ι → α) {i j : ι} (a : α) (h : j ≠ i) : setAt f i a j = f j := by
  simp [setAt, h]

end update

/-! ### Machines, Configurations and Steps -/

/-- A machine over the signature `σ`: store `S`, processes `P`, environment
    choices `C` that settle how a call is answered, events `E`, results `R`. -/
structure Machine (σ : Sig) (S P C E R : Type) where
  /-- The program each process runs. -/
  main : P → Prog σ R
  /-- The answer of a call and the store it leaves. -/
  answer : P → (o : σ.Op) → C → S → Option (σ.Ans o × S)
  /-- What the environment can do to the store. -/
  event : E → S → Option S
  /-- Bookkeeping when a process begins or ends a run of its program. -/
  enter : P → S → S
  /-- What is lost when a process is thrown away. -/
  crash : P → S → S

/-- A configuration: the store and where each process stands. -/
structure Conf (σ : Sig) (S P R : Type) where
  store   : S
  running : P → Option (Prog σ R)

/-- No process has begun. -/
def Conf.idle {σ : Sig} {S P R : Type} (s : S) : Conf σ S P R := ⟨s, fun _ => none⟩

/-- What is visible of a step: for a call, also which call it was. -/
inductive Act (σ : Sig) (P C E : Type) where
  | start  (i : P)
  | call   (i : P) (o : σ.Op) (ch : C)
  | finish (i : P)
  | crash  (i : P)
  | event  (e : E)

variable {σ : Sig} {S P C E R : Type} [DecidableEq P]

/-- One step of the machine. -/
inductive Step (M : Machine σ S P C E R) : Conf σ S P R → Act σ P C E → Conf σ S P R → Prop where
  | start {c : Conf σ S P R} {i : P} :
      c.running i = none →
      Step M c (.start i) ⟨M.enter i c.store, setAt c.running i (some (M.main i))⟩
  | call {c : Conf σ S P R} {i : P} {o : σ.Op} {k : σ.Ans o → Prog σ R} {ch : C}
      {a : σ.Ans o} {s' : S} :
      c.running i = some (.call o k) →
      M.answer i o ch c.store = some (a, s') →
      Step M c (.call i o ch) ⟨s', setAt c.running i (some (k a))⟩
  | finish {c : Conf σ S P R} {i : P} {r : R} :
      c.running i = some (.pure r) →
      Step M c (.finish i) ⟨M.enter i c.store, setAt c.running i none⟩
  | crash {c : Conf σ S P R} {i : P} :
      Step M c (.crash i) ⟨M.crash i c.store, setAt c.running i none⟩
  | event {c : Conf σ S P R} {e : E} {s' : S} :
      M.event e c.store = some s' →
      Step M c (.event e) ⟨s', c.running⟩

/-! ### Runs -/

/-- Configurations reached from an idle one whose store satisfies `I`, by
    steps that all meet the condition `ok` on the store before the step. -/
inductive Reach (M : Machine σ S P C E R) (ok : S → Act σ P C E → Prop) (I : S → Prop) :
    Conf σ S P R → Prop where
  | init {s : S} : I s → Reach M ok I (.idle s)
  | step {c c' : Conf σ S P R} {a : Act σ P C E} :
      Reach M ok I c → ok c.store a → Step M c a c' → Reach M ok I c'

/-- Every step is allowed. -/
def anyStep : S → Act σ P C E → Prop := fun _ _ => True

instance (s : S) (a : Act σ P C E) : Decidable (anyStep s a) := .isTrue trivial

/-- Configurations reached by any steps at all. -/
def Reachable (M : Machine σ S P C E R) (I : S → Prop) : Conf σ S P R → Prop :=
  Reach M anyStep I

/-- A run begins as well in a store of which less is asked. -/
theorem Reach.mono {M : Machine σ S P C E R} {ok : S → Act σ P C E → Prop} {I J : S → Prop}
    {c : Conf σ S P R} (h : Reach M ok I c) (hI : ∀ s, I s → J s) : Reach M ok J c := by
  induction h with
  | init hs => exact .init (hI _ hs)
  | step _ hok hstep ih => exact .step ih hok hstep

/-- `Steps M ok c c'`: steps that all meet `ok` lead from `c` to `c'`. -/
inductive Steps (M : Machine σ S P C E R) (ok : S → Act σ P C E → Prop) (c : Conf σ S P R) :
    Conf σ S P R → Prop where
  | refl : Steps M ok c c
  | tail {c' c'' : Conf σ S P R} {a : Act σ P C E} :
      Steps M ok c c' → ok c'.store a → Step M c' a c'' → Steps M ok c c''

theorem Reach.steps {M : Machine σ S P C E R} {ok : S → Act σ P C E → Prop} {I : S → Prop}
    {c c' : Conf σ S P R} (h : Reach M ok I c) (hsteps : Steps M ok c c') : Reach M ok I c' := by
  induction hsteps with
  | refl => exact h
  | tail _ hok hstep ih => exact .step ih hok hstep

theorem Reachable.steps {M : Machine σ S P C E R} {ok : S → Act σ P C E → Prop} {I : S → Prop}
    {c c' : Conf σ S P R} (h : Reachable M I c) (hsteps : Steps M ok c c') : Reachable M I c' := by
  induction hsteps with
  | refl => exact h
  | tail _ _ hstep ih => exact .step ih trivial hstep

/-! ### Executing a List of Moves -/

/-- A move names a step without the call, which the program determines. -/
inductive Move (P C E : Type) where
  | start  (i : P)
  | call   (i : P) (ch : C)
  | finish (i : P)
  | crash  (i : P)
  | event  (e : E)

/-- Execute one move. -/
def exec (M : Machine σ S P C E R) (c : Conf σ S P R) :
    Move P C E → Option (Act σ P C E × Conf σ S P R)
  | .start i =>
      match c.running i with
      | none => some (.start i, ⟨M.enter i c.store, setAt c.running i (some (M.main i))⟩)
      | some _ => none
  | .call i ch =>
      match c.running i with
      | some (.call o k) =>
          match M.answer i o ch c.store with
          | some (a, s') => some (.call i o ch, ⟨s', setAt c.running i (some (k a))⟩)
          | none => none
      | _ => none
  | .finish i =>
      match c.running i with
      | some (.pure _) => some (.finish i, ⟨M.enter i c.store, setAt c.running i none⟩)
      | _ => none
  | .crash i => some (.crash i, ⟨M.crash i c.store, setAt c.running i none⟩)
  | .event e =>
      match M.event e c.store with
      | some s' => some (.event e, ⟨s', c.running⟩)
      | none => none

/-- Execute a list of moves, checking the condition before each step. -/
def execAll (M : Machine σ S P C E R) (ok : S → Act σ P C E → Prop)
    [∀ s a, Decidable (ok s a)] : Conf σ S P R → List (Move P C E) → Option (Conf σ S P R)
  | c, [] => some c
  | c, m :: ms =>
      match exec M c m with
      | some (a, c') => if ok c.store a then execAll M ok c' ms else none
      | none => none

/-- An executed move is a step. -/
theorem exec_step {M : Machine σ S P C E R} {c c' : Conf σ S P R} {m : Move P C E}
    {a : Act σ P C E} (h : exec M c m = some (a, c')) : Step M c a c' := by
  cases m with
  | start i =>
    simp only [exec] at h
    split at h
    · next hrun => cases h; exact .start hrun
    · cases h
  | call i ch =>
    simp only [exec] at h
    split at h
    · next hrun =>
      split at h
      · next hans => cases h; exact .call hrun hans
      · cases h
    · cases h
  | finish i =>
    simp only [exec] at h
    split at h
    · next hrun => cases h; exact .finish hrun
    · cases h
  | crash i => cases h; exact .crash
  | event e =>
    simp only [exec] at h
    split at h
    · next hev => cases h; exact .event hev
    · cases h

/-- An executed list of moves is a list of steps. -/
theorem execAll_steps {M : Machine σ S P C E R} {ok : S → Act σ P C E → Prop}
    [∀ s a, Decidable (ok s a)] {ms : List (Move P C E)} :
    ∀ {c₀ c c' : Conf σ S P R}, Steps M ok c₀ c → execAll M ok c ms = some c' →
      Steps M ok c₀ c' := by
  induction ms with
  | nil => intro c₀ c c' hc h; cases h; exact hc
  | cons m ms ih =>
    intro c₀ c c' hc h
    simp only [execAll] at h
    split at h
    · next a c₁ hexec =>
      split at h
      · next hok => exact ih (.tail hc hok (exec_step hexec)) h
      · cases h
    · cases h

/-- An executed list of moves extends a run. -/
theorem execAll_reach {M : Machine σ S P C E R} {ok : S → Act σ P C E → Prop}
    [∀ s a, Decidable (ok s a)] {I : S → Prop} {ms : List (Move P C E)} {c c' : Conf σ S P R}
    (hc : Reach M ok I c) (h : execAll M ok c ms = some c') : Reach M ok I c' :=
  hc.steps (execAll_steps .refl h)

/-- A run exhibited by evaluation: the moves go through and end in a
    configuration that passes the test. -/
theorem reach_of_execAll {M : Machine σ S P C E R} {ok : S → Act σ P C E → Prop}
    [∀ s a, Decidable (ok s a)] {I : S → Prop} {s : S} (hI : I s) (ms : List (Move P C E))
    (test : Conf σ S P R → Bool) (h : (execAll M ok (.idle s) ms).any test = true) :
    ∃ c, Reach M ok I c ∧ test c = true := by
  obtain ⟨c, hc, ht⟩ := (Option.any_eq_true ..).mp h
  exact ⟨c, execAll_reach (.init hI) hc, ht⟩

/-- A run in two parts, exhibited by evaluation. -/
theorem steps_of_execAll {M : Machine σ S P C E R} {ok : S → Act σ P C E → Prop}
    [∀ s a, Decidable (ok s a)] {I : S → Prop} {s : S} (hI : I s) (ms ms' : List (Move P C E))
    (test : Conf σ S P R → Conf σ S P R → Bool)
    (h : ((execAll M ok (.idle s) ms).any
      (fun c => (execAll M ok c ms').any (test c))) = true) :
    ∃ c c', Reach M ok I c ∧ Steps M ok c c' ∧ test c c' = true := by
  obtain ⟨c, hc, h⟩ := (Option.any_eq_true ..).mp h
  obtain ⟨c', hc', ht⟩ := (Option.any_eq_true ..).mp h
  exact ⟨c, c', execAll_reach (.init hI) hc, execAll_steps .refl hc', ht⟩

/-- A step at the end of a run, exhibited by evaluation. -/
theorem step_of_execAll {M : Machine σ S P C E R} {ok : S → Act σ P C E → Prop}
    [∀ s a, Decidable (ok s a)] {I : S → Prop} {s : S} (hI : I s) (ms : List (Move P C E))
    (m : Move P C E) (test : Conf σ S P R → Act σ P C E → Conf σ S P R → Bool)
    (h : ((execAll M ok (.idle s) ms).any
      (fun c => (exec M c m).any (fun x => test c x.1 x.2))) = true) :
    ∃ c a c', Reach M ok I c ∧ Step M c a c' ∧ test c a c' = true := by
  obtain ⟨c, hc, h⟩ := (Option.any_eq_true ..).mp h
  obtain ⟨⟨a, c'⟩, hexec, ht⟩ := (Option.any_eq_true ..).mp h
  exact ⟨c, a, c', execAll_reach (.init hI) hc, exec_step hexec, ht⟩

end Calls
