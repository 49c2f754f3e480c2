import Virtink.Framework.View
import Mathlib.Algebra.Ring.Nat
import Mathlib.Data.List.Forall2

/-! # Routines, a Wait Group and an Error Channel

    A program that starts a number of routines, waits on a counter that every
    routine lowers when it ends, and then looks at the first error they have
    sent. Routines and main program take turns: one call, one send, one
    lowering of the counter is one turn, and a scheduler picks among the turns
    that are possible.

    Lowering the counter below zero brings the whole process down. A send
    blocks while the channel is full, and the main program while the counter is
    not zero; it goes on as soon as it is, whether or not routines are left.
    What is left of them when the main program returns is not followed further.
-/

namespace Calls

/-! ### Singling out an Element -/

section splits
variable {α : Type}

/-- All ways to single out an element of a list. -/
def splits : List α → List (List α × α × List α)
  | [] => []
  | a :: l => ([], a, l) :: (splits l).map (fun x => (a :: x.1, x.2.1, x.2.2))

theorem mem_splits {l before after : List α} {a : α} :
    (before, a, after) ∈ splits l ↔ l = before ++ a :: after := by
  induction l generalizing before with
  | nil => simp [splits]
  | cons b l ih =>
    simp only [splits, List.mem_cons, Prod.mk.injEq, List.mem_map, Prod.exists]
    constructor
    · rintro (⟨rfl, rfl, rfl⟩ | ⟨before', a', after', hmem, rfl, rfl, rfl⟩)
      · rfl
      · rw [ih.mp hmem]
        rfl
    · intro h
      cases before with
      | nil =>
        simp only [List.nil_append, List.cons.injEq] at h
        exact .inl ⟨rfl, h.1.symm, h.2.symm⟩
      | cons c before =>
        simp only [List.cons_append, List.cons.injEq] at h
        obtain ⟨rfl, rfl⟩ := h
        exact .inr ⟨before, a, after, ih.mpr rfl, rfl, rfl, rfl⟩

theorem forall₂_split {β γ : Type} {R : β → γ → Prop} {l : List β} {before after : List γ} {c : γ}
    (h : List.Forall₂ R l (before ++ c :: after)) :
    ∃ l₁ b l₂, l = l₁ ++ b :: l₂ ∧ List.Forall₂ R l₁ before ∧ R b c ∧ List.Forall₂ R l₂ after := by
  induction before generalizing l with
  | nil =>
    cases h with
    | cons hb hrest => exact ⟨[], _, _, rfl, .nil, hb, hrest⟩
  | cons d before ih =>
    cases h with
    | cons hd hrest =>
      obtain ⟨l₁, b, l₂, rfl, h₁, hb, h₂⟩ := ih hrest
      exact ⟨_ :: l₁, b, l₂, rfl, .cons hd h₁, hb, h₂⟩

end splits

/-! ### Pools -/

/-- What the routines share. A routine stops with the error it has to send; a
    routine that has none is about to lower the counter. -/
structure Pool (σ : Sig) (ε : Type) where
  routines : List (Prog σ (Option ε))
  counter  : Nat
  capacity : Nat
  channel  : List ε := []

/-- The main program: it waits, and goes on with the first error in the
    channel, or it has gone on. -/
inductive Main (σ : Sig) (ε α : Type) where
  | waiting (k : Option ε → Prog σ α)
  | going (p : Prog σ α)

/-- How it ends: the main program returns, the process goes down, or nobody can
    take a turn. -/
inductive Ending (α : Type) where
  | returned (a : α)
  | panicked
  | hung
  deriving DecidableEq, Repr

/-- Who takes a turn: a routine, with those before and after it, or the main
    program. -/
inductive Turn (σ : Sig) (ε : Type) where
  | routine (before : List (Prog σ (Option ε))) (r : Prog σ (Option ε))
      (after : List (Prog σ (Option ε)))
  | main

namespace Pool

variable {σ : Sig} {ε α : Type}

/-- The routine can take its next turn: it is not about to send into a full
    channel. -/
def canTurn (pool : Pool σ ε) : Prog σ (Option ε) → Bool
  | .pure (some _) => decide (pool.channel.length < pool.capacity)
  | _ => true

/-- The main program can take its next turn. -/
def canGoOn (pool : Pool σ ε) : Main σ ε α → Bool
  | .waiting _ => decide (pool.counter = 0)
  | .going _ => true

/-- The turns that are possible. -/
def turns (pool : Pool σ ε) (main : Main σ ε α) : List (Turn σ ε) :=
  ((splits pool.routines).filter (fun x => pool.canTurn x.2.1)).map
      (fun x => .routine x.1 x.2.1 x.2.2) ++
    if pool.canGoOn main then [.main] else []

theorem routine_mem_turns {pool : Pool σ ε} {main : Main σ ε α}
    {before after : List (Prog σ (Option ε))} {r : Prog σ (Option ε)} :
    .routine before r after ∈ pool.turns main ↔
      pool.routines = before ++ r :: after ∧ pool.canTurn r = true := by
  have hmain : Turn.routine before r after ∉ (if pool.canGoOn main then [Turn.main] else []) := by
    split <;> simp
  simp only [turns, List.mem_append, hmain, or_false, List.mem_map, List.mem_filter, Prod.exists,
    Turn.routine.injEq]
  constructor
  · rintro ⟨before', r', after', ⟨hmem, hcan⟩, rfl, rfl, rfl⟩
    exact ⟨mem_splits.mp hmem, hcan⟩
  · rintro ⟨hsplit, hcan⟩
    exact ⟨before, r, after, ⟨mem_splits.mpr hsplit, hcan⟩, rfl, rfl, rfl⟩

theorem main_mem_turns {pool : Pool σ ε} {main : Main σ ε α} :
    .main ∈ pool.turns main ↔ pool.canGoOn main = true := by
  simp only [turns, List.mem_append, List.mem_map, reduceCtorEq, and_false, exists_false, false_or]
  split <;> simp_all

/-- One turn: how it all ends, or how it goes on. -/
def turn (pool : Pool σ ε) (main : Main σ ε α) :
    Turn σ ε → Prog σ (Ending α ⊕ Pool σ ε × Main σ ε α)
  | .routine before (.call o k) after =>
      .call o fun x => .pure (.inr ({ pool with routines := before ++ k x :: after }, main))
  | .routine before (.pure (some e)) after =>
      .pure (.inr ({ pool with
        routines := before ++ .pure none :: after
        channel := pool.channel ++ [e] }, main))
  | .routine before (.pure none) after =>
      if pool.counter = 0 then .pure (.inl .panicked)
      else .pure (.inr ({ pool with
        routines := before ++ after
        counter := pool.counter - 1 }, main))
  | .main =>
      match main with
      | .waiting k =>
          .pure (.inr ({ pool with channel := pool.channel.tail }, .going (k pool.channel.head?)))
      | .going (.call o k) => .call o fun x => .pure (.inr (pool, .going (k x)))
      | .going (.pure a) => .pure (.inl (.returned a))

section run
variable (pick : (n : Nat) → Prog σ (Fin (n + 1)))

/-- Routines and main program take at most `fuel` turns. -/
def run : Nat → Pool σ ε → Main σ ε α → Prog σ (Ending α)
  | 0, _, _ => .pure .hung
  | fuel + 1, pool, main =>
      match pool.turns main with
      | [] => .pure .hung
      | t :: ts =>
          (pick ts.length).bind fun i =>
            (pool.turn main ((t :: ts).get i)).bind fun
              | .inl e => .pure e
              | .inr c => run fuel c.1 c.2

end run

/-! ### What a Turn Does -/

/-- `Goes pool main l pool' main'`: a turn that makes the calls of `l` and goes
    on. -/
inductive Goes (pool : Pool σ ε) (main : Main σ ε α) :
    List (Prog.Entry σ) → Pool σ ε → Main σ ε α → Prop where
  | call {before after : List (Prog σ (Option ε))} {o : σ.Op} {k : σ.Ans o → Prog σ (Option ε)}
      (x : σ.Ans o) : pool.routines = before ++ .call o k :: after →
      Goes pool main [⟨o, x⟩] { pool with routines := before ++ k x :: after } main
  | send {before after : List (Prog σ (Option ε))} {e : ε} :
      pool.routines = before ++ .pure (some e) :: after → pool.channel.length < pool.capacity →
      Goes pool main [] { pool with
        routines := before ++ .pure none :: after
        channel := pool.channel ++ [e] } main
  | leave {before after : List (Prog σ (Option ε))} :
      pool.routines = before ++ .pure none :: after → pool.counter ≠ 0 →
      Goes pool main [] { pool with
        routines := before ++ after
        counter := pool.counter - 1 } main
  | resume {k : Option ε → Prog σ α} : main = .waiting k → pool.counter = 0 →
      Goes pool main [] { pool with channel := pool.channel.tail }
        (.going (k pool.channel.head?))
  | main {o : σ.Op} {k : σ.Ans o → Prog σ α} (x : σ.Ans o) : main = .going (.call o k) →
      Goes pool main [⟨o, x⟩] pool (.going (k x))

/-- `Ends pool main e`: a turn that ends it all. -/
inductive Ends (pool : Pool σ ε) (main : Main σ ε α) : Ending α → Prop where
  | panicked {before after : List (Prog σ (Option ε))} :
      pool.routines = before ++ .pure none :: after → pool.counter = 0 → Ends pool main .panicked
  | returned {a : α} : main = .going (.pure a) → Ends pool main (.returned a)

/-- A turn that is possible either goes on or ends it all. -/
theorem turn_cases {pool : Pool σ ε} {main : Main σ ε α} {t : Turn σ ε} (ht : t ∈ pool.turns main)
    {l : List (Prog.Entry σ)} {r : Ending α ⊕ Pool σ ε × Main σ ε α}
    (h : Prog.Path (pool.turn main t) l r) :
    (∃ pool' main', r = .inr (pool', main') ∧ Goes pool main l pool' main') ∨
      ∃ e, r = .inl e ∧ l = [] ∧ Ends pool main e := by
  match t with
  | .routine before r after =>
    obtain ⟨hsplit, hcan⟩ := routine_mem_turns.mp ht
    match r with
    | .call o k =>
      cases h with
      | @call _ _ x _ _ h => cases h; exact .inl ⟨_, _, rfl, .call x hsplit⟩
    | .pure (some e) => cases h; exact .inl ⟨_, _, rfl, .send hsplit (by simpa [canTurn] using hcan)⟩
    | .pure none =>
      simp only [turn] at h
      split at h
      · next hzero => cases h; exact .inr ⟨_, rfl, rfl, .panicked hsplit hzero⟩
      · next hpos => cases h; exact .inl ⟨_, _, rfl, .leave hsplit hpos⟩
  | .main =>
    have hcan := main_mem_turns.mp ht
    match main with
    | .waiting k => cases h; exact .inl ⟨_, _, rfl, .resume rfl (by simpa [canGoOn] using hcan)⟩
    | .going (.call o k) =>
      cases h with
      | @call _ _ x _ _ h => cases h; exact .inl ⟨_, _, rfl, .main x rfl⟩
    | .going (.pure a) => cases h; exact .inr ⟨_, rfl, rfl, .returned rfl⟩

/-- Whatever goes on or ends can be done in a turn that is possible. -/
theorem Goes.turn {pool pool' : Pool σ ε} {main main' : Main σ ε α} {l : List (Prog.Entry σ)}
    (h : Goes pool main l pool' main') :
    ∃ t ∈ pool.turns main, Prog.Path (pool.turn main t) l (.inr (pool', main')) := by
  cases h with
  | call x hsplit => exact ⟨_, routine_mem_turns.mpr ⟨hsplit, rfl⟩, .call (.pure _)⟩
  | send hsplit hroom =>
    exact ⟨_, routine_mem_turns.mpr ⟨hsplit, decide_eq_true hroom⟩, .pure _⟩
  | leave hsplit hpos =>
    refine ⟨_, routine_mem_turns.mpr ⟨hsplit, rfl⟩, ?_⟩
    simp only [Pool.turn, hpos, if_false]
    exact .pure _
  | resume hmain hzero =>
    subst hmain
    exact ⟨.main, main_mem_turns.mpr (decide_eq_true hzero), .pure _⟩
  | main x hmain =>
    subst hmain
    exact ⟨.main, main_mem_turns.mpr rfl, .call (.pure _)⟩

theorem Ends.turn {pool : Pool σ ε} {main : Main σ ε α} {e : Ending α} (h : Ends pool main e) :
    ∃ t ∈ pool.turns main, Prog.Path (pool.turn main t) [] (.inl e) := by
  cases h with
  | panicked hsplit hzero =>
    refine ⟨_, routine_mem_turns.mpr ⟨hsplit, rfl⟩, ?_⟩
    simp only [Pool.turn, hzero, if_true]
    exact .pure _
  | returned hmain =>
    subst hmain
    exact ⟨.main, main_mem_turns.mpr rfl, .pure _⟩

/-! ### Every Run -/

section rules
variable {pick : (n : Nat) → Prog σ (Fin (n + 1))}

/-- A run begins with a turn that is possible. -/
theorem path_of_run {fuel : Nat} {pool : Pool σ ε} {main : Main σ ε α} {l : List (Prog.Entry σ)}
    {e : Ending α} (h : Prog.Path (run pick (fuel + 1) pool main) l e) :
    (pool.turns main = [] ∧ e = .hung) ∨
      ∃ n i l₁ l₂, Prog.Path (pick n) l₁ i ∧ l = l₁ ++ l₂ ∧
        ((l₂ = [] ∧ Ends pool main e) ∨
          ∃ l₃ l₄ pool' main', l₂ = l₃ ++ l₄ ∧ Goes pool main l₃ pool' main' ∧
            Prog.Path (run pick fuel pool' main') l₄ e) := by
  simp only [run] at h
  split at h
  · next hnone => cases h; exact .inl ⟨hnone, rfl⟩
  · next t ts hturns =>
    obtain ⟨l₁, l₂, i, rfl, hpick, hafter⟩ := h.of_bind
    obtain ⟨l₃, l₄, r, rfl, hturn, hrest⟩ := hafter.of_bind
    have hmem : (t :: ts).get i ∈ pool.turns main := by
      rw [hturns]
      exact List.get_mem _ _
    refine .inr ⟨ts.length, i, l₁, l₃ ++ l₄, hpick, rfl, ?_⟩
    rcases turn_cases hmem hturn with ⟨pool', main', rfl, hgoes⟩ | ⟨e', rfl, rfl, hends⟩
    · exact .inr ⟨l₃, l₄, pool', main', rfl, hgoes, hrest⟩
    · cases hrest
      exact .inl ⟨rfl, hends⟩

/-- **Invariant rule** for the calls made so far: a run that ends does so from
    a state in which the invariant holds. -/
theorem run_invariant (Inv : Pool σ ε → Main σ ε α → List (Prog.Entry σ) → Prop)
    (hpick : ∀ {n i l pool main acc}, Prog.Path (pick n) l i → Inv pool main acc →
      Inv pool main (acc ++ l))
    (hgoes : ∀ {pool main acc l pool' main'}, Inv pool main acc → Goes pool main l pool' main' →
      Inv pool' main' (acc ++ l))
    {fuel : Nat} {pool : Pool σ ε} {main : Main σ ε α} {acc l : List (Prog.Entry σ)}
    {e : Ending α} (hinv : Inv pool main acc) (h : Prog.Path (run pick fuel pool main) l e) :
    e = .hung ∨ ∃ pool' main', Inv pool' main' (acc ++ l) ∧ Ends pool' main' e := by
  induction fuel generalizing pool main acc l with
  | zero => cases h; exact .inl rfl
  | succ fuel ih =>
    rcases path_of_run h with ⟨-, hhung⟩ | ⟨n, i, l₁, l₂, hp, rfl, hrest⟩
    · exact .inl hhung
    · have hpicked := hpick hp hinv
      rcases hrest with ⟨rfl, hends⟩ | ⟨l₃, l₄, pool', main', rfl, hg, hrun⟩
      · exact .inr ⟨pool, main, by simpa using hpicked, hends⟩
      · have hnext := ih (hgoes hpicked hg) hrun
        simpa only [List.append_assoc] using hnext

/-! ### Errors that Arrive -/

section errors
variable {good : List (Prog.Entry σ) → α → Prop}

/-- What is good after some calls is good after more. -/
def Grows (good : List (Prog.Entry σ) → α → Prop) : Prop :=
  ∀ l l' a, good l a → (∀ x ∈ l, x ∈ l') → good l' a

/-- After the calls of `acc`, however the program goes on, it ends well. -/
def GoingWell (good : List (Prog.Entry σ) → α → Prop) (acc : List (Prog.Entry σ))
    (p : Prog σ α) : Prop :=
  ∀ l a, Prog.Path p l a → good (acc ++ l) a

theorem GoingWell.append (hgood : Grows good) {acc : List (Prog.Entry σ)} {p : Prog σ α}
    (h : GoingWell good acc p) (l' : List (Prog.Entry σ)) : GoingWell good (acc ++ l') p := by
  intro l a hpath
  refine hgood _ _ a (h l a hpath) ?_
  intro x hx
  simp only [List.mem_append] at hx ⊢
  exact hx.imp_left .inl

theorem GoingWell.call {acc : List (Prog.Entry σ)} {o : σ.Op} {k : σ.Ans o → Prog σ α}
    (h : GoingWell good acc (.call o k)) (x : σ.Ans o) :
    GoingWell good (acc ++ [⟨o, x⟩]) (k x) := by
  intro l a hpath
  have hcall := h _ a (.call hpath)
  simpa using hcall

/-- The main program ends well whatever error it sees. -/
def MainWell (good : List (Prog.Entry σ) → α → Prop) (acc : List (Prog.Entry σ)) :
    Main σ ε α → Prop
  | .waiting k => ∀ e, GoingWell good acc (k e)
  | .going p => GoingWell good acc p

theorem MainWell.append (hgood : Grows good) {acc : List (Prog.Entry σ)} {main : Main σ ε α}
    (h : MainWell good acc main) (l : List (Prog.Entry σ)) : MainWell good (acc ++ l) main := by
  cases main with
  | waiting k => exact fun e => (h e).append hgood l
  | going p => exact GoingWell.append hgood h l

theorem Goes.mainWell (hgood : Grows good) {pool pool' : Pool σ ε} {main main' : Main σ ε α}
    {acc l : List (Prog.Entry σ)} (hgoes : Goes pool main l pool' main')
    (h : MainWell good acc main) : MainWell good (acc ++ l) main' := by
  cases hgoes with
  | resume hmain =>
    subst hmain
    simpa [MainWell] using h _
  | main x hmain =>
    subst hmain
    exact GoingWell.call h x
  | call | send | leave => exact h.append hgood _

/-- If the main program ends well whatever error it sees, every run does, with
    routines left or not. -/
theorem run_good (hgood : Grows good) {main : Main σ ε α} (hmain : MainWell good [] main)
    {fuel : Nat} {pool : Pool σ ε} {l : List (Prog.Entry σ)} {e : Ending α}
    (h : Prog.Path (run pick fuel pool main) l e) :
    e = .hung ∨ e = .panicked ∨ ∃ a, e = .returned a ∧ good l a := by
  have hrun := run_invariant (fun _ main acc => MainWell good acc main)
    (fun _ hinv => hinv.append hgood _) (fun hinv hgoes => hgoes.mainWell hgood hinv) hmain h
  rcases hrun with rfl | ⟨pool', main', hinv, hends⟩
  · exact .inl rfl
  · cases hends with
    | panicked => exact .inr (.inl rfl)
    | returned hreturned =>
      subst hreturned
      have hend := hinv [] _ (.pure _)
      exact .inr (.inr ⟨_, rfl, by simpa using hend⟩)

variable {failing : Prog.Entry σ → Bool}

/-- A routine that makes a failing call, or has made one, has an error to
    send. -/
def Reports (failing : Prog.Entry σ → Bool) : Bool → Prog σ (Option ε) → Prop
  | hasFailed, .pure e => hasFailed = true → e.isSome = true
  | hasFailed, .call o k => ∀ x, Reports failing (hasFailed || failing ⟨o, x⟩) (k x)

/-- The call cannot fail. -/
def Safe (failing : Prog.Entry σ → Bool) (o : σ.Op) : Prop := ∀ x, failing ⟨o, x⟩ = false

/-- The counter counts the routines, so the main program resumes after all of
    them, and an error of theirs is in the channel then. -/
def Joined (failing : Prog.Entry σ → Bool) (good : List (Prog.Entry σ) → α → Prop)
    (pool : Pool σ ε) (main : Main σ ε α) (acc : List (Prog.Entry σ)) : Prop :=
  match main with
  | .waiting k => pool.counter = pool.routines.length ∧
      (∀ e, (k e).Only (Safe failing)) ∧ (∀ e, GoingWell good [] (k (some e))) ∧
      ∃ flags, List.Forall₂ (Reports failing) flags pool.routines ∧
        ((∃ x ∈ acc, failing x = true) → pool.channel ≠ [] ∨ true ∈ flags)
  | .going p => pool.routines = [] ∧ p.Only (Safe failing) ∧
      ((∃ x ∈ acc, failing x = true) → GoingWell good acc p)

/-- Calls that cannot fail change nothing. -/
theorem Joined.append (hgood : Grows good) {pool : Pool σ ε} {main : Main σ ε α}
    {acc l : List (Prog.Entry σ)} (h : Joined failing good pool main acc)
    (hl : ∀ x ∈ l, failing x = false) : Joined failing good pool main (acc ++ l) := by
  have hsame : (∃ x ∈ acc ++ l, failing x = true) → ∃ x ∈ acc, failing x = true := by
    rintro ⟨x, hx, hfail⟩
    rcases List.mem_append.mp hx with hx | hx
    · exact ⟨x, hx, hfail⟩
    · exact absurd hfail (by simp [hl x hx])
  cases main with
  | waiting k =>
    obtain ⟨hcounter, honly, hk, flags, hflags, herr⟩ := h
    exact ⟨hcounter, honly, hk, flags, hflags, fun hx => herr (hsame hx)⟩
  | going p =>
    obtain ⟨hnone, honly, hp⟩ := h
    exact ⟨hnone, honly, fun hx => (hp (hsame hx)).append hgood l⟩

theorem Goes.joined (hgood : Grows good) {pool pool' : Pool σ ε} {main main' : Main σ ε α}
    {acc l : List (Prog.Entry σ)} (hgoes : Goes pool main l pool' main')
    (h : Joined failing good pool main acc) : Joined failing good pool' main' (acc ++ l) := by
  -- without routines a turn is one of the main program
  have hgoing : ∀ {p : Prog σ α} {before after : List (Prog σ (Option ε))}
      {r : Prog σ (Option ε)}, main = .going p → pool.routines = before ++ r :: after → False := by
    rintro p before after r rfl hsplit
    have hnone := h.1
    simp [hsplit] at hnone
  cases hgoes with
  | @call before after o k x hsplit =>
    cases main with
    | going p => exact (hgoing rfl hsplit).elim
    | waiting k' =>
      obtain ⟨hcounter, honly, hk, flags, hflags, herr⟩ := h
      obtain ⟨f₁, b, f₂, rfl, h₁, hb, h₂⟩ := forall₂_split (hsplit ▸ hflags)
      refine ⟨by simpa [hsplit] using hcounter, honly, hk,
        f₁ ++ (b || failing ⟨o, x⟩) :: f₂, List.rel_append h₁ (.cons (hb x) h₂), ?_⟩
      rintro ⟨y, hy, hfail⟩
      rcases List.mem_append.mp hy with hy | hy
      · refine (herr ⟨y, hy, hfail⟩).imp_right fun hmem => ?_
        simp only [List.mem_append, List.mem_cons] at hmem ⊢
        rcases hmem with hmem | rfl | hmem
        · exact .inl hmem
        · exact .inr (.inl rfl)
        · exact .inr (.inr hmem)
      · rw [List.mem_singleton.mp hy] at hfail
        simp [hfail]
  | @send before after e hsplit hroom =>
    cases main with
    | going p => exact (hgoing rfl hsplit).elim
    | waiting k' =>
      obtain ⟨hcounter, honly, hk, flags, hflags, herr⟩ := h
      obtain ⟨f₁, b, f₂, rfl, h₁, hb, h₂⟩ := forall₂_split (hsplit ▸ hflags)
      have hsent : Reports failing false (.pure none : Prog σ (Option ε)) := by simp [Reports]
      exact ⟨by simpa [hsplit] using hcounter, honly, hk, f₁ ++ false :: f₂,
        List.rel_append h₁ (.cons hsent h₂), fun _ => .inl (by simp)⟩
  | @leave before after hsplit hpos =>
    cases main with
    | going p => exact (hgoing rfl hsplit).elim
    | waiting k' =>
      obtain ⟨hcounter, honly, hk, flags, hflags, herr⟩ := h
      obtain ⟨f₁, b, f₂, rfl, h₁, hb, h₂⟩ := forall₂_split (hsplit ▸ hflags)
      have hb : b = false := by simpa [Reports] using hb
      subst hb
      have hlength : pool.counter - 1 = (before ++ after).length := by
        simp only [hcounter, hsplit, List.length_append, List.length_cons]
        omega
      refine ⟨hlength, honly, hk, f₁ ++ f₂, List.rel_append h₁ h₂, fun hx => ?_⟩
      have hbefore := herr (by simpa using hx)
      simpa using hbefore
  | resume hmain hzero =>
    subst hmain
    obtain ⟨hcounter, honly, hk, flags, hflags, herr⟩ := h
    have hnone : pool.routines = [] := List.length_eq_zero_iff.mp (by omega)
    refine ⟨hnone, honly _, fun hx => ?_⟩
    rw [hnone] at hflags
    cases hflags
    -- nobody is left to send, so what has failed is in the channel
    obtain ⟨e, rest, hchannel⟩ := List.exists_cons_of_ne_nil
      ((herr (by simpa using hx)).resolve_right List.not_mem_nil)
    have hwell := (hk e).append hgood (acc ++ [])
    simpa [hchannel] using hwell
  | main x hmain =>
    subst hmain
    obtain ⟨hnone, honly, hp⟩ := h
    refine ⟨hnone, honly.2 x, ?_⟩
    rintro ⟨y, hy, hfail⟩
    rcases List.mem_append.mp hy with hy | hy
    · exact GoingWell.call (hp ⟨y, hy, hfail⟩) x
    · rw [List.mem_singleton.mp hy, honly.1 x] at hfail
      cases hfail

/-- If the counter counts the routines, a run with a failing call ends as the
    main program does when it sees an error. -/
theorem run_joined (hgood : Grows good) (hpick : ∀ n, (pick n).Only (Safe failing)) {fuel : Nat}
    {pool : Pool σ ε} {main : Main σ ε α} (hjoined : Joined failing good pool main [])
    {l : List (Prog.Entry σ)} {e : Ending α} (h : Prog.Path (run pick fuel pool main) l e)
    (hfail : ∃ x ∈ l, failing x = true) :
    e = .hung ∨ e = .panicked ∨ ∃ a, e = .returned a ∧ good l a := by
  have hrun := run_invariant (Joined failing good)
    (fun hp hinv => hinv.append hgood (fun x hx => (hpick _).path hp x hx x.2))
    (fun hinv hgoes => hgoes.joined hgood hinv) hjoined h
  rcases hrun with rfl | ⟨pool', main', hinv, hends⟩
  · exact .inl rfl
  · cases hends with
    | panicked => exact .inr (.inl rfl)
    | returned hreturned =>
      subst hreturned
      have hend := hinv.2.2 (by simpa using hfail) [] _ (.pure _)
      exact .inr (.inr ⟨_, rfl, by simpa using hend⟩)

end errors

end rules

/-! ### Calls -/

/-- The calls of the main program. -/
def MainOnly (ok : σ.Op → Prop) : Main σ ε α → Prop
  | .waiting k => ∀ e, (k e).Only ok
  | .going p => p.Only ok

/-- A pool makes no other calls than its routines, its main program and the
    scheduler. -/
theorem only_run {pick : (n : Nat) → Prog σ (Fin (n + 1))} {ok : σ.Op → Prop}
    (hpick : ∀ n, (pick n).Only ok) {fuel : Nat} {pool : Pool σ ε} {main : Main σ ε α}
    (hroutines : ∀ r ∈ pool.routines, r.Only ok) (hmain : MainOnly ok main) :
    (run pick fuel pool main).Only ok := by
  induction fuel generalizing pool main with
  | zero => trivial
  | succ fuel ih =>
    simp only [run]
    split
    · trivial
    · next t ts hturns =>
      refine (hpick ts.length).bind fun i => ?_
      have hmem : (t :: ts).get i ∈ pool.turns main := by
        rw [hturns]
        exact List.get_mem _ _
      match (t :: ts).get i, hmem with
      | .routine before r after, hmem =>
        obtain ⟨hsplit, -⟩ := routine_mem_turns.mp hmem
        have hothers : ∀ r' ∈ before ++ after, r'.Only ok := by
          intro r' hr'
          refine hroutines r' ?_
          simp only [hsplit, List.mem_append, List.mem_cons] at hr' ⊢
          exact hr'.imp_right .inr
        have hreplaced : ∀ q : Prog σ (Option ε), q.Only ok →
            ∀ r' ∈ before ++ q :: after, r'.Only ok := by
          intro q hq r' hr'
          simp only [List.mem_append, List.mem_cons] at hr' hothers
          rcases hr' with hr' | rfl | hr'
          · exact hothers r' (.inl hr')
          · exact hq
          · exact hothers r' (.inr hr')
        have hr : r.Only ok := hroutines r (by simp [hsplit])
        match r, hr with
        | .call o k, hr => exact ⟨hr.1, fun x => ih (hreplaced _ (hr.2 x)) hmain⟩
        | .pure (some e), _ => exact ih (hreplaced (.pure none) trivial) hmain
        | .pure none, _ =>
          simp only [turn]
          split
          · trivial
          · exact ih hothers hmain
      | .main, _ =>
        match main, hmain with
        | .waiting k, hmain => exact ih hroutines (hmain _)
        | .going (.call o k), hmain => exact ⟨hmain.1, fun x => ih hroutines (hmain.2 x)⟩
        | .going (.pure a), _ => trivial

/-! ### Weakest Preconditions -/

section contract
variable {S P C E R V : Type} {M : Machine σ S P C E R} {W : Views M V} {T : Contract W} {i : P}

/-- **Rule for pools**: an invariant of pool, main program and view that every
    turn keeps. -/
theorem wp_run {pick : (n : Nat) → Prog σ (Fin (n + 1))} {Inv : Pool σ ε → Main σ ε α → V → Prop}
    {Q : Ending α → V → Prop} (hpick : ∀ n v, T.wp i (pick n) (fun _ v' => v' = v) v)
    (hturn : ∀ pool main v, Inv pool main v → ∀ t ∈ pool.turns main,
      T.wp i (pool.turn main t) (fun r v' => match r with
        | .inl e => Q e v'
        | .inr c => Inv c.1 c.2 v') v)
    (hhung : ∀ pool main v, Inv pool main v → Q .hung v) {fuel : Nat} {pool : Pool σ ε}
    {main : Main σ ε α} {v : V} (h : Inv pool main v) :
    T.wp i (run pick fuel pool main) Q v := by
  induction fuel generalizing pool main v with
  | zero => exact hhung pool main v h
  | succ fuel ih =>
    simp only [run]
    split
    · exact hhung pool main v h
    · next t ts hturns =>
      refine Contract.wp_bind (Contract.wp_mono (hpick ts.length v) ?_)
      rintro j v' rfl
      have hmem : (t :: ts).get j ∈ pool.turns main := by
        rw [hturns]
        exact List.get_mem _ _
      refine Contract.wp_bind (Contract.wp_mono (hturn pool main v' h _ hmem) ?_)
      intro r v'' hr
      match r, hr with
      | .inl e, hr => exact hr
      | .inr c, hr => exact ih hr

/-- A call that may always be made and leaves the view alone. -/
def Free (T : Contract W) (i : P) (o : σ.Op) : Prop :=
  ∀ v, T.guard i o v ∧ ∀ a v', Contract.Sees W i o v a v' → v' = v

theorem wp_of_free {p : Prog σ α} (h : p.Only (Free T i)) {Q : α → V → Prop} {v : V}
    (hQ : ∀ a, Q a v) : T.wp i p Q v := by
  induction p with
  | pure a => exact hQ a
  | call o k ih =>
    refine ⟨(h.1 v).1, fun a v' hsees => ?_⟩
    obtain rfl := (h.1 v).2 a v' hsees
    exact ih a (h.2 a)

/-- Routines with stages: every routine is at some stage, and the view fits the
    stages of all of them, whoever takes a turn. -/
structure Staged (T : Contract W) (i : P) {γ : Type} (At : γ → Prog σ (Option ε) → Prop)
    (Fit : List γ → V → Prop) : Prop where
  call : ∀ {before after : List γ} {g : γ} {o : σ.Op} {k : σ.Ans o → Prog σ (Option ε)} {v : V},
    At g (.call o k) → Fit (before ++ g :: after) v →
    T.guard i o v ∧ ∀ a v', Contract.Sees W i o v a v' →
      ∃ g', At g' (k a) ∧ Fit (before ++ g' :: after) v'
  send : ∀ {g : γ} {e : ε}, At g (.pure (some e)) → At g (.pure none)
  leave : ∀ {before after : List γ} {g : γ} {v : V},
    At g (.pure none) → Fit (before ++ g :: after) v → Fit (before ++ after) v

/-- **Rule for stages**: with a main program that makes free calls only, the
    view fits some stages when all ends. -/
theorem wp_run_staged {γ : Type} {At : γ → Prog σ (Option ε) → Prop} {Fit : List γ → V → Prop}
    (hstaged : Staged T i At Fit) {pick : (n : Nat) → Prog σ (Fin (n + 1))}
    (hpick : ∀ n v, T.wp i (pick n) (fun _ v' => v' = v) v) {fuel : Nat} {pool : Pool σ ε}
    {main : Main σ ε α} {stages : List γ} {v : V} (hat : List.Forall₂ At stages pool.routines)
    (hfit : Fit stages v) (hmain : MainOnly (Free T i) main) :
    T.wp i (run pick fuel pool main) (fun _ v' => ∃ stages, Fit stages v') v := by
  let Inv : Pool σ ε → Main σ ε α → V → Prop := fun pool main v =>
    ∃ stages, List.Forall₂ At stages pool.routines ∧ Fit stages v ∧ MainOnly (Free T i) main
  have hinv : Inv pool main v := ⟨stages, hat, hfit, hmain⟩
  refine wp_run hpick ?_ (fun _ _ _ ⟨stages, _, hfit, _⟩ => ⟨stages, hfit⟩) hinv
  rintro pool main v ⟨stages, hat, hfit, hmain⟩ t ht
  match t, ht with
  | .routine before r after, ht =>
    obtain ⟨hsplit, -⟩ := routine_mem_turns.mp ht
    rw [hsplit] at hat
    obtain ⟨l₁, g, l₂, rfl, h₁, hg, h₂⟩ := forall₂_split hat
    match r, hg with
    | .call o k, hg =>
      obtain ⟨hguard, hnext⟩ := hstaged.call hg hfit
      refine ⟨hguard, fun a v' hsees => ?_⟩
      obtain ⟨g', hg', hfit'⟩ := hnext a v' hsees
      exact ⟨l₁ ++ g' :: l₂, List.rel_append h₁ (.cons hg' h₂), hfit', hmain⟩
    | .pure (some e), hg =>
      exact ⟨l₁ ++ g :: l₂, List.rel_append h₁ (.cons (hstaged.send hg) h₂), hfit, hmain⟩
    | .pure none, hg =>
      have hleft := hstaged.leave hg hfit
      simp only [turn]
      split
      · exact ⟨l₁ ++ l₂, hleft⟩
      · exact ⟨l₁ ++ l₂, List.rel_append h₁ h₂, hleft, hmain⟩
  | .main, _ =>
    match main, hmain with
    | .waiting k, hmain => exact ⟨stages, hat, hfit, hmain _⟩
    | .going (.call o k), hmain =>
      refine ⟨(hmain.1 v).1, fun a v' hsees => ?_⟩
      obtain rfl := (hmain.1 v).2 a v' hsees
      exact ⟨stages, hat, hfit, hmain.2 a⟩
    | .going (.pure a), _ => exact ⟨stages, hfit⟩

end contract

end Pool

end Calls
