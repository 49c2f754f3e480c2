import Virtink.Framework.Pool

/-! # Runs of a Pool

    Two questions about the runs of routines and a main program: whether they
    come to an end, and whether a particular run exists. No routine turns
    forever, so a run with enough fuel ends by itself (`run_not_hung`); and
    whatever can be done turn by turn is done in some run (`Runs.path`).
-/

namespace Calls

namespace Pool

variable {σ : Sig} {ε α : Type}

/-! ### Enough Turns -/

/-- A routine has at most `n` turns left. -/
def RoutineTurns : Nat → Prog σ (Option ε) → Prop
  | n, .pure none => 1 ≤ n
  | n, .pure (some _) => 2 ≤ n
  | 0, .call _ _ => False
  | n + 1, .call _ k => ∀ x, RoutineTurns n (k x)

/-- A program that has gone on has at most `n` turns left. -/
def GoingTurns : Nat → Prog σ α → Prop
  | n, .pure _ => 1 ≤ n
  | 0, .call _ _ => False
  | n + 1, .call _ k => ∀ x, GoingTurns n (k x)

/-- The main program has at most `n` turns left. -/
def MainTurns (n : Nat) : Main σ ε α → Prop
  | .waiting k => ∃ m, n = m + 1 ∧ ∀ e, GoingTurns m (k e)
  | .going p => GoingTurns n p

/-- All together have at most `n` turns left. -/
def TurnsLeft (n : Nat) (pool : Pool σ ε) (main : Main σ ε α) : Prop :=
  ∃ ns m, List.Forall₂ RoutineTurns ns pool.routines ∧ MainTurns m main ∧ ns.sum + m ≤ n

/-- Every turn is one turn less. -/
theorem Goes.turnsLeft {pool pool' : Pool σ ε} {main main' : Main σ ε α}
    {l : List (Prog.Entry σ)} (h : Goes pool main l pool' main') {n : Nat}
    (hn : TurnsLeft n pool main) : ∃ n', n = n' + 1 ∧ TurnsLeft n' pool' main' := by
  obtain ⟨ns, m, hroutines, hmain, hsum⟩ := hn
  cases h with
  | call x hsplit =>
    obtain ⟨n₁, b, n₂, rfl, h₁, hb, h₂⟩ := forall₂_split (hsplit ▸ hroutines)
    match b, hb with
    | b + 1, hb =>
      simp only [List.sum_append, List.sum_cons] at hsum
      refine ⟨n - 1, by omega, n₁ ++ b :: n₂, m, List.rel_append h₁ (.cons (hb x) h₂), hmain, ?_⟩
      simp only [List.sum_append, List.sum_cons]
      omega
  | send hsplit hroom =>
    obtain ⟨n₁, b, n₂, rfl, h₁, hb, h₂⟩ := forall₂_split (hsplit ▸ hroutines)
    have hb : 2 ≤ b := by simpa only [RoutineTurns] using hb
    simp only [List.sum_append, List.sum_cons] at hsum
    have hleft : RoutineTurns 1 (.pure none : Prog σ (Option ε)) := Nat.le_refl 1
    refine ⟨n - 1, by omega, n₁ ++ 1 :: n₂, m, List.rel_append h₁ (.cons hleft h₂), hmain, ?_⟩
    simp only [List.sum_append, List.sum_cons]
    omega
  | leave hsplit hpos =>
    obtain ⟨n₁, b, n₂, rfl, h₁, hb, h₂⟩ := forall₂_split (hsplit ▸ hroutines)
    have hb : 1 ≤ b := by simpa only [RoutineTurns] using hb
    simp only [List.sum_append, List.sum_cons] at hsum
    refine ⟨n - 1, by omega, n₁ ++ n₂, m, List.rel_append h₁ h₂, hmain, ?_⟩
    simp only [List.sum_append]
    omega
  | resume hwait hzero =>
    subst hwait
    obtain ⟨m', rfl, hk⟩ := hmain
    exact ⟨n - 1, by omega, ns, m', hroutines, hk _, by omega⟩
  | main x hgoing =>
    subst hgoing
    match m, hmain with
    | m + 1, hk => exact ⟨n - 1, by omega, ns, m, hroutines, hk x, by omega⟩

/-- Before the end there is a turn left. -/
theorem Ends.turnsLeft {pool : Pool σ ε} {main : Main σ ε α} {e : Ending α}
    (h : Ends pool main e) {n : Nat} (hn : TurnsLeft n pool main) : n ≠ 0 := by
  obtain ⟨ns, m, hroutines, hmain, hsum⟩ := hn
  cases h with
  | panicked hsplit hzero =>
    obtain ⟨n₁, b, n₂, rfl, h₁, hb, h₂⟩ := forall₂_split (hsplit ▸ hroutines)
    have hb : 1 ≤ b := by simpa only [RoutineTurns] using hb
    simp only [List.sum_append, List.sum_cons] at hsum
    omega
  | returned hgoing =>
    subst hgoing
    have hm : 1 ≤ m := by simpa only [MainTurns, GoingTurns] using hmain
    omega

/-- While the main program waits, the counter is not above the number of
    routines, and whoever fills the channel has lowered it or is about to. -/
def Alive (pool : Pool σ ε) : Main σ ε α → Prop
  | .waiting _ => pool.counter ≤ pool.routines.length ∧
      pool.channel.length + pool.counter ≤ pool.capacity + pool.routines.countP
        (fun r => match r with | .pure none => true | _ => false)
  | .going _ => True

theorem Goes.alive {pool pool' : Pool σ ε} {main main' : Main σ ε α} {l : List (Prog.Entry σ)}
    (h : Goes pool main l pool' main') (ha : Alive pool main) : Alive pool' main' := by
  cases h with
  | call x hsplit =>
    cases main with
    | going p => trivial
    | waiting k =>
      simp only [Alive, hsplit, List.countP_append, List.countP_cons, List.length_append,
        List.length_cons] at ha ⊢
      refine ⟨ha.1, Nat.le_trans ha.2 ?_⟩
      simp
  | send hsplit hroom =>
    cases main with
    | going p => trivial
    | waiting k =>
      simp only [Alive, hsplit, List.countP_append, List.countP_cons, List.length_append,
        List.length_cons, List.length_nil] at ha ⊢
      simp only [if_true, Bool.false_eq_true, if_false] at ha ⊢
      omega
  | leave hsplit hpos =>
    cases main with
    | going p => trivial
    | waiting k =>
      simp only [Alive, hsplit, List.countP_append, List.countP_cons, List.length_append,
        List.length_cons, if_true] at ha ⊢
      omega
  | resume | main => trivial

/-- Somebody can take a turn. -/
theorem Alive.turns_ne_nil {pool : Pool σ ε} {main : Main σ ε α} (h : Alive pool main) :
    pool.turns main ≠ [] := by
  intro hnone
  have hmain : pool.canGoOn main ≠ true := by
    intro hcan
    have hmem := main_mem_turns.mpr hcan
    rw [hnone] at hmem
    cases hmem
  have hroutine : ∀ r ∈ pool.routines, pool.canTurn r ≠ true := by
    intro r hr hcan
    obtain ⟨before, after, hsplit⟩ := List.append_of_mem hr
    have hmem : .routine before r after ∈ pool.turns main := routine_mem_turns.mpr ⟨hsplit, hcan⟩
    rw [hnone] at hmem
    cases hmem
  cases main with
  | going p => exact hmain rfl
  | waiting k =>
    have hpos : pool.counter ≠ 0 := fun hzero => hmain (decide_eq_true hzero)
    obtain ⟨hcounter, hchannel⟩ := h
    -- every routine is stuck with an error, so none is about to lower the counter
    have hleaving : pool.routines.countP
        (fun r => match r with | .pure none => true | _ => false) = 0 := by
      rw [List.countP_eq_zero]
      intro r hr
      match r with
      | .pure none => exact absurd rfl (hroutine _ hr)
      | .pure (some _) => simp
      | .call _ _ => simp
    match hlist : pool.routines with
    | [] => simp [hlist] at hcounter; omega
    | r :: rs =>
      have hstuck := hroutine r (by simp [hlist])
      match r with
      | .pure none => exact hstuck rfl
      | .call _ _ => exact hstuck rfl
      | .pure (some e) =>
        have hfull : ¬ pool.channel.length < pool.capacity := by simpa [canTurn] using hstuck
        omega

/-- With enough fuel a run does not hang. -/
theorem run_not_hung {pick : (n : Nat) → Prog σ (Fin (n + 1))} {fuel : Nat} {pool : Pool σ ε}
    {main : Main σ ε α} {l : List (Prog.Entry σ)} {e : Ending α} (hfuel : TurnsLeft fuel pool main)
    (ha : Alive pool main) (h : Prog.Path (run pick fuel pool main) l e) : e ≠ .hung := by
  induction fuel generalizing pool main l with
  | zero =>
    obtain ⟨ns, m, -, hmain, hsum⟩ := hfuel
    have hm : m = 0 := by omega
    subst hm
    match main with
    | .waiting k => obtain ⟨m, hm, -⟩ := hmain; omega
    | .going (.pure a) => simp [MainTurns, GoingTurns] at hmain
    | .going (.call o k) => simp [MainTurns, GoingTurns] at hmain
  | succ fuel ih =>
    rcases path_of_run h with ⟨hnone, -⟩ | ⟨n, i, l₁, l₂, -, rfl, hrest⟩
    · exact absurd hnone ha.turns_ne_nil
    · rcases hrest with ⟨-, hends⟩ | ⟨l₃, l₄, pool', main', rfl, hg, hrun⟩
      · cases hends <;> simp
      · obtain ⟨n', hn', hleft⟩ := hg.turnsLeft hfuel
        obtain rfl : fuel = n' := by omega
        exact ih hleft (hg.alive ha) hrun

/-! ### Some Run -/

/-- `Runs pool main l pool' main'`: turns that make the calls of `l`. -/
inductive Runs : Pool σ ε → Main σ ε α → List (Prog.Entry σ) → Pool σ ε → Main σ ε α → Prop where
  | refl {pool : Pool σ ε} {main : Main σ ε α} : Runs pool main [] pool main
  | step {pool pool₁ pool' : Pool σ ε} {main main₁ main' : Main σ ε α}
      {l l' : List (Prog.Entry σ)} :
      Goes pool main l pool₁ main₁ → Runs pool₁ main₁ l' pool' main' →
      Runs pool main (l ++ l') pool' main'

theorem Runs.trans {pool pool₁ pool₂ : Pool σ ε} {main main₁ main₂ : Main σ ε α}
    {l l' : List (Prog.Entry σ)} (h : Runs pool main l pool₁ main₁)
    (h' : Runs pool₁ main₁ l' pool₂ main₂) : Runs pool main (l ++ l') pool₂ main₂ := by
  induction h with
  | refl => exact h'
  | step hgoes _ ih =>
    rw [List.append_assoc]
    exact .step hgoes (ih h')

/-- A routine can run to its end while the others stand still. -/
theorem Runs.routine {r : Prog σ (Option ε)} {l : List (Prog.Entry σ)} {o : Option ε}
    (h : Prog.Path r l o) {pool : Pool σ ε} {main : Main σ ε α}
    {before after : List (Prog σ (Option ε))} (hsplit : pool.routines = before ++ r :: after)
    (hcounter : pool.counter ≠ 0)
    (hroom : pool.channel.length + o.toList.length ≤ pool.capacity) :
    Runs pool main l { pool with
      routines := before ++ after
      counter := pool.counter - 1
      channel := pool.channel ++ o.toList } main := by
  induction h generalizing pool with
  | pure o =>
    cases o with
    | none =>
      have hleave : Runs pool main ([] ++ []) _ main := .step (.leave hsplit hcounter) .refl
      simpa using hleave
    | some e =>
      have hfree : pool.channel.length < pool.capacity := hroom
      let sent : Pool σ ε := { pool with
        routines := before ++ .pure none :: after
        channel := pool.channel ++ [e] }
      have hleave : Runs sent main ([] ++ []) _ main :=
        .step (.leave (rfl : sent.routines = before ++ .pure none :: after) hcounter) .refl
      exact .step (.send hsplit hfree) hleave
  | @call o k x l a hpath ih =>
    let next : Pool σ ε := { pool with routines := before ++ k x :: after }
    have hrest : Runs next main l _ main := ih rfl hcounter hroom
    exact .step (.call x hsplit) hrest

/-- Routines that come through without an error can do so one after another. -/
theorem Runs.routines {P : Prog.Entry σ → Prop} {rs after : List (Prog σ (Option ε))}
    (hrs : ∀ r ∈ rs, ∃ l, Prog.Path r l none ∧ ∀ x ∈ l, P x) {pool : Pool σ ε}
    {main : Main σ ε α} (hsplit : pool.routines = rs ++ after)
    (hcounter : rs.length ≤ pool.counter) (hroom : pool.channel.length ≤ pool.capacity) :
    ∃ l, Runs pool main l { pool with
      routines := after
      counter := pool.counter - rs.length } main ∧ ∀ x ∈ l, P x := by
  induction rs generalizing pool with
  | nil =>
    refine ⟨[], ?_, by simp⟩
    have hsame : { pool with routines := after, counter := pool.counter - 0 } = pool := by
      simp only [List.nil_append] at hsplit
      simp [← hsplit]
    rw [List.length_nil, hsame]
    exact .refl
  | cons r rs ih =>
    obtain ⟨l, hpath, hP⟩ := hrs r List.mem_cons_self
    simp only [List.length_cons] at hcounter
    let next : Pool σ ε := { pool with routines := rs ++ after, counter := pool.counter - 1 }
    have hpos : pool.counter ≠ 0 := by omega
    have hfirst : Runs pool main l next main := by
      have hrun : Runs pool main l _ main :=
        Runs.routine hpath (show pool.routines = [] ++ r :: (rs ++ after) from hsplit) hpos
          (by simpa using hroom)
      simpa using hrun
    have hleft : rs.length ≤ next.counter := by
      show rs.length ≤ pool.counter - 1
      omega
    obtain ⟨l', hrest, hP'⟩ :=
      ih (fun r' hr' => hrs r' (List.mem_cons_of_mem _ hr')) (rfl : next.routines = _) hleft hroom
    refine ⟨l ++ l', ?_, ?_⟩
    · have hcount : pool.counter - (rs.length + 1) = pool.counter - 1 - rs.length := by omega
      rw [List.length_cons, hcount]
      exact hfirst.trans hrest
    · intro x hx
      rcases List.mem_append.mp hx with hx | hx
      · exact hP x hx
      · exact hP' x hx

/-- The main program can run to its end while the routines stand still. -/
theorem Runs.going {p : Prog σ α} {l : List (Prog.Entry σ)} {a : α} (h : Prog.Path p l a)
    (pool : Pool σ ε) : Runs pool (.going p) l pool (.going (.pure a)) := by
  induction h with
  | pure a => exact .refl
  | call _ ih => exact .step (.main _ rfl) ih

section scheduler
variable {pick : (n : Nat) → Prog σ (Fin (n + 1))} {real : Prog.Entry σ → Bool}

/-- A scheduler that can pick every turn can take any turn first. -/
theorem path_of_turn
    (hpick : ∀ n i, ∃ l, Prog.Path (pick n) l i ∧ ∀ x ∈ l, real x = false) {fuel : Nat}
    {pool : Pool σ ε} {main : Main σ ε α} {t : Turn σ ε} (ht : t ∈ pool.turns main)
    {l l' : List (Prog.Entry σ)} {r : Ending α ⊕ Pool σ ε × Main σ ε α} {e : Ending α}
    (hturn : Prog.Path (pool.turn main t) l r)
    (hrest : Prog.Path (match r with
      | .inl e => .pure e
      | .inr c => run pick fuel c.1 c.2) l' e) :
    ∃ l'', Prog.Path (run pick (fuel + 1) pool main) l'' e ∧
      l''.filter real = (l ++ l').filter real := by
  match hturns : pool.turns main with
  | [] => rw [hturns] at ht; cases ht
  | t₀ :: ts =>
    rw [hturns] at ht
    obtain ⟨i, hi⟩ := List.get_of_mem ht
    obtain ⟨lp, hp, hreal⟩ := hpick ts.length i
    have hnone : lp.filter real = [] := List.filter_eq_nil_iff.mpr (by simpa using hreal)
    refine ⟨lp ++ (l ++ l'), ?_, by simp [hnone]⟩
    simp only [run, hturns]
    exact hp.bind (Prog.Path.bind (hi ▸ hturn) hrest)

/-- **Existence rule**: whatever the turns can do is a run of the program. -/
theorem Runs.path
    (hpick : ∀ n i, ∃ l, Prog.Path (pick n) l i ∧ ∀ x ∈ l, real x = false) {fuel : Nat}
    {pool pool' : Pool σ ε} {main main' : Main σ ε α} {l : List (Prog.Entry σ)} {e : Ending α}
    (h : Runs pool main l pool' main') (hends : Ends pool' main' e)
    (hfuel : TurnsLeft fuel pool main) :
    ∃ l', Prog.Path (run pick fuel pool main) l' e ∧ l'.filter real = l.filter real := by
  induction h generalizing fuel with
  | refl =>
    obtain ⟨t, ht, hturn⟩ := hends.turn
    obtain ⟨fuel, rfl⟩ := Nat.exists_eq_succ_of_ne_zero (hends.turnsLeft hfuel)
    exact path_of_turn hpick ht hturn (.pure e)
  | step hgoes _ ih =>
    obtain ⟨t, ht, hturn⟩ := hgoes.turn
    obtain ⟨fuel, rfl, hleft⟩ := hgoes.turnsLeft hfuel
    obtain ⟨l', hpath, hfilter⟩ := ih hends hleft
    obtain ⟨l'', hpath', hfilter'⟩ := path_of_turn hpick ht hturn hpath
    exact ⟨l'', hpath', by rw [hfilter', List.filter_append, List.filter_append, hfilter]⟩

end scheduler

end Pool

end Calls
