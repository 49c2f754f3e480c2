import Virtink.Framework.PoolRuns

/-! # A Pool Whose Routines Are All Counted

    The counter of a pool starts with the number of its routines, and the
    channel has room for an error of each. Then the counter is at every moment
    the number of routines that are left, so nobody lowers it too far and the
    main program goes on only after the last one; every error finds room; and
    the calls of a kind that have been made are those of the routines, in some
    order (`Runs.counted`, `run_counted`).
-/

namespace Calls

variable {σ : Sig} {ε α β : Type}

/-! ### Calls of a Kind -/

section kind
variable (kind : σ.Op → Bool)

/-- The calls of a kind among those that were made. -/
def made (l : List (Prog.Entry σ)) : List σ.Op := (l.map (fun x => x.1)).filter kind

@[simp] theorem made_nil : made kind ([] : List (Prog.Entry σ)) = [] := rfl

@[simp] theorem made_append (l l' : List (Prog.Entry σ)) :
    made kind (l ++ l') = made kind l ++ made kind l' := by
  simp [made]

theorem made_of_not {o : σ.Op} (h : kind o = false) (x : σ.Ans o) : made kind [⟨o, x⟩] = [] := by
  simp [made, h]

/-- However it is answered, the program makes these calls of the kind, in this
    order, and no other ones. -/
def Makes : Prog σ β → List σ.Op → Prop
  | .pure _, ops => ops = []
  | .call o k, ops =>
      if kind o then ∃ rest, ops = o :: rest ∧ ∀ x, Makes (k x) rest else ∀ x, Makes (k x) ops

/-- A program without calls of the kind makes none. -/
theorem made_of_only {p : Prog σ β} (hp : p.Only (fun o => kind o = false))
    {l : List (Prog.Entry σ)} {b : β} (h : Prog.Path p l b) : made kind l = [] := by
  have hnone := hp.path h
  simp only [made, List.filter_map, List.map_eq_nil_iff, List.filter_eq_nil_iff]
  intro x hx
  simp [hnone x hx]

/-- A call takes the first of the calls that are left, or it is of another kind. -/
theorem Makes.call {o : σ.Op} {k : σ.Ans o → Prog σ β} {ops : List σ.Op}
    (h : Makes kind (.call o k) ops) (x : σ.Ans o) :
    ∃ rest, Makes kind (k x) rest ∧ made kind [⟨o, x⟩] ++ rest = ops := by
  simp only [Makes] at h
  split at h
  · next hkind =>
    obtain ⟨rest, rfl, hrest⟩ := h
    exact ⟨rest, hrest x, by simp [made, hkind]⟩
  · next hkind => exact ⟨ops, h x, by simp [made, hkind]⟩

end kind

namespace Pool

/-! ### Counted Routines -/

/-- The routine has nothing left to send. -/
def leaving : Prog σ (Option ε) → Bool
  | .pure none => true
  | _ => false

section counted
variable (kind : σ.Op → Bool) (total : List σ.Op)

/-- The counter is the number of routines that are left, there is room for their
    errors, and the calls that were made and those that are left are all calls.
    The main program waits for all routines and makes no call of the kind. -/
structure Counted (pool : Pool σ ε) (main : Main σ ε α) (l : List (Prog.Entry σ)) : Prop where
  counter : pool.counter = pool.routines.length
  room    : pool.channel.length + pool.routines.countP (fun r => !leaving r) ≤ pool.capacity
  calls   : ∃ left, List.Forall₂ (Makes kind) pool.routines left ∧
    (made kind l ++ left.flatten).Perm total
  quiet   : MainOnly (fun o => kind o = false) main
  waits   : ∀ p, main = .going p → pool.routines = []

variable {kind total}

/-- Nobody lowers the counter below zero. -/
theorem Counted.not_panicked {pool : Pool σ ε} {main : Main σ ε α} {l : List (Prog.Entry σ)}
    (h : Counted kind total pool main l) : ¬ Ends pool main .panicked := by
  intro hends
  cases hends with
  | panicked hsplit hzero =>
    have hcount := h.counter
    rw [hzero, hsplit] at hcount
    simp at hcount

/-- Every routine can take its next turn. -/
theorem Counted.canTurn {pool : Pool σ ε} {main : Main σ ε α} {l : List (Prog.Entry σ)}
    (h : Counted kind total pool main l) : ∀ r ∈ pool.routines, pool.canTurn r = true := by
  intro r hr
  cases r with
  | call o k => rfl
  | pure err =>
    cases err with
    | none => rfl
    | some e =>
      have hpos : 0 < pool.routines.countP (fun r => !leaving r) :=
        List.countP_pos_iff.mpr ⟨_, hr, rfl⟩
      have hroom := h.room
      exact decide_eq_true (by omega)

/-- No more calls have been made than there are. -/
theorem Counted.length_made_le {pool : Pool σ ε} {main : Main σ ε α} {l : List (Prog.Entry σ)}
    (h : Counted kind total pool main l) : (made kind l).length ≤ total.length := by
  obtain ⟨left, -, hperm⟩ := h.calls
  have hlength := hperm.length_eq
  rw [List.length_append] at hlength
  omega

/-- When the main program has gone on, all calls have been made. -/
theorem Counted.all {pool : Pool σ ε} {p : Prog σ α} {l : List (Prog.Entry σ)}
    (h : Counted kind total pool (.going p) l) : (made kind l).Perm total := by
  obtain ⟨left, hleft, hperm⟩ := h.calls
  rw [h.waits p rfl] at hleft
  cases hleft
  simpa using hperm

/-- **Turn**: what one turn keeps, whoever takes it. -/
theorem Goes.counted {pool pool' : Pool σ ε} {main main' : Main σ ε α}
    {l acc : List (Prog.Entry σ)} (h : Goes pool main l pool' main')
    (hc : Counted kind total pool main acc) : Counted kind total pool' main' (acc ++ l) := by
  obtain ⟨hcounter, hroom, ⟨left, hleft, hperm⟩, hmain, hwaits⟩ := hc
  cases h with
  | @call before after o k x hsplit =>
    rw [hsplit] at hcounter hroom hleft hwaits
    obtain ⟨left₁, ops, left₂, rfl, h₁, hops, h₂⟩ := forall₂_split hleft.flip
    obtain ⟨rest, hrest, htaken⟩ := Makes.call kind hops x
    refine ⟨by simpa using hcounter, ?_, ⟨left₁ ++ rest :: left₂, ?_, ?_⟩, hmain, ?_⟩
    · simp only [List.countP_append, List.countP_cons] at hroom ⊢
      have hone : (!leaving (.call o k : Prog σ (Option ε))) = true := rfl
      rw [hone, if_pos rfl] at hroom
      split <;> omega
    · exact List.rel_append h₁.flip (.cons hrest h₂.flip)
    · rw [← htaken] at hperm
      refine List.Perm.trans ?_ hperm
      simp only [made_append, List.flatten_append, List.flatten_cons, List.append_assoc]
      refine List.Perm.append_left _ ?_
      exact List.perm_append_comm_assoc _ _ _
    · intro p hp
      exact absurd (hwaits p hp) (by simp)
  | @send before after e hsplit hfree =>
    rw [hsplit] at hcounter hroom hleft hwaits
    refine ⟨by simpa using hcounter, ?_, ⟨left, ?_, by simpa using hperm⟩, hmain, ?_⟩
    · simp only [List.countP_append, List.countP_cons, List.length_append, List.length_cons,
        List.length_nil] at hroom ⊢
      have hone : (!leaving (.pure (some e) : Prog σ (Option ε))) = true := rfl
      have hzero : (!leaving (.pure none : Prog σ (Option ε))) = false := rfl
      rw [hone, if_pos rfl] at hroom
      rw [hzero, if_neg (by decide)]
      omega
    · obtain ⟨left₁, ops, left₂, rfl, h₁, hops, h₂⟩ := forall₂_split hleft.flip
      exact List.rel_append h₁.flip (.cons hops h₂.flip)
    · intro p hp
      exact absurd (hwaits p hp) (by simp)
  | @leave before after hsplit hpos =>
    rw [hsplit] at hcounter hroom hleft hwaits
    obtain ⟨left₁, ops, left₂, rfl, h₁, hops, h₂⟩ := forall₂_split hleft.flip
    obtain rfl : ops = [] := hops
    refine ⟨?_, ?_, ⟨left₁ ++ left₂, List.rel_append h₁.flip h₂.flip, by simpa using hperm⟩, hmain,
      ?_⟩
    · simp only [List.length_append, List.length_cons] at hcounter ⊢
      omega
    · simp only [List.countP_append, List.countP_cons] at hroom ⊢
      omega
    · intro p hp
      exact absurd (hwaits p hp) (by simp)
  | @resume k hwait hzero =>
    subst hwait
    have hempty : pool.routines = [] := List.eq_nil_of_length_eq_zero (by omega)
    refine ⟨hcounter, ?_, ⟨left, hleft, by simpa using hperm⟩, hmain _, fun _ _ => hempty⟩
    simp only [List.length_tail]
    omega
  | @main o k x hgoing =>
    subst hgoing
    have hkind : kind o = false := hmain.1
    refine ⟨hcounter, hroom, ⟨left, hleft, ?_⟩, hmain.2 x, fun _ _ => hwaits _ rfl⟩
    rw [made_append, made_of_not kind hkind, List.append_nil]
    exact hperm

/-- **Turns**: what any number of turns keeps. -/
theorem Runs.counted {pool pool' : Pool σ ε} {main main' : Main σ ε α}
    {l acc : List (Prog.Entry σ)} (h : Runs pool main l pool' main')
    (hc : Counted kind total pool main acc) : Counted kind total pool' main' (acc ++ l) := by
  induction h generalizing acc with
  | refl => simpa using hc
  | step hgoes _ ih =>
    rw [← List.append_assoc]
    exact ih (hgoes.counted hc)

/-- **Run**: the main program returns, and all calls have been made. -/
theorem run_counted {pick : (n : Nat) → Prog σ (Fin (n + 1))}
    (hpick : ∀ n, (pick n).Only (fun o => kind o = false)) {fuel : Nat} {pool : Pool σ ε}
    {main : Main σ ε α} {l : List (Prog.Entry σ)} {e : Ending α}
    (hc : Counted kind total pool main []) (hhung : e ≠ .hung)
    (h : Prog.Path (run pick fuel pool main) l e) :
    ∃ a, e = .returned a ∧ (made kind l).Perm total := by
  have hend := run_invariant (Counted kind total) ?_ (fun hinv hgoes => hgoes.counted hinv) hc h
  · rcases hend with hnever | ⟨pool', main', hinv, hends⟩
    · exact absurd hnever hhung
    · cases e with
      | hung => exact absurd rfl hhung
      | panicked => exact absurd hends hinv.not_panicked
      | returned a =>
        cases hends with
        | returned hgoing =>
          subst hgoing
          exact ⟨a, rfl, by simpa using hinv.all⟩
  · intro n i l' pool' main' acc hpath hinv
    have hnone := made_of_only kind (hpick n) hpath
    obtain ⟨hcounter, hroom, ⟨left, hleft, hperm⟩, hmain, hwaits⟩ := hinv
    exact ⟨hcounter, hroom, ⟨left, hleft, by simpa [hnone] using hperm⟩, hmain, hwaits⟩

/-- Routines that make these calls, each with a place in the counter and in the
    channel. -/
theorem counted_of_makes {routines : List (Prog σ (Option ε))} {calls : List (List σ.Op)}
    (hcalls : List.Forall₂ (Makes kind) routines calls) (htotal : calls.flatten = total)
    {k : Option ε → Prog σ α} (hk : ∀ e, (k e).Only (fun o => kind o = false)) :
    Counted kind total
      { routines := routines, counter := routines.length, capacity := routines.length }
      (.waiting k) [] where
  counter := rfl
  room := by
    have hle := List.countP_le_length (p := fun r => !leaving r) (l := routines)
    simpa using hle
  calls := ⟨calls, hcalls, by simp [htotal]⟩
  quiet := hk
  waits p hp := by cases hp

end counted

end Pool

end Calls
