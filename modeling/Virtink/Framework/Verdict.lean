import Mathlib.Data.List.Basic

/-! # Rule Lists in which the Last Match Decides

    A list of rules is applied to a request: the last rule that matches the
    request decides, and a request that no rule matches is not allowed. Of two
    lists one after the other, the second decides wherever it has a match
    (`last_append`).
-/

namespace Verdict

variable {ρ δ : Type} (hits : ρ → δ → Bool) (allow : ρ → Bool)

/-- What the last rule that matches says, if one does. -/
def last (l : List ρ) (d : δ) : Option Bool := (l.reverse.find? (hits · d)).map allow

/-- The request is allowed. -/
def allowed (l : List ρ) (d : δ) : Bool := (last hits allow l d).getD false

variable {hits allow} {l l' : List ρ} {d : δ} {r : ρ}

theorem last_append :
    last hits allow (l ++ l') d = (last hits allow l' d).or (last hits allow l d) := by
  unfold last
  rw [List.reverse_append, List.find?_append]
  cases (l'.reverse.find? (hits · d)) <;> rfl

/-- The verdict is that of a rule that matches. -/
theorem mem_of_last {a : Bool} (h : last hits allow l d = some a) :
    ∃ r ∈ l, hits r d = true ∧ allow r = a := by
  unfold last at h
  obtain ⟨r, hfind, hallow⟩ := Option.map_eq_some_iff.mp h
  have hhits : hits r d = true := by simpa using List.find?_some hfind
  exact ⟨r, List.mem_reverse.mp (List.mem_of_find?_eq_some hfind), hhits, hallow⟩

/-- Where all rules that match say the same, they decide. -/
theorem last_eq_some (hr : r ∈ l) (hhits : hits r d = true)
    (hsame : ∀ r' ∈ l, hits r' d = true → allow r' = allow r) :
    last hits allow l d = some (allow r) := by
  cases hlast : last hits allow l d with
  | none =>
    unfold last at hlast
    have hnone := List.find?_eq_none.mp (Option.map_eq_none_iff.mp hlast) r (List.mem_reverse.mpr hr)
    exact absurd hhits hnone
  | some a =>
    obtain ⟨r', hr', hhits', rfl⟩ := mem_of_last hlast
    rw [hsame r' hr' hhits']

/-- Rules that only forbid, put before others, change nothing. -/
theorem allowed_append_of_deny (h : ∀ r ∈ l, allow r = false) :
    allowed hits allow (l ++ l') d = allowed hits allow l' d := by
  unfold allowed
  rw [last_append]
  cases hlast : last hits allow l' d with
  | some a => rfl
  | none =>
    cases hfirst : last hits allow l d with
    | none => rfl
    | some a =>
      obtain ⟨r, hr, -, rfl⟩ := mem_of_last hfirst
      exact h r hr

end Verdict
