import Mathlib.Data.List.Basic

/-! # Loops that Collect or Fail

    A loop over a list in which every pass contributes a value or fails with an
    error; the first error ends the loop, and the contributions are appended in
    order. What a finished loop has collected is read off field by field: if
    every pass contributes `h a` to a list-valued field, the loop has collected
    the concatenation of all `h a` there (`collect_field`).
-/

namespace Loop

variable {ε α β γ : Type}

/-- A sequence of two computations ends without an error iff both do. -/
theorem bind_eq_ok {x : Except ε α} {f : α → Except ε β} {b : β} :
    x >>= f = .ok b ↔ ∃ a, x = .ok a ∧ f a = .ok b := by
  cases x with
  | error e => simp [bind, Except.bind]
  | ok a => simp [bind, Except.bind]

/-- The loop. -/
def collect (zero : β) (append : β → β → β) (f : α → Except ε β) : List α → Except ε β
  | [] => .ok zero
  | a :: l =>
      match f a with
      | .error e => .error e
      | .ok b =>
          match collect zero append f l with
          | .error e => .error e
          | .ok r => .ok (append b r)

section rules
variable {zero : β} {append : β → β → β} {f : α → Except ε β}

/-- A loop that goes on has come through its first pass. -/
theorem collect_cons_ok {a : α} {l : List α} {r : β}
    (h : collect zero append f (a :: l) = .ok r) :
    ∃ b r', f a = .ok b ∧ collect zero append f l = .ok r' ∧ r = append b r' := by
  simp only [collect] at h
  split at h
  · cases h
  · next b hb =>
    split at h
    · cases h
    · next r' hr' => cases h; exact ⟨b, r', hb, hr', rfl⟩

/-- A loop ends without an error iff every pass does. -/
theorem collect_ok_iff {l : List α} :
    (∃ r, collect zero append f l = .ok r) ↔ ∀ a ∈ l, ∃ b, f a = .ok b := by
  induction l with
  | nil => simp [collect]
  | cons a l ih =>
    constructor
    · rintro ⟨r, h⟩
      obtain ⟨b, r', hb, hr', -⟩ := collect_cons_ok h
      intro a' ha'
      rcases List.mem_cons.mp ha' with rfl | ha'
      · exact ⟨b, hb⟩
      · exact ih.mp ⟨r', hr'⟩ a' ha'
    · intro h
      obtain ⟨b, hb⟩ := h a List.mem_cons_self
      obtain ⟨r, hr⟩ := ih.mpr (fun a' ha' => h a' (List.mem_cons_of_mem _ ha'))
      exact ⟨append b r, by simp [collect, hb, hr]⟩

/-- **Field rule**: what a finished loop has collected in a list-valued field. -/
theorem collect_field {g : β → List γ} {h : α → List γ} (hzero : g zero = [])
    (happend : ∀ b c, g (append b c) = g b ++ g c) {l : List α} {r : β}
    (hpass : ∀ a ∈ l, ∀ b, f a = .ok b → g b = h a) (hloop : collect zero append f l = .ok r) :
    g r = l.flatMap h := by
  induction l generalizing r with
  | nil => cases hloop; simp [hzero]
  | cons a l ih =>
    obtain ⟨b, r', hb, hr', rfl⟩ := collect_cons_ok hloop
    have hrest := ih (fun a' ha' => hpass a' (List.mem_cons_of_mem _ ha')) hr'
    rw [happend, hpass a List.mem_cons_self b hb, hrest, List.flatMap_cons]

/-- What a pass contributes is among what the loop has collected. -/
theorem collect_mem {g : β → List γ} (happend : ∀ b c, g (append b c) = g b ++ g c)
    {l : List α} {r : β} (hloop : collect zero append f l = .ok r) {a : α} (ha : a ∈ l) :
    ∃ b, f a = .ok b ∧ ∀ x ∈ g b, x ∈ g r := by
  induction l generalizing r with
  | nil => cases ha
  | cons a' l ih =>
    obtain ⟨b', r', hb', hr', rfl⟩ := collect_cons_ok hloop
    rcases List.mem_cons.mp ha with rfl | ha
    · exact ⟨b', hb', fun x hx => by simp [happend, hx]⟩
    · obtain ⟨b, hb, hmem⟩ := ih hr' ha
      exact ⟨b, hb, fun x hx => by simp [happend, hmem x hx]⟩

/-- Whatever the loop has collected some pass has contributed. -/
theorem mem_collect {g : β → List γ} (hzero : g zero = [])
    (happend : ∀ b c, g (append b c) = g b ++ g c) {l : List α} {r : β}
    (hloop : collect zero append f l = .ok r) {x : γ} (hx : x ∈ g r) :
    ∃ a ∈ l, ∃ b, f a = .ok b ∧ x ∈ g b := by
  induction l generalizing r with
  | nil => cases hloop; simp [hzero] at hx
  | cons a l ih =>
    obtain ⟨b, r', hb, hr', rfl⟩ := collect_cons_ok hloop
    rw [happend] at hx
    rcases List.mem_append.mp hx with hx | hx
    · exact ⟨a, List.mem_cons_self, b, hb, hx⟩
    · obtain ⟨a', ha', b', hb', hx'⟩ := ih hr' hx
      exact ⟨a', List.mem_cons_of_mem _ ha', b', hb', hx'⟩

/-- Passes of which some contribute one value and the others nothing. -/
theorem flatMap_ite (p : α → Bool) (h : α → γ) (l : List α) :
    (l.flatMap fun a => if p a then [h a] else []) = (l.filter p).map h := by
  induction l with
  | nil => rfl
  | cons a l ih =>
    by_cases hp : p a = true
    · simp [hp, ih]
    · simp [hp, ih]

/-- Passes that contribute the same value or nothing. -/
theorem flatMap_ite_const (p : α → Bool) (c : γ) (l : List α) :
    (l.flatMap fun a => if p a then [c] else []) = List.replicate (l.countP p) c := by
  rw [flatMap_ite p (fun _ => c), List.map_const', List.countP_eq_length_filter]

end rules

end Loop
