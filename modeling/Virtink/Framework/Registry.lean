import Mathlib.Logic.Function.Basic

/-! # Registers of Handles

    Handles are opened for a key and have to be closed at some time. Who opens
    one keeps it in the entry of its key, in a register: an entry is a value
    that holds some handles. Nothing leaks as long as every handle is closed
    or held, and no entry is replaced that holds the last trace of an open
    handle.

    The handles that went that way are collected in `lost`, which no operation
    reads.
-/

/-- A register of handles `H`, with an entry `E` for each key `K`. -/
structure Registry (K E H : Type) where
  entries : K → E
  opened  : List (K × H) := []
  closed  : List H := []
  /-- Handles that were dropped from an entry and not closed before. -/
  lost    : List H := []

namespace Registry

variable {K E H : Type} {holds : E → List H}
  {r : Registry K E H} {k : K} {h : H} {e : E}

/-! ### Opening and Closing -/

/-- A handle is opened for the key `k`. -/
def grant (r : Registry K E H) (k : K) (h : H) : Registry K E H :=
  { r with opened := (k, h) :: r.opened }

/-- A handle is closed. -/
def close (r : Registry K E H) (h : H) : Registry K E H :=
  { r with closed := h :: r.closed }

/-- The handle is in nobody's hands yet. -/
def Fresh (r : Registry K E H) (h : H) : Prop := ∀ k, (k, h) ∉ r.opened

/-- Every handle is closed or held by the entry of its key, and none was
    dropped before it was closed. -/
structure NoLeak (holds : E → List H) (r : Registry K E H) : Prop where
  kept : ∀ x ∈ r.opened, x.2 ∈ r.closed ∨ x.2 ∈ holds (r.entries x.1)
  none_lost : r.lost = []

/-- What is held or closed was opened. -/
structure Sound (holds : E → List H) (r : Registry K E H) : Prop where
  opened_of_held : ∀ k, ∀ h ∈ holds (r.entries k), (k, h) ∈ r.opened
  opened_of_closed : ∀ h ∈ r.closed, ∃ k, (k, h) ∈ r.opened

instance [DecidableEq H] (holds : E → List H) (r : Registry K E H) :
    Decidable (NoLeak holds r) :=
  decidable_of_iff
    ((∀ x ∈ r.opened, x.2 ∈ r.closed ∨ x.2 ∈ holds (r.entries x.1)) ∧ r.lost = [])
    ⟨fun h => ⟨h.1, h.2⟩, fun h => ⟨h.kept, h.none_lost⟩⟩

theorem Fresh.not_held (hsound : Sound holds r) (hfresh : r.Fresh h) :
    h ∉ holds (r.entries k) :=
  fun hh => hfresh k (hsound.opened_of_held k h hh)

theorem Fresh.not_closed (hsound : Sound holds r) (hfresh : r.Fresh h) : h ∉ r.closed := by
  intro hh
  obtain ⟨k, hk⟩ := hsound.opened_of_closed h hh
  exact hfresh k hk

theorem Sound.grant (hsound : Sound holds r) : Sound holds (r.grant k h) := by
  refine ⟨fun k' h' hh => ?_, fun h' hh => ?_⟩
  · exact List.mem_cons_of_mem _ (hsound.opened_of_held k' h' hh)
  · obtain ⟨k', hk⟩ := hsound.opened_of_closed h' hh
    exact ⟨k', List.mem_cons_of_mem _ hk⟩

theorem Sound.close (hsound : Sound holds r) (hheld : h ∈ holds (r.entries k)) :
    Sound holds (r.close h) := by
  refine ⟨hsound.opened_of_held, fun h' hh => ?_⟩
  rcases List.mem_cons.mp hh with rfl | hh
  · exact ⟨k, hsound.opened_of_held k h' hheld⟩
  · exact hsound.opened_of_closed h' hh

/-- Closing a handle leaks nothing. -/
theorem NoLeak.close (hno : NoLeak holds r) : NoLeak holds (r.close h) := by
  refine ⟨fun x hx => ?_, hno.none_lost⟩
  exact (hno.kept x hx).imp_left (List.mem_cons_of_mem _)

/-- A handle that was opened and is held nowhere is a leak. -/
theorem leak_of_grant (hsound : Sound holds r) (hfresh : r.Fresh h) :
    ¬ NoLeak holds (r.grant k h) := by
  intro hno
  rcases hno.kept (k, h) (List.mem_cons_self ..) with hclosed | hheld
  · exact hfresh.not_closed hsound hclosed
  · exact hfresh.not_held hsound hheld

/-! ### Replacing an Entry -/

variable [DecidableEq K] [DecidableEq H]

/-- The entry of `k` is replaced. -/
def put (holds : E → List H) (r : Registry K E H) (k : K) (e : E) : Registry K E H :=
  { r with
    entries := Function.update r.entries k e
    lost := (holds (r.entries k)).filter (fun h => h ∉ r.closed ∧ h ∉ holds e) ++ r.lost }

@[simp] theorem put_entries_self : (put holds r k e).entries k = e := Function.update_self ..

/-- Writing an entry back changes nothing. -/
theorem put_self : put holds r k (r.entries k) = r := by
  have hnone : (holds (r.entries k)).filter
      (fun h => h ∉ r.closed ∧ h ∉ holds (r.entries k)) = [] := by
    rw [List.filter_eq_nil_iff]
    intro h hh
    simp [hh]
  rw [put, hnone, Function.update_eq_self, List.nil_append]

theorem Sound.put (hsound : Sound holds r) (he : ∀ h ∈ holds e, (k, h) ∈ r.opened) :
    Sound holds (put holds r k e) := by
  refine ⟨fun k' h' hh => ?_, hsound.opened_of_closed⟩
  by_cases hk : k' = k
  · subst hk
    rw [put_entries_self] at hh
    exact he h' hh
  · have hsame : (Registry.put holds r k e).entries k' = r.entries k' :=
      Function.update_of_ne hk ..
    rw [hsame] at hh
    exact hsound.opened_of_held k' h' hh

/-- What is lost when an entry is replaced. -/
theorem put_lost_eq_nil : (put holds r k e).lost = [] ↔
    (∀ h ∈ holds (r.entries k), h ∈ r.closed ∨ h ∈ holds e) ∧ r.lost = [] := by
  show _ ++ r.lost = [] ↔ _
  rw [List.append_eq_nil_iff, List.filter_eq_nil_iff]
  simp only [decide_eq_true_eq, not_and, Classical.not_not, or_iff_not_imp_left]

/-- An entry may be replaced once all it holds is closed or held by the new
    one, where nothing leaks but the handles of the new entry. -/
theorem noLeak_put_iff (hlost : r.lost = [])
    (hkept : ∀ x ∈ r.opened, x.2 ∈ r.closed ∨ x.2 ∈ holds (r.entries x.1) ∨
      (x.1 = k ∧ x.2 ∈ holds e)) :
    NoLeak holds (put holds r k e) ↔
      ∀ h ∈ holds (r.entries k), h ∈ r.closed ∨ h ∈ holds e := by
  refine ⟨fun hno => (put_lost_eq_nil.mp hno.none_lost).1, fun hall => ?_⟩
  refine ⟨fun x hx => ?_, put_lost_eq_nil.mpr ⟨hall, hlost⟩⟩
  show x.2 ∈ r.closed ∨ x.2 ∈ holds (Function.update r.entries k e x.1)
  -- only the entry of `k` is another one
  by_cases hk : x.1 = k
  · rw [hk, Function.update_self]
    rcases hkept x hx with hclosed | hheld | ⟨-, hnew⟩
    · exact .inl hclosed
    · exact hall x.2 (hk ▸ hheld)
    · exact .inr hnew
  · rw [Function.update_of_ne hk]
    rcases hkept x hx with hclosed | hheld | ⟨hk', -⟩
    · exact .inl hclosed
    · exact .inr hheld
    · exact absurd hk' hk

theorem NoLeak.put_iff (hno : NoLeak holds r) : NoLeak holds (put holds r k e) ↔
    ∀ h ∈ holds (r.entries k), h ∈ r.closed ∨ h ∈ holds e :=
  noLeak_put_iff hno.none_lost fun x hx => (hno.kept x hx).imp_right .inl

/-- A new handle goes into the entry of its key. -/
theorem NoLeak.grant_put_iff (hno : NoLeak holds r) (hnew : h ∈ holds e) :
    NoLeak holds (put holds (r.grant k h) k e) ↔
      ∀ h ∈ holds (r.entries k), h ∈ r.closed ∨ h ∈ holds e := by
  refine noLeak_put_iff hno.none_lost fun x hx => ?_
  rcases List.mem_cons.mp hx with rfl | hx
  · exact .inr (.inr ⟨rfl, hnew⟩)
  · exact (hno.kept x hx).imp_right .inl

/-- An entry that is emptied, written back and emptied again. -/
theorem NoLeak.put_put_put_iff {e₀ : E} (hno : NoLeak holds r) (hempty : holds e₀ = []) :
    NoLeak holds (put holds (put holds (put holds r k e₀) k (r.entries k)) k e₀) ↔
      ∀ h ∈ holds (r.entries k), h ∈ r.closed := by
  constructor
  · intro hno' h hh
    -- what was lost the first time stays lost
    have hlost := (put_lost_eq_nil.mp (put_lost_eq_nil.mp hno'.none_lost).2).2
    rcases (put_lost_eq_nil.mp hlost).1 h hh with hclosed | hheld
    · exact hclosed
    · rw [hempty] at hheld
      cases hheld
  · intro hall
    have hone : NoLeak holds (put holds r k e₀) :=
      hno.put_iff.mpr fun h hh => .inl (hall h hh)
    have htwo : NoLeak holds (put holds (put holds r k e₀) k (r.entries k)) := by
      refine hone.put_iff.mpr fun h hh => ?_
      rw [put_entries_self, hempty] at hh
      cases hh
    refine htwo.put_iff.mpr fun h hh => .inl ?_
    rw [put_entries_self] at hh
    exact hall h hh

end Registry
