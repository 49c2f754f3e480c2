import Mathlib.Data.List.Nodup
import Mathlib.Data.List.Perm.Basic

/-! # Watched Stores

    A store of objects with keys, and the changes that are sent to those who
    watch it. A copy of the store that has applied the changes up to some
    point lags behind by the changes that are still under way: applied to the
    copy (`replay`) they give the store.

    Of interest are the keys of the *live* objects, those that satisfy some
    predicate. As long as none of the changes under way makes an object live,
    whatever is live in the store is live in every copy that lags behind it
    (`mem_live_of_replay`).
-/

namespace Watch

variable {α κ : Type}

/-- A change of one object. -/
inductive Change (α : Type) where
  | created (a : α)
  | updated (old new : α)
  | deleted (a : α)
  deriving DecidableEq, Repr

/-- The objects that a change shows. -/
def Change.objects : Change α → List α
  | .created a => [a]
  | .updated old new => [old, new]
  | .deleted a => [a]

/-- The object as it is now, or as it was last. -/
def Change.subject : Change α → α
  | .created a => a
  | .updated _ new => new
  | .deleted a => a

section
variable (key : α → κ)

/-! ### Keys and Live Objects -/

/-- No two objects have one key. -/
def Keyed (l : List α) : Prop := (l.map key).Nodup

/-- The keys of the live objects. -/
def live (p : α → Bool) (l : List α) : List κ := (l.filter p).map key

variable {key} {p : α → Bool} {l l' : List α} {a b : α} {k : κ}

theorem Keyed.eq (h : Keyed key l) (ha : a ∈ l) (hb : b ∈ l) (hkey : key a = key b) : a = b :=
  List.inj_on_of_nodup_map h ha hb hkey

theorem mem_live : k ∈ live key p l ↔ ∃ a ∈ l, p a = true ∧ key a = k := by
  simp [live, and_assoc]

theorem Keyed.nodup_live (h : Keyed key l) : (live key p l).Nodup :=
  h.sublist ((List.filter_sublist).map key)

/-- Stores with the same live objects have equally many. -/
theorem live_perm (h : Keyed key l) (h' : Keyed key l')
    (hsame : ∀ k, k ∈ live key p l ↔ k ∈ live key p l') : (live key p l).Perm (live key p l') :=
  (List.perm_ext_iff_of_nodup h.nodup_live h'.nodup_live).mpr hsame

/-- A store that lacks just one of the live objects has one less. -/
theorem live_length_of_removed (h : Keyed key l) (h' : Keyed key l') (hk : k ∈ live key p l)
    (hmem : ∀ j, j ∈ live key p l' ↔ j ∈ live key p l ∧ j ≠ k) :
    (live key p l).length = (live key p l').length + 1 := by
  have hnodup : (k :: live key p l').Nodup :=
    List.nodup_cons.mpr ⟨fun hin => ((hmem k).mp hin).2 rfl, h'.nodup_live⟩
  have hperm : (live key p l).Perm (k :: live key p l') := by
    refine (List.perm_ext_iff_of_nodup h.nodup_live hnodup).mpr fun j => ?_
    rw [List.mem_cons, hmem]
    by_cases hj : j = k
    · subst hj; simp [hk]
    · simp [hj]
  exact hperm.length_eq

end

section
variable [DecidableEq κ] (key : α → κ)

/-! ### Changes -/

/-- The objects after a change. -/
def apply (l : List α) : Change α → List α
  | .created a => l ++ [a]
  | .updated _ new => l.map fun a => if key a = key new then new else a
  | .deleted a => l.filter fun b => decide (key b ≠ key a)

/-- The objects after a list of changes. -/
def replay (l : List α) (q : List (Change α)) : List α := q.foldl (apply key) l

/-- The change is one of a store that holds `l`. -/
def Fits (l : List α) : Change α → Prop
  | .created a => ∀ b ∈ l, key b ≠ key a
  | .updated old new => old ∈ l ∧ key old = key new
  | .deleted a => a ∈ l

/-- The changes are those of a store that holds `l`, one after the other. -/
def FitsAll : List α → List (Change α) → Prop
  | _, [] => True
  | l, c :: q => Fits key l c ∧ FitsAll (apply key l c) q

variable {key} {p : α → Bool} {l : List α} {q q' : List (Change α)} {c : Change α} {a b : α}
  {k : κ}

theorem replay_append : replay key l (q ++ q') = replay key (replay key l q) q' :=
  List.foldl_append

theorem replay_cons : replay key l (c :: q) = replay key (apply key l c) q := rfl

theorem fitsAll_append :
    FitsAll key l (q ++ q') ↔ FitsAll key l q ∧ FitsAll key (replay key l q) q' := by
  induction q generalizing l with
  | nil => simp [FitsAll, replay]
  | cons c q ih =>
    simp only [List.cons_append, FitsAll, ih, replay_cons]
    tauto

/-! ### Objects After a Change -/

theorem mem_apply_created : b ∈ apply key l (.created a) ↔ b ∈ l ∨ b = a := by
  simp [apply]

theorem mem_apply_updated {old new : α} (h : Fits key l (.updated old new)) :
    b ∈ apply key l (.updated old new) ↔ b ∈ l ∧ key b ≠ key new ∨ b = new := by
  simp only [apply, List.mem_map]
  constructor
  · rintro ⟨x, hx, rfl⟩
    by_cases hkey : key x = key new
    · right; simp [hkey]
    · left; simp [hkey, hx]
  · rintro (⟨hb, hne⟩ | rfl)
    · exact ⟨b, hb, by simp [hne]⟩
    · exact ⟨old, h.1, by simp [h.2]⟩

theorem mem_apply_deleted : b ∈ apply key l (.deleted a) ↔ b ∈ l ∧ key b ≠ key a := by
  simp [apply]

/-- Changes bring in only objects that they show. -/
theorem mem_of_mem_apply (h : b ∈ apply key l c) : b ∈ l ∨ b ∈ c.objects := by
  cases c with
  | created a =>
    have := mem_apply_created.mp h
    simpa [Change.objects] using this
  | updated old new =>
    obtain ⟨x, hx, rfl⟩ := List.mem_map.mp h
    by_cases hkey : key x = key new
    · right; simp [Change.objects, hkey]
    · left; simpa [hkey] using hx
  | deleted a => exact Or.inl (mem_apply_deleted.mp h).1

theorem mem_of_mem_replay (h : b ∈ replay key l q) : b ∈ l ∨ ∃ c ∈ q, b ∈ c.objects := by
  induction q generalizing l with
  | nil => exact Or.inl h
  | cons c q ih =>
    rcases ih h with hb | ⟨c', hc', hb⟩
    · rcases mem_of_mem_apply hb with hb | hb
      · exact Or.inl hb
      · exact Or.inr ⟨c, List.mem_cons_self .., hb⟩
    · exact Or.inr ⟨c', List.mem_cons_of_mem _ hc', hb⟩

/-- A change that fits keeps the keys apart. -/
theorem Keyed.apply (h : Keyed key l) (hfits : Fits key l c) : Keyed key (apply key l c) := by
  cases c with
  | created a =>
    have hnew : ∀ k ∈ l.map key, k ≠ key a := by
      intro k hk
      obtain ⟨b, hb, rfl⟩ := List.mem_map.mp hk
      exact hfits b hb
    rw [Keyed, Watch.apply, List.map_append, List.nodup_append]
    exact ⟨h, by simp, by simpa using hnew⟩
  | updated old new =>
    -- an object is replaced by one with the same key
    have hkeys : (Watch.apply key l (.updated old new)).map key = l.map key := by
      rw [Watch.apply, List.map_map]
      refine List.map_congr_left fun b _ => ?_
      by_cases hkey : key b = key new <;> simp [hkey]
    rw [Keyed, hkeys]
    exact h
  | deleted a => exact h.sublist ((List.filter_sublist).map key)

theorem Keyed.replay (h : Keyed key l) (hfits : FitsAll key l q) : Keyed key (replay key l q) := by
  induction q generalizing l with
  | nil => exact h
  | cons c q ih => exact ih (h.apply hfits.1) hfits.2

/-- Telling the watchers of an object once more changes nothing. -/
theorem apply_updated_self (h : Keyed key l) (ha : a ∈ l) :
    apply key l (.updated a a) = l := by
  have hsame : ∀ b ∈ l, (if key b = key a then a else b) = b := by
    intro b hb
    by_cases hkey : key b = key a
    · simp [h.eq hb ha hkey]
    · simp [hkey]
  exact (List.map_congr_left hsame).trans (List.map_id' l)

/-! ### Live Objects After a Change -/

theorem mem_live_created :
    k ∈ live key p (apply key l (.created a)) ↔ k ∈ live key p l ∨ p a = true ∧ key a = k := by
  simp only [mem_live, mem_apply_created]
  constructor
  · rintro ⟨b, hb | rfl, hpb, hkey⟩
    · exact Or.inl ⟨b, hb, hpb, hkey⟩
    · exact Or.inr ⟨hpb, hkey⟩
  · rintro (⟨b, hb, hpb, hkey⟩ | ⟨hpa, hkey⟩)
    · exact ⟨b, Or.inl hb, hpb, hkey⟩
    · exact ⟨a, Or.inr rfl, hpa, hkey⟩

theorem mem_live_updated {old new : α} (h : Fits key l (.updated old new)) :
    k ∈ live key p (apply key l (.updated old new)) ↔
      k ∈ live key p l ∧ k ≠ key new ∨ p new = true ∧ key new = k := by
  simp only [mem_live, mem_apply_updated h]
  constructor
  · rintro ⟨b, ⟨hb, hne⟩ | rfl, hpb, rfl⟩
    · exact Or.inl ⟨⟨b, hb, hpb, rfl⟩, hne⟩
    · exact Or.inr ⟨hpb, rfl⟩
  · rintro (⟨⟨b, hb, hpb, rfl⟩, hne⟩ | ⟨hpn, hkey⟩)
    · exact ⟨b, Or.inl ⟨hb, hne⟩, hpb, rfl⟩
    · exact ⟨new, Or.inr rfl, hpn, hkey⟩

theorem mem_live_deleted :
    k ∈ live key p (apply key l (.deleted a)) ↔ k ∈ live key p l ∧ k ≠ key a := by
  simp only [mem_live, mem_apply_deleted]
  constructor
  · rintro ⟨b, ⟨hb, hne⟩, hpb, rfl⟩
    exact ⟨⟨b, hb, hpb, rfl⟩, hne⟩
  · rintro ⟨⟨b, hb, hpb, rfl⟩, hne⟩
    exact ⟨b, ⟨hb, hne⟩, hpb, rfl⟩

/-- An update that leaves an object live or not leaves the live objects. -/
theorem mem_live_updated_same {old new : α} (h : Keyed key l) (hfits : Fits key l (.updated old new))
    (hsame : p new = p old) :
    k ∈ live key p (apply key l (.updated old new)) ↔ k ∈ live key p l := by
  rw [mem_live_updated hfits]
  have hnew : key new ∈ live key p l ↔ p old = true := by
    constructor
    · intro hmem
      obtain ⟨b, hb, hpb, hkey⟩ := mem_live.mp hmem
      rwa [← h.eq hb hfits.1 (hkey.trans hfits.2.symm)]
    · exact fun hp => mem_live.mpr ⟨old, hfits.1, hp, hfits.2⟩
  by_cases hk : key new = k
  · subst hk; simp [hnew, hsame]
  · have hne : k ≠ key new := fun he => hk he.symm
    simp [hk, hne]

/-- Removing an object that is not live leaves the live objects. -/
theorem mem_live_deleted_same (h : Keyed key l) (ha : a ∈ l) (hdead : p a = false) :
    k ∈ live key p (apply key l (.deleted a)) ↔ k ∈ live key p l := by
  rw [mem_live_deleted, and_iff_left_iff_imp]
  rintro hk rfl
  obtain ⟨b, hb, hpb, hkey⟩ := mem_live.mp hk
  rw [h.eq hb ha hkey, hdead] at hpb
  cases hpb

/-! ### Lagging Copies -/

/-- The change makes an object live. -/
def raises (p : α → Bool) : Change α → Bool
  | .created a => p a
  | .updated old new => p new && !p old
  | .deleted _ => false

theorem mem_live_of_apply (hfits : Fits key l c) (hquiet : raises p c = false)
    (h : k ∈ live key p (apply key l c)) : k ∈ live key p l := by
  cases c with
  | created a =>
    rcases mem_live_created.mp h with h | ⟨hp, _⟩
    · exact h
    · rw [show p a = false from hquiet] at hp
      cases hp
  | updated old new =>
    rcases (mem_live_updated hfits).mp h with h | ⟨hp, hkey⟩
    · exact h.1
    · have hold : p old = true := by simpa [raises, hp] using hquiet
      exact mem_live.mpr ⟨old, hfits.1, hold, hfits.2.trans hkey⟩
  | deleted a => exact (mem_live_deleted.mp h).1

/-- What is live after changes that make nothing live was live before. -/
theorem mem_live_of_replay (hfits : FitsAll key l q) (hquiet : ∀ c ∈ q, raises p c = false)
    (h : k ∈ live key p (replay key l q)) : k ∈ live key p l := by
  induction q generalizing l with
  | nil => exact h
  | cons c q ih =>
    have hq : ∀ c' ∈ q, raises p c' = false := fun c' hc' => hquiet c' (List.mem_cons_of_mem _ hc')
    exact mem_live_of_apply hfits.1 (hquiet c (List.mem_cons_self ..)) (ih hfits.2 hq h)

end

end Watch
