import Virtink.Framework.Machine

/-! # Expectations

    What the replica set controller expects to see in the watch before it
    acts again: how many creations, how many deletions, and the keys of the
    VMs whose deletion it waits for. Entries are kept per replica set.

    That expectations expire after some minutes is left out; without it an
    entry is fulfilled only by being lowered.
-/

namespace Virtink

open Calls

/-- `ControlleeExpectations`: the two counters. -/
structure Expected where
  add : Int
  del : Int
  deriving DecidableEq, Repr

/-- `Fulfilled`. -/
def Expected.fulfilled (e : Expected) : Bool := decide (e.add ≤ 0) && decide (e.del ≤ 0)

/-- `UIDTrackingControllerExpectations`: the counters and the keys of expected
    deletions, by the key of the replica set. -/
structure Expectations where
  entries : String → Option Expected := fun _ => none
  uids    : String → List String := fun _ => []

namespace Expectations

variable (e : Expectations) (rc : String)

/-- `SatisfiedExpectations`. -/
def satisfied : Bool :=
  match e.entries rc with
  | some x => x.fulfilled
  | none => true

/-- `SetExpectations`. -/
def setExpectations (add del : Int) : Expectations :=
  { e with entries := setAt e.entries rc (some ⟨add, del⟩) }

/-- `LowerExpectations`. -/
def lower (add del : Int) : Expectations :=
  match e.entries rc with
  | some x => { e with entries := setAt e.entries rc (some ⟨x.add - add, x.del - del⟩) }
  | none => e

/-- `ExpectCreations`; the keys of expected deletions stay. -/
def expectCreations (adds : Nat) : Expectations := e.setExpectations rc adds 0

/-- `ExpectDeletions`: the keys form a set. -/
def expectDeletions (keys : List String) : Expectations :=
  { e.setExpectations rc 0 keys.eraseDups.length with uids := setAt e.uids rc keys.eraseDups }

/-- `CreationObserved`. -/
def creationObserved : Expectations := e.lower rc 1 0

/-- `DeletionObserved`: a key counts once. -/
def deletionObserved (key : String) : Expectations :=
  if (e.uids rc).contains key then
    { e.lower rc 0 1 with uids := setAt e.uids rc ((e.uids rc).erase key) }
  else e

/-- `DeleteExpectations`. -/
def delete : Expectations where
  entries := setAt e.entries rc none
  uids := setAt e.uids rc []

/-! ### What Is Still Expected -/

/-- The creations that are still expected. -/
def adds : Int := ((e.entries rc).map (·.add)).getD 0

/-- The deletions that are still expected. -/
def dels : Int := ((e.entries rc).map (·.del)).getD 0

/-- Both hold the same for one replica set. -/
def SameAt (e' : Expectations) : Prop := e'.entries rc = e.entries rc ∧ e'.uids rc = e.uids rc

variable {e rc} {e' : Expectations} {rc' key : String}

theorem satisfied_iff : e.satisfied rc = true ↔ e.adds rc ≤ 0 ∧ e.dels rc ≤ 0 := by
  cases h : e.entries rc <;> simp [satisfied, adds, dels, Expected.fulfilled, h]

theorem SameAt.adds_eq (h : e.SameAt rc e') : e'.adds rc = e.adds rc := by
  simp [adds, h.1]

theorem SameAt.dels_eq (h : e.SameAt rc e') : e'.dels rc = e.dels rc := by
  simp [dels, h.1]

theorem sameAt_lower (h : rc ≠ rc') (add del : Int) : e.SameAt rc (e.lower rc' add del) := by
  simp only [SameAt, lower]
  split <;> simp [h]

theorem sameAt_creationObserved (h : rc ≠ rc') : e.SameAt rc (e.creationObserved rc') :=
  sameAt_lower h 1 0

theorem sameAt_deletionObserved (h : rc ≠ rc') : e.SameAt rc (e.deletionObserved rc' key) := by
  simp only [deletionObserved]
  split
  · exact ⟨(sameAt_lower h 0 1).1, by simp [h]⟩
  · exact ⟨rfl, rfl⟩

@[simp] theorem uids_lower (add del : Int) : (e.lower rc add del).uids = e.uids := by
  simp only [lower]
  split <;> rfl

/-- A creation that is observed lowers the count by one, if there is a count. -/
theorem adds_creationObserved :
    e.adds rc - 1 ≤ (e.creationObserved rc).adds rc ∧
      (e.creationObserved rc).adds rc ≤ e.adds rc := by
  cases h : e.entries rc with
  | none => simp [creationObserved, lower, adds, h]
  | some x =>
    simp only [creationObserved, lower, adds, h, setAt_self, Option.map_some, Option.getD_some]
    omega

theorem dels_creationObserved : (e.creationObserved rc).dels rc = e.dels rc := by
  cases h : e.entries rc <;> simp [creationObserved, lower, dels, h]

theorem uids_creationObserved : (e.creationObserved rc).uids rc = e.uids rc := by
  simp [creationObserved]

theorem adds_deletionObserved : (e.deletionObserved rc key).adds rc = e.adds rc := by
  simp only [deletionObserved]
  split
  · cases h : e.entries rc <;> simp [lower, adds, h]
  · rfl

theorem uids_deletionObserved : (e.deletionObserved rc key).uids rc = (e.uids rc).erase key := by
  simp only [deletionObserved]
  split
  · simp
  · next h => exact (List.erase_of_not_mem (by simpa using h)).symm

/-- A key that is observed is one deletion less in both records. -/
theorem length_uids_deletionObserved (h : ((e.uids rc).length : Int) ≤ e.dels rc) :
    (((e.deletionObserved rc key).uids rc).length : Int) ≤ (e.deletionObserved rc key).dels rc := by
  rw [uids_deletionObserved]
  by_cases hkey : key ∈ e.uids rc
  · have hlength := List.length_erase_of_mem hkey
    have hpos := List.length_pos_of_mem hkey
    cases hentry : e.entries rc with
    | none =>
      have hzero : e.dels rc = 0 := by simp [dels, hentry]
      omega
    | some x =>
      have hdels : (e.deletionObserved rc key).dels rc = e.dels rc - 1 := by
        simp [deletionObserved, hkey, lower, dels, hentry]
      omega
  · rw [List.erase_of_not_mem hkey]
    simpa [deletionObserved, hkey] using h

theorem adds_expectCreations (adds : Nat) : (e.expectCreations rc adds).adds rc = adds := by
  simp [expectCreations, setExpectations, Expectations.adds]

theorem uids_expectCreations (adds : Nat) : (e.expectCreations rc adds).uids rc = e.uids rc := rfl

theorem dels_expectCreations (adds : Nat) : (e.expectCreations rc adds).dels rc = 0 := by
  simp [expectCreations, setExpectations, dels]

theorem adds_expectDeletions (keys : List String) : (e.expectDeletions rc keys).adds rc = 0 := by
  simp [expectDeletions, setExpectations, adds]

theorem dels_expectDeletions (keys : List String) :
    (e.expectDeletions rc keys).dels rc = keys.eraseDups.length := by
  simp [expectDeletions, setExpectations, dels]

theorem uids_expectDeletions (keys : List String) :
    (e.expectDeletions rc keys).uids rc = keys.eraseDups := by
  simp [expectDeletions]

end Expectations

end Virtink
