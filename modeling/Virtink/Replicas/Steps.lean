import Virtink.Replicas.Invariant

/-! # What the Calls of the Controller Keep

    Every call that the contract allows keeps the invariant, and moves the
    number of active VMs and what is announced together: a create that is made
    was announced before, and so was a delete.
-/

namespace Virtink

open Calls Contract Watch

namespace VMRSController

variable {setup : Setup} {seen : List VM} {w : Cluster} {x : String}

namespace Inv

/-! ### Looking -/

/-- A run begins or ends; what it has announced stays expected. -/
theorem enter (h : Inv setup seen w) : Inv setup seen { w with run := {} } where
  lag := h.lag.frame _ _
  counts := by
    refine ⟨?_, h.counts.dels, h.counts.excl, h.counts.gone, h.counts.brought⟩
    have hadds := h.counts.adds
    simp only [Cluster.changes] at hadds ⊢
    omega
  told := by constructor <;> simp

/-- The expectations are looked at. -/
theorem satisfied (h : Inv setup seen w) :
    Inv setup seen { w with run := { w.run with
      synced := w.expectations.satisfied setup.name, listed := none } } where
  lag := h.lag.frame _ _
  counts := ⟨h.counts.adds, h.counts.dels, h.counts.excl, h.counts.gone, h.counts.brought⟩
  told := by
    refine ⟨?_, ?_, ?_, h.told.deletes, h.told.failedDeletes, h.told.nodup⟩
    · intro hsatisfied
      obtain ⟨hadds, hdels⟩ := Expectations.satisfied_iff.mp hsatisfied
      have hlength := h.counts.dels
      have hzero : (w.expectations.uids setup.name).length = 0 := by omega
      exact ⟨hadds, List.length_eq_zero_iff.mp hzero⟩
    · intro _ vms hvms
      cases hvms
    · intro vms hvms
      cases hvms

end Inv

/-- The index finds all active VMs of the set. -/
theorem names_listed (setup : Setup) (vms : List VM) :
    setup.names (listed setup.uid vms) = setup.names vms := by
  simp only [Setup.names, live, listed, List.filter_filter]
  congr 1
  refine List.filter_congr fun vm _ => ?_
  show (setup.active vm && setup.owns vm) = setup.active vm
  cases hown : setup.owns vm <;> simp [Setup.active, Setup.member, hown]

namespace Inv

/-- **Listing**: after satisfied expectations the active VMs of the cache are
    those of the store. -/
theorem list (h : Inv setup seen w) {vms : List VM}
    (hperm : vms.Perm (listed setup.uid w.cache)) :
    Inv setup seen { w with run := { w.run with listed := some vms } } where
  lag := h.lag.frame _ _
  counts := ⟨h.counts.adds, h.counts.dels, h.counts.excl, h.counts.gone, h.counts.brought⟩
  told := by
    refine ⟨h.told.synced, ?_, ?_, h.told.deletes, h.told.failedDeletes, h.told.nodup⟩
    · intro hsynced vms' hvms'
      cases hvms'
      obtain ⟨hadds, huids⟩ := h.told.synced hsynced
      have hnames : (setup.names vms).Perm (setup.names w.cache) := by
        rw [← names_listed setup w.cache]
        exact (hperm.filter _).map _
      exact hnames.trans (h.names_cache hadds huids)
    · intro vms' hvms' vm hvm
      cases hvms'
      exact h.lag.fineCache vm (List.mem_filter.mp (hperm.mem_iff.mp hvm)).1

/-! ### Announcing -/

/-- Creates are announced. -/
theorem expectCreations (h : Inv setup seen w) (hsynced : w.run.synced = true) (adds : Nat) :
    Inv setup seen { w with
      expectations := w.expectations.expectCreations setup.name adds
      run := { w.run with synced := false, creates := adds } } where
  lag := h.lag.frame _ _
  counts := by
    obtain ⟨hle, huids⟩ := h.told.synced hsynced
    refine ⟨?_, ?_, ?_, ?_, h.counts.brought⟩
    · have hadds := h.counts.adds
      simp only [Expectations.adds_expectCreations, Cluster.changes] at hadds ⊢
      omega
    · simp [Expectations.uids_expectCreations, Expectations.dels_expectCreations, huids]
    · simp [Expectations.uids_expectCreations, huids]
    · exact h.counts.gone
  told := by
    refine ⟨?_, ?_, h.told.fineListed, h.told.deletes, h.told.failedDeletes, h.told.nodup⟩
    · intro hfalse
      cases hfalse
    · intro hfalse
      cases hfalse

/-- Deletes are announced, of active VMs of the store. -/
theorem expectDeletions (h : Inv setup seen w) (hsynced : w.run.synced = true)
    (hfailed : w.run.failedDeletes = []) {keys : List String} (hnodup : keys.Nodup)
    (hkeys : ∀ x ∈ keys, x ∈ setup.names w.store) :
    Inv setup seen { w with
      expectations := w.expectations.expectDeletions setup.name keys
      run := { w.run with synced := false, deletes := keys } } where
  lag := h.lag.frame _ _
  counts := by
    obtain ⟨hle, huids⟩ := h.told.synced hsynced
    refine ⟨?_, ?_, ?_, ?_, h.counts.brought⟩
    · have hadds := h.counts.adds
      simp only [Expectations.adds_expectDeletions, Cluster.changes] at hadds ⊢
      omega
    · simp [Expectations.uids_expectDeletions, Expectations.dels_expectDeletions]
    · simp [Expectations.adds_expectDeletions]
    · intro y hy hnot
      have hmem := h.counts.gone y hy hnot
      rw [huids] at hmem
      cases hmem
  told := by
    refine ⟨?_, ?_, h.told.fineListed, ?_, h.told.failedDeletes, ?_⟩
    · intro hfalse
      cases hfalse
    · intro hfalse
      cases hfalse
    · intro y hy
      refine ⟨hkeys y hy, ?_⟩
      simpa [Expectations.uids_expectDeletions] using hy
    · simpa [hfailed] using hnodup

/-! ### Creating -/

/-- While creates are announced no deletion is expected, and the run is not
    synced any more. -/
theorem creating (h : Inv setup seen w) (hcreates : 0 < w.run.creates) :
    w.expectations.uids setup.name = [] ∧ w.run.synced = false := by
  have hpos : ¬ w.expectations.adds setup.name ≤ 0 := by
    have := h.counts.adds
    omega
  constructor
  · exact Decidable.byContradiction fun hne => hpos (h.counts.excl hne)
  · cases hsynced : w.run.synced with
    | false => rfl
    | true => exact absurd (h.told.synced hsynced).1 hpos

/-- **A create** that was announced. -/
theorem create (h : Inv setup seen w) (hcreates : 0 < w.run.creates) {vm : VM}
    (hfresh : ∀ vm' ∈ w.store, vm'.name ≠ vm.name) (hactive : setup.active vm = true)
    (hfine : setup.Fine vm) :
    Inv setup seen { w.write (.created vm) with
      run := { w.run with creates := w.run.creates - 1 } } where
  lag := by
    have hfits : Fits VM.name w.store (.created vm) := hfresh
    exact (h.lag.write hfits (by simpa [Change.objects] using hfine)).frame _ _
  counts := by
    have hbrings : setup.brings (.created vm) = true := by simp [Setup.brings, raises, hactive]
    refine ⟨?_, h.counts.dels, h.counts.excl, ?_, ?_⟩
    · have hadds := h.counts.adds
      show (((w.write (.created vm)).changes.countP setup.brings + _ + _ : Nat) : Int) ≤
        w.expectations.adds setup.name
      rw [changes_write, List.countP_append, List.countP_singleton, hbrings]
      simp only [if_true]
      omega
    · intro y hy hnot
      exact h.counts.gone y hy fun hstore => hnot (mem_live_created.mpr (.inl hstore))
    · intro c hc hb
      have hc' : c ∈ w.changes ++ [.created vm] := changes_write w (.created vm) ▸ hc
      rcases List.mem_append.mp hc' with hc' | hc'
      · exact mem_live_created.mpr (.inl (h.counts.brought c hc' hb))
      · rw [List.mem_singleton.mp hc']
        exact mem_live_created.mpr (.inr ⟨hactive, rfl⟩)
  told := by
    obtain ⟨-, hsynced⟩ := h.creating hcreates
    refine ⟨h.told.synced, ?_, h.told.fineListed, ?_, ?_, h.told.nodup⟩
    · intro htrue
      rw [show w.run.synced = true from htrue] at hsynced
      cases hsynced
    · exact fun y hy => ⟨mem_live_created.mpr (.inl (h.told.deletes y hy).1), (h.told.deletes y hy).2⟩
    · exact fun y hy => mem_live_created.mpr (.inl (h.told.failedDeletes y hy))

/-- A create has failed; it is still counted. -/
theorem createFailed (h : Inv setup seen w) (hcreates : 0 < w.run.creates) :
    Inv setup seen { w with run := { w.run with
      creates := w.run.creates - 1, failedCreates := w.run.failedCreates + 1 } } where
  lag := h.lag.frame _ _
  counts := by
    refine ⟨?_, h.counts.dels, h.counts.excl, h.counts.gone, h.counts.brought⟩
    have hadds := h.counts.adds
    simp only [Cluster.changes] at hadds ⊢
    omega
  told := ⟨h.told.synced, h.told.listed, h.told.fineListed, h.told.deletes, h.told.failedDeletes,
    h.told.nodup⟩

/-- The create that has failed is taken back. -/
theorem createTakenBack (h : Inv setup seen w) (hfailed : 0 < w.run.failedCreates) :
    Inv setup seen { w with
      expectations := w.expectations.creationObserved setup.name
      run := { w.run with failedCreates := w.run.failedCreates - 1 } } := by
  have hless : Inv setup seen { w with
      run := { w.run with failedCreates := w.run.failedCreates - 1 } } := by
    refine ⟨h.lag.frame _ _, ⟨?_, h.counts.dels, h.counts.excl, h.counts.gone, h.counts.brought⟩,
      ⟨h.told.synced, h.told.listed, h.told.fineListed, h.told.deletes, h.told.failedDeletes,
        h.told.nodup⟩⟩
    have hadds := h.counts.adds
    simp only [Cluster.changes] at hadds ⊢
    omega
  refine hless.creationObserved ?_
  have hadds := h.counts.adds
  simp only [Cluster.changes] at hadds ⊢
  omega

/-! ### Deleting -/

/-- While a deletion is expected no VM is on its way into the set, and the run
    is not synced any more. -/
theorem deleting (h : Inv setup seen w) (hx : x ∈ w.expectations.uids setup.name) :
    (∀ c ∈ w.changes, setup.brings c = false) ∧ w.run.synced = false := by
  have hne := List.ne_nil_of_mem hx
  constructor
  · exact h.counts.quiet (h.counts.excl hne)
  · cases hsynced : w.run.synced with
    | false => rfl
    | true => exact absurd (h.told.synced hsynced).2 hne

/-- **A delete** that was announced: just this VM is no longer active. -/
theorem delete (h : Inv setup seen w) (hx : x ∈ w.run.deletes) {c : Change VM}
    (hfits : Fits VM.name w.store c) (hfine : ∀ vm ∈ c.objects, setup.Fine vm)
    (hquiet : setup.brings c = false)
    (hmem : ∀ y, y ∈ setup.names (apply VM.name w.store c) ↔ y ∈ setup.names w.store ∧ y ≠ x) :
    Inv setup seen { w.write c with run := { w.run with deletes := w.run.deletes.erase x } } where
  lag := (h.lag.write hfits hfine).frame _ _
  counts := by
    have huids := (h.told.deletes x hx).2
    refine ⟨?_, h.counts.dels, h.counts.excl, ?_, ?_⟩
    · show (((w.write c).changes.countP setup.brings + _ + _ : Nat) : Int) ≤
        w.expectations.adds setup.name
      rw [changes_write, List.countP_append, List.countP_singleton, hquiet]
      exact h.counts.adds
    · intro y hy hnot
      by_cases heq : y = x
      · exact heq ▸ huids
      · exact h.counts.gone y hy fun hstore => hnot ((hmem y).mpr ⟨hstore, heq⟩)
    · intro c' hc' hbrings
      have hc'' : c' ∈ w.changes ++ [c] := changes_write w c ▸ hc'
      rcases List.mem_append.mp hc'' with hc'' | hc''
      · rw [(h.deleting huids).1 c' hc''] at hbrings
        cases hbrings
      · rw [List.mem_singleton.mp hc'', hquiet] at hbrings
        cases hbrings
  told := by
    have huids := (h.told.deletes x hx).2
    obtain ⟨hdeletes, -, hdisjoint⟩ := List.nodup_append.mp h.told.nodup
    refine ⟨h.told.synced, ?_, h.told.fineListed, ?_, ?_, ?_⟩
    · intro htrue
      have hsynced := (h.deleting huids).2
      rw [show w.run.synced = true from htrue] at hsynced
      cases hsynced
    · intro y hy
      obtain ⟨hne, hy'⟩ := hdeletes.mem_erase_iff.mp hy
      exact ⟨(hmem y).mpr ⟨(h.told.deletes y hy').1, hne⟩, (h.told.deletes y hy').2⟩
    · intro y hy
      exact (hmem y).mpr ⟨h.told.failedDeletes y hy, (hdisjoint x hx y hy).symm⟩
    · exact h.told.nodup.sublist (List.erase_sublist.append (List.Sublist.refl _))

/-- A delete has failed; it is still expected. -/
theorem deleteFailed (h : Inv setup seen w) (hx : x ∈ w.run.deletes) :
    Inv setup seen { w with run := { w.run with
      deletes := w.run.deletes.erase x, failedDeletes := x :: w.run.failedDeletes } } where
  lag := h.lag.frame _ _
  counts := ⟨h.counts.adds, h.counts.dels, h.counts.excl, h.counts.gone, h.counts.brought⟩
  told := by
    refine ⟨h.told.synced, h.told.listed, h.told.fineListed, ?_, ?_, ?_⟩
    · exact fun y hy => h.told.deletes y (List.mem_of_mem_erase hy)
    · intro y hy
      rcases List.mem_cons.mp hy with rfl | hy
      · exact (h.told.deletes y hx).1
      · exact h.told.failedDeletes y hy
    · have hperm : (w.run.deletes ++ w.run.failedDeletes).Perm
          (w.run.deletes.erase x ++ x :: w.run.failedDeletes) := by
        have hcons := (List.perm_cons_erase hx).append_right w.run.failedDeletes
        exact hcons.trans List.perm_middle.symm
      exact hperm.nodup_iff.mp h.told.nodup

/-- The delete that has failed is taken back. -/
theorem deleteTakenBack (h : Inv setup seen w) (hx : x ∈ w.run.failedDeletes) :
    Inv setup seen { w with
      expectations := w.expectations.deletionObserved setup.name x
      run := { w.run with failedDeletes := w.run.failedDeletes.erase x } } := by
  have hless : Inv setup seen { w with
      run := { w.run with failedDeletes := w.run.failedDeletes.erase x } } := by
    refine ⟨h.lag.frame _ _,
      ⟨h.counts.adds, h.counts.dels, h.counts.excl, h.counts.gone, h.counts.brought⟩,
      ⟨h.told.synced, h.told.listed, h.told.fineListed, h.told.deletes, ?_, ?_⟩⟩
    · exact fun y hy => h.told.failedDeletes y (List.mem_of_mem_erase hy)
    · exact h.told.nodup.sublist ((List.Sublist.refl _).append List.erase_sublist)
  refine hless.deletionObserved (fun _ => h.told.failedDeletes x hx) fun hdelete => ?_
  exact (List.nodup_append.mp h.told.nodup).2.2 x hdelete x hx rfl

/-- Nothing of the set has ended. -/
theorem not_ill (h : Inv setup seen w) : ¬ setup.Ill w.run x := by
  rintro ⟨vms, hlisted, vm, hvm, hill, -⟩
  exact hill (h.told.fineListed vms hlisted vm hvm)

/-! ### Calls

    One lemma for every call that changes something: how it can be answered,
    what it keeps, and how it moves the numbers. -/

section calls
variable {reply : Cluster.Reply} {w₁ : Cluster}

theorem call_listVMs (h : Inv setup seen w) {uid : UID} {a : Except ApiError (List VM)}
    (hguard : uid = setup.uid) (hserve : Cluster.serve setup (.listVMs uid) reply w = some (a, w₁)) :
    Inv setup seen { w₁ with run := w.run.after (.listVMs uid) a } ∧
      Moved setup w { w₁ with run := w.run.after (.listVMs uid) a } := by
  subst hguard
  cases reply <;> simp only [Cluster.serve] at hserve <;> try cases hserve
  case fail e => exact ⟨h, .other rfl (Nat.le_refl _) (Nat.le_refl _)⟩
  case list vms =>
    split at hserve
    · next hperm =>
      cases hserve
      exact ⟨h.list (List.isPerm_iff.mp hperm), .other rfl (Nat.le_refl _) (Nat.le_refl _)⟩
    · cases hserve

theorem call_createVM (h : Inv setup seen w) {vm : NewVM} {a : Except ApiError Unit}
    (hguard : guard setup (.createVM vm) w.run)
    (hserve : Cluster.serve setup (.createVM vm) reply w = some (a, w₁)) :
    Inv setup seen { w₁ with run := w.run.after (.createVM vm) a } ∧
      Moved setup w { w₁ with run := w.run.after (.createVM vm) a } := by
  obtain ⟨hcreates, hactive⟩ := hguard
  cases reply <;> simp only [Cluster.serve] at hserve <;> try cases hserve
  case fail e =>
    exact ⟨h.createFailed hcreates, .other rfl (Nat.sub_le _ _) (Nat.le_refl _)⟩
  case created name uid time =>
    split at hserve
    · next hfind =>
      cases hserve
      have hfresh := Cluster.find_eq_none hfind
      have hnew := hactive name uid w.version time
      have hfine : setup.Fine (vm.stored name uid w.version time) := by
        intro _
        simp [NewVM.stored, isVMFinal, isVMUnknown]
      have hinv := h.create hcreates hfresh hnew hfine
      refine ⟨hinv, .created ?_ (Nat.succ_pred_eq_of_pos hcreates) rfl⟩
      -- its name is the one that the store did not have
      refine live_length_of_removed hinv.lag.keyedStore h.lag.keyedStore
        (mem_live_created.mpr (.inr ⟨hnew, rfl⟩)) fun y => ?_
      have hnot : (vm.stored name uid w.version time).name ∉ setup.names w.store := by
        intro hmem
        obtain ⟨vm', hvm', -, hname⟩ := mem_live.mp hmem
        exact hfresh vm' hvm' hname
      constructor
      · exact fun hy => ⟨mem_live_created.mpr (.inl hy), fun heq => hnot (heq ▸ hy)⟩
      · rintro ⟨hmem, hne⟩
        rcases mem_live_created.mp hmem with hy | ⟨-, rfl⟩
        · exact hy
        · exact absurd rfl hne
    · cases hserve

/-- A VM that is to be deleted is found, and is not terminating. -/
theorem find_of_deletes (h : Inv setup seen w) (hx : x ∈ w.run.deletes) :
    ∃ vm, w.find x = some vm ∧ vm ∈ w.store ∧ vm.name = x ∧ vm.deletionTimestamp = none := by
  obtain ⟨vm, hvm, hactive, hname⟩ := mem_live.mp (h.told.deletes x hx).1
  cases hfind : w.find x with
  | none => exact absurd hname (Cluster.find_eq_none hfind vm hvm)
  | some vm' =>
    obtain ⟨hvm', hname'⟩ := Cluster.find_eq_some hfind
    obtain rfl := h.lag.keyedStore.eq hvm hvm' (hname.trans hname'.symm)
    have halive : setup.member vm = true ∧ isVMFinal vm = false ∧ vm.deletionTimestamp = none := by
      simpa [Setup.active, isVMActive] using hactive
    exact ⟨vm, rfl, hvm', hname', halive.2.2⟩

/-- The write that a delete makes. -/
theorem delete_write (h : Inv setup seen w) (hx : x ∈ w.run.deletes) (time : Nat) :
    ∃ c, w.delete x time = (.ok (), w.write c) ∧ Fits VM.name w.store c ∧
      (∀ vm ∈ c.objects, setup.Fine vm) ∧ setup.brings c = false ∧
      ∀ y, y ∈ setup.names (apply VM.name w.store c) ↔ y ∈ setup.names w.store ∧ y ≠ x := by
  obtain ⟨vm, hfind, hvm, rfl, halive⟩ := h.find_of_deletes hx
  have hfine := h.lag.fine vm hvm
  by_cases hfinalizers : vm.finalizers = []
  · refine ⟨.deleted vm, ?_, hvm, by simpa [Change.objects] using hfine, rfl,
      fun y => mem_live_deleted⟩
    simp [Cluster.delete, hfind, halive, hfinalizers]
  · -- it begins to terminate, and is no longer active
    let gone : VM := { vm with deletionTimestamp := some time, resourceVersion := w.version }
    have hdead : setup.active gone = false := by simp [gone, Setup.active, isVMActive]
    have hfits : Fits VM.name w.store (.updated vm gone) := ⟨hvm, rfl⟩
    refine ⟨.updated vm gone, ?_, hfits, ?_, ?_, fun y => ?_⟩
    · simp [Cluster.delete, hfind, halive, hfinalizers, gone]
    · intro vm' hvm'
      simp only [Change.objects, List.mem_cons, List.not_mem_nil, or_false] at hvm'
      rcases hvm' with rfl | rfl
      · exact hfine
      · exact hfine
    · simp [Setup.brings, raises, hdead]
    · rw [mem_live_updated hfits, hdead]
      simp [gone]

theorem call_deleteVM (h : Inv setup seen w) {a : Except ApiError Unit}
    (hguard : guard setup (.deleteVM x) w.run)
    (hserve : Cluster.serve setup (.deleteVM x) reply w = some (a, w₁)) :
    Inv setup seen { w₁ with run := w.run.after (.deleteVM x) a } ∧
      Moved setup w { w₁ with run := w.run.after (.deleteVM x) a } := by
  have hx : x ∈ w.run.deletes := hguard.resolve_right h.not_ill
  have hlength := List.length_erase_of_mem hx
  have hpos := List.length_pos_of_mem hx
  cases reply <;> simp only [Cluster.serve] at hserve <;> try cases hserve
  case deleted time =>
    obtain ⟨c, hwrite, hfits, hfine, hquiet, hmem⟩ := h.delete_write hx time
    rw [hwrite] at hserve
    cases hserve
    have hinv := h.delete hx hfits hfine hquiet hmem
    refine ⟨hinv, .deleted ?_ rfl ?_⟩
    · exact live_length_of_removed h.lag.keyedStore hinv.lag.keyedStore (h.told.deletes x hx).1 hmem
    · simp only [RunView.after]
      omega
  case fail e =>
    split at hserve
    · cases hserve
    · next hne =>
      cases hserve
      have hafter : w.run.after (.deleteVM x) (.error e) = { w.run with
          deletes := w.run.deletes.erase x, failedDeletes := x :: w.run.failedDeletes } := by
        cases e with
        | notFound => exact absurd rfl hne
        | _ => rfl
      rw [hafter]
      exact ⟨h.deleteFailed hx, .other rfl (Nat.le_refl _) List.length_erase_le⟩

theorem call_expectDeletions (h : Inv setup seen w) {keys : List String}
    (hguard : guard setup (.expectDeletions setup.name keys) w.run) :
    Inv setup seen { w with
      expectations := w.expectations.expectDeletions setup.name keys
      run := { w.run with synced := false, deletes := keys } } ∧
    setup.replicas + keys.length ≤ (setup.names w.store).length := by
  obtain ⟨-, hsynced, hfailed, vms, hlisted, ⟨rest, hkeys⟩, hbound⟩ := hguard
  -- what was listed is what the store has
  have hstore := hkeys.trans (h.told.listed hsynced vms hlisted)
  have hnodup : (keys ++ rest).Nodup := hstore.nodup_iff.mpr h.lag.keyedStore.nodup_live
  refine ⟨h.expectDeletions hsynced hfailed (List.nodup_append.mp hnodup).1 ?_, ?_⟩
  · exact fun y hy => hstore.mem_iff.mp (List.mem_append_left _ hy)
  · rw [← (h.told.listed hsynced vms hlisted).length_eq]
    exact hbound

/-- **Calls** that the contract allows keep the invariant. -/
theorem call (h : Inv setup seen w) {o : Op} {a : o.Ans} {w' : Cluster}
    (hguard : guard setup o w.run) (hans : Cluster.answer setup o reply w = some (a, w')) :
    Inv setup seen w' ∧ Moved setup w w' := by
  obtain ⟨⟨a', w₁⟩, hserve, heq⟩ := Option.map_eq_some_iff.mp hans
  cases heq
  have hidle : Moved setup w w := .other rfl (Nat.le_refl _) (Nat.le_refl _)
  cases o with
  | listVMs uid => exact h.call_listVMs hguard hserve
  | createVM vm => exact h.call_createVM hguard hserve
  | deleteVM name => exact h.call_deleteVM hguard hserve
  | deleteExpectations rc => exact hguard.elim
  | getVMRS name =>
    cases reply <;> simp only [Cluster.serve] at hserve <;> try cases hserve
    case set rs =>
      split at hserve <;> cases hserve
      exact ⟨h, hidle⟩
  | updateStatus name status =>
    cases reply <;> simp only [Cluster.serve] at hserve <;> cases hserve
    · exact ⟨h, hidle⟩
    · exact ⟨h, hidle⟩
  | pick n =>
    cases reply <;> simp only [Cluster.serve] at hserve <;> try cases hserve
    case turn i =>
      split at hserve <;> cases hserve
      exact ⟨h, hidle⟩
  | satisfiedExpectations rc =>
    obtain rfl : rc = setup.name := hguard
    cases reply <;> simp only [Cluster.serve] at hserve <;> cases hserve
    exact ⟨h.satisfied, .other rfl (Nat.le_refl _) (Nat.le_refl _)⟩
  | expectCreations rc adds =>
    obtain ⟨rfl, hsynced, vms, hlisted, hbound⟩ := hguard
    cases reply <;> simp only [Cluster.serve] at hserve <;> cases hserve
    refine ⟨h.expectCreations hsynced adds, .expectCreations rfl ?_ rfl⟩
    rw [← (h.told.listed hsynced vms hlisted).length_eq]
    exact hbound
  | expectDeletions rc keys =>
    obtain rfl : rc = setup.name := hguard.1
    cases reply <;> simp only [Cluster.serve] at hserve <;> cases hserve
    obtain ⟨hinv, hbound⟩ := h.call_expectDeletions hguard
    exact ⟨hinv, .expectDeletions rfl rfl hbound⟩
  | creationObserved rc =>
    obtain ⟨rfl, hfailed⟩ := hguard
    cases reply <;> simp only [Cluster.serve] at hserve <;> cases hserve
    exact ⟨h.createTakenBack hfailed, .other rfl (Nat.le_refl _) (Nat.le_refl _)⟩
  | deletionObserved rc key =>
    obtain ⟨rfl, hkey⟩ := hguard
    cases reply <;> simp only [Cluster.serve] at hserve <;> cases hserve
    have hfailed := hkey.resolve_right h.not_ill
    exact ⟨h.deleteTakenBack hfailed, .other rfl (Nat.le_refl _) (Nat.le_refl _)⟩

end calls

end Inv

/-! ### Steps -/

/-- **Step**: every guarded move but a restart. -/
theorem Inv.step (h : Inv setup seen w) {a : Act api Unit Cluster.Reply Cluster.Event}
    {w' : Cluster} (hok : noRestart w a)
    (hmove : GStep (machine setup) (contract setup).guards w a w') :
    (∃ seen', Inv setup seen' w') ∧ Moved setup w w' := by
  cases hmove with
  | start _ => exact ⟨⟨seen, h.enter⟩, .other rfl (Nat.zero_le _) (Nat.zero_le _)⟩
  | finish _ => exact ⟨⟨seen, h.enter⟩, .other rfl (Nat.zero_le _) (Nat.zero_le _)⟩
  | call hguard hans =>
    obtain ⟨hinv, hmoved⟩ := h.call hguard hans
    exact ⟨⟨seen, hinv⟩, hmoved⟩
  | crash => exact hok.elim
  | event hev => exact h.event hev

end VMRSController

end Virtink
