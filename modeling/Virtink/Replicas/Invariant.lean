import Virtink.Replicas.Contract

/-! # The Invariant of the Replica Set Controller

    Three groups of facts hold together in every state.

    * `Lag`: the handlers, the cache and the store see one history of changes,
      each up to some point.
    * `Counts`: the expectations are at least what is still to be seen. Creates
      that were announced are counted until they have failed or reached the
      handlers; the name of a VM that is deleted is kept until then.
    * `Told`: what a run was told. While the expectations it has found satisfied
      are in force, the active VMs it has listed are those of the store.

    Creates and deletes are never expected at the same time.
-/

namespace Virtink

open Calls Contract Watch

namespace VMRSController

variable {setup : Setup} {seen : List VM} {w : Cluster} {c : Change VM} {x : String}

/-! ### The Lag -/

/-- `seen` is what the handlers have been told of. -/
structure Lag (setup : Setup) (seen : List VM) (w : Cluster) : Prop where
  keyed     : Keyed VM.name seen
  fits      : FitsAll VM.name seen w.changes
  cached    : w.cache = replay VM.name seen w.toHandlers
  stored    : w.store = replay VM.name w.cache w.toCache
  fineCache : ∀ vm ∈ w.cache, setup.Fine vm
  fineSent  : ∀ c ∈ w.toCache, ∀ vm ∈ c.objects, setup.Fine vm

theorem raises_of_brings (h : setup.brings c = false) : raises setup.active c = false := by
  simp only [Setup.brings, Bool.or_eq_false_iff] at h
  exact h.1

namespace Lag

/-- What is no part of the history does not matter. -/
theorem frame (h : Lag setup seen w) (e : Expectations) (run : RunView) :
    Lag setup seen { w with expectations := e, run := run } :=
  ⟨h.keyed, h.fits, h.cached, h.stored, h.fineCache, h.fineSent⟩

theorem fitsHandlers (h : Lag setup seen w) : FitsAll VM.name seen w.toHandlers :=
  (fitsAll_append.mp h.fits).1

theorem fitsCache (h : Lag setup seen w) : FitsAll VM.name w.cache w.toCache := by
  rw [h.cached]
  exact (fitsAll_append.mp h.fits).2

theorem keyedCache (h : Lag setup seen w) : Keyed VM.name w.cache := by
  rw [h.cached]
  exact h.keyed.replay h.fitsHandlers

theorem keyedStore (h : Lag setup seen w) : Keyed VM.name w.store := by
  rw [h.stored]
  exact h.keyedCache.replay h.fitsCache

theorem fine (h : Lag setup seen w) : ∀ vm ∈ w.store, setup.Fine vm := by
  intro vm hvm
  rw [h.stored] at hvm
  rcases mem_of_mem_replay hvm with hvm | ⟨c, hc, hvm⟩
  · exact h.fineCache vm hvm
  · exact h.fineSent c hc vm hvm

/-- With no VM on its way into the set, what is active in the store is active
    in the cache. -/
theorem mem_cache (h : Lag setup seen w) (hquiet : ∀ c ∈ w.changes, setup.brings c = false)
    (hx : x ∈ setup.names w.store) : x ∈ setup.names w.cache := by
  rw [h.stored] at hx
  refine mem_live_of_replay h.fitsCache (fun c hc => ?_) hx
  exact raises_of_brings (hquiet c (List.mem_append_right _ hc))

/-- The same for the cache and what the handlers have been told of. -/
theorem mem_seen (h : Lag setup seen w) (hquiet : ∀ c ∈ w.changes, setup.brings c = false)
    (hx : x ∈ setup.names w.cache) : x ∈ setup.names seen := by
  rw [h.cached] at hx
  refine mem_live_of_replay h.fitsHandlers (fun c hc => ?_) hx
  exact raises_of_brings (hquiet c (List.mem_append_left _ hc))

/-- A write is appended to the history. -/
theorem write (h : Lag setup seen w) (hfits : Fits VM.name w.store c)
    (hfine : ∀ vm ∈ c.objects, setup.Fine vm) : Lag setup seen (w.write c) where
  keyed := h.keyed
  fits := by
    have hall : FitsAll VM.name seen (w.changes ++ [c]) := by
      refine fitsAll_append.mpr ⟨h.fits, ?_, trivial⟩
      rw [Cluster.changes, replay_append, ← h.cached, ← h.stored]
      exact hfits
    simpa [Cluster.changes, Cluster.write] using hall
  cached := h.cached
  stored := by
    simp only [Cluster.write, replay_append, ← h.stored]
    rfl
  fineCache := h.fineCache
  fineSent := by
    intro c' hc'
    rcases List.mem_append.mp hc' with hc' | hc'
    · exact h.fineSent c' hc'
    · rw [List.mem_singleton.mp hc']
      exact hfine

/-- The next change reaches the cache. -/
theorem sync (h : Lag setup seen w) {rest : List (Change VM)} (hnext : w.toCache = c :: rest) :
    Lag setup seen { w with
      cache := apply VM.name w.cache c, toCache := rest, toHandlers := w.toHandlers ++ [c] } where
  keyed := h.keyed
  fits := by simpa [Cluster.changes, hnext] using h.fits
  cached := by
    simp only [replay_append, ← h.cached]
    rfl
  stored := by rw [h.stored, hnext, replay_cons]
  fineCache := by
    intro vm hvm
    rcases mem_of_mem_apply hvm with hvm | hvm
    · exact h.fineCache vm hvm
    · exact h.fineSent c (by simp [hnext]) vm hvm
  fineSent c' hc' := h.fineSent c' (by simp [hnext, hc'])

/-- The next change reaches the handlers. -/
theorem deliver (h : Lag setup seen w) {rest : List (Change VM)} (hnext : w.toHandlers = c :: rest) :
    Fits VM.name seen c ∧ Lag setup (apply VM.name seen c) { w with toHandlers := rest } := by
  have hfits : Fits VM.name seen c ∧ FitsAll VM.name (apply VM.name seen c) (rest ++ w.toCache) := by
    simpa [Cluster.changes, hnext, FitsAll] using h.fits
  refine ⟨hfits.1, h.keyed.apply hfits.1, hfits.2, ?_, h.stored, h.fineCache, h.fineSent⟩
  rw [h.cached, hnext, replay_cons]

/-- The handlers are told of a cached VM once more. -/
theorem resync (h : Lag setup seen w) {vm : VM} (hvm : vm ∈ w.cache) :
    Lag setup seen { w with toHandlers := w.toHandlers ++ [.updated vm vm] } where
  keyed := h.keyed
  fits := by
    have hfits : FitsAll VM.name w.cache (.updated vm vm :: w.toCache) := by
      refine ⟨⟨hvm, rfl⟩, ?_⟩
      rw [apply_updated_self h.keyedCache hvm]
      exact h.fitsCache
    rw [h.cached] at hfits
    simpa [Cluster.changes] using fitsAll_append.mpr ⟨h.fitsHandlers, hfits⟩
  cached := by
    rw [replay_append, ← h.cached]
    exact (apply_updated_self h.keyedCache hvm).symm
  stored := h.stored
  fineCache := h.fineCache
  fineSent := h.fineSent

end Lag

/-! ### Expectations and Runs -/

/-- The expectations are at least what is still to be seen. -/
structure Counts (setup : Setup) (w : Cluster) : Prop where
  adds    : ((w.changes.countP setup.brings + w.run.creates + w.run.failedCreates : Nat) : Int) ≤
    w.expectations.adds setup.name
  dels    : ((w.expectations.uids setup.name).length : Int) ≤ w.expectations.dels setup.name
  excl    : w.expectations.uids setup.name ≠ [] → w.expectations.adds setup.name ≤ 0
  /-- A VM that is active in the cache only is one whose deletion is expected. -/
  gone    : ∀ x ∈ setup.names w.cache, x ∉ setup.names w.store → x ∈ w.expectations.uids setup.name
  /-- A VM on its way into the set has not been deleted. -/
  brought : ∀ c ∈ w.changes, setup.brings c = true → c.subject.name ∈ setup.names w.store

/-- What the run of the worker was told. -/
structure Told (setup : Setup) (w : Cluster) : Prop where
  synced        : w.run.synced = true →
    w.expectations.adds setup.name ≤ 0 ∧ w.expectations.uids setup.name = []
  listed        : w.run.synced = true → ∀ vms, w.run.listed = some vms →
    (setup.names vms).Perm (setup.names w.store)
  fineListed    : ∀ vms, w.run.listed = some vms → ∀ vm ∈ vms, setup.Fine vm
  deletes       : ∀ x ∈ w.run.deletes,
    x ∈ setup.names w.store ∧ x ∈ w.expectations.uids setup.name
  failedDeletes : ∀ x ∈ w.run.failedDeletes, x ∈ setup.names w.store
  nodup         : (w.run.deletes ++ w.run.failedDeletes).Nodup

/-- **The invariant.** -/
structure Inv (setup : Setup) (seen : List VM) (w : Cluster) : Prop where
  lag    : Lag setup seen w
  counts : Counts setup w
  told   : Told setup w

/-- Without an expected creation no VM is on its way into the set. -/
theorem Counts.quiet (h : Counts setup w) (hadds : w.expectations.adds setup.name ≤ 0) :
    ∀ c ∈ w.changes, setup.brings c = false := by
  have hzero : w.changes.countP setup.brings = 0 := by
    have := h.adds
    omega
  simpa [List.countP_eq_zero] using hzero

/-- With satisfied expectations the cache is up to date, as far as the active
    VMs of the set go. -/
theorem Inv.names_cache (h : Inv setup seen w) (hadds : w.expectations.adds setup.name ≤ 0)
    (huids : w.expectations.uids setup.name = []) :
    (setup.names w.cache).Perm (setup.names w.store) := by
  refine live_perm h.lag.keyedCache h.lag.keyedStore fun x => ⟨fun hx => ?_, fun hx => ?_⟩
  · apply Decidable.byContradiction
    intro hnot
    have hmem := h.counts.gone x hx hnot
    rw [huids] at hmem
    cases hmem
  · exact h.lag.mem_cache (h.counts.quiet hadds) hx

/-- The start meets the invariant. -/
theorem Start.inv (h : Start setup w) : ∃ seen, Inv setup seen w := by
  obtain ⟨seen, hkeyed, hfits, hcached⟩ := h.handlers
  have hchanges : w.changes = w.toHandlers := by simp [Cluster.changes, h.toCache]
  have hadds : w.expectations.adds setup.name = 0 := by simp [Expectations.adds, h.entries]
  have hdels : w.expectations.dels setup.name = 0 := by simp [Expectations.dels, h.entries]
  have hzero : w.changes.countP setup.brings = 0 := by
    rw [hchanges]
    simpa [List.countP_eq_zero] using h.quiet
  refine ⟨seen, ⟨hkeyed, hchanges ▸ hfits, hcached, ?_, ?_, ?_⟩, ⟨?_, ?_, ?_, ?_, ?_⟩, ?_⟩
  · rw [h.toCache, h.cache]
    rfl
  · rw [h.cache]
    exact h.fine
  · simp [h.toCache]
  · simp [hzero, h.run, hadds]
  · simp [h.uids, hdels]
  · simp [h.uids]
  · intro x hx hnot
    rw [h.cache] at hx
    exact absurd hx hnot
  · intro c hc hbrings
    rw [hchanges] at hc
    rw [h.quiet c hc] at hbrings
    cases hbrings
  · constructor <;> simp [h.run]

/-! ### Expectations Are Lowered -/

namespace Inv

/-- Only what is expected of this set matters. -/
theorem sameAt (h : Inv setup seen w) {e : Expectations}
    (hsame : w.expectations.SameAt setup.name e) : Inv setup seen { w with expectations := e } where
  lag := h.lag.frame e w.run
  counts := by
    refine ⟨?_, ?_, ?_, ?_, h.counts.brought⟩
    · exact hsame.adds_eq ▸ h.counts.adds
    · simp only [hsame.dels_eq, hsame.2]
      exact h.counts.dels
    · simp only [hsame.adds_eq, hsame.2]
      exact h.counts.excl
    · simp only [hsame.2]
      exact h.counts.gone
  told := by
    refine ⟨?_, h.told.listed, h.told.fineListed, ?_, h.told.failedDeletes, h.told.nodup⟩
    · simp only [hsame.adds_eq, hsame.2]
      exact h.told.synced
    · simp only [hsame.2]
      exact h.told.deletes

/-- A creation is observed that is no longer counted. -/
theorem creationObserved (h : Inv setup seen w)
    (hslack : ((w.changes.countP setup.brings + w.run.creates + w.run.failedCreates + 1 : Nat) : Int) ≤
      w.expectations.adds setup.name) :
    Inv setup seen { w with expectations := w.expectations.creationObserved setup.name } where
  lag := h.lag.frame _ w.run
  counts := by
    have hadds := @Expectations.adds_creationObserved w.expectations setup.name
    refine ⟨?_, ?_, ?_, ?_, h.counts.brought⟩
    · show _ ≤ (w.expectations.creationObserved setup.name).adds setup.name
      simp only [Cluster.changes] at hslack ⊢
      omega
    · simp only [Expectations.uids_creationObserved, Expectations.dels_creationObserved]
      exact h.counts.dels
    · intro huids
      simp only [Expectations.uids_creationObserved] at huids
      exact Int.le_trans hadds.2 (h.counts.excl huids)
    · simp only [Expectations.uids_creationObserved]
      exact h.counts.gone
  told := by
    have hadds := @Expectations.adds_creationObserved w.expectations setup.name
    refine ⟨?_, h.told.listed, h.told.fineListed, ?_, h.told.failedDeletes, h.told.nodup⟩
    · intro hsynced
      simp only [Expectations.uids_creationObserved]
      obtain ⟨hle, huids⟩ := h.told.synced hsynced
      exact ⟨Int.le_trans hadds.2 hle, huids⟩
    · simp only [Expectations.uids_creationObserved]
      exact h.told.deletes

/-- A deletion is observed of a VM that the cache no longer holds against the
    store, and that is not about to be deleted. -/
theorem deletionObserved (h : Inv setup seen w)
    (hgone : x ∈ setup.names w.cache → x ∈ setup.names w.store) (hdelete : x ∉ w.run.deletes) :
    Inv setup seen { w with expectations := w.expectations.deletionObserved setup.name x } where
  lag := h.lag.frame _ w.run
  counts := by
    refine ⟨?_, Expectations.length_uids_deletionObserved h.counts.dels, ?_, ?_, h.counts.brought⟩
    · simp only [Expectations.adds_deletionObserved]
      exact h.counts.adds
    · simp only [Expectations.uids_deletionObserved, Expectations.adds_deletionObserved]
      intro huids
      refine h.counts.excl fun hnil => huids ?_
      rw [hnil]
      rfl
    · simp only [Expectations.uids_deletionObserved]
      intro y hy hnot
      have hne : y ≠ x := fun heq => hnot (heq ▸ hgone (heq ▸ hy))
      exact (List.mem_erase_of_ne hne).mpr (h.counts.gone y hy hnot)
  told := by
    refine ⟨?_, h.told.listed, h.told.fineListed, ?_, h.told.failedDeletes, h.told.nodup⟩
    · simp only [Expectations.uids_deletionObserved, Expectations.adds_deletionObserved]
      intro hsynced
      obtain ⟨hle, huids⟩ := h.told.synced hsynced
      exact ⟨hle, by rw [huids]; rfl⟩
    · simp only [Expectations.uids_deletionObserved]
      intro y hy
      have hne : y ≠ x := fun heq => hdelete (heq ▸ hy)
      exact ⟨(h.told.deletes y hy).1, (List.mem_erase_of_ne hne).mpr (h.told.deletes y hy).2⟩

/-! ### Events -/

/-- The next change reaches the cache. -/
theorem sync (h : Inv setup seen w) {rest : List (Change VM)} (hnext : w.toCache = c :: rest) :
    Inv setup seen { w with
      cache := apply VM.name w.cache c, toCache := rest, toHandlers := w.toHandlers ++ [c] } where
  lag := h.lag.sync hnext
  counts := by
    have hchanges : w.toHandlers ++ [c] ++ rest = w.changes := by simp [Cluster.changes, hnext]
    have hfits : Fits VM.name w.cache c := by
      have hall := h.lag.fitsCache
      rw [hnext] at hall
      exact hall.1
    refine ⟨?_, h.counts.dels, h.counts.excl, ?_, ?_⟩
    · simp only [Cluster.changes, hchanges]
      exact h.counts.adds
    · intro x hx hnot
      by_cases hcache : x ∈ setup.names w.cache
      · exact h.counts.gone x hcache hnot
      -- the VM has come with the change, and the store still has it
      · exfalso
        have hbrings : setup.brings c = true := by
          apply Decidable.byContradiction
          intro hquiet
          exact hcache (mem_live_of_apply hfits (raises_of_brings (by simpa using hquiet)) hx)
        have hsubject : x = c.subject.name := by
          cases c with
          | created vm =>
            rcases mem_live_created.mp hx with hx | ⟨-, rfl⟩
            · exact absurd hx hcache
            · rfl
          | updated old new =>
            rcases (mem_live_updated hfits).mp hx with hx | ⟨-, rfl⟩
            · exact absurd hx.1 hcache
            · rfl
          | deleted vm => exact absurd (mem_live_deleted.mp hx).1 hcache
        rw [hsubject] at hnot
        exact hnot (h.counts.brought c (by simp [Cluster.changes, hnext]) hbrings)
    · simp only [Cluster.changes, hchanges]
      exact h.counts.brought
  told := ⟨h.told.synced, h.told.listed, h.told.fineListed, h.told.deletes, h.told.failedDeletes,
    h.told.nodup⟩

/-- The handlers are told of a cached VM once more. -/
theorem resync (h : Inv setup seen w) {vm : VM} (hvm : vm ∈ w.cache) :
    Inv setup seen { w with toHandlers := w.toHandlers ++ [.updated vm vm] } where
  lag := h.lag.resync hvm
  counts := by
    have hquiet : setup.brings (.updated vm vm) = false := by simp [Setup.brings, raises]
    refine ⟨?_, h.counts.dels, h.counts.excl, h.counts.gone, ?_⟩
    · simpa [Cluster.changes, List.countP_append, List.countP_cons, hquiet] using h.counts.adds
    · intro c hc hbrings
      simp only [Cluster.changes, List.mem_append, List.mem_singleton] at hc
      rcases hc with (hc | rfl) | hc
      · exact h.counts.brought c (List.mem_append_left _ hc) hbrings
      · rw [hquiet] at hbrings
        cases hbrings
      · exact h.counts.brought c (List.mem_append_right _ hc) hbrings
  told := ⟨h.told.synced, h.told.listed, h.told.fineListed, h.told.deletes, h.told.failedDeletes,
    h.told.nodup⟩

/-- A change has reached the handlers, which have not looked at it yet. -/
theorem advance (h : Inv setup seen w) {rest : List (Change VM)} (hnext : w.toHandlers = c :: rest) :
    Inv setup (apply VM.name seen c) { w with toHandlers := rest } where
  lag := (h.lag.deliver hnext).2
  counts := by
    refine ⟨?_, h.counts.dels, h.counts.excl, h.counts.gone, ?_⟩
    · have hadds := h.counts.adds
      simp only [Cluster.changes, hnext, List.cons_append, List.countP_cons] at hadds ⊢
      omega
    · intro c' hc'
      refine h.counts.brought c' ?_
      simp only [Cluster.changes, hnext, List.cons_append]
      exact List.mem_cons_of_mem _ hc'
  told := ⟨h.told.synced, h.told.listed, h.told.fineListed, h.told.deletes, h.told.failedDeletes,
    h.told.nodup⟩

end Inv

/-- What has ended is not active. -/
theorem not_mem_of_ended (hfits : Fits VM.name seen c) (hended : Ended c) :
    c.subject.name ∉ setup.names (apply VM.name seen c) := by
  have hdead : ∀ vm : VM, vm.deletionTimestamp.isSome = true → setup.active vm = false := by
    intro vm hvm
    obtain ⟨t, ht⟩ := Option.isSome_iff_exists.mp hvm
    simp [Setup.active, isVMActive, ht]
  intro hmem
  cases c with
  | created vm =>
    rcases mem_live_created.mp hmem with hmem | ⟨hactive, -⟩
    · obtain ⟨vm', hvm', -, hname⟩ := mem_live.mp hmem
      exact hfits vm' hvm' hname
    · rw [hdead vm hended] at hactive
      cases hactive
  | updated old new =>
    rcases (mem_live_updated hfits).mp hmem with ⟨-, hne⟩ | ⟨hactive, -⟩
    · exact hne rfl
    · rw [hdead new hended] at hactive
      cases hactive
  | deleted vm => exact (mem_live_deleted.mp hmem).2 rfl

namespace Inv

/-- What the handlers know to have ended is neither active in the cache alone
    nor about to be deleted. -/
theorem ended (h : Inv setup seen w) (hx : x ∉ setup.names seen) :
    (x ∈ setup.names w.cache → x ∈ setup.names w.store) ∧ x ∉ w.run.deletes := by
  have hquiet : x ∈ w.expectations.uids setup.name → ∀ c ∈ w.changes, setup.brings c = false :=
    fun hmem => h.counts.quiet (h.counts.excl (List.ne_nil_of_mem hmem))
  constructor
  · intro hcache
    apply Decidable.byContradiction
    intro hstore
    have huids := h.counts.gone x hcache hstore
    exact hx (h.lag.mem_seen (hquiet huids) hcache)
  · intro hdelete
    obtain ⟨hstore, huids⟩ := h.told.deletes x hdelete
    exact hx (h.lag.mem_seen (hquiet huids) (h.lag.mem_cache (hquiet huids) hstore))

/-- **Delivery**: a change is handled. -/
theorem deliver (h : Inv setup seen w) {get : String → Option UID}
    (hget : get setup.name = some setup.uid) {rest : List (Change VM)}
    (hnext : w.toHandlers = c :: rest) :
    Inv setup (apply VM.name seen c)
      { w with toHandlers := rest, expectations := handle get c w.expectations } := by
  have hfits := (h.lag.deliver hnext).1
  let P : Expectations → Prop := fun e =>
    Inv setup (apply VM.name seen c) { w with toHandlers := rest, expectations := e }
  have hstart : P w.expectations := h.advance hnext
  have hsame : ∀ e e', e.SameAt setup.name e' → P e → P e' := fun e e' hs he => he.sameAt hs
  refine handle_keeps hsame hget ?_ ?_ ?_ hstart
  · rintro old new rfl
    exact hfits.2
  · -- the creation was counted as long as it was on its way
    rintro vm rfl halive hown
    refine creationObserved hstart ?_
    have hbrings : setup.brings (.created vm) = true := by
      simp [Setup.brings, Setup.owns, hown, halive]
    have hadds := h.counts.adds
    simp only [Cluster.changes, hnext, List.cons_append, List.countP_cons, hbrings, if_true]
      at hadds ⊢
    omega
  · intro hended e he
    obtain ⟨hgone, hdelete⟩ := ended he (not_mem_of_ended hfits hended)
    exact deletionObserved he hgone hdelete

/-! ### Writes -/

/-- The changes after a write. -/
theorem changes_write (w : Cluster) (c : Change VM) : (w.write c).changes = w.changes ++ [c] := by
  simp [Cluster.changes, Cluster.write]

/-- A write that leaves the active VMs of the set. -/
theorem write_other (h : Inv setup seen w) (hfits : Fits VM.name w.store c)
    (hfine : ∀ vm ∈ c.objects, setup.Fine vm) (hquiet : setup.brings c = false)
    (hsame : ∀ x, x ∈ setup.names (apply VM.name w.store c) ↔ x ∈ setup.names w.store) :
    Inv setup seen (w.write c) where
  lag := h.lag.write hfits hfine
  counts := by
    refine ⟨?_, h.counts.dels, h.counts.excl, ?_, ?_⟩
    · rw [changes_write, List.countP_append, List.countP_singleton, hquiet]
      exact h.counts.adds
    · intro x hx hnot
      exact h.counts.gone x hx fun hstore => hnot ((hsame x).mpr hstore)
    · intro c' hc' hbrings
      rw [changes_write] at hc'
      rcases List.mem_append.mp hc' with hc' | hc'
      · exact (hsame _).mpr (h.counts.brought c' hc' hbrings)
      · rw [List.mem_singleton.mp hc', hquiet] at hbrings
        cases hbrings
  told := by
    have hperm : (setup.names w.store).Perm (setup.names (w.write c).store) :=
      live_perm h.lag.keyedStore (h.lag.keyedStore.apply hfits) fun x => (hsame x).symm
    refine ⟨h.told.synced, ?_, h.told.fineListed, ?_, ?_, h.told.nodup⟩
    · exact fun hsynced vms hvms => (h.told.listed hsynced vms hvms).trans hperm
    · exact fun x hx => ⟨(hsame x).mpr (h.told.deletes x hx).1, (h.told.deletes x hx).2⟩
    · exact fun x hx => (hsame x).mpr (h.told.failedDeletes x hx)

end Inv

theorem Cluster.find_eq_some {vm : VM} (h : w.find x = some vm) : vm ∈ w.store ∧ vm.name = x :=
  ⟨List.mem_of_find?_eq_some h, by simpa using List.find?_some h⟩

theorem Cluster.find_eq_none (h : w.find x = none) : ∀ vm ∈ w.store, vm.name ≠ x := by
  simpa [Cluster.find] using h

/-- An update by others leaves a VM active or not. -/
theorem Setup.MayUpdate.active_eq {old new : VM} (h : setup.MayUpdate old new)
    (hold : setup.Fine old) : setup.active new = setup.active old := by
  obtain ⟨-, hmember, hnew, hdts⟩ := h
  simp only [Setup.active, hmember]
  cases hm : setup.member old with
  | false => rfl
  | true =>
    have hfinal := (hold hm).1
    have hfinal' := (hnew (hmember.trans hm)).1
    simp [isVMActive, hfinal, hfinal', hdts hm]

/-! ### What a Step Does -/

/-- What a step does to the number of active VMs and to what is announced. -/
inductive Moved (setup : Setup) (w w' : Cluster) : Prop where
  | other (hstore : (setup.names w'.store).length = (setup.names w.store).length)
      (hcreates : w'.run.creates ≤ w.run.creates)
      (hdeletes : w'.run.deletes.length ≤ w.run.deletes.length)
  | created (hstore : (setup.names w'.store).length = (setup.names w.store).length + 1)
      (hcreates : w'.run.creates + 1 = w.run.creates) (hdeletes : w'.run.deletes = w.run.deletes)
  | deleted (hstore : (setup.names w.store).length = (setup.names w'.store).length + 1)
      (hcreates : w'.run.creates = w.run.creates)
      (hdeletes : w'.run.deletes.length + 1 = w.run.deletes.length)
  | expectCreations (hstore : w'.store = w.store)
      (hcreates : (setup.names w.store).length + w'.run.creates ≤ setup.replicas)
      (hdeletes : w'.run.deletes = w.run.deletes)
  | expectDeletions (hstore : w'.store = w.store) (hcreates : w'.run.creates = w.run.creates)
      (hdeletes : setup.replicas + w'.run.deletes.length ≤ (setup.names w.store).length)

/-- **Events** keep the invariant and the number of active VMs. -/
theorem Inv.event (h : Inv setup seen w) {e : Cluster.Event} {w' : Cluster}
    (hev : Cluster.event setup e w = some w') : (∃ seen', Inv setup seen' w') ∧ Moved setup w w' := by
  have hother : ∀ {c : Change VM}, Fits VM.name w.store c → (∀ vm ∈ c.objects, setup.Fine vm) →
      setup.brings c = false →
      (∀ x, x ∈ setup.names (apply VM.name w.store c) ↔ x ∈ setup.names w.store) →
      (∃ seen', Inv setup seen' (w.write c)) ∧ Moved setup w (w.write c) := by
    intro c hfits hfine hquiet hsame
    have hinv := h.write_other hfits hfine hquiet hsame
    refine ⟨⟨seen, hinv⟩, .other ?_ (Nat.le_refl _) (Nat.le_refl _)⟩
    exact (live_perm hinv.lag.keyedStore h.lag.keyedStore hsame).length_eq
  cases e <;> simp only [Cluster.event] at hev
  case sync =>
    split at hev
    · cases hev
    · next c rest hnext =>
      cases hev
      exact ⟨⟨seen, h.sync hnext⟩, .other rfl (Nat.le_refl _) (Nat.le_refl _)⟩
  case deliver get =>
    split at hev
    · cases hev
    · next c rest hnext =>
      split at hev
      · next hget =>
        cases hev
        exact ⟨⟨_, h.deliver hget hnext⟩, .other rfl (Nat.le_refl _) (Nat.le_refl _)⟩
      · cases hev
  case resync vm =>
    split at hev
    · next hvm =>
      cases hev
      exact ⟨⟨seen, h.resync hvm⟩, .other rfl (Nat.le_refl _) (Nat.le_refl _)⟩
    · cases hev
  case update vm =>
    split at hev
    · next old hfind =>
      split at hev
      · next hmay =>
        cases hev
        obtain ⟨hold, hname⟩ := Cluster.find_eq_some hfind
        have hfits : Fits VM.name w.store (.updated old vm) := ⟨hold, hname⟩
        have hactive := hmay.active_eq (h.lag.fine old hold)
        refine hother hfits ?_ ?_ fun x => mem_live_updated_same h.lag.keyedStore hfits hactive
        · intro vm' hvm'
          simp only [Change.objects, List.mem_cons, List.not_mem_nil, or_false] at hvm'
          rcases hvm' with rfl | rfl
          · exact h.lag.fine _ hold
          · exact hmay.2.2.1
        · simp [Setup.brings, raises, hactive]
      · cases hev
    · cases hev
  case create vm =>
    split at hev
    · next hnew =>
      cases hev
      obtain ⟨hfind, hforeign⟩ := hnew
      have hmember : setup.member vm = false := by simp [Setup.member, hforeign]
      refine hother (Cluster.find_eq_none hfind) ?_ ?_ fun x => ?_
      · intro vm' hvm' hm
        rw [List.mem_singleton.mp hvm', hmember] at hm
        cases hm
      · simp [Setup.brings, raises, Setup.active, hmember, hforeign]
      · simp [mem_live_created, Setup.active, hmember]
    · cases hev
  case remove name =>
    split at hev
    · next vm hfind =>
      split at hev
      · next hmay =>
        cases hev
        obtain ⟨hvm, -⟩ := Cluster.find_eq_some hfind
        have hdead : setup.active vm = false := by
          cases hm : setup.member vm with
          | false => simp [Setup.active, hm]
          | true =>
            obtain ⟨t, ht⟩ := Option.isSome_iff_exists.mp (hmay hm)
            simp [Setup.active, isVMActive, ht]
        refine hother hvm ?_ rfl fun x => mem_live_deleted_same h.lag.keyedStore hvm hdead
        intro vm' hvm'
        rw [List.mem_singleton.mp hvm']
        exact h.lag.fine vm hvm
      · cases hev
    · cases hev

end VMRSController

end Virtink
