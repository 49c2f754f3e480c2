import Virtink.Daemon.VM
import Virtink.Framework.Registry
import Virtink.Framework.Run

/-! # The Contexts of Migrations

    The target of a migration makes a context for the receiving call and its
    relay, the source one for the sending call and its relay. A context is
    released by its cancel function, which the daemon keeps in the control
    block of the VM, by the UID of the VM. `reconcile` holds the mutex while
    it works on a migration, so its runs follow one another.

    This module has the memory of a daemon, as a register of contexts, and the
    rules for a run on it (`Ends`). All that `reconcile` does outside of
    migrations leaves the memory alone.
-/

namespace Virtink

open Calls

/-! ### The Memory of a Daemon -/

/-- The call is not about contexts. -/
def Op.Outside : Op → Prop
  | .getControlBlock | .setControlBlock _ | .deleteControlBlock | .withCancel | .cancel _ => False
  | _ => True

namespace VMDaemon

/-- The cancel functions of a control block. -/
def cancels (b : ControlBlock) : List Nat :=
  b.receiveMigrationCancelFunc.toList ++ b.sendMigrationCancelFunc.toList

/-- `migrationControlBlocks`, with the contexts that were made and the cancel
    functions that were called. A VM without an entry has the empty block. -/
abbrev Contexts := Registry UID ControlBlock Nat

/-- The memory of a daemon that has just started. -/
def Contexts.initial : Contexts := { entries := fun _ => {} }

/-- What the calls of a reconcile of the VM with that UID do to the memory.
    All else may be answered in any way. -/
def Contexts.sem (u : UID) : Prog.Sem api Contexts
  | .getControlBlock, s, b, s' => b = s.entries u ∧ s' = s
  -- the block is a value: what the run changes in its copy is not stored before this
  | .setControlBlock b, s, _, s' => s' = Registry.put cancels s u b
  | .deleteControlBlock, s, _, s' => s' = Registry.put cancels s u {}
  | .withCancel, s, ctx, s' => s.Fresh ctx ∧ s' = s.grant u ctx
  | .cancel ctx, s, _, s' => s' = s.close ctx
  | _, s, _, s' => s' = s

theorem Contexts.sem_outside {u : UID} {o : Op} (ho : Op.Outside o) {s s' : Contexts}
    {x : o.Ans} (h : Contexts.sem u o s x s') : s' = s := by
  cases o with
  | getControlBlock => exact ho.elim
  | setControlBlock => exact ho.elim
  | deleteControlBlock => exact ho.elim
  | withCancel => exact ho.elim
  | cancel => exact ho.elim
  | _ => exact h

/-- The call of an entry. -/
@[simp] def callOf (e : Prog.Entry api) : Op := e.1

/-- A call has failed of those that a run makes after `context.WithCancel`. -/
def fails : Prog.Entry api → Bool
  | ⟨.statReceiveSocket _, .error _⟩ | ⟨.waitReceiveSocket _ _, .error _⟩ => true
  | ⟨.loadCACert, .error _⟩ | ⟨.relayTCPToSocket _ _, .error _⟩ => true
  | ⟨.getVMMountRecord, .error _⟩ | ⟨.isBlock _, .error _⟩ => true
  | ⟨.mountVolume _ _ _ _, .error _⟩ | ⟨.relaySocketToTCP _ _ _ _ _, .error _⟩ => true
  | _ => false

/-- The run has made a context, and a call after that has failed. -/
def aborts : List (Prog.Entry api) → Bool
  | [] => false
  | e :: l => (callOf e == .withCancel && l.any fails) || aborts l

/-- The run has come to the end of the migration cases. -/
def Booked (l : List (Prog.Entry api)) : Prop := ∃ e ∈ l, ∃ b, callOf e = .setControlBlock b

section marks
variable {e : Prog.Entry api} {l l' : List (Prog.Entry api)}

theorem aborts_cons (h : callOf e ≠ .withCancel) : aborts (e :: l) = aborts l := by
  rw [aborts, beq_false_of_ne h, Bool.false_and, Bool.false_or]

theorem aborts_append (hl : l'.any fails = false) (h : aborts l' = false) :
    aborts (l ++ l') = aborts l := by
  induction l with
  | nil => exact h
  | cons e l ih => simp [aborts, ih, hl]

@[simp] theorem booked_nil : ¬ Booked [] := by simp [Booked]

@[simp] theorem booked_cons :
    Booked (e :: l) ↔ (∃ b, callOf e = .setControlBlock b) ∨ Booked l := by
  simp only [Booked, List.mem_cons, or_and_right, exists_or, exists_eq_left]

@[simp] theorem booked_append : Booked (l ++ l') ↔ Booked l ∨ Booked l' := by
  simp only [Booked, List.mem_append, or_and_right, exists_or]

/-- A call that is not about contexts is neither of the two marks. -/
theorem aborts_cons_outside {o : Op} (ho : o.Outside) {x : o.Ans} :
    aborts (⟨o, x⟩ :: l) = aborts l :=
  aborts_cons fun h : o = .withCancel => (h ▸ ho : Op.Outside .withCancel)

theorem booked_cons_outside {o : Op} (ho : o.Outside) {x : o.Ans} :
    Booked (⟨o, x⟩ :: l) ↔ Booked l := by
  have hne : ¬ ∃ b, o = .setControlBlock b := by
    intro h
    obtain ⟨b, rfl⟩ := h
    exact ho
  rw [booked_cons]
  exact or_iff_right hne

end marks

/-! ### Failing Calls -/

section failing
variable {α β : Type}

/-- Every run of `p` makes calls that are not about contexts, and ends as `Q`
    says, where the flag tells whether one of them has failed. -/
def Answers : Call α → (Bool → α → Prop) → Prop
  | .pure a, Q => Q false a
  | .call o k, Q => o.Outside ∧ ∀ x, Answers (k x) fun failed => Q (fails ⟨o, x⟩ || failed)

theorem Answers.mono {p : Call α} {Q Q' : Bool → α → Prop} (h : Answers p Q)
    (hQ : ∀ failed a, Q failed a → Q' failed a) : Answers p Q' := by
  induction p generalizing Q Q' with
  | pure a => exact hQ _ _ h
  | call o k ih => exact ⟨h.1, fun x => ih x (h.2 x) fun _ _ => hQ _ _⟩

theorem Answers.bind {p : Call α} {f : α → Call β} {Q : Bool → β → Prop}
    (h : Answers p fun failed a => Answers (f a) fun failed' => Q (failed || failed')) :
    Answers (p.bind f) Q := by
  induction p generalizing Q with
  | pure a => exact h
  | call o k ih =>
    refine ⟨h.1, fun x => ih x ((h.2 x).mono fun failed a ha => ha.mono fun failed' b hb => ?_)⟩
    rwa [Bool.or_assoc] at hb

theorem Answers.outside {p : Call α} {Q : Bool → α → Prop} (h : Answers p Q) :
    p.Only Op.Outside := by
  induction p generalizing Q with
  | pure a => trivial
  | call o k ih => exact ⟨h.1, fun x => ih x (h.2 x)⟩

end failing

theorem mountVolumes_answers (vmPodUID volumePodUID : UID) (l : List Volume) (vm : VM) :
    Answers (mountVolumes vmPodUID volumePodUID l vm) fun failed r => r.2.isSome = failed := by
  induction l generalizing volumePodUID vm with
  | nil => exact rfl
  | cons v rest ih =>
    unfold mountVolumes
    split
    · split
      · exact ih ..
      · split
        · refine ⟨trivial, fun a => ?_⟩
          cases a with
          | error e => exact rfl
          | ok block =>
            refine ⟨trivial, fun a => ?_⟩
            cases a with
            | error e => exact rfl
            | ok _ => exact ih ..
        · exact ih ..
    · exact ih ..

/-! ### Everything Else -/

theorem mountHotplugVolumes_outside (vm : VM) (vmPodUID volumePodUID : UID) :
    (mountHotplugVolumes vm vmPodUID volumePodUID).Only Op.Outside := by
  refine only_ask trivial fun a => ?_
  cases a with
  | error e => trivial
  | ok _ => exact (mountVolumes_answers ..).outside

theorem addHotplugVolumesToVM_outside (info : VmInfo) (l : List Volume) (vm : VM) :
    (addHotplugVolumesToVM info l vm).Only Op.Outside := by
  induction l generalizing vm with
  | nil => trivial
  | cons v rest ih =>
    unfold addHotplugVolumesToVM
    split
    · split
      · dsimp only
        split
        · exact ih ..
        · refine only_ask trivial fun a => ?_
          cases a with
          | error e => trivial
          | ok block =>
            refine only_ask trivial fun a => ?_
            cases a with
            | error e => trivial
            | ok _ => exact ih ..
      · exact ih ..
    · exact ih ..

theorem removeHotplugVolumesFromVM_outside (vm : VM) (l : List String) :
    (removeHotplugVolumesFromVM vm l).Only Op.Outside := by
  induction l with
  | nil => trivial
  | cons disk rest ih =>
    unfold removeHotplugVolumesFromVM
    split
    · exact ih
    · refine only_ask trivial fun a => ?_
      cases a with
      | error e => trivial
      | ok _ => exact ih

theorem reconcileHotplugVolumes_outside (vm : VM) (info : VmInfo) :
    (reconcileHotplugVolumes vm info).Only Op.Outside := by
  refine Prog.Only.bind (mountHotplugVolumes_outside ..) fun r => ?_
  obtain ⟨vm, e | _⟩ := r
  · refine Prog.Only.bind (addHotplugVolumesToVM_outside ..) fun r => ?_
    obtain ⟨vm, e | _⟩ := r
    · refine Prog.Only.bind (removeHotplugVolumesFromVM_outside ..) fun r => ?_
      cases r with
      | some e => trivial
      | none =>
        refine only_ask trivial fun a => ?_
        cases a <;> trivial
    · trivial
  · trivial

theorem cleanup_outside : cleanup.Only Op.Outside := by
  refine only_ask trivial fun a => ?_
  cases a <;> trivial

theorem reconcileDeletingVM_outside (vm : VM) (vmPod : Pod) :
    (reconcileDeletingVM vm vmPod).Only Op.Outside := by
  have hdelete : (deleteGuest vm vmPod).Only Op.Outside := by
    unfold deleteGuest
    split
    · refine only_ask trivial fun a => ?_
      cases a with
      | error e =>
        dsimp only
        split <;> trivial
      | ok _ => trivial
    · trivial
  refine Prog.Only.bind hdelete fun r => ?_
  cases r with
  | some e => trivial
  | none => exact Prog.Only.bind cleanup_outside fun _ => trivial

theorem boot_outside (vm : VM) : (boot vm).Only Op.Outside := by
  refine only_ask trivial fun a => ?_
  cases a <;> trivial

theorem setMemlock_outside (vm : VM) (config : VmConfig) :
    (setMemlock vm config).Only Op.Outside := by
  unfold setMemlock
  split
  · refine only_ask trivial fun a => ?_
    cases a with
    | error e => trivial
    | ok pid =>
      refine only_ask trivial fun a => ?_
      cases a <;> trivial
  · trivial

theorem createVM_outside (vm : VM) : (createVM vm).Only Op.Outside := by
  refine only_ask trivial fun a => ?_
  cases a with
  | error e => cases e <;> trivial
  | ok config =>
    refine Prog.Only.bind (setMemlock_outside vm config) fun r => ?_
    cases r with
    | some e => trivial
    | none =>
      refine only_ask trivial fun a => ?_
      cases a with
      | error e => trivial
      | ok _ => exact boot_outside vm

theorem reconcileScheduled_outside (vm : VM) : (reconcileScheduled vm).Only Op.Outside := by
  refine Prog.Only.bind (mountHotplugVolumes_outside ..) fun r => ?_
  obtain ⟨vm, e | _⟩ := r
  · refine only_ask trivial fun a => ?_
    cases a with
    | error e =>
      dsimp only
      split
      · exact Prog.Only.bind (createVM_outside vm) fun _ => trivial
      · trivial
    | ok info =>
      dsimp only
      split
      · exact Prog.Only.bind (boot_outside vm) fun _ => trivial
      all_goals trivial
  · trivial

theorem reconcileRunning_outside (node : String) (vm : VM) :
    (reconcileRunning node vm).Only Op.Outside := by
  unfold reconcileRunning
  split
  · trivial
  · refine only_ask trivial fun a => ?_
    cases a with
    | error e => trivial
    | ok info =>
      dsimp only
      split
      · split
        · refine only_ask trivial fun a => ?_
          cases a with
          | error e => trivial
          | ok _ => exact reconcileHotplugVolumes_outside vm info
        · split
          · unfold power
            dsimp only
            split
            · exact only_ask trivial fun _ => trivial
            · trivial
          · exact reconcileHotplugVolumes_outside vm info
      · trivial

/-! ### Rules

    Before the control block is written, a case of the migration ends in a
    result and a memory, with or without a call that has failed after a context
    was made. -/

section rules
variable {α β : Type} {u : UID} {s : Contexts}

/-- Every run of `p` from `s` ends as `E` says, where the flag tells whether
    it aborts, and has not come to the bookkeeping. -/
def Ends (u : UID) (p : Call α) (s : Contexts) (E : Bool → α → Contexts → Prop) : Prop :=
  Prog.Must (Contexts.sem u) p s fun l a s' => ¬ Booked l ∧ E (aborts l) a s'

theorem Answers.exec {p : Call α} {Q : Bool → α → Prop} (h : Answers p Q)
    {l : List (Prog.Entry api)} {a : α} {s' : Contexts}
    (hexec : Prog.Exec (Contexts.sem u) p s l a s') :
    s' = s ∧ ¬ Booked l ∧ aborts l = false ∧ Q (l.any fails) a := by
  induction hexec generalizing Q with
  | pure a s => exact ⟨rfl, booked_nil, rfl, h⟩
  | call hans _ ih =>
    obtain ⟨rfl, hbooked, haborts, hQ⟩ := ih (h.2 _)
    exact ⟨Contexts.sem_outside h.1 hans, fun hb => hbooked ((booked_cons_outside h.1).mp hb),
      (aborts_cons_outside h.1).trans haborts, hQ⟩

theorem must_then {o : Op} {f : o.Ans → Call α} {Q : List (Prog.Entry api) → α → Contexts → Prop}
    (h : ∀ (x : o.Ans) s₁, Contexts.sem u o s x s₁ →
      Prog.Must (Contexts.sem u) (f x) s₁ fun l a s' => Q (⟨o, x⟩ :: l) a s') :
    Prog.Must (Contexts.sem u) (ask o >>= f) s Q :=
  Prog.Must.call h

theorem Ends.pure {a : α} {E : Bool → α → Contexts → Prop} (h : E false a s) :
    Ends u (.pure a) s E :=
  Prog.Must.pure ⟨booked_nil, h⟩

theorem Ends.mono {p : Call α} {E E' : Bool → α → Contexts → Prop} (h : Ends u p s E)
    (hE : ∀ o a s', E o a s' → E' o a s') : Ends u p s E' :=
  Prog.Must.mono h fun _ _ _ h => ⟨h.1, hE _ _ _ h.2⟩

/-- What makes no call about contexts leaves them alone. -/
theorem Ends.outside {p : Call α} (hp : p.Only Op.Outside) {f : α → Call β}
    {E : Bool → β → Contexts → Prop} (h : ∀ a, Ends u (f a) s E) : Ends u (p.bind f) s E := by
  induction p with
  | pure a => exact h a
  | call o k ih =>
    refine Prog.Must.call fun x s₁ hans => ?_
    obtain rfl := Contexts.sem_outside hp.1 hans
    refine Prog.Must.mono (ih x (hp.2 x)) fun l a s' h => ?_
    have hsame : aborts (⟨o, x⟩ :: l) = aborts l := aborts_cons_outside hp.1
    exact ⟨fun hb => h.1 ((booked_cons_outside hp.1).mp hb), hsame ▸ h.2⟩

theorem Ends.ask {o : Op} {f : o.Ans → Call β} {E : Bool → β → Contexts → Prop}
    (ho : o.Outside) (h : ∀ a, Ends u (f a) s E) : Ends u (Virtink.ask o >>= f) s E :=
  Ends.outside (p := Virtink.ask o) ⟨ho, fun _ => trivial⟩ h

theorem Ends.withCancel {f : Nat → Call β} {E : Bool → β → Contexts → Prop}
    (h : ∀ ctx, s.Fresh ctx → Answers (f ctx) fun failed a => E failed a (s.grant u ctx)) :
    Ends u (Virtink.ask .withCancel >>= f) s E := by
  refine must_then fun ctx s₁ hans l a s' hexec => ?_
  obtain ⟨hfresh, rfl⟩ := hans
  obtain ⟨rfl, hbooked, haborts, hE⟩ := (h ctx hfresh).exec hexec
  exact ⟨by simp [hbooked], by simpa [aborts, haborts] using hE⟩

theorem Ends.cancel {ctx : Nat} {f : Unit → Call β} {E : Bool → β → Contexts → Prop}
    (h : Ends u (f ()) (s.close ctx) E) : Ends u (Virtink.ask (.cancel ctx) >>= f) s E := by
  refine must_then fun x s₁ hans => ?_
  obtain rfl : s₁ = s.close ctx := hans
  refine Prog.Must.mono h fun l a s' h => ?_
  rw [aborts_cons (by simp)]
  exact ⟨by simp [h.1], h.2⟩

theorem Ends.deleteControlBlock {f : Unit → Call β} {E : Bool → β → Contexts → Prop}
    (h : Ends u (f ()) (Registry.put cancels s u {}) E) :
    Ends u (Virtink.ask .deleteControlBlock >>= f) s E := by
  refine must_then fun x s₁ hans => ?_
  obtain rfl : s₁ = Registry.put cancels s u {} := hans
  refine Prog.Must.mono h fun l a s' h => ?_
  rw [aborts_cons (by simp)]
  exact ⟨by simp [h.1], h.2⟩

end rules

end VMDaemon

end Virtink
