import Mathlib.Data.List.Basic
import Mathlib.Logic.Function.Basic
import Mathlib.Logic.Relation

/-! # Threads and Channels

    Threads share a state and communicate over channels. A channel has room for
    some values; without any room a send takes place together with a receive.
    A channel that was never made is nil: sends to it and receives from it wait
    forever (`Steps.blocked`).

    A thread keeps its place in the list of threads for good, and the ones it
    starts are added at the end. Channels are not closed here.
-/

namespace Channels

/-- What a thread does, as seen by the others. -/
inductive Act (C V : Type) where
  | inner
  | send (ch : C) (v : V)
  | receive (ch : C) (v : V)

/-- The channel that is needed for it. -/
def Act.channel {C V : Type} : Act C V → Option C
  | .inner => none
  | .send ch _ | .receive ch _ => some ch

/-- Threads `T` over a shared state `G`, with channels `C` for values `V`. -/
structure Net (G T C V : Type) where
  /-- The room of a channel, none for a nil channel. -/
  capacity : C → Option Nat
  /-- A step of a thread: the state and the thread after it, and the threads it starts. -/
  step : G → T → Act C V → G → T → List T → Prop
  /-- What the environment does, and the threads it starts. -/
  event : G → G → List T → Prop

/-- The shared state, the values in the channels, and the threads. -/
structure Conf (G T C V : Type) where
  shared  : G
  buffer  : C → List V
  threads : List T

/-- The thread of this number is there. -/
abbrev Conf.At {G T C V : Type} (c : Conf G T C V) (i : Nat) (t : T) : Prop :=
  c.threads[i]? = some t

/-! ### Places of Threads -/

section threads
variable {T : Type} {threads new : List T} {t t' u : T} {i j : Nat}

/-- The threads after a step of one of them. -/
def advance (threads : List T) (i : Nat) (t : T) (new : List T) : List T :=
  threads.set i t ++ new

theorem lt_of_thread (h : threads[i]? = some t) : i < threads.length :=
  (List.getElem?_eq_some_iff.mp h).1

theorem advance_self (h : threads[i]? = some t) : (advance threads i t' new)[i]? = some t' := by
  have hi := lt_of_thread h
  rw [advance, List.getElem?_append_left (by simpa using hi), List.getElem?_set_self hi]

theorem advance_of_ne (hj : threads[j]? = some u) (hij : i ≠ j) :
    (advance threads i t' new)[j]? = some u := by
  have hlt := lt_of_thread hj
  rw [advance, List.getElem?_append_left (by simpa using hlt), List.getElem?_set_ne hij, hj]

/-- A thread that is not where the one that moves is, is another one. -/
theorem advance_other (hi : threads[i]? = some t) (hj : threads[j]? = some u) (hne : t ≠ u) :
    (advance threads i t' new)[j]? = some u := by
  refine advance_of_ne hj ?_
  rintro rfl
  rw [hi] at hj
  exact hne (Option.some.inj hj)

theorem advance_new : (advance threads i t' [u])[threads.length]? = some u := by
  simp [advance]

theorem thread_append (h : threads[i]? = some t) : (threads ++ new)[i]? = some t :=
  (List.getElem?_append_left (lt_of_thread h)).trans h

theorem mem_advance (h : u ∈ advance threads i t' new) : u = t' ∨ u ∈ threads ∨ u ∈ new := by
  rcases List.mem_append.mp h with h | h
  · rcases List.mem_or_eq_of_mem_set h with h | h
    · exact .inr (.inl h)
    · exact .inl h
  · exact .inr (.inr h)

end threads

variable {G T C V : Type}

/-- Whatever the thread can do next, it needs a nil channel for it. -/
def Blocked (net : Net G T C V) (t : T) : Prop :=
  ∀ g a g' t' new, net.step g t a g' t' new →
    ∃ ch, a.channel = some ch ∧ net.capacity ch = none

/-- A thread that needs no nil channel for its step is not blocked. -/
theorem Blocked.ne {net : Net G T C V} {t u u' : T} {g g' : G} {a : Act C V} {new : List T}
    (hblocked : Blocked net t) (h : net.step g u a g' u' new)
    (hmade : ∀ ch, a.channel = some ch → net.capacity ch ≠ none) : u ≠ t := by
  rintro rfl
  obtain ⟨ch, hchannel, hnil⟩ := hblocked _ _ _ _ _ h
  exact hmade ch hchannel hnil

/-! ### Runs -/

variable [DecidableEq C]

/-- One step of the whole. -/
inductive Step (net : Net G T C V) (c : Conf G T C V) : Conf G T C V → Prop where
  | inner {i : Nat} {t t' : T} {g : G} {new : List T} :
      c.At i t → net.step c.shared t .inner g t' new →
      Step net c ⟨g, c.buffer, advance c.threads i t' new⟩
  /-- A value is put into the channel. -/
  | put {i n : Nat} {t t' : T} {ch : C} {v : V} {g : G} {new : List T} :
      c.At i t → net.step c.shared t (.send ch v) g t' new →
      net.capacity ch = some n → (c.buffer ch).length < n →
      Step net c ⟨g, Function.update c.buffer ch (c.buffer ch ++ [v]), advance c.threads i t' new⟩
  /-- The oldest value is taken from the channel. -/
  | take {i n : Nat} {t t' : T} {ch : C} {v : V} {rest : List V} {g : G} {new : List T} :
      c.At i t → net.step c.shared t (.receive ch v) g t' new →
      net.capacity ch = some n → c.buffer ch = v :: rest →
      Step net c ⟨g, Function.update c.buffer ch rest, advance c.threads i t' new⟩
  /-- A value is handed over. -/
  | meet {i j : Nat} {t t' u u' : T} {ch : C} {v : V} {g g' : G} {new new' : List T} :
      i ≠ j → c.At i t → c.At j u →
      net.step c.shared t (.send ch v) g t' new → net.step g u (.receive ch v) g' u' new' →
      net.capacity ch = some 0 →
      Step net c ⟨g', c.buffer, advance (advance c.threads i t' new) j u' new'⟩
  | event {g : G} {new : List T} :
      net.event c.shared g new → Step net c ⟨g, c.buffer, c.threads ++ new⟩

/-- Any number of steps. -/
abbrev Steps (net : Net G T C V) : Conf G T C V → Conf G T C V → Prop :=
  Relation.ReflTransGen (Step net)

/-! ### Taking Steps -/

/-- Thread `i` is no longer `t` but `t'`, and has started these threads. -/
structure Moved (c : Conf G T C V) (i : Nat) (t t' : T) (new : List T) (c' : Conf G T C V) :
    Prop where
  self    : c'.At i t'
  other   : ∀ {j u}, c.At j u → t ≠ u → c'.At j u
  started : ∀ {u}, new = [u] → c'.At c.threads.length u

section taking
variable (net : Net G T C V) {c : Conf G T C V} {i j : Nat} {t t' u u' : T} {ch : C} {v : V}
  {g g' : G} {new : List T}

omit [DecidableEq C] in
theorem moved_advance (hi : c.At i t) (b : C → List V) :
    Moved c i t t' new ⟨g, b, advance c.threads i t' new⟩ where
  self := advance_self hi
  other hj hne := advance_other hi hj hne
  started hnew := by
    subst hnew
    exact advance_new

theorem exists_inner (hi : c.At i t) (h : net.step c.shared t .inner g t' new) :
    ∃ c', Step net c c' ∧ c'.shared = g ∧ c'.buffer = c.buffer ∧ Moved c i t t' new c' :=
  ⟨_, .inner hi h, rfl, rfl, moved_advance hi _⟩

theorem exists_put (hi : c.At i t) (h : net.step c.shared t (.send ch v) g t' new) {n : Nat}
    (hn : net.capacity ch = some n) (hroom : (c.buffer ch).length < n) :
    ∃ c', Step net c c' ∧ c'.shared = g ∧
      c'.buffer = Function.update c.buffer ch (c.buffer ch ++ [v]) ∧ Moved c i t t' new c' :=
  ⟨_, .put hi h hn hroom, rfl, rfl, moved_advance hi _⟩

theorem exists_take (hi : c.At i t) (h : net.step c.shared t (.receive ch v) g t' new) {n : Nat}
    (hn : net.capacity ch = some n) {rest : List V} (hbuffer : c.buffer ch = v :: rest) :
    ∃ c', Step net c c' ∧ c'.shared = g ∧ c'.buffer = Function.update c.buffer ch rest ∧
      Moved c i t t' new c' :=
  ⟨_, .take hi h hn hbuffer, rfl, rfl, moved_advance hi _⟩

theorem exists_meet (hi : c.At i t) (hj : c.At j u) (hne : t ≠ u)
    (hsend : net.step c.shared t (.send ch v) g t' [])
    (hreceive : net.step g u (.receive ch v) g' u' []) (hn : net.capacity ch = some 0) :
    ∃ c', Step net c c' ∧ c'.shared = g' ∧ c'.At i t' ∧ c'.At j u' ∧
      ∀ {k w}, c.At k w → t ≠ w → u ≠ w → c'.At k w := by
  have hij : i ≠ j := by
    rintro rfl
    exact hne (Option.some.inj (hi.symm.trans hj))
  have hreceiver : (advance c.threads i t' [])[j]? = some u := advance_of_ne hj hij
  refine ⟨_, .meet hij hi hj hsend hreceive hn, rfl, ?_, advance_self hreceiver, ?_⟩
  · exact advance_of_ne (advance_self hi) hij.symm
  · exact fun hk hsender hne => advance_other hreceiver (advance_other hi hk hsender) hne

theorem exists_event (h : net.event c.shared g new) :
    ∃ c', Step net c c' ∧ c'.shared = g ∧ c'.buffer = c.buffer ∧
      (∀ {j u}, c.At j u → c'.At j u) ∧ ∀ {u}, new = [u] → c'.At c.threads.length u := by
  refine ⟨_, .event h, rfl, rfl, fun hj => thread_append hj, ?_⟩
  rintro u rfl
  simp [Conf.At]

end taking

/-! ### Waiting Forever -/

theorem Step.blocked {net : Net G T C V} {c c' : Conf G T C V} {t : T} {i : Nat}
    (hblocked : Blocked net t) (h : Step net c c') (hi : c.At i t) :
    c'.At i t := by
  have hmade : ∀ {ch ch' : C} {n : Nat}, net.capacity ch = some n → some ch = some ch' →
      net.capacity ch' ≠ none := by
    intro ch ch' n hcapacity heq
    cases heq
    simp [hcapacity]
  cases h with
  | inner hk hstep =>
    exact advance_other hk hi (hblocked.ne hstep fun ch hch => by cases hch)
  | put hk hstep hcapacity _ =>
    exact advance_other hk hi (hblocked.ne hstep fun _ => hmade hcapacity)
  | take hk hstep hcapacity _ =>
    exact advance_other hk hi (hblocked.ne hstep fun _ => hmade hcapacity)
  | meet hne hk hj hsend hreceive hcapacity =>
    -- neither of the two is the blocked one
    have hsender := hblocked.ne hsend fun _ => hmade hcapacity
    have hreceiver := hblocked.ne hreceive fun _ => hmade hcapacity
    exact advance_other (advance_of_ne hj hne) (advance_other hk hi hsender) hreceiver
  | event _ => exact thread_append hi

/-- **A nil channel blocks forever.** -/
theorem Steps.blocked {net : Net G T C V} {c c' : Conf G T C V} {t : T} {i : Nat}
    (hblocked : Blocked net t) (h : Steps net c c') (hi : c.At i t) :
    c'.At i t := by
  induction h with
  | refl => exact hi
  | tail _ hstep ih => exact hstep.blocked hblocked ih

/-! ### Invariants -/

/-- What a thread keeps up on its own: something about the shared state, and
    something about itself and the threads it starts. -/
def Upholds (net : Net G T C V) (I : G → Prop) (J : T → Prop) : Prop :=
  ∀ {g t a g' t' new}, net.step g t a g' t' new → I g → J t →
    I g' ∧ J t' ∧ ∀ u ∈ new, J u

theorem Step.upheld {net : Net G T C V} {I : G → Prop} {J : T → Prop} (hstep : Upholds net I J)
    (hevent : ∀ {g g' new}, net.event g g' new → I g → I g' ∧ ∀ u ∈ new, J u)
    {c c' : Conf G T C V} (h : Step net c c') (hshared : I c.shared)
    (hthreads : ∀ t ∈ c.threads, J t) : I c'.shared ∧ ∀ t ∈ c'.threads, J t := by
  have hadvance : ∀ {threads new : List T} {i : Nat} {t' : T}, (∀ t ∈ threads, J t) → J t' →
      (∀ t ∈ new, J t) → ∀ t ∈ advance threads i t' new, J t := by
    intro threads new i t' hall ht' hnew t ht
    rcases mem_advance ht with rfl | ht | ht
    · exact ht'
    · exact hall t ht
    · exact hnew t ht
  cases h with
  | inner hi hmove =>
    obtain ⟨hg, ht, hnew⟩ := hstep hmove hshared (hthreads _ (List.mem_of_getElem? hi))
    exact ⟨hg, hadvance hthreads ht hnew⟩
  | put hi hmove | take hi hmove =>
    obtain ⟨hg, ht, hnew⟩ := hstep hmove hshared (hthreads _ (List.mem_of_getElem? hi))
    exact ⟨hg, hadvance hthreads ht hnew⟩
  | meet _ hi hj hsend hreceive =>
    -- the receiver finds the state as the sender leaves it
    obtain ⟨hg, ht, hnew⟩ := hstep hsend hshared (hthreads _ (List.mem_of_getElem? hi))
    obtain ⟨hg', hu, hnew'⟩ := hstep hreceive hg (hthreads _ (List.mem_of_getElem? hj))
    exact ⟨hg', hadvance (hadvance hthreads ht hnew) hu hnew'⟩
  | event happens =>
    obtain ⟨hg, hnew⟩ := hevent happens hshared
    refine ⟨hg, fun t ht => ?_⟩
    rcases List.mem_append.mp ht with ht | ht
    · exact hthreads t ht
    · exact hnew t ht

/-- **What every thread keeps up** holds in every state of a run. -/
theorem Steps.upheld {net : Net G T C V} {I : G → Prop} {J : T → Prop} (hstep : Upholds net I J)
    (hevent : ∀ {g g' new}, net.event g g' new → I g → I g' ∧ ∀ u ∈ new, J u)
    {c c' : Conf G T C V} (h : Steps net c c') (hshared : I c.shared)
    (hthreads : ∀ t ∈ c.threads, J t) : I c'.shared ∧ ∀ t ∈ c'.threads, J t := by
  induction h with
  | refl => exact ⟨hshared, hthreads⟩
  | tail _ hlast ih => exact hlast.upheld hstep hevent ih.1 ih.2

/-! ### Room -/

/-- No channel holds more values than it has room for. -/
def Bounded (net : Net G T C V) (c : Conf G T C V) : Prop :=
  ∀ ch n, net.capacity ch = some n → (c.buffer ch).length ≤ n

theorem Step.bounded {net : Net G T C V} {c c' : Conf G T C V} (h : Step net c c')
    (hc : Bounded net c) : Bounded net c' := by
  intro ch n hn
  cases h with
  | inner | meet | event => exact hc ch n hn
  | @put _ m _ _ ch' v _ _ _ _ hm hroom =>
    by_cases hch : ch = ch'
    · subst hch
      rw [hm] at hn
      cases hn
      simp only [Function.update_self, List.length_append, List.length_singleton]
      omega
    · simpa [Function.update_of_ne hch] using hc ch n hn
  | @take _ m _ _ ch' v rest _ _ _ _ hm hbuffer =>
    by_cases hch : ch = ch'
    · subst hch
      have hle := hc ch n hn
      rw [hbuffer, List.length_cons] at hle
      simp only [Function.update_self]
      omega
    · simpa [Function.update_of_ne hch] using hc ch n hn

theorem Steps.bounded {net : Net G T C V} {c c' : Conf G T C V} (h : Steps net c c')
    (hc : Bounded net c) : Bounded net c' := by
  induction h with
  | refl => exact hc
  | tail _ hstep ih => exact hstep.bounded ih

end Channels
