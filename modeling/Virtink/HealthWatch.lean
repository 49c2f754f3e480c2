import Virtink.Daemon.DevicePlugin

/-! # The Watcher of a Device

    `newDevicePlugin` does not make the channel `health`. So `healthCheck` waits
    forever at the first event of the device file: the kubelet is not told, and
    the removal of the socket, by which a restart of the kubelet is noticed, is
    not seen any more. A plugin watches as it should exactly if there are no
    events of the device file (`watchful_iff`). With `make(chan string)` it
    would in any case (`watchful_of_made`).
-/

namespace Virtink

namespace DevicePlugins

open Channels

/-! ### What Is Expected -/

/-- The device file was created, removed or renamed. -/
def DevicePlugin.concerns (dp : DevicePlugin) (event : Event) : Bool :=
  dp.devicePath == event.name &&
    (event.op == Create || event.op == Remove || event.op == Rename)

/-- A `ListAndWatch` loop is running. -/
def Listening (c : PluginConf) : Prop :=
  ∃ j stream, c.At j (.listAndWatch stream) ∧ stream.running = true

/-- The `healthCheck` has opened its watcher and has not returned. -/
def Check.watches : Check → Bool
  | .watching | .reporting _ => true
  | _ => false

/-- Whatever has happened and however the threads took turns, while some
    `ListAndWatch` loop is running: -/
structure Watchful (dp : DevicePlugin) (events : List Event) : Prop where
  /-- No `healthCheck` waits forever at the channel. -/
  unblocked : ∀ c, Steps (net dp) (started dp events) c → Listening c →
    ∀ i run health, c.At i (.healthCheck run (.reporting health)) →
    ∃ c', Steps (net dp) c c' ∧ ¬ c'.At i (.healthCheck run (.reporting health))
  /-- What it sends reaches the kubelet. -/
  advertised : ∀ c, Steps (net dp) (started dp events) c → Listening c →
    ∀ i run health, c.At i (.healthCheck run (.reporting health)) →
    ∃ c' j, Steps (net dp) c c' ∧
      c'.At j (.listAndWatch (.listening (some (c.shared.dp.withHealth health).devices)))
  /-- After the removal of the socket it returns and the plugin registers again. -/
  restarts : ∀ c, Steps (net dp) (started dp events) c → Listening c →
    ∀ k i run check queue event, c.At k (.start (.waiting run)) →
    c.At i (.healthCheck run check) → check.watches = true →
    c.shared.queues run = some queue → event ∈ queue → c.shared.dp.react event = .stop →
    ∃ c', Steps (net dp) c c' ∧ c'.At i (.healthCheck run .done) ∧
      c.shared.registrations < c'.shared.registrations

/-! ### Reactions -/

theorem concerns_of_report {dp : DevicePlugin} {event : Event} {health : String}
    (h : dp.react event = .report health) : dp.concerns event = true := by
  simp only [DevicePlugin.react] at h
  split at h
  · next hname =>
    split at h
    · next hop => rcases hop with hop | hop <;> simp [DevicePlugin.concerns, hname, hop]
    · split at h
      · next hop => simp [DevicePlugin.concerns, hname, hop]
      · cases h
  · split at h <;> cases h

theorem report_of_concerns {dp : DevicePlugin} {event : Event} (h : dp.concerns event = true) :
    ∃ health, dp.react event = .report health := by
  simp only [DevicePlugin.concerns, Bool.and_eq_true, beq_iff_eq, Bool.or_eq_true] at h
  simp only [DevicePlugin.react, if_pos h.1]
  by_cases hremoved : event.op = Remove ∨ event.op = Rename
  · exact ⟨_, if_pos hremoved⟩
  · have hcreated : event.op = Create := by
      rcases h.2 with (hop | hop) | hop
      · exact hop
      · exact absurd (.inl hop) hremoved
      · exact absurd (.inr hop) hremoved
    exact ⟨_, by rw [if_neg hremoved, if_pos hcreated]⟩

theorem concerns_congr {dp dp' : DevicePlugin} (h : dp'.devicePath = dp.devicePath)
    (event : Event) : dp'.concerns event = dp.concerns event := by
  rw [DevicePlugin.concerns, DevicePlugin.concerns, h]

theorem withSocket_devicePath (dp : DevicePlugin) :
    dp.withSocket.devicePath = dp.devicePath := by
  simp only [DevicePlugin.withSocket]

@[simp] theorem react_withHealth (dp : DevicePlugin) (health : String) (event : Event) :
    (dp.withHealth health).react event = dp.react event := rfl

/-! ### A Channel That Was Made -/

/-- The loop of `Start` is where it was. -/
def KeepsStart (c c' : PluginConf) : Prop :=
  ∀ k phase, c.At k (.start phase) → c'.At k (.start phase)

/-- A running `ListAndWatch` comes back to its `select`. -/
theorem listens (dp : DevicePlugin) {c : PluginConf} {j : Nat} {stream : Stream}
    (hj : c.At j (.listAndWatch stream)) (hrunning : stream.running = true) :
    ∃ c' last, Steps (net dp) c c' ∧ c'.At j (.listAndWatch (.listening last)) ∧
      c'.shared = c.shared ∧ KeepsStart c c' ∧
      ∀ {i run check}, c.At i (.healthCheck run check) → c'.At i (.healthCheck run check) := by
  cases stream with
  | listening last => exact ⟨c, last, .refl, hj, rfl, fun _ _ h => h, fun h => h⟩
  | sending last =>
    obtain ⟨c', hstep, hshared, -, hmoved⟩ := exists_inner (net dp) hj .tells
    exact ⟨c', _, .single hstep, hmoved.self, hshared,
      fun k phase hk => hmoved.other hk (by simp), fun hi => hmoved.other hi (by simp)⟩
  | returned err => cases hrunning

/-- What a `healthCheck` sends is received and told. -/
theorem delivers {dp : DevicePlugin} (hmade : dp.health = some 0) {c : PluginConf} {i j run : Nat}
    {health : String} {stream : Stream} (hi : c.At i (.healthCheck run (.reporting health)))
    (hj : c.At j (.listAndWatch stream)) (hrunning : stream.running = true) :
    ∃ c', Steps (net dp) c c' ∧ c'.At i (.healthCheck run .watching) ∧
      c'.At j (.listAndWatch (.listening (some (c.shared.dp.withHealth health).devices))) ∧
      c'.shared = { c.shared with dp := c.shared.dp.withHealth health } ∧ KeepsStart c c' := by
  obtain ⟨c₁, last, hsteps, hj₁, hshared₁, hkeeps, hchecks⟩ := listens dp hj hrunning
  -- the value is handed over, and then told
  obtain ⟨c₂, hmeet, hshared₂, hi₂, hj₂, hother⟩ :=
    exists_meet (net dp) (hchecks hi) hj₁ (by simp) .sendsHealth .hears hmade
  obtain ⟨c₃, htell, hshared₃, -, hmoved⟩ := exists_inner (net dp) hj₂ .tells
  have hshared : c₂.shared = { c.shared with dp := c.shared.dp.withHealth health } := by
    rw [hshared₂, hshared₁]
  refine ⟨c₃, (hsteps.tail hmeet).tail htell, hmoved.other hi₂ (by simp), ?_,
    hshared₃.trans hshared, ?_⟩
  · have htold := hmoved.self
    rwa [hshared] at htold
  · intro k phase hk
    exact hmoved.other (hother (hkeeps k phase hk) (by simp) (by simp)) (by simp)

/-! ### Until the Socket Is Removed -/

/-- A `healthCheck` can go on with these events: somebody receives what it has to
    send, or it has nothing to send. -/
def CanTake (dp : DevicePlugin) (c : PluginConf) (queue : List Event) : Prop :=
  dp.health = some 0 ∧ Listening c ∨ ∀ e ∈ queue, ∀ health, c.shared.dp.react e ≠ .report health

/-- It takes an event that does not make it return, and waits for the next one. -/
theorem takes_event {dp : DevicePlugin} {c : PluginConf} {i run : Nat} {event : Event}
    {rest : List Event} (hi : c.At i (.healthCheck run .watching))
    (hqueue : c.shared.queues run = some (event :: rest)) (hnot : c.shared.dp.react event ≠ .stop)
    (htake : CanTake dp c (event :: rest)) :
    ∃ c', Steps (net dp) c c' ∧ c'.At i (.healthCheck run .watching) ∧
      c'.shared.queues run = some rest ∧ CanTake dp c' rest ∧ KeepsStart c c' ∧
      c'.shared.dp.react = c.shared.dp.react ∧
      c'.shared.registrations = c.shared.registrations := by
  cases hreact : c.shared.dp.react event with
  | stop => exact absurd hreact hnot
  | ignore =>
    obtain ⟨c', hstep, hshared, -, hmoved⟩ := exists_inner (net dp) hi (.ignores hqueue hreact)
    refine ⟨c', .single hstep, hmoved.self, ?_, ?_, fun k phase hk => hmoved.other hk (by simp),
      by rw [hshared], by rw [hshared]⟩
    · simp only [hshared, Function.update_self]
    · rcases htake with ⟨hmade, j, stream, hj, hrunning⟩ | hnone
      · exact .inl ⟨hmade, j, stream, hmoved.other hj (by simp), hrunning⟩
      · rw [CanTake, hshared]
        exact .inr fun e he => hnone e (List.mem_cons_of_mem _ he)
  | report health =>
    obtain ⟨hmade, j, stream, hj, hrunning⟩ : dp.health = some 0 ∧ Listening c := by
      rcases htake with hlistening | hnone
      · exact hlistening
      · exact absurd hreact (hnone event List.mem_cons_self health)
    obtain ⟨c₁, hstep, hshared₁, -, hmoved⟩ := exists_inner (net dp) hi (.reports hqueue hreact)
    obtain ⟨c₂, hsteps, hi₂, hj₂, hshared₂, hkeeps⟩ :=
      delivers hmade hmoved.self (hmoved.other hj (by simp)) hrunning
    rw [hshared₁] at hshared₂
    refine ⟨c₂, hsteps.head hstep, hi₂, ?_, .inl ⟨hmade, j, _, hj₂, rfl⟩,
      fun k phase hk => hkeeps k phase (hmoved.other hk (by simp)), ?_, by rw [hshared₂]⟩
    · simp only [hshared₂, Function.update_self]
    · rw [hshared₂]
      exact funext (react_withHealth _ health)

/-- It takes one event after the other until it sees that the socket was removed. -/
theorem drains {dp : DevicePlugin} {i run : Nat} {event : Event} {queue : List Event} :
    ∀ {c : PluginConf}, c.At i (.healthCheck run .watching) →
      c.shared.queues run = some queue → event ∈ queue → c.shared.dp.react event = .stop →
      CanTake dp c queue →
      ∃ c', Steps (net dp) c c' ∧ c'.At i (.healthCheck run (.returned none)) ∧
        KeepsStart c c' ∧ c'.shared.registrations = c.shared.registrations := by
  -- the queue gets shorter with every event, and the removal is still in it
  induction queue with
  | nil =>
    intro c _ _ hevent
    cases hevent
  | cons e rest ih =>
    intro c hi hqueue hevent hstop htake
    by_cases hreact : c.shared.dp.react e = .stop
    · obtain ⟨c', hstep, hshared, -, hmoved⟩ := exists_inner (net dp) hi (.stops hqueue hreact)
      exact ⟨c', .single hstep, hmoved.self, fun k phase hk => hmoved.other hk (by simp),
        by rw [hshared]⟩
    · have hlater : event ∈ rest := by
        rcases List.mem_cons.mp hevent with rfl | hin
        · exact absurd hstop hreact
        · exact hin
      obtain ⟨c₁, hsteps₁, hi₁, hqueue₁, htake₁, hkeeps₁, hsame, hregistrations₁⟩ :=
        takes_event hi hqueue hreact htake
      obtain ⟨c', hsteps, hreturned, hkeeps, hregistrations⟩ :=
        ih hi₁ hqueue₁ hlater (by rw [hsame]; exact hstop) htake₁
      exact ⟨c', hsteps₁.trans hsteps, hreturned,
        fun k phase hk => hkeeps k phase (hkeeps₁ k phase hk),
        hregistrations.trans hregistrations₁⟩

/-! ### The Next Run -/

/-- The result of a `healthCheck` ends its `run`, if an error of `Serve` has not
    ended it before. -/
theorem run_ends {dp : DevicePlugin} {c : PluginConf} (hbounded : Bounded (net dp) c)
    {k i run : Nat} {err : Option String} (hk : c.At k (.start (.waiting run)))
    (hi : c.At i (.healthCheck run (.returned err))) :
    ∃ c', Steps (net dp) c c' ∧ c'.At k (.start .sleeping) ∧ c'.At i (.healthCheck run .done) ∧
      c'.shared = c.shared ∧
      ∀ {j stream}, c.At j (.listAndWatch stream) → c'.At j (.listAndWatch stream) := by
  have hcapacity : (net dp).capacity (.errChan run) = some 1 := rfl
  cases hbuffer : c.buffer (.errChan run) with
  | nil =>
    -- the result is put into the channel and taken from it
    obtain ⟨c₁, hput, hshared₁, hbuffer₁, hmoved₁⟩ :=
      exists_put (net dp) hi .checkSends hcapacity (by rw [hbuffer]; decide)
    have hfull : c₁.buffer (.errChan run) = [err] := by
      rw [hbuffer₁, Function.update_self, hbuffer, List.nil_append]
    obtain ⟨c₂, htake, hshared₂, -, hmoved₂⟩ :=
      exists_take (net dp) (hmoved₁.other hk (by simp)) .runReturns hcapacity hfull
    exact ⟨c₂, .tail (.single hput) htake, hmoved₂.self, hmoved₂.other hmoved₁.self (by simp),
      hshared₂.trans hshared₁, fun hj => hmoved₂.other (hmoved₁.other hj (by simp)) (by simp)⟩
  | cons v rest =>
    -- the error of `Serve` is taken first, which makes room for the result
    have hrest : rest = [] := by
      have hle := hbounded _ _ hcapacity
      rw [hbuffer, List.length_cons] at hle
      exact List.length_eq_zero_iff.mp (by omega)
    obtain ⟨c₁, htake, hshared₁, hbuffer₁, hmoved₁⟩ :=
      exists_take (net dp) hk .runReturns hcapacity hbuffer
    have hroom : (c₁.buffer (.errChan run)).length < 1 := by
      rw [hbuffer₁, Function.update_self, hrest]
      decide
    obtain ⟨c₂, hput, hshared₂, -, hmoved₂⟩ :=
      exists_put (net dp) (hmoved₁.other hi (by simp)) .checkSends hcapacity hroom
    exact ⟨c₂, .tail (.single htake) hput, hmoved₂.other hmoved₁.self (by simp), hmoved₂.self,
      hshared₂.trans hshared₁, fun hj => hmoved₂.other (hmoved₁.other hj (by simp)) (by simp)⟩

/-- `run` can get as far as its `healthCheck`. -/
theorem run_begins (dp : DevicePlugin) {c : PluginConf} {k : Nat} (hk : c.At k (.start .starting)) :
    ∃ c' i, Steps (net dp) c c' ∧ c'.At k (.start (.waiting c.shared.runs)) ∧
      c'.At i (.healthCheck c.shared.runs .watching) ∧
      c'.shared = { c.shared with
        dp := c.shared.dp.withSocket
        runs := c.shared.runs + 1
        registrations := c.shared.registrations + 1
        queues := Function.update c.shared.queues c.shared.runs (some []) } ∧
      ∀ {j t}, c.At j t → t ≠ .start .starting → (∀ run, t ≠ .start (.registering run)) →
        (∀ run, t ≠ .healthCheck run .opening) → c'.At j t := by
  -- the thread of `Serve` that is started first plays no part
  obtain ⟨c₁, hlisten, hshared₁, -, hmoved₁⟩ := exists_inner (net dp) hk .listen
  obtain ⟨c₂, hregister, hshared₂, -, hmoved₂⟩ := exists_inner (net dp) hmoved₁.self .register
  obtain ⟨c₃, hopen, hshared₃, -, hmoved₃⟩ := exists_inner (net dp) (hmoved₂.started rfl) .opens
  refine ⟨c₃, _, .tail (.tail (.single hlisten) hregister) hopen,
    hmoved₃.other hmoved₂.self (by simp), hmoved₃.self, ?_, ?_⟩
  · rw [hshared₃, hshared₂, hshared₁]
  · intro j t hj hstarting hregistering hopening
    exact hmoved₃.other (hmoved₂.other (hmoved₁.other hj hstarting.symm)
      (hregistering _).symm) (hopening _).symm

/-- The removal of the socket is seen, and the plugin registers again. -/
theorem registers_again {dp : DevicePlugin} {c : PluginConf} (hbounded : Bounded (net dp) c)
    {k i run : Nat} (hk : c.At k (.start (.waiting run))) (hi : c.At i (.healthCheck run .watching))
    {queue : List Event} {event : Event} (hqueue : c.shared.queues run = some queue)
    (hevent : event ∈ queue) (hstop : c.shared.dp.react event = .stop)
    (htake : CanTake dp c queue) :
    ∃ c', Steps (net dp) c c' ∧ c'.At i (.healthCheck run .done) ∧
      c.shared.registrations < c'.shared.registrations := by
  obtain ⟨c₁, hdrain, hi₁, hkeeps, hregistrations⟩ := drains hi hqueue hevent hstop htake
  obtain ⟨c₂, hend, hk₂, hi₂, hshared₂, -⟩ :=
    run_ends (hdrain.bounded hbounded) (hkeeps k _ hk) hi₁
  obtain ⟨c₃, hwake, hshared₃, -, hmoved⟩ := exists_inner (net dp) hk₂ .wakes
  obtain ⟨c₄, -, hbegin, -, -, hshared₄, hother⟩ := run_begins dp hmoved.self
  refine ⟨c₄, ((hdrain.trans hend).tail hwake).trans hbegin, ?_, ?_⟩
  · exact hother (hmoved.other hi₂ (by simp)) (by simp) (by simp) (by simp)
  · rw [hshared₄, hshared₃, hshared₂, hregistrations]
    exact Nat.lt_succ_self _

theorem bounded_started (dp : DevicePlugin) (events : List Event) :
    Bounded (net dp) (started dp events) :=
  fun _ _ _ => Nat.zero_le _

/-- **With `make(chan string)`** a plugin would watch as it should, whatever happens. -/
theorem watchful_of_made {dp : DevicePlugin} (hmade : dp.health = some 0) (events : List Event) :
    Watchful dp events where
  unblocked := by
    rintro c - ⟨j, stream, hj, hrunning⟩ i run health hi
    obtain ⟨c', hsteps, hi', -⟩ := delivers hmade hi hj hrunning
    exact ⟨c', hsteps, fun hstill => by cases hstill.symm.trans hi'⟩
  advertised := by
    rintro c - ⟨j, stream, hj, hrunning⟩ i run health hi
    obtain ⟨c', hsteps, -, hj', -⟩ := delivers hmade hi hj hrunning
    exact ⟨c', j, hsteps, hj'⟩
  restarts := by
    rintro c hreach ⟨j, stream, hj, hrunning⟩ k i run check queue event hk hi hwatches hqueue
      hevent hstop
    have hbounded := hreach.bounded (bounded_started dp events)
    cases check with
    | watching =>
      exact registers_again hbounded hk hi hqueue hevent hstop
        (.inl ⟨hmade, j, stream, hj, hrunning⟩)
    | reporting health =>
      obtain ⟨c₁, hsteps, hi₁, hj₁, hshared, hkeeps⟩ := delivers hmade hi hj hrunning
      obtain ⟨c', hsteps', hdone, hlt⟩ :=
        registers_again (hsteps.bounded hbounded) (hkeeps k _ hk) hi₁ (by rw [hshared]; exact hqueue)
          hevent (by rw [hshared]; exact hstop) (.inl ⟨hmade, j, _, hj₁, rfl⟩)
      rw [hshared] at hlt
      exact ⟨c', hsteps.trans hsteps', hdone, hlt⟩
    | opening | returned | done => cases hwatches

/-! ### No Event of the Device -/

/-- No event of the device file is under way. -/
structure QuietWorld (dp : DevicePlugin) (w : World) : Prop where
  path     : w.dp.devicePath = dp.devicePath
  upcoming : ∀ e ∈ w.upcoming, dp.concerns e = false
  queues   : ∀ run queue, w.queues run = some queue → ∀ e ∈ queue, dp.concerns e = false

/-- The thread is no `healthCheck` that reports something. -/
def NotReporting (t : Thread) : Prop :=
  ∀ run health, t ≠ .healthCheck run (.reporting health)

theorem QuietWorld.not_report {dp : DevicePlugin} {w : World} (h : QuietWorld dp w)
    {run : Nat} {queue : List Event} (hqueue : w.queues run = some queue) :
    ∀ e ∈ queue, ∀ health, w.dp.react e ≠ .report health := by
  intro e he health hreact
  have hconcerns := concerns_of_report hreact
  rw [concerns_congr h.path, h.queues run queue hqueue e he] at hconcerns
  cases hconcerns

/-- A watcher that gets a part of its queue, or none. -/
theorem QuietWorld.update {dp : DevicePlugin} {w : World} (h : QuietWorld dp w) {run : Nat}
    {queue : Option (List Event)} (hqueue : ∀ q, queue = some q → ∀ e ∈ q, dp.concerns e = false) :
    QuietWorld dp { w with queues := Function.update w.queues run queue } where
  path := h.path
  upcoming := h.upcoming
  queues run' q hq := by
    by_cases hrun : run' = run
    · subst hrun
      exact hqueue q (by simpa using hq)
    · exact h.queues run' q (by simpa [Function.update_of_ne hrun] using hq)

theorem moves_quiet (dp : DevicePlugin) : Upholds (net dp) (QuietWorld dp) NotReporting := by
  intro w t a w' t' new hmove hw ht
  have htail : ∀ {run event rest}, w.queues run = some (event :: rest) →
      ∀ q, some rest = some q → ∀ e ∈ q, dp.concerns e = false := by
    rintro run event rest hqueue q ⟨⟩ e he
    exact hw.queues run _ hqueue e (List.mem_cons_of_mem _ he)
  cases hmove with
  | listen | listenFails =>
    exact ⟨⟨(withSocket_devicePath w.dp).trans hw.path, hw.upcoming, hw.queues⟩,
      by simp [NotReporting], by simp [NotReporting]⟩
  | register | hears =>
    exact ⟨⟨hw.path, hw.upcoming, hw.queues⟩, by simp [NotReporting], by simp [NotReporting]⟩
  | opens => exact ⟨hw.update (by simp), by simp [NotReporting], by simp⟩
  | stops => exact ⟨hw.update (by simp), by simp [NotReporting], by simp⟩
  | ignores hqueue => exact ⟨hw.update (htail hqueue), by simp [NotReporting], by simp⟩
  | reports hqueue hreact =>
    exact absurd hreact (hw.not_report hqueue _ List.mem_cons_self _)
  | _ => exact ⟨hw, by simp [NotReporting], by simp⟩

theorem happens_quiet {dp : DevicePlugin} {w w' : World} {new : List Thread}
    (h : (net dp).event w w' new) (hw : QuietWorld dp w) :
    QuietWorld dp w' ∧ ∀ t ∈ new, NotReporting t := by
  cases h with
  | call => exact ⟨hw, by simp [NotReporting]⟩
  | @file event rest hupcoming =>
    have hmem := hw.upcoming
    rw [hupcoming] at hmem
    refine ⟨⟨hw.path, fun e he => hmem e (List.mem_cons_of_mem _ he), ?_⟩, by simp⟩
    intro run queue hqueue e he
    obtain ⟨q, hq, rfl⟩ := Option.map_eq_some_iff.mp hqueue
    rcases List.mem_append.mp he with he | he
    · exact hw.queues run q hq e he
    · rw [List.mem_singleton.mp he]
      exact hmem event List.mem_cons_self

/-- Without events of the device file nothing is ever reported. -/
theorem watchful_of_quiet {dp : DevicePlugin} {events : List Event}
    (hquiet : ∀ e ∈ events, dp.concerns e = false) : Watchful dp events := by
  have hstarted : QuietWorld dp (started dp events).shared :=
    ⟨rfl, hquiet, fun _ _ hqueue => by cases hqueue⟩
  have hinv : ∀ c, Steps (net dp) (started dp events) c →
      QuietWorld dp c.shared ∧ ∀ t ∈ c.threads, NotReporting t := fun c hreach =>
    hreach.upheld (moves_quiet dp) happens_quiet hstarted (by simp [started, NotReporting])
  have hnever : ∀ c, Steps (net dp) (started dp events) c → ∀ i run health,
      ¬ c.At i (.healthCheck run (.reporting health)) := fun c hreach i run health hi =>
    (hinv c hreach).2 _ (List.mem_of_getElem? hi) run health rfl
  refine ⟨?_, ?_, ?_⟩
  · exact fun c hreach _ i run health hi => absurd hi (hnever c hreach i run health)
  · exact fun c hreach _ i run health hi => absurd hi (hnever c hreach i run health)
  · intro c hreach _ k i run check queue event hk hi hwatches hqueue hevent hstop
    cases check with
    | watching =>
      exact registers_again (hreach.bounded (bounded_started dp events)) hk hi hqueue hevent hstop
        (.inr ((hinv c hreach).1.not_report hqueue))
    | reporting health => exact absurd hi (hnever c hreach i run health)
    | opening | returned | done => cases hwatches

/-! ### An Event of the Device -/

/-- The plugin is registered and watches, a `ListAndWatch` waits, nothing has
    happened that was not taken note of, and these events are to come. -/
structure Calm (dp : DevicePlugin) (c : PluginConf) (events : List Event) : Prop where
  path     : c.shared.dp.devicePath = dp.devicePath
  upcoming : c.shared.upcoming = events
  bounded  : Bounded (net dp) c
  threads  : ∃ k i j run last, c.At k (.start (.waiting run)) ∧
    c.At i (.healthCheck run .watching) ∧ c.At j (.listAndWatch (.listening last)) ∧
    c.shared.queues run = some []

theorem calm_started (dp : DevicePlugin) (events : List Event) :
    ∃ c, Steps (net dp) (started dp events) c ∧ Calm dp c events := by
  have hstart : (started dp events).At 0 (.start .starting) := rfl
  obtain ⟨c₁, i, hbegin, hk₁, hi₁, hshared₁, -⟩ := run_begins dp hstart
  have hruns : 0 < c₁.shared.runs := by rw [hshared₁]; exact Nat.succ_pos _
  -- the kubelet calls
  obtain ⟨c₂, hcall, hshared₂, -, hother, hnew⟩ :=
    exists_event (net dp) (Happens.call hruns (.inr rfl))
  have hsteps : Steps (net dp) (started dp events) c₂ := hbegin.tail hcall
  rw [hshared₁] at hshared₂
  refine ⟨c₂, hsteps, ⟨by rw [hshared₂]; exact withSocket_devicePath dp, by rw [hshared₂]; rfl,
    hsteps.bounded (bounded_started dp events),
    ⟨0, i, _, _, none, hother hk₁, hother hi₁, hnew rfl, ?_⟩⟩⟩
  simp only [hshared₂, Function.update_self]

/-- The next event is noted by the `healthCheck`. -/
theorem Calm.file {dp : DevicePlugin} {c : PluginConf} {event : Event} {rest : List Event}
    (h : Calm dp c (event :: rest)) :
    ∃ c', Step (net dp) c c' ∧ c'.shared.dp = c.shared.dp ∧ c'.shared.upcoming = rest ∧
      ∃ k i j run last, c'.At k (.start (.waiting run)) ∧ c'.At i (.healthCheck run .watching) ∧
        c'.At j (.listAndWatch (.listening last)) ∧ c'.shared.queues run = some [event] := by
  obtain ⟨k, i, j, run, last, hk, hi, hj, hqueue⟩ := h.threads
  obtain ⟨c', hstep, hshared, -, hother, -⟩ := exists_event (net dp) (Happens.file h.upcoming)
  refine ⟨c', hstep, by rw [hshared]; rfl, by rw [hshared]; rfl,
    ⟨k, i, j, run, last, hother hk, hother hi, hother hj, ?_⟩⟩
  simp only [hshared, World.deliver, hqueue, Option.map_some, List.nil_append]

/-- After an event that is not of the device file all is calm again. -/
theorem Calm.next {dp : DevicePlugin} {c : PluginConf} {event : Event} {rest : List Event}
    (h : Calm dp c (event :: rest)) (hnot : dp.concerns event = false) :
    ∃ c', Steps (net dp) c c' ∧ Calm dp c' rest := by
  obtain ⟨c₁, hfile, hdp, hupcoming, k, i, j, run, last, hk, hi, hj, hqueue⟩ := h.file
  have hpath : c₁.shared.dp.devicePath = dp.devicePath := by rw [hdp, h.path]
  have hbounded := hfile.bounded h.bounded
  cases hreact : c₁.shared.dp.react event with
  | report health =>
    have hconcerns := concerns_of_report hreact
    rw [concerns_congr hpath, hnot] at hconcerns
    cases hconcerns
  | ignore =>
    obtain ⟨c₂, hstep, hshared, -, hmoved⟩ := exists_inner (net dp) hi (.ignores hqueue hreact)
    refine ⟨c₂, .tail (.single hfile) hstep, ⟨by rw [hshared]; exact hpath,
      by rw [hshared]; exact hupcoming, hstep.bounded hbounded,
      ⟨k, i, j, run, last, hmoved.other hk (by simp), hmoved.self, hmoved.other hj (by simp), ?_⟩⟩⟩
    simp only [hshared, Function.update_self]
  | stop =>
    -- the socket was removed: the next run
    obtain ⟨c₂, hstop, hshared₂, -, hmoved₂⟩ := exists_inner (net dp) hi (.stops hqueue hreact)
    obtain ⟨c₃, hend, hk₃, -, hshared₃, hstreams⟩ :=
      run_ends (hstop.bounded hbounded) (hmoved₂.other hk (by simp)) hmoved₂.self
    obtain ⟨c₄, hwake, hshared₄, -, hmoved₄⟩ := exists_inner (net dp) hk₃ .wakes
    obtain ⟨c₅, i', hbegin, hk₅, hi₅, hshared₅, hother⟩ := run_begins dp hmoved₄.self
    have hj₄ := hmoved₄.other (hstreams (hmoved₂.other hj (by simp))) (by simp)
    have hsteps : Steps (net dp) c₁ c₅ := (((Relation.ReflTransGen.single hstop).trans hend).tail
      hwake).trans hbegin
    rw [hshared₄, hshared₃, hshared₂] at hshared₅
    refine ⟨c₅, hsteps.head hfile,
      ⟨by rw [hshared₅]; exact (withSocket_devicePath _).trans hpath,
      by rw [hshared₅]; exact hupcoming, hsteps.bounded hbounded,
      ⟨k, i', j, _, last, hk₅, hi₅, hother hj₄ (by simp) (by simp) (by simp), ?_⟩⟩⟩
    simp only [hshared₅, hshared₄, hshared₃, hshared₂, Function.update_self]

/-- A `healthCheck` that waits forever while a `ListAndWatch` loop is running. -/
def Stuck (dp : DevicePlugin) (c : PluginConf) : Prop :=
  Listening c ∧ ∃ i run health, c.At i (.healthCheck run (.reporting health)) ∧
    ∀ c', Steps (net dp) c c' → c'.At i (.healthCheck run (.reporting health))

/-- Over a nil channel nothing is ever reported. -/
theorem reporting_blocked {dp : DevicePlugin} (hnil : dp.health = none) (run : Nat)
    (health : String) : Blocked (net dp) (.healthCheck run (.reporting health)) := by
  intro w a w' t' new hmove
  cases hmove with
  | sendsHealth => exact ⟨.health, rfl, hnil⟩

/-- An event of the device file leads from a calm state to a stuck one. -/
theorem Calm.stuck {dp : DevicePlugin} (hnil : dp.health = none) {events : List Event} :
    ∀ {c : PluginConf}, Calm dp c events → (∃ e ∈ events, dp.concerns e = true) →
      ∃ c', Steps (net dp) c c' ∧ Stuck dp c' := by
  induction events with
  | nil =>
    rintro c - ⟨e, he, -⟩
    cases he
  | cons event rest ih =>
    intro c hcalm hsome
    by_cases hconcerns : dp.concerns event = true
    · obtain ⟨c₁, hfile, hdp, -, k, i, j, run, last, -, hi, hj, hqueue⟩ := hcalm.file
      have hpath : c₁.shared.dp.devicePath = dp.devicePath := by rw [hdp, hcalm.path]
      obtain ⟨health, hreact⟩ := report_of_concerns ((concerns_congr hpath event).trans hconcerns)
      obtain ⟨c₂, hreport, -, -, hmoved⟩ := exists_inner (net dp) hi (.reports hqueue hreact)
      exact ⟨c₂, .tail (.single hfile) hreport,
        ⟨j, _, hmoved.other hj (by simp), rfl⟩, i, run, health, hmoved.self,
        fun c' hsteps => hsteps.blocked (reporting_blocked hnil run health) hmoved.self⟩
    · obtain ⟨c₁, hnext, hcalm₁⟩ := hcalm.next (Bool.not_eq_true _ ▸ hconcerns)
      obtain ⟨e, he, heconcerns⟩ := hsome
      rcases List.mem_cons.mp he with rfl | hrest
      · exact absurd heconcerns hconcerns
      · obtain ⟨c', hsteps, hstuck⟩ := ih hcalm₁ ⟨e, hrest, heconcerns⟩
        exact ⟨c', hnext.trans hsteps, hstuck⟩

/-- A plugin without a channel gets stuck. -/
theorem exists_stuck (dp : DevicePlugin) (hnil : dp.health = none) {events : List Event}
    (h : ∃ e ∈ events, dp.concerns e = true) :
    ∃ c, Steps (net dp) (started dp events) c ∧ Stuck dp c := by
  obtain ⟨c₁, hstart, hcalm⟩ := calm_started dp events
  obtain ⟨c, hsteps, hstuck⟩ := hcalm.stuck hnil h
  exact ⟨c, hstart.trans hsteps, hstuck⟩

theorem Stuck.not_watchful {dp : DevicePlugin} {events : List Event} {c : PluginConf}
    (hreach : Steps (net dp) (started dp events) c) (h : Stuck dp c) : ¬ Watchful dp events := by
  obtain ⟨hlistening, i, run, health, hi, hforever⟩ := h
  intro hwatchful
  obtain ⟨c', hsteps, hmoved⟩ := hwatchful.unblocked c hreach hlistening i run health hi
  exact hmoved (hforever c' hsteps)

/-- **A new plugin watches as it should** exactly if the device file is neither
    created nor removed nor renamed. -/
theorem watchful_iff (deviceName devicePath : String) (deviceCount : Int) (events : List Event) :
    Watchful (newDevicePlugin deviceName devicePath deviceCount) events ↔
      ∀ e ∈ events, (newDevicePlugin deviceName devicePath deviceCount).concerns e = false := by
  constructor
  · intro hwatchful e he
    by_contra hconcerns
    obtain ⟨c, hreach, hstuck⟩ :=
      exists_stuck (newDevicePlugin deviceName devicePath deviceCount) rfl
        ⟨e, he, by simpa using hconcerns⟩
    exact hstuck.not_watchful hreach hwatchful
  · exact watchful_of_quiet

/-- `/dev/kvm` is removed, and then the socket, since the kubelet restarts. -/
def Sample.kvmEvents : List Event :=
  [ { name := "/dev/kvm", op := Remove },
    { name := "/var/lib/kubelet/device-plugins/virtink-kvm.sock", op := Remove } ]

/-- From some moment on neither the health nor the removal of the socket gets
    through, while the kubelet listens. -/
theorem kvm_watcher_stuck :
    (∃ c, Steps (net (newDevicePlugin "kvm" "/dev/kvm" 1000))
        (started (newDevicePlugin "kvm" "/dev/kvm" 1000) Sample.kvmEvents) c ∧
      Stuck (newDevicePlugin "kvm" "/dev/kvm" 1000) c) ∧
    ¬ Watchful (newDevicePlugin "kvm" "/dev/kvm" 1000) Sample.kvmEvents := by
  obtain ⟨c, hreach, hstuck⟩ :=
    exists_stuck (newDevicePlugin "kvm" "/dev/kvm" 1000) rfl
      ⟨{ name := "/dev/kvm", op := Remove }, List.mem_cons_self, by decide⟩
  exact ⟨⟨c, hreach, hstuck⟩, hstuck.not_watchful hreach⟩

end DevicePlugins

end Virtink
