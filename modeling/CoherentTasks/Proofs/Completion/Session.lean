import CoherentTasks.Proofs.Completion.Submitted
import CoherentTasks.Proofs.Completion.Waking

/-!
# Handles, waits and the register together

Signals fire, handles are joined, nodes are registered and forgotten, and
futures are created and polled, in any order. A future does nothing before it is
polled for the first time; one that waits for all submitted nodes reads the
register then.
-/

namespace CoherentTasks.Completion

open Handle (signalsOf)

/-- Related lists stay related if related members at one place are changed. -/
private theorem forall₂_modify {α : Type} {relation : α → α → Prop}
    {change other : α → α}
    (kept : ∀ first second,
      relation first second → relation (change first) (other second))
    {firsts seconds : List α} (related : List.Forall₂ relation firsts seconds)
    (place : Nat) :
    List.Forall₂ relation (firsts.modify place change)
      (seconds.modify place other) := by
  induction related generalizing place with
  | nil => simp
  | cons head tail induction =>
      cases place with
      | zero => exact .cons (kept _ _ head) tail
      | succ place => exact .cons head (induction place)

/-- What a future waits for. -/
inductive Target where
  | one (handle : Handle)
  /-- Everything in the register. -/
  | registered

def Target.covers (submitted : Submitted) : Target → List Handle
  | .one handle => [handle]
  | .registered => submitted.handles

/-- A future that was not polled yet, or a wait for the handles that it has
found to cover. -/
inductive Future (bell : Bell) where
  | created (target : Target)
  | started (covered : List Handle) (waiting : Waiting bell)

namespace Future

variable {bell : Bell}

/-- The handles that the future covers, or would cover if it was polled now. -/
def covers (submitted : Submitted) : Future bell → List Handle
  | .created target => target.covers submitted
  | .started covered _ => covered

def isReady : Future bell → Bool
  | .created _ => false
  | .started _ waiting => waiting.isReady

/-- The signals that the future has still to see. -/
def waiter (submitted : Submitted) : Future bell → Waiter
  | .created (.one handle) => .ofHandles [handle]
  | .created .registered => submitted.waitAll
  | .started _ waiting => ⟨waiting.remaining⟩

def poll (signals : Signals) (submitted : Submitted) : Future bell → Future bell
  | .created target => .started (target.covers submitted)
      ((Waiting.start (target.covers submitted)).poll (.settled signals))
  | .started covered waiting =>
    .started covered (waiting.poll (.settled signals))

/-- A wait that was started is under way. -/
def Sound (signals : Signals) : Future bell → Prop
  | .created _ => True
  | .started covered waiting => waiting.Underway (.settled signals) covered

section Soundness

variable {signals after : Signals} {submitted : Submitted}
  {future : Future bell}

theorem Sound.later (sound : future.Sound signals)
    (later : signals.Extends after) : future.Sound after := by
  cases future with
  | created target => trivial
  | started covered waiting => exact Waiting.Underway.later sound later

theorem Sound.poll (sound : future.Sound signals) :
    (future.poll signals submitted).Sound signals := by
  cases future with
  | created target => exact (Waiting.underway_start _ _).poll
  | started covered waiting => exact Waiting.Underway.poll sound

theorem covers_poll :
    (future.poll signals submitted).covers submitted =
      future.covers submitted := by
  cases future <;> rfl

/-- With no completion under way, a poll is ready exactly if everything that the
future covers has fired. -/
theorem Sound.isReady_poll_iff (lawful : bell.Lawful)
    (sound : future.Sound signals) :
    (future.poll signals submitted).isReady = true ↔
      ∀ signal ∈ signalsOf (future.covers submitted),
        signals.isFired signal = true := by
  cases future with
  | created target => exact (Waiting.underway_start _ _).isReady_poll_iff lawful
  | started covered waiting =>
      exact Waiting.Underway.isReady_poll_iff lawful sound

theorem Sound.fired_of_isReady (sound : future.Sound signals)
    (ready : future.isReady = true) :
    ∀ signal ∈ signalsOf (future.covers submitted),
      signals.isFired signal = true := by
  cases future with
  | created target => cases ready
  | started covered waiting =>
      exact Waiting.Underway.fired_of_isReady sound ready

theorem Sound.waiter_poll (lawful : bell.Lawful)
    (sound : future.Sound signals) :
    (future.poll signals submitted).waiter submitted =
      (future.waiter submitted).poll signals := by
  cases future with
  | started covered waiting =>
      exact congrArg Waiter.mk (Waiting.remaining_poll lawful sound)
  | created target =>
      have remains := Waiting.remaining_poll lawful
        (Waiting.underway_start (.settled signals) (target.covers submitted))
      cases target <;> exact congrArg Waiter.mk remains

end Soundness

/-- Two futures that wait for the same, or that are both ready or both not, with
the same outstanding. -/
inductive Alike (signals : Signals) : Future bell → Future bell → Prop where
  | created (target : Target) :
      Alike signals (.created target) (.created target)
  | started {covered others : List Handle} {waiting other : Waiting bell}
      (underway : waiting.Underway (.settled signals) covered)
      (otherUnderway : other.Underway (.settled signals) others)
      (outstanding : signals.outstanding (signalsOf covered) =
        signals.outstanding (signalsOf others))
      (ready : waiting.isReady = other.isReady) :
      Alike signals (.started covered waiting) (.started others other)

section Alike

variable {signals after : Signals} {submitted other : Submitted}
  {first second : Future bell}

theorem Alike.refl (sound : first.Sound signals) :
    first.Alike signals first := by
  cases first with
  | created target => exact .created target
  | started covered waiting => exact .started sound sound rfl rfl

theorem Alike.isReady (alike : first.Alike signals second) :
    first.isReady = second.isReady := by
  cases alike with
  | created target => rfl
  | started _ _ _ ready => exact ready

theorem Alike.later (alike : first.Alike signals second)
    (later : signals.Extends after) : first.Alike after second := by
  cases alike with
  | created target => exact .created target
  | started underway otherUnderway outstanding ready =>
      refine .started (underway.later later) (otherUnderway.later later)
        ?_ ready
      rw [← Signals.outstanding_later later, outstanding,
        Signals.outstanding_later later]

/-- What is polled is ready if nothing is outstanding, so it is alike if the
same is outstanding. -/
private theorem alike_poll (lawful : bell.Lawful) {covered others : List Handle}
    {waiting another : Waiting bell}
    (underway : waiting.Underway (.settled signals) covered)
    (otherUnderway : another.Underway (.settled signals) others)
    (outstanding : signals.outstanding (signalsOf covered) =
      signals.outstanding (signalsOf others)) :
    Alike signals (.started covered (waiting.poll (.settled signals)))
      (.started others (another.poll (.settled signals))) := by
  refine .started underway.poll otherUnderway.poll outstanding ?_
  rw [Bool.eq_iff_iff, underway.isReady_poll_iff lawful,
    otherUnderway.isReady_poll_iff lawful, ← Signals.outstanding_eq_nil_iff,
    ← Signals.outstanding_eq_nil_iff, outstanding]

private theorem outstanding_covers
    (same : submitted.purge signals = other.purge signals) (target : Target) :
    signals.outstanding (signalsOf (target.covers submitted)) =
      signals.outstanding (signalsOf (target.covers other)) := by
  cases target with
  | one handle => rfl
  | registered =>
      simp only [Target.covers]
      rw [← Submitted.outstanding_purge submitted, same,
        Submitted.outstanding_purge]

/-- Polls keep futures alike, also with registers that differ in what is
complete. -/
theorem Alike.poll (lawful : bell.Lawful) (alike : first.Alike signals second)
    (same : submitted.purge signals = other.purge signals) :
    (first.poll signals submitted).Alike signals
      (second.poll signals other) := by
  cases alike with
  | created target =>
      exact alike_poll lawful (Waiting.underway_start _ _)
        (Waiting.underway_start _ _) (outstanding_covers same target)
  | started underway otherUnderway outstanding _ =>
      exact alike_poll lawful underway otherUnderway outstanding

end Alike

end Future

/-- What happens to handles, futures and the register. Handles and futures are
named by their places, in the order of creation. -/
inductive Event where
  | pair
  | completed
  | join (places : List Nat)
  | complete (signal : Signal)
  | wait (place : Nat)
  | waitAll
  | register (node : NodeId) (place : Option Nat)
  | purge
  | poll (place : Nat)

structure Session (bell : Bell) where
  signals : Signals
  handles : List Handle
  submitted : Submitted
  futures : List (Future bell)

namespace Session

variable {bell : Bell}

def empty : Session bell :=
  ⟨.empty, [], .empty, []⟩

def step (session : Session bell) : Event → Session bell
  | .pair => { session with
      signals := session.signals.create
      handles := session.handles ++ [.single session.signals.next] }
  | .completed => { session with
      signals := session.signals.create.fire session.signals.next
      handles := session.handles ++ [.single session.signals.next] }
  | .join places => { session with
      handles :=
        session.handles ++
          [Handle.join (places.filterMap (session.handles[·]?))] }
  | .complete signal => { session with signals := session.signals.fire signal }
  | .wait place => { session with
      futures :=
        session.futures ++ (session.handles[place]?).toList.map
          fun handle => .created (.one handle) }
  | .waitAll =>
    { session with futures := session.futures ++ [.created .registered] }
  | .register node place => { session with
      submitted :=
        session.submitted.register node (place.bind (session.handles[·]?)) }
  | .purge =>
    { session with submitted := session.submitted.purge session.signals }
  | .poll place => { session with
      futures :=
        session.futures.modify place
          (·.poll session.signals session.submitted) }

def after (session : Session bell) (events : List Event) : Session bell :=
  events.foldl step session

/-- Every wait that was started is under way. -/
def Sound (session : Session bell) : Prop :=
  ∀ future ∈ session.futures, future.Sound session.signals

private theorem extends_step (session : Session bell) (event : Event) :
    session.signals.Extends (session.step event).signals := by
  cases event with
  | pair => exact Signals.extends_append _ _
  | completed =>
      exact (Signals.extends_append _ _).trans (Signals.extends_fire _ _)
  | complete signal => exact Signals.extends_fire _ signal
  | join _ | wait _ | waitAll | register _ _ | purge | poll _ => exact .refl _

private theorem extends_after (session : Session bell) (events : List Event) :
    session.signals.Extends (session.after events).signals := by
  simp only [after]
  induction events generalizing session with
  | nil => exact .refl _
  | cons event rest induction =>
      exact (extends_step session event).trans (induction _)

private theorem getElem?_futures_poll {session : Session bell} {place : Nat}
    {future : Future bell} (found : session.futures[place]? = some future) :
    (session.step (.poll place)).futures[place]? =
      some (future.poll session.signals session.submitted) := by
  simp only [step]
  rw [List.getElem?_modify, found]
  simp

/-- An event adds futures that were not polled, or polls one of them. -/
private theorem mem_futures_step {session : Session bell} {event : Event}
    {future : Future bell} (member : future ∈ (session.step event).futures) :
    future ∈ session.futures ∨ (∃ target, future = .created target) ∨
    ∃ former ∈ session.futures,
      future = former.poll session.signals session.submitted := by
  cases event with
  | wait place =>
      rcases List.mem_append.mp member with old | new
      · exact .inl old
      · obtain ⟨handle, _, rfl⟩ := List.mem_map.mp new
        exact .inr (.inl ⟨_, rfl⟩)
  | waitAll =>
      rcases List.mem_append.mp member with old | new
      · exact .inl old
      · exact .inr (.inl ⟨_, List.mem_singleton.mp new⟩)
  | poll place =>
      obtain ⟨other, found⟩ := List.mem_iff_getElem?.mp member
      simp only [step] at found
      rw [List.getElem?_modify] at found
      obtain ⟨former, isFormer, rfl⟩ := Option.map_eq_some_iff.mp found
      have old := List.mem_of_getElem? isFormer
      split
      · exact .inr (.inr ⟨former, old, rfl⟩)
      · exact .inl old
  | pair | completed | join _ | complete _ | register _ _ | purge =>
      exact .inl member

theorem Sound.step {session : Session bell} (sound : session.Sound)
    (event : Event) : (session.step event).Sound := by
  intro future member
  have later := extends_step session event
  rcases mem_futures_step member with old | ⟨target, rfl⟩ | ⟨former, old, rfl⟩
  · exact (sound future old).later later
  · trivial
  · exact (sound former old).poll.later later

theorem Sound.after {session : Session bell} (sound : session.Sound)
    (events : List Event) : (session.after events).Sound := by
  simp only [Session.after]
  induction events generalizing session with
  | nil => exact sound
  | cons event rest induction => exact induction (sound.step event)

private theorem sound_empty : (empty : Session bell).Sound :=
  fun _ absent => absurd absent List.not_mem_nil

/-- Two sessions with the same signals and handles, whose registers have the
same outstanding work, and whose futures are alike one by one. -/
structure Matches (full thin : Session bell) : Prop where
  signals : full.signals = thin.signals
  handles : full.handles = thin.handles
  submitted :
    full.submitted.purge full.signals = thin.submitted.purge full.signals
  futures : List.Forall₂ (Future.Alike full.signals) full.futures thin.futures

theorem Sound.matches_purge {session : Session bell} (sound : session.Sound) :
    session.Matches (session.step .purge) where
  signals := rfl
  handles := rfl
  submitted := (Submitted.purge_later (.refl session.signals)).symm
  futures :=
    List.forall₂_same.mpr fun future member => .refl (sound future member)

theorem Matches.step {full thin : Session bell} (lawful : bell.Lawful)
    (same : full.Matches thin) (event : Event) :
    (full.step event).Matches (thin.step event) := by
  obtain ⟨signals, handles, submitted, futures⟩ := full
  obtain ⟨_, _, other, others⟩ := thin
  obtain ⟨rfl, rfl, outstanding, alike⟩ := same
  -- Signals that fire leave the registers and the futures as much alike as they
  -- were.
  have fires {after : Signals} (later : signals.Extends after)
      (handles : List Handle) :
      Matches ⟨after, handles, submitted, futures⟩
        ⟨after, handles, other, others⟩ := by
    refine ⟨rfl, rfl, ?_, alike.imp fun _ _ similar => similar.later later⟩
    change submitted.purge after = other.purge after
    rw [← Submitted.purge_later later, outstanding, Submitted.purge_later later]
  have creates (targets : List Target) :
      List.Forall₂ (Future.Alike signals) (futures ++ targets.map .created)
        (others ++ targets.map .created) := by
    refine List.rel_append alike (List.forall₂_same.mpr fun future member => ?_)
    obtain ⟨target, _, rfl⟩ := List.mem_map.mp member
    exact .created target
  cases event with
  | pair => exact fires (Signals.extends_append _ _) _
  | completed =>
      exact fires
        ((Signals.extends_append _ _).trans (Signals.extends_fire _ _)) _
  | complete signal => exact fires (Signals.extends_fire _ signal) handles
  | join places => exact ⟨rfl, rfl, outstanding, alike⟩
  | wait place =>
      have added := creates (handles[place]?.toList.map .one)
      rw [List.map_map] at added
      exact ⟨rfl, rfl, outstanding, added⟩
  | waitAll => exact ⟨rfl, rfl, outstanding, creates [.registered]⟩
  | register node place =>
      exact ⟨rfl, rfl, Submitted.purge_register outstanding node _, alike⟩
  | purge =>
      refine ⟨rfl, rfl, ?_, alike⟩
      simp only [Session.step]
      rw [outstanding]
  | poll place =>
      refine ⟨rfl, rfl, outstanding, ?_⟩
      exact forall₂_modify (fun _ _ similar => similar.poll lawful outstanding)
        alike place

theorem Matches.after {full thin : Session bell} (lawful : bell.Lawful)
    (same : full.Matches thin) (events : List Event) :
    (full.after events).Matches (thin.after events) := by
  simp only [Session.after]
  induction events generalizing full thin with
  | nil => exact same
  | cons event rest induction => exact induction (same.step lawful event)

theorem Matches.pending {full thin : Session bell} (same : full.Matches thin) :
    full.submitted.pending full.signals =
      thin.submitted.pending thin.signals := by
  rw [← same.signals, Submitted.pending_eq_length_purge,
    Submitted.pending_eq_length_purge, same.submitted]

theorem Matches.isReady {full thin : Session bell} (same : full.Matches thin) :
    full.futures.map Future.isReady = thin.futures.map Future.isReady := by
  have alike := same.futures
  generalize full.futures = futures, thin.futures = others at alike
  induction alike with
  | nil => rfl
  | cons similar _ induction =>
      rw [List.map_cons, List.map_cons, similar.isReady, induction]

/-- What handles, waits and the register have to do with each other at one
moment. -/
structure Agreement (session : Session bell) : Prop where
  /-- A handle is complete exactly if everything below it has fired. -/
  complete : ∀ handle ∈ session.handles,
    handle.isComplete session.signals = true ↔
      ∀ signal, Below handle signal → session.signals.isFired signal = true
  stays : ∀ handle ∈ session.handles, handle.isComplete session.signals = true →
    ∀ later, handle.isComplete (session.after later).signals = true
  /-- The operations are counted as often as a path leads to them. -/
  counted : ∀ handle ∈ session.handles,
    ∃ leaves : List (List Nat × Signal), (leaves.map Prod.fst).Nodup ∧
      (∀ path signal, (path, signal) ∈ leaves ↔ Leaf handle path signal) ∧
      handle.operationCount = leaves.length
  /-- A poll is ready exactly if everything that the future covers has fired, or
  it was ready before. It leaves what `Waiter.poll` leaves. -/
  polled : ∀ place future, session.futures[place]? = some future →
    ∃ polled, (session.step (.poll place)).futures[place]? = some polled ∧
      polled.covers session.submitted = future.covers session.submitted ∧
      (polled.isReady = true ↔ AllFired session.signals
        (future.covers session.submitted) ∨ future.isReady = true) ∧
      polled.waiter session.submitted =
        (future.waiter session.submitted).poll session.signals
  awake : ∀ covered waiting, .started covered waiting ∈ session.futures →
    waiting.Asleep (.settled session.signals) →
    ¬AllFired session.signals covered
  /-- Whatever happens later, it does so at the same polls with a purge and
  without. -/
  purged : ∀ later,
    ((session.step .purge).after later).submitted.pending
        ((session.step .purge).after later).signals =
      (session.after later).submitted.pending (session.after later).signals ∧
    ((session.step .purge).after later).futures.map Future.isReady =
      (session.after later).futures.map Future.isReady

theorem Sound.polled {session : Session bell} (lawful : bell.Lawful)
    (sound : session.Sound) {future : Future bell}
    (member : future ∈ session.futures) :
    (future.poll session.signals session.submitted).isReady = true ↔
      AllFired session.signals (future.covers session.submitted) ∨
      future.isReady = true := by
  have isSound := sound future member
  rw [isSound.isReady_poll_iff lawful, ← Handle.allFired_iff]
  constructor
  · exact .inl
  · intro fired
    rcases fired with now | before
    · exact now
    · exact Handle.allFired_iff.mpr (isSound.fired_of_isReady before)

theorem Sound.agreement {session : Session bell} (lawful : bell.Lawful)
    (sound : session.Sound) : session.Agreement where
  complete _ _ := Handle.isComplete_iff_below
  stays _ _ complete later :=
    Handle.isComplete_mono (extends_after session later) complete
  counted handle _ := handle.operationCount_eq
  polled place future found := by
    have member := List.mem_of_getElem? found
    exact ⟨_, getElem?_futures_poll found, Future.covers_poll,
      sound.polled lawful member, (sound future member).waiter_poll lawful⟩
  awake covered waiting member asleep fired := by
    have underway : waiting.Underway (.settled session.signals) covered :=
      sound _ member
    exact underway.not_all_rung lawful asleep (Handle.allFired_iff.mp fired)
  purged later := by
    have same := sound.matches_purge.after lawful later
    exact ⟨same.pending.symm, same.isReady.symm⟩

/-- Handles, waits and the register agree after every sequence of events. In
between, however a wait is interleaved with the steps of completions, it does
not sleep once all the bells that concern it were rung. -/
theorem agreement_after (lawful : bell.Lawful) :
    (∀ events, (empty.after events : Session bell).Agreement) ∧
    ∀ covered board (waiting : Waiting bell),
      Waiting.Interleaved covered board waiting →
      (waiting.isReady = true → AllFired board.fired covered) ∧
      (waiting.Asleep board → ¬AllFired board.rung covered) ∧
      (AllFired board.rung covered → (waiting.poll board).isReady = true) := by
  refine ⟨fun events => (sound_empty.after events).agreement lawful, ?_⟩
  intro covered board waiting met
  simp only [Handle.allFired_iff]
  exact met.wakes lawful

/-- Two operations, one of which is found twice below the last handle. That
handle is registered, and two futures wait for it when the first operation is
complete and the second one is not. -/
def sharing : List Event :=
  [.pair, .pair, .join [], .join [2, 1], .join [0, 3, 0], .register 1 (some 4),
    .wait 4, .poll 0, .complete 0, .waitAll, .poll 0, .poll 1]

/-- The operation is flagged and its bell rung after the wait has begun to
listen, but before it looks. -/
def interrupted : Waiting Bell.counter :=
  ((Waiting.start [.single 0]).advance (.settled ⟨[false]⟩)).advance
    (.settled ⟨[false]⟩)

private theorem interleaved_interrupted :
    interrupted.Interleaved [.single 0] (.settled ⟨[true]⟩) := by
  have listening : interrupted.Interleaved [.single 0] (.settled ⟨[false]⟩) :=
    .advance (.advance (.start _))
  have flagged : interrupted.Interleaved [.single 0]
      ⟨⟨[true]⟩, ⟨[false]⟩, Signals.extends_fire ⟨[false]⟩ 0⟩ :=
    .other listening (.fire 0 _ rfl rfl)
  exact .other flagged (.ring 0 _ rfl rfl rfl rfl)

/-- In `sharing` neither future is ready, and both are when the second operation
is complete, also after a purge. The interrupted wait sees the flag. -/
theorem agreement_after_sharing :
    Bell.counter.Lawful ∧
    (empty.after sharing : Session Bell.counter).handles.map
        Handle.operationCount = [1, 1, 0, 1, 3] ∧
    (empty.after sharing : Session Bell.counter).futures.map Future.isReady =
      [false, false] ∧
    (empty.after (sharing ++ [.purge, .complete 1, .poll 0, .poll 1]) :
        Session Bell.counter).futures.map Future.isReady = [true, true] ∧
    (empty.after sharing : Session Bell.counter).Agreement ∧
    interrupted.isReady = false ∧
    (interrupted.poll (.settled ⟨[true]⟩)).isReady = true := by
  have all := agreement_after Bell.lawful_counter
  refine ⟨Bell.lawful_counter, rfl, rfl, rfl, all.1 sharing, rfl, ?_⟩
  refine (all.2 _ _ _ interleaved_interrupted).2.2 ?_
  intro handle member signal below
  rw [List.mem_singleton.mp member] at below
  obtain ⟨path, leaf⟩ := below
  cases leaf
  rfl

end Session

end CoherentTasks.Completion
