import CoherentTasks.Completion.Waiter
import CoherentTasks.Proofs.Completion.Leaves
import Mathlib.Logic.Function.Iterate

/-!
# Waking those who wait

A wait goes through the signals below its handles. At each of them it begins to
listen to the signal's bell, looks at the flag only then, and rests if the flag
is not up. A completion puts the flag up first and rings the bell then. So
whatever the order of these steps, a ring that is missed comes after a flag that
is seen, and nobody rests at a signal whose bell was rung.
-/

namespace CoherentTasks.Completion

open Handle (signalsOf)

/-- What is rung for those who listen to it. A listener is made at one moment,
and says at a later one whether it has heard the bell. -/
structure Bell where
  State : Type
  Listener : Type
  silent : State
  ring : State → State
  listen : State → Listener
  hears : State → Listener → Bool

/-- A ring is heard by every listener that was made before, and nothing is heard
without one. -/
structure Bell.Lawful (bell : Bell) : Prop where
  wakes : ∀ state, bell.hears (bell.ring state) (bell.listen state) = true
  rests : ∀ state, bell.hears state (bell.listen state) = false

/-- The bell of a signal, which is rung at most once. -/
def Bell.after (bell : Bell) (rung : Bool) : bell.State :=
  if rung then bell.ring bell.silent else bell.silent

/-- A bell that counts how often it was rung, and whose listeners remember the
count. -/
def Bell.counter : Bell where
  State := Nat
  Listener := Nat
  silent := 0
  ring := (· + 1)
  listen := id
  hears now heard := now != heard

theorem Bell.lawful_counter : Bell.counter.Lawful where
  wakes (count : Nat) := bne_iff_ne.mpr (Nat.succ_ne_self count)
  rests (count : Nat) := bne_self_eq_false count

/-- Which signals have fired, and which of their bells were rung. -/
structure Board where
  fired : Signals
  rung : Signals
  /-- The flag is put up first. -/
  flagged : ∀ signal, rung.isFired signal = true → fired.isFired signal = true

namespace Board

/-- No completion is under way. -/
def settled (signals : Signals) : Board :=
  ⟨signals, signals, fun _ fired => fired⟩

/-- One step of somebody else: a signal is created, a completion puts the flag
up, or it rings the bell afterwards. Only the completion that has put the flag
up rings. -/
inductive Step (before : Board) : Board → Prop where
  | create (after : Board) (fired : after.fired = before.fired.create)
      (rung : after.rung = before.rung.create) : Step before after
  | fire (signal : Signal) (after : Board)
      (fired : after.fired = before.fired.fire signal)
      (rung : after.rung = before.rung) : Step before after
  | ring (signal : Signal) (after : Board)
      (owed : before.fired.isFired signal = true)
      (silent : before.rung.isFired signal = false)
      (fired : after.fired = before.fired)
      (rung : after.rung = before.rung.fire signal) : Step before after

/-- Flags that are up stay up, and so does what was rung. -/
theorem Step.extends {before after : Board} (step : before.Step after) :
    before.fired.Extends after.fired ∧ before.rung.Extends after.rung := by
  cases step with
  | create _ fired rung =>
      rw [fired, rung]
      exact ⟨Signals.extends_append _ _, Signals.extends_append _ _⟩
  | fire signal _ fired rung =>
      rw [fired, rung]
      exact ⟨Signals.extends_fire _ signal, .refl _⟩
  | ring signal _ _ _ fired rung =>
      rw [fired, rung]
      exact ⟨.refl _, Signals.extends_fire _ signal⟩

end Board

/-- Where a wait is with the signal in front. -/
inductive Stage (bell : Bell) where
  | arriving
  /-- It listens, and has not looked at the flag yet. -/
  | looking (listener : bell.Listener)
  /-- The flag was not up. -/
  | resting (listener : bell.Listener)

/-- A wait under way: the signals of the handle that it is at, and the handles
that come after. -/
structure Waiting (bell : Bell) where
  signals : List Signal
  handles : List Handle
  stage : Stage bell

namespace Waiting

variable {bell : Bell}

def start (handles : List Handle) : Waiting bell :=
  ⟨[], handles, .arriving⟩

/-- The signals that are not passed yet. -/
def remaining (waiting : Waiting bell) : List Signal :=
  waiting.signals ++ signalsOf waiting.handles

def isReady (waiting : Waiting bell) : Bool :=
  waiting.signals.isEmpty && waiting.handles.isEmpty

def hears (board : Board) (signal : Signal) (listener : bell.Listener) : Bool :=
  bell.hears (bell.after (board.rung.isFired signal)) listener

/-- One step: it looks at the flags or at the bell once, or takes up the next
handle. -/
def advance (board : Board) : Waiting bell → Waiting bell
  | ⟨[], [], stage⟩ => ⟨[], [], stage⟩
  | ⟨[], handle :: handles, _⟩ => ⟨handle.signals, handles, .arriving⟩
  | ⟨signal :: rest, handles, .arriving⟩ =>
    ⟨signal :: rest, handles,
      .looking (bell.listen (bell.after (board.rung.isFired signal)))⟩
  | ⟨signal :: rest, handles, .looking listener⟩ =>
    if board.fired.isFired signal then ⟨rest, handles, .arriving⟩
    else ⟨signal :: rest, handles, .resting listener⟩
  | ⟨signal :: rest, handles, .resting listener⟩ =>
    if hears board signal listener then ⟨signal :: rest, handles, .arriving⟩
    else ⟨signal :: rest, handles, .resting listener⟩

/-- The wait rests at a signal, and does not hear its bell. -/
inductive Asleep (board : Board) : Waiting bell → Prop where
  | asleep (signal : Signal) (rest : List Signal) (handles : List Handle)
      (listener : bell.Listener)
      (unheard : hears board signal listener = false) :
      Asleep board ⟨signal :: rest, handles, .resting listener⟩

/-- No step changes anything before the board changes. -/
def AtRest (board : Board) (waiting : Waiting bell) : Prop :=
  waiting.isReady = true ∨ waiting.Asleep board

/-- As many steps as a wait can take before it is at rest. -/
def steps (waiting : Waiting bell) : Nat :=
  2 * (waiting.remaining.length + waiting.handles.length) + 3

/-- Goes on without interruption as far as possible. -/
def poll (board : Board) (waiting : Waiting bell) : Waiting bell :=
  (advance board)^[waiting.steps] waiting

/-- Who listens began to before the bell was rung, or sees the flag; who rests
began before. -/
def Attentive (board : Board) : Waiting bell → Prop
  | ⟨signal :: _, _, .looking listener⟩ =>
    ∃ rung, listener = bell.listen (bell.after rung) ∧
      (rung = true → board.fired.isFired signal = true)
  | ⟨_ :: _, _, .resting listener⟩ => listener = bell.listen (bell.after false)
  | _ => True

/-- The wait has passed signals that have fired, and those that remain are the
others below the handles that it covers. -/
structure Underway (board : Board) (covered : List Handle)
    (waiting : Waiting bell) : Prop where
  attentive : waiting.Attentive board
  passed : ∃ passed, signalsOf covered = passed ++ waiting.remaining ∧
    ∀ signal ∈ passed, board.fired.isFired signal = true

section Steps

variable {board : Board} {covered : List Handle} {waiting : Waiting bell}

private theorem isReady_iff :
    waiting.isReady = true ↔ waiting.signals = [] ∧ waiting.handles = [] := by
  simp only [isReady, Bool.and_eq_true, List.isEmpty_iff]

private theorem remaining_of_isReady (ready : waiting.isReady = true) :
    waiting.remaining = [] := by
  obtain ⟨noSignals, noHandles⟩ := isReady_iff.mp ready
  simp only [remaining]
  rw [noSignals, noHandles]
  rfl

theorem underway_start (board : Board) (covered : List Handle) :
    (start covered : Waiting bell).Underway board covered :=
  ⟨trivial, [], rfl, fun _ absent => absurd absent List.not_mem_nil⟩

/-- A step leaves the signals that remain, or passes one that has fired. -/
private theorem remaining_advance (board : Board) (waiting : Waiting bell) :
    (waiting.advance board).remaining = waiting.remaining ∨
      ∃ signal, board.fired.isFired signal = true ∧
        waiting.remaining = signal :: (waiting.advance board).remaining := by
  obtain ⟨signals, handles, stage⟩ := waiting
  cases signals with
  | nil => cases handles <;> exact .inl rfl
  | cons signal rest =>
      cases stage with
      | arriving => exact .inl rfl
      | looking listener =>
          simp only [advance]
          split
          · rename_i fired
            exact .inr ⟨signal, fired, rfl⟩
          · exact .inl rfl
      | resting listener =>
          simp only [advance]
          split <;> exact .inl rfl

/-- What is left behind the signals in front that have fired is the same before
and after a step. -/
private theorem dropWhile_advance (board : Board) (waiting : Waiting bell) :
    (waiting.advance board).remaining.dropWhile board.fired.isFired =
      waiting.remaining.dropWhile board.fired.isFired := by
  rcases remaining_advance board waiting with same | ⟨signal, fired, shape⟩
  · rw [same]
  · rw [shape, List.dropWhile_cons_of_pos fired]

theorem Attentive.advance (attentive : waiting.Attentive board) :
    (waiting.advance board).Attentive board := by
  obtain ⟨signals, handles, stage⟩ := waiting
  have arriving (signals : List Signal) (handles : List Handle) :
      (⟨signals, handles, .arriving⟩ : Waiting bell).Attentive board := by
    cases signals <;> trivial
  cases signals with
  | nil =>
      cases handles with
      | nil => trivial
      | cons handle handles => exact arriving _ _
  | cons signal rest =>
      cases stage with
      | arriving => exact ⟨_, rfl, board.flagged signal⟩
      | looking listener =>
          simp only [Waiting.advance]
          split
          · exact arriving _ _
          -- The flag is not up, so the listener was made before the bell was
          -- rung.
          · rename_i notFired
            obtain ⟨rung, made, flagged⟩ := attentive
            cases rung with
            | false => exact made
            | true => exact absurd (flagged rfl) notFired
      | resting listener =>
          simp only [Waiting.advance]
          split
          · exact arriving _ _
          · exact attentive

theorem Underway.advance (underway : waiting.Underway board covered) :
    (waiting.advance board).Underway board covered := by
  refine ⟨underway.attentive.advance, ?_⟩
  obtain ⟨passed, split, fired⟩ := underway.passed
  rcases remaining_advance board waiting with same | ⟨signal, firedNow, shape⟩
  · exact ⟨passed, by rw [same, split], fired⟩
  · refine ⟨passed ++ [signal],
      by rw [split, shape, List.append_assoc]; rfl, ?_⟩
    intro other member
    rcases List.mem_append.mp member with old | new
    · exact fired other old
    · rw [List.mem_singleton.mp new]
      exact firedNow

/-- What others do takes nothing away from a wait. -/
theorem Underway.later {after : Board}
    (underway : waiting.Underway board covered)
    (later : board.fired.Extends after.fired) :
    waiting.Underway after covered := by
  obtain ⟨passed, split, fired⟩ := underway.passed
  refine ⟨?_, passed, split,
    fun signal member => later signal (fired signal member)⟩
  have attentive := underway.attentive
  obtain ⟨signals, handles, stage⟩ := waiting
  cases signals with
  | nil => cases stage <;> trivial
  | cons signal rest =>
      cases stage with
      | arriving => trivial
      | looking listener =>
          obtain ⟨rung, made, flagged⟩ := attentive
          exact ⟨rung, made, fun isRung => later signal (flagged isRung)⟩
      | resting listener => exact attentive

theorem Underway.fired_of_isReady (underway : waiting.Underway board covered)
    (ready : waiting.isReady = true) :
    ∀ signal ∈ signalsOf covered, board.fired.isFired signal = true := by
  obtain ⟨passed, split, fired⟩ := underway.passed
  rw [remaining_of_isReady ready, List.append_nil] at split
  rw [split]
  exact fired

theorem Underway.mem_of_mem_remaining
    (underway : waiting.Underway board covered) {signal : Signal}
    (member : signal ∈ waiting.remaining) : signal ∈ signalsOf covered := by
  obtain ⟨passed, split, _⟩ := underway.passed
  rw [split]
  exact List.mem_append_right _ member

/-- Nobody sleeps at a signal whose bell was rung. -/
theorem Underway.not_rung_of_asleep (lawful : bell.Lawful)
    (underway : waiting.Underway board covered)
    (asleep : waiting.Asleep board) :
    ∃ signal rest, waiting.remaining = signal :: rest ∧
      board.rung.isFired signal = false := by
  cases asleep with
  | asleep signal rest handles listener unheard =>
      refine ⟨signal, rest ++ signalsOf handles, rfl, ?_⟩
      have made : listener = bell.listen bell.silent := underway.attentive
      cases rung : board.rung.isFired signal with
      | false => rfl
      | true =>
          have heard := lawful.wakes bell.silent
          rw [hears, rung, made] at unheard
          exact absurd (heard.symm.trans unheard) (by decide)

theorem Underway.not_all_rung (lawful : bell.Lawful)
    (underway : waiting.Underway board covered)
    (asleep : waiting.Asleep board) :
    ¬∀ signal ∈ signalsOf covered, board.rung.isFired signal = true := by
  intro rung
  obtain ⟨signal, rest, shape, notRung⟩ :=
    underway.not_rung_of_asleep lawful asleep
  rw [rung signal (underway.mem_of_mem_remaining (shape ▸ List.mem_cons_self))]
    at notRung
  cases notRung

end Steps

section Poll

variable {board : Board} {covered : List Handle} {waiting : Waiting bell}

private theorem advance_of_atRest (atRest : waiting.AtRest board) :
    waiting.advance board = waiting := by
  rcases atRest with ready | asleep
  · obtain ⟨signals, handles, stage⟩ := waiting
    obtain ⟨rfl, rfl⟩ := isReady_iff.mp ready
    rfl
  · cases asleep with
    | asleep signal rest handles listener unheard =>
        simp only [advance]
        rw [unheard]
        rfl

def Stage.rank : Stage bell → Nat
  | .arriving => 1
  | .looking _ => 0
  | .resting _ => 2

/-- A bound on the steps that are left. -/
def rank (waiting : Waiting bell) : Nat :=
  2 * (waiting.remaining.length + waiting.handles.length) +
    Stage.rank waiting.stage

private theorem rank_lt_steps (waiting : Waiting bell) :
    waiting.rank < waiting.steps := by
  simp only [rank, steps]
  have small : Stage.rank waiting.stage ≤ 2 := by
    cases waiting.stage <;> simp only [Stage.rank] <;> omega
  omega

private theorem rank_advance (lawful : bell.Lawful)
    (attentive : waiting.Attentive board) :
    waiting.AtRest board ∨ (waiting.advance board).AtRest board ∨
    (waiting.advance board).rank < waiting.rank := by
  obtain ⟨signals, handles, stage⟩ := waiting
  cases signals with
  | nil =>
      cases handles with
      | nil => exact .inl (.inl rfl)
      | cons handle handles =>
          right; right
          simp only [advance, rank, remaining, Stage.rank, signalsOf,
            List.length_append, List.length_cons, List.nil_append]
          omega
  | cons signal rest =>
      cases stage with
      | arriving =>
          right; right
          simp only [advance, rank, remaining, Stage.rank]
          omega
      | looking listener =>
          simp only [advance]
          split
          · right; right
            simp only [rank, remaining, Stage.rank, List.cons_append,
              List.length_cons]
            omega
          -- The flag is not up, so nobody has rung, and the listener hears
          -- nothing.
          · rename_i notFired
            right; left; right
            have notRung : board.rung.isFired signal = false :=
              Bool.eq_false_iff.mpr
                fun rung => notFired (board.flagged signal rung)
            obtain ⟨rung, made, flagged⟩ := attentive
            have early : rung = false :=
              Bool.eq_false_iff.mpr fun isRung => notFired (flagged isRung)
            refine .asleep signal rest handles listener ?_
            rw [hears, notRung, made, early]
            exact lawful.rests _
      | resting listener =>
          by_cases heard : hears board signal listener = true
          · right; right
            simp only [advance]
            rw [if_pos heard]
            simp only [rank, remaining, Stage.rank]
            omega
          · exact .inl (.inr
              (.asleep signal rest handles listener (by simpa using heard)))

private theorem iterate_of_atRest (atRest : waiting.AtRest board)
    (times : Nat) : (advance board)^[times] waiting = waiting :=
  Function.iterate_fixed (advance_of_atRest atRest) times

private theorem atRest_iterate (lawful : bell.Lawful) {times : Nat}
    (attentive : waiting.Attentive board) (enough : waiting.rank < times) :
    ((advance board)^[times] waiting).AtRest board := by
  induction times generalizing waiting with
  | zero => exact absurd enough (Nat.not_lt_zero _)
  | succ times induction =>
      rw [Function.iterate_succ_apply]
      rcases rank_advance lawful attentive with rests | rests | less
      · rw [advance_of_atRest rests, iterate_of_atRest rests]
        exact rests
      · rw [iterate_of_atRest rests]
        exact rests
      · exact induction attentive.advance (by omega)

private theorem atRest_poll (lawful : bell.Lawful)
    (attentive : waiting.Attentive board) : (waiting.poll board).AtRest board :=
  atRest_iterate lawful attentive (rank_lt_steps waiting)

private theorem dropWhile_poll (board : Board) (waiting : Waiting bell) :
    (waiting.poll board).remaining.dropWhile board.fired.isFired =
      waiting.remaining.dropWhile board.fired.isFired := by
  simp only [poll]
  induction waiting.steps generalizing waiting with
  | zero => rfl
  | succ times induction =>
      rw [Function.iterate_succ_apply, induction, dropWhile_advance]

theorem Underway.poll (underway : waiting.Underway board covered) :
    (waiting.poll board).Underway board covered := by
  simp only [Waiting.poll]
  induction waiting.steps generalizing waiting with
  | zero => exact underway
  | succ times induction =>
      rw [Function.iterate_succ_apply]
      exact induction underway.advance

/-- A wait is through when all bells were rung. -/
theorem Underway.isReady_poll (lawful : bell.Lawful)
    (underway : waiting.Underway board covered)
    (rung : ∀ signal ∈ signalsOf covered, board.rung.isFired signal = true) :
    (waiting.poll board).isReady = true := by
  rcases atRest_poll lawful underway.attentive with ready | asleep
  · exact ready
  · exact absurd rung (underway.poll.not_all_rung lawful asleep)

end Poll

/-- Between the steps of a wait for the handles, others may take any steps of
theirs. -/
inductive Interleaved (covered : List Handle) :
    Board → Waiting bell → Prop where
  | start (board : Board) : Interleaved covered board (start covered)
  | other {before after : Board} {waiting : Waiting bell}
      (met : Interleaved covered before waiting) (step : before.Step after) :
      Interleaved covered after waiting
  | advance {board : Board} {waiting : Waiting bell}
      (met : Interleaved covered board waiting) :
      Interleaved covered board (waiting.advance board)

section Interleaved

variable {board : Board} {covered : List Handle} {waiting : Waiting bell}

theorem Interleaved.underway (met : Interleaved covered board waiting) :
    waiting.Underway board covered := by
  induction met with
  | start board => exact underway_start board covered
  | other _ step induction => exact induction.later step.extends.1
  | advance _ induction => exact induction.advance

/-- However the steps are interleaved, a wait that is through has seen
everything that it covers fire. It does not sleep once all bells that concern it
were rung, so no ring is lost, and then it gets through. -/
theorem Interleaved.wakes (lawful : bell.Lawful)
    (met : Interleaved covered board waiting) :
    (waiting.isReady = true →
      ∀ signal ∈ signalsOf covered, board.fired.isFired signal = true) ∧
    (waiting.Asleep board → ¬∀ signal ∈ signalsOf covered,
      board.rung.isFired signal = true) ∧
    ((∀ signal ∈ signalsOf covered, board.rung.isFired signal = true) →
      (waiting.poll board).isReady = true) := by
  have underway := met.underway
  exact ⟨underway.fired_of_isReady, underway.not_all_rung lawful,
    underway.isReady_poll lawful⟩

end Interleaved

section Settled

variable {signals : Signals} {covered : List Handle} {waiting : Waiting bell}

/-- With no completion under way, a poll is ready exactly if everything that the
wait covers has fired. -/
theorem Underway.isReady_poll_iff (lawful : bell.Lawful)
    (underway : waiting.Underway (.settled signals) covered) :
    (waiting.poll (.settled signals)).isReady = true ↔
      ∀ signal ∈ signalsOf covered, signals.isFired signal = true :=
  ⟨underway.poll.fired_of_isReady, underway.isReady_poll lawful⟩

/-- A poll leaves what `Waiter.poll` leaves. -/
theorem remaining_poll (lawful : bell.Lawful)
    (underway : waiting.Underway (.settled signals) covered) :
    (waiting.poll (.settled signals)).remaining =
      waiting.remaining.dropWhile signals.isFired := by
  have kept :
      (waiting.poll (.settled signals)).remaining.dropWhile signals.isFired =
        waiting.remaining.dropWhile signals.isFired :=
    dropWhile_poll (.settled signals) waiting
  rw [← kept]
  rcases atRest_poll lawful underway.attentive with ready | asleep
  · rw [remaining_of_isReady ready]
    rfl
  · obtain ⟨signal, rest, shape, notFired⟩ :=
      underway.poll.not_rung_of_asleep lawful asleep
    rw [shape]
    exact (List.dropWhile_cons_of_neg (Bool.eq_false_iff.mp notFired)).symm

end Settled

end Waiting

end CoherentTasks.Completion
