import Mathlib.Data.List.Range
import Mathlib.Logic.Function.Basic
import EdgeFlow.Library.Run

/-! `EventLoop`: the queue of functors, the eventfd and the phases of `loop()`.

The threads interleave at every step. `queueInLoop` takes two: the push under the mutex,
and the write to the eventfd where it makes one. A functor is known by its place in the
order of the pushes.
-/

set_option autoImplicit false

namespace EdgeFlow.Network
open Library

namespace EventLoop

/-- A descriptor that `poll` reports: the eventfd, or one whose handler is code of the program. -/
inductive Active where
  | wakeup
  | other
  deriving DecidableEq

/-- Where the loop's own thread is. -/
inductive Phase where
  | outside
  | checking
  | polling
  | handling (active : List Active) (inHandler : Bool)
  | swapping
  | running (functors : List Nat) (inFunctor : Bool)
  deriving DecidableEq

namespace Phase

/-- Whether the thread runs code of the program, which may call the loop. -/
def callsLoop : Phase → Bool
  | outside => true
  | handling _ inHandler => inHandler
  | running _ inFunctor => inFunctor
  | _ => false

/-- The functors of `doPendingFunctors` that have not run. -/
def taken : Phase → List Nat
  | running functors _ => functors
  | _ => []

/-- Whether `doPendingFunctors` has begun. -/
def calling : Phase → Bool
  | swapping => true
  | running _ _ => true
  | _ => false

/-- Whether the queue is swapped before the loop polls again. -/
def swapsNext : Phase → Bool
  | handling _ _ => true
  | swapping => true
  | _ => false

end Phase

/-- What a thread has left to do of a call: the write to the eventfd. -/
inductive Rest where
  | nothing
  | queued (functor : Nat)
  | quitting
  deriving DecidableEq

/-- A step of the loop's own thread in `loop()`. -/
inductive Move where
  | start
  | check
  | poll (active : List Active)
  | handleEvent
  | handlerReturns
  | handled
  | swap
  | runFunctor
  | functorReturns
  | done
  deriving DecidableEq

/-- `none` is the loop's own thread. -/
inductive Label (Thread : Type) where
  | queueInLoop (caller : Option Thread)
  | runInLoop (caller : Option Thread)
  | quit (caller : Option Thread)
  | wakeup (caller : Option Thread)
  | move (move : Move)
  deriving DecidableEq

end EventLoop

open EventLoop in
structure EventLoop (Thread : Type) where
  pendingFunctors : List Nat
  /-- how many functors were pushed so far -/
  queued : Nat
  eventfd : Nat
  quit : Bool
  callingPendingFunctors : Bool
  phase : Phase
  rest : Option Thread → Rest
  /-- how many functors `runInLoop` ran at once -/
  atOnce : Nat
  /-- the functors that `doPendingFunctors` ran, in order -/
  ran : List Nat

namespace EventLoop

section
variable {Thread : Type}

def initial : EventLoop Thread where
  pendingFunctors := []
  queued := 0
  eventfd := 0
  quit := false
  callingPendingFunctors := false
  phase := .outside
  rest _ := .nothing
  atOnce := 0
  ran := []

def isInLoopThread (caller : Option Thread) : Bool := caller.isNone

variable [DecidableEq Thread] (loop : EventLoop Thread) (caller : Option Thread)

def setRest (rest : Rest) : EventLoop Thread := { loop with rest := Function.update loop.rest caller rest }

/-- The push, and whether a write has to follow. -/
def queueInLoop : EventLoop Thread :=
  let pushed := { loop with pendingFunctors := loop.pendingFunctors ++ [loop.queued], queued := loop.queued + 1 }
  if !isInLoopThread caller || loop.callingPendingFunctors then pushed.setRest caller (.queued loop.queued) else pushed

def runInLoop : EventLoop Thread :=
  if isInLoopThread caller then { loop with atOnce := loop.atOnce + 1 } else loop.queueInLoop caller

def setQuit : EventLoop Thread :=
  let told := { loop with quit := true }
  if !isInLoopThread caller then told.setRest caller .quitting else told

/-- The eventfd adds up what is written; where it is full the write is refused. -/
def wakeup : EventLoop Thread :=
  let added := if loop.eventfd < 0xfffffffffffffffe then loop.eventfd + 1 else loop.eventfd
  { loop with eventfd := added }.setRest caller .nothing

def handleRead : EventLoop Thread := { loop with eventfd := 0 }

/-- `loop()`, step by step. -/
def advance : Move → Phase → Option (EventLoop Thread)
  | .start, .outside => some { loop with quit := false, phase := .checking }
  | .check, .checking => some { loop with phase := if loop.quit then .outside else .polling }
  | .poll active, .polling =>
    if active.count .wakeup ≤ 1 ∧ (.wakeup ∈ active → 0 < loop.eventfd) then
      some { loop with phase := .handling active false }
    else none
  | .handleEvent, .handling (.wakeup :: active) false => some { loop.handleRead with phase := .handling active false }
  | .handleEvent, .handling (.other :: active) false => some { loop with phase := .handling active true }
  | .handlerReturns, .handling active true => some { loop with phase := .handling active false }
  | .handled, .handling [] false => some { loop with callingPendingFunctors := true, phase := .swapping }
  | .swap, .swapping => some { loop with pendingFunctors := [], phase := .running loop.pendingFunctors false }
  | .runFunctor, .running (functor :: functors) false =>
    some { loop with ran := loop.ran ++ [functor], phase := .running functors true }
  | .functorReturns, .running functors true => some { loop with phase := .running functors false }
  | .done, .running [] false => some { loop with callingPendingFunctors := false, phase := .checking }
  | _, _ => none

/-- A thread calls when it is in no other call, the loop's own only from code of the program. -/
def Free : Prop := loop.rest caller = .nothing ∧ (isInLoopThread caller → loop.phase.callsLoop)

instance : Decidable (loop.Free caller) := inferInstanceAs (Decidable (_ ∧ _))

def step : Label Thread → Option (EventLoop Thread)
  | .queueInLoop caller => if loop.Free caller then some (loop.queueInLoop caller) else none
  | .runInLoop caller => if loop.Free caller then some (loop.runInLoop caller) else none
  | .quit caller => if loop.Free caller then some (loop.setQuit caller) else none
  | .wakeup caller => if loop.rest caller ≠ .nothing then some (loop.wakeup caller) else none
  | .move move => if loop.rest none = .nothing then loop.advance move loop.phase else none

end

section
variable {Thread : Type}

/-- The loop's own thread queues only inside `loop()`. -/
def QueuesInside (loop : EventLoop Thread) (label : Label Thread) : Prop :=
  label = .queueInLoop none → loop.phase ≠ .outside

instance [DecidableEq Thread] (loop : EventLoop Thread) (label : Label Thread) : Decidable (QueuesInside loop label) :=
  inferInstanceAs (Decidable (_ → _))

/-- What is pushed has run, is about to run or is pending, in the order of the pushes. -/
def Accounted (loop : EventLoop Thread) : Prop :=
  loop.ran ++ loop.phase.taken ++ loop.pendingFunctors = List.range loop.queued

/-- No functor is lost, run twice or run out of turn, and none waits for a poll that nothing ends:
where the eventfd is not readable, whoever pushed it is about to write to it. -/
structure NeverDelayed (loop : EventLoop Thread) : Prop where
  accounted : loop.Accounted
  once : loop.ran.Nodup
  ordered : loop.ran.Pairwise (· < ·)
  wakes : loop.phase = .polling → ∀ functor ∈ loop.pendingFunctors,
    (∀ thread, loop.rest (some thread) ≠ .queued functor) → 0 < loop.eventfd

/-- The flag is that of the phase, and where no swap comes before the next poll, whoever pushed a pending functor
has written or is about to. -/
structure Woken (loop : EventLoop Thread) : Prop where
  calling : loop.callingPendingFunctors = loop.phase.calling
  own : loop.rest none ≠ .nothing → loop.phase.calling = true
  written : loop.phase.swapsNext = false → ∀ functor ∈ loop.pendingFunctors,
    (∃ caller, loop.rest caller = .queued functor) ∨ 0 < loop.eventfd

theorem accounted_initial : (initial : EventLoop Thread).Accounted := rfl

theorem woken_initial : (initial : EventLoop Thread).Woken where
  calling := rfl
  own busy := absurd rfl busy
  written _ _ pending := absurd pending List.not_mem_nil

/-- What has run is the first of what was pushed. -/
theorem Accounted.ran_inOrder {loop : EventLoop Thread} (accounted : loop.Accounted) :
    loop.ran <+: List.range loop.queued := by
  rw [Accounted, List.append_assoc] at accounted
  exact ⟨_, accounted⟩

theorem Accounted.once {loop : EventLoop Thread} (accounted : loop.Accounted) : loop.ran.Nodup :=
  List.nodup_range.sublist accounted.ran_inOrder.sublist

theorem Accounted.ordered {loop : EventLoop Thread} (accounted : loop.Accounted) : loop.ran.Pairwise (· < ·) :=
  List.pairwise_lt_range.sublist accounted.ran_inOrder.sublist

end

section
variable {Thread : Type} {loop after : EventLoop Thread}

theorem Accounted.advance {move : Move} (accounted : loop.Accounted)
    (taken : loop.advance move loop.phase = some after) : after.Accounted := by
  generalize here : loop.phase = phase at taken
  rw [Accounted, here] at accounted
  unfold EventLoop.advance at taken
  split at taken
  case h_2 =>
    cases taken
    have none : (if loop.quit then Phase.outside else Phase.polling).taken = [] := by split <;> rfl
    rw [Accounted, none]
    exact accounted
  case h_3 =>
    obtain ⟨-, rfl⟩ := Option.ite_some_none_eq_some.mp taken
    exact accounted
  case h_8 =>
    -- the pending functors become the ones to run
    cases taken
    simpa only [Accounted, Phase.taken, List.append_nil] using accounted
  case h_9 =>
    cases taken
    simpa only [Accounted, Phase.taken, List.append_assoc, List.cons_append, List.nil_append] using accounted
  case h_12 => cases taken
  all_goals
    cases taken
    exact accounted

theorem Woken.advance {move : Move} (woken : loop.Woken) (idle : loop.rest none = .nothing)
    (taken : loop.advance move loop.phase = some after) : after.Woken := by
  generalize here : loop.phase = phase at taken
  obtain ⟨calling, -, written⟩ := woken
  rw [here] at calling written
  unfold EventLoop.advance at taken
  split at taken
  case h_2 =>
    cases taken
    exact ⟨calling.trans (by split <;> rfl), fun busy => absurd idle busy, fun _ => written rfl⟩
  case h_3 =>
    obtain ⟨-, rfl⟩ := Option.ite_some_none_eq_some.mp taken
    exact ⟨calling, fun busy => absurd idle busy, fun waits => nomatch waits⟩
  case h_4 | h_5 | h_6 =>
    -- the read takes the eventfd back to zero, and the swap still comes
    cases taken
    exact ⟨calling, fun busy => absurd idle busy, fun waits => nomatch waits⟩
  case h_7 =>
    cases taken
    exact ⟨rfl, fun busy => absurd idle busy, fun waits => nomatch waits⟩
  case h_8 =>
    cases taken
    exact ⟨calling, fun busy => absurd idle busy, fun _ _ pending => absurd pending List.not_mem_nil⟩
  case h_1 | h_9 | h_10 =>
    cases taken
    exact ⟨calling, fun busy => absurd idle busy, fun _ => written rfl⟩
  case h_11 =>
    cases taken
    exact ⟨rfl, fun busy => absurd idle busy, fun _ => written rfl⟩
  case h_12 => cases taken

/-- At the poll the loop's own thread has nothing left to write. -/
theorem Woken.wakes (woken : loop.Woken) (polling : loop.phase = .polling) {functor : Nat}
    (pending : functor ∈ loop.pendingFunctors) (returned : ∀ thread, loop.rest (some thread) ≠ .queued functor) :
    0 < loop.eventfd := by
  have waits : loop.phase.swapsNext = false := congrArg Phase.swapsNext polling
  have calling : loop.phase.calling = false := congrArg Phase.calling polling
  obtain ⟨caller, queued⟩ | readable := woken.written waits functor pending
  · cases caller with
    | none =>
      have busy : loop.rest none ≠ .nothing := by
        rw [queued]
        exact nofun
      rw [woken.own busy] at calling
      cases calling
    | some thread => exact absurd queued (returned thread)
  · exact readable

end

section
variable {Thread : Type} [DecidableEq Thread] {loop after : EventLoop Thread}

@[simp] theorem setRest_own (thread : Thread) (rest : Rest) :
    (loop.setRest (some thread) rest).rest none = loop.rest none :=
  Function.update_of_ne (Option.some_ne_none thread).symm rest loop.rest

@[simp] theorem queueInLoop_phase (caller : Option Thread) : (loop.queueInLoop caller).phase = loop.phase := by
  rw [queueInLoop]
  split <;> rfl

@[simp] theorem queueInLoop_pendingFunctors (caller : Option Thread) :
    (loop.queueInLoop caller).pendingFunctors = loop.pendingFunctors ++ [loop.queued] := by
  rw [queueInLoop]
  split <;> rfl

@[simp] theorem queueInLoop_queued (caller : Option Thread) : (loop.queueInLoop caller).queued = loop.queued + 1 := by
  rw [queueInLoop]
  split <;> rfl

@[simp] theorem queueInLoop_ran (caller : Option Thread) : (loop.queueInLoop caller).ran = loop.ran := by
  rw [queueInLoop]
  split <;> rfl

@[simp] theorem queueInLoop_eventfd (caller : Option Thread) : (loop.queueInLoop caller).eventfd = loop.eventfd := by
  rw [queueInLoop]
  split <;> rfl

@[simp] theorem queueInLoop_callingPendingFunctors (caller : Option Thread) :
    (loop.queueInLoop caller).callingPendingFunctors = loop.callingPendingFunctors := by
  rw [queueInLoop]
  split <;> rfl

/-- The loop's own thread writes only while it runs functors. -/
theorem queueInLoop_rest (caller : Option Thread) :
    (loop.queueInLoop caller).rest =
      if caller = none ∧ loop.callingPendingFunctors = false then loop.rest
      else Function.update loop.rest caller (.queued loop.queued) := by
  rw [queueInLoop]
  cases caller <;> cases loop.callingPendingFunctors <;> rfl

theorem Accounted.queueInLoop (accounted : loop.Accounted) (caller : Option Thread) :
    (loop.queueInLoop caller).Accounted := by
  rw [Accounted, queueInLoop_ran, queueInLoop_phase, queueInLoop_pendingFunctors, queueInLoop_queued,
    ← List.append_assoc, accounted, List.range_succ]

theorem Accounted.step {label : Label Thread} (accounted : loop.Accounted) (taken : loop.step label = some after) :
    after.Accounted := by
  cases label with
  | queueInLoop caller =>
    obtain ⟨-, rfl⟩ := Option.ite_some_none_eq_some.mp taken
    exact accounted.queueInLoop caller
  | runInLoop caller =>
    obtain ⟨-, rfl⟩ := Option.ite_some_none_eq_some.mp taken
    rw [runInLoop]
    split
    · exact accounted
    · exact accounted.queueInLoop caller
  | quit caller =>
    obtain ⟨-, rfl⟩ := Option.ite_some_none_eq_some.mp taken
    rw [setQuit]
    split <;> exact accounted
  | wakeup caller =>
    obtain ⟨-, rfl⟩ := Option.ite_some_none_eq_some.mp taken
    exact accounted
  | move move => exact accounted.advance (Option.ite_none_right_eq_some.mp taken).2

/-- Whatever the threads do, the functors that run are the first of those pushed, in the order of the pushes. -/
theorem runs_in_order (run : Reaches EventLoop.step (fun _ _ => True) initial loop) :
    loop.ran <+: List.range loop.queued :=
  (run.invariant Accounted accounted_initial fun _ _ _ accounted _ taken => accounted.step taken).ran_inOrder

/-- A thread that is in no call makes one: it takes nobody else's write away. -/
theorem Woken.written_of_free {rest : Rest} {caller : Option Thread} {functor : Nat}
    (free : loop.rest caller = .nothing)
    (written : (∃ other, loop.rest other = .queued functor) ∨ 0 < loop.eventfd) :
    (∃ other, Function.update loop.rest caller rest other = .queued functor) ∨ 0 < loop.eventfd := by
  refine written.imp_left fun ⟨other, queued⟩ => ⟨other, ?_⟩
  have apart : other ≠ caller := by
    rintro rfl
    rw [free] at queued
    cases queued
  rw [Function.update_of_ne apart, queued]

theorem Woken.queueInLoop {caller : Option Thread} (woken : loop.Woken) (free : loop.Free caller)
    (inside : caller = none → loop.phase ≠ .outside) : (loop.queueInLoop caller).Woken where
  calling := by rw [queueInLoop_callingPendingFunctors, queueInLoop_phase, woken.calling]
  own busy := by
    rw [queueInLoop_rest] at busy
    rw [queueInLoop_phase]
    split at busy
    · exact woken.own busy
    · next writes =>
      cases caller with
      | none =>
        rw [← woken.calling]
        simpa only [true_and, Bool.not_eq_false] using writes
      | some thread =>
        exact woken.own fun idle => busy ((setRest_own thread (.queued loop.queued)).trans idle)
  written waits functor pending := by
    rw [queueInLoop_phase] at waits
    rw [queueInLoop_pendingFunctors, List.mem_append, List.mem_singleton] at pending
    rw [queueInLoop_rest, queueInLoop_eventfd]
    split
    · next silent =>
      -- the loop's own thread, running no functor, is outside or in a handler, and a swap follows the handler
      obtain ⟨rfl, quiet⟩ := silent
      have callsLoop := free.2 rfl
      rw [woken.calling] at quiet
      have outside := inside rfl
      cases here : loop.phase <;> rw [here] at callsLoop quiet waits outside <;> trivial
    · obtain old | rfl := pending
      · exact written_of_free free.1 (woken.written waits functor old)
      · exact .inl ⟨caller, Function.update_self caller _ _⟩

theorem Woken.setQuit {caller : Option Thread} (woken : loop.Woken) (free : loop.Free caller) :
    (loop.setQuit caller).Woken := by
  cases caller with
  | none => exact ⟨woken.calling, woken.own, woken.written⟩
  | some thread =>
    refine ⟨woken.calling, fun busy => woken.own fun idle => ?_, fun waits functor pending => ?_⟩
    · exact busy ((setRest_own thread .quitting).trans idle)
    · exact written_of_free free.1 (woken.written waits functor pending)

theorem Woken.wakeup (woken : loop.Woken) (caller : Option Thread) : (loop.wakeup caller).Woken where
  calling := woken.calling
  own busy := by
    refine woken.own fun idle => busy ?_
    cases caller with
    | none => exact Function.update_self none Rest.nothing loop.rest
    | some thread => exact (setRest_own thread .nothing).trans idle
  written _ _ _ := by
    right
    show 0 < if loop.eventfd < 0xfffffffffffffffe then loop.eventfd + 1 else loop.eventfd
    split
    · exact Nat.succ_pos _
    · omega

theorem Woken.step {label : Label Thread} (woken : loop.Woken) (inside : QueuesInside loop label)
    (taken : loop.step label = some after) : after.Woken := by
  cases label with
  | queueInLoop caller =>
    obtain ⟨free, rfl⟩ := Option.ite_some_none_eq_some.mp taken
    exact woken.queueInLoop free fun own => inside (congrArg _ own)
  | runInLoop caller =>
    obtain ⟨free, rfl⟩ := Option.ite_some_none_eq_some.mp taken
    cases caller with
    | none => exact ⟨woken.calling, woken.own, woken.written⟩
    | some thread => exact woken.queueInLoop free fun own => nomatch own
  | quit caller =>
    obtain ⟨free, rfl⟩ := Option.ite_some_none_eq_some.mp taken
    exact woken.setQuit free
  | wakeup caller =>
    obtain ⟨-, rfl⟩ := Option.ite_some_none_eq_some.mp taken
    exact woken.wakeup caller
  | move move =>
    obtain ⟨idle, moved⟩ := Option.ite_none_right_eq_some.mp taken
    exact woken.advance idle moved

theorem never_delayed (run : Reaches EventLoop.step QueuesInside initial loop) : loop.NeverDelayed := by
  have accounted : loop.Accounted :=
    run.invariant Accounted accounted_initial fun _ _ _ accounted _ taken => accounted.step taken
  have woken : loop.Woken := run.invariant Woken woken_initial fun _ _ _ woken inside taken => woken.step inside taken
  exact ⟨accounted, accounted.once, accounted.ordered,
    fun polling _ pending returned => woken.wakes polling pending returned⟩

/-- A functor that queues another, and one that comes from another thread. -/
theorem never_delayed_nested : ∃ loop : EventLoop Unit, loop.phase = .polling ∧ loop.pendingFunctors = [1] ∧
    loop.ran = [0] ∧ loop.NeverDelayed := by
  let labels : List (Label Unit) :=
    [.move .start, .move .check, .queueInLoop (some ()), .wakeup (some ()), .move (.poll [.wakeup]), .move .handleEvent,
      .move .handled, .move .swap, .move .runFunctor, .queueInLoop none, .wakeup none,
        .move .functorReturns, .move .done,
      .move .check]
  have run : ∃ final, followAllowed EventLoop.step (fun loop label => decide (QueuesInside loop label)) initial labels =
      some final ∧ final.phase = .polling ∧ final.pendingFunctors = [1] ∧ final.ran = [0] := ⟨_, rfl, rfl, rfl, rfl⟩
  obtain ⟨final, run, polling, pending, ran⟩ := run
  exact ⟨final, polling, pending, ran, never_delayed (Reaches.of_decide run)⟩

/-- Outside, with nothing written, what the loop's own thread queues waits for the whole of the next poll. -/
theorem blocks_of_outside (outside : loop.phase = .outside) (quiet : loop.callingPendingFunctors = false)
    (idle : ∀ caller, loop.rest caller = .nothing) (unread : loop.eventfd = 0) :
    ∃ after, follow EventLoop.step loop [.queueInLoop none, .move .start, .move .check] = some after ∧
      ¬ after.NeverDelayed := by
  have free : loop.Free none := ⟨idle none, fun _ => congrArg Phase.callsLoop outside⟩
  have silent : (loop.queueInLoop none).rest = loop.rest := by rw [queueInLoop_rest, if_pos ⟨rfl, quiet⟩]
  refine ⟨{ loop.queueInLoop none with quit := false, phase := .polling }, ?_, fun never => ?_⟩
  · have queued : loop.step (.queueInLoop none) = some (loop.queueInLoop none) := if_pos free
    have started : (loop.queueInLoop none).step (.move .start) =
        some { loop.queueInLoop none with quit := false, phase := .checking } := by
      rw [EventLoop.step, if_pos (silent ▸ idle none), queueInLoop_phase, outside]
      rfl
    rw [follow_cons, queued, Option.bind_some, follow_cons, started, Option.bind_some, follow_singleton, EventLoop.step,
      if_pos (silent ▸ idle none)]
    rfl
  · have readable : 0 < (loop.queueInLoop none).eventfd := by
      refine never.wakes rfl loop.queued ?_ fun thread queued => ?_
      · rw [queueInLoop_pendingFunctors]
        exact List.mem_append_right _ (List.mem_singleton_self _)
      · rw [silent, idle] at queued
        cases queued
    rw [queueInLoop_eventfd, unread] at readable
    exact absurd readable (lt_irrefl 0)

/-- The loop's own thread queues a functor before `loop()`. -/
theorem delayed_before_loop : ¬ ∀ (Thread : Type) [DecidableEq Thread] (loop : EventLoop Thread),
    Reaches EventLoop.step (fun _ _ => True) initial loop → loop.NeverDelayed := by
  intro all
  have start : (initial : EventLoop Unit).phase = .outside := rfl
  obtain ⟨after, run, delayed⟩ := blocks_of_outside start rfl (fun _ => rfl) rfl
  exact delayed (all Unit after (Reaches.of_follow run))

end

end EventLoop

end EdgeFlow.Network
