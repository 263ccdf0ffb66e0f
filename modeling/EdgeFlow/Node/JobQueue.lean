import EdgeFlow.Library.Run
import EdgeFlow.Node.Inference
import Mathlib.Data.List.Nodup
import Mathlib.Logic.Function.Basic

/-! `NodeJobQueue` between any number of threads.

A critical section is one step, and so is each notification, which `push` and `stop`
send once they have let go of the lock. A thread that is notified takes the lock
again and looks again, as it did when it called.
-/

set_option autoImplicit false

namespace EdgeFlow.Node
open Library

def NodeJobQueue.stop {J : Type} (queue : NodeJobQueue J) : NodeJobQueue J := { queue with running := false }

/-- A call with what it has come to in its critical section. -/
inductive QueueCall (J : Type) where
  | push (job : J) (taken : Bool)
  | waitPop (job : Option J)
  | stop
  deriving DecidableEq

/-- A queue with the threads that push, pop and stop. -/
structure QueueThreads (Producer Consumer Stopper J : Type) where
  queue : NodeJobQueue J
  /-- `notify_one` is still to come -/
  pushed : Producer → Bool
  /-- blocked in `cv_.wait` -/
  waiting : List Consumer
  /-- `notify_all` is still to come -/
  stopped : Stopper → Bool
  /-- the calls in the order of their critical sections -/
  calls : List (QueueCall J)

namespace QueueThreads
variable {Producer Consumer Stopper J : Type}

inductive Step (Producer Consumer Stopper J : Type) where
  | push (producer : Producer) (job : J)
  | notifyOne (producer : Producer) (woken : Option Consumer)
  | waitPop (consumer : Consumer)
  /-- a wait may end without a notification -/
  | wake (consumer : Consumer)
  | stop (stopper : Stopper)
  | notifyAll (stopper : Stopper)

def started (maxSize : Nat) : QueueThreads Producer Consumer Stopper J where
  queue := ⟨maxSize, [], true⟩
  pushed _ := false
  waiting := []
  stopped _ := false
  calls := []

variable [DecidableEq Producer] [DecidableEq Consumer] [DecidableEq Stopper]

def step (threads : QueueThreads Producer Consumer Stopper J) :
    Step Producer Consumer Stopper J → Option (QueueThreads Producer Consumer Stopper J)
  | .push producer job =>
    if threads.pushed producer then none
    else
      let (taken, queue) := threads.queue.push job
      some { threads with
        queue
        pushed := Function.update threads.pushed producer taken
        calls := threads.calls ++ [.push job taken] }
  | .notifyOne producer woken =>
    if threads.pushed producer then
      let notified := { threads with pushed := Function.update threads.pushed producer false }
      match woken with
      | some consumer =>
        if consumer ∈ threads.waiting then some { notified with waiting := threads.waiting.filter (· ≠ consumer) }
        else none
      -- the notification is lost where nobody waits
      | none => if threads.waiting = [] then some notified else none
    else none
  | .waitPop consumer =>
    if consumer ∈ threads.waiting then none
    else
      match threads.queue.waitPop with
      | some (job, queue) => some { threads with queue, calls := threads.calls ++ [.waitPop job] }
      | none => some { threads with waiting := consumer :: threads.waiting }
  | .wake consumer => some { threads with waiting := threads.waiting.filter (· ≠ consumer) }
  | .stop stopper =>
    if threads.stopped stopper then none
    else
      some { threads with
        queue := threads.queue.stop
        stopped := Function.update threads.stopped stopper true
        calls := threads.calls ++ [.stop] }
  | .notifyAll stopper =>
    if threads.stopped stopper then
      some { threads with waiting := [], stopped := Function.update threads.stopped stopper false }
    else none

end QueueThreads

/-! ## The jobs -/

section
variable {J : Type}

/-- The jobs the queue has taken, in order. -/
def accepted (calls : List (QueueCall J)) : List J :=
  calls.filterMap fun
    | .push job true => some job
    | _ => none

/-- The jobs that were popped, in order. -/
def returned (calls : List (QueueCall J)) : List J :=
  calls.filterMap fun
    | .waitPop (some job) => some job
    | _ => none

/-- All jobs that were pushed, taken or not. -/
def submitted (calls : List (QueueCall J)) : List J :=
  calls.filterMap fun
    | .push job _ => some job
    | _ => none

theorem accepted_sublist (calls : List (QueueCall J)) : (accepted calls).Sublist (submitted calls) := by
  induction calls with
  | nil => exact .slnil
  | cons call calls ih =>
    cases call with
    | push job taken =>
      cases taken with
      | true => exact ih.cons_cons job
      | false => exact ih.cons job
    | waitPop job => exact ih
    | stop => exact ih

/-- Where no job is pushed twice, one that is refused is not one that is taken. -/
theorem not_accepted_of_refused {calls : List (QueueCall J)} (distinct : (submitted calls).Nodup) {job : J}
    (refused : .push job false ∈ calls) : job ∉ accepted calls := by
  induction calls with
  | nil => cases refused
  | cons call calls ih =>
    cases call with
    | push other taken =>
      have distinct : (other :: submitted calls).Nodup := distinct
      obtain ⟨fresh, rest⟩ := List.nodup_cons.mp distinct
      rcases List.mem_cons.mp refused with here | later
      · -- the refused call itself takes nothing, and no later call brings its job again
        cases here
        exact fun member => fresh ((accepted_sublist calls).subset member)
      · have notLater := ih rest later
        cases taken with
        | true =>
          have isSubmitted : job ∈ submitted calls := List.mem_filterMap.mpr ⟨_, later, rfl⟩
          intro member
          rcases List.mem_cons.mp member with rfl | member
          · exact fresh isSubmitted
          · exact notLater member
        | false => exact notLater
    | waitPop other =>
      refine ih distinct ?_
      simpa using refused
    | stop =>
      refine ih distinct ?_
      simpa using refused

end

namespace NodeJobQueue
variable {J : Type}

/-- The critical section of a call, when it is not left to wait. -/
inductive Called (queue : NodeJobQueue J) : QueueCall J → NodeJobQueue J → Prop where
  | push {job : J} {taken : Bool} {after : NodeJobQueue J} : queue.push job = (taken, after) →
      Called queue (.push job taken) after
  | waitPop {job : Option J} {after : NodeJobQueue J} : queue.waitPop = some (job, after) →
      Called queue (.waitPop job) after
  | stop : Called queue .stop queue.stop

/-- What a call that takes a job, or that fails to pop one, says about the calls before it. -/
def Grounds (before : List (QueueCall J)) : QueueCall J → Prop
  | .push _ true => .stop ∉ before
  | .waitPop none => .stop ∈ before ∧ accepted before = returned before
  | _ => True

/-- The queue is what was taken and has not been popped, within its bound, and `stop` is for good. -/
structure Sound (maxSize : Nat) (queue : NodeJobQueue J) (calls : List (QueueCall J)) : Prop where
  capacity : queue.maxSize = maxSize
  bounded : queue.jobs.length ≤ maxSize
  order : accepted calls = returned calls ++ queue.jobs
  running : queue.running = true ↔ .stop ∉ calls
  grounds : ∀ before call after, calls = before ++ call :: after → Grounds before call

theorem Sound.started (maxSize : Nat) : Sound maxSize (⟨maxSize, [], true⟩ : NodeJobQueue J) [] where
  capacity := rfl
  bounded := Nat.zero_le _
  order := rfl
  running := by simp
  grounds := by simp

/-- Each call of a list has its grounds when the last one has them after the others. -/
theorem grounds_append {calls : List (QueueCall J)} {last : QueueCall J}
    (earlier : ∀ before call after, calls = before ++ call :: after → Grounds before call) (here : Grounds calls last)
    (before : List (QueueCall J)) (call : QueueCall J) (after : List (QueueCall J))
    (same : calls ++ [last] = before ++ call :: after) : Grounds before call := by
  rcases List.eq_nil_or_concat after with rfl | ⟨shorter, final, rfl⟩
  · obtain ⟨rfl, ends⟩ := List.append_inj' same rfl
    cases ends
    exact here
  · have cut : calls ++ [last] = (before ++ call :: shorter) ++ [final] := by simpa using same
    obtain ⟨rfl, ends⟩ := List.append_inj' cut rfl
    exact earlier before call shorter rfl

theorem push_cases {queue after : NodeJobQueue J} {job : J} {taken : Bool} (pushed : queue.push job = (taken, after)) :
    (taken = false ∧ after = queue) ∨
      (taken = true ∧ queue.running = true ∧ queue.jobs.length < queue.maxSize ∧
        after = { queue with jobs := queue.jobs ++ [job] }) := by
  unfold push at pushed
  split at pushed
  · cases pushed
    exact .inl ⟨rfl, rfl⟩
  · next room =>
    cases pushed
    rw [not_or, Nat.not_le] at room
    exact .inr ⟨rfl, by simpa using room.1, room.2, rfl⟩

theorem waitPop_cases {queue after : NodeJobQueue J} {job : Option J} (popped : queue.waitPop = some (job, after)) :
    (∃ first jobs, job = some first ∧ queue.jobs = first :: jobs ∧ after = { queue with jobs }) ∨
      (job = none ∧ queue.jobs = [] ∧ queue.running = false ∧ after = queue) := by
  unfold waitPop at popped
  split at popped
  · next first jobs front =>
    cases popped
    exact .inl ⟨first, jobs, rfl, front, rfl⟩
  · next empty =>
    split at popped
    · cases popped
    · next stopped =>
      cases popped
      exact .inr ⟨rfl, empty, by simpa using stopped, rfl⟩

/-- Only an empty queue that runs leaves a consumer waiting. -/
theorem waitPop_none {queue : NodeJobQueue J} (waits : queue.waitPop = none) :
    queue.jobs = [] ∧ queue.running = true := by
  unfold waitPop at waits
  split at waits
  · cases waits
  · next empty =>
    split at waits
    · next running => exact ⟨empty, running⟩
    · cases waits

variable {maxSize : Nat} {queue after : NodeJobQueue J} {calls : List (QueueCall J)}

theorem Sound.push (sound : Sound maxSize queue calls) {job : J} {taken : Bool}
    (pushed : queue.push job = (taken, after)) : Sound maxSize after (calls ++ [.push job taken]) := by
  rcases push_cases pushed with ⟨rfl, rfl⟩ | ⟨rfl, running, room, rfl⟩
  · exact {
      capacity := sound.capacity
      bounded := sound.bounded
      order := by simpa [accepted, returned] using sound.order
      running := by simpa using sound.running
      grounds := grounds_append sound.grounds trivial }
  · exact {
      capacity := sound.capacity
      bounded := by
        rw [sound.capacity] at room
        simpa using room
      order := by
        have order := sound.order
        simp only [accepted, returned] at order ⊢
        simp [order]
      running := by simpa using sound.running
      -- this push found the queue running, so no stop came before it
      grounds := grounds_append sound.grounds (sound.running.mp running) }

theorem Sound.waitPop (sound : Sound maxSize queue calls) {job : Option J}
    (popped : queue.waitPop = some (job, after)) : Sound maxSize after (calls ++ [.waitPop job]) := by
  have order := sound.order
  rcases waitPop_cases popped with ⟨first, jobs, rfl, front, rfl⟩ | ⟨rfl, empty, stopped, rfl⟩
  · exact {
      capacity := sound.capacity
      bounded := by
        have bounded := sound.bounded
        rw [front, List.length_cons] at bounded
        exact Nat.le_of_succ_le bounded
      order := by
        rw [front] at order
        simp only [accepted, returned] at order ⊢
        simp [order]
      running := by simpa using sound.running
      grounds := grounds_append sound.grounds trivial }
  · -- this pop found the queue stopped, so a stop came before it, and empty
    have hasStopped : .stop ∈ calls := by
      by_contra noStop
      rw [sound.running.mpr noStop] at stopped
      cases stopped
    rw [empty, List.append_nil] at order
    exact {
      capacity := sound.capacity
      bounded := sound.bounded
      order := by simpa [accepted, returned] using sound.order
      running := by simpa using sound.running
      grounds := grounds_append sound.grounds ⟨hasStopped, order⟩ }

theorem Sound.stop (sound : Sound maxSize queue calls) : Sound maxSize queue.stop (calls ++ [.stop]) where
  capacity := sound.capacity
  bounded := sound.bounded
  order := by simpa [accepted, returned, NodeJobQueue.stop] using sound.order
  running := by simp [NodeJobQueue.stop]
  grounds := grounds_append sound.grounds trivial

theorem Sound.called (sound : Sound maxSize queue calls) {call : QueueCall J} (called : Called queue call after) :
    Sound maxSize after (calls ++ [call]) := by
  cases called with
  | push pushed => exact sound.push pushed
  | waitPop popped => exact sound.waitPop popped
  | stop => exact sound.stop

/-- The jobs that were popped are the first of those taken. -/
theorem Sound.returned_prefix (sound : Sound maxSize queue calls) : returned calls <+: accepted calls :=
  ⟨queue.jobs, sound.order.symm⟩

end NodeJobQueue

/-! ## The threads -/

namespace QueueThreads
variable {Producer Consumer Stopper J : Type}

/-- Where there is a job and all consumers are blocked, a notification is to come. -/
def Attended (threads : QueueThreads Producer Consumer Stopper J) : Prop :=
  threads.queue.jobs ≠ [] → (∀ consumer, consumer ∈ threads.waiting) →
    (∃ producer, threads.pushed producer = true) ∨ ∃ stopper, threads.stopped stopper = true

/-- Whoever is still blocked once the queue is stopped has `notify_all` to come. -/
def Released (threads : QueueThreads Producer Consumer Stopper J) : Prop :=
  threads.queue.running = false → threads.waiting ≠ [] → ∃ stopper, threads.stopped stopper = true

variable [DecidableEq Producer] [DecidableEq Consumer] [DecidableEq Stopper]

/-- All that a step can do. -/
inductive Moves (threads : QueueThreads Producer Consumer Stopper J) :
    QueueThreads Producer Consumer Stopper J → Prop where
  | push {producer : Producer} {job : J} {taken : Bool} {queue : NodeJobQueue J} :
      threads.pushed producer = false → threads.queue.push job = (taken, queue) →
      Moves threads { threads with
        queue
        pushed := Function.update threads.pushed producer taken
        calls := threads.calls ++ [.push job taken] }
  | notifyOne {producer : Producer} {consumer : Consumer} :
      Moves threads { threads with
        pushed := Function.update threads.pushed producer false
        waiting := threads.waiting.filter (· ≠ consumer) }
  | lost {producer : Producer} : threads.waiting = [] →
      Moves threads { threads with pushed := Function.update threads.pushed producer false }
  | pop {consumer : Consumer} {job : Option J} {queue : NodeJobQueue J} :
      consumer ∉ threads.waiting → threads.queue.waitPop = some (job, queue) →
      Moves threads { threads with queue, calls := threads.calls ++ [.waitPop job] }
  | wait {consumer : Consumer} : threads.queue.waitPop = none →
      Moves threads { threads with waiting := consumer :: threads.waiting }
  | wake {consumer : Consumer} : Moves threads { threads with waiting := threads.waiting.filter (· ≠ consumer) }
  | stop {stopper : Stopper} :
      Moves threads { threads with
        queue := threads.queue.stop
        stopped := Function.update threads.stopped stopper true
        calls := threads.calls ++ [.stop] }
  | notifyAll {stopper : Stopper} :
      Moves threads { threads with waiting := [], stopped := Function.update threads.stopped stopper false }

variable {threads after : QueueThreads Producer Consumer Stopper J}

theorem moves_of_step {label : Step Producer Consumer Stopper J} (taken : threads.step label = some after) :
    threads.Moves after := by
  cases label with
  | push producer job =>
    simp only [step] at taken
    split at taken
    · cases taken
    · next idle =>
      cases taken
      exact .push (Bool.eq_false_iff.mpr idle) rfl
  | notifyOne producer woken =>
    simp only [step] at taken
    split at taken
    · cases woken with
      | some consumer =>
        simp only at taken
        split at taken
        · cases taken
          exact .notifyOne
        · cases taken
      | none =>
        simp only at taken
        split at taken
        · next nobody =>
          cases taken
          exact .lost nobody
        · cases taken
    · cases taken
  | waitPop consumer =>
    simp only [step] at taken
    split at taken
    · cases taken
    · next awake =>
      split at taken
      · next popped =>
        cases taken
        exact .pop awake popped
      · next waits =>
        cases taken
        exact .wait waits
  | wake consumer =>
    cases taken
    exact .wake
  | stop stopper =>
    simp only [step] at taken
    split at taken
    · cases taken
    · cases taken
      exact .stop
  | notifyAll stopper =>
    simp only [step] at taken
    split at taken
    · cases taken
      exact .notifyAll
    · cases taken

/-- A step is a call or leaves the queue as it is. -/
theorem Moves.queue (moves : threads.Moves after) :
    (after.queue = threads.queue ∧ after.calls = threads.calls) ∨
      ∃ call, threads.queue.Called call after.queue ∧ after.calls = threads.calls ++ [call] := by
  cases moves with
  | push idle pushed => exact .inr ⟨_, .push pushed, rfl⟩
  | pop awake popped => exact .inr ⟨_, .waitPop popped, rfl⟩
  | stop => exact .inr ⟨_, .stop, rfl⟩
  | notifyOne => exact .inl ⟨rfl, rfl⟩
  | lost => exact .inl ⟨rfl, rfl⟩
  | wait => exact .inl ⟨rfl, rfl⟩
  | wake => exact .inl ⟨rfl, rfl⟩
  | notifyAll => exact .inl ⟨rfl, rfl⟩

omit [DecidableEq Producer] [DecidableEq Stopper] in
theorem not_mem_filter_ne (waiting : List Consumer) (consumer : Consumer) :
    consumer ∉ waiting.filter (· ≠ consumer) := by
  simp

theorem Attended.moves [Nonempty Consumer] (attended : threads.Attended) (moves : threads.Moves after) :
    after.Attended := by
  intro jobs blocked
  cases moves with
  | @push producer job taken queue idle pushed =>
    rcases NodeJobQueue.push_cases pushed with ⟨rfl, rfl⟩ | ⟨rfl, -⟩
    · -- a push that is refused has no notification to send, and none to take away
      have same : Function.update threads.pushed producer false = threads.pushed := by
        rw [← idle, Function.update_eq_self]
      rw [same]
      exact attended jobs blocked
    · exact .inl ⟨producer, Function.update_self ..⟩
  | @notifyOne producer consumer => exact absurd (blocked consumer) (not_mem_filter_ne _ _)
  | lost nobody =>
    obtain ⟨consumer⟩ := ‹Nonempty Consumer›
    have waits := blocked consumer
    rw [nobody] at waits
    cases waits
  | @pop consumer job queue awake popped => exact absurd (blocked consumer) awake
  | wait waits => exact absurd (NodeJobQueue.waitPop_none waits).1 jobs
  | @wake consumer => exact absurd (blocked consumer) (not_mem_filter_ne _ _)
  | @stop stopper => exact .inr ⟨stopper, Function.update_self ..⟩
  | notifyAll =>
    obtain ⟨consumer⟩ := ‹Nonempty Consumer›
    cases blocked consumer

theorem Released.moves (released : threads.Released) (moves : threads.Moves after) : after.Released := by
  intro stopped blocked
  have kept {consumer : Consumer} (left : threads.waiting.filter (· ≠ consumer) ≠ []) : threads.waiting ≠ [] := by
    rintro nobody
    rw [nobody] at left
    exact left rfl
  cases moves with
  | @push producer job taken queue idle pushed =>
    rcases NodeJobQueue.push_cases pushed with ⟨-, rfl⟩ | ⟨-, running, -, rfl⟩
    · exact released stopped blocked
    · exact absurd (running.symm.trans stopped) (by decide)
  | notifyOne => exact released stopped (kept blocked)
  | lost nobody => exact absurd nobody blocked
  | @pop consumer job queue awake popped =>
    rcases NodeJobQueue.waitPop_cases popped with ⟨first, jobs, -, -, rfl⟩ | ⟨-, -, -, rfl⟩
    · exact released stopped blocked
    · exact released stopped blocked
  | wait waits =>
    -- nobody starts to wait for a queue that is stopped
    have running := (NodeJobQueue.waitPop_none waits).2
    rw [running] at stopped
    cases stopped
  | wake => exact released stopped (kept blocked)
  | @stop stopper => exact ⟨stopper, Function.update_self ..⟩
  | notifyAll => exact absurd rfl blocked

theorem Moves.sound {maxSize : Nat} (sound : threads.queue.Sound maxSize threads.calls) (moves : threads.Moves after) :
    after.queue.Sound maxSize after.calls := by
  rcases moves.queue with ⟨queue, calls⟩ | ⟨call, called, calls⟩
  · rw [queue, calls]
    exact sound
  · rw [calls]
    exact sound.called called

variable {maxSize : Nat}

theorem reaches_sound (run : Reaches step (fun _ _ => True) (started maxSize) threads) :
    threads.queue.Sound maxSize threads.calls := by
  apply run.invariant fun threads => threads.queue.Sound maxSize threads.calls
  · exact NodeJobQueue.Sound.started maxSize
  · intro threads label after sound _ taken
    exact (moves_of_step taken).sound sound

theorem reaches_attended [Nonempty Consumer] (run : Reaches step (fun _ _ => True) (started maxSize) threads) :
    threads.Attended := by
  apply run.invariant Attended
  · intro jobs
    exact absurd rfl jobs
  · intro threads label after attended _ taken
    exact attended.moves (moves_of_step taken)

theorem reaches_released (run : Reaches step (fun _ _ => True) (started maxSize) threads) : threads.Released := by
  apply run.invariant Released
  · intro stopped
    cases stopped
  · intro threads label after released _ taken
    exact released.moves (moves_of_step taken)

/-- A queue between any threads is bounded, hands out in order and once what it takes, keeps what it takes when it is
stopped and wakes the consumers it has something for. -/
theorem jobQueue_fifo (run : Reaches step (fun _ _ => True) (started maxSize) threads) :
    threads.queue.jobs.length ≤ maxSize ∧
      returned threads.calls <+: accepted threads.calls ∧
      ((submitted threads.calls).Nodup → (returned threads.calls).Nodup ∧
        ∀ job, .push job false ∈ threads.calls → job ∉ returned threads.calls) ∧
      (∀ before job after, threads.calls = before ++ .push job true :: after → .stop ∉ before) ∧
      (∀ before after, threads.calls = before ++ .waitPop none :: after →
        .stop ∈ before ∧ accepted before = returned before) ∧
      ∀ consumer ∈ threads.waiting,
        (threads.queue.jobs ≠ [] → (∃ other, other ∉ threads.waiting) ∨
          (∃ producer, threads.pushed producer = true) ∨ ∃ stopper, threads.stopped stopper = true) ∧
        (threads.queue.running = false → ∃ stopper, threads.stopped stopper = true) := by
  have sound := reaches_sound run
  have first := sound.returned_prefix
  refine ⟨sound.bounded, first, fun distinct => ⟨?_, ?_⟩, ?_, ?_, ?_⟩
  · exact (first.sublist.trans (accepted_sublist _)).nodup distinct
  · intro job refused popped
    exact not_accepted_of_refused distinct refused (first.subset popped)
  · intro before job after same
    exact sound.grounds before _ after same
  · intro before after same
    exact sound.grounds before _ after same
  · intro consumer waits
    constructor
    · intro jobs
      by_cases blocked : ∀ other, other ∈ threads.waiting
      · have : Nonempty Consumer := ⟨consumer⟩
        exact .inr (reaches_attended run jobs blocked)
      · exact .inl (not_forall.mp blocked)
    · intro stopped
      exact reaches_released run stopped (List.ne_nil_of_mem waits)

/-- A consumer waits; a job is taken and one refused, the queue is stopped, and the job is popped before
`wait_pop` fails. -/
theorem jobQueue_drained :
    let calls : List (QueueCall Nat) := [.push 1 true, .push 2 false, .stop, .waitPop (some 1), .waitPop none]
    (submitted calls).Nodup ∧ returned calls <+: accepted calls ∧
      ∀ job, .push job false ∈ calls → job ∉ returned calls := by
  let steps : List (Step (Fin 2) Unit Unit Nat) :=
    [.waitPop (), .push 0 1, .push 1 2, .stop (), .notifyAll (), .notifyOne 0 none, .waitPop (), .waitPop ()]
  have run : ∃ final, follow step (started 1) steps = some final ∧
      final.calls = [.push 1 true, .push 2 false, .stop, .waitPop (some 1), .waitPop none] := ⟨_, rfl, rfl⟩
  obtain ⟨final, run, same⟩ := run
  have fifo := jobQueue_fifo (Reaches.of_follow run)
  rw [same] at fifo
  have distinct : (submitted [.push 1 true, .push 2 false, .stop, .waitPop (some 1), .waitPop none]).Nodup := by decide
  exact ⟨distinct, fifo.2.1, (fifo.2.2.1 distinct).2⟩

end QueueThreads

end EdgeFlow.Node
