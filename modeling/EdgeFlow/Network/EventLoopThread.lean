import EdgeFlow.Network.EventLoop

/-! `EventLoopThread`: a thread that builds an `EventLoop`, hands it out and runs it until somebody quits.

`startLoop` returns as soon as `loop_` is set, before the thread is in `loop()`, which clears the flag that
`quit` sets.
-/

set_option autoImplicit false

namespace EdgeFlow.Network
open Library

namespace EventLoop

/-- Who takes the step. -/
def Label.caller {Thread : Type} : Label Thread → Option Thread
  | .queueInLoop caller | .runInLoop caller | .quit caller | .wakeup caller => caller
  | .move _ => none

def Label.polls {Thread : Type} : Label Thread → Bool
  | .move (.poll _) => true
  | _ => false

end EventLoop

structure EventLoopThread (Thread : Type) where
  loop : EventLoop Thread
  /-- `loop_` is set: `startLoop` returns it -/
  published : Bool
  /-- the thread called `loop()` -/
  entered : Bool
  /-- `loop()` returned, and `loop_` is `NULL` -/
  ended : Bool

namespace EventLoopThread
open EventLoop (Move Rest)

inductive Label (Thread : Type) where
  | publish
  | enter
  | inLoop (label : EventLoop.Label Thread)
  | leave
  deriving DecidableEq

section
variable {Thread : Type}

def initial : EventLoopThread Thread where
  loop := .initial
  published := false
  entered := false
  ended := false

variable [DecidableEq Thread]

/-- Another thread has the loop from `startLoop` only; the thread itself has it from the start, in `callback_`. -/
def step (thread : EventLoopThread Thread) : Label Thread → Option (EventLoopThread Thread)
  | .publish => if thread.published then none else some { thread with published := true }
  | .enter =>
    if thread.published ∧ ¬thread.entered then
      (thread.loop.step (.move .start)).map fun loop => { thread with loop := loop, entered := true }
    else none
  | .inLoop label =>
    if label ≠ .move .start ∧ (label.caller.isSome → thread.published) ∧ ¬thread.ended then
      (thread.loop.step label).map fun loop => { thread with loop := loop }
    else none
  | .leave =>
    if thread.entered ∧ ¬thread.ended ∧ thread.loop.phase = .outside then some { thread with ended := true } else none

end

def Label.polls {Thread : Type} : Label Thread → Bool
  | .inLoop label => label.polls
  | _ => false

/-- The thread ends by a `quit` that comes after it is in `loop()`, and behind such a `quit` it polls once more at
most, on an eventfd that is readable or about to be written to. An earlier `quit` is lost. -/
structure EndsByQuit {Thread : Type} (labels : List (Label Thread)) (after : EventLoopThread Thread) : Prop where
  asked : after.ended = true → ∃ before since caller,
    labels = before ++ .enter :: since ∧ .inLoop (.quit caller) ∈ since
  stops : ∀ before since caller, labels = before ++ .inLoop (.quit caller) :: since → .enter ∈ before →
    since.countP Label.polls ≤ 1 ∧ (after.loop.phase = .polling →
      (∃ other, after.loop.rest (some other) = .quitting) ∨ 0 < after.loop.eventfd)

end EventLoopThread

/-! ### The loop -/

namespace EventLoop

section
variable {Thread : Type} {loop after : EventLoop Thread}

/-- Where the flag is set and the thread polls, whoever set it has written to the eventfd or is about to. -/
def Heard (loop : EventLoop Thread) : Prop :=
  loop.quit = true → loop.phase = .polling → (∃ other, loop.rest (some other) = .quitting) ∨ 0 < loop.eventfd

theorem advance_quit {move : Move} (other : move ≠ .start) (taken : loop.advance move loop.phase = some after) :
    after.quit = loop.quit := by
  generalize loop.phase = phase at taken
  unfold EventLoop.advance at taken
  split at taken
  case h_1 => exact absurd rfl other
  case h_3 =>
    obtain ⟨-, rfl⟩ := Option.ite_some_none_eq_some.mp taken
    rfl
  case h_12 => cases taken
  all_goals
    cases taken
    rfl

/-- The thread polls only where it found the flag clear, and leaves only where it found it set. -/
theorem advance_phase {move : Move} (taken : loop.advance move loop.phase = some after) :
    (after.phase = .polling → after.quit = false) ∧ (after.phase = .outside → after.quit = true) := by
  generalize loop.phase = phase at taken
  unfold EventLoop.advance at taken
  split at taken
  case h_2 =>
    cases taken
    cases asked : loop.quit
    · exact ⟨fun _ => rfl, nofun⟩
    · exact ⟨nofun, fun _ => rfl⟩
  case h_3 =>
    obtain ⟨-, rfl⟩ := Option.ite_some_none_eq_some.mp taken
    exact ⟨nofun, nofun⟩
  case h_12 => cases taken
  all_goals
    cases taken
    exact ⟨nofun, nofun⟩

theorem polling_of_poll {active : List Active} (taken : loop.advance (.poll active) loop.phase = some after) :
    loop.phase = .polling := by
  cases here : loop.phase with
  | polling => rfl
  | _ =>
    rw [here] at taken
    cases taken

/-- Once the flag is set the thread gets to no other poll. -/
theorem advance_quitting {move : Move} (other : move ≠ .start) (asked : loop.quit = true)
    (taken : loop.advance move loop.phase = some after) : after.quit = true ∧ after.phase ≠ .polling := by
  have kept : after.quit = true := (advance_quit other taken).trans asked
  refine ⟨kept, fun polling => ?_⟩
  rw [(advance_phase taken).1 polling] at kept
  cases kept

end

section
variable {Thread : Type} [DecidableEq Thread] {loop after : EventLoop Thread}

@[simp] theorem queueInLoop_quit (caller : Option Thread) : (loop.queueInLoop caller).quit = loop.quit := by
  rw [queueInLoop]
  split <;> rfl

@[simp] theorem setQuit_phase (caller : Option Thread) : (loop.setQuit caller).phase = loop.phase := by
  rw [setQuit]
  split <;> rfl

@[simp] theorem setQuit_quit (caller : Option Thread) : (loop.setQuit caller).quit = true := by
  rw [setQuit]
  split <;> rfl

theorem setQuit_rest (other : Thread) :
    (loop.setQuit (some other)).rest = Function.update loop.rest (some other) .quitting := rfl

/-- Only the loop's own thread moves it, and only `quit` sets the flag. -/
theorem step_call {label : EventLoop.Label Thread} (call : ∀ move, label ≠ .move move)
    (taken : loop.step label = some after) :
    after.phase = loop.phase ∧ (after.quit = loop.quit ∨ ∃ caller, label = .quit caller ∧ after.quit = true) := by
  cases label with
  | queueInLoop caller =>
    obtain ⟨-, rfl⟩ := Option.ite_some_none_eq_some.mp taken
    exact ⟨queueInLoop_phase caller, .inl (queueInLoop_quit caller)⟩
  | runInLoop caller =>
    obtain ⟨-, rfl⟩ := Option.ite_some_none_eq_some.mp taken
    rw [runInLoop]
    split
    · exact ⟨rfl, .inl rfl⟩
    · exact ⟨queueInLoop_phase caller, .inl (queueInLoop_quit caller)⟩
  | quit caller =>
    obtain ⟨-, rfl⟩ := Option.ite_some_none_eq_some.mp taken
    exact ⟨setQuit_phase caller, .inr ⟨caller, rfl, setQuit_quit caller⟩⟩
  | wakeup caller =>
    obtain ⟨-, rfl⟩ := Option.ite_some_none_eq_some.mp taken
    exact ⟨rfl, .inl rfl⟩
  | move move => exact absurd rfl (call move)

theorem wakeup_readable (caller : Option Thread) : 0 < (loop.wakeup caller).eventfd := by
  show 0 < if loop.eventfd < 0xfffffffffffffffe then loop.eventfd + 1 else loop.eventfd
  split
  · exact Nat.succ_pos _
  · omega

/-- A thread that is in no call makes one: it takes nobody else's `quit` away. -/
theorem Heard.called {caller : Option Thread} {rest : Rest} (free : loop.rest caller = .nothing)
    (heard : (∃ other, loop.rest (some other) = .quitting) ∨ 0 < loop.eventfd) :
    (∃ other, Function.update loop.rest caller rest (some other) = .quitting) ∨ 0 < loop.eventfd := by
  refine heard.imp_left fun ⟨other, quitting⟩ => ⟨other, ?_⟩
  have apart : some other ≠ caller := by
    rintro rfl
    rw [free] at quitting
    cases quitting
  rw [Function.update_of_ne apart, quitting]

theorem Heard.queueInLoop {caller : Option Thread} (heard : loop.Heard) (free : loop.Free caller) :
    (loop.queueInLoop caller).Heard := by
  intro asked polling
  rw [queueInLoop_quit] at asked
  rw [queueInLoop_phase] at polling
  rw [queueInLoop_rest, queueInLoop_eventfd]
  split
  · exact heard asked polling
  · exact Heard.called free.1 (heard asked polling)

theorem Heard.step {label : EventLoop.Label Thread} (heard : loop.Heard) (taken : loop.step label = some after) :
    after.Heard := by
  cases label with
  | queueInLoop caller =>
    obtain ⟨free, rfl⟩ := Option.ite_some_none_eq_some.mp taken
    exact heard.queueInLoop free
  | runInLoop caller =>
    obtain ⟨free, rfl⟩ := Option.ite_some_none_eq_some.mp taken
    rw [runInLoop]
    split
    · exact heard
    · exact heard.queueInLoop free
  | quit caller =>
    obtain ⟨free, rfl⟩ := Option.ite_some_none_eq_some.mp taken
    intro _ polling
    rw [setQuit_phase] at polling
    cases caller with
    | none =>
      -- the loop's own thread calls nothing while it polls
      have calls := free.2 rfl
      rw [polling] at calls
      cases calls
    | some other => exact .inl ⟨other, by rw [setQuit_rest, Function.update_self]⟩
  | wakeup caller =>
    obtain ⟨-, rfl⟩ := Option.ite_some_none_eq_some.mp taken
    exact fun _ _ => .inr (wakeup_readable caller)
  | move move =>
    intro asked polling
    rw [(advance_phase (Option.ite_none_right_eq_some.mp taken).2).1 polling] at asked
    cases asked

end

end EventLoop

/-! ### The thread -/

namespace EventLoopThread

section
variable {Thread : Type} [DecidableEq Thread] {thread after : EventLoopThread Thread}

theorem step_enter (taken : thread.step .enter = some after) :
    thread.entered = false ∧ ∃ loop, thread.loop.step (.move .start) = some loop ∧
      after = { thread with loop := loop, entered := true } := by
  obtain ⟨⟨-, outside⟩, started⟩ := Option.ite_none_right_eq_some.mp taken
  obtain ⟨loop, moved, rfl⟩ := Option.map_eq_some_iff.mp started
  exact ⟨Bool.eq_false_iff.mpr outside, loop, moved, rfl⟩

theorem step_inLoop {label : EventLoop.Label Thread} (taken : thread.step (.inLoop label) = some after) :
    label ≠ .move .start ∧ thread.ended = false ∧ ∃ loop, thread.loop.step label = some loop ∧
      after = { thread with loop := loop } := by
  obtain ⟨⟨other, -, going⟩, stepped⟩ := Option.ite_none_right_eq_some.mp taken
  obtain ⟨loop, moved, rfl⟩ := Option.map_eq_some_iff.mp stepped
  exact ⟨other, Bool.eq_false_iff.mpr going, loop, moved, rfl⟩

/-- What the thread's own moves and the calls of the others do once it is in `loop()`. -/
theorem loop_step {label : EventLoop.Label Thread} {loop next : EventLoop Thread} (other : label ≠ .move .start)
    (taken : loop.step label = some next) :
    (∃ move, label = .move move ∧ move ≠ .start ∧ loop.advance move loop.phase = some next) ∨
    ((∀ move, label ≠ .move move) ∧ next.phase = loop.phase ∧
      (next.quit = loop.quit ∨ ∃ caller, label = .quit caller ∧ next.quit = true)) := by
  cases label with
  | move move =>
    exact .inl ⟨move, rfl, fun starts => other (congrArg _ starts), (Option.ite_none_right_eq_some.mp taken).2⟩
  | _ => exact .inr ⟨nofun, EventLoop.step_call nofun taken⟩

/-! #### Nobody asks, nobody ends -/

/-- The thread is in `loop()`, and nobody has asked it to stop since. -/
structure Looping (thread : EventLoopThread Thread) : Prop where
  entered : thread.entered = true
  going : thread.ended = false
  unasked : thread.loop.quit = false
  inside : thread.loop.phase ≠ .outside

theorem looping_of_enter (going : thread.ended = false) (taken : thread.step .enter = some after) : after.Looping := by
  obtain ⟨-, loop, moved, rfl⟩ := step_enter taken
  have started := (Option.ite_none_right_eq_some.mp moved).2
  cases here : thread.loop.phase with
  | outside =>
    rw [here] at started
    cases started
    exact ⟨rfl, going, rfl, nofun⟩
  | _ =>
    rw [here] at started
    cases started

theorem Looping.step {label : Label Thread} (looping : thread.Looping)
    (silent : ∀ caller, label ≠ .inLoop (.quit caller)) (taken : thread.step label = some after) : after.Looping := by
  cases label with
  | publish =>
    obtain ⟨-, published⟩ := Option.ite_none_left_eq_some.mp taken
    cases published
    exact ⟨looping.entered, looping.going, looping.unasked, looping.inside⟩
  | enter =>
    have outside := (step_enter taken).1
    rw [looping.entered] at outside
    cases outside
  | inLoop label =>
    obtain ⟨other, going, loop, moved, rfl⟩ := step_inLoop taken
    obtain ⟨move, rfl, notStart, advanced⟩ | ⟨-, phase, quit⟩ := loop_step other moved
    · have unasked : loop.quit = false := (EventLoop.advance_quit notStart advanced).trans looping.unasked
      refine ⟨looping.entered, going, unasked, fun outside => ?_⟩
      rw [(EventLoop.advance_phase advanced).2 outside] at unasked
      cases unasked
    · have unasked : loop.quit = false := by
        obtain kept | ⟨caller, rfl, -⟩ := quit
        · exact kept.trans looping.unasked
        · exact absurd rfl (silent caller)
      exact ⟨looping.entered, going, unasked, phase ▸ looping.inside⟩
  | leave =>
    obtain ⟨⟨-, -, outside⟩, -⟩ := Option.ite_some_none_eq_some.mp taken
    exact absurd outside looping.inside

theorem asked_of_ended {labels : List (Label Thread)} (looping : thread.Looping)
    (run : follow step thread labels = some after) (ended : after.ended = true) :
    ∃ caller, .inLoop (.quit caller) ∈ labels := by
  by_contra none_asks
  push Not at none_asks
  induction labels generalizing thread with
  | nil =>
    cases run
    rw [looping.going] at ended
    cases ended
  | cons label labels ih =>
    rw [follow_cons] at run
    obtain ⟨next, taken, later⟩ := Option.bind_eq_some_iff.mp run
    have silent : ∀ caller, label ≠ .inLoop (.quit caller) :=
      fun caller same => none_asks caller (same ▸ List.mem_cons_self)
    exact ih (looping.step silent taken) later fun caller asks => none_asks caller (List.mem_cons_of_mem _ asks)

/-- The thread is not in `loop()` yet. -/
def Waiting (thread : EventLoopThread Thread) : Prop := thread.entered = false ∧ thread.ended = false

theorem Waiting.step {label : Label Thread} (waiting : thread.Waiting) (other : label ≠ .enter)
    (taken : thread.step label = some after) : after.Waiting := by
  cases label with
  | publish =>
    obtain ⟨-, published⟩ := Option.ite_none_left_eq_some.mp taken
    cases published
    exact waiting
  | enter => exact absurd rfl other
  | inLoop label =>
    obtain ⟨-, -, loop, -, rfl⟩ := step_inLoop taken
    exact waiting
  | leave =>
    obtain ⟨⟨entered, -, -⟩, -⟩ := Option.ite_some_none_eq_some.mp taken
    rw [waiting.1] at entered
    cases entered

/-- The call of `loop()` splits a run that makes it. -/
theorem enters {labels : List (Label Thread)} (waiting : thread.Waiting)
    (run : follow step thread labels = some after) (entered : .enter ∈ labels) :
    ∃ before since middle, labels = before ++ .enter :: since ∧ middle.Looping ∧
      follow step middle since = some after := by
  induction labels generalizing thread with
  | nil => cases entered
  | cons label labels ih =>
    rw [follow_cons] at run
    obtain ⟨next, taken, later⟩ := Option.bind_eq_some_iff.mp run
    by_cases here : label = .enter
    · subst here
      exact ⟨[], labels, next, rfl, looping_of_enter waiting.2 taken, later⟩
    · obtain same | behind := List.mem_cons.mp entered
      · exact absurd same.symm here
      · obtain ⟨before, since, middle, rfl, looping, rest⟩ := ih (waiting.step here taken) later behind
        exact ⟨label :: before, since, middle, rfl, looping, rest⟩

theorem waiting_of_not_enters {labels : List (Label Thread)} (waiting : thread.Waiting)
    (run : follow step thread labels = some after) (never : .enter ∉ labels) : after.Waiting := by
  induction labels generalizing thread with
  | nil =>
    cases run
    exact waiting
  | cons label labels ih =>
    rw [follow_cons] at run
    obtain ⟨next, taken, later⟩ := Option.bind_eq_some_iff.mp run
    have here : label ≠ .enter := fun same => never (same ▸ List.mem_cons_self)
    exact ih (waiting.step here taken) later fun behind => never (List.mem_cons_of_mem _ behind)

/-! #### Behind a `quit` -/

/-- The thread is in `loop()` or behind it, and has been asked to stop since. -/
structure Quitting (thread : EventLoopThread Thread) : Prop where
  entered : thread.entered = true
  asked : thread.loop.quit = true

/-- The polls that a thread can still make when it has been asked to stop. -/
def pollsLeft (thread : EventLoopThread Thread) : Nat := if thread.loop.phase = .polling then 1 else 0

theorem Quitting.step {label : Label Thread} (quitting : thread.Quitting) (taken : thread.step label = some after) :
    after.Quitting ∧ (if label.polls then 1 else 0) + after.pollsLeft ≤ thread.pollsLeft := by
  cases label with
  | publish =>
    obtain ⟨-, published⟩ := Option.ite_none_left_eq_some.mp taken
    cases published
    exact ⟨⟨quitting.entered, quitting.asked⟩, (Nat.zero_add _).le⟩
  | enter =>
    have outside := (step_enter taken).1
    rw [quitting.entered] at outside
    cases outside
  | inLoop label =>
    obtain ⟨other, -, loop, moved, rfl⟩ := step_inLoop taken
    obtain ⟨move, rfl, notStart, advanced⟩ | ⟨call, phase, quit⟩ := loop_step other moved
    · obtain ⟨asked, gone⟩ := EventLoop.advance_quitting notStart quitting.asked advanced
      refine ⟨⟨quitting.entered, asked⟩, ?_⟩
      rw [pollsLeft, if_neg gone]
      cases move with
      | poll active =>
        rw [pollsLeft, if_pos (EventLoop.polling_of_poll advanced)]
        exact le_rfl
      | _ => exact Nat.zero_le _
    · have asked : loop.quit = true := by
        obtain kept | ⟨-, -, set⟩ := quit
        · exact kept.trans quitting.asked
        · exact set
      have quiet : label.polls = false := by
        cases label with
        | move move => exact absurd rfl (call move)
        | _ => rfl
      refine ⟨⟨quitting.entered, asked⟩, ?_⟩
      simp [pollsLeft, Label.polls, quiet, phase]
  | leave =>
    obtain ⟨-, rfl⟩ := Option.ite_some_none_eq_some.mp taken
    exact ⟨⟨quitting.entered, quitting.asked⟩, (Nat.zero_add _).le⟩

theorem Quitting.run {labels : List (Label Thread)} (quitting : thread.Quitting)
    (run : follow EventLoopThread.step thread labels = some after) :
    after.Quitting ∧ labels.countP Label.polls ≤ thread.pollsLeft := by
  induction labels generalizing thread with
  | nil =>
    cases run
    exact ⟨quitting, Nat.zero_le _⟩
  | cons label labels ih =>
    rw [follow_cons] at run
    obtain ⟨next, taken, later⟩ := Option.bind_eq_some_iff.mp run
    obtain ⟨kept, fewer⟩ := quitting.step taken
    obtain ⟨last, rest⟩ := ih kept later
    refine ⟨last, ?_⟩
    rw [List.countP_cons]
    omega

omit [DecidableEq Thread] in
theorem pollsLeft_le (thread : EventLoopThread Thread) : thread.pollsLeft ≤ 1 := by
  rw [pollsLeft]
  split <;> decide

theorem entered_step {label : Label Thread} (entered : thread.entered = true) (taken : thread.step label = some after) :
    after.entered = true := by
  cases label with
  | publish =>
    obtain ⟨-, published⟩ := Option.ite_none_left_eq_some.mp taken
    cases published
    exact entered
  | enter =>
    obtain ⟨-, loop, -, rfl⟩ := step_enter taken
    rfl
  | inLoop label =>
    obtain ⟨-, -, loop, -, rfl⟩ := step_inLoop taken
    exact entered
  | leave =>
    obtain ⟨-, rfl⟩ := Option.ite_some_none_eq_some.mp taken
    exact entered

theorem heard_step {label : Label Thread} (heard : thread.loop.Heard) (taken : thread.step label = some after) :
    after.loop.Heard := by
  cases label with
  | publish =>
    obtain ⟨-, published⟩ := Option.ite_none_left_eq_some.mp taken
    cases published
    exact heard
  | enter =>
    obtain ⟨-, loop, moved, rfl⟩ := step_enter taken
    exact heard.step moved
  | inLoop label =>
    obtain ⟨-, -, loop, moved, rfl⟩ := step_inLoop taken
    exact heard.step moved
  | leave =>
    obtain ⟨-, rfl⟩ := Option.ite_some_none_eq_some.mp taken
    exact heard

/-- A `quit` from within `loop()` is heeded. -/
theorem quitting_of_quit {caller : Option Thread} (entered : thread.entered = true)
    (taken : thread.step (.inLoop (.quit caller)) = some after) : after.Quitting := by
  obtain ⟨-, -, loop, moved, rfl⟩ := step_inLoop taken
  obtain ⟨-, rfl⟩ := Option.ite_some_none_eq_some.mp moved
  exact ⟨entered, EventLoop.setQuit_quit caller⟩

omit [DecidableEq Thread] in
theorem waiting_initial : (initial : EventLoopThread Thread).Waiting := ⟨rfl, rfl⟩

theorem ends_by_quit {labels : List (Label Thread)} (run : follow step initial labels = some after) :
    EndsByQuit labels after where
  asked ended := by
    by_cases entered : .enter ∈ labels
    · obtain ⟨before, since, middle, shape, looping, rest⟩ := enters waiting_initial run entered
      obtain ⟨caller, asks⟩ := asked_of_ended looping rest ended
      exact ⟨before, since, caller, shape, asks⟩
    · have waiting := waiting_of_not_enters waiting_initial run entered
      rw [waiting.2] at ended
      cases ended
  stops before since caller shape entered := by
    have heard : after.loop.Heard :=
      (Reaches.of_follow run).invariant (fun thread => thread.loop.Heard) nofun
        fun _ _ _ heard _ taken => heard_step heard taken
    rw [shape, follow_append] at run
    obtain ⟨middle, first, run⟩ := Option.bind_eq_some_iff.mp run
    rw [follow_cons] at run
    obtain ⟨told, quits, later⟩ := Option.bind_eq_some_iff.mp run
    obtain ⟨_, _, looping, _, inside, rest⟩ := enters waiting_initial first entered
    have going : middle.entered = true :=
      (Reaches.of_follow rest).invariant (fun thread => thread.entered = true) inside.entered
        fun _ _ _ entered _ taken => entered_step entered taken
    obtain ⟨quitting, polls⟩ := (quitting_of_quit going quits).run later
    exact ⟨polls.trans (pollsLeft_le told), heard quitting.asked⟩

/-- The destructor's `quit` comes while the thread polls. -/
def quitLabels : List (Label Unit) :=
  [.publish, .enter, .inLoop (.move .check), .inLoop (.quit (some ())), .inLoop (.wakeup (some ())),
    .inLoop (.move (.poll [.wakeup])), .inLoop (.move .handleEvent), .inLoop (.move .handled), .inLoop (.move .swap),
    .inLoop (.move .done), .inLoop (.move .check), .leave]

theorem ends_by_quit_polling : ∃ after, follow step initial quitLabels = some after ∧ after.ended = true ∧
    EndsByQuit quitLabels after := by
  have ran : (follow step initial quitLabels).any (fun after => after.ended) = true := by decide +kernel
  obtain ⟨after, run, ended⟩ := (Option.any_eq_true _ _).mp ran
  exact ⟨after, run, ended, ends_by_quit run⟩

/-- The destructor's `quit` comes before `loop()`, and `join` waits for good: nothing is left that would stop it. -/
example : (follow step (initial : EventLoopThread Unit)
    [.publish, .inLoop (.quit (some ())), .inLoop (.wakeup (some ())), .enter, .inLoop (.move .check),
      .inLoop (.move (.poll [.wakeup])), .inLoop (.move .handleEvent), .inLoop (.move .handled), .inLoop (.move .swap),
      .inLoop (.move .done), .inLoop (.move .check)]).any
        (fun after => after.loop.phase = .polling ∧ after.loop.quit = false) = true := by
  decide +kernel

end

end EventLoopThread
end EdgeFlow.Network
