import EdgeFlow.Library.Printf

/-! `RkllmEngine`: a prompt run as a whole or streamed, and the callback the runtime makes in both.

The runtime is outside: a `RuntimeRun` is the callbacks it happens to make, in their
order, and what `rkllm_run` returns.
-/

set_option autoImplicit false

namespace EdgeFlow.Node
open Library Library.Printf

inductive LLMCallState where
  | normal
  | finish
  | error
  /-- a state the callback has no branch for -/
  | other
  deriving DecidableEq, Repr

/-- One call of the callback; `text` is `none` when `result` or its text is null. -/
structure RuntimeEvent where
  state : LLMCallState
  text : Option Bytes
  deriving DecidableEq

structure RuntimeRun where
  events : List RuntimeEvent
  ret : Int

inductive EngineFault (Thrown : Type) where
  /-- an object is used through a pointer to another type, which is undefined -/
  | wrongType
  | thrown (error : Thrown)
  deriving DecidableEq, Repr

/-- `RkllmStreamCallback`, with what it captures and changes as the last argument. -/
abbrev RkllmStreamCallback (Thrown S : Type) := Bytes → Bool → S → Except Thrown S

structure RunContext where
  output : Bytes
  failed : Bool

/-- The callback is `none` when the function is empty. -/
structure RunStreamContext (Thrown S : Type) where
  callback : Option (RkllmStreamCallback Thrown S)
  failed : Bool

/-- The object `userdata` points to. -/
inductive Userdata (Thrown S : Type) where
  | run (context : RunContext)
  | runStream (context : RunStreamContext Thrown S)

section
variable {Thrown S : Type}

def Userdata.asRun : Userdata Thrown S → Except (EngineFault Thrown) RunContext
  | .run context => .ok context
  | .runStream _ => .error .wrongType

def Userdata.asRunStream : Userdata Thrown S → Except (EngineFault Thrown) (RunStreamContext Thrown S)
  | .run _ => .error .wrongType
  | .runStream context => .ok context

def RunStreamContext.call (context : RunStreamContext Thrown S) (text : Bytes) (finish : Bool) (state : S) :
    Except (EngineFault Thrown) S :=
  match context.callback with
  | some callback => (callback text finish state).mapError .thrown
  | none => .ok state

/-- `rkllm_callback`, which takes every `userdata` for a `RunStreamContext`. -/
def rkllmCallback (event : RuntimeEvent) (userdata : Userdata Thrown S) (state : S) :
    Except (EngineFault Thrown) (Userdata Thrown S × S) :=
  match event.state, event.text with
  | .normal, some text => do
    let context ← userdata.asRunStream
    let state ← context.call (cstr text) false state
    .ok (userdata, state)
  | .finish, _ => do
    let context ← userdata.asRunStream
    let state ← context.call [] true state
    .ok (userdata, state)
  | .error, _ => do
    let context ← userdata.asRunStream
    .ok (.runStream { context with failed := true }, state)
  | .normal, none => .ok (userdata, state)
  | .other, _ => .ok (userdata, state)

/-- The callbacks of `rkllm_run`; what it returns is the `ret` of the run. -/
def rkllmRun : (events : List RuntimeEvent) → Userdata Thrown S → S →
    Except (EngineFault Thrown) (Userdata Thrown S × S)
  | [], userdata, state => .ok (userdata, state)
  | event :: events, userdata, state => do
    let (userdata, state) ← rkllmCallback event userdata state
    rkllmRun events userdata state

/-- A callback, called once for each of a list of arguments. -/
def RkllmStreamCallback.calls (callback : RkllmStreamCallback Thrown S) :
    (passed : List (Bytes × Bool)) → S → Except Thrown S
  | [], state => .ok state
  | (text, finish) :: passed, state => do
    let state ← callback text finish state
    callback.calls passed state

end

/-- `handle` tells whether `handle_` is set. -/
structure RkllmEngine where
  handle : Bool

namespace RkllmEngine
variable {Thrown S : Type}

/-- `run`: what it returns, and `output`. -/
def run (prompt : Bytes) (runtime : RuntimeRun) (engine : RkllmEngine) :
    Except (EngineFault Thrown) (Bool × Bytes) :=
  if engine.handle = false ∨ prompt = [] then .ok (false, [])
  else do
    let (userdata, _) ← rkllmRun runtime.events (.run ⟨[], false⟩) ()
    let context ← userdata.asRun
    if runtime.ret ≠ 0 ∨ context.failed = true then .ok (false, [])
    else .ok (true, context.output)

/-- `run_stream` -/
def runStream (prompt : Bytes) (callback : Option (RkllmStreamCallback Thrown S)) (state : S)
    (runtime : RuntimeRun) (engine : RkllmEngine) : Except (EngineFault Thrown) (Bool × S) :=
  if engine.handle = false ∨ prompt = [] ∨ callback.isNone = true then .ok (false, state)
  else do
    let (userdata, state) ← rkllmRun runtime.events (.runStream ⟨callback, false⟩) state
    let context ← userdata.asRunStream
    if runtime.ret ≠ 0 ∨ context.failed = true then .ok (false, state)
    else .ok (true, state)

end RkllmEngine

namespace RuntimeEvent

/-- What an event has the callback hand on: a text, and whether it is the final one. -/
def passed (event : RuntimeEvent) : Option (Bytes × Bool) :=
  match event.state, event.text with
  | .normal, some text => some (cstr text, false)
  | .finish, _ => some ([], true)
  | _, _ => none

/-- The callback looks at what `userdata` points to. -/
def Touches (event : RuntimeEvent) : Prop := event.passed.isSome = true ∨ event.state = .error

instance (event : RuntimeEvent) : Decidable event.Touches := inferInstanceAs (Decidable (_ ∨ _))

end RuntimeEvent

/-! ## The events of a run -/

section
variable {Thrown S : Type} (callback : RkllmStreamCallback Thrown S)

/-- On the context of `run_stream` an event does what it says. -/
theorem rkllmCallback_runStream (event : RuntimeEvent) (failed : Bool) (state : S) :
    rkllmCallback event (.runStream ⟨some callback, failed⟩) state =
      ((callback.calls event.passed.toList state).mapError .thrown).map
        fun state => (.runStream ⟨some callback, failed || event.state == .error⟩, state) := by
  obtain ⟨runState, text⟩ := event
  cases runState with
  | normal =>
    cases text with
    | none => cases failed <;> rfl
    | some text =>
      simp only [rkllmCallback, RuntimeEvent.passed, Userdata.asRunStream, RunStreamContext.call, Option.toList,
        RkllmStreamCallback.calls, bind, Except.bind]
      cases callback (cstr text) false state <;> cases failed <;> rfl
  | finish =>
    simp only [rkllmCallback, RuntimeEvent.passed, Userdata.asRunStream, RunStreamContext.call, Option.toList,
      RkllmStreamCallback.calls, bind, Except.bind]
    cases callback [] true state <;> cases failed <;> rfl
  | error => cases failed <;> rfl
  | other => cases failed <;> rfl

/-- A streamed run hands on what its events say, in their order. -/
theorem rkllmRun_runStream (events : List RuntimeEvent) (failed : Bool) (state : S) :
    rkllmRun events (.runStream ⟨some callback, failed⟩) state =
      ((callback.calls (events.filterMap RuntimeEvent.passed) state).mapError .thrown).map
        fun state => (.runStream ⟨some callback, failed || events.any (·.state == .error)⟩, state) := by
  induction events generalizing failed state with
  | nil => simp only [List.any_nil, Bool.or_false]; rfl
  | cons event events ih =>
    rw [rkllmRun, rkllmCallback_runStream, List.any_cons, ← Bool.or_assoc]
    cases passed : event.passed with
    | none =>
      rw [List.filterMap_cons_none passed]
      exact ih _ state
    | some call =>
      rw [List.filterMap_cons_some passed]
      simp only [Option.toList, RkllmStreamCallback.calls, bind, Except.bind]
      cases callback call.1 call.2 state with
      | error fault => rfl
      | ok after => exact ih _ after

end

/-- On the context of `run` no event may look at it. -/
theorem rkllmCallback_run {Thrown S : Type} (event : RuntimeEvent) (context : RunContext) (state : S) :
    rkllmCallback event (.run context : Userdata Thrown S) state =
      if event.Touches then .error .wrongType else .ok (.run context, state) := by
  obtain ⟨runState, text⟩ := event
  cases runState <;> cases text <;> rfl

theorem rkllmRun_run {Thrown S : Type} (events : List RuntimeEvent) (context : RunContext) (state : S) :
    rkllmRun events (.run context : Userdata Thrown S) state =
      if ∀ event ∈ events, ¬ event.Touches then .ok (.run context, state) else .error .wrongType := by
  induction events with
  | nil => simp [rkllmRun]
  | cons event events ih =>
    rw [rkllmRun, rkllmCallback_run]
    by_cases touches : event.Touches
    · simp [touches, bind, Except.bind]
    · simp [touches, bind, Except.bind, ih]

/-! ## The two runs -/

/-- A callback that keeps what it is called with. -/
def recording : RkllmStreamCallback Empty (List (Bytes × Bool)) :=
  fun text finish passed => .ok (passed ++ [(text, finish)])

/-- The texts that are not final, one after the other. -/
def nonFinal (passed : List (Bytes × Bool)) : Bytes := (passed.filter fun call => !call.2).flatMap (·.1)

namespace RkllmEngine

/-- Both runs return, and when they succeed the output is what the streamed one handed on. -/
def RunsAgree (engine : RkllmEngine) (prompt : Bytes) (runtime : RuntimeRun) : Prop :=
  ∃ success output passed, (engine.run prompt runtime : Except (EngineFault Empty) _) = .ok (success, output) ∧
    engine.runStream prompt (some recording) [] runtime = .ok (success, passed) ∧
      (success = true → output = nonFinal passed)

variable {Thrown S : Type} {engine : RkllmEngine} {prompt : Bytes} (runtime : RuntimeRun)

theorem run_eq (loaded : ¬ engine.handle = false) (nonempty : prompt ≠ []) :
    (engine.run prompt runtime : Except (EngineFault Thrown) _) =
      if ∀ event ∈ runtime.events, ¬ event.Touches then .ok (runtime.ret == 0, []) else .error .wrongType := by
  rw [run, if_neg (not_or.mpr ⟨loaded, nonempty⟩), rkllmRun_run]
  split
  · by_cases success : runtime.ret = 0 <;> simp [Userdata.asRun, bind, Except.bind, success]
  · rfl

theorem runStream_eq (loaded : ¬ engine.handle = false) (nonempty : prompt ≠ [])
    (callback : RkllmStreamCallback Thrown S) (state : S) :
    engine.runStream prompt (some callback) state runtime =
      ((callback.calls (runtime.events.filterMap RuntimeEvent.passed) state).mapError .thrown).map
        fun state => (runtime.ret == 0 && !runtime.events.any (·.state == .error), state) := by
  have started : ¬ (engine.handle = false ∨ prompt = [] ∨ (some callback).isNone = true) := by
    simp [loaded, nonempty]
  rw [runStream, if_neg started, rkllmRun_runStream]
  cases callback.calls (runtime.events.filterMap RuntimeEvent.passed) state with
  | error fault => rfl
  | ok after =>
    simp only [Except.mapError, Except.map, Userdata.asRunStream, bind, Except.bind, Bool.false_or]
    cases runtime.events.any (·.state == .error) <;> by_cases success : runtime.ret = 0 <;> simp [success]

/-- The two runs agree where the runtime calls neither with a text nor with the end or an error. -/
theorem runsAgree_iff (engine : RkllmEngine) (prompt : Bytes) (runtime : RuntimeRun) :
    RunsAgree engine prompt runtime ↔
      engine.handle = false ∨ prompt = [] ∨ ∀ event ∈ runtime.events, ¬ event.Touches := by
  by_cases idle : engine.handle = false ∨ prompt = []
  · have agree : RunsAgree engine prompt runtime := by
      refine ⟨false, [], [], if_pos idle, if_pos ?_, fun success => nomatch success⟩
      exact idle.imp_right .inl
    exact iff_of_true agree (or_assoc.mp (.inl idle))
  · obtain ⟨loaded, nonempty⟩ := not_or.mp idle
    rw [or_iff_right loaded, or_iff_right nonempty, RunsAgree, run_eq runtime loaded nonempty]
    constructor
    · rintro ⟨success, output, passed, ran, -⟩
      by_contra touched
      rw [if_neg touched] at ran
      cases ran
    · intro untouched
      have nothing : runtime.events.filterMap RuntimeEvent.passed = [] := by
        refine List.filterMap_eq_nil_iff.mpr fun event member => ?_
        exact Option.not_isSome_iff_eq_none.mp (not_or.mp (untouched event member)).1
      have noError : runtime.events.any (·.state == .error) = false := by
        refine List.any_eq_false.mpr fun event member isError => ?_
        exact (not_or.mp (untouched event member)).2 (eq_of_beq isError)
      refine ⟨runtime.ret == 0, [], [], if_pos untouched, ?_, fun _ => rfl⟩
      rw [runStream_eq runtime loaded nonempty, nothing, noError, Bool.not_false, Bool.and_true]
      rfl

/-- A prompt answered with one text: the callback takes the context of `run` for another type. -/
theorem run_wrongType : ¬ ∀ (engine : RkllmEngine) (prompt : Bytes) (runtime : RuntimeRun),
    RunsAgree engine prompt runtime := by
  intro agree
  obtain ⟨success, output, passed, ran, -⟩ :=
    agree ⟨true⟩ (ascii "hi") ⟨[⟨.normal, some (ascii "hello")⟩, ⟨.finish, none⟩], 0⟩
  cases ran

end RkllmEngine

end EdgeFlow.Node
