import EdgeFlow.Node.StackFlow

/-! The end of a node: `~StackFlow`, and what the destructors of the derived classes do before it.

The event loop may still be at work when the destructor begins; the entries are those
it has left in the table when `join` returns.
-/

set_option autoImplicit false

namespace EdgeFlow.Node
open Library

/-- What keeps a destructor from getting to its end. -/
inductive ShutdownFault where
  /-- `std::system_error`: `join` of a thread that is not joinable -/
  | systemError
  /-- an iterator is used after its entry has been erased -/
  | erasedEntry
  | thrown (fault : Fault)
  deriving DecidableEq, Repr

/-- The entries of `llm_task_channel_` in the order its iterators go through them. -/
structure Entries (node : StackFlow) where
  order : List Int
  nodup : order.Nodup
  exact : ∀ number, number ∈ order ↔ (node.llmTaskChannel number).isSome = true

/-- A node inside its destructor. -/
structure Shutdown (World : Type) where
  node : StackFlow
  order : List Int
  world : World
  exitFlage : Bool
  joinable : Bool
  /-- how often the thread of the event loop was joined -/
  joined : Nat
  /-- the work ids `release_unit` was called with -/
  released : List Bytes

namespace Shutdown
variable {World : Type} (sys : Sys World)

def started {node : StackFlow} (entries : Entries node) (world : World) : Shutdown World :=
  ⟨node, entries.order, world, false, true, 0, []⟩

/-- `join` -/
def join (shutdown : Shutdown World) : Except ShutdownFault (Shutdown World) :=
  if shutdown.joinable then .ok { shutdown with joinable := false, joined := shutdown.joined + 1 }
  else .error .systemError

/-- The table without the entry of a number. -/
def drop (number : Int) (shutdown : Shutdown World) : Shutdown World :=
  { shutdown with node := shutdown.node.dropChannel number, order := shutdown.order.erase number }

/-- `sys_release_unit(number, "")` -/
def release (number : Int) (shutdown : Shutdown World) : Except ShutdownFault (Shutdown World) := do
  let (node, world) ← (sysReleaseUnit sys number [] shutdown.node shutdown.world).mapError .thrown
  .ok { shutdown with
    node
    order := shutdown.order.erase number
    world
    released := shutdown.released ++ [sampleGetWorkId number shutdown.node.kind.unitName] }

/-- What an iterator points to, which is the entry of this number. -/
def deref (iteam : Int) (shutdown : Shutdown World) : Except ShutdownFault Channel :=
  match shutdown.node.llmTaskChannel iteam with
  | some channel => .ok channel
  | none => .error .erasedEntry

/-- One turn of the `while`, and whether it breaks. -/
def turn (shutdown : Shutdown World) : Except ShutdownFault (Bool × Shutdown World) := do
  let shutdown ← { shutdown with exitFlage := true }.join
  match shutdown.order with
  | [] => .ok (true, shutdown)
  | iteam :: _ =>
    let shutdown ← shutdown.release sys iteam
    -- `iteam->second.reset()`, and the key for `erase`
    let _ ← shutdown.deref iteam
    .ok (false, shutdown.drop iteam)

/-- The `while`, as far as a number of turns goes. -/
def destroy : (turns : Nat) → Shutdown World → Option (Except ShutdownFault (Shutdown World))
  | 0, _ => none
  | turns + 1, shutdown =>
    match shutdown.turn sys with
    | .error fault => some (.error fault)
    | .ok (true, shutdown) => some (.ok shutdown)
    | .ok (false, shutdown) => destroy turns shutdown

/-- The destructor gets to its end, with one `join`, one `release_unit` for each channel and an empty table. -/
def ReleasesAll {node : StackFlow} (entries : Entries node) (world : World) : Prop :=
  ∃ turns final, destroy sys turns (started entries world) = some (.ok final) ∧ final.joined = 1 ∧
    final.released.Perm (entries.order.map fun number => sampleGetWorkId number node.kind.unitName) ∧
      ∀ number, final.node.llmTaskChannel number = none

/-! ## One turn -/

theorem release_eq (number : Int) (shutdown : Shutdown World) : shutdown.release sys number =
    .ok { shutdown.drop number with
      world := (sys.releaseUnit (sampleGetWorkId number shutdown.node.kind.unitName) shutdown.world).2
      released := shutdown.released ++ [sampleGetWorkId number shutdown.node.kind.unitName] } := rfl

/-- A release takes the entry the iterator is at. -/
theorem turn_nonempty {shutdown : Shutdown World} (joinable : shutdown.joinable = true) {iteam : Int} {rest : List Int}
    (order : shutdown.order = iteam :: rest) : shutdown.turn sys = .error .erasedEntry := by
  simp only [turn, join, joinable, if_true, bind, Except.bind, order, release_eq, deref, drop, StackFlow.dropChannel,
    Function.update_self]

theorem turn_empty {shutdown : Shutdown World} (joinable : shutdown.joinable = true) (order : shutdown.order = []) :
    shutdown.turn sys =
      .ok (true, { shutdown with exitFlage := true, joinable := false, joined := shutdown.joined + 1 }) := by
  simp only [turn, join, joinable, if_true, bind, Except.bind, order]

/-- Only a node without channels is destroyed as it should be. -/
theorem releasesAll_iff {node : StackFlow} (entries : Entries node) (world : World) :
    ReleasesAll sys entries world ↔ entries.order.length = 0 := by
  have joinable : (started entries world).joinable = true := rfl
  constructor
  · rintro ⟨turns, final, ended, -⟩
    cases turns with
    | zero => cases ended
    | succ turns =>
      cases order : entries.order with
      | nil => rfl
      | cons iteam rest =>
        rw [destroy, turn_nonempty sys joinable order] at ended
        cases ended
  · intro noEntries
    have order : entries.order = [] := List.length_eq_zero_iff.mp noEntries
    refine ⟨1, _, by rw [destroy, turn_empty sys joinable order], rfl, by rw [order]; rfl, fun number => ?_⟩
    have absent : ¬ (node.llmTaskChannel number).isSome = true := by
      rw [← entries.exact, order]
      exact List.not_mem_nil
    show node.llmTaskChannel number = none
    simpa using absent

/-- An asr node with the channel of one session. -/
def oneSession : StackFlow := (StackFlow.started .asr 8 0).putChannel 0 (.create (false, false) [] [] (ascii "asr"))

def oneEntry : Entries oneSession where
  order := [0]
  nodup := List.nodup_singleton 0
  exact number := by
    by_cases isZero : number = 0
    · simp [isZero, oneSession, StackFlow.putChannel]
    · simp [isZero, oneSession, StackFlow.putChannel, StackFlow.started]

theorem oneSession_not_released : ¬ ∀ (World : Type) (sys : Sys World) (node : StackFlow) (entries : Entries node)
    (world : World), ReleasesAll sys entries world := by
  intro always
  let sys : Sys Unit := ⟨fun _ world => (.missingSocket, world), fun _ world => (.answered (ascii "Success"), world)⟩
  obtain ⟨turns, final, ended, -⟩ := always Unit sys oneSession oneEntry ()
  cases turns with
  | zero => cases ended
  | succ turns =>
    rw [destroy, turn_nonempty sys rfl rfl] at ended
    cases ended

end Shutdown

/-! ## Before it -/

/-- The loop over `tasks_` in `~AsrNode`, after the worker has been stopped. -/
def StackFlow.stopTasks : (tasks : List Int) → StackFlow → Except Fault StackFlow
  | [], node => .ok { node with tasks := ∅ }
  | number :: tasks, node => do
    let channel ← node.getChannel number
    (node.putChannel number (channel.stopSubscriber [])).stopTasks tasks

/-- The channels of a node are all still there when `~StackFlow` begins. -/
theorem stopTasks_channels {tasks : List Int} {node after : StackFlow} (stopped : node.stopTasks tasks = .ok after)
    (number : Int) : (after.llmTaskChannel number).isSome = (node.llmTaskChannel number).isSome := by
  induction tasks generalizing node with
  | nil =>
    cases stopped
    rfl
  | cons first tasks ih =>
    simp only [StackFlow.stopTasks, bind, Except.bind, StackFlow.getChannel] at stopped
    cases found : node.llmTaskChannel first with
    | none =>
      rw [found] at stopped
      cases stopped
    | some channel =>
      rw [found] at stopped
      have kept := ih stopped
      simp only [StackFlow.putChannel] at kept
      rw [kept]
      by_cases same : number = first
      · subst same
        rw [Function.update_self, found]
        rfl
      · rw [Function.update_of_ne same]


end EdgeFlow.Node
