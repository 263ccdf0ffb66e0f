import EdgeFlow.Library.Run
import EdgeFlow.Manager.Registry
import Mathlib.Data.Fintype.Defs

/-! Pushes to units while units are released.

Each critical section of `key_sql`, each `delete` and each `send_msg` is one step.
The sys RPC thread registers and releases one unit at a time; any number of other
threads push. Objects are numbered in the order they are allocated.
-/

set_option autoImplicit false

namespace EdgeFlow.Manager
open Library

/-- Where the sys RPC thread is between the steps of a registration or a release. -/
inductive SysThread where
  | idle
  | registered (workId : Bytes)
  | found (workId : Bytes) (object : Nat)
  | deleted (workId : Bytes)
  | erased (workId : Bytes)
  deriving DecidableEq

/-- The object that is about to be deleted. -/
def SysThread.doomed : SysThread → Option Nat
  | .found _ object => some object
  | _ => none

/-- A call of `send_msg`, with whether its object had been deleted. -/
structure SendMsg where
  object : Nat
  deleted : Bool
  deriving DecidableEq

structure Publishing (Thread : Type) where
  /-- the `unit_data *` that `SAFE_READING` finds in `key_sql` -/
  units : Bytes → Option Nat
  allocated : Nat
  deleted : Nat → Bool
  sys : SysThread
  /-- the unit a push has read and not yet sent to -/
  pushing : Thread → Option Nat
  sent : List SendMsg

namespace Publishing

inductive Step (Thread : Type) where
  | setUnit (workId : Bytes)
  | setOutPort
  | readUnit (workId : Bytes)
  | delete
  | eraseUnit
  | eraseOutPort
  | pushRead (thread : Thread) (workId : Bytes)
  | pushSend (thread : Thread)

variable {Thread : Type}

def started : Publishing Thread where
  units _ := none
  allocated := 0
  deleted _ := false
  sys := .idle
  pushing _ := none
  sent := []

def step [DecidableEq Thread] (state : Publishing Thread) : Step Thread → Option (Publishing Thread)
  | .setUnit workId =>
    if state.sys = .idle then
      some { state with
        units := Function.update state.units workId (some state.allocated)
        allocated := state.allocated + 1
        sys := .registered workId }
    else none
  | .setOutPort =>
    match state.sys with
    -- a text is no `unit_data *`
    | .registered workId =>
        some { state with units := Function.update state.units (outPortKey workId) none, sys := .idle }
    | _ => none
  | .readUnit workId =>
    if state.sys = .idle then
      match state.units workId with
      | some object => some { state with sys := .found workId object }
      | none => some state
    else none
  | .delete =>
    match state.sys with
    | .found workId object =>
      some { state with deleted := Function.update state.deleted object true, sys := .deleted workId }
    | _ => none
  | .eraseUnit =>
    match state.sys with
    | .deleted workId => some { state with units := Function.update state.units workId none, sys := .erased workId }
    | _ => none
  | .eraseOutPort =>
    match state.sys with
    | .erased workId => some { state with units := Function.update state.units (outPortKey workId) none, sys := .idle }
    | _ => none
  | .pushRead thread workId =>
    if state.pushing thread ≠ none then none
    else if workId = [] then some state
    else some { state with pushing := Function.update state.pushing thread (state.units workId) }
  | .pushSend thread =>
    match state.pushing thread with
    | some object =>
      some { state with
        pushing := Function.update state.pushing thread none
        sent := state.sent ++ [⟨object, state.deleted object⟩] }
    | none => none

/-- No unit is deleted that a push has read, and no push reads one that is deleted and not yet erased. -/
def Apart (state : Publishing Thread) : Step Thread → Prop
  | .delete => ∀ object ∈ state.sys.doomed, ∀ thread, state.pushing thread ≠ some object
  | .pushRead _ workId => workId ≠ [] → state.sys ≠ .deleted workId
  | _ => True

instance [Fintype Thread] (state : Publishing Thread) : (label : Step Thread) → Decidable (Apart state label)
  | .delete => inferInstanceAs (Decidable (∀ object ∈ state.sys.doomed, ∀ thread, state.pushing thread ≠ some object))
  | .pushRead _ _ => inferInstanceAs (Decidable (_ → _))
  | .setUnit _ | .setOutPort | .readUnit _ | .eraseUnit | .eraseOutPort | .pushSend _ => isTrue trivial

/-- What holds of the objects in every state: each is under one key, and a deleted one only until it is erased. -/
structure Owned (state : Publishing Thread) : Prop where
  distinct : ∀ workId other object, state.units workId = some object → state.units other = some object → workId = other
  allocated : ∀ workId object, state.units workId = some object → object < state.allocated
  fresh : ∀ object, state.deleted object = true → object < state.allocated
  dangling : ∀ workId object, state.units workId = some object → state.deleted object = true →
    state.sys = .deleted workId
  found : ∀ workId object, state.sys = .found workId object → state.units workId = some object
  gone : ∀ workId, state.sys = .deleted workId →
    ∃ object, state.units workId = some object ∧ state.deleted object = true

theorem owned_started : Owned (started : Publishing Thread) where
  distinct := by simp [started]
  allocated := by simp [started]
  fresh := by simp [started]
  dangling := by simp [started]
  found := by simp [started]
  gone := by simp [started]

variable {state after : Publishing Thread}

theorem Owned.set (owned : Owned state) (workId : Bytes) (idle : state.sys = .idle) :
    Owned { state with
      units := Function.update state.units workId (some state.allocated)
      allocated := state.allocated + 1
      sys := .registered workId } := by
  -- no object is deleted while the sys thread is idle and its key is still there
  have undeleted (other : Bytes) (object : Nat) (here : state.units other = some object) :
      state.deleted object = false := by
    by_contra isDeleted
    have stale := owned.dangling other object here (by simpa using isDeleted)
    rw [idle] at stale
    cases stale
  have newUndeleted : state.deleted state.allocated = false := by
    by_contra isDeleted
    exact absurd (owned.fresh _ (by simpa using isDeleted)) (Nat.lt_irrefl _)
  have newOrOld (other : Bytes) (object : Nat)
      (here : Function.update state.units workId (some state.allocated) other = some object) :
      (other = workId ∧ object = state.allocated) ∨ (other ≠ workId ∧ state.units other = some object) := by
    by_cases own : other = workId
    · subst own
      rw [Function.update_self] at here
      exact .inl ⟨rfl, (Option.some.inj here).symm⟩
    · rw [Function.update_of_ne own] at here
      exact .inr ⟨own, here⟩
  exact {
    distinct := by
      intro first second object here there
      rcases newOrOld _ _ here with ⟨rfl, rfl⟩ | ⟨-, here⟩
      · rcases newOrOld _ _ there with ⟨rfl, -⟩ | ⟨-, there⟩
        · rfl
        · exact absurd (owned.allocated _ _ there) (Nat.lt_irrefl _)
      · rcases newOrOld _ _ there with ⟨-, rfl⟩ | ⟨-, there⟩
        · exact absurd (owned.allocated _ _ here) (Nat.lt_irrefl _)
        · exact owned.distinct _ _ _ here there
    allocated := by
      intro other object here
      rcases newOrOld _ _ here with ⟨-, rfl⟩ | ⟨-, here⟩
      · exact Nat.lt_succ_self _
      · exact Nat.lt_succ_of_lt (owned.allocated _ _ here)
    fresh := fun object isDeleted => Nat.lt_succ_of_lt (owned.fresh object isDeleted)
    dangling := by
      intro other object here isDeleted
      rcases newOrOld _ _ here with ⟨-, rfl⟩ | ⟨-, here⟩
      · exact absurd (newUndeleted.symm.trans isDeleted) (by decide)
      · exact absurd ((undeleted _ _ here).symm.trans isDeleted) (by decide)
    found := fun other object isFound => by cases isFound
    gone := fun other isDeleted => by cases isDeleted }

/-- A key is taken out; the sys thread is then neither about to delete nor about to erase. -/
theorem Owned.remove (owned : Owned state) (workId : Bytes) {sys : SysThread}
    (dangling : ∀ other, state.sys = .deleted other → other = workId)
    (notFound : ∀ other object, sys ≠ .found other object) (notDeleted : ∀ other, sys ≠ .deleted other) :
    Owned { state with units := Function.update state.units workId none, sys } := by
  have kept (other : Bytes) (object : Nat) (here : Function.update state.units workId none other = some object) :
      other ≠ workId ∧ state.units other = some object := by
    by_cases own : other = workId
    · subst own
      rw [Function.update_self] at here
      cases here
    · rw [Function.update_of_ne own] at here
      exact ⟨own, here⟩
  exact {
    distinct := fun first second object here there =>
      owned.distinct first second object (kept _ _ here).2 (kept _ _ there).2
    allocated := fun other object here => owned.allocated other object (kept _ _ here).2
    fresh := owned.fresh
    dangling := by
      intro other object here isDeleted
      obtain ⟨others, here⟩ := kept _ _ here
      exact absurd (dangling other (owned.dangling other object here isDeleted)) others
    found := fun other object isFound => absurd isFound (notFound other object)
    gone := fun other isDeleted => absurd isDeleted (notDeleted other) }

theorem Owned.read (owned : Owned state) {workId : Bytes} {object : Nat} (idle : state.sys = .idle)
    (here : state.units workId = some object) : Owned { state with sys := .found workId object } where
  distinct := owned.distinct
  allocated := owned.allocated
  fresh := owned.fresh
  dangling other object there isDeleted := by
    have stale := owned.dangling other object there isDeleted
    rw [idle] at stale
    cases stale
  found other object isFound := by
    cases isFound
    exact here
  gone other isDeleted := by cases isDeleted

theorem Owned.delete (owned : Owned state) {workId : Bytes} {object : Nat}
    (isFound : state.sys = .found workId object) :
    Owned { state with deleted := Function.update state.deleted object true, sys := .deleted workId } where
  distinct := owned.distinct
  allocated := owned.allocated
  fresh other isDeleted := by
    by_cases same : other = object
    · subst same
      exact owned.allocated _ _ (owned.found _ _ isFound)
    · exact owned.fresh other ((Function.update_of_ne same ..).symm.trans isDeleted)
  dangling other held here isDeleted := by
    by_cases same : held = object
    · subst same
      exact congrArg SysThread.deleted (owned.distinct _ _ _ (owned.found _ _ isFound) here)
    · have stale := owned.dangling other held here ((Function.update_of_ne same ..).symm.trans isDeleted)
      rw [isFound] at stale
      cases stale
  found other object isFound := by cases isFound
  gone other isDeleted := by
    cases isDeleted
    exact ⟨object, owned.found _ _ isFound, Function.update_self ..⟩

/-- The fields that pushes leave alone are all that matters. -/
theorem Owned.pushed (owned : Owned state) (pushing : Thread → Option Nat) (sent : List SendMsg) :
    Owned { state with pushing, sent } :=
  ⟨owned.distinct, owned.allocated, owned.fresh, owned.dangling, owned.found, owned.gone⟩

variable [DecidableEq Thread]

/-- All that a step can do. -/
inductive Moves (state : Publishing Thread) : Step Thread → Publishing Thread → Prop where
  | setUnit {workId : Bytes} : state.sys = .idle →
      Moves state (.setUnit workId) { state with
        units := Function.update state.units workId (some state.allocated)
        allocated := state.allocated + 1
        sys := .registered workId }
  | setOutPort {workId : Bytes} : state.sys = .registered workId →
      Moves state .setOutPort { state with units := Function.update state.units (outPortKey workId) none, sys := .idle }
  | readUnit {workId : Bytes} {object : Nat} : state.sys = .idle → state.units workId = some object →
      Moves state (.readUnit workId) { state with sys := .found workId object }
  | absent {workId : Bytes} : Moves state (.readUnit workId) state
  | delete {workId : Bytes} {object : Nat} : state.sys = .found workId object →
      Moves state .delete { state with
        deleted := Function.update state.deleted object true
        sys := .deleted workId }
  | eraseUnit {workId : Bytes} : state.sys = .deleted workId →
      Moves state .eraseUnit { state with units := Function.update state.units workId none, sys := .erased workId }
  | eraseOutPort {workId : Bytes} : state.sys = .erased workId →
      Moves state .eraseOutPort
        { state with units := Function.update state.units (outPortKey workId) none, sys := .idle }
  | unnamed {thread : Thread} : Moves state (.pushRead thread []) state
  | pushRead {thread : Thread} {workId : Bytes} : workId ≠ [] →
      Moves state (.pushRead thread workId) { state with
        pushing := Function.update state.pushing thread (state.units workId) }
  | pushSend {thread : Thread} {object : Nat} : state.pushing thread = some object →
      Moves state (.pushSend thread) { state with
        pushing := Function.update state.pushing thread none
        sent := state.sent ++ [⟨object, state.deleted object⟩] }

theorem moves_of_step {label : Step Thread} (taken : state.step label = some after) : state.Moves label after := by
  cases label with
  | setUnit workId =>
    simp only [step] at taken
    split at taken
    · next idle =>
      cases taken
      exact .setUnit idle
    · cases taken
  | setOutPort =>
    simp only [step] at taken
    split at taken
    · next isRegistered =>
      cases taken
      exact .setOutPort isRegistered
    · cases taken
  | readUnit workId =>
    simp only [step] at taken
    split at taken
    · next idle =>
      split at taken
      · next here =>
        cases taken
        exact .readUnit idle here
      · cases taken
        exact .absent
    · cases taken
  | delete =>
    simp only [step] at taken
    split at taken
    · next isFound =>
      cases taken
      exact .delete isFound
    · cases taken
  | eraseUnit =>
    simp only [step] at taken
    split at taken
    · next isDeleted =>
      cases taken
      exact .eraseUnit isDeleted
    · cases taken
  | eraseOutPort =>
    simp only [step] at taken
    split at taken
    · next isErased =>
      cases taken
      exact .eraseOutPort isErased
    · cases taken
  | pushRead thread workId =>
    simp only [step] at taken
    split at taken
    · cases taken
    · split at taken
      · next unnamed =>
        cases taken
        subst unnamed
        exact .unnamed
      · next named =>
        cases taken
        exact .pushRead named
  | pushSend thread =>
    simp only [step] at taken
    split at taken
    · next pushing =>
      cases taken
      exact .pushSend pushing
    · cases taken

variable {label : Step Thread}

theorem Owned.moves (owned : Owned state) (moves : state.Moves label after) : Owned after := by
  cases moves with
  | @setUnit workId idle => exact owned.set workId idle
  | setOutPort isRegistered =>
    apply owned.remove
    · intro other isDeleted
      rw [isRegistered] at isDeleted
      cases isDeleted
    · exact fun _ _ => SysThread.noConfusion
    · exact fun _ => SysThread.noConfusion
  | readUnit idle here => exact owned.read idle here
  | absent => exact owned
  | delete isFound => exact owned.delete isFound
  | eraseUnit isDeleted =>
    apply owned.remove
    · intro other isOther
      exact SysThread.deleted.inj (isOther.symm.trans isDeleted)
    · exact fun _ _ => SysThread.noConfusion
    · exact fun _ => SysThread.noConfusion
  | eraseOutPort isErased =>
    apply owned.remove
    · intro other isDeleted
      rw [isErased] at isDeleted
      cases isDeleted
    · exact fun _ _ => SysThread.noConfusion
    · exact fun _ => SysThread.noConfusion
  | unnamed => exact owned
  | pushRead named => exact owned.pushed _ _
  | pushSend pushing => exact owned.pushed _ _

/-- No push has a deleted object, and none was sent to. -/
structure Sound (state : Publishing Thread) : Prop where
  held : ∀ thread object, state.pushing thread = some object → state.deleted object = false
  sent : ∀ call ∈ state.sent, call.deleted = false

theorem Sound.moves (sound : Sound state) (owned : Owned state) (apart : Apart state label)
    (moves : state.Moves label after) : Sound after := by
  cases moves with
  | setUnit => exact ⟨sound.held, sound.sent⟩
  | setOutPort => exact ⟨sound.held, sound.sent⟩
  | readUnit => exact ⟨sound.held, sound.sent⟩
  | absent => exact sound
  | @delete workId object isFound =>
    refine ⟨fun thread held pushing => ?_, sound.sent⟩
    have others : held ≠ object := by
      rintro rfl
      exact apart held (by rw [isFound]; rfl) thread pushing
    exact (Function.update_of_ne others ..).trans (sound.held thread held pushing)
  | eraseUnit => exact ⟨sound.held, sound.sent⟩
  | eraseOutPort => exact ⟨sound.held, sound.sent⟩
  | unnamed => exact sound
  | @pushRead thread workId named =>
    refine ⟨fun other object pushing => ?_, sound.sent⟩
    by_cases same : other = thread
    · subst same
      have here := (Function.update_self ..).symm.trans pushing
      -- a key that still has a deleted object is about to be erased
      by_contra isDeleted
      exact apart named (owned.dangling workId object here (by simpa using isDeleted))
    · exact sound.held other object ((Function.update_of_ne same ..).symm.trans pushing)
  | @pushSend thread object pushing =>
    refine ⟨fun other held stillPushing => ?_, fun call member => ?_⟩
    · by_cases same : other = thread
      · subst same
        cases (Function.update_self ..).symm.trans stillPushing
      · exact sound.held other held ((Function.update_of_ne same ..).symm.trans stillPushing)
    · rcases List.mem_append.mp member with earlier | last
      · exact sound.sent call earlier
      · rw [List.mem_singleton.mp last]
        exact sound.held thread object pushing

theorem reaches_owned {allowed : Publishing Thread → Step Thread → Prop} (run : Reaches step allowed started state) :
    Owned state := by
  apply run.invariant Owned owned_started
  intro state label after owned _ taken
  exact owned.moves (moves_of_step taken)

theorem reaches_sound (run : Reaches step Apart started state) : Sound state := by
  have both : Owned state ∧ Sound state := by
    apply run.invariant fun state => Owned state ∧ Sound state
    · exact ⟨owned_started, fun _ _ pushing => (by cases pushing), fun _ member => (by cases member)⟩
    · rintro state label after ⟨owned, sound⟩ apart taken
      have moves := moves_of_step taken
      exact ⟨owned.moves moves, sound.moves owned apart moves⟩
  exact both.2

/-- In a run in which deletions and pushes keep apart, no push sends to a unit that was deleted. -/
theorem no_send_after_delete (run : Reaches step Apart started state) : ∀ call ∈ state.sent, call.deleted = false :=
  (reaches_sound run).sent

/-- A push that is over before the release of its unit begins. -/
theorem push_before_release : ∃ state : Publishing Unit, state.sent = [⟨0, false⟩] ∧ state.deleted 0 = true ∧
    ∀ call ∈ state.sent, call.deleted = false := by
  let steps : List (Step Unit) :=
    [.setUnit (ascii "asr.0"), .setOutPort, .pushRead () (ascii "asr.0"), .pushSend (),
      .readUnit (ascii "asr.0"), .delete,
      .eraseUnit, .eraseOutPort]
  have run : ∃ final, followAllowed step (fun state label => decide (Apart state label))
      (started : Publishing Unit) steps =
      some final ∧ final.sent = [⟨0, false⟩] ∧ final.deleted 0 = true := ⟨_, rfl, rfl, rfl⟩
  obtain ⟨final, run, sent, released⟩ := run
  exact ⟨final, sent, released, no_send_after_delete (Reaches.of_decide run)⟩

/-- A release between the two steps of a push. -/
theorem push_during_release : ¬ ∀ state : Publishing Unit, Reaches step (fun _ _ => True) started state →
    ∀ call ∈ state.sent, call.deleted = false := by
  intro all
  let steps : List (Step Unit) :=
    [.setUnit (ascii "asr.0"), .setOutPort, .pushRead () (ascii "asr.0"), .readUnit (ascii "asr.0"),
      .delete, .pushSend ()]
  have run : ∃ final, follow step (started : Publishing Unit) steps = some final ∧ final.sent = [⟨0, true⟩] :=
    ⟨_, rfl, rfl⟩
  obtain ⟨final, run, sent⟩ := run
  have safe := all final (Reaches.of_follow run)
  rw [sent] at safe
  cases safe _ List.mem_cons_self

/-- Where a push has read a unit when it is deleted, or reads one that was, its next step sends to a deleted unit. -/
theorem send_after_delete (owned : Owned state) (taken : state.step label = some after)
    (together : ¬ Apart state label) :
    ∃ thread object final, after.step (.pushSend thread) = some final ∧ ⟨object, true⟩ ∈ final.sent := by
  have sends {thread : Thread} {object : Nat} (pushing : after.pushing thread = some object)
      (isDeleted : after.deleted object = true) :
      ∃ thread object final, after.step (.pushSend thread) = some final ∧ ⟨object, true⟩ ∈ final.sent := by
    refine ⟨thread, object, _, by rw [step, pushing], ?_⟩
    rw [isDeleted]
    exact List.mem_append_right _ (List.mem_singleton.mpr rfl)
  cases moves_of_step taken with
  | @delete workId object isFound =>
    simp only [Apart, isFound, SysThread.doomed, Option.mem_def, Option.some.injEq, forall_eq', not_forall,
      not_not] at together
    obtain ⟨thread, pushing⟩ := together
    exact sends pushing (Function.update_self ..)
  | @pushRead thread workId named =>
    simp only [Apart, not_forall, not_not] at together
    obtain ⟨-, stale⟩ := together
    obtain ⟨object, here, isDeleted⟩ := owned.gone workId stale
    exact sends ((Function.update_self ..).trans here) isDeleted
  | unnamed => exact absurd (fun named => absurd rfl named) together
  | setUnit => exact absurd trivial together
  | setOutPort => exact absurd trivial together
  | readUnit => exact absurd trivial together
  | absent => exact absurd trivial together
  | eraseUnit => exact absurd trivial together
  | eraseOutPort => exact absurd trivial together
  | pushSend => exact absurd trivial together

end Publishing

end EdgeFlow.Manager
