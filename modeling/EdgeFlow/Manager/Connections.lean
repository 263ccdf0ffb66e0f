import EdgeFlow.Library.Printf
import EdgeFlow.Library.Run
import EdgeFlow.Manager.Registry
import Mathlib.Data.Fintype.Card
import Mathlib.Tactic.Ring

/-! Session ids on the IO threads of unit-manager: `onConnection` as the atomic
steps it takes on `counter_port`, interleaved over any number of threads.
-/

set_option autoImplicit false

namespace EdgeFlow.Manager.Connections
open Library Library.Printf

variable {Thread : Type} [DecidableEq Thread]

/-- Where a thread stands inside `onConnection`. -/
inductive Phase where
  | idle
  | comparing
  | storing
  deriving DecidableEq, Repr

/-- A connected `TcpSession`: its com id and the URL its PULL socket is bound to. -/
structure Session (Thread : Type) where
  conn : Nat
  thread : Thread
  port : Int
  zmqUrl : Bytes

structure Server (Thread : Type) where
  counterPort : Int
  phase : Thread → Phase
  sessions : List (Session Thread)

def Server.initial : Server Thread := ⟨8000, fun _ => .idle, []⟩

/-- `zmq_bus_com::work` up to the URL it binds. -/
def work (format : IntFormat) (conn : Nat) (thread : Thread) (port : Int) : Session Thread :=
  ⟨conn, thread, port, (sprintf format.text [port]).getD []⟩

inductive Step (Thread : Type) where
  /-- `session->work(zmq_s_format, counter_port.fetch_add(1))` -/
  | fetchAdd (thread : Thread) (conn : Nat)
  /-- `if (counter_port > 65535)` -/
  | compare (thread : Thread)
  /-- `counter_port.store(8000)` -/
  | store (thread : Thread)
  /-- `session->stop()`, on the thread of the connection -/
  | disconnect (thread : Thread) (conn : Nat)

def step (format : IntFormat) (server : Server Thread) : Step Thread → Option (Server Thread)
  | .fetchAdd thread conn =>
    if server.phase thread = .idle ∧ ∀ session ∈ server.sessions, session.conn ≠ conn then
      some {
        counterPort := server.counterPort + 1
        phase := Function.update server.phase thread .comparing
        sessions := work format conn thread server.counterPort :: server.sessions }
    else none
  | .compare thread =>
    if server.phase thread = .comparing then
      some { server with
        phase := Function.update server.phase thread
          (if server.counterPort > 65535 then .storing else .idle) }
    else none
  | .store thread =>
    if server.phase thread = .storing then
      some { server with counterPort := 8000, phase := Function.update server.phase thread .idle }
    else none
  | .disconnect thread conn =>
    if server.phase thread = .idle ∧
        ∃ session ∈ server.sessions, session.conn = conn ∧ session.thread = thread then
      some { server with sessions := server.sessions.filter fun session => session.conn ≠ conn }
    else none

/-- No two connected sessions have the same com id, or are bound to the same URL. -/
def Exclusive (server : Server Thread) : Prop :=
  server.sessions.Pairwise fun a b => a.port ≠ b.port ∧ a.zmqUrl ≠ b.zmqUrl

/-! ## The schedule alone

Which connections are open, and how many were made between the latest reset of
the counter and each of them, depends on the order of the steps only.
-/

structure History where
  sinceReset : Nat
  places : List (Nat × Nat)

def History.next (history : History) : Step Thread → History
  | .fetchAdd _ conn => ⟨history.sinceReset + 1, (conn, history.sinceReset) :: history.places⟩
  | .compare _ => history
  | .store _ => { history with sinceReset := 0 }
  | .disconnect _ conn => { history with places := history.places.filter fun place => place.1 ≠ conn }

def history (schedule : List (Step Thread)) : History := schedule.foldl History.next ⟨0, []⟩

/-- A connection is made only when no open one came equally many connections
after the start or the reset before it. -/
def Spaced (schedule : List (Step Thread)) : Prop :=
  ∀ before thread conn after, schedule = before ++ .fetchAdd thread conn :: after →
    (history before).sinceReset ∉ (history before).places.map Prod.snd

omit [DecidableEq Thread] in
@[simp] theorem history_append (schedule : List (Step Thread)) (last : Step Thread) :
    history (schedule ++ [last]) = (history schedule).next last := by
  simp [history]

omit [DecidableEq Thread] in
theorem spaced_iff_nodup (schedule : List (Step Thread)) :
    Spaced schedule ↔
      ∀ before after, schedule = before ++ after → ((history before).places.map Prod.snd).Nodup := by
  constructor
  · intro spaced before
    -- by the number of steps taken, each keeping the places apart
    induction before using List.reverseRecOn with
    | nil => intro _ _; simp [history]
    | append_singleton before last ih =>
      intro after shape
      have apart := ih (last :: after) (by simpa using shape)
      rw [history_append]
      cases last with
      | fetchAdd thread conn =>
        simp only [History.next, List.map_cons, List.nodup_cons]
        exact ⟨spaced before thread conn after (by simpa using shape), apart⟩
      | compare thread => exact apart
      | store thread => exact apart
      | disconnect thread conn => exact apart.sublist (List.filter_sublist.map _)
  · intro apart before thread conn after shape
    have both := apart (before ++ [.fetchAdd thread conn]) after (by simpa using shape)
    rw [history_append] at both
    simp only [History.next, List.map_cons, List.nodup_cons] at both
    exact both.1

/-! ## The counter follows the schedule -/

structure Tracks (format : IntFormat) (server : Server Thread) (past : History) : Prop where
  counter : server.counterPort = 8000 + past.sinceReset
  sessions : server.sessions.map (fun session => (session.conn, session.port)) =
    past.places.map (fun place => (place.1, (8000 : Int) + place.2))
  urls : ∀ session ∈ server.sessions, session.zmqUrl = format.render session.port

omit [DecidableEq Thread] in
theorem work_url (format : IntFormat) (conn : Nat) (thread : Thread) (port : Int) :
    (work format conn thread port).zmqUrl = format.render port := by
  simp [work, format.sprintf_alone]

theorem Tracks.step {format : IntFormat} {server after : Server Thread} {past : History}
    (tracks : Tracks format server past) {label : Step Thread}
    (taken : step format server label = some after) : Tracks format after (past.next label) := by
  obtain ⟨counter, sessions, urls⟩ := tracks
  cases label with
  | fetchAdd thread conn =>
    simp only [Connections.step, Option.ite_none_right_eq_some, Option.some.injEq] at taken
    obtain ⟨_, rfl⟩ := taken
    refine ⟨?_, ?_, ?_⟩
    · simp only [History.next, counter]; omega
    · simp [History.next, sessions, work, counter]
    · simp only [List.mem_cons, forall_eq_or_imp]
      exact ⟨work_url format conn thread _, urls⟩
  | compare thread =>
    simp only [Connections.step, Option.ite_none_right_eq_some, Option.some.injEq] at taken
    obtain ⟨_, rfl⟩ := taken
    exact ⟨counter, sessions, urls⟩
  | store thread =>
    simp only [Connections.step, Option.ite_none_right_eq_some, Option.some.injEq] at taken
    obtain ⟨_, rfl⟩ := taken
    exact ⟨rfl, sessions, urls⟩
  | disconnect thread conn =>
    simp only [Connections.step, Option.ite_none_right_eq_some, Option.some.injEq] at taken
    obtain ⟨_, rfl⟩ := taken
    refine ⟨counter, ?_, fun session member => urls session (List.mem_filter.mp member).1⟩
    have filtered := congrArg (List.filter fun pair : Nat × Int => pair.1 ≠ conn) sessions
    simpa [List.filter_map, History.next, Function.comp_def] using filtered

theorem tracks_history {format : IntFormat} {schedule : List (Step Thread)} {server : Server Thread}
    (run : follow (step format) .initial schedule = some server) :
    Tracks format server (history schedule) := by
  induction schedule using List.reverseRecOn generalizing server with
  | nil =>
    cases run
    exact ⟨rfl, rfl, by simp [Server.initial]⟩
  | append_singleton schedule last ih =>
    rw [follow_append, Option.bind_eq_some_iff] at run
    obtain ⟨before, first, taken⟩ := run
    rw [follow_cons, Option.bind_eq_some_iff] at taken
    obtain ⟨after, taken, same⟩ := taken
    cases same
    rw [history_append]
    exact (ih first).step taken

omit [DecidableEq Thread] in
theorem Tracks.exclusive_iff {format : IntFormat} {server : Server Thread} {past : History}
    (tracks : Tracks format server past) :
    Exclusive server ↔ (past.places.map Prod.snd).Nodup := by
  have ports : server.sessions.map (·.port) =
      (past.places.map Prod.snd).map fun place : Nat => (8000 : Int) + place := by
    have := congrArg (List.map Prod.snd) tracks.sessions
    simpa [List.map_map, Function.comp_def] using this
  have shifted : Function.Injective fun place : Nat => (8000 : Int) + place := fun a b same => by
    simp only at same; omega
  rw [← List.nodup_map_iff shifted, ← ports, List.Nodup, List.pairwise_map]
  refine ⟨fun exclusive => exclusive.imp fun apart => apart.1, fun apart => ?_⟩
  refine apart.imp_of_mem fun {a b} memberA memberB different => ⟨different, ?_⟩
  rw [tracks.urls a memberA, tracks.urls b memberB]
  exact fun same => different (format.render_injective same)

/-- Com ids and URLs stay exclusive throughout a run exactly when its schedule
never makes a connection in the place of one that is still open. -/
theorem exclusive_throughout_iff (format : IntFormat) (schedule : List (Step Thread)) (final : Server Thread)
    (run : follow (step format) .initial schedule = some final) :
    (∀ before after reached, schedule = before ++ after →
      follow (step format) .initial before = some reached → Exclusive reached) ↔ Spaced schedule := by
  rw [spaced_iff_nodup]
  constructor
  · intro exclusive before after shape
    rw [shape, follow_append, Option.bind_eq_some_iff] at run
    obtain ⟨reached, first, _⟩ := run
    exact (tracks_history first).exclusive_iff.mp (exclusive before after reached shape first)
  · intro apart before after reached shape first
    exact (tracks_history first).exclusive_iff.mpr (apart before after shape)

/-- Two connections, one thread of the two finishing its turn in between. -/
theorem exclusive_throughout_two :
    (∀ before after reached, [Step.fetchAdd (0 : Fin 2) 0, .compare 0, .fetchAdd 1 1] = before ++ after →
      follow (step zmqSFormat) .initial before = some reached → Exclusive reached) ↔
        Spaced [Step.fetchAdd (0 : Fin 2) 0, .compare 0, .fetchAdd 1 1] :=
  exclusive_throughout_iff zmqSFormat _ _ rfl

/-! ## The counter comes round -/

/-- The counter passes 65535 by at most one connection for each thread inside
`onConnection`, so an `int` holds it. -/
theorem counterPort_le [Fintype Thread] {format : IntFormat} {schedule : List (Step Thread)}
    {server : Server Thread} (run : follow (step format) .initial schedule = some server) :
    server.counterPort ≤ 65535 + (Finset.univ.filter fun thread => server.phase thread ≠ .idle).card := by
  induction schedule using List.reverseRecOn generalizing server with
  | nil => cases run; simp [Server.initial]
  | append_singleton schedule last ih =>
    rw [follow_append, Option.bind_eq_some_iff] at run
    obtain ⟨before, first, taken⟩ := run
    rw [follow_cons, Option.bind_eq_some_iff] at taken
    obtain ⟨after, taken, same⟩ := taken
    cases same
    have bound := ih first
    cases last with
    | fetchAdd thread conn =>
      simp only [step, Option.ite_none_right_eq_some, Option.some.injEq] at taken
      obtain ⟨⟨idle, _⟩, rfl⟩ := taken
      -- one more thread is under way, and the counter is one higher
      have busier : (Finset.univ.filter fun t => Function.update before.phase thread .comparing t ≠ .idle) =
          insert thread (Finset.univ.filter fun t => before.phase t ≠ .idle) := by
        ext t
        by_cases same : t = thread <;> simp [same]
      simp only [busier]
      rw [Finset.card_insert_of_notMem (by simp [idle])]
      push_cast
      omega
    | compare thread =>
      simp only [step, Option.ite_none_right_eq_some, Option.some.injEq] at taken
      obtain ⟨comparing, rfl⟩ := taken
      by_cases past : before.counterPort > 65535
      · -- the thread stays under way: its `store` is still to come
        have same : (Finset.univ.filter fun t => Function.update before.phase thread .storing t ≠ .idle) =
            Finset.univ.filter fun t => before.phase t ≠ .idle := by
          ext t
          by_cases same : t = thread <;> simp [same, comparing]
        simpa only [if_pos past, same] using bound
      · simp only
        omega
    | store thread =>
      simp only [step, Option.ite_none_right_eq_some, Option.some.injEq] at taken
      obtain ⟨_, rfl⟩ := taken
      simp only
      omega
    | disconnect thread conn =>
      simp only [step, Option.ite_none_right_eq_some, Option.some.injEq] at taken
      obtain ⟨_, rfl⟩ := taken
      exact bound

/-- One short-lived connection, closed before the next step. -/
def visit (thread : Thread) (conn : Nat) : List (Step Thread) :=
  [.fetchAdd thread conn, .compare thread, .disconnect thread conn]

theorem follow_visits (format : IntFormat) (thread : Thread) (conn : Nat) (held : Session Thread)
    (other : held.conn ≠ conn) (visits : Nat) {counter : Int} (room : counter + visits ≤ 65535) :
    follow (step format) ⟨counter, fun _ => .idle, [held]⟩ (List.replicate visits (visit thread conn)).flatten =
      some ⟨counter + visits, fun _ => .idle, [held]⟩ := by
  induction visits generalizing counter with
  | zero => simp
  | succ visits ih =>
    have below : ¬ counter + 1 > 65535 := by omega
    have one : follow (step format) ⟨counter, fun _ => .idle, [held]⟩ (visit thread conn) =
        some ⟨counter + 1, fun _ => .idle, [held]⟩ := by
      simp [visit, step, other, below, work]
    rw [List.replicate_succ, List.flatten_cons, follow_append, one, Option.bind_some, ih (by omega)]
    congr 2
    push_cast
    ring

/-- A connection that stays open while 57535 others are made shares its com id
with the next one. -/
theorem com_id_reused :
    ¬ ∀ (schedule : List (Step (Fin 2))) (final : Server (Fin 2)),
      follow (step zmqSFormat) .initial schedule = some final → Exclusive final := by
  intro exclusive
  let held : Session (Fin 2) := work zmqSFormat 0 0 8000
  have first : follow (step zmqSFormat) .initial [.fetchAdd (0 : Fin 2) 0, .compare 0] =
      some ⟨8001, fun _ => .idle, [held]⟩ := by
    simp [step, Server.initial, held]
  have visits : follow (step zmqSFormat) ⟨8001, fun _ => .idle, [held]⟩
      (List.replicate 57534 (visit (1 : Fin 2) 1)).flatten = some ⟨65535, fun _ => .idle, [held]⟩ :=
    follow_visits zmqSFormat 1 1 held (by simp [held, work]) 57534 (by norm_num)
  have last : follow (step zmqSFormat) ⟨65535, fun _ => .idle, [held]⟩
      [.fetchAdd (1 : Fin 2) 1, .compare 1, .store 1, .fetchAdd 0 2] =
      some ⟨8001, Function.update (fun _ => .idle) 0 .comparing,
        [work zmqSFormat 2 0 8000, work zmqSFormat 1 1 65535, held]⟩ := by
    simp [step, held, work]
  have run : follow (step zmqSFormat) .initial ([.fetchAdd (0 : Fin 2) 0, .compare 0] ++
      ((List.replicate 57534 (visit 1 1)).flatten ++ [.fetchAdd 1 1, .compare 1, .store 1, .fetchAdd 0 2])) =
      some ⟨8001, Function.update (fun _ => .idle) 0 .comparing,
        [work zmqSFormat 2 0 8000, work zmqSFormat 1 1 65535, held]⟩ := by
    rw [follow_append, first, Option.bind_some, follow_append, visits, Option.bind_some, last]
  have pairwise := exclusive _ _ run
  simp [Exclusive, held, work] at pairwise

end EdgeFlow.Manager.Connections
