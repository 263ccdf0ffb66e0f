import EdgeFlow.Library.Run
import EdgeFlow.Node.Sessions

/-! The event loop under the requests of clients: `even_loop` catches nothing, so
an exception that leaves one listener ends the node.
-/

set_option autoImplicit false

namespace EdgeFlow.Node
open Library Library.Printf Comm

variable {World : Type}

/-- What is enqueued for the event loop, with what a listener finds outside the program text. -/
structure Call where
  event : LocalEvent
  msg : Bytes
  chance : Chance

/-- The second parameter of the message. -/
def Call.raw (call : Call) : Bytes :=
  match readParam 1 call.msg with
  | .ok raw => raw
  | .error _ => []

/-- The work id the listener reads. -/
def Call.workId (call : Call) : Bytes := sampleJsonStrGet call.raw (ascii "work_id")

/-- One turn of `even_loop` that no exception ends. -/
def evenLoop (sys : Sys World) (state : StackFlow × World) (call : Call) : Option (StackFlow × World) :=
  (state.1.listen sys call.event call.msg call.chance state.2).toOption

/-- Which events the loop goes on after; what comes back from `register_unit` may be anything. -/
def Survivable (sys : Sys World) (state : StackFlow × World) (call : Call) : Prop :=
  match call.event with
  | .setup => ∃ number outputUrl inferenceUrl,
      (sys.registerUnit state.1.kind.unitName state.2).1.Registers number outputUrl inferenceUrl
  | .exit => ∃ number, workIdNum call.workId = .ok number ∧
      if number ∈ state.1.tasks then (state.1.llmTaskChannel number).isSome = true else state.1.kind ≠ .rkllm
  | .pause => False
  | .taskinfo => True

theorem toOption_isSome {ε α : Type} {result : Except ε α} :
    (∃ value, result.toOption = some value) ↔ ∃ value, result = .ok value := by
  cases result <;> simp [Except.toOption]

/-- The parameters of a forwarded request, as a listener unpacks them. -/
theorem unpack_setParam {event : LocalEvent} (notPause : event ≠ .pause) {zmqUrl : Bytes}
    (short : zmqUrl.length ≤ maxParam) (raw : Bytes) : event.unpack (setParam zmqUrl raw) = .ok (zmqUrl, raw) := by
  have index : event.rawIndex = 1 := by cases event <;> first | rfl | exact absurd rfl notPause
  simp only [LocalEvent.unpack, getParam, List.length_nil, Nat.lt_irrefl, if_false, index,
    readParam_zero short, readParam_one short, bind, Except.bind]

theorem unpack_pause {zmqUrl : Bytes} (short : zmqUrl.length ≤ maxParam) (raw : Bytes) :
    LocalEvent.pause.unpack (setParam zmqUrl raw) = .ok (zmqUrl, zmqUrl) := by
  simp only [LocalEvent.unpack, getParam, List.length_nil, Nat.lt_irrefl, if_false, LocalEvent.rawIndex,
    readParam_zero short, bind, Except.bind]

/-- A listener whose message unpacks goes on to its virtual function. -/
theorem listen_of_unpack (sys : Sys World) {event : LocalEvent} {msg zmqUrl data : Bytes}
    (unpacked : event.unpack msg = .ok (zmqUrl, data)) {node : StackFlow} (listening : node.status ≠ 0)
    (chance : Chance) (world : World) :
    node.listen sys event msg chance world =
      (node.receive zmqUrl data).handle sys event zmqUrl data chance world := by
  have status : ¬ (node.receive zmqUrl data).status = 0 := listening
  simp only [StackFlow.listen, unpacked, if_neg status, Except.mapError, bind, Except.bind]

theorem raw_setParam {event : LocalEvent} {chance : Chance} {zmqUrl : Bytes} (short : zmqUrl.length ≤ maxParam)
    (raw : Bytes) : (Call.mk event (setParam zmqUrl raw) chance).raw = raw := by
  simp only [Call.raw, readParam_one short]

section
variable {sys : Sys World} {node : StackFlow} {zmqUrl raw : Bytes} (requestValid : Utf8.Valid node.requestId)
  (rawValid : Utf8.Valid raw)

include requestValid in
theorem setup_survives_iff (chance : Chance) (world : World) :
    (∃ after, node.setup sys chance zmqUrl raw world = .ok after) ↔
      ∃ number outputUrl inferenceUrl,
        (sys.registerUnit node.kind.unitName world).1.Registers number outputUrl inferenceUrl := by
  constructor
  · rintro ⟨after, done⟩
    by_contra unregistered
    obtain ⟨fault, thrown⟩ := setup_throws (fun number outputUrl inferenceUrl registers =>
      unregistered ⟨number, outputUrl, inferenceUrl, registers⟩) chance zmqUrl raw
    rw [thrown] at done
    cases done
  · rintro ⟨number, outputUrl, inferenceUrl, registers⟩
    obtain ⟨_, after, world', done, _⟩ := setup_registers rfl registers requestValid chance zmqUrl raw
    exact ⟨_, done⟩

include requestValid rawValid in
theorem exit_survives_iff (world : World) :
    (∃ after, node.exit sys zmqUrl raw world = .ok after) ↔
      ∃ number, workIdNum (sampleJsonStrGet raw (ascii "work_id")) = .ok number ∧
        if number ∈ node.tasks then (node.llmTaskChannel number).isSome = true else node.kind ≠ .rkllm := by
  have workValid := sampleJsonStrGet_valid rawValid (ascii "work_id")
  cases read : workIdNum (sampleJsonStrGet raw (ascii "work_id")) with
  | error fault =>
    simp only [exit_unreadable sys rfl zmqUrl world read, reduceCtorEq, exists_false, false_and]
  | ok number =>
    simp only [Except.ok.injEq, exists_eq_left']
    by_cases present : number ∈ node.tasks
    · rw [if_pos present]
      cases found : node.llmTaskChannel number with
      | none => simp [exit_lost sys rfl zmqUrl world read present found]
      | some channel =>
        obtain ⟨after, done, -⟩ := exit_present sys rfl zmqUrl world read requestValid workValid present
          (by rw [found]; rfl)
        exact iff_of_true ⟨_, done⟩ rfl
    · rw [if_neg present]
      have refused := exit_absent sys rfl zmqUrl world read requestValid workValid present
      split at refused
      · next isRkllm => simp [refused, isRkllm]
      · next notRkllm =>
        obtain ⟨after, done, -⟩ := refused
        exact iff_of_true ⟨_, done⟩ notRkllm

include requestValid rawValid in
variable (zmqUrl) in
theorem taskinfo_survives : ∃ after, node.taskinfo zmqUrl raw = .ok after ∧ SameTables node after := by
  have same := redirect_same zmqUrl (sampleJsonStrGet raw (ascii "work_id")) node
  have requestAfter : Utf8.Valid (node.redirect zmqUrl (sampleJsonStrGet raw (ascii "work_id"))).requestId := by
    rw [same.requestId]; exact requestValid
  obtain ⟨after, done, sameAfter⟩ :=
    taskinfoTask_same requestAfter (sampleJsonStrGet_valid rawValid (ascii "work_id"))
  exact ⟨after, done, same.trans sameAfter⟩

end

/-- A node keeps its kind, and goes on listening. -/
structure Listening (kind : Kind) (state : StackFlow × World) : Prop where
  kind : state.1.kind = kind
  status : state.1.status ≠ 0

/-- One event of a listening node. -/
theorem listen_survives_iff {simdjson : Manager.Simdjson} {sys : Sys World}
    {kind : Kind} {state : StackFlow × World} (listening : Listening kind state) {call : Call}
    (forwarded : Manager.Forwarded simdjson kind.unitName call.event.action call.msg) :
    (∃ after, evenLoop sys state call = some after) ↔ Survivable sys state call := by
  obtain ⟨node, world⟩ := state
  obtain ⟨event, msg, chance⟩ := call
  obtain ⟨zmqUrl, raw, rfl, short, rawValid⟩ := forwarded.shape
  have requestValid : Utf8.Valid (node.receive zmqUrl raw).requestId :=
    sampleJsonStrGet_valid rawValid (ascii "request_id")
  rw [evenLoop, toOption_isSome]
  cases event with
  | setup =>
    rw [listen_of_unpack sys (unpack_setParam LocalEvent.noConfusion short raw) listening.status]
    exact setup_survives_iff requestValid chance world
  | exit =>
    rw [listen_of_unpack sys (unpack_setParam LocalEvent.noConfusion short raw) listening.status]
    simp only [Survivable, Call.workId, raw_setParam short]
    exact exit_survives_iff requestValid rawValid world
  | pause =>
    rw [listen_of_unpack sys (unpack_pause short raw) listening.status]
    exact iff_of_false (by rintro ⟨after, done⟩; cases done) not_false
  | taskinfo =>
    rw [listen_of_unpack sys (unpack_setParam LocalEvent.noConfusion short raw) listening.status]
    obtain ⟨after, done, -⟩ := taskinfo_survives zmqUrl requestValid rawValid
    exact iff_of_true ⟨(after, world), congrArg (Except.map _) done⟩ trivial

/-- A set up or an exit that ends leaves the kind of the node and its status alone. -/
theorem setup_frame {sys : Sys World} {node after : StackFlow} {world world' : World}
    {zmqUrl raw : Bytes} (requestValid : Utf8.Valid node.requestId) {chance : Chance}
    (done : node.setup sys chance zmqUrl raw world = .ok (after, world')) :
    after.kind = node.kind ∧ after.status = node.status := by
  obtain ⟨number, outputUrl, inferenceUrl, registers⟩ :=
    (setup_survives_iff requestValid chance world).mp ⟨_, done⟩
  obtain ⟨_, _, _, done', refused, accepted⟩ := setup_registers rfl registers requestValid chance zmqUrl raw
  rw [done] at done'
  cases done'
  by_cases refuses : Refuses chance.ready node
  · exact ⟨(refused refuses).1.kind, (refused refuses).1.status⟩
  · exact ⟨(accepted refuses).2.kind, (accepted refuses).2.status⟩

theorem exit_frame {sys : Sys World} {node after : StackFlow} {world world' : World} {zmqUrl raw : Bytes}
    (requestValid : Utf8.Valid node.requestId) (rawValid : Utf8.Valid raw)
    (done : node.exit sys zmqUrl raw world = .ok (after, world')) :
    after.kind = node.kind ∧ after.status = node.status := by
  have workValid := sampleJsonStrGet_valid rawValid (ascii "work_id")
  obtain ⟨number, read, alive⟩ := (exit_survives_iff requestValid rawValid world).mp ⟨_, done⟩
  by_cases present : number ∈ node.tasks
  · rw [if_pos present] at alive
    obtain ⟨_, done', same⟩ := exit_present sys rfl zmqUrl world read requestValid workValid present alive
    rw [done] at done'
    cases done'
    exact ⟨same.kind, same.status⟩
  · rw [if_neg present] at alive
    have refused := exit_absent sys rfl zmqUrl world read requestValid workValid present
    rw [if_neg alive] at refused
    obtain ⟨_, done', same⟩ := refused
    rw [done] at done'
    cases done'
    exact ⟨same.kind, same.status⟩

/-- A node that has survived an event listens on. -/
theorem Listening.next {simdjson : Manager.Simdjson} {sys : Sys World}
    {kind : Kind} {state after : StackFlow × World} (listening : Listening kind state) {call : Call}
    (forwarded : Manager.Forwarded simdjson kind.unitName call.event.action call.msg)
    (taken : evenLoop sys state call = some after) : Listening kind after := by
  obtain ⟨node, world⟩ := state
  obtain ⟨afterNode, afterWorld⟩ := after
  obtain ⟨event, msg, chance⟩ := call
  obtain ⟨zmqUrl, raw, rfl, short, rawValid⟩ := forwarded.shape
  have requestValid : Utf8.Valid (node.receive zmqUrl raw).requestId :=
    sampleJsonStrGet_valid rawValid (ascii "request_id")
  have alive := (listen_survives_iff listening forwarded).mp ⟨_, taken⟩
  have done : node.listen sys event (setParam zmqUrl raw) chance world = .ok (afterNode, afterWorld) := by
    cases result : node.listen sys event (setParam zmqUrl raw) chance world with
    | error fault => rw [evenLoop, result] at taken; cases taken
    | ok value => rw [evenLoop, result] at taken; cases taken; rfl
  have frame : afterNode.kind = node.kind ∧ afterNode.status = node.status := by
    cases event with
    | pause => exact alive.elim
    | setup =>
      rw [listen_of_unpack sys (unpack_setParam LocalEvent.noConfusion short raw) listening.status] at done
      have frame := setup_frame requestValid done
      exact frame
    | exit =>
      rw [listen_of_unpack sys (unpack_setParam LocalEvent.noConfusion short raw) listening.status] at done
      have frame := exit_frame requestValid rawValid done
      exact frame
    | taskinfo =>
      rw [listen_of_unpack sys (unpack_setParam LocalEvent.noConfusion short raw) listening.status] at done
      obtain ⟨_, done', same⟩ := taskinfo_survives zmqUrl requestValid rawValid
      simp only [StackFlow.handle, done', Except.map, Except.ok.injEq, Prod.mk.injEq] at done
      obtain ⟨rfl, rfl⟩ := done
      exact ⟨same.kind, same.status⟩
  exact ⟨frame.1.trans listening.kind, frame.2 ▸ listening.status⟩

/-- A registry with two free ports. -/
def twoPorts : Manager.Registry := ⟨0, 5010, [false, false], fun _ => none⟩

theorem twoPorts_inRange : twoPorts.InRange := by
  refine ⟨by decide, fun slot inside => ?_⟩
  have : slot < 2 := inside
  exact ⟨by simp only [twoPorts]; omega, by simp only [twoPorts]; omega⟩

/-- A request from com id 8000, as the node's RPC gets it. -/
def fromSession (request : String) (event : LocalEvent) : Call :=
  ⟨event, setParam (ascii "ipc:///tmp/llm/8000.sock") (ascii request), ⟨true, (false, false)⟩⟩

def setupRequest : String := "\x7b\"request_id\":\"1\",\"work_id\":\"asr\",\"action\":\"setup\"\x7d"
end EdgeFlow.Node
