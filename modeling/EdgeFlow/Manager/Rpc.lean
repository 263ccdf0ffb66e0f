import EdgeFlow.Library.Except
import EdgeFlow.Manager.Dispatch
import EdgeFlow.Manager.Ports

/-! The RPCs between unit-manager and the nodes: what a node is called with for a
client's request, and what it is answered when it registers a unit.
-/

set_option autoImplicit false

namespace EdgeFlow.Manager
open Library Library.Printf Library.Decimal Comm

/-- The numbers of a registry are values of the `int`s that hold them. -/
structure Registry.InRange (m : Registry) : Prop where
  counter : IsInt32 m.workIdNumberCounter
  ports : ∀ slot : Nat, slot < m.portList.length → IsInt32 (m.portListStart + slot)

/-- `rpc_allocate_unit` -/
def rpcAllocateUnit (format : IntFormat) (uninit : Int × Int) (raw : Bytes) (m : Registry) :
    Option (Bytes × Registry) := do
  let (unit, m) ← sysAllocateUnit format uninit raw m
  some (setParam (ofInt unit.port) (setParam unit.outputUrl unit.inferenceUrl), m)

/-- `rpc_release_unit` -/
def rpcReleaseUnit (format : IntFormat) (uninit : Int) (raw : Bytes) (m : Registry) : Option (Bytes × Registry) := do
  let (_, m) ← sysReleaseUnit format uninit raw m
  some (ascii "Success", m)

/-- A node of this unit name is called with this for some request of some session. -/
def Forwarded (simdjson : Simdjson) (unit action payload : Bytes) : Prop :=
  ∃ (bus : Bus) (comId : Int) (jsonStr : Bytes) (sent : List Sent),
    bus.simdjson = simdjson ∧ bus.zmqCFormat = zmqCFormat ∧ IsInt32 comId ∧
      unitActionMatch bus comId jsonStr = .ok sent ∧ .called unit action payload ∈ sent

/-! ## Calls of a node -/

theorem zmqPushUrl_eq (comId : Int) : zmqPushUrl zmqCFormat comId = zmqCFormat.render comId := by
  rw [zmqPushUrl, zmqCFormat.sprintf_alone, Option.getD_some]

theorem zmqPushUrl_length {comId : Int} (fits : IsInt32 comId) : (zmqPushUrl zmqCFormat comId).length ≤ maxParam := by
  have digits := ofInt_length_le fits.1 fits.2
  have before : zmqCFormat.before.length = 15 := rfl
  have after : zmqCFormat.after.length = 5 := rfl
  have bound : maxParam = 127 := rfl
  rw [zmqPushUrl_eq, IntFormat.render, List.length_append, List.length_append, before, after]
  omega

theorem mem_usrPrintError {requestId workId : Bytes} {error : UnitError} {zmqOut : Int} {sent : List Sent}
    (printed : usrPrintError requestId workId error zmqOut = .ok sent) {message : Sent} (member : message ∈ sent) :
    ∃ reply, message = .error zmqOut reply := by
  unfold usrPrintError at printed
  split at printed
  · cases printed
    exact ⟨_, List.mem_singleton.mp member⟩
  · cases printed

/-- An error report adds nothing but itself to what was sent before. -/
theorem mem_of_reported {requestId workId : Bytes} {error : UnitError} {zmqOut : Int} {sent all : List Sent}
    (printed : (usrPrintError requestId workId error zmqOut).map (sent ++ ·) = .ok all) {message : Sent}
    (member : message ∈ all) (notError : ∀ reply, message ≠ .error zmqOut reply) : message ∈ sent := by
  cases report : usrPrintError requestId workId error zmqOut with
  | error thrown => rw [report] at printed; cases printed
  | ok reply =>
    rw [report] at printed
    cases printed
    refine (List.mem_append.mp member).resolve_right fun reported => ?_
    obtain ⟨_, same⟩ := mem_usrPrintError report reported
    exact notError _ same

theorem mem_remoteCall {bus : Bus} {comId : Int} {jsonStr : Bytes} {ret : Int} {sent : List Sent}
    (returned : remoteCall bus comId jsonStr = .ok (ret, sent)) {message : Sent} (member : message ∈ sent) :
    message = .called (beforeDot (bus.simdjson.getString jsonStr [] (ascii "work_id")))
      (bus.simdjson.getString jsonStr [ascii "work_id"] (ascii "action"))
      (setParam ((zmqPushUrl bus.zmqCFormat comId).take 254) jsonStr) := by
  unfold remoteCall at returned
  simp only at returned
  split at returned
  · cases returned
  · split at returned
    · cases returned
      cases member
    · cases returned
      exact List.mem_singleton.mp member

theorem mem_zmqBusPublisherPush {registry : Registry} {workId raw : Bytes} {message : Sent}
    (member : message ∈ (zmqBusPublisherPush registry workId raw).2) :
    ∃ unit, registry.readUnit workId = some unit ∧ message = .published unit raw := by
  unfold zmqBusPublisherPush at member
  split at member
  · cases member
  · split at member
    · next unit found => exact ⟨unit, found, List.mem_singleton.mp member⟩
    · cases member

/-- What `unit_action_match` sends beside an error report, it sends for a request with all three header fields: an
inference is published, and any other request is the business of `remote_call`. -/
theorem mem_unitActionMatch {bus : Bus} {comId : Int} {jsonStr : Bytes} {sent : List Sent}
    (returned : unitActionMatch bus comId jsonStr = .ok sent) {message : Sent} (member : message ∈ sent)
    (notError : ∀ reply, message ≠ .error comId reply) :
    ∃ header, readHeader bus.simdjson jsonStr = some header ∧
      ((header.action.value = ascii "inference" ∧ message ∈ (zmqBusPublisherPush bus.registry header.routedId
          (inferenceRawData bus.zmqCFormat comId jsonStr)).2) ∨
        (header.action.value ≠ ascii "inference" ∧
          ∃ ret made, remoteCall bus comId jsonStr = .ok (ret, made) ∧ message ∈ made)) := by
  cases read : readHeader bus.simdjson jsonStr with
  | none =>
    simp only [unitActionMatch, read] at returned
    obtain ⟨_, same⟩ := mem_usrPrintError returned member
    exact absurd same (notError _)
  | some header =>
    simp only [unitActionMatch, read] at returned
    refine ⟨header, rfl, ?_⟩
    by_cases inference : header.action.value = ascii "inference"
    · rw [if_pos inference] at returned
      refine .inl ⟨inference, ?_⟩
      split at returned
      · exact mem_of_reported returned member notError
      · cases returned
        exact member
    · rw [if_neg inference] at returned
      refine .inr ⟨inference, ?_⟩
      split at returned
      · obtain ⟨⟨ret, made⟩, result, returned⟩ := ok_of_bind returned
        refine ⟨ret, made, result, ?_⟩
        split at returned
        · exact mem_of_reported returned member notError
        · cases returned
          exact member
      · -- a work id without a unit in it is let go of
        cases returned
        cases member

/-- A call of a node comes from `remote_call` on a request with all three header fields. -/
theorem unitActionMatch_remoteCall {bus : Bus} {comId : Int} {jsonStr : Bytes} {sent : List Sent}
    (returned : unitActionMatch bus comId jsonStr = .ok sent) {unit action payload : Bytes}
    (called : .called unit action payload ∈ sent) :
    ∃ header ret made, readHeader bus.simdjson jsonStr = some header ∧ header.action.value ≠ ascii "inference" ∧
      remoteCall bus comId jsonStr = .ok (ret, made) ∧ .called unit action payload ∈ made := by
  obtain ⟨header, read, ⟨-, pushed⟩ | ⟨notInference, ret, made, result, member⟩⟩ :=
    mem_unitActionMatch returned called nofun
  · obtain ⟨_, -, same⟩ := mem_zmqBusPublisherPush pushed
    cases same
  · exact ⟨header, ret, made, read, notInference, result, member⟩

theorem unitActionMatch_called {bus : Bus} {comId : Int} {jsonStr : Bytes} {sent : List Sent}
    (returned : unitActionMatch bus comId jsonStr = .ok sent) {unit action payload : Bytes}
    (called : .called unit action payload ∈ sent) :
    ∃ header, readHeader bus.simdjson jsonStr = some header ∧
      header.action.value ≠ ascii "inference" ∧
      unit = beforeDot (bus.simdjson.getString jsonStr [] (ascii "work_id")) ∧
      action = bus.simdjson.getString jsonStr [ascii "work_id"] (ascii "action") ∧
      payload = setParam ((zmqPushUrl bus.zmqCFormat comId).take 254) jsonStr := by
  obtain ⟨header, ret, made, read, notInference, result, member⟩ := unitActionMatch_remoteCall returned called
  obtain ⟨rfl, rfl, rfl⟩ := Sent.called.inj (mem_remoteCall result member)
  exact ⟨header, read, notInference, rfl, rfl, rfl⟩

/-- A published message is the envelope of a request with all three header fields, and goes to the unit that is
registered under its work id. -/
theorem unitActionMatch_published {bus : Bus} {comId : Int} {jsonStr : Bytes} {sent : List Sent}
    (returned : unitActionMatch bus comId jsonStr = .ok sent) {unit : UnitData} {raw : Bytes}
    (published : .published unit raw ∈ sent) :
    ∃ header, readHeader bus.simdjson jsonStr = some header ∧ header.action.value = ascii "inference" ∧
      bus.registry.readUnit header.routedId = some unit ∧ raw = inferenceRawData bus.zmqCFormat comId jsonStr := by
  obtain ⟨header, read, ⟨inference, pushed⟩ | ⟨-, _, _, result, member⟩⟩ :=
    mem_unitActionMatch returned published nofun
  · obtain ⟨_, found, same⟩ := mem_zmqBusPublisherPush pushed
    obtain ⟨rfl, rfl⟩ := Sent.published.inj same
    exact ⟨header, read, inference, found, rfl⟩
  · cases mem_remoteCall result member

theorem readHeader_accepts {simdjson : Simdjson} {text : Bytes} {header : Header text}
    (read : readHeader simdjson text = some header) : simdjson.accepts text = true := by
  unfold readHeader at read
  split at read
  · assumption
  · cases read

/-- A node is called with the session's URL and the request as it came in. -/
theorem Forwarded.shape {simdjson : Simdjson} {unit action payload : Bytes}
    (forwarded : Forwarded simdjson unit action payload) :
    ∃ zmqUrl raw, payload = setParam zmqUrl raw ∧ zmqUrl.length ≤ maxParam ∧ Utf8.Valid raw := by
  obtain ⟨bus, comId, jsonStr, sent, rfl, format, fits, returned, called⟩ := forwarded
  obtain ⟨header, read, -, -, -, rfl⟩ := unitActionMatch_called returned called
  refine ⟨_, jsonStr, rfl, ?_, bus.simdjson.utf8 _ (readHeader_accepts read)⟩
  rw [format]
  exact (List.length_take_le' _ _).trans (zmqPushUrl_length fits)

/-! ## Answers to a node -/

theorem takePort_frame (uninit : Int) (m : Registry) :
    ∃ port marks, takePort uninit m = (port, { m with portList := marks }) ∧
      marks.length = m.portList.length := by
  unfold takePort
  split
  · exact ⟨_, _, rfl, List.length_set⟩
  · exact ⟨_, m.portList, rfl, rfl⟩

theorem takePort_inRange {uninit : Int} {m : Registry} (fits : IsInt32 uninit)
    (inRange : ∀ slot : Nat, slot < m.portList.length → IsInt32 (m.portListStart + slot)) :
    IsInt32 (takePort uninit m).1 := by
  unfold takePort
  split
  · next slot found => exact inRange slot (List.findIdx?_eq_some_iff_findIdx_eq.mp found).1
  · exact fits

/-- What a registration leaves in `key_sql`, with or without free ports. -/
theorem sysAllocateUnit_sql (format : IntFormat) (uninit : Int × Int) {unit : Bytes}
    (noPercent : Byte.percent ∉ unit) (m : Registry) :
    ∃ u m', sysAllocateUnit format uninit unit m = some (u, m') ∧ u.port = m.workIdNumberCounter ∧
      u.workId = unit ++ ascii "." ++ ofInt m.workIdNumberCounter ∧
      zmqUrl format unit .output (takePort uninit.1 m).1 = some u.outputUrl ∧
      m'.keySql = registeredSql m u ∧ m'.workIdNumberCounter = wrap32 (m.workIdNumberCounter + 1) ∧
      m'.portListStart = m.portListStart ∧ m'.portList.length = m.portList.length := by
  let m₁ : Registry := { m with workIdNumberCounter := wrap32 (m.workIdNumberCounter + 1) }
  obtain ⟨outputPort, marks, first, length⟩ := takePort_frame uninit.1 m₁
  obtain ⟨inferencePort, marks', second, length'⟩ := takePort_frame uninit.2 { m₁ with portList := marks }
  obtain ⟨outputUrl, outputPrinted, -⟩ := zmqUrl_embeds format noPercent .output outputPort
  obtain ⟨inferenceUrl, inferencePrinted, -⟩ := zmqUrl_embeds format noPercent .inference inferencePort
  have samePort : (takePort uninit.1 m).1 = outputPort := by
    have : (takePort uninit.1 m).1 = (takePort uninit.1 m₁).1 := by
      simp only [takePort, m₁]
      split <;> rfl
    rw [this, first]
  simp only [m₁] at first second
  refine ⟨⟨m.workIdNumberCounter, unit ++ ascii "." ++ ofInt m.workIdNumberCounter, outputUrl, inferenceUrl⟩,
    { m₁ with portList := marks', keySql := registeredSql m ⟨m.workIdNumberCounter,
      unit ++ ascii "." ++ ofInt m.workIdNumberCounter, outputUrl, inferenceUrl⟩ },
    ?_, rfl, rfl, by rw [samePort]; exact outputPrinted, rfl, rfl, rfl, length'.trans length⟩
  simp only [sysAllocateUnit, first, second, outputPrinted, inferencePrinted, Option.bind_eq_bind,
    Option.bind_some, Registry.set, registeredSql, m₁]

theorem zmqUrl_length {unit url : Bytes} (noPercent : Byte.percent ∉ unit) {endpoint : Endpoint} {port : Int}
    (fits : IsInt32 port) (printed : zmqUrl zmqSFormat unit endpoint port = some url) :
    url.length ≤ 46 + unit.length := by
  have plain : Byte.percent ∉ ascii "." ++ unit ++ urlSuffix endpoint := by
    simp only [List.mem_append, not_or]
    exact ⟨⟨by decide, noPercent⟩, by cases endpoint <;> decide⟩
  have sock : (Search.find (ascii "sock") zmqSFormat.text).isSome = true := by decide
  rw [zmqUrl, if_pos sock, zmqSFormat.sprintf_text plain port, Option.some.injEq] at printed
  have digits := ofInt_length_le fits.1 fits.2
  have before : zmqSFormat.before.length = 15 := rfl
  have after : zmqSFormat.after.length = 5 := rfl
  have suffix : (urlSuffix endpoint).length ≤ 14 := by cases endpoint <;> decide
  have cut : (cstr (ascii "." ++ unit ++ urlSuffix endpoint)).length ≤ 1 + unit.length + 14 := by
    refine (List.takeWhile_prefix _).length_le.trans ?_
    have dot : (ascii ".").length = 1 := rfl
    simp only [List.length_append, dot]
    omega
  rw [← printed, IntFormat.render, List.length_append, List.length_append, List.length_append, before, after]
  omega

/-- A registration is always answered, with the number in the new work id and a short URL first. -/
theorem rpcAllocateUnit_reply {uninit : Int × Int} {unit : Bytes} {m : Registry} (inRange : m.InRange)
    (fits : IsInt32 uninit.1) (noPercent : Byte.percent ∉ unit) (short : unit.length ≤ 64) :
    ∃ outputUrl inferenceUrl m', outputUrl.length ≤ maxParam ∧ rpcAllocateUnit zmqSFormat uninit unit m =
      some (setParam (ofInt m.workIdNumberCounter) (setParam outputUrl inferenceUrl), m') := by
  obtain ⟨u, m', allocated, port, -, printed, -⟩ := sysAllocateUnit_sql zmqSFormat uninit noPercent m
  have length := zmqUrl_length noPercent (takePort_inRange fits inRange.ports) printed
  refine ⟨u.outputUrl, u.inferenceUrl, m', length.trans (show 46 + unit.length ≤ 127 by omega), ?_⟩
  rw [rpcAllocateUnit, allocated, ← port]
  rfl

theorem isInt32_wrap32 (n : Int) : IsInt32 (wrap32 n) := by
  have positive : 0 < 2 ^ 32 := by decide
  have lower : -((2 ^ 32 : Nat) / 2 : Int) ≤ Int.bmod n (2 ^ 32) := Int.le_bmod positive
  have upper : Int.bmod n (2 ^ 32) < ((2 ^ 32 : Nat) + 1) / 2 := Int.bmod_lt positive
  exact ⟨lower, upper⟩

theorem Registry.InRange.allocated {m m' : Registry} (inRange : m.InRange)
    (counter : m'.workIdNumberCounter = wrap32 (m.workIdNumberCounter + 1))
    (start : m'.portListStart = m.portListStart) (length : m'.portList.length = m.portList.length) :
    m'.InRange where
  counter := counter ▸ isInt32_wrap32 _
  ports slot inside := by
    rw [start]
    exact inRange.ports slot (length ▸ inside)

theorem freePort_frame {port : Int} {m m' : Registry} (freed : freePort port m = some m') :
    ∃ marks, m' = { m with portList := marks } ∧ marks.length = m.portList.length := by
  unfold freePort at freed
  split at freed
  · cases freed
    exact ⟨_, rfl, List.length_set⟩
  · cases freed

/-- Whatever its URLs say, a release takes a unit's two keys out of `key_sql`. -/
theorem sysReleaseUnit_frame {format : IntFormat} {uninit ret : Int} {key : Bytes} {m m' : Registry} {u : UnitData}
    (read : m.readUnit key = some u) (released : sysReleaseUnit format uninit key m = some (ret, m')) :
    ∃ marks, m' = { m with portList := marks, keySql := releasedSql m key } ∧
      marks.length = m.portList.length := by
  simp only [sysReleaseUnit, read, Option.bind_eq_bind, Option.bind_eq_some_iff] at released
  obtain ⟨first, freed, second, freed', ⟨⟩⟩ := released
  obtain ⟨marks, rfl, length⟩ := freePort_frame freed
  obtain ⟨marks', rfl, length'⟩ := freePort_frame freed'
  exact ⟨marks', rfl, length'.trans length⟩

theorem sysReleaseUnit_none {format : IntFormat} {uninit ret : Int} {key : Bytes} {m m' : Registry}
    (read : m.readUnit key = none) (released : sysReleaseUnit format uninit key m = some (ret, m')) : m' = m := by
  simp only [sysReleaseUnit, read] at released
  cases released
  rfl

theorem Registry.InRange.released {m m' : Registry} (inRange : m.InRange) {format : IntFormat} {uninit ret : Int}
    {key : Bytes} (released : sysReleaseUnit format uninit key m = some (ret, m')) : m'.InRange := by
  cases read : m.readUnit key with
  | none =>
    rw [sysReleaseUnit_none read released]
    exact inRange
  | some u =>
    obtain ⟨marks, rfl, length⟩ := sysReleaseUnit_frame read released
    exact ⟨inRange.counter, fun slot inside => inRange.ports slot (length ▸ inside)⟩

/-- The numbers a registry starts with are those of the configuration. -/
theorem remoteServerWork_inRange {uninit : Int} {config : Config} {m : Registry} (fits : IsInt32 uninit)
    (ints : ∀ key n, config.keySql key = some (.int n) → IsInt32 n)
    (started : remoteServerWork uninit config = some m) : m.InRange := by
  have read : ∀ key default, IsInt32 default → IsInt32 ((config.readInt key).getD default) := by
    intro key default defaultFits
    cases found : config.readInt key with
    | none => exact defaultFits
    | some n =>
      unfold Config.readInt at found
      split at found
      · next int => cases found; exact ints key n int
      · cases found
  have zero : IsInt32 0 := by decide
  unfold remoteServerWork at started
  simp only at started
  split at started
  · cases started
  · cases started
    refine ⟨read _ _ zero, fun slot inside => ?_⟩
    have first := read (ascii "config_zmq_min_port") 0 zero
    have last := read (ascii "config_zmq_max_port") uninit fits
    rw [List.length_replicate] at inside
    unfold IsInt32 at first last ⊢
    constructor
    · simp only; omega
    · simp only; omega

end EdgeFlow.Manager
