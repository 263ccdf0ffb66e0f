import EdgeFlow.Node.Survival

/-! A node and unit-manager together: the sessions in `tasks_`, the channels in
`llm_task_channel_` and the units in `key_sql`.
-/

set_option autoImplicit false

namespace EdgeFlow.System
open Library Library.Printf Library.Decimal Comm Manager Node

/-- unit-manager behind RPCs that all get through; `uninit` is what the locals of its
allocation and release start out with in a state. -/
def managerSys (uninit : Registry → Int × Int) : Sys Registry where
  registerUnit unit m :=
    match rpcAllocateUnit zmqSFormat (uninit m) unit m with
    | some (reply, after) => (.answered reply, after)
    | none => (.timedOut, m)
  releaseUnit workId m :=
    match rpcReleaseUnit zmqSFormat (uninit m).1 workId m with
    | some (reply, after) => (.answered reply, after)
    -- the write outside of `port_list` is taken to do nothing more than that
    | none => (.answered (ascii "Success"), (m.erase workId).erase (outPortKey workId))

/-- A request as `remote_call` packs it. -/
def Framed (call : Call) : Prop :=
  ∃ zmqUrl raw, call.msg = setParam zmqUrl raw ∧ zmqUrl.length ≤ maxParam ∧ Utf8.Valid raw

/-- An exit that names a live session names it as its set up did, and the number a set up is
about to be given is not live. -/
def Spelled (state : StackFlow × Registry) (call : Call) : Prop :=
  Framed call ∧
  match call.event with
  | .setup => state.2.workIdNumberCounter ∉ state.1.tasks
  | .exit => ∀ number ∈ state.1.tasks, workIdNum call.workId = .ok number →
      call.workId = sampleGetWorkId number state.1.kind.unitName
  | _ => True

/-- A set up with no room or no stream, or an exit of a number that is not live. -/
def Rejected (state : StackFlow × Registry) (call : Call) : Prop :=
  match call.event with
  | .setup => Refuses call.chance.ready state.1
  | .exit => ∀ number, workIdNum call.workId = .ok number → number ∉ state.1.tasks
  | _ => True

/-- The node and unit-manager know of the same sessions. -/
structure Agree (state : StackFlow × Registry) : Prop where
  channels : ∀ number, (state.1.llmTaskChannel number).isSome = true ↔ number ∈ state.1.tasks
  units : ∀ number, (state.2.readUnit (sampleGetWorkId number state.1.kind.unitName)).isSome = true ↔
    number ∈ state.1.tasks
  bounded : state.1.tasks.card ≤ state.1.maxSessions

/-- What carries the agreement from one event to the next. -/
structure Consistent (kind : Kind) (state : StackFlow × Registry) : Prop where
  listening : Listening kind state
  inRange : state.2.InRange
  channels : ∀ number, (state.1.llmTaskChannel number).isSome = true ↔ number ∈ state.1.tasks
  units : ∀ key, (state.2.readUnit key).isSome = true ↔
    ∃ number ∈ state.1.tasks, key = sampleGetWorkId number kind.unitName
  bounded : state.1.tasks.card ≤ state.1.maxSessions
  fits : ∀ number ∈ state.1.tasks, IsInt32 number

theorem sampleGetWorkId_injective {number number' : Int} {unitName : Bytes}
    (same : sampleGetWorkId number unitName = sampleGetWorkId number' unitName) : number = number' :=
  (workId_inj same).2

theorem Consistent.agree {kind : Kind} {state : StackFlow × Registry} (consistent : Consistent kind state) :
    Agree state where
  channels := consistent.channels
  units number := by
    rw [consistent.listening.kind, consistent.units]
    constructor
    · rintro ⟨live, member, same⟩
      exact sampleGetWorkId_injective same ▸ member
    · exact fun member => ⟨number, member, rfl⟩
  bounded := consistent.bounded

/-- No unit is registered under a key that was made from another. -/
theorem Consistent.derived {kind : Kind} {state : StackFlow × Registry} (consistent : Consistent kind state)
    (key : Bytes) : state.2.readUnit (outPortKey key) = none := by
  rw [← Option.not_isSome_iff_eq_none, consistent.units]
  rintro ⟨number, -, same⟩
  exact outPortKey_ne_workId key kind.unitName number same

/-! ## The registry's side of an event -/

section
variable {m : Registry} (uninit : Registry → Int × Int)

/-- What a registration of this node's unit does. -/
theorem managerSys_register (kind : Kind) (inRange : m.InRange) (fits : ∀ m, IsInt32 (uninit m).1)
    (derived : ∀ key, m.readUnit (outPortKey key) = none) :
    ∃ outputUrl inferenceUrl after, outputUrl.length ≤ maxParam ∧
      (managerSys uninit).registerUnit kind.unitName m =
        (.answered (setParam (ofInt m.workIdNumberCounter) (setParam outputUrl inferenceUrl)), after) ∧
      after.InRange ∧ ∀ key, (after.readUnit key).isSome =
        (decide (key = sampleGetWorkId m.workIdNumberCounter kind.unitName) || (m.readUnit key).isSome) := by
  have noPercent := percent_notMem_unitName kind
  have short : kind.unitName.length ≤ 64 := by cases kind <;> decide
  obtain ⟨outputUrl, inferenceUrl, after, length, allocated⟩ := rpcAllocateUnit_reply inRange (fits m) noPercent short
  obtain ⟨u, after', allocated', -, workId, -, sql, counter, start, marks⟩ :=
    sysAllocateUnit_sql zmqSFormat (uninit m) noPercent m
  have same : after' = after := by
    rw [rpcAllocateUnit, allocated'] at allocated
    exact (Prod.mk.inj (Option.some.inj allocated)).2
  subst same
  refine ⟨outputUrl, inferenceUrl, after', length, by simp only [managerSys, allocated],
    inRange.allocated counter start marks, fun key => ?_⟩
  have named : u.workId = sampleGetWorkId m.workIdNumberCounter kind.unitName := workId
  rw [readUnit_registered sql (derived _), named]
  by_cases isNew : key = sampleGetWorkId m.workIdNumberCounter kind.unitName
  · rw [if_pos isNew]; simp [isNew]
  · rw [if_neg isNew]; simp [isNew]

/-- A release takes the two keys of a registered unit out, and has no other effect on `key_sql`. -/
theorem managerSys_releaseUnit (inRange : m.InRange) (workId : Bytes) :
    ((managerSys uninit).releaseUnit workId m).2.InRange ∧
      (m.readUnit workId = none → ((managerSys uninit).releaseUnit workId m).2 = m) ∧
      ∀ u, m.readUnit workId = some u →
        ((managerSys uninit).releaseUnit workId m).2.keySql = releasedSql m workId := by
  cases released : Manager.sysReleaseUnit zmqSFormat (uninit m).1 workId m with
  | none =>
    have after : ((managerSys uninit).releaseUnit workId m).2 = (m.erase workId).erase (outPortKey workId) := by
      simp only [managerSys, rpcReleaseUnit, released, Option.bind_eq_bind, Option.bind_none]
    rw [after]
    refine ⟨⟨inRange.counter, inRange.ports⟩, fun read => ?_, fun u read => rfl⟩
    rw [Manager.sysReleaseUnit, read] at released
    cases released
  | some result =>
    obtain ⟨ret, m'⟩ := result
    have after : ((managerSys uninit).releaseUnit workId m).2 = m' := by
      simp only [managerSys, rpcReleaseUnit, released, Option.bind_eq_bind, Option.bind_some]
    rw [after]
    refine ⟨inRange.released released, fun read => sysReleaseUnit_none read released, fun u read => ?_⟩
    obtain ⟨marks, rfl, -⟩ := sysReleaseUnit_frame read released
    rfl

/-- A release takes out the unit under its key. -/
theorem managerSys_releases (inRange : m.InRange) (derived : ∀ key, m.readUnit (outPortKey key) = none)
    (workId : Bytes) :
    ((managerSys uninit).releaseUnit workId m).2.InRange ∧
      ∀ key, ((managerSys uninit).releaseUnit workId m).2.readUnit key =
        if key = workId then none else m.readUnit key := by
  obtain ⟨inRangeAfter, unregistered, registered⟩ := managerSys_releaseUnit uninit inRange workId
  refine ⟨inRangeAfter, fun key => ?_⟩
  cases read : m.readUnit workId with
  | none =>
    rw [unregistered read]
    split
    · next same => rw [same, read]
    · rfl
  | some u => exact readUnit_released (registered u read) (derived _) key

/-- The same of whether there is a unit. -/
theorem managerSys_release (inRange : m.InRange) (derived : ∀ key, m.readUnit (outPortKey key) = none)
    (workId : Bytes) :
    ((managerSys uninit).releaseUnit workId m).2.InRange ∧
      ∀ key, (((managerSys uninit).releaseUnit workId m).2.readUnit key).isSome =
        (decide (key ≠ workId) && (m.readUnit key).isSome) := by
  obtain ⟨inRangeAfter, units⟩ := managerSys_releases uninit inRange derived workId
  refine ⟨inRangeAfter, fun key => ?_⟩
  rw [units]
  by_cases same : key = workId
  · simp [same]
  · simp [same]

end

/-! ## One event -/

/-- The node and the registry have the sessions they had. -/
structure SameSessions (before after : StackFlow × Registry) : Prop where
  tasks : after.1.tasks = before.1.tasks
  channels : ∀ number, (after.1.llmTaskChannel number).isSome = (before.1.llmTaskChannel number).isSome
  units : ∀ key, (after.2.readUnit key).isSome = (before.2.readUnit key).isSome

theorem SameSessions.of_receive {node : StackFlow} {m : Registry} {after : StackFlow × Registry}
    {zmqUrl data : Bytes} (same : SameSessions (node.receive zmqUrl data, m) after) : SameSessions (node, m) after :=
  ⟨same.tasks, same.channels, same.units⟩

section
variable {kind : Kind} {node after : StackFlow} {m m' : Registry} (consistent : Consistent kind (node, m))

include consistent

/-- The tables may be written to and the registry's ports change hands, if the sessions stay. -/
theorem Consistent.of_same (kept : after.kind = node.kind) (status : after.status = node.status)
    (maxSessions : after.maxSessions = node.maxSessions) (inRange : m'.InRange)
    (same : SameSessions (node, m) (after, m')) : Consistent kind (after, m') where
  listening := ⟨kept.trans consistent.listening.kind, status ▸ consistent.listening.status⟩
  inRange := inRange
  channels number := by rw [same.channels, same.tasks]; exact consistent.channels number
  units key := by rw [same.units, same.tasks]; exact consistent.units key
  bounded := by rw [same.tasks, show after.maxSessions = _ from maxSessions]; exact consistent.bounded
  fits := by rw [same.tasks]; exact consistent.fits

theorem Consistent.receive (zmqUrl data : Bytes) : Consistent kind (node.receive zmqUrl data, m) :=
  ⟨⟨consistent.listening.kind, consistent.listening.status⟩, consistent.inRange, consistent.channels,
    consistent.units, consistent.bounded, consistent.fits⟩

variable {uninit : Registry → Int × Int} (fits : ∀ m, IsInt32 (uninit m).1) {zmqUrl raw : Bytes}
  (requestValid : Utf8.Valid node.requestId)

theorem Consistent.fresh {number : Int} (absent : number ∉ node.tasks) :
    (node.llmTaskChannel number).isSome = false ∧
      (m.readUnit (sampleGetWorkId number node.kind.unitName)).isSome = false := by
  have agree := consistent.agree
  exact ⟨Bool.eq_false_iff.mpr fun there => absent ((agree.channels number).mp there),
    Bool.eq_false_iff.mpr fun there => absent ((agree.units number).mp there)⟩

include fits requestValid in
/-- A set up adds one session to all three tables, or leaves them be. -/
theorem Consistent.setup {chance : Chance} (absent : m.workIdNumberCounter ∉ node.tasks)
    (done : node.setup (managerSys uninit) chance zmqUrl raw m = .ok (after, m')) :
    Consistent kind (after, m') ∧ (Refuses chance.ready node → SameSessions (node, m) (after, m')) := by
  have kept : node.kind = kind := consistent.listening.kind
  subst kept
  obtain ⟨outputUrl, inferenceUrl, registered, short, answer, inRange, units⟩ :=
    managerSys_register uninit node.kind consistent.inRange fits consistent.derived
  obtain ⟨channel, _, _, done', refused, accepted⟩ :=
    setup_answered consistent.inRange.counter short answer requestValid chance zmqUrl raw
  rw [done] at done'
  cases done'
  obtain ⟨noChannel, noUnit⟩ := consistent.fresh absent
  by_cases refuses : Refuses chance.ready node
  · -- the unit that was registered is released again
    obtain ⟨sameTables, rfl⟩ := refused refuses
    have derived : ∀ key, registered.readUnit (outPortKey key) = none := by
      intro key
      have other : outPortKey key ≠ sampleGetWorkId m.workIdNumberCounter node.kind.unitName :=
        outPortKey_ne_workId _ _ _
      rw [← Option.not_isSome_iff_eq_none, units, consistent.derived key]
      simp [other]
    obtain ⟨inRangeAfter, unitsAfter⟩ := managerSys_release uninit inRange derived
      (sampleGetWorkId m.workIdNumberCounter node.kind.unitName)
    have same : SameSessions (node, m) (after, ((managerSys uninit).releaseUnit
        (sampleGetWorkId m.workIdNumberCounter node.kind.unitName) registered).2) := by
      refine ⟨sameTables.tasks, fun number => ?_, fun key => ?_⟩
      · rw [sameTables.hasChannel, dropChannel_open]
        by_cases isNew : number = m.workIdNumberCounter
        · simp [isNew, noChannel]
        · simp [isNew, StackFlow.putChannel]
      · rw [unitsAfter, units]
        by_cases isNew : key = sampleGetWorkId m.workIdNumberCounter node.kind.unitName
        · simp [isNew, noUnit]
        · simp [isNew]
    exact ⟨consistent.of_same sameTables.kind sameTables.status sameTables.maxSessions inRangeAfter same,
      fun _ => same⟩
  · -- the new number goes into all three tables
    obtain ⟨rfl, sameTables⟩ := accepted refuses
    have room : node.tasks.card < node.maxSessions := Nat.lt_of_not_le fun full => refuses (.inl full)
    have tasks : after.tasks = insert m.workIdNumberCounter node.tasks := sameTables.tasks
    refine ⟨⟨⟨sameTables.kind, sameTables.status ▸ consistent.listening.status⟩, inRange, fun number => ?_,
      fun key => ?_, ?_, ?_⟩, fun refused => absurd refused refuses⟩
    · rw [sameTables.hasChannel, tasks, Finset.mem_insert]
      by_cases isNew : number = m.workIdNumberCounter
      · simp [isNew, StackFlow.putChannel]
      · simpa [isNew, StackFlow.putChannel] using consistent.channels number
    · rw [units, tasks, Bool.or_eq_true, decide_eq_true_eq, consistent.units key]
      simp only [Finset.mem_insert, exists_eq_or_imp]
    · have limit : after.maxSessions = node.maxSessions := sameTables.maxSessions
      rw [tasks, Finset.card_insert_of_notMem absent, limit]
      exact room
    · rw [tasks]
      intro number member
      obtain rfl | old := Finset.mem_insert.mp member
      · exact consistent.inRange.counter
      · exact consistent.fits number old

include requestValid in
/-- An exit takes one session out of all three tables when it is spelled as its set up was, or
leaves them be. -/
theorem Consistent.exit (rawValid : Utf8.Valid raw)
    (spelled : ∀ number ∈ node.tasks, workIdNum (sampleJsonStrGet raw (ascii "work_id")) = .ok number →
      sampleJsonStrGet raw (ascii "work_id") = sampleGetWorkId number node.kind.unitName)
    (done : node.exit (managerSys uninit) zmqUrl raw m = .ok (after, m')) :
    Consistent kind (after, m') ∧
      ((∀ number, workIdNum (sampleJsonStrGet raw (ascii "work_id")) = .ok number → number ∉ node.tasks) →
        SameSessions (node, m) (after, m')) := by
  have kept : node.kind = kind := consistent.listening.kind
  subst kept
  have workValid := sampleJsonStrGet_valid rawValid (ascii "work_id")
  obtain ⟨number, read, alive⟩ := (exit_survives_iff requestValid rawValid m).mp ⟨_, done⟩
  by_cases present : number ∈ node.tasks
  · rw [if_pos present] at alive
    obtain ⟨stopped, done', sameTables⟩ :=
      exit_present (managerSys uninit) rfl zmqUrl m read requestValid workValid present alive
    have spelling := spelled number present read
    have release : releasedBy node.kind (sampleJsonStrGet raw (ascii "work_id")) number =
        (sampleGetWorkId number node.kind.unitName, number) := by
      rw [releasedBy, spelling, if_neg (sampleGetWorkId_ne_nil _ _)]
    rw [done, release] at done'
    cases done'
    obtain ⟨inRangeAfter, unitsAfter⟩ := managerSys_release uninit consistent.inRange consistent.derived
      (sampleGetWorkId number node.kind.unitName)
    have tasks : (stopped.dropChannel number).tasks = node.tasks.erase number := sameTables.tasks
    refine ⟨⟨⟨sameTables.kind, ?_⟩, inRangeAfter, fun other => ?_, fun key => ?_, ?_, ?_⟩,
      fun rejected => absurd present (rejected number read)⟩
    · have status : (stopped.dropChannel number).status = node.status := sameTables.status
      rw [status]
      exact consistent.listening.status
    · -- the number leaves the channels as it leaves the tasks
      rw [dropChannel_open, sameTables.hasChannel, tasks, Bool.and_eq_true, decide_eq_true_eq, Finset.mem_erase,
        consistent.channels other]
    · -- and the key that is released is that of this number only
      rw [unitsAfter, tasks, Bool.and_eq_true, decide_eq_true_eq, consistent.units key]
      constructor
      · rintro ⟨other, live, member, rfl⟩
        exact ⟨live, Finset.mem_erase.mpr ⟨fun same => other (same ▸ rfl), member⟩, rfl⟩
      · rintro ⟨live, member, rfl⟩
        obtain ⟨different, member⟩ := Finset.mem_erase.mp member
        exact ⟨fun same => different (sampleGetWorkId_injective same), live, member, rfl⟩
    · have limit : (stopped.dropChannel number).maxSessions = node.maxSessions := sameTables.maxSessions
      rw [tasks, limit]
      exact (Finset.card_le_card (Finset.erase_subset _ _)).trans consistent.bounded
    · rw [tasks]
      exact fun other member => consistent.fits other (Finset.mem_of_mem_erase member)
  · rw [if_neg present] at alive
    have refused := exit_absent (managerSys uninit) rfl zmqUrl m read requestValid workValid present
    rw [if_neg alive] at refused
    obtain ⟨_, done', sameTables⟩ := refused
    rw [done] at done'
    cases done'
    have same : SameSessions (node, m) (after, m) := ⟨sameTables.tasks, sameTables.hasChannel, fun _ => rfl⟩
    exact ⟨consistent.of_same sameTables.kind sameTables.status sameTables.maxSessions consistent.inRange same,
      fun _ => same⟩

end

/-! ## Runs -/

/-- One completed event keeps the three tables together; a rejected one changes none of them. -/
theorem Consistent.next {kind : Kind} {uninit : Registry → Int × Int} (fits : ∀ m, IsInt32 (uninit m).1)
    {state after : StackFlow × Registry} {call : Call} (consistent : Consistent kind state)
    (spelled : Spelled state call) (taken : evenLoop (managerSys uninit) state call = some after) :
    Consistent kind after ∧ (Rejected state call → SameSessions state after) := by
  obtain ⟨node, m⟩ := state
  obtain ⟨afterNode, m'⟩ := after
  obtain ⟨event, msg, chance⟩ := call
  obtain ⟨⟨zmqUrl, raw, framed, short, rawValid⟩, spelling⟩ := spelled
  simp only at framed
  subst framed
  have requestValid : Utf8.Valid (node.receive zmqUrl raw).requestId :=
    sampleJsonStrGet_valid rawValid (ascii "request_id")
  have done : node.listen (managerSys uninit) event (setParam zmqUrl raw) chance m = .ok (afterNode, m') := by
    cases result : node.listen (managerSys uninit) event (setParam zmqUrl raw) chance m with
    | error fault => rw [evenLoop, result] at taken; cases taken
    | ok value => rw [evenLoop, result] at taken; cases taken; rfl
  have received := consistent.receive zmqUrl raw
  -- `pause` ends the node, so there is nothing to keep behind it
  cases event with
  | setup =>
    rw [listen_of_unpack _ (unpack_setParam LocalEvent.noConfusion short raw) consistent.listening.status] at done
    simp only [StackFlow.handle] at done
    have absent : m.workIdNumberCounter ∉ (node.receive zmqUrl raw).tasks := spelling
    have result := received.setup fits requestValid absent done
    exact ⟨result.1, fun rejected => (result.2 rejected).of_receive⟩
  | exit =>
    rw [listen_of_unpack _ (unpack_setParam LocalEvent.noConfusion short raw) consistent.listening.status] at done
    simp only [Call.workId, raw_setParam short] at spelling
    simp only [StackFlow.handle] at done
    have spelledHere : ∀ number ∈ (node.receive zmqUrl raw).tasks,
        workIdNum (sampleJsonStrGet raw (ascii "work_id")) = .ok number →
          sampleJsonStrGet raw (ascii "work_id") =
            sampleGetWorkId number (node.receive zmqUrl raw).kind.unitName := spelling
    have result := received.exit requestValid rawValid spelledHere done
    refine ⟨result.1, fun rejected => (result.2 ?_).of_receive⟩
    simp only [Rejected, Call.workId, raw_setParam short] at rejected
    exact rejected
  | pause =>
    rw [listen_of_unpack _ (unpack_pause short raw) consistent.listening.status] at done
    cases done
  | taskinfo =>
    rw [listen_of_unpack _ (unpack_setParam LocalEvent.noConfusion short raw) consistent.listening.status] at done
    obtain ⟨_, done', sameTables⟩ := taskinfo_survives zmqUrl requestValid rawValid
    simp only [StackFlow.handle, done', Except.map, Except.ok.injEq, Prod.mk.injEq] at done
    obtain ⟨rfl, rfl⟩ := done
    have same : SameSessions (node, m) (_, m) := ⟨sameTables.tasks, sameTables.hasChannel, fun _ => rfl⟩
    exact ⟨consistent.of_same sameTables.kind sameTables.status sameTables.maxSessions consistent.inRange same,
      fun _ => same⟩

theorem consistent_started {kind : Kind} {maxSessions : Nat} {speakerCount : Int} {uninit : Int} {config : Config}
    {m : Registry} (inRange : m.InRange) (started : remoteServerWork uninit config = some m) :
    Consistent kind (.started kind maxSessions speakerCount, m) := by
  have noUnit : ∀ key, m.readUnit key = none := by
    intro key
    have sql : m.keySql = config.keySql := by
      unfold remoteServerWork at started
      simp only at started
      split at started
      · cases started
      · cases started; rfl
    unfold Registry.readUnit
    rw [sql]
    split
    · next u found => exact absurd found (config.noUnit key u)
    · rfl
  exact ⟨⟨rfl, Int.one_ne_zero⟩, inRange, by simp [StackFlow.started], by simp [noUnit, StackFlow.started],
    Nat.zero_le _, by simp [StackFlow.started]⟩

/-- Along a run of spelled events the node and unit-manager know of the same sessions, and an
event that is rejected leaves them as they were. -/
theorem reaches_agree {kind : Kind} {maxSessions : Nat} {speakerCount portListEnd : Int}
    {uninit : Registry → Int × Int} {config : Config} {start : Registry} {state : StackFlow × Registry}
    (fits : ∀ m, IsInt32 (uninit m).1) (endFits : IsInt32 portListEnd)
    (ints : ∀ key n, config.keySql key = some (.int n) → IsInt32 n)
    (started : remoteServerWork portListEnd config = some start)
    (run : Reaches (evenLoop (managerSys uninit)) Spelled (.started kind maxSessions speakerCount, start) state) :
    Agree state ∧ ∀ call after, Spelled state call → Rejected state call →
      evenLoop (managerSys uninit) state call = some after → SameSessions state after := by
  have consistent : Consistent kind state := by
    refine run.invariant (Consistent kind) ?_ ?_
    · exact consistent_started (remoteServerWork_inRange endFits ints started) started
    · intro state call after consistent spelled taken
      exact (consistent.next fits spelled taken).1
  exact ⟨consistent.agree, fun call after spelled rejected taken =>
    (consistent.next fits spelled taken).2 rejected⟩

/-- The registry of the shipped configuration. -/
def shippedRegistry : Registry := ⟨0, 5010, List.replicate 545 false, masterConfig.keySql⟩

theorem shippedRegistry_started : remoteServerWork 0 masterConfig = some shippedRegistry := rfl

theorem masterConfig_ints (key : Bytes) (n : Int) (found : masterConfig.keySql key = some (.int n)) : IsInt32 n := by
  simp only [masterConfig] at found
  repeat' split at found
  all_goals first | (cases found; decide) | cases found

theorem framed_fromSession {request : String} (event : LocalEvent)
    (isAscii : ∀ b ∈ ascii request, Utf8.IsAscii b) : Framed (fromSession request event) :=
  ⟨ascii "ipc:///tmp/llm/8000.sock", ascii request, rfl, by decide, Utf8.valid_ascii isAscii⟩

theorem reaches_agree_asr : ∃ state : StackFlow × Registry, 0 ∈ state.1.tasks ∧ Agree state := by
  have ran : (evenLoop (managerSys fun _ => (0, 0)) (.started .asr 8 0, shippedRegistry)
      (fromSession setupRequest .setup)).map (fun after => decide (0 ∈ after.1.tasks)) = some true := by
    decide +kernel
  obtain ⟨after, taken, live⟩ := Option.map_eq_some_iff.mp ran
  have spelled : Spelled (.started .asr 8 0, shippedRegistry) (fromSession setupRequest .setup) :=
    ⟨framed_fromSession .setup (by decide +kernel), Finset.notMem_empty _⟩
  exact ⟨after, of_decide_eq_true live,
    (reaches_agree (fun _ => by decide) (by decide) masterConfig_ints shippedRegistry_started
      (Reaches.start.next spelled taken)).1⟩

def exitRequest : String := "\x7b\"request_id\":\"4\",\"work_id\":\"asr.0abc\",\"action\":\"exit\"\x7d"

/-- An exit whose work id only begins with a live number ends the session on the node alone. -/
theorem exit_misspelled : ∃ state, follow (evenLoop (managerSys fun _ => (0, 0))) (.started .asr 8 0, shippedRegistry)
    [fromSession setupRequest .setup, fromSession exitRequest .exit] = some state ∧ ¬ Agree state := by
  have ran : (follow (evenLoop (managerSys fun _ => (0, 0))) (.started .asr 8 0, shippedRegistry)
      [fromSession setupRequest .setup, fromSession exitRequest .exit]).map (fun state =>
        (decide (0 ∈ state.1.tasks), (state.2.readUnit (sampleGetWorkId 0 state.1.kind.unitName)).isSome)) =
      some (false, true) := by
    decide +kernel
  obtain ⟨state, taken, result⟩ := Option.map_eq_some_iff.mp ran
  simp only [Prod.mk.injEq, decide_eq_false_iff_not] at result
  exact ⟨state, taken, fun agree => result.1 ((agree.units 0).mp result.2)⟩

end EdgeFlow.System
