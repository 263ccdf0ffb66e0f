import EdgeFlow.Node.Subscriptions
import EdgeFlow.System.Sessions

/-! The inputs of a node's sessions against the units that unit-manager publishes to. -/

set_option autoImplicit false

namespace EdgeFlow.System
open Library Library.Printf Library.Decimal Comm Manager Node

/-- A unit that is a session of the node publishes to the URL the session listens on. -/
structure Sound (kind : Kind) (state : StackFlow × Registry) : Prop where
  listening : Listening kind state
  inRange : state.2.InRange
  fits : ∀ number ∈ state.1.tasks, IsInt32 number
  units : ∀ key unit, state.2.readUnit key = some unit → key = sampleGetWorkId unit.port kind.unitName ∧
    (unit.port ∈ state.1.tasks → state.1.input unit.port = some ⟨.sub, unit.inferenceUrl⟩)

/-- What an event of the node leaves of the sessions that were there. -/
structure Lasts (event : LocalEvent) (before after : StackFlow) : Prop where
  -- only an exit ends a session
  tasks : event ≠ .exit → ∀ number ∈ before.tasks, number ∈ after.tasks
  stays : event ≠ .exit → ∀ number ∈ before.tasks, after.input number = before.input number
  input : ∀ number ∈ before.tasks, number ∈ after.tasks → after.input number ≠ none →
    after.input number = before.input number

/-! ## The registry -/

section
variable {uninit : Registry → Int × Int} {m : Registry} (inRange : m.InRange)
  (derived : ∀ key, m.readUnit (outPortKey key) = none)

include inRange derived

/-- A registration adds its unit, and the reply carries the unit's number and URLs. -/
theorem managerSys_registers (kind : Kind) (fits : ∀ m, IsInt32 (uninit m).1) :
    ∃ unit after, unit.port = m.workIdNumberCounter ∧ unit.workId = sampleGetWorkId unit.port kind.unitName ∧
      unit.outputUrl.length ≤ maxParam ∧
      (managerSys uninit).registerUnit kind.unitName m =
        (.answered (setParam (ofInt unit.port) (setParam unit.outputUrl unit.inferenceUrl)), after) ∧
      after.InRange ∧ ∀ key, after.readUnit key = if key = unit.workId then some unit else m.readUnit key := by
  have noPercent := percent_notMem_unitName kind
  obtain ⟨unit, after, allocated, port, workId, printed, sql, counter, start, marks⟩ :=
    sysAllocateUnit_sql zmqSFormat (uninit m) noPercent m
  have short : unit.outputUrl.length ≤ maxParam := by
    have length := zmqUrl_length noPercent (takePort_inRange (fits m) inRange.ports) printed
    have name : kind.unitName.length ≤ 64 := by cases kind <;> decide
    have bound : maxParam = 127 := rfl
    omega
  refine ⟨unit, after, port, port ▸ workId, short, ?_, inRange.allocated counter start marks, fun key => ?_⟩
  · simp only [managerSys, rpcAllocateUnit, allocated]
    rfl
  · exact readUnit_registered sql (derived _) key

end

/-! ## The listeners -/

theorem Lasts.of_same {event : LocalEvent} {before after : StackFlow} (same : SameInputs before after) :
    Lasts event before after where
  tasks _ := by rw [same.tasks]; exact fun _ member => member
  stays _ number _ := same.input number
  input number _ _ _ := same.input number

theorem receive_inputs (zmqUrl data : Bytes) (node : StackFlow) : SameInputs node (node.receive zmqUrl data) :=
  ⟨rfl, rfl, rfl, fun _ => rfl⟩

theorem Lasts.of_receive {event : LocalEvent} {node after : StackFlow} {zmqUrl data : Bytes}
    (lasts : Lasts event (node.receive zmqUrl data) after) : Lasts event node after :=
  ⟨lasts.tasks, lasts.stays, lasts.input⟩

section
variable {kind : Kind} {node after : StackFlow} {m m' : Registry} (sound : Sound kind (node, m))

include sound

theorem Sound.derived (key : Bytes) : m.readUnit (outPortKey key) = none := by
  cases read : m.readUnit (outPortKey key) with
  | none => rfl
  | some unit => exact absurd (sound.units _ unit read).1 (outPortKey_ne_workId key kind.unitName unit.port)

theorem Sound.of_same (same : SameInputs node after) : Sound kind (after, m) where
  listening := ⟨same.kind.trans sound.listening.kind, same.status ▸ sound.listening.status⟩
  inRange := sound.inRange
  fits := by rw [same.tasks]; exact sound.fits
  units key unit read := by
    simp only [same.tasks, same.input]
    exact sound.units key unit read

variable {uninit : Registry → Int × Int} {zmqUrl raw : Bytes}

/-- A set up whose number is free leaves the other sessions alone. -/
theorem Sound.setup (fits : ∀ m, IsInt32 (uninit m).1) (absent : m.workIdNumberCounter ∉ node.tasks) {chance : Chance}
    (done : node.setup (managerSys uninit) chance zmqUrl raw m = .ok (after, m')) :
    Sound kind (after, m') ∧ Lasts .setup node after := by
  obtain rfl : node.kind = kind := sound.listening.kind
  obtain ⟨unit, registered, port, workId, short, answer, inRange, units⟩ :=
    managerSys_registers sound.inRange sound.derived node.kind fits
  rw [← port] at absent
  have unitFits : IsInt32 unit.port := port ▸ sound.inRange.counter
  -- a unit of another key is one of the old ones, under another number
  have other {key : Bytes} {unit' : UnitData} (different : key ≠ unit.workId) (read : m.readUnit key = some unit') :
      unit'.port ≠ unit.port := fun same =>
    different ((sound.units key unit' read).1.trans (by rw [same, workId]))
  obtain ⟨kept, status, result⟩ := setup_inputs unitFits short answer done
  rcases result with ⟨rfl, tasks, input⟩ | ⟨rfl, tasks, input⟩
  · refine ⟨⟨⟨kept, status ▸ sound.listening.status⟩, inRange, ?_, fun key unit' read => ?_⟩, ?_⟩
    · rw [tasks]
      intro number member
      rcases Finset.mem_insert.mp member with rfl | old
      · exact unitFits
      · exact sound.fits number old
    · rw [units] at read
      split at read
      · next isNew =>
        obtain rfl : unit = unit' := Option.some.inj read
        exact ⟨isNew.trans workId, fun _ => (input _).trans (if_pos rfl)⟩
      · next different =>
        obtain ⟨spelled, listens⟩ := sound.units key unit' read
        refine ⟨spelled, fun member => ?_⟩
        rw [tasks] at member
        rw [input, if_neg (other different read)]
        exact listens (Finset.mem_of_mem_insert_of_ne member (other different read))
    · have same : ∀ number ∈ node.tasks, after.input number = node.input number := fun number member => by
        rw [input, if_neg fun taken : number = unit.port => absent (taken ▸ member)]
      exact ⟨fun _ number member => by rw [tasks]; exact Finset.mem_insert_of_mem member,
        fun _ => same, fun number member _ _ => same number member⟩
  · have derived : ∀ key, registered.readUnit (outPortKey key) = none := fun key => by
      rw [units, workId]
      exact (if_neg (outPortKey_ne_workId key _ _)).trans (sound.derived key)
    obtain ⟨inRangeAfter, unitsAfter⟩ := managerSys_releases uninit inRange derived
      (sampleGetWorkId unit.port node.kind.unitName)
    have same : ∀ number ∈ node.tasks, after.input number = node.input number := fun number member =>
      input number fun taken => absent (taken ▸ member)
    refine ⟨⟨⟨kept, status ▸ sound.listening.status⟩, inRangeAfter, ?_, fun key unit' read => ?_⟩, ?_⟩
    · rw [tasks]
      exact sound.fits
    · rw [unitsAfter, units, ← workId] at read
      split at read
      · cases read
      · next different =>
        obtain ⟨spelled, listens⟩ := sound.units key unit' read
        refine ⟨spelled, fun member => ?_⟩
        rw [tasks] at member
        rw [same _ member]
        exact listens member
    · exact ⟨fun _ number member => by rw [tasks]; exact member, fun _ => same,
        fun number member _ _ => same number member⟩

/-- An exit ends at most one session, and the unit of any other stays. -/
theorem Sound.exit (done : node.exit (managerSys uninit) zmqUrl raw m = .ok (after, m')) :
    Sound kind (after, m') ∧ Lasts .exit node after := by
  obtain rfl : node.kind = kind := sound.listening.kind
  obtain ⟨kept, status, result⟩ := exit_inputs done
  rcases result with ⟨rfl, same⟩ | ⟨number, read, rfl, tasks, gone, input⟩
  · exact ⟨sound.of_same same, .of_same same⟩
  · generalize sampleJsonStrGet raw (ascii "work_id") = workId at *
    obtain ⟨inRangeAfter, unitsAfter⟩ := managerSys_releases uninit sound.inRange sound.derived
      (releasedBy node.kind workId number).1
    refine ⟨⟨⟨kept, status ▸ sound.listening.status⟩, inRangeAfter, ?_, fun key unit present => ?_⟩, ?_⟩
    · rw [tasks]
      exact fun other member => sound.fits other (Finset.mem_of_mem_erase member)
    · rw [unitsAfter] at present
      split at present
      · cases present
      · next different =>
        obtain ⟨spelled, listens⟩ := sound.units key unit present
        refine ⟨spelled, fun member => ?_⟩
        rw [tasks] at member
        obtain ⟨live, member⟩ := Finset.mem_erase.mp member
        -- the channel that is dropped is the ended session's, or has no unit any more
        have channel : unit.port ≠ (releasedBy node.kind workId number).2 := by
          unfold releasedBy at different ⊢
          split
          · next empty =>
            rw [if_pos empty] at different
            exact fun same => different (spelled.trans (by rw [same]))
          · exact live
        rw [input _ live channel]
        exact listens member
    · refine ⟨fun notExit => absurd rfl notExit, fun notExit => absurd rfl notExit, fun other member live had => ?_⟩
      rw [tasks] at live
      by_cases dropped : other = (releasedBy node.kind workId number).2
      · exact absurd (dropped ▸ gone) had
      · exact input other (Finset.ne_of_mem_erase live) dropped

/-- One turn of the event loop, whatever message it is given. -/
theorem Sound.evenLoop (fits : ∀ m, IsInt32 (uninit m).1) {call : Call}
    (absent : call.event = .setup → m.workIdNumberCounter ∉ node.tasks)
    (taken : Node.evenLoop (managerSys uninit) (node, m) call = some (after, m')) :
    Sound kind (after, m') ∧ Lasts call.event node after := by
  obtain ⟨event, msg, chance⟩ := call
  have done : node.listen (managerSys uninit) event msg chance m = .ok (after, m') := by
    unfold Node.evenLoop at taken
    cases result : node.listen (managerSys uninit) event msg chance m with
    | error fault => simp only [result, Except.toOption, reduceCtorEq] at taken
    | ok value =>
      simp only [result, Except.toOption, Option.some.injEq] at taken
      rw [taken]
  obtain ⟨⟨zmqUrl, data⟩, -, done⟩ := ok_of_bind done
  have received := receive_inputs zmqUrl data node
  have status : ¬ (node.receive zmqUrl data).status = 0 := sound.listening.status
  simp only [if_neg status] at done
  cases event with
  | setup =>
    obtain ⟨soundAfter, lasts⟩ := (sound.of_same received).setup fits (absent rfl) done
    exact ⟨soundAfter, lasts.of_receive⟩
  | exit =>
    obtain ⟨soundAfter, lasts⟩ := (sound.of_same received).exit done
    exact ⟨soundAfter, lasts.of_receive⟩
  | pause =>
    -- what it wants to send is no string
    cases done
  | taskinfo =>
    have listed : ((node.receive zmqUrl data).taskinfo zmqUrl data).map (fun node => (node, m)) =
        .ok (after, m') := done
    cases result : (node.receive zmqUrl data).taskinfo zmqUrl data with
    | error fault => simp only [result, Except.map, reduceCtorEq] at listed
    | ok listedNode =>
      simp only [result, Except.map, Except.ok.injEq, Prod.mk.injEq] at listed
      obtain ⟨rfl, rfl⟩ := listed
      have same := received.trans (taskinfo_inputs result)
      exact ⟨sound.of_same same, .of_same same⟩

end

end EdgeFlow.System
