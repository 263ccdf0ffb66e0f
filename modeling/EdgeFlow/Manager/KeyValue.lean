import EdgeFlow.Manager.Rpc
import EdgeFlow.Manager.Urls
import EdgeFlow.Node.Scanner

/-! All RPCs of unit-manager: the units share `key_sql` with the keys and values
that its callers set.
-/

set_option autoImplicit false

namespace EdgeFlow.Manager
open Library Library.Printf Library.Decimal Comm Node

def sysSqlSelect (key : Bytes) (m : Registry) : Bytes :=
  match m.keySql key with
  | some (.text out) => out
  | _ => []

def sysSqlSet (key val : Bytes) (m : Registry) : Registry := m.set key (.text val)

def sysSqlUnset (key : Bytes) (m : Registry) : Registry := m.erase key

def rpcSqlSelect (raw : Bytes) (m : Registry) : Bytes := sysSqlSelect raw m

def rpcSqlSet (raw : Bytes) (m : Registry) : Bytes × Registry :=
  let key := sampleJsonStrGet raw (ascii "key")
  let val := sampleJsonStrGet raw (ascii "val")
  if key = [] then (ascii "False", m) else (ascii "Success", sysSqlSet key val m)

def rpcSqlUnset (raw : Bytes) (m : Registry) : Bytes × Registry := (ascii "Success", sysSqlUnset raw m)

/-- The actions that `remote_server_work` registers, with what they are called with. -/
inductive ManagerCall where
  | sqlSelect (raw : Bytes)
  | registerUnit (raw : Bytes) (uninit : Int × Int)
  | releaseUnit (raw : Bytes) (uninit : Int)
  | sqlSet (raw : Bytes)
  | sqlUnset (raw : Bytes)

def managerStep (format : IntFormat) (m : Registry) : ManagerCall → Option Registry
  | .sqlSelect _ => some m
  | .registerUnit raw uninit => (rpcAllocateUnit format uninit raw m).map Prod.snd
  | .releaseUnit raw uninit => (rpcReleaseUnit format uninit raw m).map Prod.snd
  | .sqlSet raw => some (rpcSqlSet raw m).2
  | .sqlUnset raw => some (rpcSqlUnset raw m).2

theorem readUnit_iff {m : Registry} {key : Bytes} {unit : UnitData} :
    m.readUnit key = some unit ↔ m.keySql key = some (.unit unit) := by
  unfold Registry.readUnit
  constructor
  · intro read
    split at read
    · next u found =>
      cases read
      exact found
    · cases read
  · intro found
    rw [found]

theorem managerStep_registerUnit {format : IntFormat} {m m' : Registry} {raw : Bytes} {uninit : Int × Int}
    (taken : managerStep format m (.registerUnit raw uninit) = some m') :
    ∃ u, sysAllocateUnit format uninit raw m = some (u, m') := by
  simp only [managerStep, rpcAllocateUnit, Option.bind_eq_bind, Option.map_eq_some_iff,
    Option.bind_eq_some_iff] at taken
  obtain ⟨⟨reply, after⟩, ⟨⟨u, allocated⟩, found, same⟩, rfl⟩ := taken
  cases same
  exact ⟨u, found⟩

theorem managerStep_releaseUnit {format : IntFormat} {m m' : Registry} {raw : Bytes} {uninit : Int}
    (taken : managerStep format m (.releaseUnit raw uninit) = some m') :
    ∃ ret, sysReleaseUnit format uninit raw m = some (ret, m') := by
  simp only [managerStep, rpcReleaseUnit, Option.bind_eq_bind, Option.map_eq_some_iff,
    Option.bind_eq_some_iff] at taken
  obtain ⟨⟨reply, after⟩, ⟨⟨ret, released⟩, found, same⟩, rfl⟩ := taken
  cases same
  exact ⟨ret, found⟩

/-! ## One key -/

@[simp] theorem sysSqlSelect_set (key val : Bytes) (m : Registry) : sysSqlSelect key (sysSqlSet key val m) = val := by
  simp [sysSqlSelect, sysSqlSet, Registry.set]

theorem sysSqlSelect_set_of_ne {key other : Bytes} (different : other ≠ key) (val : Bytes) (m : Registry) :
    sysSqlSelect other (sysSqlSet key val m) = sysSqlSelect other m := by
  simp [sysSqlSelect, sysSqlSet, Registry.set, Function.update_of_ne different]

theorem rpcSqlSet_stores {raw : Bytes} (nonempty : sampleJsonStrGet raw (ascii "key") ≠ []) (m : Registry) :
    (rpcSqlSet raw m).2 = sysSqlSet (sampleJsonStrGet raw (ascii "key")) (sampleJsonStrGet raw (ascii "val")) m := by
  rw [rpcSqlSet, if_neg nonempty]

/-- The call sets the key or takes it out. -/
def Writes (key : Bytes) (m : Registry) : ManagerCall → Prop
  | .sqlSelect _ => False
  | .registerUnit raw _ =>
    key = raw ++ ascii "." ++ ofInt m.workIdNumberCounter ∨
      key = outPortKey (raw ++ ascii "." ++ ofInt m.workIdNumberCounter)
  | .releaseUnit raw _ => (m.readUnit raw).isSome = true ∧ (key = raw ∨ key = outPortKey raw)
  | .sqlSet raw => key = sampleJsonStrGet raw (ascii "key")
  | .sqlUnset raw => key = raw

theorem managerStep_keySql {format : IntFormat} {key : Bytes} {m m' : Registry} {call : ManagerCall}
    (unwritten : ¬ Writes key m call) (taken : managerStep format m call = some m') : m'.keySql key = m.keySql key := by
  cases call with
  | sqlSelect raw => cases taken; rfl
  | registerUnit raw uninit =>
    obtain ⟨notWorkId, notOutPort⟩ := not_or.mp unwritten
    obtain ⟨u, allocated⟩ := managerStep_registerUnit taken
    obtain ⟨workId, -, rfl⟩ := sysAllocateUnit_some allocated
    rw [← workId] at notWorkId notOutPort
    change Function.update (Function.update m.keySql u.workId _) (outPortKey u.workId) _ key = _
    rw [Function.update_of_ne notOutPort, Function.update_of_ne notWorkId]
  | releaseUnit raw uninit =>
    obtain ⟨ret, released⟩ := managerStep_releaseUnit taken
    cases read : m.readUnit raw with
    | none => rw [sysReleaseUnit_none read released]
    | some u =>
      have others := not_and.mp unwritten (by rw [read]; rfl)
      obtain ⟨notOwn, notDerived⟩ := not_or.mp others
      obtain ⟨marks, rfl, -⟩ := sysReleaseUnit_frame read released
      change releasedSql m raw key = m.keySql key
      rw [releasedSql, Function.update_of_ne notDerived, Function.update_of_ne notOwn]
  | sqlSet raw =>
    cases taken
    unfold rpcSqlSet
    extract_lets name val
    split
    · rfl
    · exact Function.update_of_ne unwritten _ _
  | sqlUnset raw =>
    cases taken
    exact Function.update_of_ne unwritten _ _

/-! ## Registered units -/

/-- Two free slots are the ports of a registration. -/
theorem takenPort_two {m : Registry} (two : 2 ≤ m.portList.count false) (uninit : Int × Int) :
    ∃ i j : Nat, m.portList[i]? = some false ∧ (m.portList.set i true)[j]? = some false ∧
      takenPort uninit m .output = m.portListStart + i ∧ takenPort uninit m .inference = m.portListStart + j ∧
      (takePort uninit.2 (takePort uninit.1 m).2).2 = { m with portList := (m.portList.set i true).set j true } := by
  obtain ⟨i, iFree, first⟩ := takePort_free uninit.1 m (by omega)
  let after : Registry := { m with portList := m.portList.set i true }
  have left : 0 < after.portList.count false := by
    have := Slots.count_false_set iFree
    change 0 < (m.portList.set i true).count false
    omega
  obtain ⟨j, jFree, second⟩ := takePort_free uninit.2 after left
  refine ⟨i, j, iFree, jFree, ?_, ?_, ?_⟩
  · rw [takenPort, first]
  · rw [takenPort, first]
    exact congrArg Prod.fst second
  · rw [first]
    exact congrArg Prod.snd second

/-- A unit with the ports it was given. -/
structure Held where
  unit : UnitData
  ports : Endpoint → Int

/-- A registry, and the units that were registered and have not been released. -/
structure Registrations where
  registry : Registry
  live : List Held

namespace Registrations

def record (format : IntFormat) (registrations : Registrations) : ManagerCall → List Held
  | .registerUnit raw uninit =>
    match sysAllocateUnit format uninit raw registrations.registry with
    | some (unit, _) => registrations.live ++ [⟨unit, takenPort uninit registrations.registry⟩]
    | none => registrations.live
  | .releaseUnit raw _ => registrations.live.filter (·.unit.workId ≠ raw)
  | .sqlSelect _ | .sqlSet _ | .sqlUnset _ => registrations.live

def step (format : IntFormat) (registrations : Registrations) (call : ManagerCall) : Option Registrations :=
  (managerStep format registrations.registry call).map fun registry => ⟨registry, registrations.record format call⟩

/-- The key is none that the registration of a unit set. -/
def Foreign (registrations : Registrations) (key : Bytes) : Prop :=
  ∀ held ∈ registrations.live, key ≠ held.unit.workId ∧ key ≠ outPortKey held.unit.workId

instance (registrations : Registrations) (key : Bytes) : Decidable (Foreign registrations key) :=
  inferInstanceAs (Decidable (∀ held ∈ registrations.live, _ ∧ _))

/-- Keys of registered units are not set, unset or given out again, and a registration finds two free slots. -/
def Respects (registrations : Registrations) : ManagerCall → Prop
  | .sqlSet raw => registrations.Foreign (sampleJsonStrGet raw (ascii "key"))
  | .sqlUnset raw => registrations.Foreign raw
  | .registerUnit raw _ =>
    2 ≤ registrations.registry.portList.count false ∧
      registrations.Foreign (raw ++ ascii "." ++ ofInt registrations.registry.workIdNumberCounter)
  | _ => True

instance (registrations : Registrations) : (call : ManagerCall) → Decidable (Respects registrations call)
  | .sqlSet _ => inferInstanceAs (Decidable (Foreign ..))
  | .sqlUnset _ => inferInstanceAs (Decidable (Foreign ..))
  | .registerUnit _ _ => inferInstanceAs (Decidable (_ ∧ Foreign ..))
  | .sqlSelect _ | .releaseUnit _ _ => isTrue trivial

/-- A registered unit, and its URL, under the keys of its registration; its ports are those of slots. -/
structure Filed (format : IntFormat) (m : Registry) (held : Held) : Prop where
  unit : m.keySql held.unit.workId = some (.unit held.unit)
  outPort : m.keySql (outPortKey held.unit.workId) = some (.text held.unit.outputUrl)
  ports : ∀ endpoint, embeddedPort format (held.unit.url endpoint) = some (held.ports endpoint)
  slots : ∀ endpoint, ∃ slot : Nat, slot < m.portList.length ∧ held.ports endpoint = m.portListStart + slot
  named : ∃ (name : Bytes) (number : Int), held.unit.workId = name ++ ascii "." ++ ofInt number

structure Sound (format : IntFormat) (registrations : Registrations) : Prop where
  filed : ∀ held ∈ registrations.live, Filed format registrations.registry held
  nothingElse : ∀ key unit, registrations.registry.readUnit key = some unit →
    ∃ held ∈ registrations.live, held.unit = unit ∧ held.unit.workId = key

variable {format : IntFormat} {registrations after : Registrations}

/-- A key that no registered unit has may be changed to anything but a unit. -/
theorem Filed.update {m : Registry} {held : Held} (filed : Filed format m held) {key : Bytes}
    (notOwn : key ≠ held.unit.workId) (notOutPort : key ≠ outPortKey held.unit.workId) (value : Option SqlValue) :
    Filed format { m with keySql := Function.update m.keySql key value } held where
  unit := by
    simp only [Function.update_of_ne notOwn.symm]
    exact filed.unit
  outPort := by
    simp only [Function.update_of_ne notOutPort.symm]
    exact filed.outPort
  ports := filed.ports
  slots := filed.slots
  named := filed.named

/-- What is filed depends on `key_sql` and the place of the bitmap alone. -/
theorem Filed.congr {m m' : Registry} {held : Held} (filed : Filed format m held) (same : m'.keySql = m.keySql)
    (start : m'.portListStart = m.portListStart) (length : m'.portList.length = m.portList.length) :
    Filed format m' held where
  unit := by rw [same]; exact filed.unit
  outPort := by rw [same]; exact filed.outPort
  ports := filed.ports
  slots := by rw [start, length]; exact filed.slots
  named := filed.named

/-- A key that is none of a registered unit is set to a text or erased. -/
theorem Sound.update (sound : Sound format registrations) {key : Bytes} (foreign : registrations.Foreign key)
    {value : Option SqlValue} (noUnit : ∀ unit, value ≠ some (.unit unit)) :
    Sound format ⟨{ registrations.registry with keySql := Function.update registrations.registry.keySql key value },
      registrations.live⟩ where
  filed held member := (sound.filed held member).update (foreign held member).1 (foreign held member).2 value
  nothingElse other unit read := by
    rw [readUnit_iff] at read
    by_cases same : other = key
    · subst same
      exact absurd ((Function.update_self other value registrations.registry.keySql).symm.trans read) (noUnit unit)
    · exact sound.nothingElse other unit (readUnit_iff.mpr
        ((Function.update_of_ne same value registrations.registry.keySql).symm.trans read))

theorem Sound.registerUnit (sound : Sound format registrations) {raw : Bytes} {uninit : Int × Int}
    (respects : registrations.Respects (.registerUnit raw uninit)) {unit : UnitData} {m : Registry}
    (allocated : sysAllocateUnit format uninit raw registrations.registry = some (unit, m)) :
    Sound format ⟨m, registrations.live ++ [⟨unit, takenPort uninit registrations.registry⟩]⟩ := by
  obtain ⟨two, foreign⟩ := respects
  obtain ⟨workId, urls, registry⟩ := sysAllocateUnit_some allocated
  obtain ⟨i, j, iFree, jFree, output, inference, marked⟩ := takenPort_two two uninit
  rw [marked] at registry
  have sql : m.keySql = registeredSql registrations.registry unit := by rw [registry]; rfl
  have start : m.portListStart = registrations.registry.portListStart := by rw [registry]
  have length : m.portList.length = registrations.registry.portList.length := by
    rw [registry, List.length_set, List.length_set]
  clear registry marked
  have iBound := (List.getElem?_eq_some_iff.mp iFree).1
  have jBound := (List.getElem?_eq_some_iff.mp jFree).1
  rw [List.length_set] at jBound
  have newKey : registrations.Foreign unit.workId := workId ▸ foreign
  have ownKeys := outPortKey_ne unit.workId
  constructor
  · intro held member
    rcases List.mem_append.mp member with member | last
    · have filed := sound.filed held member
      obtain ⟨name, number, named⟩ := filed.named
      have notWorkId : unit.workId ≠ held.unit.workId := (newKey held member).1
      have notOutPort : outPortKey unit.workId ≠ held.unit.workId := by
        rw [named]
        exact outPortKey_ne_workId _ name number
      have others : outPortKey unit.workId ≠ outPortKey held.unit.workId := fun same => notWorkId (outPortKey_inj same)
      exact ((filed.update notWorkId (newKey held member).2 _).update notOutPort others _).congr sql start length
    · rw [List.mem_singleton.mp last]
      exact {
        unit := by rw [sql, registeredSql, Function.update_of_ne ownKeys.symm, Function.update_self]
        outPort := by rw [sql, registeredSql, Function.update_self]
        ports := fun endpoint => zmqUrl_embedded (urls endpoint)
        slots := fun endpoint => by
          rw [start, length]
          cases endpoint with
          | output => exact ⟨i, iBound, output⟩
          | inference => exact ⟨j, jBound, inference⟩
        named := ⟨raw, _, workId⟩ }
  · intro key other read
    rcases readUnit_of_registered sql read with ⟨isNew, rfl⟩ | before
    · exact ⟨_, List.mem_append_right _ (List.mem_singleton.mpr rfl), rfl, isNew.symm⟩
    · obtain ⟨held, member, same⟩ := sound.nothingElse key other before
      exact ⟨held, List.mem_append_left _ member, same⟩

theorem Sound.releaseUnit (sound : Sound format registrations) {raw : Bytes} {uninit ret : Int} {m : Registry}
    (released : sysReleaseUnit format uninit raw registrations.registry = some (ret, m)) :
    Sound format ⟨m, registrations.live.filter (·.unit.workId ≠ raw)⟩ := by
  have isKept {held : Held} (member : held ∈ registrations.live.filter (·.unit.workId ≠ raw)) :
      held ∈ registrations.live ∧ held.unit.workId ≠ raw := by
    simpa using List.mem_filter.mp member
  cases read : registrations.registry.readUnit raw with
  | none =>
    rw [sysReleaseUnit_none read released]
    refine ⟨fun held member => sound.filed held (isKept member).1, fun key unit found => ?_⟩
    obtain ⟨held, member, isUnit, isKey⟩ := sound.nothingElse key unit found
    refine ⟨held, List.mem_filter.mpr ⟨member, ?_⟩, isUnit, isKey⟩
    -- the key that is released reads nothing, so it is not this one
    apply decide_eq_true
    rintro rfl
    rw [← isKey, read] at found
    cases found
  | some unit =>
    obtain ⟨marks, frame, length⟩ := sysReleaseUnit_frame read released
    have sql : m.keySql = releasedSql registrations.registry raw := by rw [frame]
    have start : m.portListStart = registrations.registry.portListStart := by rw [frame]
    have same : m.portList.length = registrations.registry.portList.length := by rw [frame]; exact length
    clear frame
    have here := readUnit_iff.mp read
    constructor
    · intro held member
      obtain ⟨member, others⟩ := isKept member
      have filed := sound.filed held member
      obtain ⟨name, number, named⟩ := filed.named
      have notOutPort : raw ≠ outPortKey held.unit.workId := by
        rintro rfl
        rw [filed.outPort] at here
        cases here
      have derived : outPortKey raw ≠ held.unit.workId := by
        rw [named]
        exact outPortKey_ne_workId _ name number
      have derivedOthers : outPortKey raw ≠ outPortKey held.unit.workId := fun same => others (outPortKey_inj same).symm
      exact ((filed.update others.symm notOutPort none).update derived derivedOthers none).congr sql start same
    · intro key other found
      obtain ⟨isOther, before⟩ := readUnit_of_released sql found
      obtain ⟨held, member, isUnit, isKey⟩ := sound.nothingElse key other before
      exact ⟨held, List.mem_filter.mpr ⟨member, decide_eq_true (isKey ▸ isOther)⟩, isUnit, isKey⟩

theorem Sound.step (sound : Sound format registrations) {call : ManagerCall} (respects : registrations.Respects call)
    (taken : registrations.step format call = some after) : Sound format after := by
  obtain ⟨registry, made, rfl⟩ := Option.map_eq_some_iff.mp taken
  cases call with
  | sqlSelect raw =>
    cases made
    exact sound
  | registerUnit raw uninit =>
    obtain ⟨unit, allocated⟩ := managerStep_registerUnit made
    simp only [record, allocated]
    exact sound.registerUnit respects allocated
  | releaseUnit raw uninit =>
    obtain ⟨ret, released⟩ := managerStep_releaseUnit made
    exact sound.releaseUnit released
  | sqlSet raw =>
    cases made
    unfold rpcSqlSet
    extract_lets key val
    split
    · exact sound
    · exact sound.update respects fun unit => by simp
  | sqlUnset raw =>
    cases made
    exact sound.update respects fun unit => by simp

theorem sound_started {uninit : Int} {config : Config} {start : Registry}
    (started : remoteServerWork uninit config = some start) : Sound format ⟨start, []⟩ where
  filed held member := by cases member
  nothingElse key unit read := by
    rw [(remoteServerWork_empty started).2] at read
    cases read

/-- What is registered is found, answers with its URL and gives its two ports back. -/
structure Kept (format : IntFormat) (registry : Registry) (held : Held) : Prop where
  found : ∀ jsonStr, zmqBusPublisherPush registry held.unit.workId jsonStr = (0, [.published held.unit jsonStr])
  outPort : sysSqlSelect (outPortKey held.unit.workId) registry = held.unit.outputUrl
  released : ∀ uninit, ∃ (slot : Endpoint → Nat) (after : Registry),
    (∀ endpoint, slot endpoint < registry.portList.length ∧
      held.ports endpoint = registry.portListStart + slot endpoint) ∧
    sysReleaseUnit format uninit held.unit.workId registry = some (0, after) ∧
    after.portList = (registry.portList.set (slot .output) false).set (slot .inference) false

theorem Filed.kept {m : Registry} {held : Held} (filed : Filed format m held) : Kept format m held where
  found jsonStr := by
    obtain ⟨name, number, named⟩ := filed.named
    have nonempty : held.unit.workId ≠ [] := by
      rw [named]
      simp [ascii]
    rw [zmqBusPublisherPush, if_neg nonempty, readUnit_iff.mpr filed.unit]
  outPort := by rw [sysSqlSelect, filed.outPort]
  released uninit := by
    choose slot placed using filed.slots
    have output : embeddedPort format held.unit.outputUrl = some (m.portListStart + slot .output) := by
      rw [← (placed .output).2]
      exact filed.ports .output
    have inference : embeddedPort format held.unit.inferenceUrl = some (m.portListStart + slot .inference) := by
      rw [← (placed .inference).2]
      exact filed.ports .inference
    exact ⟨slot, _, placed, sysReleaseUnit_slots (readUnit_iff.mpr filed.unit) output inference (placed .output).1
      (placed .inference).1 uninit, rfl⟩

/-- Where no call sets, unsets or gives out a key of a registered unit, and registrations find two free slots, the units
that are found are those that were registered and not released, and each is kept whole. -/
theorem registrations_kept {uninit : Int} {config : Config} {start : Registry}
    (started : remoteServerWork uninit config = some start)
    (run : Reaches (step format) Respects ⟨start, []⟩ registrations) :
    (∀ key unit, registrations.registry.readUnit key = some unit ↔
      ∃ held ∈ registrations.live, held.unit = unit ∧ held.unit.workId = key) ∧
    ∀ held ∈ registrations.live, Kept format registrations.registry held := by
  have sound : Sound format registrations := by
    apply run.invariant (Sound format) (sound_started started)
    intro registrations call after sound respects taken
    exact sound.step respects taken
  refine ⟨fun key unit => ⟨sound.nothingElse key unit, ?_⟩, fun held member => (sound.filed held member).kept⟩
  rintro ⟨held, member, rfl, rfl⟩
  exact readUnit_iff.mpr (sound.filed held member).unit

/-- A registration, a value under another key, and a value taken out again. -/
theorem registrations_kept_asr : ∃ registrations : Registrations, registrations.live.length = 1 ∧
    ∀ held ∈ registrations.live, Kept zmqSFormat registrations.registry held := by
  let calls : List ManagerCall :=
    [.registerUnit (ascii "asr") (0, 0), .sqlSet (ascii "\x7b\"key\":\"volume\",\"val\":\"7\"\x7d"),
      .sqlUnset (ascii "volume")]
  have started : remoteServerWork 0 masterConfig = some Registry.idle := rfl
  have run : (followAllowed (step zmqSFormat) (fun registrations call => decide (Respects registrations call))
      ⟨.idle, []⟩ calls).map (fun final => final.live.length) = some 1 := by
    decide +kernel
  obtain ⟨final, run, one⟩ := Option.map_eq_some_iff.mp run
  exact ⟨final, one, (registrations_kept started (Reaches.of_decide run)).2⟩

/-- The work id of a registered unit is unset. -/
theorem registration_unset : ¬ ∀ registrations : Registrations,
    Reaches (step zmqSFormat) (fun _ _ => True) ⟨.idle, []⟩ registrations →
      ∀ held ∈ registrations.live, Kept zmqSFormat registrations.registry held := by
  intro all
  let calls : List ManagerCall := [.registerUnit (ascii "asr") (0, 0), .sqlUnset (ascii "asr.0")]
  have run : (follow (step zmqSFormat) ⟨.idle, []⟩ calls).map (fun final => final.live.map fun held =>
      (zmqBusPublisherPush final.registry held.unit.workId []).2.length) = some [0] := by
    decide +kernel
  obtain ⟨final, run, lost⟩ := Option.map_eq_some_iff.mp run
  obtain ⟨held, one, lost⟩ := List.map_eq_singleton_iff.mp lost
  have kept := all final (Reaches.of_follow run) held (one ▸ List.mem_singleton.mpr rfl)
  rw [kept.found []] at lost
  cases lost

end Registrations

end EdgeFlow.Manager
