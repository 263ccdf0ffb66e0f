import EdgeFlow.Library.Run
import EdgeFlow.Library.Slots
import EdgeFlow.Manager.Registry

/-! The port registry over runs of `register_unit` and `release_unit` RPCs: the
marked slots are the ports printed in the URLs of the registered units. -/

set_option autoImplicit false

namespace EdgeFlow.Manager
open Library Library.Printf Library.Decimal

/-! ## Registration and release as steps -/

inductive RegistryCall where
  | register (unit : Bytes) (uninit : Int × Int)
  | release (key : Bytes) (uninit : Int)

def registryStep (format : IntFormat) (m : Registry) : RegistryCall → Option Registry
  | .register unit uninit => (sysAllocateUnit format uninit unit m).map Prod.snd
  | .release key uninit => (sysReleaseUnit format uninit key m).map Prod.snd

/-- Two free slots, a counter that does not wrap, and a name that is no format. -/
def Orderly (m : Registry) : RegistryCall → Prop
  | .register unit _ => 2 ≤ m.portList.count false ∧ IsInt32 (m.workIdNumberCounter + 1) ∧
      Byte.percent ∉ unit
  | .release _ _ => True

/-- The unit registered under a key has a slot's port in one of its URLs. -/
def Holds (format : IntFormat) (m : Registry) (owner : Bytes × Endpoint) (slot : Nat) : Prop :=
  ∃ u, m.readUnit owner.1 = some u ∧
    embeddedPort format (u.url owner.2) = some (m.portListStart + slot)

/-- A registered unit, as `sys_allocate_unit` left it. -/
structure Registered (format : IntFormat) (m : Registry) (key : Bytes) (u : UnitData) : Prop where
  workId : u.workId = key
  older : u.port < m.workIdNumberCounter
  named : ∃ unit, key = unit ++ ascii "." ++ ofInt u.port ∧ ∀ endpoint, ∃ slot : Nat,
    zmqUrl format unit endpoint (m.portListStart + slot) = some (u.url endpoint) ∧
    Holds format m (key, endpoint) slot
  outPort : m.keySql (outPortKey key) = some (.text u.outputUrl)

/-- The marked slots are the ports of the registered units, each held once. -/
structure Consistent (format : IntFormat) (m : Registry) : Prop where
  slots : Slots.Exact m.portList (Holds format m)
  registered : ∀ key u, m.readUnit key = some u → Registered format m key u

/-! ## Registration -/

theorem takePort_free (uninit : Int) (m : Registry) (free : 0 < m.portList.count false) :
    ∃ slot : Nat, m.portList[slot]? = some false ∧
      takePort uninit m = (m.portListStart + slot, { m with portList := m.portList.set slot true }) := by
  obtain ⟨slot, first, clear⟩ := Slots.exists_firstFree m.portList free
  exact ⟨slot, clear, by simp [takePort, first]⟩

/-- What a registration with two free slots does. -/
theorem sysAllocateUnit_orderly (format : IntFormat) {unit : Bytes} {uninit : Int × Int} {m : Registry}
    (orderly : Orderly m (.register unit uninit)) :
    ∃ (u : UnitData) (i j : Nat),
      m.portList[i]? = some false ∧ (m.portList.set i true)[j]? = some false ∧
      u.port = m.workIdNumberCounter ∧ u.workId = unit ++ ascii "." ++ ofInt m.workIdNumberCounter ∧
      zmqUrl format unit .output (m.portListStart + i) = some u.outputUrl ∧
      zmqUrl format unit .inference (m.portListStart + j) = some u.inferenceUrl ∧
      sysAllocateUnit format uninit unit m = some (u,
        { workIdNumberCounter := m.workIdNumberCounter + 1
          portListStart := m.portListStart
          portList := (m.portList.set i true).set j true
          keySql := Function.update (Function.update m.keySql u.workId (some (.unit u)))
            (outPortKey u.workId) (some (.text u.outputUrl)) }) := by
  obtain ⟨two, fits, noPercent⟩ := orderly
  have noWrap : wrap32 (m.workIdNumberCounter + 1) = m.workIdNumberCounter + 1 := by
    unfold IsInt32 at fits
    exact Int.bmod_eq_of_le (by omega) (by omega)
  let m₁ : Registry := { m with workIdNumberCounter := m.workIdNumberCounter + 1 }
  obtain ⟨i, iFree, first⟩ := takePort_free uninit.1 m₁ (show 0 < m.portList.count false by omega)
  let m₂ : Registry := { m₁ with portList := m.portList.set i true }
  have left : 0 < m₂.portList.count false := by
    have := Slots.count_false_set (show m.portList[i]? = some false from iFree)
    show 0 < (m.portList.set i true).count false
    omega
  obtain ⟨j, jFree, second⟩ := takePort_free uninit.2 m₂ left
  obtain ⟨outputUrl, outputPrinted, _⟩ := zmqUrl_embeds format noPercent .output (m.portListStart + i)
  obtain ⟨inferenceUrl, inferencePrinted, _⟩ :=
    zmqUrl_embeds format noPercent .inference (m.portListStart + j)
  refine ⟨⟨m.workIdNumberCounter, unit ++ ascii "." ++ ofInt m.workIdNumberCounter, outputUrl, inferenceUrl⟩,
    i, j, iFree, jFree, rfl, rfl, outputPrinted, inferencePrinted, ?_⟩
  simp only [m₁, m₂] at first second
  simp only [sysAllocateUnit, noWrap, first, second, outputPrinted, inferencePrinted, Option.bind_eq_bind,
    Option.bind_some, Registry.set]

theorem Consistent.not_registered {format : IntFormat} {m : Registry} (consistent : Consistent format m)
    (unit : Bytes) : m.readUnit (unit ++ ascii "." ++ ofInt m.workIdNumberCounter) = none := by
  cases read : m.readUnit (unit ++ ascii "." ++ ofInt m.workIdNumberCounter) with
  | none => rfl
  | some u =>
    obtain ⟨_, older, ⟨unit', shape, _⟩, _⟩ := consistent.registered _ _ read
    have := (workId_inj shape).2
    omega

theorem Consistent.outPortKey_not_registered {format : IntFormat} {m : Registry}
    (consistent : Consistent format m) (key : Bytes) : m.readUnit (outPortKey key) = none := by
  cases read : m.readUnit (outPortKey key) with
  | none => rfl
  | some u =>
    obtain ⟨_, _, ⟨unit, shape, _⟩, _⟩ := consistent.registered _ _ read
    exact absurd shape (outPortKey_ne_workId key unit u.port)

/-- `key_sql` after a registration. -/
def registeredSql (m : Registry) (u : UnitData) : Bytes → Option SqlValue :=
  Function.update (Function.update m.keySql u.workId (some (.unit u)))
    (outPortKey u.workId) (some (.text u.outputUrl))

theorem outPortKey_ne (key : Bytes) : outPortKey key ≠ key := fun same => by
  have := congrArg List.length same
  simp [outPortKey, ascii] at this

/-- Registration changes what one key reads, when the derived key reads no unit. -/
theorem readUnit_registered {m m' : Registry} {u : UnitData} (sql : m'.keySql = registeredSql m u)
    (derived : m.readUnit (outPortKey u.workId) = none) (key : Bytes) :
    m'.readUnit key = if key = u.workId then some u else m.readUnit key := by
  by_cases isDerived : key = outPortKey u.workId
  · subst isDerived
    rw [if_neg (outPortKey_ne _), derived]
    simp [Registry.readUnit, sql, registeredSql]
  · by_cases isOwn : key = u.workId
    · simp [Registry.readUnit, sql, registeredSql, isOwn, (outPortKey_ne u.workId).symm]
    · simp [Registry.readUnit, sql, registeredSql, isDerived, isOwn]

/-- What a registration leaves to be found is the new unit and what was found before. -/
theorem readUnit_of_registered {m m' : Registry} {u other : UnitData} {key : Bytes}
    (sql : m'.keySql = registeredSql m u)
    (read : m'.readUnit key = some other) : (key = u.workId ∧ other = u) ∨ m.readUnit key = some other := by
  unfold Registry.readUnit at read ⊢
  rw [sql, registeredSql] at read
  by_cases isDerived : key = outPortKey u.workId
  · rw [isDerived, Function.update_self] at read
    cases read
  · rw [Function.update_of_ne isDerived] at read
    by_cases isOwn : key = u.workId
    · rw [isOwn, Function.update_self] at read
      cases read
      exact .inl ⟨isOwn, rfl⟩
    · rw [Function.update_of_ne isOwn] at read
      exact .inr read

theorem Consistent.register {format : IntFormat} {m m' : Registry} {unit : Bytes} {uninit : Int × Int}
    (consistent : Consistent format m) (orderly : Orderly m (.register unit uninit))
    (taken : registryStep format m (.register unit uninit) = some m') : Consistent format m' := by
  obtain ⟨u, i, j, iFree, jFree, port, workId, outputPrinted, inferencePrinted, result⟩ :=
    sysAllocateUnit_orderly format orderly
  have noPercent := orderly.2.2
  simp only [registryStep, result, Option.map_some, Option.some.injEq] at taken
  have start : m'.portListStart = m.portListStart := by rw [← taken]
  have list : m'.portList = (m.portList.set i true).set j true := by rw [← taken]
  have counter : m'.workIdNumberCounter = m.workIdNumberCounter + 1 := by rw [← taken]
  have sql : m'.keySql = registeredSql m u := by rw [← taken]; rfl
  clear taken result
  have reads := readUnit_registered sql (consistent.outPortKey_not_registered _)
  have fresh : m.readUnit u.workId = none := workId ▸ consistent.not_registered unit
  have outputPort : embeddedPort format u.outputUrl = some (m.portListStart + i) := by
    obtain ⟨url, printed, embedded⟩ := zmqUrl_embeds format noPercent .output (m.portListStart + i)
    obtain rfl := Option.some.inj (outputPrinted.symm.trans printed)
    exact embedded
  have inferencePort : embeddedPort format u.inferenceUrl = some (m.portListStart + j) := by
    obtain ⟨url, printed, embedded⟩ := zmqUrl_embeds format noPercent .inference (m.portListStart + j)
    obtain rfl := Option.some.inj (inferencePrinted.symm.trans printed)
    exact embedded
  -- the holders are those before and the new unit with its two slots
  have holders : ∀ owner slot, Holds format m' owner slot ↔
      (Holds format m owner slot ∨ (owner = (u.workId, .output) ∧ slot = i)) ∨
        (owner = (u.workId, .inference) ∧ slot = j) := by
    rintro ⟨key, endpoint⟩ slot
    simp only [Holds, reads, start, Prod.mk.injEq]
    by_cases own : key = u.workId
    · subst own
      cases endpoint
      · simp [fresh, UnitData.url, outputPort, eq_comm]
      · simp [fresh, UnitData.url, inferencePort, eq_comm]
    · simp [own]
  refine ⟨?_, ?_⟩
  · rw [list]
    exact ((consistent.slots.take iFree (u.workId, .output)).take jFree (u.workId, .inference)).congr holders
  · intro key v read
    rw [reads] at read
    split at read
    · next own =>
      obtain rfl := Option.some.inj read
      subst own
      refine ⟨rfl, by omega, ⟨unit, by rw [port, workId], ?_⟩, ?_⟩
      · intro endpoint
        cases endpoint with
        | output => exact ⟨i, start ▸ outputPrinted, (holders _ _).mpr (.inl (.inr ⟨rfl, rfl⟩))⟩
        | inference => exact ⟨j, start ▸ inferencePrinted, (holders _ _).mpr (.inr ⟨rfl, rfl⟩)⟩
      · simp [sql, registeredSql]
    · next other =>
      obtain ⟨own, older, ⟨name, shape, ports⟩, outPort⟩ := consistent.registered key v read
      refine ⟨own, by omega, ⟨name, shape, fun endpoint => ?_⟩, ?_⟩
      · obtain ⟨slot, printed, held⟩ := ports endpoint
        exact ⟨slot, start ▸ printed, (holders _ _).mpr (.inl (.inl held))⟩
      · have notDerived : outPortKey key ≠ outPortKey u.workId := fun same => other (outPortKey_inj same)
        have notOwn : outPortKey key ≠ u.workId := workId ▸ outPortKey_ne_workId key unit _
        rw [sql, registeredSql, Function.update_of_ne notDerived, Function.update_of_ne notOwn, outPort]

/-! ## Release -/

/-- `key_sql` after the release of a key. -/
def releasedSql (m : Registry) (key : Bytes) : Bytes → Option SqlValue :=
  Function.update (Function.update m.keySql key none) (outPortKey key) none

theorem freePort_slot {m : Registry} {slot : Nat} (bound : slot < m.portList.length) :
    freePort (m.portListStart + slot) m = some { m with portList := m.portList.set slot false } := by
  have index : (m.portListStart + slot - m.portListStart).toNat = slot := by omega
  rw [freePort, if_pos (by omega), index]

theorem readUnit_of_released {m m' : Registry} {key other : Bytes} {unit : UnitData}
    (sql : m'.keySql = releasedSql m key) (read : m'.readUnit other = some unit) :
    other ≠ key ∧ m.readUnit other = some unit := by
  unfold Registry.readUnit at read ⊢
  rw [sql, releasedSql] at read
  by_cases isDerived : other = outPortKey key
  · rw [isDerived, Function.update_self] at read
    cases read
  · rw [Function.update_of_ne isDerived] at read
    by_cases isOwn : other = key
    · rw [isOwn, Function.update_self] at read
      cases read
    · rw [Function.update_of_ne isOwn] at read
      exact ⟨isOwn, read⟩

/-- The release of a unit whose URLs carry the ports of two slots. -/
theorem sysReleaseUnit_slots {format : IntFormat} {m : Registry} {key : Bytes} {u : UnitData} {i j : Nat}
    (read : m.readUnit key = some u) (output : embeddedPort format u.outputUrl = some (m.portListStart + i))
    (inference : embeddedPort format u.inferenceUrl = some (m.portListStart + j)) (iBound : i < m.portList.length)
    (jBound : j < m.portList.length) (uninit : Int) :
    sysReleaseUnit format uninit key m =
      some (0, { m with portList := (m.portList.set i false).set j false, keySql := releasedSql m key }) := by
  have second : freePort (m.portListStart + j) { m with portList := m.portList.set i false } =
      some { m with portList := (m.portList.set i false).set j false } :=
    freePort_slot (m := { m with portList := m.portList.set i false }) (by rwa [List.length_set])
  simp only [sysReleaseUnit, read, output, inference, Option.getD_some, freePort_slot iBound, Option.bind_eq_bind,
    Option.bind_some, second, Registry.erase, releasedSql]

/-- Releasing a registered unit frees its two slots and removes both of its keys. -/
theorem Consistent.sysReleaseUnit_eq {format : IntFormat} {m : Registry} (consistent : Consistent format m)
    {key : Bytes} {u : UnitData} (read : m.readUnit key = some u) (uninit : Int) :
    ∃ i j : Nat, Holds format m (key, .output) i ∧ Holds format m (key, .inference) j ∧ i ≠ j ∧
      sysReleaseUnit format uninit key m =
        some (0, { m with portList := (m.portList.set i false).set j false, keySql := releasedSql m key }) := by
  obtain ⟨_, _, ⟨_, _, ports⟩, _⟩ := consistent.registered key u read
  obtain ⟨i, _, heldOut⟩ := ports .output
  obtain ⟨j, _, heldIn⟩ := ports .inference
  have different : i ≠ j := by
    rintro rfl
    have := consistent.slots.exclusive _ _ _ heldOut heldIn
    simp at this
  refine ⟨i, j, heldOut, heldIn, different, ?_⟩
  have iBound := consistent.slots.lt_length heldOut
  have jBound := consistent.slots.lt_length heldIn
  obtain ⟨v, readOut, outPort⟩ := heldOut
  obtain rfl := Option.some.inj (read.symm.trans readOut)
  obtain ⟨w, readIn, inPort⟩ := heldIn
  obtain rfl := Option.some.inj (read.symm.trans readIn)
  exact sysReleaseUnit_slots read outPort inPort iBound jBound uninit

theorem readUnit_released {m m' : Registry} {key : Bytes} (sql : m'.keySql = releasedSql m key)
    (derived : m.readUnit (outPortKey key) = none) (other : Bytes) :
    m'.readUnit other = if other = key then none else m.readUnit other := by
  by_cases isDerived : other = outPortKey key
  · subst isDerived
    rw [if_neg (outPortKey_ne _), derived]
    simp [Registry.readUnit, sql, releasedSql]
  · by_cases isOwn : other = key
    · simp [Registry.readUnit, sql, releasedSql, isOwn, (outPortKey_ne key).symm]
    · simp [Registry.readUnit, sql, releasedSql, isDerived, isOwn]

theorem Consistent.release {format : IntFormat} {m m' : Registry} {key : Bytes} {uninit : Int}
    (consistent : Consistent format m)
    (taken : registryStep format m (.release key uninit) = some m') : Consistent format m' := by
  simp only [registryStep] at taken
  cases read : m.readUnit key with
  | none =>
    simp only [sysReleaseUnit, read, Option.map_some, Option.some.injEq] at taken
    exact taken ▸ consistent
  | some u =>
    obtain ⟨i, j, heldOut, heldIn, _, result⟩ := consistent.sysReleaseUnit_eq read uninit
    rw [result, Option.map_some, Option.some.injEq] at taken
    have start : m'.portListStart = m.portListStart := by rw [← taken]
    have list : m'.portList = (m.portList.set i false).set j false := by rw [← taken]
    have counter : m'.workIdNumberCounter = m.workIdNumberCounter := by rw [← taken]
    have sql : m'.keySql = releasedSql m key := by rw [← taken]
    clear taken result
    have reads := readUnit_released sql (consistent.outPortKey_not_registered key)
    -- the slots of the released key are the two that were cleared
    have holders : ∀ owner slot, Holds format m' owner slot ↔
        (Holds format m owner slot ∧ slot ≠ i) ∧ slot ≠ j := by
      rintro ⟨other, endpoint⟩ slot
      have others : Holds format m' (other, endpoint) slot ↔
          other ≠ key ∧ Holds format m (other, endpoint) slot := by
        simp only [Holds, reads, start]
        by_cases own : other = key <;> simp [own]
      rw [others]
      constructor
      · rintro ⟨notOwn, held⟩
        refine ⟨⟨held, ?_⟩, ?_⟩
        · rintro rfl
          exact notOwn (congrArg Prod.fst (consistent.slots.exclusive _ _ _ held heldOut))
        · rintro rfl
          exact notOwn (congrArg Prod.fst (consistent.slots.exclusive _ _ _ held heldIn))
      · rintro ⟨⟨held, notOut⟩, notIn⟩
        refine ⟨?_, held⟩
        rintro rfl
        obtain ⟨v, readHeld, port⟩ := held
        cases endpoint with
        | output =>
          obtain ⟨w, readOut, outPort⟩ := heldOut
          obtain rfl := Option.some.inj (readHeld.symm.trans readOut)
          have := Option.some.inj (port.symm.trans outPort)
          exact notOut (by omega)
        | inference =>
          obtain ⟨w, readIn, inPort⟩ := heldIn
          obtain rfl := Option.some.inj (readHeld.symm.trans readIn)
          have := Option.some.inj (port.symm.trans inPort)
          exact notIn (by omega)
    refine ⟨?_, ?_⟩
    · rw [list]
      exact ((consistent.slots.free i).free j).congr holders
    · intro other v readOther
      rw [reads] at readOther
      split at readOther
      · cases readOther
      · next notOwn =>
        obtain ⟨own, older, ⟨name, shape, ports⟩, outPort⟩ := consistent.registered other v readOther
        obtain ⟨_, _, ⟨name', shape', _⟩, _⟩ := consistent.registered key u read
        refine ⟨own, by omega, ⟨name, shape, fun endpoint => ?_⟩, ?_⟩
        · obtain ⟨slot, printed, held⟩ := ports endpoint
          refine ⟨slot, start ▸ printed, (holders _ _).mpr ⟨⟨held, ?_⟩, ?_⟩⟩
          · rintro rfl
            exact notOwn (congrArg Prod.fst (consistent.slots.exclusive _ _ _ held heldOut))
          · rintro rfl
            exact notOwn (congrArg Prod.fst (consistent.slots.exclusive _ _ _ held heldIn))
        · have notDerived : outPortKey other ≠ outPortKey key := fun same => notOwn (outPortKey_inj same)
          have notKey : outPortKey other ≠ key := shape' ▸ outPortKey_ne_workId other name' _
          rw [sql, releasedSql, Function.update_of_ne notDerived, Function.update_of_ne notKey, outPort]

/-! ## Runs -/

/-- A new registry has no port taken and no unit. -/
theorem remoteServerWork_empty {uninit : Int} {config : Config} {m : Registry}
    (started : remoteServerWork uninit config = some m) :
    (∀ mark ∈ m.portList, mark = false) ∧ ∀ key, m.readUnit key = none := by
  unfold remoteServerWork at started
  simp only at started
  split at started
  · cases started
  · cases started
    refine ⟨fun mark member => (List.mem_replicate.mp member).2, fun key => ?_⟩
    unfold Registry.readUnit
    split
    · next u found => exact absurd found (config.noUnit key u)
    · rfl

theorem remoteServerWork_consistent {format : IntFormat} {uninit : Int} {config : Config} {m : Registry}
    (started : remoteServerWork uninit config = some m) : Consistent format m := by
  obtain ⟨clear, nobody⟩ := remoteServerWork_empty started
  refine ⟨Slots.exact_unmarked _ clear ?_, ?_⟩
  · rintro owner slot ⟨u, read, _⟩
    rw [nobody] at read
    cases read
  · intro key u read
    rw [nobody] at read
    cases read

theorem reaches_consistent {format : IntFormat} {uninit : Int} {config : Config} {start m : Registry}
    (started : remoteServerWork uninit config = some start)
    (run : Reaches (registryStep format) Orderly start m) : Consistent format m := by
  refine run.invariant (Consistent format) (remoteServerWork_consistent started) ?_
  intro state call after consistent orderly taken
  cases call with
  | register unit uninit => exact consistent.register orderly taken
  | release key uninit => exact consistent.release taken

/-- What the port registry guarantees: the bitmap and the registered units agree,
and a release undoes its registration. -/
structure PortsExact (format : IntFormat) (m : Registry) : Prop where
  marked : ∀ slot : Nat, m.portList[slot]? = some true ↔ ∃ key u endpoint, m.readUnit key = some u ∧
    embeddedPort format (u.url endpoint) = some (m.portListStart + slot)
  distinct : ∀ key key' u u' endpoint endpoint' port, m.readUnit key = some u → m.readUnit key' = some u' →
    embeddedPort format (u.url endpoint) = some port → embeddedPort format (u'.url endpoint') = some port →
    key = key' ∧ endpoint = endpoint'
  ownWorkId : ∀ key u, m.readUnit key = some u → u.workId = key
  readBack : ∀ key u endpoint, m.readUnit key = some u → ∃ unit, ∃ slot < m.portList.length,
    zmqUrl format unit endpoint (m.portListStart + slot) = some (u.url endpoint) ∧
    embeddedPort format (u.url endpoint) = some (m.portListStart + slot)
  release : ∀ key u uninit, m.readUnit key = some u → ∃ i j : Nat, i ≠ j ∧
    embeddedPort format u.outputUrl = some (m.portListStart + i) ∧
    embeddedPort format u.inferenceUrl = some (m.portListStart + j) ∧
    m.keySql (outPortKey key) = some (.text u.outputUrl) ∧
    sysReleaseUnit format uninit key m = some (0, { m with
      portList := (m.portList.set i false).set j false
      keySql := Function.update (Function.update m.keySql key none) (outPortKey key) none })

theorem Consistent.embedded_slot {format : IntFormat} {m : Registry} (consistent : Consistent format m)
    {key : Bytes} {u : UnitData} {endpoint : Endpoint} {port : Int} (read : m.readUnit key = some u)
    (embedded : embeddedPort format (u.url endpoint) = some port) :
    ∃ slot : Nat, port = m.portListStart + slot ∧ Holds format m (key, endpoint) slot := by
  obtain ⟨_, _, ⟨_, _, ports⟩, _⟩ := consistent.registered key u read
  obtain ⟨slot, _, held⟩ := ports endpoint
  have ⟨v, readHeld, port'⟩ := held
  obtain rfl := Option.some.inj (read.symm.trans readHeld)
  exact ⟨slot, Option.some.inj (embedded.symm.trans port'), held⟩

theorem Consistent.portsExact {format : IntFormat} {m : Registry} (consistent : Consistent format m) :
    PortsExact format m where
  marked slot := by
    rw [consistent.slots.marked]
    constructor
    · rintro ⟨⟨key, endpoint⟩, u, read, embedded⟩
      exact ⟨key, u, endpoint, read, embedded⟩
    · rintro ⟨key, u, endpoint, read, embedded⟩
      exact ⟨⟨key, endpoint⟩, u, read, embedded⟩
  distinct key key' u u' endpoint endpoint' port read read' embedded embedded' := by
    obtain ⟨slot, rfl, held⟩ := consistent.embedded_slot read embedded
    have := consistent.slots.exclusive (key, endpoint) (key', endpoint') slot held ⟨u', read', embedded'⟩
    exact Prod.mk.inj this
  ownWorkId key u read := (consistent.registered key u read).workId
  readBack key u endpoint read := by
    obtain ⟨_, _, ⟨unit, _, ports⟩, _⟩ := consistent.registered key u read
    obtain ⟨slot, printed, held⟩ := ports endpoint
    have ⟨v, readHeld, embedded⟩ := held
    obtain rfl := Option.some.inj (read.symm.trans readHeld)
    exact ⟨unit, slot, consistent.slots.lt_length held, printed, embedded⟩
  release key u uninit read := by
    obtain ⟨i, j, ⟨v, readOut, outPort⟩, ⟨w, readIn, inPort⟩, different, result⟩ :=
      consistent.sysReleaseUnit_eq read uninit
    obtain rfl := Option.some.inj (read.symm.trans readOut)
    obtain rfl := Option.some.inj (read.symm.trans readIn)
    exact ⟨i, j, different, outPort, inPort, (consistent.registered key u read).outPort, result⟩

/-- Every run of orderly registrations and any releases keeps the bitmap and the
registry together. -/
theorem reaches_portsExact {format : IntFormat} {uninit : Int} {config : Config} {start m : Registry}
    (started : remoteServerWork uninit config = some start)
    (run : Reaches (registryStep format) Orderly start m) : PortsExact format m :=
  (reaches_consistent started run).portsExact

/-- The shipped configuration after one `register_unit` for the ASR node. -/
theorem reaches_portsExact_asr : ∃ m, (m.readUnit (ascii "asr.0")).isSome ∧ PortsExact zmqSFormat m := by
  let start : Registry := ⟨0, 5010, List.replicate 545 false, masterConfig.keySql⟩
  have started : remoteServerWork 0 masterConfig = some start := rfl
  have free : start.portList.count false = 545 := List.count_replicate_self
  have orderly : Orderly start (.register (ascii "asr") (0, 0)) :=
    ⟨by rw [free]; decide, by decide, by decide⟩
  obtain ⟨u, i, j, _, _, _, workId, _, _, result⟩ := sysAllocateUnit_orderly zmqSFormat orderly
  have taken := congrArg (Option.map Prod.snd) result
  refine ⟨_, ?_, reaches_portsExact started (.next .start orderly taken)⟩
  have key : u.workId = ascii "asr.0" := workId
  have derived : ascii "asr.0" ≠ outPortKey (ascii "asr.0") := by decide
  simp [Registry.readUnit, key, derived]

end EdgeFlow.Manager
