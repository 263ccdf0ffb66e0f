import EdgeFlow.Manager.KeyValue

/-! `sys_allocate_unit` takes two ports without looking whether there are two: its
results where `port_list` has them, and where it runs out.
-/

set_option autoImplicit false

namespace EdgeFlow.Manager
open Library Library.Printf Library.Decimal Comm

theorem takePort_full {m : Registry} (full : m.portList.count false = 0) (uninit : Int) :
    takePort uninit m = (uninit, m) := by
  have all : m.portList.findIdx? (fun mark => !mark) = none := by
    apply List.findIdx?_eq_none_iff.mpr
    intro mark member
    cases mark with
    | true => rfl
    | false => exact absurd member (List.count_eq_zero.mp full)
  simp only [takePort, all]

/-- A registry, and the units that have been allocated and not deleted. -/
structure Population where
  registry : Registry
  units : List UnitData

namespace Population

def record (format : IntFormat) (population : Population) : ManagerCall → List UnitData
  | .registerUnit raw uninit =>
    match sysAllocateUnit format uninit raw population.registry with
    | some (unit, _) => population.units ++ [unit]
    | none => population.units
  | .releaseUnit raw _ =>
    -- a unit whose key was overwritten or unset is never deleted
    match population.registry.readUnit raw with
    | some unit => population.units.filter (· ≠ unit)
    | none => population.units
  | .sqlSelect _ | .sqlSet _ | .sqlUnset _ => population.units

def step (format : IntFormat) (population : Population) (call : ManagerCall) : Option Population :=
  (managerStep format population.registry call).map fun registry => ⟨registry, population.record format call⟩

/-- A unit that has not been deleted has a slot's port in one of its URLs. -/
def Occupies (format : IntFormat) (population : Population) (owner : UnitData × Endpoint) (slot : Nat) : Prop :=
  owner.1 ∈ population.units ∧
    embeddedPort format (owner.1.url owner.2) = some (population.registry.portListStart + slot)

/-- Registrations find two free slots. -/
def Fits (population : Population) : ManagerCall → Prop
  | .registerUnit _ _ => 2 ≤ population.registry.portList.count false
  | _ => True

instance (population : Population) : (call : ManagerCall) → Decidable (Fits population call)
  | .registerUnit _ _ => inferInstanceAs (Decidable (_ ≤ _))
  | .sqlSelect _ | .releaseUnit _ _ | .sqlSet _ | .sqlUnset _ => isTrue trivial

/-- The marked slots are the ports of the units that have not been deleted, whatever is left of them in `key_sql`. -/
structure Sound (format : IntFormat) (population : Population) : Prop where
  slots : Slots.Exact population.registry.portList (population.Occupies format)
  placed : ∀ unit ∈ population.units, ∀ endpoint, ∃ slot : Nat,
    embeddedPort format (unit.url endpoint) = some (population.registry.portListStart + slot)
  known : ∀ key unit, population.registry.readUnit key = some unit → unit ∈ population.units ∧ unit.workId = key

variable {format : IntFormat} {population after : Population}

theorem sound_started {uninit : Int} {config : Config} {start : Registry}
    (started : remoteServerWork uninit config = some start) : Sound format ⟨start, []⟩ where
  slots := by
    apply Slots.exact_unmarked _ (remoteServerWork_empty started).1
    rintro owner slot ⟨member, -⟩
    cases member
  placed unit member := by cases member
  known key unit read := by
    rw [(remoteServerWork_empty started).2] at read
    cases read

/-- `key_sql` may lose units. -/
theorem Sound.lose (sound : Sound format population) {keySql : Bytes → Option SqlValue}
    (fewer : ∀ key unit, keySql key = some (.unit unit) → population.registry.keySql key = some (.unit unit)) :
    Sound format ⟨{ population.registry with keySql }, population.units⟩ where
  slots := sound.slots
  placed := sound.placed
  known key unit read := sound.known key unit (readUnit_iff.mpr (fewer key unit (readUnit_iff.mp read)))

theorem Sound.registerUnit (sound : Sound format population) {raw : Bytes} {uninit : Int × Int}
    (two : 2 ≤ population.registry.portList.count false) {unit : UnitData} {m : Registry}
    (allocated : sysAllocateUnit format uninit raw population.registry = some (unit, m)) :
    Sound format ⟨m, population.units ++ [unit]⟩ := by
  obtain ⟨-, urls, registry⟩ := sysAllocateUnit_some allocated
  obtain ⟨i, j, iFree, jFree, output, inference, marked⟩ := takenPort_two two uninit
  rw [marked] at registry
  have list : m.portList = (population.registry.portList.set i true).set j true := by rw [registry]
  have start : m.portListStart = population.registry.portListStart := by rw [registry]
  have sql : m.keySql = registeredSql population.registry unit := by rw [registry]; rfl
  clear registry marked
  have outputPort : embeddedPort format unit.outputUrl = some (population.registry.portListStart + i) := by
    rw [← output]
    exact zmqUrl_embedded (urls .output)
  have inferencePort : embeddedPort format unit.inferenceUrl = some (population.registry.portListStart + j) := by
    rw [← inference]
    exact zmqUrl_embedded (urls .inference)
  constructor
  · rw [list]
    apply ((sound.slots.take iFree (unit, .output)).take jFree (unit, .inference)).congr
    -- the occupants are those before and the new unit with its two slots
    rintro ⟨other, endpoint⟩ slot
    simp only [Occupies, start, List.mem_append, List.mem_singleton, Prod.mk.injEq]
    constructor
    · rintro ⟨before | rfl, embedded⟩
      · exact .inl (.inl ⟨before, embedded⟩)
      · cases endpoint with
        | output =>
          have same := Option.some.inj (embedded.symm.trans outputPort)
          exact .inl (.inr ⟨⟨rfl, rfl⟩, by omega⟩)
        | inference =>
          have same := Option.some.inj (embedded.symm.trans inferencePort)
          exact .inr ⟨⟨rfl, rfl⟩, by omega⟩
    · rintro ((⟨before, embedded⟩ | ⟨⟨rfl, rfl⟩, rfl⟩) | ⟨⟨rfl, rfl⟩, rfl⟩)
      · exact ⟨.inl before, embedded⟩
      · exact ⟨.inr rfl, outputPort⟩
      · exact ⟨.inr rfl, inferencePort⟩
  · intro other member endpoint
    rw [start]
    rcases List.mem_append.mp member with before | last
    · exact sound.placed other before endpoint
    · rw [List.mem_singleton.mp last]
      cases endpoint with
      | output => exact ⟨i, outputPort⟩
      | inference => exact ⟨j, inferencePort⟩
  · intro key other read
    rcases readUnit_of_registered sql read with ⟨isNew, rfl⟩ | before
    · exact ⟨List.mem_append_right _ (List.mem_singleton.mpr rfl), isNew.symm⟩
    · obtain ⟨member, workId⟩ := sound.known key other before
      exact ⟨List.mem_append_left _ member, workId⟩

theorem Sound.releaseUnit (sound : Sound format population) {raw : Bytes} {unit : UnitData}
    (read : population.registry.readUnit raw = some unit) {uninit ret : Int} {m : Registry}
    (released : sysReleaseUnit format uninit raw population.registry = some (ret, m)) :
    Sound format ⟨m, population.units.filter (· ≠ unit)⟩ := by
  obtain ⟨here, workId⟩ := sound.known raw unit read
  obtain ⟨i, output⟩ := sound.placed unit here .output
  obtain ⟨j, inference⟩ := sound.placed unit here .inference
  have iBound : i < population.registry.portList.length :=
    sound.slots.lt_length (show population.Occupies format (unit, .output) i from ⟨here, output⟩)
  have jBound : j < population.registry.portList.length :=
    sound.slots.lt_length (show population.Occupies format (unit, .inference) j from ⟨here, inference⟩)
  rw [sysReleaseUnit_slots read output inference iBound jBound uninit] at released
  cases released
  have kept (other : UnitData) : other ∈ population.units.filter (· ≠ unit) ↔
      other ∈ population.units ∧ other ≠ unit := by
    simp
  constructor
  · apply ((sound.slots.free i).free j).congr
    rintro ⟨other, endpoint⟩ slot
    simp only [Occupies, kept]
    constructor
    · -- another unit is in neither of the two slots
      rintro ⟨⟨member, isOther⟩, embedded⟩
      refine ⟨⟨⟨member, embedded⟩, ?_⟩, ?_⟩
      · rintro rfl
        exact isOther
          (congrArg Prod.fst (sound.slots.exclusive (other, endpoint) (unit, .output) _ ⟨member, embedded⟩
            ⟨here, output⟩))
      · rintro rfl
        exact isOther
          (congrArg Prod.fst
            (sound.slots.exclusive (other, endpoint) (unit, .inference) _ ⟨member, embedded⟩ ⟨here, inference⟩))
    · -- and the unit itself is in no other
      rintro ⟨⟨⟨member, embedded⟩, notOutput⟩, notInference⟩
      refine ⟨⟨member, ?_⟩, embedded⟩
      rintro rfl
      cases endpoint with
      | output =>
        have same := Option.some.inj (embedded.symm.trans output)
        exact notOutput (by omega)
      | inference =>
        have same := Option.some.inj (embedded.symm.trans inference)
        exact notInference (by omega)
  · intro other member endpoint
    exact sound.placed other ((kept other).mp member).1 endpoint
  · intro key other found
    obtain ⟨isOther, before⟩ := readUnit_of_released rfl found
    obtain ⟨member, own⟩ := sound.known key other before
    refine ⟨(kept other).mpr ⟨member, ?_⟩, own⟩
    rintro rfl
    exact isOther (own.symm.trans workId)

theorem Sound.step (sound : Sound format population) {call : ManagerCall} (fits : population.Fits call)
    (taken : population.step format call = some after) : Sound format after := by
  obtain ⟨registry, made, rfl⟩ := Option.map_eq_some_iff.mp taken
  -- a text over an entry, or none, can only make a unit unreachable
  have texts {key : Bytes} {value : Option SqlValue} (noUnit : ∀ unit, value ≠ some (.unit unit)) :
      Sound format ⟨{ population.registry with keySql := Function.update population.registry.keySql key value },
        population.units⟩ := by
    apply sound.lose
    intro other unit found
    by_cases same : other = key
    · subst same
      exact absurd ((Function.update_self other value population.registry.keySql).symm.trans found) (noUnit unit)
    · exact (Function.update_of_ne same value population.registry.keySql).symm.trans found
  cases call with
  | sqlSelect raw =>
    cases made
    exact sound
  | registerUnit raw uninit =>
    obtain ⟨unit, allocated⟩ := managerStep_registerUnit made
    simp only [record, allocated]
    exact sound.registerUnit fits allocated
  | releaseUnit raw uninit =>
    obtain ⟨ret, released⟩ := managerStep_releaseUnit made
    cases read : population.registry.readUnit raw with
    | none =>
      simp only [record, read, sysReleaseUnit_none read released]
      exact sound
    | some unit =>
      simp only [record, read]
      exact sound.releaseUnit read released
  | sqlSet raw =>
    cases made
    unfold rpcSqlSet
    extract_lets key val
    split
    · exact sound
    · exact texts fun unit => by simp
  | sqlUnset raw =>
    cases made
    exact texts fun unit => by simp

/-- A registration that finds fewer than two free slots answers with no unit and changes nothing, and no URL is built
from a port outside of `port_list` or of a unit that has not been deleted. -/
structure CleanAllocation (format : IntFormat) (population : Population) (uninit : Int × Int)
    (unit : Bytes) : Prop where
  fails : population.registry.portList.count false < 2 → ∃ reply after,
    rpcAllocateUnit format uninit unit population.registry = some (reply, after) ∧
      (∀ u : UnitData, reply ≠ setParam (ofInt u.port) (setParam u.outputUrl u.inferenceUrl)) ∧
      after.portList = population.registry.portList ∧ after.keySql = population.registry.keySql
  ports : ∀ endpoint, ∃ slot < population.registry.portList.length,
    takenPort uninit population.registry endpoint = population.registry.portListStart + slot ∧
      ∀ owner, ¬ population.Occupies format owner slot

/-- With no slot free, every port of the range is one of a unit. -/
theorem Sound.occupied (sound : Sound format population)
    (full : population.registry.portList.count false = 0) {slot : Nat}
    (bound : slot < population.registry.portList.length) : ∃ owner, population.Occupies format owner slot := by
  apply (sound.slots.marked slot).mp
  rw [List.getElem?_eq_getElem bound]
  cases mark : population.registry.portList[slot] with
  | true => rfl
  | false => exact absurd (mark ▸ List.getElem_mem bound) (List.count_eq_zero.mp full)

/-- The last slot is taken for the output URL, whatever the inference URL is built from. -/
theorem one_slot {m after : Registry} {reply unit : Bytes} {uninit : Int × Int} (one : m.portList.count false = 1)
    (allocated : rpcAllocateUnit format uninit unit m = some (reply, after)) : after.portList.count false = 0 := by
  obtain ⟨u, sys⟩ := managerStep_registerUnit (congrArg (Option.map Prod.snd) allocated)
  obtain ⟨-, -, registry⟩ := sysAllocateUnit_some sys
  obtain ⟨slot, free, first⟩ := takePort_free uninit.1 m (by omega)
  have full : (m.portList.set slot true).count false = 0 := by
    have := Slots.count_false_set free
    omega
  rw [first, takePort_full full] at registry
  change after = _ at registry
  rw [registry]
  exact full

theorem Sound.clean_iff (sound : Sound format population) (uninit : Int × Int) (unit : Bytes) :
    CleanAllocation format population uninit unit ↔ 2 ≤ population.registry.portList.count false := by
  constructor
  · intro clean
    by_contra few
    obtain ⟨reply, after, allocated, -, same, -⟩ := clean.fails (by omega)
    by_cases full : population.registry.portList.count false = 0
    · obtain ⟨slot, bound, -, free⟩ := clean.ports .output
      obtain ⟨owner, occupied⟩ := sound.occupied full bound
      exact free owner occupied
    · -- with one free slot it is taken
      have gone := one_slot (by omega) allocated
      rw [same] at gone
      exact full gone
  · intro two
    obtain ⟨i, j, iFree, jFree, output, inference, -⟩ := takenPort_two two uninit
    refine ⟨fun few => by omega, fun endpoint => ?_⟩
    cases endpoint with
    | output => exact ⟨i, (List.getElem?_eq_some_iff.mp iFree).1, output, sound.slots.not_held iFree⟩
    | inference =>
      have free := Slots.free_of_set jFree
      exact ⟨j, (List.getElem?_eq_some_iff.mp free).1, inference, sound.slots.not_held free⟩

/-- Where every registration found two free slots, the next one is clean exactly when it finds two. -/
theorem cleanAllocation_iff {uninit : Int} {config : Config} {start : Registry}
    (started : remoteServerWork uninit config = some start)
    (run : Reaches (step format) Fits ⟨start, []⟩ population) (ports : Int × Int) (unit : Bytes) :
    CleanAllocation format population ports unit ↔ 2 ≤ population.registry.portList.count false := by
  have sound : Sound format population := by
    apply run.invariant (Sound format) (sound_started started)
    intro population call after sound fits taken
    exact sound.step fits taken
  exact sound.clean_iff ports unit

/-- A configuration with three ports. -/
def threePorts : Config where
  keySql key :=
    if key = ascii "config_zmq_min_port" then some (.int 5010)
    else if key = ascii "config_zmq_max_port" then some (.int 5013)
    else none
  noUnit key u := by
    repeat' split
    all_goals simp

/-- The first registration is clean, and leaves one port of three. -/
theorem cleanAllocation_three : ∃ start population : Population, population.units.length = 1 ∧
    (∀ ports unit, CleanAllocation zmqSFormat start ports unit) ∧
    ∀ ports unit, ¬ CleanAllocation zmqSFormat population ports unit := by
  have started : remoteServerWork 0 threePorts = some ⟨0, 5010, [false, false, false], threePorts.keySql⟩ := rfl
  have run : (followAllowed (step zmqSFormat) (fun population call => decide (Fits population call))
      ⟨⟨0, 5010, [false, false, false], threePorts.keySql⟩, []⟩ [.registerUnit (ascii "asr") (0, 0)]).map
        (fun final => (final.units.length, final.registry.portList)) = some (1, [true, true, false]) := by
    decide +kernel
  obtain ⟨population, run, same⟩ := Option.map_eq_some_iff.mp run
  obtain ⟨one, list⟩ := Prod.mk.inj same
  refine ⟨_, population, one, fun ports unit => (cleanAllocation_iff started .start ports unit).mpr (by decide),
    fun ports unit clean => ?_⟩
  have two := (cleanAllocation_iff started (Reaches.of_decide run) ports unit).mp clean
  rw [list] at two
  exact absurd two (by decide)

/-- A second registration is given the port of the first. -/
theorem held_port_again : ¬ ∀ (start : Registry) (population : Population), remoteServerWork 0 threePorts = some start →
    Reaches (step zmqSFormat) (fun _ _ => True) ⟨start, []⟩ population →
      CleanAllocation zmqSFormat population (5010, 5010) (ascii "llm") := by
  intro all
  let calls : List ManagerCall := [.registerUnit (ascii "asr") (0, 0)]
  have run : (follow (step zmqSFormat) ⟨⟨0, 5010, [false, false, false], threePorts.keySql⟩, []⟩ calls).map
      (fun final => (final.registry.portListStart, takenPort (5010, 5010) final.registry .inference,
        final.units.map fun unit => embeddedPort zmqSFormat unit.outputUrl)) = some (5010, 5010, [some 5010]) := by
    decide +kernel
  obtain ⟨population, run, same⟩ := Option.map_eq_some_iff.mp run
  simp only [Prod.mk.injEq] at same
  obtain ⟨start, taken, urls⟩ := same
  obtain ⟨unit, units, embedded⟩ := List.map_eq_singleton_iff.mp urls
  obtain ⟨slot, -, chosen, free⟩ := (all _ population rfl (Reaches.of_follow run)).ports .inference
  -- the slot is the one of the port 5010, which the unit has
  obtain rfl : slot = 0 := by omega
  apply free (unit, .output)
  refine ⟨units ▸ List.mem_singleton.mpr rfl, ?_⟩
  rw [start]
  exact embedded

end Population

end EdgeFlow.Manager
