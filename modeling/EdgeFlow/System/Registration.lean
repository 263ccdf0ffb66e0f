import EdgeFlow.Comm.Params
import EdgeFlow.Manager.Rpc
import EdgeFlow.Node.StackFlow

/-! What a node makes of the reply to `register_unit`: two parameters in a frame, of which
the second is a frame again.
-/

set_option autoImplicit false

namespace EdgeFlow.System
open Library Library.Printf Library.Decimal Comm Manager

/-- The callback of `sys_register_unit`. -/
def readUnitAs (char : PlainChar) (msg : Bytes) : Except Comm.Fault (Bytes × Bytes × Bytes) := do
  let strPort ← getParamAs char msg 1 []
  let outPort ← getParamAs char msg 0 strPort
  let inferencePort ← getParamAs char msg 1 strPort
  let strPort ← getParamAs char msg 0 []
  .ok (strPort, outPort, inferencePort)

/-- `sys_register_unit`: the number and the URLs its channel is created with. -/
def registeredUnit (char : PlainChar) (msg : Bytes) : Except Node.Fault (Int × Bytes × Bytes) := do
  let (strPort, outPort, inferencePort) ← (readUnitAs char msg).mapError .frame
  let number ← (stoi strPort).mapError .stoi
  .ok (number, outPort, inferencePort)

theorem readUnitAs_short {char : PlainChar} {msg strPort outPort inferencePort : Bytes}
    (read : readUnitAs char msg = .ok (strPort, outPort, inferencePort)) : outPort.length ≤ char.limit := by
  unfold readUnitAs at read
  cases inner : getParamAs char msg 1 [] with
  | error fault => rw [inner] at read; cases read
  | ok frame =>
    simp only [inner, bind, Except.bind] at read
    cases out : getParamAs char msg 0 frame with
    | error fault => rw [out] at read; cases read
    | ok param =>
      simp only [out] at read
      split at read
      · cases read
      · split at read
        · cases read
        · cases read
          exact getParamAs_zero_length_le out

section
variable {format : IntFormat} {uninit : Int × Int} {unit : Bytes} {m m' : Registry} {u : UnitData}

/-- The URLs of a new unit, each printed with the first port that is free when its turn comes. -/
theorem sysAllocateUnit_urls (allocated : sysAllocateUnit format uninit unit m = some (u, m')) :
    u.port = m.workIdNumberCounter ∧
      zmqUrl format unit .output (takePort uninit.1 m).1 = some u.outputUrl ∧
      ∃ marks counter, marks.length = m.portList.length ∧
        zmqUrl format unit .inference
          (takePort uninit.2 { m with portList := marks, workIdNumberCounter := counter }).1 = some u.inferenceUrl := by
  let m₁ : Registry := { m with workIdNumberCounter := wrap32 (m.workIdNumberCounter + 1) }
  have samePort : (takePort uninit.1 m₁).1 = (takePort uninit.1 m).1 := by
    simp only [takePort, m₁]
    split <;> rfl
  obtain ⟨port, marks, first, length⟩ := takePort_frame uninit.1 m₁
  simp only [m₁] at first
  simp only [sysAllocateUnit, first, Option.bind_eq_bind, Option.bind_eq_some_iff] at allocated
  obtain ⟨outputUrl, output, inferenceUrl, inference, done⟩ := allocated
  cases done
  refine ⟨rfl, ?_, marks, _, length, inference⟩
  rw [← samePort, show takePort uninit.1 m₁ = _ from first]
  exact output

/-- The second URL is not much longer than the first. -/
theorem inferenceUrl_length_le {port port' : Int} {url url' : Bytes} (fits : IsInt32 port')
    (output : zmqUrl format unit .output port = some url)
    (inference : zmqUrl format unit .inference port' = some url') : url'.length ≤ url.length + 25 := by
  have digits : printedLength [port'] ≤ 11 := by
    simpa [printedLength] using ofInt_length_le fits.1 fits.2
  have same : [port].length = [port'].length := rfl
  unfold zmqUrl at output inference
  simp only at output inference
  split at output
  · next sock =>
    rw [if_pos sock] at inference
    -- the formats part after the unit's name
    have parts (endpoint : Endpoint) : format.text ++ (ascii "." ++ unit ++ urlSuffix endpoint) =
        (format.text ++ (ascii "." ++ unit)) ++ urlSuffix endpoint := by
      simp
    rw [parts] at output inference
    have dangling : ∀ args, sprintf (Byte.percent :: urlSuffix .inference) args = none := by
      intro args
      have dot : urlSuffix .inference = Byte.dot :: ascii "inference_url" := rfl
      rw [dot, sprintf.eq_def]
      simp [isIntDirective, show Byte.percent ≠ 0 by decide, show Byte.dot ≠ Byte.percent by decide,
        show Byte.dot ≠ 105 ∧ Byte.dot ≠ 100 by decide]
    have := sprintf_length_le_of_common dangling _ same output inference
    have suffix : (urlSuffix .inference).length = 14 := rfl
    omega
  · next noSock =>
    rw [if_neg noSock] at inference
    rw [← List.append_nil format.text] at output inference
    have dangling : ∀ args, sprintf (Byte.percent :: []) args = none := by
      intro args
      rw [sprintf.eq_def]
      simp [show Byte.percent ≠ 0 by decide]
    have := sprintf_length_le_of_common dangling _ same output inference
    simp only [List.length_nil] at this
    omega

variable (inRange : m.InRange) (fits : IsInt32 uninit.2) (char : PlainChar)

include inRange fits in
/-- A node reads the number and the URLs of a new unit off the reply exactly when the output URL
fits the length byte. -/
theorem registeredUnit_iff {reply : Bytes} (allocated : sysAllocateUnit format uninit unit m = some (u, m'))
    (replied : rpcAllocateUnit format uninit unit m = some (reply, m')) :
    registeredUnit char reply = .ok (u.port, u.outputUrl, u.inferenceUrl) ↔
      ∃ url, zmqUrl format unit .output (takePort uninit.1 m).1 = some url ∧ url.length ≤ char.limit := by
  obtain ⟨port, output, marks, counter, length, inference⟩ := sysAllocateUnit_urls allocated
  obtain rfl : reply = setParam (ofInt u.port) (setParam u.outputUrl u.inferenceUrl) := by
    rw [rpcAllocateUnit, allocated] at replied
    cases replied
    rfl
  constructor
  · intro registered
    refine ⟨u.outputUrl, output, ?_⟩
    -- whatever the callback takes for the output URL is short
    unfold registeredUnit at registered
    cases read : readUnitAs char (setParam (ofInt u.port) (setParam u.outputUrl u.inferenceUrl)) with
    | error fault => rw [read] at registered; cases registered
    | ok parts =>
      obtain ⟨strPort, outPort, inferencePort⟩ := parts
      have same : outPort = u.outputUrl := by
        rw [read] at registered
        simp only [Except.mapError, bind, Except.bind] at registered
        cases number : stoi strPort with
        | error fault => rw [number] at registered; cases registered
        | ok n =>
          rw [number] at registered
          cases registered
          rfl
      exact same ▸ readUnitAs_short read
  · rintro ⟨url, printed, short⟩
    obtain rfl := Option.some.inj (output.symm.trans printed)
    have portFits : IsInt32 (takePort uninit.2 { m with portList := marks, workIdNumberCounter := counter }).1 :=
      takePort_inRange fits fun slot inside => inRange.ports slot (length ▸ inside)
    have similar := inferenceUrl_length_le portFits output inference
    have limit : 11 ≤ char.limit ∧ char.limit ≤ 255 := by cases char <;> decide
    have number : IsInt32 u.port := port ▸ inRange.counter
    have digits := ofInt_length_le number.1 number.2
    have inner : (setParam u.outputUrl u.inferenceUrl).length < 2 ^ 31 := by
      simp only [setParam, List.length_cons, List.length_append]
      omega
    have outer : (setParam (ofInt u.port) (setParam u.outputUrl u.inferenceUrl)).length < 2 ^ 31 := by
      simp only [setParam, List.length_cons, List.length_append]
      omega
    have frame := readParamAs_setParam char (ofInt u.port) (setParam u.outputUrl u.inferenceUrl) (by omega) outer []
    rw [List.append_nil] at frame
    generalize setParam (ofInt u.port) (setParam u.outputUrl u.inferenceUrl) = reply at frame ⊢
    obtain ⟨outPort, inferencePort⟩ :=
      (getParamAs_roundTrip_iff char reply u.outputUrl u.inferenceUrl).mpr ⟨short, inner⟩
    have read : readUnitAs char reply = .ok (ofInt u.port, u.outputUrl, u.inferenceUrl) := by
      have strPort := (getParamAs_msg char reply 1).trans frame.2
      have number := (getParamAs_msg char reply 0).trans frame.1
      have next {α β : Type} (value : α) (rest : α → Except Comm.Fault β) :
          (Except.ok value >>= rest) = rest value := rfl
      rw [readUnitAs, strPort, next, outPort, next, inferencePort, next, number, next]
    rw [registeredUnit, read]
    simp only [Except.mapError, bind, Except.bind, stoi_ofInt number]

end

/-- Frames and the frame in a frame of a registration, on either platform. -/
theorem params_roundTrip_iff (char : PlainChar) :
    (∀ msg param0 param1 : Bytes,
      (getParamAs char msg 0 (setParam param0 param1) = .ok param0 ∧
        getParamAs char msg 1 (setParam param0 param1) = .ok param1) ↔
          param0.length ≤ char.limit ∧ (setParam param0 param1).length < 2 ^ 31) ∧
      ∀ (format : IntFormat) (uninit : Int × Int) (unit : Bytes) (m m' : Registry) (u : UnitData) (reply : Bytes),
        m.InRange → IsInt32 uninit.2 → sysAllocateUnit format uninit unit m = some (u, m') →
          rpcAllocateUnit format uninit unit m = some (reply, m') →
            (registeredUnit char reply = .ok (u.port, u.outputUrl, u.inferenceUrl) ↔
              ∃ url, zmqUrl format unit .output (takePort uninit.1 m).1 = some url ∧ url.length ≤ char.limit) :=
  ⟨getParamAs_roundTrip_iff char, fun _ _ _ _ _ _ _ inRange fits allocated replied =>
    registeredUnit_iff inRange fits char allocated replied⟩

/-- A length that is negative on x86, and one that is nought on ARM. -/
theorem long_params_lost :
    getParamAs .signed [] 0 (setParam (List.replicate 128 97) []) = .error .lengthError ∧
      getParamAs .unsigned [] 0 (setParam (List.replicate 256 97) []) = .ok [] := by
  decide +kernel

/-- A registry that has its two ports free. -/
def twoPorts : Registry := ⟨0, 5010, [false, false], fun _ => none⟩

theorem twoPorts_inRange : twoPorts.InRange where
  counter := by decide
  ports slot inside := by
    have few : slot < 2 := inside
    show IsInt32 (5010 + slot)
    exact ⟨by omega, by omega⟩

theorem params_roundTrip_asr :
    (getParamAs .signed [] 0 (setParam [1] [2]) = .ok [1] ∧ getParamAs .signed [] 1 (setParam [1] [2]) = .ok [2]) ∧
      ∃ (u : UnitData) (m' : Registry) (reply : Bytes),
        rpcAllocateUnit zmqSFormat (0, 0) (ascii "asr") twoPorts = some (reply, m') ∧
        registeredUnit .signed reply = .ok (u.port, u.outputUrl, u.inferenceUrl) := by
  have noPercent : Byte.percent ∉ ascii "asr" := by decide
  have zero : IsInt32 0 := by decide
  obtain ⟨u, m', allocated, -, -, printed, -⟩ := sysAllocateUnit_sql zmqSFormat (0, 0) noPercent twoPorts
  have short := zmqUrl_length noPercent (takePort_inRange zero twoPorts_inRange.ports) printed
  have replied : rpcAllocateUnit zmqSFormat (0, 0) (ascii "asr") twoPorts =
      some (setParam (ofInt u.port) (setParam u.outputUrl u.inferenceUrl), m') := by
    rw [rpcAllocateUnit, allocated]
    rfl
  have both := params_roundTrip_iff .signed
  refine ⟨(both.1 [] [1] [2]).mpr (by decide), u, m', _, replied, ?_⟩
  exact (both.2 zmqSFormat (0, 0) (ascii "asr") twoPorts m' u _ twoPorts_inRange zero allocated replied).mpr
    ⟨_, printed, short.trans (by decide)⟩

end EdgeFlow.System
