import EdgeFlow.Library.Lines
import EdgeFlow.Library.Printf
import EdgeFlow.Library.Search
import Mathlib.Logic.Function.Basic

/-! The registry of unit-manager: `key_sql`, the port bitmap, and the
`register_unit` and `release_unit` RPCs that keep them together.

An uninitialised `int` of the source is an argument, so that a result can be
stated for whatever it holds. Where `sprintf` would read an argument that was
not passed, or `port_list` be written outside of its bounds, there is no result.
-/

set_option autoImplicit false

namespace EdgeFlow.Manager
open Library Library.Printf Library.Decimal

/-- The two URLs a unit is given, each with a port of its own. -/
inductive Endpoint where
  | output
  | inference
  deriving DecidableEq, Repr

/-- `unit_data`; `port_` is the number in the work id. -/
structure UnitData where
  port : Int
  workId : Bytes
  outputUrl : Bytes
  inferenceUrl : Bytes
  deriving DecidableEq

def UnitData.url (u : UnitData) : Endpoint → Bytes
  | .output => u.outputUrl
  | .inference => u.inferenceUrl

/-- The types a `std::any` of `key_sql` is given. -/
inductive SqlValue where
  | int (n : Int)
  | text (s : Bytes)
  | unit (u : UnitData)
  deriving DecidableEq

/-- The globals of `remote_server.cpp`, with `key_sql`. -/
structure Registry where
  workIdNumberCounter : Int
  portListStart : Int
  portList : List Bool
  keySql : Bytes → Option SqlValue

/-- `SAFE_READING` of a `unit_data *`: NULL unless the key holds one. -/
def Registry.readUnit (m : Registry) (key : Bytes) : Option UnitData :=
  match m.keySql key with
  | some (.unit u) => some u
  | _ => none

/-- `SAFE_SETTING`. -/
def Registry.set (m : Registry) (key : Bytes) (value : SqlValue) : Registry :=
  { m with keySql := Function.update m.keySql key (some value) }

/-- `SAFE_ERASE`. -/
def Registry.erase (m : Registry) (key : Bytes) : Registry :=
  { m with keySql := Function.update m.keySql key none }

/-- `int` arithmetic of `std::atomic<int>` wraps. -/
def wrap32 (n : Int) : Int := Int.bmod n (2 ^ 32)

/-- The first free slot is marked; with none left `port` keeps what it happened to hold. -/
def takePort (uninit : Int) (m : Registry) : Int × Registry :=
  match m.portList.findIdx? (fun mark => !mark) with
  | some i => (m.portListStart + i, { m with portList := m.portList.set i true })
  | none => (uninit, m)

def urlSuffix (endpoint : Endpoint) : Bytes :=
  match endpoint with
  | .output => ascii ".output_url"
  | .inference => ascii ".inference_url"

/-- `zmq_format` printed with one port. -/
def zmqUrl (format : IntFormat) (unit : Bytes) (endpoint : Endpoint) (port : Int) : Option Bytes :=
  let zmqFormat :=
    if (Search.find (ascii "sock") format.text).isSome then
      format.text ++ (ascii "." ++ unit ++ urlSuffix endpoint)
    else format.text
  sprintf zmqFormat [port]

def outPortKey (workId : Bytes) : Bytes := workId ++ ascii ".out_port"

def sysAllocateUnit (format : IntFormat) (uninit : Int × Int) (unit : Bytes) (m : Registry) :
    Option (UnitData × Registry) := do
  let number := m.workIdNumberCounter
  let m := { m with workIdNumberCounter := wrap32 (number + 1) }
  let workId := unit ++ ascii "." ++ ofInt number
  let (outputPort, m) := takePort uninit.1 m
  let outputUrl ← zmqUrl format unit .output outputPort
  let (inferencePort, m) := takePort uninit.2 m
  let inferenceUrl ← zmqUrl format unit .inference inferencePort
  let u : UnitData := { port := number, workId, outputUrl, inferenceUrl }
  some (u, (m.set workId (.unit u)).set (outPortKey workId) (.text outputUrl))

/-- The port `sscanf` finds in a URL; nothing is stored when there is none. -/
def embeddedPort (format : IntFormat) (url : Bytes) : Option Int := (sscanf url format.text).head?

/-- `port_list[port - port_list_start] = false`; outside the bitmap the write is undefined. -/
def freePort (port : Int) (m : Registry) : Option Registry :=
  if m.portListStart ≤ port ∧ port < m.portListStart + m.portList.length then
    some { m with portList := m.portList.set (port - m.portListStart).toNat false }
  else none

def sysReleaseUnit (format : IntFormat) (uninit : Int) (unit : Bytes) (m : Registry) : Option (Int × Registry) :=
  match m.readUnit unit with
  | none => some (-1, m)
  | some u => do
    let port := (embeddedPort format u.outputUrl).getD uninit
    let m ← freePort port m
    let port := (embeddedPort format u.inferenceUrl).getD port
    let m ← freePort port m
    some (0, (m.erase unit).erase (outPortKey unit))

/-- What `load_default_config` leaves in `key_sql`: numbers and texts. -/
structure Config where
  keySql : Bytes → Option SqlValue
  noUnit : ∀ key u, keySql key ≠ some (.unit u)

/-- `SAFE_READING` of an `int`. -/
def Config.readInt (config : Config) (key : Bytes) : Option Int :=
  match config.keySql key with
  | some (.int n) => some n
  | _ => none

/-- `remote_server_work`; `resize` throws when the ports end before they start. -/
def remoteServerWork (uninit : Int) (config : Config) : Option Registry :=
  let counter := (config.readInt (ascii "config_work_id")).getD 0
  let portListStart := (config.readInt (ascii "config_zmq_min_port")).getD 0
  let portListEnd := (config.readInt (ascii "config_zmq_max_port")).getD uninit
  if portListEnd < portListStart then none
  else some ⟨counter, portListStart, List.replicate (portListEnd - portListStart).toNat false, config.keySql⟩

/-- The formats of `master_config.json`. -/
def zmqSFormat : IntFormat where
  before := ascii "ipc:///tmp/llm/"
  after := ascii ".sock"
  plainBefore := by decide +kernel
  plainAfter := by decide +kernel
  endsNumber := by decide +kernel

def zmqCFormat : IntFormat := zmqSFormat

/-- `key_sql` as `load_default_config` fills it from `master_config.json`. -/
def masterConfig : Config where
  keySql key :=
    if key = ascii "config_tcp_server" then some (.int 10001)
    else if key = ascii "config_zmq_min_port" then some (.int 5010)
    else if key = ascii "config_zmq_max_port" then some (.int 5555)
    else if key = ascii "config_zmq_s_format" then some (.text zmqSFormat.text)
    else if key = ascii "config_zmq_c_format" then some (.text zmqCFormat.text)
    else none
  noUnit key u := by
    repeat' split
    all_goals simp

/-! ## Keys -/

theorem dot_notMem_ofInt (n : Int) : Byte.dot ∉ ofInt n := fun member =>
  absurd (mem_ofInt member) (by decide)

theorem workId_inj {unit unit' : Bytes} {n n' : Int}
    (same : unit ++ ascii "." ++ ofInt n = unit' ++ ascii "." ++ ofInt n') : unit = unit' ∧ n = n' := by
  have dot : ascii "." = [Byte.dot] := rfl
  simp only [dot, List.append_assoc, List.singleton_append] at same
  obtain ⟨units, numbers⟩ := Lines.last_part_inj (dot_notMem_ofInt n) (dot_notMem_ofInt n') same
  exact ⟨units, ofInt_injective numbers⟩

/-- The key of an output URL is not the key of a unit. -/
theorem outPortKey_ne_workId (key unit : Bytes) (n : Int) :
    outPortKey key ≠ unit ++ ascii "." ++ ofInt n := by
  intro same
  have dot : ascii "." = [Byte.dot] := rfl
  have key' : outPortKey key = key ++ Byte.dot :: ascii "out_port" := rfl
  simp only [dot, key', List.append_assoc, List.singleton_append] at same
  obtain ⟨_, letters⟩ := Lines.last_part_inj (by decide) (dot_notMem_ofInt n) same
  have letter : (111 : Byte) ∈ ofInt n := letters ▸ by decide
  exact absurd (mem_ofInt letter) (by decide)

theorem outPortKey_inj {key key' : Bytes} (same : outPortKey key = outPortKey key') : key = key' :=
  List.append_cancel_right same

/-! ## URLs -/

/-- A URL carries the port it was printed with. -/
theorem zmqUrl_embeds (format : IntFormat) {unit : Bytes} (noPercent : Byte.percent ∉ unit)
    (endpoint : Endpoint) (port : Int) :
    ∃ url, zmqUrl format unit endpoint port = some url ∧ embeddedPort format url = some port := by
  unfold zmqUrl
  split
  · have plain : Byte.percent ∉ ascii "." ++ unit ++ urlSuffix endpoint := by
      simp only [List.mem_append, not_or]
      exact ⟨⟨by decide, noPercent⟩, by cases endpoint <;> decide⟩
    refine ⟨_, format.sprintf_text plain port, ?_⟩
    have tail : cstr (ascii "." ++ unit ++ urlSuffix endpoint) =
        Byte.dot :: cstr (unit ++ urlSuffix endpoint) := by simp [ascii, cstr]
    have ends : EndsNumber (format.after ++ Byte.dot :: cstr (unit ++ urlSuffix endpoint)) := by
      cases shape : format.after with
      | nil =>
        intro c member
        obtain rfl : Byte.dot = c := by simpa using member
        decide
      | cons c after => simpa [EndsNumber, shape] using format.endsNumber
    rw [embeddedPort, tail, format.sscanf_render port ends]
    rfl
  · refine ⟨_, format.sprintf_alone port, ?_⟩
    have ends : EndsNumber (format.after ++ []) := by simpa using format.endsNumber
    have read := format.sscanf_render port ends
    rw [List.append_nil] at read
    rw [embeddedPort, read]
    rfl

end EdgeFlow.Manager
