import EdgeFlow.Manager.Registry

/-! The URLs of a new unit, under any format with one `%i` and for any unit name. -/

set_option autoImplicit false

namespace EdgeFlow.Manager
open Library Library.Printf Library.Decimal

/-- `zmq_format`: a format of socket files has the name of the unit behind it. -/
def zmqFormat (zmqSFormat unit : Bytes) (endpoint : Endpoint) : Bytes :=
  if (Search.find (ascii "sock") zmqSFormat).isSome then zmqSFormat ++ (ascii "." ++ unit ++ urlSuffix endpoint)
  else zmqSFormat

/-- `sys_allocate_unit` with the text of `zmq_s_format`, whatever it is. -/
def sysAllocateUnitAs (zmqSFormat : Bytes) (uninit : Int × Int) (unit : Bytes) (m : Registry) :
    Option (UnitData × Registry) := do
  let number := m.workIdNumberCounter
  let m := { m with workIdNumberCounter := wrap32 (number + 1) }
  let workId := unit ++ ascii "." ++ ofInt number
  let (outputPort, m) := takePort uninit.1 m
  let outputUrl ← sprintf (zmqFormat zmqSFormat unit .output) [outputPort]
  let (inferencePort, m) := takePort uninit.2 m
  let inferenceUrl ← sprintf (zmqFormat zmqSFormat unit .inference) [inferencePort]
  let u : UnitData := { port := number, workId, outputUrl, inferenceUrl }
  some (u, (m.set workId (.unit u)).set (outPortKey workId) (.text outputUrl))

theorem sysAllocateUnitAs_text (format : IntFormat) : sysAllocateUnitAs format.text = sysAllocateUnit format := rfl

/-- The ports a registration takes. -/
def takenPort (uninit : Int × Int) (m : Registry) : Endpoint → Int
  | .output => (takePort uninit.1 m).1
  | .inference => (takePort uninit.2 (takePort uninit.1 m).2).1

theorem takePort_counter (uninit counter : Int) (m : Registry) :
    takePort uninit { m with workIdNumberCounter := counter } =
      ((takePort uninit m).1, { (takePort uninit m).2 with workIdNumberCounter := counter }) := by
  unfold takePort
  dsimp only
  split
  · rfl
  · rfl

/-- All that a registration leaves behind, where it is defined. -/
theorem sysAllocateUnit_some {format : IntFormat} {uninit : Int × Int} {unit : Bytes} {m m' : Registry} {u : UnitData}
    (allocated : sysAllocateUnit format uninit unit m = some (u, m')) :
    u.workId = unit ++ ascii "." ++ ofInt m.workIdNumberCounter ∧
      (∀ endpoint, zmqUrl format unit endpoint (takenPort uninit m endpoint) = some (u.url endpoint)) ∧
      m' = { (takePort uninit.2 (takePort uninit.1 m).2).2 with
        workIdNumberCounter := wrap32 (m.workIdNumberCounter + 1)
        keySql := Function.update (Function.update m.keySql u.workId (some (.unit u)))
          (outPortKey u.workId) (some (.text u.outputUrl)) } := by
  have keySql (uninit : Int) (m : Registry) : (takePort uninit m).2.keySql = m.keySql := by
    unfold takePort
    split
    · rfl
    · rfl
  simp only [sysAllocateUnit, takePort_counter, Option.bind_eq_bind] at allocated
  obtain ⟨outputUrl, output, allocated⟩ := Option.bind_eq_some_iff.mp allocated
  obtain ⟨inferenceUrl, inference, allocated⟩ := Option.bind_eq_some_iff.mp allocated
  cases allocated
  refine ⟨rfl, fun endpoint => ?_, ?_⟩
  · cases endpoint with
    | output => exact output
    | inference => exact inference
  · simp only [Registry.set, keySql]

/-- A registration succeeds with what `sprintf` makes of the two ports. -/
theorem sysAllocateUnitAs_urls (zmqSFormat : Bytes) (uninit : Int × Int) (unit : Bytes) (m : Registry)
    (holds : Endpoint → Bytes → Prop) :
    (∃ u m', sysAllocateUnitAs zmqSFormat uninit unit m = some (u, m') ∧ ∀ endpoint, holds endpoint (u.url endpoint)) ↔
      ∀ endpoint, ∃ url, sprintf (zmqFormat zmqSFormat unit endpoint) [takenPort uninit m endpoint] = some url ∧
        holds endpoint url := by
  simp only [sysAllocateUnitAs, takePort_counter]
  change (∃ u m', ((sprintf (zmqFormat zmqSFormat unit .output) [takenPort uninit m .output]).bind fun outputUrl =>
    (sprintf (zmqFormat zmqSFormat unit .inference) [takenPort uninit m .inference]).bind fun inferenceUrl => _) = _ ∧
      _) ↔ _
  constructor
  · rintro ⟨u, m', allocated, all⟩
    obtain ⟨outputUrl, output, allocated⟩ := Option.bind_eq_some_iff.mp allocated
    obtain ⟨inferenceUrl, inference, allocated⟩ := Option.bind_eq_some_iff.mp allocated
    cases allocated
    intro endpoint
    cases endpoint with
    | output => exact ⟨outputUrl, output, all .output⟩
    | inference => exact ⟨inferenceUrl, inference, all .inference⟩
  · intro printed
    obtain ⟨outputUrl, output, outputHolds⟩ := printed .output
    obtain ⟨inferenceUrl, inference, inferenceHolds⟩ := printed .inference
    refine ⟨_, _, by rw [output, Option.bind_some, inference, Option.bind_some], ?_⟩
    intro endpoint
    cases endpoint with
    | output => exact outputHolds
    | inference => exact inferenceHolds

section
variable {before after : Bytes} (unit : Bytes) (endpoint : Endpoint) (port : Int)

/-- What is printed behind the format. -/
def urlEnd : Bytes := ascii "." ++ unit ++ urlSuffix endpoint

/-- The URL of an endpoint is its format with the port put in and the unit behind it, is printed within `buff`, and
gives the port back to `sscanf`. -/
structure UrlExact (before after unit : Bytes) (endpoint : Endpoint) (port : Int) (url : Bytes) : Prop where
  verbatim : url = before ++ ofInt port ++ after ++ urlEnd unit endpoint
  /-- with the NUL that `sprintf` writes -/
  bounded : url.length + 1 ≤ (zmqFormat (before ++ ascii "%i" ++ after) unit endpoint).length + (ofInt port).length
  recovered : (sscanf url (before ++ ascii "%i" ++ after)).head? = some port

/-- `%i` reads the port where it was printed, whatever stands behind it. -/
def ReadsBack (rest : Bytes) : Prop := (scanInteger (ofInt port ++ rest)).map Prod.fst = some port

theorem readsBack_of_endsNumber {rest : Bytes} (ends : EndsNumber rest) : ReadsBack port rest := by
  rw [ReadsBack, scanInteger_ofInt port ends]
  rfl

theorem literal_urlEnd : Literal (urlEnd unit endpoint) ↔ Literal unit := by
  have dot : Literal (ascii ".") := by decide +kernel
  have suffix : Literal (urlSuffix endpoint) := by cases endpoint <;> decide +kernel
  constructor
  · intro literal c member
    exact literal c (List.mem_append_left _ (List.mem_append_right _ member))
  · intro literal
    exact (dot.append literal).append suffix

variable (literalBefore : Literal before) (literalAfter : Literal after)

include literalBefore literalAfter

theorem sprintf_format (rest : Bytes) :
    sprintf (before ++ ascii "%i" ++ after ++ rest) [port] =
      (sprintf rest []).map (before ++ ofInt port ++ after ++ ·) := by
  rw [List.append_assoc, List.append_assoc, sprintf_append_of_literal literalBefore, sprintf_int,
    sprintf_append_of_literal literalAfter, Option.map_map, Option.map_map]
  congr 1
  funext text
  simp [Function.comp]

omit literalAfter in
theorem sscanf_format (rest : Bytes) :
    (sscanf (before ++ ofInt port ++ after ++ rest) (before ++ ascii "%i" ++ after)).head? = some port ↔
      ReadsBack port (after ++ rest) := by
  have begins := dropWhile_isSpace_ofInt port (after ++ rest)
  rw [List.append_assoc, List.append_assoc, List.append_assoc before (ascii "%i"),
    (sscanf_append_of_literal literalBefore begins _).1, sscanf_int_head]
  rfl

/-- The URL of an endpoint is exact when its name stands for itself in a format of socket files and the port is read
back, and only then. -/
theorem urlExact_iff :
    (∃ url, sprintf (zmqFormat (before ++ ascii "%i" ++ after) unit endpoint) [port] = some url ∧
        UrlExact before after unit endpoint port url) ↔
      (Search.find (ascii "sock") (before ++ ascii "%i" ++ after)).isSome = true ∧ Literal unit ∧
        ReadsBack port (after ++ urlEnd unit endpoint) := by
  by_cases sock : (Search.find (ascii "sock") (before ++ ascii "%i" ++ after)).isSome = true
  · have format : zmqFormat (before ++ ascii "%i" ++ after) unit endpoint =
        before ++ ascii "%i" ++ after ++ urlEnd unit endpoint := if_pos sock
    rw [format, sprintf_format port literalBefore literalAfter, ← literal_urlEnd unit endpoint, ← sprintf_self_iff]
    constructor
    · rintro ⟨url, printed, exact⟩
      obtain ⟨text, rest, rfl⟩ := Option.map_eq_some_iff.mp printed
      obtain rfl := List.append_cancel_left exact.verbatim
      exact ⟨sock, rest, (sscanf_format port literalBefore _).mp exact.recovered⟩
    · rintro ⟨-, rest, reads⟩
      refine ⟨_, by rw [rest]; rfl, rfl, ?_, (sscanf_format port literalBefore _).mpr reads⟩
      -- the two bytes of `%i` leave room for the NUL
      have directive : (ascii "%i").length = 2 := rfl
      rw [format]
      simp only [List.length_append, directive]
      omega
  · -- without the unit the URL is too short
    have format : zmqFormat (before ++ ascii "%i" ++ after) unit endpoint = before ++ ascii "%i" ++ after := if_neg sock
    apply iff_of_false
    · rintro ⟨url, printed, exact⟩
      have alone := sprintf_format port literalBefore literalAfter []
      rw [List.append_nil] at alone
      rw [format, alone] at printed
      cases printed
      have same := List.append_cancel_left exact.verbatim
      have ends : urlEnd unit endpoint ≠ [] := by simp [urlEnd, ascii]
      exact ends same.symm
    · rintro ⟨isSock, -⟩
      exact sock isSock

end

/-- Whatever the name of the unit prints as, its dot ends the port. -/
theorem zmqUrl_embedded {format : IntFormat} {unit url : Bytes} {endpoint : Endpoint} {port : Int}
    (printed : zmqUrl format unit endpoint port = some url) : embeddedPort format url = some port := by
  have before := format.plainBefore.literal
  have reads (rest : Bytes) (ends : EndsNumber (format.after ++ rest)) :
      embeddedPort format (format.before ++ ofInt port ++ format.after ++ rest) = some port :=
    (sscanf_format port before rest).mpr (readsBack_of_endsNumber port ends)
  unfold zmqUrl at printed
  rw [IntFormat.text] at printed
  split at printed
  · rw [sprintf_format port before format.plainAfter.literal] at printed
    obtain ⟨text, dotted, rfl⟩ := Option.map_eq_some_iff.mp printed
    have dot : ascii "." ++ unit ++ urlSuffix endpoint = Byte.dot :: (unit ++ urlSuffix endpoint) := rfl
    rw [dot, sprintf_literal (by decide) (by decide)] at dotted
    obtain ⟨rest, -, rfl⟩ := Option.map_eq_some_iff.mp dotted
    apply reads
    cases shape : format.after with
    | nil =>
      intro c member
      obtain rfl : Byte.dot = c := by simpa using member
      decide
    | cons c after =>
      have ends := format.endsNumber
      rw [shape] at ends
      exact ends
  · have alone := sprintf_format port before format.plainAfter.literal []
    rw [List.append_nil] at alone
    rw [alone] at printed
    cases printed
    apply reads
    rw [List.append_nil]
    exact format.endsNumber

/-- A registration gives its unit two exact URLs. -/
def AllocatesExactly (before after : Bytes) (uninit : Int × Int) (unit : Bytes) (m : Registry) : Prop :=
  ∃ u m', sysAllocateUnitAs (before ++ ascii "%i" ++ after) uninit unit m = some (u, m') ∧
    ∀ endpoint, UrlExact before after unit endpoint (takenPort uninit m endpoint) (u.url endpoint)

/-- Under any format with one `%i`, a registration gives its unit exact URLs exactly when the format is one of socket
files, the name of the unit has neither a percent sign nor a NUL, and `%i` reads both ports back from before what
follows them. -/
theorem allocatesExactly_iff {before after : Bytes} (literalBefore : Literal before) (literalAfter : Literal after)
    (uninit : Int × Int) (unit : Bytes) (m : Registry) :
    AllocatesExactly before after uninit unit m ↔
      (Search.find (ascii "sock") (before ++ ascii "%i" ++ after)).isSome = true ∧ Literal unit ∧
        ∀ endpoint, ReadsBack (takenPort uninit m endpoint) (after ++ urlEnd unit endpoint) := by
  unfold AllocatesExactly
  rw [sysAllocateUnitAs_urls _ _ _ _ fun endpoint url =>
    UrlExact before after unit endpoint (takenPort uninit m endpoint) url]
  simp only [urlExact_iff _ _ _ literalBefore literalAfter]
  constructor
  · intro all
    exact ⟨(all .output).1, (all .output).2.1, fun endpoint => (all endpoint).2.2⟩
  · rintro ⟨sock, literal, reads⟩ endpoint
    exact ⟨sock, literal, reads endpoint⟩

/-- A new registry with the ports of the default configuration. -/
def Registry.idle : Registry := ⟨0, 5010, List.replicate 545 false, masterConfig.keySql⟩

theorem allocatesExactly_asr : AllocatesExactly zmqSFormat.before zmqSFormat.after (0, 0) (ascii "asr") .idle := by
  apply (allocatesExactly_iff (by decide +kernel) (by decide +kernel) (0, 0) (ascii "asr") .idle).mpr
  refine ⟨by decide +kernel, by decide +kernel, fun endpoint => readsBack_of_endsNumber _ ?_⟩
  cases endpoint with
  | output => decide +kernel
  | inference => decide +kernel

/-- A directive in the name of a unit asks for an argument that is not there. -/
theorem directive_not_exact :
    ¬ AllocatesExactly zmqSFormat.before zmqSFormat.after (0, 0) (ascii "%s") .idle := by
  rintro ⟨u, m', allocated, -⟩
  have undefined : sysAllocateUnitAs (zmqSFormat.before ++ ascii "%i" ++ zmqSFormat.after) (0, 0) (ascii "%s") .idle =
      none := by
    decide +kernel
  rw [undefined] at allocated
  cases allocated

end EdgeFlow.Manager
