import EdgeFlow.Library.Except
import EdgeFlow.Manager.Verdict

/-! The sockets that `remote_call` connects to. -/

set_option autoImplicit false

namespace EdgeFlow.Manager
open Library Library.Printf Comm

/-- The endpoint `creat_req` hands to `zmq_connect`, if it gets there: a C string, which ends at the first NUL. -/
def connected (units : Units) (server : Bytes) : Option Bytes :=
  if server = [] then none
  else if rpcUrlHead server ≠ [] ∧ units.access ((rpcUrl server).drop rpcUrlHeadLength) = false then none
  else some (cstr (rpcUrl server))

/-- The endpoint that unit-manager connects to in sending it. -/
def Sent.endpoint (units : Units) : Sent → Option Bytes
  | .called unit _ _ => connected units unit
  | .error .. | .published .. => none

def endpoints (units : Units) (sent : List Sent) : List Bytes := sent.filterMap (Sent.endpoint units)

/-- The socket of the unit that a work id belongs to. -/
def localEndpoint (unit : Bytes) : Bytes := ascii "ipc:///tmp/rpc." ++ unit

/-- `creat_req` returns what `zmq_connect` does, or -1 without it. -/
theorem creatReq_eq (units : Units) {server : Bytes} (named : server ≠ []) :
    creatReq units server = if (connected units server).isSome then units.zmqConnect (rpcUrl server) else -1 := by
  unfold creatReq connected
  rw [if_neg named]
  split
  · rfl
  · rfl

/-- The names for which nothing but the unit's own socket is connected to. -/
def LocalName (units : Units) (server : Bytes) : Prop :=
  (∀ before after, server ≠ before ++ ascii "://" ++ after) ∧
    (0 ∈ server → units.access ((localEndpoint server).drop rpcUrlHeadLength) = false)

theorem find_eq_none_iff {pattern text : Bytes} :
    Search.find pattern text = none ↔ ∀ before after, text ≠ before ++ pattern ++ after := by
  constructor
  · intro absent before after same
    exact Search.find_none absent before after same
  · intro absent
    cases found : Search.find pattern text with
    | none => rfl
    | some position =>
      obtain ⟨before, after, -, first⟩ := Search.find_some found
      exact absurd first.occurs (absent before after)

/-- A name that is a URL is connected to as it stands. -/
theorem connected_url (units : Units) {before after : Bytes} :
    ∃ endpoint, connected units (before ++ ascii "://" ++ after) = some endpoint ∧
      endpoint ≠ localEndpoint (before ++ ascii "://" ++ after) := by
  have named : before ++ ascii "://" ++ after ≠ [] := by simp [ascii]
  have isUrl : rpcUrlHead (before ++ ascii "://" ++ after) = [] := by
    rw [rpcUrlHead, if_pos]
    rw [← Option.ne_none_iff_isSome]
    exact fun absent => find_eq_none_iff.mp absent before after rfl
  refine ⟨cstr (before ++ ascii "://" ++ after), ?_, ?_⟩
  · simp only [connected, rpcUrl, isUrl, if_neg named, ne_eq, not_true_eq_false, false_and, if_false, List.nil_append]
  · -- without the prefix it is too short
    intro same
    have short := (List.takeWhile_sublist (l := before ++ ascii "://" ++ after) (· ≠ 0)).length_le
    have length := congrArg List.length same
    have prefixed : (ascii "ipc:///tmp/rpc.").length = 15 := by decide
    rw [localEndpoint, List.length_append, prefixed, cstr] at length
    simp only [ne_eq] at short length
    omega

theorem connected_name (units : Units) {server : Bytes} (named : server ≠ [])
    (noUrl : ∀ before after, server ≠ before ++ ascii "://" ++ after) :
    connected units server =
      if units.access ((localEndpoint server).drop rpcUrlHeadLength) = false then none
      else some (ascii "ipc:///tmp/rpc." ++ cstr server) := by
  have head : rpcUrlHead server = ascii "ipc:///tmp/rpc." := by
    rw [rpcUrlHead, find_eq_none_iff.mpr noUrl]
    rfl
  have present : ascii "ipc:///tmp/rpc." ≠ [] := by decide
  have noNul : 0 ∉ ascii "ipc:///tmp/rpc." := by decide
  simp only [connected, rpcUrl, head, if_neg named, cstr_append noNul, localEndpoint]
  exact if_congr (and_iff_right present) rfl rfl

/-- A unit is called at its own socket or not at all, exactly when its name is local. -/
theorem connected_local_iff (units : Units) (server : Bytes) :
    (∀ endpoint ∈ connected units server, endpoint = localEndpoint server) ↔ LocalName units server := by
  by_cases named : server = []
  · subst named
    have noUrl : ∀ before after : Bytes, [] ≠ before ++ ascii "://" ++ after := by simp [ascii]
    have noCall : connected units [] = none := rfl
    rw [noCall]
    exact iff_of_true (fun _ member => by cases member) ⟨noUrl, fun nul => by cases nul⟩
  · by_cases noUrl : ∀ before after, server ≠ before ++ ascii "://" ++ after
    · rw [connected_name units named noUrl]
      by_cases missing : units.access ((localEndpoint server).drop rpcUrlHeadLength) = false
      · rw [if_pos missing]
        exact iff_of_true (fun _ member => by cases member) ⟨noUrl, fun _ => missing⟩
      · rw [if_neg missing]
        simp only [Option.mem_def, Option.some.injEq, forall_eq', localEndpoint,
          List.append_cancel_left_eq, cstr_eq_iff]
        constructor
        · intro noNul
          exact ⟨noUrl, fun nul => absurd nul noNul⟩
        · intro isLocal nul
          exact missing (isLocal.2 nul)
    · have url := noUrl
      push Not at url
      obtain ⟨before, after, rfl⟩ := url
      obtain ⟨endpoint, connects, other⟩ := connected_url units
      apply iff_of_false
      · exact fun all => other (all endpoint connects)
      · exact fun isLocal => noUrl isLocal.1

section
variable {bus : Bus} {units : Units} {comId : Int} {jsonStr : Bytes} {sent : List Sent}

/-- The request goes to `remote_call`. -/
def Routed (bus : Bus) (jsonStr : Bytes) : Prop :=
  ∃ header, readHeader bus.simdjson jsonStr = some header ∧ header.action.value ≠ ascii "inference" ∧
    beforeDot header.routedId ≠ []

theorem usrPrintError_endpoints {requestId workId : Bytes} {error : UnitError} {zmqOut : Int} {sent : List Sent}
    (returned : usrPrintError requestId workId error zmqOut = .ok sent) : endpoints units sent = [] := by
  unfold usrPrintError at returned
  split at returned
  · cases returned
    rfl
  · cases returned

theorem endpoints_called (unit action payload : Bytes) :
    endpoints units [.called unit action payload] = (connected units unit).toList := by
  rw [endpoints, List.filterMap_cons, Sent.endpoint]
  cases connected units unit with
  | none => rfl
  | some endpoint => rfl

theorem endpoints_append (first second : List Sent) :
    endpoints units (first ++ second) = endpoints units first ++ endpoints units second :=
  List.filterMap_append ..

theorem remoteCall_endpoints {ret : Int} (returned : remoteCall bus comId jsonStr = .ok (ret, sent)) :
    endpoints units sent = (connected units (beforeDot (bus.rereadWorkId jsonStr))).toList := by
  simp only [remoteCall] at returned
  split at returned
  · cases returned
  · split at returned
    · next unnamed =>
      cases returned
      have noCall : connected units [] = none := rfl
      have unnamed : beforeDot (bus.rereadWorkId jsonStr) = [] := unnamed
      rw [unnamed, noCall]
      rfl
    · cases returned
      exact endpoints_called ..

theorem unitActionMatch_routed (routed : Routed bus jsonStr) (returned : unitActionMatch bus comId jsonStr = .ok sent) :
    endpoints units sent = (connected units (beforeDot (bus.rereadWorkId jsonStr))).toList := by
  obtain ⟨header, read, notInference, named⟩ := routed
  have fragment : (fragments [] header.routedId).headD [] ≠ [] := by
    rw [fragments_head]
    exact named
  simp only [unitActionMatch, read, if_neg notInference, if_pos fragment] at returned
  obtain ⟨⟨ret, called⟩, calls, returned⟩ := ok_of_bind returned
  rw [← remoteCall_endpoints calls]
  split at returned
  · rw [usrPrintError_isOk _ _ header.requestId.valid header.routedId_valid] at returned
    cases returned
    rw [endpoints_append]
    exact List.append_nil _
  · cases returned
    rfl

theorem unitActionMatch_unrouted (unrouted : ¬ Routed bus jsonStr)
    (returned : unitActionMatch bus comId jsonStr = .ok sent) : endpoints units sent = [] := by
  unfold unitActionMatch at returned
  split at returned
  · exact usrPrintError_endpoints returned
  · next header read =>
    split at returned
    · -- an inference is published, and an error line connects to nothing
      simp only [zmqBusPublisherPush, if_neg header.routedId_ne_nil] at returned
      split at returned
      · cases returned
        rfl
      · cases returned
        rfl
    · next notInference =>
      dsimp only at returned
      split at returned
      · next named =>
        rw [fragments_head] at named
        exact absurd ⟨header, read, notInference, named⟩ unrouted
      · cases returned
        rfl

/-- The only endpoint a request makes unit-manager connect to is the socket of the unit its work id names, exactly when
a request that goes to `remote_call` names a unit that is local. -/
theorem remote_call_local_iff (units : Units) (returned : unitActionMatch (bus.among units) comId jsonStr = .ok sent) :
    (∀ endpoint ∈ endpoints units sent, endpoint = localEndpoint (beforeDot (bus.rereadWorkId jsonStr))) ↔
      (Routed bus jsonStr → LocalName units (beforeDot (bus.rereadWorkId jsonStr))) := by
  by_cases routed : Routed bus jsonStr
  · have routedAmong : Routed (bus.among units) jsonStr := routed
    rw [unitActionMatch_routed routedAmong returned]
    simp only [Option.mem_toList, routed, forall_true_left]
    exact connected_local_iff units _
  · have unroutedAmong : ¬ Routed (bus.among units) jsonStr := routed
    rw [unitActionMatch_unrouted unroutedAmong returned]
    exact iff_of_true (fun _ member => by cases member) fun isRouted => absurd isRouted routed

end

def setupAt (workId : String) : Bytes :=
  ascii ("\x7b\"request_id\":\"1\",\"work_id\":\"" ++ workId ++ "\",\"action\":\"setup\"\x7d")

/-- A work id that is a URL of another host. -/
theorem remote_call_elsewhere :
    unitActionMatch (Bus.unattended.among .idle) 8000 (setupAt "tcp://evil:5555") =
        .ok [.called (ascii "tcp://evil:5555") (ascii "setup")
          (setParam (ascii "ipc:///tmp/llm/8000.sock") (setupAt "tcp://evil:5555"))] ∧
      ¬ ∀ endpoint ∈ endpoints .idle [.called (ascii "tcp://evil:5555") (ascii "setup")
          (setParam (ascii "ipc:///tmp/llm/8000.sock") (setupAt "tcp://evil:5555"))],
        endpoint = localEndpoint (beforeDot (Bus.unattended.rereadWorkId (setupAt "tcp://evil:5555"))) := by
  constructor
  · decide +kernel
  · decide +kernel

/-- What a setup of the ASR node makes unit-manager send. -/
def setupAsrSent : List Sent :=
  [.called (ascii "asr") (ascii "setup") (setParam (ascii "ipc:///tmp/llm/8000.sock") (setupAt "asr.0"))]

theorem remote_call_local_asr : endpoints .idle setupAsrSent ≠ [] ∧ ∀ endpoint ∈ endpoints .idle setupAsrSent,
    endpoint = localEndpoint (beforeDot (Bus.unattended.rereadWorkId (setupAt "asr.0"))) := by
  have returned : unitActionMatch (Bus.unattended.among .idle) 8000 (setupAt "asr.0") = .ok setupAsrSent := by
    decide +kernel
  have again : beforeDot (Bus.unattended.rereadWorkId (setupAt "asr.0")) = ascii "asr" := by decide +kernel
  refine ⟨by decide +kernel, ?_⟩
  apply (remote_call_local_iff .idle returned).mpr
  intro _
  rw [again]
  refine ⟨?_, fun nul => absurd nul (by decide)⟩
  apply find_eq_none_iff.mp
  decide

end EdgeFlow.Manager
