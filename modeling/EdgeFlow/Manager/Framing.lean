import EdgeFlow.Library.Bytes
import EdgeFlow.Library.Lines

/-! Request framing on the TCP side of unit-manager: what `onMessage` makes of
the bytes each read leaves in a connection's input buffer.

`json_str_` and `json_str_flage_` of `zmq_bus_com` are declared and never used,
so a session keeps nothing between two deliveries.
-/

set_option autoImplicit false

namespace EdgeFlow.Manager.Framing
open Library

/-- `JsonLineClient.send`: the text of one message and a newline. -/
def send (message : Bytes) : Bytes := message ++ [Byte.newline]

/-- A connection's unread input, and what its session's `on_data` was given, oldest first. -/
structure Connection where
  inputBuffer : Bytes
  handed : List Bytes
  deriving DecidableEq

def Connection.established : Connection := ⟨[], []⟩

def Connection.onData (data : Bytes) (conn : Connection) : Connection :=
  { conn with handed := conn.handed ++ [data] }

def retrieveAllAsString (conn : Connection) : Bytes × Connection :=
  (conn.inputBuffer, { conn with inputBuffer := [] })

/-- `zmq_bus_com::select_json_str`: one trailing newline goes, the rest is one request. -/
def selectJsonStr {σ : Type} (jsonSrc : Bytes) (outFun : Bytes → σ → σ) (state : σ) : σ :=
  let testJson :=
    if !jsonSrc.isEmpty && jsonSrc.getLast? == some Byte.newline then jsonSrc.dropLast else jsonSrc
  outFun testJson state

def onMessage (conn : Connection) : Connection :=
  let (msg, conn) := retrieveAllAsString conn
  selectJsonStr msg Connection.onData conn

/-- `TcpConnection::handleRead` once `readFd` has delivered some bytes. -/
def handleRead (conn : Connection) (delivered : Bytes) : Connection :=
  onMessage { conn with inputBuffer := conn.inputBuffer ++ delivered }

/-- The strings handed to `on_data` while the deliveries come in one after another. -/
def handed (deliveries : List Bytes) : List Bytes :=
  (deliveries.foldl handleRead .established).handed

theorem selectJsonStr_chomp {σ : Type} (jsonSrc : Bytes) (outFun : Bytes → σ → σ) (state : σ) :
    selectJsonStr jsonSrc outFun state = outFun (Lines.chomp Byte.newline jsonSrc) state := by
  unfold selectJsonStr Lines.chomp
  cases jsonSrc with
  | nil => rfl
  | cons head tail => simp

/-- One delivery is consumed whole and handed on as one string. -/
theorem handleRead_empty (conn : Connection) (delivered : Bytes) (empty : conn.inputBuffer = []) :
    handleRead conn delivered =
      ⟨[], conn.handed ++ [Lines.chomp Byte.newline delivered]⟩ := by
  simp only [handleRead, onMessage, retrieveAllAsString, selectJsonStr_chomp, Connection.onData,
    empty, List.nil_append]

theorem foldl_handleRead (deliveries : List Bytes) (conn : Connection) (empty : conn.inputBuffer = []) :
    deliveries.foldl handleRead conn =
      ⟨[], conn.handed ++ deliveries.map (Lines.chomp Byte.newline)⟩ := by
  induction deliveries generalizing conn with
  | nil => cases conn; simp_all
  | cons delivered deliveries ih =>
    rw [List.foldl_cons, handleRead_empty conn delivered empty, ih _ rfl]
    simp

theorem handed_eq (deliveries : List Bytes) :
    handed deliveries = deliveries.map (Lines.chomp Byte.newline) := by
  rw [handed, foldl_handleRead deliveries .established rfl]
  rfl

/-- The requests reach `on_data` whole and in order exactly when the stream was
cut at the line ends: every delivery is one request with its newline. -/
theorem handed_requests_iff (requests deliveries : List Bytes)
    (oneLine : ∀ request ∈ requests, Byte.newline ∉ request)
    (cut : deliveries.flatten = requests.flatMap send) :
    handed deliveries = requests ↔
      ∀ delivered ∈ deliveries, delivered.getLast? = some Byte.newline ∧
        delivered.count Byte.newline = 1 := by
  rw [handed_eq]
  exact Lines.chomp_chunks_iff oneLine cut

def threeRequests : List Bytes :=
  [ascii "\x7b\"action\":\"setup\"\x7d", ascii "\x7b\"action\":\"inference\"\x7d",
    ascii "\x7b\"action\":\"exit\"\x7d"]

theorem handed_requests_three : handed (threeRequests.map send) = threeRequests :=
  (handed_requests_iff threeRequests (threeRequests.map send) (by decide) (by decide)).mpr (by decide)

/-- Two requests that arrive in one read are handed on as one string. -/
theorem coalesced_requests_joined :
    ¬ ∀ requests deliveries : List Bytes, (∀ request ∈ requests, Byte.newline ∉ request) →
      deliveries.flatten = requests.flatMap send → handed deliveries = requests := by
  intro framed
  have joined := framed [ascii "\x7b\"action\":\"setup\"\x7d", ascii "\x7b\"action\":\"exit\"\x7d"]
    [ascii "\x7b\"action\":\"setup\"\x7d\n\x7b\"action\":\"exit\"\x7d\n"] (by decide) (by decide)
  exact absurd joined (by decide)

end EdgeFlow.Manager.Framing
