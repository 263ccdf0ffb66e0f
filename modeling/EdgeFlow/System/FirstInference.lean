import EdgeFlow.Manager.Verdict
import EdgeFlow.System.Inputs

/-! Clients, unit-manager and a node, with what is on its way between them.

A SUB socket is connected some time after the call that connects it, and until then
its publisher drops what it publishes. The reply to a set up goes another way and
does not wait for that.

The node is taken to live on: its death, as of a text that it cannot decode, is no
step. The calls that units other than this node make of unit-manager are none either.
-/

set_option autoImplicit false

namespace EdgeFlow.System
open Library Library.Printf Library.Decimal Comm Manager Node

/-- A line of a client, and whether the client had been told of the work id in it. -/
structure Line where
  text : Bytes
  told : Bool

/-- A SUB socket. -/
structure Sub where
  url : Bytes
  /-- its connection and its subscription have come through -/
  active : Bool
  /-- what it has been sent, by number -/
  inbox : List Nat

/-- What a publisher does for one of its subscribers. -/
def Sub.take (url : Bytes) (index : Nat) (sub : Sub) : Sub :=
  if sub.url = url ∧ sub.active then { sub with inbox := sub.inbox ++ [index] } else sub

@[simp] theorem Sub.take_url (url : Bytes) (index : Nat) (sub : Sub) : (sub.take url index).url = sub.url := by
  unfold Sub.take
  split <;> rfl

@[simp] theorem Sub.take_active (url : Bytes) (index : Nat) (sub : Sub) :
    (sub.take url index).active = sub.active := by
  unfold Sub.take
  split <;> rfl

theorem Sub.mem_take {url : Bytes} {index other : Nat} {sub : Sub} (member : other ∈ sub.inbox) :
    other ∈ (sub.take url index).inbox := by
  unfold Sub.take
  split
  · exact List.mem_append_left _ member
  · exact member

theorem Sub.of_mem_take {url : Bytes} {index other : Nat} {sub : Sub} (member : other ∈ (sub.take url index).inbox) :
    other ∈ sub.inbox ∨ other = index := by
  unfold Sub.take at member
  split at member
  · simpa using member
  · exact .inl member

/-- What `send_msg` was called with. -/
structure Publication where
  unit : UnitData
  raw : Bytes
  told : Bool
  /-- its session has been ended by an exit -/
  closed : Bool

def Publication.mark (event : LocalEvent) (node : StackFlow) (publication : Publication) : Publication :=
  let ended := decide (publication.unit.port ∉ node.tasks ∨ node.input publication.unit.port = none)
  { publication with closed := publication.closed || (event == .exit && ended) }

/-- The arguments of a call of `on_inference`. -/
structure OnInference where
  publication : Nat
  object : Bytes
  data : Bytes

structure Net where
  node : StackFlow
  registry : Registry
  /-- what each client has sent and its session has not read -/
  lines : Int → List Line
  /-- `event_queue_` of the node -/
  events : List (LocalEvent × Bytes)
  /-- the work ids that each client has had the success of a set up for -/
  heard : List (Int × Bytes)
  subs : Int → Option Sub
  published : List Publication
  onInference : List OnInference

namespace Net

def started (kind : Kind) (maxSessions : Nat) (speakerCount : Int) (registry : Registry) : Net :=
  ⟨.started kind maxSessions speakerCount, registry, fun _ => [], [], [], fun _ => none, [], []⟩

inductive Label where
  /-- a client sends a line -/
  | send (comId : Int) (text : Bytes)
  /-- the session reads a line; the node may take up what it is called with or not -/
  | actionMatch (comId : Int) (takenUp : Bool)
  /-- one turn of `even_loop` -/
  | evenLoop (chance : Chance)
  /-- a client receives one of the messages that were pushed to it -/
  | receive (comId : Int) (index : Nat)
  /-- a SUB socket comes through -/
  | connect (number : Int)
  /-- `zmq_event_loop` of a SUB socket -/
  | deliver (number : Int)

variable (simdjson : Simdjson) (callRpcAction : (unit action payload : Bytes) → Int)
  (uninit : Registry → Int × Int) (net : Net)

/-- The RPC that an action is registered for. -/
def eventOf (action : Bytes) : Option LocalEvent :=
  [LocalEvent.setup, .exit, .pause, .taskinfo].find? (·.action == action)

/-- The header of a line names a work id that its client has been told of. -/
def tells (comId : Int) (text : Bytes) : Bool :=
  match readHeader simdjson text with
  | some header => decide ((comId, header.routedId) ∈ net.heard)
  | none => false

/-- The PUB socket of a unit passes a message on to the subscriptions that are there. -/
def publish (told : Bool) (unit : UnitData) (raw : Bytes) : Net :=
  { net with
    subs := fun number => (net.subs number).map (Sub.take unit.inferenceUrl net.published.length)
    published := net.published ++ [⟨unit, raw, told, decide (unit.port ∉ net.node.tasks)⟩] }

/-- What the node's RPC server does for a request: it only enqueues. -/
def rpc (unit action payload : Bytes) : Net :=
  match eventOf action with
  | some event => if unit = net.node.kind.unitName then { net with events := net.events ++ [(event, payload)] } else net
  | none => net

/-- What one thing that unit-manager sends comes to. -/
def pass (told takenUp : Bool) (net : Net) : Sent → Net
  -- error lines are no success
  | .error _ _ => net
  | .published unit raw => net.publish told unit raw
  | .called unit action payload => if takenUp then net.rpc unit action payload else net

/-- The SUB sockets after a listener: those that were there stay connected. -/
def resubscribe (before after : StackFlow) (subs : Int → Option Sub) (number : Int) : Option Sub :=
  match after.input number with
  | none => none
  | some socket => if before.input number = some socket then subs number else some ⟨socket.url, false, []⟩

/-- The message is the success of a set up, or of an exit. -/
def succeeds (message : Message ReplyData) : Bool :=
  message.object == ascii "None" && message.data == .none && message.error == noError

def step (net : Net) : Label → Option Net
  | .send comId text =>
    some { net with
      lines := Function.update net.lines comId (net.lines comId ++ [⟨text, net.tells simdjson comId text⟩]) }
  | .actionMatch comId takenUp =>
    match net.lines comId with
    | [] => none
    | line :: rest =>
      match unitActionMatch ⟨simdjson, net.registry, zmqCFormat, callRpcAction⟩ comId line.text with
      | .error _ => none
      | .ok sent => some (sent.foldl (pass line.told takenUp)
          { net with lines := Function.update net.lines comId rest })
  | .evenLoop chance =>
    match net.events with
    | [] => none
    | (event, msg) :: rest => do
      let (node, registry) ← Node.evenLoop (managerSys uninit) (net.node, net.registry) ⟨event, msg, chance⟩
      some { net with
        node
        registry
        events := rest
        subs := resubscribe net.node node net.subs
        published := net.published.map (Publication.mark event node) }
  | .receive comId index => do
    let (url, message) ← net.node.replies[index]?
    if url = zmqPushUrl zmqCFormat comId then
      some (if succeeds message then { net with heard := net.heard ++ [(comId, message.workId)] } else net)
    else none
  | .connect number => do
    let sub ← net.subs number
    some { net with subs := Function.update net.subs number (some { sub with active := true }) }
  | .deliver number => do
    let sub ← net.subs number
    let channel ← net.node.llmTaskChannel number
    match sub.inbox with
    | [] => none
    | index :: inbox => do
      let publication ← net.published[index]?
      let ((object, data), channel) := channel.subscriberEventCall publication.raw
      some { net with
        node := net.node.putChannel number channel
        subs := Function.update net.subs number (some { sub with inbox })
        onInference := net.onInference ++ [⟨index, object, data⟩] }

/-- The unit that an inference request is published to. -/
def addressee (text : Bytes) : Option UnitData :=
  match readHeader simdjson text with
  | some header => if header.action.value = ascii "inference" then net.registry.readUnit header.routedId else none
  | none => none

/-- A client that has been told of a session publishes to it when its subscription has come through,
and no set up is given the number of a session that is there. -/
def Prompt (net : Net) : Label → Prop
  | .actionMatch comId _ => ∀ line ∈ (net.lines comId).head?, line.told = true →
      ∀ unit ∈ net.addressee simdjson line.text, unit.port ∈ net.node.tasks →
        ∃ sub ∈ net.subs unit.port, sub.active = true
  | .evenLoop _ => ∀ call ∈ net.events.head?, call.1 = .setup → net.registry.workIdNumberCounter ∉ net.node.tasks
  | _ => True

instance (net : Net) (label : Label) : Decidable (Prompt simdjson net label) :=
  match label with
  | .actionMatch _ _ => inferInstanceAs (Decidable (∀ line ∈ _, _ → _))
  | .evenLoop _ => inferInstanceAs (Decidable (∀ call ∈ _, _ → _))
  | .send _ _ | .receive _ _ | .connect _ | .deliver _ => inferInstanceAs (Decidable True)

/-- What is published for a session that its client has been told of comes to `on_inference`, as far as
the subscriber thread gets round to it and no exit intervenes. -/
def NoLostInference : Prop :=
  ∀ index publication, net.published[index]? = some publication → publication.told = true → publication.closed = false →
    ∃ turns after, follow (step simdjson callRpcAction uninit) net
        (List.replicate turns (.deliver publication.unit.port)) = some after ∧
      ∃ call ∈ after.onInference, call.publication = index

/-! ## What holds along the way -/

structure Inv (kind : Kind) (net : Net) : Prop where
  sound : Sound kind (net.node, net.registry)
  subs : ∀ number, (net.subs number).map (·.url) = (net.node.input number).map (·.url)
  inbox : ∀ number sub, net.subs number = some sub → ∀ index ∈ sub.inbox, index < net.published.length
  kept : ∀ index publication, net.published[index]? = some publication → publication.told = true →
    publication.closed = false → publication.unit.port ∈ net.node.tasks ∧
      ((∃ call ∈ net.onInference, call.publication = index) ∨
        ∃ sub, net.subs publication.unit.port = some sub ∧ index ∈ sub.inbox)

section
variable {simdjson : Simdjson} {callRpcAction : (unit action payload : Bytes) → Int} {uninit : Registry → Int × Int}
  {kind : Kind} {net after : Net}

/-- A publication that is not over is one whose subscription gets it. -/
def Heeded (told : Bool) (unit : UnitData) (net : Net) : Prop :=
  told = true → unit.port ∈ net.node.tasks →
    ∃ sub, net.subs unit.port = some sub ∧ sub.url = unit.inferenceUrl ∧ sub.active = true

theorem Inv.publish (inv : net.Inv kind) {told : Bool} {unit : UnitData} (heeded : net.Heeded told unit)
    (raw : Bytes) : (net.publish told unit raw).Inv kind where
  sound := inv.sound
  subs number := by
    rw [show (net.publish told unit raw).node = net.node from rfl, ← inv.subs]
    simp only [Net.publish, Option.map_map, Function.comp_def, Sub.take_url]
  inbox number sub found index member := by
    simp only [Net.publish, List.length_append, List.length_singleton] at found ⊢
    obtain ⟨before, was, rfl⟩ := Option.map_eq_some_iff.mp found
    rcases Sub.of_mem_take member with old | rfl
    · have := inv.inbox number before was index old
      omega
    · omega
  kept index publication found isTold notOver := by
    simp only [Net.publish] at found ⊢
    by_cases new : index = net.published.length
    · -- the message goes to the inbox of its subscription
      subst new
      rw [List.getElem?_concat_length] at found
      cases found
      have live : unit.port ∈ net.node.tasks := not_not.mp (of_decide_eq_false notOver)
      obtain ⟨sub, there, url, active⟩ := heeded isTold live
      refine ⟨live, .inr ⟨_, by rw [there]; rfl, ?_⟩⟩
      simp [Sub.take, url, active]
    · have inside : index < net.published.length := by
        have bound := (List.getElem?_eq_some_iff.mp found).1
        rw [List.length_append, List.length_singleton] at bound
        omega
      rw [List.getElem?_append_left inside] at found
      obtain ⟨live, delivered⟩ := inv.kept index publication found isTold notOver
      refine ⟨live, delivered.imp_right ?_⟩
      rintro ⟨sub, there, member⟩
      exact ⟨_, by rw [there]; rfl, Sub.mem_take member⟩

theorem Inv.rpc (inv : net.Inv kind) (unit action payload : Bytes) : (net.rpc unit action payload).Inv kind := by
  unfold Net.rpc
  split
  · split
    · exact ⟨inv.sound, inv.subs, inv.inbox, inv.kept⟩
    · exact inv
  · exact inv

variable (net) in
theorem rpc_frame (unit action payload : Bytes) :
    (net.rpc unit action payload).node = net.node ∧ (net.rpc unit action payload).subs = net.subs := by
  unfold Net.rpc
  split
  · split <;> exact ⟨rfl, rfl⟩
  · exact ⟨rfl, rfl⟩

/-- Whatever is passed on, a subscription that has come through stays so. -/
theorem Heeded.pass {told : Bool} {unit : UnitData} (heeded : net.Heeded told unit) (takenUp : Bool) (sent : Sent) :
    (pass told takenUp net sent).Heeded told unit := by
  intro isTold live
  cases sent with
  | error zmqOut reply => exact heeded isTold live
  | published other raw =>
    obtain ⟨sub, there, url, active⟩ := heeded isTold live
    exact ⟨sub.take other.inferenceUrl net.published.length, by simp only [Net.pass, publish, there, Option.map_some],
      by rw [Sub.take_url, url], by rw [Sub.take_active, active]⟩
  | called name action payload =>
    simp only [Net.pass] at live ⊢
    split at live
    · next taken =>
      obtain ⟨node, subs⟩ := rpc_frame net name action payload
      rw [node] at live
      rw [if_pos taken, subs]
      exact heeded isTold live
    · next dropped =>
      rw [if_neg dropped]
      exact heeded isTold live

theorem Inv.pass (inv : net.Inv kind) {told takenUp : Bool} (sent : List Sent)
    (heeded : ∀ unit raw, .published unit raw ∈ sent → net.Heeded told unit) :
    (sent.foldl (pass told takenUp) net).Inv kind := by
  induction sent generalizing net with
  | nil => exact inv
  | cons first rest ih =>
    refine ih ?_ fun unit raw member => (heeded unit raw (List.mem_cons_of_mem _ member)).pass takenUp first
    cases first with
    | error zmqOut reply => exact inv
    | published unit raw => exact inv.publish (heeded unit raw List.mem_cons_self) raw
    | called unit action payload =>
      simp only [Net.pass]
      split
      · exact inv.rpc unit action payload
      · exact inv

/-- What is published goes to the unit under the work id of the request. -/
theorem addressee_published {comId : Int} {text : Bytes} {sent : List Sent}
    (returned : unitActionMatch ⟨simdjson, net.registry, zmqCFormat, callRpcAction⟩ comId text = .ok sent)
    {unit : UnitData} {raw : Bytes} (published : .published unit raw ∈ sent) :
    net.addressee simdjson text = some unit := by
  obtain ⟨header, read, inference, found, -⟩ := unitActionMatch_published returned published
  simp only [addressee, show readHeader simdjson text = some header from read, if_pos inference]
  exact found

theorem addressee_registered {text : Bytes} {unit : UnitData} (addressed : net.addressee simdjson text = some unit) :
    ∃ key, net.registry.readUnit key = some unit := by
  unfold addressee at addressed
  split at addressed
  · split at addressed
    · exact ⟨_, addressed⟩
    · cases addressed
  · cases addressed

theorem Inv.actionMatch (inv : net.Inv kind) {comId : Int} {takenUp : Bool}
    (prompt : net.Prompt simdjson (.actionMatch comId takenUp))
    (taken : net.step simdjson callRpcAction uninit (.actionMatch comId takenUp) = some after) : after.Inv kind := by
  simp only [step] at taken
  split at taken
  · cases taken
  · next line rest first =>
    split at taken
    · cases taken
    · next sent returned =>
      cases taken
      have consumed : Inv kind { net with lines := Function.update net.lines comId rest } :=
        ⟨inv.sound, inv.subs, inv.inbox, inv.kept⟩
      refine consumed.pass sent fun unit raw published isTold live => ?_
      have addressed := addressee_published returned published
      obtain ⟨sub, there, active⟩ := prompt line (by rw [first]; rfl) isTold unit addressed live
      refine ⟨sub, there, ?_, active⟩
      -- the session listens on the URL that its unit publishes to
      obtain ⟨key, registered⟩ := addressee_registered addressed
      have listens := (inv.sound.units _ unit registered).2 live
      have url := inv.subs unit.port
      rw [there, listens] at url
      exact Option.some.inj url

/-- A subscription that was there is the same one as long as its socket is. -/
theorem resubscribe_same {before after : StackFlow} (subs : Int → Option Sub) {number : Int}
    (same : after.input number = before.input number) (isOpen : before.input number ≠ none) :
    resubscribe before after subs number = subs number := by
  unfold resubscribe
  rw [same]
  cases there : before.input number with
  | none => exact absurd there isOpen
  | some socket => simp

theorem Inv.evenLoop (fits : ∀ m, IsInt32 (uninit m).1) (inv : net.Inv kind) {chance : Chance}
    (prompt : net.Prompt simdjson (.evenLoop chance))
    (taken : net.step simdjson callRpcAction uninit (.evenLoop chance) = some after) : after.Inv kind := by
  simp only [step] at taken
  split at taken
  · cases taken
  · next event msg rest first =>
    obtain ⟨⟨node, registry⟩, turned, taken⟩ := Option.bind_eq_some_iff.mp taken
    cases taken
    obtain ⟨sound, lasts⟩ := inv.sound.evenLoop fits (prompt (event, msg) (by rw [first]; rfl)) turned
    refine ⟨sound, fun number => ?_, fun number sub found index member => ?_,
      fun index publication found isTold notOver => ?_⟩
    · -- a socket that is new has the URL of the node's, one that was there keeps its own
      simp only [resubscribe]
      split
      · next closed => rw [closed]; rfl
      · next socket there =>
        rw [there]
        split
        · next was => rw [inv.subs, was]
        · rfl
    · rw [List.length_map]
      simp only [resubscribe] at found
      split at found
      · cases found
      · split at found
        · exact inv.inbox number sub found index member
        -- a new socket starts with an empty inbox
        · cases found
          cases member
    · simp only [List.getElem?_map, Option.map_eq_some_iff] at found
      obtain ⟨publication, was, rfl⟩ := found
      obtain ⟨wasOver, notEnded⟩ := Bool.or_eq_false_iff.mp notOver
      obtain ⟨live, delivered⟩ := inv.kept index publication was isTold wasOver
      -- an exit of this session would have marked the message, and no other call ends a session
      have stays : publication.unit.port ∈ node.tasks ∧
          (net.subs publication.unit.port ≠ none →
            node.input publication.unit.port = net.node.input publication.unit.port) := by
        by_cases isExit : event = .exit
        · rw [isExit, beq_self_eq_true, Bool.true_and, decide_eq_false_iff_not, not_or, not_not] at notEnded
          exact ⟨notEnded.1, fun _ => lasts.input _ live notEnded.1 notEnded.2⟩
        · exact ⟨lasts.tasks isExit _ live, fun _ => lasts.stays isExit _ live⟩
      refine ⟨stays.1, delivered.imp_right ?_⟩
      rintro ⟨sub, there, member⟩
      have isOpen : net.node.input publication.unit.port ≠ none := by
        intro closed
        have url := inv.subs publication.unit.port
        rw [there, closed] at url
        cases url
      refine ⟨sub, ?_, member⟩
      exact (resubscribe_same net.subs (stays.2 (by rw [there]; exact Option.some_ne_none sub)) isOpen).trans there

/-- Another state of the same SUB socket, whose inbox holds nothing new. -/
theorem update_url {subs : Int → Option Sub} {number : Int} {sub : Sub} (there : subs number = some sub) (sub' : Sub)
    (url : sub'.url = sub.url) (other : Int) :
    (Function.update subs number (some sub') other).map (·.url) = (subs other).map (·.url) := by
  by_cases isHere : other = number
  · rw [isHere, Function.update_self, there, Option.map_some, Option.map_some, url]
  · rw [Function.update_of_ne isHere]

theorem Inv.update_inbox (inv : net.Inv kind) {number : Int} {sub : Sub}
    (there : net.subs number = some sub) (sub' : Sub)
    (inbox : ∀ index ∈ sub'.inbox, index ∈ sub.inbox) {other : Int} {found : Sub}
    (isFound : Function.update net.subs number (some sub') other = some found) :
    ∀ index ∈ found.inbox, index < net.published.length := by
  intro index member
  by_cases isHere : other = number
  · rw [isHere, Function.update_self] at isFound
    cases isFound
    exact inv.inbox number sub there index (inbox index member)
  · rw [Function.update_of_ne isHere] at isFound
    exact inv.inbox other found isFound index member

/-- A message that is delivered leaves the inbox for `on_inference`. -/
theorem Inv.deliver (inv : net.Inv kind) {number : Int}
    (taken : net.step simdjson callRpcAction uninit (.deliver number) = some after) : after.Inv kind := by
  simp only [step, Option.bind_eq_bind] at taken
  obtain ⟨sub, there, taken⟩ := Option.bind_eq_some_iff.mp taken
  obtain ⟨channel, isOpen, taken⟩ := Option.bind_eq_some_iff.mp taken
  split at taken
  · cases taken
  · next index inbox first =>
    obtain ⟨publication, -, taken⟩ := Option.bind_eq_some_iff.mp taken
    cases taken
    have input : ∀ other, (net.node.putChannel number (channel.subscriberEventCall publication.raw).2).input other =
        net.node.input other := by
      intro other
      rw [input_putChannel, subscriberEventCall_input]
      split
      · next same => rw [same, StackFlow.input, isOpen]; rfl
      · rfl
    have same : SameInputs net.node (net.node.putChannel number (channel.subscriberEventCall publication.raw).2) :=
      ⟨rfl, rfl, rfl, input⟩
    refine ⟨inv.sound.of_same same, fun other => ?_, fun other sub' found => ?_,
      fun index' publication' found isTold notOver => ?_⟩
    · have url := inv.subs other
      rw [← same.input other] at url
      exact (update_url there { sub with inbox } rfl other).trans url
    · exact inv.update_inbox there { sub with inbox } (fun index' member => first ▸ List.mem_cons_of_mem _ member) found
    · obtain ⟨live, delivered⟩ := inv.kept index' publication' found isTold notOver
      refine ⟨live, ?_⟩
      rcases delivered with ⟨call, called, isIndex⟩ | ⟨sub', there', member⟩
      · exact .inl ⟨call, List.mem_append_left _ called, isIndex⟩
      · by_cases isHere : publication'.unit.port = number
        · subst isHere
          rw [there] at there'
          cases there'
          rcases List.mem_cons.mp (first ▸ member) with rfl | later
          · exact .inl ⟨_, List.mem_append_right _ (List.mem_singleton_self _), rfl⟩
          · exact .inr ⟨_, Function.update_self _ _ _, later⟩
        · exact .inr ⟨sub', (Function.update_of_ne isHere _ _).trans there', member⟩

theorem Inv.connect (inv : net.Inv kind) {number : Int}
    (taken : net.step simdjson callRpcAction uninit (.connect number) = some after) : after.Inv kind := by
  obtain ⟨sub, there, taken⟩ := Option.bind_eq_some_iff.mp taken
  cases taken
  refine ⟨inv.sound, fun other => ?_, fun other sub' found => ?_, fun index publication found isTold notOver => ?_⟩
  · exact (update_url there { sub with active := true } rfl other).trans (inv.subs other)
  · exact inv.update_inbox there { sub with active := true } (fun _ member => member) found
  · obtain ⟨live, delivered⟩ := inv.kept index publication found isTold notOver
    refine ⟨live, delivered.imp_right ?_⟩
    rintro ⟨sub', there', member⟩
    by_cases isHere : publication.unit.port = number
    · subst isHere
      rw [there] at there'
      cases there'
      exact ⟨_, Function.update_self _ _ _, member⟩
    · exact ⟨sub', (Function.update_of_ne isHere _ _).trans there', member⟩

theorem Inv.next (fits : ∀ m, IsInt32 (uninit m).1) (inv : net.Inv kind) {label : Label}
    (prompt : net.Prompt simdjson label)
    (taken : net.step simdjson callRpcAction uninit label = some after) : after.Inv kind := by
  cases label with
  | send comId text =>
    cases taken
    exact ⟨inv.sound, inv.subs, inv.inbox, inv.kept⟩
  | actionMatch comId takenUp => exact inv.actionMatch prompt taken
  | evenLoop chance => exact inv.evenLoop fits prompt taken
  | receive comId index =>
    obtain ⟨⟨url, message⟩, -, taken⟩ := Option.bind_eq_some_iff.mp taken
    simp only at taken
    split at taken
    · split at taken <;> cases taken <;> exact ⟨inv.sound, inv.subs, inv.inbox, inv.kept⟩
    · cases taken
  | connect number => exact inv.connect taken
  | deliver number => exact inv.deliver taken

theorem Inv.started {maxSessions : Nat} {speakerCount portListEnd : Int} {config : Config} {registry : Registry}
    (inRange : registry.InRange) (started : remoteServerWork portListEnd config = some registry) :
    (Net.started kind maxSessions speakerCount registry).Inv kind where
  sound :=
    { listening := ⟨rfl, Int.one_ne_zero⟩
      inRange
      fits := by simp [Net.started, StackFlow.started]
      units := fun key unit read => by
        have consistent : Consistent kind (.started kind maxSessions speakerCount, registry) :=
          consistent_started inRange started
        obtain ⟨number, member, -⟩ := (consistent.units key).mp (by rw [show registry.readUnit key = _ from read]; rfl)
        exact absurd member (Finset.notMem_empty number) }
  subs _ := rfl
  inbox _ _ found := by cases found
  kept _ _ found := by cases found

/-- The subscriber thread can take what is next in its inbox, and calls `on_inference` with it. -/
theorem Inv.deliver_next (simdjson : Simdjson) (callRpcAction : (unit action payload : Bytes) → Int)
    (uninit : Registry → Int × Int) (inv : net.Inv kind) {number : Int} {sub : Sub} (there : net.subs number = some sub)
    {index : Nat} {inbox : List Nat} (first : sub.inbox = index :: inbox) :
    ∃ after, net.step simdjson callRpcAction uninit (.deliver number) = some after ∧
      after.subs number = some { sub with inbox } ∧ ∃ call ∈ after.onInference, call.publication = index := by
  have listens := inv.subs number
  rw [there] at listens
  cases isOpen : net.node.llmTaskChannel number with
  | none =>
    rw [StackFlow.input, isOpen] at listens
    cases listens
  | some channel =>
    have inside := inv.inbox number sub there index (by rw [first]; exact List.mem_cons_self)
    simp only [step, there, isOpen, first, List.getElem?_eq_getElem inside, Option.bind_eq_bind, Option.bind_some]
    exact ⟨_, rfl, Function.update_self number _ _, _, List.mem_append_right _ (List.mem_singleton_self _), rfl⟩

/-- What is in an inbox comes to `on_inference` in as many turns as there are messages before it. -/
theorem Inv.delivered (inv : net.Inv kind) {number : Int} {sub : Sub} (there : net.subs number = some sub)
    {index : Nat} (member : index ∈ sub.inbox) :
    ∃ turns after, follow (step simdjson callRpcAction uninit) net (List.replicate turns (.deliver number)) =
      some after ∧
      ∃ call ∈ after.onInference, call.publication = index := by
  obtain ⟨url, active, inbox⟩ := sub
  induction inbox generalizing net with
  | nil => cases member
  | cons first rest ih =>
    obtain ⟨after, taken, thereAfter, call⟩ := inv.deliver_next simdjson callRpcAction uninit there rfl
    rcases List.mem_cons.mp member with rfl | later
    · exact ⟨1, after, by simp only [List.replicate_one, follow_cons, taken, Option.bind_some, follow_nil], call⟩
    · obtain ⟨turns, final, run, called⟩ := ih (inv.deliver taken) thereAfter later
      refine ⟨turns + 1, final, ?_, called⟩
      rw [List.replicate_succ, follow_cons, taken]
      exact run

theorem Inv.noLostInference (inv : net.Inv kind) : net.NoLostInference simdjson callRpcAction uninit := by
  intro index publication found isTold notOver
  obtain ⟨-, delivered⟩ := inv.kept index publication found isTold notOver
  rcases delivered with called | ⟨sub, there, member⟩
  · exact ⟨0, net, rfl, called⟩
  · exact inv.delivered there member

/-- Along a run of prompt steps no inference of a client that has been told of its session is lost. -/
theorem reaches_noLostInference {maxSessions : Nat} {speakerCount portListEnd : Int} {config : Config}
    {registry : Registry} (fits : ∀ m, IsInt32 (uninit m).1) (endFits : IsInt32 portListEnd)
    (ints : ∀ key n, config.keySql key = some (.int n) → IsInt32 n)
    (started : remoteServerWork portListEnd config = some registry)
    (run : Reaches (step simdjson callRpcAction uninit) (Prompt simdjson)
      (Net.started kind maxSessions speakerCount registry) net) :
    net.NoLostInference simdjson callRpcAction uninit := by
  have inv : net.Inv kind := by
    refine run.invariant (Inv kind) (.started (remoteServerWork_inRange endFits ints started) started) ?_
    intro state label after inv prompt taken
    exact inv.next fits prompt taken
  exact inv.noLostInference

end

def inferenceRequest : String :=
  "\x7b\"request_id\":\"2\",\"work_id\":\"asr.0\",\"action\":\"inference\",\"data\":\x7b\"delta\":\"a\"\x7d\x7d"

/-- A client sets up a session and is told of it. -/
def toldOfSession : List Label :=
  [.send 8000 (ascii setupRequest), .actionMatch 8000 true, .evenLoop ⟨true, (false, false)⟩, .receive 8000 0]

/-- It sends an inference. -/
def firstInference : List Label := [.send 8000 (ascii inferenceRequest), .actionMatch 8000 true]

def answering : (unit action payload : Bytes) → Int := fun _ _ _ => 0

def zeros : Registry → Int × Int := fun _ => (0, 0)

theorem zeros_fits (m : Registry) : IsInt32 (zeros m).1 := show IsInt32 0 by decide

theorem reaches_noLostInference_connected : ∃ net : Net,
    followAllowed (step .firstMember answering zeros) (fun net label => decide (Prompt .firstMember net label))
        (.started .asr 8 0 shippedRegistry) (toldOfSession ++ .connect 0 :: firstInference) = some net ∧
      (∃ publication ∈ net.published, publication.told = true ∧ publication.closed = false) ∧
      net.NoLostInference .firstMember answering zeros := by
  have follows : (followAllowed (step .firstMember answering zeros)
      (fun net label => decide (Prompt .firstMember net label)) (.started .asr 8 0 shippedRegistry)
      (toldOfSession ++ .connect 0 :: firstInference)).map
        (fun net => net.published.any fun publication => publication.told && !publication.closed) = some true := by
    decide +kernel
  obtain ⟨net, reached, published⟩ := Option.map_eq_some_iff.mp follows
  have run := Reaches.of_followAllowed reached
  simp only [decide_eq_true_eq] at run
  refine ⟨net, reached, ?_,
    reaches_noLostInference zeros_fits (by decide) masterConfig_ints shippedRegistry_started run⟩
  simpa using published

/-- The same inference comes too early for a subscription that has not come through. -/
theorem firstInference_lost : ¬∀ net : Net,
    Reaches (step .firstMember answering zeros) (fun _ _ => True) (.started .asr 8 0 shippedRegistry) net →
      net.NoLostInference .firstMember answering zeros := by
  intro always
  have follows : (follow (step .firstMember answering zeros) (.started .asr 8 0 shippedRegistry)
      (toldOfSession ++ firstInference)).map (fun net =>
        (net.published.map fun publication => (publication.told, publication.closed, publication.unit.port),
          (net.subs 0).map (·.inbox), net.onInference.length)) = some ([(true, false, 0)], some [], 0) := by
    decide +kernel
  obtain ⟨net, reached, result⟩ := Option.map_eq_some_iff.mp follows
  simp only [Prod.mk.injEq] at result
  obtain ⟨published, inbox, noCall⟩ := result
  obtain ⟨publication, single, shape⟩ := List.map_eq_singleton_iff.mp published
  simp only [Prod.mk.injEq] at shape
  obtain ⟨isTold, notOver, port⟩ := shape
  obtain ⟨sub, there, empty⟩ := Option.map_eq_some_iff.mp inbox
  obtain ⟨turns, after, run, call, called, -⟩ :=
    always net (Reaches.of_follow reached) 0 publication (by rw [single]; rfl) isTold notOver
  cases turns with
  | zero =>
    cases run
    rw [List.length_eq_zero_iff.mp noCall] at called
    cases called
  | succ turns =>
    -- there is nothing for the subscriber thread to take
    have idle : step .firstMember answering zeros net (.deliver 0) = none := by
      simp only [step, there, Option.bind_eq_bind, Option.bind_some, empty]
      cases net.node.llmTaskChannel 0 <;> rfl
    rw [port, List.replicate_succ, follow_cons, idle] at run
    cases run

end Net

end EdgeFlow.System
