import EdgeFlow.Gateway.Chat
import EdgeFlow.Gateway.Prompt

/-! `/v1/chat/completions`: what is checked of a request, and what its response is. -/

set_option autoImplicit false

namespace EdgeFlow.Gateway
open Library Library.Byte

mutual

/-- `JSONResponse.render`, whose separators have no space. -/
def render : Value → Bytes
  | .none => ascii "null"
  | .bool true => ascii "true"
  | .bool false => ascii "false"
  | .int n => Decimal.ofInt n
  | .float spelling => spelling
  | .str s => quoted (Json.escape s)
  | .list items => openBracket :: (renderItems items ++ [closeBracket])
  | .dict members => openBrace :: (renderMembers members ++ [closeBrace])

def renderItems : List Value → Bytes
  | [] => []
  | [item] => render item
  | item :: next :: items => render item ++ comma :: renderItems (next :: items)

def renderMembers : List (Bytes × Value) → Bytes
  | [] => []
  | [(key, value)] => quoted (Json.escape key) ++ colon :: render value
  | (key, value) :: next :: members =>
    quoted (Json.escape key) ++ colon :: (render value ++ comma :: renderMembers (next :: members))

end

def chatCompletionResponse (modelId content requestId : Bytes) (created : Int) : Value :=
  dict [("id", .str requestId), ("object", .str (ascii "chat.completion")), ("created", .int created),
    ("model", .str modelId),
    ("choices", .list [dict [("index", .int 0),
      ("message", dict [("role", .str (ascii "assistant")), ("content", .str content)]),
      ("finish_reason", .str (ascii "stop"))]]),
    ("usage", dict [("prompt_tokens", .int 0), ("completion_tokens", .int 0), ("total_tokens", .int 0)])]

/-- The response of a route, where no exception leaves it. -/
inductive Response where
  | error (statusCode : Int) (message : Bytes)
  | streaming (output : Output)
  | json (content : Value)

section
variable (python : Python) (chat : Chat) (peer : Peer)

/-- `model_id != RKLLM_MODEL_ID` -/
def Chat.isModel (modelId : Value) : Bool :=
  match modelId with
  | .str s => s == chat.rkllmModelId
  | _ => false

def unitManagerStatus (code : Int) : Int := if 400 ≤ code ∧ code ≤ 599 then code else 502

/-- The completion that is not streamed, with what is caught of it. -/
def plainCompletion (prompt : Bytes) : Except Exc Response :=
  match runChatCompletion python chat peer prompt with
  | .ok content => .ok (.json (chatCompletionResponse chat.rkllmModelId content chat.requestId (chat.created 0)))
  | .error (.unitManagerError message code) => .ok (.error (unitManagerStatus code) message)
  | .error exc => .error exc

/-- `chat_completions` -/
def chatCompletions (body : Value) : Except Exc Response := do
  let messages ← body.get "messages" .none
  match messages with
  | .list (message :: messages) =>
    let model ← body.get "model" .none
    let modelId := if model.truthy then model else .str chat.rkllmModelId
    if chat.isModel modelId then
      let prompt ← body.get "prompt" .none
      let prompt ← match prompt with
        | .str (b :: rest) => .ok (b :: rest)
        | _ => buildPrompt python (message :: messages)
      let stream ← body.get "stream" (.bool false)
      if stream.truthy then .ok (.streaming (streamChatCompletion python chat peer prompt))
      else plainCompletion python chat peer prompt
    else .ok (.error 404 (ascii "model '" ++ python.str modelId ++ ascii "' is not available"))
  | _ => .ok (.error 400 (ascii "messages must be a non-empty array"))

end

end EdgeFlow.Gateway
