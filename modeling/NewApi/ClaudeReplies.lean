import NewApi.ClaudeMessages
import NewApi.Groups
import NewApi.Accounts

/-! # Claude replies as chat completions

A Claude message comes whole or as events.  `ResponseClaude2OpenAI` turns the whole message into a
chat completion; `StreamResponseClaude2OpenAI` turns one event into a chunk, and
`FormatClaudeResponseInfo` puts the chunk's ids in and renumbers its tool calls: a Claude index
counts every block, a chat index only the tool calls.

The values of tool arguments and their JSON are parameters.  The usage is left out. -/
namespace NewApi.ClaudeReply
variable {J V : Type}

/-! ## Messages and events -/

/-- The JSON of tool arguments.  `parse` is what a text says, with every number exact; the code
keeps what `unmarshal` gives, where `none` is nil and numbers may be rounded, and writes it with
`marshal`. -/
structure Codec (J V : Type) where
  parse : String → Option J
  unmarshal : String → Option (Option V)
  marshal : Option V → String

/-- The types of a `ClaudeMediaMessage` that the conversions tell apart. -/
inductive MediaType where
  | none
  | text
  | thinking
  | redactedThinking
  | toolUse
  | textDelta
  | thinkingDelta
  | signatureDelta
  | inputJsonDelta
  | other
deriving DecidableEq, Repr

/-- `ClaudeMediaMessage`: a block, a delta, or the message that starts a stream. -/
structure ClaudeMediaMessage (V : Type) where
  type : MediaType := .none
  text : Option String := none
  model : String := ""
  stopReason : Option String := none
  partialJson : Option String := none
  thinking : Option String := none
  id : String := ""
  name : String := ""
  input : Option V := none
deriving DecidableEq, Repr

def ClaudeMediaMessage.getText (m : ClaudeMediaMessage V) : String := m.text.getD ""

/-- The types of a `ClaudeResponse`. -/
inductive ResponseType where
  | message
  | messageStart
  | contentBlockStart
  | contentBlockDelta
  | contentBlockStop
  | messageDelta
  | messageStop
  | other
deriving DecidableEq, Repr

/-- `ClaudeResponse`: a whole message, or an event. -/
structure ClaudeResponse (V : Type) where
  id : String := ""
  type : ResponseType
  content : List (ClaudeMediaMessage V) := []
  stopReason : String := ""
  model : String := ""
  index : Option Int := none
  contentBlock : Option (ClaudeMediaMessage V) := none
  delta : Option (ClaudeMediaMessage V) := none
  message : Option (ClaudeMediaMessage V) := none
deriving DecidableEq, Repr

/-! ## Chat completions -/

/-- The delta of a chunk's choice. -/
structure ReplyDelta where
  role : String := ""
  content : Option String := none
  reasoningContent : Option String := none
  toolCalls : List ToolCallDelta := []
deriving DecidableEq, Repr

/-- A choice of a chunk. -/
structure ReplyChoice where
  delta : ReplyDelta := {}
  finishReason : Option String := none
deriving DecidableEq, Repr

/-- `ChatCompletionsStreamResponse`. -/
structure ReplyChunk where
  id : String := ""
  model : String := ""
  created : Int := 0
  choices : List ReplyChoice := []
deriving DecidableEq, Repr

/-- `OpenAITextResponseChoice`, with the message it embeds. -/
structure TextChoice where
  role : String
  content : String
  reasoningContent : Option String := none
  toolCalls : List ToolCallDelta := []
  finishReason : String
deriving DecidableEq, Repr

/-- `OpenAITextResponse`. -/
structure TextResponse where
  id : String
  model : String
  choices : List TextChoice
deriving DecidableEq, Repr

/-- `ClaudeStopReasonToOpenAIFinishReason`. -/
def stopReasonClaudeToOpenAI (stopReason : String) : String :=
  match stopReason.toLower with
  | "stop_sequence" => "stop"
  | "end_turn" => "stop"
  | "max_tokens" => "length"
  | "tool_use" => "tool_calls"
  | "refusal" => "content_filter"
  | _ => stopReason

/-! ## The whole message -/

/-- The tool call of a block. -/
def wholeCall (codec : Codec J V) (block : ClaudeMediaMessage V) : ToolCallDelta :=
  { id := block.id, name := block.name, arguments := codec.marshal block.input }

/-- What the loop over the blocks has found: text, tools, and the thinking of the last block that
has any. -/
structure Whole where
  text : String := ""
  tools : List ToolCallDelta := []
  thinking : String := ""

/-- One block of the loop. -/
def Whole.add (codec : Codec J V) (w : Whole) (block : ClaudeMediaMessage V) : Whole :=
  match block.type with
  | .toolUse => { w with tools := w.tools ++ [wholeCall codec block] }
  | .thinking => { w with thinking := block.thinking.getD w.thinking }
  | .text => { w with text := w.text ++ block.getText }
  | _ => w

def responseClaude2OpenAI (codec : Codec J V) (response : ClaudeResponse V) : TextResponse :=
  let responseThinking := (response.content.head?.bind (·.thinking)).getD ""
  let whole := response.content.foldl (Whole.add codec) {}
  let reasoning := if responseThinking ≠ "" then some responseThinking else none
  { id := response.id
    model := response.model
    choices := [{
      role := "assistant"
      content := whole.text
      reasoningContent := if whole.thinking ≠ "" then some whole.thinking else reasoning
      toolCalls := whole.tools
      finishReason := stopReasonClaudeToOpenAI response.stopReason }] }

/-! ## One event -/

/-- The code reads the text of a pointer that is nil. -/
inductive NilPointer where
  | partialJson
deriving DecidableEq, Repr

/-- The chunk of one choice; tool calls displace the content. -/
def chunkOf (id model : String) (delta : ReplyDelta) (tools : List ToolCallDelta)
    (finishReason : Option String := none) : ReplyChunk :=
  { id := id, model := model,
    choices := [⟨if tools ≠ [] then { delta with content := none, toolCalls := tools } else delta,
      finishReason⟩] }

/-- `StreamResponseClaude2OpenAI`; no chunk is nil. -/
def streamResponseClaude2OpenAI (r : ClaudeResponse V) : Except NilPointer (Option ReplyChunk) :=
  let fcIdx := r.index.getD 0
  match r.type with
  | .messageStart =>
      let delta : ReplyDelta := { content := some "", role := "assistant" }
      match r.message with
      | some message => .ok (some (chunkOf message.id message.model delta []))
      | none => .ok (some (chunkOf "" r.model delta []))
  | .contentBlockStart =>
      match r.contentBlock with
      | none => .ok none
      | some block =>
          let content := if block.type = .text then block.text else none
          let tools : List ToolCallDelta :=
            if block.type = .toolUse then [{ index := fcIdx, id := block.id, name := block.name }]
            else []
          .ok (some (chunkOf "" r.model { content := content } tools))
  | .contentBlockDelta =>
      match r.delta with
      | none => .ok (some (chunkOf "" r.model {} []))
      | some delta =>
          match delta.type with
          | .inputJsonDelta =>
              match delta.partialJson with
              | none => .error .partialJson
              | some json =>
                  .ok (some (chunkOf "" r.model { content := delta.text }
                    [{ index := fcIdx, arguments := json }]))
          | .signatureDelta =>
              .ok (some (chunkOf "" r.model
                { content := delta.text, reasoningContent := some "\n" } []))
          | .thinkingDelta =>
              .ok (some (chunkOf "" r.model
                { content := delta.text, reasoningContent := delta.thinking } []))
          | _ => .ok (some (chunkOf "" r.model { content := delta.text } []))
  | .messageDelta =>
      let finishReason := (r.delta.bind (·.stopReason)).map stopReasonClaudeToOpenAI
      .ok (some (chunkOf "" r.model {} [] (finishReason.filter (· ≠ "null"))))
  | _ => .ok none

/-! ## The state of a stream -/

/-- `ClaudeResponseInfo`, without the usage. -/
structure ResponseInfo where
  responseId : String := ""
  created : Int := 0
  model : String := ""
  responseText : String := ""
  done : Bool := false
  hasContent : Bool := false
  hasThinking : Bool := false
  hasNonThinkingContent : Bool := false
  sawTerminator : Bool := false
  sawMessageStop : Bool := false
  stopReason : String := ""
  toolCallIndexByBlock : List (Int × Nat) := []
deriving DecidableEq, Repr

namespace ResponseInfo

/-- What an event that may end the message leaves, whatever its branch does. -/
def terminate (r : ClaudeResponse V) (info : ResponseInfo) : ResponseInfo :=
  if r.type = .messageDelta ∨ r.type = .messageStop then
    { info with
      sawTerminator := true
      sawMessageStop := info.sawMessageStop || r.type = .messageStop
      stopReason :=
        match (r.delta.bind (·.stopReason)).filter (· ≠ "") with
        | some reason => reason
        | none => if r.stopReason ≠ "" then r.stopReason else info.stopReason }
  else info

/-- A delta of a block. -/
def seeDelta (delta : ClaudeMediaMessage V) (info : ResponseInfo) : ResponseInfo :=
  let hasText := delta.text.isSome
  let hasThinking := delta.thinking.isSome
  let hasJson := delta.partialJson.isSome
  let unknown := match delta.type with
    | .none | .thinkingDelta | .textDelta | .inputJsonDelta | .signatureDelta => false
    | _ => true
  { info with
    hasContent := info.hasContent || hasText || hasThinking || hasJson
    hasThinking := info.hasThinking || hasThinking || delta.type = .signatureDelta
    hasNonThinkingContent := info.hasNonThinkingContent || hasJson || unknown ||
      trimSpace delta.getText ≠ ""
    responseText := info.responseText ++ delta.getText ++ delta.thinking.getD "" }

/-- The start of a block. -/
def seeBlock (block : Option (ClaudeMediaMessage V)) (info : ResponseInfo) : ResponseInfo :=
  match block with
  | none => { info with hasContent := true, hasNonThinkingContent := true }
  | some block =>
      match block.type with
      | .thinking | .redactedThinking => { info with hasContent := true, hasThinking := true }
      | .text =>
          { info with
            hasContent := true
            hasNonThinkingContent := info.hasNonThinkingContent || trimSpace block.getText ≠ "" }
      | _ => { info with hasContent := true, hasNonThinkingContent := true }

/-- The branch of the event's type; no state where the chunk is to be skipped. -/
def see (r : ClaudeResponse V) (info : ResponseInfo) : ResponseInfo × Bool :=
  match r.type with
  | .messageStart =>
      (match r.message with
        | some message => { info with responseId := message.id, model := message.model }
        | none => info, true)
  | .contentBlockDelta =>
      (match r.delta with
        | some delta => info.seeDelta delta
        | none => info, true)
  | .messageDelta => ({ info with done := true }, true)
  | .contentBlockStart => (info.seeBlock r.contentBlock, true)
  | _ => (info, false)

end ResponseInfo

def setIndex (call : ToolCallDelta) (index : Int) : ToolCallDelta :=
  { call with index := some index }

/-- The tool calls with their blocks' numbers among the tool calls. -/
def renumber (table : List (Int × Nat)) :
    List ToolCallDelta → List (Int × Nat) × List ToolCallDelta
  | [] => (table, [])
  | call :: calls =>
      match call.index with
      | none => ((renumber table calls).1, call :: (renumber table calls).2)
      | some block =>
          let (table, mapped) := Groups.number table block
          ((renumber table calls).1, setIndex call mapped :: (renumber table calls).2)

/-- The choices with their tool calls renumbered. -/
def renumberChoices (table : List (Int × Nat)) :
    List ReplyChoice → List (Int × Nat) × List ReplyChoice
  | [] => (table, [])
  | choice :: choices =>
      let (table, calls) := renumber table choice.delta.toolCalls
      let (table, choices) := renumberChoices table choices
      (table, { choice with delta := { choice.delta with toolCalls := calls } } :: choices)

/-- `FormatClaudeResponseInfo`; the flag tells whether the chunk is sent. -/
def formatClaudeResponseInfo (r : ClaudeResponse V) (chunk : Option ReplyChunk)
    (info : ResponseInfo) : ResponseInfo × Option ReplyChunk × Bool :=
  let (info, send) := (info.terminate r).see r
  if ¬send then (info, chunk, false)
  else match chunk with
    | none => (info, none, true)
    | some chunk =>
        let (table, choices) := renumberChoices info.toolCallIndexByBlock chunk.choices
        ({ info with toolCallIndexByBlock := table },
          some { chunk with
            id := info.responseId, created := info.created, model := info.model,
            choices := choices }, true)

/-- An event in `HandleStreamResponseData`: what is sent, if anything, is a chunk or `null`. -/
def handleStreamResponseData (r : ClaudeResponse V) (info : ResponseInfo) :
    Except NilPointer (ResponseInfo × Option (Option ReplyChunk)) := do
  let chunk ← streamResponseClaude2OpenAI r
  let (info, chunk, send) := formatClaudeResponseInfo r chunk info
  pure (info, if send then some chunk else none)

/-- The events of a stream in turn, with the chunk that each sent. -/
def relay (info : ResponseInfo) : List (ClaudeResponse V) →
    Except NilPointer (ResponseInfo × List (ClaudeResponse V × ReplyChunk))
  | [] => pure (info, [])
  | r :: rs => do
      let (info, sent) ← handleStreamResponseData r info
      let (info, rest) ← relay info rs
      pure (info, (sent.join.map fun chunk => (r, chunk)).toList ++ rest)

end NewApi.ClaudeReply
