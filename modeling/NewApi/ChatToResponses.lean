import NewApi.Accounts
import NewApi.ClaudeMessages
import NewApi.Table

/-! # Chat chunks as Responses events

`ChatCompletionsStreamChunkToResponsesEvents` turns one chunk of a chat completion into events of
a Responses stream, and `FinalizeChatCompletionsStreamToResponses` ends the stream.  A Responses
stream has items (the message, the reasoning, one function call for each tool index), each of which
is added, filled by deltas and done.  What was opened is kept between the calls by flags for the
message and the reasoning, and by a map for the tools; `outputOrder` keeps the order in which the
items came.

The items are done when a finish reason comes, and again at the end for those that are not.

The usage is of any type: the conversion of its numbers is not part of this.  An output index that
is not yet given is -1 in the source and 0 here; it is not read before it is given. -/
namespace NewApi.ChatToResponses
variable {U : Type}

/-! ## Chunks -/

/-- `ChatCompletionsStreamResponseChoiceDelta`. -/
structure ChatDelta where
  content : Option String := none
  reasoningContent : Option String := none
  reasoning : Option String := none
  toolCalls : List ToolCallDelta := []
deriving DecidableEq, Repr

def ChatDelta.getContentString (delta : ChatDelta) : String := delta.content.getD ""

/-- `GetReasoningContent`, with the fallback of `reasoningContentWithFallback`. -/
def ChatDelta.getReasoningContent (delta : ChatDelta) : String :=
  (delta.reasoningContent <|> delta.reasoning).getD ""

/-- A choice of a chunk. -/
structure ChatChoice where
  delta : ChatDelta := {}
  finishReason : Option String := none
deriving DecidableEq, Repr

/-- `ChatCompletionsStreamResponse`. -/
structure StreamedChunk (U : Type) where
  id : String := ""
  model : String := ""
  created : Int := 0
  choices : List ChatChoice := []
  usage : Option U := none
deriving DecidableEq, Repr

/-! ## Events -/

/-- The types of an output item. -/
inductive ItemType where
  | message
  | reasoning
  | functionCall
deriving DecidableEq, Repr

/-- `ResponsesOutputContent`, and a summary part. -/
structure TextPart where
  type : String
  text : String
deriving DecidableEq, Repr

/-- `ResponsesOutput`; the arguments are the text that is put into JSON. -/
structure OutputItem where
  type : ItemType
  id : String
  status : String
  role : String := ""
  content : List TextPart := []
  callId : String := ""
  name : String := ""
  arguments : String := ""
deriving DecidableEq, Repr

/-- `OpenAIResponsesResponse`. -/
structure ResponsesReply (U : Type) where
  id : String
  createdAt : Int
  status : String
  incompleteReason : Option String := none
  model : String
  output : List OutputItem := []
  usage : Option U := none
deriving DecidableEq, Repr

/-- The types of the events that are sent. -/
inductive SentType where
  | created
  | outputItemAdded
  | outputTextDelta
  | reasoningSummaryDelta
  | functionArgsDelta
  | outputTextDone
  | reasoningSummaryDone
  | functionArgsDone
  | outputItemDone
  | completed
  | incomplete
deriving DecidableEq, Repr

/-- `ChatToResponsesStreamEvent` with its payload. -/
structure SentEvent (U : Type) where
  type : SentType
  response : Option (ResponsesReply U) := none
  delta : String := ""
  item : Option OutputItem := none
  outputIndex : Option Nat := none
  contentIndex : Option Nat := none
  summaryIndex : Option Nat := none
  itemID : String := ""
  part : Option TextPart := none
deriving DecidableEq, Repr

/-! ## The state -/

/-- `chatToResponsesOutputRef`. -/
inductive OutputRef where
  | message
  | reasoning
  | tool (toolIndex : Int)
deriving DecidableEq, Repr

/-- `chatToResponsesStreamTool`. -/
structure StreamTool where
  chatIndex : Int
  outputIndex : Nat
  id : String
  name : String
  arguments : String := ""
  done : Bool := false
deriving DecidableEq, Repr

/-- `ChatToResponsesStreamState`. -/
structure StreamState (U : Type) where
  id : String
  model : String
  created : Int
  usage : Option U := none
  status : String := "completed"
  incompleteReason : Option String := none
  sentCreated : Bool := false
  textOutputIndex : Nat := 0
  textStarted : Bool := false
  textDone : Bool := false
  reasoningIndex : Nat := 0
  reasoningStarted : Bool := false
  reasoningDone : Bool := false
  finalized : Bool := false
  nextOutputIndex : Nat := 0
  toolsByIndex : Db.Table StreamTool.chatIndex := .empty
  outputOrder : List OutputRef := []
  text : String := ""
  reasoning : String := ""

/-- `newOAIChatToOAIResponsesStreamState`: the id is that of the options, or made of a new one. -/
def newOAIChatToOAIResponsesStreamState (optionsId uuid model : String) (created : Int) :
    StreamState U :=
  { id := if trimSpace optionsId = "" then "resp_" ++ uuid else trimSpace optionsId
    model := trimSpace model
    created := created }

def responsesStatusFromChatFinishReason (finishReason : String) : String × Option String :=
  match trimSpace finishReason with
  | "length" => ("incomplete", some "max_output_tokens")
  | "content_filter" => ("incomplete", some "content_filter")
  | _ => ("completed", none)

namespace StreamState

def messageID (s : StreamState U) : String := s.id ++ "_msg_0"

def reasoningID (s : StreamState U) : String := s.id ++ "_reasoning_0"

def outputStatus (s : StreamState U) : String :=
  if s.status = "incomplete" then "incomplete" else "completed"

def messageOutput (status : String) (s : StreamState U) : OutputItem :=
  { type := .message, id := s.messageID, status := status, role := "assistant",
    content := [⟨"output_text", s.text⟩] }

def reasoningOutput (status : String) (s : StreamState U) : OutputItem :=
  { type := .reasoning, id := s.reasoningID, status := status,
    content := [⟨"summary_text", s.reasoning⟩] }

def toolOutput (tool : StreamTool) (status : String) : OutputItem :=
  { type := .functionCall, id := tool.id, status := status, callId := tool.id, name := tool.name,
    arguments := tool.arguments }

def nextIndex (ref : OutputRef) (s : StreamState U) : StreamState U × Nat :=
  ({ s with
    nextOutputIndex := s.nextOutputIndex + 1
    outputOrder := s.outputOrder ++ [ref] }, s.nextOutputIndex)

/-- The message item, if it is new. -/
def startText (s : StreamState U) : StreamState U × List (SentEvent U) :=
  if s.textStarted then (s, [])
  else
    let (s, index) := s.nextIndex .message
    ({ s with textStarted := true, textOutputIndex := index },
      [{ type := .outputItemAdded, outputIndex := some index,
         item := some { type := .message, id := s.messageID, status := "in_progress",
                        role := "assistant" } }])

def appendTextDelta (delta : String) (s : StreamState U) : StreamState U × List (SentEvent U) :=
  let (s, events) := s.startText
  ({ s with text := s.text ++ delta },
    events ++ [{ type := .outputTextDelta, outputIndex := some s.textOutputIndex,
                 contentIndex := some 0, delta := delta, itemID := s.messageID }])

/-- The reasoning item, if it is new. -/
def startReasoning (s : StreamState U) : StreamState U × List (SentEvent U) :=
  if s.reasoningStarted then (s, [])
  else
    let (s, index) := s.nextIndex .reasoning
    ({ s with reasoningStarted := true, reasoningIndex := index },
      [{ type := .outputItemAdded, outputIndex := some index,
         item := some { type := .reasoning, id := s.reasoningID, status := "in_progress" } }])

def appendReasoningDelta (delta : String) (s : StreamState U) :
    StreamState U × List (SentEvent U) :=
  let (s, events) := s.startReasoning
  ({ s with reasoning := s.reasoning ++ delta },
    events ++ [{ type := .reasoningSummaryDelta, outputIndex := some s.reasoningIndex,
                 summaryIndex := some 0, delta := delta, itemID := s.reasoningID }])

/-! A tool is changed through a pointer in the source; here it is stored after each change. -/

/-- The tool is what the map has under its index. -/
def store (tool : StreamTool) (s : StreamState U) : StreamState U :=
  { s with toolsByIndex := s.toolsByIndex.put tool }

/-- The tool index of a call. -/
def chatIndexOf (call : ToolCallDelta) : Int := call.index.getD 0

/-- The id of a tool that has none. -/
def callID (id : String) (chatIndex : Int) : String := id ++ "_call_" ++ toString chatIndex

/-- The id of the tool that a call opens. -/
def firstID (id : String) (call : ToolCallDelta) : String :=
  if trimSpace call.id = "" then callID id (chatIndexOf call) else trimSpace call.id

/-- The tool of a call, and its item if it is new. -/
def startTool (call : ToolCallDelta) (s : StreamState U) :
    StreamState U × StreamTool × List (SentEvent U) :=
  let chatIndex := chatIndexOf call
  match s.toolsByIndex.find? chatIndex with
  | some tool => (s, tool, [])
  | none =>
      let (s, index) := s.nextIndex (.tool chatIndex)
      let tool : StreamTool :=
        { chatIndex := chatIndex
          outputIndex := index
          id := firstID s.id call
          name := trimSpace call.name }
      (s.store tool, tool,
        [{ type := .outputItemAdded, outputIndex := some index, itemID := tool.id,
           item := some { type := .functionCall, id := tool.id, status := "in_progress",
                          callId := tool.id, name := tool.name } }])

/-- The id and the name that a call has, and its tool takes over. -/
def rename (call : ToolCallDelta) (tool : StreamTool) : StreamTool :=
  { tool with
    id := if trimSpace call.id ≠ "" then trimSpace call.id else tool.id
    name := if trimSpace call.name ≠ "" then trimSpace call.name else tool.name }

/-- `appendToolCallDelta`; its error is always nil. -/
def appendToolCallDelta (call : ToolCallDelta) (s : StreamState U) :
    StreamState U × List (SentEvent U) :=
  let (s, tool, events) := s.startTool call
  let tool := rename call tool
  if call.arguments = "" then (s.store tool, events)
  else (s.store { tool with arguments := tool.arguments ++ call.arguments },
    events ++ [{ type := .functionArgsDelta, outputIndex := some tool.outputIndex,
                 itemID := tool.id, delta := call.arguments }])

/-- The calls of a delta in turn. -/
def appendToolCallDeltas : List ToolCallDelta → StreamState U →
    StreamState U × List (SentEvent U)
  | [], s => (s, [])
  | call :: calls, s =>
      let (s, events) := s.appendToolCallDelta call
      let (s, more) := appendToolCallDeltas calls s
      (s, events ++ more)

/-! ## Done items -/

def sortedTools (s : StreamState U) : List StreamTool :=
  s.toolsByIndex.rows.insertionSort fun a b => a.chatIndex ≤ b.chatIndex

/-- The message, if it is not done. -/
def doneText (status : String) (s : StreamState U) : StreamState U × List (SentEvent U) :=
  if s.textStarted && !s.textDone then
    ({ s with textDone := true },
      [{ type := .outputTextDone, outputIndex := some s.textOutputIndex, contentIndex := some 0,
         itemID := s.messageID },
       { type := .outputItemDone, outputIndex := some s.textOutputIndex,
         item := some (s.messageOutput status) }])
  else (s, [])

/-- The reasoning, if it is not done. -/
def doneReasoning (status : String) (s : StreamState U) : StreamState U × List (SentEvent U) :=
  if s.reasoningStarted && !s.reasoningDone then
    ({ s with reasoningDone := true },
      [{ type := .reasoningSummaryDone, outputIndex := some s.reasoningIndex,
         summaryIndex := some 0, itemID := s.reasoningID,
         part := some ⟨"summary_text", s.reasoning⟩ },
       { type := .outputItemDone, outputIndex := some s.reasoningIndex,
         item := some (s.reasoningOutput status) }])
  else (s, [])

/-- The tools, those that are not done. -/
def doneTools (status : String) : List StreamTool → StreamState U →
    StreamState U × List (SentEvent U)
  | [], s => (s, [])
  | tool :: tools, s =>
      if tool.done then doneTools status tools s
      else
        let (s, events) := doneTools status tools (s.store { tool with done := true })
        (s, { type := .functionArgsDone, outputIndex := some tool.outputIndex,
              itemID := tool.id } ::
            { type := .outputItemDone, outputIndex := some tool.outputIndex,
              item := some (toolOutput tool status) } :: events)

def doneDeltaEvents (s : StreamState U) : StreamState U × List (SentEvent U) :=
  let status := s.outputStatus
  let (s, textEvents) := s.doneText status
  let (s, reasoningEvents) := s.doneReasoning status
  let (s, toolEvents) := doneTools status s.sortedTools s
  (s, textEvents ++ reasoningEvents ++ toolEvents)

def applyFinishReason (finishReason : String) (s : StreamState U) : StreamState U :=
  { s with
    status := (responsesStatusFromChatFinishReason finishReason).1
    incompleteReason := (responsesStatusFromChatFinishReason finishReason).2 }

/-! ## Chunks and the end -/

def createdResponse (s : StreamState U) : ResponsesReply U :=
  { id := s.id, createdAt := s.created, status := "in_progress", model := s.model }

/-- The item of a reference, in the final response. -/
def outputOf (status : String) (s : StreamState U) : OutputRef → Option OutputItem
  | .message => some (s.messageOutput status)
  | .reasoning => some (s.reasoningOutput status)
  | .tool k => (s.toolsByIndex.find? k).map fun tool => toolOutput tool status

def finalResponse (s : StreamState U) : ResponsesReply U :=
  { id := s.id, createdAt := s.created, status := s.status,
    incompleteReason := s.incompleteReason, model := s.model,
    output := s.outputOrder.filterMap (s.outputOf s.outputStatus), usage := s.usage }

/-- What the state takes from a chunk. -/
def takeMetadata (chunk : StreamedChunk U) (s : StreamState U) : StreamState U :=
  { s with
    id := if s.id = "" then chunk.id else s.id
    model := if s.model = "" then chunk.model else s.model
    created := if s.created = 0 then chunk.created else s.created
    usage := chunk.usage <|> s.usage }

/-- `response.created`, unless it was sent. -/
def sendCreated (s : StreamState U) : StreamState U × List (SentEvent U) :=
  if s.sentCreated then (s, [])
  else ({ s with sentCreated := true },
    [{ type := .created, response := some s.createdResponse }])

/-- What a delta of a choice says: reasoning, text and calls, in this order. -/
def appendDelta (delta : ChatDelta) (s : StreamState U) : StreamState U × List (SentEvent U) :=
  let (s, reasoningEvents) :=
    if delta.getReasoningContent ≠ "" then s.appendReasoningDelta delta.getReasoningContent
    else (s, [])
  let (s, textEvents) :=
    if delta.getContentString ≠ "" then s.appendTextDelta delta.getContentString else (s, [])
  let (s, toolEvents) := appendToolCallDeltas delta.toolCalls s
  (s, reasoningEvents ++ textEvents ++ toolEvents)

/-- One choice. -/
def appendChoice (choice : ChatChoice) (s : StreamState U) : StreamState U × List (SentEvent U) :=
  let (s, events) := s.appendDelta choice.delta
  if trimSpace (choice.finishReason.getD "") ≠ "" then
    let (s, doneEvents) := (s.applyFinishReason (choice.finishReason.getD "")).doneDeltaEvents
    (s, events ++ doneEvents)
  else (s, events)

/-- The choices in turn. -/
def appendChoices : List ChatChoice → StreamState U → StreamState U × List (SentEvent U)
  | [], s => (s, [])
  | choice :: choices, s =>
      let (s, events) := s.appendChoice choice
      let (s, more) := appendChoices choices s
      (s, events ++ more)

/-- `ChatCompletionsStreamChunkToResponsesEvents`. -/
def chunkToResponsesEvents (chunk : StreamedChunk U) (s : StreamState U) :
    StreamState U × List (SentEvent U) :=
  let (s, events) := (s.takeMetadata chunk).sendCreated
  let (s, more) := appendChoices chunk.choices s
  (s, events ++ more)

/-- `FinalizeChatCompletionsStreamToResponses`. -/
def finalizeStream (s : StreamState U) : StreamState U × List (SentEvent U) :=
  if s.finalized then (s, [])
  else
    let (s, events) := s.doneDeltaEvents
    let s := { s with finalized := true }
    let type : SentType := if s.status = "incomplete" then .incomplete else .completed
    (s, events ++ [{ type := type, response := some s.finalResponse }])

/-- The chunks of a stream in turn. -/
def convertChunks : List (StreamedChunk U) → StreamState U → StreamState U × List (SentEvent U)
  | [], s => (s, [])
  | chunk :: chunks, s =>
      let (s, events) := s.chunkToResponsesEvents chunk
      let (s, more) := convertChunks chunks s
      (s, events ++ more)

/-- The events of a whole stream. -/
def streamEvents (chunks : List (StreamedChunk U)) (s : StreamState U) : List (SentEvent U) :=
  (convertChunks chunks s).2 ++ (convertChunks chunks s).1.finalizeStream.2

end StreamState

end NewApi.ChatToResponses
