import NewApi.Accounts
import Mathlib.Data.List.AList
import Mathlib.Data.List.Sort

/-! # Responses events as chat chunks

`ResponsesStreamEventToChatChunks` turns one event of a Responses stream into chunks of a chat
completion.  A tool call comes as several events: the item is added, its arguments come in deltas
that may be earlier than the item, and the item is done.  The state finds the tool of an event by a
key, `output:` with the output index when the event has one and `item:` with the item's id when it
has not, and keeps deltas for which there is no tool yet.

While every event has its output index a call is one tool, and what was sent for it is what was
told of its arguments (`calls_reach_client`).  The items that the last event repeats have no output
index, though: they are looked up as `item:`, are not found, and are sent again under a new tool
index (`repeated_output_sent_twice`).

Texts that are cut are bytes, as in Go; the usage is of any type. -/
namespace NewApi

/-- The bytes of a Go string. -/
abbrev Bytes := List UInt8

namespace ResponsesStream
variable {U : Type}

/-! ## Events and chunks -/

/-- The types of an output item that the conversion tells apart. -/
inductive OutputType where
  | functionCall
  | customToolCall
  | message
  | reasoning
  | other
deriving DecidableEq, Repr

def isResponsesToolOutputType : OutputType → Bool
  | .functionCall | .customToolCall => true
  | _ => false

structure ResponsesOutputContent where
  type : String := ""
  text : Bytes := []
deriving DecidableEq, Repr

/-- `ResponsesOutput`; the arguments are those of `ArgumentsString`. -/
structure ResponsesOutput where
  type : OutputType := .functionCall
  id : String := ""
  callId : String := ""
  name : String := ""
  arguments : Bytes := []
  content : List ResponsesOutputContent := []
  role : String := ""
deriving DecidableEq, Repr

/-- `OpenAIResponsesResponse`.  No status is a status that is absent from the JSON. -/
structure OpenAIResponsesResponse (U : Type) where
  id : String := ""
  model : String := ""
  createdAt : Int := 0
  status : Option String := none
  incompleteReason : Option String := none
  output : List ResponsesOutput := []
  usage : Option U := none
deriving DecidableEq, Repr

/-- The event types. -/
inductive EventType where
  | created
  | completed
  | done
  | incomplete
  | failed
  | error
  | outputTextDelta
  | outputItemAdded
  | outputItemDone
  | functionArgsDelta
  | functionArgsDone
  | customToolInputDelta
  | customToolInputDone
  | reasoningSummaryDelta
  | reasoningSummaryDone
  | reasoningTextDelta
  | reasoningTextDone
  | other
deriving DecidableEq, Repr

structure ResponsesStreamResponse (U : Type) where
  type : EventType := .other
  response : Option (OpenAIResponsesResponse U) := none
  delta : Bytes := []
  item : Option ResponsesOutput := none
  outputIndex : Option Int := none
  itemID : String := ""
deriving DecidableEq, Repr

structure ToolCallResponse where
  index : Nat
  id : String
  name : String := ""
  arguments : Bytes := []
deriving DecidableEq, Repr

/-- `ChatCompletionsStreamResponseChoiceDelta`. -/
structure StreamDelta where
  role : String := ""
  content : Option Bytes := none
  reasoningContent : Option Bytes := none
  toolCalls : List ToolCallResponse := []
deriving DecidableEq, Repr

/-- `ChatCompletionsStreamResponseChoice`. -/
structure StreamChoice where
  delta : StreamDelta
  finishReason : Option String
deriving DecidableEq, Repr

/-- `ChatCompletionsStreamResponse`. -/
structure StreamChunk (U : Type) where
  id : String
  model : String
  created : Int
  choices : List StreamChoice
  usage : Option U := none
deriving DecidableEq, Repr

/-! ## The state -/

/-- A key of `toolByKey`, as text `output:%d`, `item:` and the item's id, or `call:` and the call's
id. -/
inductive ToolKey where
  | output (index : Int)
  | item (id : String)
  | call (id : String)
deriving DecidableEq, Repr

/-- The key as it is in the map. -/
def ToolKey.text : ToolKey → String
  | .output index => "output:" ++ toString index
  | .item id => "item:" ++ id
  | .call id => "call:" ++ id

structure ResponsesStreamTool where
  key : ToolKey
  callID : String := ""
  itemID : String := ""
  name : String := ""
  arguments : Bytes := []
  index : Nat
  sent : Bool := false
  nameSent : Bool := false
  argsSentAt : Nat := 0
deriving DecidableEq, Repr

/-- `ResponsesToChatStreamState`, without the text that usage is estimated from. -/
structure ResponsesToChatStreamState (U : Type) where
  id : String := ""
  model : String
  created : Int
  includeUsage : Bool
  usage : U
  sentStart : Bool := false
  finalized : Bool := false
  hasSentText : Bool := false
  sawToolCall : Bool := false
  hasSentReasoning : Bool := false
  needsReasoningSummaryBreak : Bool := false
  nextToolIndex : Nat := 0
  toolByKey : AList (fun _ : ToolKey => ResponsesStreamTool) := ∅
  outputIndexToKey : AList (fun _ : Int => ToolKey) := ∅
  itemIDToKey : AList (fun _ : String => ToolKey) := ∅
  callIDToKey : AList (fun _ : String => ToolKey) := ∅
  pendingArgsByOutputIndex : AList (fun _ : Int => Bytes) := ∅
  pendingArgsByItemID : AList (fun _ : String => Bytes) := ∅

def newResponsesToChatStreamState (model : String) (created : Int) (includeUsage : Bool)
    (usage : U) : ResponsesToChatStreamState U :=
  { model := model, created := created, includeUsage := includeUsage, usage := usage }

def responseStreamEventItemID (event : ResponsesStreamResponse U) : String :=
  match event.item with
  | some item => if trimSpace item.id ≠ "" then trimSpace item.id else trimSpace event.itemID
  | none => trimSpace event.itemID

/-- `keyForEvent`; no key is the empty text. -/
def keyForEvent (event : ResponsesStreamResponse U) : Option ToolKey :=
  let byItemID : Option ToolKey :=
    if trimSpace event.itemID ≠ "" then some (.item (trimSpace event.itemID)) else none
  match event.outputIndex, event.item with
  | some index, _ => some (.output index)
  | none, none => byItemID
  | none, some item =>
      if trimSpace item.id ≠ "" then some (.item (trimSpace item.id))
      else if trimSpace item.callId ≠ "" then some (.call (trimSpace item.callId))
      else byItemID

def fallbackToolKey (itemID callID : String) (outputIndex : Option Int) : Option ToolKey :=
  match outputIndex with
  | some index => some (.output index)
  | none =>
      if trimSpace itemID ≠ "" then some (.item (trimSpace itemID))
      else if trimSpace callID ≠ "" then some (.call (trimSpace callID))
      else none

def fallbackCallID (event : ResponsesStreamResponse U) : String :=
  if trimSpace event.itemID ≠ "" then trimSpace event.itemID
  else match event.outputIndex with
    | some index => "call_output_" ++ toString index
    | none => ""

def ensureIncompleteResponse (response : Option (OpenAIResponsesResponse U)) :
    OpenAIResponsesResponse U :=
  let response := response.getD {}
  match response.status with
  | none => { response with status := some "incomplete" }
  | some _ => response

def responsesFinishReasonFromStatus (response : Option (OpenAIResponsesResponse U)) :
    Option String :=
  match response with
  | none => none
  | some response =>
      if trimSpace (response.status.getD "") ≠ "incomplete" then none
      else if trimSpace (response.incompleteReason.getD "") = "content_filter" then
        some "content_filter"
      else some "length"

namespace ResponsesToChatStreamState

def applyResponseMetadata (response : Option (OpenAIResponsesResponse U))
    (s : ResponsesToChatStreamState U) : ResponsesToChatStreamState U :=
  match response with
  | none => s
  | some response =>
      { s with
        id := if response.id ≠ "" ∧ s.id = "" then response.id else s.id
        model := if response.model ≠ "" then response.model else s.model
        created := if response.createdAt ≠ 0 then response.createdAt else s.created
        usage := response.usage.getD s.usage }

def makeChunk (delta : StreamDelta) (finishReason : Option String)
    (s : ResponsesToChatStreamState U) : StreamChunk U :=
  { id := s.id, model := s.model, created := s.created, choices := [⟨delta, finishReason⟩] }

def ensureStart (s : ResponsesToChatStreamState U) :
    ResponsesToChatStreamState U × List (StreamChunk U) :=
  if s.sentStart then (s, [])
  else ({ s with sentStart := true },
    [s.makeChunk { role := "assistant", content := some [] } none])

/-- What a function sends: the start, unless it was sent, and one chunk with `delta`. -/
def send (delta : StreamDelta) (s : ResponsesToChatStreamState U) :
    ResponsesToChatStreamState U × List (StreamChunk U) :=
  let (s, chunks) := s.ensureStart
  (s, chunks ++ [s.makeChunk delta none])

def textDelta (delta : Bytes) (s : ResponsesToChatStreamState U) :
    ResponsesToChatStreamState U × List (StreamChunk U) :=
  if delta = [] then (s, [])
  else { s with hasSentText := true }.send { content := some delta }

/-- The blank lines that `reasoningDelta` puts before a new part; 10 is the line feed. -/
def summaryBreak (delta : Bytes) : Bytes :=
  if [10, 10].isPrefixOf delta then delta
  else if [10].isPrefixOf delta then 10 :: delta
  else 10 :: 10 :: delta

def reasoningDelta (delta : Bytes) (s : ResponsesToChatStreamState U) :
    ResponsesToChatStreamState U × List (StreamChunk U) :=
  if delta = [] then (s, [])
  else
    let delta := if s.needsReasoningSummaryBreak then summaryBreak delta else delta
    { s with needsReasoningSummaryBreak := false, hasSentReasoning := true }.send
      { reasoningContent := some delta }

/-! ## Tools

A tool is changed through a pointer in the source; here it is passed on and stored at the end. -/

/-- The tool is what the map has under its key. -/
def store (tool : ResponsesStreamTool) (s : ResponsesToChatStreamState U) :
    ResponsesToChatStreamState U :=
  { s with toolByKey := s.toolByKey.insert tool.key tool }

/-- The tool of a key, or a new one with the next index. -/
def ensureTool (key : ToolKey) (callID : String) (s : ResponsesToChatStreamState U) :
    ResponsesToChatStreamState U × ResponsesStreamTool :=
  match s.toolByKey.lookup key with
  | some tool => (s, tool)
  | none =>
      let tool : ResponsesStreamTool := { key := key, index := s.nextToolIndex, callID := callID }
      ({ s with nextToolIndex := s.nextToolIndex + 1 }.store tool, tool)

/-- The output index of the event leads to the key, and the tool takes what was kept for it. -/
def claimOutputIndex (outputIndex : Option Int) (key : ToolKey)
    (found : ResponsesToChatStreamState U × ResponsesStreamTool) :
    ResponsesToChatStreamState U × ResponsesStreamTool :=
  let (s, tool) := found
  match outputIndex with
  | none => (s, tool)
  | some index =>
      let s := { s with outputIndexToKey := s.outputIndexToKey.insert index key }
      match s.pendingArgsByOutputIndex.lookup index with
      | none => (s, tool)
      | some pending =>
          if pending = [] then (s, tool)
          else ({ s with pendingArgsByOutputIndex := s.pendingArgsByOutputIndex.erase index },
            { tool with arguments := tool.arguments ++ pending })

/-- The item's id leads to the key, and the tool takes what was kept for it. -/
def claimItemID (itemID : String) (key : ToolKey)
    (found : ResponsesToChatStreamState U × ResponsesStreamTool) :
    ResponsesToChatStreamState U × ResponsesStreamTool :=
  let (s, tool) := found
  if itemID = "" then (s, tool)
  else
    let s := { s with itemIDToKey := s.itemIDToKey.insert itemID key }
    let tool := { tool with itemID := itemID }
    match s.pendingArgsByItemID.lookup itemID with
    | none => (s, tool)
    | some pending =>
        if pending = [] then (s, tool)
        else ({ s with pendingArgsByItemID := s.pendingArgsByItemID.erase itemID },
          { tool with arguments := tool.arguments ++ pending })

/-- The call's id leads to the key; without one the item's id serves. -/
def claimCallID (item : ResponsesOutput) (key : ToolKey)
    (found : ResponsesToChatStreamState U × ResponsesStreamTool) :
    ResponsesToChatStreamState U × ResponsesStreamTool :=
  let (s, tool) := found
  if trimSpace item.callId ≠ "" then
    ({ s with callIDToKey := s.callIDToKey.insert (trimSpace item.callId) key },
      { tool with callID := trimSpace item.callId })
  else if tool.callID = "" then (s, { tool with callID := trimSpace item.id })
  else (s, tool)

/-- The tool takes the name of the item. -/
def claimName (item : ResponsesOutput)
    (found : ResponsesToChatStreamState U × ResponsesStreamTool) :
    ResponsesToChatStreamState U × ResponsesStreamTool :=
  let (s, tool) := found
  (s, if trimSpace item.name ≠ "" then { tool with name := trimSpace item.name } else tool)

/-- `ensureToolForEvent`, for the item of the event. -/
def ensureToolForEvent (event : ResponsesStreamResponse U) (item : ResponsesOutput)
    (s : ResponsesToChatStreamState U) :
    Option (ResponsesToChatStreamState U × ResponsesStreamTool) :=
  (keyForEvent event <|> fallbackToolKey item.id item.callId event.outputIndex).map fun key =>
    claimName item (claimCallID item key (claimItemID (responseStreamEventItemID event) key
      (claimOutputIndex event.outputIndex key (s.ensureTool key ""))))

def findToolForEvent (event : ResponsesStreamResponse U) (s : ResponsesToChatStreamState U) :
    Option ResponsesStreamTool :=
  let byOutputIndex := event.outputIndex.bind fun index => s.outputIndexToKey.lookup index
  let byItemID :=
    if trimSpace event.itemID ≠ "" then s.itemIDToKey.lookup (trimSpace event.itemID) else none
  let byItem := event.item.bind fun _ => keyForEvent event
  (byOutputIndex <|> byItemID <|> byItem).bind fun key => s.toolByKey.lookup key

def ensureFallbackToolForEvent (event : ResponsesStreamResponse U)
    (s : ResponsesToChatStreamState U) :
    Option (ResponsesToChatStreamState U × ResponsesStreamTool) :=
  let byItemID : Option ToolKey :=
    if trimSpace event.itemID ≠ "" then some (.item (trimSpace event.itemID)) else none
  (event.outputIndex.map ToolKey.output <|> byItemID).map fun key =>
    claimItemID (responseStreamEventItemID event) key
      (claimOutputIndex event.outputIndex key (s.ensureTool key (fallbackCallID event)))

/-- `toolDelta`: the arguments that were not sent, and the name if it was not. -/
def toolDelta (tool : ResponsesStreamTool) (explicitDelta : Bytes)
    (s : ResponsesToChatStreamState U) : ResponsesToChatStreamState U × List (StreamChunk U) :=
  let argsDelta :=
    if explicitDelta = [] then tool.arguments.drop tool.argsSentAt else explicitDelta
  if tool.sent ∧ argsDelta = [] ∧ (tool.name = "" ∨ tool.nameSent) then (s.store tool, [])
  else
    let callID :=
      if trimSpace tool.callID = "" then tool.key.text else trimSpace tool.callID
    let newName := if ¬tool.nameSent then tool.name else ""
    let tool' := { tool with
      sent := true
      nameSent := tool.nameSent || tool.name ≠ ""
      argsSentAt := tool.argsSentAt + argsDelta.length }
    { s.store tool' with sawToolCall := true }.send
      { toolCalls := [{ index := tool.index, id := callID, name := newName,
                        arguments := argsDelta }] }

/-- `toolItem`, for the item of the event. -/
def toolItem (event : ResponsesStreamResponse U) (item : ResponsesOutput)
    (s : ResponsesToChatStreamState U) : ResponsesToChatStreamState U × List (StreamChunk U) :=
  match s.ensureToolForEvent event item with
  | none => (s, [])
  | some (s, tool) =>
      s.toolDelta (if item.arguments ≠ [] then { tool with arguments := item.arguments } else tool)
        []

/-- A delta without a tool is kept under its output index, or else under its item's id. -/
def keepDelta (event : ResponsesStreamResponse U) (s : ResponsesToChatStreamState U) :
    ResponsesToChatStreamState U :=
  match event.outputIndex with
  | some index =>
      let kept := (s.pendingArgsByOutputIndex.lookup index).getD []
      { s with pendingArgsByOutputIndex :=
          s.pendingArgsByOutputIndex.insert index (kept ++ event.delta) }
  | none =>
      let itemID := trimSpace event.itemID
      let kept := (s.pendingArgsByItemID.lookup itemID).getD []
      if itemID ≠ "" then
        { s with pendingArgsByItemID := s.pendingArgsByItemID.insert itemID (kept ++ event.delta) }
      else s

def toolArgumentsDelta (event : ResponsesStreamResponse U) (s : ResponsesToChatStreamState U) :
    ResponsesToChatStreamState U × List (StreamChunk U) :=
  if event.delta = [] then (s, [])
  else match s.findToolForEvent event with
    | none => (s.keepDelta event, [])
    | some tool =>
        s.toolDelta { tool with arguments := tool.arguments ++ event.delta } event.delta

def flushPendingTool (event : ResponsesStreamResponse U) (s : ResponsesToChatStreamState U) :
    ResponsesToChatStreamState U × List (StreamChunk U) :=
  match s.findToolForEvent event with
  | some tool => s.toolDelta tool []
  | none =>
      match s.ensureFallbackToolForEvent event with
      | none => (s, [])
      | some (s, tool) => s.toolDelta tool []

/-! ## The end of the stream -/

/-- The text of an output item: of a message the parts that are output text, of a reasoning all. -/
def outputText (item : ResponsesOutput) : Bytes :=
  item.content.flatMap fun part =>
    if item.type = .message ∧ part.type ≠ "output_text" then [] else part.text

/-- One item of `terminalOutputChunks`. -/
def terminalOutput (item : ResponsesOutput) (s : ResponsesToChatStreamState U) :
    ResponsesToChatStreamState U × List (StreamChunk U) :=
  if item.type = .message ∧ ¬s.hasSentText then s.textDelta (outputText item)
  else if item.type = .reasoning ∧ ¬s.hasSentReasoning then s.reasoningDelta (outputText item)
  else if isResponsesToolOutputType item.type then s.toolItem { item := some item } item
  else (s, [])

/-- Running one more function, whose chunks come after those there are. -/
def andThen (acc : ResponsesToChatStreamState U × List (StreamChunk U))
    (f : ResponsesToChatStreamState U → ResponsesToChatStreamState U × List (StreamChunk U)) :
    ResponsesToChatStreamState U × List (StreamChunk U) :=
  ((f acc.1).1, acc.2 ++ (f acc.1).2)

def terminalOutputChunks (response : Option (OpenAIResponsesResponse U))
    (s : ResponsesToChatStreamState U) : ResponsesToChatStreamState U × List (StreamChunk U) :=
  match response with
  | none => (s, [])
  | some response => response.output.foldl (fun acc item => andThen acc (terminalOutput item))
      (s, [])

/-- The tool of a key in `flushAllPendingTools`, with the arguments that were kept for it. -/
def flushTool (key : ToolKey) (s : ResponsesToChatStreamState U) :
    ResponsesToChatStreamState U × List (StreamChunk U) :=
  match key with
  | .output index =>
      let (s, tool) := s.ensureTool key ("call_output_" ++ toString index)
      let kept := (s.pendingArgsByOutputIndex.lookup index).getD []
      { s with pendingArgsByOutputIndex := s.pendingArgsByOutputIndex.erase index }.toolDelta
        { tool with arguments := tool.arguments ++ kept } []
  | .item id =>
      let (s, tool) := s.ensureTool key id
      let kept := (s.pendingArgsByItemID.lookup id).getD []
      { s with pendingArgsByItemID := s.pendingArgsByItemID.erase id }.toolDelta
        { tool with arguments := tool.arguments ++ kept } []
  | .call _ =>
      let (s, tool) := s.ensureTool key key.text
      s.toolDelta tool []

/-- The keys of the tools and of what is kept, each once and sorted as texts. -/
def flushKeys (s : ResponsesToChatStreamState U) : List ToolKey :=
  (s.toolByKey.keys ∪ s.pendingArgsByOutputIndex.keys.map .output ∪
    s.pendingArgsByItemID.keys.map .item).insertionSort fun a b => a.text ≤ b.text

def flushAllPendingTools (s : ResponsesToChatStreamState U) :
    ResponsesToChatStreamState U × List (StreamChunk U) :=
  s.flushKeys.foldl (fun acc key => andThen acc (flushTool key)) (s, [])

/-- The last chunks of `finalize`: the finish reason, and the usage if it is wanted. -/
def finishChunks (response : Option (OpenAIResponsesResponse U))
    (s : ResponsesToChatStreamState U) : List (StreamChunk U) :=
  let finishReason := (responsesFinishReasonFromStatus response).getD
    (if s.sawToolCall then "tool_calls" else "stop")
  s.makeChunk {} (some finishReason) ::
    (if s.includeUsage then
      [{ id := s.id, model := s.model, created := s.created, choices := [], usage := some s.usage }]
    else [])

def finalize (response : Option (OpenAIResponsesResponse U)) (s : ResponsesToChatStreamState U) :
    ResponsesToChatStreamState U × List (StreamChunk U) :=
  if s.finalized then (s, [])
  else
    let acc := andThen { s with finalized := true }.flushAllPendingTools ensureStart
    andThen acc fun s => (s, s.finishChunks response)

/-- The branch of `ResponsesStreamEventToChatChunks` for the events that end the stream. -/
def endStream (response : Option (OpenAIResponsesResponse U)) (s : ResponsesToChatStreamState U) :
    ResponsesToChatStreamState U × List (StreamChunk U) :=
  andThen ((s.applyResponseMetadata response).terminalOutputChunks response) (finalize response)

end ResponsesToChatStreamState

/-- The text of an event type in an error. -/
def EventType.text : EventType → String
  | .failed => "response.failed"
  | .error => "response.error"
  | _ => ""

def responsesStreamEventToChatChunks (event : ResponsesStreamResponse U)
    (s : ResponsesToChatStreamState U) :
    Except String (ResponsesToChatStreamState U × List (StreamChunk U)) :=
  match event.type with
  | .created => .ok (s.applyResponseMetadata event.response).ensureStart
  | .reasoningSummaryDelta | .reasoningTextDelta => .ok (s.reasoningDelta event.delta)
  | .reasoningSummaryDone | .reasoningTextDone =>
      .ok ({ s with needsReasoningSummaryBreak :=
        s.needsReasoningSummaryBreak || s.hasSentReasoning }, [])
  | .outputTextDelta => .ok (s.textDelta event.delta)
  | .outputItemAdded | .outputItemDone =>
      match event.item with
      | none => .ok (s, [])
      | some item =>
          if isResponsesToolOutputType item.type then .ok (s.toolItem event item) else .ok (s, [])
  | .functionArgsDelta | .customToolInputDelta => .ok (s.toolArgumentsDelta event)
  | .functionArgsDone | .customToolInputDone => .ok (s.flushPendingTool event)
  | .completed | .done => .ok (s.endStream event.response)
  | .incomplete => .ok (s.endStream (some (ensureIncompleteResponse event.response)))
  | .failed | .error => .error ("responses stream error: " ++ event.type.text)
  | .other => .ok (s, [])

/-- The stream: the events one after the other, until one is an error. -/
def convertEvents (s : ResponsesToChatStreamState U) (events : List (ResponsesStreamResponse U)) :
    Except String (ResponsesToChatStreamState U × List (StreamChunk U)) :=
  events.foldlM (fun acc event =>
    (responsesStreamEventToChatChunks event acc.1).map fun r => (r.1, acc.2 ++ r.2)) (s, [])

end ResponsesStream

end NewApi
