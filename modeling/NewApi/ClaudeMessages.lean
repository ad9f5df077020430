import Mathlib.Data.List.Induction

/-! # Chat chunks as Claude events

`StreamResponseOpenAI2Claude` turns one chunk of a chat completion into events of a Claude
message.  What is open in the message is kept between the calls: nothing, one block of text or of
thinking, or a group of blocks of tool calls that stand next to each other.

The first call is told from the others by `SendResponseCount`, and the two have their own code.
Both look at the tool calls, the reasoning and the text of choice 0, but neither takes all that a
chunk has: the first call takes tool calls and one of reasoning and text, later calls take only
one of the three.  What the code takes of text and reasoning it passes on unchanged (`prose_run`).

Usage is of any type here: the conversion of its numbers is not part of this. -/
namespace NewApi
open List
variable {U : Type}

/-! ## Chunks and events -/

/-- `ToolCallResponse` in a delta. -/
structure ToolCallDelta where
  index : Option Int := none
  id : String := ""
  name : String := ""
  arguments : String := ""
deriving DecidableEq, Repr

/-- The delta of a choice; a text that is absent is empty. -/
structure ChunkDelta where
  content : String := ""
  reasoning : String := ""
  toolCalls : List ToolCallDelta := []
deriving DecidableEq, Repr

/-- A choice; a finish reason that is absent is empty. -/
structure ChunkChoice where
  delta : ChunkDelta := {}
  finishReason : String := ""
deriving DecidableEq, Repr

/-- `ChatCompletionsStreamResponse`. -/
structure ChatChunk (U : Type) where
  id : String := ""
  model : String := ""
  choices : List ChunkChoice := []
  usage : Option U := none
deriving DecidableEq, Repr

/-- The type of a content block. -/
inductive BlockKind where
  | text
  | thinking
  | toolUse
deriving DecidableEq, Repr

/-- `ClaudeResponse` in a stream. -/
inductive ClaudeEvent (U : Type) where
  | messageStart (id model : String)
  | blockStart (index : Int) (kind : BlockKind) (id name : String)
  | textDelta (index : Int) (text : String)
  | thinkingDelta (index : Int) (thinking : String)
  | inputJsonDelta (index : Int) (partialJson : String)
  | blockStop (index : Int)
  | messageDelta (usage : U) (stopReason : String)
  | messageStop
deriving DecidableEq, Repr

/-- `LastMessagesType`. -/
inductive LastMessageType where
  | none
  | text
  | thinking
  | tools
deriving DecidableEq, Repr

/-- `ClaudeConvertInfo`, and what else of `RelayInfo` the conversion uses. -/
structure ClaudeInfo (U : Type) where
  sendResponseCount : Nat := 0
  finishReason : String := ""
  lastMessagesType : LastMessageType := .none
  index : Int := 0
  usage : Option U := none
  done : Bool := false
  toolCallBaseIndex : Int := 0
  toolCallMaxIndexOffset : Int := 0
deriving DecidableEq, Repr

/-- `OpenAIFinishReasonToClaudeStopReason`. -/
def stopReasonOpenAI2Claude (finishReason : String) : String :=
  match finishReason.toLower with
  | "stop" => "end_turn"
  | "stop_sequence" => "stop_sequence"
  | "length" => "max_tokens"
  | "max_tokens" => "max_tokens"
  | "content_filter" => "refusal"
  | "tool_calls" => "tool_use"
  | _ => finishReason

/-! ## The conversion -/

/-- The place of a call among the tool calls: its index, or its position in the chunk. -/
def ToolCallDelta.offset (call : ToolCallDelta) (position : Nat) : Int :=
  call.index.getD position

/-- The events of one tool call.  The first chunk opens a block for each, later ones for those that
have a name. -/
def toolCallEvents (opens : Bool) (base : Int) (call : ToolCallDelta) (position : Nat) :
    List (ClaudeEvent U) :=
  (if opens || call.name ≠ "" then
    [.blockStart (base + call.offset position) .toolUse call.id call.name] else []) ++
  (if call.arguments ≠ "" then
    [.inputJsonDelta (base + call.offset position) call.arguments] else [])

/-- The events of the tool calls of a chunk. -/
def toolCallsEvents (opens : Bool) (base : Int) (calls : List ToolCallDelta) :
    List (ClaudeEvent U) :=
  calls.zipIdx.flatMap fun p => toolCallEvents opens base p.1 p.2

def maxOffset (start : Int) (calls : List ToolCallDelta) : Int :=
  calls.zipIdx.foldl (fun m p => if p.1.offset p.2 > m then p.1.offset p.2 else m) start

namespace ClaudeInfo

def stopOpenBlocks (info : ClaudeInfo U) : List (ClaudeEvent U) :=
  match info.lastMessagesType with
  | .none => []
  | .text => [.blockStop info.index]
  | .thinking => [.blockStop info.index]
  | .tools => (List.range (info.toolCallMaxIndexOffset + 1).toNat).map fun (offset : Nat) =>
      .blockStop (info.toolCallBaseIndex + offset)

def stopOpenBlocksAndAdvance (info : ClaudeInfo U) : ClaudeInfo U × List (ClaudeEvent U) :=
  match info.lastMessagesType with
  | .none => (info, [])
  | .tools =>
      ({ info with
          index := info.toolCallBaseIndex + info.toolCallMaxIndexOffset + 1
          toolCallBaseIndex := 0
          toolCallMaxIndexOffset := 0
          lastMessagesType := .none }, info.stopOpenBlocks)
  | _ => ({ info with index := info.index + 1, lastMessagesType := .none }, info.stopOpenBlocks)

/-- The tool calls of the first chunk. -/
def openTools (calls : List ToolCallDelta) (info : ClaudeInfo U) :
    ClaudeInfo U × List (ClaudeEvent U) :=
  ({ info with
      lastMessagesType := .tools
      toolCallBaseIndex := 0
      toolCallMaxIndexOffset := maxOffset 0 calls
      index := maxOffset 0 calls }, toolCallsEvents true 0 calls)

/-- The tool calls of the first chunk, if it has any. -/
def openToolCalls (d : ChunkDelta) (info : ClaudeInfo U) : ClaudeInfo U × List (ClaudeEvent U) :=
  if d.toolCalls ≠ [] then info.openTools d.toolCalls else (info, [])

/-- A block of thinking or text in the first chunk. -/
def openBlock (last : LastMessageType) (kind : BlockKind) (delta : Int → ClaudeEvent U)
    (info : ClaudeInfo U) : ClaudeInfo U × List (ClaudeEvent U) :=
  let opened := if info.lastMessagesType ≠ last then info.stopOpenBlocksAndAdvance else (info, [])
  ({ opened.1 with lastMessagesType := last },
    opened.2 ++ [.blockStart opened.1.index kind "" "", delta opened.1.index])

/-- Reasoning or text in the first chunk. -/
def openContent (d : ChunkDelta) (info : ClaudeInfo U) : ClaudeInfo U × List (ClaudeEvent U) :=
  if d.reasoning ≠ "" then info.openBlock .thinking .thinking (.thinkingDelta · d.reasoning)
  else if d.content ≠ "" then info.openBlock .text .text (.textDelta · d.content)
  else (info, [])

/-- The end of the message. -/
def closeMessage (usage : Option U) (info : ClaudeInfo U) : ClaudeInfo U × List (ClaudeEvent U) :=
  ({ info with done := true },
    info.stopOpenBlocks ++
      (match usage with
        | none => []
        | some u => [.messageDelta u (stopReasonOpenAI2Claude info.finishReason)]) ++
      [.messageStop])

/-- The first chunk. -/
def firstChunk (c : ChatChunk U) (info : ClaudeInfo U) : ClaudeInfo U × List (ClaudeEvent U) :=
  let start := [.messageStart c.id c.model]
  match c.choices with
  | [] => (info, start)
  | choice :: _ =>
      let tools := info.openToolCalls choice.delta
      let content := tools.1.openContent choice.delta
      if choice.finishReason ≠ "" then
        let closed := { content.1 with finishReason := choice.finishReason }.closeMessage
          (c.usage <|> info.usage)
        (closed.1, start ++ tools.2 ++ content.2 ++ closed.2)
      else (content.1, start ++ tools.2 ++ content.2)

/-- The tool calls of a later chunk. -/
def addTools (calls : List ToolCallDelta) (info : ClaudeInfo U) :
    ClaudeInfo U × List (ClaudeEvent U) :=
  let opened := if info.lastMessagesType ≠ .tools then
      let advanced := info.stopOpenBlocksAndAdvance
      ({ advanced.1 with
          toolCallBaseIndex := advanced.1.index
          toolCallMaxIndexOffset := 0 }, advanced.2)
    else (info, [])
  let base := opened.1.toolCallBaseIndex
  let offset := maxOffset opened.1.toolCallMaxIndexOffset calls
  ({ opened.1 with
      lastMessagesType := .tools
      toolCallMaxIndexOffset := offset
      index := base + offset }, opened.2 ++ toolCallsEvents false base calls)

/-- A piece of thinking or text in a later chunk. -/
def addBlock (last : LastMessageType) (kind : BlockKind) (delta : Int → ClaudeEvent U)
    (info : ClaudeInfo U) : ClaudeInfo U × List (ClaudeEvent U) :=
  let opened := if info.lastMessagesType ≠ last then
      let advanced := info.stopOpenBlocksAndAdvance
      (advanced.1, advanced.2 ++ [.blockStart advanced.1.index kind "" ""])
    else (info, [])
  ({ opened.1 with lastMessagesType := last }, opened.2 ++ [delta opened.1.index])

/-- The delta of a later chunk. -/
def addDelta (d : ChunkDelta) (info : ClaudeInfo U) : ClaudeInfo U × List (ClaudeEvent U) :=
  if d.toolCalls ≠ [] then info.addTools d.toolCalls
  else if d.reasoning ≠ "" then info.addBlock .thinking .thinking (.thinkingDelta · d.reasoning)
  else if d.content ≠ "" then info.addBlock .text .text (.textDelta · d.content)
  else (info, [])

/-- The finish reason of a choice is noted, if it has one. -/
def noteFinish (choice : ChunkChoice) (info : ClaudeInfo U) : ClaudeInfo U :=
  if choice.finishReason ≠ "" then { info with finishReason := choice.finishReason } else info

/-- A later chunk.  A finish reason without usage leaves the end to a chunk that has usage. -/
def laterChunk (c : ChatChunk U) (info : ClaudeInfo U) : ClaudeInfo U × List (ClaudeEvent U) :=
  let usage := c.usage <|> info.usage
  match c.choices with
  | [] =>
      match usage with
      | none => (info, [])
      | some u =>
          let stopReason := stopReasonOpenAI2Claude info.finishReason
          ({ info with done := true },
            info.stopOpenBlocks ++
              [.messageDelta u (if stopReason = "" then "end_turn" else stopReason), .messageStop])
  | choice :: _ =>
      let delta := (info.noteFinish choice).addDelta choice.delta
      if (choice.finishReason ≠ "" ∧ usage.isSome) ∨ delta.1.done then
        let closed := delta.1.closeMessage usage
        (closed.1, delta.2 ++ closed.2)
      else delta

def streamResponseOpenAI2Claude (c : ChatChunk U) (info : ClaudeInfo U) :
    ClaudeInfo U × List (ClaudeEvent U) :=
  if info.done then (info, [])
  else if info.sendResponseCount = 1 then info.firstChunk c
  else info.laterChunk c

end ClaudeInfo

/-! ## What the model generated -/

/-- What is put together from the pieces of a stream. -/
inductive Output where
  | text
  | thinking
  /-- The arguments of a tool call: in events that of a block, in chunks that of a tool index. -/
  | arguments (index : Int)
deriving DecidableEq, Repr

namespace Output

/-- The piece that an event has. -/
def ofEvent : Output → ClaudeEvent U → String
  | .text, .textDelta _ piece => piece
  | .thinking, .thinkingDelta _ piece => piece
  | .arguments block, .inputJsonDelta index piece => if index = block then piece else ""
  | _, _ => ""

/-- All the pieces, one after the other. -/
def ofEvents (o : Output) (es : List (ClaudeEvent U)) : String :=
  String.join (es.map o.ofEvent)

/-- The pieces of the tool calls of a chunk. -/
def ofCalls (o : Output) (calls : List (ToolCallDelta × Nat)) : String :=
  match o with
  | .arguments k =>
      String.join (calls.map fun p => if p.1.offset p.2 = k then p.1.arguments else "")
  | _ => ""

/-- The piece that a delta has. -/
def ofDelta (o : Output) (d : ChunkDelta) : String :=
  match o with
  | .text => d.content
  | .thinking => d.reasoning
  | .arguments k => (Output.arguments k).ofCalls d.toolCalls.zipIdx

/-- The piece that a chunk has, which is that of choice 0. -/
def ofChunk (o : Output) (c : ChatChunk U) : String :=
  match c.choices with
  | [] => ""
  | choice :: _ => o.ofDelta choice.delta

@[simp] theorem ofEvents_nil (o : Output) : o.ofEvents ([] : List (ClaudeEvent U)) = "" := rfl

@[simp] theorem ofEvents_append (o : Output) (es es' : List (ClaudeEvent U)) :
    o.ofEvents (es ++ es') = o.ofEvents es ++ o.ofEvents es' := by
  simp [ofEvents]

@[simp] theorem ofEvents_cons (o : Output) (e : ClaudeEvent U) (es : List (ClaudeEvent U)) :
    o.ofEvents (e :: es) = o.ofEvent e ++ o.ofEvents es := by
  simp [ofEvents]

variable (o : Output)

/-- The events around the pieces have none. -/
@[simp] theorem ofEvent_frame :
    (∀ id model, o.ofEvent (.messageStart id model : ClaudeEvent U) = "") ∧
    (∀ index kind id name, o.ofEvent (.blockStart index kind id name : ClaudeEvent U) = "") ∧
    (∀ index, o.ofEvent (.blockStop index : ClaudeEvent U) = "") ∧
    (∀ (usage : U) stopReason, o.ofEvent (.messageDelta usage stopReason) = "") ∧
    o.ofEvent (.messageStop : ClaudeEvent U) = "" := by
  cases o <;> simp [ofEvent]

end Output

section Conserved
variable (o : Output)

open ClaudeInfo

@[simp] theorem ofEvents_stopOpenBlocks (info : ClaudeInfo U) :
    o.ofEvents info.stopOpenBlocks = "" := by
  unfold stopOpenBlocks
  split
  · rfl
  · simp
  · simp
  · -- one stop for each tool call
    generalize List.range (info.toolCallMaxIndexOffset + 1).toNat = offsets
    induction offsets with
    | nil => rfl
    | cons offset offsets ih => simp [ih]

@[simp] theorem ofEvents_advance (info : ClaudeInfo U) :
    o.ofEvents info.stopOpenBlocksAndAdvance.2 = "" := by
  unfold stopOpenBlocksAndAdvance
  split
  · rfl
  all_goals exact ofEvents_stopOpenBlocks o info

@[simp] theorem ofEvents_closeMessage (usage : Option U) (info : ClaudeInfo U) :
    o.ofEvents (info.closeMessage usage).2 = "" := by
  unfold closeMessage
  cases usage with
  | none | some u => simp

open Output (ofDelta ofEvent ofEvents_append)

/-- A call puts its arguments into its block. -/
theorem ofEvents_toolCall (opens : Bool) (base : Int) (call : ToolCallDelta) (position : Nat) :
    o.ofEvents (toolCallEvents opens base call position : List (ClaudeEvent U)) =
      if o = .arguments (base + call.offset position) then call.arguments else "" := by
  have hstart : o.ofEvents (if opens || call.name ≠ "" then [.blockStart
      (base + call.offset position) .toolUse call.id call.name] else [] :
      List (ClaudeEvent U)) = "" := by
    split
    · simp
    · rfl
  rw [toolCallEvents, ofEvents_append, hstart]
  by_cases harguments : call.arguments = ""
  · simp [harguments]
  cases o with
  | text | thinking => simp [ofEvent, harguments]
  | arguments block =>
    by_cases hblock : base + call.offset position = block
    · simp [ofEvent, harguments, hblock]
    · simp [ofEvent, harguments, hblock, Ne.symm hblock]

theorem ofEvents_openBlock (last : LastMessageType) (kind : BlockKind)
    (delta : Int → ClaudeEvent U) (info : ClaudeInfo U) :
    ∃ index, o.ofEvents (info.openBlock last kind delta).2 = o.ofEvent (delta index) := by
  unfold openBlock
  split
  · exact ⟨info.stopOpenBlocksAndAdvance.1.index, by simp⟩
  · exact ⟨info.index, by simp⟩

theorem ofEvents_addBlock (last : LastMessageType) (kind : BlockKind)
    (delta : Int → ClaudeEvent U) (info : ClaudeInfo U) :
    ∃ index, o.ofEvents (info.addBlock last kind delta).2 = o.ofEvent (delta index) := by
  unfold addBlock
  split
  · exact ⟨info.stopOpenBlocksAndAdvance.1.index, by simp⟩
  · exact ⟨info.index, by simp⟩

/-- A block that is opened or continued for text or reasoning has no arguments. -/
theorem arguments_openContent (block : Int) (d : ChunkDelta) (info : ClaudeInfo U) :
    (Output.arguments block).ofEvents (info.openContent d).2 = "" := by
  unfold openContent
  split
  · exact (ofEvents_openBlock _ _ _ (fun i => (.thinkingDelta i d.reasoning : ClaudeEvent U))
      info).choose_spec
  split
  · exact (ofEvents_openBlock _ _ _ (fun i => (.textDelta i d.content : ClaudeEvent U))
      info).choose_spec
  · rfl

/-! ## Text and reasoning -/

/-- Text or thinking. -/
def Output.IsProse : Output → Prop
  | .arguments _ => False
  | _ => True

variable {o} (hprose : o.IsProse)
include hprose

theorem prose_toolCalls (opens : Bool) (base : Int) (calls : List ToolCallDelta) :
    o.ofEvents (toolCallsEvents opens base calls : List (ClaudeEvent U)) = "" := by
  have hno : ∀ block, o ≠ .arguments block := by
    rintro block rfl
    exact hprose
  unfold toolCallsEvents
  generalize calls.zipIdx = indexed
  induction indexed with
  | nil => rfl
  | cons p indexed ih =>
    rw [flatMap_cons, ofEvents_append, ih, ofEvents_toolCall, if_neg (hno _), String.append_empty]

theorem prose_addTools (calls : List ToolCallDelta) (info : ClaudeInfo U) :
    o.ofEvents (info.addTools calls).2 = "" := by
  rw [addTools, ofEvents_append, prose_toolCalls hprose]
  split
  · rw [ofEvents_advance, String.append_empty]
  · rw [Output.ofEvents_nil, String.append_empty]

/-- One piece of reasoning or text is what a delta has of it, if it has one kind. -/
theorem prose_piece {d : ChunkDelta} {es : List (ClaudeEvent U)}
    (hone : d.reasoning = "" ∨ d.content = "")
    (hthinking : d.reasoning ≠ "" →
      ∃ index, o.ofEvents es = o.ofEvent (.thinkingDelta index d.reasoning : ClaudeEvent U))
    (htext : d.reasoning = "" → d.content ≠ "" →
      ∃ index, o.ofEvents es = o.ofEvent (.textDelta index d.content : ClaudeEvent U))
    (hnone : d.reasoning = "" → d.content = "" → o.ofEvents es = "") :
    o.ofEvents es = o.ofDelta d := by
  by_cases hreasoning : d.reasoning = ""
  · by_cases hcontent : d.content = ""
    · rw [hnone hreasoning hcontent]
      cases o with
      | text | thinking => simp [ofDelta, hreasoning, hcontent]
      | arguments => exact hprose.elim
    · obtain ⟨index, hpiece⟩ := htext hreasoning hcontent
      rw [hpiece]
      cases o with
      | text | thinking => simp [ofDelta, ofEvent, hreasoning]
      | arguments => exact hprose.elim
  · obtain ⟨index, hpiece⟩ := hthinking hreasoning
    rw [hpiece]
    cases o with
    | text | thinking => simp [ofDelta, ofEvent, hone.resolve_left hreasoning]
    | arguments => exact hprose.elim

/-- What the first chunk passes on: its text unless it has reasoning. -/
theorem prose_openContent (d : ChunkDelta) (info : ClaudeInfo U)
    (hone : d.reasoning = "" ∨ d.content = "") :
    o.ofEvents (info.openContent d).2 = o.ofDelta d := by
  unfold openContent
  refine prose_piece hprose hone (fun hreasoning => ?_) (fun hreasoning hcontent => ?_)
    fun hreasoning hcontent => ?_
  · rw [if_pos hreasoning]
    exact ofEvents_openBlock o .thinking .thinking (.thinkingDelta · d.reasoning) info
  · rw [if_neg (not_not.mpr hreasoning), if_pos hcontent]
    exact ofEvents_openBlock o .text .text (.textDelta · d.content) info
  · rw [if_neg (not_not.mpr hreasoning), if_neg (not_not.mpr hcontent)]
    rfl

/-- What a later chunk passes on, if it has one kind of output. -/
theorem prose_addDelta (d : ChunkDelta) (info : ClaudeInfo U)
    (hone : d.reasoning = "" ∨ d.content = "")
    (htools : d.toolCalls = [] ∨ (d.reasoning = "" ∧ d.content = "")) :
    o.ofEvents (info.addDelta d).2 = o.ofDelta d := by
  unfold addDelta
  by_cases hcalls : d.toolCalls = []
  · rw [if_neg (not_not.mpr hcalls)]
    refine prose_piece hprose hone (fun hreasoning => ?_) (fun hreasoning hcontent => ?_)
      fun hreasoning hcontent => ?_
    · rw [if_pos hreasoning]
      exact ofEvents_addBlock o .thinking .thinking (.thinkingDelta · d.reasoning) info
    · rw [if_neg (not_not.mpr hreasoning), if_pos hcontent]
      exact ofEvents_addBlock o .text .text (.textDelta · d.content) info
    · rw [if_neg (not_not.mpr hreasoning), if_neg (not_not.mpr hcontent)]
      rfl
  · obtain ⟨hreasoning, hcontent⟩ := htools.resolve_left hcalls
    rw [if_pos hcalls]
    refine prose_piece hprose hone (fun h => absurd hreasoning h) (fun _ h => absurd hcontent h) ?_
    exact fun _ _ => prose_addTools hprose _ info

end Conserved

/-! ## Calls one after the other -/

/-- A call of the conversion: the count of responses and the usage that the caller has set. -/
structure ConvertCall (U : Type) where
  sendResponseCount : Nat
  usage : Option U := none
  chunk : ChatChunk U

namespace ConvertCall

/-- The delta of choice 0 has one kind of output.  In the first chunk tool calls may come on
top. -/
def OneKind (call : ConvertCall U) : Prop :=
  ∀ choice ∈ call.chunk.choices.head?,
    (choice.delta.reasoning = "" ∨ choice.delta.content = "") ∧
    (call.sendResponseCount = 1 ∨ choice.delta.toolCalls = [] ∨
      (choice.delta.reasoning = "" ∧ choice.delta.content = ""))

/-- The call. -/
def run (info : ClaudeInfo U) (call : ConvertCall U) : ClaudeInfo U × List (ClaudeEvent U) :=
  { info with
    sendResponseCount := call.sendResponseCount
    usage := call.usage }.streamResponseOpenAI2Claude call.chunk

/-- All the calls, from a message that is not begun. -/
def runAll (calls : List (ConvertCall U)) : ClaudeInfo U × List (ClaudeEvent U) :=
  calls.foldl (fun acc call => ((run acc.1 call).1, acc.2 ++ (run acc.1 call).2)) ({}, [])

/-- What the model generated of an output. -/
def generated (o : Output) (calls : List (ConvertCall U)) : String :=
  String.join (calls.map fun call => o.ofChunk call.chunk)

theorem generated_concat (o : Output) (calls : List (ConvertCall U)) (call : ConvertCall U) :
    generated o (calls ++ [call]) = generated o calls ++ o.ofChunk call.chunk := by
  simp [generated]

section Prose
variable {o : Output} (hprose : o.IsProse)
include hprose

theorem prose_firstChunk (c : ChatChunk U) (info : ClaudeInfo U)
    (hone : ∀ choice ∈ c.choices.head?, choice.delta.reasoning = "" ∨ choice.delta.content = "") :
    o.ofEvents (info.firstChunk c).2 = o.ofChunk c := by
  unfold ClaudeInfo.firstChunk Output.ofChunk
  cases hchoices : c.choices with
  | nil => simp
  | cons choice rest =>
    have hdelta := hone choice (by simp [hchoices])
    have htools : o.ofEvents (info.openToolCalls choice.delta).2 = "" := by
      unfold ClaudeInfo.openToolCalls
      split
      · exact prose_toolCalls hprose true 0 _
      · rfl
    dsimp only
    split
    · simp only [Output.ofEvents_append, ofEvents_closeMessage, Output.ofEvents_cons,
        Output.ofEvent_frame, Output.ofEvents_nil, String.append_empty, String.empty_append, htools]
      exact prose_openContent hprose _ _ hdelta
    · simp only [Output.ofEvents_append, Output.ofEvents_cons, Output.ofEvent_frame,
        Output.ofEvents_nil, String.append_empty, String.empty_append, htools]
      exact prose_openContent hprose _ _ hdelta

theorem prose_laterChunk (c : ChatChunk U) (info : ClaudeInfo U)
    (hone : ∀ choice ∈ c.choices.head?, (choice.delta.reasoning = "" ∨ choice.delta.content = "") ∧
      (choice.delta.toolCalls = [] ∨ (choice.delta.reasoning = "" ∧ choice.delta.content = ""))) :
    o.ofEvents (info.laterChunk c).2 = o.ofChunk c := by
  unfold ClaudeInfo.laterChunk Output.ofChunk
  cases hchoices : c.choices with
  | nil =>
    dsimp only
    split
    · rfl
    · simp
  | cons choice rest =>
    obtain ⟨hkind, htools⟩ := hone choice (by simp [hchoices])
    dsimp only
    split
    · rw [Output.ofEvents_append, prose_addDelta hprose _ _ hkind htools, ofEvents_closeMessage,
        String.append_empty]
    · exact prose_addDelta hprose _ _ hkind htools

/-- **One call** passes on the text and the reasoning that its chunk has. -/
theorem prose_run {info : ClaudeInfo U} (hopen : info.done = false) {call : ConvertCall U}
    (hone : call.OneKind) : o.ofEvents (run info call).2 = o.ofChunk call.chunk := by
  rw [run, ClaudeInfo.streamResponseOpenAI2Claude, if_neg (by simp [hopen])]
  split
  · exact prose_firstChunk hprose call.chunk _ fun choice hchoice => (hone choice hchoice).1
  rename_i hlater
  exact prose_laterChunk hprose call.chunk _ fun choice hchoice =>
    ⟨(hone choice hchoice).1, (hone choice hchoice).2.resolve_left hlater⟩

end Prose

theorem runAll_concat (calls : List (ConvertCall U)) (call : ConvertCall U) :
    runAll (calls ++ [call]) =
      ((run (runAll calls).1 call).1, (runAll calls).2 ++ (run (runAll calls).1 call).2) := by
  unfold runAll
  rw [foldl_append, foldl_cons, foldl_nil]

/-- A message that is ended stays so. -/
theorem done_run {info : ClaudeInfo U} (hdn : info.done = true) (call : ConvertCall U) :
    (run info call).1.done = true := by
  rw [run, ClaudeInfo.streamResponseOpenAI2Claude, if_pos hdn]
  exact hdn

/-- A message that is not ended was not ended before. -/
theorem open_of_concat {calls : List (ConvertCall U)} {call : ConvertCall U}
    (hopen : (runAll (calls ++ [call]).dropLast).1.done = false) :
    (runAll calls).1.done = false ∧ (runAll calls.dropLast).1.done = false := by
  rw [dropLast_concat] at hopen
  refine ⟨hopen, ?_⟩
  rcases eq_nil_or_concat calls with rfl | ⟨earlier, last, rfl⟩
  · rfl
  rw [concat_eq_append, runAll_concat] at hopen
  rw [concat_eq_append, dropLast_concat]
  by_contra hdone
  rw [Bool.not_eq_false] at hdone
  rw [done_run hdone] at hopen
  cases hopen

/-- **The text and the reasoning of chunks** whose deltas have one kind of output each, up to the
call that ends the message. -/
theorem prose_conserved {o : Output} (hprose : o.IsProse) {calls : List (ConvertCall U)}
    (hopen : (runAll calls.dropLast).1.done = false) (hone : ∀ call ∈ calls, call.OneKind) :
    o.ofEvents (runAll calls).2 = generated o calls := by
  induction calls using List.reverseRecOn with
  | nil => rfl
  | append_singleton calls call ih =>
    obtain ⟨hnow, hbefore⟩ := open_of_concat hopen
    rw [runAll_concat, Output.ofEvents_append, generated_concat,
      ih hbefore fun c hc => hone c (mem_append_left _ hc),
      prose_run hprose hnow (hone call (mem_append_right _ mem_cons_self))]

end ConvertCall

end NewApi
