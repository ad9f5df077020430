import NewApi.ClaudeReplies

/-! # Streamed and whole Claude replies

A client that puts the chunks of a stream together should read what it would have read in the
completion of the whole message.  A cut of a message (`MessageCut`) has the message and its
events, cut in any way.

Only the numbers of the tool calls depend on the state of a stream, and putting calls together by
their numbers is putting them together by their blocks (`callsByIndex_renumber`).  So what a stream
says is found block by block, and the two readings agree (`streaming_keeps_reply`) for exactly the
cuts that `Carried` describes.  They do not agree for every cut: the whole message keeps one
thinking block where the stream has all (`two_thoughts_differ`), a tool without arguments is
streamed with an empty text, and a number that the code rounds is exact in the stream. -/
namespace NewApi.ClaudeReply
open Function Groups List
open String (join)
variable {J V : Type}

/-! ## What the client reads -/

/-- The choices that were sent, each with its event. -/
def choicesOf (sent : List (ClaudeResponse V × ReplyChunk)) :
    List (ClaudeResponse V × ReplyChoice) :=
  sent.flatMap fun p => p.2.choices.map fun choice => (p.1, choice)

/-- The tool calls of the choices. -/
def callsOf (choices : List (ClaudeResponse V × ReplyChoice)) : List ToolCallDelta :=
  choices.flatMap fun p => p.2.delta.toolCalls

/-- The event is the signature of a thinking block. -/
def ClaudeResponse.isSignature (r : ClaudeResponse V) : Bool :=
  r.delta.any fun delta => delta.type = .signatureDelta

/-- The fragments of one tool call put together. -/
def combine (calls : List ToolCallDelta) : ToolCallDelta :=
  { index := calls.head?.bind (·.index)
    id := join (calls.map (·.id))
    name := join (calls.map (·.name))
    arguments := join (calls.map (·.arguments)) }

/-- The fragments put together by index. -/
def callsByIndex (calls : List ToolCallDelta) : List ToolCallDelta :=
  (groups (·.index) calls).map combine

/-- What chunks say that are concatenated. -/
structure Said where
  text : String
  reasoning : String
  toolCalls : List ToolCallDelta
  finishReason : String
deriving DecidableEq, Repr

/-- The chunks concatenated; what the chunk of a signature adds is ignored. -/
def said (choices : List (ClaudeResponse V × ReplyChoice)) : Said :=
  { text := join (choices.map fun p => p.2.delta.content.getD "")
    reasoning := join (choices.map fun p =>
      if p.1.isSignature then "" else p.2.delta.reasoningContent.getD "")
    toolCalls := callsByIndex (callsOf choices)
    finishReason := (choices.filterMap fun p => p.2.finishReason).getLast?.getD "" }

/-! ## Cuts -/

/-- `content_block_start` of the block at `index`. -/
def blockStart (index : Nat) (block : ClaudeMediaMessage V) : ClaudeResponse V :=
  { type := .contentBlockStart, index := some index, contentBlock := some block }

/-- `content_block_delta` of the block at `index`. -/
def blockDelta (index : Nat) (delta : ClaudeMediaMessage V) : ClaudeResponse V :=
  { type := .contentBlockDelta, index := some index, delta := some delta }

/-- `content_block_stop` of the block at `index`. -/
def blockStop (index : Nat) : ClaudeResponse V :=
  { type := .contentBlockStop, index := some index }

/-- `message_delta` with a stop reason or without one. -/
def messageDelta (reason : Option String) : ClaudeResponse V :=
  { type := .messageDelta, delta := some { stopReason := reason } }

/-- A `tool_use` block in a stream: what its start carries and the pieces of its arguments.  In the
whole message the arguments are the text `json`, of which the code keeps `input`. -/
structure ToolCut (V : Type) where
  id : String
  name : String
  json : String
  input : Option V
  initial : Option V
  pieces : List String
deriving DecidableEq, Repr

/-- A block in a stream.  The start of a text or of a thinking may have a part of it; between the
pieces of a thinking, `none` is a signature. -/
inductive BlockCut (V : Type) where
  | text (initial : Option String) (pieces : List String)
  | thinking (initial : Option String) (pieces : List (Option String))
  | toolUse (tool : ToolCut V)
deriving DecidableEq, Repr

namespace BlockCut

/-- The block as it is in the whole message. -/
def block : BlockCut V → ClaudeMediaMessage V
  | .text initial pieces =>
      { type := .text, text := some (initial.getD "" ++ join pieces) }
  | .thinking initial pieces =>
      { type := .thinking,
        thinking := some (initial.getD "" ++ join (pieces.map (·.getD ""))) }
  | .toolUse tool => { type := .toolUse, id := tool.id, name := tool.name, input := tool.input }

/-- The block as its start has it. -/
def start : BlockCut V → ClaudeMediaMessage V
  | .text initial _ => { type := .text, text := initial }
  | .thinking initial _ => { type := .thinking, thinking := initial }
  | .toolUse tool => { type := .toolUse, id := tool.id, name := tool.name, input := tool.initial }

/-- The deltas of the block. -/
def deltas : BlockCut V → List (ClaudeMediaMessage V)
  | .text _ pieces => pieces.map fun text => { type := .textDelta, text := some text }
  | .thinking _ pieces => pieces.map fun piece =>
      match piece with
      | some part => { type := .thinkingDelta, thinking := some part }
      | none => { type := .signatureDelta }
  | .toolUse tool => tool.pieces.map fun json =>
      { type := .inputJsonDelta, partialJson := some json }

/-- The events of the block, which is at `index`. -/
def events (cut : BlockCut V) (index : Nat) : List (ClaudeResponse V) :=
  blockStart index cut.start :: (cut.deltas.map (blockDelta index) ++ [blockStop index])

/-- The tool of a `tool_use` block. -/
def tool? : BlockCut V → Option (ToolCut V)
  | .toolUse tool => some tool
  | _ => none

/-- The text of a thinking block. -/
def thought? : BlockCut V → Option String
  | .thinking initial pieces => some (initial.getD "" ++ join (pieces.map (·.getD "")))
  | _ => none

end BlockCut

/-- A message with a way to cut it into events.  `endings` are the stop reasons of the
`message_delta` events. -/
structure MessageCut (V : Type) where
  id : String
  model : String
  stopReason : String
  blocks : List (BlockCut V)
  endings : List (Option String)
deriving DecidableEq, Repr

namespace MessageCut

/-- The whole message. -/
def message (cut : MessageCut V) : ClaudeResponse V :=
  { id := cut.id, type := .message, model := cut.model, stopReason := cut.stopReason,
    content := cut.blocks.map (·.block) }

/-- The events of the blocks, in the order of the blocks. -/
def blockEvents (cut : MessageCut V) : List (ClaudeResponse V) :=
  cut.blocks.zipIdx.flatMap fun p => p.1.events p.2

/-- The events of the message. -/
def events (cut : MessageCut V) : List (ClaudeResponse V) :=
  { type := .messageStart, message := some { id := cut.id, model := cut.model } } ::
    (cut.blockEvents ++ (cut.endings.map messageDelta ++ [{ type := .messageStop }]))

/-- The thinking that the whole message keeps: that of the last thinking block, or else of the
first block. -/
def keptThinking (cut : MessageCut V) : String :=
  let last := (cut.blocks.filterMap (·.thought?)).getLast?.getD ""
  if last ≠ "" then last else (cut.blocks.head?.bind (·.thought?)).getD ""

/-- The events tell the whole message.  The arguments of a tool are in its start, or the pieces of
JSON put together say the same; the stop reason is told, unless the message has none. -/
structure Valid (codec : Codec J V) (cut : MessageCut V) : Prop where
  arguments : ∀ tool ∈ cut.blocks.filterMap (·.tool?),
    codec.unmarshal tool.json = some tool.input ∧
      (join tool.pieces = "" ∧ tool.initial = tool.input ∨
        (codec.parse tool.json).isSome ∧ codec.parse (join tool.pieces) = codec.parse tool.json)
  endings : ∀ reason, some reason ∈ cut.endings → reason = cut.stopReason
  ending : some cut.stopReason ∈ cut.endings ∨ cut.stopReason = ""

end MessageCut

/-- The pieces of thinking in the deltas of a block. -/
def BlockCut.thoughts : BlockCut V → String
  | .thinking _ pieces => join (pieces.map (·.getD ""))
  | _ => ""

/-- What the conversions need to say the same.  The pieces of all thinking blocks are the thinking
that is kept; the arguments of every tool come in pieces, and what the code keeps of them still has
their value; the stop reason is not the word `null`. -/
structure MessageCut.Carried (codec : Codec J V) (cut : MessageCut V) : Prop where
  thoughts : join (cut.blocks.map (·.thoughts)) = cut.keptThinking
  arguments : ∀ tool ∈ cut.blocks.filterMap (·.tool?), ∃ v,
    codec.parse (join tool.pieces) = some v ∧ codec.parse (codec.marshal tool.input) = some v
  stopReason : cut.stopReason ≠ "null"

/-! ## Events without the table

Only the numbers of the tool calls depend on the state: what a run sends is what the events give
one by one, with the tool calls renumbered. -/

/-- The choices an event gives before they are renumbered. -/
def plainChoices (rs : List (ClaudeResponse V)) : List (ClaudeResponse V × ReplyChoice) :=
  rs.flatMap fun r => ((streamResponseClaude2OpenAI r).toOption.join.map (·.choices)).getD []
    |>.map fun choice => (r, choice)

/-- A choice without its tool calls. -/
def bare (p : ClaudeResponse V × ReplyChoice) : ClaudeResponse V × ReplyChoice :=
  (p.1, { p.2 with delta := { p.2.delta with toolCalls := [] } })

theorem renumber_append (table : List (Int × Nat)) (calls more : List ToolCallDelta) :
    renumber table (calls ++ more) = ((renumber (renumber table calls).1 more).1,
        (renumber table calls).2 ++ (renumber (renumber table calls).1 more).2) := by
  induction calls generalizing table with
  | nil => rfl
  | cons call calls ih =>
    simp only [cons_append, renumber]
    split
    · rw [ih]
      rfl
    · rw [ih]
      rfl

theorem renumberChoices_eq (table : List (Int × Nat)) (r : ClaudeResponse V)
    (choices : List ReplyChoice) :
    renumber table (callsOf (choices.map fun choice => (r, choice))) =
        ((renumberChoices table choices).1,
          callsOf ((renumberChoices table choices).2.map fun choice => (r, choice))) ∧
      ((renumberChoices table choices).2.map fun choice => bare (r, choice)) =
        choices.map fun choice => bare (r, choice) := by
  induction choices generalizing table with
  | nil => exact ⟨rfl, rfl⟩
  | cons choice choices ih =>
    obtain ⟨hcls, hba⟩ := ih (renumber table choice.delta.toolCalls).1
    constructor
    · simp only [callsOf, map_cons, flatMap_cons, renumberChoices] at hcls ⊢
      rw [renumber_append, hcls]
    · simp only [map_cons, renumberChoices, hba]
      rfl

theorem table_see (r : ClaudeResponse V) (info : ResponseInfo) :
    (info.see r).1.toolCallIndexByBlock = info.toolCallIndexByBlock := by
  simp only [ResponseInfo.see, ResponseInfo.seeDelta, ResponseInfo.seeBlock]
  repeat' split
  all_goals rfl

variable {r : ClaudeResponse V}

/-- A chunk is never lost: an event that is skipped has none. -/
theorem see_of_chunk {chunk : ReplyChunk}
    (h : streamResponseClaude2OpenAI r = .ok (some chunk)) (info : ResponseInfo) :
    (info.see r).2 = true := by
  rw [streamResponseClaude2OpenAI] at h
  rw [ResponseInfo.see]
  cases ht : r.type <;> simp_all

/-- **What an event sends** is its chunk, with the tool calls renumbered. -/
theorem handle_ok {chunk : Option ReplyChunk}
    (h : streamResponseClaude2OpenAI r = .ok chunk) (info : ResponseInfo) :
    ∃ info' sent, handleStreamResponseData r info = .ok (info', sent) ∧
      renumber info.toolCallIndexByBlock (callsOf (plainChoices [r])) = (info'.toolCallIndexByBlock,
          callsOf (choicesOf (sent.join.map fun chunk => (r, chunk)).toList)) ∧
      (choicesOf (sent.join.map fun chunk => (r, chunk)).toList).map bare =
        (plainChoices [r]).map bare := by
  have htab : (((info.terminate r).see r).1).toolCallIndexByBlock = info.toolCallIndexByBlock := by
    rw [table_see, ResponseInfo.terminate]
    split <;> rfl
  cases chunk with
  | none =>
    have hpl : plainChoices [r] = [] := by
      simp [plainChoices, h, Except.toOption]
    refine ⟨((info.terminate r).see r).1,
      if ((info.terminate r).see r).2 then some none else none, ?_, ?_, ?_⟩
    · rw [handleStreamResponseData, h]
      cases hse : ((info.terminate r).see r).2
      all_goals
        simp only [formatClaudeResponseInfo, hse]
        rfl
    · rw [hpl, htab]
      split <;> rfl
    · rw [hpl]
      split <;> rfl
  | some chunk =>
    have hpl : plainChoices [r] = chunk.choices.map fun choice => (r, choice) := by
      simp [plainChoices, h, Except.toOption]
    obtain ⟨hcls, hba⟩ :=
      renumberChoices_eq info.toolCallIndexByBlock r chunk.choices
    rw [hpl]
    let seen := ((info.terminate r).see r).1
    let renumbered := renumberChoices info.toolCallIndexByBlock chunk.choices
    refine ⟨{ seen with toolCallIndexByBlock := renumbered.1 },
      some (some { id := seen.responseId, created := seen.created, model := seen.model,
                   choices := renumbered.2 }), ?_, ?_, ?_⟩
    · rw [handleStreamResponseData, h]
      simp only [formatClaudeResponseInfo, see_of_chunk h, htab]
      rfl
    · simpa [choicesOf] using hcls
    · simpa [choicesOf, comp_def] using hba

theorem plainChoices_cons (r : ClaudeResponse V) (rs : List (ClaudeResponse V)) :
    plainChoices (r :: rs) = plainChoices [r] ++ plainChoices rs := by
  simp [plainChoices]

theorem plainChoices_append (rs rs' : List (ClaudeResponse V)) :
    plainChoices (rs ++ rs') = plainChoices rs ++ plainChoices rs' := by
  simp [plainChoices]

theorem callsOf_append (cs cs' : List (ClaudeResponse V × ReplyChoice)) :
    callsOf (cs ++ cs') = callsOf cs ++ callsOf cs' := by
  simp [callsOf]

theorem choicesOf_append (sent sent' : List (ClaudeResponse V × ReplyChunk)) :
    choicesOf (sent ++ sent') = choicesOf sent ++ choicesOf sent' := by
  simp [choicesOf]

variable {rs : List (ClaudeResponse V)}

/-- **What a run sends** are the chunks of its events, with the tool calls renumbered. -/
theorem relay_ok
    (hok : ∀ r ∈ rs, ∃ chunk, streamResponseClaude2OpenAI r = .ok chunk) (info : ResponseInfo) :
    ∃ info' sent, relay info rs = .ok (info', sent) ∧
      renumber info.toolCallIndexByBlock (callsOf (plainChoices rs)) =
        (info'.toolCallIndexByBlock, callsOf (choicesOf sent)) ∧
      (choicesOf sent).map bare = (plainChoices rs).map bare := by
  induction rs generalizing info with
  | nil => exact ⟨info, [], rfl, rfl, rfl⟩
  | cons r rs ih =>
    obtain ⟨chunk, hck⟩ := hok r mem_cons_self
    obtain ⟨info₁, sent₁, hhan, hcls₁, hba₁⟩ := handle_ok hck info
    obtain ⟨info₂, sent₂, hrel, hcls₂, hba₂⟩ :=
      ih (fun r' hr' => hok r' (mem_cons_of_mem _ hr')) info₁
    refine ⟨info₂, (sent₁.join.map fun chunk => (r, chunk)).toList ++ sent₂, ?_, ?_, ?_⟩
    · rw [relay, hhan]
      change (relay info₁ rs >>= _) = _
      rw [hrel]
      rfl
    · rw [plainChoices_cons, callsOf_append, renumber_append, hcls₁, hcls₂,
        choicesOf_append, callsOf_append]
    · rw [plainChoices_cons, choicesOf_append, map_append, map_append, hba₁, hba₂]

/-! ## Numbers of the tool calls -/

/-- The block that a tool call of an event belongs to. -/
def blockOf (call : ToolCallDelta) : Int := call.index.getD 0

/-- The table holds the blocks that had a tool call, in order, and the calls have their positions
there. -/
theorem renumber_zipIdx {calls : List ToolCallDelta} (hidx : ∀ c ∈ calls, c.index.isSome)
    (seen : List Int) : renumber seen.zipIdx calls =
      ((seen ++ ((calls.map blockOf).removeAll seen).eraseDups).zipIdx,
        calls.map fun c => setIndex c
          ((seen ++ ((calls.map blockOf).removeAll seen).eraseDups).idxOf (blockOf c))) := by
  induction calls generalizing seen with
  | nil => simp [renumber, removeAll]
  | cons c calls ih =>
    obtain ⟨block, hbk⟩ := Option.isSome_iff_exists.mp (hidx c mem_cons_self)
    have hc : blockOf c = block := by rw [blockOf, hbk, Option.getD_some]
    have ih := ih (fun c' hc' => hidx c' (mem_cons_of_mem _ hc'))
    simp only [renumber, hbk, number_zipIdx, map_cons, hc]
    by_cases hmem : block ∈ seen
    · have hrem : (block :: calls.map blockOf).removeAll seen =
          (calls.map blockOf).removeAll seen := by
        simp [removeAll, hmem]
      simp only [hmem, if_true, hrem, ih, idxOf_append_of_mem hmem]
    · have hrem : ((block :: calls.map blockOf).removeAll seen).eraseDups =
          block :: ((calls.map blockOf).removeAll (seen ++ [block])).eraseDups := by
        have hfil : ∀ a : Int, (!a == block && !seen.elem a) = !(seen ++ [block]).elem a := by
          intro a
          by_cases ha : a = block <;> simp [ha]
        simp only [removeAll, filter_cons, elem_eq_mem, hmem, decide_false,
          Bool.not_false, if_true, eraseDups_cons, filter_filter]
        simp only [elem_eq_mem] at hfil
        simp only [hfil]
      have hall : seen ++ ((block :: calls.map blockOf).removeAll seen).eraseDups =
          seen ++ [block] ++ ((calls.map blockOf).removeAll (seen ++ [block])).eraseDups := by
        rw [hrem, append_assoc, singleton_append]
      have hpos : (seen ++ [block] ++
          ((calls.map blockOf).removeAll (seen ++ [block])).eraseDups).idxOf block =
            seen.length := by
        rw [idxOf_append_of_mem (by simp), idxOf_append_of_notMem hmem]
        simp
      simp only [hmem, if_false, hall, ih, hpos]

/-- **Renumbered calls put together by index** are the calls put together by block, with the
numbers from zero on. -/
theorem callsByIndex_renumber {calls : List ToolCallDelta} (hidx : ∀ c ∈ calls, c.index.isSome) :
    callsByIndex (renumber [] calls).2 =
      (groups blockOf calls).zipIdx.map fun p => setIndex (combine p.1) p.2 := by
  have hse := renumber_zipIdx hidx []
  simp only [zipIdx_nil, nil_append, removeAll_of_disjoint
    (fun k _ => not_mem_nil : ∀ k ∈ calls.map blockOf, k ∉ [])] at hse
  let seen := keys blockOf calls
  let rename : ToolCallDelta → ToolCallDelta := fun c => setIndex c (seen.idxOf (blockOf c))
  have hinj : Set.InjOn (fun k => some (seen.idxOf k : Int)) {k | k ∈ seen} := by
    intro a ha b hb hab
    have hpos : seen.idxOf a = seen.idxOf b := by exact_mod_cast Option.some.inj hab
    exact (idxOf_inj ha).mp hpos
  have hgroup : groups (·.index) (calls.map rename) = (groups blockOf calls).map (map rename) := by
    have hind : ∀ c, (rename c).index = ((fun k => some (seen.idxOf k : Int)) ∘ blockOf) c :=
      fun _ => rfl
    rw [groups_map hind, groups_comp hinj]
  rw [hse]
  change callsByIndex (calls.map rename) = _
  rw [callsByIndex, hgroup, map_map]
  refine ext_getElem (by simp) ?_
  intro i hi hi'
  have hlen : i < seen.length := by simpa [groups] using hi
  -- the group of the i-th block: it is not empty, and its calls have number i
  have hne : ∃ c ∈ calls, blockOf c = seen[i] := mem_keys.mp (getElem_mem hlen)
  have hpos : seen.idxOf seen[i] = i := (nodup_keys blockOf calls).idxOf_getElem i hlen
  have hhe : ((calls.filter fun c => blockOf c = seen[i]).map rename).head?.bind (·.index) =
      some (i : Int) := by
    obtain ⟨c, hc, hck⟩ := hne
    have hmem : c ∈ calls.filter fun c => blockOf c = seen[i] := by simp [hc, hck]
    cases hfil : calls.filter fun c => blockOf c = seen[i] with
    | nil =>
      rw [hfil] at hmem
      exact absurd hmem not_mem_nil
    | cons d ds =>
      have hd : d ∈ calls.filter fun c => blockOf c = seen[i] := by
        rw [hfil]
        exact mem_cons_self
      have hdk : blockOf d = seen[i] := by simpa using (mem_filter.mp hd).2
      simp [rename, setIndex, hdk, hpos]
  simp only [getElem_map, getElem_zipIdx, Nat.zero_add, comp_apply,
    groups, combine, setIndex, ToolCallDelta.mk.injEq]
  exact ⟨hhe, by rw [map_map]; rfl, by rw [map_map]; rfl, by rw [map_map]; rfl⟩

/-! ## The whole message of a cut -/

/-- The text of a text block. -/
def BlockCut.words : BlockCut V → String
  | .text initial pieces => initial.getD "" ++ join pieces
  | _ => ""

open BlockCut

open String (empty_append join_append join_cons)

/-- The loop over the blocks: texts and tools are put together, of the thoughts the last stays. -/
theorem foldl_whole (codec : Codec J V) (blocks : List (BlockCut V)) (w : Whole) :
    (blocks.map (·.block)).foldl (Whole.add codec) w =
      { text := w.text ++ join (blocks.map (·.words))
        tools := w.tools ++
          (blocks.filterMap (·.tool?)).map fun tool => wholeCall codec (toolUse tool).block
        thinking := (blocks.filterMap (·.thought?)).getLast?.getD w.thinking } := by
  induction blocks generalizing w with
  | nil => simp
  | cons b blocks ih =>
    rw [map_cons, foldl_cons, ih]
    cases b with
    | text initial pieces =>
      simp [Whole.add, block, words, tool?, thought?,
        ClaudeMediaMessage.getText, String.append_assoc]
    | thinking initial pieces =>
      simp [Whole.add, block, words, tool?, thought?, getLast?_cons]
    | toolUse tool =>
      simp [Whole.add, block, words, tool?, thought?]

theorem head_thinking (blocks : List (BlockCut V)) :
    (blocks.map (·.block)).head?.bind (·.thinking) = blocks.head?.bind (·.thought?) := by
  match blocks with
  | [] => rfl
  | .text initial pieces :: blocks => rfl
  | .thinking initial pieces :: blocks => rfl
  | .toolUse tool :: blocks => rfl

/-- The reasoning of the completion is the thinking that is kept. -/
theorem reasoning_whole (codec : Codec J V) (cut : MessageCut V) :
    (responseClaude2OpenAI codec cut.message).choices.map (·.reasoningContent.getD "") =
      [cut.keptThinking] := by
  have hchoice : ∀ last first : String,
      (if last ≠ "" then some last else if first ≠ "" then some first else none).getD "" =
        if last ≠ "" then last else first := by
    intro last first
    by_cases hlast : last = ""
    · by_cases hfirst : first = "" <;> simp [hlast, hfirst]
    · simp [hlast]
  simp only [responseClaude2OpenAI, MessageCut.message, foldl_whole, head_thinking, map_cons,
    map_nil, hchoice]
  rfl

/-! ## The events of a cut -/

/-- The tool calls that the events of a `tool_use` block give. -/
def ToolCut.calls (tool : ToolCut V) (index : Nat) : List ToolCallDelta :=
  { index := some (index : Int), id := tool.id, name := tool.name } ::
    tool.pieces.map fun json => { index := some (index : Int), arguments := json }

theorem plainChoices_map {ι : Type} {event : ι → ClaudeResponse V} {choice : ι → ReplyChoice}
    (h : ∀ i, plainChoices [event i] = [(event i, choice i)]) (is : List ι) :
    plainChoices (is.map event) = is.map fun i => (event i, choice i) := by
  induction is with
  | nil => rfl
  | cons i is ih =>
    rw [map_cons, plainChoices_cons, h, ih]
    rfl

theorem plainChoices_block {ι : Type} {b : BlockCut V} {index : Nat} {first : ReplyChoice}
    {is : List ι} {delta : ι → ClaudeMediaMessage V} {choice : ι → ReplyChoice}
    (hdel : b.deltas = is.map delta)
    (hstr : plainChoices [blockStart index b.start] = [(blockStart index b.start, first)])
    (h : ∀ i, plainChoices [blockDelta index (delta i)] =
      [(blockDelta index (delta i), choice i)]) : plainChoices (b.events index) =
      (blockStart index b.start, first) ::
        is.map fun i => (blockDelta index (delta i), choice i) := by
  have hst : plainChoices [(blockStop index : ClaudeResponse V)] = [] := rfl
  rw [BlockCut.events, plainChoices_cons, hstr, plainChoices_append, hst, hdel, map_map, append_nil]
  exact congrArg (_ :: ·) (plainChoices_map h is)

section
variable (b : BlockCut V) (index : Nat)

theorem stream_ok_of_block {r : ClaudeResponse V} (hr : r ∈ b.events index) :
    ∃ chunk, streamResponseClaude2OpenAI r = .ok chunk := by
  simp only [BlockCut.events, mem_cons, mem_append, mem_map, not_mem_nil, or_false] at hr
  rcases hr with rfl | ⟨delta, hdel, rfl⟩ | rfl
  · exact ⟨_, rfl⟩
  · cases b with
    | text initial pieces =>
      obtain ⟨piece, _, rfl⟩ := mem_map.mp hdel
      exact ⟨_, rfl⟩
    | thinking initial pieces =>
      obtain ⟨piece, _, rfl⟩ := mem_map.mp hdel
      cases piece <;> exact ⟨_, rfl⟩
    | toolUse tool =>
      obtain ⟨piece, _, rfl⟩ := mem_map.mp hdel
      exact ⟨_, rfl⟩
  · exact ⟨_, rfl⟩

@[simp] theorem plainChoices_text (initial : Option String) (pieces : List String) :
    plainChoices ((text initial pieces : BlockCut V).events index) =
      (blockStart index (text initial pieces).start, { delta := { content := initial } }) ::
        pieces.map fun piece =>
          (blockDelta index { type := .textDelta, text := some piece },
            { delta := { content := some piece } }) :=
  plainChoices_block rfl rfl fun _ => rfl

@[simp] theorem plainChoices_thinking (initial : Option String) (pieces : List (Option String)) :
    plainChoices ((thinking initial pieces : BlockCut V).events index) =
      (blockStart index (thinking initial pieces).start, {}) :: pieces.map fun piece =>
          (blockDelta index (match piece with
            | some part => { type := .thinkingDelta, thinking := some part }
            | none => { type := .signatureDelta }),
            { delta := { reasoningContent := some (piece.getD "\n") } }) := by
  refine plainChoices_block rfl rfl fun piece => ?_
  cases piece <;> rfl

@[simp] theorem plainChoices_toolUse (tool : ToolCut V) :
    plainChoices ((toolUse tool).events index) =
      (blockStart index (toolUse tool).start,
          { delta := { toolCalls := [{ index := some (index : Int), id := tool.id,
                                       name := tool.name }] } }) ::
        tool.pieces.map fun json =>
          (blockDelta index { type := .inputJsonDelta, partialJson := some json },
            { delta := { toolCalls := [{ index := some (index : Int), arguments := json }] } }) :=
  plainChoices_block rfl rfl fun _ => rfl

@[simp] theorem join_replicate_empty (n : Nat) : join (replicate n "") = "" := by
  induction n with
  | zero => rfl
  | succ n ih => rw [replicate_succ, join_cons, ih, String.append_empty]

theorem text_block : join ((plainChoices (b.events index)).map fun p => p.2.delta.content.getD "") =
      b.words := by
  cases b <;> simp [words, comp_def]

theorem reasoning_block : join ((plainChoices (b.events index)).map fun p =>
      if p.1.isSignature then "" else p.2.delta.reasoningContent.getD "") = b.thoughts := by
  cases b with
  | text | toolUse => simp [thoughts, comp_def]
  | thinking initial pieces =>
    have hpc : ∀ piece : Option String,
        (if (blockDelta index (match piece with
            | some part => { type := .thinkingDelta, thinking := some part }
            | none => { type := .signatureDelta }) : ClaudeResponse V).isSignature then ""
          else piece.getD "\n") = piece.getD "" := by
      intro piece
      cases piece <;> rfl
    simp [thoughts, comp_def, hpc]

theorem calls_block :
    callsOf (plainChoices (b.events index)) = (b.tool?.map (·.calls index)).getD [] := by
  cases b with
  | text | thinking => simp [callsOf, tool?]
  | toolUse tool =>
    rw [plainChoices_toolUse, callsOf, flatMap_cons, flatMap_map]
    exact congrArg (_ :: ·) map_eq_flatMap.symm

theorem finish_block :
    (plainChoices (b.events index)).filterMap (fun p => p.2.finishReason) = [] := by
  cases b <;> simp

end

/-- What is put together over the events of blocks is put together over the blocks. -/
theorem join_blocks {f : ClaudeResponse V × ReplyChoice → String} {g : BlockCut V → String}
    (h : ∀ b index, join ((plainChoices (b.events index)).map f) = g b)
    (blocks : List (BlockCut V)) (n : Nat) :
    join ((plainChoices ((blocks.zipIdx n).flatMap fun p => p.1.events p.2)).map f) =
      join (blocks.map g) := by
  induction blocks generalizing n with
  | nil => rfl
  | cons b blocks ih =>
    rw [zipIdx_cons, flatMap_cons, plainChoices_append, map_append,
      join_append, h, ih, map_cons, join_cons]

/-- The `tool_use` blocks with their places. -/
def placedTools (blocks : List (BlockCut V)) (n : Nat) : List (ToolCut V × Nat) :=
  (blocks.zipIdx n).filterMap fun p => p.1.tool?.map fun tool => (tool, p.2)

section
variable (blocks : List (BlockCut V))
include blocks

theorem calls_blocks (n : Nat) :
    callsOf (plainChoices ((blocks.zipIdx n).flatMap fun p => p.1.events p.2)) =
      (placedTools blocks n).flatMap fun p => p.1.calls p.2 := by
  induction blocks generalizing n with
  | nil => rfl
  | cons b blocks ih =>
    rw [zipIdx_cons, flatMap_cons, plainChoices_append, callsOf_append, calls_block,
      ih, placedTools, placedTools, zipIdx_cons]
    cases htl : b.tool? with
    | none | some tool => simp [htl]

theorem finish_blocks (n : Nat) :
    (plainChoices ((blocks.zipIdx n).flatMap fun p => p.1.events p.2)).filterMap
      (fun p => p.2.finishReason) = [] := by
  induction blocks generalizing n with
  | nil => rfl
  | cons b blocks ih =>
    rw [zipIdx_cons, flatMap_cons, plainChoices_append, filterMap_append,
      finish_block, ih, append_nil]

theorem placedTools_fst (n : Nat) :
    (placedTools blocks n).map (·.1) = blocks.filterMap (·.tool?) := by
  induction blocks generalizing n with
  | nil => rfl
  | cons b blocks ih =>
    have ih := ih (n + 1)
    rw [placedTools] at ih
    rw [placedTools, zipIdx_cons]
    cases htl : b.tool? with
    | none | some tool => simpa [htl] using ih

theorem placedTools_nodup (n : Nat) : ((placedTools blocks n).map fun p => (p.2 : Int)).Nodup := by
  have hsub : List.Sublist ((placedTools blocks n).map (·.2)) ((blocks.zipIdx n).map (·.2)) := by
    induction blocks generalizing n with
    | nil => exact List.Sublist.refl _
    | cons b blocks ih =>
      have ih := ih (n + 1)
      rw [placedTools] at ih
      rw [placedTools, zipIdx_cons]
      cases htl : b.tool? with
      | none => simpa [htl] using ih.cons n
      | some tool => simpa [htl] using ih
  have hnd : ((placedTools blocks n).map (·.2)).Nodup := by
    refine hsub.nodup ?_
    rw [zipIdx_map_snd]
    exact nodup_range'
  have hca : ((placedTools blocks n).map fun p => (p.2 : Int)) =
      ((placedTools blocks n).map (·.2)).map Int.ofNat := by
    rw [map_map]
    rfl
  rw [hca]
  exact hnd.map fun _ _ => Int.ofNat.inj

end

/-! ## The tool calls of a cut -/

theorem blockOf_calls {tool : ToolCut V} {index : Nat} {c : ToolCallDelta}
    (hc : c ∈ tool.calls index) : c.index = some (index : Int) := by
  rw [ToolCut.calls, mem_cons, mem_map] at hc
  rcases hc with rfl | ⟨json, _, rfl⟩ <;> rfl

/-- **The tool calls of a stream** are the tools of the message, numbered from zero. -/
theorem callsByIndex_blocks (blocks : List (BlockCut V)) :
    callsByIndex (renumber [] ((placedTools blocks 0).flatMap fun p => p.1.calls p.2)).2 =
      (blocks.filterMap (·.tool?)).zipIdx.map fun p =>
        { index := some (p.2 : Int), id := p.1.id, name := p.1.name,
          arguments := join p.1.pieces } := by
  have hidx : ∀ c ∈ (placedTools blocks 0).flatMap fun p => p.1.calls p.2, c.index.isSome := by
    intro c hc
    obtain ⟨p, _, hcp⟩ := mem_flatMap.mp hc
    rw [blockOf_calls hcp]
    rfl
  have hgroup : groups blockOf ((placedTools blocks 0).flatMap fun p => p.1.calls p.2) =
      (placedTools blocks 0).map fun p => p.1.calls p.2 := by
    refine groups_flatMap (k := fun p => (p.2 : Int)) ?_ ?_ (placedTools_nodup blocks 0)
    · intro p _
      exact cons_ne_nil _ _
    · intro p _ c hc
      rw [blockOf, blockOf_calls hc, Option.getD_some]
  rw [callsByIndex_renumber hidx, hgroup, ← placedTools_fst blocks 0, zipIdx_map,
    zipIdx_map, map_map, map_map]
  refine map_congr_left fun p _ => ?_
  simp [combine, ToolCut.calls, comp_def, setIndex]

/-! ## The finish reason -/

theorem stopReason_eq_null {reason : String} (h : stopReasonClaudeToOpenAI reason = "null") :
    reason = "null" := by
  rw [stopReasonClaudeToOpenAI] at h
  split at h <;> simp_all

theorem plainChoices_endings (endings : List (Option String)) :
    plainChoices (endings.map (messageDelta : Option String → ClaudeResponse V)) =
      endings.map fun reason => (messageDelta reason,
        { finishReason := (reason.map stopReasonClaudeToOpenAI).filter (· ≠ "null") }) := by
  refine plainChoices_map (fun reason => ?_) endings
  cases reason <;> rfl

variable {cut : MessageCut V}

theorem finish_endings {codec : Codec J V} (hval : cut.Valid codec) :
    ((plainChoices (cut.endings.map (messageDelta : Option String → ClaudeResponse V))).filterMap
      (fun p => p.2.finishReason)).getLast?.getD "" = stopReasonClaudeToOpenAI cut.stopReason ↔
        cut.stopReason ≠ "null" := by
  let reasons := cut.endings.filterMap fun reason =>
    (reason.map stopReasonClaudeToOpenAI).filter (· ≠ "null")
  have hrea : (plainChoices (cut.endings.map
      (messageDelta : Option String → ClaudeResponse V))).filterMap (fun p => p.2.finishReason) =
        reasons := by
    rw [plainChoices_endings, filterMap_map]
    rfl
  have hall : ∀ reason ∈ reasons,
      reason = stopReasonClaudeToOpenAI cut.stopReason ∧ reason ≠ "null" := by
    intro reason hreason
    obtain ⟨ending, hend, heq⟩ := mem_filterMap.mp hreason
    cases ending with
    | none => simp at heq
    | some stop =>
      rw [hval.endings stop hend] at heq
      simp only [Option.map_some, Option.filter_eq_some_iff, Option.some.injEq,
        decide_eq_true_eq] at heq
      exact ⟨heq.1.symm, heq.2⟩
  rw [hrea]
  constructor
  · -- the word `null` is told by no event
    intro heq hnull
    have hword : stopReasonClaudeToOpenAI "null" = "null" := by decide +kernel
    rw [hnull, hword] at heq
    cases hlast : reasons.getLast? with
    | some reason =>
      rw [hlast] at heq
      exact (hall reason (mem_of_getLast? hlast)).2 heq
    | none =>
      rw [hlast] at heq
      exact absurd heq (by decide)
  · intro hnu
    cases hla : reasons.getLast? with
    | some reason => exact (hall reason (mem_of_getLast? hla)).1
    | none =>
      rw [getLast?_eq_none_iff] at hla
      rcases hval.ending with hend | hemp
      · have hmem : stopReasonClaudeToOpenAI cut.stopReason ∈ reasons := by
          refine mem_filterMap.mpr ⟨_, hend, ?_⟩
          simpa [Option.filter_eq_some_iff] using fun h => hnu (stopReason_eq_null h)
        rw [hla] at hmem
        exact absurd hmem not_mem_nil
      · have hno : stopReasonClaudeToOpenAI "" = "" := by decide +kernel
        rw [hemp, hno]
        rfl

/-! ## Streaming keeps the reply -/

/-- Two tool calls with the same id and name and with arguments of the same value. -/
def SameCall (codec : Codec J V) (c d : ToolCallDelta) : Prop :=
  c.id = d.id ∧ c.name = d.name ∧
    ∃ v, codec.parse c.arguments = some v ∧ codec.parse d.arguments = some v

/-- What concatenated chunks say is what a choice of a completion says. -/
structure Agrees (codec : Codec J V) (said : Said) (choice : TextChoice) : Prop where
  text : said.text = choice.content
  reasoning : said.reasoning = choice.reasoningContent.getD ""
  indices : said.toolCalls.map (·.index) =
    (range said.toolCalls.length).map fun i : Nat => some (i : Int)
  toolCalls : List.Forall₂ (SameCall codec) said.toolCalls choice.toolCalls
  finishReason : said.finishReason = choice.finishReason

/-- The tools are the same calls in the stream and in the whole if the values of their arguments
are the same. -/
theorem sameCalls_iff (codec : Codec J V) (tools : List (ToolCut V)) :
    List.Forall₂ (SameCall codec) (tools.zipIdx.map fun p =>
        { index := some (p.2 : Int), id := p.1.id, name := p.1.name,
          arguments := join p.1.pieces })
      (tools.map fun tool => wholeCall codec (toolUse tool).block) ↔
    ∀ tool ∈ tools, ∃ v, codec.parse (join tool.pieces) = some v ∧
      codec.parse (codec.marshal tool.input) = some v := by
  have hfst : (tools.map fun tool => wholeCall codec (toolUse tool).block) =
      tools.zipIdx.map fun p => wholeCall codec (toolUse p.1).block := by
    conv_lhs => rw [← zipIdx_map_fst 0 tools, map_map]
    rfl
  rw [hfst, forall₂_map_left_iff, forall₂_map_right_iff, forall₂_same]
  constructor
  · intro h tool htool
    obtain ⟨i, hi, rfl⟩ := mem_iff_getElem.mp htool
    exact (h (tools[i], i) (mem_zipIdx_iff_getElem?.mpr (getElem?_eq_getElem hi))).2.2
  · intro h p hp
    exact ⟨rfl, rfl, h p.1 (fst_mem_of_mem_zipIdx hp)⟩

/-- What the chunks say depends on the tool calls and on the choices without them. -/
theorem said_of_bare {cs cs' : List (ClaudeResponse V × ReplyChoice)}
    (h : cs.map bare = cs'.map bare) :
    said cs = { said cs' with toolCalls := callsByIndex (callsOf cs) } := by
  have hfun : ∀ {β : Type} (f : ClaudeResponse V × ReplyChoice → β), (∀ p, f (bare p) = f p) →
      cs.map f = cs'.map f := by
    intro β f hf
    have := congrArg (map f) h
    simpa [map_map, comp_def, hf] using this
  have hfin : cs.filterMap (fun p => p.2.finishReason) =
      cs'.filterMap (fun p => p.2.finishReason) := by
    have := congrArg (filterMap id) (hfun (fun p => p.2.finishReason) fun _ => rfl)
    simpa [filterMap_map] using this
  simp only [said, hfin]
  rw [hfun (fun p => p.2.delta.content.getD "") fun _ => rfl,
    hfun (fun p => if p.1.isSignature then "" else p.2.delta.reasoningContent.getD "") fun _ => rfl]

/-- The chunk of a signature has a line feed as its reasoning. -/
theorem reasoning_of_signature {choice : ReplyChoice}
    (hr : r.type = .contentBlockDelta) (hsig : r.isSignature = true)
    (h : (r, choice) ∈ plainChoices [r]) : choice.delta.reasoningContent = some "\n" := by
  simp only [ClaudeResponse.isSignature, Option.any_eq_true, decide_eq_true_eq] at hsig
  obtain ⟨delta, hdel, htype⟩ := hsig
  have hstr : streamResponseClaude2OpenAI r = .ok (some (chunkOf "" r.model
      { content := delta.text, reasoningContent := some "\n" } [])) := by
    simp only [streamResponseClaude2OpenAI, hr, hdel, htype]
  have hpl : plainChoices [r] =
      [(r, { delta := { content := delta.text, reasoningContent := some "\n" } })] := by
    simp [plainChoices, hstr, Except.toOption, chunkOf]
  rw [hpl, mem_singleton] at h
  exact congrArg (·.2.delta.reasoningContent) h

theorem mem_plainChoices {p : ClaudeResponse V × ReplyChoice}
    (h : p ∈ plainChoices rs) : p.1 ∈ rs ∧ p ∈ plainChoices [p.1] := by
  obtain ⟨r, hr, hp⟩ := mem_flatMap.mp h
  obtain ⟨choice, hchc, rfl⟩ := mem_map.mp hp
  exact ⟨hr, mem_flatMap.mpr ⟨r, mem_cons_self, hp⟩⟩

open MessageCut

theorem type_of_signature (hr : r ∈ cut.events)
    (hsig : r.isSignature = true) : r.type = .contentBlockDelta := by
  simp only [MessageCut.events, blockEvents, BlockCut.events, mem_cons,
    mem_append, mem_flatMap, mem_map, not_mem_nil, or_false] at hr
  rcases hr with rfl | ⟨_, _, rfl | ⟨_, _, rfl⟩ | rfl⟩ | ⟨_, _, rfl⟩ | rfl
  · cases hsig
  · cases hsig
  · rfl
  all_goals cases hsig

theorem stream_ok_of_events (hr : r ∈ cut.events) :
    ∃ chunk, streamResponseClaude2OpenAI r = .ok chunk := by
  simp only [MessageCut.events, blockEvents, mem_cons, mem_append,
    mem_flatMap, mem_map, not_mem_nil, or_false] at hr
  rcases hr with rfl | ⟨p, _, hr⟩ | ⟨reason, _, rfl⟩ | rfl
  · exact ⟨_, rfl⟩
  · exact stream_ok_of_block p.1 p.2 hr
  · exact ⟨_, rfl⟩
  · exact ⟨_, rfl⟩

theorem plainChoices_events (cut : MessageCut V) : plainChoices cut.events =
      ({ type := .messageStart, message := some { id := cut.id, model := cut.model } },
          { delta := { role := "assistant", content := some "" } }) ::
        (plainChoices cut.blockEvents ++ plainChoices (cut.endings.map messageDelta)) := by
  have hst : plainChoices [({ type := .messageStop } : ClaudeResponse V)] = [] := rfl
  rw [MessageCut.events, plainChoices_cons, plainChoices_append, plainChoices_append, hst,
    append_nil]
  rfl

/-! What the events say is what the blocks say: the first event and the last ones only add empty
texts, and the last ones alone a finish reason. -/

theorem text_events (cut : MessageCut V) :
    (said (plainChoices cut.events)).text = join (cut.blocks.map (·.words)) := by
  rw [said, plainChoices_events, plainChoices_endings]
  simp only [map_cons, map_append, join_cons, join_append, map_map]
  rw [blockEvents, join_blocks text_block]
  simp [comp_def]

theorem reasoning_events (cut : MessageCut V) :
    (said (plainChoices cut.events)).reasoning = join (cut.blocks.map (·.thoughts)) := by
  rw [said, plainChoices_events, plainChoices_endings]
  simp only [map_cons, map_append, join_cons, join_append, map_map]
  rw [blockEvents, join_blocks reasoning_block]
  simp [comp_def]

theorem calls_events (cut : MessageCut V) : callsOf (plainChoices cut.events) =
      (placedTools cut.blocks 0).flatMap fun p => p.1.calls p.2 := by
  have hend : callsOf (plainChoices (cut.endings.map
      (messageDelta : Option String → ClaudeResponse V))) = [] := by
    rw [plainChoices_endings]
    simp [callsOf]
  rw [plainChoices_events, ← singleton_append, callsOf_append, callsOf_append, hend,
    append_nil, blockEvents, calls_blocks]
  rfl

theorem finish_events {codec : Codec J V} (hval : cut.Valid codec) :
    (said (plainChoices cut.events)).finishReason = stopReasonClaudeToOpenAI cut.stopReason ↔
      cut.stopReason ≠ "null" := by
  rw [said, plainChoices_events, filterMap_cons_none rfl, filterMap_append,
    blockEvents, finish_blocks, nil_append]
  exact finish_endings hval

/-- A new stream. -/
def newResponseInfo (responseId : String) (created : Int) (model : String) : ResponseInfo :=
  { responseId := responseId, created := created, model := model }

/-- **Streaming keeps the reply.**  For every cut that tells the whole message, the chunks put
together say what the completion of the whole message says if and only if the cut is `Carried`.
What is ignored of a signature is a line feed. -/
theorem streaming_keeps_reply (codec : Codec J V) (cut : MessageCut V) (hvalid : cut.Valid codec)
    (responseId : String) (created : Int) (model : String) :
    ∃ info sent choice,
      relay (newResponseInfo responseId created model) cut.events = .ok (info, sent) ∧
      (responseClaude2OpenAI codec cut.message).choices = [choice] ∧
      (Agrees codec (said (choicesOf sent)) choice ↔ cut.Carried codec) ∧
      ∀ p ∈ choicesOf sent, p.1.isSignature = true →
        p.2.delta.reasoningContent = some "\n" := by
  obtain ⟨info, sent, hrel, hcls, hba⟩ :=
    relay_ok (fun r hr => stream_ok_of_events hr) (newResponseInfo responseId created model)
  refine ⟨info, sent, _, hrel, rfl, ?_, ?_⟩
  · have htools : callsByIndex (callsOf (choicesOf sent)) =
        (cut.blocks.filterMap (·.tool?)).zipIdx.map fun p =>
          { index := some (p.2 : Int), id := p.1.id, name := p.1.name,
            arguments := join p.1.pieces } := by
      have hse : callsOf (choicesOf sent) =
          (renumber [] (callsOf (plainChoices cut.events))).2 := by
        have := congrArg (·.2) hcls
        exact this.symm
      rw [hse, calls_events, callsByIndex_blocks]
    have hkept := (List.cons.inj (reasoning_whole codec cut)).1
    have hsame := sameCalls_iff codec (cut.blocks.filterMap (·.tool?))
    rw [said_of_bare hba, htools]
    constructor
    · intro h
      refine ⟨?_, ?_, ?_⟩
      · rw [← reasoning_events, ← hkept]
        exact h.reasoning
      · refine hsame.mp ?_
        simpa only [message, foldl_whole, nil_append] using h.toolCalls
      · exact (finish_events hvalid).mp h.finishReason
    · intro hcarried
      constructor
      · rw [text_events]
        simp only [message, foldl_whole, empty_append]
      · rw [reasoning_events, hcarried.thoughts]
        exact hkept.symm
      · rw [map_map, length_map, length_zipIdx, range_eq_range',
          ← zipIdx_map_snd 0 (cut.blocks.filterMap (·.tool?)), map_map]
        rfl
      · simp only [message, foldl_whole, nil_append]
        exact hsame.mpr hcarried.arguments
      · exact (finish_events hvalid).mpr hcarried.stopReason
  · intro p hp hsig
    have hmem : bare p ∈ (plainChoices cut.events).map bare := hba ▸ mem_map_of_mem hp
    obtain ⟨q, hq, heq⟩ := mem_map.mp hmem
    obtain ⟨heve, hq⟩ := mem_plainChoices hq
    have hev : q.1 = p.1 := congrArg (·.1) heq
    have hrg : q.2.delta.reasoningContent = p.2.delta.reasoningContent :=
      congrArg (·.2.delta.reasoningContent) heq
    rw [← hev] at hsig
    rw [← hrg]
    exact reasoning_of_signature (type_of_signature heve hsig) hsig hq

/-- Arguments that can only be the empty object. -/
def emptyObject : Codec Unit Unit where
  parse text := if text = "\x7b\x7d" then some () else none
  unmarshal text := if text = "\x7b\x7d" then some (some ()) else none
  marshal v := if v = some () then "\x7b\x7d" else "null"

/-- A thought, a text and two tool calls, whose arguments are cut in different ways, and a thinking
block that is empty. -/
def mixedReply : MessageCut Unit :=
  { id := "msg", model := "claude", stopReason := "tool_use", endings := [none, some "tool_use"]
    blocks := [
      .thinking none [some "let me", some " see", none],
      .text (some "I") [" look", ""],
      .toolUse ⟨"t1", "list", "\x7b\x7d", some (), some (), ["\x7b", "\x7d"]⟩,
      .toolUse ⟨"t2", "date", "\x7b\x7d", some (), none, ["", "\x7b\x7d"]⟩,
      .thinking none [none]] }

theorem streaming_keeps_mixedReply :
    mixedReply.Valid emptyObject ∧
      ∃ info sent choice,
        relay (newResponseInfo "r" 0 "claude") mixedReply.events = .ok (info, sent) ∧
        (responseClaude2OpenAI emptyObject mixedReply.message).choices = [choice] ∧
        Agrees emptyObject (said (choicesOf sent)) choice := by
  have hval : mixedReply.Valid emptyObject :=
    { arguments := by decide
      endings := by simp [mixedReply]
      ending := by decide }
  have hcar : mixedReply.Carried emptyObject :=
    { thoughts := by decide +kernel
      arguments := fun tool htool => ⟨(), by revert tool; decide⟩
      stopReason := by decide }
  obtain ⟨info, sent, choice, hsent, hwhole, hagree, -⟩ :=
    streaming_keeps_reply emptyObject mixedReply hval "r" 0 "claude"
  exact ⟨hval, info, sent, choice, hsent, hwhole, hagree.mpr hcar⟩

/-- Two thoughts with a text between them. -/
def twoThoughts : MessageCut Unit :=
  { id := "msg", model := "claude", stopReason := "end_turn", endings := [some "end_turn"]
    blocks := [.thinking none [some "first"], .text none ["and"], .thinking none [some "second"]] }

/-- **The whole message loses a thought.**  The stream has both thoughts; the completion of the
whole message has the last one. -/
theorem two_thoughts_differ :
    twoThoughts.Valid emptyObject ∧
      ((relay (newResponseInfo "r" 0 "claude") twoThoughts.events).map fun r =>
        (said (choicesOf r.2)).reasoning) = .ok "firstsecond" ∧
      (responseClaude2OpenAI emptyObject twoThoughts.message).choices.map (·.reasoningContent) =
        [some "second"] := by
  refine ⟨{ arguments := by decide, endings := by simp [twoThoughts], ending := by decide }, ?_, ?_⟩
  · decide +kernel
  · decide +kernel

end NewApi.ClaudeReply
