import NewApi.ResponsesStream

/-! # Every tool call reaches the client once

What the upstream has told of a call so far is a text of arguments for its output index: a delta
makes it longer, and an item that is added or done may bring it whole.  The invariant (`Delivered`)
says of every output index where this text is: with a tool, all of it was sent under the tool's
index and the name was sent once; without a tool, all of it is kept for the output index.

Every function that touches a tool ends in `toolDelta`, so that one lemma about it
(`Delivered.deliver`) serves the items, the deltas and the last flush. -/
namespace NewApi
open Function List

namespace ResponsesStream
variable {U : Type}

/-! ## What the events tell -/

/-- The kinds of event that the conversion treats differently. -/
inductive EventKind where
  | item (item : ResponsesOutput)
  | delta
  | argsDone
  | terminal
  | failure
  | quiet

/-- The kind of an event. -/
def ResponsesStreamResponse.kind (e : ResponsesStreamResponse U) : EventKind :=
  match e.type with
  | .outputItemAdded | .outputItemDone =>
      match e.item with
      | none => .quiet
      | some item => if isResponsesToolOutputType item.type then .item item else .quiet
  | .functionArgsDelta | .customToolInputDelta => .delta
  | .functionArgsDone | .customToolInputDone => .argsDone
  | .completed | .done | .incomplete => .terminal
  | .failed | .error => .failure
  | .created | .outputTextDelta | .reasoningSummaryDelta | .reasoningSummaryDone
  | .reasoningTextDelta | .reasoningTextDone | .other => .quiet

/-- An item of the upstream: its id and its name. -/
structure UpstreamItem where
  id : String
  name : String

/-- What the events have told of the items: the arguments so far, and whether the item came. -/
structure Told where
  arguments : Int → Bytes := fun _ => []
  named : Int → Bool := fun _ => false

/-- What one more event tells. -/
def Told.note (told : Told) (e : ResponsesStreamResponse U) : Told :=
  match e.kind, e.outputIndex with
  | .item item, some n =>
      { arguments := Function.update told.arguments n
          (if item.arguments = [] then told.arguments n else item.arguments)
        named := Function.update told.named n true }
  | .delta, some n =>
      { told with arguments := Function.update told.arguments n (told.arguments n ++ e.delta) }
  | _, _ => told

variable {e : ResponsesStreamResponse U} {told : Told}

open Told

theorem note_item {item : ResponsesOutput} {n : Int}
    (hkind : e.kind = .item item) (hout : e.outputIndex = some n) : told.note e =
      { arguments := Function.update told.arguments n
          (if item.arguments = [] then told.arguments n else item.arguments)
        named := Function.update told.named n true } := by
  rw [note, hkind, hout]

theorem note_delta {n : Int} (hkind : e.kind = .delta) (hout : e.outputIndex = some n) :
    told.note e = { told with
      arguments := Function.update told.arguments n (told.arguments n ++ e.delta) } := by
  rw [note, hkind, hout]

theorem note_argsDone (hkind : e.kind = .argsDone) : told.note e = told := by
  rw [note, hkind]

theorem note_quiet (hkind : e.kind = .quiet) : told.note e = told := by
  rw [note, hkind]

/-- The name as far as it was told. -/
def Told.name (told : Told) (items : Int → UpstreamItem) (n : Int) : String :=
  if told.named n then (items n).name else ""

/-- The event carries the output index `n` and the item's id. -/
def Carries (items : Int → UpstreamItem) (n : Int) (e : ResponsesStreamResponse U) : Prop :=
  e.outputIndex = some n ∧ responseStreamEventItemID e = (items n).id ∧
    (trimSpace e.itemID = "" ∨ trimSpace e.itemID = (items n).id)

/-- Items with an id have one each. -/
def DistinctIDs (items : Int → UpstreamItem) : Prop :=
  ∀ m n, (items m).id = (items n).id → (items m).id ≠ "" → m = n

/-- The event is one of the upstream's: an item comes with its name, and its arguments, if there are
any, go on from those told. -/
def Fits (items : Int → UpstreamItem) (told : Told) (e : ResponsesStreamResponse U) : Prop :=
  match e.kind with
  | .item item => ∃ n, Carries items n e ∧ trimSpace item.name = (items n).name ∧
      (items n).name ≠ "" ∧ (item.arguments = [] ∨ told.arguments n <+: item.arguments)
  | .delta | .argsDone => ∃ n, Carries items n e
  | .terminal | .failure => False
  | .quiet => True

/-- Every event of the stream is one of the upstream's. -/
def FitsFrom (items : Int → UpstreamItem) (told : Told) : List (ResponsesStreamResponse U) → Prop
  | [] => True
  | e :: es => Fits items told e ∧ FitsFrom items (told.note e) es

/-- The event is about the call with output index `n`. -/
def Touches (n : Int) (e : ResponsesStreamResponse U) : Prop :=
  e.outputIndex = some n ∧ ((∃ item, e.kind = .item item) ∨ e.kind = .delta ∨ e.kind = .argsDone)

/-- The event is the item with output index `n`. -/
def IsItem (n : Int) (e : ResponsesStreamResponse U) : Prop :=
  e.outputIndex = some n ∧ ∃ item, e.kind = .item item

/-! ## What is sent -/

/-- The tool calls in some chunks. -/
def calls (chunks : List (StreamChunk U)) : List ToolCallResponse :=
  chunks.flatMap fun chunk => chunk.choices.flatMap fun choice => choice.delta.toolCalls

/-- The arguments sent under a tool index. -/
def argsAt (i : Nat) (sent : List ToolCallResponse) : Bytes :=
  (sent.filter fun call => call.index = i).flatMap ToolCallResponse.arguments

/-- The names sent under a tool index. -/
def namesAt (i : Nat) (sent : List ToolCallResponse) : List String :=
  ((sent.filter fun call => call.index = i).map ToolCallResponse.name).filter (· ≠ "")

/-- No chunk has a finish reason. -/
def Unfinished (chunks : List (StreamChunk U)) : Prop :=
  ∀ chunk ∈ chunks, ∀ choice ∈ chunk.choices, choice.finishReason = none

theorem calls_append (cs cs' : List (StreamChunk U)) : calls (cs ++ cs') = calls cs ++ calls cs' :=
  flatMap_append

theorem argsAt_append (i : Nat) (sent sent' : List ToolCallResponse) :
    argsAt i (sent ++ sent') = argsAt i sent ++ argsAt i sent' := by
  unfold argsAt
  rw [filter_append, flatMap_append]

theorem namesAt_append (i : Nat) (sent sent' : List ToolCallResponse) :
    namesAt i (sent ++ sent') = namesAt i sent ++ namesAt i sent' := by
  unfold namesAt
  rw [filter_append, map_append, filter_append]

variable {sent : List ToolCallResponse}

theorem filter_eq_nil {i : Nat}
    (h : ∀ call ∈ sent, call.index ≠ i) : (sent.filter fun call => call.index = i) = [] := by
  refine filter_eq_nil_iff.mpr ?_
  intro call hca
  simpa using h call hca

theorem argsAt_eq_nil {i : Nat} (h : ∀ call ∈ sent, call.index ≠ i) : argsAt i sent = [] := by
  rw [argsAt, filter_eq_nil h]
  rfl

theorem namesAt_eq_nil {i : Nat} (h : ∀ call ∈ sent, call.index ≠ i) : namesAt i sent = [] := by
  rw [namesAt, filter_eq_nil h]
  rfl

theorem Unfinished.append {cs cs' : List (StreamChunk U)} (h : Unfinished cs)
    (h' : Unfinished cs') : Unfinished (cs ++ cs') := by
  intro chunk hck
  rcases mem_append.mp hck with hmem | hmem
  · exact h chunk hmem
  · exact h' chunk hmem

theorem unfinished_nil : Unfinished ([] : List (StreamChunk U)) := by
  intro chunk hck
  cases hck

namespace ResponsesToChatStreamState

/-- What the conversion keeps about tools. -/
def maps (s : ResponsesToChatStreamState U) :=
  (s.nextToolIndex, s.toolByKey, s.outputIndexToKey, s.itemIDToKey, s.pendingArgsByOutputIndex,
    s.pendingArgsByItemID)

/-- A state with the chunks sent on the way to it. -/
abbrev Sending (U : Type) := ResponsesToChatStreamState U × List (StreamChunk U)

/-- A function that has nothing to do with tools. -/
structure Silent (s : ResponsesToChatStreamState U)
    (r : ResponsesToChatStreamState U × List (StreamChunk U)) : Prop where
  maps : r.1.maps = s.maps
  finalized : r.1.finalized = s.finalized
  calls : calls r.2 = []
  unfinished : Unfinished r.2

variable {s s' : ResponsesToChatStreamState U}

theorem silent_nothing (hma : s'.maps = s.maps)
    (hfin : s'.finalized = s.finalized) : Silent s (s', []) :=
  ⟨hma, hfin, rfl, unfinished_nil⟩

theorem silent_ensureStart (s : ResponsesToChatStreamState U) : Silent s s.ensureStart := by
  unfold ensureStart
  split
  · exact silent_nothing rfl rfl
  refine ⟨rfl, rfl, rfl, ?_⟩
  simp [Unfinished, makeChunk]

/-- What is sent with one delta. -/
theorem send_spec (delta : StreamDelta) (s : ResponsesToChatStreamState U) :
    (s.send delta).1.maps = s.maps ∧ (s.send delta).1.finalized = s.finalized ∧
      calls (s.send delta).2 = delta.toolCalls ∧ Unfinished (s.send delta).2 := by
  have hstr := silent_ensureStart s
  refine ⟨hstr.maps, hstr.finalized, ?_, hstr.unfinished.append ?_⟩
  · have hse : (s.send delta).2 = s.ensureStart.2 ++ [s.ensureStart.1.makeChunk delta none] := rfl
    rw [hse, calls_append, hstr.calls]
    simp [ResponsesStream.calls, makeChunk]
  · simp [Unfinished, makeChunk]

theorem silent_send {delta : StreamDelta} (hdel : delta.toolCalls = []) (hma : s'.maps = s.maps)
    (hfin : s'.finalized = s.finalized) : Silent s (s'.send delta) := by
  obtain ⟨hm, hf, hc, hu⟩ := send_spec delta s'
  exact ⟨hm.trans hma, hf.trans hfin, hc.trans hdel, hu⟩

theorem silent_textDelta (delta : Bytes) (s : ResponsesToChatStreamState U) :
    Silent s (s.textDelta delta) := by
  unfold textDelta
  split
  · exact silent_nothing rfl rfl
  · exact silent_send rfl rfl rfl

theorem silent_reasoningDelta (delta : Bytes) (s : ResponsesToChatStreamState U) :
    Silent s (s.reasoningDelta delta) := by
  unfold reasoningDelta
  split
  · exact silent_nothing rfl rfl
  · exact silent_send rfl rfl rfl

theorem maps_applyResponseMetadata (response : Option (OpenAIResponsesResponse U))
    (s : ResponsesToChatStreamState U) : (s.applyResponseMetadata response).maps = s.maps ∧
      (s.applyResponseMetadata response).finalized = s.finalized := by
  cases response <;> exact ⟨rfl, rfl⟩

/-- One function after another, neither with tools. -/
theorem Silent.andThen {s : ResponsesToChatStreamState U} {acc : Sending U} (h : Silent s acc)
    {f : ResponsesToChatStreamState U → Sending U} (hf : Silent acc.1 (f acc.1)) :
    Silent s (andThen acc f) := by
  refine ⟨hf.maps.trans h.maps, hf.finalized.trans h.finalized, ?_,
    h.unfinished.append hf.unfinished⟩
  exact (calls_append _ _).trans (by rw [h.calls, hf.calls]; rfl)

/-- The output that the last event brings is silent if none of it is a tool call. -/
theorem silent_terminalOutputChunks {response : Option (OpenAIResponsesResponse U)}
    (hno : ∀ r ∈ response, ∀ item ∈ r.output, isResponsesToolOutputType item.type = false)
    (s : ResponsesToChatStreamState U) : Silent s (s.terminalOutputChunks response) := by
  cases response with
  | none => exact silent_nothing rfl rfl
  | some r =>
    have hite : ∀ (items : List ResponsesOutput) (acc : Sending U), Silent s acc →
        (∀ item ∈ items, isResponsesToolOutputType item.type = false) →
        Silent s (items.foldl (fun acc item => ResponsesToChatStreamState.andThen acc
          (terminalOutput item)) acc) := by
      intro items
      induction items with
      | nil =>
        intro acc hacc _
        exact hacc
      | cons item items ih =>
        intro acc hacc hite
        refine ih _ (hacc.andThen ?_) fun item' hmem =>
          hite item' (mem_cons_of_mem _ hmem)
        rw [terminalOutput, hite item mem_cons_self]
        split
        · exact silent_textDelta _ _
        split
        · exact silent_reasoningDelta _ _
        · exact silent_nothing rfl rfl
    exact hite r.output _ (silent_nothing rfl rfl) (hno r rfl)

end ResponsesToChatStreamState

open ResponsesToChatStreamState

/-- The response with which an event ends the stream. -/
def ResponsesStreamResponse.terminalResponse (e : ResponsesStreamResponse U) :
    Option (OpenAIResponsesResponse U) :=
  if e.type = .incomplete then some (ensureIncompleteResponse e.response) else e.response

theorem mem_terminalResponse {r : OpenAIResponsesResponse U}
    (hr : r ∈ e.terminalResponse) {item : ResponsesOutput} (hit : item ∈ r.output) :
    ∃ response ∈ e.response, item ∈ response.output := by
  have hout : (ensureIncompleteResponse e.response).output = (e.response.getD {}).output := by
    dsimp only [ensureIncompleteResponse]
    split <;> rfl
  unfold ResponsesStreamResponse.terminalResponse at hr
  split at hr
  · cases hr
    rw [hout] at hit
    cases hres : e.response with
    | none =>
      rw [hres] at hit
      cases hit
    | some response =>
      rw [hres] at hit
      exact ⟨response, rfl, hit⟩
  · exact ⟨r, hr, hit⟩

/-- What is done with an event of each kind. -/
def Handled (e : ResponsesStreamResponse U) (s : ResponsesToChatStreamState U) :
    EventKind → ResponsesToChatStreamState U × List (StreamChunk U) → Prop
  | .item item, r => r = s.toolItem e item
  | .delta, r => r = s.toolArgumentsDelta e
  | .argsDone, r => r = s.flushPendingTool e
  | .terminal, r => r = s.endStream e.terminalResponse
  | .failure, _ => False
  | .quiet, r => Silent s r

/-- **The conversion goes by the kind of the event.** -/
theorem convert_handled (e : ResponsesStreamResponse U) (s : ResponsesToChatStreamState U)
    (hok : e.kind ≠ .failure) :
    ∃ r, responsesStreamEventToChatChunks e s = .ok r ∧ Handled e s e.kind r := by
  unfold ResponsesStreamResponse.kind at hok ⊢
  unfold responsesStreamEventToChatChunks
  cases htype : e.type with
  | created =>
    obtain ⟨hma, hfin⟩ := maps_applyResponseMetadata e.response s
    have hstr := silent_ensureStart (s.applyResponseMetadata e.response)
    exact ⟨_, rfl, hstr.maps.trans hma, hstr.finalized.trans hfin, hstr.calls, hstr.unfinished⟩
  | outputTextDelta => exact ⟨_, rfl, silent_textDelta _ _⟩
  | reasoningSummaryDelta | reasoningTextDelta => exact ⟨_, rfl, silent_reasoningDelta _ _⟩
  | reasoningSummaryDone | reasoningTextDone | other => exact ⟨_, rfl, silent_nothing rfl rfl⟩
  | outputItemAdded | outputItemDone =>
    cases hit : e.item with
    | none => exact ⟨_, rfl, silent_nothing rfl rfl⟩
    | some item =>
      by_cases htl : isResponsesToolOutputType item.type = true
      · dsimp only
        rw [if_pos htl, if_pos htl]
        exact ⟨_, rfl, rfl⟩
      · dsimp only
        rw [if_neg htl, if_neg htl]
        exact ⟨_, rfl, silent_nothing rfl rfl⟩
  | functionArgsDelta | customToolInputDelta | functionArgsDone | customToolInputDone =>
    exact ⟨_, rfl, rfl⟩
  | completed | done | incomplete =>
    refine ⟨_, rfl, ?_⟩
    simp [Handled, ResponsesStreamResponse.terminalResponse, htype]
  | failed | error =>
    rw [htype] at hok
    exact absurd rfl hok

/-! ## The invariant -/

/-- The output indices of the tools, in the order of the tools. -/
def addIndex (n : Int) (order : List Int) : List Int :=
  if n ∈ order then order else order ++ [n]

section Order
variable {n m : Int} {order : List Int}

theorem mem_addIndex : m ∈ addIndex n order ↔ m ∈ order ∨ m = n := by
  unfold addIndex
  split
  · rename_i hmem
    constructor
    · exact .inl
    rintro (h | rfl)
    · exact h
    · exact hmem
  · simp

theorem nodup_addIndex (h : order.Nodup) : (addIndex n order).Nodup := by
  unfold addIndex
  split
  · exact h
  rename_i hmem
  have hcon := h.concat hmem
  rwa [concat_eq_append] at hcon

theorem getElem?_addIndex_of_ne (hne : m ≠ n) {i : Nat} :
    (addIndex n order)[i]? = some m ↔ order[i]? = some m := by
  unfold addIndex
  split
  · rfl
  rw [getElem?_append]
  split
  · rfl
  rename_i hlt
  rw [getElem?_eq_none (Nat.le_of_not_lt hlt)]
  constructor
  · intro h
    exact absurd (mem_singleton.mp (mem_of_getElem? h)) hne
  · intro h
    cases h

end Order

/-- A tool says what was told of its item, and how much of it was sent. -/
structure Agrees (items : Int → UpstreamItem) (told : Told) (n : Int) (i : Nat)
    (tool : ResponsesStreamTool) : Prop where
  key : tool.key = .output n
  index : tool.index = i
  arguments : tool.arguments = told.arguments n
  argsSentAt : tool.argsSentAt = (told.arguments n).length
  name : tool.name = told.name items n
  nameSent : tool.nameSent = told.named n

/-- What the state has for the items: a tool that agrees with what was told, or the arguments that
are kept for the output index. -/
structure Filed (items : Int → UpstreamItem) (told : Told) (order : List Int)
    (s : ResponsesToChatStreamState U) : Prop where
  nodup : order.Nodup
  nextToolIndex : s.nextToolIndex = order.length
  keys : ∀ k, (s.toolByKey.lookup k).isSome → ∃ n ∈ order, k = .output n
  tools : ∀ i n, order[i]? = some n →
    ∃ tool, s.toolByKey.lookup (.output n) = some tool ∧ Agrees items told n i tool
  outputKey : ∀ n, s.outputIndexToKey.lookup n = if n ∈ order then some (.output n) else none
  itemKey : ∀ x k, s.itemIDToKey.lookup x = some k → ∃ n ∈ order, k = .output n ∧ x = (items n).id
  pendingOutput : ∀ n, s.pendingArgsByOutputIndex.lookup n =
    if n ∈ order ∨ told.arguments n = [] then none else some (told.arguments n)
  pendingItem : ∀ x, s.pendingArgsByItemID.lookup x = none
  named : ∀ n, told.named n → n ∈ order ∧ (items n).name ≠ ""

/-- What the client has for the items: under the tool's index the arguments told so far, and the
name once it was told. -/
structure SentUnder (items : Int → UpstreamItem) (told : Told) (order : List Int)
    (sent : List ToolCallResponse) : Prop where
  indices : ∀ call ∈ sent, call.index < order.length
  arguments : ∀ i n, order[i]? = some n → argsAt i sent = told.arguments n
  names : ∀ i n, order[i]? = some n → namesAt i sent = if told.named n then [(items n).name] else []

/-- **Where everything is that was told.** -/
structure Delivered (items : Int → UpstreamItem) (told : Told) (order : List Int)
    (s : ResponsesToChatStreamState U) (sent : List ToolCallResponse) : Prop where
  filed : Filed items told order s
  sentUnder : SentUnder items told order sent

/-- The state before `toolDelta`: what leads to the tool of `n` is in place, and nothing is kept for
it. -/
structure Claimed (items : Int → UpstreamItem) (n : Int) (s s₁ : ResponsesToChatStreamState U) :
    Prop where
  tools : ∀ k, k ≠ .output n → s₁.toolByKey.lookup k = s.toolByKey.lookup k
  outputKey : ∀ m, s₁.outputIndexToKey.lookup m =
    if m = n then some (.output n) else s.outputIndexToKey.lookup m
  itemKey : ∀ x k, s₁.itemIDToKey.lookup x = some k →
    (k = .output n ∧ x = (items n).id) ∨ s.itemIDToKey.lookup x = some k
  pendingOutput : ∀ m, s₁.pendingArgsByOutputIndex.lookup m =
    if m = n then none else s.pendingArgsByOutputIndex.lookup m
  pendingItem : ∀ x, s.pendingArgsByItemID.lookup x = none → s₁.pendingArgsByItemID.lookup x = none
  finalized : s₁.finalized = s.finalized

/-- The tool before `toolDelta`: it says what is told now and knows how much was sent. -/
structure Due (items : Int → UpstreamItem) (told told' : Told) (order : List Int) (n : Int)
    (tool : ResponsesStreamTool) : Prop where
  key : tool.key = .output n
  index : (addIndex n order)[tool.index]? = some n
  arguments : tool.arguments = told'.arguments n
  argsSentAt : tool.argsSentAt = if n ∈ order then (told.arguments n).length else 0
  name : tool.name = told'.name items n
  nameSent : tool.nameSent = told.named n

/-- What an event about `n` adds to what was told. -/
structure Extends (items : Int → UpstreamItem) (n : Int) (told told' : Told) : Prop where
  others : ∀ m, m ≠ n → told'.arguments m = told.arguments m ∧ told'.named m = told.named m
  more : told.arguments n <+: told'.arguments n
  named : told.named n → told'.named n
  name : told'.named n → (items n).name ≠ ""

open ResponsesStreamTool

/-- The result of a function that ends in `toolDelta` for the tool of `n`. -/
def Delivering (items : Int → UpstreamItem) (told told' : Told) (order : List Int) (n : Int)
    (s : ResponsesToChatStreamState U)
    (r : ResponsesToChatStreamState U × List (StreamChunk U)) : Prop :=
  ∃ s₁ tool d, r = s₁.toolDelta tool d ∧ Claimed items n s s₁ ∧
    s₁.nextToolIndex = (addIndex n order).length ∧ Due items told told' order n tool ∧
    (d = [] ∨ d = tool.arguments.drop tool.argsSentAt)

section Deliver
variable {items : Int → UpstreamItem} {told told' : Told} {order : List Int} {n : Int}
  {s s₁ : ResponsesToChatStreamState U} {sent : List ToolCallResponse} {tool : ResponsesStreamTool}
  {r : Sending U}

/-- The tool when `toolDelta` is through with it. -/
def ResponsesStreamTool.delivered (tool : ResponsesStreamTool) : ResponsesStreamTool :=
  { tool with
    sent := true
    nameSent := tool.nameSent || tool.name ≠ ""
    argsSentAt := tool.argsSentAt + (tool.arguments.drop tool.argsSentAt).length }

/-- **What `toolDelta` does**: it sends what of the tool was not sent. -/
theorem toolDelta_spec (tool : ResponsesStreamTool) {d : Bytes}
    (hd : d = [] ∨ d = tool.arguments.drop tool.argsSentAt) (s : ResponsesToChatStreamState U) :
    (s.toolDelta tool d).1.maps = (s.store tool.delivered).maps ∧
      (s.toolDelta tool d).1.finalized = s.finalized ∧
      (∀ call ∈ calls (s.toolDelta tool d).2, call.index = tool.index) ∧
      argsAt tool.index (calls (s.toolDelta tool d).2) = tool.arguments.drop tool.argsSentAt ∧
      namesAt tool.index (calls (s.toolDelta tool d).2) =
        (if tool.nameSent then [] else [tool.name]).filter (· ≠ "") ∧
      Unfinished (s.toolDelta tool d).2 := by
  have hre : (if d = [] then tool.arguments.drop tool.argsSentAt else d) =
      tool.arguments.drop tool.argsSentAt := by
    rcases hd with rfl | rfl
    · exact if_pos rfl
    · exact ite_self _
  by_cases hnot : tool.sent ∧ tool.arguments.drop tool.argsSentAt = [] ∧
      (tool.name = "" ∨ tool.nameSent)
  · have hstore : s.toolDelta tool d = (s.store tool, []) := by
      rw [toolDelta, hre]
      exact if_pos hnot
    obtain ⟨hsen, hemp, hname⟩ := hnot
    have hsm : tool.delivered = tool := by
      rw [delivered, hemp]
      cases tool
      rcases hname with hname | hname <;> simp_all
    rw [hstore, hsm, hemp]
    refine ⟨rfl, rfl, by simp [calls], rfl, ?_, unfinished_nil⟩
    rcases hname with hname | hname
    · cases tool.nameSent <;> simp [hname, calls, namesAt]
    · simp [hname, calls, namesAt]
  · let call : ToolCallResponse :=
      { index := tool.index
        id := if trimSpace tool.callID = "" then tool.key.text else trimSpace tool.callID
        name := if ¬tool.nameSent then tool.name else ""
        arguments := tool.arguments.drop tool.argsSentAt }
    have hse : s.toolDelta tool d =
        { s.store tool.delivered with sawToolCall := true }.send { toolCalls := [call] } := by
      rw [toolDelta, hre]
      exact if_neg hnot
    obtain ⟨hma, hfin, hcls, hunf⟩ :=
      send_spec { toolCalls := [call] } { s.store tool.delivered with sawToolCall := true }
    rw [hse, hcls]
    refine ⟨hma, hfin, by simp [call], by simp [argsAt, call], ?_, hunf⟩
    cases hname : tool.nameSent <;> simp [namesAt, call, hname]

/-- The number of bytes sent when `toolDelta` is through. -/
theorem Due.agrees (h : Due items told told' order n tool) (hext : Extends items n told told') :
    Agrees items told' n tool.index tool.delivered := by
  refine ⟨h.key, rfl, h.arguments, ?_, h.name, ?_⟩
  · have hle : tool.argsSentAt ≤ (told'.arguments n).length := by
      rw [h.argsSentAt]
      split
      · exact hext.more.length_le
      · exact Nat.zero_le _
    dsimp only [delivered]
    rw [h.arguments, length_drop]
    omega
  · rw [delivered, h.nameSent, h.name, Told.name]
    cases hnam' : told'.named n with
    | true => simp [hext.name hnam']
    | false =>
      have hnam : told.named n = false := by
        rw [← Bool.not_eq_true]
        intro hnam
        rw [hext.named hnam] at hnam'
        cases hnam'
      simp [hnam]

theorem Agrees.congr {i : Nat} (h : Agrees items told n i tool)
    (har : told'.arguments n = told.arguments n) (hnam : told'.named n = told.named n) :
    Agrees items told' n i tool := by
  refine ⟨h.key, h.index, h.arguments.trans har.symm, ?_, ?_, h.nameSent.trans hnam.symm⟩
  · rw [har]
    exact h.argsSentAt
  · rw [h.name, Told.name, Told.name, hnam]

theorem Filed.of_maps (h : Filed items told order s) (hma : s₁.maps = s.maps) :
    Filed items told order s₁ := by
  obtain ⟨hnext, htools, hout, hit, hpen, hpn⟩ :
      s₁.nextToolIndex = s.nextToolIndex ∧ s₁.toolByKey = s.toolByKey ∧
      s₁.outputIndexToKey = s.outputIndexToKey ∧ s₁.itemIDToKey = s.itemIDToKey ∧
      s₁.pendingArgsByOutputIndex = s.pendingArgsByOutputIndex ∧
      s₁.pendingArgsByItemID = s.pendingArgsByItemID := by
    simpa [maps] using hma
  exact ⟨h.nodup, hnext ▸ h.nextToolIndex, htools ▸ h.keys, htools ▸ h.tools, hout ▸ h.outputKey,
    hit ▸ h.itemKey, hpen ▸ h.pendingOutput, hpn ▸ h.pendingItem, h.named⟩

theorem Due.index_eq (h : Due items told told' order n tool) (hnd : order.Nodup) {i : Nat}
    (hi : (addIndex n order)[i]? = some n) : i = tool.index := by
  have hlt : i < (addIndex n order).length := (List.getElem?_eq_some_iff.mp hi).1
  exact (List.getElem?_inj hlt (nodup_addIndex hnd)).mp (hi.trans h.index.symm)

theorem Filed.deliver (h : Filed items told order s) (hext : Extends items n told told')
    (hclaim : Claimed items n s s₁) (hnext : s₁.nextToolIndex = (addIndex n order).length)
    (hdue : Due items told told' order n tool) :
    Filed items told' (addIndex n order) (s₁.store tool.delivered) := by
  have hkey : tool.delivered.key = .output n := hdue.key
  have hlook : (s₁.store tool.delivered).toolByKey.lookup (.output n) = some tool.delivered := by
    rw [store, hkey]
    exact AList.lookup_insert _
  have hlookup_ne : ∀ k, k ≠ .output n →
      (s₁.store tool.delivered).toolByKey.lookup k = s.toolByKey.lookup k := by
    intro k hne
    rw [store, hkey]
    exact (AList.lookup_insert_ne hne).trans (hclaim.tools k hne)
  refine
    { nodup := nodup_addIndex h.nodup, nextToolIndex := hnext, keys := ?_, tools := ?_,
      outputKey := ?_, itemKey := ?_, pendingOutput := ?_, named := ?_
      pendingItem := fun x => hclaim.pendingItem x (h.pendingItem x) }
  · intro k hk
    by_cases heq : k = .output n
    · exact ⟨n, mem_addIndex.mpr (.inr rfl), heq⟩
    rw [hlookup_ne k heq] at hk
    obtain ⟨m, hm, rfl⟩ := h.keys k hk
    exact ⟨m, mem_addIndex.mpr (.inl hm), rfl⟩
  · intro i m hi
    by_cases heq : m = n
    · subst heq
      rw [hdue.index_eq h.nodup hi]
      exact ⟨_, hlook, hdue.agrees hext⟩
    · obtain ⟨tool', htl', hagr⟩ := h.tools i m ((getElem?_addIndex_of_ne heq).mp hi)
      obtain ⟨hsm, hnam⟩ := hext.others m heq
      exact ⟨tool', (hlookup_ne _ (by simpa using heq)).trans htl', hagr.congr hsm hnam⟩
  · intro m
    refine (hclaim.outputKey m).trans ?_
    by_cases heq : m = n
    · rw [if_pos heq, if_pos (mem_addIndex.mpr (.inr heq)), heq]
    rw [if_neg heq, h.outputKey m]
    exact if_congr (by simp [mem_addIndex, heq]) rfl rfl
  · intro x k hx
    rcases hclaim.itemKey x k hx with ⟨rfl, rfl⟩ | hold
    · exact ⟨n, mem_addIndex.mpr (.inr rfl), rfl, rfl⟩
    obtain ⟨m, hm, hk, hid⟩ := h.itemKey x k hold
    exact ⟨m, mem_addIndex.mpr (.inl hm), hk, hid⟩
  · intro m
    refine (hclaim.pendingOutput m).trans ?_
    by_cases heq : m = n
    · rw [if_pos heq, if_pos (.inl (mem_addIndex.mpr (.inr heq)))]
    rw [if_neg heq, h.pendingOutput m, (hext.others m heq).1]
    exact if_congr (by simp [mem_addIndex, heq]) rfl rfl
  · intro m hm
    by_cases heq : m = n
    · subst heq
      exact ⟨mem_addIndex.mpr (.inr rfl), hext.name hm⟩
    · rw [(hext.others m heq).2] at hm
      exact ⟨mem_addIndex.mpr (.inl (h.named m hm).1), (h.named m hm).2⟩

/-- What was sent before under the index that the tool of `n` has or gets. -/
theorem Delivered.sent_before (h : Delivered items told order s sent) {i : Nat}
    (hi : (addIndex n order)[i]? = some n) :
    argsAt i sent = (if n ∈ order then told.arguments n else []) ∧
      namesAt i sent = if told.named n then [(items n).name] else [] := by
  unfold addIndex at hi
  by_cases hmem : n ∈ order
  · rw [if_pos hmem] at hi ⊢
    exact ⟨h.sentUnder.arguments i n hi, h.sentUnder.names i n hi⟩
  rw [if_neg hmem] at hi ⊢
  have hnam : ¬told.named n = true := fun hn => hmem (h.filed.named n hn).1
  have hlen : ¬i < order.length := by
    intro hlt
    rw [getElem?_append_left hlt] at hi
    exact hmem (mem_of_getElem? hi)
  have hfr : ∀ call ∈ sent, call.index ≠ i := by
    intro call hca heq
    have hlt := h.sentUnder.indices call hca
    omega
  rw [if_neg hnam]
  exact ⟨argsAt_eq_nil hfr, namesAt_eq_nil hfr⟩

/-- **What was told of `n` is delivered** when `toolDelta` has run. -/
theorem Delivered.deliver (h : Delivered items told order s sent)
    (hext : Extends items n told told') (hr : Delivering items told told' order n s r) :
    Delivered items told' (addIndex n order) r.1 (sent ++ calls r.2) ∧
      r.1.finalized = s.finalized ∧ Unfinished r.2 := by
  obtain ⟨s₁, tool, d, rfl, hclaim, hnext, hdue, hd⟩ := hr
  obtain ⟨hma, hfin, hidx, har, hnam, hunf⟩ := toolDelta_spec tool hd s₁
  obtain ⟨har₀, hnam₀⟩ := h.sent_before hdue.index
  -- the calls of other tools have other indices
  have hoth : ∀ i m, m ≠ n → (addIndex n order)[i]? = some m →
      ∀ call ∈ calls (s₁.toolDelta tool d).2, call.index ≠ i := by
    intro i m hne hi call hca heq
    rw [hidx call hca] at heq
    rw [← heq, hdue.index] at hi
    exact hne (Option.some.inj hi).symm
  refine ⟨⟨(h.filed.deliver hext hclaim hnext hdue).of_maps hma, ?_, ?_, ?_⟩,
    hfin.trans hclaim.finalized, hunf⟩
  · intro call hca
    rcases mem_append.mp hca with hold | hnew
    · have hlt := h.sentUnder.indices call hold
      have hle : order.length ≤ (addIndex n order).length := by
        unfold addIndex
        split <;> simp
      omega
    · rw [hidx call hnew]
      exact (List.getElem?_eq_some_iff.mp hdue.index).1
  · intro i m hi
    rw [argsAt_append]
    by_cases heq : m = n
    · subst heq
      rw [hdue.index_eq h.filed.nodup hi, har₀, har, hdue.arguments, hdue.argsSentAt]
      split
      · exact prefix_iff_eq_append.mp hext.more
      · rfl
    · rw [argsAt_eq_nil (hoth i m heq hi), append_nil, (hext.others m heq).1]
      exact h.sentUnder.arguments i m ((getElem?_addIndex_of_ne heq).mp hi)
  · intro i m hi
    rw [namesAt_append]
    by_cases heq : m = n
    · subst heq
      rw [hdue.index_eq h.filed.nodup hi, hnam₀, hnam, hdue.nameSent, hdue.name, Told.name]
      cases hname : told.named m with
      | true => simp [hext.named hname]
      | false =>
        cases hnam' : told'.named m with
        | true => simp [hext.name hnam']
        | false => simp
    · rw [namesAt_eq_nil (hoth i m heq hi), append_nil, (hext.others m heq).2]
      exact h.sentUnder.names i m ((getElem?_addIndex_of_ne heq).mp hi)

/-! ## The events -/

/-- An output index that has not come has no tool. -/
theorem Filed.lookup_eq_none (h : Filed items told order s) (hmem : n ∉ order) :
    s.toolByKey.lookup (.output n) = none := by
  by_contra hso
  obtain ⟨m, hm, heq⟩ := h.keys _ (Option.isSome_iff_ne_none.mpr hso)
  cases heq
  exact hmem hm

theorem ensureTool_spec (h : Filed items told order s) (n : Int) (callID : String) :
    ∃ s' tool, s.ensureTool (.output n) callID = (s', tool) ∧
      (∀ k, k ≠ .output n → s'.toolByKey.lookup k = s.toolByKey.lookup k) ∧
      s'.nextToolIndex = (addIndex n order).length ∧
      s'.outputIndexToKey = s.outputIndexToKey ∧ s'.itemIDToKey = s.itemIDToKey ∧
      s'.pendingArgsByOutputIndex = s.pendingArgsByOutputIndex ∧
      s'.pendingArgsByItemID = s.pendingArgsByItemID ∧ s'.finalized = s.finalized ∧
      tool.arguments = (if n ∈ order then told.arguments n else []) ∧
      Due items told told order n { tool with arguments := told.arguments n } := by
  unfold ensureTool
  by_cases hmem : n ∈ order
  · obtain ⟨i, hi⟩ := mem_iff_getElem?.mp hmem
    obtain ⟨tool, hlook, hagr⟩ := h.tools i n hi
    rw [hlook]
    refine ⟨s, tool, rfl, fun _ _ => rfl, ?_, rfl, rfl, rfl, rfl, rfl, ?_, ?_⟩
    · rw [addIndex, if_pos hmem]
      exact h.nextToolIndex
    · rw [if_pos hmem]
      exact hagr.arguments
    · refine ⟨hagr.key, ?_, rfl, ?_, hagr.name, hagr.nameSent⟩
      · rw [addIndex, if_pos hmem, hagr.index]
        exact hi
      · rw [if_pos hmem]
        exact hagr.argsSentAt
  · have hnam : told.named n = false := by
      rw [← Bool.not_eq_true]
      exact fun hn => hmem (h.named n hn).1
    rw [h.lookup_eq_none hmem]
    refine ⟨_, _, rfl, ?_, ?_, rfl, rfl, rfl, rfl, rfl, ?_, ?_⟩
    · intro k hne
      exact AList.lookup_insert_ne hne
    · rw [addIndex, if_neg hmem, length_append]
      exact congrArg (· + 1) h.nextToolIndex
    · rw [if_neg hmem]
    · refine ⟨rfl, ?_, rfl, ?_, ?_, hnam.symm⟩
      · rw [addIndex, if_neg hmem]
        rw [h.nextToolIndex]
        exact getElem?_concat_length
      · rw [if_neg hmem]
      · rw [Told.name, hnam]
        rfl

/-- The state and the tool when the event's ids have been noted. -/
structure Taken (items : Int → UpstreamItem) (told : Told) (order : List Int) (n : Int)
    (s : ResponsesToChatStreamState U)
    (found : ResponsesToChatStreamState U × ResponsesStreamTool) : Prop where
  claimed : Claimed items n s found.1
  next : found.1.nextToolIndex = (addIndex n order).length
  due : Due items told told order n found.2

theorem taken_outputIndex (h : Filed items told order s) (n : Int) (callID : String) :
    Taken items told order n s
      (claimOutputIndex (some n) (.output n) (s.ensureTool (.output n) callID)) := by
  obtain ⟨s', tool, hens, htools, hnext, hout, hit, hpen, hpn, hfin,
    har, hdue⟩ := ensureTool_spec h n callID
  have hkey : ∀ m, (s'.outputIndexToKey.insert n (.output n)).lookup m =
      if m = n then some (.output n) else s.outputIndexToKey.lookup m := by
    intro m
    by_cases heq : m = n
    · subst heq
      rw [if_pos rfl]
      exact AList.lookup_insert _
    · rw [if_neg heq, ← hout]
      exact AList.lookup_insert_ne heq
  have hkept := h.pendingOutput n
  rw [hens]
  dsimp only [claimOutputIndex]
  rw [hpen, hkept]
  by_cases hno : n ∈ order ∨ told.arguments n = []
  · rw [if_pos hno] at hkept ⊢
    have hsm : tool.arguments = told.arguments n := by
      rw [har]
      split
      · rfl
      rename_i hmem
      exact (hno.resolve_left hmem).symm
    refine ⟨⟨htools, hkey, ?_, ?_, ?_, hfin⟩, hnext, ?_⟩
    · intro x k hx
      exact .inr (hit ▸ hx)
    · intro m
      by_cases heq : m = n
      · rw [if_pos heq, heq]
        exact hkept
      · rw [if_neg heq]
    · intro x hx
      exact (congrArg (AList.lookup x) hpn).trans hx
    · have htl : { tool with arguments := told.arguments n } = tool := by
        rw [← hsm]
      rw [htl] at hdue
      exact hdue
  · rw [if_neg hno]
    obtain ⟨hmem, hso⟩ := not_or.mp hno
    dsimp only
    rw [if_neg hso]
    refine ⟨⟨htools, hkey, ?_, ?_, ?_, hfin⟩, hnext, ?_⟩
    · intro x k hx
      exact .inr (hit ▸ hx)
    · intro m
      by_cases heq : m = n
      · rw [if_pos heq, heq]
        exact AList.lookup_erase _ _
      · rw [if_neg heq]
        exact AList.lookup_erase_ne heq
    · intro x hx
      exact (congrArg (AList.lookup x) hpn).trans hx
    · rw [har, if_neg hmem, nil_append]
      exact hdue

variable {found : ResponsesToChatStreamState U × ResponsesStreamTool}

theorem Taken.itemID
    (h : Taken items told order n s found) (hpen : ∀ x, s.pendingArgsByItemID.lookup x = none) :
    Taken items told order n s (claimItemID (items n).id (.output n) found) := by
  dsimp only [claimItemID]
  split
  · exact h
  rw [h.claimed.pendingItem _ (hpen _)]
  obtain ⟨hclaim, hnext, hdue⟩ := h
  refine ⟨{ hclaim with itemKey := ?_ }, hnext, { hdue with }⟩
  intro x k hx
  by_cases heq : x = (items n).id
  · rw [heq] at hx
    have hk := (AList.lookup_insert _).symm.trans hx
    exact .inl ⟨(Option.some.inj hk).symm, heq⟩
  · exact hclaim.itemKey x k ((AList.lookup_insert_ne heq).symm.trans hx)

theorem Taken.callID
    (h : Taken items told order n s found) (item : ResponsesOutput) (key : ToolKey) :
    Taken items told order n s (claimCallID item key found) := by
  obtain ⟨hclaim, hnext, hdue⟩ := h
  have hdue' : ∀ callID, Due items told told order n { found.2 with callID := callID } :=
    fun _ => { hdue with }
  dsimp only [claimCallID]
  split
  · exact ⟨{ hclaim with }, hnext, hdue' _⟩
  · split
    · exact ⟨hclaim, hnext, hdue' _⟩
    · exact ⟨hclaim, hnext, hdue⟩

variable {e : ResponsesStreamResponse U}

/-- **An item of the upstream** goes to the tool of its output index. -/
theorem delivering_item (h : Filed items told order s)
    {item : ResponsesOutput} (hkind : e.kind = .item item) (hcar : Carries items n e)
    (hname : trimSpace item.name = (items n).name) (hnam : (items n).name ≠ "") :
    Delivering items told (told.note e) order n s (s.toolItem e item) := by
  obtain ⟨hout, hid, -⟩ := hcar
  have htak := ((taken_outputIndex h n "").itemID h.pendingItem).callID item (.output n)
  have hens : s.ensureToolForEvent e item = some (claimName item (claimCallID item (.output n)
      (claimItemID (items n).id (.output n)
        (claimOutputIndex (some n) (.output n) (s.ensureTool (.output n) ""))))) := by
    rw [ensureToolForEvent, keyForEvent, hout, hid]
    rfl
  generalize claimCallID item (.output n) _ = found at htak hens
  obtain ⟨s₁, tool⟩ := found
  have hclaim : claimName item (s₁, tool) = (s₁, { tool with name := (items n).name }) := by
    rw [claimName, hname]
    exact congrArg (Prod.mk s₁) (if_pos hnam)
  have hrun : s.toolItem e item = s₁.toolDelta
      (if item.arguments ≠ [] then
        { tool with name := (items n).name, arguments := item.arguments }
      else { tool with name := (items n).name }) [] := by
    rw [toolItem, hens, hclaim]
  refine ⟨s₁, _, [], hrun, htak.claimed, htak.next, ?_, .inl rfl⟩
  have hdue := htak.due
  have hnow : (told.note e).arguments n =
      if item.arguments = [] then told.arguments n else item.arguments := by
    rw [note_item hkind hout]
    exact update_self ..
  have hnoted : (told.note e).name items n = (items n).name := by
    rw [note_item hkind hout, Told.name]
    exact if_pos (update_self ..)
  by_cases hemp : item.arguments = []
  · rw [if_neg (not_not.mpr hemp)]
    rw [if_pos hemp] at hnow
    exact { hdue with arguments := hdue.arguments.trans hnow.symm, name := hnoted.symm }
  · rw [if_pos hemp]
    rw [if_neg hemp] at hnow
    exact { hdue with arguments := hnow.symm, name := hnoted.symm }

theorem delivered_item (h : Delivered items told order s sent)
    {item : ResponsesOutput} (hkind : e.kind = .item item) (hcar : Carries items n e)
    (hname : trimSpace item.name = (items n).name) (hnam : (items n).name ≠ "")
    (har : item.arguments = [] ∨ told.arguments n <+: item.arguments) :
    Delivered items (told.note e) (addIndex n order) (s.toolItem e item).1
        (sent ++ calls (s.toolItem e item).2) ∧
      (s.toolItem e item).1.finalized = s.finalized ∧ Unfinished (s.toolItem e item).2 := by
  refine h.deliver ?_ (delivering_item h.filed hkind hcar hname hnam)
  rw [note_item hkind hcar.1]
  refine ⟨fun m hne => ⟨update_of_ne hne _ _, update_of_ne hne _ _⟩, ?_, ?_, fun _ => hnam⟩
  · dsimp only
    rw [update_self]
    rcases har with har | har
    · rw [if_pos har]
    split
    · exact prefix_rfl
    · exact har
  · exact fun _ => update_self ..

section
variable (h : Filed items told order s)
include h

theorem findToolForEvent_some (hcar : Carries items n e) (hmem : n ∈ order) :
    ∃ tool, s.findToolForEvent e = some tool ∧ Claimed items n s s ∧
      s.nextToolIndex = (addIndex n order).length ∧ Due items told told order n tool := by
  obtain ⟨i, hi⟩ := mem_iff_getElem?.mp hmem
  obtain ⟨tool, hlook, hagr⟩ := h.tools i n hi
  have hkey : s.outputIndexToKey.lookup n = some (.output n) := by
    rw [h.outputKey n, if_pos hmem]
  have hadd : addIndex n order = order := if_pos hmem
  refine ⟨tool, ?_, ⟨fun _ _ => rfl, ?_, fun _ _ => .inr, ?_, fun _ => id, rfl⟩, ?_, ?_⟩
  · rw [findToolForEvent, hcar.1]
    simp [hkey, hlook]
  · intro m
    split
    · rename_i heq
      rw [heq, hkey]
    · rfl
  · intro m
    split
    · rename_i heq
      rw [heq, h.pendingOutput n, if_pos (.inl hmem)]
    · rfl
  · rw [hadd]
    exact h.nextToolIndex
  · refine ⟨hagr.key, ?_, hagr.arguments, ?_, hagr.name, hagr.nameSent⟩
    · rw [hadd, hagr.index]
      exact hi
    · rw [if_pos hmem]
      exact hagr.argsSentAt

/-- No tool is found for an output index that has none: another item has another id. -/
theorem findToolForEvent_none (hids : DistinctIDs items)
    (hcar : Carries items n e) (hmem : n ∉ order) : s.findToolForEvent e = none := by
  obtain ⟨hout, -, hid⟩ := hcar
  have hkey : s.outputIndexToKey.lookup n = none := by
    rw [h.outputKey n, if_neg hmem]
  have hit : (if trimSpace e.itemID ≠ "" then s.itemIDToKey.lookup (trimSpace e.itemID)
      else none) = none := by
    split
    · rename_i hne
      cases hlook : s.itemIDToKey.lookup (trimSpace e.itemID) with
      | none => rfl
      | some k =>
        obtain ⟨m, hm, -, hx⟩ := h.itemKey _ k hlook
        have hsm : (items m).id = (items n).id := hx.symm.trans (hid.resolve_left hne)
        rw [hids m n hsm (hx ▸ hne)] at hm
        exact absurd hm hmem
    · rfl
  rw [findToolForEvent, keyForEvent, hit, hout]
  cases e.item <;> simp [hkey, h.lookup_eq_none hmem]

/-- **A delta of the arguments** goes to the tool of its output index, if there is one. -/
theorem delivering_delta (hkind : e.kind = .delta) (hcar : Carries items n e) (hmem : n ∈ order)
    (hdel : e.delta ≠ []) :
    Delivering items told (told.note e) order n s (s.toolArgumentsDelta e) := by
  obtain ⟨tool, hfd, hclaim, hnext, hdue⟩ := findToolForEvent_some h hcar hmem
  have hrun : s.toolArgumentsDelta e =
      s.toolDelta { tool with arguments := tool.arguments ++ e.delta } e.delta := by
    rw [toolArgumentsDelta, if_neg hdel, hfd]
  refine ⟨s, _, e.delta, hrun, hclaim, hnext, ?_, .inr ?_⟩
  · rw [note_delta hkind hcar.1]
    refine { hdue with arguments := ?_ }
    dsimp only
    rw [update_self, ← hdue.arguments]
  · rw [hdue.argsSentAt, if_pos hmem, hdue.arguments, drop_left]

end

/-- A delta for which there is no tool is kept. -/
theorem delivered_keepDelta (h : Delivered items told order s sent)
    (hkind : e.kind = .delta) (hcar : Carries items n e) (hmem : n ∉ order) (hdel : e.delta ≠ []) :
    Delivered items (told.note e) order (s.keepDelta e) sent := by
  have hne : ∀ m ∈ order, m ≠ n := fun m hm heq => hmem (heq ▸ hm)
  have hnow : (told.note e).arguments n = told.arguments n ++ e.delta := by
    rw [note_delta hkind hcar.1]
    exact update_self ..
  have hoth : ∀ m, m ≠ n → (told.note e).arguments m = told.arguments m := by
    intro m hne
    rw [note_delta hkind hcar.1]
    exact update_of_ne hne _ _
  have hnam : (told.note e).named = told.named := by
    rw [note_delta hkind hcar.1]
  obtain ⟨pending, hpen⟩ : ∃ pending, pending =
    s.pendingArgsByOutputIndex.insert n (told.arguments n ++ e.delta) := ⟨_, rfl⟩
  have hkept : s.keepDelta e = { s with pendingArgsByOutputIndex := pending } := by
    have hke : (s.pendingArgsByOutputIndex.lookup n).getD [] = told.arguments n := by
      rw [h.filed.pendingOutput n]
      split
      · rename_i hno
        exact (hno.resolve_left hmem).symm
      · rfl
    rw [keepDelta, hcar.1]
    dsimp only
    rw [hke, hpen]
  rw [hkept]
  refine ⟨{ h.filed with tools := ?_, pendingOutput := ?_, named := hnam ▸ h.filed.named },
    { h.sentUnder with arguments := ?_, names := hnam ▸ h.sentUnder.names }⟩
  · intro i m hi
    have hm := hne m (mem_of_getElem? hi)
    obtain ⟨tool, htl, hagr⟩ := h.filed.tools i m hi
    exact ⟨tool, htl, hagr.congr (hoth m hm) (congrFun hnam m)⟩
  · intro m
    by_cases heq : m = n
    · have hso : (told.note e).arguments n ≠ [] := by
        rw [hnow]
        simp [hdel]
      rw [heq, if_neg (not_or.mpr ⟨hmem, hso⟩), hnow, hpen]
      exact AList.lookup_insert _
    · rw [hoth m heq, ← h.filed.pendingOutput m, hpen]
      exact AList.lookup_insert_ne heq
  · intro i m hi
    rw [hoth m (hne m (mem_of_getElem? hi))]
    exact h.sentUnder.arguments i m hi

theorem delivered_delta (h : Delivered items told order s sent) (hids : DistinctIDs items)
    (hkind : e.kind = .delta) (hcar : Carries items n e) :
    Delivered items (told.note e) order (s.toolArgumentsDelta e).1
        (sent ++ calls (s.toolArgumentsDelta e).2) ∧
      (s.toolArgumentsDelta e).1.finalized = s.finalized ∧
      Unfinished (s.toolArgumentsDelta e).2 := by
  by_cases hemp : e.delta = []
  · have hsm : told.note e = told := by
      rw [note_delta hkind hcar.1, hemp, append_nil, update_eq_self]
    have hrun : s.toolArgumentsDelta e = (s, []) := if_pos hemp
    rw [hrun, hsm]
    refine ⟨?_, rfl, unfinished_nil⟩
    simpa [calls] using h
  by_cases hmem : n ∈ order
  · have hadd : addIndex n order = order := if_pos hmem
    have hext : Extends items n told (told.note e) := by
      rw [note_delta hkind hcar.1]
      refine ⟨fun m hne => ⟨update_of_ne hne _ _, rfl⟩, ?_, id, fun hn => (h.filed.named n hn).2⟩
      dsimp only
      rw [update_self]
      exact prefix_append _ _
    have hdel := h.deliver hext (delivering_delta h.filed hkind hcar hmem hemp)
    rwa [hadd] at hdel
  · have hrun : s.toolArgumentsDelta e = (s.keepDelta e, []) := by
      rw [toolArgumentsDelta, if_neg hemp, findToolForEvent_none h.filed hids hcar hmem]
    have hfin : (s.keepDelta e).finalized = s.finalized := by
      rw [keepDelta, hcar.1]
    rw [hrun]
    refine ⟨?_, hfin, unfinished_nil⟩
    simpa [calls] using delivered_keepDelta h hkind hcar hmem hemp

theorem Extends.refl (h : told.named n → (items n).name ≠ "") : Extends items n told told :=
  ⟨fun _ _ => ⟨rfl, rfl⟩, prefix_rfl, id, h⟩

/-- **The end of the arguments** goes to the tool of its output index. -/
theorem delivering_argsDone (h : Filed items told order s)
    (hcar : Carries items n e) (hmem : n ∈ order) :
    Delivering items told told order n s (s.flushPendingTool e) := by
  obtain ⟨tool, hfd, hclaim, hnext, hdue⟩ := findToolForEvent_some h hcar hmem
  refine ⟨s, tool, [], ?_, hclaim, hnext, hdue, .inl rfl⟩
  rw [flushPendingTool, hfd]

/-- The end of the arguments of an item that did not come makes a tool. -/
theorem delivering_argsDone_new (h : Filed items told order s) (hids : DistinctIDs items)
    (hcar : Carries items n e) (hmem : n ∉ order) :
    Delivering items told told order n s (s.flushPendingTool e) := by
  have htak := (taken_outputIndex h n (fallbackCallID e)).itemID h.pendingItem
  refine ⟨_, _, [], ?_, htak.claimed, htak.next, htak.due, .inl rfl⟩
  have hens : s.ensureFallbackToolForEvent e = some (claimItemID (items n).id (.output n)
      (claimOutputIndex (some n) (.output n) (s.ensureTool (.output n) (fallbackCallID e)))) := by
    rw [ensureFallbackToolForEvent, hcar.1, hcar.2.1]
    rfl
  rw [flushPendingTool, findToolForEvent_none h hids hcar hmem]
  rw [hens]

theorem delivered_argsDone (h : Delivered items told order s sent) (hids : DistinctIDs items)
    (hkind : e.kind = .argsDone) (hcar : Carries items n e) :
    Delivered items (told.note e) (addIndex n order) (s.flushPendingTool e).1
        (sent ++ calls (s.flushPendingTool e).2) ∧
      (s.flushPendingTool e).1.finalized = s.finalized ∧ Unfinished (s.flushPendingTool e).2 := by
  have hext : Extends items n told told := Extends.refl fun hn => (h.filed.named n hn).2
  rw [note_argsDone hkind]
  by_cases hmem : n ∈ order
  · exact h.deliver hext (delivering_argsDone h.filed hcar hmem)
  exact h.deliver hext (delivering_argsDone_new h.filed hids hcar hmem)

/-- The output indices that have a tool after one more event. -/
def noteOrder (order : List Int) (e : ResponsesStreamResponse U) : List Int :=
  match e.kind, e.outputIndex with
  | .item _, some n | .argsDone, some n => addIndex n order
  | _, _ => order

/-- Only an event about `n` gives it a tool. -/
theorem mem_noteOrder (h : n ∈ noteOrder order e) : n ∈ order ∨ Touches n e := by
  unfold noteOrder at h
  split at h
  · rename_i item m hkind hout
    rcases mem_addIndex.mp h with h | rfl
    · exact .inl h
    · exact .inr ⟨hout, .inl ⟨item, hkind⟩⟩
  · rename_i m hkind hout
    rcases mem_addIndex.mp h with h | rfl
    · exact .inl h
    · exact .inr ⟨hout, .inr (.inr hkind)⟩
  · exact .inl h

variable {events : List (ResponsesStreamResponse U)}

theorem mem_run_noteOrder
    (h : n ∈ events.foldl noteOrder order) : n ∈ order ∨ ∃ e ∈ events, Touches n e := by
  induction events generalizing order with
  | nil => exact .inl h
  | cons e events ih =>
    rcases ih h with h | ⟨e', hmem, htou⟩
    · rcases mem_noteOrder h with h | htou
      · exact .inl h
      · exact .inr ⟨e, mem_cons_self, htou⟩
    · exact .inr ⟨e', mem_cons_of_mem _ hmem, htou⟩

/-- **One event of the upstream.** -/
theorem delivered_step (h : Delivered items told order s sent) (hids : DistinctIDs items)
    (hft : Fits items told e) : ∃ r, responsesStreamEventToChatChunks e s = .ok r ∧
      Delivered items (told.note e) (noteOrder order e) r.1 (sent ++ calls r.2) ∧
      r.1.finalized = s.finalized ∧ Unfinished r.2 := by
  unfold Fits at hft
  have hok : e.kind ≠ .failure := by
    intro hkind
    rw [hkind] at hft
    exact hft
  obtain ⟨r, hrun, hhandled⟩ := convert_handled e s hok
  refine ⟨r, hrun, ?_⟩
  unfold noteOrder
  generalize hkind : e.kind = kind at hft hhandled ⊢
  cases kind with
  | item item =>
    obtain ⟨n, hcar, hname, hnam, har⟩ := hft
    obtain rfl : r = s.toolItem e item := hhandled
    rw [hcar.1]
    exact delivered_item h hkind hcar hname hnam har
  | delta =>
    obtain ⟨n, hcar⟩ := hft
    obtain rfl : r = s.toolArgumentsDelta e := hhandled
    exact delivered_delta h hids hkind hcar
  | argsDone =>
    obtain ⟨n, hcar⟩ := hft
    obtain rfl : r = s.flushPendingTool e := hhandled
    rw [hcar.1]
    exact delivered_argsDone h hids hkind hcar
  | terminal =>
    exact hft.elim
  | failure => exact absurd hkind hok
  | quiet =>
    have hsil : Silent s r := hhandled
    refine ⟨?_, hsil.finalized, hsil.unfinished⟩
    rw [note_quiet hkind, hsil.calls, append_nil]
    exact ⟨h.filed.of_maps hsil.maps, h.sentUnder⟩

/-- One more event of `convertEvents`. -/
def convertNext (acc : ResponsesToChatStreamState U × List (StreamChunk U))
    (e : ResponsesStreamResponse U) :
    Except String (ResponsesToChatStreamState U × List (StreamChunk U)) :=
  (responsesStreamEventToChatChunks e acc.1).map fun r => (r.1, acc.2 ++ r.2)

/-- **The events of the upstream.** -/
theorem delivered_run (hids : DistinctIDs items)
    (acc : ResponsesToChatStreamState U × List (StreamChunk U))
    (h : Delivered items told order acc.1 (calls acc.2)) (hun : Unfinished acc.2)
    (hft : FitsFrom items told events) : ∃ acc', events.foldlM convertNext acc = .ok acc' ∧
      Delivered items (events.foldl note told) (events.foldl noteOrder order) acc'.1
        (calls acc'.2) ∧ acc'.1.finalized = acc.1.finalized ∧ Unfinished acc'.2 := by
  induction events generalizing acc told order with
  | nil => exact ⟨acc, rfl, h, rfl, hun⟩
  | cons e events ih =>
    obtain ⟨r, hrun, hdel, hfin, hunf⟩ := delivered_step h hids hft.1
    have hnext : convertNext acc e = .ok (r.1, acc.2 ++ r.2) := by
      rw [convertNext, hrun]
      rfl
    rw [← calls_append] at hdel
    obtain ⟨acc', hre, hdel', hfin', hunf'⟩ :=
      ih (r.1, acc.2 ++ r.2) hdel (hun.append hunf) hft.2
    refine ⟨acc', ?_, hdel', hfin'.trans hfin, hunf'⟩
    rw [foldlM_cons, hnext]
    exact hre

theorem named_note (told : Told) (e : ResponsesStreamResponse U) (n : Int) :
    (told.note e).named n = true ↔ told.named n = true ∨ IsItem n e := by
  unfold note IsItem
  cases hkind : e.kind with
  | item item =>
    cases hout : e.outputIndex with
    | none => simp
    | some m =>
      by_cases heq : n = m
      · simp [heq]
      · simp [update_of_ne heq, Ne.symm heq]
  | delta => cases e.outputIndex <;> simp
  | argsDone | terminal | failure | quiet => simp

/-- Every item that came is named. -/
theorem named_run (events : List (ResponsesStreamResponse U)) (n : Int) :
    (events.foldl note told).named n = true ↔ told.named n = true ∨ ∃ e ∈ events, IsItem n e := by
  induction events generalizing told with
  | nil => simp
  | cons e events ih =>
    rw [foldl_cons, ih, named_note, exists_mem_cons_iff, or_assoc]

theorem arguments_note (told : Told) (h : ¬Touches n e) :
    (told.note e).arguments n = told.arguments n := by
  unfold note
  cases hout : e.outputIndex with
  | none => cases e.kind <;> rfl
  | some m =>
    cases hkind : e.kind with
    | item item =>
      refine update_of_ne ?_ _ _
      rintro rfl
      exact h ⟨hout, .inl ⟨item, hkind⟩⟩
    | delta =>
      refine update_of_ne ?_ _ _
      rintro rfl
      exact h ⟨hout, .inr (.inl hkind)⟩
    | argsDone | terminal | failure | quiet => rfl

/-- Nothing is told of an output index that no event is about. -/
theorem arguments_run (h : ∀ e ∈ events, ¬Touches n e) :
    (events.foldl note told).arguments n = told.arguments n := by
  induction events generalizing told with
  | nil => rfl
  | cons e events ih =>
    rw [foldl_cons, ih fun e' hmem => h e' (mem_cons_of_mem _ hmem)]
    exact arguments_note told (h e mem_cons_self)

/-! ## The end -/

/-- **The last flush of a tool.** -/
theorem delivering_flushTool (h : Filed items told order s) (hmem : n ∈ order) :
    Delivering items told told order n s (s.flushTool (.output n)) := by
  obtain ⟨s', tool, hens, htools, hnext, hout, hit, hpen, hpn, hfin,
    har, hdue⟩ := ensureTool_spec h n ("call_output_" ++ toString n)
  have hkept : s.pendingArgsByOutputIndex.lookup n = none := by
    rw [h.pendingOutput n, if_pos (.inl hmem)]
  rw [if_pos hmem] at har
  have hflu : s.flushTool (.output n) =
      { s' with pendingArgsByOutputIndex := s.pendingArgsByOutputIndex.erase n }.toolDelta
        { tool with arguments := told.arguments n } [] := by
    dsimp only [flushTool]
    rw [hens]
    rw [hpen, hkept, Option.getD_none, append_nil, har]
  have hclaim : Claimed items n s
      { s' with pendingArgsByOutputIndex := s.pendingArgsByOutputIndex.erase n } := by
    refine ⟨htools, ?_, ?_, ?_, ?_, hfin⟩
    · intro m
      rw [hout]
      split
      · rename_i heq
        rw [heq, h.outputKey n, if_pos hmem]
      · rfl
    · intro x k hx
      exact .inr (hit ▸ hx)
    · intro m
      split
      · rename_i heq
        rw [heq]
        exact AList.lookup_erase _ _
      · rename_i heq
        exact AList.lookup_erase_ne heq
    · intro x hx
      exact (congrArg (AList.lookup x) hpn).trans hx
  exact ⟨_, _, [], hflu, hclaim, hnext, hdue, .inl rfl⟩

theorem delivered_flushTool (h : Delivered items told order s sent) (hmem : n ∈ order) :
    Delivered items told order (s.flushTool (.output n)).1
      (sent ++ calls (s.flushTool (.output n)).2) ∧ Unfinished (s.flushTool (.output n)).2 := by
  have hadd : addIndex n order = order := if_pos hmem
  have hdel := h.deliver (Extends.refl fun hn => (h.filed.named n hn).2)
    (delivering_flushTool h.filed hmem)
  rw [hadd] at hdel
  exact ⟨hdel.1, hdel.2.2⟩

/-- The keys that are left for the last flush are those of the tools. -/
theorem mem_flushKeys (h : Filed items told order s)
    (hto : ∀ n, n ∉ order → told.arguments n = []) {k : ToolKey} (hk : k ∈ s.flushKeys) :
    ∃ n ∈ order, k = .output n := by
  rw [flushKeys, mem_insertionSort, mem_union_iff, mem_union_iff] at hk
  rcases hk with (hk | hk) | hk
  · exact h.keys k (AList.lookup_isSome.mpr hk)
  · obtain ⟨n, hn, -⟩ := mem_map.mp hk
    have hso : (s.pendingArgsByOutputIndex.lookup n).isSome := AList.lookup_isSome.mpr hn
    have hno : n ∈ order ∨ told.arguments n = [] := by
      by_cases hmem : n ∈ order
      · exact .inl hmem
      · exact .inr (hto n hmem)
    rw [h.pendingOutput n, if_pos hno] at hso
    cases hso
  · obtain ⟨x, hx, -⟩ := mem_map.mp hk
    have hso : (s.pendingArgsByItemID.lookup x).isSome := AList.lookup_isSome.mpr hx
    rw [h.pendingItem x] at hso
    cases hso

/-- What every flush of a tool keeps, the last flush keeps. -/
theorem flushAll_induction {P : Sending U → Prop}
    (hstr : P (s, [])) (hflu : ∀ acc, ∀ n ∈ order, P acc → P (andThen acc (flushTool (.output n))))
    (h : Filed items told order s) (hto : ∀ n, n ∉ order → told.arguments n = []) :
    P s.flushAllPendingTools := by
  have hks : ∀ (keys : List ToolKey) (acc : Sending U), P acc →
      (∀ k ∈ keys, ∃ n ∈ order, k = .output n) →
      P (keys.foldl (fun acc key => andThen acc (flushTool key)) acc) := by
    intro keys
    induction keys with
    | nil =>
      intro acc hacc _
      exact hacc
    | cons k keys ih =>
      intro acc hacc hks
      obtain ⟨n, hmem, rfl⟩ := hks k mem_cons_self
      exact ih _ (hflu acc n hmem hacc) fun k' hk' => hks k' (mem_cons_of_mem _ hk')
  exact hks s.flushKeys (s, []) hstr fun k hk => mem_flushKeys h hto hk

/-- The last flush sends nothing new: everything was delivered. -/
theorem delivered_flushAll (h : Delivered items told order s sent)
    (hto : ∀ n, n ∉ order → told.arguments n = []) :
    Delivered items told order s.flushAllPendingTools.1
      (sent ++ calls s.flushAllPendingTools.2) ∧ Unfinished s.flushAllPendingTools.2 := by
  refine flushAll_induction (P := fun acc => Delivered items told order acc.1
    (sent ++ calls acc.2) ∧ Unfinished acc.2) ⟨?_, unfinished_nil⟩ ?_ h.filed hto
  · simpa [calls] using h
  rintro acc n hmem ⟨hacc, hunf⟩
  obtain ⟨hdel, hunf'⟩ := delivered_flushTool hacc hmem
  rw [append_assoc, ← calls_append] at hdel
  exact ⟨hdel, hunf.append hunf'⟩

/-- The chunks end with the only finish reason, and with usage at most after it. -/
def FinishesOnce (chunks : List (StreamChunk U)) : Prop :=
  ∃ before finish after reason, chunks = before ++ finish :: after ∧ Unfinished before ∧
    finish.choices = [⟨{}, some reason⟩] ∧ ∀ chunk ∈ after, chunk.choices = []

theorem calls_finishChunks (response : Option (OpenAIResponsesResponse U))
    (s : ResponsesToChatStreamState U) : calls (s.finishChunks response) = [] := by
  unfold finishChunks
  split <;> simp [calls, makeChunk]

variable {response : Option (OpenAIResponsesResponse U)}

/-- The parts of the end: the output that the last event brings, the last flush, and the finish. -/
theorem endStream_chunks {acc : Sending U}
    (hacc : (s.applyResponseMetadata response).terminalOutputChunks response = acc)
    (hop : acc.1.finalized = false) {flushed : Sending U}
    (hflu : { acc.1 with finalized := true }.flushAllPendingTools = flushed) :
    (s.endStream response).2 = acc.2 ++ (flushed.2 ++ flushed.1.ensureStart.2 ++
      flushed.1.ensureStart.1.finishChunks response) := by
  dsimp only [endStream, finalize, andThen]
  rw [hacc, if_neg (Bool.eq_false_iff.mp hop), hflu]

/-- **The end of the stream**, when the last event repeats no tool call. -/
theorem delivered_endStream (h : Delivered items told order s sent) (hop : s.finalized = false)
    (hto : ∀ n, n ∉ order → told.arguments n = [])
    (hno : ∀ r ∈ response, ∀ item ∈ r.output, isResponsesToolOutputType item.type = false) :
    SentUnder items told order (sent ++ calls (s.endStream response).2) ∧
      FinishesOnce (s.endStream response).2 := by
  obtain ⟨hma, hfin⟩ := maps_applyResponseMetadata response s
  have hout := silent_terminalOutputChunks hno (s.applyResponseMetadata response)
  let acc := (s.applyResponseMetadata response).terminalOutputChunks response
  have hacc :
      Delivered items told order { acc.1 with finalized := true } (sent ++ calls acc.2) := by
    refine ⟨(h.filed.of_maps hma).of_maps hout.maps, ?_⟩
    rw [hout.calls, append_nil]
    exact h.sentUnder
  obtain ⟨hdel, hunf⟩ := delivered_flushAll hacc hto
  let flushed := { acc.1 with finalized := true }.flushAllPendingTools
  have hstr := silent_ensureStart flushed.1
  have hcl : acc.1.finalized = false := (hout.finalized.trans hfin).trans hop
  rw [endStream_chunks rfl hcl rfl]
  constructor
  · rw [calls_append, calls_append, calls_append, hstr.calls, calls_finishChunks,
      append_nil, append_nil, ← append_assoc]
    exact hdel.sentUnder
  · refine ⟨acc.2 ++ (flushed.2 ++ flushed.1.ensureStart.2), _, _, _,
      by rw [← append_assoc]; rfl, ?_, rfl, ?_⟩
    · exact hout.unfinished.append (hunf.append hstr.unfinished)
    intro chunk hck
    split at hck
    · rw [mem_singleton.mp hck]
    · cases hck

theorem delivered_new (model : String) (created : Int) (includeUsage : Bool) (usage : U) :
    Delivered items {} [] (newResponsesToChatStreamState model created includeUsage usage) [] := by
  refine ⟨⟨nodup_nil, rfl, ?_, ?_, ?_, ?_, ?_, ?_, ?_⟩, ⟨?_, ?_, ?_⟩⟩
  all_goals simp [newResponsesToChatStreamState]

theorem FinishesOnce.append {cs cs' : List (StreamChunk U)} (h : Unfinished cs)
    (h' : FinishesOnce cs') : FinishesOnce (cs ++ cs') := by
  obtain ⟨before, finish, after, reason, rfl, hbef, hfin, haft⟩ := h'
  exact ⟨cs ++ before, finish, after, reason, (append_assoc ..).symm, h.append hbef, hfin, haft⟩

end Deliver

/-! ## The stream -/

/-- The stream of an upstream: its items have ids of their own, every event is one of theirs, every
item comes, and the last event ends it. -/
structure ToolStream (items : Int → UpstreamItem) (events : List (ResponsesStreamResponse U))
    (last : ResponsesStreamResponse U) : Prop where
  ids : ∀ m n, (items m).id = (items n).id → (items m).id ≠ "" → m = n
  fits : FitsFrom items {} events
  added : ∀ n, (∃ e ∈ events, Touches n e) → ∃ e ∈ events, IsItem n e
  ending : last.kind = .terminal

section Stream
variable {items : Int → UpstreamItem} {events : List (ResponsesStreamResponse U)}
  {last : ResponsesStreamResponse U} {s : ResponsesToChatStreamState U}
  {sent : List ToolCallResponse}

section
variable (h : ToolStream items events last)
include h

section
variable (hdel : Delivered items (events.foldl note {}) (events.foldl noteOrder []) s sent)
include hdel

/-- A tool is one of an item that came, and every item that came has one. -/
theorem ToolStream.mem_order
    (n : Int) : n ∈ events.foldl noteOrder [] ↔ ∃ e ∈ events, IsItem n e := by
  constructor
  · intro hn
    exact h.added n ((mem_run_noteOrder hn).resolve_left not_mem_nil)
  · intro hit
    exact (hdel.filed.named n ((named_run events n).mpr (.inr hit))).1

/-- Nothing is told of an output index without a tool. -/
theorem ToolStream.arguments_eq_nil (n : Int) (hn : n ∉ events.foldl noteOrder []) :
    (events.foldl note {}).arguments n = [] := by
  refine arguments_run fun e hmem htou => hn ?_
  exact (h.mem_order hdel n).mpr (h.added n ⟨e, hmem, htou⟩)

theorem ToolStream.named (n : Int) (hn : n ∈ events.foldl noteOrder []) :
    (events.foldl note {}).named n = true :=
  (named_run events n).mpr (.inr ((h.mem_order hdel n).mp hn))

end

end

end Stream

theorem convertEvents_concat {s : ResponsesToChatStreamState U}
    {events : List (ResponsesStreamResponse U)} {last : ResponsesStreamResponse U}
    {acc r : Sending U} (hrun : events.foldlM convertNext (s, []) = .ok acc)
    (hla : responsesStreamEventToChatChunks last acc.1 = .ok r) :
    convertEvents s (events ++ [last]) = .ok (r.1, acc.2 ++ r.2) := by
  show (events ++ [last]).foldlM convertNext (s, []) = _
  rw [foldlM_append, hrun]
  show ([last].foldlM convertNext acc) = _
  rw [foldlM_cons, convertNext, hla]
  rfl

/-- The final arguments of an item. -/
def finalArguments (events : List (ResponsesStreamResponse U)) (n : Int) : Bytes :=
  (events.foldl note {}).arguments n

/-- **Every call once**: the items have the tool indices 0, 1, 2 and so on, one each, and under it
the client gets the name once and the final arguments. -/
def EachCallOnce (items : Int → UpstreamItem) (events : List (ResponsesStreamResponse U))
    (chunks : List (StreamChunk U)) : Prop :=
  ∃ order : List Int, order.Nodup ∧ (∀ n, n ∈ order ↔ ∃ e ∈ events, IsItem n e) ∧
    (∀ call ∈ calls chunks, call.index < order.length) ∧
    ∀ i n, order[i]? = some n → namesAt i (calls chunks) = [(items n).name] ∧
      argsAt i (calls chunks) = finalArguments events n

/-- **Every upstream function call reaches the client once**, if the last event repeats none. -/
theorem calls_reach_client {items : Int → UpstreamItem} {events : List (ResponsesStreamResponse U)}
    {last : ResponsesStreamResponse U} (h : ToolStream items events last)
    (hrepeats : ∀ r ∈ last.response, ∀ item ∈ r.output, isResponsesToolOutputType item.type = false)
    (model : String) (created : Int) (includeUsage : Bool) (usage : U) :
    ∃ s chunks, convertEvents (newResponsesToChatStreamState model created includeUsage usage)
        (events ++ [last]) = .ok (s, chunks) ∧
      EachCallOnce items events chunks ∧ FinishesOnce chunks := by
  obtain ⟨acc, hrun, hdel, hfin, hunf⟩ :=
    delivered_run h.ids (newResponsesToChatStreamState model created includeUsage usage, [])
      (delivered_new model created includeUsage usage) unfinished_nil h.fits
  have hno : ∀ r ∈ last.terminalResponse, ∀ item ∈ r.output,
      isResponsesToolOutputType item.type = false := by
    intro r hr item hit
    obtain ⟨response, hres, hmem⟩ := mem_terminalResponse hr hit
    exact hrepeats response hres item hmem
  obtain ⟨r, hla, hhandled⟩ := convert_handled last acc.1 (by simp [h.ending])
  rw [h.ending] at hhandled
  obtain rfl : r = acc.1.endStream last.terminalResponse := hhandled
  obtain ⟨hse, hfn⟩ :=
    delivered_endStream hdel hfin (h.arguments_eq_nil hdel) hno
  refine ⟨_, _, convertEvents_concat hrun hla, ?_, hfn.append hunf⟩
  refine ⟨events.foldl noteOrder [], hdel.filed.nodup, h.mem_order hdel, ?_, ?_⟩
  · rw [calls_append]
    exact hse.indices
  intro i n hi
  rw [calls_append]
  refine ⟨?_, hse.arguments i n hi⟩
  rw [hse.names i n hi]
  exact if_pos (h.named hdel n (mem_of_getElem? hi))

/-- The events of two calls whose deltas cross, the second of which starts before its item. -/
def twoCalls : List (ResponsesStreamResponse Unit) := [
  { type := .outputItemAdded, outputIndex := some 0,
    item := some { id := "a", callId := "call_a", name := "f" } },
  { type := .functionArgsDelta, outputIndex := some 1, itemID := "b", delta := [91] },
  { type := .functionArgsDelta, outputIndex := some 0, itemID := "a", delta := [91, 93] },
  { type := .outputItemAdded, outputIndex := some 1,
    item := some { id := "b", callId := "call_b", name := "g" } },
  { type := .functionArgsDone, outputIndex := some 0, itemID := "a" },
  { type := .outputItemDone, outputIndex := some 1,
    item := some { id := "b", callId := "call_b", name := "g", arguments := [91, 93] } }]

/-- The items of `twoCalls`. -/
def twoItems (n : Int) : UpstreamItem :=
  if n = 0 then ⟨"a", "f"⟩ else if n = 1 then ⟨"b", "g"⟩ else ⟨"", ""⟩

theorem toolStream_twoCalls {last : ResponsesStreamResponse Unit} (h : last.kind = .terminal) :
    ToolStream twoItems twoCalls last := by
  refine ⟨?_, ?_, ?_, h⟩
  · intro m n
    unfold twoItems
    split <;> split <;> (try split) <;> (try split) <;> simp_all
  · refine ⟨⟨0, ?_⟩, ⟨1, ?_⟩, ⟨0, ?_⟩, ⟨1, ?_⟩, ⟨0, ?_⟩, ⟨1, ?_⟩, trivial⟩
    all_goals
      unfold Carries
      decide +kernel
  · rintro n ⟨e, he, hout, -⟩
    have hidx : n = 0 ∨ n = 1 := by
      simp only [twoCalls, mem_cons, not_mem_nil, or_false] at he
      rcases he with rfl | rfl | rfl | rfl | rfl | rfl <;> simp_all
    rcases hidx with rfl | rfl
    · exact ⟨_, mem_cons_self, rfl, _, rfl⟩
    · exact ⟨twoCalls.get ⟨3, by decide⟩, get_mem _ _, rfl, _, rfl⟩

/-- Two calls whose deltas cross. -/
theorem calls_reach_client_twoCalls :
    ∃ s chunks, convertEvents (newResponsesToChatStreamState "m" 0 false ())
        (twoCalls ++ [{ type := .completed }]) = .ok (s, chunks) ∧
      EachCallOnce twoItems twoCalls chunks ∧ FinishesOnce chunks :=
  calls_reach_client (toolStream_twoCalls rfl) (by simp) "m" 0 false ()

/-- **Output that the last event repeats is sent twice.**  The repeated item is looked up by its id,
but its tool is under its output index. -/
theorem repeated_output_sent_twice :
    let last : ResponsesStreamResponse Unit := { type := .completed, response := some { output := [
      { id := "a", callId := "call_a", name := "f", arguments := [91, 93] },
      { id := "b", callId := "call_b", name := "g", arguments := [91, 93] }] } }
    ToolStream twoItems twoCalls last ∧
      ∃ s chunks, convertEvents (newResponsesToChatStreamState "m" 0 false ())
          (twoCalls ++ [last]) = .ok (s, chunks) ∧
        calls chunks = [⟨0, "call_a", "f", []⟩, ⟨0, "call_a", "", [91, 93]⟩,
          ⟨1, "call_b", "g", [91]⟩, ⟨1, "call_b", "", [93]⟩,
          ⟨2, "call_a", "f", [91, 93]⟩, ⟨3, "call_b", "g", [91, 93]⟩] ∧
        ¬EachCallOnce twoItems twoCalls chunks := by
  intro last
  refine ⟨toolStream_twoCalls rfl, _, _, rfl, ?_, ?_⟩
  · decide +kernel
  rintro ⟨order, hnd, hite, hidx, -⟩
  -- the items are two, so that there is no tool index 3
  have hsub : order ⊆ [0, 1] := by
    intro n hn
    obtain ⟨e, he, hout, -⟩ := (hite n).mp hn
    simp only [twoCalls, mem_cons, not_mem_nil, or_false] at he
    rcases he with rfl | rfl | rfl | rfl | rfl | rfl <;> simp_all
  have hlen : order.length ≤ 2 := (subperm_of_subset hnd hsub).length_le
  have hthr := hidx ⟨3, "call_b", "g", [91, 93]⟩ (by decide +kernel)
  dsimp only at hthr
  omega

end ResponsesStream

end NewApi
