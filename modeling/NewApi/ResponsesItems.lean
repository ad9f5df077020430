import NewApi.ChatToResponses
import NewApi.ItemLog

/-! # Consistent items

The events of a Responses stream are read as the log of its items (`SentEvent.logEntry`).  The state
of the conversion keeps the items by reference (`StreamState.item?`), and each of its functions
opens, tells or closes items as `ItemLog` allows; so the log is consistent (`Tracks`).

The conversion lets a tool take an id from any of its calls, though, while the item was added and
told under the id of the first: the stream is consistent (`items_consistent`) when the ids of a
tool do not change, and not in general (`late_id_renames_item`).  A stream without chunks has no
`response.created` (`no_chunks_not_created`). -/
namespace NewApi.ChatToResponses
open Function ItemLog List Option
variable {U : Type}

/-! ## The log of a stream -/

/-- The entry of an event about an item; the events about the whole response have none. -/
def SentEvent.logEntry (e : SentEvent U) : Option Entry :=
  match e.type with
  | .outputItemAdded =>
      e.outputIndex.bind fun i => e.item.map fun item => ⟨i, item.id, .added⟩
  | .outputTextDelta | .reasoningSummaryDelta | .functionArgsDelta =>
      e.outputIndex.map fun i => ⟨i, e.itemID, .told e.delta⟩
  | .outputTextDone | .reasoningSummaryDone | .functionArgsDone =>
      e.outputIndex.map fun i => ⟨i, e.itemID, .finishing⟩
  | .outputItemDone =>
      e.outputIndex.bind fun i => e.item.map fun item => ⟨i, item.id, .done⟩
  | .created | .completed | .incomplete => none

/-- The event ends the stream. -/
def SentEvent.isTerminal (e : SentEvent U) : Bool :=
  e.type = .completed || e.type = .incomplete

/-- What an item of the response says. -/
def OutputItem.words (item : OutputItem) : String :=
  match item.type with
  | .functionCall => item.arguments
  | _ => String.join (item.content.map (·.text))

/-- The item that a tool is. -/
def StreamTool.item (tool : StreamTool) : Item :=
  ⟨tool.outputIndex, tool.id, tool.arguments, tool.done⟩

namespace StreamState

/-- The item that the state keeps for a reference. -/
def item? (s : StreamState U) : OutputRef → Option Item
  | .message =>
      if s.textStarted then some ⟨s.textOutputIndex, s.messageID, s.text, s.textDone⟩ else none
  | .reasoning =>
      if s.reasoningStarted then
        some ⟨s.reasoningIndex, s.reasoningID, s.reasoning, s.reasoningDone⟩
      else none
  | .tool k => (s.toolsByIndex.find? k).map StreamTool.item

theorem item?_store (tool : StreamTool) (s : StreamState U) : (s.store tool).item? =
      update s.item? (.tool tool.chatIndex) (some tool.item) := by
  funext r
  cases r with
  | message | reasoning => rfl
  | tool k =>
    simp only [item?, store, Db.Table.find?_put, update_apply, OutputRef.tool.injEq]
    split <;> rfl

/-! ## What keeps the log consistent -/

/-- The state keeps the items that the events tell. -/
structure Logged (s : StreamState U) (events : List (SentEvent U)) : Prop where
  ledger : ∃ l : Ledger OutputRef,
    l.log = events.filterMap (·.logEntry) ∧ l.Shows s.outputOrder s.item?
  entries : ∀ e ∈ events, e.logEntry.isSome
  next : s.nextOutputIndex = s.outputOrder.length

/-- All items are finished, or none is. -/
def AllClosed (closed : Bool) (s : StreamState U) : Prop :=
  ∀ r item, s.item? r = some item → item.closed = closed

section
variable {s s' : StreamState U} {events : List (SentEvent U)} {r : OutputRef}

section
variable (h : Logged s events)
include h

theorem Logged.entries_append {es : List (SentEvent U)}
    (hes : ∀ e ∈ es, e.logEntry.isSome) : ∀ e ∈ events ++ es, e.logEntry.isSome := by
  intro e he
  rcases mem_append.mp he with he | he
  · exact h.entries e he
  · exact hes e he

/-- A new item. -/
theorem Logged.opening (hr : s.item? r = none) {id : String}
    {e : SentEvent U} (hent : e.logEntry = some ⟨s.nextOutputIndex, id, .added⟩)
    (hord : s'.outputOrder = s.outputOrder ++ [r])
    (hnext : s'.nextOutputIndex = s.nextOutputIndex + 1)
    (hit : s'.item? = update s.item? r (some ⟨s.nextOutputIndex, id, "", false⟩)) :
    Logged s' (events ++ [e]) := by
  obtain ⟨l, hlog, hsho⟩ := h.ledger
  obtain ⟨l', hlog', hsho'⟩ := hsho.opening hr id
  refine ⟨⟨l', ?_, ?_⟩, h.entries_append (by simp [hent]), ?_⟩
  · rw [hlog', hlog, filterMap_append, filterMap_cons_some hent, h.next]
    rfl
  · rw [hord, hit, h.next]
    exact hsho'
  · rw [hnext, hord, h.next, length_append, length_singleton]

/-- A piece of an open item. -/
theorem Logged.telling {item : Item} (hr : s.item? r = some item)
    (hop : item.closed = false) {text : String} {e : SentEvent U}
    (hent : e.logEntry = some ⟨item.index, item.id, .told text⟩)
    (hord : s'.outputOrder = s.outputOrder) (hnext : s'.nextOutputIndex = s.nextOutputIndex)
    (hit : s'.item? = update s.item? r (some { item with text := item.text ++ text })) :
    Logged s' (events ++ [e]) := by
  obtain ⟨l, hlog, hsho⟩ := h.ledger
  obtain ⟨l', hlog', hsho'⟩ := hsho.telling hr hop text
  refine ⟨⟨l', ?_, ?_⟩, h.entries_append (by simp [hent]), ?_⟩
  · rw [hlog', hlog, filterMap_append, filterMap_cons_some hent]
    rfl
  · rw [hord, hit]
    exact hsho'
  · rw [hnext, hord, h.next]

/-- The end of an open item. -/
theorem Logged.closing {item : Item} (hr : s.item? r = some item)
    (hop : item.closed = false) {e e' : SentEvent U}
    (hent : e.logEntry = some ⟨item.index, item.id, .finishing⟩)
    (hent' : e'.logEntry = some ⟨item.index, item.id, .done⟩)
    (hord : s'.outputOrder = s.outputOrder) (hnext : s'.nextOutputIndex = s.nextOutputIndex)
    (hit : s'.item? = update s.item? r (some { item with closed := true })) :
    Logged s' (events ++ [e, e']) := by
  obtain ⟨l, hlog, hsho⟩ := h.ledger
  obtain ⟨l', hlog', hsho'⟩ := hsho.closing hr hop
  refine ⟨⟨l', ?_, ?_⟩, h.entries_append (by simp [hent, hent']), ?_⟩
  · rw [hlog', hlog, filterMap_append, filterMap_cons_some hent, filterMap_cons_some hent']
    rfl
  · rw [hord, hit]
    exact hsho'
  · rw [hnext, hord, h.next]

/-- A change that the items do not show. -/
theorem Logged.quiet (hord : s'.outputOrder = s.outputOrder)
    (hnext : s'.nextOutputIndex = s.nextOutputIndex) (hit : s'.item? = s.item?) :
    Logged s' events := by
  refine ⟨?_, h.entries, ?_⟩
  · rw [hord, hit]
    exact h.ledger
  · rw [hnext, hord, h.next]

end

theorem AllClosed.update {closed : Bool} (h : AllClosed closed s) {item : Item}
    (hit : s'.item? = update s.item? r (some item)) (hcl : item.closed = closed) :
    AllClosed closed s' := by
  intro r' item' hr'
  rw [hit, update_apply] at hr'
  split at hr'
  · cases hr'
    exact hcl
  · exact h r' item' hr'

end

/-! ## Deltas -/

/-- **The state between chunks.**  `ids` are the ids of the tools and `before` are the calls so
far; the items are all open or all closed. -/
structure Tracks (ids : Int → String) (before : List ToolCallDelta) (closed : Bool)
    (s : StreamState U) (events : List (SentEvent U)) : Prop where
  id_ne : s.id ≠ ""
  created : s.sentCreated = true
  live : s.finalized = false
  logged : Logged s events
  closed_eq : AllClosed closed s
  text_new : s.textStarted = false → s.text = "" ∧ s.textDone = false
  reasoning_new : s.reasoningStarted = false → s.reasoning = "" ∧ s.reasoningDone = false
  named : ∀ k tool, s.toolsByIndex.find? k = some tool → tool.id = ids k
  seen : ∀ k, s.toolsByIndex.find? k = none → ∀ call ∈ before, chatIndexOf call ≠ k

section
variable {ids : Int → String} {before : List ToolCallDelta} {s : StreamState U}
  {events : List (SentEvent U)}

/-- A change of the message alone. -/
theorem item?_message (s : StreamState U) {started done : Bool} {index next : Nat} {text : String}
    {order : List OutputRef} (hstr : started = true) :
    ({ s with textStarted := started, textOutputIndex := index, text := text, textDone := done,
              nextOutputIndex := next, outputOrder := order } : StreamState U).item? =
      update s.item? .message (some ⟨index, s.messageID, text, done⟩) := by
  funext r
  cases r with
  | message => simp [item?, hstr, messageID]
  | reasoning | tool k => rfl

/-- A change of the reasoning alone. -/
theorem item?_reasoning (s : StreamState U) {started done : Bool} {index next : Nat}
    {reasoning : String} {order : List OutputRef} (hstr : started = true) :
    ({ s with reasoningStarted := started, reasoningIndex := index, reasoning := reasoning,
              reasoningDone := done, nextOutputIndex := next, outputOrder := order } :
        StreamState U).item? =
      update s.item? .reasoning (some ⟨index, s.reasoningID, reasoning, done⟩) := by
  funext r
  cases r with
  | message => rfl
  | reasoning => simp [item?, hstr, reasoningID]
  | tool k => rfl

section
variable (h : Tracks ids before false s events)
include h

theorem tracks_startText : Tracks ids before false s.startText.1 (events ++ s.startText.2) ∧
      s.startText.1.textStarted = true := by
  by_cases hstr : s.textStarted = true
  · rw [startText, if_pos hstr, append_nil]
    exact ⟨h, hstr⟩
  have hno : s.item? .message = none := by simp [item?, hstr]
  obtain ⟨htx, hdn⟩ := h.text_new (by simpa using hstr)
  have hit : s.startText.1.item? =
      update s.item? .message (some ⟨s.nextOutputIndex, s.messageID, "", false⟩) := by
    rw [startText, if_neg hstr, ← htx, ← hdn]
    exact item?_message s rfl
  rw [startText, if_neg hstr] at hit ⊢
  refine ⟨?_, rfl⟩
  exact
    { h with
      logged := h.logged.opening hno rfl rfl rfl hit
      closed_eq := h.closed_eq.update hit rfl
      text_new := nofun }

theorem tracks_appendTextDelta (delta : String) :
    Tracks ids before false (s.appendTextDelta delta).1
      (events ++ (s.appendTextDelta delta).2) := by
  obtain ⟨hstr, hst⟩ := tracks_startText h
  unfold appendTextDelta
  generalize s.startText = p at hstr hst ⊢
  obtain ⟨s₁, added⟩ := p
  have hso : s₁.item? .message =
      some ⟨s₁.textOutputIndex, s₁.messageID, s₁.text, s₁.textDone⟩ := if_pos hst
  have hop : s₁.textDone = false := hstr.closed_eq _ _ hso
  have hit : ({ s₁ with text := s₁.text ++ delta } : StreamState U).item? = update s₁.item?
      .message (some ⟨s₁.textOutputIndex, s₁.messageID, s₁.text ++ delta, s₁.textDone⟩) :=
    item?_message s₁ hst
  rw [← append_assoc]
  exact
    { hstr with
      logged := hstr.logged.telling hso hop rfl rfl rfl hit
      closed_eq := hstr.closed_eq.update hit hop
      text_new := fun hnot => absurd (hst.symm.trans hnot) (by decide) }

theorem tracks_startReasoning :
    Tracks ids before false s.startReasoning.1 (events ++ s.startReasoning.2) ∧
      s.startReasoning.1.reasoningStarted = true := by
  by_cases hstr : s.reasoningStarted = true
  · rw [startReasoning, if_pos hstr, append_nil]
    exact ⟨h, hstr⟩
  have hno : s.item? .reasoning = none := by simp [item?, hstr]
  obtain ⟨htx, hdn⟩ := h.reasoning_new (by simpa using hstr)
  have hit : s.startReasoning.1.item? =
      update s.item? .reasoning (some ⟨s.nextOutputIndex, s.reasoningID, "", false⟩) := by
    rw [startReasoning, if_neg hstr, ← htx, ← hdn]
    exact item?_reasoning s rfl
  rw [startReasoning, if_neg hstr] at hit ⊢
  refine ⟨?_, rfl⟩
  exact
    { h with
      logged := h.logged.opening hno rfl rfl rfl hit
      closed_eq := h.closed_eq.update hit rfl
      reasoning_new := nofun }

theorem tracks_appendReasoningDelta (delta : String) :
    Tracks ids before false (s.appendReasoningDelta delta).1
      (events ++ (s.appendReasoningDelta delta).2) := by
  obtain ⟨hstr, hst⟩ := tracks_startReasoning h
  unfold appendReasoningDelta
  generalize s.startReasoning = p at hstr hst ⊢
  obtain ⟨s₁, added⟩ := p
  have hso : s₁.item? .reasoning =
      some ⟨s₁.reasoningIndex, s₁.reasoningID, s₁.reasoning, s₁.reasoningDone⟩ := if_pos hst
  have hop : s₁.reasoningDone = false := hstr.closed_eq _ _ hso
  have hit : ({ s₁ with reasoning := s₁.reasoning ++ delta } : StreamState U).item? =
      update s₁.item? .reasoning
        (some ⟨s₁.reasoningIndex, s₁.reasoningID, s₁.reasoning ++ delta, s₁.reasoningDone⟩) :=
    item?_reasoning s₁ hst
  rw [← append_assoc]
  exact
    { hstr with
      logged := hstr.logged.telling hso hop rfl rfl rfl hit
      closed_eq := hstr.closed_eq.update hit hop
      reasoning_new := fun hnot => absurd (hst.symm.trans hnot) (by decide) }

theorem tracks_openTool {k : Int} {id name : String}
    (hfd : s.toolsByIndex.find? k = none) (hid : id = ids k) {e : SentEvent U}
    (hent : e.logEntry = some ⟨s.nextOutputIndex, id, .added⟩) : Tracks ids before false
      ((s.nextIndex (.tool k)).1.store
        { chatIndex := k, outputIndex := s.nextOutputIndex, id := id, name := name })
      (events ++ [e]) := by
  have hno : s.item? (.tool k) = none := by simp [item?, hfd]
  have hit : ((s.nextIndex (.tool k)).1.store
        { chatIndex := k, outputIndex := s.nextOutputIndex, id := id, name := name }).item? =
      update s.item? (.tool k) (some ⟨s.nextOutputIndex, id, "", false⟩) :=
    item?_store _ _
  have hput : ∀ j, ((s.nextIndex (.tool k)).1.store
        { chatIndex := k, outputIndex := s.nextOutputIndex, id := id,
          name := name }).toolsByIndex.find? j =
      if j = k then
        some { chatIndex := k, outputIndex := s.nextOutputIndex, id := id, name := name }
      else s.toolsByIndex.find? j := s.toolsByIndex.find?_put _
  exact
    { h with
      logged := h.logged.opening hno hent rfl rfl hit
      closed_eq := h.closed_eq.update hit rfl
      named := by
        intro j tool hj
        rw [hput] at hj
        split at hj
        · rename_i hjk
          cases hj
          rw [hjk]
          exact hid
        · exact h.named j tool hj
      seen := by
        intro j hj
        rw [hput] at hj
        split at hj
        · cases hj
        · exact h.seen j hj }

end

variable {call : ToolCallDelta}

theorem tracks_startTool (h : Tracks ids before false s events)
    (hfst : (∀ b ∈ before, chatIndexOf b ≠ chatIndexOf call) →
      firstID s.id call = ids (chatIndexOf call)) :
    Tracks ids before false (s.startTool call).1 (events ++ (s.startTool call).2.2) ∧
      (s.startTool call).1.toolsByIndex.find? (chatIndexOf call) = some (s.startTool call).2.1 := by
  cases hfd : s.toolsByIndex.find? (chatIndexOf call) with
  | some tool =>
    simp only [startTool, hfd, append_nil]
    exact ⟨h, trivial⟩
  | none =>
    have hid := hfst (h.seen _ hfd)
    simp only [startTool, hfd, nextIndex]
    generalize firstID s.id call = id at hid ⊢
    refine ⟨tracks_openTool h hfd hid rfl, ?_⟩
    rw [store, Db.Table.find?_put, if_pos rfl]

variable {tool : StreamTool}

/-- All but the id and the name stays. -/
theorem rename_rest : (rename call tool).chatIndex = tool.chatIndex ∧
    (rename call tool).outputIndex = tool.outputIndex ∧
    (rename call tool).arguments = tool.arguments ∧ (rename call tool).done = tool.done := by
  simp [rename]

theorem rename_id (hid : trimSpace call.id = "" ∨ trimSpace call.id = tool.id) :
    (rename call tool).id = tool.id := by
  simp only [rename]
  split
  · rename_i hne
    exact hid.resolve_left hne
  · rfl

theorem ids_store (h : Tracks ids before false s events)
    (hfd : s.toolsByIndex.find? (chatIndexOf call) = some tool)
    (tool' : StreamTool) (hidx : tool'.chatIndex = tool.chatIndex) (hid : tool'.id = tool.id) :
    (∀ k t, (s.store tool').toolsByIndex.find? k = some t → t.id = ids k) ∧
      ∀ k, (s.store tool').toolsByIndex.find? k = none →
        ∀ b ∈ before ++ [call], chatIndexOf b ≠ k := by
  have hkey : tool.chatIndex = chatIndexOf call := (s.toolsByIndex.find?_eq_some_iff.mp hfd).2
  have hput : ∀ k, (s.store tool').toolsByIndex.find? k =
      if k = chatIndexOf call then some tool' else s.toolsByIndex.find? k := by
    intro k
    rw [store, Db.Table.find?_put, hidx, hkey]
  constructor
  · intro k t hk
    rw [hput] at hk
    split at hk
    · rename_i hkk
      cases hk
      rw [hid, h.named _ _ hfd, hkk]
    · exact h.named k t hk
  · intro k hk b hb
    rw [hput] at hk
    split at hk
    · cases hk
    rename_i hkk
    rcases mem_append.mp hb with hb | hb
    · exact h.seen k hk b hb
    rw [mem_singleton.mp hb]
    exact fun heq => hkk heq.symm

theorem tracks_appendToolCallDelta (h : Tracks ids before false s events)
    (hid : trimSpace call.id = "" ∨ trimSpace call.id = ids (chatIndexOf call))
    (hfst : (∀ b ∈ before, chatIndexOf b ≠ chatIndexOf call) →
      firstID s.id call = ids (chatIndexOf call)) :
    Tracks ids (before ++ [call]) false (s.appendToolCallDelta call).1
      (events ++ (s.appendToolCallDelta call).2) := by
  obtain ⟨hstr, hfd⟩ := tracks_startTool h hfst
  rw [appendToolCallDelta]
  generalize hs₁ : s.startTool call = started at hstr hfd
  obtain ⟨s₁, tool, opened⟩ := started
  dsimp only at hstr hfd ⊢
  have hkey : tool.chatIndex = chatIndexOf call :=
    (s₁.toolsByIndex.find?_eq_some_iff.mp hfd).2
  have hname : tool.id = ids (chatIndexOf call) := hstr.named _ _ hfd
  have hren : (rename call tool).id = tool.id := rename_id (hname ▸ hid)
  have hso : s₁.item? (.tool (chatIndexOf call)) = some tool.item := by
    simp [item?, hfd]
  have hop : tool.done = false := hstr.closed_eq _ _ hso
  by_cases har : call.arguments = ""
  · obtain ⟨hnam, hse⟩ :=
      ids_store hstr hfd (rename call tool) rename_rest.1 hren
    have hit : (s₁.store (rename call tool)).item? = s₁.item? := by
      have hsm : (rename call tool).item = tool.item := by
        simp only [StreamTool.item, hren, rename_rest]
      rw [item?_store, rename_rest.1, hkey, hsm, ← hso, update_eq_self]
    rw [if_pos har]
    exact
      { hstr with
        logged := hstr.logged.quiet rfl rfl hit
        closed_eq := fun r item hr => hstr.closed_eq r item (hit ▸ hr)
        named := hnam
        seen := hse }
  · let tool' : StreamTool :=
      { rename call tool with arguments := (rename call tool).arguments ++ call.arguments }
    have hidx : tool'.chatIndex = tool.chatIndex := by simp only [tool', rename_rest]
    have hid' : tool'.id = tool.id := by simp only [tool', hren]
    obtain ⟨hnam, hse⟩ := ids_store hstr hfd tool' hidx hid'
    have hit : (s₁.store tool').item? =
        update s₁.item? (.tool (chatIndexOf call))
          (some { tool.item with text := tool.item.text ++ call.arguments }) := by
      have hsm : tool'.item = { tool.item with text := tool.item.text ++ call.arguments } := by
        simp only [StreamTool.item, tool', hren, rename_rest]
      rw [item?_store, hidx, hkey, hsm]
    let event : SentEvent U :=
      { type := .functionArgsDelta, outputIndex := some (rename call tool).outputIndex,
        itemID := (rename call tool).id, delta := call.arguments }
    have hent : event.logEntry = some ⟨tool.item.index, tool.item.id, .told call.arguments⟩ := by
      simp only [SentEvent.logEntry, event, hren, rename_rest, map_some, StreamTool.item]
    rw [if_neg har, ← append_assoc]
    exact
      { hstr with
        logged := hstr.logged.telling hso hop hent rfl rfl hit
        closed_eq := hstr.closed_eq.update hit hop
        named := hnam
        seen := hse }

/-- The calls of a stream keep to ids: each has none or that of its tool, and the first call of a
tool gives it. -/
def KeepsIDs (id : String) (ids : Int → String) (before calls : List ToolCallDelta) : Prop :=
  ∀ pre call post, calls = pre ++ call :: post →
    (trimSpace call.id = "" ∨ trimSpace call.id = ids (chatIndexOf call)) ∧
      ((∀ b ∈ before ++ pre, chatIndexOf b ≠ chatIndexOf call) →
        firstID id call = ids (chatIndexOf call))

variable {calls : List ToolCallDelta} {id : String}

theorem KeepsIDs.head (h : KeepsIDs id ids before (call :: calls)) :
    (trimSpace call.id = "" ∨ trimSpace call.id = ids (chatIndexOf call)) ∧
      ((∀ b ∈ before, chatIndexOf b ≠ chatIndexOf call) →
        firstID id call = ids (chatIndexOf call)) := by
  simpa using h [] call calls rfl

variable {calls more : List ToolCallDelta}

theorem KeepsIDs.left
    (h : KeepsIDs id ids before (calls ++ more)) : KeepsIDs id ids before calls := by
  intro pre call post heq
  exact h pre call (post ++ more) (by rw [heq, append_assoc, cons_append])

theorem KeepsIDs.right
    (h : KeepsIDs id ids before (calls ++ more)) : KeepsIDs id ids (before ++ calls) more := by
  intro pre call post heq
  have := h (calls ++ pre) call post (by rw [heq, append_assoc])
  rwa [← append_assoc] at this

theorem id_startTool (call : ToolCallDelta) (s : StreamState U) :
    (s.startTool call).1.id = s.id := by
  simp only [startTool]
  split <;> rfl

theorem id_appendToolCallDelta (call : ToolCallDelta) (s : StreamState U) :
    (s.appendToolCallDelta call).1.id = s.id := by
  by_cases har : call.arguments = ""
  · simp only [appendToolCallDelta, if_pos har, store, id_startTool]
  · simp only [appendToolCallDelta, if_neg har, store, id_startTool]

theorem tracks_appendToolCallDeltas
    (h : Tracks ids before false s events) (hids : KeepsIDs s.id ids before calls) :
    Tracks ids (before ++ calls) false (appendToolCallDeltas calls s).1
      (events ++ (appendToolCallDeltas calls s).2) := by
  induction calls generalizing s before events with
  | nil => simpa [appendToolCallDeltas] using h
  | cons call calls ih =>
    have hst := tracks_appendToolCallDelta h hids.head.1 hids.head.2
    have hids' : KeepsIDs (s.appendToolCallDelta call).1.id ids (before ++ [call]) calls := by
      have hids : KeepsIDs s.id ids before ([call] ++ calls) := hids
      rw [id_appendToolCallDelta]
      exact hids.right
    have hre := ih hst hids'
    simp only [appendToolCallDeltas]
    simpa [append_assoc] using hre

theorem id_appendReasoningDelta (delta : String) (s : StreamState U) :
    (s.appendReasoningDelta delta).1.id = s.id := by
  simp only [appendReasoningDelta, startReasoning]
  split <;> rfl

theorem id_appendTextDelta (delta : String) (s : StreamState U) :
    (s.appendTextDelta delta).1.id = s.id := by
  simp only [appendTextDelta, startText]
  split <;> rfl

theorem id_appendToolCallDeltas (calls : List ToolCallDelta) (s : StreamState U) :
    (appendToolCallDeltas calls s).1.id = s.id := by
  induction calls generalizing s with
  | nil => rfl
  | cons call calls ih =>
    simp only [appendToolCallDeltas]
    rw [ih, id_appendToolCallDelta]

/-- **What a delta says keeps the items consistent.** -/
theorem tracks_appendDelta {delta : ChatDelta} (h : Tracks ids before false s events)
    (hids : KeepsIDs s.id ids before delta.toolCalls) :
    Tracks ids (before ++ delta.toolCalls) false (s.appendDelta delta).1
      (events ++ (s.appendDelta delta).2) ∧ (s.appendDelta delta).1.id = s.id := by
  -- the reasoning, then the text; either may be missing
  obtain ⟨s₁, events₁, hreason, h₁, hid₁⟩ : ∃ s₁ events₁,
      (if delta.getReasoningContent ≠ "" then s.appendReasoningDelta delta.getReasoningContent
        else (s, [])) = (s₁, events₁) ∧
      Tracks ids before false s₁ (events ++ events₁) ∧ s₁.id = s.id := by
    split
    · exact ⟨_, _, rfl, tracks_appendReasoningDelta h _, id_appendReasoningDelta _ s⟩
    · exact ⟨_, _, rfl, by simpa using h, rfl⟩
  obtain ⟨s₂, events₂, htx, h₂, hid₂⟩ : ∃ s₂ events₂,
      (if delta.getContentString ≠ "" then s₁.appendTextDelta delta.getContentString
        else (s₁, [])) = (s₂, events₂) ∧
      Tracks ids before false s₂ (events ++ events₁ ++ events₂) ∧ s₂.id = s.id := by
    split
    · exact ⟨_, _, rfl, tracks_appendTextDelta h₁ _, (id_appendTextDelta _ s₁).trans hid₁⟩
    · exact ⟨_, _, rfl, by simpa using h₁, hid₁⟩
  have h₃ := tracks_appendToolCallDeltas h₂ (hid₂ ▸ hids)
  simp only [appendDelta, hreason, htx]
  refine ⟨?_, (id_appendToolCallDeltas _ s₂).trans hid₂⟩
  simpa only [append_assoc] using h₃

/-! ## Done items -/

/-- Nothing is sent for items that are done. -/
theorem doneTools_of_done (status : String) {tools : List StreamTool}
    (hdn : ∀ tool ∈ tools, tool.done = true) (s : StreamState U) :
    doneTools status tools s = (s, []) := by
  induction tools with
  | nil => rfl
  | cons tool tools ih =>
    rw [doneTools, if_pos (hdn tool mem_cons_self)]
    exact ih fun t ht => hdn t (mem_cons_of_mem _ ht)

theorem mem_sortedTools (h : tool ∈ s.sortedTools) :
    s.toolsByIndex.find? tool.chatIndex = some tool := by
  rw [sortedTools, mem_insertionSort] at h
  exact s.toolsByIndex.find?_eq_some_iff.mpr ⟨h, rfl⟩

theorem doneDeltaEvents_of_closed (h : AllClosed true s) : s.doneDeltaEvents = (s, []) := by
  have htx : (s.textStarted && !s.textDone) = false := by
    cases hstr : s.textStarted with
    | false => rfl
    | true =>
      have hdn : s.textDone = true :=
        h .message ⟨s.textOutputIndex, s.messageID, s.text, s.textDone⟩ (if_pos hstr)
      simp [hdn]
  have hrg : (s.reasoningStarted && !s.reasoningDone) = false := by
    cases hstr : s.reasoningStarted with
    | false => rfl
    | true =>
      have hdn : s.reasoningDone = true :=
        h .reasoning ⟨s.reasoningIndex, s.reasoningID, s.reasoning, s.reasoningDone⟩ (if_pos hstr)
      simp [hdn]
  have htools : ∀ tool ∈ s.sortedTools, tool.done = true := by
    intro tool htl
    exact h (.tool tool.chatIndex) tool.item (by simp [item?, mem_sortedTools htl])
  simp only [doneDeltaEvents, doneText, doneReasoning, htx, hrg, Bool.false_eq_true,
    if_false, doneTools_of_done _ htools, append_nil]

section
variable (status : String)
include status

theorem doneText_fst (s : StreamState U) :
    (s.doneText status).1 = { s with textDone := s.textDone || s.textStarted } := by
  rw [doneText]
  split
  · rename_i hco
    have hdn : (s.textDone || s.textStarted) = true := by
      rw [Bool.and_eq_true] at hco
      rw [hco.1, Bool.or_true]
    rw [hdn]
  · rename_i hco
    have hdn : (s.textDone || s.textStarted) = s.textDone := by
      cases hstr : s.textStarted <;> simp_all
    rw [hdn]

theorem doneReasoning_fst (s : StreamState U) : (s.doneReasoning status).1 =
      { s with reasoningDone := s.reasoningDone || s.reasoningStarted } := by
  rw [doneReasoning]
  split
  · rename_i hco
    have hdn : (s.reasoningDone || s.reasoningStarted) = true := by
      rw [Bool.and_eq_true] at hco
      rw [hco.1, Bool.or_true]
    rw [hdn]
  · rename_i hco
    have hdn : (s.reasoningDone || s.reasoningStarted) = s.reasoningDone := by
      cases hstr : s.reasoningStarted <;> simp_all
    rw [hdn]

theorem logged_doneText (h : Logged s events) (hop : AllClosed false s) :
    Logged (s.doneText status).1 (events ++ (s.doneText status).2) := by
  by_cases hco : (s.textStarted && !s.textDone) = true
  · have hstr : s.textStarted = true := (Bool.and_eq_true _ _ ▸ hco).1
    have hso : s.item? .message = some ⟨s.textOutputIndex, s.messageID, s.text, s.textDone⟩ :=
      if_pos hstr
    have hit : ({ s with textDone := true } : StreamState U).item? =
        update s.item? .message
          (some ⟨s.textOutputIndex, s.messageID, s.text, true⟩) := item?_message s hstr
    rw [doneText, if_pos hco]
    exact h.closing hso (hop _ _ hso) rfl rfl rfl rfl hit
  · rw [doneText, if_neg hco, append_nil]
    exact h

theorem logged_doneReasoning (h : Logged s events)
    (hop : ∀ item, s.item? .reasoning = some item → item.closed = false) :
    Logged (s.doneReasoning status).1 (events ++ (s.doneReasoning status).2) := by
  by_cases hco : (s.reasoningStarted && !s.reasoningDone) = true
  · have hstr : s.reasoningStarted = true := (Bool.and_eq_true _ _ ▸ hco).1
    have hso : s.item? .reasoning =
        some ⟨s.reasoningIndex, s.reasoningID, s.reasoning, s.reasoningDone⟩ := if_pos hstr
    have hit : ({ s with reasoningDone := true } : StreamState U).item? =
        update s.item? .reasoning (some ⟨s.reasoningIndex, s.reasoningID, s.reasoning, true⟩) :=
      item?_reasoning s hstr
    rw [doneReasoning, if_pos hco]
    exact h.closing hso (hop _ hso) rfl rfl rfl rfl hit
  · rw [doneReasoning, if_neg hco, append_nil]
    exact h

theorem logged_doneTools {tools : List StreamTool} (h : Logged s events)
    (hfd : ∀ tool ∈ tools, s.toolsByIndex.find? tool.chatIndex = some tool)
    (hop : ∀ tool ∈ tools, tool.done = false) (hnd : (tools.map (·.chatIndex)).Nodup) :
    Logged (doneTools status tools s).1 (events ++ (doneTools status tools s).2) ∧
      (doneTools status tools s).1 =
        { s with toolsByIndex := (doneTools status tools s).1.toolsByIndex } ∧
      ∀ k, (doneTools status tools s).1.toolsByIndex.find? k =
        (s.toolsByIndex.find? k).map fun tool =>
          if k ∈ tools.map (·.chatIndex) then { tool with done := true } else tool := by
  induction tools generalizing s events with
  | nil => exact ⟨by simpa [doneTools] using h, rfl, fun k => by simp [doneTools]⟩
  | cons tool tools ih =>
    rw [map_cons, nodup_cons] at hnd
    have hse := hfd tool mem_cons_self
    have hso : s.item? (.tool tool.chatIndex) = some tool.item := by simp [item?, hse]
    have hit : (s.store { tool with done := true }).item? =
        update s.item? (.tool tool.chatIndex)
          (some { tool.item with closed := true }) := item?_store _ s
    have hput : ∀ k, (s.store { tool with done := true }).toolsByIndex.find? k =
        if k = tool.chatIndex then some { tool with done := true }
        else s.toolsByIndex.find? k := fun k => by rw [store, Db.Table.find?_put]
    have hnot := hop tool mem_cons_self
    let argsDone : SentEvent U :=
      { type := .functionArgsDone, outputIndex := some tool.outputIndex, itemID := tool.id }
    let itemDone : SentEvent U :=
      { type := .outputItemDone, outputIndex := some tool.outputIndex,
        item := some (toolOutput tool status) }
    have hst : Logged (s.store { tool with done := true }) (events ++ [argsDone, itemDone]) :=
      h.closing hso hnot rfl rfl rfl rfl hit
    have hfd' : ∀ t ∈ tools,
        (s.store { tool with done := true }).toolsByIndex.find? t.chatIndex = some t := by
      intro t ht
      have hne : t.chatIndex ≠ tool.chatIndex := fun heq =>
        hnd.1 (heq ▸ mem_map_of_mem ht)
      rw [hput, if_neg hne]
      exact hfd t (mem_cons_of_mem _ ht)
    obtain ⟨hlog, hfra, hre⟩ := ih hst hfd' (fun t ht => hop t (mem_cons_of_mem _ ht)) hnd.2
    have hneg : ¬tool.done = true := by simp [hnot]
    rw [doneTools, if_neg hneg]
    refine ⟨?_, ?_, ?_⟩
    · simpa [append_assoc] using hlog
    · rw [hfra]
      rfl
    · intro k
      dsimp only
      rw [hre, hput]
      by_cases hk : k = tool.chatIndex
      · subst hk
        have hnt : tool.chatIndex ∉ tools.map (·.chatIndex) := hnd.1
        simp [hse, hnt]
      · simp [hk]

end

/-- The message is done, then the reasoning, then every tool. -/
theorem logged_doneDeltaEvents (h : Logged s events) (hop : AllClosed false s) :
    ∃ tools : Db.Table StreamTool.chatIndex, s.doneDeltaEvents.1 = { s with
          textDone := s.textDone || s.textStarted
          reasoningDone := s.reasoningDone || s.reasoningStarted
          toolsByIndex := tools } ∧
      (∀ k, tools.find? k =
        (s.toolsByIndex.find? k).map fun tool => { tool with done := true }) ∧
      Logged s.doneDeltaEvents.1 (events ++ s.doneDeltaEvents.2) := by
  let status := s.outputStatus
  let s₁ := (s.doneText status).1
  let s₂ := (s₁.doneReasoning status).1
  have hs₁ : s₁ = { s with textDone := s.textDone || s.textStarted } := doneText_fst status s
  have hs₂ : s₂ = { s₁ with reasoningDone := s₁.reasoningDone || s₁.reasoningStarted } :=
    doneReasoning_fst status s₁
  have htools : s₂.toolsByIndex = s.toolsByIndex := by rw [hs₂, hs₁]
  have h₁ := logged_doneText status h hop
  have h₂ : Logged s₂ _ := logged_doneReasoning status h₁ fun item hit => by
    change s₁.item? .reasoning = some item at hit
    rw [hs₁] at hit
    exact hop .reasoning item hit
  -- the tools are those of the state, in the order of their indices
  have hpe : s₂.sortedTools.Perm s₂.toolsByIndex.rows := perm_insertionSort _ _
  have hnd : (s₂.sortedTools.map (·.chatIndex)).Nodup :=
    (hpe.map _).nodup_iff.mpr s₂.toolsByIndex.nodup
  have hfd : ∀ tool ∈ s₂.sortedTools, s₂.toolsByIndex.find? tool.chatIndex = some tool :=
    fun tool htl => mem_sortedTools htl
  have hnot : ∀ tool ∈ s₂.sortedTools, tool.done = false := by
    intro tool htl
    have hmem := hfd tool htl
    rw [htools] at hmem
    exact hop (.tool tool.chatIndex) tool.item (by simp [item?, hmem])
  obtain ⟨h₃, hfra, hdn⟩ := logged_doneTools status h₂ hfd hnot hnd
  have heve : s.doneDeltaEvents.2 = (s.doneText status).2 ++ (s₁.doneReasoning status).2 ++
      (doneTools status s₂.sortedTools s₂).2 := rfl
  refine ⟨(doneTools status s₂.sortedTools s₂).1.toolsByIndex, ?_, ?_, ?_⟩
  · change (doneTools status s₂.sortedTools s₂).1 = _
    rw [hfra, hs₂, hs₁]
  · intro k
    rw [hdn, htools]
    cases hk : s.toolsByIndex.find? k with
    | none => rfl
    | some tool =>
      obtain ⟨hmem, hkey⟩ := s.toolsByIndex.find?_eq_some_iff.mp hk
      have hin : k ∈ s₂.sortedTools.map (·.chatIndex) :=
        hkey ▸ mem_map_of_mem (hpe.mem_iff.mpr (htools ▸ hmem))
      rw [map_some, map_some, if_pos hin]
  · rw [heve, ← append_assoc, ← append_assoc]
    exact h₃

/-- **A finish reason finishes every item.** -/
theorem tracks_doneDeltaEvents (h : Tracks ids before false s events) :
    Tracks ids before true s.doneDeltaEvents.1 (events ++ s.doneDeltaEvents.2) ∧
      s.doneDeltaEvents.1.id = s.id := by
  obtain ⟨tools, hstt, hdn, hlog⟩ := logged_doneDeltaEvents h.logged h.closed_eq
  rw [hstt] at hlog ⊢
  refine ⟨?_, rfl⟩
  exact
    { h with
      logged := hlog
      closed_eq := by
        intro r item hr
        cases r with
        | message | reasoning =>
          simp only [item?] at hr
          split at hr
          · rename_i hstr
            cases hr
            simp [hstr]
          · cases hr
        | tool k =>
          simp only [item?, hdn, Option.map_map] at hr
          obtain ⟨tool, _, rfl⟩ := Option.map_eq_some_iff.mp hr
          rfl
      text_new := by
        intro hnot
        obtain ⟨htx, htex⟩ := h.text_new hnot
        have hnot' : s.textStarted = false := hnot
        exact ⟨htx, by simp [htex, hnot']⟩
      reasoning_new := by
        intro hnot
        obtain ⟨hrg, hrea⟩ := h.reasoning_new hnot
        have hnot' : s.reasoningStarted = false := hnot
        exact ⟨hrg, by simp [hrea, hnot']⟩
      named := by
        intro k tool hk
        rw [hdn] at hk
        obtain ⟨tool', hk', rfl⟩ := map_eq_some_iff.mp hk
        exact h.named k tool' hk'
      seen := by
        intro k hk
        rw [hdn, map_eq_none_iff] at hk
        exact h.seen k hk }

/-! ## Choices and chunks -/

/-- The choice has a finish reason. -/
def finishes (choice : ChatChoice) : Bool := trimSpace (choice.finishReason.getD "") ≠ ""

/-- The choice has no content. -/
def Silent (choice : ChatChoice) : Prop :=
  choice.delta.getReasoningContent = "" ∧ choice.delta.getContentString = "" ∧
    choice.delta.toolCalls = []

instance (choice : ChatChoice) : Decidable (Silent choice) :=
  inferInstanceAs (Decidable (_ ∧ _ ∧ _))

theorem appendDelta_of_silent {choice : ChatChoice} (h : Silent choice) (s : StreamState U) :
    s.appendDelta choice.delta = (s, []) := by
  obtain ⟨hrg, hcon, hcls⟩ := h
  simp [appendDelta, hrg, hcon, hcls, appendToolCallDeltas]

variable {closed : Bool}

/-- A finish reason changes the status, which the items do not show. -/
theorem tracks_applyFinishReason (h : Tracks ids before closed s events)
    (reason : String) : Tracks ids before closed (s.applyFinishReason reason) events := by
  rw [applyFinishReason]
  generalize responsesStatusFromChatFinishReason reason = status
  exact
    { h with
      logged := h.logged.quiet rfl rfl rfl }

theorem id_applyFinishReason (reason : String) (s : StreamState U) :
    (s.applyFinishReason reason).id = s.id := by rw [applyFinishReason]

/-- **One choice keeps the items consistent**, if it says nothing once they are finished. -/
theorem tracks_appendChoice {choice : ChatChoice}
    (h : Tracks ids before closed s events) (hsil : closed = true → Silent choice)
    (hids : KeepsIDs s.id ids before choice.delta.toolCalls) :
    Tracks ids (before ++ choice.delta.toolCalls) (closed || finishes choice)
        (s.appendChoice choice).1 (events ++ (s.appendChoice choice).2) ∧
      (s.appendChoice choice).1.id = s.id := by
  simp only [appendChoice]
  cases closed with
  | true =>
    have hs := hsil rfl
    have hfn := tracks_applyFinishReason h (choice.finishReason.getD "")
    rw [appendDelta_of_silent hs, hs.2.2, doneDeltaEvents_of_closed hfn.closed_eq,
      append_nil, Bool.true_or]
    split
    · rw [append_nil, append_nil]
      exact ⟨hfn, id_applyFinishReason _ s⟩
    · rw [append_nil]
      exact ⟨h, rfl⟩
  | false =>
    obtain ⟨hdel, hid⟩ := tracks_appendDelta h hids
    cases hfin : finishes choice with
    | true =>
      obtain ⟨hdn, hid'⟩ := tracks_doneDeltaEvents
        (tracks_applyFinishReason hdel (choice.finishReason.getD ""))
      rw [id_applyFinishReason] at hid'
      rw [if_pos (of_decide_eq_true hfin), ← append_assoc]
      exact ⟨hdn, hid'.trans hid⟩
    | false =>
      rw [if_neg (of_decide_eq_false hfin)]
      exact ⟨hdel, hid⟩

/-- The calls of choices. -/
def callsOf (choices : List ChatChoice) : List ToolCallDelta :=
  choices.flatMap fun choice => choice.delta.toolCalls

/-- No content follows a finish reason. -/
def Settled (choices : List ChatChoice) : Prop :=
  choices.Pairwise fun choice later => finishes choice = true → Silent later

instance (choices : List ChatChoice) : Decidable (Settled choices) :=
  inferInstanceAs (Decidable (List.Pairwise _ _))

theorem tracks_appendChoices {choices : List ChatChoice} (h : Tracks ids before closed s events)
    (hsil : closed = true → ∀ choice ∈ choices, Silent choice) (hset : Settled choices)
    (hids : KeepsIDs s.id ids before (callsOf choices)) :
    Tracks ids (before ++ callsOf choices) (closed || choices.any finishes)
        (appendChoices choices s).1 (events ++ (appendChoices choices s).2) ∧
      (appendChoices choices s).1.id = s.id := by
  induction choices generalizing s before events closed with
  | nil =>
    rw [any_nil, Bool.or_false]
    exact ⟨by simpa [appendChoices, callsOf] using h, rfl⟩
  | cons choice choices ih =>
    rw [Settled, pairwise_cons] at hset
    have hcls : callsOf (choice :: choices) = choice.delta.toolCalls ++ callsOf choices := by
      simp [callsOf]
    rw [hcls] at hids ⊢
    obtain ⟨hst, hid⟩ := tracks_appendChoice h (fun hcl => hsil hcl choice mem_cons_self) hids.left
    have hsil' : (closed || finishes choice) = true → ∀ later ∈ choices, Silent later := by
      intro hcl later hlat
      rcases Bool.or_eq_true _ _ ▸ hcl with hc | hf
      · exact hsil hc later (mem_cons_of_mem _ hlat)
      · exact hset.1 later hlat hf
    have hids' : KeepsIDs (s.appendChoice choice).1.id ids
        (before ++ choice.delta.toolCalls) (callsOf choices) := by
      rw [hid]
      exact hids.right
    obtain ⟨hre, hid'⟩ := ih hst hsil' hset.2 hids'
    simp only [appendChoices]
    rw [any_cons, ← Bool.or_assoc, ← append_assoc, ← append_assoc]
    exact ⟨hre, hid'.trans hid⟩

/-- The state takes nothing from a chunk that the items show, once it has an id. -/
theorem tracks_takeMetadata (h : Tracks ids before closed s events) (chunk : StreamedChunk U) :
    Tracks ids before closed (s.takeMetadata chunk) events ∧ (s.takeMetadata chunk).id = s.id := by
  have hid : (s.takeMetadata chunk).id = s.id := if_neg h.id_ne
  have hit : (s.takeMetadata chunk).item? = s.item? := by
    funext r
    cases r with
    | message =>
      simp only [item?, messageID, hid]
      rfl
    | reasoning =>
      simp only [item?, reasoningID, hid]
      rfl
    | tool k => rfl
  refine ⟨?_, hid⟩
  exact
    { h with
      id_ne := hid ▸ h.id_ne
      logged := h.logged.quiet rfl rfl hit
      closed_eq := fun r item hr => h.closed_eq r item (hit ▸ hr) }

/-- The choices of chunks. -/
def choicesOf (chunks : List (StreamedChunk U)) : List ChatChoice :=
  chunks.flatMap (·.choices)

/-- **The chunks after the first keep the items consistent.** -/
theorem tracks_convertChunks {chunks : List (StreamedChunk U)}
    (h : Tracks ids before closed s events)
    (hsil : closed = true → ∀ choice ∈ choicesOf chunks, Silent choice)
    (hset : Settled (choicesOf chunks))
    (hids : KeepsIDs s.id ids before (callsOf (choicesOf chunks))) :
    ∃ closed', Tracks ids (before ++ callsOf (choicesOf chunks)) closed' (convertChunks chunks s).1
      (events ++ (convertChunks chunks s).2) := by
  induction chunks generalizing s before events closed with
  | nil => exact ⟨closed, by simpa [convertChunks, choicesOf, callsOf] using h⟩
  | cons chunk chunks ih =>
    have hch : choicesOf (chunk :: chunks) = chunk.choices ++ choicesOf chunks := by
      simp [choicesOf]
    have hcls : callsOf (chunk.choices ++ choicesOf chunks) =
        callsOf chunk.choices ++ callsOf (choicesOf chunks) := by
      simp [callsOf]
    rw [hch, Settled, pairwise_append] at hset
    rw [hch, hcls] at hids ⊢
    obtain ⟨hme, hid⟩ := tracks_takeMetadata h chunk
    obtain ⟨hst, hid'⟩ := tracks_appendChoices hme
      (fun hcl choice hmem => hsil hcl choice (hch ▸ mem_append_left _ hmem))
      hset.1 (hid ▸ hids.left)
    have hsil' : (closed || chunk.choices.any finishes) = true →
        ∀ later ∈ choicesOf chunks, Silent later := by
      intro hcl later hlat
      rcases Bool.or_eq_true _ _ ▸ hcl with hc | hf
      · exact hsil hc later (hch ▸ mem_append_right _ hlat)
      obtain ⟨choice, hchc, hfin⟩ := any_eq_true.mp hf
      exact hset.2.2 choice hchc later hlat hfin
    have hids' : KeepsIDs (appendChoices chunk.choices (s.takeMetadata chunk)).1.id ids
        (before ++ callsOf chunk.choices) (callsOf (choicesOf chunks)) := by
      rw [hid', hid]
      exact hids.right
    obtain ⟨closed', hre⟩ := ih hst hsil' hset.2.1 hids'
    have hcreate : (s.takeMetadata chunk).sendCreated = (s.takeMetadata chunk, []) :=
      if_pos hme.created
    refine ⟨closed', ?_⟩
    rw [← append_assoc]
    simpa only [convertChunks, chunkToResponsesEvents, hcreate, nil_append, append_assoc] using hre

end

/-! ## Whole streams -/

/-- **What a client may expect of the events.**  `cells` are the items: position by position the
events about an item are its story, and the last event lists them. -/
structure Consistent (events : List (SentEvent U)) (cells : List (Cell OutputRef)) : Prop where
  created : ∃ first rest, events = first :: rest ∧ first.type = .created ∧
    ∀ e ∈ rest, e.type ≠ .created
  terminal : ∃ init last response, events = init ++ [last] ∧ last.isTerminal = true ∧
    last.response = some response ∧ (∀ e ∈ init, e.isTerminal = false) ∧
    response.output.map (fun item => (item.id, item.words)) =
      cells.map fun c => (c.id, String.join c.pieces)
  entries : ∀ e ∈ events, e.logEntry.isSome ∨ e.type = .created ∨ e.isTerminal = true
  closed : ∀ c ∈ cells, c.closed = true
  items : ∀ i, (events.filterMap (·.logEntry)).filter (fun entry => entry.index = i) =
    (cells[i]?.map (·.trace i)).getD []
  indices : (events.filterMap (·.logEntry)).filterMap Entry.added? = List.range cells.length

/-- The id of the tool with index `k`: that of its first call. -/
def itemIDOf (id : String) (calls : List ToolCallDelta) (k : Int) : String :=
  ((calls.find? fun call => chatIndexOf call = k).map (firstID id)).getD ""

/-- The calls of a tool have no id or the id of its first call. -/
def StableIDs (id : String) (calls : List ToolCallDelta) : Prop :=
  ∀ call ∈ calls, trimSpace call.id = "" ∨ trimSpace call.id = itemIDOf id calls (chatIndexOf call)

instance (id : String) (calls : List ToolCallDelta) : Decidable (StableIDs id calls) :=
  inferInstanceAs (Decidable (∀ call ∈ calls, _ ∨ _))

theorem keepsIDs_of_stable {id : String} {calls : List ToolCallDelta} (h : StableIDs id calls) :
    KeepsIDs id (itemIDOf id calls) [] calls := by
  intro pre call post heq
  have hmem : call ∈ calls := by
    rw [heq]
    exact mem_append_right _ mem_cons_self
  refine ⟨h call hmem, ?_⟩
  intro hnew
  have hfd : calls.find? (fun c => chatIndexOf c = chatIndexOf call) = some call := by
    have hpre : pre.find? (fun c => chatIndexOf c = chatIndexOf call) = none := by
      rw [find?_eq_none]
      intro b hb
      simpa using hnew b (by simpa using hb)
    rw [heq, find?_append, hpre, none_or, find?_cons_of_pos (by simp)]
  rw [itemIDOf, hfd, map_some, getD_some]

theorem logEntry_isSome_iff {e : SentEvent U} (h : e.logEntry.isSome) :
    e.type ≠ .created ∧ e.isTerminal = false := by
  rw [SentEvent.logEntry] at h
  rw [SentEvent.isTerminal]
  cases htype : e.type <;> simp_all

variable {s : StreamState U}

/-- The item of a cell is in the final response, with the cell's id and text. -/
theorem outputOf_item {r : OutputRef} {item : Item} (h : s.item? r = some item) (status : String) :
    ∃ output, s.outputOf status r = some output ∧ output.id = item.id ∧
      output.words = item.text := by
  cases r with
  | message =>
    simp only [item?] at h
    split at h
    · cases h
      exact ⟨_, rfl, rfl, by simp [messageOutput, OutputItem.words]⟩
    · cases h
  | reasoning =>
    simp only [item?] at h
    split at h
    · cases h
      exact ⟨_, rfl, rfl, by simp [reasoningOutput, OutputItem.words]⟩
    · cases h
  | tool k =>
    obtain ⟨tool, htl, rfl⟩ := map_eq_some_iff.mp h
    exact ⟨_, by rw [outputOf, htl, map_some], rfl, rfl⟩

theorem output_of_shows {l : Ledger OutputRef} (h : l.Shows s.outputOrder s.item?) :
    s.finalResponse.output.map (fun item => (item.id, item.words)) =
      l.cells.map fun c => (c.id, String.join c.pieces) := by
  have hcel : ∀ cells : List (Cell OutputRef), (∀ c ∈ cells, c ∈ l.cells) →
      ((cells.map (·.ref)).filterMap (s.outputOf s.outputStatus)).map
        (fun item => (item.id, item.words)) = cells.map fun c => (c.id, String.join c.pieces) := by
    intro cells hsub
    induction cells with
    | nil => rfl
    | cons c cells ih =>
      obtain ⟨i, hi⟩ := getElem?_of_mem (hsub c mem_cons_self)
      obtain ⟨output, hout, hid, hwor⟩ :=
        outputOf_item (h.item_eq i c hi) s.outputStatus
      have ih := ih fun c' hc' => hsub c' (mem_cons_of_mem _ hc')
      rw [map_cons, filterMap_cons_some hout, map_cons, ih, map_cons, hid, hwor]
      rfl
  change ((s.outputOrder.filterMap (s.outputOf s.outputStatus)).map _) = _
  rw [h.order_eq]
  exact hcel l.cells fun _ hc => hc

theorem convertChunks_first (hs : s.sentCreated = false)
    (chunk : StreamedChunk U) (chunks : List (StreamedChunk U)) :
    ∃ first : SentEvent U, first.type = .created ∧ convertChunks (chunk :: chunks) s =
        ((convertChunks (chunk :: chunks) { s with sentCreated := true }).1,
          first :: (convertChunks (chunk :: chunks) { s with sentCreated := true }).2) := by
  have hfst : (s.takeMetadata chunk).sendCreated =
      (({ s with sentCreated := true } : StreamState U).takeMetadata chunk,
        [{ type := .created, response := some (s.takeMetadata chunk).createdResponse }]) := by
    rw [sendCreated, if_neg (by simp [takeMetadata, hs])]
    rfl
  have hlat : (({ s with sentCreated := true } : StreamState U).takeMetadata chunk).sendCreated =
      (({ s with sentCreated := true } : StreamState U).takeMetadata chunk, []) := if_pos rfl
  refine ⟨{ type := .created, response := some (s.takeMetadata chunk).createdResponse }, rfl, ?_⟩
  simp only [convertChunks, chunkToResponsesEvents, hfst, hlat, nil_append, cons_append]

theorem id_new_ne (optionsId uuid model : String) (created : Int) :
    (newOAIChatToOAIResponsesStreamState optionsId uuid model created : StreamState U).id ≠ "" := by
  rw [newOAIChatToOAIResponsesStreamState]
  dsimp only
  split
  · intro h
    have := congrArg String.length h
    simp [String.length_append] at this
  · assumption

/-- A state without items. -/
structure Fresh (s : StreamState U) : Prop where
  id_ne : s.id ≠ ""
  live : s.finalized = false
  order : s.outputOrder = []
  next : s.nextOutputIndex = 0
  text : s.textStarted = false ∧ s.text = "" ∧ s.textDone = false
  reasoning : s.reasoningStarted = false ∧ s.reasoning = "" ∧ s.reasoningDone = false
  tools : s.toolsByIndex = .empty

theorem tracks_new (h : Fresh s) (hcreate : s.sentCreated = true)
    (ids : Int → String) : Tracks ids [] false s [] := by
  obtain ⟨hid, hlv, hord, hnext, htx, hrg, htools⟩ := h
  have hfd : ∀ k, s.toolsByIndex.find? k = none := by
    intro k
    rw [htools]
    rfl
  have hit : s.item? = fun _ => none := by
    funext r
    cases r with
    | message => simp [item?, htx.1]
    | reasoning => simp [item?, hrg.1]
    | tool k => simp [item?, hfd]
  exact
    { id_ne := hid
      created := hcreate
      live := hlv
      logged :=
        { ledger := ⟨Ledger.empty, rfl, by rw [hord, hit]; exact Ledger.Shows.empty⟩
          entries := fun _ he => absurd he not_mem_nil
          next := by rw [hnext, hord]; rfl }
      closed_eq := fun r item hr => by rw [hit] at hr; cases hr
      text_new := fun _ => htx.2
      reasoning_new := fun _ => hrg.2
      named := fun k tool hk => by rw [hfd] at hk; cases hk
      seen := fun _ _ _ hca => absurd hca not_mem_nil }

/-- At the end the items are finished, and the last event lists them. -/
theorem finalize_of_tracks {ids : Int → String} {before : List ToolCallDelta} {closed : Bool}
    {events : List (SentEvent U)} (h : Tracks ids before closed s events) :
    ∃ (l : Ledger OutputRef) (init : List (SentEvent U)) (last : SentEvent U)
      (response : ResponsesReply U),
      events ++ s.finalizeStream.2 = init ++ [last] ∧ last.isTerminal = true ∧
      last.response = some response ∧ (∀ e ∈ init, e.logEntry.isSome) ∧
      l.log = init.filterMap (·.logEntry) ∧ (∀ c ∈ l.cells, c.closed = true) ∧
      response.output.map (fun item => (item.id, item.words)) =
        l.cells.map fun c => (c.id, String.join c.pieces) := by
  have hdn : Tracks ids before true s.doneDeltaEvents.1 (events ++ s.doneDeltaEvents.2) := by
    cases closed with
    | true =>
      rw [doneDeltaEvents_of_closed h.closed_eq, append_nil]
      exact h
    | false => exact (tracks_doneDeltaEvents h).1
  obtain ⟨l, hlog, hsho⟩ := hdn.logged.ledger
  have hcl : ∀ c ∈ l.cells, c.closed = true := by
    intro c hc
    obtain ⟨i, hi⟩ := getElem?_of_mem hc
    exact hdn.closed_eq _ _ (hsho.item_eq i c hi)
  have hlv : ¬s.finalized = true := by simp [h.live]
  let s' : StreamState U := { s.doneDeltaEvents.1 with finalized := true }
  let last : SentEvent U :=
    { type := if s'.status = "incomplete" then .incomplete else .completed,
      response := some s'.finalResponse }
  have hfin : s.finalizeStream.2 = s.doneDeltaEvents.2 ++ [last] := by
    rw [finalizeStream, if_neg hlv]
  have hter : last.isTerminal = true := by
    simp only [SentEvent.isTerminal, last]
    split <;> rfl
  refine ⟨l, events ++ s.doneDeltaEvents.2, last, s'.finalResponse, ?_, hter, rfl,
    hdn.logged.entries, hlog, hcl, ?_⟩
  · rw [hfin, append_assoc]
  · exact output_of_shows hsho

theorem consistent_of_ledger {first last : SentEvent U} {init : List (SentEvent U)}
    {response : ResponsesReply U} {l : Ledger OutputRef} (hfst : first.type = .created)
    (hter : last.isTerminal = true) (hres : last.response = some response)
    (hent : ∀ e ∈ init, e.logEntry.isSome) (hlog : l.log = init.filterMap (·.logEntry))
    (hcl : ∀ c ∈ l.cells, c.closed = true)
    (hout : response.output.map (fun item => (item.id, item.words)) =
      l.cells.map fun c => (c.id, String.join c.pieces)) :
    Consistent (first :: (init ++ [last])) l.cells := by
  have hfir : first.logEntry = none := by rw [SentEvent.logEntry, hfst]
  have hlas : last.logEntry = none := by
    rw [← not_isSome_iff_eq_none]
    intro hso
    rw [(logEntry_isSome_iff hso).2] at hter
    cases hter
  have hmap : (first :: (init ++ [last])).filterMap (·.logEntry) = l.log := by
    rw [filterMap_cons_none hfir, filterMap_append,
      filterMap_cons_none hlas, filterMap_nil, append_nil, hlog]
  exact
    { created := by
        refine ⟨first, init ++ [last], rfl, hfst, ?_⟩
        intro e he
        rcases mem_append.mp he with he | he
        · exact (logEntry_isSome_iff (hent e he)).1
        rw [mem_singleton.mp he]
        intro hcreate
        simp [SentEvent.isTerminal, hcreate] at hter
      terminal := by
        refine ⟨first :: init, last, response, rfl, hter, hres, ?_, hout⟩
        intro e he
        rcases mem_cons.mp he with rfl | he
        · simp [SentEvent.isTerminal, hfst]
        · exact (logEntry_isSome_iff (hent e he)).2
      entries := by
        intro e he
        rcases mem_cons.mp he with rfl | he
        · exact .inr (.inl hfst)
        rcases mem_append.mp he with he | he
        · exact .inl (hent e he)
        rw [mem_singleton.mp he]
        exact .inr (.inr hter)
      closed := hcl
      items := fun i => by rw [hmap]; exact l.traces i
      indices := by rw [hmap]; exact l.added }

theorem consistent_of_fresh (h : Fresh s) (huns : s.sentCreated = false)
    {chunks : List (StreamedChunk U)} (hne : chunks ≠ []) (hset : Settled (choicesOf chunks))
    (hids : StableIDs s.id (callsOf (choicesOf chunks))) :
    ∃ cells, Consistent (streamEvents chunks s) cells := by
  obtain ⟨chunk, rest, hchu⟩ := exists_cons_of_ne_nil hne
  obtain ⟨first, hfst, hcon⟩ := convertChunks_first huns chunk rest
  rw [← hchu] at hcon
  have hstr : Fresh { s with sentCreated := true } :=
    { h with }
  obtain ⟨closed, htra⟩ := tracks_convertChunks
    (tracks_new hstr rfl (itemIDOf s.id (callsOf (choicesOf chunks))))
    nofun hset (keepsIDs_of_stable hids)
  obtain ⟨l, init, last, response, heve, hter, hres, hent, hlog, hcl,
    hout⟩ := finalize_of_tracks htra
  have hall : streamEvents chunks s = first :: (init ++ [last]) := by
    rw [streamEvents, hcon, cons_append, ← heve, nil_append]
  refine ⟨l.cells, ?_⟩
  rw [hall]
  exact consistent_of_ledger hfst hter hres hent hlog hcl hout

/-- **A Responses client gets a consistent stream** from every stream of chunks that is not empty,
has no content after a finish reason, and has one id for each tool. -/
theorem items_consistent (optionsId uuid model : String) (created : Int)
    (chunks : List (StreamedChunk U)) (hne : chunks ≠ [])
    (hsettled : Settled (choicesOf chunks))
    (hids : StableIDs
      (newOAIChatToOAIResponsesStreamState optionsId uuid model created : StreamState U).id
      (callsOf (choicesOf chunks))) :
    ∃ cells, Consistent (streamEvents chunks
      (newOAIChatToOAIResponsesStreamState optionsId uuid model created)) cells :=
  consistent_of_fresh ⟨id_new_ne optionsId uuid model created, rfl, rfl, rfl, ⟨rfl, rfl, rfl⟩,
    ⟨rfl, rfl, rfl⟩, rfl⟩ rfl hne hsettled hids

/-- Reasoning, text and two tools whose calls are mixed; the ids are on the first calls. -/
def mixedChunks : List (StreamedChunk Unit) :=
  [{ choices := [{ delta := { reasoning := some "hm" } }] },
   { choices := [{ delta := { content := some "I ",
                              toolCalls := [{ index := some 1, id := "b" }] } }] },
   { choices := [{ delta := { toolCalls := [{ index := some 0, id := "a", arguments := "1" },
                                            { index := some 1, arguments := "2" }] } }] },
   { choices := [{ delta := { content := some "see" }, finishReason := some "tool_calls" }] },
   { choices := [] }]

theorem items_consistent_mixed :
    ∃ cells, Consistent (streamEvents mixedChunks
      (newOAIChatToOAIResponsesStreamState "resp_1" "" "m" 1)) cells := by
  refine items_consistent "resp_1" "" "m" 1 mixedChunks (by simp [mixedChunks]) ?_ ?_
  · decide +kernel
  · decide +kernel

/-- A tool whose id comes with its second call. -/
def lateID : List (StreamedChunk Unit) :=
  [{ choices := [{ delta :=
      { toolCalls := [{ index := some 0, name := "f", arguments := "1" }] } }] },
   { choices := [{ delta :=
      { toolCalls := [{ index := some 0, id := "a", arguments := "2" }] } }] }]

/-- **A late id renames an item that is open.**  It was added and told under one id, and is told
and done under another. -/
theorem late_id_renames_item :
    Settled (choicesOf lateID) ∧
      (streamEvents lateID (newOAIChatToOAIResponsesStreamState "resp_1" "" "m" 1)).filterMap
          (·.logEntry) =
        [⟨0, "resp_1_call_0", .added⟩, ⟨0, "resp_1_call_0", .told "1"⟩, ⟨0, "a", .told "2"⟩,
          ⟨0, "a", .finishing⟩, ⟨0, "a", .done⟩] := by
  constructor
  · decide +kernel
  · decide +kernel

end StreamState

end NewApi.ChatToResponses
