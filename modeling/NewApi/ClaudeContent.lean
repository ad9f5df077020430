import NewApi.ClaudeMessages
import NewApi.Steps

/-! # What a Claude client gets of a chat stream

Text and reasoning go out as they are.  The arguments of a tool call go out in pieces that carry
the index of a block only: the base of the group of tool calls that is open, plus the index of the
call.  So a client puts the pieces of a call together if they come while the group is open in which
the call was introduced.  Text or reasoning ends a group: a piece that comes later goes to a block
of the next group, which nobody has started (`mixed_delta_loses_text`).

Under that condition each tool call that the chunks introduce has a block of its own, started with
its id and name, whose pieces are its arguments (`content_conserved`). -/
namespace NewApi
open List Steps
variable {U : Type}

/-! ## The tool calls of the chunks -/

/-- What the chunks so far say of tool calls: those introduced, with their index, id and name, and
the indices of the group that is open. -/
structure ToolLog where
  begun : Bool := false
  introduced : List (Int × String × String) := []
  group : List Int := []

/-- A tool call with this index has been introduced. -/
def Known (introduced : List (Int × String × String)) (k : Int) : Prop :=
  k ∈ introduced.map Prod.fst

instance (introduced : List (Int × String × String)) (k : Int) : Decidable (Known introduced k) :=
  inferInstanceAs (Decidable (k ∈ introduced.map Prod.fst))

namespace ToolLog

/-- In the first chunk each delta introduces a call, in later ones those with a name do. -/
def hear (first : Bool) (log : ToolLog) (p : ToolCallDelta × Nat) : ToolLog :=
  if first || p.1.name ≠ "" then
    { log with
      introduced := (p.1.offset p.2, p.1.id, p.1.name) :: log.introduced
      group := p.1.offset p.2 :: log.group }
  else log

/-- A delta says nothing, or is of a call of the open group, or introduces a new one. -/
def Hears (first : Bool) (log : ToolLog) (p : ToolCallDelta × Nat) (log' : ToolLog) : Prop :=
  log' = log.hear first p ∧
    ((first || p.1.name ≠ "") = false ∧ p.1.arguments = "" ∨
      0 ≤ p.1.offset p.2 ∧
        (p.1.offset p.2 ∈ log.group ∨
          (first || p.1.name ≠ "") = true ∧ ¬Known log.introduced (p.1.offset p.2)))

/-- Text or reasoning ends the group, unless it comes beside tool calls in a later chunk. -/
def close (first : Bool) (d : ChunkDelta) (log : ToolLog) : ToolLog :=
  if (first = true ∨ d.toolCalls = []) ∧ (d.reasoning ≠ "" ∨ d.content ≠ "") then
    { log with begun := true, group := [] }
  else { log with begun := true }

/-- A call of the conversion; the first one has the response count 1. -/
def Follows (log : ToolLog) (call : ConvertCall U) (log' : ToolLog) : Prop :=
  (call.sendResponseCount = 1 ↔ log.begun = false) ∧
    match call.chunk.choices with
    | [] => log' = { log with begun := true }
    | choice :: _ => ∃ heard,
        Run (Hears !log.begun) log choice.delta.toolCalls.zipIdx heard ∧
          log' = heard.close (!log.begun) choice.delta

end ToolLog

/-- **The arguments reach the blocks.**  `block` gives each tool call that is introduced a block of
its own, which is started with its id and name and gets the arguments `args`; no other block gets
any, and there are no other arguments. -/
structure Told (introduced : List (Int × String × String)) (args : Int → String)
    (events : List (ClaudeEvent U)) (block : Int → Int) : Prop where
  started : ∀ t ∈ introduced, .blockStart (block t.1) .toolUse t.2.1 t.2.2 ∈ events
  distinct : ∀ j, Known introduced j → ∀ k, Known introduced k → block j = block k → j = k
  told : ∀ k, Known introduced k → (Output.arguments (block k)).ofEvents events = args k
  rest : ∀ k, ¬Known introduced k → args k = ""
  quiet : ∀ b, (∀ k, Known introduced k → block k ≠ b) → (Output.arguments b).ofEvents events = ""

/-- The blocks of the open group start at `base`; those of earlier groups are below. -/
structure InGroup (base top : Int) (log : ToolLog) (block : Int → Int) : Prop where
  inside : ∀ k ∈ log.group, Known log.introduced k ∧ 0 ≤ k ∧ k ≤ top ∧ block k = base + k
  before : ∀ k, Known log.introduced k → k ∉ log.group → block k < base

section Tools
variable {log log' : ToolLog} {args : Int → String} {events : List (ClaudeEvent U)}
  {block : Int → Int} {base top : Int} {first : Bool} {p : ToolCallDelta × Nat}

open Output (ofCalls ofEvents_append)

/-- Events without arguments change nothing. -/
theorem Told.append_frame {introduced : List (Int × String × String)}
    (h : Told introduced args events block) {es : List (ClaudeEvent U)}
    (hes : ∀ b, (Output.arguments b).ofEvents es = "") :
    Told introduced args (events ++ es) block where
  started t ht := mem_append_left _ (h.started t ht)
  distinct := h.distinct
  told k hk := by rw [ofEvents_append, hes, String.append_empty, h.told k hk]
  rest := h.rest
  quiet b hb := by rw [ofEvents_append, hes, String.append_empty, h.quiet b hb]

theorem arguments_ofCalls_cons (k : Int) (ps : List (ToolCallDelta × Nat)) :
    (Output.arguments k).ofCalls (p :: ps) =
      (if p.1.offset p.2 = k then p.1.arguments else "") ++ (Output.arguments k).ofCalls ps := by
  simp [ofCalls]

section Joins
variable {k : Int} (hgroup : InGroup base top log block) (hk : p.1.offset p.2 = k)
  (hplace : k ∈ log.group ∨ (first || p.1.name ≠ "") = true ∧ ¬Known log.introduced k)
include hgroup hk hplace

theorem known_hear (j : Int) :
    (Known (log.hear first p).introduced j ↔ Known log.introduced j ∨ j = k) ∧
      (j ∈ (log.hear first p).group ↔ j ∈ log.group ∨ j = k) := by
  rw [ToolLog.hear]
  split
  · simp only [Known, map_cons, mem_cons, hk]
    exact ⟨or_comm, or_comm⟩
  · rename_i hno
    rcases hplace with hin | ⟨hyes, -⟩
    · exact ⟨⟨.inl, fun hj => hj.elim id fun he => he ▸ (hgroup.inside k hin).1⟩,
        ⟨.inl, fun hj => hj.elim id fun he => he ▸ hin⟩⟩
    · exact absurd hyes hno

omit hk hplace in
/-- The block of a call in the open group is that of no other call. -/
theorem InGroup.block_ne (hnonneg : 0 ≤ k) {j : Int} (hj : Known log.introduced j) (hne : j ≠ k) :
    block j ≠ base + k := by
  intro he
  by_cases hin : j ∈ log.group
  · obtain ⟨-, -, -, hblock⟩ := hgroup.inside j hin
    omega
  · have hbelow := hgroup.before j hj hin
    omega

theorem InGroup.hear (hnonneg : 0 ≤ k) (htop : k ≤ top) :
    InGroup base top (log.hear first p) (Function.update block k (base + k)) := by
  refine ⟨fun j hj => ?_, fun j hj hout => ?_⟩
  · by_cases hjk : j = k
    · rw [hjk, Function.update_self]
      exact ⟨(known_hear hgroup hk hplace k).1.mpr (.inr rfl), hnonneg, htop, rfl⟩
    · rw [Function.update_of_ne hjk]
      obtain ⟨hknown, hrest⟩ :=
        hgroup.inside j (((known_hear hgroup hk hplace j).2.mp hj).resolve_right hjk)
      exact ⟨(known_hear hgroup hk hplace j).1.mpr (.inl hknown), hrest⟩
  · obtain ⟨hknown, hgroup'⟩ := known_hear hgroup hk hplace j
    have hjk : j ≠ k := fun he => hout (hgroup'.mpr (.inr he))
    rw [Function.update_of_ne hjk]
    have hold := (hknown.mp hj).resolve_right hjk
    exact hgroup.before j hold fun hin => hout (hgroup'.mpr (.inl hin))

omit hk in
/-- The block of the call has its arguments so far. -/
theorem Told.so_far (h : Told log.introduced args events block) (hnonneg : 0 ≤ k) :
    (Output.arguments (base + k)).ofEvents events = args k := by
  rcases hplace with hin | ⟨-, hnew⟩
  · obtain ⟨hknown, -, -, hblock⟩ := hgroup.inside k hin
    rw [← hblock]
    exact h.told k hknown
  · rw [h.rest k hnew]
    refine h.quiet _ fun j hj => hgroup.block_ne hnonneg hj ?_
    rintro rfl
    exact hnew hj

/-- The blocks are started, that of the call by this delta or by an earlier one. -/
theorem Told.started_hear (h : Told log.introduced args events block) :
    ∀ t ∈ (log.hear first p).introduced,
      .blockStart (Function.update block k (base + k) t.1) .toolUse t.2.1 t.2.2 ∈
        events ++ (toolCallEvents first base p.1 p.2 : List (ClaudeEvent U)) := by
  have hearlier : ∀ t ∈ log.introduced,
      .blockStart (Function.update block k (base + k) t.1) .toolUse t.2.1 t.2.2 ∈ events := by
    intro t ht
    have hself : Function.update block k (base + k) t.1 = block t.1 := by
      by_cases hkt : t.1 = k
      · rcases hplace with hin | ⟨-, hnew⟩
        · rw [hkt, Function.update_self, (hgroup.inside k hin).2.2.2]
        · exact absurd (mem_map.mpr ⟨t, ht, hkt⟩) hnew
      · exact Function.update_of_ne hkt ..
    rw [hself]
    exact h.started t ht
  intro t ht
  rw [ToolLog.hear] at ht
  split at ht
  · rename_i hyes
    rcases mem_cons.mp ht with rfl | hmem
    · refine mem_append_right _ (mem_append_left _ ?_)
      rw [if_pos hyes, hk, Function.update_self]
      exact mem_cons_self
    · exact mem_append_left _ (hearlier t hmem)
  · exact mem_append_left _ (hearlier t ht)

end Joins

/-- **One tool call.** -/
theorem Told.hear (h : Told log.introduced args events block) (hgroup : InGroup base top log block)
    (hhears : log.Hears first p log') (htop : p.1.offset p.2 ≤ top) :
    ∃ block', Told log'.introduced
        (fun k => args k ++ if p.1.offset p.2 = k then p.1.arguments else "")
        (events ++ toolCallEvents first base p.1 p.2) block' ∧ InGroup base top log' block' := by
  obtain ⟨rfl, ⟨hno, harguments⟩ | ⟨hnonneg, hplace⟩⟩ := hhears
  · have hsame : log.hear first p = log := by
      simp only [ToolLog.hear, hno, Bool.false_eq_true, if_false]
    have hnone : (toolCallEvents first base p.1 p.2 : List (ClaudeEvent U)) = [] := by
      simp only [toolCallEvents, hno, harguments, Bool.false_eq_true, if_false, ne_eq,
        not_true_eq_false, append_nil]
    rw [hsame, hnone, append_nil, harguments]
    simp only [ite_self, String.append_empty]
    exact ⟨block, h, hgroup⟩
  generalize hk : p.1.offset p.2 = k at hnonneg hplace htop
  have hpiece : ∀ b, (Output.arguments b).ofEvents
      (toolCallEvents first base p.1 p.2 : List (ClaudeEvent U)) =
        if b = base + k then p.1.arguments else "" := by
    intro b
    rw [ofEvents_toolCall, hk]
    by_cases hb : b = base + k
    · rw [if_pos (congrArg _ hb), if_pos hb]
    · rw [if_neg fun he => hb (Output.arguments.inj he), if_neg hb]
  have hintroduced := fun j => (known_hear hgroup hk hplace j).1
  have hself : Function.update block k (base + k) k = base + k := Function.update_self ..
  -- every other call was there before, with a block of its own
  have hother : ∀ j, j ≠ k → Known (log.hear first p).introduced j →
      Known log.introduced j ∧ block j ≠ base + k ∧
        Function.update block k (base + k) j = block j := by
    intro j hjk hj
    have hold := ((hintroduced j).mp hj).resolve_right hjk
    exact ⟨hold, hgroup.block_ne hnonneg hold hjk, Function.update_of_ne hjk ..⟩
  refine ⟨Function.update block k (base + k),
    ⟨h.started_hear hgroup hk hplace, fun i hi j hj he => ?_, fun j hj => ?_, fun j hj => ?_,
      fun b hb => ?_⟩, hgroup.hear hk hplace hnonneg htop⟩
  · by_cases hik : i = k
    · by_cases hjk : j = k
      · rw [hik, hjk]
      · obtain ⟨-, hne, hupdate⟩ := hother j hjk hj
        rw [hik, hself, hupdate] at he
        exact absurd he.symm hne
    · obtain ⟨hold, hne, hupdate⟩ := hother i hik hi
      by_cases hjk : j = k
      · rw [hjk, hself, hupdate] at he
        exact absurd he hne
      · obtain ⟨hold', -, hupdate'⟩ := hother j hjk hj
        rw [hupdate, hupdate'] at he
        exact h.distinct i hold j hold' he
  · rw [ofEvents_append, hpiece]
    by_cases hjk : j = k
    · rw [hjk, hself, h.so_far hgroup hplace hnonneg, if_pos rfl, if_pos rfl]
    · obtain ⟨hold, hne, hupdate⟩ := hother j hjk hj
      rw [hupdate, h.told j hold, if_neg hne, if_neg (Ne.symm hjk)]
  · have hjk : k ≠ j := fun he => hj ((hintroduced j).mpr (.inr he.symm))
    rw [h.rest j fun hknown => hj ((hintroduced j).mpr (.inl hknown)), if_neg hjk]
    rfl
  · have hne : b ≠ base + k := by
      intro he
      exact hb k ((hintroduced k).mpr (.inr rfl)) (hself.trans he.symm)
    rw [ofEvents_append, hpiece, if_neg hne, String.append_empty]
    refine h.quiet b fun j hj => ?_
    by_cases hjk : j = k
    · rcases hplace with hin | ⟨-, hnew⟩
      · rw [hjk, (hgroup.inside k hin).2.2.2]
        exact hne.symm
      · exact absurd (hjk ▸ hj) hnew
    · have hnow := (hintroduced j).mpr (.inl hj)
      rw [← (hother j hjk hnow).2.2]
      exact hb j hnow

/-- **The tool calls of a chunk.** -/
theorem Told.hearAll {ps : List (ToolCallDelta × Nat)}
    (hrun : Run (ToolLog.Hears first) log ps log')
    (h : Told log.introduced args events block) (hgroup : InGroup base top log block)
    (htop : ∀ p ∈ ps, p.1.offset p.2 ≤ top) :
    ∃ block', Told log'.introduced (fun k => args k ++ (Output.arguments k).ofCalls ps)
        (events ++ ps.flatMap fun p => toolCallEvents first base p.1 p.2) block' ∧
      InGroup base top log' block' := by
  induction hrun generalizing args events block with
  | nil =>
    refine ⟨block, ?_, hgroup⟩
    simpa [ofCalls] using h
  | cons hhears _ ih =>
    obtain ⟨block₁, htold, hgroup₁⟩ := h.hear hgroup hhears (htop _ mem_cons_self)
    obtain ⟨block₂, htold₂, hgroup₂⟩ :=
      ih htold hgroup₁ fun q hq => htop q (mem_cons_of_mem _ hq)
    refine ⟨block₂, ?_, hgroup₂⟩
    simpa only [arguments_ofCalls_cons, flatMap_cons, append_assoc, String.append_assoc]
      using htold₂

/-! ## The state of the conversion -/

theorem le_maxOffset (start : Int) (calls : List ToolCallDelta) :
    start ≤ maxOffset start calls ∧
      ∀ p ∈ calls.zipIdx, p.1.offset p.2 ≤ maxOffset start calls := by
  unfold maxOffset
  generalize calls.zipIdx = ps
  induction ps generalizing start with
  | nil => exact ⟨Int.le_refl _, by simp⟩
  | cons p ps ih =>
    rw [foldl_cons]
    obtain ⟨hstart, hall⟩ := ih (if p.1.offset p.2 > start then p.1.offset p.2 else start)
    have hboth : start ≤ (if p.1.offset p.2 > start then p.1.offset p.2 else start) ∧
        p.1.offset p.2 ≤ (if p.1.offset p.2 > start then p.1.offset p.2 else start) := by
      split
      · exact ⟨by omega, Int.le_refl _⟩
      · exact ⟨Int.le_refl _, by omega⟩
    refine ⟨Int.le_trans hboth.1 hstart, fun q hq => ?_⟩
    rcases mem_cons.mp hq with rfl | hq
    · exact Int.le_trans hboth.2 hstart
    · exact hall q hq

/-- How the blocks lie to what is open in the message. -/
structure Placed (log : ToolLog) (info : ClaudeInfo U) (block : Int → Int) : Prop where
  tools : info.lastMessagesType = .tools →
    InGroup info.toolCallBaseIndex info.toolCallMaxIndexOffset log block
  other : info.lastMessagesType ≠ .tools →
    log.group = [] ∧ ∀ k, Known log.introduced k → block k < info.index
  offset : 0 ≤ info.toolCallMaxIndexOffset
  fresh : log.begun = false → info.lastMessagesType = .none ∧ log.introduced = []

variable {info : ClaudeInfo U}

open ClaudeInfo

/-- The block that is opened next is after all those of tool calls. -/
theorem Placed.lt_advance (h : Placed log info block) {k : Int} (hk : Known log.introduced k) :
    block k < info.stopOpenBlocksAndAdvance.1.index := by
  by_cases htools : info.lastMessagesType = .tools
  · have hgroup := h.tools htools
    have hoffset := h.offset
    rw [stopOpenBlocksAndAdvance, htools]
    show block k < info.toolCallBaseIndex + info.toolCallMaxIndexOffset + 1
    by_cases hin : k ∈ log.group
    · obtain ⟨-, -, hle, hblock⟩ := hgroup.inside k hin
      omega
    · have hbelow := hgroup.before k hk hin
      omega
  · have hlt := (h.other htools).2 k hk
    unfold stopOpenBlocksAndAdvance
    split
    · exact hlt
    · exact absurd ‹_› htools
    · exact Int.lt_trans hlt (Int.lt_succ _)

theorem offset_advance (hoffset : 0 ≤ info.toolCallMaxIndexOffset) :
    0 ≤ info.stopOpenBlocksAndAdvance.1.toolCallMaxIndexOffset := by
  unfold stopOpenBlocksAndAdvance
  split
  · exact hoffset
  · exact Int.le_refl _
  · exact hoffset

/-- A block of text or thinking comes after all those of tool calls. -/
theorem Placed.prose (h : Placed log info block) {last : LastMessageType} (hlast : last ≠ .tools)
    {opened : ClaudeInfo U}
    (hopened : opened = if info.lastMessagesType ≠ last then info.stopOpenBlocksAndAdvance.1
      else info) :
    Placed { log with begun := true, group := [] } { opened with lastMessagesType := last }
      block := by
  refine ⟨fun htools => absurd htools hlast, fun _ => ⟨rfl, fun k hk => ?_⟩, ?_,
    fun hno => by cases hno⟩
  · show block k < opened.index
    rw [hopened]
    split
    · exact h.lt_advance hk
    · rename_i hsame
      rw [not_not] at hsame
      exact (h.other (hsame ▸ hlast)).2 k hk
  · show 0 ≤ opened.toolCallMaxIndexOffset
    rw [hopened]
    split
    · exact offset_advance h.offset
    · exact h.offset

theorem Placed.begin (h : Placed log info block) : Placed { log with begun := true } info block :=
  ⟨fun htools => ⟨(h.tools htools).inside, (h.tools htools).before⟩, h.other, h.offset,
    fun hno => by cases hno⟩

/-- A group of tool calls. -/
theorem InGroup.placed (h : InGroup base top log block) (htop : 0 ≤ top)
    (hlast : info.lastMessagesType = .tools) (hbase : info.toolCallBaseIndex = base)
    (hoffset : info.toolCallMaxIndexOffset = top) :
    Placed { log with begun := true } info block := by
  refine ⟨fun _ => ?_, fun hne => absurd hlast hne, hoffset ▸ htop, fun hno => by cases hno⟩
  rw [hbase, hoffset]
  exact ⟨h.inside, h.before⟩

theorem Told.tools {calls : List ToolCallDelta} (h : Told log.introduced args events block)
    (hgroup : InGroup base top log block)
    (hrun : Run (ToolLog.Hears first) log calls.zipIdx log') :
    ∃ block', Told log'.introduced (fun k => args k ++ (Output.arguments k).ofCalls calls.zipIdx)
        (events ++ toolCallsEvents first base calls) block' ∧
      InGroup base (maxOffset top calls) log' block' := by
  obtain ⟨hstart, hall⟩ := le_maxOffset top calls
  refine h.hearAll hrun ⟨fun k hk => ?_, hgroup.before⟩ hall
  obtain ⟨hknown, hnonneg, hle, hblock⟩ := hgroup.inside k hk
  exact ⟨hknown, hnonneg, Int.le_trans hle hstart, hblock⟩

/-- **The tool calls of a later chunk**, which go into the open group or begin one. -/
theorem Told.addTools {calls : List ToolCallDelta} (h : Told log.introduced args events block)
    (hplaced : Placed log info block) (hrun : Run (ToolLog.Hears false) log calls.zipIdx log') :
    ∃ block', Told log'.introduced (fun k => args k ++ (Output.arguments k).ofCalls calls.zipIdx)
        (events ++ (info.addTools calls).2) block' ∧
      Placed { log' with begun := true } (info.addTools calls).1 block' := by
  unfold ClaudeInfo.addTools
  by_cases htools : info.lastMessagesType = .tools
  · rw [if_neg (not_not.mpr htools)]
    obtain ⟨block', htold, hgroup⟩ := h.tools (hplaced.tools htools) hrun
    refine ⟨block', htold, hgroup.placed ?_ rfl rfl rfl⟩
    exact Int.le_trans hplaced.offset (le_maxOffset _ calls).1
  · rw [if_pos htools]
    have hgroup : InGroup info.stopOpenBlocksAndAdvance.1.index 0 log block := by
      refine ⟨fun k hk => ?_, fun k hk _ => hplaced.lt_advance hk⟩
      rw [(hplaced.other htools).1] at hk
      cases hk
    obtain ⟨block', htold, hgroup'⟩ := (h.append_frame fun b =>
      ofEvents_advance (.arguments b) info).tools hgroup hrun
    rw [append_assoc] at htold
    exact ⟨block', htold, hgroup'.placed (le_maxOffset 0 calls).1 rfl rfl rfl⟩

/-- **The delta of a later chunk.** -/
theorem Told.addDelta {d : ChunkDelta} (h : Told log.introduced args events block)
    (hplaced : Placed log info block)
    (hrun : Run (ToolLog.Hears false) log d.toolCalls.zipIdx log') :
    ∃ block', Told log'.introduced (fun k => args k ++ (Output.arguments k).ofDelta d)
        (events ++ (info.addDelta d).2) block' ∧
      Placed (log'.close false d) (info.addDelta d).1 block' := by
  unfold ClaudeInfo.addDelta ToolLog.close
  by_cases hcalls : d.toolCalls = []
  · rw [hcalls] at hrun
    cases hrun
    have hargs : (fun k => args k ++ (Output.arguments k).ofDelta d) = args := by
      funext k
      simp [Output.ofDelta, ofCalls, hcalls]
    rw [hargs, if_neg (not_not.mpr hcalls)]
    by_cases hreasoning : d.reasoning = ""
    · rw [if_neg (not_not.mpr hreasoning)]
      by_cases hcontent : d.content = ""
      · rw [if_neg (not_not.mpr hcontent), if_neg (by simp [hreasoning, hcontent]), append_nil]
        exact ⟨block, h, hplaced.begin⟩
      · rw [if_pos hcontent, if_pos ⟨.inr hcalls, .inr hcontent⟩]
        refine ⟨block, h.append_frame fun b => ?_, hplaced.prose (by decide) (by split <;> rfl)⟩
        exact (ofEvents_addBlock _ _ _ (fun i => (.textDelta i d.content : ClaudeEvent U))
          info).choose_spec
    · rw [if_pos hreasoning, if_pos ⟨.inr hcalls, .inl hreasoning⟩]
      refine ⟨block, h.append_frame fun b => ?_, hplaced.prose (by decide) (by split <;> rfl)⟩
      exact (ofEvents_addBlock _ _ _ (fun i => (.thinkingDelta i d.reasoning : ClaudeEvent U))
        info).choose_spec
  · rw [if_pos hcalls, if_neg fun hboth => hcalls (hboth.1.resolve_left (by decide))]
    exact h.addTools hplaced hrun

/-- **The tool calls of the first chunk.** -/
theorem Told.openToolCalls {d : ChunkDelta} (h : Told log.introduced args events block)
    (hplaced : Placed log info block) (hfresh : log.begun = false)
    (hrun : Run (ToolLog.Hears true) log d.toolCalls.zipIdx log') :
    ∃ block', Told log'.introduced (fun k => args k ++ (Output.arguments k).ofDelta d)
        (events ++ (info.openToolCalls d).2) block' ∧
      Placed { log' with begun := true } (info.openToolCalls d).1 block' := by
  unfold ClaudeInfo.openToolCalls
  by_cases hcalls : d.toolCalls = []
  · rw [hcalls] at hrun
    cases hrun
    refine ⟨block, ?_, ?_⟩
    · simpa [Output.ofDelta, ofCalls, hcalls] using h
    · rw [if_neg (not_not.mpr hcalls)]
      exact hplaced.begin
  · rw [if_pos hcalls]
    obtain ⟨hnone, hnew⟩ := hplaced.fresh hfresh
    have hgroup : InGroup 0 0 log block := by
      refine ⟨fun k hk => ?_, fun k hk => ?_⟩
      · rw [(hplaced.other (by rw [hnone]; decide)).1] at hk
        cases hk
      · rw [hnew] at hk
        cases hk
    obtain ⟨block', htold, hgroup'⟩ := h.tools hgroup hrun
    exact ⟨block', htold, hgroup'.placed (le_maxOffset 0 _).1 rfl rfl rfl⟩

theorem Placed.openContent (h : Placed { log with begun := true } info block) (d : ChunkDelta) :
    Placed (log.close true d) (info.openContent d).1 block := by
  unfold ClaudeInfo.openContent ToolLog.close
  by_cases hreasoning : d.reasoning = ""
  · rw [if_neg (not_not.mpr hreasoning)]
    by_cases hcontent : d.content = ""
    · rw [if_neg (not_not.mpr hcontent), if_neg (by simp [hreasoning, hcontent])]
      exact h
    · rw [if_pos hcontent, if_pos ⟨.inl rfl, .inr hcontent⟩]
      exact h.prose (by decide) (by split <;> rfl)
  · rw [if_pos hreasoning, if_pos ⟨.inl rfl, .inl hreasoning⟩]
    exact h.prose (by decide) (by split <;> rfl)

/-- What only notes how the message ends moves no block. -/
theorem Placed.congr (h : Placed log info block) {info' : ClaudeInfo U}
    (hlast : info'.lastMessagesType = info.lastMessagesType) (hindex : info'.index = info.index)
    (hbase : info'.toolCallBaseIndex = info.toolCallBaseIndex)
    (hoffset : info'.toolCallMaxIndexOffset = info.toolCallMaxIndexOffset) :
    Placed log info' block := by
  refine ⟨?_, ?_, ?_, ?_⟩
  · rw [hlast, hbase, hoffset]
    exact h.tools
  · rw [hlast, hindex]
    exact h.other
  · rw [hoffset]
    exact h.offset
  · rw [hlast]
    exact h.fresh

theorem Told.firstChunk {choice : ChunkChoice} {rest : List ChunkChoice} {c : ChatChunk U}
    (hchoices : c.choices = choice :: rest) (h : Told log.introduced args events block)
    (hplaced : Placed log info block) (hfresh : log.begun = false)
    (hrun : Run (ToolLog.Hears true) log choice.delta.toolCalls.zipIdx log') :
    ∃ block', Told log'.introduced
        (fun k => args k ++ (Output.arguments k).ofDelta choice.delta)
        (events ++ (info.firstChunk c).2) block' ∧
      Placed (log'.close true choice.delta) (info.firstChunk c).1 block' := by
  have hstart : Told log.introduced args (events ++ [.messageStart c.id c.model]) block :=
    h.append_frame fun b => by simp
  obtain ⟨block', htold, hplaced'⟩ := hstart.openToolCalls hplaced hfresh hrun
  have htold' := htold.append_frame fun b =>
    arguments_openContent b choice.delta (info.openToolCalls choice.delta).1
  have hcontent := hplaced'.openContent choice.delta
  refine ⟨block', ?_, ?_⟩
  · unfold ClaudeInfo.firstChunk
    rw [hchoices]
    dsimp only
    split
    · have hclosed := htold'.append_frame fun b => ofEvents_closeMessage (.arguments b)
        (c.usage <|> info.usage) { ((info.openToolCalls choice.delta).1.openContent choice.delta).1
          with finishReason := choice.finishReason }
      simpa only [append_assoc] using hclosed
    · simpa only [append_assoc] using htold'
  · unfold ClaudeInfo.firstChunk
    rw [hchoices]
    dsimp only
    split
    · exact hcontent.congr rfl rfl rfl rfl
    · exact hcontent

theorem Told.laterChunk {choice : ChunkChoice} {rest : List ChunkChoice} {c : ChatChunk U}
    (hchoices : c.choices = choice :: rest) (h : Told log.introduced args events block)
    (hplaced : Placed log info block)
    (hrun : Run (ToolLog.Hears false) log choice.delta.toolCalls.zipIdx log') :
    ∃ block', Told log'.introduced
        (fun k => args k ++ (Output.arguments k).ofDelta choice.delta)
        (events ++ (info.laterChunk c).2) block' ∧
      Placed (log'.close false choice.delta) (info.laterChunk c).1 block' := by
  have hnoted : Placed log (info.noteFinish choice) block := by
    unfold ClaudeInfo.noteFinish
    split
    · exact hplaced.congr rfl rfl rfl rfl
    · exact hplaced
  obtain ⟨block', htold, hplaced'⟩ := h.addDelta hnoted hrun
  refine ⟨block', ?_, ?_⟩
  · unfold ClaudeInfo.laterChunk
    rw [hchoices]
    dsimp only
    split
    · have hclosed := htold.append_frame fun b => ofEvents_closeMessage (.arguments b)
        (c.usage <|> info.usage) ((info.noteFinish choice).addDelta choice.delta).1
      simpa only [append_assoc] using hclosed
    · exact htold
  · unfold ClaudeInfo.laterChunk
    rw [hchoices]
    dsimp only
    split
    · exact hplaced'.congr rfl rfl rfl rfl
    · exact hplaced'

/-- **A chunk without a choice** brings no arguments. -/
theorem Told.noChoice {c : ChatChunk U} (hchoices : c.choices = [])
    (h : Told log.introduced args events block) (hplaced : Placed log info block) :
    (Told log.introduced args (events ++ (info.firstChunk c).2) block ∧
      Placed { log with begun := true } (info.firstChunk c).1 block) ∧
    Told log.introduced args (events ++ (info.laterChunk c).2) block ∧
      Placed { log with begun := true } (info.laterChunk c).1 block := by
  unfold ClaudeInfo.firstChunk ClaudeInfo.laterChunk
  rw [hchoices]
  refine ⟨⟨h.append_frame fun b => by simp, hplaced.begin⟩, ?_⟩
  dsimp only
  split
  · rw [append_nil]
    exact ⟨h, hplaced.begin⟩
  · exact ⟨h.append_frame fun b => by simp, hplaced.begin.congr rfl rfl rfl rfl⟩

/-- **One call** of the conversion. -/
theorem Told.run {call : ConvertCall U} (h : Told log.introduced args events block)
    (hplaced : Placed log info block) (hopen : info.done = false)
    (hfollows : log.Follows call log') :
    ∃ block', Told log'.introduced
        (fun k => args k ++ (Output.arguments k).ofChunk call.chunk)
        (events ++ (ConvertCall.run info call).2) block' ∧
      Placed log' (ConvertCall.run info call).1 block' := by
  obtain ⟨hfirst, hchunk⟩ := hfollows
  have hset : Placed log { info with
      sendResponseCount := call.sendResponseCount
      usage := call.usage } block := hplaced.congr rfl rfl rfl rfl
  rw [ConvertCall.run, streamResponseOpenAI2Claude, if_neg (by simp [hopen])]
  cases hchoices : call.chunk.choices with
  | nil =>
    rw [hchoices] at hchunk
    obtain rfl := hchunk
    have hnone : (fun k => args k ++ (Output.arguments k).ofChunk call.chunk) = args := by
      funext k
      simp [Output.ofChunk, hchoices]
    obtain ⟨hone, hlater⟩ := h.noChoice hchoices hset
    rw [hnone]
    split
    · exact ⟨block, hone⟩
    · exact ⟨block, hlater⟩
  | cons choice rest =>
    rw [hchoices] at hchunk
    obtain ⟨heard, hrun, rfl⟩ := hchunk
    have hclose : ∀ first, (heard.close first choice.delta).introduced = heard.introduced := by
      intro first
      unfold ToolLog.close
      split <;> rfl
    have hargs : (fun k => args k ++ (Output.arguments k).ofChunk call.chunk) =
        fun k => args k ++ (Output.arguments k).ofDelta choice.delta := by
      funext k
      simp [Output.ofChunk, hchoices]
    rw [hclose, hargs]
    by_cases hcount : call.sendResponseCount = 1
    · have hfresh := hfirst.mp hcount
      rw [hfresh] at hrun ⊢
      rw [if_pos hcount]
      exact h.firstChunk hchoices hset hfresh hrun
    · have hbegun : log.begun = true := by
        rw [← Bool.not_eq_false]
        exact fun hno => hcount (hfirst.mpr hno)
      rw [hbegun] at hrun ⊢
      rw [if_neg hcount]
      exact h.laterChunk hchoices hset hrun

end Tools

namespace ConvertCall

/-- **All the calls** up to the one that ends the message. -/
theorem told_runAll {calls : List (ConvertCall U)} {log : ToolLog}
    (hopen : (runAll calls.dropLast).1.done = false) (hrun : Run ToolLog.Follows {} calls log) :
    ∃ block, Told log.introduced (fun k => generated (.arguments k) calls) (runAll calls).2 block ∧
      Placed log (runAll calls).1 block := by
  induction calls using List.reverseRecOn generalizing log with
  | nil =>
    cases hrun
    refine ⟨fun _ => 0, ⟨?_, ?_, ?_, fun _ _ => rfl, fun _ _ => rfl⟩, ?_⟩
    · intro t ht
      cases ht
    · intro j hj
      cases hj
    · intro k hk
      cases hk
    · refine ⟨?_, ?_, Int.le_refl _, fun _ => ⟨rfl, rfl⟩⟩
      · intro htools
        cases htools
      · refine fun _ => ⟨rfl, fun k hk => ?_⟩
        cases hk
  | append_singleton calls call ih =>
    obtain ⟨hnow, hbefore⟩ := open_of_concat hopen
    obtain ⟨log₁, hrun₁, hlast⟩ := hrun.of_append
    obtain ⟨block, htold, hplaced⟩ := ih hbefore hrun₁
    cases hlast with
    | cons hfollows hnil =>
      cases hnil
      simp only [runAll_concat, generated_concat]
      exact htold.run hplaced hnow hfollows

/-- **Nothing is lost or repeated**, up to the call that ends the message: of text and reasoning, if
each delta has one kind of output, and of the arguments of tool calls, if each piece comes while the
group is open in which its call was introduced.  A client then finds the arguments of each tool call
in a block of its own, that was started with its id and name. -/
theorem content_conserved {calls : List (ConvertCall U)}
    (hopen : (runAll calls.dropLast).1.done = false) :
    ((∀ call ∈ calls, call.OneKind) →
      Output.text.ofEvents (runAll calls).2 = generated .text calls ∧
        Output.thinking.ofEvents (runAll calls).2 = generated .thinking calls) ∧
    ∀ log, Run ToolLog.Follows {} calls log →
      ∃ block, Told log.introduced (fun k => generated (.arguments k) calls)
        (runAll calls).2 block := by
  refine ⟨fun hone => ⟨?_, ?_⟩, fun log hrun => ?_⟩
  · exact @prose_conserved U .text trivial calls hopen hone
  · exact @prose_conserved U .thinking trivial calls hopen hone
  · obtain ⟨block, htold, -⟩ := told_runAll hopen hrun
    exact ⟨block, htold⟩

/-- Reasoning, then text, then two tool calls in pieces, of which the second is introduced later. -/
def sampleCalls : List (ConvertCall Unit) := [
  ⟨1, none, { choices := [{ delta := { reasoning := "hm" } }] }⟩,
  ⟨2, none, { choices := [{ delta := { content := "Hello" } }] }⟩,
  ⟨3, none, { choices := [{ delta := { toolCalls := [⟨some 0, "t", "f", "[1,"⟩] } }] }⟩,
  ⟨4, none, { choices := [{ delta := { toolCalls := [⟨some 1, "u", "g", "[]"⟩] } }] }⟩,
  ⟨5, some (), { choices :=
    [{ delta := { toolCalls := [⟨some 0, "", "", "2]"⟩] }, finishReason := "tool_calls" }] }⟩]

/-- The text and the reasoning arrive, and the tool calls each in a block. -/
theorem content_conserved_stream :
    (Output.text.ofEvents (runAll sampleCalls).2 = "Hello" ∧
      Output.thinking.ofEvents (runAll sampleCalls).2 = "hm") ∧
    ∃ block, Told [(1, "u", "g"), (0, "t", "f")] (fun k => generated (.arguments k) sampleCalls)
      (runAll sampleCalls).2 block := by
  obtain ⟨hprose, htools⟩ := @content_conserved Unit sampleCalls (by decide +kernel)
  have hrun : Run ToolLog.Follows {} sampleCalls
      ⟨true, [(1, "u", "g"), (0, "t", "f")], [1, 0]⟩ :=
    .cons ⟨by decide, _, .nil _, rfl⟩ <|
    .cons ⟨by decide, _, .nil _, rfl⟩ <|
    .cons ⟨by decide, _,
      .cons ⟨rfl, .inr ⟨by decide, .inr ⟨by decide, by decide⟩⟩⟩ (.nil _), rfl⟩ <|
    .cons ⟨by decide, _,
      .cons ⟨rfl, .inr ⟨by decide, .inr ⟨by decide, by decide⟩⟩⟩ (.nil _), rfl⟩ <|
    .cons ⟨by decide, _, .cons ⟨rfl, .inr ⟨by decide, .inl (by decide)⟩⟩ (.nil _), rfl⟩ <|
    .nil _
  exact ⟨hprose (by simp [sampleCalls, OneKind]), htools _ hrun⟩

/-- **A delta of two kinds loses one.**  Text beside reasoning in the first chunk, and text beside a
tool call in a later one, reach no event.  And when text comes between the two pieces of a tool
call, the second piece goes to block 2, which is not started. -/
theorem mixed_delta_loses_text :
    let first : List (ConvertCall Unit) :=
      [⟨1, none, { choices := [{ delta := { reasoning := "hm", content := "Hello" } }] }⟩]
    let later : List (ConvertCall Unit) := [
      ⟨1, none, { choices := [{}] }⟩,
      ⟨2, none, { choices :=
        [{ delta := { content := "Hello", toolCalls := [⟨some 0, "t", "f", ""⟩] } }] }⟩]
    let apart : List (ConvertCall Unit) := [
      ⟨1, none, { choices := [{ delta := { toolCalls := [⟨some 0, "t", "f", "[1,"⟩] } }] }⟩,
      ⟨2, none, { choices := [{ delta := { content := "Hello" } }] }⟩,
      ⟨3, none, { choices := [{ delta := { toolCalls := [⟨some 0, "", "", "2]"⟩] } }] }⟩]
    (Output.text.ofEvents (runAll first).2 = "" ∧ generated .text first = "Hello") ∧
    (Output.text.ofEvents (runAll later).2 = "" ∧ generated .text later = "Hello") ∧
    (runAll apart).2 =
      [.messageStart "" "", .blockStart 0 .toolUse "t" "f", .inputJsonDelta 0 "[1,", .blockStop 0,
        .blockStart 1 .text "" "", .textDelta 1 "Hello", .blockStop 1, .inputJsonDelta 2 "2]"] := by
  decide +kernel

end ConvertCall

end NewApi
