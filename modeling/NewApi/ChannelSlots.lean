import NewApi.ChannelSelect
import NewApi.Steps
import Mathlib.Algebra.Order.BigOperators.Group.List
import Mathlib.Algebra.Order.Group.Int

/-! # Concurrency slots

A counter for each channel says how many requests it serves.  A request takes a slot before
it is decided that it uses the channel: the distributor takes one for a channel that the
conversation is pinned to and may give it back, a selection takes one for the channel that it
chose, and reading the row of that channel may fail afterwards.  `HoldChannelSlot` notes the
slot in the request and gives back the one that was noted before, unless that is of the same
channel; what is noted at the end of the request is given back then.

If a retry chose the channel of the attempt before, the request would have two slots of it
and give back one.  It does not: the channels of all attempts are excluded.  So a request has
the slot that is noted, and between a selection and `HoldChannelSlot` one more
(`SlotRequest.Sound`), and the counters are the slots of the requests (`slots_conserved`). -/
namespace NewApi
open Db Function List Steps

/-! ## Counters -/

/-- `channelInFlight`; a channel without a counter counts zero. -/
abbrev Gauge := Int → Int

/-- `AcquireChannelSlot`.  The check and the increment are one step. -/
def acquireChannelSlot (channelId limit : Int) (gauge : Gauge) : Option Gauge :=
  if limit > 0 ∧ gauge channelId ≥ limit then none
  else some (Function.update gauge channelId (gauge channelId + 1))

def releaseChannelSlot (channelId : Int) (gauge : Gauge) : Gauge :=
  Function.update gauge channelId (if gauge channelId - 1 < 0 then 0 else gauge channelId - 1)

/-- A row of the table of channels; ids are counted from one. -/
structure StoredChannel extends Channel where
  pos : 0 < id

/-- The candidates of a selection are of rows. -/
structure Candidates where
  list : List ChannelCandidate
  rows : RowIds list

/-! ## Requests -/

/-- Where a request is. -/
inductive SlotPhase where
  | distributing
  /-- A slot of the channel that the token names is taken. -/
  | pinned (channelId : Int)
  /-- A slot of the preferred channel is taken, its groups are not checked yet. -/
  | affinity (channelId : Int)
  /-- In `CacheGetRandomSatisfiedChannel`, between two selections. -/
  | searching
  | selecting (candidates : Candidates) (retry : Nat) (attempted : List Int)
  /-- A channel is chosen, its slot is not taken yet. -/
  | chosen (candidates : Candidates) (retry : Nat) (attempted : List Int) (channelId : Int)
  /-- `selectAndAcquireChannel` has returned. -/
  | acquired (channelId : Int)
  /-- `HoldChannelSlot` has returned. -/
  | holding (channelId : Int)
  /-- An attempt runs. -/
  | attempting
  | ended

/-- The request has ended. -/
def SlotPhase.isEnded : SlotPhase → Bool
  | .ended => true
  | _ => false

/-- A request. -/
structure SlotRequest where
  phase : SlotPhase := .distributing
  /-- What the context has under `ginKeyHeldChannelSlot`. -/
  heldChannelSlot : Int := 0
  excludedChannelIds : List Int := []
  /-- The slots that it has acquired and not given back.  The program does not keep this. -/
  slots : List Int := []

/-- A step of one request. -/
inductive RequestEvent where
  | pin (channel : StoredChannel)
  | affinity (preferred : StoredChannel)
  | keepAffinity
  | rejectAffinity
  | search
  | beginSelect (candidates : Candidates) (retry : Nat)
  | select (inFlight inFlight' : Int → Int) (random : Nat → Nat)
  | acquire
  | readFails
  | hold
  | setUp
  | retry
  | finish

namespace SlotRequest

/-- A slot is taken. -/
def acquire (channelId limit : Int) (gauge : Gauge) (r : SlotRequest) :
    Option (Gauge × SlotRequest) :=
  (acquireChannelSlot channelId limit gauge).map fun gauge =>
    (gauge, { r with slots := channelId :: r.slots })

/-- A slot is given back. -/
def release (channelId : Int) (gauge : Gauge) (r : SlotRequest) : Gauge × SlotRequest :=
  (releaseChannelSlot channelId gauge, { r with slots := r.slots.erase channelId })

def holdChannelSlot (channelId : Int) (gauge : Gauge) (r : SlotRequest) : Gauge × SlotRequest :=
  let previous := r.heldChannelSlot
  let r' := { r with heldChannelSlot := channelId }
  if previous > 0 ∧ previous ≠ channelId then r'.release previous gauge else (gauge, r')

def releaseHeldChannelSlot (gauge : Gauge) (r : SlotRequest) : Gauge × SlotRequest :=
  let channelId := r.heldChannelSlot
  if channelId ≤ 0 then (gauge, r)
  else ({ r with heldChannelSlot := 0 } : SlotRequest).release channelId gauge

/-- The request goes on to a phase. -/
def enter (phase : SlotPhase) (p : Gauge × SlotRequest) : Gauge × SlotRequest :=
  (p.1, { p.2 with phase := phase })

/-- The phases in which a request may end. -/
def mayEnd : SlotPhase → Bool
  | .distributing => true
  | .searching => true
  | .holding _ => true
  | .attempting => true
  | _ => false

/-- A step of the request, if it is at such a step. -/
def next (gauge : Gauge) (r : SlotRequest) (e : RequestEvent) : Option (Gauge × SlotRequest) :=
  match e, r.phase with
  -- the cap does not bind a token that names the channel
  | .pin channel, .distributing =>
      (r.acquire channel.id 0 gauge).map (enter (.pinned channel.id))
  | .affinity preferred, .distributing =>
      match r.acquire preferred.id preferred.getMaxConcurrency gauge with
      | none => some (enter .searching (gauge, r))
      | some p => some (enter (.affinity preferred.id) p)
  | .keepAffinity, .affinity channelId =>
      some (enter (.holding channelId) (r.holdChannelSlot channelId gauge))
  | .rejectAffinity, .affinity channelId => some (enter .searching (r.release channelId gauge))
  | .search, .distributing => some (enter .searching (gauge, r))
  | .beginSelect candidates retry, .searching =>
      some (enter (.selecting candidates retry r.excludedChannelIds) (gauge, r))
  | .select inFlight inFlight' random, .selecting candidates retry attempted =>
      match selectChannelCandidate inFlight inFlight' random candidates.list retry attempted with
      | none => some (enter .searching (gauge, r))
      | some channelId => some (enter (.chosen candidates retry attempted channelId) (gauge, r))
  | .acquire, .chosen candidates retry attempted channelId =>
      match r.acquire channelId (slotLimit candidates.list channelId) gauge with
      -- another request took the last slot
      | none => some (enter (.selecting candidates retry (channelId :: attempted)) (gauge, r))
      | some p => some (enter (.acquired channelId) p)
  | .readFails, .acquired channelId => some (enter .searching (r.release channelId gauge))
  | .hold, .pinned channelId =>
      some (enter (.holding channelId) (r.holdChannelSlot channelId gauge))
  | .hold, .acquired channelId =>
      some (enter (.holding channelId) (r.holdChannelSlot channelId gauge))
  | .setUp, .holding channelId =>
      some (gauge, { r with
        phase := .attempting
        excludedChannelIds := channelId :: r.excludedChannelIds })
  | .retry, .attempting => some (enter .searching (gauge, r))
  | .finish, phase =>
      if mayEnd phase then some (enter .ended (r.releaseHeldChannelSlot gauge)) else none
  | _, _ => none

end SlotRequest

/-- The counters and the requests. -/
structure SlotState where
  channelInFlight : Gauge := fun _ => 0
  requests : List SlotRequest := []

/-- A request arrives, or one goes on. -/
inductive SlotEvent where
  | arrive
  | request (i : Nat) (e : RequestEvent)

namespace SlotState

/-- A step. -/
def apply (s : SlotState) : SlotEvent → Option SlotState
  | .arrive => some { s with requests := s.requests ++ [{}] }
  | .request i e =>
      match s.requests[i]? with
      | none => none
      | some r =>
          match r.next s.channelInFlight e with
          | none => none
          | some (gauge, r') => some ⟨gauge, s.requests.set i r'⟩

/-- A step. -/
def Step (s : SlotState) (e : SlotEvent) (s' : SlotState) : Prop := s.apply e = some s'

/-- The requests that have not ended. -/
def live (s : SlotState) : List SlotRequest := s.requests.filter fun r => !r.phase.isEnded

end SlotState

/-! ## What a request has -/

namespace SlotRequest
variable {gauge gauge' : Gauge} {r r' : SlotRequest} {e : RequestEvent}

/-- The slots are none, or the one that is noted, of a channel that the request has tried. -/
def Settled (r : SlotRequest) (slots : List Int) : Prop :=
  (r.heldChannelSlot = 0 ∧ slots = []) ∨
    (0 < r.heldChannelSlot ∧ slots = [r.heldChannelSlot] ∧
      r.heldChannelSlot ∈ r.excludedChannelIds)

/-- **What a request has in each phase.** -/
def Sound (r : SlotRequest) : Prop :=
  match r.phase with
  | .distributing => r.heldChannelSlot = 0 ∧ r.slots = []
  | .pinned channelId => r.heldChannelSlot = 0 ∧ r.slots = [channelId] ∧ 0 < channelId
  | .affinity channelId => r.heldChannelSlot = 0 ∧ r.slots = [channelId] ∧ 0 < channelId
  | .searching => r.Settled r.slots
  | .selecting _ _ attempted => r.Settled r.slots ∧ r.excludedChannelIds ⊆ attempted
  | .chosen candidates _ attempted channelId => r.Settled r.slots ∧
      r.excludedChannelIds ⊆ attempted ∧ channelId ∉ attempted ∧
      ∃ c ∈ candidates.list, c.channelId = channelId
  | .acquired channelId => ∃ slots, r.slots = channelId :: slots ∧ r.Settled slots ∧
      channelId ∉ r.excludedChannelIds ∧ 0 < channelId
  | .holding channelId => r.heldChannelSlot = channelId ∧ r.slots = [channelId] ∧ 0 < channelId
  | .attempting => 0 < r.heldChannelSlot ∧ r.slots = [r.heldChannelSlot] ∧
      r.heldChannelSlot ∈ r.excludedChannelIds
  | .ended => r.slots = []

/-- Whose cap it is that a slot was taken under. -/
inductive Under (r : SlotRequest) (channelId limit : Int) : RequestEvent → Prop
  | pin (channel : StoredChannel) (hid : channel.id = channelId) :
      Under r channelId limit (.pin channel)
  | affinity (preferred : StoredChannel) (hid : preferred.id = channelId)
      (hlimit : preferred.getMaxConcurrency = limit) : Under r channelId limit (.affinity preferred)
  | acquire (candidates : Candidates) (retry : Nat) (attempted : List Int)
      (hphase : r.phase = .chosen candidates retry attempted channelId) (c : ChannelCandidate)
      (hc : c ∈ candidates.list) (hid : c.channelId = channelId)
      (hlimit : c.maxConcurrency = limit) : Under r channelId limit .acquire

/-- What a step does to the counters and the slots of the request. -/
inductive Moves (gauge : Gauge) (r : SlotRequest) (e : RequestEvent) (gauge' : Gauge)
    (slots : List Int) : Prop
  | still (hgauge : gauge' = gauge) (hslots : slots = r.slots)
  | take (channelId limit : Int) (hunder : Under r channelId limit e)
      (htaken : acquireChannelSlot channelId limit gauge = some gauge')
      (hslots : slots = channelId :: r.slots)
  | give (channelId : Int) (hmem : channelId ∈ r.slots)
      (hgauge : gauge' = releaseChannelSlot channelId gauge)
      (hslots : slots = r.slots.erase channelId)

variable {p : Gauge × SlotRequest} {channelId limit : Int}

theorem acquire_eq_some (h : r.acquire channelId limit gauge = some p) :
    acquireChannelSlot channelId limit gauge = some p.1 ∧
      p.2 = { r with slots := channelId :: r.slots } := by
  obtain ⟨gauge', htak, rfl⟩ := Option.map_eq_some_iff.mp h
  exact ⟨htak, rfl⟩

/-- The slot is taken, and the request goes on. -/
theorem moves_take
    (hund : Under r channelId limit e) (h : r.acquire channelId limit gauge = some p) :
    Moves gauge r e p.1 p.2.slots := by
  obtain ⟨htak, hp⟩ := acquire_eq_some h
  exact .take channelId limit hund htak (congrArg slots hp)

/-- What is taken by a request that has nothing is all it has. -/
theorem fields_take (hno : r.heldChannelSlot = 0 ∧ r.slots = [])
    (h : r.acquire channelId limit gauge = some p) :
    p.2.heldChannelSlot = 0 ∧ p.2.slots = [channelId] := by
  rw [(acquire_eq_some h).2]
  exact ⟨hno.1, congrArg (channelId :: ·) hno.2⟩

variable {slots : List Int} {channelId : Int}

/-- A slot that was just taken is given back. -/
theorem release_spec (gauge : Gauge) (e : RequestEvent) (hslots : r.slots = channelId :: slots) :
    Moves gauge r e (r.release channelId gauge).1 (r.release channelId gauge).2.slots ∧
      (r.release channelId gauge).2.slots = slots := by
  refine ⟨.give channelId (hslots ▸ mem_cons_self) rfl rfl, ?_⟩
  show r.slots.erase channelId = slots
  rw [hslots, erase_cons_head]

/-- `HoldChannelSlot` notes a slot that was just taken and gives back the one noted before,
which is of another channel. -/
theorem holdChannelSlot_spec (gauge : Gauge) (e : RequestEvent)
    (hslots : r.slots = channelId :: slots) (hset : r.Settled slots)
    (hnew : 0 < r.heldChannelSlot → r.heldChannelSlot ≠ channelId) :
    Moves gauge r e (r.holdChannelSlot channelId gauge).1
        (r.holdChannelSlot channelId gauge).2.slots ∧
      (r.holdChannelSlot channelId gauge).2.heldChannelSlot = channelId ∧
      (r.holdChannelSlot channelId gauge).2.slots = [channelId] := by
  unfold holdChannelSlot
  rcases hset with ⟨hz, hno⟩ | ⟨hpos, hone, -⟩
  · rw [hz, if_neg fun h => absurd h.1 (lt_irrefl _)]
    refine ⟨.still rfl rfl, rfl, ?_⟩
    rw [hslots, hno]
  · have hne := hnew hpos
    have hbeq : ¬ (channelId == r.heldChannelSlot) = true :=
      fun heq => hne (beq_iff_eq.mp heq).symm
    rw [if_pos ⟨hpos, hne⟩]
    refine ⟨.give r.heldChannelSlot ?_ rfl rfl, rfl, ?_⟩
    · rw [hslots, hone]
      exact mem_cons_of_mem _ mem_cons_self
    · show r.slots.erase r.heldChannelSlot = [channelId]
      rw [hslots, hone, erase_cons_tail hbeq, erase_cons_head]

theorem sound_hold (gauge : Gauge) (e : RequestEvent)
    (hslots : r.slots = channelId :: slots) (hset : r.Settled slots)
    (hnew : 0 < r.heldChannelSlot → r.heldChannelSlot ≠ channelId) (hpos : 0 < channelId) :
    (enter (.holding channelId) (r.holdChannelSlot channelId gauge)).2.Sound ∧
      Moves gauge r e (r.holdChannelSlot channelId gauge).1
        (r.holdChannelSlot channelId gauge).2.slots := by
  obtain ⟨hmov, hnot, hone⟩ := holdChannelSlot_spec gauge e hslots hset hnew
  exact ⟨⟨hnot, hone, hpos⟩, hmov⟩

theorem sound_hold_first (gauge : Gauge) (e : RequestEvent)
    (h : r.heldChannelSlot = 0 ∧ r.slots = [channelId] ∧ 0 < channelId) :
    (enter (.holding channelId) (r.holdChannelSlot channelId gauge)).2.Sound ∧
      Moves gauge r e (r.holdChannelSlot channelId gauge).1
        (r.holdChannelSlot channelId gauge).2.slots :=
  sound_hold gauge e h.2.1 (.inl ⟨h.1, rfl⟩) (fun hpos => absurd h.1 hpos.ne') h.2.2

/-- `ReleaseHeldChannelSlot` gives back what is noted. -/
theorem releaseHeldChannelSlot_spec (gauge : Gauge) (e : RequestEvent)
    (h : (r.heldChannelSlot = 0 ∧ r.slots = []) ∨
      (0 < r.heldChannelSlot ∧ r.slots = [r.heldChannelSlot])) :
    Moves gauge r e (r.releaseHeldChannelSlot gauge).1 (r.releaseHeldChannelSlot gauge).2.slots ∧
      (r.releaseHeldChannelSlot gauge).2.slots = [] := by
  unfold releaseHeldChannelSlot
  rcases h with ⟨hz, hno⟩ | ⟨hpos, hone⟩
  · rw [hz, if_pos (le_refl _)]
    exact ⟨.still rfl rfl, hno⟩
  rw [if_neg (not_le.mpr hpos)]
  refine ⟨.give r.heldChannelSlot ?_ rfl rfl, ?_⟩
  · rw [hone]
    exact mem_cons_self
  · show r.slots.erase r.heldChannelSlot = []
    rw [hone, erase_cons_head]

/-- A request that may end has what is noted. -/
theorem held_of_mayEnd (hsound : r.Sound) (h : mayEnd r.phase = true) :
    (r.heldChannelSlot = 0 ∧ r.slots = []) ∨
      (0 < r.heldChannelSlot ∧ r.slots = [r.heldChannelSlot]) := by
  unfold Sound at hsound
  generalize r.phase = phase at hsound h
  cases phase with
  | distributing =>
    exact .inl hsound
  | searching =>
    rcases hsound with hno | ⟨hpos, hone, -⟩
    · exact .inl hno
    · exact .inr ⟨hpos, hone⟩
  | holding channelId =>
    obtain ⟨hhd, hone, hpos⟩ := hsound
    rw [hhd]
    exact .inr ⟨hpos, hone⟩
  | attempting =>
    exact .inr ⟨hsound.1, hsound.2.1⟩
  | pinned | affinity | selecting | chosen | acquired | ended =>
    cases h

/-- **What a step does**: the request stays sound, and the counters move with its slots. -/
theorem next_spec (hsound : r.Sound) (h : r.next gauge e = some (gauge', r')) :
    r'.Sound ∧ Moves gauge r e gauge' r'.slots := by
  have hend := held_of_mayEnd hsound
  unfold Sound at hsound
  unfold next at h
  generalize hphase : r.phase = phase at hsound h hend
  split at h
  · -- the token names the channel
    rename_i channel
    obtain ⟨p, hp, hr'⟩ := Option.map_eq_some_iff.mp h
    obtain ⟨hhd, hone⟩ := fields_take hsound hp
    cases hr'
    exact ⟨⟨hhd, hone, channel.pos⟩, moves_take (.pin channel rfl) hp⟩
  · -- the conversation prefers a channel
    rename_i preferred
    split at h
    · cases h
      exact ⟨.inl hsound, .still rfl rfl⟩
    rename_i p hp
    obtain ⟨hhd, hone⟩ := fields_take hsound hp
    cases h
    exact ⟨⟨hhd, hone, preferred.pos⟩, moves_take (.affinity preferred rfl rfl) hp⟩
  · -- the channel serves a group of the request
    rename_i channelId
    cases h
    exact sound_hold_first gauge .keepAffinity hsound
  · -- it serves none
    rename_i channelId
    obtain ⟨hhd, hone, -⟩ := hsound
    obtain ⟨hmov, hslots⟩ := release_spec gauge .rejectAffinity hone
    cases h
    exact ⟨.inl ⟨hhd, hslots⟩, hmov⟩
  · cases h
    exact ⟨.inl hsound, .still rfl rfl⟩
  · rename_i candidates retry
    cases h
    exact ⟨⟨hsound, List.Subset.refl _⟩, .still rfl rfl⟩
  · split at h
    · cases h
      exact ⟨hsound.1, .still rfl rfl⟩
    rename_i channelId hsel
    obtain ⟨hnew, hmem⟩ := selectChannelCandidate_spec hsel
    cases h
    exact ⟨⟨hsound.1, hsound.2, hnew, hmem⟩, .still rfl rfl⟩
  · -- the slot of the chosen channel
    rename_i candidates retry attempted channelId
    obtain ⟨hset, hsub, hnew, c, hc, rfl⟩ := hsound
    split at h
    · cases h
      exact ⟨⟨hset, fun id hid => mem_cons_of_mem _ (hsub hid)⟩, .still rfl rfl⟩
    rename_i p hp
    have hmov := moves_take (.acquire candidates retry attempted hphase c hc rfl
      (candidates.rows.slotLimit_eq hc).symm) hp
    obtain ⟨gauge₁, r₁⟩ := p
    obtain rfl := (acquire_eq_some hp).2
    cases h
    exact ⟨⟨r.slots, rfl, hset, fun hmem => hnew (hsub hmem), candidates.rows.pos c hc⟩, hmov⟩
  · -- the row of the channel cannot be read
    rename_i channelId
    obtain ⟨slots, htak, hset, -, -⟩ := hsound
    obtain ⟨hmov, hslots⟩ := release_spec gauge .readFails htak
    cases h
    refine ⟨?_, hmov⟩
    show r.Settled (r.release channelId gauge).2.slots
    rw [hslots]
    exact hset
  · cases h
    exact sound_hold_first gauge .hold hsound
  · -- the channel of the attempt before is excluded, so it is another one
    rename_i channelId
    obtain ⟨slots, htak, hset, hnew, hpos⟩ := hsound
    have hoth : 0 < r.heldChannelSlot → r.heldChannelSlot ≠ channelId := by
      intro hhd heq
      rcases hset with ⟨hz, -⟩ | ⟨-, -, hmem⟩
      · exact absurd hz hhd.ne'
      · exact hnew (heq ▸ hmem)
    cases h
    exact sound_hold gauge .hold htak hset hoth hpos
  · obtain ⟨rfl, hone, hpos⟩ := hsound
    cases h
    exact ⟨⟨hpos, hone, mem_cons_self⟩, .still rfl rfl⟩
  · cases h
    exact ⟨.inr hsound, .still rfl rfl⟩
  · split at h
    · rename_i hmay
      obtain ⟨hmov, hslots⟩ := releaseHeldChannelSlot_spec gauge .finish (hend hmay)
      cases h
      exact ⟨hslots, hmov⟩
    · cases h
  · cases h

/-- The counters move by what the request takes or gives back. -/
theorem Moves.balance (h : Moves gauge r e gauge' slots)
    (hle : ∀ channelId, (r.slots.count channelId : Int) ≤ gauge channelId) (channelId : Int) :
    gauge' channelId - gauge channelId = slots.count channelId - r.slots.count channelId := by
  cases h with
  | still hgau hslots =>
    rw [hgau, hslots]
    omega
  | take id limit hund htak hslots =>
    unfold acquireChannelSlot at htak
    split at htak
    · cases htak
    cases htak
    by_cases heq : channelId = id
    · subst heq
      rw [hslots, update_self, count_cons_self]
      omega
    · rw [hslots, update_of_ne heq, count_cons_of_ne (Ne.symm heq)]
      omega
  | give id hmem hgau hslots =>
    rw [hgau, hslots]
    unfold releaseChannelSlot
    by_cases heq : channelId = id
    · subst heq
      have hcnt := count_pos_iff.mpr hmem
      have := hle channelId
      rw [update_self, if_neg (by omega), count_erase_self]
      omega
    · rw [update_of_ne heq, count_erase_of_ne heq]
      omega

/-- A counter is raised by taking a slot, up to the cap. -/
theorem Moves.raises (h : Moves gauge r e gauge' slots) (hnon : ∀ channelId, 0 ≤ gauge channelId)
    (hrai : gauge channelId < gauge' channelId) :
    ∃ limit, Under r channelId limit e ∧ (0 < limit → gauge' channelId ≤ limit) := by
  cases h with
  | still hgau hslots =>
    rw [hgau] at hrai
    exact absurd hrai (lt_irrefl _)
  | take id limit hund htak hslots =>
    unfold acquireChannelSlot at htak
    split at htak
    · cases htak
    cases htak
    by_cases heq : channelId = id
    · subst heq
      refine ⟨limit, hund, fun hpos => ?_⟩
      rw [update_self]
      omega
    · rw [update_of_ne heq] at hrai
      exact absurd hrai (lt_irrefl _)
  | give id hmem hgau hslots =>
    rw [hgau] at hrai
    unfold releaseChannelSlot at hrai
    by_cases heq : channelId = id
    · subst heq
      have := hnon channelId
      rw [update_self] at hrai
      split at hrai <;> omega
    · rw [update_of_ne heq] at hrai
      exact absurd hrai (lt_irrefl _)

end SlotRequest

/-! ## Every run -/

namespace SlotState
variable {s s' : SlotState} {e : SlotEvent}

/-- The slots of the channel that requests have. -/
def taken (requests : List SlotRequest) (channelId : Int) : Int :=
  (requests.map fun r => (r.slots.count channelId : Int)).sum

/-- The requests are sound, and the counters are their slots. -/
structure Valid (s : SlotState) : Prop where
  sound : ∀ r ∈ s.requests, r.Sound
  conserved : ∀ channelId, s.channelInFlight channelId = taken s.requests channelId

variable {r : SlotRequest}

theorem count_le_taken {requests : List SlotRequest} (hr : r ∈ requests)
    (channelId : Int) : (r.slots.count channelId : Int) ≤ taken requests channelId := by
  refine single_le_sum ?_ _ (mem_map_of_mem hr)
  intro n hn
  obtain ⟨r', -, rfl⟩ := mem_map.mp hn
  exact Int.natCast_nonneg _

theorem taken_nonneg (requests : List SlotRequest) (channelId : Int) :
    0 ≤ taken requests channelId := by
  refine sum_nonneg fun n hn => ?_
  obtain ⟨r, -, rfl⟩ := mem_map.mp hn
  exact Int.natCast_nonneg _

theorem step_request {i : Nat} {e : RequestEvent} (hval : s.Valid) (h : Step s (.request i e) s') :
    ∃ r r', s.requests[i]? = some r ∧ s'.requests = s.requests.set i r' ∧ r'.Sound ∧
      SlotRequest.Moves s.channelInFlight r e s'.channelInFlight r'.slots := by
  simp only [Step, apply] at h
  split at h
  · cases h
  rename_i r hr
  split at h
  · cases h
  rename_i gauge r' hnext
  cases h
  obtain ⟨hsound, hmov⟩ :=
    SlotRequest.next_spec (hval.sound r (mem_of_getElem? hr)) hnext
  exact ⟨r, r', hr, rfl, hsound, hmov⟩

theorem valid_step (hval : s.Valid) (h : Step s e s') : s'.Valid := by
  cases e with
  | arrive =>
    cases h
    refine ⟨fun r hr => ?_, fun channelId => ?_⟩
    · rcases mem_append.mp hr with hold | hnew
      · exact hval.sound r hold
      rw [mem_singleton.mp hnew]
      exact ⟨rfl, rfl⟩
    · show s.channelInFlight channelId = taken (s.requests ++ [({} : SlotRequest)]) channelId
      rw [hval.conserved, taken, taken, map_append, sum_append]
      simp
  | request i e =>
    obtain ⟨r, r', hr, hreq, hsound, hmov⟩ := step_request hval h
    have hmem := mem_of_getElem? hr
    refine ⟨fun r₁ hr₁ => ?_, fun channelId => ?_⟩
    · rw [hreq] at hr₁
      rcases mem_or_eq_of_mem_set hr₁ with hold | rfl
      · exact hval.sound r₁ hold
      · exact hsound
    · have hbal := hmov.balance
        (fun id => (count_le_taken hmem id).trans_eq (hval.conserved id).symm) channelId
      have hcon := hval.conserved channelId
      unfold taken at hcon ⊢
      rw [hreq, Table.sum_map_set hr]
      omega

theorem slots_of_isEnded (hsound : r.Sound) (h : r.phase.isEnded = true) : r.slots = [] := by
  unfold SlotRequest.Sound at hsound
  cases hphase : r.phase with
  | ended =>
    rw [hphase] at hsound
    exact hsound
  | distributing | pinned | affinity | searching | selecting | chosen | acquired | holding
  | attempting =>
    rw [hphase] at h
    cases h

theorem taken_live (hval : s.Valid) (channelId : Int) :
    taken s.live channelId = taken s.requests channelId := by
  have hsound := hval.sound
  unfold live
  generalize s.requests = requests at hsound
  induction requests with
  | nil => rfl
  | cons r requests ih =>
    rw [forall_mem_cons] at hsound
    have hre := ih hsound.2
    unfold taken at hre ⊢
    by_cases hend : r.phase.isEnded = true
    · rw [filter_cons_of_neg (by simp [hend]), map_cons, sum_cons, hre,
        slots_of_isEnded hsound.1 hend]
      simp
    · rw [filter_cons_of_pos (by simp [hend]), map_cons, map_cons, sum_cons, sum_cons, hre]

/-- Only between a selection and `HoldChannelSlot` has a request more than one slot. -/
theorem length_slots (hsound : r.Sound)
    (hphase : ∀ channelId, r.phase ≠ .acquired channelId) : r.slots.length ≤ 1 := by
  have hset : r.Settled r.slots → r.slots.length ≤ 1 := by
    rintro (⟨-, hno⟩ | ⟨-, hone, -⟩)
    · rw [hno]
      exact Nat.zero_le 1
    · rw [hone]
      exact Nat.le_refl 1
  unfold SlotRequest.Sound at hsound
  split at hsound
  · rw [hsound.2]
    exact Nat.zero_le 1
  · rw [hsound.2.1]
    exact Nat.le_refl 1
  · rw [hsound.2.1]
    exact Nat.le_refl 1
  · exact hset hsound
  · exact hset hsound.1
  · exact hset hsound.1
  · rename_i channelId heq
    exact absurd heq (hphase channelId)
  · rw [hsound.2.1]
    exact Nat.le_refl 1
  · rw [hsound.2.1]
    exact Nat.le_refl 1
  · rw [hsound]
    exact Nat.zero_le 1

/-- **Slots are conserved and caps hold.**  After any steps of any requests, the counter of a
channel is the number of slots that live requests have acquired and not given back; it is not
negative, and zero when no request is live.  A request has more than one slot only between a
selection and `HoldChannelSlot`.  And what raises a counter is a token that names the channel,
or it leaves the counter within the cap of the channel, if there is one. -/
theorem slots_conserved {es : List SlotEvent} (hrun : Run Step {} es s) :
    (∀ channelId, s.channelInFlight channelId =
        (s.live.map fun r => (r.slots.count channelId : Int)).sum) ∧
    (∀ channelId, 0 ≤ s.channelInFlight channelId) ∧
    (s.live = [] → ∀ channelId, s.channelInFlight channelId = 0) ∧
    (∀ r ∈ s.requests, (∀ channelId, r.phase ≠ .acquired channelId) → r.slots.length ≤ 1) ∧
    ∀ e s', Step s e s' → ∀ channelId, s.channelInFlight channelId < s'.channelInFlight channelId →
      (∃ i channel, e = .request i (.pin channel) ∧ channel.id = channelId) ∨
      (∃ i preferred, e = .request i (.affinity preferred) ∧ preferred.id = channelId ∧
        (0 < preferred.getMaxConcurrency →
          s'.channelInFlight channelId ≤ preferred.getMaxConcurrency)) ∨
      ∃ i r candidates retry attempted c, e = .request i .acquire ∧ s.requests[i]? = some r ∧
        r.phase = .chosen candidates retry attempted channelId ∧
        c ∈ candidates.list ∧ c.channelId = channelId ∧
        (0 < c.maxConcurrency → s'.channelInFlight channelId ≤ c.maxConcurrency) := by
  have hval : s.Valid := by
    refine hrun.invariant (I := Valid) (fun _ _ _ hval h => valid_step hval h) ⟨?_, ?_⟩
    · intro r hr
      cases hr
    · intro channelId
      rfl
  have hlv : ∀ channelId, s.channelInFlight channelId = taken s.live channelId :=
    fun channelId => (hval.conserved channelId).trans (taken_live hval channelId).symm
  have hnon : ∀ channelId, 0 ≤ s.channelInFlight channelId :=
    fun channelId => (hval.conserved channelId) ▸ taken_nonneg s.requests channelId
  refine ⟨hlv, hnon, fun hno channelId => ?_,
    fun r hr => length_slots (hval.sound r hr), fun e s' hst channelId hrai => ?_⟩
  · rw [hlv, hno]
    rfl
  cases e with
  | arrive =>
    cases hst
    exact absurd hrai (lt_irrefl _)
  | request i e =>
    obtain ⟨r, r', hr, -, -, hmov⟩ := step_request hval hst
    obtain ⟨limit, hund, hcap⟩ := hmov.raises hnon hrai
    cases hund with
    | pin channel hid => exact .inl ⟨i, channel, rfl, hid⟩
    | affinity preferred hid hlim =>
      subst hlim
      exact .inr (.inl ⟨i, preferred, rfl, hid, hcap⟩)
    | acquire candidates retry attempted hphase c hc hid hlim =>
      subst hlim
      exact .inr (.inr ⟨i, r, candidates, retry, attempted, c, rfl, hr, hphase, hc, hid, hcap⟩)

/-! ### A request with a retry -/

/-- A channel for one request at a time. -/
def singleSlot (channelId : Int) : ChannelCandidate := ⟨channelId, 0, 0, 1, false⟩

/-- Two such channels. -/
def twoChannels : Candidates where
  list := [singleSlot 1, singleSlot 2]
  rows := ⟨by decide, by decide⟩

/-- A selection that reads counters of zero and draws the first channel. -/
def selectFirst : List RequestEvent :=
  [.beginSelect twoChannels 0, .select (fun _ => 0) (fun _ => 0) (fun _ => 0), .acquire, .hold,
    .setUp]

/-- A request is distributed and retried. -/
def firstRequest : List RequestEvent := .search :: (selectFirst ++ .retry :: selectFirst)

/-- Another one read the counters before, and the channel that it chooses is full. -/
def lateRequest : List RequestEvent :=
  [.search, .beginSelect twoChannels 0, .select (fun _ => 0) (fun _ => 0) (fun _ => 15), .acquire]

/-- The one after the other. -/
def retryEvents : List SlotEvent :=
  .arrive :: (firstRequest.map (.request 0) ++ .arrive :: lateRequest.map (.request 1))

theorem slots_conserved_retry :
    ∃ s, Run Step {} retryEvents s ∧ s.live.length = 2 ∧ s.channelInFlight 1 = 0 ∧
      s.channelInFlight 2 = 1 ∧
      s.channelInFlight 2 = (s.live.map fun r => (r.slots.count 2 : Int)).sum := by
  have hrun : Run Step {} retryEvents _ := Run.foldlM (fun _ _ _ h => h) rfl
  refine ⟨_, hrun, ?_, ?_, ?_, (slots_conserved hrun).1 2⟩
  all_goals decide +kernel

end SlotState

end NewApi
