import NewApi.KeySelection
import NewApi.RoundRobin

/-! # Keys in turn

A channel in polling mode hands its enabled keys out in turn.  Where its cursor is kept depends
on the memory cache.  With the cache on, a request works on a private copy of the channel and the
cursor is in a map of the process, which `GetNextEnabledKey` reads and writes under the lock of
the channel.  With the cache off, the cursor is in the row: a request reads it when it loads the
channel, before it has the lock, and `savePollingIndex` writes the next one.

So in the first mode any calls one after the other serve the enabled keys in turn
(`keys_take_turns`), whenever the copies were loaded.  In the second this needs that the copy of
a call has the cursor that the row still has: two requests that load the channel and then both
call get the same key (`loaded_together_same_key`). -/
namespace NewApi
open KeyedChannel List RoundRobin Steps

namespace KeyedChannel
variable {codec : KeyCodec}

/-- What `savePollingIndex` makes of the row. -/
def savePollingIndex (row : KeyedChannel codec) (index : Int) : KeyedChannel codec :=
  { row with channelInfo := { row.channelInfo with multiKeyPollingIndex := index } }

/-- The row polls the keys of `base`, and with the same status map. -/
structure PollsLike (base row : KeyedChannel codec) : Prop where
  multi : row.channelInfo.isMultiKey = true
  mode : row.channelInfo.multiKeyMode = .polling
  keys : row.keys = base.keys
  statuses : row.channelInfo.multiKeyStatusList = base.channelInfo.multiKeyStatusList

/-- Where the loop starts, for the cursor that was read. -/
def pollStart (row : KeyedChannel codec) (cursor : Int) : Nat :=
  if cursor < 0 ∨ (row.keys.length : Int) ≤ cursor then 0 else cursor.toNat

section Spec
variable {base row : KeyedChannel codec}

theorem PollsLike.savePollingIndex (h : PollsLike base row) (index : Int) :
    PollsLike base (row.savePollingIndex index) :=
  { h with }

theorem PollsLike.keyStatus (h : PollsLike base row) :
    row.channelInfo.keyStatus = base.channelInfo.keyStatus := by
  funext i
  rw [ChannelInfo.keyStatus, ChannelInfo.keyStatus, h.statuses]

theorem PollsLike.enabledIdx (h : PollsLike base row) : row.enabledIdx = base.enabledIdx := by
  rw [KeyedChannel.enabledIdx, KeyedChannel.enabledIdx, h.keys, h.keyStatus]

/-- The key at a position can be used. -/
def usable (row : KeyedChannel codec) (i : Nat) : Bool :=
  row.channelInfo.keyStatus i = .enabled

theorem enabledIdx_eq : row.enabledIdx = participants row.usable row.keys.length := rfl

theorem pollFrom_eq_scan (cursor : Int) :
    row.pollFrom cursor = scan row.usable row.keys.length (row.pollStart cursor) := rfl

theorem pollStart_le (row : KeyedChannel codec) (cursor : Int) :
    row.pollStart cursor ≤ row.keys.length := by
  unfold pollStart
  split
  · exact Nat.zero_le _
  · omega

theorem pollStart_natCast {n : Nat} (h : n < row.keys.length) : row.pollStart n = n := by
  rw [pollStart, if_neg (by omega), Int.toNat_natCast]

/-- **One call of `GetNextEnabledKey` in polling mode**, for a channel with an enabled key: it
serves the key whose turn it is. -/
theorem getNextEnabledKey_turn (h : PollsLike base row) (hne : base.enabledIdx ≠ [])
    (live : Option Int) (draw : Nat) : ∃ idx, row.getNextEnabledKey live draw =
        .ok (base.keys.getD idx "", idx, some ((idx + 1) % base.keys.length)) ∧
      base.pollFrom (live.getD row.channelInfo.multiKeyPollingIndex) = some idx := by
  have hks : row.keys ≠ [] := by
    intro hnil
    refine hne ?_
    rw [← h.enabledIdx, KeyedChannel.enabledIdx, hnil]
    rfl
  have hpo : ∀ cursor, row.pollFrom cursor = base.pollFrom cursor := by
    intro cursor
    rw [pollFrom, pollFrom, h.keys, h.keyStatus]
  -- the scan is of a ring with an entry, so it finds one
  obtain ⟨idx, hidx⟩ : ∃ idx,
      base.pollFrom (live.getD row.channelInfo.multiKeyPollingIndex) = some idx := by
    have hpos := length_pos_of_ne_nil hne
    rw [pollFrom_eq_scan, scan_eq_turn (pollStart_le _ _), turn, ← enabledIdx_eq]
    exact ⟨_, getElem?_eq_getElem (Nat.mod_lt _ hpos)⟩
  refine ⟨idx, ?_, hidx⟩
  rw [getNextEnabledKey, if_neg (by simp [h.multi]), if_neg hks]
  cases hen : row.enabledIdx with
  | nil => exact absurd (h.enabledIdx.symm.trans hen) hne
  | cons first rest =>
    simp only [h.mode, hpo, hidx, h.keys]

end Spec
end KeyedChannel

/-! ## Requests that load and call -/

/-- A channel in polling mode and the requests that use it. -/
structure KeyPolling (codec : KeyCodec) where
  /-- The row of the database. -/
  row : KeyedChannel codec
  /-- The channel of the memory cache. -/
  cached : KeyedChannel codec
  /-- The entry of `channelPollingIndex`. -/
  live : Option Int := none
  /-- What the requests have loaded. -/
  copies : Nat → Option (KeyedChannel codec) := fun _ => none
  /-- What the calls have returned. -/
  results : List (Except String (String × Nat)) := []

/-- What may happen. -/
inductive PollEvent where
  /-- A request loads the channel. -/
  | load (request : Nat)
  /-- The memory cache is rebuilt from the database. -/
  | sync
  /-- A request calls `GetNextEnabledKey` on its copy; `saved` says whether the transaction of
  `savePollingIndex` goes through, whose error is ignored. -/
  | call (request : Nat) (saved : Bool)
  deriving DecidableEq, Repr

namespace KeyPolling
variable {codec : KeyCodec}

/-- `GetNextEnabledKey` on the copy of a request, which ends with the cursor stored. -/
def callOn (memoryCacheEnabled saved : Bool) (s : KeyPolling codec) (request : Nat)
    (copy : KeyedChannel codec) : KeyPolling codec :=
  match copy.getNextEnabledKey (if memoryCacheEnabled then s.live else none) 0 with
  | .error e => { s with results := s.results ++ [.error e] }
  | .ok (key, idx, none) => { s with results := s.results ++ [.ok (key, idx)] }
  | .ok (key, idx, some nextIndex) =>
      { s with
        results := s.results ++ [.ok (key, idx)]
        copies := Function.update s.copies request (some (copy.savePollingIndex nextIndex))
        live := if memoryCacheEnabled then some (nextIndex : Int) else s.live
        row := if memoryCacheEnabled then s.row
          else if saved then s.row.savePollingIndex nextIndex else s.row }

/-- One step; only a request that has loaded the channel can call. -/
def step (memoryCacheEnabled : Bool) (s : KeyPolling codec) :
    PollEvent → Option (KeyPolling codec)
  | .load request =>
      some { s with
        copies := Function.update s.copies request
          (some (if memoryCacheEnabled then s.cached else s.row)) }
  | .sync => some { s with cached := s.row }
  | .call request saved => (s.copies request).map (s.callOn memoryCacheEnabled saved request)

/-- The copy of a call has the cursor that the row has, and the next one is saved. -/
def UpToDate (s : KeyPolling codec) : PollEvent → Prop
  | .call request saved => saved = true ∧ ∀ copy, s.copies request = some copy →
      copy.channelInfo.multiKeyPollingIndex = s.row.channelInfo.multiKeyPollingIndex
  | _ => True

/-- A step that, with the memory cache off, calls on a copy that is up to date. -/
def TurnStep (memoryCacheEnabled : Bool) (s : KeyPolling codec) (e : PollEvent)
    (s' : KeyPolling codec) : Prop :=
  s.step memoryCacheEnabled e = some s' ∧ (memoryCacheEnabled = false → s.UpToDate e)

/-- Every copy of the channel polls the keys of `base`. -/
structure Polls (base : KeyedChannel codec) (s : KeyPolling codec) : Prop where
  row : base.PollsLike s.row
  cached : base.PollsLike s.cached
  copies : ∀ request copy, s.copies request = some copy → base.PollsLike copy

/-- The cursor that the next call starts from, if it does not come from its copy. -/
def cursor (memoryCacheEnabled : Bool) (s : KeyPolling codec) : Option Int :=
  if memoryCacheEnabled then s.live else some s.row.channelInfo.multiKeyPollingIndex

/-- The calls so far have served `log`, the turns of the enabled keys from `r` on, and the cursor
stands at the next turn. -/
structure InTurn (memoryCacheEnabled : Bool) (base : KeyedChannel codec) (r : Nat)
    (log : List Nat) (s : KeyPolling codec) : Prop where
  polls : s.Polls base
  turns : Turns base.enabledIdx r log
  results : s.results = log.map fun i => .ok (base.keys.getD i "", i)
  next : log ≠ [] → ∃ c < base.keys.length, s.cursor memoryCacheEnabled = some (c : Int) ∧
    rank base.usable c % base.enabledIdx.length = (r + log.length) % base.enabledIdx.length

section Runs
variable {memoryCacheEnabled : Bool} {base : KeyedChannel codec} {s s' : KeyPolling codec}

variable {copy : KeyedChannel codec} {request : Nat}

theorem Polls.update (h : s.Polls base) (hcp : base.PollsLike copy) : ∀ q c,
      Function.update s.copies request (some copy) q = some c → base.PollsLike c := by
  intro q c hc
  rw [Function.update_apply] at hc
  split at hc
  · cases hc
    exact hcp
  · exact h.copies q c hc

variable {saved : Bool}

theorem start_of_cursor {c : Int} (hcp : s.copies request = some copy)
    (hda : memoryCacheEnabled = false → s.UpToDate (.call request saved))
    (hcur : s.cursor memoryCacheEnabled = some c) :
    (if memoryCacheEnabled then s.live else none).getD copy.channelInfo.multiKeyPollingIndex =
      c := by
  cases memoryCacheEnabled with
  | true =>
    have hlv : s.live = some c := hcur
    rw [if_pos rfl, hlv]
    rfl
  | false => exact ((hda rfl).2 copy hcp).trans (Option.some.inj hcur)

theorem InTurn.turn_of_call {r : Nat} {log : List Nat}
    (h : s.InTurn memoryCacheEnabled base r log) (hcp : s.copies request = some copy)
    (hda : memoryCacheEnabled = false → s.UpToDate (.call request saved)) :
    ∃ r', Turns base.enabledIdx r' log ∧
      rank base.usable (base.pollStart ((if memoryCacheEnabled then s.live else none).getD
        copy.channelInfo.multiKeyPollingIndex)) % base.enabledIdx.length =
      (r' + log.length) % base.enabledIdx.length := by
  rcases eq_nil_or_concat log with rfl | ⟨pre, last, hlog⟩
  · -- the first call may start anywhere
    exact ⟨_, turns_nil, rfl⟩
  · obtain ⟨c, hc, hcur, hra⟩ := h.next (by simp [hlog])
    refine ⟨r, h.turns, ?_⟩
    rw [start_of_cursor hcp hda hcur, pollStart_natCast hc, hra]

/-- **A call takes the next turn.** -/
theorem InTurn.call {r : Nat} {log : List Nat} (h : s.InTurn memoryCacheEnabled base r log)
    (hne : base.enabledIdx ≠ []) (hcp : s.copies request = some copy)
    (hda : memoryCacheEnabled = false → s.UpToDate (.call request saved)) :
    ∃ r' idx, (s.callOn memoryCacheEnabled saved request copy).InTurn memoryCacheEnabled base r'
      (log ++ [idx]) := by
  have hli := h.polls.copies request copy hcp
  obtain ⟨idx, hca, hpo⟩ := getNextEnabledKey_turn hli hne
    (if memoryCacheEnabled then s.live else none) 0
  obtain ⟨r', htur, hra⟩ := h.turn_of_call hcp hda
  rw [pollFrom_eq_scan] at hpo
  have hstr := base.pollStart_le
    ((if memoryCacheEnabled then s.live else none).getD copy.channelInfo.multiKeyPollingIndex)
  have htn : turn base.enabledIdx (r' + log.length) = some idx := by
    rw [← turn_mod, ← hra, turn_mod, enabledIdx_eq, ← scan_eq_turn hstr, hpo]
  have hks : 0 < base.keys.length := by
    have hlt := (mem_participants.mp (mem_of_turn htn)).1
    omega
  have hnext : rank base.usable ((idx + 1) % base.keys.length) % base.enabledIdx.length =
      (r' + (log ++ [idx]).length) % base.enabledIdx.length := by
    rw [enabledIdx_eq, rank_next hstr hpo, ← enabledIdx_eq,
      ← Nat.mod_add_mod, hra, Nat.mod_add_mod, length_append, length_singleton, Nat.add_assoc]
  refine ⟨r', idx, ?_, htur.concat htn, ?_, fun _ => ⟨_, Nat.mod_lt _ hks, ?_, hnext⟩⟩
  · rw [callOn, hca]
    refine ⟨?_, h.polls.cached, h.polls.update (hli.savePollingIndex _)⟩
    dsimp only
    split
    · exact h.polls.row
    split
    · exact h.polls.row.savePollingIndex _
    · exact h.polls.row
  · rw [callOn, hca]
    simp [h.results]
  · rw [callOn, hca, cursor]
    cases memoryCacheEnabled with
    | true => rfl
    | false =>
      have hsav := (hda rfl).1
      simp [hsav, savePollingIndex]

/-- What a step keeps. -/
theorem inTurn_step {e : PollEvent} (hne : base.enabledIdx ≠ [])
    (hst : TurnStep memoryCacheEnabled s e s')
    (h : ∃ r log, s.InTurn memoryCacheEnabled base r log) :
    ∃ r log, s'.InTurn memoryCacheEnabled base r log := by
  obtain ⟨r, log, h⟩ := h
  obtain ⟨hst, hda⟩ := hst
  cases e with
  | load request =>
    cases hst
    refine ⟨r, log, { h with polls := ⟨h.polls.row, h.polls.cached, h.polls.update ?_⟩ }⟩
    split
    · exact h.polls.cached
    · exact h.polls.row
  | sync =>
    cases hst
    exact ⟨r, log, { h with polls := ⟨h.polls.row, h.polls.row, h.polls.copies⟩ }⟩
  | call request saved =>
    obtain ⟨copy, hcp, rfl⟩ := Option.map_eq_some_iff.mp hst
    obtain ⟨r', idx, h'⟩ := h.call hne hcp hda
    exact ⟨r', _, h'⟩

/-- **Polling keys take turns.**  From any cursor and through any steps, as many consecutive
calls as there are enabled keys return each of them once.  With the memory cache off, this is for
calls on copies that are up to date. -/
theorem keys_take_turns (memoryCacheEnabled : Bool) {base : KeyedChannel codec}
    (hne : base.enabledIdx ≠ []) {s₀ s : KeyPolling codec} {es : List PollEvent}
    (hpolls : s₀.Polls base) (hstart : s₀.results = [])
    (hrun : Run (TurnStep memoryCacheEnabled) s₀ es s)
    {calls : List (Except String (String × Nat))} (hcalls : calls <:+: s.results)
    (hlen : calls.length = base.enabledIdx.length) :
    ∃ idxs : List Nat, idxs.Nodup ∧ idxs.Perm base.enabledIdx ∧
      calls = idxs.map fun i => .ok (base.keys.getD i "", i) := by
  have h₀ : ∃ r log, s₀.InTurn memoryCacheEnabled base r log :=
    ⟨0, [], hpolls, turns_nil, hstart, fun h => absurd rfl h⟩
  obtain ⟨r, log, h⟩ := hrun.invariant (fun _ _ _ h hst => inTurn_step hne hst h) h₀
  rw [h.results] at hcalls
  obtain ⟨idxs, hwin, rfl⟩ := infix_map_iff.mp hcalls
  rw [length_map] at hlen
  have hnd := h.turns.nodup_of_infix nodup_participants hwin hlen.le
  have hsub : idxs ⊆ base.enabledIdx := fun i hi => h.turns.mem (hwin.subset hi)
  exact ⟨idxs, hnd, (subperm_of_subset hnd hsub).perm_of_length_le hlen.ge, rfl⟩

end Runs

/-- Three keys, of which the second has failed; the cursor is out of range. -/
def threeKeys : KeyedChannel linesOnly :=
  mk'
    { id := 1
      status := .enabled
      channelInfo :=
        { isMultiKey := true
          multiKeySize := 3
          multiKeyMode := .polling
          multiKeyStatusList := [(1, .autoDisabled)]
          multiKeyPollingIndex := 7 } } "a\nb\nc"

/-- Two requests load the channel before either calls. -/
def loadedTogether : List PollEvent := [.load 0, .load 1, .call 0 true, .call 1 true]

theorem keys_take_turns_cached :
    ∃ s, Run (TurnStep true) ⟨threeKeys, threeKeys, none, fun _ => none, []⟩ loadedTogether s ∧
      s.results = [.ok ("a", 0), .ok ("c", 2)] ∧
      ∃ idxs : List Nat, idxs.Nodup ∧ idxs.Perm threeKeys.enabledIdx ∧
        s.results = idxs.map fun i => .ok (threeKeys.keys.getD i "", i) := by
  have hli : threeKeys.PollsLike threeKeys := ⟨rfl, rfl, rfl, rfl⟩
  have hen : threeKeys.enabledIdx = [0, 2] := by decide +kernel
  have hrun : Run (TurnStep true) ⟨threeKeys, threeKeys, none, fun _ => none, []⟩
      loadedTogether _ :=
    Run.foldlM (f := step true) (fun _ _ _ h => ⟨h, Bool.noConfusion⟩) rfl
  refine ⟨_, hrun, rfl, ?_⟩
  refine keys_take_turns true (by rw [hen]; decide) ⟨hli, hli, ?_⟩ rfl hrun infix_rfl ?_
  · rintro _ _ ⟨⟩
  rw [hen]
  rfl

/-- **With the memory cache off, requests that load the channel together get the same key**: both
copies have the cursor that the row had. -/
theorem loaded_together_same_key :
    threeKeys.enabledIdx = [0, 2] ∧
      (loadedTogether.foldlM (step false) ⟨threeKeys, threeKeys, none, fun _ => none, []⟩).map
        (·.results) = some [.ok ("a", 0), .ok ("a", 0)] := by
  exact ⟨by decide +kernel, rfl⟩

end KeyPolling
end NewApi
