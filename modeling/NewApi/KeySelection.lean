import Mathlib.Data.List.NodupEquivFin
import NewApi.KeyEdits
import NewApi.Steps

/-! # Which key a request gets

A request that goes to a channel with several keys gets one of those that are enabled: the next
one in turn or a random one (`GetNextEnabledKey`), the one that its conversation is pinned to
(`GetStickyEnabledKey`), or the one with a given identity (`EnabledKeyForSlot`).  When the
upstream refuses a key, `UpdateChannelStatus` disables it, and the channel once no key is left.

The three look at every position of the list, whereas a key is disabled by its text, at the first
position that has it.  So a key that a channel has twice is used again (`failed_key_used_again`),
however often it fails.  A key that it has once is not (`failed_key_unused`), until keys are
enabled or replaced. -/
namespace NewApi
open List Steps

namespace KeyedChannel
variable {codec : KeyCodec}

/-! ## The three ways to choose a key -/

def enabledIdx (row : KeyedChannel codec) : List Nat :=
  (List.range row.keys.length).filter fun i => row.channelInfo.keyStatus i = .enabled

/-- The loop of the polling mode, from a cursor. -/
def pollFrom (row : KeyedChannel codec) (start : Int) : Option Nat :=
  let len := row.keys.length
  let start := if start < 0 ∨ (len : Int) ≤ start then 0 else start.toNat
  ((List.range len).map fun i => (start + i) % len).find? fun idx =>
    row.channelInfo.keyStatus idx = .enabled

/-- `GetNextEnabledKey`: the key, its index, and where the cursor goes.  `live` is the cursor of
the process, if it has one, and `draw` the random number. -/
def getNextEnabledKey (row : KeyedChannel codec) (live : Option Int) (draw : Nat) :
    Except String (String × Nat × Option Nat) :=
  if row.channelInfo.isMultiKey = false then .ok (row.key, 0, none)
  else if row.keys = [] then .error "no keys available"
  else match row.enabledIdx with
  | [] => .error "no enabled keys"
  | first :: rest =>
      let firstKey := (row.keys.getD first "", first, none)
      match row.channelInfo.multiKeyMode with
      | .random =>
          let selectedIdx := (first :: rest).getD (draw % (rest.length + 1)) first
          .ok (row.keys.getD selectedIdx "", selectedIdx, none)
      | .polling =>
          match row.pollFrom (live.getD row.channelInfo.multiKeyPollingIndex) with
          | some idx =>
              .ok (row.keys.getD idx "", idx, some ((idx + 1) % row.keys.length))
          | none => .ok firstKey
      | .other _ => .ok firstKey

/-- The key that `GetStickyEnabledKey` has selected so far. -/
structure StickyKey where
  selected : Nat
  cooling : Bool
  best : Nat
  deriving DecidableEq, Repr

/-- One round of the loop of `GetStickyEnabledKey`, for the key at position `i`. -/
def stickyStep (row : KeyedChannel codec) (fingerprint : String → String)
    (coolingDown : String → Bool) (score : String → Nat) (sel : Option StickyKey) (i : Nat) :
    Option StickyKey :=
  if row.channelInfo.keyStatus i ≠ .enabled then sel
  else
    let name := fingerprint (row.keys.getD i "")
    let new : StickyKey := ⟨i, coolingDown name, score name⟩
    match sel with
    | none => some new
    | some old =>
        if (old.cooling && !new.cooling) || (new.cooling == old.cooling && old.best < new.best) then
          some new
        else some old

/-- `GetStickyEnabledKey`; `score` is the hash of the conversation with a fingerprint, and
`coolingDown` says whether a key is cooling down for the model. -/
def getStickyEnabledKey (row : KeyedChannel codec) (fingerprint : String → String)
    (coolingDown : String → Bool) (score : String → Nat) : Except String (String × Nat) :=
  if row.channelInfo.isMultiKey = false then .ok (row.key, 0)
  else if row.keys = [] then .error "no keys available"
  else
    match (List.range row.keys.length).foldl
        (row.stickyStep fingerprint coolingDown score) none with
    | none => .error "no enabled keys"
    | some sel => .ok (row.keys.getD sel.selected "", sel.selected)

def keyIdentitySlot (row : KeyedChannel codec) (fingerprint : String → String) (key : String) :
    String :=
  if row.channelInfo.isMultiKey = false then "0"
  else if fingerprint key = row.channelInfo.multiKeyOriginFingerprint then "0"
  else "k" ++ fingerprint key

def enabledKeyForSlot (row : KeyedChannel codec) (fingerprint : String → String) (slot : String) :
    Option (String × Nat) :=
  if row.channelInfo.isMultiKey = false then if slot = "0" then some (row.key, 0) else none
  else
    ((List.range row.keys.length).find? fun i =>
      row.keyIdentitySlot fingerprint (row.keys.getD i "") = slot &&
        row.channelInfo.keyStatus i = .enabled).map fun i => (row.keys.getD i "", i)

/-! ## A chosen key is enabled -/

variable {row row' row₁ : KeyedChannel codec} {i : Nat}

/-- A position of the list whose status is enabled. -/
theorem mem_states_of_enabled (hi : i < row.keys.length)
    (h : row.channelInfo.keyStatus i = .enabled) : (row.keys.getD i "", .enabled) ∈ row.states := by
  refine mem_of_getElem? (i := i) ?_
  rw [getElem?_states, getElem?_eq_getElem hi, h, getD_eq_getElem?_getD, getElem?_eq_getElem hi]
  rfl

theorem mem_enabledIdx :
    i ∈ row.enabledIdx ↔ i < row.keys.length ∧ row.channelInfo.keyStatus i = .enabled := by
  simp [enabledIdx]

theorem pollFrom_some {start : Int} {idx : Nat} (h : row.pollFrom start = some idx) :
    idx < row.keys.length ∧ row.channelInfo.keyStatus idx = .enabled := by
  obtain ⟨hmem, hen⟩ := And.intro (mem_of_find?_eq_some h) (find?_some h)
  obtain ⟨i, hi, rfl⟩ := mem_map.mp hmem
  have hpos : 0 < row.keys.length := lt_of_le_of_lt (Nat.zero_le i) (mem_range.mp hi)
  exact ⟨Nat.mod_lt _ hpos, by simpa using hen⟩

/-- **`GetNextEnabledKey` gives an enabled key, in every mode.** -/
theorem getNextEnabledKey_enabled (hmul : row.channelInfo.isMultiKey = true)
    {live : Option Int} {draw i : Nat} {key : String} {next : Option Nat}
    (h : row.getNextEnabledKey live draw = .ok (key, i, next)) : (key, .enabled) ∈ row.states := by
  rw [getNextEnabledKey, if_neg (by simp [hmul])] at h
  split at h
  · cases h
  split at h
  · cases h
  rename_i first rest hen
  have hall : ∀ j ∈ first :: rest, (row.keys.getD j "", .enabled) ∈ row.states := by
    intro j hj
    rw [← hen] at hj
    obtain ⟨hlt, hsts⟩ := mem_enabledIdx.mp hj
    exact mem_states_of_enabled hlt hsts
  have hfst := hall first (mem_cons_self ..)
  split at h
  · cases h
    refine hall _ ?_
    have hlt : draw % (rest.length + 1) < (first :: rest).length := Nat.mod_lt _ (Nat.succ_pos _)
    rw [getD_eq_getElem?_getD, getElem?_eq_getElem hlt]
    exact getElem_mem hlt
  · split at h
    · rename_i idx hpo
      cases h
      obtain ⟨hlt, hsts⟩ := pollFrom_some hpo
      exact mem_states_of_enabled hlt hsts
    · cases h
      exact hfst
  · cases h
    exact hfst

variable {fingerprint : String → String} {coolingDown : String → Bool}

/-- What the loop of `GetStickyEnabledKey` has selected is enabled. -/
theorem foldl_stickyStep_enabled
    {score : String → Nat} (positions : List Nat) (sel : Option StickyKey)
    (hin : ∀ i ∈ positions, i < row.keys.length)
    (hsel : ∀ k, sel = some k → (row.keys.getD k.selected "", .enabled) ∈ row.states) :
    ∀ k, positions.foldl (row.stickyStep fingerprint coolingDown score) sel = some k →
      (row.keys.getD k.selected "", .enabled) ∈ row.states := by
  induction positions generalizing sel with
  | nil => exact hsel
  | cons i positions ih =>
    refine ih _ (fun j hj => hin j (mem_cons_of_mem _ hj)) fun k hk => ?_
    rw [stickyStep] at hk
    split at hk
    · exact hsel k hk
    rename_i hsts
    have hnew := mem_states_of_enabled (hin i (mem_cons_self ..)) (not_not.mp hsts)
    simp only at hk
    split at hk
    · cases hk
      exact hnew
    split at hk
    · cases hk
      exact hnew
    · exact hsel k hk

/-- **`GetStickyEnabledKey` gives an enabled key.** -/
theorem getStickyEnabledKey_enabled (hmul : row.channelInfo.isMultiKey = true)
    {score : String → Nat}
    {key : String} (h : row.getStickyEnabledKey fingerprint coolingDown score = .ok (key, i)) :
    (key, .enabled) ∈ row.states := by
  rw [getStickyEnabledKey, if_neg (by simp [hmul])] at h
  split at h
  · cases h
  split at h
  · cases h
  rename_i sel hsel
  cases h
  refine foldl_stickyStep_enabled _ none (fun i hi => mem_range.mp hi) ?_ sel hsel
  rintro _ ⟨⟩

open Option (map_eq_some_iff)

/-- **`EnabledKeyForSlot` gives an enabled key.** -/
theorem enabledKeyForSlot_enabled (hmul : row.channelInfo.isMultiKey = true)
    {slot key : String} (h : row.enabledKeyForSlot fingerprint slot = some (key, i)) :
    (key, .enabled) ∈ row.states := by
  rw [enabledKeyForSlot, if_neg (by simp [hmul])] at h
  obtain ⟨j, hfd, hj⟩ := map_eq_some_iff.mp h
  cases hj
  have hsts := find?_some hfd
  simp only [Bool.and_eq_true, decide_eq_true_eq] at hsts
  exact mem_states_of_enabled (mem_range.mp (mem_of_find?_eq_some hfd)) hsts.2

/-! ## What a status change does to the keys -/

variable {usingKey reason : String}

theorem keys_updateStatus {status : ChannelStatus} {now : Int}
    (h : row.updateStatus usingKey status reason now = some row') :
    row'.keys = row.keys ∧ row'.channelInfo.isMultiKey = row.channelInfo.isMultiKey := by
  obtain ⟨ch, hch, rfl⟩ := map_eq_some_iff.mp h
  have hrou := Channel.route_updateStatus hch
  exact ⟨row.keys_eq.symm, congrArg Channel.Route.isMultiKey hrou⟩

theorem hasEnabledMultiKey_iff (keys : List String) (info : ChannelInfo) :
    hasEnabledMultiKey keys info.multiKeyStatusList = true ↔
      ∃ i < keys.length, info.keyStatus i = .enabled := by
  simp only [hasEnabledMultiKey, any_eq_true, mem_range]
  refine exists_congr fun i => and_congr_right fun _ => ?_
  rw [ChannelInfo.keyStatus]
  cases info.multiKeyStatusList.lookup i with
  | none | some status => simp

/-- Some key of the row is enabled. -/
def HasEnabled (row : KeyedChannel codec) : Prop := ∃ key, (key, .enabled) ∈ row.states

theorem hasEnabled_iff :
    row.HasEnabled ↔ ∃ i < row.keys.length, row.channelInfo.keyStatus i = .enabled := by
  constructor
  · rintro ⟨key, hmem⟩
    obtain ⟨i, hi⟩ := mem_iff_getElem?.mp hmem
    rw [getElem?_states] at hi
    obtain ⟨k, hk, heq⟩ := map_eq_some_iff.mp hi
    exact ⟨i, (List.getElem?_eq_some_iff.mp hk).1, (Prod.mk.inj heq).2⟩
  · rintro ⟨i, hlt, hsts⟩
    exact ⟨_, mem_states_of_enabled hlt hsts⟩

/-- **What `UpdateChannelStatus` does with a status that is not enabled.**  It sets that status at
the first position of the key, and the channel is disabled if no key is left; or it changes no
key, the channel being disabled itself or left as it was. -/
theorem updateStatus_cases {status : ChannelStatus} {now : Int}
    (hmul : row.channelInfo.isMultiKey = true) (hsts : status ≠ .enabled)
    (h : row.updateStatus usingKey status reason now = some row') :
    (∃ i, row.keys.idxOf? usingKey = some i ∧
      row'.states = row.states.modify i (fun e => (e.1, status)) ∧
      (row'.HasEnabled ∨ row'.status = .autoDisabled)) ∨
    (row.keys.idxOf? usingKey = none ∧ row'.states = row.states ∧
      (row'.status = status ∨ row'.status = row.status)) := by
  obtain ⟨hks, -⟩ := keys_updateStatus h
  obtain ⟨ch, hch, hrow'⟩ := map_eq_some_iff.mp h
  have hin : row'.channelInfo = ch.channelInfo ∧ row'.status = ch.status := by
    rw [← hrow']
    exact ⟨rfl, rfl⟩
  -- what is saved is what the handler makes of the row
  have hsav : ch.channelInfo =
      (row.toChannel.handlerMultiKeyUpdate usingKey status reason now).channelInfo ∧
      ch.status = (row.toChannel.handlerMultiKeyUpdate usingKey status reason now).status := by
    rw [Channel.updateStatus] at hch
    split at hch
    · cases hch
    dsimp only at hch
    split at hch
    all_goals
      cases hch
      exact ⟨rfl, rfl⟩
  rw [← hin.1, ← hin.2] at hsav
  obtain ⟨hsvI, hsv⟩ := hsav
  rw [Channel.handlerMultiKeyUpdate] at hsvI hsv
  by_cases hemp : row.keys = []
  · rw [if_pos hemp] at hsvI hsv
    refine .inr ⟨by rw [hemp]; rfl, ?_, .inl hsv⟩
    rw [states, states, hks, hsvI]
  rw [if_neg hemp] at hsvI hsv
  cases hidx : row.keys.idxOf? usingKey with
  | none =>
    simp only [hidx] at hsvI hsv
    refine .inr ⟨rfl, ?_, ?_⟩
    · rw [states, states, hks, hsvI]
      split <;> rfl
    by_cases hkey : usingKey ≠ ""
    · rw [if_pos hkey] at hsv
      exact .inr hsv
    · rw [if_neg hkey] at hsv
      exact .inl hsv
  | some i =>
    simp only [hidx, if_neg hsts] at hsvI hsv
    have hlook : ∀ j, row'.channelInfo.keyStatus j =
        if j = i then status else row.channelInfo.keyStatus j := by
      intro j
      rw [← keyStatus_putEntry, hsvI]
      split <;> rfl
    refine .inl ⟨i, rfl, ?_, ?_⟩
    · refine ext_getElem? fun j => ?_
      rw [getElem?_modify, getElem?_states, getElem?_states, hks, hlook]
      cases row.keys[j]? with
      | none => rfl
      | some key =>
        by_cases hj : j = i
        · simp [hj]
        · simp [hj, Ne.symm hj]
    · by_cases hen : row'.HasEnabled
      · exact .inl hen
      right
      rw [hsv, if_pos]
      rw [Bool.eq_false_iff]
      intro hhas
      obtain ⟨j, hlt, hj⟩ := (hasEnabledMultiKey_iff row.keys { row.channelInfo with
        multiKeyStatusList := putEntry i status row.channelInfo.multiKeyStatusList }).mp hhas
      rw [keyStatus_putEntry, ← hlook] at hj
      exact hen (hasEnabled_iff.mpr ⟨j, hks.symm ▸ hlt, hj⟩)

/-! ## What may happen to a channel -/

/-- What may happen to the row of a channel with several keys. -/
inductive KeyEvent where
  /-- `UpdateChannelStatus` -/
  | status (usingKey : String) (status : ChannelStatus) (reason : String) (now : Int)
  /-- `savePollingIndex`, of a request that has taken its turn. -/
  | poll (index : Int)
  /-- `ManageMultiKeys` -/
  | manage (sensitiveWrite : Bool) (action : KeyAction)
  /-- `UpdateChannel` -/
  | edit (envConflict : List String → Option String) (refused : Option String)
      (patch : PatchChannel)

/-- An administrator manages single keys. -/
def KeyEvent.managesKeys : KeyEvent → Bool
  | .manage .. => true
  | _ => false

section Runs
variable (fingerprint : String → String)

/-- One step; what is refused leaves the row. -/
def apply (row : KeyedChannel codec) : KeyEvent → KeyedChannel codec
  | .status usingKey status reason now => (row.updateStatus usingKey status reason now).getD row
  | .poll index =>
      mk' { row.toChannel with
        channelInfo := { row.channelInfo with multiKeyPollingIndex := index } } row.key
  | .manage sensitiveWrite action =>
      match row.manageMultiKeys sensitiveWrite action with
      | .error _ => row
      | .ok (row', _) => row'
  | .edit envConflict refused patch =>
      match row.updateChannel fingerprint envConflict refused patch with
      | .error _ => row
      | .ok row' => row'

/-- The event enables no key, replaces none and does not bring `key`; keys that it writes can be
read back. -/
def Leaves (key : String) (row : KeyedChannel codec) : KeyEvent → Prop
  | .status _ status _ _ => status ≠ .enabled
  | .poll _ => True
  | .manage _ (.enableKey _) | .manage _ .enableAllKeys => False
  | .manage _ action => action.deletes = true → row.StoresEffect action
  | .edit _ _ patch =>
      if patch.keyMode = some .append then
        key ∉ row.appendedKeys patch ∧
          (row.key ≠ "" →
            Stores codec row.key (row.writtenKeys patch) (row.keys ++ row.appendedKeys patch))
      else patch.key = ""

/-- A step that enables no key and replaces none. -/
def QuietStep (key : String) (row : KeyedChannel codec) (e : KeyEvent)
    (row' : KeyedChannel codec) : Prop :=
  row' = row.apply fingerprint e ∧ row.Leaves key e

/-! ## A key that is disabled stays so -/

/-- No occurrence of the key is enabled. -/
structure Retired (key : String) (row : KeyedChannel codec) : Prop where
  multi : row.channelInfo.isMultiKey = true
  disabled : (key, .enabled) ∉ row.states

/-- The channel is disabled unless another key is enabled. -/
def Guarded (key : String) (row : KeyedChannel codec) : Prop :=
  (∀ other, other ≠ key → (other, .enabled) ∉ row.states) → row.status ≠ .enabled

variable {fingerprint} {key : String} {e : KeyEvent} {states : List (String × ChannelStatus)}

theorem not_mem_modify {status : ChannelStatus} (i : Nat)
    (hsts : status ≠ .enabled) (h : (key, .enabled) ∉ states) :
    (key, .enabled) ∉ states.modify i fun e => (e.1, status) := by
  intro hmem
  obtain ⟨j, hj⟩ := mem_iff_getElem?.mp hmem
  rw [getElem?_modify] at hj
  obtain ⟨old, hold, hnew⟩ := map_eq_some_iff.mp hj
  split at hnew
  · exact hsts (Prod.mk.inj hnew).2
  · exact h (hnew ▸ mem_of_getElem? hold)

theorem guarded_of_left (hdis : (key, .enabled) ∉ row.states)
    (h : row.HasEnabled ∨ row.status = .autoDisabled) : Guarded key row := by
  intro hot
  rcases h with ⟨other, hen⟩ | hau
  · by_cases hoth : other = key
    · exact absurd (hoth ▸ hen) hdis
    · exact absurd hen (hot other hoth)
  · rw [hau]
    decide

theorem not_mem_effect {size : Nat} {action : KeyAction}
    (hen : ∀ i, action ≠ .enableKey i) (hall : action ≠ .enableAllKeys)
    (h : (key, .enabled) ∉ states) : (key, .enabled) ∉ action.effect size states := by
  rcases action with (_ | i) | i | _ | _ | (_ | i) | _
  · exact h
  · exact not_mem_modify _ (by decide) h
  · exact absurd rfl (hen i)
  · exact absurd rfl hall
  · intro hmem
    obtain ⟨j, hj⟩ := mem_iff_getElem?.mp hmem
    rw [KeyAction.effect, getElem?_mapIdx] at hj
    obtain ⟨old, hold, hnew⟩ := map_eq_some_iff.mp hj
    split at hnew
    · cases hnew
    · exact h (hnew ▸ mem_of_getElem? hold)
  · exact h
  · exact fun hmem => h ((eraseIdx_sublist ..).subset hmem)
  · exact fun hmem => h (mem_filter.mp hmem).1

/-! ### The steps keep a channel with several keys, and its status -/

theorem update_keeps {patch : Channel} {text : String} (hmul : patch.channelInfo.isMultiKey = true)
    (hsts : patch.status = .unknown ∨ patch.status = row.status) :
    (row.update patch text).channelInfo.isMultiKey = true ∧
      (row.update patch text).status = row.status := by
  constructor
  · rw [channelInfo_update patch text hmul, isMultiKey_recount, hmul]
  show (if patch.status = .unknown then row.status else patch.status) = row.status
  rcases hsts with h | h
  · rw [if_pos h]
  · rw [h, ite_self]

section
variable (hmul : row.channelInfo.isMultiKey = true)
include hmul

theorem manageMultiKeys_act {sensitiveWrite : Bool} {action : KeyAction} {message : String}
    (h : row.manageMultiKeys sensitiveWrite action = .ok (row', message)) :
    row.act action = .ok (row', message) := by
  rw [manageMultiKeys, if_neg (by simp [hmul])] at h
  split at h
  · cases h
  · exact h

/-- Every action stores a state of the keys through `Update`. -/
theorem act_keeps {action : KeyAction} {message : String}
    (h : row.act action = .ok (row', message)) :
    row'.channelInfo.isMultiKey = true ∧ row'.status = row.status := by
  have hupd : ∃ info text, info.isMultiKey = true ∧
      row' = row.update { row.toChannel with channelInfo := info } text := by
    cases action with
    | enableAllKeys =>
      cases h
      refine ⟨_, _, ?_, rfl⟩
      exact hmul
    | deleteKey keyIndex =>
      simp only [act] at h
      split at h
      · cases h
      split at h
      · cases h
      cases h
      refine ⟨_, _, ?_, rfl⟩
      exact hmul
    | disableKey _ | enableKey _ | disableAllKeys | deleteDisabledKeys =>
      simp only [act] at h
      split at h
      · cases h
      cases h
      refine ⟨_, _, ?_, rfl⟩
      exact hmul
  obtain ⟨info, text, hin, rfl⟩ := hupd
  exact update_keeps hin (.inr rfl)

theorem updateChannel_keeps {envConflict : List String → Option String} {refused : Option String}
    {patch : PatchChannel}
    (h : row.updateChannel fingerprint envConflict refused patch = .ok row') :
    row'.channelInfo.isMultiKey = true ∧ row'.status = row.status := by
  obtain ⟨text, info, hed, hrow'⟩ := updateChannel_ok h
  have hmul' := (isMultiKey_patchedInfo row.channelInfo patch.multiKeyMode).trans hmul
  obtain ⟨rfl, -⟩ := editKeys_multi hmul hed
  rw [hrow']
  refine update_keeps ?_ (.inl rfl)
  split
  · exact hmul'
  · exact hmul'

end

/-! ### Steps and runs -/

/-- **What an event leaves of the keys**: the same keys or fewer with the status of some changed to
another than enabled, or the same and others after them.  Without an administrator who disables or
deletes single keys, the channel does not stay enabled without a key. -/
theorem retired_step (h : Retired key row) (hst : QuietStep fingerprint key row e row') :
    Retired key row' ∧ (e.managesKeys = false → Guarded key row → Guarded key row') := by
  obtain ⟨rfl, hqui⟩ := hst
  obtain ⟨hmul, hdis⟩ := h
  rcases e with ⟨usingKey, status, reason, now⟩ | index | ⟨sensitiveWrite, action⟩ |
    ⟨envConflict, refused, patch⟩
  · cases hupd : row.updateStatus usingKey status reason now with
    | none =>
      simp only [apply, hupd, Option.getD_none]
      exact ⟨⟨hmul, hdis⟩, fun _ hgua => hgua⟩
    | some row₁ =>
      simp only [apply, hupd, Option.getD_some]
      have hmul₁ := (keys_updateStatus hupd).2.trans hmul
      rcases updateStatus_cases hmul hqui hupd with
        ⟨i, -, hstt, hlf⟩ | ⟨-, hstt, hsm⟩
      · have hdis₁ := not_mem_modify i hqui hdis
        rw [← hstt] at hdis₁
        exact ⟨⟨hmul₁, hdis₁⟩, fun _ _ => guarded_of_left hdis₁ hlf⟩
      · refine ⟨⟨hmul₁, hstt ▸ hdis⟩, fun _ hgua hot => ?_⟩
        rcases hsm with hset | hsm
        · rw [hset]
          exact hqui
        · rw [hsm]
          exact hgua fun other hoth => hstt ▸ hot other hoth
  · have hstt : (row.apply fingerprint (.poll index)).states = row.states := by
      have hks : (row.apply fingerprint (.poll index)).keys = row.keys := row.keys_eq.symm
      rw [states, hks]
      rfl
    exact ⟨⟨hmul, hstt ▸ hdis⟩, fun _ hgua hot =>
      hgua fun other hoth => hstt ▸ hot other hoth⟩
  · cases hman : row.manageMultiKeys sensitiveWrite action with
    | error message =>
      simp only [apply, hman]
      exact ⟨⟨hmul, hdis⟩, fun _ hgua => hgua⟩
    | ok result =>
      obtain ⟨row₁, message⟩ := result
      simp only [apply, hman]
      have hact := manageMultiKeys_act hmul hman
      refine ⟨⟨(act_keeps hmul hact).1, ?_⟩, fun hno => by cases hno⟩
      have hen : ∀ i, action ≠ .enableKey i := by
        rintro i rfl
        exact hqui
      have hall : action ≠ .enableAllKeys := by
        rintro rfl
        exact hqui
      have hstores : action.deletes = true → row.StoresEffect action := by
        cases action with
        | enableKey _ | enableAllKeys => exact hqui.elim
        | disableKey _ | disableAllKeys | deleteKey _ | deleteDisabledKeys => exact hqui
      rw [(states_act hmul hact).mpr hstores]
      exact not_mem_effect hen hall hdis
  · cases hed : row.updateChannel fingerprint envConflict refused patch with
    | error message =>
      simp only [apply, hed]
      exact ⟨⟨hmul, hdis⟩, fun _ hgua => hgua⟩
    | ok row₁ =>
      simp only [apply, hed]
      obtain ⟨hmul₁, hsts⟩ := updateChannel_keeps hmul hed
      -- the keys are still there, perhaps with others after them
      obtain ⟨added, hstt, hnew⟩ : ∃ added, row₁.states = row.states ++ added ∧
          (key, .enabled) ∉ added := by
        rw [Leaves] at hqui
        by_cases hmo : patch.keyMode = some .append
        · rw [if_pos hmo] at hqui
          obtain ⟨added, hstt, hadd⟩ := (states_append hmul hmo hed).mpr hqui.2
          exact ⟨added, hstt, fun hmem => hqui.1 (hadd ▸ mem_map_of_mem hmem)⟩
        · rw [if_neg hmo] at hqui
          refine ⟨[], ?_, not_mem_nil⟩
          rw [states_noKey hmul hmo hqui hed, append_nil]
      refine ⟨⟨hmul₁, ?_⟩, fun _ hgua hot => ?_⟩
      · rw [hstt, mem_append]
        exact not_or.mpr ⟨hdis, hnew⟩
      · rw [hsts]
        refine hgua fun other hoth hmem => hot other hoth ?_
        rw [hstt]
        exact mem_append_left _ hmem

theorem position_unique {keys : List String} {i j : Nat} (hon : keys.count key = 1)
    (hi : keys[i]? = some key) (hj : keys[j]? = some key) : i = j := by
  by_contra hne
  obtain ⟨hilt, hik⟩ := List.getElem?_eq_some_iff.mp hi
  obtain ⟨hjlt, hjk⟩ := List.getElem?_eq_some_iff.mp hj
  have hdup : List.Duplicate key keys := by
    rw [duplicate_iff_exists_distinct_get]
    rcases Nat.lt_or_gt_of_ne hne with hlt | hgt
    · exact ⟨⟨i, hilt⟩, ⟨j, hjlt⟩, hlt, hik.symm, hjk.symm⟩
    · exact ⟨⟨j, hjlt⟩, ⟨i, hilt⟩, hgt, hjk.symm, hik.symm⟩
  have htwo := duplicate_iff_two_le_count.mp hdup
  omega

theorem retired_of_failed {reason : String} {now : Int}
    (hmul : row.channelInfo.isMultiKey = true) (hon : row.keys.count key = 1)
    (h : row.updateStatus key .autoDisabled reason now = some row') :
    Retired key row' ∧ Guarded key row' := by
  have hmem : key ∈ row.keys := count_pos_iff.mp (by omega)
  rcases updateStatus_cases hmul (by decide) h with ⟨i, hidx, hstt, hlf⟩ | ⟨hidx, -, -⟩
  · have hret : Retired key row' := by
      refine ⟨(keys_updateStatus h).2.trans hmul, ?_⟩
      rw [hstt]
      intro hen
      obtain ⟨j, hj⟩ := mem_iff_getElem?.mp hen
      rw [getElem?_modify, getElem?_states] at hj
      obtain ⟨old, hold, hnew⟩ := map_eq_some_iff.mp hj
      obtain ⟨k, hk, rfl⟩ := map_eq_some_iff.mp hold
      by_cases hij : i = j
      · rw [if_pos hij] at hnew
        cases hnew
      -- then the key would be at two positions
      rw [if_neg hij] at hnew
      obtain rfl : k = key := (Prod.mk.inj hnew).1
      obtain ⟨hlt, hi, -⟩ := idxOf?_eq_some_iff.mp hidx
      exact hij (position_unique hon (List.getElem?_eq_some_iff.mpr ⟨hlt, hi⟩) hk)
    exact ⟨hret, guarded_of_left hret.disabled hlf⟩
  · exact absurd hmem (List.idxOf?_eq_none_iff.mp hidx)

/-- A run keeps the key disabled, and the channel too unless single keys were managed. -/
theorem retired_run {es : List KeyEvent} (h : Retired key row)
    (hrun : Run (QuietStep fingerprint key) row es row') : Retired key row' ∧
      ((∀ e ∈ es, e.managesKeys = false) → Guarded key row → Guarded key row') := by
  induction hrun with
  | nil => exact ⟨h, fun _ hgua => hgua⟩
  | cons hst _ ih =>
    obtain ⟨hnext, hkee⟩ := retired_step h hst
    obtain ⟨hret, hgua⟩ := ih hnext
    refine ⟨hret, fun hno hstr => hgua (fun e he => ?_) ?_⟩
    · exact hno e (mem_cons_of_mem _ he)
    · exact hkee (hno _ (mem_cons_self ..)) hstr

/-- **A key that failed is not used again**, if the channel has it once: after
`UpdateChannelStatus` has disabled it, and as long as keys are neither enabled nor replaced, no
request gets it, in any mode; and the channel is disabled when no other key is enabled, unless
an administrator has disabled or deleted the others since. -/
theorem failed_key_unused (fingerprint : String → String) {key reason : String} {now : Int}
    {es : List KeyEvent} (hmulti : row.channelInfo.isMultiKey = true)
    (honce : row.keys.count key = 1)
    (hfailed : row.updateStatus key .autoDisabled reason now = some row₁)
    (hrun : Run (QuietStep fingerprint key) row₁ es row') :
    (∀ live draw i next, row'.getNextEnabledKey live draw ≠ .ok (key, i, next)) ∧
    (∀ coolingDown score i, row'.getStickyEnabledKey fingerprint coolingDown score ≠ .ok (key, i)) ∧
    (∀ slot i, row'.enabledKeyForSlot fingerprint slot ≠ some (key, i)) ∧
    ((∀ e ∈ es, e.managesKeys = false) →
      (∀ other, other ≠ key → (other, .enabled) ∉ row'.states) → row'.status ≠ .enabled) := by
  obtain ⟨hret, hgua⟩ := retired_of_failed hmulti honce hfailed
  obtain ⟨⟨hmul', hdis⟩, hgua'⟩ := retired_run hret hrun
  refine ⟨?_, ?_, ?_, fun hno => hgua' hno hgua⟩
  · exact fun live draw i next h => hdis (getNextEnabledKey_enabled hmul' h)
  · exact fun coolingDown score i h => hdis (getStickyEnabledKey_enabled hmul' h)
  · exact fun slot i h => hdis (enabledKeyForSlot_enabled hmul' h)

end Runs

/-- A channel with two keys, of which the first one has failed. -/
def firstFailed (mode : MultiKeyMode) : KeyedChannel linesOnly :=
  mk' { id := 1
        status := .enabled
        channelInfo :=
          { isMultiKey := true
            multiKeySize := 2
            multiKeyMode := mode
            multiKeyStatusList := [(0, .autoDisabled)] } } "a\nb"

/-- A request that was under way saves the cursor, and an administrator appends both keys again. -/
def appendsAgain : List KeyEvent :=
  [.poll 1, .edit (fun _ => none) none
    { channel := { id := 1 }, keyMode := some .append, key := "b\na" }]

/-- Then the other key fails too. -/
theorem failed_key_unused_two :
    ∃ row₁ row', (firstFailed .polling).updateStatus "b" .autoDisabled "401" 2 = some row₁ ∧
      Run (QuietStep id "b") row₁ appendsAgain row' ∧
      row'.states = [("a", .autoDisabled), ("b", .autoDisabled)] ∧
      (∀ live draw i next, row'.getNextEnabledKey live draw ≠ .ok ("b", i, next)) ∧
      row'.status ≠ .enabled := by
  have hmulti : (firstFailed .polling).channelInfo.isMultiKey = true := rfl
  have honce : (firstFailed .polling).keys.count "b" = 1 := by decide +kernel
  let row₁ := ((firstFailed .polling).updateStatus "b" .autoDisabled "401" 2).get
    (by decide +kernel)
  have hfailed : (firstFailed .polling).updateStatus "b" .autoDisabled "401" 2 = some row₁ :=
    (Option.some_get _).symm
  have hrun : Run (QuietStep id "b") row₁ appendsAgain (appendsAgain.foldl (apply id) row₁) := by
    refine .cons ⟨rfl, trivial⟩ (.cons ⟨rfl, ?_⟩ (.nil _))
    rw [Leaves, if_pos rfl]
    exact ⟨by decide +kernel, fun _ => by unfold Stores; decide +kernel⟩
  have hstates : (appendsAgain.foldl (apply id) row₁).states =
      [("a", .autoDisabled), ("b", .autoDisabled)] := by decide +kernel
  obtain ⟨hnext, -, -, hclosed⟩ := failed_key_unused id hmulti honce hfailed hrun
  refine ⟨row₁, _, hfailed, hrun, hstates, hnext, hclosed (by decide) ?_⟩
  intro other hother hmem
  rw [hstates] at hmem
  simp at hmem

/-- The channel that `AddChannel` makes of this key text. -/
def added (key : String) : Option (KeyedChannel linesOnly) :=
  match addMultiKey .polling { channel := { id := 1 }, key := key } with
  | .ok row => row
  | .error _ => none

/-- What is seen of a channel: the status of its keys, its own, and which key the next request
gets. -/
def seen (row : KeyedChannel codec) :
    List (String × ChannelStatus) × ChannelStatus × Option (String × Nat) :=
  (row.states, row.status, (row.getNextEnabledKey none 0).toOption.map fun r => (r.1, r.2.1))

/-- **A key that a channel has twice is used again.**  It is disabled at its first position, and
enabled at the second; the channel, which has no other key, stays enabled.  A channel also stays
enabled when one key has failed and an administrator disables the other one. -/
theorem failed_key_used_again :
    ((added "k\nk").bind fun row =>
        (row.updateStatus "k" .autoDisabled "401" 1).map seen) =
      some ([("k", .autoDisabled), ("k", .enabled)], .enabled, some ("k", 1)) ∧
    seen ((firstFailed .polling).apply id (.manage false (.disableKey (some 1)))) =
      ([("a", .autoDisabled), ("b", .manuallyDisabled)], .enabled, none) := by
  decide +kernel

end KeyedChannel

end NewApi
