import NewApi.ChannelKeys

/-! # What an edit of the keys leaves

What the keys of a channel are for is a list of keys, each with its status (`states`), and an
administrator edits that list: disables or enables one key, deletes some, appends some, or
gives another list.  The code keeps the keys in one text and their status in a map by
position.  This module compares the two.

An edit of the state alone does what it says.  An edit that writes the keys does so if and only
if they are read back (`Stores`): each is one line, the first and the last are not empty, and the
text is not read as a JSON array.  Then the other keys keep their status; after a replacement the
occurrences of a key have, in order, the status of its old occurrences.

Otherwise the text is read as other keys.  If no key is left, the text is empty and `Update`
leaves the column as it is, with the state of the keys gone: all keys that were deleted for
failing are back, and enabled (`deleted_keys_return`). -/
namespace NewApi
open ChannelInfo Entries Function KeyCodec List

/-! ## Reading back what was written -/

theorem not_mem_splitOn {α : Type} [BEq α] [LawfulBEq α] {x : α} {l : List α} :
    ∀ part ∈ l.splitOn x, x ∉ part := by
  induction l with
  | nil => simp
  | cons a l ih =>
    rw [splitOn_cons_eq_if_modifyHead]
    split
    · intro part hpart
      rcases mem_cons.mp hpart with rfl | hmem
      · exact not_mem_nil
      · exact ih part hmem
    · rename_i hne
      cases hsplit : l.splitOn x with
      | nil => exact absurd hsplit (splitOn_ne_nil _ _)
      | cons first rest =>
        rw [hsplit] at ih
        intro part hpart
        rcases mem_cons.mp hpart with rfl | hmem
        · have hfirst := ih first mem_cons_self
          have hax : x ≠ a := fun h => hne (by simp [h])
          simp [hax, hfirst]
        · exact ih part (mem_cons_of_mem _ hmem)

/-- Joined lists start with the first and end with the last. -/
theorem intercalate_ends {α : Type} (x : α) (a b : List α) (ls : List (List α)) :
    (∃ post, [x].intercalate (a :: b :: ls) = a ++ x :: post) ∧
      ∃ pre, [x].intercalate (a :: b :: ls) = pre ++ x :: (b :: ls).getLast (by simp) := by
  induction ls generalizing a b with
  | nil => exact ⟨⟨b, by simp [List.intercalate]⟩, a, by simp [List.intercalate]⟩
  | cons c ls ih =>
    obtain ⟨-, pre, hpre⟩ := ih b c
    rw [intercalate_cons_cons]
    refine ⟨⟨[x].intercalate (b :: c :: ls), by simp⟩, a ++ [x] ++ pre, ?_⟩
    rw [hpre, getLast_cons (cons_ne_nil c ls)]
    simp only [append_assoc]

/-- A text stays as it is when the newlines at its ends are cut off, if it has none there. -/
theorem trim_eq_self_iff {cs : List Char} :
    (cs.dropWhile (· = '\n')).rdropWhile (· = '\n') = cs ↔
      cs.head? ≠ some '\n' ∧ cs.getLast? ≠ some '\n' := by
  constructor
  · intro h
    have hlength := congrArg length h
    have hback := ( rdropWhile_prefix (· = '\n') (cs.dropWhile (· = '\n'))).length_le
    have hfront : cs.dropWhile (· = '\n') = cs := by
      refine (dropWhile_suffix (· = '\n')).eq_of_length_le ?_
      omega
    refine ⟨?_, ?_⟩
    · cases cs with
      | nil => simp
      | cons c cs =>
        intro hc
        obtain rfl := Option.some.inj hc
        have hshort := (dropWhile_suffix (p := (· = '\n')) (l := cs)).length_le
        rw [dropWhile_cons_of_pos (by simp)] at hfront
        have := congrArg length hfront
        simp at this
        omega
    · intro hlast
      obtain ⟨pre, rfl⟩ := getLast?_eq_some_iff.mp hlast
      rw [hfront, rdropWhile_concat_pos _ _ _ (by simp)] at hlength
      have hshort := ( rdropWhile_prefix (· = '\n') pre).length_le
      simp at hlength
      omega
  · rintro ⟨hhead, hlast⟩
    have hfront : cs.dropWhile (· = '\n') = cs := by
      cases cs with
      | nil => rfl
      | cons c cs => exact dropWhile_cons_of_neg (by simpa using hhead)
    rw [hfront]
    rcases eq_nil_or_concat' cs with rfl | ⟨pre, c, rfl⟩
    · rfl
    · exact rdropWhile_concat_neg _ _ _ (by simpa using hlast)

/-- Keys that are the lines of the text that joins them. -/
structure Separable (keys : List String) : Prop where
  line : ∀ key ∈ keys, '\n' ∉ key.toList
  head : keys.head? ≠ some ""
  last : keys.getLast? ≠ some ""

section
variable {keys : List String} (hne : joinLines keys ≠ "")
  (hline : ∀ key ∈ keys, '\n' ∉ key.toList)
include hne hline

/-- The text starts with a newline if the first key is empty, and ends with one if the last is. -/
theorem ends_joinLines :
    ((joinLines keys).toList.head? ≠ some '\n' ↔ keys.head? ≠ some "") ∧
      ((joinLines keys).toList.getLast? ≠ some '\n' ↔ keys.getLast? ≠ some "") := by
  have hkey : ∀ key ∈ keys, key ≠ "" →
      key.toList.head? ≠ some '\n' ∧ key.toList.getLast? ≠ some '\n' ∧ key.toList ≠ [] := by
    intro key hmem hkey
    refine ⟨fun h => hline key hmem (mem_of_head? h), fun h => hline key hmem (mem_of_getLast? h),
      fun h => hkey (String.toList_eq_nil_iff.mp h)⟩
  rw [joinLines, String.toList_ofList]
  match keys with
  | [] => exact absurd rfl hne
  | [key] =>
    have hself : joinLines [key] = key := by simp [joinLines, List.intercalate]
    rw [hself] at hne
    obtain ⟨hhead, hlast, -⟩ := hkey key mem_cons_self hne
    simp [List.intercalate, hhead, hlast, hne]
  | first :: second :: rest =>
    obtain ⟨⟨post, hpost⟩, pre, hpre⟩ :=
      intercalate_ends '\n' first.toList second.toList (rest.map String.toList)
    refine ⟨?_, ?_⟩
    · rw [map_cons, map_cons, hpost]
      by_cases hfirst : first = ""
      · simp [hfirst]
      · obtain ⟨hhead, -, hnil⟩ := hkey first mem_cons_self hfirst
        rw [head?_append_of_ne_nil _ hnil]
        simpa [hfirst] using hhead
    · have hend : (second.toList :: rest.map String.toList).getLast (by simp) =
          ((second :: rest).getLast (by simp)).toList :=
        getLast_map (f := String.toList) (l := second :: rest) (by simp)
      have hmem : (second :: rest).getLast (by simp) ∈ first :: second :: rest :=
        mem_cons_of_mem _ (getLast_mem _)
      rw [map_cons, map_cons, hpre, hend, getLast?_cons_cons,
        getLast?_eq_getLast_of_ne_nil (cons_ne_nil second rest)]
      generalize (second :: rest).getLast (by simp) = last at hmem
      by_cases hlast : last = ""
      · simp [hlast]
      · obtain ⟨-, htail, hnil⟩ := hkey last hmem hlast
        rw [getLast?_append_of_ne_nil _ (cons_ne_nil _ _), getLast?_cons_of_ne_nil hnil]
        simpa [hlast] using htail

end

/-- **When keys are the lines of their text.** -/
theorem keyLines_joinLines_iff {keys : List String} (hne : joinLines keys ≠ "") :
    keyLines (joinLines keys) = keys ↔ Separable keys := by
  let cs := ['\n'].intercalate (keys.map String.toList)
  have htext : (joinLines keys).toList = cs := String.toList_ofList
  have hlines : keyLines (joinLines keys) =
      (((cs.dropWhile (· = '\n')).rdropWhile (· = '\n')).splitOn '\n').map String.ofList := by
    rw [keyLines, trimNewlines, splitLines, String.toList_ofList, htext]
  rw [hlines]
  constructor
  · intro h
    have hparts := congrArg (map String.toList) h
    have hsame : String.toList ∘ String.ofList = id := funext fun _ => String.toList_ofList
    rw [map_map, hsame, map_id] at hparts
    have hself := @intercalate_splitOn _ ((cs.dropWhile (· = '\n')).rdropWhile (· = '\n')) _ _ '\n'
    rw [hparts] at hself
    obtain ⟨hhead, hlast⟩ := trim_eq_self_iff.mp hself.symm
    have hline : ∀ key ∈ keys, '\n' ∉ key.toList := by
      intro key hmem
      exact not_mem_splitOn _ (hparts ▸ mem_map_of_mem hmem)
    obtain ⟨hfirst, hend⟩ := ends_joinLines hne hline
    rw [htext] at hfirst hend
    exact ⟨hline, hfirst.mp hhead, hend.mp hlast⟩
  · intro h
    obtain ⟨hfirst, hend⟩ := ends_joinLines hne h.line
    rw [htext] at hfirst hend
    rw [trim_eq_self_iff.mpr ⟨hfirst.mpr h.head, hend.mpr h.last⟩, splitOn_intercalate '\n']
    · simp [comp_def]
    · intro part hpart
      obtain ⟨key, hkey, rfl⟩ := mem_map.mp hpart
      exact h.line key hkey
    · intro hnil
      rw [map_eq_nil_iff] at hnil
      exact hne (by rw [hnil]; rfl)

/-- The keys are read back from the text that joins them: by an array that the text happens to be,
or by its lines. -/
def ReadBack (codec : KeyCodec) (keys : List String) : Prop :=
  match (if startsArray (joinLines keys) then codec.rawArray (trimSpace (joinLines keys))
    else none) with
  | some read => read = keys
  | none => Separable keys

theorem getKeys_joinLines_iff (codec : KeyCodec) {keys : List String} (hne : joinLines keys ≠ "") :
    codec.getKeys (joinLines keys) = keys ↔ ReadBack codec keys := by
  rw [getKeys, if_neg hne, ReadBack]
  by_cases harr : startsArray (joinLines keys) = true
  · rw [if_pos harr, if_pos harr]
    cases codec.rawArray (trimSpace (joinLines keys)) with
    | none =>
      rw [Option.getD_none]
      exact keyLines_joinLines_iff hne
    | some read => rw [Option.getD_some]
  · rw [if_neg harr, if_neg harr]
    exact keyLines_joinLines_iff hne

/-- Writing `keys` over the text `old` leaves `result`; an empty text is not written. -/
def Stores (codec : KeyCodec) (old : String) (keys result : List String) : Prop :=
  codec.getKeys (if joinLines keys = "" then old else joinLines keys) = result

/-- **When keys are stored as they are.** -/
theorem stores_iff (codec : KeyCodec) (old : String) (keys : List String) :
    Stores codec old keys keys ↔
      if joinLines keys = "" then codec.getKeys old = keys else ReadBack codec keys := by
  unfold Stores
  split
  · rfl
  · rename_i hne
    exact getKeys_joinLines_iff codec hne

/-! ## The keys with their status -/

namespace KeyedChannel
variable {codec : KeyCodec} {row row' : KeyedChannel codec}

/-- The keys of a row, with their status. -/
def states (row : KeyedChannel codec) : List (String × ChannelStatus) :=
  row.keys.mapIdx fun i key => (key, row.channelInfo.keyStatus i)

theorem map_fst_states (row : KeyedChannel codec) : row.states.map Prod.fst = row.keys := by
  simp [states, mapIdx_eq_zipIdx_map, comp_def]

theorem map_fst_mapIdx (keys : List String) (status : Nat → ChannelStatus) :
    (keys.mapIdx fun i key => (key, status i)).map Prod.fst = keys := by
  simp [mapIdx_eq_zipIdx_map, comp_def]

theorem length_states (row : KeyedChannel codec) : row.states.length = row.keys.length := by
  simp [states]

theorem getElem?_states (row : KeyedChannel codec) (i : Nat) :
    row.states[i]? = row.keys[i]?.map fun key => (key, row.channelInfo.keyStatus i) := by
  rw [states, getElem?_mapIdx]

/-- The list that `Update` counts is no shorter than the list of keys. -/
theorem length_getKeys_le (codec : KeyCodec) (key : String) :
    (codec.getKeys key).length ≤ (codec.sizedKeys key).length := by
  rw [getKeys, sizedKeys]
  by_cases hkey : key = ""
  · rw [if_pos hkey, if_pos hkey]
  by_cases harr : startsArray key = true
  · rw [if_pos harr, if_pos harr]
    cases codec.rawArray (trimSpace key) with
    | none => simp
    | some array =>
      cases array with
      | nil | cons k ks => simp
  · rw [if_neg harr, if_neg harr]

theorem isMultiKey_recount (info : ChannelInfo) (size : Nat) :
    (info.recount size).isMultiKey = info.isMultiKey := by
  rw [ChannelInfo.recount]
  split <;> rfl

/-- `Update` forgets no status of a key. -/
theorem keyStatus_recount (info : ChannelInfo) {key : String} {i : Nat}
    (hi : i < (codec.getKeys key).length) :
    (info.recount (codec.sizedKeys key).length).keyStatus i = info.keyStatus i := by
  have hsi := lt_of_lt_of_le hi (length_getKeys_le codec key)
  rw [ChannelInfo.recount]
  split
  · simp only [keyStatus]
    rw [lookup_filter (fun j => decide (j < (codec.sizedKeys key).length)),
      if_pos (by simpa using hsi)]
  · rfl

theorem channelInfo_update (patch : Channel) (key : String)
    (hmul : patch.channelInfo.isMultiKey = true) : (row.update patch key).channelInfo =
      patch.channelInfo.recount (codec.sizedKeys (if key = "" then row.key else key)).length := by
  refine if_neg fun hz => ?_
  have hmul' := isMultiKey_recount patch.channelInfo
    (codec.sizedKeys (if key = "" then row.key else key)).length
  simp only at hz
  rw [hz, hmul] at hmul'
  cases hmul'

/-- **What `Update` stores.** -/
theorem states_update (patch : Channel) (key : String)
    (hmul : patch.channelInfo.isMultiKey = true) : (row.update patch key).states =
      (codec.getKeys (if key = "" then row.key else key)).mapIdx
        fun i k => (k, patch.channelInfo.keyStatus i) := by
  refine ext_getElem? fun i => ?_
  rw [getElem?_states, getElem?_mapIdx, channelInfo_update patch key hmul]
  show ((codec.getKeys (if key = "" then row.key else key))[i]?).map _ = _
  cases hi : (codec.getKeys (if key = "" then row.key else key))[i]? with
  | none => rfl
  | some k =>
    rw [Option.map_some, Option.map_some, keyStatus_recount _ (List.getElem?_eq_some_iff.mp hi).1]

/-! ## Managing single keys -/

/-- What an action asks for, on the keys with their status; `size` is `MultiKeySize`. -/
def KeyAction.effect (size : Nat) (states : List (String × ChannelStatus)) :
    KeyAction → List (String × ChannelStatus)
  | .disableKey (some i) => states.modify i.toNat fun e => (e.1, .manuallyDisabled)
  | .enableKey (some i) => states.modify i.toNat fun e => (e.1, .enabled)
  | .enableAllKeys => states.map fun e => (e.1, .enabled)
  | .disableAllKeys => states.mapIdx fun i e =>
      if i < size ∧ e.2 = .enabled then (e.1, .manuallyDisabled) else e
  | .deleteKey (some i) => states.eraseIdx i.toNat
  | .deleteDisabledKeys => states.filter fun e => decide (e.2 ≠ .autoDisabled)
  | .disableKey none | .enableKey none | .deleteKey none => states

/-- The action writes the keys. -/
def KeyAction.deletes : KeyAction → Bool
  | .deleteKey _ | .deleteDisabledKeys => true
  | _ => false

/-- The keys that the action leaves are stored as they are. -/
def StoresEffect (row : KeyedChannel codec) (action : KeyAction) : Prop :=
  let keys := (action.effect row.channelInfo.multiKeySize row.states).map Prod.fst
  Stores codec row.key keys keys

theorem keyStatus_putEntry (info : ChannelInfo) (i j : Nat) (status : ChannelStatus) :
    ({ info with multiKeyStatusList := putEntry i status info.multiKeyStatusList }).keyStatus j =
      if j = i then status else info.keyStatus j := by
  have hoth : ∀ k, (info.multiKeyStatusList.filter fun e => decide (e.1 ≠ i)).lookup k =
      if decide (k ≠ i) = true then info.multiKeyStatusList.lookup k else none :=
    fun k => lookup_filter (fun k => decide (k ≠ i)) k info.multiKeyStatusList
  have hno : (info.multiKeyStatusList.filter fun e => decide (e.1 ≠ i)).lookup i = none := by
    rw [hoth, if_neg (by simp)]
  simp only [keyStatus, putEntry]
  rw [lookup_concat _ _ _ _ hno, hoth]
  by_cases hj : j = i
  · simp [hj]
  · simp [hj]

theorem keyStatus_deleteEntry (info : ChannelInfo) (i j : Nat) :
    ((deleteEntry i info.multiKeyStatusList).lookup j).getD .enabled =
      if j = i then ChannelStatus.enabled else info.keyStatus j := by
  rw [deleteEntry, lookup_filter (fun k => decide (k ≠ i))]
  by_cases hj : j = i
  · simp [hj]
  · simp [hj, keyStatus]

/-- Disabling positions one after the other. -/
theorem keyStatus_foldl_putEntry (info : ChannelInfo) (targets : List Nat) (j : Nat) :
    ((targets.foldl (fun m i => putEntry i .manuallyDisabled m)
      info.multiKeyStatusList).lookup j).getD .enabled =
      if j ∈ targets then ChannelStatus.manuallyDisabled else info.keyStatus j := by
  induction targets generalizing info with
  | nil => simp [keyStatus]
  | cons i targets ih =>
    have hput := keyStatus_putEntry info i j .manuallyDisabled
    rw [foldl_cons, ih { info with
      multiKeyStatusList := putEntry i .manuallyDisabled info.multiKeyStatusList }, hput]
    by_cases hj : j ∈ targets
    · simp [hj]
    · simp [hj]

theorem states_updateInfo {info : ChannelInfo} (hmul : info.isMultiKey = true) :
    (row.updateInfo info).states = row.keys.mapIdx fun i key => (key, info.keyStatus i) := by
  rw [updateInfo, states_update { row.toChannel with channelInfo := info } row.key hmul,
    ite_self, ← row.keys_eq]

theorem states_setStatus {info : ChannelInfo} {i : Nat} {status : ChannelStatus}
    (hmul : info.isMultiKey = true)
    (hst : ∀ j, info.keyStatus j = if j = i then status else row.channelInfo.keyStatus j) :
    (row.updateInfo info).states = row.states.modify i fun e => (e.1, status) := by
  refine (states_updateInfo hmul).trans (ext_getElem? fun j => ?_)
  simp only [getElem?_mapIdx, getElem?_modify, getElem?_states, hst]
  cases row.keys[j]? with
  | none => rfl
  | some key =>
    by_cases hj : j = i
    · simp [hj]
    · simp [hj, Ne.symm hj]

/-- **What a deletion stores**: what was asked for, if the remaining keys are read back. -/
theorem states_updateKeys {stays noted : Nat → Bool} (hmul : row.channelInfo.isMultiKey = true) :
    (row.updateKeys (row.withoutKeys stays noted)).states = pick stays row.states ↔
      Stores codec row.key (pick stays row.keys) (pick stays row.keys) := by
  have hmul' : (row.withoutKeys stays noted).2.isMultiKey = true := hmul
  have hks : (row.withoutKeys stays noted).1 = pick stays row.keys := rfl
  rw [updateKeys, states_update { row.toChannel with
    channelInfo := (row.withoutKeys stays noted).2 } _ hmul', hks]
  constructor
  · intro h
    have hkeys := congrArg (map Prod.fst) h
    rwa [← pick_map, map_fst_states, map_fst_mapIdx] at hkeys
  intro hstores
  rw [hstores]
  refine ext_getElem? fun j => ?_
  rw [getElem?_mapIdx, getElem?_pick, getElem?_pick, length_states]
  cases hj : (keep stays row.keys.length)[j]? with
  | none => rfl
  | some i =>
    -- the status at the new position is that at the old one
    have hsts : (row.withoutKeys stays noted).2.keyStatus j = row.channelInfo.keyStatus i := by
      simp only [withoutKeys, keyStatus]
      rw [lookup_reindex, getElem?_map, hj]
      by_cases hen : row.channelInfo.keyStatus i = .enabled
      · have hno : (row.channelInfo.multiKeyStatusList.lookup i).getD .enabled =
            ChannelStatus.enabled := hen
        simp [hno]
      · have hso : (row.channelInfo.multiKeyStatusList.lookup i).getD .enabled ≠
            ChannelStatus.enabled := hen
        simp [hso]
    simp only [Option.bind_some, hsts, getElem?_states]

theorem checkKeyIndex_ok {info : ChannelInfo} {keyIndex : Option Int} {missing : String} {i : Nat}
    (h : checkKeyIndex info keyIndex missing = .ok i) : ∃ n, keyIndex = some n ∧ n.toNat = i := by
  rcases keyIndex with _ | n
  · cases h
  simp only [checkKeyIndex] at h
  split at h
  · cases h
  · exact ⟨n, rfl, Except.ok.inj h⟩

open KeyAction

/-- **An action does to the keys and their status what it asks for**, if and only if the keys that
it writes are read back. -/
theorem states_act {action : KeyAction} {message : String}
    (hmul : row.channelInfo.isMultiKey = true) (h : row.act action = .ok (row', message)) :
    row'.states = action.effect row.channelInfo.multiKeySize row.states ↔
      (action.deletes = true → row.StoresEffect action) := by
  have hstate : action.deletes = false →
      row'.states = action.effect row.channelInfo.multiKeySize row.states →
        (row'.states = action.effect row.channelInfo.multiKeySize row.states ↔
          (action.deletes = true → row.StoresEffect action)) := by
    intro hdel heff
    rw [hdel]
    exact ⟨fun _ hc => (by cases hc), fun _ => heff⟩
  rcases action with keyIndex | keyIndex | _ | _ | keyIndex | _
  · simp only [act] at h
    split at h
    · cases h
    rename_i i hidx
    obtain ⟨n, rfl, rfl⟩ := checkKeyIndex_ok hidx
    cases h
    exact hstate rfl (states_setStatus hmul fun j => keyStatus_putEntry _ _ j _)
  · simp only [act] at h
    split at h
    · cases h
    rename_i i hidx
    obtain ⟨n, rfl, rfl⟩ := checkKeyIndex_ok hidx
    cases h
    exact hstate rfl (states_setStatus hmul fun j => keyStatus_deleteEntry _ _ j)
  · simp only [act] at h
    cases h
    refine hstate rfl (Eq.trans (states_updateInfo ?_) (ext_getElem? fun j => ?_))
    · exact hmul
    simp only [effect, getElem?_mapIdx, getElem?_map, getElem?_states]
    cases row.keys[j]? with
    | none | some key => rfl
  · simp only [act] at h
    split at h
    · cases h
    cases h
    refine hstate rfl (Eq.trans (states_updateInfo ?_) (ext_getElem? fun j => ?_))
    · exact hmul
    simp only [effect, getElem?_mapIdx, getElem?_states]
    rw [keyStatus]
    simp only [keyStatus_foldl_putEntry]
    cases row.keys[j]? with
    | none => rfl
    | some key =>
      simp only [Option.map_some, mem_filter, mem_range, decide_eq_true_eq]
      split <;> rfl
  · simp only [act] at h
    split at h
    · cases h
    rename_i i hidx
    obtain ⟨n, rfl, rfl⟩ := checkKeyIndex_ok hidx
    split at h
    · cases h
    cases h
    rw [StoresEffect, effect, ← pick_ne, ← pick_map, map_fst_states, states_updateKeys hmul]
    exact ⟨fun hstores _ => hstores, fun hstores => hstores rfl⟩
  · simp only [act] at h
    split at h
    · cases h
    cases h
    have heff : pick (fun i => decide (row.channelInfo.keyStatus i ≠ .autoDisabled))
        row.states = row.states.filter fun e => decide (e.2 ≠ .autoDisabled) := by
      refine pick_filter _ _ _ fun i e he => ?_
      rw [getElem?_states] at he
      obtain ⟨key, -, rfl⟩ := Option.map_eq_some_iff.mp he
      rfl
    rw [StoresEffect, effect, ← heff, ← pick_map, map_fst_states, states_updateKeys hmul]
    exact ⟨fun hstores _ => hstores, fun hstores => hstores rfl⟩

/-! ## Appending -/

/-- The keys that an append adds. -/
def appendedKeys (origin : KeyedChannel codec) (patch : PatchChannel) : List String :=
  if origin.key = "" then codec.getKeys patch.key
  else match submittedKeys codec patch with
  | .error _ => []
  | .ok newKeys => dedupedKeys (seenKeys origin.keys) newKeys

/-- The keys that an append to a key text writes. -/
def writtenKeys (origin : KeyedChannel codec) (patch : PatchChannel) : List String :=
  let existing := existingKeys codec origin.key
  match submittedKeys codec patch with
  | .error _ => []
  | .ok newKeys => existing ++ dedupedKeys (seenKeys existing) newKeys

theorem isMultiKey_patchedInfo (info : ChannelInfo) (mode : Option MultiKeyMode) :
    (patchedInfo info mode).isMultiKey = info.isMultiKey := by
  rw [patchedInfo.eq_def]
  split <;> rfl

theorem keyStatus_patchedInfo (info : ChannelInfo) (mode : Option MultiKeyMode) (i : Nat) :
    (patchedInfo info mode).keyStatus i = info.keyStatus i := by
  rw [patchedInfo.eq_def]
  split <;> rfl

section Edit
variable {fingerprint : String → String} {envConflict : List String → Option String}
  {refused : Option String} {patch : PatchChannel} {text : String}

/-- **What `UpdateChannel` stores**: the key text and the state that it has made of the request. -/
theorem updateChannel_ok (h : row.updateChannel fingerprint envConflict refused patch = .ok row') :
    ∃ key info, row.editKeys fingerprint patch = .ok (key, info) ∧
      row' = row.update { patch.channel with
        status := .unknown
        channelInfo :=
          if row.channelInfo.isMultiKey = true ∧ key ≠ "" ∧ patch.keyMode ≠ some .append then
            row.carryState info (if key = "" then row.keys else codec.getKeys key)
          else info } key := by
  simp only [updateChannel] at h
  split at h
  · cases h
  split at h
  · cases h
  rename_i key info hed
  split at h
  · cases h
  cases h
  exact ⟨key, info, hed, rfl⟩

/-- What an edit makes of the key text of a channel with several keys. -/
theorem editKeys_multi {key : String} {info : ChannelInfo}
    (hmul : row.channelInfo.isMultiKey = true)
    (h : row.editKeys fingerprint patch = .ok (key, info)) :
    info = patchedInfo row.channelInfo patch.multiKeyMode ∧
      ((patch.keyMode = some .append ∧ row.appendKeys patch = .ok key) ∨
        (patch.keyMode = some .replace ∧ row.replaceKeys patch = .ok key) ∨
        (patch.keyMode ≠ some .append ∧ patch.keyMode ≠ some .replace ∧ patch.key = key)) := by
  have hmul' := (isMultiKey_patchedInfo row.channelInfo patch.multiKeyMode).trans hmul
  have hmap : ∀ text : Except String String,
      text.map (fun key => (key, patchedInfo row.channelInfo patch.multiKeyMode)) =
        .ok (key, info) →
      info = patchedInfo row.channelInfo patch.multiKeyMode ∧ text = .ok key := by
    rintro (e | text) htx
    · cases htx
    cases htx
    exact ⟨rfl, rfl⟩
  rw [editKeys, hmul'] at h
  rcases hm : patch.keyMode with _ | mode
  · rw [hm] at h
    cases h
    exact ⟨rfl, .inr (.inr ⟨nofun, nofun, rfl⟩)⟩
  rcases mode with _ | _ | name
  · rw [hm] at h
    obtain ⟨hin, htx⟩ := hmap _ h
    exact ⟨hin, .inl ⟨rfl, htx⟩⟩
  · rw [hm] at h
    obtain ⟨hin, htx⟩ := hmap _ h
    exact ⟨hin, .inr (.inl ⟨rfl, htx⟩)⟩
  · rw [hm] at h
    cases h
    exact ⟨rfl, .inr (.inr ⟨by simp, by simp, rfl⟩)⟩

/-- An append writes the keys of the channel and the new ones, unless the text looks like an array
and is none: then it finds no keys there. -/
theorem writtenKeys_eq (hkey : row.key ≠ "") (hexist : existingKeys codec row.key = row.keys)
    (h : row.appendKeys patch = .ok text) :
    row.writtenKeys patch = row.keys ++ row.appendedKeys patch := by
  rw [appendKeys, if_neg hkey] at h
  rw [writtenKeys, appendedKeys, if_neg hkey, hexist]
  cases hnew : submittedKeys codec patch with
  | error e =>
    simp only [hnew] at h
    cases h
  | ok newKeys => rfl

/-- The key text of an append is read as the keys of the channel and the new ones, if those that it
writes are. -/
theorem getKeys_appendKeys (h : row.appendKeys patch = .ok text) :
    codec.getKeys (if text = "" then row.key else text) = row.keys ++ row.appendedKeys patch ↔
      (row.key ≠ "" →
        Stores codec row.key (row.writtenKeys patch) (row.keys ++ row.appendedKeys patch)) := by
  rw [appendKeys] at h
  by_cases hkey : row.key = ""
  · rw [if_pos hkey] at h
    obtain rfl : patch.key = text := Except.ok.inj h
    have hemp : row.keys = [] := by rw [row.keys_eq, hkey, getKeys, if_pos rfl]
    have hread : codec.getKeys (if patch.key = "" then row.key else patch.key) =
        row.keys ++ row.appendedKeys patch := by
      rw [appendedKeys, if_pos hkey, hemp, nil_append, hkey]
      by_cases htext : patch.key = ""
      · rw [if_pos htext, htext]
      · rw [if_neg htext]
    exact ⟨fun _ hne => absurd hkey hne, fun _ => hread⟩
  · rw [if_neg hkey] at h
    split at h
    · cases h
    rename_i newKeys hnew
    obtain rfl := Except.ok.inj h
    simp only [Stores, writtenKeys, hnew]
    exact ⟨fun hread _ => hread, fun hread => hread hkey⟩

/-- **An append adds keys after those that are there, which keep their status**, if and only if the
keys that it writes are read back so. -/
theorem states_append (hmul : row.channelInfo.isMultiKey = true)
    (hmo : patch.keyMode = some .append)
    (h : row.updateChannel fingerprint envConflict refused patch = .ok row') :
    (∃ added, row'.states = row.states ++ added ∧ added.map Prod.fst = row.appendedKeys patch) ↔
      (row.key ≠ "" →
        Stores codec row.key (row.writtenKeys patch) (row.keys ++ row.appendedKeys patch)) := by
  obtain ⟨text, info, hed, hrow'⟩ := updateChannel_ok h
  have hmul' := (isMultiKey_patchedInfo row.channelInfo patch.multiKeyMode).trans hmul
  obtain ⟨rfl, ⟨-, happ⟩ | ⟨hoth, -⟩ | ⟨hoth, -, -⟩⟩ := editKeys_multi hmul hed
  · rw [if_neg (by simp [hmo])] at hrow'
    have hstates : row'.states = (codec.getKeys (if text = "" then row.key else text)).mapIdx
        fun i k => (k, row.channelInfo.keyStatus i) := by
      rw [hrow', states_update { patch.channel with
        status := .unknown
        channelInfo := patchedInfo row.channelInfo patch.multiKeyMode } text hmul']
      simp only [keyStatus_patchedInfo]
    rw [← getKeys_appendKeys happ, hstates]
    constructor
    · rintro ⟨added, hadded, hkeys⟩
      have hall := congrArg (map Prod.fst) hadded
      rwa [map_fst_mapIdx, map_append, map_fst_states, hkeys] at hall
    · intro hread
      refine ⟨(row.appendedKeys patch).mapIdx fun i k =>
        (k, row.channelInfo.keyStatus (i + row.keys.length)), ?_, ?_⟩
      · rw [hread, mapIdx_append]
        rfl
      · exact map_fst_mapIdx _ _
  · rw [hmo] at hoth
    cases hoth
  · exact absurd hmo hoth

/-! ## Replacing -/

/-- The list that a replacement gives as JSON keys, if it does. -/
def jsonReplacement (origin : KeyedChannel codec) (patch : PatchChannel) :
    Option (List String) :=
  if patch.vertexJson then
    match replacementKeys codec patch.key with
    | .ok (key :: keys) =>
        some ((key :: keys).map fun key => (origin.originals.lookup key).getD key)
    | _ => none
  else none

/-- The list that a replacement gives. -/
def replacement (origin : KeyedChannel codec) (patch : PatchChannel) : List String :=
  (origin.jsonReplacement patch).getD (codec.getKeys patch.key)

/-- The status of each occurrence of a key, without the blanks around it. -/
def statusesOf (key : String) (states : List (String × ChannelStatus)) : List ChannelStatus :=
  (states.filter fun e => trimSpace e.1 = key).map Prod.snd

/-- The old positions that the occurrences of a key take: those of its old occurrences, in
order, as long as there are some. -/
theorem takeIndexes_filter (indexes : String → List Nat) (keys : List String) (key : String) :
    ((keys.zip (takeIndexes indexes keys)).filter fun e => trimSpace e.1 = key).map Prod.snd =
      ((indexes key).take (keys.countP fun k => trimSpace k = key)).map some ++
        List.replicate ((keys.countP fun k => trimSpace k = key) - (indexes key).length) none := by
  induction keys generalizing indexes with
  | nil => simp [takeIndexes]
  | cons k keys ih =>
    by_cases hk : trimSpace k = key
    · subst hk
      rw [countP_cons_of_pos (by simp)]
      simp only [takeIndexes]
      split
      · rename_i hno
        have hih := ih indexes
        rw [hno] at hih ⊢
        simpa [replicate_succ] using hih
      · rename_i old more hso
        have hih := ih (Function.update indexes (trimSpace k) more)
        rw [update_self] at hih
        rw [hso]
        simpa using hih
    · simp only [takeIndexes]
      split
      · simpa [hk] using ih indexes
      rename_i old more hso
      have hih := ih (Function.update indexes (trimSpace k) more)
      rw [update_of_ne (Ne.symm hk)] at hih
      simpa [hk] using hih

theorem length_takeIndexes (indexes : String → List Nat) (keys : List String) :
    (takeIndexes indexes keys).length = keys.length := by
  induction keys generalizing indexes with
  | nil => rfl
  | cons k keys ih =>
    simp only [takeIndexes]
    split
    · simp [ih]
    · simp [ih]

/-- The status at an old position; a key without one is new. -/
def carriedStatus (info : ChannelInfo) : Option Nat → ChannelStatus
  | none => .enabled
  | some old => info.keyStatus old

theorem keyStatus_carryState (origin : KeyedChannel codec) (info : ChannelInfo)
    (keys : List String) (i : Nat) : (origin.carryState info keys).keyStatus i =
      carriedStatus origin.channelInfo (takeIndexes (oldIndexes origin.keys) keys)[i]?.join := by
  simp only [carryState, keyStatus]
  rw [lookup_reindex]
  cases (takeIndexes (oldIndexes origin.keys) keys)[i]?.join with
  | none | some old => rfl

theorem map_keyStatus_oldIndexes (row : KeyedChannel codec) (key : String) :
    (oldIndexes row.keys key).map row.channelInfo.keyStatus = statusesOf key row.states := by
  have hpi : pick (fun i => decide (row.keys[i]?.map trimSpace = some key)) row.states =
      row.states.filter fun e => trimSpace e.1 = key := by
    refine pick_filter _ _ _ fun i e he => ?_
    rw [getElem?_states] at he
    obtain ⟨k, hk, rfl⟩ := Option.map_eq_some_iff.mp he
    simp [hk]
  rw [statusesOf, ← hpi, pick, length_states, map_filterMap]
  show List.map _ (keep _ _) = _
  rw [← filterMap_eq_map]
  refine filterMap_congr fun i hi => ?_
  obtain ⟨hlt, -⟩ := mem_keep.mp hi
  rw [getElem?_states, getElem?_eq_getElem hlt]
  rfl

/-- The key text of a replacement is read as the list that it gives, if a list of JSON keys is
stored as it is. -/
theorem getKeys_replaceKeys (hkey : patch.key ≠ "") (h : row.replaceKeys patch = .ok text) :
    codec.getKeys (if text = "" then row.key else text) = row.replacement patch ↔
      ∀ keys, row.jsonReplacement patch = some keys → Stores codec row.key keys keys := by
  have hplain : patch.key = text → row.jsonReplacement patch = none →
      (codec.getKeys (if text = "" then row.key else text) = row.replacement patch ↔
        ∀ keys, row.jsonReplacement patch = some keys → Stores codec row.key keys keys) := by
    rintro rfl hnone
    rw [replacement, hnone, if_neg hkey]
    exact ⟨fun _ keys hkeys => (by cases hkeys), fun _ => rfl⟩
  rw [replaceKeys] at h
  by_cases hjs : patch.vertexJson = true
  · rw [if_pos ⟨hjs, hkey⟩] at h
    split at h
    · cases h
    rename_i newKeys hnew
    rcases newKeys with _ | ⟨k, ks⟩
    · refine hplain (Except.ok.inj h) ?_
      rw [jsonReplacement, if_pos hjs, hnew]
    · have hjson : row.jsonReplacement patch =
          some ((k :: ks).map fun key => (row.originals.lookup key).getD key) := by
        rw [jsonReplacement, if_pos hjs, hnew]
      cases h
      rw [replacement, hjson, Option.getD_some]
      constructor
      · rintro hread keys ⟨⟩
        exact hread
      · intro hstores
        exact hstores _ rfl
  · rw [if_neg fun hbo => hjs hbo.1] at h
    refine hplain (Except.ok.inj h) ?_
    rw [jsonReplacement, if_neg hjs]

/-- The occurrences of a key in a list of keys that stays. -/
theorem length_statusesOf (row : KeyedChannel codec) (key : String) :
    (statusesOf key row.states).length = row.keys.countP fun k => trimSpace k = key := by
  rw [statusesOf, length_map, ← countP_eq_length_filter, ← map_fst_states, countP_map]
  rfl

/-- **A replacement stores the list that it gives**, if and only if JSON keys are stored as they
are.  The occurrences of a key have, in order, the status of its old occurrences, and what there is
more of it is enabled. -/
theorem states_replace (hmul : row.channelInfo.isMultiKey = true)
    (hmo : patch.keyMode = some .replace) (hkey : patch.key ≠ "")
    (h : row.updateChannel fingerprint envConflict refused patch = .ok row') :
    (row'.states.map Prod.fst = row.replacement patch ∧
      ∀ key n, n = (row.replacement patch).countP (fun k => trimSpace k = key) →
        statusesOf key row'.states = (statusesOf key row.states).take n ++
          List.replicate (n - (statusesOf key row.states).length) .enabled) ↔
      ∀ keys, row.jsonReplacement patch = some keys → Stores codec row.key keys keys := by
  obtain ⟨text, info, hed, hrow'⟩ := updateChannel_ok h
  have hmul' := (isMultiKey_patchedInfo row.channelInfo patch.multiKeyMode).trans hmul
  obtain ⟨rfl, ⟨hoth, -⟩ | ⟨-, hrep⟩ | ⟨-, hoth, -⟩⟩ := editKeys_multi hmul hed
  · rw [hmo] at hoth
    cases hoth
  · rw [← getKeys_replaceKeys hkey hrep]
    by_cases htx : text = ""
    · -- nothing is written
      rw [if_neg fun hall => hall.2.1 htx] at hrow'
      have hstt : row'.states = row.states := by
        rw [hrow', states_update { patch.channel with
          status := .unknown
          channelInfo := patchedInfo row.channelInfo patch.multiKeyMode } text hmul', if_pos htx,
          ← row.keys_eq]
        simp only [keyStatus_patchedInfo]
        rfl
      rw [hstt, if_pos htx, ← row.keys_eq, map_fst_states]
      refine ⟨And.left, fun hkeys => ⟨hkeys, ?_⟩⟩
      rintro key n rfl
      rw [← hkeys, ← length_statusesOf, take_length, Nat.sub_self, replicate_zero, append_nil]
    rw [if_pos ⟨hmul, htx, by simp [hmo]⟩, if_neg htx] at hrow'
    have hlen := length_takeIndexes (oldIndexes row.keys) (codec.getKeys text)
    -- the keys with their status, through the old positions
    have hstt : row'.states =
        ((codec.getKeys text).zip (takeIndexes (oldIndexes row.keys)
          (codec.getKeys text))).map fun e => (e.1, carriedStatus row.channelInfo e.2) := by
      rw [hrow', states_update { patch.channel with
        status := .unknown
        channelInfo := row.carryState (patchedInfo row.channelInfo patch.multiKeyMode)
          (codec.getKeys text) } text hmul', if_neg htx]
      simp only [keyStatus_carryState]
      exact mapIdx_join (fun k old => (k, carriedStatus row.channelInfo old)) _ _ hlen
    have hkeys : row'.states.map Prod.fst = codec.getKeys text := by
      rw [hstt, map_map]
      exact map_fst_zip (le_of_eq hlen.symm)
    rw [if_neg htx, hkeys]
    refine ⟨And.left, fun hks => ⟨hks, ?_⟩⟩
    rintro key n rfl
    have hta := congrArg (List.map (carriedStatus row.channelInfo))
      (takeIndexes_filter (oldIndexes row.keys) (row.replacement patch) key)
    rw [← row.map_keyStatus_oldIndexes, statusesOf, hstt, hks, filter_map, map_map]
    rw [map_map] at hta
    simpa [comp_def, carriedStatus, map_take] using hta
  · exact absurd hmo hoth

/-- Without a key text the keys stay, with their status. -/
theorem states_noKey (hmul : row.channelInfo.isMultiKey = true)
    (hmo : patch.keyMode ≠ some .append) (hkey : patch.key = "")
    (h : row.updateChannel fingerprint envConflict refused patch = .ok row') :
    row'.states = row.states := by
  obtain ⟨text, info, hed, hrow'⟩ := updateChannel_ok h
  have hmul' := (isMultiKey_patchedInfo row.channelInfo patch.multiKeyMode).trans hmul
  obtain ⟨rfl, hcas⟩ := editKeys_multi hmul hed
  obtain rfl : "" = text := by
    rcases hcas with ⟨happ, -⟩ | ⟨-, hrep⟩ | ⟨-, -, htx⟩
    · exact absurd happ hmo
    · rw [replaceKeys, if_neg fun hbo => hbo.2 hkey, hkey] at hrep
      exact Except.ok.inj hrep
    · rw [← htx, hkey]
  rw [if_neg fun hall => hall.2.1 rfl] at hrow'
  rw [hrow', states_update { patch.channel with
    status := .unknown
    channelInfo := patchedInfo row.channelInfo patch.multiKeyMode } "" hmul', if_pos rfl,
    ← row.keys_eq]
  simp only [keyStatus_patchedInfo]
  rfl

end Edit

/-! ## The state of a key follows the key -/

/-- **What an edit of the keys leaves.**  An action on single keys, an append and a replacement
that report success do to the list of keys with their status what was asked for if and only if the
keys that they write are stored as they are; an empty text is not written.  The keys that an action
does not target then keep their status. -/
theorem key_state_follows (row : KeyedChannel codec) (hmulti : row.channelInfo.isMultiKey = true) :
    (∀ sensitiveWrite action row' message,
      row.manageMultiKeys sensitiveWrite action = .ok (row', message) →
      (row'.states = action.effect row.channelInfo.multiKeySize row.states ↔
        (action.deletes = true → row.StoresEffect action))) ∧
    (∀ fingerprint envConflict refused patch row',
      row.updateChannel fingerprint envConflict refused patch = .ok row' →
      (patch.keyMode = some .append →
        ((∃ added, row'.states = row.states ++ added ∧
            added.map Prod.fst = row.appendedKeys patch) ↔
          (row.key ≠ "" →
            Stores codec row.key (row.writtenKeys patch)
              (row.keys ++ row.appendedKeys patch))) ∧
        (row.key ≠ "" → existingKeys codec row.key = row.keys →
          row.writtenKeys patch = row.keys ++ row.appendedKeys patch)) ∧
      (patch.keyMode = some .replace → patch.key = "" → row'.states = row.states) ∧
      (patch.keyMode = some .replace → patch.key ≠ "" →
        ((row'.states.map Prod.fst = row.replacement patch ∧
          ∀ key n, n = (row.replacement patch).countP (fun k => trimSpace k = key) →
            statusesOf key row'.states = (statusesOf key row.states).take n ++
              List.replicate (n - (statusesOf key row.states).length) .enabled) ↔
          ∀ keys, row.jsonReplacement patch = some keys → Stores codec row.key keys keys))) ∧
    ∀ keys, Stores codec row.key keys keys ↔
      if joinLines keys = "" then row.keys = keys else ReadBack codec keys := by
  refine ⟨?_, ?_, fun keys => row.keys_eq ▸ stores_iff codec row.key keys⟩
  · intro sensitiveWrite action row' message h
    rw [manageMultiKeys, if_neg (by simp [hmulti])] at h
    split at h
    · cases h
    · exact states_act hmulti h
  · intro fingerprint envConflict refused patch row' h
    refine ⟨fun hmo => ⟨states_append hmulti hmo h, fun hkey hexist => ?_⟩,
      fun hmo hkey => states_noKey hmulti (by simp [hmo]) hkey h,
      fun hmo hkey => states_replace hmulti hmo hkey h⟩
    obtain ⟨text, info, hed, -⟩ := updateChannel_ok h
    obtain ⟨-, ⟨-, happ⟩ | ⟨hoth, -⟩ | ⟨hoth, -, -⟩⟩ := editKeys_multi hmulti hed
    · exact writtenKeys_eq hkey hexist happ
    · rw [hmo] at hoth
      cases hoth
    · exact absurd hmo hoth

/-- A decoder that reads no text; the texts below do not look like JSON. -/
def linesOnly : KeyCodec := ⟨fun _ => none, fun _ => .error ""⟩

/-- A channel with these lines for keys, whose keys at some positions were disabled for
failing. -/
def failedAt (key : String) (size : Nat) (failed : List Nat) : KeyedChannel linesOnly :=
  mk' { id := 1
        status := .enabled
        channelInfo :=
          { isMultiKey := true
            multiKeySize := size
            multiKeyStatusList := failed.map fun i => (i, .autoDisabled) } } key

/-- The last of three keys has failed, and the first one is deleted; the second is a blank. -/
theorem key_state_follows_delete :
    ∃ row' message, (failedAt "a\n \nb" 3 [2]).manageMultiKeys true (.deleteKey (some 0)) =
        .ok (row', message) ∧
      row'.states = [(" ", .enabled), ("b", .autoDisabled)] := by
  obtain ⟨hact, -, hstores⟩ := key_state_follows (failedAt "a\n \nb" 3 [2]) rfl
  have heff : (deleteKey (some 0)).effect 3 (failedAt "a\n \nb" 3 [2]).states =
      [(" ", .enabled), ("b", .autoDisabled)] := by decide +kernel
  have hkeys : (failedAt "a\n \nb" 3 [2]).StoresEffect (.deleteKey (some 0)) := by
    refine (hstores _).mpr ?_
    rw [show (failedAt "a\n \nb" 3 [2]).channelInfo.multiKeySize = 3 from rfl, heff,
      if_neg (by decide), ReadBack]
    exact ⟨by decide, by decide, by decide⟩
  exact ⟨_, _, rfl, ((hact true (.deleteKey (some 0)) _ _ rfl).mpr fun _ => hkeys).trans heff⟩

/-- What is seen of an action that reports success. -/
def reported (row : KeyedChannel codec) (action : KeyAction) :
    Option (List (String × ChannelStatus) × String) :=
  (row.manageMultiKeys true action).toOption.map fun r => (r.1.states, r.2)

/-- **Deleting the keys that failed brings them back** when all of them failed: both keys are
reported as deleted, the text stays, and the state of the keys is gone.  And a blank line moves
the status of other keys: when the key before it is deleted, the last key is enabled. -/
theorem deleted_keys_return :
    (reported (failedAt "a\nb" 2 [0, 1]) .deleteDisabledKeys =
        some ([("a", .enabled), ("b", .enabled)], "已删除 2 个自动禁用的密钥") ∧
      deleteDisabledKeys.effect 2 (failedAt "a\nb" 2 [0, 1]).states = []) ∧
    reported (failedAt "a\n\nb" 3 [2]) (.deleteKey (some 0)) = some ([("b", .enabled)], "密钥已删除") ∧
      (deleteKey (some 0)).effect 3 (failedAt "a\n\nb" 3 [2]).states =
        [("", .enabled), ("b", .autoDisabled)] := by
  decide +kernel

end KeyedChannel

end NewApi
