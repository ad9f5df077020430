import NewApi.FirstBest
import NewApi.KeySelection

/-! # Conversations stay on their key

`GetStickyEnabledKey` pins a conversation to a key by rendezvous hashing: every enabled key has a
score with the conversation, and the highest score wins.  A key that cools down comes after every
key that does not.

The loop of the function keeps one selected key and replaces it by a better one.  What it returns
is the first best of the positions (`getStickyEnabledKey_eq`), so it does not depend on keys that
lose.  From this comes what the function promises: a conversation moves only when its key goes,
starts to cool down, or is beaten by a key that is new or ready again
(`sticky_moves_only_when_it_must`).  The hash is any function, and keys may tie. -/
namespace NewApi
open FirstBest List

/-! ## Cooldowns -/

/-- `channelCooldowns`: until when a key cools down. -/
abbrev Cooldowns := List (String × Int)

def channelKeyCooldownKey (channelId : Int) (fingerprint modelName : String) : String :=
  toString channelId ++ "/" ++ fingerprint ++ ":" ++ modelName

/-- `markCooldown`: a later deadline stays. -/
def Cooldowns.markCooldown (table : Cooldowns) (key : String) (deadline : Int) : Cooldowns :=
  match table.lookup key with
  | none => (key, deadline) :: table
  | some current => if current < deadline then (key, deadline) :: table else table

def Cooldowns.markChannelKeyCooldown (table : Cooldowns) (fingerprint : String → String)
    (channelId : Int) (key modelName : String) (deadline : Int) : Cooldowns :=
  table.markCooldown (channelKeyCooldownKey channelId (fingerprint key) modelName) deadline

/-- `coolingDown`.  An entry that has expired is removed from the map, which no reading after it
can tell. -/
def Cooldowns.coolingDown (table : Cooldowns) (now : Int) (key : String) : Bool :=
  match table.lookup key with
  | none => false
  | some deadline => now < deadline

/-- The fingerprints that cool down for a model of a channel. -/
def Cooldowns.coolingKeys (table : Cooldowns) (now channelId : Int) (modelName : String)
    (fingerprint : String) : Bool :=
  table.coolingDown now (channelKeyCooldownKey channelId fingerprint modelName)

theorem channelKeyCooldownKey_injective (channelId : Int) (modelName : String) :
    Function.Injective (channelKeyCooldownKey channelId · modelName) := by
  intro f g h
  have hli := congrArg String.toList h
  simp only [channelKeyCooldownKey, String.toList_append, append_assoc] at hli
  have hta := append_cancel_left (append_cancel_left hli)
  rw [← append_assoc, ← append_assoc] at hta
  exact String.toList_injective (append_cancel_right (append_cancel_right hta))

theorem Cooldowns.lookup_markCooldown (table : Cooldowns) {key other : String} (deadline : Int)
    (hne : other ≠ key) : (table.markCooldown key deadline).lookup other = table.lookup other := by
  have hkey : (other == key) = false := by simpa using hne
  unfold markCooldown
  split
  · rw [lookup_cons, hkey]
  split
  · rw [lookup_cons, hkey]
  · rfl

/-- **Marking a key cools down its fingerprint only.** -/
theorem Cooldowns.coolingKeys_mark (table : Cooldowns) (fingerprint : String → String)
    (now channelId : Int) (key modelName : String) (deadline : Int) {other : String}
    (hne : other ≠ fingerprint key) :
    (table.markChannelKeyCooldown fingerprint channelId key modelName deadline).coolingKeys now
        channelId modelName other = table.coolingKeys now channelId modelName other := by
  have hkey := (channelKeyCooldownKey_injective channelId modelName).ne hne
  unfold coolingKeys coolingDown markChannelKeyCooldown
  rw [lookup_markCooldown _ _ hkey]

namespace KeyedChannel
variable {codec : KeyCodec}

/-! ## What the loop selects -/

section Rank
variable (row : KeyedChannel codec) (fingerprint : String → String) (coolingDown : String → Bool)
  (score : String → Nat)

/-- The scores of the positions with an enabled key. -/
def stickyScore (i : Nat) : Option Nat :=
  match row.states[i]? with
  | some (key, .enabled) => some (score (fingerprint key))
  | _ => none

/-- The key at a position is not cooling down. -/
def stickyReady (i : Nat) : Bool := !coolingDown (fingerprint (row.keys.getD i ""))

/-- The order of the loop: a ready key before a cooling one, then the score. -/
def stickyRank : Nat → Option (Bool ×ₗ Nat) :=
  FirstBest.lex (row.stickyReady fingerprint coolingDown) (row.stickyScore fingerprint score)

/-- The key at position `i` is the winner among the ready keys. -/
def ReadyWinner (i : Nat) : Prop :=
  ∃ c, FirstBest (onlyReady (row.stickyReady fingerprint coolingDown)
    (row.stickyScore fingerprint score)) i c

end Rank

section Spec
variable {row row' : KeyedChannel codec} {fingerprint : String → String}
  {coolingDown coolingDown' : String → Bool} {score : String → Nat} {i j : Nat} {key : String}

theorem stickyScore_eq (hi : i < row.keys.length) : row.stickyScore fingerprint score i =
      if row.channelInfo.keyStatus i = .enabled then some (score (fingerprint (row.keys.getD i "")))
      else none := by
  have hget : row.keys.getD i "" = row.keys[i] := by
    rw [getD_eq_getElem?_getD, getElem?_eq_getElem hi]
    rfl
  rw [stickyScore, getElem?_states, getElem?_eq_getElem hi, hget, Option.map_some]
  cases row.channelInfo.keyStatus i <;> rfl

theorem stickyScore_eq_some {c : Nat} (h : row.stickyScore fingerprint score i = some c) :
    ∃ key, row.states[i]? = some (key, .enabled) ∧ score (fingerprint key) = c := by
  unfold stickyScore at h
  split at h
  · rename_i key hstt
    exact ⟨key, hstt, Option.some.inj h⟩
  · cases h

theorem keys_getD_of_states {status : ChannelStatus} (h : row.states[i]? = some (key, status)) :
    row.keys.getD i "" = key := by
  rw [getD_eq_getElem?_getD, ← map_fst_states, getElem?_map, h]
  rfl

theorem lt_of_stickyScore {c : Nat} (h : row.stickyScore fingerprint score i = some c) :
    i < row.keys.length := by
  obtain ⟨key, hstt, _⟩ := stickyScore_eq_some h
  rw [← length_states]
  exact (List.getElem?_eq_some_iff.mp hstt).1

theorem lt_of_stickyRank {b : Bool ×ₗ Nat}
    (h : row.stickyRank fingerprint coolingDown score i = some b) : i < row.keys.length := by
  obtain ⟨c, hc, _⟩ := lex_eq_some.mp h
  exact lt_of_stickyScore hc

/-- The selected key, from a position and its rank. -/
def StickyKey.ofRank (best : Nat × (Bool ×ₗ Nat)) : StickyKey :=
  ⟨best.1, !(ofLex best.2).1, (ofLex best.2).2⟩

/-- The comparison of the loop. -/
theorem stickyKey_beats (best : Bool ×ₗ Nat) (cooling : Bool) (s : Nat) :
    ((!(ofLex best).1 && !cooling) || (cooling == !(ofLex best).1 && (ofLex best).2 < s)) = true ↔
      best < toLex (!cooling, s) := by
  rw [Prod.Lex.lt_iff]
  generalize (ofLex best).1 = ready
  cases ready <;> cases cooling <;> simp

theorem foldl_stickyStep_eq {n : Nat} (hn : n ≤ row.keys.length) :
    (List.range n).foldl (row.stickyStep fingerprint coolingDown score) none =
      (select (row.stickyRank fingerprint coolingDown score) n).map StickyKey.ofRank := by
  induction n with
  | zero => rfl
  | succ n ih =>
    rw [range_succ, foldl_append, ih (Nat.le_of_succ_le hn), foldl_cons,
      foldl_nil, select, stickyStep]
    by_cases hen : row.channelInfo.keyStatus n = .enabled
    · have hra : row.stickyRank fingerprint coolingDown score n = some _ :=
        lex_eq_some.mpr ⟨_, by rw [stickyScore_eq hn, if_pos hen], rfl⟩
      rw [if_neg (not_not.mpr hen), hra, stickyReady]
      cases select (row.stickyRank fingerprint coolingDown score) n with
      | none => simp [StickyKey.ofRank]
      | some best =>
        simp only [Option.map_some, StickyKey.ofRank, stickyKey_beats]
        split
        all_goals simp [StickyKey.ofRank]
    · have hra : row.stickyRank fingerprint coolingDown score n = none := by
        rw [stickyRank, FirstBest.lex, stickyScore_eq hn, if_neg hen]
        rfl
      rw [if_pos hen, hra]

/-- **What `GetStickyEnabledKey` returns**: the first best of the positions. -/
theorem getStickyEnabledKey_eq (hmul : row.channelInfo.isMultiKey = true) :
    row.getStickyEnabledKey fingerprint coolingDown score =
      if row.keys = [] then .error "no keys available"
      else match (select (row.stickyRank fingerprint coolingDown score)
          row.keys.length).map Prod.fst with
        | none => .error "no enabled keys"
        | some i => .ok (row.keys.getD i "", i) := by
  rw [getStickyEnabledKey, if_neg (by simp [hmul]), foldl_stickyStep_eq le_rfl]
  cases select (row.stickyRank fingerprint coolingDown score) row.keys.length with
  | none | some best => rfl

theorem getStickyEnabledKey_ok_iff (hmul : row.channelInfo.isMultiKey = true) :
    row.getStickyEnabledKey fingerprint coolingDown score = .ok (key, i) ↔
      row.states[i]? = some (key, .enabled) ∧
        ∃ b, FirstBest (row.stickyRank fingerprint coolingDown score) i b := by
  have hsel : ∀ i, (select (row.stickyRank fingerprint coolingDown score)
      row.keys.length).map Prod.fst = some i ↔
      ∃ b, FirstBest (row.stickyRank fingerprint coolingDown score) i b := by
    intro i
    simp [← select_eq_some_iff fun _ _ => lt_of_stickyRank]
  -- a position that is selected has an enabled key
  have hstt : ∀ {i b}, FirstBest (row.stickyRank fingerprint coolingDown score) i b →
      row.states[i]? = some (row.keys.getD i "", .enabled) := by
    intro i b hbt
    obtain ⟨c, hc, _⟩ := lex_eq_some.mp hbt.here
    obtain ⟨key, hkey, _⟩ := stickyScore_eq_some hc
    rw [keys_getD_of_states hkey, hkey]
  rw [getStickyEnabledKey_eq hmul]
  constructor
  · intro h
    split at h
    · cases h
    split at h
    · cases h
    rename_i i' hi
    cases h
    obtain ⟨b, hbt⟩ := (hsel i).mp hi
    exact ⟨hstt hbt, b, hbt⟩
  · rintro ⟨hkey, b, hbt⟩
    have hlt := lt_of_stickyRank hbt.here
    rw [if_neg (ne_nil_of_length_pos (by omega)), (hsel i).mpr ⟨b, hbt⟩]
    exact congrArg (fun key => Except.ok (key, i)) (keys_getD_of_states hkey)

/-! ## Keys that come and go -/

/-- The rank of a position depends on the key there and its status. -/
theorem stickyRank_congr (h : row'.states[i]? = row.states[j]?) :
    row'.stickyRank fingerprint coolingDown score i =
      row.stickyRank fingerprint coolingDown score j := by
  have hkey : ∀ (r : KeyedChannel codec) (i : Nat),
      r.keys.getD i "" = ((r.states[i]?).map Prod.fst).getD "" := by
    intro r i
    rw [← getElem?_map, map_fst_states, getD_eq_getElem?_getD]
  simp only [stickyRank, FirstBest.lex, stickyScore, stickyReady, hkey, h]

/-- Where the positions of a list were before position `j` was erased. -/
def beforeErase (j p : Nat) : Nat := if p < j then p else p + 1

theorem beforeErase_strictMono (j : Nat) : StrictMono (beforeErase j) := by
  intro p q hpq
  unfold beforeErase
  split <;> split <;> omega

/-- A position other than the erased one is still there. -/
theorem exists_beforeErase {j : Nat} (hne : i ≠ j) : ∃ p, beforeErase j p = i := by
  rcases Nat.lt_or_gt_of_ne hne with hlt | hgt
  · exact ⟨i, if_pos hlt⟩
  refine ⟨i - 1, ?_⟩
  rw [beforeErase, if_neg (by omega)]
  omega

theorem getElem?_states_erase (h : row'.states = row.states.eraseIdx j) (p : Nat) :
    row'.states[p]? = row.states[beforeErase j p]? := by
  rw [h, getElem?_eraseIdx, beforeErase]
  split <;> rfl

section
variable (hmul : row.channelInfo.isMultiKey = true)
include hmul

section
variable (hmul' : row'.channelInfo.isMultiKey = true)
include hmul'

/-- **The key stays when another one is removed.** -/
theorem getStickyEnabledKey_erase (hstt : row'.states = row.states.eraseIdx j)
    (hne : j ≠ i) (h : row.getStickyEnabledKey fingerprint coolingDown score = .ok (key, i)) :
    ∃ i', row'.getStickyEnabledKey fingerprint coolingDown score = .ok (key, i') := by
  obtain ⟨hkey, b, hbt⟩ := (getStickyEnabledKey_ok_iff hmul).mp h
  obtain ⟨p, rfl⟩ := exists_beforeErase hne.symm
  have hat := getElem?_states_erase hstt
  refine ⟨p, (getStickyEnabledKey_ok_iff hmul').mpr ⟨(hat p).trans hkey, b, ?_⟩⟩
  refine hbt.of_sub (beforeErase_strictMono j) (fun q c hq => ?_) ?_
  · rw [← stickyRank_congr (hat q), hq]
  · rw [stickyRank_congr (hat p), hbt.here]

/-- **The key stays when another one is disabled.** -/
theorem getStickyEnabledKey_disable {status : ChannelStatus} (hsts : status ≠ .enabled)
    (hstt : row'.states = row.states.modify j fun e => (e.1, status)) (hne : j ≠ i)
    (h : row.getStickyEnabledKey fingerprint coolingDown score = .ok (key, i)) :
    row'.getStickyEnabledKey fingerprint coolingDown score = .ok (key, i) := by
  obtain ⟨hkey, b, hbt⟩ := (getStickyEnabledKey_ok_iff hmul).mp h
  have hat : ∀ p, p ≠ j → row'.states[p]? = row.states[p]? := by
    intro p hp
    rw [hstt, getElem?_modify_ne _ _ hp.symm]
  refine (getStickyEnabledKey_ok_iff hmul').mpr ⟨(hat i hne.symm).trans hkey, b, ?_⟩
  refine hbt.of_sub (φ := id) strictMono_id (fun q c hq => ?_) ?_
  · -- the disabled position has no rank
    have hqj : q ≠ j := by
      rintro rfl
      obtain ⟨c, hc, _⟩ := lex_eq_some.mp hq
      obtain ⟨k, hk, _⟩ := stickyScore_eq_some hc
      rw [hstt, getElem?_modify_eq] at hk
      obtain ⟨e, _, he⟩ := Option.map_eq_some_iff.mp hk
      exact hsts (Prod.mk.inj he).2
    exact (stickyRank_congr (hat q hqj)).symm.trans hq
  · rw [stickyRank_congr (hat i hne.symm)]
    exact hbt.here

/-- **A key that is added wins or changes nothing.** -/
theorem getStickyEnabledKey_add {added : String} (hadd : row'.states[j]? = some (added, .enabled))
    (hstt : row.states = row'.states.eraseIdx j) :
    ∃ key i', row'.getStickyEnabledKey fingerprint coolingDown score = .ok (key, i') ∧
      ((key, i') = (added, j) ∨
        ∃ i, row.getStickyEnabledKey fingerprint coolingDown score = .ok (key, i)) := by
  have hat := getElem?_states_erase hstt
  have hra : row'.stickyRank fingerprint coolingDown score j ≠ none := by
    simp [stickyRank, FirstBest.lex, stickyScore, hadd]
  obtain ⟨d, hd⟩ := Option.ne_none_iff_exists'.mp hra
  obtain ⟨i', b, hbt⟩ := exists_of_some (fun _ _ => lt_of_stickyRank) hd
  obtain ⟨c, hc, _⟩ := lex_eq_some.mp hbt.here
  obtain ⟨key, hkey, _⟩ := stickyScore_eq_some hc
  refine ⟨key, i', (getStickyEnabledKey_ok_iff hmul').mpr ⟨hkey, b, hbt⟩, ?_⟩
  by_cases hj : i' = j
  · left
    subst hj
    rw [hadd] at hkey
    cases hkey
    rfl
  · right
    obtain ⟨p, rfl⟩ := exists_beforeErase hj
    refine ⟨p, (getStickyEnabledKey_ok_iff hmul).mpr ⟨(hat p).trans hkey, b, ?_⟩⟩
    refine hbt.of_sub (beforeErase_strictMono j) (fun q c hq => ?_) ?_
    · rw [← stickyRank_congr (hat q), hq]
    · rw [stickyRank_congr (hat p), hbt.here]

end

end

/-! ## Cooldowns that start and end -/

section
variable (hmul : row.channelInfo.isMultiKey = true)
include hmul

/-- The same key is returned when the first best is the same. -/
theorem getStickyEnabledKey_congr
    (h : ∀ i, (∃ b, FirstBest (row.stickyRank fingerprint coolingDown score) i b) ↔
      ∃ b, FirstBest (row.stickyRank fingerprint coolingDown' score) i b) :
    row.getStickyEnabledKey fingerprint coolingDown score =
      row.getStickyEnabledKey fingerprint coolingDown' score := by
  rw [getStickyEnabledKey_eq hmul, getStickyEnabledKey_eq hmul,
    select_fst_congr (fun _ _ => lt_of_stickyRank) (fun _ _ => lt_of_stickyRank) h]

theorem getStickyEnabledKey_start {cooled : String}
    (hoth : ∀ f, f ≠ cooled → coolingDown' f = coolingDown f) (hstr : coolingDown cooled = false)
    (hlos : ∀ i, row.ReadyWinner fingerprint coolingDown score i →
      fingerprint (row.keys.getD i "") ≠ cooled) :
    row.getStickyEnabledKey fingerprint coolingDown score =
      row.getStickyEnabledKey fingerprint coolingDown' score := by
  refine getStickyEnabledKey_congr hmul fun i => ?_
  refine lex_shrink (fun _ _ => lt_of_stickyScore) (fun j hj => ?_) (fun j c hj => ?_)
  · by_cases hf : fingerprint (row.keys.getD j "") = cooled
    · rw [stickyReady, hf, hstr]
      rfl
    · rw [stickyReady, ← hoth _ hf]
      exact hj
  · rw [stickyReady, hoth _ (hlos j ⟨c, hj⟩)]
    exact (onlyReady_eq_some.mp hj.here).1

/-- **A cooldown of a key that does not win among the ready keys changes nothing.** -/
theorem getStickyEnabledKey_cooldown
    {cooled : String} (hoth : ∀ f, f ≠ cooled → coolingDown' f = coolingDown f)
    (hlos : ∀ i, fingerprint (row.keys.getD i "") = cooled →
      ¬ row.ReadyWinner fingerprint coolingDown score i ∧
        ¬ row.ReadyWinner fingerprint coolingDown' score i) :
    row.getStickyEnabledKey fingerprint coolingDown' score =
      row.getStickyEnabledKey fingerprint coolingDown score := by
  cases hstr : coolingDown cooled with
  | false =>
    exact (getStickyEnabledKey_start hmul hoth hstr fun i hwin hf => (hlos i hf).1 hwin).symm
  | true =>
    cases hend : coolingDown' cooled with
    | false =>
      exact getStickyEnabledKey_start hmul (fun f hf => (hoth f hf).symm) hend
        fun i hwin hf => (hlos i hf).2 hwin
    | true =>
      have heq : coolingDown' = coolingDown := by
        funext f
        by_cases hf : f = cooled
        · rw [hf, hstr, hend]
        · exact hoth f hf
      rw [heq]

/-- `MarkChannelKeyCooldown` of such a key. -/
theorem getStickyEnabledKey_mark (table : Cooldowns)
    (now : Int) (modelName : String) (deadline : Int)
    (hlos : ∀ i, fingerprint (row.keys.getD i "") = fingerprint key →
      ¬ row.ReadyWinner fingerprint (table.coolingKeys now row.id modelName) score i ∧
        ¬ row.ReadyWinner fingerprint ((table.markChannelKeyCooldown fingerprint row.id key
          modelName deadline).coolingKeys now row.id modelName) score i) :
    row.getStickyEnabledKey fingerprint ((table.markChannelKeyCooldown fingerprint row.id key
        modelName deadline).coolingKeys now row.id modelName) score =
      row.getStickyEnabledKey fingerprint (table.coolingKeys now row.id modelName) score :=
  getStickyEnabledKey_cooldown hmul
    (fun _ hne => table.coolingKeys_mark fingerprint now row.id key modelName deadline hne) hlos

/-- **When every enabled key cools down, it is as if none did.** -/
theorem getStickyEnabledKey_all_cooling
    (hall : ∀ key, (key, .enabled) ∈ row.states → coolingDown (fingerprint key) = true) :
    row.getStickyEnabledKey fingerprint coolingDown score =
      row.getStickyEnabledKey fingerprint (fun _ => false) score := by
  refine getStickyEnabledKey_congr hmul fun i => ?_
  have hcoo : ∀ j c, row.stickyScore fingerprint score j = some c →
      row.stickyReady fingerprint coolingDown j = false := by
    intro j c hj
    obtain ⟨key, hkey, _⟩ := stickyScore_eq_some hj
    rw [stickyReady, keys_getD_of_states hkey, hall key (mem_of_getElem? hkey)]
    rfl
  exact (lex_alike hcoo).trans (lex_alike fun _ _ _ => rfl).symm

end

end Spec

/-- **Conversations move only when they must.**  For every channel with several keys, hash,
conversation and set of cooling keys: the returned key stays when another position is removed or
disabled, and when a key starts or ends to cool down, as by `MarkChannelKeyCooldown`, that does not
win among the ready keys before or after; an enabled key that is added is returned or changes
nothing; and when every enabled key cools down, the key is the one that is returned when none
does. -/
theorem sticky_moves_only_when_it_must (row : KeyedChannel codec)
    (hmulti : row.channelInfo.isMultiKey = true) (fingerprint : String → String)
    (hash : String → String → Nat) (seed : String) (coolingDown : String → Bool) :
    (∀ (row' : KeyedChannel codec) key i j, row'.channelInfo.isMultiKey = true →
      row.getStickyEnabledKey fingerprint coolingDown (hash seed) = .ok (key, i) → j ≠ i →
      (row'.states = row.states.eraseIdx j ∨
        ∃ status, status ≠ .enabled ∧ row'.states = row.states.modify j fun e => (e.1, status)) →
      ∃ i', row'.getStickyEnabledKey fingerprint coolingDown (hash seed) = .ok (key, i')) ∧
    (∀ (coolingDown' : String → Bool) cooled,
      (∀ f, f ≠ cooled → coolingDown' f = coolingDown f) →
      (∀ i, fingerprint (row.keys.getD i "") = cooled →
        ¬ row.ReadyWinner fingerprint coolingDown (hash seed) i ∧
          ¬ row.ReadyWinner fingerprint coolingDown' (hash seed) i) →
      row.getStickyEnabledKey fingerprint coolingDown' (hash seed) =
        row.getStickyEnabledKey fingerprint coolingDown (hash seed)) ∧
    (∀ (row' : KeyedChannel codec) added j, row'.channelInfo.isMultiKey = true →
      row'.states[j]? = some (added, .enabled) → row.states = row'.states.eraseIdx j →
      ∃ key i', row'.getStickyEnabledKey fingerprint coolingDown (hash seed) = .ok (key, i') ∧
        ((key, i') = (added, j) ∨
          ∃ i, row.getStickyEnabledKey fingerprint coolingDown (hash seed) = .ok (key, i))) ∧
    ((∀ key, (key, .enabled) ∈ row.states → coolingDown (fingerprint key) = true) →
      row.getStickyEnabledKey fingerprint coolingDown (hash seed) =
        row.getStickyEnabledKey fingerprint (fun _ => false) (hash seed)) ∧
    ∀ (table : Cooldowns) (now : Int) key modelName (deadline : Int),
      let cooling := table.coolingKeys now row.id modelName
      let marked := (table.markChannelKeyCooldown fingerprint row.id key modelName
        deadline).coolingKeys now row.id modelName
      (∀ i, fingerprint (row.keys.getD i "") = fingerprint key →
        ¬ row.ReadyWinner fingerprint cooling (hash seed) i ∧
          ¬ row.ReadyWinner fingerprint marked (hash seed) i) →
      row.getStickyEnabledKey fingerprint marked (hash seed) =
        row.getStickyEnabledKey fingerprint cooling (hash seed) := by
  refine ⟨?_, ?_, ?_, ?_, ?_⟩
  · rintro row' key i j hmul' h hne (hstt | ⟨status, hsts, hstt⟩)
    · exact getStickyEnabledKey_erase hmulti hmul' hstt hne h
    · exact ⟨i, getStickyEnabledKey_disable hmulti hmul' hsts hstt hne h⟩
  · intro coolingDown' cooled hoth hlos
    exact getStickyEnabledKey_cooldown hmulti hoth hlos
  · intro row' added j hmul' hadd hstt
    exact getStickyEnabledKey_add hmulti hmul' hadd hstt
  · exact getStickyEnabledKey_all_cooling hmulti
  · intro table now key modelName deadline cooling marked hloses
    exact getStickyEnabledKey_mark hmulti table now modelName deadline hloses

/-- The second of three keys that tie is disabled, and the conversation stays on the first. -/
theorem sticky_moves_only_when_it_must_tie :
    (failedAt "a\nb\nc" 3 []).getStickyEnabledKey id (fun _ => false) (fun _ => 5) = .ok ("a", 0) ∧
      ∃ i', (failedAt "a\nb\nc" 3 [1]).getStickyEnabledKey id (fun _ => false) (fun _ => 5) =
        .ok ("a", i') := by
  refine ⟨rfl, ?_⟩
  refine (sticky_moves_only_when_it_must (failedAt "a\nb\nc" 3 []) rfl id (fun _ _ => 5) "seed"
    (fun _ => false)).1 _ "a" 0 1 rfl rfl (by decide) (.inr ⟨.autoDisabled, by decide, ?_⟩)
  decide +kernel

end KeyedChannel
end NewApi
