import NewApi.Abilities

/-! # The memory cache of channels

With the memory cache on, requests are routed by two maps: `channelsIDM` has all
channels by id, and `group2model2channels` has, for each group and model, the ids of
the enabled channels that serve them, best priority first.  A full sync builds both
from the table of channels (`buildChannelCacheSnapshot`); a status update changes them
in place (`cachePublishChannel`, `CacheUpdateChannelStatus`).

A nested map is a function here, and a key that is missing has the empty list.  The sync
reads the table of abilities as well, but only to create empty maps.  `sort.Slice` leaves
the order of channels of equal priority open; the model keeps it. -/
namespace NewApi
open Db List

/-- `group2model2channels`. -/
abbrev ChannelLists := String → String → List Int

/-- `AdvancedCustomConfig`, by `SupportsPathForModel`. -/
abbrev PathConfig := String → String → Bool

/-- The package variables of the cache. -/
structure ChannelCache where
  group2model2channels : ChannelLists
  channelsIDM : Int → Option Channel
  channel2advancedCustomConfig : Int → Option PathConfig
  channelCacheGeneration : Nat

/-- The cache of a process that has just started. -/
def ChannelCache.empty : ChannelCache := ⟨fun _ _ => [], fun _ => none, fun _ => none, 0⟩

def channelTypeAdvancedCustom : Int := 58

namespace Channel

/-- The loop of `buildChannelCacheSnapshot`, over groups and then models. -/
def cachePairs (ch : Channel) : List (String × String) :=
  keepFirst pairKey [] (ch.group.flatMap fun g => ch.servedModels.map fun m => (g, m))

/-- The config of the channel, if it is an Advanced Custom channel and has one. -/
def pathConfig (env : RoutingEnv) (ch : Channel) : Option PathConfig :=
  if ch.type = channelTypeAdvancedCustom then env.advancedCustom ch.otherSettings else none

end Channel

namespace ChannelLists

/-- Change the list of one group and model. -/
def update (lists : ChannelLists) (g m : String) (f : List Int → List Int) : ChannelLists :=
  fun g' m' => if g' = g ∧ m' = m then f (lists g' m') else lists g' m'

/-- Append the channel to the lists of its pairs. -/
def addChannel (lists : ChannelLists) (ch : Channel) : ChannelLists :=
  ch.cachePairs.foldl (fun lists p => lists.update p.1 p.2 (· ++ [ch.id])) lists

end ChannelLists

/-! ## Syncs -/

/-- The order of ids by the priority of their channels; unknown ids come last. -/
def byPriority (channelsIDM : Int → Option Channel) (i j : Int) : Prop :=
  match channelsIDM i, channelsIDM j with
  | some ci, some cj => ci.getPriority ≥ cj.getPriority
  | some _, none => True
  | none, some _ => False
  | none, none => True

instance (channelsIDM : Int → Option Channel) : DecidableRel (byPriority channelsIDM) := by
  intro i j
  unfold byPriority
  split <;> infer_instance

/-- `buildChannelCacheSnapshot` and `installChannelCacheSnapshot`: the cache for the rows
that were scanned. -/
def installSnapshot (env : RoutingEnv) (rows : List Channel) (cache : ChannelCache) :
    ChannelCache :=
  let channelsIDM := fun id => rows.find? fun ch => ch.id = id
  let lists := (rows.filter fun ch => ch.status = .enabled).foldl ChannelLists.addChannel
    fun _ _ => []
  { group2model2channels := fun g m => (lists g m).insertionSort (byPriority channelsIDM)
    channelsIDM := channelsIDM
    channel2advancedCustomConfig := fun id => (channelsIDM id).bind (Channel.pathConfig env)
    channelCacheGeneration := cache.channelCacheGeneration + 1 }

/-! ## Updates in place -/

namespace ChannelCache

def cachePublishChannel (ch : Channel) (cache : ChannelCache) : ChannelCache :=
  { cache with
    channelsIDM := Function.update cache.channelsIDM ch.id (some ch)
    channelCacheGeneration := cache.channelCacheGeneration + 1 }

def cacheUpdateChannel (env : RoutingEnv) (ch : Channel) (cache : ChannelCache) : ChannelCache :=
  { cache with
    channelsIDM := Function.update cache.channelsIDM ch.id (some ch)
    channel2advancedCustomConfig :=
      Function.update cache.channel2advancedCustomConfig ch.id (ch.pathConfig env)
    channelCacheGeneration := cache.channelCacheGeneration + 1 }

/-- A channel that was enabled joins a list, unless it is in it. -/
def joinList (channelsIDM : Int → Option Channel) (id : Int) (list : List Int) : List Int :=
  if id ∈ list then list else (list ++ [id]).insertionSort (byPriority channelsIDM)

/-- A channel that was enabled joins the lists of its groups and models. -/
def joinLists (channelsIDM : Int → Option Channel) (ch : Channel) (id : Int)
    (lists : ChannelLists) : ChannelLists :=
  (ch.group.flatMap fun g => ch.servedModels.map fun m => (g, m)).foldl
    (fun lists p => lists.update p.1 p.2 (joinList channelsIDM id)) lists

def cacheUpdateChannelStatus (id : Int) (status : ChannelStatus) (cache : ChannelCache) :
    ChannelCache :=
  match cache.channelsIDM id with
  | some existing =>
      let channel := { existing with status := status }
      let channelsIDM := Function.update cache.channelsIDM id (some channel)
      let lists :=
        if status = .enabled then joinLists channelsIDM channel id cache.group2model2channels
        else fun g m => (cache.group2model2channels g m).filter (· ≠ id)
      { cache with
        group2model2channels := lists
        channelsIDM := channelsIDM
        channelCacheGeneration := cache.channelCacheGeneration + 1 }
  | none =>
      if status = .enabled then cache
      else { cache with
        group2model2channels := fun g m => (cache.group2model2channels g m).filter (· ≠ id) }

end ChannelCache

/-! ## Lists -/

section Lists
variable {lists : ChannelLists} {ch : Channel} {rows : List Channel} {x : Int} {g m : String}

theorem ChannelLists.update_apply (lists : ChannelLists) (g m : String) (f : List Int → List Int)
    (g' m' : String) : lists.update g m f g' m' =
      if g' = g ∧ m' = m then f (lists g' m') else lists g' m' := rfl

/-- Appending along pairs puts the channel once into the list of each pair. -/
theorem count_foldl_append {pairs : List (String × String)} (hnd : pairs.Nodup) (id : Int) :
    (pairs.foldl (fun lists p => lists.update p.1 p.2 (· ++ [id])) lists g m).count x =
      (lists g m).count x + if (g, m) ∈ pairs ∧ x = id then 1 else 0 := by
  induction pairs generalizing lists with
  | nil => simp
  | cons p pairs ih =>
    obtain ⟨g', m'⟩ := p
    rw [nodup_cons] at hnd
    rw [foldl_cons, ih hnd.2, ChannelLists.update_apply]
    by_cases hp : g = g' ∧ m = m'
    · obtain ⟨rfl, rfl⟩ := hp
      have hnot : ¬ ((g, m) ∈ pairs ∧ x = id) := fun h => hnd.1 h.1
      rw [if_pos ⟨rfl, rfl⟩, if_neg hnot, count_append]
      by_cases hx : x = id
      · simp [hx]
      · simp [hx, Ne.symm hx]
    · have hco : (g, m) ∈ (g', m') :: pairs ↔ (g, m) ∈ pairs := by
        rw [mem_cons, Prod.mk.injEq, or_iff_right hp]
      simp only [if_neg hp, hco]

theorem count_snapshot (hnd : (rows.map Channel.id).Nodup) :
    ((rows.foldl ChannelLists.addChannel lists) g m).count x = (lists g m).count x +
        if ∃ ch ∈ rows, ch.id = x ∧ (g, m) ∈ ch.cachePairs then 1 else 0 := by
  induction rows generalizing lists with
  | nil => simp
  | cons ch rows ih =>
    rw [map_cons, nodup_cons] at hnd
    rw [foldl_cons, ih hnd.2, ChannelLists.addChannel,
      count_foldl_append (show ch.cachePairs.Nodup from nodup_keepFirst.1.of_map pairKey)]
    simp only [exists_mem_cons_iff]
    by_cases hx : ch.id = x
    · -- no other row has the id
      have hoth : ¬ ∃ c ∈ rows, c.id = x ∧ (g, m) ∈ c.cachePairs := by
        rintro ⟨c, hc, hid, -⟩
        exact hnd.1 (mem_map.mpr ⟨c, hc, hid.trans hx.symm⟩)
      rw [if_neg hoth]
      by_cases hp : (g, m) ∈ ch.cachePairs
      · simp [hx, hp]
      · simp [hp, hoth]
    · have hne : ¬ ((g, m) ∈ ch.cachePairs ∧ x = ch.id) := fun h => hx h.2.symm
      rw [if_neg hne, add_zero]
      simp [hx]

/-- **The lists of a snapshot.** -/
theorem count_installSnapshot {env : RoutingEnv} {cache : ChannelCache}
    (hnd : (rows.map Channel.id).Nodup) :
    ((installSnapshot env rows cache).group2model2channels g m).count x =
      if ∃ ch ∈ rows, ch.id = x ∧ ch.status = .enabled ∧ (g, m) ∈ ch.cachePairs then 1 else 0 := by
  have hpe := perm_insertionSort (byPriority fun id => rows.find? fun ch => ch.id = id)
    (((rows.filter fun ch => ch.status = .enabled).foldl ChannelLists.addChannel fun _ _ => []) g m)
  have hfil : ((rows.filter fun ch => ch.status = .enabled).map Channel.id).Nodup :=
    hnd.sublist (filter_sublist.map _)
  refine (hpe.count_eq x).trans ?_
  rw [count_snapshot hfil, count_nil, zero_add]
  refine if_congr ⟨?_, ?_⟩ rfl rfl
  · rintro ⟨ch, hch, hid, hp⟩
    obtain ⟨hmem, hsts⟩ := mem_filter.mp hch
    exact ⟨ch, hmem, hid, of_decide_eq_true hsts, hp⟩
  · rintro ⟨ch, hmem, hid, hsts, hp⟩
    exact ⟨ch, mem_filter.mpr ⟨hmem, decide_eq_true hsts⟩, hid, hp⟩

end Lists

end NewApi
