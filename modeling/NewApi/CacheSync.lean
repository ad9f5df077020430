import NewApi.ChannelSelect

/-! # Cache syncs and status updates

A full sync reads the table of channels without the lock of the cache, and a status update
writes the table first and the cache afterwards, in two critical sections.  So a sync may
hold rows from before an update when the update is done.  A counter tells: each change of the
cache increments `channelCacheGeneration`, a sync notes it before it reads the table, and it
does not install its rows if the counter has moved.  After two such attempts the sync holds
the lock while it reads.

The rows that a sync may still install are those of the table (`SyncPhase.Fresh`), except
while an update has written the table and has not published: then the counter will move.
From this, what an update has done to the lists of the cache stays until the next update of
the channel (`status_update_stays`).

One case is different.  A sync takes a group and a model for seen by the text `group|model`,
the update does not.  Of two pairs with one text, the update lists the channel under both and
the next sync drops one (`sync_drops_pair`). -/
namespace NewApi
open Db Function List Steps

/-! ## Syncs and updates in progress -/

/-- Where a run of `InitChannelCache` is. -/
inductive SyncPhase where
  /-- An attempt begins. -/
  | attempt (n : Nat)
  | generationRead (n generationBeforeScan : Nat)
  /-- The rows are read and the lock is not taken yet. -/
  | scanned (n generationBeforeScan : Nat) (rows : Table Channel.id)
  /-- The last attempt, which has the lock. -/
  | locked
  | lockedScanned (rows : Table Channel.id)
  | returned

/-- Where a call of `UpdateChannelStatus` is that has written the table. -/
inductive UpdatePhase where
  | written (saved : Channel) (statusChanged : Bool)
  /-- `cachePublishChannel` has returned, and the status has changed. -/
  | published (saved : Channel)

/-- The table, the cache, and who is at work on them. -/
structure SyncState where
  channels : Table Channel.id
  cache : ChannelCache
  /-- The call that holds the locks of a channel. -/
  updates : Int → Option UpdatePhase := fun _ => none
  syncs : List SyncPhase := []
  /-- The sync that holds `channelSyncLock` across steps. -/
  lock : Option Nat := none

/-- The steps. -/
inductive SyncEvent where
  | startSync
  | sync (i : Nat) (scanFails : Bool)
  | write (id : Int) (usingKey : String) (status : ChannelStatus) (reason : String) (now : Int)
  | publish (id : Int)
  | cacheStatus (id : Int)
  | cacheUpdateChannel (ch : Channel)

def channelCacheSyncAttempts : Nat := 3

namespace SyncState
variable (env : RoutingEnv)

/-- `InitChannelCache`, one step of the `i`-th run.  The lock makes it wait. -/
def advance (i : Nat) (scanFails : Bool) (s : SyncState) : SyncPhase → Option SyncState
  | .attempt n =>
      if s.lock ≠ none then none
      else if n = channelCacheSyncAttempts then
        some { s with lock := some i, syncs := s.syncs.set i .locked }
      else
        some { s with
          syncs := s.syncs.set i (.generationRead n s.cache.channelCacheGeneration) }
  | .generationRead n generationBeforeScan =>
      if scanFails then some { s with syncs := s.syncs.set i .returned }
      else some { s with syncs := s.syncs.set i (.scanned n generationBeforeScan s.channels) }
  | .scanned n generationBeforeScan rows =>
      if s.lock ≠ none then none
      else if s.cache.channelCacheGeneration ≠ generationBeforeScan then
        some { s with syncs := s.syncs.set i (.attempt (n + 1)) }
      else
        some { s with
          cache := installSnapshot env rows.rows s.cache
          syncs := s.syncs.set i .returned }
  | .locked =>
      if scanFails then some { s with lock := none, syncs := s.syncs.set i .returned }
      else some { s with syncs := s.syncs.set i (.lockedScanned s.channels) }
  | .lockedScanned rows =>
      some { s with
        cache := installSnapshot env rows.rows s.cache
        lock := none
        syncs := s.syncs.set i .returned }
  | .returned => none

/-- `UpdateChannelStatus`, up to its write.  It holds the locks of the channel from its read
on, so it waits for another call, and the read and the write are one step. -/
def write (id : Int) (usingKey : String) (status : ChannelStatus) (reason : String) (now : Int)
    (s : SyncState) : Option SyncState :=
  match s.updates id, s.channels.find? id with
  | none, some row =>
      match row.updateStatus usingKey status reason now with
      | none => none
      | some saved =>
          some { s with
            channels := s.channels.save saved
            updates := Function.update s.updates id
              (some (.written saved (row.status ≠ saved.status))) }
  | _, _ => none

/-- `UpdateChannelStatus` calls `cachePublishChannel`. -/
def publish (id : Int) (s : SyncState) : Option SyncState :=
  match s.lock, s.updates id with
  | none, some (.written saved statusChanged) =>
      some { s with
        cache := s.cache.cachePublishChannel saved
        updates := Function.update s.updates id
          (if statusChanged then some (.published saved) else none) }
  | _, _ => none

/-- `UpdateChannelStatus` calls `CacheUpdateChannelStatus` and returns. -/
def cacheStatus (id : Int) (s : SyncState) : Option SyncState :=
  match s.lock, s.updates id with
  | none, some (.published saved) =>
      some { s with
        cache := s.cache.cacheUpdateChannelStatus id saved.status
        updates := Function.update s.updates id none }
  | _, _ => none

/-- A step, unless it has to wait. -/
def apply (s : SyncState) : SyncEvent → Option SyncState
  | .startSync => some { s with syncs := s.syncs ++ [.attempt 1] }
  | .sync i scanFails =>
      match s.syncs[i]? with
      | none => none
      | some phase => s.advance env i scanFails phase
  | .write id usingKey status reason now => s.write id usingKey status reason now
  | .publish id => s.publish id
  | .cacheStatus id => s.cacheStatus id
  | .cacheUpdateChannel ch =>
      if s.lock ≠ none then none
      else some { s with cache := s.cache.cacheUpdateChannel env ch }

/-- A step.  `CacheUpdateChannel` is called for channels other than `x`. -/
def Step (x : Int) (s : SyncState) (e : SyncEvent) (s' : SyncState) : Prop :=
  s.apply env e = some s' ∧ ∀ ch, e = .cacheUpdateChannel ch → ch.id ≠ x

end SyncState

/-! ## What the cache says of one channel -/

namespace ChannelCache
variable {env : RoutingEnv} {x : Int} {cache cache' : ChannelCache} {g m : String}

/-- The caches say the same of `x`. -/
structure SameFor (x : Int) (cache cache' : ChannelCache) : Prop where
  count : ∀ g m, (cache'.group2model2channels g m).count x =
    (cache.group2model2channels g m).count x
  row : cache'.channelsIDM x = cache.channelsIDM x

theorem SameFor.refl (x : Int) (cache : ChannelCache) : SameFor x cache cache :=
  ⟨fun _ _ => rfl, rfl⟩

variable {channelsIDM : Int → Option Channel} {id : Int}

theorem count_joinList_ne (h : id ≠ x)
    (list : List Int) : (joinList channelsIDM id list).count x = list.count x := by
  unfold joinList
  split
  · rfl
  rw [(perm_insertionSort _ _).count_eq, count_append, count_singleton]
  simp [h]

theorem count_joinList_self {list : List Int}
    (h : list.count x ≤ 1) : (joinList channelsIDM x list).count x = 1 := by
  unfold joinList
  split
  · rename_i hmem
    exact Nat.le_antisymm h (count_pos_iff.mpr hmem)
  · rename_i hmem
    rw [(perm_insertionSort _ _).count_eq, count_append, count_singleton_self,
      count_eq_zero_of_not_mem hmem]

theorem count_foldl_joinList_ne (h : id ≠ x)
    (pairs : List (String × String)) (lists : ChannelLists) :
    (pairs.foldl (fun lists p => lists.update p.1 p.2 (joinList channelsIDM id)) lists g m).count
      x = (lists g m).count x := by
  induction pairs generalizing lists with
  | nil => rfl
  | cons p pairs ih =>
    rw [foldl_cons, ih, ChannelLists.update_apply]
    split
    · exact count_joinList_ne h _
    · rfl

theorem count_foldl_joinList_self (pairs : List (String × String)) {lists : ChannelLists}
    (h : ∀ g m, (lists g m).count x ≤ 1) :
    (pairs.foldl (fun lists p => lists.update p.1 p.2 (joinList channelsIDM x)) lists g m).count
      x = if (g, m) ∈ pairs then 1 else (lists g m).count x := by
  induction pairs generalizing lists with
  | nil => simp
  | cons p pairs ih =>
    obtain ⟨g', m'⟩ := p
    have hcnt : ∀ g m, ((lists.update g' m' (joinList channelsIDM x)) g m).count x =
        if g = g' ∧ m = m' then 1 else (lists g m).count x := by
      intro g m
      rw [ChannelLists.update_apply]
      split
      · exact count_joinList_self (h g m)
      · rfl
    rw [foldl_cons, ih, hcnt]
    · by_cases hp : (g, m) ∈ pairs
      · rw [if_pos hp, if_pos (mem_cons_of_mem _ hp)]
      · simp only [mem_cons, Prod.mk.injEq, hp, or_false, if_false]
    · intro g m
      rw [hcnt]
      split
      · exact Nat.le_refl 1
      · exact h g m

theorem count_filter_ne (h : id ≠ x) (list : List Int) :
    (list.filter (· ≠ id)).count x = list.count x :=
  count_filter (decide_eq_true (Ne.symm h))

theorem sameFor_cacheUpdateChannelStatus (h : id ≠ x) (status : ChannelStatus) :
    SameFor x cache (cache.cacheUpdateChannelStatus id status) := by
  unfold cacheUpdateChannelStatus
  cases cache.channelsIDM id with
  | none =>
    dsimp only
    split
    · exact .refl x cache
    · exact ⟨fun g m => count_filter_ne h _, rfl⟩
  | some existing =>
    refine ⟨fun g m => ?_, update_of_ne (Ne.symm h) _ _⟩
    dsimp only
    split
    · exact count_foldl_joinList_ne h _ _
    · exact count_filter_ne h _

/-- **The cache shows the channel as its row is**: a channel that is not enabled is in no
list and not enabled, one that is enabled is once in the lists of its groups and models. -/
structure Shows (cache : ChannelCache) (row : Channel) : Prop where
  disabled : row.status ≠ .enabled →
    (∀ g m, row.id ∉ cache.group2model2channels g m) ∧
      ∀ ch, cache.channelsIDM row.id = some ch → ch.status ≠ .enabled
  enabled : row.status = .enabled → row.KeysApart →
    ∀ g ∈ row.group, ∀ m ∈ row.servedModels, (cache.group2model2channels g m).count row.id = 1

variable {row : Channel}

theorem Shows.same (h : cache.Shows row) (hsm : SameFor row.id cache cache') :
    cache'.Shows row := by
  refine ⟨fun hsts => ⟨fun g m hmem => ?_, fun ch hch => ?_⟩, fun hsts hks g hg m hm => ?_⟩
  · rw [← count_pos_iff, hsm.count, count_pos_iff] at hmem
    exact (h.disabled hsts).1 g m hmem
  · rw [hsm.row] at hch
    exact (h.disabled hsts).2 ch hch
  · rw [hsm.count]
    exact h.enabled hsts hks g hg m hm

theorem shows_installSnapshot {rows : Table Channel.id}
    (h : rows.find? row.id = some row) : (installSnapshot env rows.rows cache).Shows row := by
  have hmem := (rows.find?_eq_some_iff.mp h).1
  have hrow : ∀ ch ∈ rows.rows, ch.id = row.id → ch = row :=
    fun ch hch hid => rows.eq_of_key_eq hch hmem hid
  refine ⟨fun hsts => ⟨fun g m hli => ?_, fun ch hch => ?_⟩, fun hsts hks g hg m hm => ?_⟩
  · rw [← count_pos_iff, count_installSnapshot rows.nodup] at hli
    split at hli
    · rename_i hex
      obtain ⟨ch, hch, hid, hen, -⟩ := hex
      rw [hrow ch hch hid] at hen
      exact hsts hen
    · cases hli
  · obtain rfl : row = ch := Option.some.inj (h.symm.trans hch)
    exact hsts
  · rw [count_installSnapshot rows.nodup, if_pos]
    exact ⟨row, hmem, rfl, hsts, (Channel.mem_cachePairs hks).mpr ⟨hg, hm⟩⟩

/-- So does `CacheUpdateChannelStatus`, of a channel that has been published. -/
theorem shows_cacheUpdateChannelStatus
    (hon : ∀ g m, (cache.group2model2channels g m).count row.id ≤ 1)
    (hrow : cache.channelsIDM row.id = some row) :
    (cache.cacheUpdateChannelStatus row.id row.status).Shows row := by
  rw [cacheUpdateChannelStatus, hrow]
  dsimp only
  refine ⟨fun hsts => ⟨fun g m hmem => ?_, fun ch hch => ?_⟩, fun hsts hks g hg m hm => ?_⟩
  · rw [if_neg hsts] at hmem
    exact of_decide_eq_true (mem_filter.mp hmem).2 rfl
  · obtain rfl : row = ch := by simpa using hch
    exact hsts
  · simp only [if_pos hsts]
    refine (count_foldl_joinList_self _ hon).trans (if_pos ?_)
    exact mem_flatMap.mpr ⟨g, hg, mem_map_of_mem hm⟩

/-- A list that a cache operation for the channel makes has the channel at most once. -/
theorem once_cacheUpdateChannelStatus (h : ∀ g m, (cache.group2model2channels g m).count x ≤ 1)
    (status : ChannelStatus) (g m : String) :
    ((cache.cacheUpdateChannelStatus x status).group2model2channels g m).count x ≤ 1 := by
  have hfil : ((cache.group2model2channels g m).filter (· ≠ x)).count x ≤ 1 :=
    (filter_sublist.count_le x).trans (h g m)
  unfold cacheUpdateChannelStatus
  cases cache.channelsIDM x with
  | none =>
    dsimp only
    split
    · exact h g m
    · exact hfil
  | some existing =>
    dsimp only
    split
    · refine (count_foldl_joinList_self _ h).trans_le ?_
      split
      · exact Nat.le_refl 1
      · exact h g m
    · exact hfil

end ChannelCache

/-! ## What a step does -/

namespace SyncState
variable {env : RoutingEnv} {x : Int} {s s' : SyncState} {e : SyncEvent}

/-- No update of `x` has written the table and not yet published. -/
def Published (x : Int) (s : SyncState) : Prop :=
  ∀ saved statusChanged, s.updates x ≠ some (.written saved statusChanged)

/-- The rows have the row of `x`, as far as that is published. -/
def Current (x : Int) (s : SyncState) (rows : Table Channel.id) : Prop :=
  s.Published x → rows.find? x = s.channels.find? x

/-- **What a sync may still install is current.**  Rows that were read without the lock count
only if the generation has not moved. -/
def Fresh (x : Int) (s : SyncState) (i : Nat) : SyncPhase → Prop
  | .attempt _ => True
  | .generationRead _ generation => generation ≤ s.cache.channelCacheGeneration
  | .scanned _ generation rows => generation ≤ s.cache.channelCacheGeneration ∧
      (generation = s.cache.channelCacheGeneration → s.Current x rows)
  | .locked => s.lock = some i
  | .lockedScanned rows => s.lock = some i ∧ s.Current x rows
  | .returned => True

/-- `s'` has the row and the update of `x` that `s` has, or the generation has moved on. -/
structure Keeps (x : Int) (i : Nat) (s s' : SyncState) : Prop where
  generation : s.cache.channelCacheGeneration ≤ s'.cache.channelCacheGeneration
  current : s'.cache.channelCacheGeneration = s.cache.channelCacheGeneration ∨ s.lock = some i →
    ∀ rows, s.Current x rows → s'.Current x rows
  lock : s.lock = some i → s'.lock = some i

theorem Fresh.keep {i : Nat} {phase : SyncPhase} (h : s.Fresh x i phase) (hkee : Keeps x i s s') :
    s'.Fresh x i phase := by
  cases phase with
  | attempt n => trivial
  | generationRead n generation => exact le_trans h hkee.generation
  | scanned n generation rows =>
    refine ⟨le_trans h.1 hkee.generation, fun heq => ?_⟩
    have hsm : s'.cache.channelCacheGeneration = s.cache.channelCacheGeneration :=
      le_antisymm (heq ▸ h.1) hkee.generation
    exact hkee.current (.inl hsm) rows (h.2 (heq.trans hsm))
  | locked => exact hkee.lock h
  | lockedScanned rows => exact ⟨hkee.lock h.1, hkee.current (.inr h.1) rows h.2⟩
  | returned => trivial

/-- The event writes the row of `x`. -/
def Writes (x : Int) : SyncEvent → Prop
  | .write id _ _ _ _ => id = x
  | _ => False

/-- What a step does to the row, the update and the cache of `x`. -/
inductive Effect (env : RoutingEnv) (x : Int) (s : SyncState) (e : SyncEvent) (s' : SyncState) :
    Prop
  | other (hrow : s'.channels.find? x = s.channels.find? x) (hupdate : s'.updates x = s.updates x)
      (hcache : ChannelCache.SameFor x s.cache s'.cache)
  | install (rows : Table Channel.id) (hrows : s.Current x rows)
      (hchannels : s'.channels = s.channels) (hupdates : s'.updates = s.updates)
      (hcache : s'.cache = installSnapshot env rows.rows s.cache)
  | write (saved : Channel) (statusChanged : Bool) (hwrites : Writes x e)
      (hrow : s'.channels.find? x = some saved)
      (hupdate : s'.updates x = some (.written saved statusChanged)) (hcache : s'.cache = s.cache)
  | publish (saved : Channel) (statusChanged : Bool) (hlock : s.lock = none)
      (hwritten : s.updates x = some (.written saved statusChanged))
      (hchannels : s'.channels = s.channels)
      (hupdate : s'.updates x = if statusChanged then some (.published saved) else none)
      (hcache : s'.cache = s.cache.cachePublishChannel saved)
  | status (saved : Channel) (hpublished : s.updates x = some (.published saved))
      (hchannels : s'.channels = s.channels) (hupdate : s'.updates x = none)
      (hcache : s'.cache = s.cache.cacheUpdateChannelStatus x saved.status)

/-- Rows stay current, but for a publish, which moves the generation. -/
theorem Effect.current {i : Nat} (h : Effect env x s e s') (hco :
      s'.cache.channelCacheGeneration = s.cache.channelCacheGeneration ∨ s.lock = some i)
    {rows : Table Channel.id} (hrows : s.Current x rows) : s'.Current x rows := by
  intro hpub
  cases h with
  | other hrow hupd hcac =>
    rw [hrow]
    exact hrows fun saved c hw => hpub saved c (hupd.trans hw)
  | install rows' hrows' hchannels hup hcac =>
    rw [hchannels]
    exact hrows fun saved c hw => hpub saved c (hup ▸ hw)
  | write saved c hwr hrow hupd hcac => exact absurd hupd (hpub saved c)
  | publish saved c hlock hwri hchannels hupd hcac =>
    rcases hco with hgen | hhd
    · rw [hcac] at hgen
      exact absurd hgen (Nat.succ_ne_self _)
    · rw [hlock] at hhd
      cases hhd
  | status saved hwas hchannels hupd hcac =>
    rw [hchannels]
    refine hrows fun saved' c hw => ?_
    rw [hwas] at hw
    cases hw

end SyncState

/-- The row that an update has saved. -/
def UpdatePhase.saved : UpdatePhase → Channel
  | .written saved _ => saved
  | .published saved => saved

namespace SyncState
variable {env : RoutingEnv} {x : Int} {s s' : SyncState} {e : SyncEvent}

/-- **The invariant**, for one channel `x`. -/
structure Valid (x : Int) (s : SyncState) : Prop where
  fresh : ∀ i phase, s.syncs[i]? = some phase → s.Fresh x i phase
  saved : ∀ id phase, s.updates id = some phase → phase.saved.id = id
  once : ∀ g m, (s.cache.group2model2channels g m).count x ≤ 1
  row : ∀ phase, s.updates x = some phase → s.channels.find? x = some phase.saved
  published : ∀ saved, s.updates x = some (.published saved) → s.cache.channelsIDM x = some saved

/-- What a step does. -/
structure Spec (env : RoutingEnv) (x : Int) (s : SyncState) (e : SyncEvent) (s' : SyncState) :
    Prop where
  effect : Effect env x s e s'
  generation : s.cache.channelCacheGeneration ≤ s'.cache.channelCacheGeneration
  lock : ∀ j, s.lock = some j → (∀ f, e ≠ .sync j f) → s'.lock = some j
  saved : ∀ id phase, s'.updates id = some phase → phase.saved.id = id
  syncs : ∀ j phase, s'.syncs[j]? = some phase →
    (s.syncs[j]? = some phase ∧ ∀ f, e ≠ .sync j f) ∨ s'.Fresh x j phase

variable {f : Bool} {i : Nat}

/-- The phases after the step of one sync. -/
theorem syncs_set {phase' : SyncPhase}
    (hsyn : s'.syncs = s.syncs.set i phase') (hfresh : s'.Fresh x i phase') (j : Nat)
    (phase : SyncPhase) (h : s'.syncs[j]? = some phase) :
    (s.syncs[j]? = some phase ∧ ∀ f', SyncEvent.sync i f ≠ .sync j f') ∨ s'.Fresh x j phase := by
  rw [hsyn, getElem?_set] at h
  by_cases hj : i = j
  · subst hj
    rw [if_pos rfl] at h
    split at h
    · cases h
      exact .inr hfresh
    · cases h
  · rw [if_neg hj] at h
    exact .inl ⟨h, fun f' heq => hj (SyncEvent.sync.inj heq).1⟩

/-- A step of a sync that leaves the cache alone. -/
theorem spec_quiet {phase' : SyncPhase} {lock' : Option Nat}
    (hval : s.Valid x) (hlock : ∀ j, s.lock = some j → j ≠ i → lock' = some j)
    (hfresh : Fresh x { s with lock := lock', syncs := s.syncs.set i phase' } i phase') :
    Spec env x s (.sync i f) { s with lock := lock', syncs := s.syncs.set i phase' } where
  effect := .other rfl rfl (.refl x s.cache)
  generation := le_refl _
  lock := fun j hj hne => hlock j hj fun heq => hne f (by rw [heq])
  saved := hval.saved
  syncs := syncs_set rfl hfresh

theorem spec_install {rows : Table Channel.id} {lock' : Option Nat}
    (hval : s.Valid x) (hlock : ∀ j, s.lock = some j → j = i) (hrows : s.Current x rows) :
    Spec env x s (.sync i f) { s with
      cache := installSnapshot env rows.rows s.cache
      lock := lock'
      syncs := s.syncs.set i .returned } where
  effect := .install rows hrows rfl rfl rfl
  generation := Nat.le_succ _
  lock := fun j hj hne => absurd rfl (hlock j hj ▸ hne f)
  saved := hval.saved
  syncs := syncs_set rfl trivial

theorem spec_advance {phase : SyncPhase} (hval : s.Valid x)
    (hphase : s.syncs[i]? = some phase) (h : s.advance env i f phase = some s') :
    Spec env x s (.sync i f) s' := by
  have hfresh := hval.fresh i phase hphase
  have hsm : ∀ j, s.lock = some j → j ≠ i → s.lock = some j := fun j hj _ => hj
  cases phase with
  | attempt n =>
    simp only [advance] at h
    split at h
    · cases h
    rename_i hlock
    rw [not_not] at hlock
    split at h
    · cases h
      refine spec_quiet hval (fun j hj => ?_) rfl
      rw [hlock] at hj
      cases hj
    · cases h
      exact spec_quiet hval hsm (le_refl _)
  | generationRead n generation =>
    simp only [advance] at h
    split at h
    · cases h
      exact spec_quiet hval hsm trivial
    · cases h
      exact spec_quiet hval hsm ⟨hfresh, fun _ _ => rfl⟩
  | scanned n generation rows =>
    simp only [advance] at h
    split at h
    · cases h
    rename_i hlock
    rw [not_not] at hlock
    split at h
    · cases h
      exact spec_quiet hval hsm trivial
    rename_i heq
    rw [not_not] at heq
    have hcur := hfresh.2 heq.symm
    cases h
    refine spec_install hval (fun j hj => ?_) hcur
    rw [hlock] at hj
    cases hj
  | locked =>
    simp only [advance] at h
    split at h
    · cases h
      refine spec_quiet hval (fun j hj hne => ?_) trivial
      exact absurd (Option.some.inj (hj.symm.trans hfresh)) hne
    · cases h
      exact spec_quiet hval hsm ⟨hfresh, fun _ => rfl⟩
  | lockedScanned rows =>
    cases h
    exact spec_install hval (fun j hj => Option.some.inj (hj.symm.trans hfresh.1)) hfresh.2
  | returned => cases h

theorem spec_update (heff : Effect env x s e s')
    (hgen : s.cache.channelCacheGeneration ≤ s'.cache.channelCacheGeneration)
    (hlock : s'.lock = s.lock) (hsyn : s'.syncs = s.syncs) (he : ∀ j f, e ≠ .sync j f)
    (hsav : ∀ id phase, s'.updates id = some phase → phase.saved.id = id) : Spec env x s e s' where
  effect := heff
  generation := hgen
  lock := fun _ hj _ => hlock.trans hj
  saved := hsav
  syncs := fun j _ hj => .inl ⟨hsyn ▸ hj, fun f => he j f⟩

variable {id : Int}

/-- The saved rows after the update of one channel. -/
theorem saved_update (hval : s.Valid x) {phase' : Option UpdatePhase}
    (hphase : ∀ phase, phase' = some phase → phase.saved.id = id) (id' : Int) (phase : UpdatePhase)
    (h : Function.update s.updates id phase' id' = some phase) : phase.saved.id = id' := by
  by_cases hid : id' = id
  · subst hid
    rw [update_self] at h
    exact hphase phase h
  · rw [update_of_ne hid] at h
    exact hval.saved id' phase h

theorem spec_write {usingKey : String} {status : ChannelStatus} {reason : String}
    {now : Int} (hval : s.Valid x) (h : s.write id usingKey status reason now = some s') :
    Spec env x s (.write id usingKey status reason now) s' := by
  unfold write at h
  split at h
  · rename_i row hno hfd
    split at h
    · cases h
    rename_i saved hsav
    have hid : saved.id = id :=
      (congrArg Channel.Route.id (Channel.route_updateStatus hsav)).trans
        (s.channels.find?_eq_some_iff.mp hfd).2
    cases h
    refine spec_update ?_ (le_refl _) rfl rfl nofun (saved_update hval fun phase hphase => ?_)
    · by_cases hx : id = x
      · subst hx
        refine .write saved _ rfl ?_ (update_self ..) rfl
        have hse : s.channels.find? saved.id = some row := hid ▸ hfd
        exact hid ▸ s.channels.find?_save_self hse
      · have hne : saved.id ≠ x := fun heq => hx (hid.symm.trans heq)
        exact .other (s.channels.find?_save_ne hne) (update_of_ne (Ne.symm hx) _ _)
          (.refl x s.cache)
    · cases hphase
      exact hid
  · cases h

theorem spec_publish (hval : s.Valid x) (h : s.publish id = some s') :
    Spec env x s (.publish id) s' := by
  unfold publish at h
  split at h
  · rename_i saved statusChanged hlock hwri
    have hid : saved.id = id := hval.saved id _ hwri
    cases h
    refine spec_update ?_ (Nat.le_succ _) rfl rfl nofun (saved_update hval fun phase hphase => ?_)
    · by_cases hx : id = x
      · subst hx
        exact .publish saved statusChanged hlock hwri rfl (update_self ..) rfl
      · have hne : saved.id ≠ x := fun heq => hx (hid.symm.trans heq)
        exact .other rfl (update_of_ne (Ne.symm hx) _ _)
          ⟨fun _ _ => rfl, update_of_ne (Ne.symm hne) _ _⟩
    · split at hphase
      · cases hphase
        exact hid
      · cases hphase
  · cases h

theorem generation_cacheUpdateChannelStatus (id : Int) (status : ChannelStatus)
    (cache : ChannelCache) : cache.channelCacheGeneration ≤
      (cache.cacheUpdateChannelStatus id status).channelCacheGeneration := by
  unfold ChannelCache.cacheUpdateChannelStatus
  cases cache.channelsIDM id with
  | none =>
    dsimp only
    split <;> exact le_refl _
  | some existing => exact Nat.le_succ _

theorem spec_cacheStatus (hval : s.Valid x) (h : s.cacheStatus id = some s') :
    Spec env x s (.cacheStatus id) s' := by
  unfold cacheStatus at h
  split at h
  · rename_i saved hlock hpub
    cases h
    refine spec_update ?_ (generation_cacheUpdateChannelStatus ..) rfl rfl
      nofun (saved_update hval fun _ hphase => by cases hphase)
    by_cases hx : id = x
    · subst hx
      exact .status saved hpub rfl (update_self ..) rfl
    · exact .other rfl (update_of_ne (Ne.symm hx) _ _)
        (ChannelCache.sameFor_cacheUpdateChannelStatus hx saved.status)
  · cases h

theorem spec_step (hval : s.Valid x) (h : Step env x s e s') : Spec env x s e s' := by
  obtain ⟨h, hoth⟩ := h
  cases e with
  | startSync =>
    cases h
    refine ⟨.other rfl rfl (.refl x s.cache), le_refl _, fun j hj _ => hj, hval.saved, ?_⟩
    intro j phase hj
    rw [getElem?_append] at hj
    split at hj
    · exact .inl ⟨hj, fun f heq => by cases heq⟩
    obtain rfl := mem_singleton.mp (mem_of_getElem? hj)
    exact .inr trivial
  | sync i f =>
    simp only [apply] at h
    cases hphase : s.syncs[i]? with
    | none =>
      rw [hphase] at h
      cases h
    | some phase =>
      rw [hphase] at h
      exact spec_advance hval hphase h
  | write id usingKey status reason now => exact spec_write hval h
  | publish id => exact spec_publish hval h
  | cacheStatus id => exact spec_cacheStatus hval h
  | cacheUpdateChannel ch =>
    simp only [apply] at h
    split at h
    · cases h
    cases h
    exact spec_update (.other rfl rfl
      ⟨fun _ _ => rfl, update_of_ne (Ne.symm (hoth ch rfl)) _ _⟩) (Nat.le_succ _) rfl rfl
      nofun hval.saved

/-! ## What every run keeps -/

theorem once_effect (hval : s.Valid x) (h : Effect env x s e s') (g m : String) :
    (s'.cache.group2model2channels g m).count x ≤ 1 := by
  have hon := hval.once g m
  cases h with
  | other hrow hupd hcac =>
    rw [hcac.count]
    exact hon
  | install rows hrows hchannels hup hcac =>
    rw [hcac, count_installSnapshot rows.nodup]
    split
    · exact Nat.le_refl 1
    · exact Nat.zero_le 1
  | write saved c hwr hrow hupd hcac
  | publish saved c hlock hwri hchannels hupd hcac =>
    rw [hcac]
    exact hon
  | status saved hwas hchannels hupd hcac =>
    rw [hcac]
    exact ChannelCache.once_cacheUpdateChannelStatus hval.once saved.status g m

theorem row_effect (hval : s.Valid x) (h : Effect env x s e s') {phase : UpdatePhase}
    (hphase : s'.updates x = some phase) : s'.channels.find? x = some phase.saved := by
  cases h with
  | other hrow hupd hcac =>
    rw [hrow]
    exact hval.row phase (hupd ▸ hphase)
  | install rows hrows hchannels hup hcac =>
    rw [hchannels]
    exact hval.row phase (hup ▸ hphase)
  | write saved c hwr hrow hupd hcac =>
    cases hupd.symm.trans hphase
    exact hrow
  | publish saved c hlock hwri hchannels hupd hcac =>
    rw [hchannels]
    rw [hupd] at hphase
    split at hphase
    · cases hphase
      exact hval.row (.written _ c) hwri
    · cases hphase
  | status saved hwas hchannels hupd hcac =>
    rw [hupd] at hphase
    cases hphase

/-- A published row stays in the cache until the update returns: a sync that comes between
has the same row. -/
theorem published_effect (hval : s.Valid x) (h : Effect env x s e s') {saved : Channel}
    (hphase : s'.updates x = some (.published saved)) : s'.cache.channelsIDM x = some saved := by
  cases h with
  | other hrow hupd hcac =>
    rw [hcac.row]
    exact hval.published saved (hupd ▸ hphase)
  | install rows hrows hchannels hup hcac =>
    rw [hup] at hphase
    have hpub : s.Published x := by
      intro saved' c hw
      cases hw.symm.trans hphase
    rw [hcac]
    exact (hrows hpub).trans (hval.row _ hphase)
  | write saved' c hwr hrow hupd hcac => cases hupd.symm.trans hphase
  | publish saved' c hlock hwri hchannels hupd hcac =>
    rw [hupd] at hphase
    split at hphase
    · cases hphase
      have hid : saved.id = x := hval.saved x _ hwri
      rw [hcac, ← hid]
      exact update_self ..
    · cases hphase
  | status saved' hwas hchannels hupd hcac =>
    rw [hupd] at hphase
    cases hphase

theorem valid_step (hval : s.Valid x) (h : Step env x s e s') : s'.Valid x := by
  have hsp := spec_step hval h
  refine ⟨fun j phase hj => ?_, hsp.saved, once_effect hval hsp.effect,
    fun _ => row_effect hval hsp.effect, fun _ => published_effect hval hsp.effect⟩
  rcases hsp.syncs j phase hj with ⟨hold, hne⟩ | hfresh
  · exact (hval.fresh j phase hold).keep ⟨hsp.generation,
      fun hco rows => hsp.effect.current hco, fun hlock => hsp.lock j hlock hne⟩
  · exact hfresh

/-- No update of `x` is in progress, its row is `row` and the cache shows it. -/
structure Settled (x : Int) (row : Channel) (s : SyncState) : Prop where
  valid : s.Valid x
  idle : s.updates x = none
  current : s.channels.find? x = some row
  shows : s.cache.Shows row

theorem settled_step {row : Channel} (hset : s.Settled x row) (h : Step env x s e s')
    (hwr : ¬ Writes x e) : s'.Settled x row := by
  have hid : row.id = x := (s.channels.find?_eq_some_iff.mp hset.current).2
  have hval := valid_step hset.valid h
  cases (spec_step hset.valid h).effect with
  | other hrow hupd hcac =>
    exact ⟨hval, hupd.trans hset.idle, hrow.trans hset.current, hset.shows.same (hid ▸ hcac)⟩
  | install rows hrows hchannels hup hcac =>
    have hpub : s.Published x := by
      intro saved c hw
      cases hw.symm.trans hset.idle
    have hfd := (hrows hpub).trans hset.current
    refine ⟨hval, hup ▸ hset.idle, hchannels ▸ hset.current, ?_⟩
    rw [hcac]
    exact ChannelCache.shows_installSnapshot (hid ▸ hfd)
  | write saved c hwri hrow hupd hcac => exact absurd hwri hwr
  | publish saved c hlock hwrt hchannels hupd hcac =>
    cases hwrt.symm.trans hset.idle
  | status saved hwas hchannels hupd hcac => cases hwas.symm.trans hset.idle

theorem settled_return {saved : Channel} (hval : s.Valid x)
    (hpub : s.updates x = some (.published saved)) (h : Step env x s (.cacheStatus x) s') :
    s'.Settled x saved := by
  have hrow := hval.row _ hpub
  have hid : saved.id = x := hval.saved x _ hpub
  have hval' := valid_step hval h
  obtain ⟨h, -⟩ := h
  simp only [apply, cacheStatus] at h
  split at h
  · rename_i saved' hlock hphase
    cases hphase.symm.trans hpub
    cases h
    refine ⟨hval', update_self .., hrow, ?_⟩
    subst hid
    exact ChannelCache.shows_cacheUpdateChannelStatus hval.once (hval.published saved hpub)
  · cases h

/-- Nothing is in progress, and no list has `x` twice. -/
structure Quiet (x : Int) (s : SyncState) : Prop where
  syncs : s.syncs = []
  updates : ∀ id, s.updates id = none
  once : ∀ g m, (s.cache.group2model2channels g m).count x ≤ 1

theorem Quiet.valid (h : s.Quiet x) : s.Valid x := by
  refine ⟨fun i phase hi => ?_, fun id phase hid => ?_, h.once, fun phase hx => ?_,
    fun saved hx => ?_⟩
  · rw [h.syncs] at hi
    cases hi
  · cases hid.symm.trans (h.updates id)
  all_goals cases hx.symm.trans (h.updates x)

/-- **A sync does not undo a status update.**  Whatever syncs and updates interleave: when
an update that changed the status of `x` has returned, then until the next write of the row
of `x` a channel that is not enabled is in no list, and one that is enabled is once in the
list of each of its groups and models, if no two of these pairs have one text. -/
theorem status_update_stays {s₀ s₁ s₂ : SyncState} {es es' : List SyncEvent} {saved : Channel}
    (h₀ : s₀.Quiet x) (hrun : Run (Step env x) s₀ es s₁)
    (hpublished : s₁.updates x = some (.published saved))
    (hreturn : Step env x s₁ (.cacheStatus x) s₂) (hrun' : Run (Step env x) s₂ es' s')
    (hwrites : ∀ e ∈ es', ¬ Writes x e) :
    s'.channels.find? x = some saved ∧
    (saved.status ≠ .enabled → (∀ g m, x ∉ s'.cache.group2model2channels g m) ∧
      ∀ ch, s'.cache.channelsIDM x = some ch → ch.status ≠ .enabled) ∧
    (saved.status = .enabled → saved.KeysApart → ∀ g ∈ saved.group, ∀ m ∈ saved.servedModels,
      (s'.cache.group2model2channels g m).count x = 1) := by
  have hval : s₁.Valid x := hrun.invariant (I := Valid x)
    (fun _ _ _ hval h => valid_step hval h) h₀.valid
  have hend : s'.Settled x saved := (hrun'.restrict hwrites).invariant (I := Settled x saved)
    (fun _ _ _ hset h => settled_step hset h.1 h.2) (settled_return hval hpublished hreturn)
  obtain rfl : saved.id = x := (s'.channels.find?_eq_some_iff.mp hend.current).2
  exact ⟨hend.current, hend.shows.disabled, hend.shows.enabled⟩

/-! ### Two runs -/

/-- A table with one channel, and the cache of a process that has just started. -/
def one (ch : Channel) : SyncState where
  channels := ⟨[ch], List.nodup_singleton _⟩
  cache := .empty

theorem run_foldlM (x : Int) {s s' : SyncState} {es : List SyncEvent}
    (hoth : ∀ ch, .cacheUpdateChannel ch ∉ es) (h : es.foldlM (apply env) s = some s') :
    Run (Step env x) s es s' := by
  have hrun : Run (fun s e s' => apply env s e = some s') s es s' := Run.foldlM (fun _ _ _ h => h) h
  refine (hrun.restrict (P := fun e => ∀ ch, e ≠ .cacheUpdateChannel ch) ?_).mono ?_
  · rintro e he ch rfl
    exact hoth ch he
  · rintro s e s' ⟨h, hne⟩
    exact ⟨h, fun ch heq => absurd heq (hne ch)⟩

open RoutingDb (plainEnv oneModel sharedKeys)

/-- A sync has read the table when the channel is disabled. -/
def slowSync : List SyncEvent :=
  [.startSync, .sync 0 false, .sync 0 false,
    .write 1 "" .manuallyDisabled "manual operation" 10, .publish 1]

/-- The sync goes on: its rows are old, so it reads again and installs. -/
def secondAttempt : List SyncEvent :=
  [.sync 0 false, .sync 0 false, .sync 0 false, .sync 0 false]

theorem status_update_stays_slow :
    ∃ s₁ s₂ s₃, Run (Step plainEnv 1) (one { oneModel with status := .enabled }) slowSync s₁ ∧
      Step plainEnv 1 s₁ (.cacheStatus 1) s₂ ∧ Run (Step plainEnv 1) s₂ secondAttempt s₃ ∧
      s₃.cache.channelCacheGeneration = 3 ∧ ∀ g m, 1 ∉ s₃.cache.group2model2channels g m := by
  -- the first read is dropped, the second is installed
  obtain ⟨s₁, s₂, s₃, h₁, hpub, hret, h₂, hgen⟩ : ∃ s₁ s₂ s₃,
      slowSync.foldlM (apply plainEnv) (one { oneModel with status := .enabled }) = some s₁ ∧
      s₁.updates 1 = some (.published { oneModel with
        status := .manuallyDisabled, otherInfo := ⟨some "manual operation", some 10⟩ }) ∧
      apply plainEnv s₁ (.cacheStatus 1) = some s₂ ∧
      secondAttempt.foldlM (apply plainEnv) s₂ = some s₃ ∧ s₃.cache.channelCacheGeneration = 3 :=
    ⟨_, _, _, rfl, rfl, rfl, rfl, rfl⟩
  have hrun := run_foldlM 1 (by simp [slowSync]) h₁
  have hst : Step plainEnv 1 s₁ (.cacheStatus 1) s₂ := ⟨hret, fun ch heq => by cases heq⟩
  have hrun' := run_foldlM 1 (by simp [secondAttempt]) h₂
  refine ⟨s₁, s₂, s₃, hrun, hst, hrun', hgen, ?_⟩
  have hqui : (one { oneModel with status := .enabled }).Quiet 1 :=
    ⟨rfl, fun _ => rfl, fun _ _ => Nat.zero_le 1⟩
  refine ((status_update_stays hqui hrun hpub hst hrun' ?_).2.1 ?_).1
  · simp [secondAttempt, Writes]
  · decide

/-- The channel with two pairs of one key is enabled, and then there is a sync. -/
def enableThenSync : List SyncEvent :=
  [.write 1 "" .enabled "" 10, .publish 1, .cacheStatus 1, .startSync, .sync 0 false,
    .sync 0 false, .sync 0 false]

/-- **A sync can drop an enabled channel.**  The update lists the channel under the group
`a|b` and the model `c`, which both are in its row.  The sync takes them for the group `a` and
the model `b|c`, and does not. -/
theorem sync_drops_pair :
    ∃ s₁ s₂, Run (Step plainEnv 1) (one { sharedKeys with status := .manuallyDisabled })
        (enableThenSync.take 3) s₁ ∧
      Run (Step plainEnv 1) s₁ (enableThenSync.drop 3) s₂ ∧
      (s₂.channels.find? 1).any (fun row =>
        row.status = .enabled ∧ "a|b" ∈ row.group ∧ "c" ∈ row.servedModels) = true ∧
      s₁.cache.group2model2channels "a|b" "c" = [1] ∧
      s₂.cache.group2model2channels "a|b" "c" = [] := by
  refine ⟨_, _, run_foldlM 1 (by simp [enableThenSync]) rfl,
    run_foldlM 1 (by simp [enableThenSync]) rfl, ?_, ?_, ?_⟩
  all_goals decide +kernel

/-! ## No channel twice -/

/-- No list has a channel twice. -/
def Unrepeated (s : SyncState) : Prop := ∀ x g m, (s.cache.group2model2channels g m).count x ≤ 1

theorem unrepeated_step (s : SyncState) (e : SyncEvent) (s' : SyncState) (h : s.Unrepeated)
    (hst : s.apply env e = some s') : s'.Unrepeated := by
  have hins : ∀ (rows : Table Channel.id) x g m,
      ((installSnapshot env rows.rows s.cache).group2model2channels g m).count x ≤ 1 := by
    intro rows x g m
    rw [count_installSnapshot rows.nodup]
    split <;> omega
  have hupd : ∀ id status x g m,
      ((s.cache.cacheUpdateChannelStatus id status).group2model2channels g m).count x ≤ 1 := by
    intro id status x g m
    by_cases hx : id = x
    · subst hx
      exact ChannelCache.once_cacheUpdateChannelStatus (h id) status g m
    · rw [(ChannelCache.sameFor_cacheUpdateChannelStatus hx status).count]
      exact h x g m
  cases e
  all_goals simp only [apply, write, publish, cacheStatus, advance] at hst
  all_goals repeat' split at hst
  all_goals cases hst
  -- most branches leave the lists alone
  all_goals first | exact h | exact hins _ | exact hupd _ _

/-- **No channel is a candidate twice**, whatever syncs and updates overlap: it would be drawn with
twice its weight. -/
theorem cached_candidates_distinct {channels : Table Channel.id} {es : List SyncEvent}
    (hrun : Run (fun s e s' => apply env s e = some s') ⟨channels, .empty, fun _ => none, [], none⟩
      es s) {group model requestPath : String} {strictMissing : Bool}
    {found : List ChannelCandidate}
    (hfound : s.cache.buildCachedCandidates env group model requestPath strictMissing = .ok found) :
    (found.map ChannelCandidate.channelId).Nodup := by
  obtain ⟨m, hsub⟩ := usableChannels_sublist env s.cache group model requestPath
  have hone : s.Unrepeated := hrun.invariant unrepeated_step fun _ _ _ => Nat.zero_le 1
  have hnd := nodup_iff_count_le_one.mpr fun x => hone x group m
  exact hnd.sublist ((candidates_sublist hfound).trans hsub)

theorem cached_candidates_distinct_enabled : ∃ s found,
    Run (fun s e s' => apply plainEnv s e = some s') (one sharedKeys) enableThenSync s ∧
      s.cache.buildCachedCandidates plainEnv "a" "b|c" "" false = .ok found ∧
      (found.map ChannelCandidate.channelId).Nodup := by
  have hrun : Run (fun s e s' => apply plainEnv s e = some s') (one sharedKeys) enableThenSync _ :=
    Run.foldlM (fun _ _ _ h => h) rfl
  refine ⟨_, [⟨1, 0, 0, 0, false⟩], hrun, ?found, cached_candidates_distinct hrun ?found⟩
  decide +kernel

end SyncState

end NewApi
