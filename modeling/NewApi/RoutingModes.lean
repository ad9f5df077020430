import NewApi.ChannelCache
import NewApi.Steps

/-! # Two ways to route

Without the memory cache a request is routed by the abilities of enabled channels
(`buildDBCandidates`), with it by the lists of the cache (`buildCachedCandidates`).  The two
reach the same channels if the abilities of a channel are those that its columns say, and
are enabled when the channel is (`RoutingDb.InStep`).

All operations keep the tables in step but the two that set a status by tag, for they find
the abilities by the tag that the abilities have.  `BatchSetChannelTag` rebuilds abilities
with the tag that the channels had before, and a later `EnableChannelByTag` then enables
channels whose abilities stay disabled (`enabled_without_abilities`).  Besides, both loops
take a group and a model for seen by the text `group|model`, which two pairs may share, and
they run in different orders.  `modes_reach_same` says that there is nothing else. -/
namespace NewApi
open Db List Steps

/-! ## Candidates -/

structure ChannelCandidate where
  channelId : Int
  priority : Int
  weight : Int
  maxConcurrency : Int
  coolingDown : Bool
  deriving DecidableEq, Repr

/-- An Advanced Custom channel is for the paths of its config, others are for all. -/
def passesPath (type : Int) (config : Option PathConfig) (requestPath model : String) : Bool :=
  if type ≠ channelTypeAdvancedCustom then true
  else match config with
  | none => false
  | some supports => supports requestPath model

namespace RoutingDb
variable (env : RoutingEnv)

/-- The order of `getEnabledAbilities`. -/
def abilityOrder (a b : Ability) : Prop :=
  a.priority.getD 0 > b.priority.getD 0 ∨
    (a.priority.getD 0 = b.priority.getD 0 ∧ a.weight ≥ b.weight)

instance : DecidableRel abilityOrder := fun a b => by
  unfold abilityOrder
  infer_instance

def getEnabledAbilities (group modelName : String) (db : RoutingDb) : List Ability :=
  (db.abilities.rows.filter fun a =>
    a.group = group ∧ a.model = modelName ∧ a.enabled = true ∧
      (db.channels.find? a.channelId).any (·.status = .enabled)).insertionSort abilityOrder

def filterAbilitiesByRequestPathAndModel (db : RoutingDb) (requestPath model : String)
    (abilities : List Ability) : List Ability :=
  if requestPath = "" then abilities
  else abilities.filter fun a =>
    match db.channels.find? a.channelId with
    | none => true
    | some ch => passesPath ch.type (ch.pathConfig env) requestPath model

/-- The candidate of an ability. -/
def candidate (modelName : String) (a : Ability) : ChannelCandidate where
  channelId := a.channelId
  priority := a.priority.getD 0
  weight := Channel.saturatingUintToInt a.weight
  maxConcurrency :=
    match a.maxConcurrency with
    | none => 0
    | some limit => if limit > 0 then limit else 0
  coolingDown := env.channelCoolingDown a.channelId modelName

/-- The abilities that `buildDBCandidates` takes. -/
def usableAbilities (group modelName requestPath : String) (db : RoutingDb) : List Ability :=
  let exact := db.filterAbilitiesByRequestPathAndModel env requestPath modelName
    (db.getEnabledAbilities group modelName)
  let normalizedModel := env.formatMatchingModelName modelName
  if exact = [] ∧ normalizedModel ≠ modelName then
    db.filterAbilitiesByRequestPathAndModel env requestPath modelName
      (db.getEnabledAbilities group normalizedModel)
  else exact

def buildDBCandidates (group modelName requestPath : String) (db : RoutingDb) :
    List ChannelCandidate :=
  (db.usableAbilities env group modelName requestPath).map (candidate env modelName)

end RoutingDb

namespace ChannelCache
variable (env : RoutingEnv)

def filterChannelsByRequestPathAndModel (cache : ChannelCache) (requestPath model : String)
    (channels : List Int) : List Int :=
  if requestPath = "" then channels
  else channels.filter fun id =>
    match cache.channelsIDM id with
    | none => true
    | some ch => passesPath ch.type (cache.channel2advancedCustomConfig id) requestPath model

/-- The candidate of a channel. -/
def candidate (modelName : String) (id : Int) (ch : Channel) : ChannelCandidate where
  channelId := id
  priority := ch.getPriority
  weight := ch.getWeight
  maxConcurrency := ch.getMaxConcurrency
  coolingDown := env.channelCoolingDown id modelName

/-- The loop of `buildCachedCandidates`. -/
def candidates (cache : ChannelCache) (modelName : String) (strictMissing : Bool) :
    List Int → Except String (List ChannelCandidate)
  | [] => .ok []
  | id :: rest =>
      match cache.channelsIDM id with
      | none =>
          if strictMissing then .error s!"数据库一致性错误，渠道# {id} 不存在，请联系管理员修复"
          else cache.candidates modelName strictMissing rest
      | some ch =>
          match cache.candidates modelName strictMissing rest with
          | .error text => .error text
          | .ok found => .ok (candidate env modelName id ch :: found)

/-- The ids that `buildCachedCandidates` takes. -/
def usableChannels (cache : ChannelCache) (group modelName requestPath : String) : List Int :=
  let exact := cache.filterChannelsByRequestPathAndModel requestPath modelName
    (cache.group2model2channels group modelName)
  if exact = [] then
    cache.filterChannelsByRequestPathAndModel requestPath modelName
      (cache.group2model2channels group (env.formatMatchingModelName modelName))
  else exact

def buildCachedCandidates (cache : ChannelCache) (group modelName requestPath : String)
    (strictMissing : Bool) : Except String (List ChannelCandidate) :=
  cache.candidates env modelName strictMissing
    (cache.usableChannels env group modelName requestPath)

end ChannelCache

/-- `InitChannelCache`, when nothing else happens. -/
def RoutingDb.initChannelCache (env : RoutingEnv) (db : RoutingDb) : ChannelCache :=
  installSnapshot env db.channels.rows .empty

/-! ## Which channels are reached -/

namespace Channel

/-- The groups and models of a channel have different keys. -/
def KeysApart (ch : Channel) : Prop :=
  ∀ g ∈ ch.group, ∀ m ∈ ch.servedModels, ∀ g' ∈ ch.group, ∀ m' ∈ ch.servedModels,
    pairKey (g, m) = pairKey (g', m') → g = g' ∧ m = m'

section
variable {ch : Channel} (h : ch.KeysApart) {g m : String}
include h

/-- No pair of a channel is dropped, in whatever order they come. -/
theorem mem_keepFirst_pairs {pairs : List (String × String)}
    (hmem : ∀ p, p ∈ pairs ↔ p.1 ∈ ch.group ∧ p.2 ∈ ch.servedModels) :
    (g, m) ∈ keepFirst pairKey [] pairs ↔ g ∈ ch.group ∧ m ∈ ch.servedModels := by
  rw [mem_keepFirst, hmem]
  intro p hp q hq hkey
  rw [hmem] at hp hq
  exact Prod.ext_iff.mpr (h _ hp.1 _ hp.2 _ hq.1 _ hq.2 hkey)

theorem mem_abilityPairs : (g, m) ∈ ch.abilityPairs ↔ g ∈ ch.group ∧ m ∈ ch.servedModels := by
  refine mem_keepFirst_pairs h ?_
  rintro ⟨g, m⟩
  simp [and_comm]

theorem mem_cachePairs : (g, m) ∈ ch.cachePairs ↔ g ∈ ch.group ∧ m ∈ ch.servedModels := by
  refine mem_keepFirst_pairs h ?_
  rintro ⟨g, m⟩
  simp

end

/-- The channel is reached for a group and a model by a request for `model` on a path. -/
structure Serves (env : RoutingEnv) (ch : Channel) (g m requestPath model : String) : Prop where
  enabled : ch.status = .enabled
  pair : g ∈ ch.group ∧ m ∈ ch.servedModels
  path : requestPath = "" ∨ passesPath ch.type (ch.pathConfig env) requestPath model = true

end Channel

/-- **The abilities are those of the channels**: each belongs to a channel, each channel has
one for each of its pairs, and they are enabled if the channel is. -/
structure RoutingDb.InStep (db : RoutingDb) : Prop where
  owner : ∀ a ∈ db.abilities.rows, ∃ ch ∈ db.channels.rows, ch.id = a.channelId
  pairs : ∀ ch ∈ db.channels.rows, ∀ p, p ∈ ch.abilityPairs ↔
    ∃ a ∈ db.abilities.rows, a.channelId = ch.id ∧ (a.group, a.model) = p
  enabled : ∀ ch ∈ db.channels.rows, ch.status = .enabled →
    ∀ a ∈ db.abilities.rows, a.channelId = ch.id → a.enabled = true

section Reach
variable {env : RoutingEnv} {db : RoutingDb} {g m requestPath model : String} {id : Int}

theorem mem_getEnabledAbilities {a : Ability} (h : a ∈ db.getEnabledAbilities g m) :
    a ∈ db.abilities.rows ∧ a.group = g ∧ a.model = m ∧
      ∃ ch ∈ db.channels.rows, db.channels.find? a.channelId = some ch ∧
        ch.id = a.channelId ∧ ch.status = .enabled := by
  obtain ⟨hmem, hco⟩ := mem_filter.mp ((mem_insertionSort _).mp h)
  obtain ⟨hg, hm, -, hany⟩ := of_decide_eq_true hco
  cases hfd : db.channels.find? a.channelId with
  | none =>
    rw [hfd] at hany
    cases hany
  | some ch =>
    obtain ⟨hch, hid⟩ := db.channels.find?_eq_some_iff.mp hfd
    rw [hfd] at hany
    exact ⟨hmem, hg, hm, ch, hch, rfl, hid, of_decide_eq_true hany⟩

open RoutingDb

/-- What the abilities reach. -/
theorem mem_filterAbilities (hst : db.InStep) (hks : ∀ ch ∈ db.channels.rows, ch.KeysApart) :
    id ∈ (db.filterAbilitiesByRequestPathAndModel env requestPath model
        (db.getEnabledAbilities g m)).map Ability.channelId ↔
      ∃ ch ∈ db.channels.rows, ch.id = id ∧ ch.Serves env g m requestPath model := by
  constructor
  · intro h
    obtain ⟨a, ha, rfl⟩ := mem_map.mp h
    unfold filterAbilitiesByRequestPathAndModel at ha
    by_cases hpa : requestPath = ""
    · rw [if_pos hpa] at ha
      obtain ⟨hmem, rfl, rfl, ch, hch, -, hid, hsts⟩ := mem_getEnabledAbilities ha
      refine ⟨ch, hch, hid, hsts, ?_, .inl hpa⟩
      exact (Channel.mem_abilityPairs (hks ch hch)).mp
        ((hst.pairs ch hch _).mpr ⟨a, hmem, hid.symm, rfl⟩)
    · rw [if_neg hpa] at ha
      obtain ⟨ha, hpas⟩ := mem_filter.mp ha
      obtain ⟨hmem, rfl, rfl, ch, hch, hfd, hid, hsts⟩ := mem_getEnabledAbilities ha
      rw [hfd] at hpas
      refine ⟨ch, hch, hid, hsts, ?_, .inr hpas⟩
      exact (Channel.mem_abilityPairs (hks ch hch)).mp
        ((hst.pairs ch hch _).mpr ⟨a, hmem, hid.symm, rfl⟩)
  · rintro ⟨ch, hch, rfl, hser⟩
    obtain ⟨a, ha, hid, hpai⟩ := (hst.pairs ch hch (g, m)).mp
      ((Channel.mem_abilityPairs (hks ch hch)).mpr hser.pair)
    rw [Prod.mk.injEq] at hpai
    have hfd : db.channels.find? a.channelId = some ch :=
      db.channels.find?_eq_some_iff.mpr ⟨hch, hid.symm⟩
    have hget : a ∈ db.getEnabledAbilities g m := by
      refine (mem_insertionSort _).mpr (mem_filter.mpr ⟨ha, decide_eq_true ?_⟩)
      refine ⟨hpai.1, hpai.2, hst.enabled ch hch hser.enabled a ha hid, ?_⟩
      rw [hfd]
      exact decide_eq_true hser.enabled
    refine mem_map.mpr ⟨a, ?_, hid⟩
    unfold filterAbilitiesByRequestPathAndModel
    rcases hser.path with hpa | hpas
    · rw [if_pos hpa]
      exact hget
    by_cases hpa : requestPath = ""
    · rw [if_pos hpa]
      exact hget
    rw [if_neg hpa]
    refine mem_filter.mpr ⟨hget, ?_⟩
    rw [hfd]
    exact hpas

/-- What the lists of the cache reach. -/
theorem mem_filterChannels (hks : ∀ ch ∈ db.channels.rows, ch.KeysApart) :
    id ∈ (db.initChannelCache env).filterChannelsByRequestPathAndModel requestPath model
        ((db.initChannelCache env).group2model2channels g m) ↔
      ∃ ch ∈ db.channels.rows, ch.id = id ∧ ch.Serves env g m requestPath model := by
  have hli : id ∈ (db.initChannelCache env).group2model2channels g m ↔
      ∃ ch ∈ db.channels.rows, ch.id = id ∧ ch.status = .enabled ∧ g ∈ ch.group ∧
        m ∈ ch.servedModels := by
    rw [← count_pos_iff, initChannelCache, count_installSnapshot db.channels.nodup]
    constructor
    · intro h
      split at h
      · rename_i hex
        obtain ⟨ch, hch, hid, hsts, hp⟩ := hex
        exact ⟨ch, hch, hid, hsts, (Channel.mem_cachePairs (hks ch hch)).mp hp⟩
      · cases h
    · rintro ⟨ch, hch, hid, hsts, hp⟩
      rw [if_pos ⟨ch, hch, hid, hsts, (Channel.mem_cachePairs (hks ch hch)).mpr hp⟩]
      exact Nat.one_pos
  -- the cache has the row and the config of each channel
  have hpa : ∀ ch ∈ db.channels.rows, ch.id = id →
      (match (db.initChannelCache env).channelsIDM id with
        | none => true
        | some ch => passesPath ch.type
            ((db.initChannelCache env).channel2advancedCustomConfig id) requestPath model) =
        passesPath ch.type (ch.pathConfig env) requestPath model := by
    intro ch hch hid
    have hfd : db.channels.find? id = some ch :=
      db.channels.find?_eq_some_iff.mpr ⟨hch, hid⟩
    have hIDM : (db.initChannelCache env).channelsIDM id = some ch := hfd
    have hcon : (db.initChannelCache env).channel2advancedCustomConfig id = ch.pathConfig env := by
      show (db.channels.find? id).bind _ = _
      rw [hfd]
      rfl
    rw [hIDM, hcon]
  unfold ChannelCache.filterChannelsByRequestPathAndModel
  by_cases hemp : requestPath = ""
  · rw [if_pos hemp, hli]
    constructor
    · rintro ⟨ch, hch, hid, hsts, hp⟩
      exact ⟨ch, hch, hid, hsts, hp, .inl hemp⟩
    · rintro ⟨ch, hch, hid, hser⟩
      exact ⟨ch, hch, hid, hser.enabled, hser.pair⟩
  · rw [if_neg hemp, mem_filter, hli]
    constructor
    · rintro ⟨⟨ch, hch, hid, hsts, hp⟩, hpas⟩
      exact ⟨ch, hch, hid, hsts, hp, .inr ((hpa ch hch hid).symm.trans hpas)⟩
    · rintro ⟨ch, hch, hid, hser⟩
      exact ⟨⟨ch, hch, hid, hser.enabled, hser.pair⟩,
        (hpa ch hch hid).trans (hser.path.resolve_left hemp)⟩

theorem nil_iff_of_mem_iff {α β : Type} {l : List α} {l' : List β} {f : α → β}
    (h : ∀ b, b ∈ l.map f ↔ b ∈ l') : l = [] ↔ l' = [] := by
  constructor
  · rintro rfl
    rw [eq_nil_iff_forall_not_mem]
    intro b hb
    cases (h b).mpr hb
  · rintro rfl
    rw [eq_nil_iff_forall_not_mem]
    intro a ha
    cases (h (f a)).mp (mem_map_of_mem ha)

/-- The two modes take the same channels, with the fallback to the normalised model. -/
theorem mem_usable (hst : db.InStep) (hks : ∀ ch ∈ db.channels.rows, ch.KeysApart) :
    id ∈ (db.usableAbilities env g model requestPath).map Ability.channelId ↔
      id ∈ (db.initChannelCache env).usableChannels env g model requestPath := by
  have hsm : ∀ m id, id ∈ (db.filterAbilitiesByRequestPathAndModel env requestPath model
        (db.getEnabledAbilities g m)).map Ability.channelId ↔
      id ∈ (db.initChannelCache env).filterChannelsByRequestPathAndModel requestPath model
        ((db.initChannelCache env).group2model2channels g m) := by
    intro m id
    rw [mem_filterAbilities hst hks, mem_filterChannels hks]
  have hnil := nil_iff_of_mem_iff (hsm model)
  unfold usableAbilities ChannelCache.usableChannels
  by_cases hexa : db.filterAbilitiesByRequestPathAndModel env requestPath model
      (db.getEnabledAbilities g model) = []
  · rw [if_pos (hnil.mp hexa)]
    by_cases hno : env.formatMatchingModelName model = model
    · -- there is nothing under the normalised name either
      rw [if_neg fun h => h.2 hno, hno]
      exact hsm model id
    · rw [if_pos ⟨hexa, hno⟩]
      exact hsm _ id
  · rw [if_neg fun h => hexa h.1, if_neg fun h => hexa (hnil.mpr h)]
    exact hsm model id

/-- What `buildDBCandidates` takes is part of the abilities of one model. -/
theorem usableAbilities_sublist (env : RoutingEnv) (db : RoutingDb) (g model requestPath : String) :
    ∃ m, (db.usableAbilities env g model requestPath).Sublist (db.getEnabledAbilities g m) := by
  have hfil : ∀ m, (db.filterAbilitiesByRequestPathAndModel env requestPath model
      (db.getEnabledAbilities g m)).Sublist (db.getEnabledAbilities g m) := by
    intro m
    unfold filterAbilitiesByRequestPathAndModel
    split
    · exact .refl _
    · exact filter_sublist
  dsimp only [usableAbilities]
  split
  all_goals exact ⟨_, hfil _⟩

/-- What `buildCachedCandidates` takes is part of a list of the cache. -/
theorem usableChannels_sublist (env : RoutingEnv) (cache : ChannelCache)
    (g model requestPath : String) : ∃ m, (cache.usableChannels env g model requestPath).Sublist
      (cache.group2model2channels g m) := by
  have hfil : ∀ l, (cache.filterChannelsByRequestPathAndModel requestPath model l).Sublist l := by
    intro l
    unfold ChannelCache.filterChannelsByRequestPathAndModel
    split
    · exact .refl _
    · exact filter_sublist
  dsimp only [ChannelCache.usableChannels]
  split
  all_goals exact ⟨_, hfil _⟩

theorem candidates_ok (env : RoutingEnv) (model : String) {cache : ChannelCache}
    (strictMissing : Bool) {ids : List Int} (h : ∀ i ∈ ids, ∃ ch, cache.channelsIDM i = some ch) :
    ∃ found, cache.candidates env model strictMissing ids = .ok found ∧
      found.map ChannelCandidate.channelId = ids ∧
      ∀ c ∈ found, ∃ ch, cache.channelsIDM c.channelId = some ch ∧
        c = ChannelCache.candidate env model c.channelId ch := by
  induction ids with
  | nil => exact ⟨[], rfl, rfl, fun c hc => by cases hc⟩
  | cons i ids ih =>
    rw [forall_mem_cons] at h
    obtain ⟨ch, hch⟩ := h.1
    obtain ⟨found, hfound, hids, hrows⟩ := ih h.2
    refine ⟨ChannelCache.candidate env model i ch :: found, ?_, ?_, ?_⟩
    · simp only [ChannelCache.candidates, hch, hfound]
    · rw [map_cons, hids]
      rfl
    · exact forall_mem_cons.mpr ⟨⟨ch, hch, rfl⟩, hrows⟩

/-- The ids of the cache are ids of rows. -/
theorem exists_row_of_usable
    (h : id ∈ (db.initChannelCache env).usableChannels env g model requestPath) :
    ∃ ch, (db.initChannelCache env).channelsIDM id = some ch := by
  obtain ⟨m, hsub⟩ := usableChannels_sublist env (db.initChannelCache env) g model requestPath
  have hm := hsub.subset h
  rw [← count_pos_iff, initChannelCache, count_installSnapshot db.channels.nodup] at hm
  split at hm
  · rename_i hex
    obtain ⟨ch, hch, hid, -⟩ := hex
    exact ⟨ch, db.channels.find?_eq_some_iff.mpr ⟨hch, hid⟩⟩
  · cases hm

/-- **Tables in step route alike**: right after a sync both modes have candidates for the
same channels. -/
theorem candidates_same (hst : db.InStep) (hks : ∀ ch ∈ db.channels.rows, ch.KeysApart)
    (g model requestPath : String) (strictMissing : Bool) :
    ∃ found, (db.initChannelCache env).buildCachedCandidates env g model requestPath
        strictMissing = .ok found ∧
      ∀ id, id ∈ (db.buildDBCandidates env g model requestPath).map ChannelCandidate.channelId ↔
        id ∈ found.map ChannelCandidate.channelId := by
  have hrows : ∀ i ∈ (db.initChannelCache env).usableChannels env g model requestPath,
      ∃ ch, (db.initChannelCache env).channelsIDM i = some ch := fun i => exists_row_of_usable
  obtain ⟨found, hfound, hids, -⟩ := candidates_ok env model strictMissing hrows
  refine ⟨found, hfound, fun id => ?_⟩
  rw [hids, ← mem_usable hst hks, buildDBCandidates, map_map]
  rfl

end Reach

/-! ## What keeps the tables in step -/

theorem Channel.abilityPairs_congr {ch ch' : Channel} (hmod : ch'.models = ch.models)
    (hgroup : ch'.group = ch.group) : ch'.abilityPairs = ch.abilityPairs := by
  unfold abilityPairs servedModels
  rw [hmod, hgroup]

section Keep
variable {env : RoutingEnv} {db db' : RoutingDb} {f : Channel → Channel}

theorem RoutingDb.InStep.patched (hst : db.InStep) {h : Ability → Ability}
    (hchannels : db'.channels.rows = db.channels.rows.map f)
    (habi : db'.abilities.rows = db.abilities.rows.map h)
    (hf : ∀ ch ∈ db.channels.rows, (f ch).id = ch.id ∧ (f ch).abilityPairs = ch.abilityPairs)
    (hkey : ∀ a, (h a).key = a.key) (hen : ∀ ch ∈ db.channels.rows, (f ch).status = .enabled →
      ∀ a ∈ db.abilities.rows, a.channelId = ch.id → (h a).enabled = true) : db'.InStep := by
  have hid : ∀ a, (h a).channelId = a.channelId := fun a => congrArg (fun k => k.2.2) (hkey a)
  have hpa : ∀ a, ((h a).group, (h a).model) = (a.group, a.model) :=
    fun a => congrArg (fun k => (k.1, k.2.1)) (hkey a)
  refine ⟨?_, ?_, ?_⟩
  · intro a' ha'
    rw [habi] at ha'
    obtain ⟨a, ha, rfl⟩ := mem_map.mp ha'
    obtain ⟨ch, hch, hown⟩ := hst.owner a ha
    refine ⟨f ch, hchannels ▸ mem_map_of_mem hch, ?_⟩
    rw [(hf ch hch).1, hown, hid]
  · intro ch' hch' p
    rw [hchannels] at hch'
    obtain ⟨ch, hch, rfl⟩ := mem_map.mp hch'
    rw [(hf ch hch).1, (hf ch hch).2, hst.pairs ch hch, habi]
    constructor
    · rintro ⟨a, ha, hown, hp⟩
      exact ⟨h a, mem_map_of_mem ha, (hid a).trans hown, (hpa a).trans hp⟩
    · rintro ⟨a', ha', hown, hp⟩
      obtain ⟨a, ha, rfl⟩ := mem_map.mp ha'
      exact ⟨a, ha, (hid a).symm.trans hown, (hpa a).symm.trans hp⟩
  · intro ch' hch' hsts a' ha' hown
    rw [hchannels] at hch'
    rw [habi] at ha'
    obtain ⟨ch, hch, rfl⟩ := mem_map.mp hch'
    obtain ⟨a, ha, rfl⟩ := mem_map.mp ha'
    rw [hid, (hf ch hch).1] at hown
    exact hen ch hch hsts a ha hown

/-- `db'` is `db` with rows patched by `f` and abilities rebuilt from the rows `R`, one for
each channel that the patch touches. -/
structure RoutingDb.Rebuilt (db db' : RoutingDb) (f : Channel → Channel) (R : List Channel) :
    Prop where
  channels : db'.channels.rows = db.channels.rows.map f
  abilities : ∀ a, a ∈ db'.abilities.rows ↔
    (a ∈ db.abilities.rows ∧ ∀ r ∈ R, a.channelId ≠ r.id) ∨ ∃ r ∈ R, a ∈ r.newAbilities
  nodup : (R.map Channel.id).Nodup
  owner : ∀ r ∈ R, ∃ ch ∈ db.channels.rows, ch.id = r.id
  id : ∀ ch ∈ db.channels.rows, (f ch).id = ch.id
  kept : ∀ ch ∈ db.channels.rows, (∀ r ∈ R, r.id ≠ ch.id) → f ch = ch

/-- The abilities of a channel come from one place. -/
theorem RoutingDb.Rebuilt.mem_abilities {R : List Channel} (h : db.Rebuilt db' f R) {id : Int}
    {a : Ability} (ha : a.channelId = id) :
    a ∈ db'.abilities.rows ↔ (a ∈ db.abilities.rows ∧ ∀ r ∈ R, r.id ≠ id) ∨
      ∃ r ∈ R, r.id = id ∧ a ∈ r.newAbilities := by
  rw [h.abilities]
  constructor
  · rintro (⟨hold, hne⟩ | ⟨r, hr, hnew⟩)
    · exact .inl ⟨hold, fun r hr heq => hne r hr (ha.trans heq.symm)⟩
    · exact .inr ⟨r, hr, (Channel.channelId_of_mem hnew).symm.trans ha, hnew⟩
  · rintro (⟨hold, hne⟩ | ⟨r, hr, -, hnew⟩)
    · exact .inl ⟨hold, fun r hr heq => hne r hr (heq.symm.trans ha)⟩
    · exact .inr ⟨r, hr, hnew⟩

theorem RoutingDb.InStep.rebuilt (hst : db.InStep) {R : List Channel} (h : db.Rebuilt db' f R)
    (hbui : ∀ ch ∈ db.channels.rows, ∀ r ∈ R, r.id = ch.id →
      (f ch).abilityPairs = r.abilityPairs ∧ ((f ch).status = .enabled → r.status = .enabled)) :
    db'.InStep := by
  refine ⟨?_, ?_, ?_⟩
  · intro a ha
    have hrow : ∃ ch ∈ db.channels.rows, ch.id = a.channelId := by
      rcases (h.abilities a).mp ha with ⟨hold, -⟩ | ⟨r, hr, hnew⟩
      · exact hst.owner a hold
      obtain ⟨ch, hch, hown⟩ := h.owner r hr
      exact ⟨ch, hch, hown.trans (Channel.channelId_of_mem hnew).symm⟩
    obtain ⟨ch, hch, hown⟩ := hrow
    exact ⟨f ch, h.channels ▸ mem_map_of_mem hch, (h.id ch hch).trans hown⟩
  · intro ch' hch' p
    rw [h.channels] at hch'
    obtain ⟨ch, hch, rfl⟩ := mem_map.mp hch'
    rw [h.id ch hch]
    by_cases hr : ∃ r ∈ R, r.id = ch.id
    · obtain ⟨r, hr, heq⟩ := hr
      rw [(hbui ch hch r hr heq).1]
      constructor
      · intro hp
        have hnew : (⟨p.1, p.2, r.id, _, _, _, _, _⟩ : Ability) ∈ r.newAbilities :=
          mem_map_of_mem hp
        exact ⟨_, (h.mem_abilities heq).mpr (.inr ⟨r, hr, heq, hnew⟩), heq, rfl⟩
      · rintro ⟨a, ha, hown, rfl⟩
        rcases (h.mem_abilities hown).mp ha with ⟨-, hne⟩ | ⟨r', hr', heq', hnew⟩
        · exact absurd heq (hne r hr)
        obtain rfl : r' = r := inj_on_of_nodup_map h.nodup hr' hr (heq'.trans heq.symm)
        obtain ⟨p, hp, rfl⟩ := mem_map.mp hnew
        exact hp
    · have hne : ∀ r ∈ R, r.id ≠ ch.id := fun r hr' heq => hr ⟨r, hr', heq⟩
      rw [h.kept ch hch hne, hst.pairs ch hch]
      constructor
      · rintro ⟨a, ha, hown, hp⟩
        exact ⟨a, (h.mem_abilities hown).mpr (.inl ⟨ha, hne⟩), hown, hp⟩
      rintro ⟨a, ha, hown, hp⟩
      rcases (h.mem_abilities hown).mp ha with ⟨hold, -⟩ | ⟨r, hr', heq, -⟩
      · exact ⟨a, hold, hown, hp⟩
      · exact absurd heq (hne r hr')
  · intro ch' hch' hsts a ha hown
    rw [h.channels] at hch'
    obtain ⟨ch, hch, rfl⟩ := mem_map.mp hch'
    rw [h.id ch hch] at hown
    rcases (h.mem_abilities hown).mp ha with ⟨hold, hne⟩ | ⟨r, hr, heq, hnew⟩
    · rw [h.kept ch hch hne] at hsts
      exact hst.enabled ch hch hsts a hold hown
    · obtain ⟨p, -, rfl⟩ := mem_map.mp hnew
      exact decide_eq_true ((hbui ch hch r hr heq).2 hsts)

/-- `db'` is `db` with the new channels `created` and their abilities. -/
structure RoutingDb.Inserted (db db' : RoutingDb) (created : List Channel) : Prop where
  channels : db'.channels.rows = db.channels.rows ++ created
  abilities : ∀ a, a ∈ db'.abilities.rows ↔
    a ∈ db.abilities.rows ∨ ∃ ch ∈ created, a ∈ ch.newAbilities

namespace RoutingDb.Inserted
variable {created : List Channel} {ch : Channel} {a : Ability}

section
variable (h : db.Inserted db' created)
include h

theorem nodup : (created.map Channel.id).Nodup := by
  have hnd := db'.channels.nodup
  rw [h.channels, map_append, nodup_append] at hnd
  exact hnd.2.1

theorem id_ne (hch : ch ∈ db.channels.rows) {c : Channel} (hc : c ∈ created) : ch.id ≠ c.id := by
  have hnd := db'.channels.nodup
  rw [h.channels, map_append, nodup_append] at hnd
  exact hnd.2.2 _ (mem_map_of_mem hch) _ (mem_map_of_mem hc)

theorem mem_old (hch : ch ∈ db.channels.rows)
    (ha : a.channelId = ch.id) : a ∈ db'.abilities.rows ↔ a ∈ db.abilities.rows := by
  rw [h.abilities]
  constructor
  · rintro (hold | ⟨c, hc, hnew⟩)
    · exact hold
    · exact absurd (ha.symm.trans (Channel.channelId_of_mem hnew)) (h.id_ne hch hc)
  · exact .inl

/-- A new channel has those that were added for it. -/
theorem mem_new (hst : db.InStep) (hch : ch ∈ created)
    (ha : a.channelId = ch.id) : a ∈ db'.abilities.rows ↔ a ∈ ch.newAbilities := by
  rw [h.abilities]
  constructor
  · rintro (hold | ⟨c, hc, hnew⟩)
    · obtain ⟨owner, hown, hid⟩ := hst.owner a hold
      exact absurd (hid.trans ha) (h.id_ne hown hch)
    · obtain rfl : c = ch := inj_on_of_nodup_map h.nodup hc hch
        ((Channel.channelId_of_mem hnew).symm.trans ha)
      exact hnew
  · exact fun hnew => .inr ⟨ch, hch, hnew⟩

end

end RoutingDb.Inserted

theorem RoutingDb.InStep.inserted (hst : db.InStep) {created : List Channel}
    (h : db.Inserted db' created) : db'.InStep := by
  refine ⟨?_, ?_, ?_⟩
  · intro a ha
    rw [h.channels]
    rcases (h.abilities a).mp ha with hold | ⟨c, hc, hnew⟩
    · obtain ⟨ch, hch, hid⟩ := hst.owner a hold
      exact ⟨ch, mem_append_left _ hch, hid⟩
    · exact ⟨c, mem_append_right _ hc, (Channel.channelId_of_mem hnew).symm⟩
  · intro ch hch p
    rw [h.channels] at hch
    rcases mem_append.mp hch with hch | hch
    · rw [hst.pairs ch hch]
      constructor
      · rintro ⟨a, ha, hown, hp⟩
        exact ⟨a, (h.mem_old hch hown).mpr ha, hown, hp⟩
      · rintro ⟨a, ha, hown, hp⟩
        exact ⟨a, (h.mem_old hch hown).mp ha, hown, hp⟩
    · constructor
      · intro hp
        have hadd : (⟨p.1, p.2, ch.id, _, _, _, _, _⟩ : Ability) ∈ ch.newAbilities :=
          mem_map_of_mem hp
        exact ⟨_, (h.mem_new hst hch rfl).mpr hadd, rfl, rfl⟩
      · rintro ⟨a, ha, hown, rfl⟩
        obtain ⟨p, hp, rfl⟩ := mem_map.mp ((h.mem_new hst hch hown).mp ha)
        exact hp
  · intro ch hch hsts a ha hown
    rw [h.channels] at hch
    rcases mem_append.mp hch with hch | hch
    · exact hst.enabled ch hch hsts a ((h.mem_old hch hown).mp ha) hown
    obtain ⟨p, -, rfl⟩ := mem_map.mp ((h.mem_new hst hch hown).mp ha)
    exact decide_eq_true hsts

namespace RoutingDb

theorem inStep_batchInsertChannels (hst : db.InStep) (channels : List Channel) :
    (db.batchInsertChannels channels).InStep := by
  dsimp only [batchInsertChannels]
  cases hcreate : db.channels.createAll (channels.map Channel.withDefaults) with
  | none => exact hst
  | some table =>
    generalize channels.map Channel.withDefaults = created at hcreate
    have hrows := Table.rows_createAll hcreate
    have hnd := table.nodup
    rw [hrows, map_append, nodup_append] at hnd
    -- no ability is of a new channel yet
    have hno : ∀ ch ∈ created, ∀ b ∈ db.abilities.rows, b.channelId ≠ ch.id := by
      intro ch hch b hb heq
      obtain ⟨owner, hown, hid⟩ := hst.owner b hb
      exact hnd.2.2 _ (mem_map_of_mem hown) _ (mem_map_of_mem hch) (hid.trans heq)
    have hchannels : (created.foldl (fun (db : RoutingDb) ch => db.addAbilities ch)
        { db with channels := table }).channels.rows = db.channels.rows ++ created := by
      rw [channels_foldl_addAbilities]
      exact hrows
    exact hst.inserted ⟨hchannels, fun a => mem_foldl_addAbilities hnd.2.1 hno⟩

/-- `Update` does nothing, or it rebuilds the abilities from the row that it saves. -/
theorem update_rebuilt (db : RoutingDb) (env : RoutingEnv) (patch : Channel) :
    db.update env patch = db ∨ ∃ f R, db.Rebuilt (db.update env patch) f R ∧
      ∀ ch ∈ db.channels.rows, ∀ r ∈ R, r.id = ch.id → f ch = r := by
  unfold update
  cases hfd : db.channels.find? patch.id with
  | none => exact .inl rfl
  | some row =>
    dsimp only
    split
    · exact .inl rfl
    rename_i settings _
    obtain ⟨hrow, hid⟩ := db.channels.find?_eq_some_iff.mp hfd
    generalize hsav : ({ (patch.recountKeys row).updates row with
      otherSettings := settings, effectivePriority := none, effectiveWeight := none } :
        Channel) = saved
    have hsv : saved.id = row.id := by
      rw [← hsav]
      rfl
    refine .inr ⟨fun ch => if ch.id = saved.id then saved else ch, [saved],
      ⟨rfl, fun a => ?_, nodup_singleton _, ?_, ?_, ?_⟩, ?_⟩
    · rw [mem_updateAbilities]
      simp
    · intro r hr
      rw [mem_singleton.mp hr]
      exact ⟨row, hrow, hsv.symm⟩
    · intro ch _
      split
      · rename_i h
        exact h.symm
      · rfl
    · intro ch _ hne
      exact if_neg (Ne.symm (hne saved mem_cons_self))
    · intro ch _ r hr heq
      rw [mem_singleton] at hr
      subst hr
      exact if_pos heq.symm

theorem inStep_update (hst : db.InStep) (patch : Channel) : (db.update env patch).InStep := by
  rcases db.update_rebuilt env patch with hsm | ⟨f, R, hreb, hbui⟩
  · rw [hsm]
    exact hst
  · refine hst.rebuilt hreb fun ch hch r hr heq => ?_
    rw [hbui ch hch r hr heq]
    exact ⟨rfl, id⟩

/-- A row is saved that keeps its models and groups. -/
theorem same_pairs_saved {row saved : Channel} (hrow : row ∈ db.channels.rows)
    (hrou : saved.route = row.route) :
    ∀ ch ∈ db.channels.rows, (if ch.id = saved.id then saved else ch).id = ch.id ∧
      (if ch.id = saved.id then saved else ch).abilityPairs = ch.abilityPairs := by
  intro ch hch
  have hid : saved.id = row.id := congrArg Channel.Route.id hrou
  by_cases heq : ch.id = saved.id
  · rw [if_pos heq, db.channels.eq_of_key_eq hch hrow (heq.trans hid)]
    exact ⟨hid, Channel.abilityPairs_congr (congrArg Channel.Route.models hrou)
      (congrArg Channel.Route.group hrou)⟩
  · rw [if_neg heq]
    exact ⟨rfl, rfl⟩

theorem inStep_updateChannelStatus (hst : db.InStep) (id : Int) (usingKey : String)
    (status : ChannelStatus) (reason : String) (now : Int) :
    (db.updateChannelStatus id usingKey status reason now).InStep := by
  unfold updateChannelStatus
  cases hfd : db.channels.find? id with
  | none => exact hst
  | some row =>
    dsimp only
    cases hupd : row.updateStatus usingKey status reason now with
    | none => exact hst
    | some saved =>
      dsimp only
      obtain ⟨hrow, hid⟩ := db.channels.find?_eq_some_iff.mp hfd
      have hrou := Channel.route_updateStatus hupd
      have hsav : saved.id = row.id := congrArg Channel.Route.id hrou
      have hf := same_pairs_saved hrow hrou
      split
      · -- the abilities follow the new status
        refine hst.patched (h := fun a => if a.channelId = id then
          { a with enabled := decide (saved.status = .enabled) } else a)
          rfl ?_ hf (fun a => ?_) ?_
        · simp only [updateAbilityStatus, Table.updateWhere, decide_eq_true_eq]
        · split <;> rfl
        · intro ch hch hsts a ha hown
          by_cases heq : ch.id = saved.id
          · rw [if_pos heq] at hsts
            rw [if_pos (hown.trans (heq.trans (hsav.trans hid)))]
            exact decide_eq_true hsts
          · rw [if_neg heq] at hsts
            rw [if_neg fun h => heq (hown.symm.trans (h.trans (hid.symm.trans hsav.symm)))]
            exact hst.enabled ch hch hsts a ha hown
      · rename_i hsm
        refine hst.patched (h := fun a => a) rfl (map_id _).symm hf (fun _ => rfl) ?_
        intro ch hch hsts a ha hown
        by_cases heq : ch.id = saved.id
        · rw [if_pos heq, ← not_not.mp hsm] at hsts
          rw [← db.channels.eq_of_key_eq hch hrow (heq.trans hsav)] at hsts
          exact hst.enabled ch hch hsts a ha hown
        · rw [if_neg heq] at hsts
          exact hst.enabled ch hch hsts a ha hown

variable {tag : String}

/-- By tag the abilities are found by their own tag. -/
theorem inStep_setStatusByTag (hst : db.InStep) {status : ChannelStatus}
    (hen : ∀ ch ∈ db.channels.rows, ∀ a ∈ db.abilities.rows, a.channelId = ch.id →
      (if ch.tag = some tag then status else ch.status) = .enabled →
      (if a.tag = some tag then decide (status = .enabled) else a.enabled) = true) :
    (db.setStatusByTag tag status).InStep := by
  refine hst.patched (f := fun ch => if ch.tag = some tag then
      { ch with status := status, effectivePriority := none, effectiveWeight := none } else ch)
    (h := fun a => if a.tag = some tag then { a with enabled := decide (status = .enabled) } else a)
    ?_ ?_ ?_ ?_ ?_
  · simp only [setStatusByTag, updateAbilityStatusByTag, Table.updateWhere, decide_eq_true_eq]
  · simp only [setStatusByTag, updateAbilityStatusByTag, Table.updateWhere, decide_eq_true_eq]
  · intro ch _
    split
    all_goals exact ⟨rfl, rfl⟩
  · intro a
    split <;> rfl
  · intro ch hch hsts a ha hown
    rw [apply_ite Ability.enabled]
    rw [apply_ite Channel.status] at hsts
    exact hen ch hch a ha hown hsts

theorem inStep_enableChannelByTag (hst : db.InStep)
    (hfit : ∀ ch ∈ db.channels.rows, ch.tag = some tag → ∀ a ∈ db.abilities.rows,
      a.channelId = ch.id → a.tag = some tag ∨ a.enabled = true) :
    (db.enableChannelByTag tag).InStep := by
  refine inStep_setStatusByTag hst fun ch hch a ha hown hsts => ?_
  by_cases ha' : a.tag = some tag
  · rw [if_pos ha']
    rfl
  rw [if_neg ha']
  by_cases htag : ch.tag = some tag
  · exact (hfit ch hch htag a ha hown).resolve_left ha'
  rw [if_neg htag] at hsts
  exact hst.enabled ch hch hsts a ha hown

theorem inStep_disableChannelByTag (hst : db.InStep)
    (hfit : ∀ a ∈ db.abilities.rows, a.tag = some tag → ∀ ch ∈ db.channels.rows,
      ch.id = a.channelId → ch.tag = some tag ∨ ch.status ≠ .enabled) :
    (db.disableChannelByTag tag).InStep := by
  refine inStep_setStatusByTag hst fun ch hch a ha hown hsts => ?_
  by_cases htag : ch.tag = some tag
  · rw [if_pos htag] at hsts
    cases hsts
  · rw [if_neg htag] at hsts
    rw [if_neg fun ha' => (hfit a ha ha' ch hch hown.symm).elim htag fun h => h hsts]
    exact hst.enabled ch hch hsts a ha hown

theorem id_editRow (tag : String) (edit : TagEdit) (row : Channel) :
    (editRow tag edit row).id = row.id := by
  unfold editRow
  split <;> rfl

theorem status_editRow (tag : String) (edit : TagEdit) (row : Channel) :
    (editRow tag edit row).status = row.status := by
  unfold editRow
  split <;> rfl

theorem tag_editRow (edit : TagEdit) {row : Channel} (htag : row.tag = some tag) :
    (editRow tag edit row).tag = some (edit.updatedTag tag) := by
  have hpat : ((edit.patch tag).updates row).tag = some (edit.updatedTag tag) := by
    show (if edit.newTag = some tag then none else edit.newTag).or row.tag = _
    rw [htag]
    unfold TagEdit.updatedTag
    by_cases hnew : edit.newTag = some tag
    · rw [if_pos hnew, hnew]
      rfl
    · rw [if_neg hnew]
      cases edit.newTag <;> rfl
  unfold editRow
  split <;> exact hpat

/-- An edit of neither models nor groups. -/
theorem abilityPairs_editRow {edit : TagEdit} (row : Channel)
    (h : edit.shouldReCreateAbilities = false) :
    (editRow tag edit row).abilityPairs = row.abilityPairs := by
  simp only [TagEdit.shouldReCreateAbilities, Bool.or_eq_false_iff, decide_eq_false_iff_not,
    not_not] at h
  have hmod : ((edit.patch tag).updates row).models = row.models := if_pos h.1
  have hgroup : ((edit.patch tag).updates row).group = row.group := if_pos h.2
  unfold editRow
  split <;> exact Channel.abilityPairs_congr hmod hgroup

/-- `EditChannelByTag` on a channel, whatever its tag. -/
theorem id_editTagged (tag : String) (edit : TagEdit) (ch : Channel) :
    (if (decide (ch.tag = some tag)) = true then editRow tag edit ch else ch).id = ch.id := by
  split
  · exact id_editRow tag edit ch
  · rfl

/-- An edit of models or groups rebuilds the abilities of the edited channels. -/
theorem editChannelByTag_rebuilt (db : RoutingDb) (tag : String) {edit : TagEdit}
    (hre : edit.shouldReCreateAbilities = true) :
    ∃ f R, db.Rebuilt (db.editChannelByTag tag edit) f R ∧
      ∀ ch ∈ db.channels.rows, ∀ r ∈ R, r.id = ch.id → f ch = r := by
  simp only [editChannelByTag, hre, if_true]
  generalize hchannels : db.channels.updateWhere (fun ch => decide (ch.tag = some tag))
    (editRow tag edit) _ = channels
  have hrows : channels.rows = db.channels.rows.map
      (fun ch => if (decide (ch.tag = some tag)) = true then editRow tag edit ch else ch) := by
    rw [← hchannels]
    rfl
  have hR : ((channels.rows.filter fun ch =>
      ch.tag = some (edit.updatedTag tag)).map Channel.id).Nodup :=
    channels.nodup.sublist (filter_sublist.map _)
  refine ⟨_, _, ⟨?_, fun a => mem_foldl_updateAbilities hR, hR, ?_,
    fun ch _ => id_editTagged tag edit ch, ?_⟩, ?_⟩
  · rw [channels_foldl_updateAbilities]
    exact hrows
  · intro r hr
    have hmem := (mem_filter.mp hr).1
    rw [hrows] at hmem
    obtain ⟨ch, hch, rfl⟩ := mem_map.mp hmem
    exact ⟨ch, hch, (id_editTagged tag edit ch).symm⟩
  · -- a channel that is not rebuilt does not have the tag, so it was not edited
    intro ch hch hne
    have htag : ch.tag ≠ some tag := by
      intro htag
      refine hne (editRow tag edit ch) ?_ (id_editRow tag edit ch)
      refine mem_filter.mpr ⟨?_, decide_eq_true (tag_editRow edit htag)⟩
      rw [hrows]
      exact mem_map.mpr ⟨ch, hch, if_pos (decide_eq_true htag)⟩
    exact if_neg fun h => htag (of_decide_eq_true h)
  · -- one that is rebuilt is rebuilt from its own row
    intro ch hch r hr heq
    have hmem : (if (decide (ch.tag = some tag)) = true then editRow tag edit ch else ch) ∈
        channels.rows := by
      rw [hrows]
      exact mem_map_of_mem hch
    exact channels.eq_of_key_eq hmem (mem_filter.mp hr).1
      ((id_editTagged tag edit ch).trans heq.symm)

theorem inStep_editChannelByTag (hst : db.InStep) (tag : String) (edit : TagEdit) :
    (db.editChannelByTag tag edit).InStep := by
  by_cases hre : edit.shouldReCreateAbilities = true
  · obtain ⟨f, R, hreb, hbui⟩ := db.editChannelByTag_rebuilt tag hre
    refine hst.rebuilt hreb fun ch hch r hr heq => ?_
    rw [hbui ch hch r hr heq]
    exact ⟨rfl, id⟩
  · rw [Bool.not_eq_true] at hre
    simp only [editChannelByTag, hre, Bool.false_eq_true, if_false]
    refine hst.patched rfl rfl (fun ch _ => ⟨id_editTagged tag edit ch, ?_⟩) (fun a => ?_) ?_
    · split
      · exact abilityPairs_editRow ch hre
      · rfl
    · split <;> rfl
    · intro ch hch hsts a ha hown
      have hbef : ch.status = .enabled := by
        split at hsts
        · rw [status_editRow] at hsts
          exact hsts
        · exact hsts
      have hen := hst.enabled ch hch hbef a ha hown
      split
      · exact hen
      · exact hen

theorem inStep_batchSetChannelTag (hst : db.InStep) (ids : List Int) (tag : Option String) :
    (db.batchSetChannelTag ids tag).InStep := by
  have hR : ((db.channels.rows.filter fun ch => ch.id ∈ ids).map Channel.id).Nodup :=
    db.channels.nodup.sublist (filter_sublist.map _)
  refine hst.rebuilt (f := fun ch => if (decide (ch.id ∈ ids)) = true then
      { ch with tag := tag } else ch) ⟨?_, fun a => mem_foldl_updateAbilities hR, hR, ?_, ?_, ?_⟩ ?_
  · rw [batchSetChannelTag, channels_foldl_updateAbilities]
    rfl
  · intro r hr
    exact ⟨r, (mem_filter.mp hr).1, rfl⟩
  · intro ch _
    split <;> rfl
  · intro ch hch hne
    refine if_neg fun hmem => hne ch (mem_filter.mpr ⟨hch, hmem⟩) rfl
  · -- the rows are those from before, which differ in the tag only
    intro ch hch r hr heq
    rw [db.channels.eq_of_key_eq (mem_filter.mp hr).1 hch heq]
    split
    all_goals exact ⟨rfl, id⟩

/-! ### Every run -/

/-- The tags of abilities fit an operation by tag: it finds all abilities of the channels
it enables (that are not enabled already), and none of an enabled channel that it does not
disable. -/
def TagsFit (db : RoutingDb) : ChannelEvent → Prop
  | .enableChannelByTag tag => ∀ ch ∈ db.channels.rows, ch.tag = some tag →
      ∀ a ∈ db.abilities.rows, a.channelId = ch.id → a.tag = some tag ∨ a.enabled = true
  | .disableChannelByTag tag => ∀ a ∈ db.abilities.rows, a.tag = some tag →
      ∀ ch ∈ db.channels.rows, ch.id = a.channelId → ch.tag = some tag ∨ ch.status ≠ .enabled
  | _ => True

/-- An operation. -/
def Step (env : RoutingEnv) (db : RoutingDb) (e : ChannelEvent) (db' : RoutingDb) : Prop :=
  db' = db.apply env e

/-- An operation that the tags of abilities fit. -/
def FitStep (env : RoutingEnv) (db : RoutingDb) (e : ChannelEvent) (db' : RoutingDb) : Prop :=
  Step env db e db' ∧ db.TagsFit e

/-- Tables without rows. -/
def empty : RoutingDb := ⟨.empty, .empty⟩

theorem inStep_step {e : ChannelEvent} (hst : db.InStep) (h : FitStep env db e db') :
    db'.InStep := by
  obtain ⟨rfl, hfit⟩ := h
  cases e with
  | batchInsertChannels channels => exact inStep_batchInsertChannels hst channels
  | update patch => exact inStep_update hst patch
  | updateChannelStatus id usingKey status reason now =>
    exact inStep_updateChannelStatus hst id usingKey status reason now
  | enableChannelByTag tag => exact inStep_enableChannelByTag hst hfit
  | disableChannelByTag tag => exact inStep_disableChannelByTag hst hfit
  | editChannelByTag tag edit => exact inStep_editChannelByTag hst tag edit
  | batchSetChannelTag ids tag => exact inStep_batchSetChannelTag hst ids tag

theorem inStep_empty : empty.InStep where
  owner := fun a ha => by cases ha
  pairs := fun ch hch => by cases hch
  enabled := fun ch hch => by cases hch

open ChannelCandidate (channelId)

/-- **Both modes reach the same channels**: after any operations from empty tables that the
tags of abilities fit, and if no channel has two pairs of one key, `buildDBCandidates` and
`buildCachedCandidates` after a sync have candidates for the same channels, whatever the
group, the model and the path. -/
theorem modes_reach_same {es : List ChannelEvent} (hrun : Run (FitStep env) empty es db)
    (hkeys : ∀ ch ∈ db.channels.rows, ch.KeysApart) (group model requestPath : String)
    (strictMissing : Bool) :
    ∃ found, (db.initChannelCache env).buildCachedCandidates env group model requestPath
        strictMissing = .ok found ∧
      ∀ id, id ∈ (db.buildDBCandidates env group model requestPath).map
          channelId ↔ id ∈ found.map channelId := by
  have hst : db.InStep := hrun.invariant (I := InStep)
    (fun _ _ _ hst h => inStep_step hst h) inStep_empty
  exact candidates_same hst hkeys group model requestPath strictMissing

/-! ### Some channels -/

/-- No Advanced Custom channels, no cooling. -/
def plainEnv : RoutingEnv := ⟨fun _ => none, fun settings _ => some settings, id, fun _ _ => false⟩

/-- A channel that serves one model for one group. -/
def oneModel : Channel := { id := 1, models := ["m"], group := ["g"] }

/-- A channel with a group and a model that have the separator of keys in them. -/
def sharedKeys : Channel := { id := 1, models := ["c", "b|c"], group := ["a", "a|b"] }

/-- The channel is inserted, tagged, disabled by hand and enabled by its tag. -/
def tagThenEnable : List ChannelEvent :=
  [.batchInsertChannels [oneModel], .batchSetChannelTag [1] (some "new"),
    .updateChannelStatus 1 "" .manuallyDisabled "manual operation" 10, .enableChannelByTag "new"]

theorem modes_reach_same_inserted :
    ∃ db found, Run (FitStep plainEnv) empty
        [.batchInsertChannels [oneModel], .batchSetChannelTag [1] (some "new")] db ∧
      (db.initChannelCache plainEnv).buildCachedCandidates plainEnv "g" "m" "" true = .ok found ∧
      ∀ id, id ∈ (db.buildDBCandidates plainEnv "g" "m" "").map channelId ↔
        id ∈ found.map channelId := by
  have hrun : Run (FitStep plainEnv) empty
      [.batchInsertChannels [oneModel], .batchSetChannelTag [1] (some "new")]
      ((empty.batchInsertChannels [oneModel]).batchSetChannelTag [1] (some "new")) :=
    .cons ⟨rfl, trivial⟩ (.cons ⟨rfl, trivial⟩ (.nil _))
  have hks : ∀ ch ∈ ((empty.batchInsertChannels [oneModel]).batchSetChannelTag [1]
      (some "new")).channels.rows, ch.KeysApart := by
    intro ch hch
    obtain rfl : ch = { oneModel.withDefaults with tag := some "new" } :=
      mem_singleton.mp hch
    intro g hg m hm g' hg' m' hm' _
    have hm := mem_of_mem_filter hm
    have hm' := mem_of_mem_filter hm'
    simp only [oneModel, Channel.withDefaults, mem_singleton] at hg hm hg' hm'
    simp only [List.cons.injEq, String.reduceEq, and_true, if_false, mem_singleton] at hg hg'
    exact ⟨hg.trans hg'.symm, hm.trans hm'.symm⟩
  obtain ⟨found, hfound, hsm⟩ := modes_reach_same hrun hks "g" "m" "" true
  exact ⟨_, found, hrun, hfound, hsm⟩

/-- **The modes can reach different channels.**  The abilities of the channel have no tag,
so enabling it by its tag leaves them disabled: only the cache reaches it.  And of a channel
with two pairs of one key, abilities and cache keep different ones. -/
theorem enabled_without_abilities :
    (∃ db found, Run (Step plainEnv) empty tagThenEnable db ∧
      (db.initChannelCache plainEnv).buildCachedCandidates plainEnv "g" "m" "" true = .ok found ∧
      found.map channelId = [1] ∧ db.buildDBCandidates plainEnv "g" "m" "" = []) ∧
    ∃ db found, Run (Step plainEnv) empty [.batchInsertChannels [sharedKeys]] db ∧
      (db.initChannelCache plainEnv).buildCachedCandidates plainEnv "a" "b|c" "" true = .ok found ∧
      found.map channelId = [1] ∧
      db.buildDBCandidates plainEnv "a" "b|c" "" = [] := by
  have hrun : ∀ db es, Run (Step plainEnv) db es (es.foldl (apply plainEnv) db) :=
    Run.foldl fun _ _ => rfl
  refine ⟨⟨_, _, hrun _ _, rfl, ?_, ?_⟩, ⟨_, _, hrun _ _, rfl, ?_, ?_⟩⟩
  all_goals decide +kernel

end RoutingDb

end Keep

end NewApi
