import NewApi.Accounts
import NewApi.Channels
import NewApi.Table

/-! # The abilities of channels

A channel serves some models for some groups.  Besides the two comma-separated columns
of the channel there is a table with one row for each group and model, an *ability*, with
a copy of the channel's rank, its tag, and whether it is enabled.  Without the memory cache
requests are routed by abilities.

This module has the two tables and the operations that administrators and the status
updates run on them.  An operation either rebuilds the abilities of a channel from a row of
it (`updateAbilities`), or patches the columns of all abilities with a tag.  GORM fills
columns that have a default when a row is created with their zero value, and an update with
a record writes its fields that are not zero; a pointer is zero if it is nil. -/
namespace NewApi
open Db List

/-! ## The tables -/

structure Ability where
  group : String
  model : String
  channelId : Int
  enabled : Bool
  priority : Option Int
  weight : Nat
  tag : Option String
  maxConcurrency : Option Int
  deriving DecidableEq, Repr

/-- The primary key. -/
def Ability.key (a : Ability) : String × String × Int := (a.group, a.model, a.channelId)

/-- The tables `channels` and `abilities`. -/
structure RoutingDb where
  channels : Table Channel.id
  abilities : Table Ability.key

/-- `strings.TrimSpace(s) == ""`. -/
def isBlank (s : String) : Bool := trimSpace s = ""

/-- The group that `HandleGroupRatio` looks a ratio up for: the auto group, if one was selected. -/
def ratioGroup (autoGroup usingGroup : String) : String :=
  if autoGroup ≠ "" then autoGroup else usingGroup

/-- The key of `abilitySet` and `seenGroupModel`. -/
def pairKey (p : String × String) : String := p.1 ++ "|" ++ p.2

/-- A loop that skips what it has seen, by a key. -/
def keepFirst {α : Type} (key : α → String) : List String → List α → List α
  | _, [] => []
  | seen, a :: rest =>
      if key a ∈ seen then keepFirst key seen rest
      else a :: keepFirst key (key a :: seen) rest

namespace Channel

/-- The models that are not blank. -/
def servedModels (ch : Channel) : List String := ch.models.filter fun m => !isBlank m

/-- The loop of `AddAbilities` and `UpdateAbilities`, over models and then groups. -/
def abilityPairs (ch : Channel) : List (String × String) :=
  keepFirst pairKey [] (ch.servedModels.flatMap fun m => ch.group.map fun g => (g, m))

/-- The abilities of the channel, as they are created. -/
def newAbilities (ch : Channel) : List Ability :=
  ch.abilityPairs.map fun p =>
    { group := p.1
      model := p.2
      channelId := ch.id
      enabled := ch.status = .enabled
      priority := some (ch.priority.getD 0)
      weight := ch.getWeight
      tag := ch.tag
      maxConcurrency := some (ch.maxConcurrency.getD 0) }

/-- What `Create` makes of a channel. -/
def withDefaults (ch : Channel) : Channel :=
  { ch with
    status := if ch.status = .unknown then .enabled else ch.status
    weight := some (ch.weight.getD 0)
    group := if ch.group = [""] then ["default"] else ch.group
    priority := some (ch.priority.getD 0)
    maxConcurrency := some (ch.maxConcurrency.getD 0)
    autoBan := some (ch.autoBan.getD 1) }

/-- `Updates(patch)` on a row. -/
def updates (patch row : Channel) : Channel where
  id := row.id
  type := if patch.type = 0 then row.type else patch.type
  keys := if patch.keys = [] then row.keys else patch.keys
  status := if patch.status = .unknown then row.status else patch.status
  weight := patch.weight.or row.weight
  models := if patch.models = [""] then row.models else patch.models
  group := if patch.group = [""] then row.group else patch.group
  modelMapping := patch.modelMapping.or row.modelMapping
  priority := patch.priority.or row.priority
  effectivePriority := patch.effectivePriority.or row.effectivePriority
  effectiveWeight := patch.effectiveWeight.or row.effectiveWeight
  maxConcurrency := patch.maxConcurrency.or row.maxConcurrency
  autoBan := patch.autoBan.or row.autoBan
  otherInfo := if patch.otherInfo = {} then row.otherInfo else patch.otherInfo
  tag := patch.tag.or row.tag
  paramOverride := patch.paramOverride.or row.paramOverride
  headerOverride := patch.headerOverride.or row.headerOverride
  channelInfo := if patch.channelInfo = {} then row.channelInfo else patch.channelInfo
  otherSettings := if patch.otherSettings = "" then row.otherSettings else patch.otherSettings

/-- `Update` counts the keys of a multi-key channel anew. -/
def recountKeys (patch row : Channel) : Channel :=
  let keys := if patch.keys = [] then row.keys else patch.keys
  { patch with channelInfo := patch.channelInfo.recount keys.length }

end Channel

/-- What routing takes from other parts of the program. -/
structure RoutingEnv where
  /-- The Advanced Custom config in a channel's settings, by `SupportsPathForModel`. -/
  advancedCustom : String → Option (String → String → Bool)
  /-- What `Update` makes of the settings of a channel with these models; it refuses
  settings it cannot read. -/
  cleanSettings : String → List String → Option String
  formatMatchingModelName : String → String
  /-- `ChannelCoolingDown` -/
  channelCoolingDown : Int → String → Bool

/-! ## The operations -/

/-- The arguments of `EditChannelByTag` besides the tag. -/
structure TagEdit where
  newTag : Option String := none
  modelMapping : Option String := none
  models : Option (List String) := none
  group : Option (List String) := none
  priority : Option Int := none
  weight : Option Nat := none
  maxConcurrency : Option Int := none
  paramOverride : Option String := none
  headerOverride : Option String := none

namespace TagEdit

/-- `updateData`. -/
def patch (edit : TagEdit) (tag : String) : Channel where
  id := 0
  tag := if edit.newTag = some tag then none else edit.newTag
  modelMapping := edit.modelMapping
  models := edit.models.getD [""]
  group := edit.group.getD [""]
  priority := edit.priority
  weight := edit.weight
  maxConcurrency := edit.maxConcurrency
  paramOverride := edit.paramOverride
  headerOverride := edit.headerOverride

def updatedTag (edit : TagEdit) (tag : String) : String := edit.newTag.getD tag

def shouldReCreateAbilities (edit : TagEdit) : Bool :=
  edit.models.getD [""] ≠ [""] || edit.group.getD [""] ≠ [""]

/-- `Updates(ability)` of `UpdateAbilityByTag` on a row. -/
def patchAbility (edit : TagEdit) (a : Ability) : Ability :=
  { a with
    tag := edit.newTag.or a.tag
    priority := edit.priority.or a.priority
    -- the weight is a value in the record, so a weight of zero is not written
    weight := if edit.weight.getD 0 = 0 then a.weight else edit.weight.getD 0
    maxConcurrency := edit.maxConcurrency.or a.maxConcurrency }

end TagEdit

namespace RoutingDb

def addAbilities (ch : Channel) (db : RoutingDb) : RoutingDb :=
  { db with abilities := ch.newAbilities.foldl Table.insertNew db.abilities }

def updateAbilities (ch : Channel) (db : RoutingDb) : RoutingDb :=
  let deleted := { db with abilities := db.abilities.deleteWhere fun a => a.channelId = ch.id }
  deleted.addAbilities ch

def updateAbilityStatus (channelId : Int) (status : Bool) (db : RoutingDb) : RoutingDb :=
  let abilities := db.abilities.updateWhere (fun a => a.channelId = channelId)
    (fun a => { a with enabled := status })
    (fun _ => rfl)
  { db with abilities := abilities }

def updateAbilityStatusByTag (tag : String) (status : Bool) (db : RoutingDb) : RoutingDb :=
  let abilities := db.abilities.updateWhere (fun a => a.tag = some tag)
    (fun a => { a with enabled := status })
    (fun _ => rfl)
  { db with abilities := abilities }

def updateAbilityByTag (tag : String) (edit : TagEdit) (db : RoutingDb) : RoutingDb :=
  let abilities := db.abilities.updateWhere (fun a => a.tag = some tag) edit.patchAbility
    (fun _ => rfl)
  { db with abilities := abilities }

/-- `BatchInsertChannels`, for channels with the ids that the database gives them.  A
channel whose id is taken rolls everything back. -/
def batchInsertChannels (channels : List Channel) (db : RoutingDb) : RoutingDb :=
  let created := channels.map Channel.withDefaults
  match db.channels.createAll created with
  | none => db
  | some table => created.foldl (fun db ch => db.addAbilities ch) { db with channels := table }

/-- `Channel.Update`. -/
def update (env : RoutingEnv) (patch : Channel) (db : RoutingDb) : RoutingDb :=
  match db.channels.find? patch.id with
  | none => db
  | some row =>
      let updated := (patch.recountKeys row).updates row
      let cleaned :=
        if updated.otherSettings = "" then some ""
        else env.cleanSettings updated.otherSettings updated.models
      match cleaned with
      | none => db
      | some settings =>
          -- the scores' projections go with the old baseline
          let saved := { updated with
            otherSettings := settings, effectivePriority := none, effectiveWeight := none }
          let written := { db with channels := db.channels.save saved }
          written.updateAbilities saved

def updateChannelStatus (id : Int) (usingKey : String) (status : ChannelStatus)
    (reason : String) (now : Int) (db : RoutingDb) : RoutingDb :=
  match db.channels.find? id with
  | none => db
  | some row =>
      match row.updateStatus usingKey status reason now with
      | none => db
      | some saved =>
          let written := { db with channels := db.channels.save saved }
          if row.status ≠ saved.status then
            written.updateAbilityStatus id (saved.status = .enabled)
          else written

/-- The channels with a tag get a status, and so do the abilities with that tag. -/
def setStatusByTag (tag : String) (status : ChannelStatus) (db : RoutingDb) : RoutingDb :=
  let channels := db.channels.updateWhere (fun ch => ch.tag = some tag)
    (fun ch => { ch with status := status, effectivePriority := none, effectiveWeight := none })
    (fun _ => rfl)
  let written := { db with channels := channels }
  written.updateAbilityStatusByTag tag (status = .enabled)

def enableChannelByTag (tag : String) : RoutingDb → RoutingDb := setStatusByTag tag .enabled

def disableChannelByTag (tag : String) : RoutingDb → RoutingDb :=
  setStatusByTag tag .manuallyDisabled

/-- What `EditChannelByTag` does to a channel. -/
def editRow (tag : String) (edit : TagEdit) (row : Channel) : Channel :=
  let updated := (edit.patch tag).updates row
  if edit.priority.isSome || edit.weight.isSome then
    { updated with effectivePriority := none, effectiveWeight := none }
  else updated

def editChannelByTag (tag : String) (edit : TagEdit) (db : RoutingDb) : RoutingDb :=
  let channels := db.channels.updateWhere (fun ch => ch.tag = some tag) (editRow tag edit)
    (fun ch => by unfold editRow; dsimp only; split <;> rfl)
  let written := { db with channels := channels }
  if edit.shouldReCreateAbilities then
    (channels.rows.filter fun ch => ch.tag = some (edit.updatedTag tag)).foldl
      (fun db ch => db.updateAbilities ch) written
  else written.updateAbilityByTag tag edit

/-- `BatchSetChannelTag`.  The channels are read outside of the transaction, before its
update of their tags is visible. -/
def batchSetChannelTag (ids : List Int) (tag : Option String) (db : RoutingDb) : RoutingDb :=
  let channels := db.channels.updateWhere (fun ch => ch.id ∈ ids) (fun ch => { ch with tag := tag })
    (fun _ => rfl)
  let written := { db with channels := channels }
  (db.channels.rows.filter fun ch => ch.id ∈ ids).foldl (fun db ch => db.updateAbilities ch) written

end RoutingDb

/-- The operations. -/
inductive ChannelEvent where
  | batchInsertChannels (channels : List Channel)
  | update (patch : Channel)
  | updateChannelStatus (id : Int) (usingKey : String) (status : ChannelStatus)
      (reason : String) (now : Int)
  | enableChannelByTag (tag : String)
  | disableChannelByTag (tag : String)
  | editChannelByTag (tag : String) (edit : TagEdit)
  | batchSetChannelTag (ids : List Int) (tag : Option String)

/-- An operation. -/
def RoutingDb.apply (env : RoutingEnv) (db : RoutingDb) : ChannelEvent → RoutingDb
  | .batchInsertChannels channels => db.batchInsertChannels channels
  | .update patch => db.update env patch
  | .updateChannelStatus id usingKey status reason now =>
      db.updateChannelStatus id usingKey status reason now
  | .enableChannelByTag tag => db.enableChannelByTag tag
  | .disableChannelByTag tag => db.disableChannelByTag tag
  | .editChannelByTag tag edit => db.editChannelByTag tag edit
  | .batchSetChannelTag ids tag => db.batchSetChannelTag ids tag

/-! ## What the operations do to the abilities -/

section KeepFirst
variable {α : Type} {key : α → String} {seen : List String} {l : List α} {a : α}

theorem mem_of_mem_keepFirst (h : a ∈ keepFirst key seen l) : a ∈ l := by
  induction l generalizing seen with
  | nil => cases h
  | cons b l ih =>
    unfold keepFirst at h
    split at h
    · exact mem_cons_of_mem _ (ih h)
    rcases mem_cons.mp h with rfl | h
    · exact mem_cons_self
    · exact mem_cons_of_mem _ (ih h)

/-- Each key that was not seen is kept once. -/
theorem exists_mem_keepFirst (ha : a ∈ l) (hse : key a ∉ seen) :
    ∃ b ∈ keepFirst key seen l, key b = key a := by
  induction l generalizing seen with
  | nil => cases ha
  | cons b l ih =>
    unfold keepFirst
    by_cases hb : key b ∈ seen
    · rw [if_pos hb]
      rcases mem_cons.mp ha with rfl | ha
      · exact absurd hb hse
      · exact ih ha hse
    · rw [if_neg hb]
      by_cases hkey : key b = key a
      · exact ⟨b, mem_cons_self, hkey⟩
      rcases mem_cons.mp ha with rfl | ha
      · exact absurd rfl hkey
      have hse' : key a ∉ key b :: seen := by
        rw [mem_cons, not_or]
        exact ⟨Ne.symm hkey, hse⟩
      obtain ⟨c, hc, hcb⟩ := ih ha hse'
      exact ⟨c, mem_cons_of_mem _ hc, hcb⟩

/-- Where keys tell elements apart, everything is kept. -/
theorem mem_keepFirst (hinj : ∀ b ∈ l, ∀ c ∈ l, key b = key c → b = c) :
    a ∈ keepFirst key [] l ↔ a ∈ l := by
  constructor
  · exact mem_of_mem_keepFirst
  intro ha
  have hse : key a ∉ ([] : List String) := not_mem_nil
  obtain ⟨b, hb, hkey⟩ := exists_mem_keepFirst ha hse
  rw [← hinj b (mem_of_mem_keepFirst hb) a ha hkey]
  exact hb

theorem nodup_keepFirst :
    ((keepFirst key seen l).map key).Nodup ∧ ∀ b ∈ keepFirst key seen l, key b ∉ seen := by
  induction l generalizing seen with
  | nil => exact ⟨nodup_nil, fun b hb => by cases hb⟩
  | cons b l ih =>
    unfold keepFirst
    by_cases hb : key b ∈ seen
    · rw [if_pos hb]
      exact ih
    rw [if_neg hb]
    obtain ⟨hnd, hfresh⟩ := @ih (key b :: seen)
    refine ⟨?_, fun c hc => ?_⟩
    · rw [map_cons, nodup_cons]
      refine ⟨fun hmem => ?_, hnd⟩
      obtain ⟨c, hc, hkey⟩ := mem_map.mp hmem
      exact hfresh c hc (hkey ▸ mem_cons_self)
    · rcases mem_cons.mp hc with rfl | hc
      · exact hb
      · exact fun hmem => hfresh c hc (mem_cons_of_mem _ hmem)

end KeepFirst

namespace Channel
variable {ch : Channel} {a : Ability}

theorem nodup_newAbilities (ch : Channel) : (ch.newAbilities.map Ability.key).Nodup := by
  have hpai : ch.abilityPairs.Nodup := nodup_keepFirst.1.of_map pairKey
  rw [newAbilities, map_map]
  refine hpai.map ?_
  rintro ⟨g, m⟩ ⟨g', m'⟩ heq
  simp only [Function.comp_apply, Ability.key, Prod.mk.injEq] at heq
  rw [heq.1, heq.2.1]

theorem channelId_of_mem (h : a ∈ ch.newAbilities) : a.channelId = ch.id := by
  obtain ⟨p, -, rfl⟩ := mem_map.mp h
  rfl

end Channel

namespace RoutingDb
variable {db : RoutingDb} {ch : Channel} {a : Ability} {l : List Channel}

/-- The abilities of a channel that has none yet. -/
theorem mem_addAbilities (hno : ∀ b ∈ db.abilities.rows, b.channelId ≠ ch.id) :
    a ∈ (db.addAbilities ch).abilities.rows ↔ a ∈ db.abilities.rows ∨ a ∈ ch.newAbilities := by
  rw [addAbilities, Table.rows_foldl_insertNew _ ch.nodup_newAbilities, mem_append]
  intro b hb c hc hkey
  have hid : c.channelId = b.channelId := congrArg (fun k => k.2.2) hkey
  exact hno c hc (hid.trans (Channel.channelId_of_mem hb))

/-- **A rebuild replaces the abilities of the channel**, and no others. -/
theorem mem_updateAbilities : a ∈ (db.updateAbilities ch).abilities.rows ↔
      (a ∈ db.abilities.rows ∧ a.channelId ≠ ch.id) ∨ a ∈ ch.newAbilities := by
  rw [updateAbilities, mem_addAbilities, Table.mem_deleteWhere]
  · simp
  intro b hb
  simpa using (db.abilities.mem_deleteWhere.mp hb).2

theorem channels_foldl_updateAbilities :
    (l.foldl (fun db ch => db.updateAbilities ch) db).channels = db.channels := by
  induction l generalizing db with
  | nil => rfl
  | cons ch l ih => exact ih

/-- Rebuilds of different channels. -/
theorem mem_foldl_updateAbilities (hnd : (l.map Channel.id).Nodup) :
    a ∈ (l.foldl (fun db ch => db.updateAbilities ch) db).abilities.rows ↔
      (a ∈ db.abilities.rows ∧ ∀ ch ∈ l, a.channelId ≠ ch.id) ∨ ∃ ch ∈ l, a ∈ ch.newAbilities := by
  induction l generalizing db with
  | nil => simp
  | cons ch l ih =>
    rw [map_cons, nodup_cons] at hnd
    rw [foldl_cons, ih hnd.2, mem_updateAbilities]
    -- what was just rebuilt is not of one of the other channels
    have hoth : a ∈ ch.newAbilities → ∀ c ∈ l, a.channelId ≠ c.id := by
      intro ha c hc heq
      exact hnd.1 (mem_map.mpr ⟨c, hc, heq.symm.trans (Channel.channelId_of_mem ha)⟩)
    constructor
    · rintro (⟨⟨hold, hne⟩ | hnew, hre⟩ | ⟨c, hc, hnew⟩)
      · exact .inl ⟨hold, forall_mem_cons.mpr ⟨hne, hre⟩⟩
      · exact .inr ⟨ch, mem_cons_self, hnew⟩
      · exact .inr ⟨c, mem_cons_of_mem _ hc, hnew⟩
    · rintro (⟨hold, hall⟩ | ⟨c, hc, hnew⟩)
      · rw [forall_mem_cons] at hall
        exact .inl ⟨.inl ⟨hold, hall.1⟩, hall.2⟩
      · rcases mem_cons.mp hc with rfl | hc
        · exact .inl ⟨.inr hnew, hoth hnew⟩
        · exact .inr ⟨c, hc, hnew⟩

theorem channels_foldl_addAbilities :
    (l.foldl (fun db ch => db.addAbilities ch) db).channels = db.channels := by
  induction l generalizing db with
  | nil => rfl
  | cons ch l ih => exact ih

theorem mem_foldl_addAbilities (hnd : (l.map Channel.id).Nodup)
    (hno : ∀ ch ∈ l, ∀ b ∈ db.abilities.rows, b.channelId ≠ ch.id) :
    a ∈ (l.foldl (fun db ch => db.addAbilities ch) db).abilities.rows ↔
      a ∈ db.abilities.rows ∨ ∃ ch ∈ l, a ∈ ch.newAbilities := by
  induction l generalizing db with
  | nil => simp
  | cons ch l ih =>
    rw [map_cons, nodup_cons] at hnd
    rw [forall_mem_cons] at hno
    rw [foldl_cons, ih hnd.2, mem_addAbilities hno.1, exists_mem_cons_iff, or_assoc]
    intro c hc b hb
    rcases (mem_addAbilities hno.1).mp hb with hold | hnew
    · exact hno.2 c hc b hold
    intro heq
    exact hnd.1 (mem_map.mpr ⟨c, hc, heq.symm.trans (Channel.channelId_of_mem hnew)⟩)

end RoutingDb

end NewApi
