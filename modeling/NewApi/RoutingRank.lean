import NewApi.RoutingModes

/-! # The rank of a channel in the two modes

A candidate has a priority, a weight and a cap on concurrent requests.  The memory cache
takes them from the channel, the other mode from the channel's abilities, which have copies.
`Channel.Update` makes the copies anew.  `EditChannelByTag` does so when it edits models or
groups; otherwise it writes the same values to the abilities with the tag as to the
channels, through a record.

In that record the weight is a number and not a pointer, and an update with a record skips
numbers that are zero.  A weight of zero is therefore not written to the abilities
(`zero_weight_not_copied`).  `modes_rank_alike` says that this is all that can go wrong. -/
namespace NewApi
open Channel Db Steps

namespace Ability

/-- The ability has the tag and the rank of the channel. -/
structure CopyOf (a : Ability) (ch : Channel) : Prop where
  tag : a.tag = ch.tag
  priority : a.priority.getD 0 = ch.getPriority
  weight : saturatingUintToInt a.weight = ch.getWeight
  maxConcurrency : max 0 (a.maxConcurrency.getD 0) = max 0 (ch.maxConcurrency.getD 0)

theorem copyOf_of_mem {a : Ability} {ch : Channel} (h : a ∈ ch.newAbilities) : a.CopyOf ch := by
  obtain ⟨p, -, rfl⟩ := List.mem_map.mp h
  refine ⟨rfl, rfl, ?_, rfl⟩
  show saturatingUintToInt ch.getWeight = ch.getWeight
  unfold getWeight saturatingUintToInt
  cases ch.weight with
  | none => rfl
  | some weight => exact min_eq_left (min_le_right _ _)

end Ability

namespace RoutingDb
variable {env : RoutingEnv} {db db' : RoutingDb} {f : Channel → Channel}

/-- **The abilities have the tags and the ranks of their channels.** -/
def RankInStep (db : RoutingDb) : Prop :=
  ∀ a ∈ db.abilities.rows, ∀ ch ∈ db.channels.rows, ch.id = a.channelId → a.CopyOf ch

/-- Abilities are rebuilt from the new rows. -/
theorem RankInStep.rebuilt (hst : db.RankInStep) {R : List Channel} (h : db.Rebuilt db' f R)
    (hbui : ∀ ch ∈ db.channels.rows, ∀ r ∈ R, r.id = ch.id → f ch = r) : db'.RankInStep := by
  intro a ha ch' hch' hown
  rw [h.channels] at hch'
  obtain ⟨ch, hch, rfl⟩ := List.mem_map.mp hch'
  rw [h.id ch hch] at hown
  rcases (h.mem_abilities hown.symm).mp ha with ⟨hold, hne⟩ | ⟨r, hr, heq, hnew⟩
  · rw [h.kept ch hch hne]
    exact hst a hold ch hch hown
  · rw [hbui ch hch r hr heq]
    exact Ability.copyOf_of_mem hnew

theorem rankInStep_update (hst : db.RankInStep) (patch : Channel) :
    (db.update env patch).RankInStep := by
  rcases db.update_rebuilt env patch with hsm | ⟨f, R, hreb, hbui⟩
  · rw [hsm]
    exact hst
  · exact hst.rebuilt hreb hbui

theorem copyOf_patchAbility {tag : String} {edit : TagEdit} {a : Ability} {ch : Channel}
    (hcp : a.CopyOf ch) (htag : ch.tag = some tag) (hz : edit.weight = some 0 → a.weight = 0) :
    (edit.patchAbility a).CopyOf (editRow tag edit ch) := by
  have hta : (edit.patchAbility a).tag = (editRow tag edit ch).tag := by
    rw [tag_editRow edit htag]
    show edit.newTag.or a.tag = some (edit.newTag.getD tag)
    rw [hcp.tag, htag]
    cases edit.newTag <;> rfl
  have hpri : (edit.patchAbility a).priority.getD 0 =
      ((edit.patch tag).updates ch).getPriority := by
    show (edit.priority.or a.priority).getD 0 = (edit.priority.or ch.priority).getD 0
    cases edit.priority with
    | none => exact hcp.priority
    | some p => rfl
  have hwei : saturatingUintToInt (edit.patchAbility a).weight =
      ((edit.patch tag).updates ch).getWeight := by
    simp only [TagEdit.patchAbility, getWeight, updates, TagEdit.patch]
    cases hw : edit.weight with
    | none => exact hcp.weight
    | some w =>
      by_cases hw0 : w = 0
      · subst hw0
        rw [hz hw]
        rfl
      · simp [hw0]
  have hmax : max 0 ((edit.patchAbility a).maxConcurrency.getD 0) =
      max 0 (((edit.patch tag).updates ch).maxConcurrency.getD 0) := by
    show max 0 ((edit.maxConcurrency.or a.maxConcurrency).getD 0) =
      max 0 ((edit.maxConcurrency.or ch.maxConcurrency).getD 0)
    cases edit.maxConcurrency with
    | none => exact hcp.maxConcurrency
    | some limit => rfl
  unfold editRow at hta ⊢
  split
  · rename_i hsco
    rw [if_pos hsco] at hta
    exact ⟨hta, hpri, hwei, hmax⟩
  · rename_i hsco
    rw [if_neg hsco] at hta
    exact ⟨hta, hpri, hwei, hmax⟩

/-- An edit by tag writes its weight to the abilities that it patches, or they have it. -/
def WeightFits (db : RoutingDb) : ChannelEvent → Prop
  | .editChannelByTag tag edit => edit.weight = some 0 → edit.shouldReCreateAbilities = true ∨
      ∀ a ∈ db.abilities.rows, a.tag = some tag → a.weight = 0
  | _ => True

theorem rankInStep_editChannelByTag (hst : db.RankInStep) {tag : String} {edit : TagEdit}
    (hfit : db.WeightFits (.editChannelByTag tag edit)) :
    (db.editChannelByTag tag edit).RankInStep := by
  by_cases hre : edit.shouldReCreateAbilities = true
  · obtain ⟨f, R, hreb, hbui⟩ := db.editChannelByTag_rebuilt tag hre
    exact hst.rebuilt hreb hbui
  simp only [editChannelByTag, hre, Bool.false_eq_true, if_false]
  intro a' ha' ch' hch' hown
  obtain ⟨a, ha, rfl⟩ := List.mem_map.mp ha'
  obtain ⟨ch, hch, rfl⟩ := List.mem_map.mp hch'
  have how : ch.id = a.channelId := by
    refine (id_editTagged tag edit ch).symm.trans (hown.trans ?_)
    split <;> rfl
  -- the channel and its ability have one tag, so both are patched or neither is
  have hcp := hst a ha ch hch how
  by_cases htag : ch.tag = some tag
  · have hat := hcp.tag.trans htag
    rw [if_pos (decide_eq_true hat), if_pos (decide_eq_true htag)]
    exact copyOf_patchAbility hcp htag fun hw => (hfit hw).resolve_left hre a ha hat
  · rw [if_neg fun h => htag (hcp.tag.symm.trans (of_decide_eq_true h)),
      if_neg fun h => htag (of_decide_eq_true h)]
    exact hcp

/-! ## Every run of updates and edits -/

/-- `Channel.Update` or `EditChannelByTag`. -/
def EditsRank : ChannelEvent → Prop
  | .update _ => True
  | .editChannelByTag _ _ => True
  | _ => False

/-- An update or an edit. -/
def EditStep (env : RoutingEnv) (db : RoutingDb) (e : ChannelEvent) (db' : RoutingDb) : Prop :=
  Step env db e db' ∧ EditsRank e

/-- An update, or an edit whose weight gets to the abilities. -/
def FitEditStep (env : RoutingEnv) (db : RoutingDb) (e : ChannelEvent) (db' : RoutingDb) : Prop :=
  EditStep env db e db' ∧ db.WeightFits e

theorem rankInStep_step {e : ChannelEvent} (hst : db.RankInStep) (h : FitEditStep env db e db') :
    db'.RankInStep := by
  obtain ⟨⟨rfl, hedi⟩, hfit⟩ := h
  cases e with
  | update patch => exact rankInStep_update hst patch
  | editChannelByTag tag edit => exact rankInStep_editChannelByTag hst hfit
  | batchInsertChannels | updateChannelStatus | enableChannelByTag | disableChannelByTag
  | batchSetChannelTag => exact hedi.elim

/-- An ability that copies its channel makes the candidate that the cache makes. -/
theorem candidate_eq {a : Ability} {ch : Channel} (hcp : a.CopyOf ch) (model : String) :
    candidate env model a = ChannelCache.candidate env model a.channelId ch := by
  have hcap : (candidate env model a).maxConcurrency = max 0 (a.maxConcurrency.getD 0) := by
    unfold candidate
    cases a.maxConcurrency with
    | none => rfl
    | some limit =>
      show (if limit > 0 then limit else 0) = max 0 limit
      split <;> omega
  have hcap' : ch.getMaxConcurrency = max 0 (ch.maxConcurrency.getD 0) := by
    unfold getMaxConcurrency
    cases ch.maxConcurrency with
    | none => rfl
    | some limit =>
      show (if limit < 0 then 0 else limit) = max 0 limit
      split <;> omega
  have hmax : (candidate env model a).maxConcurrency = ch.getMaxConcurrency :=
    hcap.trans (hcp.maxConcurrency.trans hcap'.symm)
  exact (ChannelCandidate.mk.injEq ..).mpr
    ⟨rfl, hcp.priority, congrArg Nat.cast hcp.weight, hmax, rfl⟩

/-- **Both modes rank a channel alike**: after any updates and edits by tag, of tables whose
abilities have the tags and ranks of their channels, the candidates of a channel in the two
modes agree, if no weight of zero is edited past the abilities. -/
theorem modes_rank_alike {db₀ : RoutingDb} {es : List ChannelEvent} (h₀ : db₀.RankInStep)
    (hrun : Run (FitEditStep env) db₀ es db) {group model requestPath : String}
    {strictMissing : Bool} {found : List ChannelCandidate}
    (hfound : (db.initChannelCache env).buildCachedCandidates env group model requestPath
      strictMissing = .ok found)
    {c c' : ChannelCandidate} (hc : c ∈ db.buildDBCandidates env group model requestPath)
    (hc' : c' ∈ found) (hid : c.channelId = c'.channelId) :
    c.priority = c'.priority ∧ c.weight = c'.weight ∧ c.maxConcurrency = c'.maxConcurrency := by
  have hst : db.RankInStep := hrun.invariant (I := RankInStep)
    (fun _ _ _ hst h => rankInStep_step hst h) h₀
  obtain ⟨a, ha, rfl⟩ := List.mem_map.mp hc
  have hlis : ∀ i ∈ (db.initChannelCache env).usableChannels env group model requestPath,
      ∃ ch, (db.initChannelCache env).channelsIDM i = some ch := fun i => exists_row_of_usable
  obtain ⟨found', hfound', -, hrw⟩ := candidates_ok env model strictMissing hlis
  obtain rfl : found = found' := Except.ok.inj (hfound.symm.trans hfound')
  obtain ⟨ch, hIDM, hc'⟩ := hrw c' hc'
  obtain ⟨hch, hown⟩ := db.channels.find?_eq_some_iff.mp hIDM
  obtain ⟨m, hsub⟩ := usableAbilities_sublist env db group model requestPath
  obtain ⟨ha, -⟩ := mem_getEnabledAbilities (hsub.subset ha)
  have hcp := hst a ha ch hch (hown.trans hid.symm)
  rw [hc', ← hid, candidate_eq hcp]
  exact ⟨rfl, rfl, rfl⟩

/-- A channel with a tag and a weight. -/
def taggedChannel : Channel :=
  { id := 1, models := ["m"], group := ["g"], tag := some "t", weight := some 5 }

theorem rankInStep_taggedChannel : (empty.batchInsertChannels [taggedChannel]).RankInStep := by
  intro a ha ch hch _
  obtain rfl : ch = taggedChannel.withDefaults := List.mem_singleton.mp hch
  exact Ability.copyOf_of_mem ha

theorem modes_rank_alike_weight :
    ∃ db, Run (FitEditStep plainEnv) (empty.batchInsertChannels [taggedChannel])
        [.editChannelByTag "t" { weight := some 7, maxConcurrency := some 3 }] db ∧
      ∃ found, (db.initChannelCache plainEnv).buildCachedCandidates plainEnv "g" "m" "" true =
          .ok found ∧
        ∀ c ∈ db.buildDBCandidates plainEnv "g" "m" "", ∀ c' ∈ found,
          c.channelId = c'.channelId → c.priority = c'.priority ∧ c.weight = c'.weight ∧
            c.maxConcurrency = c'.maxConcurrency := by
  have hrun : Run (FitEditStep plainEnv) (empty.batchInsertChannels [taggedChannel])
      [.editChannelByTag "t" { weight := some 7, maxConcurrency := some 3 }] _ :=
    .cons ⟨⟨rfl, trivial⟩, nofun⟩ (.nil _)
  obtain ⟨found, hfound, -⟩ := candidates_ok plainEnv "m" true fun i hi =>
    exists_row_of_usable hi
  refine ⟨_, hrun, found, hfound, fun c hc c' hc' hid => ?_⟩
  exact modes_rank_alike rankInStep_taggedChannel hrun hfound hc hc' hid

/-- **A weight of zero does not get to the abilities.**  An edit sets the weight of the
channel to zero.  With the memory cache its candidate has weight zero, without it the weight
is still five. -/
theorem zero_weight_not_copied :
    (empty.batchInsertChannels [taggedChannel]).RankInStep ∧
    ∃ db found, Run (EditStep plainEnv) (empty.batchInsertChannels [taggedChannel])
        [.editChannelByTag "t" { weight := some 0 }] db ∧
      (db.initChannelCache plainEnv).buildCachedCandidates plainEnv "g" "m" "" true = .ok found ∧
      found = [⟨1, 0, 0, 0, false⟩] ∧
      db.buildDBCandidates plainEnv "g" "m" "" = [⟨1, 0, 5, 0, false⟩] := by
  refine ⟨rankInStep_taggedChannel, _, _, .cons ⟨rfl, trivial⟩ (.nil _), rfl, ?_, ?_⟩
  · decide +kernel
  · decide +kernel

end RoutingDb

end NewApi
