import NewApi.BusyChannels

/-! # The best eligible channel, by weight

What `selectChannelCandidate` is for, when the counters stand still: of the candidates that are
neither tried nor full, from the start tier down, those that cool down are passed over unless all of
them do (`eligibleCandidates`).  One of the highest priority among these is drawn, in proportion to
its weight (`selects_best_by_weight`). -/
namespace NewApi
open ChannelCandidate List Selection

/-- The priority of the start tier. -/
def startPriority (candidates : List ChannelCandidate) (retry : Nat) (excluded : List Int) :
    Option Int :=
  (tiers candidates)[startTier (tiers candidates) retry excluded]?

/-- The candidates that are not excluded, not saturated, and in a tier at or below the start
tier. -/
def candidatesLeft (inFlight : Int → Int) (candidates : List ChannelCandidate) (retry : Nat)
    (excluded : List Int) : List ChannelCandidate :=
  candidates.filter fun c =>
    c.channelId ∉ excluded && !c.isSaturated inFlight &&
      (startPriority candidates retry excluded).any (c.priority ≤ ·)

/-- **The eligible candidates**: of those that are left, the ones that do not cool down, unless all
of them do. -/
def eligibleCandidates (inFlight : Int → Int) (candidates : List ChannelCandidate) (retry : Nat)
    (excluded : List Int) : List ChannelCandidate :=
  let left := candidatesLeft inFlight candidates retry excluded
  if left.all (·.coolingDown) then left else left.filter (!·.coolingDown)

/-- The candidates of one priority. -/
def tierOf (candidates : List ChannelCandidate) (priority : Int) : List ChannelCandidate :=
  candidates.filter fun c => c.priority = priority

/-- The sum of the effective weights. -/
def weightSum (candidates : List ChannelCandidate) : Nat :=
  (candidates.map fun c => effectiveChannelWeight c.weight).sum

/-- A generator whose next number below `total` is `r`. -/
def drawing (total r : Nat) : Nat → Nat := fun n => if n = total then r else 0

/-! ## The walk over cumulative weights -/

/-- **Every index owns as many draws as its weight.** -/
theorem countP_pickWeightedIndex (weights : List Nat) {index : Nat} (h : index < weights.length) :
    (range weights.sum).countP (fun r => pickWeightedIndex weights r = some index) =
      weights[index] := by
  induction weights generalizing index with
  | nil => simp at h
  | cons weight weights ih =>
    -- the draws below the first weight, and those from it on
    rw [sum_cons, range_add, countP_append, countP_map]
    have hbel : ∀ r ∈ range weight, pickWeightedIndex (weight :: weights) r = some 0 := by
      intro r hr
      simp [pickWeightedIndex, mem_range.mp hr]
    have hfr : ∀ r, pickWeightedIndex (weight :: weights) (weight + r) =
        (pickWeightedIndex weights r).map (· + 1) := by
      intro r
      simp [pickWeightedIndex]
    rcases index with _ | index
    · have hall : (range weight).countP
          (fun r => pickWeightedIndex (weight :: weights) r = some 0) = weight := by
        rw [countP_eq_length.mpr fun r hr => by simpa using hbel r hr, length_range]
      have hno : (range weights.sum).countP
          ((fun r => decide (pickWeightedIndex (weight :: weights) r = some 0)) ∘ (weight + ·)) =
            0 := by
        refine countP_eq_zero.mpr fun r _ => ?_
        simp [hfr]
      rw [hall, hno, getElem_cons_zero, Nat.add_zero]
    · have hidx : index < weights.length := by simpa using h
      have hno : (range weight).countP
          (fun r => pickWeightedIndex (weight :: weights) r = some (index + 1)) = 0 := by
        refine countP_eq_zero.mpr fun r hr => ?_
        simp [hbel r hr]
      have hre : (range weights.sum).countP
          ((fun r => decide (pickWeightedIndex (weight :: weights) r = some (index + 1))) ∘
            (weight + ·)) = weights[index] := by
        rw [← ih hidx]
        refine countP_congr fun r _ => ?_
        simp [hfr]
      rw [hno, hre, getElem_cons_succ, Nat.zero_add]

/-- The total is the sum as long as it fits. -/
theorem totalWeight_eq_sum {weights : List Nat} (h : weights.sum ≤ maxInt) :
    totalWeight weights = weights.sum := by
  have hfo : ∀ total, total + weights.sum ≤ maxInt → weights.foldl (fun total weight =>
      if total > maxInt - weight then maxInt else total + weight) total = total + weights.sum := by
    clear h
    induction weights with
    | nil => simp
    | cons weight weights ih =>
      intro total hle
      rw [sum_cons] at hle ⊢
      rw [foldl_cons, if_neg (by omega), ih _ (by omega)]
      omega
  exact (hfo 0 (by omega)).trans (Nat.zero_add _)

/-! ## The walk over the tiers -/

section Walk
variable {inFlight : Int → Int} {random : Nat → Nat} {candidates : List ChannelCandidate}
  {retry : Nat} {excluded : List Int}

/-- The tiers that are walked. -/
def walkedTiers (candidates : List ChannelCandidate) (retry : Nat) (excluded : List Int) :
    List Int :=
  (tiers candidates).drop (startTier (tiers candidates) retry excluded)

theorem walkedTiers_sorted (candidates : List ChannelCandidate) (retry : Nat)
    (excluded : List Int) : (walkedTiers candidates retry excluded).Pairwise (· > ·) := by
  have hsor : (tiers candidates).Pairwise (· ≥ ·) := pairwise_insertionSort _ _
  have hnd : (tiers candidates).Nodup :=
    (perm_insertionSort _ _).nodup_iff.mpr (nodup_dedup _)
  have hstr : (tiers candidates).Pairwise (· > ·) :=
    (hsor.and hnd).imp fun h => lt_of_le_of_ne h.1 (Ne.symm h.2)
  exact hstr.sublist (drop_sublist _ _)

variable {c : ChannelCandidate}

theorem mem_walkedTiers (hc : c ∈ candidates) : c.priority ∈ walkedTiers candidates retry excluded ↔
      (startPriority candidates retry excluded).any (c.priority ≤ ·) = true := by
  have hstr := startTier_lt retry excluded (ne_nil_of_mem (mem_tiers hc))
  have htop := getElem?_eq_getElem hstr
  rw [startPriority, htop, Option.any_some, decide_eq_true_eq]
  constructor
  · intro hmem
    have hsor := walkedTiers_sorted candidates retry excluded
    rw [walkedTiers, drop_eq_getElem_cons hstr] at hmem hsor
    rcases mem_cons.mp hmem with heq | hre
    · exact heq.le
    · exact ((pairwise_cons.mp hsor).1 _ hre).le
  · intro hle
    exact mem_drop_tiers htop (mem_tiers hc) hle

/-- The scan of a tier and the scan for cooling candidates agree on who is left. -/
theorem eligible_eq_tierOf {tier : Int} (hti : tier ∈ walkedTiers candidates retry excluded) :
    eligible candidates inFlight excluded
        (!(candidatesLeft inFlight candidates retry excluded).all (·.coolingDown)) tier =
      tierOf (eligibleCandidates inFlight candidates retry excluded) tier := by
  have hlf : ∀ c ∈ candidates, c.priority = tier →
      (startPriority candidates retry excluded).any (c.priority ≤ ·) = true := by
    rintro c hc rfl
    exact (mem_walkedTiers hc).mp hti
  unfold eligible tierOf eligibleCandidates candidatesLeft
  dsimp only
  split
  · rename_i hall
    rw [hall, filter_filter]
    refine filter_congr fun c hc => ?_
    by_cases hpri : c.priority = tier
    · have hbel := hlf c hc hpri
      subst hpri
      simp [hbel]
    · simp [hpri]
  · rename_i hso
    rw [Bool.not_eq_true] at hso
    rw [hso, filter_filter, filter_filter]
    refine filter_congr fun c hc => ?_
    by_cases hpri : c.priority = tier
    · have hbel := hlf c hc hpri
      subst hpri
      cases c.coolingDown <;> simp [hbel]
    · simp [hpri]

theorem findSome?_congr_mem {α β : Type} {f g : α → Option β} {l : List α}
    (h : ∀ a ∈ l, f a = g a) : l.findSome? f = l.findSome? g := by
  induction l with
  | nil => rfl
  | cons a l ih =>
    rw [findSome?_cons, findSome?_cons, h a mem_cons_self,
      ih fun b hb => h b (mem_cons_of_mem _ hb)]

theorem selectChannelCandidate_eq :
    selectChannelCandidate inFlight inFlight random candidates retry excluded =
      ((walkedTiers candidates retry excluded).findSome? fun tier =>
        draw random (tierOf (eligibleCandidates inFlight candidates retry excluded) tier)).map
          (·.channelId) := by
  have hskip : (candidates.any fun c => !c.coolingDown &&
      (startPriority candidates retry excluded).any (c.priority ≤ ·) &&
        decide (c.channelId ∉ excluded) && !c.isSaturated inFlight) =
      !(candidatesLeft inFlight candidates retry excluded).all (·.coolingDown) := by
    rw [candidatesLeft, all_filter, not_all_eq_any_not]
    congr 1
    funext c
    generalize (startPriority candidates retry excluded).any (c.priority ≤ ·) = below
    generalize decide (c.channelId ∉ excluded) = untried
    cases c.coolingDown <;> cases below <;> cases untried <;> simp
  dsimp only [selectChannelCandidate]
  congr 1
  refine findSome?_congr_mem fun tier hti => ?_
  rw [← eligible_eq_tierOf hti, ← hskip]
  rfl

theorem mem_walkedTiers_of_eligible
    (hc : c ∈ eligibleCandidates inFlight candidates retry excluded) :
    c.priority ∈ walkedTiers candidates retry excluded := by
  have hlf : c ∈ candidatesLeft inFlight candidates retry excluded := by
    dsimp only [eligibleCandidates] at hc
    split at hc
    · exact hc
    · exact (mem_filter.mp hc).1
  obtain ⟨hmem, hkept⟩ := mem_filter.mp hlf
  rw [Bool.and_eq_true] at hkept
  exact (mem_walkedTiers hmem).mpr hkept.2

variable {l : List ChannelCandidate}

theorem mem_tierOf {priority : Int} : c ∈ tierOf l priority ↔ c ∈ l ∧ c.priority = priority := by
  simp [tierOf]

/-- **The walk stops at the best tier** that has an eligible candidate. -/
theorem walk_eq_best (hran : ∀ total, 0 < total → random total < total) {best : ChannelCandidate}
    (hbt : best ∈ eligibleCandidates inFlight candidates retry excluded)
    (hmax : ∀ c ∈ eligibleCandidates inFlight candidates retry excluded,
      c.priority ≤ best.priority) : ((walkedTiers candidates retry excluded).findSome? fun tier =>
        draw random (tierOf (eligibleCandidates inFlight candidates retry excluded) tier)) =
      draw random
        (tierOf (eligibleCandidates inFlight candidates retry excluded) best.priority) := by
  obtain ⟨before, after, hsplit⟩ := append_of_mem (mem_walkedTiers_of_eligible hbt)
  have hsor := walkedTiers_sorted candidates retry excluded
  rw [hsplit] at hsor ⊢
  -- the tiers before it are higher, so nothing in them is eligible
  have hno : (before.findSome? fun tier =>
      draw random (tierOf (eligibleCandidates inFlight candidates retry excluded) tier)) =
      none := by
    refine findSome?_eq_none_iff.mpr fun tier hti => ?_
    have hgt := (pairwise_append.mp hsor).2.2 tier hti best.priority mem_cons_self
    have hemp : tierOf (eligibleCandidates inFlight candidates retry excluded) tier = [] := by
      refine filter_eq_nil_iff.mpr fun c hc => ?_
      have hle := hmax c hc
      simp only [decide_eq_true_eq]
      omega
    rw [hemp]
    rfl
  rw [findSome?_append, hno, Option.none_or, findSome?_cons]
  have hso := draw_ne_none hran (ne_nil_of_mem (mem_tierOf.mpr ⟨hbt, rfl⟩))
  split
  · rename_i hdr
    exact hdr.symm
  · rename_i hdr
    exact absurd hdr hso

/-- Some eligible candidate has the highest priority, if there is any. -/
theorem exists_best (h : l ≠ []) : ∃ best ∈ l, ∀ c ∈ l, c.priority ≤ best.priority := by
  induction l with
  | nil => exact absurd rfl h
  | cons c l ih =>
    by_cases hl : l = []
    · exact ⟨c, mem_cons_self, by simp [hl]⟩
    obtain ⟨best, hbt, hmax⟩ := ih hl
    rcases le_total best.priority c.priority with hle | hle
    · refine ⟨c, mem_cons_self, fun c' hc' => ?_⟩
      rcases mem_cons.mp hc' with rfl | hc'
      · exact le_rfl
      · exact (hmax c' hc').trans hle
    · refine ⟨best, mem_cons_of_mem _ hbt, fun c' hc' => ?_⟩
      rcases mem_cons.mp hc' with rfl | hc'
      · exact hle
      · exact hmax c' hc'

theorem select_eq_none (h : eligibleCandidates inFlight candidates retry excluded = []) :
    selectChannelCandidate inFlight inFlight random candidates retry excluded = none := by
  rw [selectChannelCandidate_eq, h, Option.map_eq_none_iff]
  exact findSome?_eq_none_iff.mpr fun _ _ => rfl

/-- **What is selected** is eligible and of the highest priority. -/
theorem select_best (hran : ∀ total, 0 < total → random total < total)
    (h : eligibleCandidates inFlight candidates retry excluded ≠ []) :
    ∃ c ∈ eligibleCandidates inFlight candidates retry excluded,
      selectChannelCandidate inFlight inFlight random candidates retry excluded = some c.channelId ∧
        ∀ c' ∈ eligibleCandidates inFlight candidates retry excluded, c'.priority ≤ c.priority := by
  obtain ⟨best, hbt, hmax⟩ := exists_best h
  obtain ⟨c, hdr⟩ := Option.ne_none_iff_exists'.mp
    (draw_ne_none hran (ne_nil_of_mem (mem_tierOf.mpr ⟨hbt, rfl⟩)))
  obtain ⟨hc, hpri⟩ := mem_tierOf.mp (mem_of_draw hdr)
  refine ⟨c, hc, ?_, fun c' hc' => (hmax c' hc').trans hpri.ge⟩
  rw [selectChannelCandidate_eq, walk_eq_best hran hbt hmax, hdr]
  rfl

/-! ## The shares -/

/-- The draw returns the candidate whose weights own the number that is drawn. -/
theorem draw_eq_some_iff {left : List ChannelCandidate}
    (hids : (left.map channelId).Nodup) {index : Nat} (hidx : index < left.length)
    (random : Nat → Nat) : (draw random left).map (·.channelId) = some left[index].channelId ↔
      pickWeightedIndex (left.map fun c => effectiveChannelWeight c.weight)
        (random (totalWeight (left.map fun c => effectiveChannelWeight c.weight))) =
          some index := by
  dsimp only [draw]
  generalize random (totalWeight _) = r
  constructor
  · intro hid
    split at hid
    · cases hid
    rename_i i hpi
    obtain ⟨c, hc, hsm⟩ := Option.map_eq_some_iff.mp hid
    obtain ⟨hi, rfl⟩ := List.getElem?_eq_some_iff.mp hc
    have hi' : i < (left.map channelId).length := by simpa using hi
    have hidx' : index < (left.map channelId).length := by simpa using hidx
    have hsm' : (left.map channelId)[i] = (left.map channelId)[index] := by simpa using hsm
    rw [hpi, hids.getElem_inj_iff.mp hsm']
  · intro hpi
    rw [hpi]
    simp [hidx]

theorem sublist_eligible (inFlight : Int → Int) (candidates : List ChannelCandidate) (retry : Nat)
    (excluded : List Int) :
    (eligibleCandidates inFlight candidates retry excluded).Sublist candidates := by
  dsimp only [eligibleCandidates]
  split
  · exact filter_sublist
  · exact filter_sublist.trans filter_sublist

/-- **Every eligible candidate of the best tier has its share of the draws.** -/
theorem share_of_best (hids : (candidates.map channelId).Nodup)
    (hc : c ∈ eligibleCandidates inFlight candidates retry excluded)
    (hmax : ∀ c' ∈ eligibleCandidates inFlight candidates retry excluded,
      c'.priority ≤ c.priority) {total : Nat} (htot : weightSum
      (tierOf (eligibleCandidates inFlight candidates retry excluded) c.priority) = total)
    (hft : total ≤ maxInt) :
    (range total).countP (fun r => selectChannelCandidate inFlight inFlight (drawing total r)
        candidates retry excluded = some c.channelId) = effectiveChannelWeight c.weight := by
  obtain ⟨tier, hti⟩ : ∃ tier,
    tierOf (eligibleCandidates inFlight candidates retry excluded) c.priority = tier := ⟨_, rfl⟩
  have hmem : c ∈ tier := hti ▸ mem_tierOf.mpr ⟨hc, rfl⟩
  have hsub : tier.Sublist candidates :=
    hti ▸ filter_sublist.trans (sublist_eligible inFlight candidates retry excluded)
  have hnd := hids.sublist (hsub.map _)
  obtain ⟨index, hidx, hget⟩ := getElem_of_mem hmem
  rw [hti] at htot
  have hsum : (tier.map fun c => effectiveChannelWeight c.weight).sum = total := htot
  have hsel : ∀ r ∈ range total,
      selectChannelCandidate inFlight inFlight (drawing total r) candidates retry excluded =
          some c.channelId ↔
        pickWeightedIndex (tier.map fun c => effectiveChannelWeight c.weight) r = some index := by
    intro r hr
    have hlt := mem_range.mp hr
    have hran : ∀ n, 0 < n → drawing total r n < n := by
      intro n hn
      unfold drawing
      split <;> omega
    rw [selectChannelCandidate_eq, walk_eq_best hran hc hmax, hti, ← hget,
      draw_eq_some_iff hnd hidx, totalWeight_eq_sum (hsum.trans_le hft), hsum]
    rw [drawing, if_pos rfl]
  have hlen : index < (tier.map fun c => effectiveChannelWeight c.weight).length := by
    simpa using hidx
  calc (range total).countP (fun r => selectChannelCandidate inFlight inFlight
          (drawing total r) candidates retry excluded = some c.channelId)
      = (range total).countP (fun r =>
          pickWeightedIndex (tier.map fun c => effectiveChannelWeight c.weight) r = some index) :=
        countP_congr fun r hr => by simpa using hsel r hr
    _ = (tier.map fun c => effectiveChannelWeight c.weight)[index] := by
        rw [← hsum]
        exact countP_pickWeightedIndex _ hlen
    _ = effectiveChannelWeight c.weight := by
        rw [getElem_map, hget]

end Walk

/-- **The selection is of the best eligible channel, in proportion to weight.**  With counters that
stand still, nothing is selected exactly if no candidate is eligible; what is selected is eligible
and of the highest priority among the eligible; and of the draws below the sum of the effective
weights of that tier, each of its candidates gets as many as its own weight. -/
theorem selects_best_by_weight (inFlight : Int → Int) {candidates : List ChannelCandidate}
    (hids : (candidates.map channelId).Nodup) (retry : Nat)
    (excluded : List Int) :
    (∀ random : Nat → Nat, (∀ total, 0 < total → random total < total) →
      (selectChannelCandidate inFlight inFlight random candidates retry excluded = none ↔
        eligibleCandidates inFlight candidates retry excluded = []) ∧
      ∀ id, selectChannelCandidate inFlight inFlight random candidates retry excluded = some id →
        ∃ c ∈ eligibleCandidates inFlight candidates retry excluded, c.channelId = id ∧
          ∀ c' ∈ eligibleCandidates inFlight candidates retry excluded,
            c'.priority ≤ c.priority) ∧
    ∀ c ∈ eligibleCandidates inFlight candidates retry excluded,
      (∀ c' ∈ eligibleCandidates inFlight candidates retry excluded, c'.priority ≤ c.priority) →
      ∀ total, total =
          weightSum (tierOf (eligibleCandidates inFlight candidates retry excluded) c.priority) →
        total ≤ maxInt →
        (range total).countP (fun r =>
          selectChannelCandidate inFlight inFlight (drawing total r) candidates retry excluded =
            some c.channelId) = effectiveChannelWeight c.weight := by
  refine ⟨fun random hran => ⟨⟨fun hno => ?_, select_eq_none⟩, fun id hid => ?_⟩, ?_⟩
  · by_contra hne
    obtain ⟨c, -, hso, -⟩ := select_best hran hne
    rw [hno] at hso
    cases hso
  · have hne : eligibleCandidates inFlight candidates retry excluded ≠ [] := by
      intro hemp
      rw [select_eq_none hemp] at hid
      cases hid
    obtain ⟨c, hc, hso, hmax⟩ := select_best hran hne
    rw [hid] at hso
    exact ⟨c, hc, (Option.some.inj hso).symm, hmax⟩
  · intro c hc hmax total htot hft
    exact share_of_best hids hc hmax htot.symm hft

/-- Of two channels with weights 0 and 20, and a cooling one above them, the first gets 10 of 40
draws. -/
theorem selects_best_by_weight_two :
    (range 40).countP (fun r => selectChannelCandidate (fun _ => 0) (fun _ => 0)
        (drawing 40 r) [⟨1, 5, 0, 0, true⟩, ⟨2, 3, 0, 0, false⟩, ⟨3, 3, 20, 0, false⟩] 0 [] =
          some 2) = 10 :=
  (selects_best_by_weight (fun _ => 0) (by decide) 0 []).2 ⟨2, 3, 0, 0, false⟩ (by decide)
    (by decide) 40 (by decide) (by decide)

end NewApi
