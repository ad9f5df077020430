import NewApi.Steps

/-! # The performance counters

`Record` adds a sample to the counters of its bucket one by one; `flushCompletedBuckets` takes them
out one by one and stores them, or puts them back.  Whether there is anything to store it reads off
`requestCount` alone: what a sample adds after its request was taken, the next flush throws away
(`success_after_drain_lost`).  A flush that comes when the samples of a bucket are complete loses
nothing (`counters_conserved`): the bucket is not the current one, so no sample is added to it
while it is drained. -/
namespace NewApi
open Function Steps

structure BucketKey where
  (model group : String)
  bucketTs : Int
  deriving DecidableEq

/-- The fields of `counters`. -/
inductive Counter where
  | requestCount | successCount | totalLatencyMs | ttftSumMs | ttftCount | outputTokens
  | generationMs
  deriving DecidableEq

/-- In the order of `drain` and `addCounters`. -/
def Counter.all : List Counter :=
  [requestCount, successCount, totalLatencyMs, ttftSumMs, ttftCount, outputTokens, generationMs]

structure Sample where
  (model group : String)
  (latencyMs ttftMs : Int)
  (hasTtft success : Bool)
  (outputTokens generationMs : Int)
  deriving DecidableEq

/-- The additions of `atomicBucket.add`. -/
def Sample.add (s : Sample) : List (Counter × Int) :=
  (.requestCount, 1) :: (if s.success then [(.successCount, 1)] else []) ++
    (if s.latencyMs > 0 then [(.totalLatencyMs, s.latencyMs)] else []) ++
    (if s.hasTtft ∧ s.ttftMs ≥ 0 then [(.ttftSumMs, s.ttftMs), (.ttftCount, 1)] else []) ++
    if s.outputTokens > 0 ∧ s.generationMs > 0 then
      [(.outputTokens, s.outputTokens), (.generationMs, s.generationMs)] else []

def bucketStart (bucketSeconds ts : Int) : Int :=
  ts - ts.tmod (if bucketSeconds ≤ 0 then 3600 else bucketSeconds)

/-- A running `Record`: its bucket, when it chose it, and what it has yet to add. -/
structure Recording where
  key : BucketKey
  since : Int
  todo : List (Counter × Int)

/-- Where the flush is, with the counters that it has yet to take or to put back. -/
inductive FlushAt where
  | idle
  | drain (key : BucketKey) (todo : List Counter)
  | addCounters (key : BucketKey) (todo : List Counter)
  | deleteOld (key : BucketKey)

abbrev PerfCounts := BucketKey × Counter → Int

/-- `f` with what `g` has at `x`. -/
def PerfCounts.add (f : PerfCounts) (x : BucketKey × Counter) (g : PerfCounts) : PerfCounts :=
  fun y => if y = x then f y + g y else f y

/-- The counters in `hotBuckets`, in the database and with the flush, and the sums of the additions,
which the program does not keep. -/
structure PerfMetrics where
  now : Int
  recordings : List Recording := []
  flush : FlushAt := .idle
  (live stored drained added : PerfCounts := fun _ => 0)

inductive PerfEvent where
  | tick (seconds : Nat)
  | record (sample : Sample)
  | add (i : Nat)
  | visit (key : BucketKey)
  | swap
  | upsert (ok : Bool)
  | restore
  | delete
  deriving DecidableEq

namespace PerfMetrics
variable {size : Int} {s s' : PerfMetrics}

/-- One step.  The samples of a bucket that is deleted chose it more than 24 hours ago, so that an
addition, which comes within them, finds its bucket in the map. -/
def step (size : Int) (s : PerfMetrics) (e : PerfEvent) : Option PerfMetrics :=
  match e, s.flush with
  | .tick seconds, _ => some { s with now := s.now + seconds }
  | .record sample, _ =>
    if sample.model = "" then none
    else
      let group := if sample.group = "" then "default" else sample.group
      let key := ⟨sample.model, group, bucketStart size s.now⟩
      some { s with recordings := s.recordings ++ [⟨key, s.now, sample.add⟩] }
  | .add i, _ =>
    match s.recordings[i]? with
    | some ⟨key, since, (c, n) :: todo⟩ =>
      if since + 86400 < s.now then none
      else some { s with
        recordings := s.recordings.set i ⟨key, since, todo⟩
        live := s.live.add (key, c) fun _ => n
        added := s.added.add (key, c) fun _ => n }
    | _ => none
  | .visit key, .idle =>
    if key.bucketTs ≥ bucketStart size s.now then none
    else some { s with flush := .drain key Counter.all }
  | .swap, .drain key (c :: todo) =>
    some { s with
      flush := .drain key todo, live := update s.live (key, c) 0
      drained := s.drained.add (key, c) s.live }
  | .upsert ok, .drain key [] =>
    if s.drained (key, .requestCount) = 0 then
      some { s with flush := .deleteOld key, drained := fun _ => 0 }
    else if ok then
      some { s with
        flush := .deleteOld key, drained := fun _ => 0
        stored := fun x => s.stored x + s.drained x }
    else some { s with flush := .addCounters key Counter.all }
  | .restore, .addCounters key (c :: todo) =>
    some { s with
      flush := .addCounters key todo, live := s.live.add (key, c) s.drained
      drained := update s.drained (key, c) 0 }
  | .restore, .addCounters _ [] => some { s with flush := .idle }
  | .delete, .deleteOld key =>
    if key.bucketTs < bucketStart size (s.now - 86400) then
      some { s with flush := .idle, live := fun x => if x.1 = key then 0 else s.live x }
    else some { s with flush := .idle }
  | _, _ => none

/-- A bucket is drained only when the samples that chose it have made all their additions. -/
def Complete (s : PerfMetrics) (e : PerfEvent) : Prop :=
  ∀ r ∈ s.recordings, e = .visit r.key → r.todo = []

instance (s : PerfMetrics) (e : PerfEvent) : Decidable (s.Complete e) :=
  inferInstanceAs (Decidable (∀ r ∈ s.recordings, e = .visit r.key → r.todo = []))

def CompleteStep (size : Int) (s : PerfMetrics) (e : PerfEvent) (s' : PerfMetrics) : Prop :=
  s.step size e = some s' ∧ s.Complete e

/-- A bucket that is over, with no sample that is still added to it. -/
def Quiet (size : Int) (s : PerfMetrics) (key : BucketKey) : Prop :=
  key.bucketTs < bucketStart size s.now ∧ ∀ r ∈ s.recordings, r.key = key → r.todo = []

/-- What the flush has in hand, by its position: all of it is of one bucket, and what it has
passed is empty. -/
def InHand (size : Int) (s : PerfMetrics) : Prop :=
  match s.flush with
  | .idle => ∀ x, s.drained x = 0
  | .drain key todo => s.Quiet size key ∧ (∀ c ∉ todo, s.live (key, c) = 0) ∧
      ∀ x, x.1 ≠ key → s.drained x = 0
  | .addCounters key todo => s.Quiet size key ∧ (∀ c ∉ todo, s.drained (key, c) = 0) ∧
      ∀ x, x.1 ≠ key → s.drained x = 0
  | .deleteOld key => s.Quiet size key ∧ (∀ c, s.live (key, c) = 0) ∧ ∀ x, s.drained x = 0

/-- The invariant: every addition is somewhere, and no counter is above zero in a bucket without
requests, since a sample counts its request first. -/
structure Conserved (size : Int) (s : PerfMetrics) : Prop where
  accounted : ∀ x, s.stored x + s.live x + s.drained x = s.added x
  nonneg : ∀ x, 0 ≤ s.live x ∧ 0 ≤ s.drained x
  todo : ∀ r ∈ s.recordings, ∀ a ∈ r.todo, 0 ≤ a.2
  begun : ∀ r ∈ s.recordings, r.todo = [] ∨ (∃ rest, r.todo = (.requestCount, 1) :: rest) ∨
    0 < s.live (r.key, .requestCount)
  counted : ∀ key, s.live (key, .requestCount) + s.drained (key, .requestCount) = 0 →
    ∀ c, s.live (key, c) + s.drained (key, c) = 0
  inHand : s.InHand size

theorem bucketStart_mono (size ts : Int) (seconds : Nat) :
    bucketStart size ts ≤ bucketStart size (ts + seconds) := by
  unfold bucketStart
  generalize hbucket : (if size ≤ 0 then 3600 else size) = bucket
  have hpos : 0 < bucket := by
    split at hbucket <;> omega
  have hdiv := Int.tdiv_le_tdiv hpos (show ts ≤ ts + seconds by omega)
  have hmul := Int.mul_le_mul_of_nonneg_left hdiv (Int.le_of_lt hpos)
  have h₁ := Int.mul_tdiv_add_tmod ts bucket
  have h₂ := Int.mul_tdiv_add_tmod (ts + seconds) bucket
  omega

theorem add_nonneg (sample : Sample) : ∀ a ∈ sample.add, 0 ≤ a.2 := by
  intro a ha
  simp only [Sample.add, List.mem_append, List.mem_cons] at ha
  rcases ha with ((((rfl | ha) | ha) | ha) | ha)
  · exact Int.one_nonneg
  all_goals
    split at ha
    on_goal 2 => cases ha
    simp only [List.mem_cons, List.not_mem_nil, or_false] at ha
  · obtain rfl := ha
    exact Int.one_nonneg
  · obtain rfl := ha
    exact Int.le_of_lt ‹_›
  · rename_i httft
    rcases ha with rfl | rfl
    · exact httft.2
    · exact Int.one_nonneg
  · rename_i htokens
    rcases ha with rfl | rfl
    · exact Int.le_of_lt htokens.1
    · exact Int.le_of_lt htokens.2

theorem mem_all (c : Counter) : c ∈ Counter.all := by
  cases c <;> decide

/-- What an event leaves to the flush when it touches neither the counters in hand nor the samples
of the bucket that is flushed. -/
theorem InHand.congr (h : s.InHand size) (hflush : s'.flush = s.flush)
    (hdrained : s'.drained = s.drained)
    (hlive : ∀ key, s.Quiet size key → ∀ c, s'.live (key, c) = s.live (key, c))
    (hquiet : ∀ key, s.Quiet size key → s'.Quiet size key) : s'.InHand size := by
  unfold InHand at h ⊢
  rw [hflush, hdrained]
  split at h
  · exact h
  · exact ⟨hquiet _ h.1, fun c hc => (hlive _ h.1 c).trans (h.2.1 c hc), h.2.2⟩
  · exact ⟨hquiet _ h.1, h.2⟩
  · exact ⟨hquiet _ h.1, fun c => (hlive _ h.1 c).trans (h.2.1 c), h.2.2⟩

theorem conserved_add {i : Nat} {key : BucketKey} {since n : Int} {c : Counter}
    {todo : List (Counter × Int)} (hc : s.Conserved size)
    (hi : s.recordings[i]? = some ⟨key, since, (c, n) :: todo⟩) :
    Conserved size { s with
      recordings := s.recordings.set i ⟨key, since, todo⟩
      live := s.live.add (key, c) fun _ => n
      added := s.added.add (key, c) fun _ => n } := by
  have hr : ⟨key, since, (c, n) :: todo⟩ ∈ s.recordings := List.mem_of_getElem? hi
  have hn : 0 ≤ n := hc.todo _ hr _ List.mem_cons_self
  have hlive : ∀ x, s.live x ≤ s.live.add (key, c) (fun _ => n) x := by
    intro x
    dsimp only [PerfCounts.add]
    split <;> omega
  have hrequest : 0 < s.live.add (key, c) (fun _ => n) (key, .requestCount) := by
    rcases hc.begun _ hr with hnil | ⟨rest, hfirst⟩ | hlater
    · cases hnil
    · cases hfirst
      have := (hc.nonneg (key, .requestCount)).1
      simp only [PerfCounts.add, if_true]
      omega
    · exact Int.lt_of_lt_of_le hlater (hlive _)
  have hquiet : ∀ key', s.Quiet size key' → key' ≠ key := by
    rintro key' hq rfl
    cases hq.2 _ hr rfl
  refine ⟨fun x => ?_, fun x => ⟨Int.le_trans (hc.nonneg x).1 (hlive x), (hc.nonneg x).2⟩,
    fun r hset a ha => ?_, fun r hset => ?_, fun key' hzero c' => ?_, ?_⟩
  · have := hc.accounted x
    dsimp only [PerfCounts.add]
    split <;> omega
  · rcases List.mem_or_eq_of_mem_set hset with hold | rfl
    · exact hc.todo r hold a ha
    · exact hc.todo _ hr a (List.mem_cons_of_mem _ ha)
  · rcases List.mem_or_eq_of_mem_set hset with hold | rfl
    · rcases hc.begun r hold with hnil | hfirst | hlater
      · exact .inl hnil
      · exact .inr (.inl hfirst)
      · exact .inr (.inr (Int.lt_of_lt_of_le hlater (hlive _)))
    · exact .inr (.inr hrequest)
  · have hdrained := (hc.nonneg (key', .requestCount)).2
    by_cases hkey : key' = key
    · subst hkey
      dsimp only at hzero
      omega
    · have hsame : ∀ c', s.live.add (key, c) (fun _ => n) (key', c') = s.live (key', c') :=
        fun c' => if_neg fun heq => hkey (Prod.mk.inj heq).1
      dsimp only at hzero ⊢
      rw [hsame] at hzero ⊢
      exact hc.counted key' hzero c'
  · refine hc.inHand.congr rfl rfl (fun key' hq c' => if_neg fun heq => ?_) fun key' hq => ?_
    · exact hquiet key' hq (Prod.mk.inj heq).1
    · refine ⟨hq.1, fun r hset hkey => ?_⟩
      rcases List.mem_or_eq_of_mem_set hset with hold | rfl
      · exact hq.2 r hold hkey
      · exact absurd hkey.symm (hquiet key' hq)

/-- Counters of the bucket that is flushed move between it and the flush. -/
theorem Conserved.move {key : BucketKey} {flush : FlushAt} {live drained : PerfCounts}
    (hc : s.Conserved size) (hquiet : s.Quiet size key)
    (hsum : ∀ x, live x + drained x = s.live x + s.drained x)
    (hnonneg : ∀ x, 0 ≤ live x ∧ 0 ≤ drained x) (hother : ∀ x, x.1 ≠ key → live x = s.live x)
    (hand : InHand size { s with flush := flush, live := live, drained := drained }) :
    Conserved size { s with flush := flush, live := live, drained := drained } := by
  refine ⟨fun x => ?_, hnonneg, hc.todo, fun r hr => ?_, fun key' hzero c => ?_, hand⟩
  · have := hc.accounted x
    have := hsum x
    dsimp only
    omega
  · by_cases hkey : r.key = key
    · exact .inl (hquiet.2 r hr hkey)
    · dsimp only
      rw [hother (r.key, .requestCount) hkey]
      exact hc.begun r hr
  · dsimp only at hzero ⊢
    rw [hsum] at hzero ⊢
    exact hc.counted key' hzero c

/-- One counter moves from `f` to `g`. -/
theorem move_sum (f g : PerfCounts) (x y : BucketKey × Counter) :
    update f x 0 y + g.add x f y = f y + g y := by
  simp only [PerfCounts.add, update_apply]
  split <;> omega

theorem move_nonneg {f g : PerfCounts} (h : ∀ y, 0 ≤ f y ∧ 0 ≤ g y) (x y : BucketKey × Counter) :
    0 ≤ update f x 0 y ∧ 0 ≤ g.add x f y := by
  have := h y
  simp only [PerfCounts.add, update_apply]
  split <;> omega

theorem update_passed {f : PerfCounts} {key : BucketKey} {c : Counter} {todo : List Counter}
    (h : ∀ c' ∉ c :: todo, f (key, c') = 0) : ∀ c' ∉ todo, update f (key, c) 0 (key, c') = 0 := by
  intro c' hc'
  by_cases heq : c' = c
  · rw [heq, update_self]
  · rw [update_of_ne fun h => heq (Prod.mk.inj h).2]
    exact h c' (by simp [heq, hc'])

theorem conserved_swap {key : BucketKey} {c : Counter} {todo : List Counter}
    (hc : s.Conserved size) (hflush : s.flush = .drain key (c :: todo)) :
    Conserved size { s with
      flush := .drain key todo, live := update s.live (key, c) 0
      drained := s.drained.add (key, c) s.live } := by
  have hand := hc.inHand
  simp only [InHand, hflush] at hand
  obtain ⟨hquiet, hpassed, hother⟩ := hand
  have hne : ∀ x : BucketKey × Counter, x.1 ≠ key → x ≠ (key, c) := by
    rintro x hx rfl
    exact hx rfl
  refine hc.move hquiet (move_sum _ _ _) (move_nonneg hc.nonneg _)
    (fun x hx => update_of_ne (hne x hx) _ _) ⟨hquiet, update_passed hpassed, fun x hx => ?_⟩
  exact (if_neg (hne x hx)).trans (hother x hx)

theorem conserved_restore {key : BucketKey} {c : Counter} {todo : List Counter}
    (hc : s.Conserved size) (hflush : s.flush = .addCounters key (c :: todo)) :
    Conserved size { s with
      flush := .addCounters key todo, live := s.live.add (key, c) s.drained
      drained := update s.drained (key, c) 0 } := by
  have hand := hc.inHand
  simp only [InHand, hflush] at hand
  obtain ⟨hquiet, hpassed, hother⟩ := hand
  have hne : ∀ x : BucketKey × Counter, x.1 ≠ key → x ≠ (key, c) := by
    rintro x hx rfl
    exact hx rfl
  refine hc.move hquiet (fun x => ?_) (fun x => ?_) (fun x hx => if_neg (hne x hx))
    ⟨hquiet, update_passed hpassed, fun x hx => ?_⟩
  · have := move_sum s.drained s.live (key, c) x
    omega
  · exact (move_nonneg (fun y => (hc.nonneg y).symm) (key, c) x).symm
  · exact (update_of_ne (hne x hx) _ _).trans (hother x hx)

/-- After the drain the bucket is empty; without a request in hand so are the other counters. -/
theorem conserved_upsert {key : BucketKey} (ok : Bool) (hc : s.Conserved size)
    (hflush : s.flush = .drain key []) (h : s.step size (.upsert ok) = some s') :
    s'.Conserved size := by
  have hand := hc.inHand
  simp only [InHand, hflush] at hand
  obtain ⟨hquiet, hpassed, hother⟩ := hand
  have hempty : ∀ c, s.live (key, c) = 0 := fun c => hpassed c List.not_mem_nil
  have hcounted : ∀ key', s.live (key', .requestCount) + 0 = 0 → ∀ c, s.live (key', c) + 0 = 0 := by
    intro key' hzero c
    by_cases hkey : key' = key
    · rw [hkey, hempty, Int.add_zero]
    · have hnone : ∀ c, s.drained (key', c) = 0 := fun c => hother (key', c) hkey
      have := hc.counted key' (by rw [hnone]; exact hzero) c
      rw [hnone] at this
      exact this
  simp only [step, hflush] at h
  split at h
  · rename_i hnone
    have hzero : ∀ x, s.drained x = 0 := by
      rintro ⟨key', c⟩
      by_cases hkey : key' = key
      · have := hc.counted key (by rw [hempty, hnone, Int.add_zero]) c
        rw [hempty, Int.zero_add] at this
        rw [hkey, this]
      · exact hother _ hkey
    cases h
    refine ⟨fun x => ?_, fun x => ⟨(hc.nonneg x).1, Int.le_refl 0⟩, hc.todo, hc.begun, hcounted,
      hquiet, hempty, fun _ => rfl⟩
    have := hc.accounted x
    rw [hzero] at this
    exact this
  split at h
  · cases h
    refine ⟨fun x => ?_, fun x => ⟨(hc.nonneg x).1, Int.le_refl 0⟩, hc.todo, hc.begun, hcounted,
      hquiet, hempty, fun _ => rfl⟩
    have := hc.accounted x
    dsimp only
    omega
  · cases h
    exact ⟨hc.accounted, hc.nonneg, hc.todo, hc.begun, hc.counted, hquiet,
      fun c hnot => absurd (mem_all c) hnot, hother⟩

theorem conserved_step (e : PerfEvent) (hc : s.Conserved size) (hcomplete : s.Complete e)
    (h : s.step size e = some s') : s'.Conserved size := by
  have hand := hc.inHand
  have hstep := h
  unfold step at h
  split at h
  case h_1 seconds =>
    cases h
    refine ⟨hc.accounted, hc.nonneg, hc.todo, hc.begun, hc.counted, ?_⟩
    exact hand.congr rfl rfl (fun _ _ _ => rfl) fun key hq =>
      ⟨Int.lt_of_lt_of_le hq.1 (bucketStart_mono size s.now seconds), hq.2⟩
  case h_2 sample =>
    split at h <;> cases h
    refine ⟨hc.accounted, hc.nonneg, fun r hr a ha => ?_, fun r hr => ?_, hc.counted, ?_⟩
    · rcases List.mem_append.mp hr with hr | hr
      · exact hc.todo r hr a ha
      · obtain rfl := List.mem_singleton.mp hr
        exact add_nonneg sample a ha
    · rcases List.mem_append.mp hr with hr | hr
      · exact hc.begun r hr
      · obtain rfl := List.mem_singleton.mp hr
        exact .inr (.inl ⟨_, rfl⟩)
    · refine hand.congr rfl rfl (fun _ _ _ => rfl) fun key hq => ⟨hq.1, fun r hr hkey => ?_⟩
      rcases List.mem_append.mp hr with hr | hr
      · exact hq.2 r hr hkey
      · -- the current bucket is not one that is over
        obtain rfl := List.mem_singleton.mp hr
        have := hq.1
        rw [← hkey] at this
        exact absurd this (Int.lt_irrefl _)
  case h_3 =>
    split at h
    · split at h <;> cases h
      exact conserved_add hc ‹_›
    · cases h
  case h_4 key hflush =>
    split at h
    · cases h
    · rename_i hover
      cases h
      simp only [InHand, hflush] at hand
      exact ⟨hc.accounted, hc.nonneg, hc.todo, hc.begun, hc.counted,
        ⟨Int.not_le.mp hover, fun r hr hkey => hcomplete r hr (by rw [hkey])⟩,
        fun c hnot => absurd (mem_all c) hnot, fun x _ => hand x⟩
  case h_5 hflush =>
    cases h
    exact conserved_swap hc hflush
  case h_6 hflush => exact conserved_upsert _ hc hflush hstep
  case h_7 hflush =>
    cases h
    exact conserved_restore hc hflush
  case h_8 key hflush =>
    cases h
    simp only [InHand, hflush] at hand
    refine ⟨hc.accounted, hc.nonneg, hc.todo, hc.begun, hc.counted, fun x => ?_⟩
    by_cases hkey : x.1 = key
    · subst hkey
      exact hand.2.1 x.2 List.not_mem_nil
    · exact hand.2.2 x hkey
  case h_9 key hflush =>
    simp only [InHand, hflush] at hand
    split at h <;> cases h
    · -- the bucket that is deleted is empty
      have hlive : (fun x => if x.1 = key then 0 else s.live x) = s.live := by
        funext x
        split
        · rename_i hkey
          subst hkey
          exact (hand.2.1 x.2).symm
        · rfl
      rw [hlive]
      exact ⟨hc.accounted, hc.nonneg, hc.todo, hc.begun, hc.counted, hand.2.2⟩
    · exact ⟨hc.accounted, hc.nonneg, hc.todo, hc.begun, hc.counted, hand.2.2⟩
  case h_10 => cases h

/-- **The counters are conserved** in every run whose flushes find the samples of a bucket
complete. -/
theorem counters_conserved {now : Int} {es : List PerfEvent}
    (h : Run (CompleteStep size) { now } es s) (x : BucketKey × Counter) :
    s.stored x + s.live x + s.drained x = s.added x := by
  have hc : s.Conserved size := by
    refine h.invariant (I := Conserved size) (fun _ e _ hc hstep =>
      conserved_step e hc hstep.2 hstep.1) ?_
    exact ⟨fun _ => rfl, fun _ => ⟨Int.le_refl 0, Int.le_refl 0⟩, fun _ hr => (by cases hr),
      fun _ hr => (by cases hr), fun _ _ _ => rfl, fun _ => rfl⟩
  exact hc.accounted x

/-- The flush of a bucket, with an upsert that fails or not. -/
def flushBucket (key : BucketKey) (ok : Bool) : List PerfEvent :=
  .visit key :: List.replicate 7 .swap ++
    (if ok then [.upsert true, .delete] else .upsert false :: List.replicate 8 .restore)

/-- Two samples of one bucket, the second of which is added while a sample of the next bucket is;
the bucket is flushed twice, since the first upsert fails. -/
def crossingSamples : List PerfEvent :=
  let sample : Sample := ⟨"m", "g", 20, 0, false, true, 0, 0⟩
  let key : BucketKey := ⟨"m", "g", 0⟩
  [.record sample, .record sample, .add 0, .add 1, .add 0, .tick 3600, .record sample, .add 2,
    .add 1, .add 0, .add 1] ++ flushBucket key false ++ .add 2 :: flushBucket key true

theorem counters_conserved_crossing : ∃ s : PerfMetrics,
    Run (CompleteStep 3600) { now := 0 } crossingSamples s ∧
      s.stored (⟨"m", "g", 0⟩, .successCount) = 2 ∧ s.live (⟨"m", "g", 3600⟩, .successCount) = 1 ∧
      ∀ x, s.stored x + s.live x + s.drained x = s.added x := by
  have hstep : ∀ (s : PerfMetrics) e s', (if s.Complete e then s.step 3600 e else none) = some s' →
      CompleteStep 3600 s e s' := by
    intro s e s' h
    split at h
    · exact ⟨h, ‹_›⟩
    · cases h
  have hrun : Run (CompleteStep 3600) { now := 0 } crossingSamples _ := Run.foldlM hstep rfl
  exact ⟨_, hrun, by decide +kernel, by decide +kernel, counters_conserved hrun⟩

/-- A sample whose request is flushed before its success is added, and a flush after it. -/
def lateSuccess : List PerfEvent :=
  let flush := flushBucket ⟨"m", "g", 0⟩ true
  [.record ⟨"m", "g", 0, 0, false, true, 0, 0⟩, .add 0, .tick 3600] ++ flush ++ .add 0 :: flush

theorem success_after_drain_lost : ∃ (s : PerfMetrics) (x : BucketKey × Counter),
    Run (fun s e s' => s.step 3600 e = some s') { now := 0 } lateSuccess s ∧
      s.stored x + s.live x + s.drained x = 0 ∧ s.added x = 1 := by
  refine ⟨_, (⟨"m", "g", 0⟩, .successCount), Run.foldlM (fun _ _ _ h => h) rfl, ?_, ?_⟩
  all_goals decide +kernel

end PerfMetrics

end NewApi
