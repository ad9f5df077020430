import NewApi.ChannelScore

/-! # The success window

Two halves count the reports of a channel.  A report that comes a half width after the start of
the current half makes it the previous one and starts a new half at its own time, not on a
boundary.  The previous half is as old as the spacing of the reports allows: it is forgotten in
time if every half that is kept was a half width long (`window_forgets`), and a half that was
longer is counted for too long (`old_report_counted`). -/
namespace NewApi
open List

/-- The record after some reports. -/
def ScoreState.after (setting : ChannelDynamicScoreSetting) (s : ScoreState)
    (reports : List ScoreReport) : ScoreState :=
  reports.foldl (fun s r => s.report setting r.1 r.2) s

/-- The reports come in the order of time.  Each comes at most a half width after the start of the
current half, or after the whole window. -/
def Spaced (setting : ChannelDynamicScoreSetting) (s : ScoreState) : List ScoreReport → Prop
  | [] => True
  | (now, outcome) :: reports =>
      0 < now ∧ s.updatedAt ≤ now ∧
        (s.curStart = 0 ∨ now - s.curStart ≤ setting.halfWidth ∨
          2 * setting.halfWidth ≤ now - s.curStart) ∧
        Spaced setting (s.report setting now outcome) reports

/-- The reports that a half counts are not before its start. -/
def Counts (reports : List ScoreReport) (start total success : Int) : Prop :=
  total = reports.length ∧ success = reports.countP (·.2 = .success) ∧ ∀ r ∈ reports, start ≤ r.1

/-- The snapshot counts each report once at most, and none that is older than the window. -/
def CountsRecent (setting : ChannelDynamicScoreSetting) (reports : List ScoreReport) (t : Int)
    (snap : Snapshot) : Prop :=
  ∃ counted : List ScoreReport, counted.Sublist reports ∧ snap.total = counted.length ∧
    snap.success = counted.countP (·.2 = .success) ∧ ∀ r ∈ counted, t - 2 * setting.halfWidth < r.1

/-- **What the two halves count** of a history. -/
def Halves (setting : ChannelDynamicScoreSetting) (history : List ScoreReport) (s : ScoreState) :
    Prop :=
  ∃ old prev cur, history = old ++ (prev ++ cur) ∧
    Counts prev (s.curStart - setting.halfWidth) s.prevTotal s.prevSuccess ∧
    Counts cur s.curStart s.curTotal s.curSuccess

section Window
variable {setting : ChannelDynamicScoreSetting} {history : List ScoreReport} {s : ScoreState}
  {now : Int}

theorem counts_nil (start : Int) : Counts [] start 0 0 := ⟨rfl, rfl, by simp⟩

variable {reports : List ScoreReport}

theorem Counts.concat {start total success : Int}
    (h : Counts reports start total success) (hnow : start ≤ now) (outcome : ScoreOutcome) :
    Counts (reports ++ [(now, outcome)]) start (total + 1)
      (if outcome = .success then success + 1 else success) := by
  obtain ⟨rfl, rfl, htim⟩ := h
  refine ⟨by simp, ?_, ?_⟩
  · cases outcome <;> simp
  intro r hr
  rcases mem_append.mp hr with hr | hr
  · exact htim r hr
  rw [mem_singleton.mp hr]
  exact hnow

/-- The current half has begun, and is not over at the last report. -/
def Current (setting : ChannelDynamicScoreSetting) (s : ScoreState) (now : Int) : Prop :=
  s.curStart ≠ 0 ∧ s.curStart ≤ now ∧ now < s.curStart + setting.halfWidth

/-- **What the halves count when they are rotated** for a report. -/
theorem halves_rotate (h : Halves setting history s)
    (hcr : history = [] ∧ s = {} ∨ Current setting s s.updatedAt) (hpos : 0 < now)
    (hti : s.updatedAt ≤ now) (hspa : s.curStart = 0 ∨ now - s.curStart ≤ setting.halfWidth ∨
      2 * setting.halfWidth ≤ now - s.curStart) :
    Halves setting history (s.rotate now setting.halfWidth) ∧
      Current setting (s.rotate now setting.halfWidth) now := by
  have hwid := setting.halfWidth_pos
  have hnow : ∀ s : ScoreState, s.curStart = now → Current setting s now := by
    rintro s rfl
    exact ⟨hpos.ne', le_rfl, by omega⟩
  rw [ScoreState.rotate, if_neg (not_le.mpr hwid)]
  rcases hcr with ⟨rfl, rfl⟩ | ⟨hstr, hle, -⟩
  · exact ⟨⟨[], [], [], rfl, counts_nil _, counts_nil _⟩, hnow _ rfl⟩
  rw [if_neg hstr]
  obtain ⟨old, prev, cur, rfl, hpv, hcur⟩ := h
  by_cases hrec : now - s.curStart < setting.halfWidth
  · simp only [if_pos hrec]
    exact ⟨⟨old, prev, cur, rfl, hpv, hcur⟩, hstr, by omega, by omega⟩
  simp only [if_neg hrec]
  refine ⟨?_, hnow _ rfl⟩
  by_cases hkept : now - s.curStart < 2 * setting.halfWidth
  · -- the half that is kept was a half width long
    have hlo : s.curStart = now - setting.halfWidth := by omega
    simp only [if_pos hkept]
    exact ⟨old ++ prev, cur, [], by simp, hlo ▸ hcur, counts_nil _⟩
  · simp only [if_neg hkept]
    exact ⟨old ++ (prev ++ cur), [], [], by simp, counts_nil _, counts_nil _⟩

/-- What a report counts, once the halves are rotated. -/
theorem halves_count (h : Halves setting history (s.rotate now setting.halfWidth))
    (hcr : Current setting (s.rotate now setting.halfWidth) now) (outcome : ScoreOutcome) :
    Halves setting (history ++ [(now, outcome)]) (s.count setting now outcome) ∧
      Current setting (s.count setting now outcome) now := by
  obtain ⟨old, prev, cur, rfl, hpv, hcur⟩ := h
  have hcur' := hcur.concat hcr.2.1 outcome
  have hkept : Halves setting (old ++ (prev ++ cur) ++ [(now, outcome)])
      (s.count setting now outcome) ∧ (s.count setting now outcome).curStart =
        (s.rotate now setting.halfWidth).curStart := by
    have hall : old ++ (prev ++ cur) ++ [(now, outcome)] =
        old ++ (prev ++ (cur ++ [(now, outcome)])) := by simp
    rw [hall]
    cases outcome with
    | success =>
      simp only [ScoreState.count, ScoreState.stamp, ScoreState.succeed]
      split <;> exact ⟨⟨old, prev, _, rfl, hpv, hcur'⟩, rfl⟩
    | fault =>
      simp only [ScoreState.count, ScoreState.stamp, ScoreState.fail]
      split <;> exact ⟨⟨old, prev, _, rfl, hpv, hcur'⟩, rfl⟩
  refine ⟨hkept.1, ?_⟩
  rw [Current, hkept.2]
  exact hcr

/-- **A run of reports.** -/
theorem halves_run (hid : setting.idleResetSeconds ≤ 0) (h : Halves setting history s)
    (hcur : history = [] ∧ s = {} ∨ Current setting s s.updatedAt)
    (hspa : Spaced setting s reports) :
    Halves setting (history ++ reports) (s.after setting reports) ∧ (reports = [] ∨
        Current setting (s.after setting reports) (s.after setting reports).updatedAt) := by
  induction reports generalizing history s with
  | nil => exact ⟨(append_nil history).symm ▸ h, .inl rfl⟩
  | cons r reports ih =>
    obtain ⟨now, outcome⟩ := r
    obtain ⟨hpos, hti, hgap, hre⟩ := hspa
    have hlap : s.lapse setting now = s := if_neg (by omega)
    have hrep : s.report setting now outcome = s.count setting now outcome := by
      rw [ScoreState.report, hlap]
    obtain ⟨hrot, hnow⟩ := halves_rotate h hcur hpos hti hgap
    obtain ⟨hcnt, hnow'⟩ := halves_count hrot hnow outcome
    rw [← hrep] at hcnt hnow'
    obtain ⟨hall, hla⟩ := ih hcnt (.inr hnow') hre
    rw [append_assoc] at hall
    refine ⟨hall, .inr ?_⟩
    rcases hla with rfl | hla
    · exact hnow'
    · exact hla

theorem localRun_eq (entry : Option ScoreEntry) (hne : reports ≠ []) :
    (localRun setting entry reports).1 = some ⟨(entry.getD {}).state.after setting reports,
        some ((entry.getD {}).state.after setting reports).snapshot⟩ := by
  induction reports generalizing entry with
  | nil => exact absurd rfl hne
  | cons r reports ih =>
    cases reports with
    | nil => rfl
    | cons r' reports => exact ih _ (by simp)

/-- **The success window forgets** what is older than it, if every half that is kept was a half
width long. -/
theorem window_forgets (setting : ChannelDynamicScoreSetting)
    (hidle : setting.idleResetSeconds ≤ 0) {reports : List ScoreReport} {t : Int}
    {outcome : ScoreOutcome} (hspaced : Spaced setting {} (reports ++ [(t, outcome)])) :
    ∃ entry snap, (localRun setting none (reports ++ [(t, outcome)])).1 = some entry ∧
      entry.published = some snap ∧ CountsRecent setting (reports ++ [(t, outcome)]) t snap := by
  refine ⟨_, _, localRun_eq none (by simp), rfl, ?_⟩
  obtain ⟨⟨old, prev, cur, hall, hpv, hcur⟩, hla⟩ := halves_run hidle
    (⟨[], [], [], rfl, counts_nil _, counts_nil _⟩ : Halves setting [] {}) (.inl ⟨rfl, rfl⟩) hspaced
  have ht : (ScoreState.after setting {} (reports ++ [(t, outcome)])).updatedAt = t := by
    rw [ScoreState.after, foldl_append]
    rfl
  have hwid := setting.halfWidth_pos
  obtain ⟨-, -, hlt⟩ := hla.resolve_left (by simp)
  refine ⟨prev ++ cur, hall ▸ sublist_append_right _ _, ?_, ?_, ?_⟩
  · rw [length_append, Nat.cast_add, ← hpv.1, ← hcur.1]
    exact add_comm _ _
  · rw [countP_append, Nat.cast_add, ← hpv.2.1, ← hcur.2.1]
    exact add_comm _ _
  · intro r hr
    rcases mem_append.mp hr with hr | hr
    · have hle := hpv.2.2 r hr
      omega
    · have hle := hcur.2.2 r hr
      omega

/-- A window of 20 seconds, and no idle reset. -/
def windowTwenty : ChannelDynamicScoreSetting := ⟨0, 0, 0, 0, 20, 0⟩

/-- A half of 10 seconds is kept, and a half after a gap of 40 seconds is not. -/
theorem window_forgets_twenty :
    ∃ entry snap, (localRun windowTwenty none ([(1, .success), (11, .fault)] ++
        [(51, .success)])).1 = some entry ∧ entry.published = some snap ∧
      CountsRecent windowTwenty ([(1, .success), (11, .fault)] ++ [(51, .success)]) 51 snap :=
  window_forgets windowTwenty le_rfl
    (by refine ⟨?_, ?_, ?_, ?_, ?_, ?_, ?_, ?_, ?_, trivial⟩ <;> decide +kernel)

/-- **A report is counted for more than the window.**  The half of the first report is 19 seconds
long, and is still counted 28 seconds after it. -/
theorem old_report_counted :
    let reports : List ScoreReport := [(1, .success), (20, .success), (29, .success)]
    reports.Pairwise (fun r r' => r.1 ≤ r'.1) ∧ windowTwenty.halfWidth = 10 ∧
      ((localRun windowTwenty none reports).1.bind (·.published)) = some ⟨0, 3, 3⟩ ∧
      ¬ CountsRecent windowTwenty reports 29 ⟨0, 3, 3⟩ := by
  refine ⟨by decide, rfl, by decide +kernel, ?_⟩
  rintro ⟨counted, hsub, htot, -, htim⟩
  have hall := hsub.eq_of_length (Nat.cast_injective (R := Int) htot.symm)
  have hold := htim (1, .success) (hall ▸ mem_cons_self)
  exact absurd hold (by decide)

end Window
end NewApi
