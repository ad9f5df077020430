import Mathlib.Algebra.Group.Prod
import NewApi.RealtimeReserve
import NewApi.Steps

/-! # What a realtime session is billed for

`OpenaiRealtimeHandler` runs a reader for the client and a reader for the
upstream.  Both count tokens into `localUsage`; a `response.done` that carries
usage is charged by what it reports and wipes the local count, one without usage
is charged by the local count.  Whatever is charged is added to `sumUsage` before
the reservation that may refuse it, and when both readers have stopped the handler
adds what is left in the accumulators.

The readers interleave at the lock of `localUsage`.  In particular the client may
count tokens while a report is being charged, before the wipe that follows
(`Event.cleared`).

A `Tally` reads off the same events what the session should be billed for: the
usage of every report, and the local counts of the stretches between two
`response.done` that no report covers.  `billed_once_iff` says when the two agree.
Three things make them differ: a report's usage and the local counts it covers
are still in their accumulators when its charge is refused, so that they are
billed again (`refused_report_billed_twice`); tokens counted while a report is
being charged are wiped with the stretch it covers; and five fields of a report
are never added up. -/
namespace NewApi
open Option RealtimeUsage Steps

/-! ## Usage adds up field by field -/

namespace RealtimeUsage

/-- The thirteen fields. -/
def fields (u : RealtimeUsage) : ℤ × ℤ × ℤ × ℤ × ℤ × ℤ × ℤ × ℤ × ℤ × ℤ × ℤ × ℤ × ℤ :=
  (u.totalTokens, u.inputTokens, u.outputTokens, u.inputTokenDetails.cachedTokens,
    u.inputTokenDetails.cachedCreationTokens, u.inputTokenDetails.cacheWriteTokens,
    u.inputTokenDetails.textTokens, u.inputTokenDetails.audioTokens,
    u.inputTokenDetails.imageTokens, u.outputTokenDetails.textTokens,
    u.outputTokenDetails.audioTokens, u.outputTokenDetails.imageTokens,
    u.outputTokenDetails.reasoningTokens)

theorem fields_injective : Function.Injective fields := by
  rintro ⟨a, b, c, ⟨d, e, f, g, h, i⟩, j, k, l, m⟩
    ⟨a', b', c', ⟨d', e', f', g', h', i'⟩, j', k', l', m'⟩ heq
  obtain ⟨rfl, rfl, rfl, rfl, rfl, rfl, rfl, rfl, rfl, rfl, rfl, rfl, rfl⟩ := heq
  rfl

/-- Combine two usages field by field. -/
def map₂ (op : ℤ → ℤ → ℤ) (u v : RealtimeUsage) : RealtimeUsage where
  totalTokens := op u.totalTokens v.totalTokens
  inputTokens := op u.inputTokens v.inputTokens
  outputTokens := op u.outputTokens v.outputTokens
  inputTokenDetails :=
    { cachedTokens := op u.inputTokenDetails.cachedTokens v.inputTokenDetails.cachedTokens
      cachedCreationTokens :=
        op u.inputTokenDetails.cachedCreationTokens v.inputTokenDetails.cachedCreationTokens
      cacheWriteTokens :=
        op u.inputTokenDetails.cacheWriteTokens v.inputTokenDetails.cacheWriteTokens
      textTokens := op u.inputTokenDetails.textTokens v.inputTokenDetails.textTokens
      audioTokens := op u.inputTokenDetails.audioTokens v.inputTokenDetails.audioTokens
      imageTokens := op u.inputTokenDetails.imageTokens v.inputTokenDetails.imageTokens }
  outputTokenDetails :=
    { textTokens := op u.outputTokenDetails.textTokens v.outputTokenDetails.textTokens
      audioTokens := op u.outputTokenDetails.audioTokens v.outputTokenDetails.audioTokens
      imageTokens := op u.outputTokenDetails.imageTokens v.outputTokenDetails.imageTokens
      reasoningTokens :=
        op u.outputTokenDetails.reasoningTokens v.outputTokenDetails.reasoningTokens }

/-- `&dto.RealtimeUsage{}`. -/
instance : Zero RealtimeUsage := ⟨⟨0, 0, 0, ⟨0, 0, 0, 0, 0, 0⟩, ⟨0, 0, 0, 0⟩⟩⟩

instance : Add RealtimeUsage := ⟨map₂ (· + ·)⟩

instance : Sub RealtimeUsage := ⟨map₂ (· - ·)⟩

instance : Neg RealtimeUsage := ⟨fun u => map₂ (fun x _ => -x) u u⟩

instance : SMul ℕ RealtimeUsage := ⟨fun n u => map₂ (fun x _ => n • x) u u⟩

instance : SMul ℤ RealtimeUsage := ⟨fun n u => map₂ (fun x _ => n * x) u u⟩

instance : AddCommGroup RealtimeUsage :=
  Function.Injective.addCommGroup fields fields_injective rfl (fun _ _ => rfl) (fun _ => rfl)
    (fun _ _ => rfl) (fun _ _ => rfl) (fun _ _ => rfl)

/-- The accumulation of the handler and of `preConsumeUsage`: eight of the fields
of `v` are added to `u`. -/
def accumulate (u v : RealtimeUsage) : RealtimeUsage :=
  { u with
    totalTokens := u.totalTokens + v.totalTokens
    inputTokens := u.inputTokens + v.inputTokens
    outputTokens := u.outputTokens + v.outputTokens
    inputTokenDetails :=
      { u.inputTokenDetails with
        cachedTokens := u.inputTokenDetails.cachedTokens + v.inputTokenDetails.cachedTokens
        textTokens := u.inputTokenDetails.textTokens + v.inputTokenDetails.textTokens
        audioTokens := u.inputTokenDetails.audioTokens + v.inputTokenDetails.audioTokens }
    outputTokenDetails :=
      { u.outputTokenDetails with
        textTokens := u.outputTokenDetails.textTokens + v.outputTokenDetails.textTokens
        audioTokens := u.outputTokenDetails.audioTokens + v.outputTokenDetails.audioTokens } }

/-- The count of a client event, or of a `response.done` without usage. -/
def input (text audio : Nat) : RealtimeUsage :=
  ⟨text + audio, text + audio, 0, ⟨0, 0, 0, text, audio, 0⟩, ⟨0, 0, 0, 0⟩⟩

/-- The count of any other upstream event. -/
def output (text audio : Nat) : RealtimeUsage :=
  ⟨text + audio, 0, text + audio, ⟨0, 0, 0, 0, 0, 0⟩, ⟨text, audio, 0, 0⟩⟩

/-- The fields that are added up. -/
def tracked (u : RealtimeUsage) : RealtimeUsage where
  totalTokens := u.totalTokens
  inputTokens := u.inputTokens
  outputTokens := u.outputTokens
  inputTokenDetails := ⟨u.inputTokenDetails.cachedTokens, 0, 0, u.inputTokenDetails.textTokens,
    u.inputTokenDetails.audioTokens, 0⟩
  outputTokenDetails := ⟨u.outputTokenDetails.textTokens, u.outputTokenDetails.audioTokens, 0, 0⟩

theorem fields_add (u v : RealtimeUsage) : (u + v).fields = u.fields + v.fields := rfl

theorem accumulate_eq (u v : RealtimeUsage) : u.accumulate v = u + v.tracked := by
  apply fields_injective
  rw [fields_add]
  simp [fields, accumulate, tracked]

theorem tracked_add (u v : RealtimeUsage) : (u + v).tracked = u.tracked + v.tracked := by
  apply fields_injective
  rfl

theorem tracked_sub (u v : RealtimeUsage) : (u - v).tracked = u.tracked - v.tracked := by
  rw [eq_sub_iff_add_eq, ← tracked_add, sub_add_cancel]

theorem tracked_tracked (u : RealtimeUsage) : u.tracked.tracked = u.tracked := rfl

theorem tracked_input (text audio : Nat) : (input text audio).tracked = input text audio := rfl

theorem tracked_output (text audio : Nat) : (output text audio).tracked = output text audio := rfl

theorem input_add (text audio text' audio' : Nat) :
    input (text + text') (audio + audio') = input text audio + input text' audio' := by
  apply fields_injective
  rw [fields_add]
  simp only [fields, input, Prod.mk_add_mk, Nat.cast_add, add_zero]
  rw [add_add_add_comm]

theorem output_add (text audio text' audio' : Nat) :
    output (text + text') (audio + audio') = output text audio + output text' audio' := by
  apply fields_injective
  rw [fields_add]
  simp only [fields, output, Prod.mk_add_mk, Nat.cast_add, add_zero]
  rw [add_add_add_comm]

/-- A local count: a sum of counts of events. -/
def Counted (u : RealtimeUsage) : Prop :=
  ∃ it ia ot oa : Nat, u = input it ia + output ot oa

theorem counted_zero : Counted 0 := ⟨0, 0, 0, 0, rfl⟩

variable {u : RealtimeUsage}

theorem Counted.add_input (h : u.Counted) (text audio : Nat) : (u + input text audio).Counted := by
  obtain ⟨it, ia, ot, oa, rfl⟩ := h
  exact ⟨it + text, ia + audio, ot, oa, by rw [input_add]; abel⟩

theorem Counted.add_output (h : u.Counted) (text audio : Nat) :
    (u + output text audio).Counted := by
  obtain ⟨it, ia, ot, oa, rfl⟩ := h
  exact ⟨it, ia, ot + text, oa + audio, by rw [output_add]; abel⟩

theorem Counted.tracked_eq (h : u.Counted) : u.tracked = u := by
  obtain ⟨it, ia, ot, oa, rfl⟩ := h
  rw [tracked_add, tracked_input, tracked_output]

/-- A local count without tokens is empty. -/
theorem Counted.eq_zero (h : u.Counted) (htot : u.totalTokens = 0) : u = 0 := by
  obtain ⟨it, ia, ot, oa, rfl⟩ := h
  have hsum : ((it : ℤ) + ia) + (ot + oa) = 0 := htot
  obtain ⟨rfl, rfl, rfl, rfl⟩ : it = 0 ∧ ia = 0 ∧ ot = 0 ∧ oa = 0 := by omega
  rfl

end RealtimeUsage

/-! ## The handler -/

/-- A message that one of the readers has processed, up to the next release of the
lock.  `charged` says whether `PreWssConsumeQuota` accepted the charge. -/
inductive RealtimeEvent where
  /-- From the client. -/
  | client (text audio : Nat)
  /-- `response.done` with usage, up to its charge. -/
  | report (usage : RealtimeUsage) (charged : Bool)
  /-- The end of an accepted report: the accumulators are replaced. -/
  | cleared
  /-- `response.done` without usage. -/
  | responseDone (text audio : Nat) (charged : Bool)
  /-- `session.updated`, `session.created`. -/
  | session
  /-- Any other upstream message. -/
  | upstream (text audio : Nat)
  /-- The upstream reader stops: the connection closed, a message could not be
  parsed, counted or passed on, or a `response.done` had no response. -/
  | stop
  deriving DecidableEq

/-- What the upstream reader is doing. -/
inductive UpstreamReader where
  | reading
  /-- Between an accepted charge and the replacement of the accumulators. -/
  | clearing
  | stopped
  deriving DecidableEq

/-- The accumulators of `OpenaiRealtimeHandler`. -/
structure RealtimeHandler where
  usage : RealtimeUsage
  localUsage : RealtimeUsage
  sumUsage : RealtimeUsage
  upstream : UpstreamReader
  deriving DecidableEq

namespace RealtimeHandler

/-- The accumulators when the readers start. -/
def start : RealtimeHandler := ⟨0, 0, 0, .reading⟩

/-- One event; `none` when the reader it belongs to is not there to process it. -/
def step (h : RealtimeHandler) : RealtimeEvent → Option RealtimeHandler
  | .client text audio => some { h with localUsage := h.localUsage + .input text audio }
  | .report report charged =>
      if h.upstream = .reading then
        let usage := h.usage.accumulate report
        -- `preConsumeUsage` adds to the total before the charge can be refused
        some { h with
          usage := usage
          sumUsage := h.sumUsage.accumulate usage
          upstream := if charged then .clearing else .stopped }
      else none
  | .cleared =>
      if h.upstream = .clearing then
        some { h with usage := 0, localUsage := 0, upstream := .reading }
      else none
  | .responseDone text audio charged =>
      if h.upstream = .reading then
        let billedUsage := h.localUsage + .input text audio
        some { h with
          localUsage := 0
          sumUsage := h.sumUsage.accumulate billedUsage
          upstream := if charged then .reading else .stopped }
      else none
  | .session => if h.upstream = .reading then some h else none
  | .upstream text audio =>
      if h.upstream = .reading then
        some { h with localUsage := h.localUsage + .output text audio }
      else none
  | .stop => if h.upstream = .reading then some { h with upstream := .stopped } else none

/-- `preConsumeUsage` of what is left in an accumulator, if it counts any tokens. -/
def drainInto (sumUsage usage : RealtimeUsage) : RealtimeUsage :=
  if usage.totalTokens ≠ 0 then sumUsage.accumulate usage else sumUsage

/-- What the handler returns once both readers have stopped. -/
def drain (h : RealtimeHandler) : RealtimeUsage :=
  drainInto (drainInto h.sumUsage h.usage) h.localUsage

/-- The readers processed `e`. -/
def Step (h : RealtimeHandler) (e : RealtimeEvent) (h' : RealtimeHandler) : Prop :=
  h.step e = some h'

end RealtimeHandler

/-! ## What the session should be billed for -/

/-- The bill of a session, read off its events.  A stretch is what lies between two
`response.done`. -/
structure Tally where
  /-- The usage of all reports. -/
  reported : RealtimeUsage
  /-- The local counts of the closed stretches that no report covers. -/
  uncovered : RealtimeUsage
  /-- The local counts of the current stretch. -/
  current : RealtimeUsage
  /-- The counts of the current stretch that were made while a report was being
  charged. -/
  inFlight : RealtimeUsage
  /-- The same, of the closed stretches that no report covers. -/
  wiped : RealtimeUsage
  /-- What a refused report leaves behind: its usage, unless it counts no tokens,
  and the local counts it covers. -/
  refused : RealtimeUsage
  /-- A report is being charged. -/
  charging : Bool

namespace Tally

/-- Nothing has happened. -/
def start : Tally := ⟨0, 0, 0, 0, 0, 0, false⟩

/-- Enter one event. -/
def enter (t : Tally) : RealtimeEvent → Tally
  | .client text audio =>
      { t with
        current := t.current + .input text audio
        inFlight := if t.charging then t.inFlight + .input text audio else t.inFlight }
  | .report report true =>
      { t with reported := t.reported + report, current := 0, inFlight := 0, charging := true }
  | .report report false =>
      { t with
        reported := t.reported + report
        refused := (if report.totalTokens ≠ 0 then report.tracked else 0) + (t.current - t.inFlight)
        current := 0
        inFlight := 0 }
  | .cleared => { t with charging := false }
  | .responseDone text audio _ =>
      { t with
        uncovered := t.uncovered + (t.current + .input text audio)
        wiped := t.wiped + t.inFlight
        current := 0
        inFlight := 0 }
  | .session => t
  | .upstream text audio => { t with current := t.current + .output text audio }
  | .stop => t

/-- The tally of a sequence of events. -/
def ofEvents (es : List RealtimeEvent) : Tally := es.foldl enter start

/-- **What the session should be billed for**: every report once, and once the
local counts of the stretches that no report covers. -/
def bill (t : Tally) : RealtimeUsage := t.reported + t.uncovered + t.current

end Tally
/-! ## Comparing the two -/

namespace RealtimeHandler
variable {h h' : RealtimeHandler} {t : Tally} {e : RealtimeEvent}

/-- What is left to drain from an accumulator. -/
def remainder (usage : RealtimeUsage) : RealtimeUsage :=
  if usage.totalTokens ≠ 0 then usage.tracked else 0

theorem drainInto_eq (sumUsage usage : RealtimeUsage) :
    drainInto sumUsage usage = sumUsage + remainder usage := by
  unfold drainInto remainder
  split
  · exact accumulate_eq _ _
  · rw [add_zero]

theorem remainder_zero : remainder 0 = 0 := rfl

theorem tracked_remainder (u : RealtimeUsage) : (remainder u).tracked = remainder u := by
  unfold remainder
  split <;> rfl

theorem remainder_counted {u : RealtimeUsage} (hu : u.Counted) : remainder u = u := by
  unfold remainder
  split
  · exact hu.tracked_eq
  rename_i hz
  exact (hu.eq_zero (not_not.mp hz)).symm

/-- The handler's accumulators hold what the tally says, as far as they are right. -/
structure Agrees (h : RealtimeHandler) (t : Tally) : Prop where
  total : h.sumUsage = t.reported.tracked + t.uncovered - t.wiped
  counted : h.localUsage.Counted
  tracked : t.inFlight.tracked = t.inFlight ∧ t.wiped.tracked = t.wiped ∧
    t.refused.tracked = t.refused ∧ t.current.tracked = t.current
  state : match h.upstream with
    | .reading => h.usage = 0 ∧ h.localUsage = t.current - t.inFlight ∧ t.refused = 0 ∧
        t.charging = false
    | .clearing => t.current = t.inFlight ∧ t.refused = 0 ∧ t.charging = true
    | .stopped => remainder h.usage + h.localUsage = t.refused + (t.current - t.inFlight) ∧
        t.charging = false

open Tally (bill enter ofEvents)

theorem agrees_start : Agrees start Tally.start :=
  ⟨rfl, counted_zero, ⟨rfl, rfl, rfl, rfl⟩, rfl, rfl, rfl, rfl⟩

section
variable (ha : Agrees h t)
include ha

theorem agrees_client (text audio : Nat) :
    Agrees { h with localUsage := h.localUsage + .input text audio }
      (t.enter (.client text audio)) := by
  obtain ⟨htot, hcnt, ⟨hfl, hwi, hre, hcu⟩, hstt⟩ := ha
  refine ⟨htot, hcnt.add_input text audio, ⟨?_, hwi, hre, ?_⟩, ?_⟩
  · simp only [enter]
    split
    · rw [tracked_add, hfl, tracked_input]
    · exact hfl
  · rw [enter, tracked_add, hcu, tracked_input]
  · -- only between a report and its clearing is client audio counted as in flight
    cases hup : h.upstream with
    | reading =>
      rw [hup] at hstt
      obtain ⟨husg, hloc, href, hcha⟩ := hstt
      refine ⟨husg, ?_, href, hcha⟩
      simp only [enter, hcha, hloc, Bool.false_eq_true, if_false]
      abel
    | clearing =>
      rw [hup] at hstt
      obtain ⟨hcur, href, hcha⟩ := hstt
      refine ⟨?_, href, hcha⟩
      simp only [enter, hcha, hcur, if_true]
    | stopped =>
      rw [hup] at hstt
      obtain ⟨hlf, hcha⟩ := hstt
      refine ⟨?_, hcha⟩
      simp only [enter, hcha, Bool.false_eq_true, if_false]
      rw [← add_assoc, hlf]
      abel

section
variable (hr : h.upstream = .reading)
include hr

/-- What the invariant says while the upstream reader waits for a message. -/
theorem Agrees.reading :
    h.usage = 0 ∧ h.localUsage = t.current - t.inFlight ∧ t.refused = 0 ∧ t.charging = false := by
  have hstt := ha.state
  rw [hr] at hstt
  exact hstt

theorem agrees_report (report : RealtimeUsage) (charged : Bool) : Agrees { h with
        usage := h.usage.accumulate report
        sumUsage := h.sumUsage.accumulate (h.usage.accumulate report)
        upstream := if charged then .clearing else .stopped }
      (t.enter (.report report charged)) := by
  obtain ⟨husg, hloc, href, hcha⟩ := ha.reading hr
  obtain ⟨htot, hcnt, ⟨hfl, hwi, hre, hcu⟩, -⟩ := ha
  have hacc : h.usage.accumulate report = report.tracked := by
    rw [accumulate_eq, husg, zero_add]
  have hsum : h.sumUsage.accumulate (h.usage.accumulate report) =
      (t.reported + report).tracked + t.uncovered - t.wiped := by
    rw [hacc, accumulate_eq, tracked_tracked, htot, tracked_add]
    abel
  cases charged with
  | true => exact ⟨hsum, hcnt, ⟨rfl, hwi, hre, rfl⟩, rfl, href, rfl⟩
  | false =>
    -- the report and the counts it covers stay in the accumulators
    have hlf : remainder (h.usage.accumulate report) = remainder report := by
      rw [hacc]
      rfl
    refine ⟨hsum, hcnt, ⟨rfl, hwi, ?_, rfl⟩, ?_, hcha⟩
    · show tracked (remainder report + (t.current - t.inFlight)) =
        remainder report + (t.current - t.inFlight)
      rw [tracked_add, tracked_sub, hcu, hfl, tracked_remainder]
    · show remainder (h.usage.accumulate report) + h.localUsage =
        remainder report + (t.current - t.inFlight) + (0 - 0)
      rw [hlf, hloc, sub_zero, add_zero]

theorem agrees_responseDone (text audio : Nat) (charged : Bool) : Agrees { h with
        localUsage := 0
        sumUsage := h.sumUsage.accumulate (h.localUsage + .input text audio)
        upstream := if charged then .reading else .stopped }
      (t.enter (.responseDone text audio charged)) := by
  obtain ⟨husg, hloc, href, hcha⟩ := ha.reading hr
  obtain ⟨htot, hcnt, ⟨hfl, hwi, hre, hcu⟩, -⟩ := ha
  refine ⟨?_, counted_zero, ⟨rfl, ?_, hre, rfl⟩, ?_⟩
  · show h.sumUsage.accumulate (h.localUsage + .input text audio) =
      t.reported.tracked + (t.uncovered + (t.current + .input text audio)) - (t.wiped + t.inFlight)
    rw [accumulate_eq, (hcnt.add_input text audio).tracked_eq, htot, hloc]
    abel
  · show (t.wiped + t.inFlight).tracked = t.wiped + t.inFlight
    rw [tracked_add, hwi, hfl]
  · cases charged with
    | true => exact ⟨husg, by simp [enter], href, hcha⟩
    | false =>
      refine ⟨?_, hcha⟩
      show remainder h.usage + 0 = t.refused + (0 - 0)
      rw [husg, remainder_zero, href, sub_zero]

theorem agrees_upstream (text audio : Nat) :
    Agrees { h with localUsage := h.localUsage + .output text audio }
      (t.enter (.upstream text audio)) := by
  obtain ⟨husg, hloc, href, hcha⟩ := ha.reading hr
  obtain ⟨htot, hcnt, ⟨hfl, hwi, hre, hcu⟩, -⟩ := ha
  refine ⟨htot, hcnt.add_output text audio, ⟨hfl, hwi, hre, ?_⟩, ?_⟩
  · rw [enter, tracked_add, hcu, tracked_output]
  show match h.upstream with | .reading => _ | .clearing => _ | .stopped => _
  rw [hr]
  refine ⟨husg, ?_, href, hcha⟩
  simp only [enter, hloc]
  abel

end

/-- One event keeps the two in step. -/
theorem agrees_step (hs : h.Step e h') : Agrees h' (t.enter e) := by
  -- each event but `client` needs the upstream reader in one state, which is its guard
  cases e with
  | client text audio =>
    cases hs
    exact agrees_client ha text audio
  | report report charged =>
    obtain ⟨hr, heq⟩ := ite_none_right_eq_some.mp hs
    cases heq
    exact agrees_report ha hr report charged
  | cleared =>
    obtain ⟨hc, heq⟩ := ite_none_right_eq_some.mp hs
    cases heq
    obtain ⟨htot, -, htra, hstt⟩ := ha
    rw [hc] at hstt
    obtain ⟨hcur, href, -⟩ := hstt
    exact ⟨htot, counted_zero, htra, rfl, by simp [enter, hcur], href, rfl⟩
  | responseDone text audio charged =>
    obtain ⟨hr, heq⟩ := ite_none_right_eq_some.mp hs
    cases heq
    exact agrees_responseDone ha hr text audio charged
  | session =>
    obtain ⟨-, heq⟩ := ite_none_right_eq_some.mp hs
    cases heq
    exact ha
  | upstream text audio =>
    obtain ⟨hr, heq⟩ := ite_none_right_eq_some.mp hs
    cases heq
    exact agrees_upstream ha hr text audio
  | stop =>
    obtain ⟨hr, heq⟩ := ite_none_right_eq_some.mp hs
    cases heq
    obtain ⟨husg, hloc, href, hcha⟩ := ha.reading hr
    refine ⟨ha.total, ha.counted, ha.tracked, ?_, hcha⟩
    show remainder h.usage + h.localUsage = t.refused + (t.current - t.inFlight)
    rw [husg, hloc, remainder_zero, href]

end

variable {es : List RealtimeEvent}

theorem agrees_run (hrun : Run Step h es h') :
    ∀ t, Agrees h t → Agrees h' (es.foldl enter t) := by
  induction hrun with
  | nil => exact fun t ha => ha
  | cons hs _ ih => exact fun t ha => ih _ (agrees_step ha hs)

/-- What the handler returns, in terms of the tally. -/
theorem drain_eq (ha : Agrees h t) (hdn : h.upstream ≠ .clearing) :
    h.drain = t.reported.tracked + t.uncovered - t.wiped +
      (t.refused + (t.current - t.inFlight)) := by
  have hlf : remainder h.usage + h.localUsage = t.refused + (t.current - t.inFlight) := by
    have hstt := ha.state
    cases hup : h.upstream with
    | reading =>
      obtain ⟨husg, hloc, href, -⟩ := ha.reading hup
      rw [husg, hloc, remainder_zero, href]
    | clearing => exact absurd hup hdn
    | stopped =>
      rw [hup] at hstt
      exact hstt.1
  rw [drain, drainInto_eq, drainInto_eq, remainder_counted ha.counted, add_assoc, hlf, ha.total]

/-- **Every report is billed once** exactly when no report carries tokens in the
fields that are not added up, and what a refused report leaves behind to be billed
again is what has been wiped while reports were charged. -/
theorem billed_once_iff {es : List RealtimeEvent} (hrun : Run Step start es h)
    (hdone : h.upstream ≠ .clearing) :
    h.drain = (ofEvents es).bill ↔
      (ofEvents es).reported = (ofEvents es).reported.tracked ∧
      (ofEvents es).refused = (ofEvents es).wiped + (ofEvents es).inFlight := by
  have ha : Agrees h (ofEvents es) := agrees_run hrun _ agrees_start
  obtain ⟨hfl, hwi, hre, -⟩ := ha.tracked
  rw [drain_eq ha hdone, bill]
  generalize ofEvents es = t at *
  constructor
  · intro heq
    -- the two differences are in different fields
    have hdi : t.reported - t.reported.tracked = t.refused - (t.wiped + t.inFlight) := by
      calc t.reported - t.reported.tracked
          = t.reported + t.uncovered + t.current -
              (t.reported.tracked + t.uncovered + t.current) := by abel
        _ = t.reported.tracked + t.uncovered - t.wiped + (t.refused + (t.current - t.inFlight)) -
              (t.reported.tracked + t.uncovered + t.current) := by rw [heq]
        _ = t.refused - (t.wiped + t.inFlight) := by abel
    have hz : t.refused - (t.wiped + t.inFlight) = 0 := by
      rw [← hre, ← hwi, ← hfl, ← tracked_add, ← tracked_sub, ← hdi,
        tracked_sub, tracked_tracked, sub_self]
    exact ⟨sub_eq_zero.mp (hdi.trans hz), sub_eq_zero.mp hz⟩
  · rintro ⟨hrep, href⟩
    rw [href, ← hrep]
    abel

/-! ## A refused report -/

/-- The report of a response of 20 tokens to 10 tokens. -/
def sampleReport : RealtimeUsage := ⟨30, 10, 20, ⟨0, 0, 0, 10, 0, 0⟩, ⟨20, 0, 0, 0⟩⟩

/-- A report that is charged, and a stretch after it that none covers. -/
def sampleEvents : List RealtimeEvent :=
  [.client 10 0, .report sampleReport true, .cleared, .client 4 0, .upstream 5 0,
    .responseDone 0 0 true, .stop]

/-- The handler after a sequence of events it can process. -/
def runEvents (h : RealtimeHandler) : List RealtimeEvent → Option RealtimeHandler
  | [] => some h
  | e :: es => (h.step e).bind fun h => h.runEvents es

theorem run_of_runEvents : ∀ {h}, runEvents h es = some h' → Run Step h es h' := by
  induction es with
  | nil =>
    intro h hrun
    cases hrun
    exact .nil _
  | cons e es ih =>
    intro h hrun
    obtain ⟨h₁, hst, hre⟩ := bind_eq_some_iff.mp hrun
    exact .cons hst (ih hre)

/-- The sample session is billed 39 tokens: 30 that were reported, and 9 counted. -/
theorem billed_once_sampleEvents :
    ∃ h, Run Step start sampleEvents h ∧ h.drain = (ofEvents sampleEvents).bill ∧
      h.drain.totalTokens = 39 := by
  have hrun : Run Step start sampleEvents
      ⟨0, 0, sampleReport + (.input 4 0 + .output 5 0), .stopped⟩ :=
    run_of_runEvents (by decide)
  have hdn : UpstreamReader.stopped ≠ .clearing := by decide
  exact ⟨_, hrun, (billed_once_iff hrun hdn).mpr (by decide), by decide⟩

/-- **A refused report is billed twice**: the charge of the report is refused, the
reader stops, and the handler adds the report again, and with it the 10 tokens
that it covers: 70 tokens instead of 30. -/
theorem refused_report_billed_twice :
    ∃ h, Run Step start [.client 10 0, .report sampleReport false] h ∧
      h.drain ≠ (ofEvents [.client 10 0, .report sampleReport false]).bill ∧
      h.drain.totalTokens = 70 ∧
      (ofEvents [.client 10 0, .report sampleReport false]).bill = sampleReport := by
  refine ⟨⟨sampleReport, .input 10 0, sampleReport, .stopped⟩, run_of_runEvents (by decide),
    ?_, ?_, ?_⟩
  all_goals decide

end RealtimeHandler
end NewApi
