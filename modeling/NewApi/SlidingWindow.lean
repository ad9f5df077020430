import NewApi.RateLimitWindows

/-! # The limit on successes

A limit that counts successful requests checks when a request arrives and records when it has
succeeded.  In memory `Check` looks at the queue and `Request` records; with Redis the script
`sliding_window.lua` does both on a list.  What the two are for is `countedVerdicts`: a request is
let in while fewer than the limit have been recorded in the window.

Redis counts so, for one limit: the script records every success and keeps the newest ones.
`Request` does not record in a full window, so a burst of requests that were all let in leaves the
queue without its last successes, and the memory mode lets the next requests in too early
(`burst_is_forgotten`).  As long as successes are recorded while there is room, the two agree
(`success_verdicts_agree`).

Neither keeps one key for several limits: both look at the oldest entry of what the most generous
caller left (`mixed_limits_let_in`). -/
namespace NewApi
open List Windows

/-! ## The script -/

/-- The list of a key in Redis, newest entry first, and when the key expires.  An entry that is not
a number is `none`. -/
structure SlidingWindow where
  entries : List (Option Int)
  expiresAt : Int
deriving DecidableEq, Repr

namespace SlidingWindow

inductive Mode where
  | allow
  | check
  | record
deriving DecidableEq, Repr

/-- The list that a key has at `now`. -/
def entriesAt (now : Int) : Option SlidingWindow → List (Option Int)
  | none => []
  | some w => if now < w.expiresAt then w.entries else []

/-- There are `maxNum` entries, and the oldest is in the window.  One that is not a number is taken
to be out of it. -/
def full (maxNum : Nat) (window now : Int) (entries : List (Option Int)) : Bool :=
  maxNum ≤ entries.length && entries.getLast?.join.any fun oldest => now - oldest < window

/-- `sliding_window.lua`. -/
def run (maxNum : Nat) (window now ttl : Int) (mode : Mode) (key : Option SlidingWindow) :
    Bool × Option SlidingWindow :=
  let entries := entriesAt now key
  if maxNum = 0 then (false, key)
  else if mode ≠ .record ∧ full maxNum window now entries = true then
    (false, some ⟨entries, now + ttl⟩)
  else if mode = .check then (true, key)
  else
    let pushed := some now :: entries
    (true, some ⟨if maxNum < pushed.length then pushed.take maxNum else pushed, now + ttl⟩)

def checkSlidingWindow (maxRequestNum : Nat) (window ttl now : Int) (key : Option SlidingWindow) :
    Bool × Option SlidingWindow :=
  run maxRequestNum window now ttl .check key

def recordSlidingWindow (maxRequestNum : Nat) (ttl now : Int) (key : Option SlidingWindow) :
    Option SlidingWindow :=
  (run maxRequestNum 0 now ttl .record key).2

/-! ## What the list is good for -/

variable {limit : Nat} {window clock now ttl : Int} {times kept : List Int}
  {key : Option SlidingWindow}

/-- **The list has the recorded times that still matter**, and stays until they are over. -/
def Holds (window : Int) (limit : Nat) (clock : Int) (times : List Int)
    (key : Option SlidingWindow) : Prop :=
  ∃ kept : List Int, entriesAt clock key = kept.reverse.map some ∧
    Windows.Suffices window limit clock times kept ∧
    ∀ w, key = some w → ∀ t ∈ kept, t + window ≤ w.expiresAt

theorem holds_none (window : Int) (limit : Nat) (clock : Int) : Holds window limit clock [] none :=
  ⟨[], rfl, .nil _ _ _, by simp⟩

/-- Time goes on, and the key may expire. -/
theorem Holds.later (h : Holds window limit clock times key) (hlim : 1 ≤ limit)
    (hle : clock ≤ now) : Holds window limit now times key := by
  obtain ⟨kept, hent, hsuf, hexp⟩ := h
  rcases key with _ | w
  · exact ⟨kept, hent, hsuf.later hle, hexp⟩
  by_cases hlv : now < w.expiresAt
  · refine ⟨kept, ?_, hsuf.later hle, hexp⟩
    rw [← hent]
    simp only [entriesAt, if_pos hlv, if_pos (Int.lt_of_le_of_lt hle hlv)]
  · refine ⟨[], ?_, hsuf.forget hle hlim fun t ht => ?_, by simp⟩
    · simp only [entriesAt, if_neg hlv, reverse_nil, map_nil]
    have := hexp w rfl t ht
    omega

theorem full_iff (window now : Int) (kept : List Int) (hlim : 1 ≤ limit) :
    full limit window now (kept.reverse.map some) = true ↔
      ¬ (kept.length < limit ∨ ∃ first ∈ kept.head?, first + window ≤ now) := by
  have hla : (kept.reverse.map some).getLast?.join = kept.head? := by
    rw [getLast?_map, getLast?_reverse]
    cases kept.head? <;> rfl
  unfold full
  rw [hla, length_map, length_reverse, Bool.and_eq_true, decide_eq_true_eq, not_or, Nat.not_lt]
  refine and_congr_right fun hlen => ?_
  rcases kept with _ | ⟨first, rest⟩
  · rw [length_nil] at hlen
    omega
  · simp only [head?_cons, Option.any_some, decide_eq_true_eq, Option.mem_some_iff, exists_eq_left']
    omega

theorem holds_written (hlim : 1 ≤ limit) (httl : window ≤ ttl)
    (hsuf : Windows.Suffices window limit now times kept) :
    Holds window limit now times (some ⟨kept.reverse.map some, now + ttl⟩) := by
  have hkept : ∀ t ∈ kept, t ≤ now := by
    obtain ⟨dropped, rfl, -⟩ := hsuf.kept_suffix
    exact fun t ht => hsuf.past t (mem_append_right _ ht)
  by_cases hlv : now < now + ttl
  · refine ⟨kept, ?_, hsuf, ?_⟩
    · simp only [entriesAt, if_pos hlv]
    rintro w ⟨⟩ t ht
    have := hkept t ht
    show t + window ≤ now + ttl
    omega
  · -- a key that expires at once has only times that are over
    refine ⟨[], ?_, hsuf.forget (Int.le_refl now) hlim fun t ht => ?_, by simp⟩
    · simp only [entriesAt, if_neg hlv, reverse_nil, map_nil]
    have := hkept t ht
    omega

section
variable (h : Holds window limit clock times key)
include h

/-- A check, for whatever limit, leaves the list as it is. -/
theorem Holds.checked (hlim : 1 ≤ limit)
    (hle : clock ≤ now) (httl : window ≤ ttl) (maxNum : Nat) (width : Int) :
    Holds window limit now times (checkSlidingWindow maxNum width ttl now key).2 := by
  have hlat := h.later hlim hle
  obtain ⟨kept, hent, hsuf, -⟩ := id hlat
  dsimp only [checkSlidingWindow, run]
  rw [hent]
  split
  · exact hlat
  split
  · exact holds_written hlim httl hsuf
  · exact hlat

/-- **The check counts**: it passes while fewer than the limit are in the window. -/
theorem Holds.verdict (hlim : 1 ≤ limit) (hle : clock ≤ now) (ttl : Int) :
    (checkSlidingWindow limit window ttl now key).1 = decide (recent window now times < limit) := by
  obtain ⟨kept, hent, hsuf, -⟩ := h.later hlim hle
  have hfu := (full_iff window now kept hlim).trans (not_congr (hsuf.room_iff (Int.le_refl now)))
  rw [checkSlidingWindow, run, hent, if_neg (by omega)]
  by_cases hrm : recent window now times < limit
  · rw [if_neg (fun hbo => hfu.mp hbo.2 hrm), if_pos rfl]
    exact (decide_eq_true hrm).symm
  · rw [if_pos ⟨by decide, hfu.mpr hrm⟩]
    exact (decide_eq_false hrm).symm

/-- A record adds its time and keeps the newest `limit`. -/
theorem Holds.record (hlim : 1 ≤ limit) (hle : clock ≤ now) (httl : window ≤ ttl) :
    Holds window limit now (times ++ [now]) (recordSlidingWindow limit ttl now key) := by
  obtain ⟨kept, hent, hsuf, -⟩ := h.later hlim hle
  have hwri : recordSlidingWindow limit ttl now key =
      some ⟨(some now :: kept.reverse.map some).take limit, now + ttl⟩ := by
    dsimp only [recordSlidingWindow, run]
    rw [hent, if_neg (by omega), if_neg (by simp), if_neg (by decide)]
    split
    · rfl
    rename_i hsho
    rw [take_of_length_le (Nat.not_lt.mp hsho)]
  have hpus : some now :: kept.reverse.map some = (kept ++ [now]).reverse.map some := by simp
  have hle' := Int.le_refl now
  rw [hwri, hpus]
  by_cases hrm : kept.length < limit
  · rw [take_of_length_le (by simpa using hrm)]
    exact holds_written hlim httl (hsuf.push hle' hrm)
  -- the list is full, and the oldest entry is trimmed
  have hsho := hsuf.short
  rcases kept with _ | ⟨first, rest⟩
  · rw [length_nil] at hrm
    omega
  rw [length_cons] at hsho hrm
  have hlen : ((rest ++ [now]).reverse.map some).length = limit := by
    simp only [length_map, length_reverse, length_append, length_singleton]
    omega
  have hta : (((first :: rest) ++ [now]).reverse.map some).take limit =
      (rest ++ [now]).reverse.map some := by
    rw [cons_append, reverse_cons, map_append, take_left' hlen]
  rw [hta]
  exact holds_written hlim httl (hsuf.shift hle' (.inl (by omega)))

end

end SlidingWindow

/-! ## What the queue is good for -/

namespace InMemoryRateLimiter
variable {limit : Nat} {window clock now : Int} {times : List Int} {key : String}
  {l : InMemoryRateLimiter}

/-- There is room in a queue for one more time. -/
def Room (maxRequestNum : Nat) (duration now : Int) (queue : List Int) : Prop :=
  queue.length < maxRequestNum ∨ ∃ first ∈ queue.head?, first + duration ≤ now

variable {maxRequestNum : Nat}

theorem request_iff (l : InMemoryRateLimiter) (key : String)
    (hmax : 1 ≤ maxRequestNum) (duration now : Int) :
    (l.request key maxRequestNum duration now).1 = true ↔
      Room maxRequestNum duration now (l.queue key) := by
  dsimp only [request, Room, queue]
  rw [store_widen]
  rcases l.store key with _ | queue
  · simp
    omega
  by_cases hrm : queue.length < maxRequestNum
  · simp [hrm]
  rcases queue with _ | ⟨first, rest⟩
  · simp at hrm
    omega
  have hov : (now - first ≥ duration) ↔ (first + duration ≤ now) := by omega
  simp only [hrm, if_false, hov, Option.getD_some, head?_cons, false_or,
    Option.mem_some_iff, exists_eq_left']
  split <;> simp [*]

theorem check_iff (l : InMemoryRateLimiter) (key : String)
    (hmax : 1 ≤ maxRequestNum) (duration now : Int) :
    (l.check key maxRequestNum duration now).1 = true ↔
      Room maxRequestNum duration now (l.queue key) := by
  rw [check, Room, queue, if_neg (by omega)]
  rcases l.store key with _ | queue
  · simp
    omega
  rcases queue with _ | ⟨first, rest⟩
  · simp
    omega
  · have hov : (now - first ≥ duration) ↔ (first + duration ≤ now) := by omega
    simp [hov]

theorem queue_check (l : InMemoryRateLimiter) (key : String) (maxRequestNum : Nat)
    (duration now : Int) : (l.check key maxRequestNum duration now).2.queue key = l.queue key := by
  unfold check queue
  split
  · rfl
  rcases hstore : l.store key with _ | queue
  · rw [hstore]
  · rw [store_widen, hstore]

theorem windows_check (l : InMemoryRateLimiter) (key : String) (maxRequestNum : Nat)
    (duration now : Int) :
    l.windows key ≤ (l.check key maxRequestNum duration now).2.windows key := by
  unfold check
  split
  · exact Int.le_refl _
  rcases l.store key with _ | queue
  · exact Int.le_refl _
  dsimp only [widen]
  split
  · rename_i hlt
    simpa using hlt.le
  · exact Int.le_refl _

/-- **The queue has the recorded times that still matter**, and the cleanup keeps it until they are
over. -/
structure Remembers (window : Int) (limit : Nat) (clock : Int) (times : List Int) (key : String)
    (l : InMemoryRateLimiter) : Prop where
  enough : Windows.Suffices window limit clock times (l.queue key)
  window_le : l.queue key ≠ [] → window ≤ l.windows key

theorem remembers_initial (window : Int) (limit : Nat) (clock : Int) (key : String) :
    Remembers window limit clock [] key {} :=
  ⟨.nil _ _ _, fun h => absurd rfl h⟩

section
variable (h : Remembers window limit clock times key l)
include h

theorem Remembers.room_iff (hle : clock ≤ now) :
    Room limit window now (l.queue key) ↔ recent window now times < limit :=
  h.enough.room_iff hle

theorem Remembers.later (hle : clock ≤ now) : Remembers window limit now times key l :=
  ⟨h.enough.later hle, h.window_le⟩

/-- A request for a limit that is not more generous keeps the queue so. -/
theorem Remembers.request (hlim : 1 ≤ limit)
    (hle : clock ≤ now) {duration : Int} (hmax : maxRequestNum ≤ limit) (hdur : window ≤ duration) :
    Remembers window limit now
      (times ++ if (l.request key maxRequestNum duration now).1 then [now] else []) key
      (l.request key maxRequestNum duration now).2 := by
  have hwin := l.le_windows_request key maxRequestNum duration now
  have hreq := l.requested key maxRequestNum duration now
  have hsuf := h.enough
  refine ⟨?_, fun _ => hdur.trans hwin⟩
  generalize l.queue key = q at hreq hsuf
  generalize (l.request key maxRequestNum duration now).2.queue key = q' at hreq
  generalize (l.request key maxRequestNum duration now).1 = admitted at hreq
  cases hreq with
  | first => exact hsuf.push hle hlim
  | joins hrm => exact hsuf.push hle (by omega)
  | replaces hov => exact hsuf.shift hle (.inr (by omega))
  | rejected =>
    rw [if_neg (by decide), append_nil]
    exact hsuf.later hle

theorem Remembers.check (hle : clock ≤ now) (maxRequestNum : Nat) (duration : Int) :
    Remembers window limit now times key (l.check key maxRequestNum duration now).2 := by
  have hwin := l.windows_check key maxRequestNum duration now
  have hque := l.queue_check key maxRequestNum duration now
  refine ⟨?_, fun hne => ?_⟩
  · rw [hque]
    exact h.enough.later hle
  · rw [hque] at hne
    exact (h.window_le hne).trans hwin

theorem Remembers.clears (hlim : 1 ≤ limit)
    (hle : clock ≤ now) : Remembers window limit now times key (l.clearExpiredItems now) := by
  rcases l.cleared key now with ⟨hque, hwn⟩ | ⟨hemp, hla⟩
  · refine ⟨?_, fun hne => ?_⟩
    · rw [hque]
      exact h.enough.later hle
    · rw [hque] at hne
      exact (h.window_le hne).trans hwn.ge
  · refine ⟨?_, fun hne => absurd hemp hne⟩
    rw [hemp]
    refine h.enough.forget hle hlim ?_
    obtain ⟨dropped, hsplit, -⟩ := h.enough.kept_suffix
    have hsor := h.enough.sorted
    rw [hsplit] at hsor
    refine over_of_getLast? (pairwise_append.mp hsor).2.1 fun last hl => ?_
    have hid := hla last hl
    have hwin := h.window_le (ne_nil_of_mem (mem_of_getLast? hl))
    omega

end

end InMemoryRateLimiter

/-! ## One limit on successes -/

/-- What reaches a limit on successes: a request arrives and is checked, a request has succeeded and
is recorded, and the memory mode cleans up.  `ttl` is what the scripts of the Redis mode are
called with. -/
inductive SuccessEvent where
  | arrives (now ttl : Int)
  | succeeds (now ttl : Int)
  | clears (now : Int)
deriving DecidableEq, Repr

namespace SuccessEvent

/-- When it happens. -/
def now : SuccessEvent → Int
  | arrives now _ | succeeds now _ | clears now => now

/-- The keys of Redis live as long as the window. -/
def Lasts (window : Int) : SuccessEvent → Prop
  | arrives _ ttl | succeeds _ ttl => window ≤ ttl
  | clears _ => True

instance (window : Int) : DecidablePred (Lasts window)
  | arrives _ ttl | succeeds _ ttl => Int.decLe window ttl
  | clears _ => .isTrue trivial

end SuccessEvent

/-- The verdicts of `memoryRateLimitHandler` on the requests that arrive. -/
def memoryVerdicts (key : String) (limit : Nat) (window : Int) :
    InMemoryRateLimiter → List SuccessEvent → List Bool
  | _, [] => []
  | l, .arrives now _ :: es =>
      (l.check key limit window now).1 ::
        memoryVerdicts key limit window (l.check key limit window now).2 es
  | l, .succeeds now _ :: es =>
      memoryVerdicts key limit window (l.request key limit window now).2 es
  | l, .clears now :: es => memoryVerdicts key limit window (l.clearExpiredItems now) es

open SlidingWindow

/-- The verdicts of `redisRateLimitHandler` on the requests that arrive. -/
def redisVerdicts (limit : Nat) (window : Int) :
    Option SlidingWindow → List SuccessEvent → List Bool
  | _, [] => []
  | key, .arrives now ttl :: es =>
      (checkSlidingWindow limit window ttl now key).1 ::
        redisVerdicts limit window (checkSlidingWindow limit window ttl now key).2 es
  | key, .succeeds now ttl :: es =>
      redisVerdicts limit window (recordSlidingWindow limit ttl now key) es
  | key, .clears _ :: es => redisVerdicts limit window key es

/-- **What a limit on successes means**: a request is let in while fewer than the limit have been
recorded in the window. -/
def countedVerdicts (limit : Nat) (window : Int) : List Int → List SuccessEvent → List Bool
  | _, [] => []
  | times, .arrives now _ :: es =>
      decide (recent window now times < limit) :: countedVerdicts limit window times es
  | times, .succeeds now _ :: es => countedVerdicts limit window (times ++ [now]) es
  | times, .clears _ :: es => countedVerdicts limit window times es

/-- Every success is recorded while there is room in the window. -/
def RecordedInRoom (limit : Nat) (window : Int) : List Int → List SuccessEvent → Prop
  | _, [] => True
  | times, .succeeds now _ :: es =>
      recent window now times < limit ∧ RecordedInRoom limit window (times ++ [now]) es
  | times, .arrives _ _ :: es | times, .clears _ :: es => RecordedInRoom limit window times es

/-- Requests one after the other: each is let in and its success recorded, if it has any, before
the next arrives. -/
def OneByOne (limit : Nat) (window : Int) : List Int → List SuccessEvent → Prop
  | _, [] => True
  | times, .arrives now _ :: .succeeds later _ :: es =>
      recent window now times < limit ∧ OneByOne limit window (times ++ [later]) es
  | _, .succeeds _ _ :: _ => False
  | times, .arrives _ _ :: es | times, .clears _ :: es => OneByOne limit window times es

section Verdicts
variable {limit : Nat} {window clock : Int} {times : List Int} {es : List SuccessEvent}

/-- **With Redis a limit on successes means what it should.** -/
theorem redisVerdicts_eq (hlim : 1 ≤ limit) {w : Option SlidingWindow}
    (h : SlidingWindow.Holds window limit clock times w)
    (htimes : (clock :: es.map SuccessEvent.now).Pairwise (· ≤ ·))
    (hlas : ∀ e ∈ es, e.Lasts window) :
    redisVerdicts limit window w es = countedVerdicts limit window times es := by
  induction es generalizing clock times w with
  | nil => rfl
  | cons e es ih =>
    rw [map_cons, pairwise_cons] at htimes
    have hle := htimes.1 _ mem_cons_self
    have httl := hlas e mem_cons_self
    have hre := fun e he => hlas e (mem_cons_of_mem _ he)
    rcases e with ⟨now, ttl⟩ | ⟨now, ttl⟩ | now
    · exact congrArg₂ List.cons (h.verdict hlim hle ttl)
        (ih (h.checked hlim hle httl limit window) htimes.2 hre)
    · exact ih (h.record hlim hle httl) htimes.2 hre
    · exact ih (h.later hlim hle) htimes.2 hre

/-- **In memory it does so as long as successes are recorded in room.** -/
theorem memoryVerdicts_eq (key : String) (hlim : 1 ≤ limit) {l : InMemoryRateLimiter}
    (h : l.Remembers window limit clock times key)
    (htimes : (clock :: es.map SuccessEvent.now).Pairwise (· ≤ ·))
    (hrm : RecordedInRoom limit window times es) :
    memoryVerdicts key limit window l es = countedVerdicts limit window times es := by
  induction es generalizing clock times l with
  | nil => rfl
  | cons e es ih =>
    rw [map_cons, pairwise_cons] at htimes
    have hle := htimes.1 _ mem_cons_self
    rcases e with ⟨now, ttl⟩ | ⟨now, ttl⟩ | now
    · have hver : (l.check key limit window now).1 =
          decide (recent window now times < limit) := by
        rw [Bool.eq_iff_iff, decide_eq_true_eq]
        exact (l.check_iff key hlim window now).trans (h.room_iff hle)
      exact congrArg₂ List.cons hver (ih (h.check hle limit window) htimes.2 hrm)
    · have hle : clock ≤ now := hle
      have hadm : (l.request key limit window now).1 = true :=
        (l.request_iff key hlim window now).mpr ((h.room_iff hle).mpr hrm.1)
      have hnext := h.request hlim hle (Nat.le_refl limit) (Int.le_refl window)
      rw [hadm, if_pos rfl] at hnext
      exact ih hnext htimes.2 hrm.2
    · exact ih (h.clears hlim hle) htimes.2 hrm

/-- The successes of requests that do not overlap are recorded in room. -/
theorem OneByOne.recordedInRoom (h : OneByOne limit window times es)
    (htimes : (es.map SuccessEvent.now).Pairwise (· ≤ ·)) :
    RecordedInRoom limit window times es := by
  fun_induction OneByOne limit window times es with
  | case1 => trivial
  | case2 times now ttl later ttl' es ih =>
    simp only [map_cons, pairwise_cons] at htimes
    have hle : now ≤ later := htimes.1 later mem_cons_self
    exact ⟨(recent_anti hle times).trans_lt h.1, ih h.2 htimes.2.2⟩
  | case3 => exact absurd h id
  | case4 times now ttl es _ ih
  | case5 times now es ih => exact ih h (pairwise_cons.mp htimes).2

/-- **The two modes count successes alike as long as they are recorded in room.** -/
theorem success_verdicts_agree (key : String) {limit : Nat} (hlimit : 1 ≤ limit) {window : Int}
    {es : List SuccessEvent} (htimes : (es.map SuccessEvent.now).Pairwise (· ≤ ·))
    (hlasts : ∀ e ∈ es, e.Lasts window) (hroom : RecordedInRoom limit window [] es) :
    memoryVerdicts key limit window {} es = redisVerdicts limit window none es := by
  obtain ⟨clock, hclock⟩ : ∃ clock, (clock :: es.map SuccessEvent.now).Pairwise (· ≤ ·) := by
    rcases es with _ | ⟨e, es⟩
    · exact ⟨0, pairwise_singleton _ _⟩
    refine ⟨e.now, pairwise_cons.mpr ⟨fun t ht => ?_, htimes⟩⟩
    rcases mem_cons.mp ht with rfl | ht
    · exact Int.le_refl _
    · exact (pairwise_cons.mp htimes).1 t ht
  have hmem := memoryVerdicts_eq key hlimit
    (InMemoryRateLimiter.remembers_initial window limit clock key) hclock hroom
  have hred := redisVerdicts_eq hlimit (holds_none window limit clock) hclock hlasts
  exact hmem.trans hred.symm

/-- Three requests, one after the other, for one success in a minute. -/
theorem success_verdicts_agree_minute :
    memoryVerdicts "MRRLS1" 1 60 {} [.arrives 0 60, .succeeds 5 60, .arrives 40 60, .clears 64,
        .arrives 65 60, .succeeds 70 60] =
      redisVerdicts 1 60 none [.arrives 0 60, .succeeds 5 60, .arrives 40 60, .clears 64,
        .arrives 65 60, .succeeds 70 60] := by
  refine success_verdicts_agree "MRRLS1" (by decide) (by decide) (by decide) ?_
  refine OneByOne.recordedInRoom ?_ (by decide)
  exact ⟨by decide, by decide, trivial⟩

/-- **A burst is forgotten in memory.**  Two requests arrive in an empty window of one success, and
succeed after 0 and after 30 seconds.  A minute after the first success the memory mode lets the
next one in; with Redis the second success still counts. -/
theorem burst_is_forgotten :
    memoryVerdicts "MRRLS1" 1 60 {} [.arrives 0 60, .arrives 0 60, .succeeds 0 60, .succeeds 30 60,
        .arrives 60 60] = [true, true, true] ∧
      redisVerdicts 1 60 none [.arrives 0 60, .arrives 0 60, .succeeds 0 60, .succeeds 30 60,
        .arrives 60 60] = [true, true, false] := by
  decide

end Verdicts

/-! ## Several limits on one key -/

/-- A call of `Request`. -/
structure RequestCall where
  maxRequestNum : Nat
  duration : Int
  now : Int
deriving DecidableEq, Repr

/-- The limiter after some calls of `Request` on a key, and the times of those that were
admitted. -/
def requestAll (key : String) (calls : List RequestCall) : InMemoryRateLimiter × List Int :=
  calls.foldl (fun s c =>
    let (admitted, l) := s.1.request key c.maxRequestNum c.duration c.now
    (l, s.2 ++ if admitted then [c.now] else [])) ({}, [])

/-- A call of the script. -/
inductive WindowCall where
  | check (maxRequestNum : Nat) (window now ttl : Int)
  | record (maxRequestNum : Nat) (now ttl : Int)
deriving DecidableEq, Repr

namespace WindowCall

def now : WindowCall → Int
  | check _ _ now _ | record _ now _ => now

def ttl : WindowCall → Int
  | check _ _ _ ttl | record _ _ ttl => ttl

/-- The maximum of a record. -/
def recordMax? : WindowCall → Option Nat
  | check .. => none
  | record maxRequestNum _ _ => some maxRequestNum

end WindowCall

/-- The list of a key after some calls of the script, and the times that were recorded. -/
def windowAll (calls : List WindowCall) : Option SlidingWindow × List Int :=
  calls.foldl (fun s c =>
    match c with
    | .check maxRequestNum window now ttl =>
        ((checkSlidingWindow maxRequestNum window ttl now s.1).2, s.2)
    | .record maxRequestNum now ttl =>
        (recordSlidingWindow maxRequestNum ttl now s.1, s.2 ++ [now])) (none, [])

/-- Requests for limits that are not more generous leave the queue good for a limit. -/
theorem remembers_requestAll (key : String) {limit : Nat} (hlim : 1 ≤ limit) {window : Int}
    {calls : List RequestCall} {clock : Int}
    (htimes : (calls.map RequestCall.now ++ [clock]).Pairwise (· ≤ ·))
    (hdom : ∀ c ∈ calls, c.maxRequestNum ≤ limit ∧ window ≤ c.duration) :
    (requestAll key calls).1.Remembers window limit clock (requestAll key calls).2 key := by
  induction calls using List.reverseRecOn generalizing clock with
  | nil => exact InMemoryRateLimiter.remembers_initial window limit clock key
  | append_singleton calls c ih =>
    rw [map_append, map_singleton, pairwise_append] at htimes
    have hle : c.now ≤ clock := htimes.2.2 _ (by simp) _ (by simp)
    have hla := hdom c (by simp)
    have hbef := ih htimes.1 fun c hc => hdom c (mem_append_left _ hc)
    rw [requestAll, foldl_append]
    exact (hbef.request hlim (Int.le_refl _) hla.1 hla.2).later hle

/-- Records for one limit, and checks for any, leave the list good for that limit. -/
theorem holds_windowAll {limit : Nat} (hlim : 1 ≤ limit) {window : Int}
    {calls : List WindowCall} {clock : Int}
    (htimes : (calls.map WindowCall.now ++ [clock]).Pairwise (· ≤ ·))
    (hmax : ∀ c ∈ calls, ∀ m, c.recordMax? = some m → m = limit)
    (httl : ∀ c ∈ calls, window ≤ c.ttl) :
    SlidingWindow.Holds window limit clock (windowAll calls).2 (windowAll calls).1 := by
  induction calls using List.reverseRecOn generalizing clock with
  | nil => exact holds_none window limit clock
  | append_singleton calls c ih =>
    rw [map_append, map_singleton, pairwise_append] at htimes
    have hle : c.now ≤ clock := htimes.2.2 _ (by simp) _ (by simp)
    have hbef := ih htimes.1 (fun c hc => hmax c (mem_append_left _ hc))
      (fun c hc => httl c (mem_append_left _ hc))
    have hlv := httl c (by simp)
    rcases c with ⟨maxRequestNum, width, now, ttl⟩ | ⟨maxRequestNum, now, ttl⟩
    · rw [windowAll, foldl_append]
      exact (hbef.checked hlim (Int.le_refl _) hlv maxRequestNum width).later hlim hle
    · obtain rfl := hmax _ (mem_append_right _ (mem_singleton_self _)) maxRequestNum rfl
      rw [windowAll, foldl_append]
      exact (hbef.record hlim (Int.le_refl _) hlv).later hlim hle

/-- **When a limit holds on a key that other limits use.**  In memory the others must not be more
generous, neither in their number nor in their window; with Redis the records must be for the same
number, and live as long as the window. -/
theorem mixed_limits_hold (key : String) :
    (∀ (calls : List RequestCall) (c : RequestCall),
      (∀ c' ∈ calls ++ [c], 1 ≤ c'.maxRequestNum) →
      ((calls ++ [c]).map RequestCall.now).Pairwise (· ≤ ·) →
      (∀ c' ∈ calls, c'.maxRequestNum ≤ c.maxRequestNum ∧ c.duration ≤ c'.duration) →
      ((requestAll key calls).1.request key c.maxRequestNum c.duration c.now).1 = true →
      recent c.duration c.now (requestAll key calls).2 < c.maxRequestNum) ∧
    (∀ (calls : List WindowCall) (maxRequestNum : Nat) (window now ttl : Int),
      1 ≤ maxRequestNum →
      (calls.map WindowCall.now ++ [now]).Pairwise (· ≤ ·) →
      (∀ c' ∈ calls, (∀ m, c'.recordMax? = some m → m = maxRequestNum) ∧ window ≤ c'.ttl) →
      (checkSlidingWindow maxRequestNum window ttl now (windowAll calls).1).1 = true →
      recent window now (windowAll calls).2 < maxRequestNum) := by
  constructor
  · intro calls c hmax htimes hdom hadm
    have hlim := hmax c (by simp)
    rw [map_append, map_singleton] at htimes
    have hrem := remembers_requestAll key hlim htimes hdom
    have hrm := (InMemoryRateLimiter.request_iff _ key hlim c.duration c.now).mp hadm
    exact (hrem.room_iff (Int.le_refl _)).mp hrm
  · intro calls maxRequestNum window now ttl hlim htimes hsm hpas
    have hhol := holds_windowAll hlim htimes (fun c hc => (hsm c hc).1) (fun c hc => (hsm c hc).2)
    rw [hhol.verdict hlim (Int.le_refl _) ttl] at hpas
    exact of_decide_eq_true hpas

/-- Two requests under a limit of two a minute before one under a limit of three, and a record and a
check for one before a check for two. -/
theorem mixed_limits_hold_two_three :
    (recent 60 10 (requestAll "MRRL1" [⟨2, 60, 0⟩, ⟨2, 60, 5⟩]).2 = 2 ∧
      recent 60 10 (requestAll "MRRL1" [⟨2, 60, 0⟩, ⟨2, 60, 5⟩]).2 < 3) ∧
    recent 60 10 (windowAll [.record 2 0 60, .check 1 60 5 60]).2 = 1 ∧
      recent 60 10 (windowAll [.record 2 0 60, .check 1 60 5 60]).2 < 2 :=
  ⟨⟨by decide, (mixed_limits_hold "MRRL1").1 [⟨2, 60, 0⟩, ⟨2, 60, 5⟩] ⟨3, 60, 10⟩ (by decide)
      (by decide) (by decide) (by decide)⟩,
    by decide, (mixed_limits_hold "MRRL1").2 [.record 2 0 60, .check 1 60 5 60] 2 60 10 60
      (by decide) (by decide) (by decide) (by decide)⟩

/-- **A stricter limit on the key lets in too much.**  A group with two requests a minute is served
at 0 and at 50 seconds.  At 60 seconds a group with one request a minute is let in, although the
one at 50 seconds counts: both modes look at the oldest entry only. -/
theorem mixed_limits_let_in :
    (∃ (calls : List RequestCall) (c : RequestCall),
      (∀ c' ∈ calls ++ [c], 1 ≤ c'.maxRequestNum ∧ c'.duration = 60) ∧
      ((calls ++ [c]).map RequestCall.now).Pairwise (· ≤ ·) ∧
      ((requestAll "MRRL1" calls).1.request "MRRL1" c.maxRequestNum c.duration c.now).1 = true ∧
      ¬ recent c.duration c.now (requestAll "MRRL1" calls).2 < c.maxRequestNum) ∧
    (∃ calls : List WindowCall,
      (∀ c' ∈ calls, c'.recordMax? = some 2 ∧ c'.ttl = 60) ∧
      (calls.map WindowCall.now ++ [60]).Pairwise (· ≤ ·) ∧
      (checkSlidingWindow 1 60 60 60 (windowAll calls).1).1 = true ∧
      ¬ recent 60 60 (windowAll calls).2 < 1) := by
  refine ⟨⟨[⟨2, 60, 0⟩, ⟨2, 60, 50⟩], ⟨1, 60, 60⟩, ?_⟩, [.record 2 0 60, .record 2 50 60], ?_⟩
  · decide
  · decide

/-! ## The limits on clients -/

def SlidingWindow.allowSlidingWindow (maxRequestNum : Nat) (window ttl now : Int)
    (key : Option SlidingWindow) : Bool × Option SlidingWindow :=
  run maxRequestNum window now ttl .allow key

/-- An `allow` is a check, and a record if the check passes. -/
theorem SlidingWindow.allowSlidingWindow_eq {maxRequestNum : Nat} (hmax : 1 ≤ maxRequestNum)
    (window ttl now : Int) (key : Option SlidingWindow) :
    allowSlidingWindow maxRequestNum window ttl now key =
      ((checkSlidingWindow maxRequestNum window ttl now key).1,
        if (checkSlidingWindow maxRequestNum window ttl now key).1 then
          recordSlidingWindow maxRequestNum ttl now key
        else (checkSlidingWindow maxRequestNum window ttl now key).2) := by
  have hzero : maxRequestNum ≠ 0 := Nat.ne_of_gt hmax
  by_cases hfull : full maxRequestNum window now (entriesAt now key) = true
  · simp [allowSlidingWindow, checkSlidingWindow, run, hzero, hfull]
  · simp [allowSlidingWindow, checkSlidingWindow, recordSlidingWindow, run, hzero, hfull]

/-- A client's request, or the cleanup of the limiter in memory. -/
inductive ClientEvent where
  | request (now : Int)
  | cleanup (now : Int)

def ClientEvent.now : ClientEvent → Int
  | .request now | .cleanup now => now

section
variable (key : String) (n : Nat) (window ttl : Int)
  (p : InMemoryRateLimiter × Option SlidingWindow)

/-- `memoryRateLimiter` and `redisRateLimiter` side by side. -/
def limitClient : ClientEvent → InMemoryRateLimiter × Option SlidingWindow
  | .request now =>
      ((p.1.request key n window now).2, (allowSlidingWindow n window ttl now p.2).2)
  | .cleanup now => (p.1.clearExpiredItems now, p.2)

/-- Both have the times that matter. -/
def Alike (clock : Int) : Prop :=
  ∃ times, p.1.Remembers window n clock times key ∧ Holds window n clock times p.2

variable {n window ttl p} {clock now : Int} (hn : 1 ≤ n) (httl : window ≤ ttl)
include hn httl

theorem Alike.request (h : Alike key n window p clock) (hle : clock ≤ now) :
    (p.1.request key n window now).1 = (allowSlidingWindow n window ttl now p.2).1 ∧
      Alike key n window (limitClient key n window ttl p (.request now)) now := by
  obtain ⟨times, hmemory, hredis⟩ := h
  have hsame : (p.1.request key n window now).1 = (checkSlidingWindow n window ttl now p.2).1 := by
    rw [hredis.verdict hn hle ttl, Bool.eq_iff_iff, decide_eq_true_eq]
    exact (p.1.request_iff key hn window now).trans (hmemory.room_iff hle)
  have hmemory' := hmemory.request hn hle (Nat.le_refl n) (Int.le_refl window)
  rw [limitClient, allowSlidingWindow_eq hn, ← hsame]
  refine ⟨rfl, _, hmemory', ?_⟩
  cases (p.1.request key n window now).1 with
  | false =>
    rw [if_neg (by decide), if_neg (by decide), append_nil]
    exact hredis.checked hn hle httl n window
  | true =>
    rw [if_pos rfl, if_pos rfl]
    exact hredis.record hn hle httl

/-- **The limits on clients agree in memory and in Redis**, whenever the cleanup runs. -/
theorem client_limits_agree {es : List ClientEvent}
    (htimes : (clock :: (es.map ClientEvent.now ++ [now])).Pairwise (· ≤ ·)) :
    let p := es.foldl (limitClient key n window ttl) ({}, none)
    (p.1.request key n window now).1 = (allowSlidingWindow n window ttl now p.2).1 := by
  have h : Alike key n window ({}, none) clock :=
    ⟨[], InMemoryRateLimiter.remembers_initial .., holds_none ..⟩
  generalize (({}, none) : InMemoryRateLimiter × Option SlidingWindow) = p at h ⊢
  induction es generalizing clock p with
  | nil => exact (h.request key hn httl (by simpa using htimes)).1
  | cons e es ih =>
    rw [map_cons, cons_append, pairwise_cons] at htimes
    have hle := htimes.1 _ mem_cons_self
    refine ih htimes.2 _ ?_
    cases e with
    | request => exact (h.request key hn httl hle).2
    | cleanup =>
      obtain ⟨times, hmemory, hredis⟩ := h
      exact ⟨times, hmemory.clears hn hle, hredis.later hn hle⟩

end

/-- One request in nine seconds is served, and the next one is not. -/
theorem client_limits_agree_CT :
    let p := [.request 0, .cleanup 5].foldl (limitClient "CT" 1 9 1200) ({}, none)
    (p.1.request "CT" 1 9 8).1 = (allowSlidingWindow 1 9 1200 8 p.2).1 :=
  @client_limits_agree "CT" 1 9 1200 0 8 (by decide) (by decide) _ (by decide)

end NewApi
