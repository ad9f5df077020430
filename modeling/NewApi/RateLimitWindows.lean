import Mathlib
import NewApi.RateLimiter

/-! # What the total limit means

"At most `totalMaxCount` requests in `duration` seconds" is what a rejected request is told.  In
memory mode it is so: the queue holds every time that still counts.  In Redis mode it is not.  A
full bucket serves `totalMaxCount` requests at once, and then one more every
`duration / totalMaxCount` seconds, almost twice the limit in one window.  The bound on a bucket is
exact enough to say when the limit holds (`total_limit_windows`): if it is one request, or if the
window is one second. -/
namespace NewApi
open Function LimitEvent List RateLimits TokenBucket

theorem timesOf_concat (userId : Int) (admitted : List (Int × Int)) (p : Int × Int) :
    timesOf userId (admitted ++ [p]) =
      timesOf userId admitted ++ if p.1 = userId then [p.2] else [] := by
  unfold timesOf
  by_cases h : p.1 = userId <;> simp [h]

/-- **Runs of timed events**: what holds at the start, and at the time of each event if it did at
the time of the one before, holds at the end. -/
theorem timed_run {σ : Type} {step : σ → LimitEvent → σ} {I : Int → σ → Prop}
    (hst : ∀ clock s e, I clock s → clock ≤ e.now → I e.now (step s e)) {es : List LimitEvent}
    (htim : (es.map now).Pairwise (· ≤ ·)) {s : σ} (hs : ∀ clock, I clock s) :
    ∃ clock, I clock (es.foldl step s) := by
  have hre : ∀ (es : List LimitEvent) (clock : Int) (s : σ), I clock s →
      (clock :: es.map now).Pairwise (· ≤ ·) → ∃ clock, I clock (es.foldl step s) := by
    intro es
    induction es with
    | nil =>
      intro clock s hs _
      exact ⟨clock, hs⟩
    | cons e es ih =>
      intro clock s hs htim
      rw [map_cons, pairwise_cons] at htim
      exact ih e.now (step s e) (hst clock s e hs (htim.1 _ mem_cons_self)) htim.2
  cases es with
  | nil => exact ⟨0, hs 0⟩
  | cons e es => exact hre es e.now (step s e) (hst e.now s e (hs _) (Int.le_refl _)) htim

/-! ## The queue of a key -/

namespace InMemoryRateLimiter
/-- The times that are kept for a key. -/
def queue (l : InMemoryRateLimiter) (key : String) : List Int := (l.store key).getD []

/-- What `Request` does to its key: the queue takes the time in, gives up its first time for it, or
stays. -/
inductive Requested (maxRequestNum : Nat) (duration now : Int) :
    List Int → Bool × List Int → Prop
  | first : Requested maxRequestNum duration now [] (true, [now])
  | joins {q : List Int} (h : q.length < maxRequestNum) :
      Requested maxRequestNum duration now q (true, q ++ [now])
  | replaces {first : Int} {rest : List Int} (h : duration ≤ now - first) :
      Requested maxRequestNum duration now (first :: rest) (true, rest ++ [now])
  | rejected (q : List Int) : Requested maxRequestNum duration now q (false, q)

section
variable (l : InMemoryRateLimiter)
include l

theorem store_widen (key : String) (duration : Int) : (l.widen key duration).store = l.store := by
  unfold widen
  split <;> rfl

theorem requested (key : String) (maxRequestNum : Nat) (duration now : Int) :
    Requested maxRequestNum duration now (l.queue key)
      ((l.request key maxRequestNum duration now).1,
        (l.request key maxRequestNum duration now).2.queue key) := by
  have hset : ∀ q, ((l.widen key duration).setQueue key q).queue key = q := by
    intro q
    simp [queue, setQueue]
  have hstay : (l.widen key duration).queue key = l.queue key := by
    rw [queue, store_widen]
    rfl
  dsimp only [request]
  rw [store_widen]
  cases hstore : l.store key with
  | none =>
    rw [hset, show l.queue key = [] from congrArg (Option.getD · []) hstore]
    exact .first
  | some q =>
    dsimp only
    have hque : l.queue key = q := congrArg (Option.getD · []) hstore
    split
    · rename_i hrm
      rw [hset, hque]
      exact .joins hrm
    · cases q with
      | nil =>
        rw [hstay]
        exact .rejected _
      | cons first rest =>
        dsimp only
        split
        · rename_i hov
          rw [hset, hque]
          exact .replaces hov
        · rw [hstay]
          exact .rejected _

/-- After `Request` the key's window is at least the one asked for. -/
theorem le_windows_request (key : String) (maxRequestNum : Nat) (duration now : Int) :
    duration ≤ (l.request key maxRequestNum duration now).2.windows key := by
  have hwi : duration ≤ (l.widen key duration).windows key := by
    unfold widen
    split
    · simp
    rename_i hle
    exact Int.not_lt.mp hle
  dsimp only [request]
  split
  · exact hwi
  split
  · exact hwi
  split
  · exact hwi
  · split <;> exact hwi

theorem request_other (maxRequestNum : Nat) (duration now : Int)
    {key other : String} (hne : other ≠ key) :
    (l.request key maxRequestNum duration now).2.store other = l.store other ∧
      (l.request key maxRequestNum duration now).2.windows other = l.windows other := by
  have hwi : (l.widen key duration).store other = l.store other ∧
      (l.widen key duration).windows other = l.windows other := by
    unfold widen
    split <;> simp [hne]
  have hset : ∀ q, ((l.widen key duration).setQueue key q).store other = l.store other ∧
      ((l.widen key duration).setQueue key q).windows other = l.windows other := by
    intro q
    simp [setQueue, hne, hwi]
  dsimp only [request]
  split
  · exact hset _
  split
  · exact hset _
  split
  · exact hwi
  split
  · exact hset _
  · exact hwi

/-- A round of the cleanup leaves a key as it is, or drops it if its last time is over. -/
theorem cleared (key : String) (now : Int) : ((l.clearExpiredItems now).queue key = l.queue key ∧
      (l.clearExpiredItems now).windows key = l.windows key) ∨
    ((l.clearExpiredItems now).queue key = [] ∧
      ∀ last, (l.queue key).getLast? = some last → l.windows key ≤ now - last) := by
  cases hexp : l.expired now key with
  | false =>
    refine .inl ⟨?_, ?_⟩
    · show Option.getD (if l.expired now key then none else l.store key) [] = _
      rw [hexp]
      rfl
    · show (if l.expired now key then 0 else l.windows key) = _
      rw [hexp]
      rfl
  | true =>
    refine .inr ⟨?_, ?_⟩
    · show Option.getD (if l.expired now key then none else l.store key) [] = []
      rw [hexp]
      rfl
    · intro last hla
      obtain ⟨q, hq, hid⟩ := (Option.any_eq_true _ _).mp hexp
      rw [queue, hq, Option.getD_some] at hla
      simpa using (Option.all_eq_true _ _).mp hid last hla

end

/-- If the last time of a sorted queue is over, all are. -/
theorem over_of_getLast? {q : List Int} {width now : Int} (hsor : q.Pairwise (· ≤ ·))
    (hla : ∀ last, q.getLast? = some last → last + width ≤ now) : ∀ t ∈ q, t + width ≤ now := by
  intro t ht
  obtain ⟨last, hla?⟩ : ∃ last, q.getLast? = some last :=
    ⟨_, getLast?_eq_some_getLast (ne_nil_of_mem ht)⟩
  have hov := hla last hla?
  obtain ⟨init, rfl⟩ := getLast?_eq_some_iff.mp hla?
  rcases mem_append.mp ht with hi | hl
  · have hle := (pairwise_append.mp hsor).2.2 t hi last mem_cons_self
    omega
  · rw [mem_singleton.mp hl]
    exact hov

end InMemoryRateLimiter

/-! ## The memory mode -/

namespace MemoryMode
variable {cfg : RateLimits} {userId clock : Int} {m : MemoryMode}

/-- The queue of a user's requests. -/
def queueOf (m : MemoryMode) (userId : Int) : List Int :=
  m.limiter.queue (totalKey userId)

/-- The queue is the end of the user's served requests, and those before it do not count any
more. -/
structure Tracks (cfg : RateLimits) (userId clock : Int) (m : MemoryMode) : Prop where
  bounded : Windows.Bounded (cfg.duration : Int) cfg.totalMaxCount (timesOf userId m.admitted)
  kept : ∃ dropped, timesOf userId m.admitted = dropped ++ m.queueOf userId ∧
    ∀ t ∈ dropped, t + cfg.duration ≤ clock
  short : (m.queueOf userId).length ≤ cfg.totalMaxCount
  sorted : (m.queueOf userId).Pairwise (· ≤ ·)
  past : ∀ t ∈ m.queueOf userId, t ≤ clock
  window : m.queueOf userId ≠ [] → cfg.duration ≤ m.limiter.windows (totalKey userId)

theorem tracks_initial (cfg : RateLimits) (userId clock : Int) : Tracks cfg userId clock {} := by
  refine ⟨Windows.bounded_nil, ⟨[], rfl, ?_⟩, Nat.zero_le _, List.Pairwise.nil, ?_, ?_⟩
  · intro t ht
    cases ht
  · intro t ht
    cases ht
  · intro hne
    exact absurd rfl hne

theorem Tracks.served {now : Int} {queue dropped : List Int} {m' : MemoryMode}
    (h : Tracks cfg userId clock m) (gone : List Int) (hle : clock ≤ now)
    (htim : timesOf userId m.admitted = dropped ++ m.queueOf userId)
    (hdrop : ∀ t ∈ dropped, t + cfg.duration ≤ clock)
    (hsplit : m.queueOf userId = gone ++ queue) (hgo : ∀ t ∈ gone, t + cfg.duration ≤ now)
    (hrm : queue.length < cfg.totalMaxCount)
    (htim' : timesOf userId m'.admitted = timesOf userId m.admitted ++ [now])
    (hque' : m'.queueOf userId = queue ++ [now])
    (hwin : cfg.duration ≤ m'.limiter.windows (totalKey userId)) : Tracks cfg userId now m' := by
  have hov : ∀ t ∈ dropped ++ gone, t + cfg.duration ≤ now := by
    intro t ht
    rcases mem_append.mp ht with hd | hg
    · exact (hdrop t hd).trans hle
    · exact hgo t hg
  have hmem : ∀ t ∈ queue, t ∈ m.queueOf userId := by
    intro t ht
    rw [hsplit]
    exact mem_append_right _ ht
  have hpa : ∀ t ∈ queue, t ≤ now := fun t ht => (h.past t (hmem t ht)).trans hle
  refine ⟨?_, ⟨dropped ++ gone, ?_, hov⟩, ?_, ?_, ?_, fun _ => hwin⟩
  · rw [htim']
    refine h.bounded.concat ?_
    rw [htim, hsplit, ← append_assoc, Windows.recent_append, Windows.recent_eq_zero hov]
    have hlen := Windows.recent_le_length (cfg.duration : Int) now queue
    omega
  · rw [htim', htim, hsplit, hque']
    simp
  · rw [hque', length_append, length_singleton]
    exact hrm
  · rw [hque', pairwise_append]
    refine ⟨?_, pairwise_singleton _ _, ?_⟩
    · have hsor := h.sorted
      rw [hsplit] at hsor
      exact (pairwise_append.mp hsor).2.1
    · intro t ht t' ht'
      rw [mem_singleton.mp ht']
      exact hpa t ht
  · intro t ht
    rw [hque', mem_append, mem_singleton] at ht
    rcases ht with ht | rfl
    · exact hpa t ht
    · exact Int.le_refl _

/-- Time goes on. -/
theorem Tracks.mono {now : Int} {m' : MemoryMode} (h : Tracks cfg userId clock m)
    (hle : clock ≤ now) (htim : timesOf userId m'.admitted = timesOf userId m.admitted)
    (hque : m'.queueOf userId = m.queueOf userId) (hwin : m.queueOf userId ≠ [] →
      cfg.duration ≤ m'.limiter.windows (totalKey userId)) : Tracks cfg userId now m' := by
  obtain ⟨dropped, hsplit, hdrop⟩ := h.kept
  refine ⟨?_, ⟨dropped, ?_, ?_⟩, ?_, ?_, ?_, ?_⟩
  · rw [htim]
    exact h.bounded
  · rw [htim, hque, hsplit]
  · intro t ht
    exact (hdrop t ht).trans hle
  · rw [hque]
    exact h.short
  · rw [hque]
    exact h.sorted
  · intro t ht
    rw [hque] at ht
    exact (h.past t ht).trans hle
  · rw [hque]
    exact hwin

theorem tracks_arrives {other now : Int} (hoff : cfg.successMaxCount = 0)
    (hlim : 1 ≤ cfg.totalMaxCount) (h : Tracks cfg userId clock m) (hle : clock ≤ now) :
    Tracks cfg userId now (m.step cfg (.arrives other now)) := by
  have hadm : cfg.memoryAdmits other now m.limiter =
      m.limiter.request (totalKey other) cfg.totalMaxCount cfg.duration now := by
    rw [memoryAdmits, if_pos hoff]
    simp [Nat.ne_of_gt hlim]
  obtain ⟨served, hser⟩ : ∃ served, (m.limiter.request (totalKey other)
    cfg.totalMaxCount cfg.duration now).1 = served := ⟨_, rfl⟩
  obtain ⟨limiter, hlm⟩ : ∃ limiter, (m.limiter.request (totalKey other)
    cfg.totalMaxCount cfg.duration now).2 = limiter := ⟨_, rfl⟩
  have hst : m.step cfg (.arrives other now) =
      ⟨limiter, m.admitted ++ if served then [(other, now)] else []⟩ := by
    dsimp only [step]
    rw [hadm, ← hser, ← hlm]
  by_cases hsm : other = userId
  · -- a request of the user
    subst hsm
    have hwin := m.limiter.le_windows_request (totalKey other) cfg.totalMaxCount cfg.duration now
    have hreq := m.limiter.requested (totalKey other) cfg.totalMaxCount cfg.duration now
    rw [hser, hlm] at hreq
    rw [hlm] at hwin
    obtain ⟨dropped, htim, hdrop⟩ := h.kept
    have hadm : ∀ served, timesOf other (m.admitted ++ if served then [(other, now)] else []) =
        timesOf other m.admitted ++ if served = true then [now] else [] := by
      intro served
      cases served
      · simp
      · exact (timesOf_concat _ _ _).trans (by simp)
    rw [hst]
    generalize hq : m.limiter.queue (totalKey other) = q at hreq
    generalize hq' : limiter.queue (totalKey other) = q' at hreq
    cases hreq with
    | first =>
      exact h.served [] hle htim hdrop hq (by simp) hlim (hadm true) hq' hwin
    | joins hrm =>
      exact h.served [] hle htim hdrop hq (by simp) hrm (hadm true) hq' hwin
    | @replaces first rest hov =>
      refine h.served [first] hle htim hdrop hq ?_ ?_ (hadm true) hq' hwin
      · intro t ht
        rw [mem_singleton.mp ht]
        omega
      · have hsho := h.short
        rw [show m.queueOf other = first :: rest from hq, length_cons] at hsho
        omega
    | rejected =>
      exact h.mono hle ((hadm false).trans (by simp)) (hq'.trans hq.symm) fun _ => hwin
  · -- a request of someone else
    have hkey : totalKey userId ≠ totalKey other := by
      intro heq
      exact hsm (Int.repr_inj.mp ((String.append_right_inj _).mp heq)).symm
    obtain ⟨hstore, hwn⟩ :=
      m.limiter.request_other cfg.totalMaxCount cfg.duration now hkey
    rw [hlm] at hstore hwn
    rw [hst]
    refine h.mono hle ?_ ?_ ?_
    · cases served
      · simp
      · exact (timesOf_concat _ _ _).trans (by simp [hsm])
    · exact congrArg (Option.getD · []) hstore
    · rw [hwn]
      exact h.window

theorem tracks_clears {now : Int} (h : Tracks cfg userId clock m) (hle : clock ≤ now) :
    Tracks cfg userId now (m.step cfg (.clears now)) := by
  rcases m.limiter.cleared (totalKey userId) now with
    ⟨hque, hwn⟩ | ⟨hemp, hla⟩
  · refine h.mono hle rfl hque fun hne => ?_
    exact (h.window hne).trans hwn.ge
  -- the last time of the queue is over, and so are those before it
  have hemp : (m.step cfg (.clears now)).queueOf userId = [] := hemp
  have hov : ∀ t ∈ m.queueOf userId, t + cfg.duration ≤ now := by
    refine InMemoryRateLimiter.over_of_getLast? h.sorted fun last hl => ?_
    have hid := hla last hl
    have hwin := h.window (by
      intro hnil
      rw [hnil] at hl
      cases hl)
    omega
  obtain ⟨dropped, htim, hdrop⟩ := h.kept
  refine ⟨h.bounded, ⟨dropped ++ m.queueOf userId, ?_, ?_⟩, ?_, ?_, ?_, ?_⟩
  · rw [hemp, append_nil]
    exact htim
  · intro t ht
    rcases mem_append.mp ht with hd | hq
    · exact (hdrop t hd).trans hle
    · exact hov t hq
  · rw [hemp]
    exact Nat.zero_le _
  · rw [hemp]
    exact List.Pairwise.nil
  · intro t ht
    rw [hemp] at ht
    cases ht
  · intro hne
    exact absurd hemp hne

theorem tracks_step (hoff : cfg.successMaxCount = 0) (hlim : 1 ≤ cfg.totalMaxCount)
    (e : LimitEvent) (h : Tracks cfg userId clock m) (hle : clock ≤ e.now) :
    Tracks cfg userId e.now (m.step cfg e) := by
  cases e with
  | arrives other now => exact tracks_arrives hoff hlim h hle
  | clears now => exact tracks_clears h hle
  | finishes other now succeeded =>
    have hsm : m.step cfg (.finishes other now succeeded) = m := by
      unfold step memoryFinishes
      simp [hoff]
    rw [hsm]
    exact h.mono hle rfl rfl h.window

/-- **In memory mode no window has more requests than the limit.** -/
theorem bounded_run (hoff : cfg.successMaxCount = 0) (hlim : 1 ≤ cfg.totalMaxCount)
    {es : List LimitEvent} (htim : (es.map now).Pairwise (· ≤ ·)) (userId : Int) :
    Windows.Bounded (cfg.duration : Int) cfg.totalMaxCount (cfg.servedInMemory userId es) := by
  obtain ⟨clock, htra⟩ := timed_run (I := fun clock m => Tracks cfg userId clock m)
    (fun _ _ e h hle => tracks_step hoff hlim e h hle) htim
    (fun clock => tracks_initial cfg userId clock)
  exact htra.bounded

end MemoryMode

/-! ## The token bucket -/

namespace TokenBucket
variable {requested rate capacity now : Int} {times : List Int}

/-- What the served requests have cost: since any time that is past, it is at most a full bucket
and what has flowed in since, less what is left. -/
structure Metered (requested rate capacity : Int) (times : List Int) (b : TokenBucket) : Prop where
  nonneg : 0 ≤ b.tokens
  full : b.tokens ≤ capacity
  past : ∀ t ∈ times, t ≤ b.lastTime
  paid : ∀ start, start ≤ b.lastTime →
    requested * times.countP (start ≤ ·) + b.tokens ≤ capacity + rate * (b.lastTime - start)

/-- A key without a bucket has served nothing. -/
def MeteredKey (requested rate capacity : Int) (times : List Int) : Option TokenBucket → Prop
  | none => times = []
  | some b => Metered requested rate capacity times b

variable {bucket : Option TokenBucket}

theorem refill_metered (hra : 0 ≤ rate) (hcap : 0 ≤ capacity)
    (h : MeteredKey requested rate capacity times bucket) (hnow : ∀ b ∈ bucket, b.lastTime ≤ now) :
    Metered requested rate capacity times ⟨refill rate capacity now bucket, now⟩ := by
  cases bucket with
  | none =>
    subst h
    refine ⟨hcap, Int.le_refl _, by simp, ?_⟩
    intro start hstr
    dsimp only at hstr
    have hfl : 0 ≤ rate * (now - start) := Int.mul_nonneg hra (by omega)
    simpa [refill] using hfl
  | some b =>
    have hle : b.lastTime ≤ now := hnow b rfl
    have hfl : 0 ≤ (now - b.lastTime) * rate := Int.mul_nonneg (by omega) hra
    have hnon := h.nonneg
    refine ⟨?_, Int.min_le_left _ _, fun t ht => (h.past t ht).trans hle, ?_⟩
    · exact Int.le_min.mpr ⟨hcap, by omega⟩
    intro start hstr
    dsimp only at hstr ⊢
    by_cases hold : start ≤ b.lastTime
    · have hpa := h.paid start hold
      have href : refill rate capacity now (some b) ≤
          b.tokens + (now - b.lastTime) * rate := Int.min_le_right _ _
      have hsum : rate * (b.lastTime - start) + (now - b.lastTime) * rate =
          rate * (now - start) := by ring
      omega
    · -- nothing has been served since
      have hno : times.countP (start ≤ ·) = 0 := by
        refine countP_eq_zero.mpr fun t ht => ?_
        have hpas := h.past t ht
        simp only [decide_eq_true_eq]
        omega
      have href : refill rate capacity now (some b) ≤ capacity := Int.min_le_left _ _
      have hfl' : 0 ≤ rate * (now - start) := Int.mul_nonneg hra (by omega)
      rw [hno]
      omega

theorem allow_metered (now : Int) (hreq : 0 ≤ requested) (hra : 0 ≤ rate) (hcap : 0 ≤ capacity)
    (h : MeteredKey requested rate capacity times bucket) (hnow : ∀ b ∈ bucket, b.lastTime ≤ now) :
    Metered requested rate capacity
      (times ++ if (allow requested rate capacity now bucket).1 then [now] else [])
      (allow requested rate capacity now bucket).2 := by
  have href := refill_metered hra hcap h hnow
  dsimp only [allow]
  split
  · have hfu := href.full
    dsimp only at hfu
    refine ⟨by dsimp only; omega, by dsimp only; omega, ?_, ?_⟩
    · intro t ht
      rcases mem_append.mp ht with hold | hnew
      · exact href.past t hold
      · exact (mem_singleton.mp hnew).le
    · intro start hstr
      have hpa := href.paid start hstr
      dsimp only at hpa hstr ⊢
      simp only [if_true, countP_append, countP_singleton, hstr, decide_true,
        Nat.cast_add, Nat.cast_one, Int.mul_add, Int.mul_one]
      omega
  · simpa using href

/-- **A window costs at most a full bucket and what flows in while it lasts.** -/
theorem Metered.window {width start : Int} {b : TokenBucket}
    (h : Metered requested rate capacity times b) (hreq : 0 ≤ requested) (hra : 0 ≤ rate)
    (hstr : start ≤ b.lastTime) (hla : b.lastTime < start + width) :
    requested * Windows.count width start times ≤ capacity + rate * (width - 1) := by
  have hcnt : (Windows.count width start times : Int) ≤ times.countP (start ≤ ·) := by
    refine Int.ofNat_le.mpr (countP_mono_left fun t _ ht => ?_)
    simp only [decide_eq_true_eq] at ht ⊢
    exact ht.1
  have hco := Int.mul_le_mul_of_nonneg_left hcnt hreq
  have hfl : rate * (b.lastTime - start) ≤ rate * (width - 1) :=
    Int.mul_le_mul_of_nonneg_left (by omega) hra
  have hpa := h.paid start hstr
  have hnon := h.nonneg
  omega

end TokenBucket

/-! ## The Redis mode -/

namespace RedisMode
variable {cfg : RateLimits} {userId clock : Int} {m : RedisMode}

/-- The user's bucket meters the served requests, and every window has been within its bound. -/
structure Charges (cfg : RateLimits) (userId clock : Int) (m : RedisMode) : Prop where
  metered : TokenBucket.MeteredKey cfg.duration cfg.totalMaxCount
    (cfg.totalMaxCount * cfg.duration) (timesOf userId m.admitted)
    (m.buckets (redisKey userId))
  past : ∀ b ∈ m.buckets (redisKey userId), b.lastTime ≤ clock
  window : ∀ start, (cfg.duration : Int) *
      Windows.count (cfg.duration : Int) start (timesOf userId m.admitted) ≤
    cfg.totalMaxCount * cfg.duration + cfg.totalMaxCount * (cfg.duration - 1)

theorem charges_initial (hdur : 1 ≤ cfg.duration) (userId clock : Int) :
    Charges cfg userId clock {} := by
  refine ⟨rfl, ?_, fun start => ?_⟩
  · intro b hb
    cases hb
  have hfu : (0 : Int) ≤ cfg.totalMaxCount * cfg.duration := by positivity
  have hfl : (0 : Int) ≤ cfg.totalMaxCount * (cfg.duration - 1) :=
    Int.mul_nonneg (by positivity) (by omega)
  simpa [Windows.count, timesOf] using Int.add_nonneg hfu hfl

/-- A request goes to the script. -/
theorem step_arrives {bucket : TokenBucket} {served : Bool} {now : Int}
    (hlim : 1 ≤ cfg.totalMaxCount)
    (hall : allow cfg.duration cfg.totalMaxCount (cfg.totalMaxCount * cfg.duration)
      now (m.buckets (redisKey userId)) = (served, bucket)) : m.step cfg (.arrives userId now) =
      ⟨Function.update m.buckets (redisKey userId) (some bucket),
        m.admitted ++ if served then [(userId, now)] else []⟩ := by
  simp only [step, redisAdmits]
  rw [if_neg (Nat.ne_of_gt hlim), hall]

theorem charges_arrives {other now : Int} (hlim : 1 ≤ cfg.totalMaxCount)
    (h : Charges cfg userId clock m) (hle : clock ≤ now) :
    Charges cfg userId now (m.step cfg (.arrives other now)) := by
  obtain ⟨served, bucket, hall⟩ : ∃ served bucket, allow cfg.duration
      cfg.totalMaxCount (cfg.totalMaxCount * cfg.duration) now
      (m.buckets (redisKey other)) = (served, bucket) := ⟨_, _, rfl⟩
  rw [step_arrives hlim hall]
  by_cases hsm : other = userId
  · subst hsm
    have hadm : timesOf other (m.admitted ++ if served then [(other, now)] else []) =
        timesOf other m.admitted ++ if served = true then [now] else [] := by
      cases served
      · simp
      · exact (timesOf_concat _ _ _).trans (by simp)
    have hmet := allow_metered now (by positivity) (by positivity)
      (by positivity) h.metered fun b hb => (h.past b hb).trans hle
    rw [hall, ← hadm] at hmet
    have hla : bucket.lastTime = now := by
      have hsnd := congrArg (fun p => p.2.lastTime) hall
      dsimp only [allow] at hsnd
      split at hsnd <;> exact hsnd.symm
    refine ⟨?_, ?_, ?_⟩
    · dsimp only
      rw [update_self]
      exact hmet
    · intro b hb
      dsimp only at hb
      rw [update_self] at hb
      cases hb
      exact hla.le
    · intro start
      by_cases hin : start ≤ now ∧ now < start + cfg.duration
      · exact hmet.window (by positivity) (by positivity) (hla ▸ hin.1) (hla ▸ hin.2)
      -- the window does not see the request
      have hcnt : Windows.count (cfg.duration : Int) start
          (timesOf other (m.admitted ++ if served then [(other, now)] else [])) =
          Windows.count (cfg.duration : Int) start (timesOf other m.admitted) := by
        rw [hadm]
        cases served
        · simp
        · exact (Windows.count_concat _ _ _ _).trans (by rw [if_neg hin]; rfl)
      rw [hcnt]
      exact h.window start
  · have hkey : redisKey userId ≠ redisKey other := by
      intro heq
      exact hsm (Int.repr_inj.mp ((String.append_right_inj _).mp heq)).symm
    have hadm : timesOf userId (m.admitted ++ if served then [(other, now)] else []) =
        timesOf userId m.admitted := by
      cases served
      · simp
      · exact (timesOf_concat _ _ _).trans (by simp [hsm])
    refine ⟨?_, ?_, ?_⟩
    · dsimp only
      rw [update_of_ne hkey, hadm]
      exact h.metered
    · intro b hb
      dsimp only at hb
      rw [update_of_ne hkey] at hb
      exact (h.past b hb).trans hle
    · rw [hadm]
      exact h.window

/-- **In Redis mode a window has at most a full bucket of requests and what flows in.** -/
theorem charges_run (hdur : 1 ≤ cfg.duration) (hlim : 1 ≤ cfg.totalMaxCount)
    {es : List LimitEvent} (htim : (es.map now).Pairwise (· ≤ ·)) (userId start : Int) :
    (cfg.duration : Int) * Windows.count (cfg.duration : Int) start (cfg.servedInRedis userId es) ≤
      cfg.totalMaxCount * cfg.duration + cfg.totalMaxCount * (cfg.duration - 1) := by
  obtain ⟨clock, hcha⟩ := timed_run (I := fun clock m => Charges cfg userId clock m)
    (by
      intro clock m e h hle
      cases e with
      | arrives other now => exact charges_arrives hlim h hle
      | finishes | clears => exact ⟨h.metered, fun b hb => (h.past b hb).trans hle, h.window⟩)
    htim (fun clock => charges_initial hdur userId clock)
  exact hcha.window start

/-- A limit of one request, or a window of one second, is kept. -/
theorem bounded_run (hdur : 1 ≤ cfg.duration) (hlim : 1 ≤ cfg.totalMaxCount)
    (hsma : cfg.totalMaxCount = 1 ∨ cfg.duration = 1) {es : List LimitEvent}
    (htim : (es.map now).Pairwise (· ≤ ·)) (userId : Int) :
    Windows.Bounded (cfg.duration : Int) cfg.totalMaxCount (cfg.servedInRedis userId es) := by
  intro start
  have hco := charges_run hdur hlim htim userId start
  rcases hsma with hone | hone
  · rw [hone] at hco ⊢
    by_contra hmo
    have htwo : (2 : Int) ≤ Windows.count (cfg.duration : Int) start
        (cfg.servedInRedis userId es) := by omega
    have hpri := Int.mul_le_mul_of_nonneg_left htwo (Int.natCast_nonneg cfg.duration)
    omega
  · rw [hone] at hco ⊢
    simpa using hco

theorem allow_served {requested rate capacity now tokens : Int} {bucket : Option TokenBucket}
    (href : refill rate capacity now bucket = tokens) (hen : requested ≤ tokens) :
    allow requested rate capacity now bucket = (true, ⟨tokens - requested, now⟩) := by
  rw [allow, href]
  exact if_pos hen

/-- A burst of requests at time zero takes the bucket's tokens one request at a time. -/
theorem burst (cfg : RateLimits) (userId : Int) {k : Nat} (hk : k < cfg.totalMaxCount) :
    ∃ admitted buckets,
      (List.replicate (k + 1) (.arrives userId 0)).foldl (step cfg) {} = ⟨buckets, admitted⟩ ∧
      buckets (redisKey userId) = some ⟨(cfg.totalMaxCount - (k + 1)) * cfg.duration, 0⟩ ∧
      timesOf userId admitted = List.replicate (k + 1) 0 := by
  have hlim : 1 ≤ cfg.totalMaxCount := by omega
  -- one request more, while there are tokens for it
  have hone : ∀ (m : RedisMode) (n : Nat), n < cfg.totalMaxCount →
      refill cfg.totalMaxCount (cfg.totalMaxCount * cfg.duration) 0
        (m.buckets (redisKey userId)) = (cfg.totalMaxCount - n) * cfg.duration →
      timesOf userId m.admitted = List.replicate n 0 →
      ∃ admitted buckets, m.step cfg (.arrives userId 0) = ⟨buckets, admitted⟩ ∧
        buckets (redisKey userId) = some ⟨(cfg.totalMaxCount - (n + 1)) * cfg.duration, 0⟩ ∧
        timesOf userId admitted = List.replicate (n + 1) 0 := by
    intro m n hn href htim
    have hlf : (1 : Int) ≤ cfg.totalMaxCount - n := by omega
    have hen : (cfg.duration : Int) ≤ (cfg.totalMaxCount - n) * cfg.duration := by
      have hpri := Int.mul_le_mul_of_nonneg_right hlf (Int.natCast_nonneg cfg.duration)
      rwa [Int.one_mul] at hpri
    refine ⟨_, _, step_arrives hlim (allow_served href hen), ?_, ?_⟩
    · rw [update_self]
      congr 2
      ring
    · rw [if_pos rfl, timesOf_concat, htim, if_pos rfl, replicate_succ']
  induction k with
  | zero => exact hone {} 0 hlim (by simp [refill]) rfl
  | succ k ih =>
    obtain ⟨admitted, buckets, hru, hbuc, htim⟩ := ih (by omega)
    rw [replicate_succ', foldl_append, hru]
    refine hone ⟨buckets, admitted⟩ (k + 1) hk ?_ htim
    dsimp only
    rw [hbuc]
    have hfu : ((cfg.totalMaxCount : Int) - (k + 1)) * cfg.duration ≤
        cfg.totalMaxCount * cfg.duration :=
      Int.mul_le_mul_of_nonneg_right (by omega) (Int.natCast_nonneg cfg.duration)
    simp only [refill, Int.sub_self, Int.zero_mul, Int.add_zero]
    push_cast
    exact Int.min_eq_right hfu

/-- **A burst and one more**: with a limit of two or more and a window of two seconds or more, the
requests of a burst and one at the end of the window are all served. -/
theorem burst_and_one_more (cfg : RateLimits) (hdur : 2 ≤ cfg.duration)
    (hlim : 2 ≤ cfg.totalMaxCount) (userId : Int) :
    cfg.servedInRedis userId (List.replicate cfg.totalMaxCount (.arrives userId 0) ++
        [.arrives userId (cfg.duration - 1)]) =
      List.replicate cfg.totalMaxCount 0 ++ [(cfg.duration - 1 : Int)] := by
  obtain ⟨k, hk⟩ : ∃ k, cfg.totalMaxCount = k + 1 := ⟨cfg.totalMaxCount - 1, by omega⟩
  obtain ⟨admitted, buckets, hru, hbuc, htim⟩ := burst cfg userId (k := k) (by omega)
  have hemp : ((cfg.totalMaxCount : Int) - (k + 1)) * cfg.duration = 0 := by
    rw [hk]
    push_cast
    ring
  rw [hemp] at hbuc
  -- by the end of the window there are tokens for one more
  have href : refill cfg.totalMaxCount (cfg.totalMaxCount * cfg.duration)
      (cfg.duration - 1) (buckets (redisKey userId)) = (cfg.duration - 1) * cfg.totalMaxCount := by
    rw [hbuc]
    simp only [refill, Int.sub_zero, Int.zero_add]
    refine Int.min_eq_right ?_
    rw [Int.mul_comm (cfg.totalMaxCount : Int)]
    exact Int.mul_le_mul_of_nonneg_right (by omega) (Int.natCast_nonneg _)
  have hen : (cfg.duration : Int) ≤ (cfg.duration - 1) * cfg.totalMaxCount := by
    have htwo : ((cfg.duration : Int) - 1) * 2 ≤ (cfg.duration - 1) * cfg.totalMaxCount :=
      Int.mul_le_mul_of_nonneg_left (by omega) (by omega)
    omega
  rw [← hk] at hru htim
  unfold servedInRedis
  rw [foldl_append, hru, foldl_cons, foldl_nil, step_arrives (by omega) (allow_served href hen)]
  rw [if_pos rfl, timesOf_concat, htim, if_pos rfl]

end RedisMode

/-! ## Both modes -/

/-- **What the total limit means**, with the success limit off, whoever makes requests and when.
In memory mode a user has at most `totalMaxCount` requests served in any `duration` seconds.  In
Redis mode this is so exactly if the limit is one request or the window is one second. -/
theorem total_limit_windows {cfg : RateLimits} (hoff : cfg.successMaxCount = 0)
    (hduration : 1 ≤ cfg.duration) (hlimit : 1 ≤ cfg.totalMaxCount) :
    (∀ (userId : Int) (es : List LimitEvent), (es.map now).Pairwise (· ≤ ·) →
      Windows.Bounded (cfg.duration : Int) cfg.totalMaxCount (cfg.servedInMemory userId es)) ∧
    ((∀ (userId : Int) (es : List LimitEvent), (es.map now).Pairwise (· ≤ ·) →
      Windows.Bounded (cfg.duration : Int) cfg.totalMaxCount (cfg.servedInRedis userId es)) ↔
      cfg.totalMaxCount = 1 ∨ cfg.duration = 1) := by
  refine ⟨fun userId es htim => MemoryMode.bounded_run hoff hlimit htim userId, ?_, ?_⟩
  · intro hall
    by_contra hlar
    have hser := RedisMode.burst_and_one_more cfg (by omega) (by omega) 0
    have hsor : ((List.replicate cfg.totalMaxCount (arrives 0 0) ++
        [arrives 0 (cfg.duration - 1)]).map now).Pairwise (· ≤ ·) := by
      simp only [map_append, map_replicate, map_cons, map_nil,
        now, pairwise_append, pairwise_replicate, pairwise_singleton]
      refine ⟨.inr (Int.le_refl _), trivial, ?_⟩
      intro t ht t' ht'
      rw [eq_of_mem_replicate ht, mem_singleton.mp ht']
      omega
    have hwin := hall 0 _ hsor 0
    have hbur : Windows.count (cfg.duration : Int) 0 (List.replicate cfg.totalMaxCount 0) =
        cfg.totalMaxCount := by
      rw [Windows.count, countP_replicate, if_pos]
      simp only [Int.le_refl, true_and, decide_eq_true_eq]
      omega
    rw [hser, Windows.count_concat, hbur, if_pos ⟨by omega, by omega⟩] at hwin
    omega
  · intro hsma userId es htim
    exact RedisMode.bounded_run hduration hlimit hsma htim userId

/-- One request a minute, in both modes. -/
theorem total_limit_windows_one :
    (∀ (userId : Int) (es : List LimitEvent), (es.map now).Pairwise (· ≤ ·) →
      Windows.Bounded 60 1 (servedInMemory ⟨60, 1, 0⟩ userId es)) ∧
    ∀ (userId : Int) (es : List LimitEvent), (es.map now).Pairwise (· ≤ ·) →
      Windows.Bounded 60 1 (servedInRedis ⟨60, 1, 0⟩ userId es) := by
  have hlim := @total_limit_windows ⟨60, 1, 0⟩ rfl (by decide) (by decide)
  exact ⟨hlim.1, hlim.2.mpr (.inl rfl)⟩

/-- **Three requests in two seconds** are served in Redis mode where two are the limit. -/
theorem redis_serves_above_limit :
    ∃ es : List LimitEvent, (es.map now).Pairwise (· ≤ ·) ∧
      Windows.count 2 0 (servedInRedis ⟨2, 2, 0⟩ 7 es) = 3 :=
  ⟨[.arrives 7 0, .arrives 7 0, .arrives 7 1], by decide, by decide +kernel⟩

end NewApi
