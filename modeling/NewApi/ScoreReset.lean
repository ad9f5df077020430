import NewApi.ChannelScore
import NewApi.Steps

/-! # Resetting scores

With Redis a score has two copies: the hash, which the script updates, and the mirror of the
process, which the selection reads.  A report reads the generation of the mirror, runs the script
and publishes what the script returned; a refresh notes the generation and the snapshot of the
mirror, reads the hash and stores what it read.  Both drop their result if the generation has
moved.  A reset deletes the hashes of a channel first and moves the generation of each of its
mirrors after that.

So a result that was computed before the delete is older than the generation that the walk over
the mirrors leaves behind, and a result of a generation from after the walk was computed after
the delete (`Settled`).  A mirror that appears while the walk goes on may be missed by it; what
it can get was read after the delete as well.

Which reports went into a hash or a snapshot is kept beside it (`Traced`), as is which scripts
had run when the scan began and when the hashes were deleted (`ResetRecord`); the program keeps
neither.  `SCAN` finds at least the hashes that are there all the time that it takes.  Keys of
one call of `refreshShared` are independent pending reads here, which allows more interleavings
than the call has. -/
namespace NewApi
open Function List Steps

/-! ## The state -/

/-- What `scoreKey` is made of. -/
structure ScoreKey where
  channelId : Int
  group : String
  model : String
deriving DecidableEq, Repr

/-- A value and the reports whose outcomes went into it. -/
structure Traced (α : Type) where
  value : α
  outcomes : List Nat

/-- What the pointer `published` leads to; pointers are numbered in the order of their stores. -/
structure Published where
  pointer : Nat
  snap : Traced Snapshot

/-- `entry`. -/
structure MirrorEntry where
  state : ScoreState := {}
  sharedCheckedAt : Int := 0
  published : Option Published := none
  generation : Nat := 0

def MirrorEntry.resetLocked (e : MirrorEntry) : MirrorEntry :=
  { e with generation := e.generation + 1, state := {}, published := none }

/-- The pointer that `published.Load` returns. -/
def MirrorEntry.pointer (e : MirrorEntry) : Option Nat := e.published.map (·.pointer)

/-- Where a call of `Report` is, or a read of `refreshShared`. -/
inductive ScoreCall where
  | idle
  /-- `entryGeneration` has returned. -/
  | reporting (key : ScoreKey) (outcome : ScoreOutcome) (now : Int) (generation : Nat)
  /-- The script has run. -/
  | ran (key : ScoreKey) (generation : Nat) (snap : Traced Snapshot)
  /-- A `pendingRead`. -/
  | captured (key : ScoreKey) (generation : Nat) (published : Option Nat)
  /-- `HMGET` has returned. -/
  | read (key : ScoreKey) (generation : Nat) (published : Option Nat) (state : Traced ScoreState)
  | done

/-- What a reset has done, for statements about it. -/
structure ResetRecord where
  /-- The keys that it deleted. -/
  keys : List ScoreKey
  /-- The reports whose script had run when the scan began. -/
  before : List Nat
  /-- The reports whose script had run when the keys were deleted. -/
  atDelete : List Nat
deriving Repr, DecidableEq

/-- Where the reset is. -/
inductive ResetPhase where
  | idle
  /-- `SCAN` runs.  The hashes `stable` have been there since it began. -/
  | scanning (stable : List ScoreKey) (before : List Nat)
  | scanned (keys : List ScoreKey) (before : List Nat)
  | deleted (record : ResetRecord)
  /-- `Range` runs and has yet to come to `todo`. -/
  | walking (todo : List ScoreKey) (record : ResetRecord)
  | returned (record : ResetRecord)
deriving DecidableEq, Repr

/-- A hash that expires has not been there all the time of a scan. -/
def ResetPhase.expire (key : ScoreKey) : ResetPhase → ResetPhase
  | .scanning stable before => .scanning (stable.filter (· ≠ key)) before
  | phase => phase

/-- The instance and its Redis. -/
structure ScoreWorld where
  redis : ScoreKey → Option (Traced ScoreState) := fun _ => none
  /-- Keys that a script has written. -/
  written : List ScoreKey := []
  /-- The keys of `localStore`. -/
  stored : List ScoreKey := []
  entry : ScoreKey → MirrorEntry := fun _ => {}
  calls : Nat → ScoreCall := fun _ => .idle
  pointers : Nat := 0
  reset : ResetPhase := .idle
  /-- The reports whose script has run. -/
  ran : List Nat := []

/-- A step of one of the calls. -/
inductive ScoreEvent where
  | report (id : Nat) (key : ScoreKey) (outcome : ScoreOutcome) (now : Int)
  | runScript (id : Nat)
  | publishLocal (id : Nat) (now : Int)
  | capture (id : Nat) (key : ScoreKey) (now : Int)
  | hmget (id : Nat)
  | store (id : Nat) (now : Int)
  | expire (key : ScoreKey)
  | scan
  | scanned (keys : List ScoreKey)
  | delete
  | resetFails
  | range
  | visit (key : ScoreKey)
  | resetReturns
deriving DecidableEq, Repr

/-! ## The steps -/

def sharedStoreHealthTTLSeconds : Int := 5

/-- The fields that `refreshShared` asks for. -/
def ScoreState.mirrored (s : ScoreState) : ScoreState :=
  { tierOffset := s.tierOffset
    curTotal := s.curTotal, curSuccess := s.curSuccess
    prevTotal := s.prevTotal, prevSuccess := s.prevSuccess
    updatedAt := s.updatedAt }

/-- A hash as `HMGET` sees it. -/
def tracedFields (hash : Option (Traced ScoreState)) : Traced ScoreState :=
  hash.getD ⟨{}, []⟩

/-- `publishLocal` on an entry. -/
def MirrorEntry.publishLocal (snap : Traced Snapshot) (generation pointer : Nat) (now : Int)
    (e : MirrorEntry) : MirrorEntry :=
  if e.generation ≠ generation then e
  else
    { e with
      state := { e.state with updatedAt := now, tierOffset := snap.value.tierOffset }
      sharedCheckedAt := now
      published := some ⟨pointer, snap⟩ }

/-- The last loop of `refreshShared` on an entry. -/
def MirrorEntry.storeRead (state : Traced ScoreState) (generation : Nat) (published : Option Nat)
    (pointer : Nat) (now : Int) (e : MirrorEntry) : MirrorEntry :=
  if e.generation ≠ generation ∨ e.pointer ≠ published then e
  else if state.value.updatedAt ≤ 0 then { e.resetLocked with sharedCheckedAt := now }
  else
    { e with
      state := state.value
      published := some ⟨pointer, ⟨state.value.snapshot, state.outcomes⟩⟩
      sharedCheckedAt := now }

namespace ScoreWorld

/-- `LoadOrStore`, and what is then written to the entry. -/
def touch (w : ScoreWorld) (key : ScoreKey) (e : MirrorEntry) : ScoreWorld :=
  { w with stored := w.stored.insert key, entry := update w.entry key e }

/-- A call goes on. -/
def advance (w : ScoreWorld) (id : Nat) (call : ScoreCall) : ScoreWorld :=
  { w with calls := update w.calls id call }

/-- `score_update.lua` on the hash of a key. -/
def runScript (setting : ChannelDynamicScoreSetting) (w : ScoreWorld) (id : Nat) (key : ScoreKey)
    (outcome : ScoreOutcome) (now : Int) : Traced ScoreState :=
  let hash := tracedFields (w.redis key)
  ⟨ScoreUpdate.fields setting now outcome hash.value, id :: hash.outcomes⟩

/-- A step, if the call that takes it is there. -/
def apply (setting : ChannelDynamicScoreSetting) (channelId : Int) (w : ScoreWorld) :
    ScoreEvent → Option ScoreWorld
  | .report id key outcome now =>
      match w.calls id with
      | .idle => some ((w.touch key (w.entry key)).advance id
          (.reporting key outcome now (w.entry key).generation))
      | _ => none
  | .runScript id =>
      match w.calls id with
      | .reporting key outcome now generation =>
          let hash := w.runScript setting id key outcome now
          some ({ w with
            redis := update w.redis key (some hash)
            written := key :: w.written
            ran := id :: w.ran }.advance id
              (.ran key generation ⟨hash.value.snapshot, hash.outcomes⟩))
      | _ => none
  | .publishLocal id now =>
      match w.calls id with
      | .ran key generation snap =>
          let e := (w.entry key).publishLocal snap generation w.pointers now
          some ({ w.touch key e with pointers := w.pointers + 1 }.advance id .done)
      | _ => none
  | .capture id key now =>
      match w.calls id with
      | .idle =>
          let e := w.entry key
          let call := if e.sharedCheckedAt > 0 ∧
              now - e.sharedCheckedAt < sharedStoreHealthTTLSeconds then .done
            else .captured key e.generation e.pointer
          some ((w.touch key e).advance id call)
      | _ => none
  | .hmget id =>
      match w.calls id with
      | .captured key generation published =>
          let hash := tracedFields (w.redis key)
          some (w.advance id (.read key generation published
            ⟨hash.value.mirrored, hash.outcomes⟩))
      | _ => none
  | .store id now =>
      match w.calls id with
      | .read key generation published state =>
          let e := (w.entry key).storeRead state generation published w.pointers now
          some ({ w.touch key e with pointers := w.pointers + 1 }.advance id .done)
      | _ => none
  | .expire key =>
      some { w with
        redis := update w.redis key none
        reset := w.reset.expire key }
  | .scan =>
      match w.reset with
      | .idle =>
          let stable := w.written.filter fun k => k.channelId = channelId && (w.redis k).isSome
          some { w with reset := .scanning stable w.ran }
      | _ => none
  | .scanned keys =>
      match w.reset with
      | .scanning stable before =>
          if (stable.all (· ∈ keys)) && keys.all (·.channelId = channelId) then
            some { w with reset := .scanned keys before }
          else none
      | _ => none
  | .delete =>
      match w.reset with
      | .scanned keys before => some { w with
          redis := fun k => if k ∈ keys then none else w.redis k
          reset := .deleted ⟨keys, before, w.ran⟩ }
      | _ => none
  -- an error of Redis is logged, and the local records are cleared all the same
  | .resetFails =>
      match w.reset with
      | .scanning _ _ => some { w with reset := .deleted ⟨[], [], []⟩ }
      | .scanned _ _ => some { w with reset := .deleted ⟨[], [], []⟩ }
      | _ => none
  | .range =>
      match w.reset with
      | .deleted record => some { w with
          reset := .walking (w.stored.filter (·.channelId = channelId)) record }
      | _ => none
  | .visit key =>
      match w.reset with
      | .walking todo record =>
          if key ∈ w.stored ∧ key.channelId = channelId then
            some { w.touch key (w.entry key).resetLocked with
              reset := .walking (todo.filter (· ≠ key)) record }
          else none
      | _ => none
  | .resetReturns =>
      match w.reset with
      | .walking [] record => some { w with reset := .returned record }
      | _ => none

end ScoreWorld

/-- The step relation. -/
def ScoreStep (setting : ChannelDynamicScoreSetting) (channelId : Int) (w : ScoreWorld)
    (e : ScoreEvent) (w' : ScoreWorld) : Prop :=
  w.apply setting channelId e = some w'

/-! ## What reports, refreshes and expiry can do -/

namespace ScoreCall

/-- The mirror that a call is about and the generation that it has noted. -/
def mirror : ScoreCall → Option (ScoreKey × Nat)
  | .reporting key _ _ generation => some (key, generation)
  | .ran key generation _ => some (key, generation)
  | .captured key generation _ => some (key, generation)
  | .read key generation _ _ => some (key, generation)
  | _ => none

/-- The reports whose outcomes a call may publish. -/
def holds : ScoreCall → List Nat
  | .ran _ _ snap => snap.outcomes
  | .read _ _ _ state => state.outcomes
  | _ => []

/-- The script of the call has not run. -/
def unran : ScoreCall → Bool
  | .idle => true
  | .reporting _ _ _ _ => true
  | _ => false

end ScoreCall

/-- What `Report`, `refreshShared` and the expiry of a hash can do. -/
structure Tame (w w' : ScoreWorld) : Prop where
  ran : ∀ id ∈ w.ran, id ∈ w'.ran
  redis : ∀ k h, w'.redis k = some h → ∀ id ∈ h.outcomes,
    id ∉ w.ran ∨ ∃ h, w.redis k = some h ∧ id ∈ h.outcomes
  generation : ∀ k, (w.entry k).generation ≤ (w'.entry k).generation
  published : ∀ k p, (w'.entry k).published = some p → (w.entry k).published = some p ∨
    ∃ id, (w.calls id).mirror = some (k, (w.entry k).generation) ∧
      p.snap.outcomes = (w.calls id).holds
  calls : ∀ id k g, (w'.calls id).mirror = some (k, g) →
    ((w.calls id).mirror = some (k, g) ∧ (w'.calls id).holds = (w.calls id).holds) ∨
    ∀ o ∈ (w'.calls id).holds, o ∉ w.ran ∨ ∃ h, w.redis k = some h ∧ o ∈ h.outcomes

/-- What holds whatever the reset does. -/
structure ScoreWorld.Sound (w : ScoreWorld) : Prop where
  fresh : ∀ id, (w.calls id).unran = true → id ∉ w.ran
  written : ∀ k h, w.redis k = some h → k ∈ w.written
  published : ∀ k p, (w.entry k).published = some p → k ∈ w.stored
  calls : ∀ id k g, (w.calls id).mirror = some (k, g) → k ∈ w.stored ∧ g ≤ (w.entry k).generation

section Moves
variable {setting : ChannelDynamicScoreSetting} {channelId : Int} {w : ScoreWorld}

variable {key : ScoreKey}

theorem mem_tracedFields {w : ScoreWorld} {o : Nat}
    (ho : o ∈ (tracedFields (w.redis key)).outcomes) :
    ∃ h, w.redis key = some h ∧ o ∈ h.outcomes := by
  unfold tracedFields at ho
  cases hred : w.redis key with
  | none => simp [hred] at ho
  | some h =>
    rw [hred] at ho
    exact ⟨h, rfl, ho⟩

theorem publishLocal_spec (e : MirrorEntry) (snap : Traced Snapshot) (generation pointer : Nat)
    (now : Int) : (e.publishLocal snap generation pointer now).generation = e.generation ∧
      ∀ p, (e.publishLocal snap generation pointer now).published = some p →
        e.published = some p ∨ (e.generation = generation ∧ p.snap.outcomes = snap.outcomes) := by
  unfold MirrorEntry.publishLocal
  split
  · exact ⟨rfl, fun p hp => .inl hp⟩
  rename_i hgen
  refine ⟨rfl, fun p hp => .inr ⟨not_not.mp hgen, ?_⟩⟩
  cases hp
  rfl

theorem storeRead_spec (e : MirrorEntry) (state : Traced ScoreState) (generation : Nat)
    (published : Option Nat) (pointer : Nat) (now : Int) :
    e.generation ≤ (e.storeRead state generation published pointer now).generation ∧
      ∀ p, (e.storeRead state generation published pointer now).published = some p →
        e.published = some p ∨ (e.generation = generation ∧ p.snap.outcomes = state.outcomes) := by
  unfold MirrorEntry.storeRead
  split
  · exact ⟨le_rfl, fun p hp => .inl hp⟩
  rename_i hsm
  push Not at hsm
  split
  · exact ⟨Nat.le_succ _, fun p hp => by cases hp⟩
  refine ⟨le_rfl, fun p hp => .inr ⟨hsm.1, ?_⟩⟩
  cases hp
  rfl

variable {id : Nat}

open ScoreWorld

/-- A call looks at a mirror or writes to it, and holds nothing afterwards. -/
theorem tame_touch {e : MirrorEntry} {call : ScoreCall}
    {pointers : Nat} (hgen : (w.entry key).generation ≤ e.generation)
    (hpub : ∀ p, e.published = some p → (w.entry key).published = some p ∨
      ((w.calls id).mirror = some (key, (w.entry key).generation) ∧
        p.snap.outcomes = (w.calls id).holds)) (hca : call.holds = []) :
    Tame w ({ w.touch key e with pointers := pointers }.advance id call) := by
  refine ⟨fun _ h => h, fun k h hk o ho => .inr ⟨h, hk, ho⟩, fun k => ?_, fun k p hp => ?_,
    fun i k g hi => ?_⟩
  · by_cases hkey : k = key
    · subst hkey
      simpa [advance, touch] using hgen
    · simp [advance, touch, hkey]
  · by_cases hkey : k = key
    · subst hkey
      have he : e.published = some p := by
        simpa [advance, touch] using hp
      rcases hpub p he with hold | hnew
      · exact .inl hold
      · exact .inr ⟨id, hnew⟩
    · left
      simpa [advance, touch, hkey] using hp
  · by_cases hid : i = id
    · subst hid
      right
      simp [advance, hca]
    · left
      simp only [advance, touch, update_of_ne hid] at hi ⊢
      exact ⟨hi, trivial⟩

theorem sound_touch (hw : w.Sound) {e : MirrorEntry}
    {call : ScoreCall} {pointers : Nat} (hgen : (w.entry key).generation ≤ e.generation)
    (hca : ∀ k g, call.mirror = some (k, g) → k = key ∧ g ≤ e.generation)
    (hran : call.unran = true → (w.calls id).unran = true) :
    ({ w.touch key e with pointers := pointers }.advance id call).Sound := by
  refine ⟨fun i hi => ?_, hw.written, fun k p hp => ?_, fun i k g hi => ?_⟩
  · by_cases hid : i = id
    · subst hid
      exact hw.fresh i (hran (by simpa [advance] using hi))
    · refine hw.fresh i ?_
      simpa [advance, touch, update_of_ne hid] using hi
  · change k ∈ w.stored.insert key
    rw [mem_insert_iff]
    by_cases hkey : k = key
    · exact .inl hkey
    right
    refine hw.published k p ?_
    simpa [advance, touch, update_of_ne hkey] using hp
  · change k ∈ w.stored.insert key ∧ g ≤ (update w.entry key e k).generation
    rw [mem_insert_iff]
    by_cases hid : i = id
    · subst hid
      obtain ⟨rfl, hle⟩ := hca k g (by simpa [advance] using hi)
      exact ⟨.inl rfl, by simpa using hle⟩
    · have hold : (w.calls i).mirror = some (k, g) := by
        simpa [advance, touch, update_of_ne hid] using hi
      obtain ⟨hstore, hle⟩ := hw.calls i k g hold
      refine ⟨.inr hstore, ?_⟩
      by_cases hkey : k = key
      · subst hkey
        simpa using hle.trans hgen
      · simpa [update_of_ne hkey] using hle

variable {w' : ScoreWorld}

/-- A call that goes on keeps the mirror that it has. -/
theorem mirror_of_advance {call : ScoreCall} {i : Nat} {m : Option (ScoreKey × Nat)}
    (hca : (w.calls id).mirror = call.mirror) (hi : ((w.advance id call).calls i).mirror = m) :
    (w.calls i).mirror = m := by
  by_cases hi' : i = id
  · subst hi'
    rw [hca]
    simpa [advance] using hi
  · simpa [advance, update_of_ne hi'] using hi

theorem tame_runScript (hw : w.Sound) {outcome : ScoreOutcome}
    {now : Int} {generation : Nat} (hid : w.calls id = .reporting key outcome now generation)
    (h : w.apply setting channelId (.runScript id) = some w') :
    Tame w w' ∧ w'.Sound ∧ w'.reset = w.reset := by
  have hnew : id ∉ w.ran := hw.fresh id (by rw [hid]; rfl)
  have hpa : ∀ o ∈ (w.runScript setting id key outcome now).outcomes,
      o ∉ w.ran ∨ ∃ h, w.redis key = some h ∧ o ∈ h.outcomes := by
    intro o ho
    rcases mem_cons.mp ho with rfl | ho
    · exact .inl hnew
    · exact .inr (mem_tracedFields ho)
  simp only [ScoreWorld.apply, hid, Option.some.injEq] at h
  subst h
  refine ⟨⟨fun o ho => mem_cons_of_mem _ ho, fun k h hk o ho => ?_, fun k => le_rfl,
    fun k p hp => .inl hp, fun i k g hi => ?_⟩, ⟨fun i hi => ?_, fun k h hk => ?_, hw.published,
    fun i k g hi => ?_⟩, rfl⟩
  · by_cases hkey : k = key
    · subst hkey
      simp only [advance, update_self, Option.some.injEq] at hk
      exact hpa o (hk ▸ ho)
    · simp only [advance, update_of_ne hkey] at hk
      exact .inr ⟨h, hk, ho⟩
  · by_cases hi' : i = id
    · subst hi'
      right
      simp only [advance, update_self, ScoreCall.mirror, Option.some.injEq, Prod.mk.injEq] at hi ⊢
      exact hi.1 ▸ hpa
    · left
      simp only [advance, update_of_ne hi'] at hi ⊢
      exact ⟨hi, trivial⟩
  · by_cases hi' : i = id
    · subst hi'
      simp [advance, ScoreCall.unran] at hi
    · simp only [advance, update_of_ne hi'] at hi ⊢
      exact not_mem_cons_of_ne_of_not_mem hi' (hw.fresh i hi)
  · by_cases hkey : k = key
    · exact hkey ▸ mem_cons_self
    simp only [advance, update_of_ne hkey] at hk
    exact mem_cons_of_mem _ (hw.written k h hk)
  · exact hw.calls i k g (mirror_of_advance (by rw [hid]; rfl) hi)

theorem tame_hmget (hw : w.Sound) {generation : Nat}
    {published : Option Nat} (hid : w.calls id = .captured key generation published)
    (h : w.apply setting channelId (.hmget id) = some w') :
    Tame w w' ∧ w'.Sound ∧ w'.reset = w.reset := by
  simp only [ScoreWorld.apply, hid, Option.some.injEq] at h
  subst h
  refine ⟨⟨fun _ ho => ho, fun k h hk o ho => .inr ⟨h, hk, ho⟩, fun k => le_rfl,
    fun k p hp => .inl hp, fun i k g hi => ?_⟩, ⟨fun i hi => ?_, hw.written, hw.published,
    fun i k g hi => ?_⟩, rfl⟩
  · by_cases hi' : i = id
    · subst hi'
      right
      simp only [advance, update_self, ScoreCall.mirror, Option.some.injEq, Prod.mk.injEq] at hi ⊢
      intro o ho
      exact .inr (hi.1 ▸ mem_tracedFields ho)
    · left
      simp only [advance, update_of_ne hi'] at hi ⊢
      exact ⟨hi, trivial⟩
  · by_cases hi' : i = id
    · subst hi'
      simp [advance, ScoreCall.unran] at hi
    · simp only [advance, update_of_ne hi'] at hi
      exact hw.fresh i hi
  · exact hw.calls i k g (mirror_of_advance (by rw [hid]; rfl) hi)

/-- The steps of `Report` and `refreshShared`. -/
def ScoreEvent.ofCall : ScoreEvent → Bool
  | .report _ _ _ _ => true
  | .runScript _ => true
  | .publishLocal _ _ => true
  | .capture _ _ _ => true
  | .hmget _ => true
  | .store _ _ => true
  | _ => false

/-- **What a step of a call can do.** -/
theorem tame_call (hw : w.Sound) {e : ScoreEvent} (he : e.ofCall = true)
    (h : w.apply setting channelId e = some w') : Tame w w' ∧ w'.Sound ∧ w'.reset = w.reset := by
  cases e with
  | report id key outcome now =>
    simp only [ScoreWorld.apply] at h
    split at h
    · rename_i hid
      cases h
      refine ⟨tame_touch le_rfl (fun p hp => .inl hp) rfl, sound_touch hw le_rfl ?_ ?_, rfl⟩
      · rintro k g hk
        cases hk
        exact ⟨rfl, le_rfl⟩
      · rw [hid]
        exact fun _ => rfl
    · cases h
  | runScript id =>
    cases hid : w.calls id with
    | reporting key outcome now generation => exact tame_runScript hw hid h
    | _ => simp [ScoreWorld.apply, hid] at h
  | publishLocal id now =>
    simp only [ScoreWorld.apply] at h
    split at h
    · rename_i key generation snap hid
      cases h
      obtain ⟨hgen, hpub⟩ := publishLocal_spec (w.entry key) snap generation w.pointers now
      refine ⟨tame_touch hgen.ge (fun p hp => ?_) rfl, sound_touch hw hgen.ge ?_ ?_, rfl⟩
      · rcases hpub p hp with hold | ⟨hsm, hout⟩
        · exact .inl hold
        right
        rw [hid, hsm]
        exact ⟨rfl, hout⟩
      · rintro k g hk
        cases hk
      · intro hrun
        cases hrun
    · cases h
  | capture id key now =>
    simp only [ScoreWorld.apply] at h
    split at h
    · rename_i hid
      cases h
      refine ⟨tame_touch le_rfl (fun p hp => .inl hp) ?_, sound_touch hw le_rfl ?_ ?_, rfl⟩
      · split
        · rfl
        · rfl
      · rintro k g hk
        split at hk
        · cases hk
        cases hk
        exact ⟨rfl, le_rfl⟩
      · rw [hid]
        exact fun _ => rfl
    · cases h
  | hmget id =>
    cases hid : w.calls id with
    | captured key generation published => exact tame_hmget hw hid h
    | _ => simp [ScoreWorld.apply, hid] at h
  | store id now =>
    simp only [ScoreWorld.apply] at h
    split at h
    · rename_i key generation published state hid
      cases h
      obtain ⟨hgen, hpub⟩ :=
        storeRead_spec (w.entry key) state generation published w.pointers now
      refine ⟨tame_touch hgen (fun p hp => ?_) rfl, sound_touch hw hgen ?_ ?_, rfl⟩
      · rcases hpub p hp with hold | ⟨hsm, hout⟩
        · exact .inl hold
        right
        rw [hid, hsm]
        exact ⟨rfl, hout⟩
      · rintro k g hk
        cases hk
      · intro hrun
        cases hrun
    · cases h
  | _ => cases he

end Moves

/-! ## What the reset leaves behind -/

section Reset
variable {setting : ChannelDynamicScoreSetting} {channelId : Int} {w w' : ScoreWorld}

/-- An outcome that the reset is to remove from a key: its script had run before the scan began,
or before the delete of that key. -/
def Forbidden (channelId : Int) (r : ResetRecord) (k : ScoreKey) (id : Nat) : Prop :=
  k.channelId = channelId ∧ (id ∈ r.before ∨ (k ∈ r.keys ∧ id ∈ r.atDelete))

/-- A hash with an outcome from before the scan is among the keys. -/
def Covered (channelId : Int) (w : ScoreWorld) (before : List Nat) (keys : List ScoreKey) : Prop :=
  ∀ k h, k.channelId = channelId → w.redis k = some h → ∀ id ∈ h.outcomes, id ∈ before → k ∈ keys

/-- The hashes after the delete. -/
structure Cleared (channelId : Int) (w : ScoreWorld) (r : ResetRecord) : Prop where
  past : ∀ id, id ∈ r.before ∨ id ∈ r.atDelete → id ∈ w.ran
  redis : ∀ k h, w.redis k = some h → ∀ id ∈ h.outcomes, ¬Forbidden channelId r k id

/-- **A mirror after the walk has come to it**: it has no outcome that was to be removed, and who
holds one has noted an older generation. -/
structure Settled (channelId : Int) (w : ScoreWorld) (r : ResetRecord) (k : ScoreKey) : Prop where
  published : ∀ p, (w.entry k).published = some p →
    ∀ id ∈ p.snap.outcomes, ¬Forbidden channelId r k id
  calls : ∀ id g, (w.calls id).mirror = some (k, g) →
    ∀ o ∈ (w.calls id).holds, Forbidden channelId r k o → g < (w.entry k).generation

/-- What holds in each phase of the reset. -/
def PhaseSound (channelId : Int) (w : ScoreWorld) : ResetPhase → Prop
  | .idle => True
  | .scanning stable before => (∀ id ∈ before, id ∈ w.ran) ∧ Covered channelId w before stable
  | .scanned keys before => (∀ id ∈ before, id ∈ w.ran) ∧ Covered channelId w before keys
  | .deleted r => Cleared channelId w r
  | .walking todo r => Cleared channelId w r ∧ ∀ k ∉ todo, Settled channelId w r k
  | .returned r => Cleared channelId w r ∧ ∀ k, Settled channelId w r k

variable {r : ResetRecord} {k : ScoreKey}

theorem Cleared.ran_of_forbidden (h : Cleared channelId w r)
    {id : Nat} (hid : Forbidden channelId r k id) : id ∈ w.ran := by
  rcases hid.2 with hbef | ⟨-, hdel⟩
  · exact h.past id (.inl hbef)
  · exact h.past id (.inr hdel)

theorem Tame.covered (ht : Tame w w') {before : List Nat} {keys : List ScoreKey}
    (hran : ∀ id ∈ before, id ∈ w.ran) (h : Covered channelId w before keys) :
    Covered channelId w' before keys := by
  intro k hash hk hred id hid hbef
  rcases ht.redis k hash hred id hid with hnew | ⟨old, hold, hmem⟩
  · exact absurd (hran id hbef) hnew
  · exact h k old hk hold id hmem hbef

theorem Tame.cleared (ht : Tame w w') (h : Cleared channelId w r) : Cleared channelId w' r := by
  refine ⟨fun id hid => ht.ran id (h.past id hid), fun k hash hred id hid hfo => ?_⟩
  rcases ht.redis k hash hred id hid with hnew | ⟨old, hold, hmem⟩
  · exact hnew (h.ran_of_forbidden hfo)
  · exact h.redis k old hold id hmem hfo

/-- What is published is of the generation that the mirror has, so it was computed after the
delete. -/
theorem Tame.settled (ht : Tame w w') (hcle : Cleared channelId w r)
    (h : Settled channelId w r k) : Settled channelId w' r k := by
  refine ⟨fun p hp id hid hfo => ?_, fun i g hi o ho hfo => ?_⟩
  · rcases ht.published k p hp with hold | ⟨call, hca, hout⟩
    · exact h.published p hold id hid hfo
    rw [hout] at hid
    exact lt_irrefl _ (h.calls call _ hca id hid hfo)
  · rcases ht.calls i k g hi with ⟨hold, hhol⟩ | hnew
    · rw [hhol] at ho
      exact (h.calls i g hold o ho hfo).trans_le (ht.generation k)
    · rcases hnew o ho with hran | ⟨hash, hred, hmem⟩
      · exact absurd (hcle.ran_of_forbidden hfo) hran
      · exact absurd hfo (hcle.redis k hash hred o hmem)

theorem Tame.phaseSound (ht : Tame w w') {phase : ResetPhase}
    (h : PhaseSound channelId w phase) : PhaseSound channelId w' phase := by
  cases phase with
  | idle => trivial
  | scanning stable before
  | scanned keys before => exact ⟨fun id hid => ht.ran id (h.1 id hid), ht.covered h.1 h.2⟩
  | deleted r => exact ht.cleared h
  | walking todo r => exact ⟨ht.cleared h.1, fun k hk => ht.settled h.1 (h.2 k hk)⟩
  | returned r => exact ⟨ht.cleared h.1, fun k => ht.settled h.1 (h.2 k)⟩

/-- A hash expires: it is no longer among those that have been there all the time. -/
theorem sound_expire (hw : w.Sound) (hphase : PhaseSound channelId w w.reset) {key : ScoreKey}
    (h : w.apply setting channelId (.expire key) = some w') :
    w'.Sound ∧ PhaseSound channelId w' w'.reset := by
  simp only [ScoreWorld.apply, Option.some.injEq] at h
  subst h
  have hred : ∀ k hash, update w.redis key none k = some hash →
      k ≠ key ∧ w.redis k = some hash := by
    intro k hash hk
    by_cases hkey : k = key
    · subst hkey
      simp at hk
    · rw [update_of_ne hkey] at hk
      exact ⟨hkey, hk⟩
  have ht : ∀ phase, Tame w { w with redis := update w.redis key none, reset := phase } :=
    fun phase => ⟨fun _ ho => ho, fun k hash hk o ho => .inr ⟨hash, (hred k hash hk).2, ho⟩,
      fun k => le_rfl, fun k p hp => .inl hp, fun i k g hi => .inl ⟨hi, rfl⟩⟩
  refine ⟨⟨hw.fresh, fun k hash hk => hw.written k hash (hred k hash hk).2, hw.published,
    hw.calls⟩, ?_⟩
  generalize w.reset = phase at hphase
  have hkept := (ht (phase.expire key)).phaseSound hphase
  cases phase with
  | scanning stable before =>
    obtain ⟨hran, hcov⟩ := hkept
    refine ⟨hran, fun k hash hk hget id hid hbef => mem_filter.mpr ⟨?_, ?_⟩⟩
    · exact hcov k hash hk hget id hid hbef
    · simpa using (hred k hash hget).1
  | idle | scanned keys before | deleted r | walking todo r | returned r => exact hkept

/-- The scan notes what is there when it begins. -/
theorem covered_scan (hw : w.Sound) : Covered channelId w w.ran
    (w.written.filter fun k => k.channelId = channelId && (w.redis k).isSome) := by
  intro k hash hk hred id _ _
  refine mem_filter.mpr ⟨hw.written k hash hred, ?_⟩
  simp [hk, hred]

/-- **The delete** leaves nothing of before in the hashes. -/
theorem cleared_delete {keys : List ScoreKey} {before : List Nat}
    (hran : ∀ id ∈ before, id ∈ w.ran) (hcov : Covered channelId w before keys)
    (phase : ResetPhase) : Cleared channelId
      { w with redis := fun k => if k ∈ keys then none else w.redis k, reset := phase }
      ⟨keys, before, w.ran⟩ := by
  refine ⟨fun id hid => ?_, fun k hash hk id hid hfo => ?_⟩
  · rcases hid with hid | hid
    · exact hran id hid
    · exact hid
  · dsimp only at hk
    split at hk
    · cases hk
    rename_i hkept
    rcases hfo.2 with hbef | ⟨hkey, -⟩
    · exact hkept (hcov k hash hfo.1 hk id hid hbef)
    · exact hkept hkey

/-- A key that is not in the store has no snapshot, and no call is about it. -/
theorem settled_of_not_stored (hw : w.Sound)
    (hk : k.channelId = channelId → k ∉ w.stored) : Settled channelId w r k := by
  refine ⟨fun p hp id _ hfo => ?_, fun i g hi o _ hfo => ?_⟩
  · exact hk hfo.1 (hw.published k p hp)
  · exact absurd (hw.calls i k g hi).1 (hk hfo.1)

/-- **The walk comes to a mirror.** -/
theorem sound_visit (hw : w.Sound) (key : ScoreKey) {todo : List ScoreKey}
    (hset : ∀ k ∉ todo, Settled channelId w r k) (phase : ResetPhase) :
    let w' := { w.touch key (w.entry key).resetLocked with reset := phase }
    w'.Sound ∧ ∀ k ∉ todo.filter (· ≠ key), Settled channelId w' r k := by
  have hse : (w.touch key (w.entry key).resetLocked).entry key = (w.entry key).resetLocked :=
    update_self ..
  have hoth : ∀ k, k ≠ key → (w.touch key (w.entry key).resetLocked).entry k = w.entry k :=
    fun k hk => update_of_ne hk ..
  refine ⟨⟨hw.fresh, hw.written, fun k p hp => ?_, fun i k g hi => ?_⟩, fun k hk => ?_⟩
  · change k ∈ w.stored.insert key
    rw [mem_insert_iff]
    by_cases hk : k = key
    · exact .inl hk
    refine .inr (hw.published k p ?_)
    rw [← hoth k hk]
    exact hp
  · obtain ⟨hstore, hle⟩ := hw.calls i k g hi
    refine ⟨mem_insert_of_mem hstore, ?_⟩
    by_cases hk : k = key
    · subst hk
      rw [hse]
      exact hle.trans (Nat.le_succ _)
    · rw [hoth k hk]
      exact hle
  · by_cases hk' : k = key
    · subst hk'
      refine ⟨fun p hp => ?_, fun i g hi o _ _ => ?_⟩
      · rw [hse] at hp
        cases hp
      · rw [hse]
        exact Nat.lt_succ_of_le (hw.calls i k g hi).2
    · have hout : k ∉ todo := fun hmem => hk (mem_filter.mpr ⟨hmem, by simpa using hk'⟩)
      obtain ⟨hpub, hcls⟩ := hset k hout
      refine ⟨fun p hp => ?_, fun i g hi o ho hfo => ?_⟩
      · rw [hoth k hk'] at hp
        exact hpub p hp
      · rw [hoth k hk']
        exact hcls i g hi o ho hfo

/-- **Every step keeps what holds in the phase of the reset.** -/
theorem step_phaseSound (hw : w.Sound ∧ PhaseSound channelId w w.reset) {e : ScoreEvent}
    (h : ScoreStep setting channelId w e w') : w'.Sound ∧ PhaseSound channelId w' w'.reset := by
  obtain ⟨hw, hphase⟩ := hw
  cases he : e.ofCall with
  | true =>
    obtain ⟨ht, hsound, hres⟩ := tame_call hw he h
    rw [hres]
    exact ⟨hsound, ht.phaseSound hphase⟩
  | false =>
    cases e with
    | expire key => exact sound_expire hw hphase h
    | scan =>
      simp only [ScoreStep, ScoreWorld.apply] at h
      split at h
      · cases h
        have hsound : ∀ phase, ScoreWorld.Sound { w with reset := phase } :=
          fun _ => { hw with }
        exact ⟨hsound _, fun _ hid => hid, covered_scan (hsound _)⟩
      · cases h
    | scanned keys =>
      simp only [ScoreStep, ScoreWorld.apply] at h
      split at h
      · rename_i stable before hres
        split at h
        · rename_i hks
          cases h
          rw [hres] at hphase
          simp only [Bool.and_eq_true, all_eq_true, decide_eq_true_eq] at hks
          exact ⟨{ hw with }, hphase.1,
            fun k hash hk hget id hid hbef =>
              hks.1 k (hphase.2 k hash hk hget id hid hbef)⟩
        · cases h
      · cases h
    | delete =>
      simp only [ScoreStep, ScoreWorld.apply] at h
      split at h
      · rename_i keys before hres
        cases h
        rw [hres] at hphase
        refine ⟨{ hw with written := fun k hash hk => ?_ }, cleared_delete hphase.1 hphase.2 _⟩
        dsimp only at hk
        split at hk
        · cases hk
        · exact hw.written k hash hk
      · cases h
    | resetFails =>
      have hno : ∀ phase, Cleared channelId { w with reset := phase } ⟨[], [], []⟩ :=
        fun phase => ⟨fun id hid => by simp at hid, fun k hash hk id hid hfo => by
          rcases hfo.2 with hbef | hdel
          · cases hbef
          · cases hdel.1⟩
      simp only [ScoreStep, ScoreWorld.apply] at h
      split at h
      · cases h
        exact ⟨{ hw with }, hno _⟩
      · cases h
        exact ⟨{ hw with }, hno _⟩
      · cases h
    | range =>
      simp only [ScoreStep, ScoreWorld.apply] at h
      split at h
      · rename_i r hres
        cases h
        rw [hres] at hphase
        have hsound : ∀ phase, ScoreWorld.Sound { w with reset := phase } :=
          fun _ => { hw with }
        refine ⟨hsound _, ⟨hphase.past, hphase.redis⟩, fun k hk => ?_⟩
        refine settled_of_not_stored (hsound _) fun hch hstore => hk ?_
        exact mem_filter.mpr ⟨hstore, by simpa using hch⟩
      · cases h
    | visit key =>
      simp only [ScoreStep, ScoreWorld.apply] at h
      split at h
      · rename_i todo r hres
        split at h
        · cases h
          rw [hres] at hphase
          obtain ⟨hsound, hset⟩ := sound_visit hw key hphase.2 _
          exact ⟨hsound, ⟨hphase.1.past, hphase.1.redis⟩, hset⟩
        · cases h
      · cases h
    | resetReturns =>
      simp only [ScoreStep, ScoreWorld.apply] at h
      split at h
      · rename_i r hres
        cases h
        rw [hres] at hphase
        refine ⟨{ hw with }, ⟨hphase.1.past, hphase.1.redis⟩, fun k => ?_⟩
        obtain ⟨hpub, hcls⟩ := hphase.2 k not_mem_nil
        exact ⟨hpub, hcls⟩
      · cases h
    | _ => cases he

/-- **A reset is not undone by work in flight.**  After it has returned, no snapshot of a key of
the channel has an outcome whose script had run before the scan began, and none of a key that it
deleted has one whose script had run before the delete. -/
theorem reset_not_undone {es : List ScoreEvent} {r : ResetRecord}
    (h : Run (ScoreStep setting channelId) {} es w) (hreturned : w.reset = .returned r)
    {k : ScoreKey} (hk : k.channelId = channelId) {p : Published}
    (hp : (w.entry k).published = some p) :
    ∀ id ∈ p.snap.outcomes, id ∉ r.before ∧ (k ∈ r.keys → id ∉ r.atDelete) := by
  have hstr : ({} : ScoreWorld).Sound ∧ PhaseSound channelId {} ({} : ScoreWorld).reset := by
    refine ⟨⟨fun id _ => not_mem_nil, fun k h hk => ?_, fun k p hp => ?_, fun i k g hi => ?_⟩,
      trivial⟩
    · cases hk
    · cases hp
    · cases hi
  obtain ⟨-, hphase⟩ := h.invariant (fun _ _ _ hs ht => step_phaseSound hs ht) hstr
  rw [hreturned] at hphase
  intro id hid
  have hcle := (hphase.2 k).published p hp id hid
  exact ⟨fun hbef => hcle ⟨hk, .inl hbef⟩, fun hkey hdel => hcle ⟨hk, .inr ⟨hkey, hdel⟩⟩⟩

/-- A report that ran its script before the reset publishes in the middle of it and is dropped; one
that starts after the reset publishes its own outcome. -/
theorem reset_not_undone_in_flight :
    let k : ScoreKey := ⟨1, "default", "m"⟩
    let r : ResetRecord := ⟨[k], [0], [0]⟩
    ∃ (w : ScoreWorld) (p : Published), w.reset = .returned r ∧
      (w.entry k).published = some p ∧ p.snap.outcomes = [1] ∧
      ∀ id ∈ p.snap.outcomes, id ∉ r.before ∧ (k ∈ r.keys → id ∉ r.atDelete) := by
  intro k r
  let setting : ChannelDynamicScoreSetting := ⟨5, 1, 1, 3, 300, 1800⟩
  let es : List ScoreEvent := [.report 0 k .fault 100, .runScript 0, .scan, .scanned [k], .delete,
    .range, .visit k, .publishLocal 0 101, .resetReturns, .report 1 k .success 102, .runScript 1,
    .publishLocal 1 103]
  have hview : (es.foldlM (ScoreWorld.apply setting 1) {}).map (fun w =>
      (w.reset, (w.entry k).published.map (·.snap.outcomes))) = some (.returned r, some [1]) := by
    decide +kernel
  obtain ⟨w, hrun, hen⟩ := Option.map_eq_some_iff.mp hview
  obtain ⟨hres, hpub⟩ := Prod.mk.inj hen
  obtain ⟨p, hp, hout⟩ := Option.map_eq_some_iff.mp hpub
  exact ⟨w, p, hres, hp, hout, reset_not_undone (Run.foldlM (fun _ _ _ h => h) hrun) hres rfl hp⟩

end Reset

end NewApi
