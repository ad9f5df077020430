import NewApi.StreamScanner

/-! # The pump delivers everything and always stops

Two invariants carry the result.  `Piped` follows the payloads: what was handled, what the handler
has taken, what is in the channel and what the scanner has ahead of it are together the payload
lines of the body, until the scanner leaves lines behind or the handler stops.  `Settled` says who
holds the mutex and what the cleanup has done so far.

That the call returns is shown in two parts, as for any system without fairness: no state of the
call is stuck (`exists_due`), and a run has a bound on its length (`measure_step`).  A ping tick is
the one step that may come again and again; it adds a bounded number of steps. -/
namespace NewApi
open HandlerStep List

namespace StreamStatus

@[simp] theorem endReason_setEndReason (reason : StreamEndReason) (err : Option String)
    (s : StreamStatus) :
    (s.setEndReason reason err).endReason = some (s.endReason.getD reason) := by
  unfold setEndReason
  cases h : s.endReason with
  | none => rfl
  | some old => exact h

end StreamStatus

/-! ## The payloads on their way -/

/-- The payloads that the scanner has ahead of it. -/
def ScannerAt.ahead (lines : List String) : ScannerAt → List String
  | .scan => payloads lines
  | .check line => payloads (line :: lines)
  | .send data => data :: payloads lines
  | _ => []

/-- The payload that the handler has taken and not begun with. -/
def HandlerAt.taken : HandlerAt → List String
  | .screen data | .lock data => [data]
  | _ => []

/-- The scanner has closed the channel. -/
def ScannerAt.closed : ScannerAt → Bool
  | .recover _ | .stop | .exited => true
  | _ => false

/-- The scanner is past its last record. -/
def ScannerAt.past : ScannerAt → Bool
  | .close _ | .recover _ | .stop | .exited => true
  | _ => false

/-- The scanner may have left lines behind. -/
def ScannerAt.mayDrop : ScannerAt → Bool
  | .record .scannerErr _ => true
  | at' => at'.past

/-- The handler will not take another payload. -/
def HandlerAt.leaving (srStopped : Bool) : HandlerAt → Bool
  | .handle _ | .check => srStopped
  | .recover _ | .stop | .exited => true
  | _ => false

namespace Pump

/-- The payloads that the handler will still get. -/
def inFlight (s : Pump) : List String :=
  if s.faulted then [] else s.handler.taken ++ s.dataChan ++ s.scanner.ahead s.lines

/-- **The payloads of the body are on their way, in order.** -/
structure Piped (all : List String) (s : Pump) : Prop where
  kept : s.handled ++ s.inFlight <+: payloads all
  whole : s.dropped = false → s.faulted = false → s.handled ++ s.inFlight = payloads all
  halted : s.faulted = true → s.handler.leaving s.srStopped = true
  stopping : s.srStopped = true → s.stopped = true
  crashed : ∀ crash, s.handler = .recover crash → s.faulted = true
  drained : s.handler = .stop ∨ s.handler = .exited → s.faulted = false →
    s.dataClosed = true ∧ s.dataChan = []
  closed : s.dataClosed = s.scanner.closed
  dropped : s.dropped = true → s.scanner.mayDrop = true
  reason : s.status.endReason = some .done ∨ s.status.endReason = some .eof →
    s.faulted = true ∨ s.dropped = false ∧ s.scanner.past = true

/-- What `Piped` speaks about. -/
def pipe (s : Pump) :=
  (s.handled, s.stopped, s.panicked, s.srStopped, s.handler, s.dataChan, s.dataClosed, s.scanner,
    s.lines, s.dropped, s.status.endReason)

variable {all : List String} {s s' : Pump}

theorem Piped.congr (h : Piped all s) (hpi : s'.pipe = s.pipe) : Piped all s' := by
  simp only [pipe, Prod.mk.injEq] at hpi
  obtain ⟨hhan, hstore, hpan, hsr, hhandler, hch, hcl, hsca, hlin, hdrop, hreason⟩ := hpi
  have hfau : s'.faulted = s.faulted := by rw [faulted, hstore, hpan, faulted]
  have hfl : s'.inFlight = s.inFlight := by
    rw [inFlight, hfau, hhandler, hch, hsca, hlin, inFlight]
  obtain ⟨h₁, h₂, h₃, h₄, h₅, h₆, h₇, h₈, h₉⟩ := h
  constructor
  · rw [hhan, hfl]
    exact h₁
  · rw [hhan, hfl, hdrop, hfau]
    exact h₂
  · rw [hfau, hhandler, hsr]
    exact h₃
  · rw [hsr, hstore]
    exact h₄
  · rw [hhandler, hfau]
    exact h₅
  · rw [hhandler, hfau, hcl, hch]
    exact h₆
  · rw [hcl, hsca]
    exact h₇
  · rw [hdrop, hsca]
    exact h₈
  · rw [hreason, hfau, hdrop, hsca]
    exact h₉

/-- Only the scanner and a handler that stops record `done` or `eof`. -/
theorem Piped.record (h : Piped all s) {reason : StreamEndReason} (hdn : reason ≠ .done)
    (heof : reason ≠ .eof) (err : Option String) : Piped all (s.setEndReason reason err) := by
  refine { h with reason := ?_ }
  intro hreason
  refine h.reason ?_
  cases hold : s.status.endReason with
  | some old => simpa [setEndReason, hold] using hreason
  | none =>
    rcases hreason with hreason | hreason
    · simp [setEndReason, hold, hdn] at hreason
    · simp [setEndReason, hold, heof] at hreason

theorem piped_initial (lines : List String) (pingEnabled : Bool) :
    Piped lines (initial lines pingEnabled) := by
  constructor <;> simp [initial, inFlight, faulted, HandlerAt.taken, ScannerAt.ahead,
    HandlerAt.leaving, ScannerAt.closed]

section
variable (h : Piped all s)
include h

/-- The scanner goes on with the same payloads ahead of it. -/
theorem Piped.moves {at₀ at' : ScannerAt} {lines : List String}
    (hat : s.scanner = at₀) (hahe : at'.ahead lines = at₀.ahead s.lines)
    (hcl : at'.closed = at₀.closed) (hpa : at₀.past = true → at'.past = true)
    (hdr : at₀.mayDrop = true → at'.mayDrop = true) :
    Piped all { s with scanner := at', lines := lines } := by
  subst hat
  have hfl : ({ s with scanner := at', lines := lines } : Pump).inFlight = s.inFlight := by
    unfold inFlight faulted
    dsimp only
    rw [hahe]
  refine { h with
    kept := hfl ▸ h.kept, whole := hfl ▸ h.whole, closed := h.closed.trans hcl.symm
    dropped := fun hd => hdr (h.dropped hd), reason := ?_ }
  intro hreason
  exact (h.reason hreason).imp id fun hsca => ⟨hsca.1, hpa hsca.2⟩

theorem Piped.drops (hact : s.scanner.past = false) {at' : ScannerAt}
    (hahe : at'.ahead s.lines = []) (hcl : at'.closed = false) (hdr : at'.mayDrop = true) :
    Piped all { s with scanner := at', dropped := true } := by
  have hop : s.scanner.closed = false := by
    cases hat : s.scanner <;> simp_all [ScannerAt.past, ScannerAt.closed]
  refine { h with
    kept := ?_, whole := nofun, closed := (h.closed.trans hop).trans hcl.symm
    dropped := fun _ => hdr, reason := ?_ }
  · refine List.IsPrefix.trans ?_ h.kept
    unfold inFlight faulted
    dsimp only
    rw [hahe, append_nil]
    split
    · exact prefix_rfl
    · exact (prefix_append_right_inj _).mpr (prefix_append _ _)
  · intro hreason
    rcases h.reason hreason with hf | ⟨-, hp⟩
    · exact .inl hf
    rw [hact] at hp
    cases hp

theorem piped_look {line : String} (hat : s.scanner = .check line) : Piped all (s.look line) := by
  have hmo : ∀ at' : ScannerAt, at'.ahead s.lines = payloads (line :: s.lines) →
      at'.closed = false → Piped all { s with scanner := at' } := by
    intro at' hahe hcl
    exact h.moves hat hahe hcl nofun nofun
  unfold look
  unfold payloads at hmo
  cases hkind : lineKind line with
  | done =>
    rw [hkind] at hmo
    exact hmo (.record .done none) rfl rfl
  | payload data =>
    rw [hkind] at hmo
    exact (hmo (.send data) rfl rfl).congr rfl
  | skipped =>
    rw [hkind] at hmo
    exact hmo .scan rfl rfl
  | text text =>
    rw [hkind] at hmo
    exact (hmo .scan rfl rfl).congr rfl

/-- A payload goes from the scanner into the channel. -/
theorem piped_sends {data : String} (hat : s.scanner = .send data) :
    Piped all { s with scanner := .scan, dataChan := s.dataChan ++ [data] } := by
  have hfl : ({ s with scanner := .scan, dataChan := s.dataChan ++ [data] } : Pump).inFlight =
      s.inFlight := by
    unfold inFlight faulted ScannerAt.ahead
    rw [hat]
    simp
  have hop : s.dataClosed = false := by
    rw [h.closed, hat]
    rfl
  refine { h with
    kept := hfl ▸ h.kept, whole := hfl ▸ h.whole, drained := ?_, closed := hop
    dropped := ?_, reason := ?_ }
  · intro hlf hsnd
    have hcl := (h.drained hlf hsnd).1
    rw [hop] at hcl
    cases hcl
  · intro hd
    have hmay := h.dropped hd
    rw [hat] at hmay
    cases hmay
  · intro hreason
    rcases h.reason hreason with hf | ⟨-, hp⟩
    · exact .inl hf
    rw [hat] at hp
    cases hp

theorem piped_records {reason : StreamEndReason} {err : Option String}
    (hat : s.scanner = .record reason err) :
    Piped all { s.setEndReason reason err with scanner := .close none } := by
  have hmov : Piped all { s with scanner := .close none } :=
    h.moves hat rfl rfl (fun _ => rfl) (fun _ => rfl)
  refine { hmov with reason := ?_ }
  intro hreason
  by_cases hdrop : s.dropped = true
  · have hmay := h.dropped hdrop
    rw [hat] at hmay
    have herr : reason = .scannerErr := by
      cases reason <;> first | rfl | cases hmay
    subst herr
    exact (hmov.record (by decide) (by decide) err).reason hreason
  · exact .inr ⟨Bool.eq_false_iff.mpr hdrop, rfl⟩

theorem piped_closes {crash : Option String} (hat : s.scanner = .close crash)
    {at' : ScannerAt} (hahe : at'.ahead s.lines = []) (hcl : at'.closed = true)
    (hpa : at'.past = true) : Piped all { s with dataClosed := true, scanner := at' } := by
  have hfl : ({ s with dataClosed := true, scanner := at' } : Pump).inFlight = s.inFlight := by
    dsimp only [inFlight, faulted]
    rw [hahe, hat]
    rfl
  refine { h with
    kept := hfl ▸ h.kept, whole := hfl ▸ h.whole
    drained := fun hlf hsnd => ⟨rfl, (h.drained hlf hsnd).2⟩
    closed := hcl.symm, dropped := ?_, reason := ?_ }
  · intro _
    cases at' <;> first | rfl | cases hpa
  · intro hreason
    exact (h.reason hreason).imp id fun hsca => ⟨hsca.1, hpa⟩

/-- **A step of the scanner.** -/
theorem piped_scanner {e : ScannerStep} (he : e.Enabled s) : Piped all (e.effect s) := by
  cases e with
  | readsLine line =>
    obtain ⟨hat, hlin⟩ := he
    obtain ⟨rest, hre⟩ : ∃ rest, s.lines = line :: rest := head?_eq_some_iff.mp hlin
    refine h.moves hat ?_ rfl nofun nofun
    rw [hre]
    rfl
  | readsEnd =>
    obtain ⟨hat, hlin⟩ := he
    have hend : ∃ reason err, s.bodyEnd = .record reason err := by
      dsimp only [bodyEnd]
      split
      all_goals exact ⟨_, _, rfl⟩
    obtain ⟨reason, err, hend⟩ := hend
    refine h.moves hat ?_ ?_ nofun nofun
    · rw [hend, hlin]
      rfl
    · rw [hend]
      rfl
  | readFails err => exact h.drops (by rw [he]; rfl) rfl rfl rfl
  | readUnblocked err => exact h.drops (by rw [he.1]; rfl) rfl rfl rfl
  | panics crash => exact h.drops (by rw [he]; rfl) rfl rfl rfl
  | looks line => exact piped_look h he.1
  | givesUp =>
    refine h.drops ?_ rfl rfl rfl
    obtain ⟨hat, -⟩ := he
    cases hs : s.scanner <;> simp_all [ScannerAt.selecting, ScannerAt.past]
  | sends data => exact piped_sends h he.1
  | records reason err => exact piped_records h he
  | closes crash =>
    cases crash with
    | none | some crash => exact piped_closes h he rfl rfl rfl
  | recovers crash =>
    have hrec : Piped all (s.setEndReason .panic (some ("scanner panic: " ++ crash))) :=
      h.record (by decide) (by decide) _
    exact hrec.moves he rfl rfl (fun _ => rfl) (fun _ => rfl)
  | stops =>
    have hmov : Piped all { s with scanner := .exited } :=
      h.moves he rfl rfl (fun _ => rfl) (fun _ => rfl)
    exact hmov.congr rfl

end

/-! ### The handler -/

section
variable (h : Piped all s)
include h

variable {at' : HandlerAt} {chan handled : List String}

/-- The handler goes on: what it has and what is in the channel is what was there. -/
theorem Piped.flows {sr : Bool} (hsnd : s.faulted = false →
      handled ++ (at'.taken ++ chan) = s.handled ++ (s.handler.taken ++ s.dataChan))
    (hflt : s.faulted = true → handled = s.handled ∧ at'.leaving sr = true)
    (hsr : sr = true → s.stopped = true) (hcra : ∀ crash, at' = .recover crash → s.faulted = true)
    (hdra : at' = .stop ∨ at' = .exited → s.faulted = false → s.dataClosed = true ∧ chan = []) :
    Piped all { s with handler := at', dataChan := chan, handled := handled, srStopped := sr } := by
  have hfl : handled ++ (if s.faulted then [] else
      at'.taken ++ chan ++ s.scanner.ahead s.lines) = s.handled ++ s.inFlight := by
    unfold inFlight
    split
    · rename_i hf
      rw [(hflt hf).1]
    · rename_i hf
      rw [← append_assoc, hsnd (Bool.eq_false_iff.mpr hf), append_assoc]
  refine { h with
    kept := ?_, whole := fun hd hf => hfl.trans (h.whole hd hf)
    halted := fun hf => (hflt hf).2, stopping := hsr, crashed := hcra, drained := hdra }
  have hkept := h.kept
  rw [← hfl] at hkept
  exact hkept

/-- The handler stops the stream or panics. -/
theorem Piped.faults {sr stopped panicked : Bool}
    (hflt : (stopped || panicked) = true) (hlea : at'.leaving sr = true)
    (hsr : sr = true → stopped = true) : Piped all
      { s with handler := at', srStopped := sr, stopped := stopped, panicked := panicked } := by
  have hfl : (if (stopped || panicked) = true then [] else
      at'.taken ++ s.dataChan ++ s.scanner.ahead s.lines) = [] := if_pos hflt
  have hnot : ¬(stopped || panicked) = false := by
    rw [hflt]
    nofun
  refine { h with
    kept := ?_, whole := fun _ hf => absurd hf hnot, halted := fun _ => hlea, stopping := hsr
    crashed := fun _ _ => hflt, drained := fun _ hf => absurd hf hnot
    reason := fun _ => .inl hflt }
  have hkept := (prefix_append s.handled s.inFlight).trans h.kept
  rw [← append_nil s.handled, ← hfl] at hkept
  exact hkept

theorem Piped.record_faulted (hflt : s.faulted = true)
    (reason : StreamEndReason) (err : Option String) : Piped all (s.setEndReason reason err) :=
  { h with reason := fun _ => .inl hflt }

/-- A handler that takes payloads has not stopped. -/
theorem Piped.sound (hat : s.handler.leaving s.srStopped = false) : s.faulted = false := by
  rw [← Bool.not_eq_true]
  intro hf
  rw [h.halted hf] at hat
  cases hat

/-- A handler that has not stopped goes on. -/
theorem Piped.proceeds (hat : s.handler.leaving s.srStopped = false)
    {sr : Bool} (hsr : sr = true → s.stopped = true)
    (hcra : ∀ crash, at' ≠ .recover crash) (hlf : at' ≠ .stop ∧ at' ≠ .exited)
    (hsm : handled ++ (at'.taken ++ chan) = s.handled ++ (s.handler.taken ++ s.dataChan)) :
    Piped all { s with handler := at', dataChan := chan, handled := handled, srStopped := sr } := by
  have hf : ¬s.faulted = true := by
    rw [h.sound hat]
    nofun
  exact h.flows (fun _ => hsm) (fun hflt => absurd hflt hf) hsr
    (fun crash hc => absurd hc (hcra crash)) (fun hl => (hl.elim hlf.1 hlf.2).elim)

/-- **A step of the handler.** -/
theorem piped_handler {e : HandlerStep} (he : e.Enabled s) : Piped all (e.effect s) := by
  cases e with
  | receives data =>
    obtain ⟨hat, hhe⟩ := he
    obtain ⟨rest, hre⟩ : ∃ rest, s.dataChan = data :: rest := head?_eq_some_iff.mp hhe
    refine h.proceeds (by rw [hat]; rfl) nofun nofun ⟨nofun, nofun⟩ ?_
    rw [hat, hre]
    rfl
  | seesClosed =>
    obtain ⟨hat, hemp, hcl⟩ := he
    refine h.flows ?_ (fun _ => ⟨rfl, rfl⟩) h.stopping nofun fun _ _ => ⟨hcl, hemp⟩
    intro _
    rw [hat]
    rfl
  | passes data =>
    have hat : s.handler = .screen data := he
    refine h.proceeds (by rw [hat]; rfl) h.stopping nofun ⟨nofun, nofun⟩ ?_
    rw [hat]
    rfl
  | blocks data err =>
    have hfau : Piped all { s with handler := .stop, srStopped := true, stopped := true } :=
      h.faults rfl rfl fun _ => rfl
    exact hfau.record_faulted rfl _ _
  | locks data =>
    obtain ⟨hat, -⟩ := he
    have hflo :
        Piped all { s with handler := .handle data, handled := s.handled ++ [data] } := by
      refine h.proceeds (by rw [hat]; rfl) h.stopping nofun ⟨nofun, nofun⟩ ?_
      rw [hat, append_assoc]
      rfl
    exact hflo.congr rfl
  | callsStop data err | callsDone data =>
    have hfau : Piped all { s with srStopped := true, stopped := true } := by
      refine h.faults rfl ?_ fun _ => rfl
      rw [he.1]
      rfl
    exact hfau.record_faulted rfl _ _
  | returns data =>
    have hat : s.handler = .handle data := he
    have hflo : Piped all { s with handler := .check } := by
      refine h.flows ?_ ?_ h.stopping nofun ?_
      · intro _
        rw [hat]
        rfl
      · intro hflt
        have hlea := h.halted hflt
        rw [hat] at hlea
        exact ⟨rfl, hlea⟩
      · rintro (hlf | hlf) <;> cases hlf
    exact hflo.congr rfl
  | panics data crash =>
    have hfau : Piped all { s with handler := .recover crash, panicked := true } :=
      h.faults (Bool.or_true _) rfl h.stopping
    exact hfau.congr rfl
  | checks =>
    have hat : s.handler = .check := he
    by_cases hsr : s.srStopped = true
    · have hf : s.faulted = true := by
        rw [faulted, h.stopping hsr]
        rfl
      have hfau : Piped all { s with handler := .stop } := h.faults hf rfl h.stopping
      have hst : checks.effect s = { s with handler := .stop } :=
        congrArg (fun at' => { s with handler := at' }) (if_pos hsr)
      rw [hst]
      exact hfau
    · have hflo : Piped all { s with handler := .receive } := by
        refine h.proceeds ?_ h.stopping nofun ⟨nofun, nofun⟩ ?_
        · rw [hat]
          exact Bool.eq_false_iff.mpr hsr
        · rw [hat]
          rfl
      have hrec : checks.effect s = { s with handler := .receive } :=
        congrArg (fun at' => { s with handler := at' }) (if_neg hsr)
      rw [hrec]
      exact hflo
  | recovers crash =>
    have hf : s.faulted = true := h.crashed crash he
    have hfau : Piped all { s with handler := .stop } :=
      h.faults hf rfl h.stopping
    exact hfau.record_faulted hf _ _
  | stops =>
    have hat : s.handler = .stop := he
    have hflo : Piped all { s with handler := .exited } := by
      refine h.flows ?_ (fun _ => ⟨rfl, rfl⟩) h.stopping nofun ?_
      · intro _
        rw [hat]
        rfl
      · exact fun _ => h.drained (.inl hat)
    exact hflo.congr rfl

/-- **A step of the ping goroutine** does not touch the payloads. -/
theorem piped_ping (e : PingStep) : Piped all (e.effect s) := by
  cases e with
  | records gone err =>
    cases gone with
    | true => exact (h.record (by decide) (by decide) (some "context canceled")).congr rfl
    | false => exact (h.record (by decide) (by decide) (some err)).congr rfl
  | recovers crash => exact (h.record (by decide) (by decide) _).congr rfl
  | ticks | leaves | expires | locks | succeeds | fails | panics | judges | stops =>
    exact h.congr rfl

/-- **A step of the main goroutine** does not touch the payloads: what it records is that time is up
or that the client is gone. -/
theorem piped_main
    (hrec : ∀ reason, s.main = .record reason → reason = .timeout ∨ reason = .clientGone)
    {e : MainStep} (he : e.Enabled s) : Piped all (e.effect s) := by
  cases e with
  | records reason =>
    rcases hrec reason he with rfl | rfl
    all_goals exact (h.record (by decide) (by decide) _).congr rfl
  | timesOut | seesStop | seesClient | cancels | stops | closesBody | returns => exact h.congr rfl

end

end Pump

/-! ## The mutex and the cleanup -/

/-- How far the main goroutine has come. -/
def MainAt.stage : MainAt → Nat
  | .select => 0
  | .record _ => 1
  | .cancel => 2
  | .stop => 3
  | .closeBody => 4
  | .wait => 5
  | .returned => 6

namespace Pump
variable {all : List String} {s s' : Pump}

/-- Who holds the write mutex. -/
structure Locked (s : Pump) : Prop where
  handler : s.writeMutex = some .handler ↔ ∃ data, s.handler = .handle data
  ping : s.writeMutex = some .ping ↔ s.ping = .write

/-- What the cleanup has done. -/
structure Cleaned (s : Pump) : Prop where
  records : ∀ reason, s.main = .record reason → reason = .timeout ∨ reason = .clientGone
  canceled : 3 ≤ s.main.stage → s.canceled = true
  stopClosed : 4 ≤ s.main.stage → s.stopClosed = true
  bodyClosed : 5 ≤ s.main.stage → s.bodyClosed = true
  joined : s.main = .returned → s.scanner = .exited ∧ s.handler = .exited ∧ s.ping = .exited

/-- A goroutine other than the main one leaves the cleanup alone, and closes `stopChan` at most. -/
structure Aside (s s' : Pump) : Prop where
  main : s'.main = s.main
  canceled : s'.canceled = s.canceled
  bodyClosed : s'.bodyClosed = s.bodyClosed
  stopClosed : s.stopClosed = true → s'.stopClosed = true

theorem aside_scanner (e : ScannerStep) (s : Pump) : Aside s (e.effect s) := by
  cases e with
  | looks line =>
    show Aside s (s.look line)
    unfold look
    split <;> exact ⟨rfl, rfl, rfl, id⟩
  | stops => exact ⟨rfl, rfl, rfl, fun _ => rfl⟩
  | readsEnd =>
    dsimp only [ScannerStep.effect]
    exact ⟨rfl, rfl, rfl, id⟩
  | readsLine | readFails | readUnblocked | panics | givesUp | sends | records | closes
  | recovers => exact ⟨rfl, rfl, rfl, id⟩

theorem aside_handler (e : HandlerStep) (s : Pump) : Aside s (e.effect s) := by
  cases e with
  | stops => exact ⟨rfl, rfl, rfl, fun _ => rfl⟩
  | receives | seesClosed | passes | blocks | locks | callsStop | callsDone | returns | panics
  | checks | recovers => exact ⟨rfl, rfl, rfl, id⟩

theorem aside_ping (e : PingStep) (s : Pump) : Aside s (e.effect s) := by
  cases e with
  | stops => exact ⟨rfl, rfl, rfl, fun _ => rfl⟩
  | records gone err => cases gone <;> exact ⟨rfl, rfl, rfl, id⟩
  | ticks | leaves | expires | locks | succeeds | fails | panics | judges | recovers =>
    exact ⟨rfl, rfl, rfl, id⟩

theorem Cleaned.aside (h : Cleaned s) (hasi : Aside s s') (hnot : s.main ≠ .returned) :
    Cleaned s' := by
  obtain ⟨hma, hcan, hbo, hst⟩ := hasi
  refine ⟨?_, ?_, ?_, ?_, ?_⟩
  · rw [hma]
    exact h.records
  · rw [hma, hcan]
    exact h.canceled
  · rw [hma]
    exact fun hsta => hst (h.stopClosed hsta)
  · rw [hma, hbo]
    exact h.bodyClosed
  · rw [hma]
    exact fun hret => absurd hret hnot

theorem cleaned_main (h : Cleaned s) {e : MainStep} (he : e.Enabled s) : Cleaned (e.effect s) := by
  cases e with
  | timesOut | seesStop | seesClient | records reason | cancels =>
    refine ⟨?_, ?_, ?_, ?_, ?_⟩ <;> simp [MainStep.effect, MainAt.stage]
  | stops =>
    have hat : s.main = .stop := he
    have hcan : s.canceled = true := h.canceled (by rw [hat]; decide)
    refine ⟨?_, ?_, ?_, ?_, ?_⟩ <;> simp [MainStep.effect, MainAt.stage, hcan]
  | closesBody =>
    have hat : s.main = .closeBody := he
    have hcan : s.canceled = true := h.canceled (by rw [hat]; decide)
    have hst : s.stopClosed = true := h.stopClosed (by rw [hat]; decide)
    refine ⟨?_, ?_, ?_, ?_, ?_⟩ <;> simp [MainStep.effect, MainAt.stage, hcan, hst]
  | returns =>
    obtain ⟨hat, hexi⟩ := he
    have hcan : s.canceled = true := h.canceled (by rw [hat]; decide)
    have hst : s.stopClosed = true := h.stopClosed (by rw [hat]; decide)
    have hbo : s.bodyClosed = true := h.bodyClosed (by rw [hat]; decide)
    refine ⟨?_, ?_, ?_, ?_, ?_⟩ <;> simp [MainStep.effect, MainAt.stage, hcan, hst, hbo, hexi]

theorem Locked.same (h : Locked s) (hmut : s'.writeMutex = s.writeMutex)
    (hpi : s'.ping = .write ↔ s.ping = .write)
    (hhandler : (∃ data, s'.handler = .handle data) ↔ ∃ data, s.handler = .handle data) :
    Locked s' := by
  constructor
  · rw [hmut, hhandler]
    exact h.handler
  · rw [hmut, hpi]
    exact h.ping

theorem locked_scanner (h : Locked s) (e : ScannerStep) : Locked (e.effect s) := by
  cases e with
  | looks line =>
    show Locked (s.look line)
    unfold look
    split <;> exact h.same rfl Iff.rfl Iff.rfl
  | readsEnd =>
    dsimp only [ScannerStep.effect]
    exact h.same rfl Iff.rfl Iff.rfl
  | readsLine | readFails | readUnblocked | panics | givesUp | sends | records | closes
  | recovers | stops => exact h.same rfl Iff.rfl Iff.rfl

theorem locked_handler (h : Locked s) {e : HandlerStep} (he : e.Enabled s) :
    Locked (e.effect s) := by
  cases e with
  | locks data =>
    obtain ⟨-, hfr⟩ := he
    have hpi := h.ping
    rw [hfr] at hpi
    constructor
    · simp [effect]
    · simpa [effect] using hpi
  | returns data | panics data crash =>
    have hpi := h.ping
    rw [h.handler.mpr ⟨data, he⟩] at hpi
    constructor
    · simp [effect]
    · simpa [effect] using hpi
  | checks =>
    have hat : s.handler = .check := he
    refine h.same rfl Iff.rfl ?_
    simp only [effect, hat]
    split <;> simp
  | callsStop | callsDone => exact h.same rfl Iff.rfl Iff.rfl
  | receives | seesClosed =>
    refine h.same rfl Iff.rfl ?_
    simp [effect, he.1]
  | passes data | recovers crash | blocks data err | stops =>
    have hat := he
    unfold HandlerStep.Enabled at hat
    refine h.same rfl Iff.rfl ?_
    simp [effect, hat]

theorem locked_ping (h : Locked s) {e : PingStep} (he : e.Enabled s) : Locked (e.effect s) := by
  cases e with
  | locks =>
    obtain ⟨-, hfr⟩ := he
    have hhandler := h.handler
    rw [hfr] at hhandler
    constructor
    · simpa [PingStep.effect] using hhandler
    · simp [PingStep.effect]
  | succeeds | fails err | panics crash =>
    have hhandler := h.handler
    rw [h.ping.mpr he] at hhandler
    constructor
    · simpa [PingStep.effect] using hhandler
    · simp [PingStep.effect]
  | records gone err =>
    have hat : s.ping = .record gone err := he
    cases gone
    all_goals
      refine h.same rfl ?_ Iff.rfl
      simp [PingStep.effect, hat]
  | leaves =>
    refine h.same rfl ?_ Iff.rfl
    simp [PingStep.effect, he.1]
  | ticks | expires | judges err | recovers crash | stops =>
    have hat := he
    unfold PingStep.Enabled at hat
    refine h.same rfl ?_ Iff.rfl
    simp [PingStep.effect, hat]

/-! ## Every step -/

/-- What holds in every state of the call. -/
structure Sound (all : List String) (s : Pump) : Prop where
  piped : Piped all s
  locked : Locked s
  cleaned : Cleaned s

theorem sound_initial (lines : List String) (pingEnabled : Bool) :
    Sound lines (initial lines pingEnabled) := by
  refine ⟨piped_initial lines pingEnabled, ⟨?_, ?_⟩, ⟨?_, ?_, ?_, ?_, ?_⟩⟩
  · simp [initial]
  · cases pingEnabled <;> simp [initial]
  all_goals simp [initial, MainAt.stage]

/-- The goroutines have left when the call has returned. -/
theorem Cleaned.not_returned (h : Cleaned s) {e : PumpStep} (he : e.Enabled s)
    (hcli : e ≠ .clientLeaves) : s.main ≠ .returned := by
  intro hret
  obtain ⟨hsca, hhandler, hpi⟩ := h.joined hret
  cases e with
  | scanner e => cases e <;> simp_all [PumpStep.Enabled, ScannerStep.Enabled, ScannerAt.selecting]
  | handler e => cases e <;> simp_all [PumpStep.Enabled, HandlerStep.Enabled]
  | ping e => cases e <;> simp_all [PumpStep.Enabled, PingStep.Enabled]
  | main e => cases e <;> simp_all [PumpStep.Enabled, MainStep.Enabled]
  | clientLeaves => exact hcli rfl

theorem sound_step (s : Pump) (e : PumpStep) (s' : Pump) (h : Sound all s) (hst : Step s e s') :
    Sound all s' := by
  obtain ⟨he, rfl⟩ := hst
  cases e with
  | scanner e =>
    exact ⟨piped_scanner h.piped he, locked_scanner h.locked e,
      h.cleaned.aside (aside_scanner e s) (h.cleaned.not_returned he nofun)⟩
  | handler e =>
    exact ⟨piped_handler h.piped he, locked_handler h.locked he,
      h.cleaned.aside (aside_handler e s) (h.cleaned.not_returned he nofun)⟩
  | ping e =>
    exact ⟨piped_ping h.piped e, locked_ping h.locked he,
      h.cleaned.aside (aside_ping e s) (h.cleaned.not_returned he nofun)⟩
  | main e =>
    refine ⟨piped_main h.piped h.cleaned.records he, ?_, cleaned_main h.cleaned he⟩
    cases e <;> exact h.locked.same rfl Iff.rfl Iff.rfl
  | clientLeaves =>
    refine ⟨h.piped.congr rfl, h.locked.same rfl Iff.rfl Iff.rfl, ?_⟩
    obtain ⟨hrec, hcan, hstore, hbo, hjoi⟩ := h.cleaned
    exact ⟨hrec, hcan, hstore, hbo, hjoi⟩

theorem sound_run {lines : List String} {pingEnabled : Bool} {es : List PumpStep}
    (h : Runs (initial lines pingEnabled) es s) : Sound lines s :=
  h.invariant sound_step (sound_initial lines pingEnabled)

end Pump

/-! ## The call returns -/

/-- The steps that need not come: the upstream may be silent, the client may stay, and the ticker
decides when there is a ping. -/
def PumpStep.outside : PumpStep → Bool
  | .scanner (.readsLine _) | .scanner .readsEnd | .scanner (.readFails _) | .scanner (.panics _)
  | .ping .ticks | .ping .expires | .clientLeaves => true
  | _ => false

/-- A ping tick. -/
def PumpStep.isTick : PumpStep → Bool
  | .ping .ticks => true
  | _ => false

/-- How many steps the scanner may take with the line it has. -/
def ScannerAt.work : ScannerAt → Nat
  | .scan => 6
  | .check _ => 15
  | .send _ => 14
  | .record _ _ => 5
  | .close _ => 4
  | .recover _ => 3
  | .stop => 2
  | .exited => 0

/-- How many steps the handler may take with the payload it has. -/
def HandlerAt.work (srStopped : Bool) : HandlerAt → Nat
  | .receive => 3
  | .screen _ => 9
  | .lock _ => 8
  | .handle _ => 6 + (!srStopped).toNat
  | .check => 5
  | .recover _ => 2
  | .stop => 1
  | .exited => 0

/-- How many steps the ping goroutine may take before the next tick. -/
def PingAt.work : PingAt → Nat
  | .select => 1
  | .lock => 6
  | .write => 5
  | .judge _ => 4
  | .record _ _ | .recover _ => 3
  | .stop => 2
  | .exited => 0

namespace Pump
variable {all : List String} {s s' : Pump}

/-- A bound on the steps that are left, apart from ticks: a line costs the scanner and the handler
eleven. -/
def work (s : Pump) : Nat :=
  11 * s.lines.length + s.scanner.work + 7 * s.dataChan.length + s.handler.work s.srStopped +
    s.ping.work + (6 - s.main.stage) + (!s.clientGone).toNat

theorem work_scanner {e : ScannerStep} (he : e.Enabled s) : (e.effect s).work < s.work := by
  cases e with
  | readsLine line =>
    obtain ⟨hat, hlin⟩ := he
    obtain ⟨rest, hre⟩ := head?_eq_some_iff.mp hlin
    simp only [ScannerStep.effect, work, hat, hre, tail_cons, length_cons, ScannerAt.work]
    omega
  | readsEnd =>
    obtain ⟨hat, -⟩ := he
    have hend : s.bodyEnd.work = 5 := by
      dsimp only [bodyEnd]
      split <;> rfl
    simp only [ScannerStep.effect, work, hat, hend]
    simp only [ScannerAt.work]
    omega
  | looks line =>
    obtain ⟨hat, -⟩ := he
    show (s.look line).work < s.work
    unfold look
    split <;> simp only [work, hat, ScannerAt.work] <;> omega
  | givesUp =>
    obtain ⟨hat, -⟩ := he
    cases hsca : s.scanner <;> simp_all [ScannerAt.selecting] <;>
      simp only [ScannerStep.effect, work, hsca, ScannerAt.work] <;> omega
  | sends data =>
    obtain ⟨hat, -⟩ := he
    simp only [ScannerStep.effect, work, hat, ScannerAt.work, length_append, length_singleton]
    omega
  | closes crash =>
    have hat : s.scanner = .close crash := he
    cases crash <;>
      simp only [ScannerStep.effect, work, hat, ScannerAt.work, Option.map, Option.getD] <;> omega
  | readUnblocked err =>
    obtain ⟨hat, -⟩ := he
    simp only [ScannerStep.effect, work, hat, ScannerAt.work]
    omega
  | readFails err | panics crash | records reason err | recovers crash | stops =>
    have hat := he
    unfold ScannerStep.Enabled at hat
    simp only [ScannerStep.effect, setEndReason, work, hat, ScannerAt.work]
    omega

theorem work_handler {e : HandlerStep} (he : e.Enabled s) : (e.effect s).work < s.work := by
  cases e with
  | receives data =>
    obtain ⟨hat, hhe⟩ := he
    obtain ⟨rest, hre⟩ := head?_eq_some_iff.mp hhe
    simp only [effect, work, hat, hre, tail_cons, length_cons, HandlerAt.work]
    omega
  | seesClosed =>
    obtain ⟨hat, -⟩ := he
    simp only [effect, work, hat, HandlerAt.work]
    omega
  | locks data =>
    obtain ⟨hat, -⟩ := he
    have hle := Bool.toNat_le (!s.srStopped)
    simp only [effect, work, hat, HandlerAt.work]
    omega
  | callsStop data err | callsDone data =>
    obtain ⟨hat, hsr⟩ := he
    simp only [effect, setEndReason, work, hat, hsr, HandlerAt.work]
    simp
  | checks =>
    have hat : s.handler = .check := he
    simp only [effect, work, hat]
    split <;> simp only [HandlerAt.work] <;> omega
  | passes data | blocks data err | recovers crash | stops =>
    have hat := he
    unfold HandlerStep.Enabled at hat
    simp only [effect, setEndReason, work, hat, HandlerAt.work]
    omega
  | returns data | panics data crash =>
    have hat := he
    unfold HandlerStep.Enabled at hat
    simp only [effect, work, hat, HandlerAt.work]
    omega

theorem work_ping {e : PingStep} (he : e.Enabled s) :
    if e = .ticks then (e.effect s).work ≤ s.work + 5 else (e.effect s).work < s.work := by
  cases e with
  | ticks =>
    have hat : s.ping = .select := he
    rw [if_pos rfl]
    simp only [PingStep.effect, work, hat, PingAt.work]
    omega
  | records gone err =>
    have hat : s.ping = .record gone err := he
    rw [if_neg nofun]
    cases gone <;>
      simp only [PingStep.effect, setEndReason, work, hat, PingAt.work, if_true,
        Bool.false_eq_true, if_false] <;>
      omega
  | leaves | locks =>
    obtain ⟨hat, -⟩ := he
    rw [if_neg nofun]
    simp only [PingStep.effect, work, hat, PingAt.work]
    omega
  | expires | succeeds | fails err | panics crash | judges err | recovers crash | stops =>
    have hat := he
    unfold PingStep.Enabled at hat
    rw [if_neg nofun]
    simp only [PingStep.effect, setEndReason, work, hat, PingAt.work]
    omega

theorem work_main {e : MainStep} (he : e.Enabled s) : (e.effect s).work < s.work := by
  cases e with
  | seesStop | seesClient | returns =>
    simp only [MainStep.effect, work, he.1, MainAt.stage]
    omega
  | timesOut | records reason | cancels | stops | closesBody =>
    have hat := he
    unfold MainStep.Enabled at hat
    simp only [MainStep.effect, setEndReason, work, hat, MainAt.stage]
    omega

/-- **Every step uses up work**, except that a tick may add five. -/
theorem work_step (s : Pump) (e : PumpStep) (s' : Pump) (h : Step s e s') :
    if e.isTick then s'.work ≤ s.work + 5 else s'.work < s.work := by
  obtain ⟨he, rfl⟩ := h
  cases e with
  | scanner e => exact work_scanner he
  | handler e => exact work_handler he
  | ping e =>
    have hpi := work_ping he
    cases e <;> exact hpi
  | main e => exact work_main he
  | clientLeaves =>
    have hst : s.clientGone = false := he
    show work { s with clientGone := true } < work s
    simp only [work, hst]
    simp

/-- **The call is never stuck**: something that need not be waited for can be done until it has
returned. -/
theorem exists_due (h : Sound all s) (hrun : s.main ≠ .returned) :
    ∃ e : PumpStep, e.outside = false ∧ e.Enabled s := by
  cases hma : s.main with
  | select => exact ⟨.main .timesOut, rfl, hma⟩
  | record reason => exact ⟨.main (.records reason), rfl, hma⟩
  | cancel => exact ⟨.main .cancels, rfl, hma⟩
  | stop => exact ⟨.main .stops, rfl, hma⟩
  | closeBody => exact ⟨.main .closesBody, rfl, hma⟩
  | returned => exact absurd hma hrun
  | wait =>
    have hst : s.stopClosed = true := h.cleaned.stopClosed (by rw [hma]; decide)
    have hbo : s.bodyClosed = true := h.cleaned.bodyClosed (by rw [hma]; decide)
    -- the scanner is woken by the closed body and by `stopChan`
    cases hsca : s.scanner with
    | scan => exact ⟨.scanner (.readUnblocked ""), rfl, hsca, hbo⟩
    | check line | send data => exact ⟨.scanner .givesUp, rfl, by rw [hsca]; rfl, .inl hst⟩
    | record reason err => exact ⟨.scanner (.records reason err), rfl, hsca⟩
    | close crash => exact ⟨.scanner (.closes crash), rfl, hsca⟩
    | recover crash => exact ⟨.scanner (.recovers crash), rfl, hsca⟩
    | stop => exact ⟨.scanner .stops, rfl, hsca⟩
    | exited =>
      have hcl : s.dataClosed = true := by
        rw [h.piped.closed, hsca]
        rfl
      -- then the handler by the closed channel, or by the end of a ping
      cases hhandler : s.handler with
      | receive =>
        cases hch : s.dataChan with
        | nil => exact ⟨.handler .seesClosed, rfl, hhandler, hch, hcl⟩
        | cons data rest =>
          exact ⟨.handler (.receives data), rfl, hhandler, by rw [hch]; rfl⟩
      | screen data => exact ⟨.handler (.passes data), rfl, hhandler⟩
      | handle data => exact ⟨.handler (.returns data), rfl, hhandler⟩
      | check => exact ⟨.handler .checks, rfl, hhandler⟩
      | recover crash => exact ⟨.handler (.recovers crash), rfl, hhandler⟩
      | stop => exact ⟨.handler .stops, rfl, hhandler⟩
      | lock data =>
        cases hmut : s.writeMutex with
        | none => exact ⟨.handler (.locks data), rfl, hhandler, hmut⟩
        | some writer =>
          cases writer with
          | handler =>
            obtain ⟨data', hoth⟩ := h.locked.handler.mp hmut
            rw [hhandler] at hoth
            cases hoth
          | ping => exact ⟨.ping .succeeds, rfl, h.locked.ping.mp hmut⟩
      | exited =>
        -- and last the pings
        cases hpi : s.ping with
        | select => exact ⟨.ping .leaves, rfl, hpi, .inr (.inl hst)⟩
        | write => exact ⟨.ping .succeeds, rfl, hpi⟩
        | judge err => exact ⟨.ping (.judges err), rfl, hpi⟩
        | record gone err => exact ⟨.ping (.records gone err), rfl, hpi⟩
        | recover crash => exact ⟨.ping (.recovers crash), rfl, hpi⟩
        | stop => exact ⟨.ping .stops, rfl, hpi⟩
        | exited => exact ⟨.main .returns, rfl, hma, hsca, hhandler, hpi⟩
        | lock =>
          refine ⟨.ping .locks, rfl, hpi, ?_⟩
          cases hmut : s.writeMutex with
          | none => rfl
          | some writer =>
            cases writer with
            | handler =>
              obtain ⟨data', hoth⟩ := h.locked.handler.mp hmut
              rw [hhandler] at hoth
              cases hoth
            | ping =>
              have hwri := h.locked.ping.mp hmut
              rw [hpi] at hwri
              cases hwri

/-- A call that returned with `done` or `eof`, and whose handler did not stop or panic, handled
every payload. -/
theorem Sound.handled_all (h : Sound all s) (hret : s.main = .returned)
    (hreason : s.status.endReason = some .done ∨ s.status.endReason = some .eof)
    (hstore : s.stopped = false) (hpan : s.panicked = false) : s.handled = payloads all := by
  obtain ⟨hsca, hhandler, -⟩ := h.cleaned.joined hret
  have hsnd : s.faulted = false := by
    rw [faulted, hstore, hpan]
    rfl
  have hdrop : s.dropped = false := by
    rcases h.piped.reason hreason with hflt | ⟨hdrop, -⟩
    · rw [hsnd] at hflt
      cases hflt
    · exact hdrop
  have hemp : s.dataChan = [] := (h.piped.drained (.inr hhandler) hsnd).2
  have hfl : s.inFlight = [] := by
    rw [inFlight, hsnd, hhandler, hsca, hemp]
    rfl
  rw [← h.piped.whole hdrop hsnd, hfl, append_nil]

/-- **The pump delivers everything and always stops.**  Under any interleaving: the call is not
stuck, and the steps between ticks are bounded; the handler is called on a prefix of the payload
lines in order, and not after the call has returned; and if the call ended as done or at the end of
the body, with a handler that neither stopped nor panicked, it was called on all of them. -/
theorem pump_delivers_and_stops {lines : List String} {pingEnabled : Bool} {es : List PumpStep}
    (h : Runs (initial lines pingEnabled) es s) :
    es.length ≤ 11 * lines.length + 17 + 6 * es.countP PumpStep.isTick ∧
      (s.main ≠ .returned → ∃ e : PumpStep, e.outside = false ∧ e.Enabled s) ∧
      s.handled <+: payloads lines ∧
      (s.main = .returned → ∀ e : PumpStep, e.Enabled s → e = .clientLeaves) ∧
      (s.main = .returned →
        s.status.endReason = some .done ∨ s.status.endReason = some .eof →
        s.stopped = false → s.panicked = false → s.handled = payloads lines) := by
  have hsnd := sound_run h
  refine ⟨?_, exists_due hsnd, (prefix_append _ _).trans hsnd.piped.kept, ?_, hsnd.handled_all⟩
  · have hlen := h.length_le work_step
    have hwo : (initial lines pingEnabled).work ≤ 11 * lines.length + 17 := by
      cases pingEnabled <;>
        simp [initial, work, ScannerAt.work, HandlerAt.work, PingAt.work, MainAt.stage]
    omega
  · intro hret e he
    by_contra hcli
    exact hsnd.cleaned.not_returned he hcli hret

/-- A body of two payloads, read ahead of the handler. -/
theorem pump_delivers_and_stops_two :
    ∃ (es : List PumpStep) (s : Pump),
      Runs (initial ["data: a", "data: b", "[DONE]"] true) es s ∧ s.main = .returned ∧
        s.status.endReason = some .done ∧
        s.handled = payloads ["data: a", "data: b", "[DONE]"] := by
  let es : List PumpStep := [
    .scanner (.readsLine "data: a"), .scanner (.looks "data: a"), .scanner (.sends "a"),
    .scanner (.readsLine "data: b"), .scanner (.looks "data: b"), .scanner (.sends "b"),
    .handler (.receives "a"), .handler (.passes "a"), .handler (.locks "a"),
    .scanner (.readsLine "[DONE]"), .scanner (.looks "[DONE]"), .scanner (.records .done none),
    .scanner (.closes none), .scanner .stops, .main .seesStop, .ping .ticks, .main .cancels,
    .handler (.returns "a"), .handler .checks, .ping .locks, .ping .succeeds,
    .handler (.receives "b"), .handler (.passes "b"), .handler (.locks "b"),
    .main .stops, .main .closesBody, .ping .leaves, .handler (.returns "b"), .handler .checks,
    .handler .seesClosed, .handler .stops, .main .returns]
  have hrun : Runs (initial ["data: a", "data: b", "[DONE]"] true) es _ :=
    Steps.Run.foldlM (fun _ _ _ => step_of_apply) rfl
  refine ⟨es, _, hrun, ?ma, ?rsn, (pump_delivers_and_stops hrun).2.2.2.2 ?ma (.inl ?rsn) ?_ ?_⟩
  all_goals decide +kernel

end Pump

end NewApi
