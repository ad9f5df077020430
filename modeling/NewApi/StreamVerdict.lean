import NewApi.StreamPump

/-! # A crash and the verdict on the stream

`Relay` judges a stream by its status alone: `FailureError` reads the end reason, which only its
first writer sets.  A handler that panics records its panic when it recovers.  By then the scanner,
which runs up to ten payloads ahead, may have recorded that the body ended well, or the handler
itself that it stopped.

So the panic shows exactly if no normal end was recorded before (`panic_visible_iff`), and a crash
on a payload that the scanner has read past is counted as a success (`panic_counted_as_success`). -/
namespace NewApi

/-! ## The verdict -/

/-- `NewAPIError`, as `NewErrorWithStatusCode` builds it. -/
structure StreamFailure where
  message : String
  errorCode : String
  statusCode : Nat
deriving DecidableEq, Repr

namespace StreamStatus

def isNormalEnd (s : StreamStatus) : Bool :=
  if s.missingTerminator then false
  else s.endReason = some .done || s.endReason = some .eof || s.endReason = some .handlerStop

def noStreamBodyError (s : StreamStatus) : Option StreamFailure :=
  if s.endReason = some .noStreamBody then
    some
      { message := "upstream returned no stream" ++ (s.endError.map (": " ++ ·)).getD ""
        errorCode := "empty_response"
        statusCode := 502 }
  else none

/-- The end reason as text; none is the empty one. -/
def reasonText (s : StreamStatus) : String := (s.endReason.map StreamEndReason.text).getD ""

def failureError (s : StreamStatus) : Option StreamFailure :=
  match s.noStreamBodyError with
  | some err => some err
  | none =>
      if s.missingTerminator then
        some
          { message := "upstream ended the stream mid-message without a terminator (" ++
              s.reasonText ++ ")"
            errorCode := "bad_response"
            statusCode := 502 }
      else if s.isNormalEnd || s.endReason = none || s.endReason = some .clientGone then none
      else
        some
          { message := "upstream stream ended abnormally (" ++ s.reasonText ++
              (s.endError.map (": " ++ ·)).getD "" ++ ")"
            errorCode := "bad_response"
            statusCode := 502 }

/-- **When a stream is a failure**: its message was cut, or it did not end normally, for another
reason than that the client left. -/
theorem failureError_isSome (s : StreamStatus) :
    s.failureError.isSome = true ↔ s.missingTerminator = true ∨
      s.isNormalEnd = false ∧ s.endReason ≠ none ∧ s.endReason ≠ some .clientGone := by
  unfold failureError noStreamBodyError isNormalEnd
  cases hreason : s.endReason with
  | none => cases hmis : s.missingTerminator <;> simp
  | some reason => cases reason <;> cases hmis : s.missingTerminator <;> simp

end StreamStatus

/-- The verdict of `Relay`: the outcome is reported as a success, to the channel's score and to its
affinity, if neither the handler nor the stream failed. -/
def relaySucceeds (newAPIError : Option StreamFailure) (status : StreamStatus) : Bool :=
  (newAPIError <|> status.failureError).isNone

namespace Pump
variable {s s' : Pump}

/-! ## The status along a run -/

/-- A step leaves the status alone or records a reason. -/
theorem status_step (s : Pump) (e : PumpStep) : (e.effect s).status = s.status ∨
      ∃ reason err, (e.effect s).status = s.status.setEndReason reason err := by
  cases e with
  | scanner e =>
    cases e with
    | looks line =>
      left
      show (s.look line).status = s.status
      unfold look
      split <;> rfl
    | records | recovers => exact .inr ⟨_, _, rfl⟩
    | readsLine | readsEnd | readFails | readUnblocked | panics | givesUp | sends | closes
    | stops => exact .inl rfl
  | handler e =>
    cases e with
    | blocks | callsStop | callsDone | recovers => exact .inr ⟨_, _, rfl⟩
    | receives | seesClosed | passes | locks | returns | panics | checks | stops =>
      exact .inl rfl
  | ping e =>
    cases e with
    | records gone err => cases gone <;> exact .inr ⟨_, _, rfl⟩
    | recovers => exact .inr ⟨_, _, rfl⟩
    | ticks | leaves | expires | locks | succeeds | fails | panics | judges | stops =>
      exact .inl rfl
  | main e =>
    cases e with
    | records reason => exact .inr ⟨_, _, rfl⟩
    | timesOut | seesStop | seesClient | cancels | stops | closesBody | returns =>
      exact .inl rfl
  | clientLeaves => exact .inl rfl

/-- **The first reason stays.** -/
theorem endReason_run {reason : StreamEndReason} {es : List PumpStep} (h : Runs s es s')
    (hreason : s.status.endReason = some reason) : s'.status.endReason = some reason := by
  refine h.invariant (I := fun s => s.status.endReason = some reason) ?_ hreason
  rintro s e s' hold ⟨-, rfl⟩
  rcases status_step s e with hsm | ⟨reason', err, hset⟩
  · rw [hsm, hold]
  rw [hset, StreamStatus.endReason_setEndReason, hold]
  rfl

theorem missingTerminator_run {es : List PumpStep} (h : Runs s es s')
    (hmis : s.status.missingTerminator = false) : s'.status.missingTerminator = false := by
  refine h.invariant (I := fun s => s.status.missingTerminator = false) ?_ hmis
  rintro s e s' hold ⟨-, rfl⟩
  rcases status_step s e with hsm | ⟨reason', err, hset⟩
  · rw [hsm, hold]
  rw [hset]
  unfold StreamStatus.setEndReason
  split <;> exact hold

/-- That the client is gone is recorded only when it is. -/
structure Blamed (s : Pump) : Prop where
  reason : s.status.endReason = some .clientGone → s.clientGone = true
  main : s.main = .record .clientGone → s.clientGone = true
  ping : ∀ err, s.ping = .record true err → s.clientGone = true
  scanner : ∀ err, s.scanner ≠ .record .clientGone err

theorem blamed_initial (lines : List String) (pingEnabled : Bool) :
    Blamed (initial lines pingEnabled) := by
  refine ⟨?_, ?_, ?_, ?_⟩
  · simp [initial]
  · simp [initial]
  · cases pingEnabled <;> simp [initial]
  · simp [initial]

section
variable (h : Blamed s)
include h

/-- The handler's place does not matter. -/
theorem Blamed.congr (hsts : s'.status = s.status)
    (hgo : s'.clientGone = s.clientGone) (hma : s'.main = s.main) (hpi : s'.ping = s.ping)
    (hsca : s'.scanner = s.scanner) : Blamed s' := by
  refine ⟨?_, ?_, ?_, ?_⟩
  · rw [hsts, hgo]
    exact h.reason
  · rw [hma, hgo]
    exact h.main
  · rw [hpi, hgo]
    exact h.ping
  · rw [hsca]
    exact h.scanner

theorem Blamed.record {reason : StreamEndReason}
    (hreason : reason = .clientGone → s.clientGone = true) (err : Option String) :
    Blamed (s.setEndReason reason err) := by
  refine { h with reason := ?_ }
  intro hgo
  simp only [setEndReason, StreamStatus.endReason_setEndReason, Option.some.injEq] at hgo
  cases hold : s.status.endReason with
  | none => exact hreason (by rw [hold] at hgo; exact hgo)
  | some old =>
    rw [hold] at hgo
    exact h.reason (hold.trans (congrArg some hgo))

theorem Blamed.atPing {at' : PingAt} (hpi : ∀ err, at' = .record true err → s.clientGone = true) :
    Blamed { s with ping := at' } :=
  { h with ping := hpi }

theorem Blamed.atMain {at' : MainAt}
    (hma : at' = .record .clientGone → s.clientGone = true) : Blamed { s with main := at' } :=
  { h with main := hma }

theorem blamed_ping {e : PingStep} (he : e.Enabled s) : Blamed (e.effect s) := by
  cases e with
  | judges err =>
    refine h.atPing ?_
    intro err' heq
    cases hgo : s.clientGone with
    | true => rfl
    | false =>
      rw [hgo] at heq
      cases heq
  | records gone err =>
    have hat : s.ping = .record gone err := he
    cases gone with
    | true => exact (h.record (fun _ => h.ping err hat) _).atPing nofun
    | false => exact (h.record (fun heq => by cases heq) _).atPing nofun
  | recovers crash => exact (h.record (fun heq => by cases heq) _).atPing nofun
  | ticks | leaves | expires => exact h.atPing nofun
  | locks | succeeds | fails | panics | stops =>
    refine { h with ping := ?_ }
    intro err heq
    cases heq

theorem blamed_main {e : MainStep} (he : e.Enabled s) : Blamed (e.effect s) := by
  cases e with
  | seesClient => exact h.atMain fun _ => he.2
  | records reason =>
    have hat : s.main = .record reason := he
    refine (h.record (fun heq => h.main ?_) _).atMain nofun
    rw [hat, heq]
  | timesOut | seesStop => exact h.atMain nofun
  | cancels | stops | closesBody | returns =>
    refine { h with main := ?_ }
    intro heq
    cases heq

theorem Blamed.atScanner {at' : ScannerAt}
    (hsca : ∀ err, at' ≠ .record .clientGone err) : Blamed { s with scanner := at' } :=
  { h with scanner := hsca }

theorem blamed_scanner {e : ScannerStep} (he : e.Enabled s) : Blamed (e.effect s) := by
  cases e with
  | readsEnd =>
    refine h.atScanner ?_
    intro err heq
    dsimp only [bodyEnd] at heq
    split at heq <;> cases heq
  | looks line =>
    show Blamed (s.look line)
    unfold look
    split <;> exact { h with scanner := nofun }
  | records reason err =>
    have hat : s.scanner = .record reason err := he
    refine (h.record (fun heq => ?_) err).atScanner nofun
    rw [heq] at hat
    exact absurd hat (h.scanner err)
  | closes crash =>
    cases crash <;> exact { h with scanner := nofun }
  | recovers crash =>
    exact (h.record (fun heq => by cases heq) _).atScanner nofun
  | readsLine | readFails | readUnblocked | panics | givesUp | sends | stops =>
    exact { h with scanner := nofun }

end

theorem blamed_step (s : Pump) (e : PumpStep) (s' : Pump) (h : Blamed s) (hst : Step s e s') :
    Blamed s' := by
  obtain ⟨he, rfl⟩ := hst
  cases e with
  | scanner e => exact blamed_scanner h he
  | handler e =>
    cases e with
    | blocks | callsStop | callsDone | recovers =>
      exact (h.record (fun heq => by cases heq) _).congr rfl rfl rfl rfl rfl
    | receives | seesClosed | passes | locks | returns | panics | checks | stops =>
      exact h.congr rfl rfl rfl rfl rfl
  | ping e => exact blamed_ping h he
  | main e => exact blamed_main h he
  | clientLeaves => exact ⟨fun _ => rfl, fun _ => rfl, fun _ _ => rfl, h.scanner⟩

/-! ## A panic of the handler -/

/-- **A panic shows exactly if no normal end was recorded before it was recovered**, as long as the
client stays. -/
theorem panic_visible_iff {lines : List String} {pingEnabled : Bool} {es es' : List PumpStep}
    {s₁ s₂ s₃ : Pump} {crash : String} (hbefore : Runs (initial lines pingEnabled) es s₁)
    (hrecovers : Step s₁ (.handler (.recovers crash)) s₂) (hafter : Runs s₂ es' s₃)
    (hclient : s₃.clientGone = false) :
    (s₃.status.failureError.isSome = true ∧
        ∀ newAPIError, relaySucceeds newAPIError s₃.status = false) ↔
      s₁.status.isNormalEnd = false := by
  have hwho : Runs (initial lines pingEnabled)
      (es ++ .handler (.recovers crash) :: es') s₃ := hbefore.append (.cons hrecovers hafter)
  have hbla : Blamed s₃ := hwho.invariant blamed_step (blamed_initial lines pingEnabled)
  have hmis₁ : s₁.status.missingTerminator = false := missingTerminator_run hbefore rfl
  have hmis₃ : s₃.status.missingTerminator = false := missingTerminator_run hwho rfl
  -- the reason at the end is the one of before, or the panic
  have hreason : s₃.status.endReason = some (s₁.status.endReason.getD .panic) := by
    refine endReason_run hafter ?_
    obtain ⟨-, rfl⟩ := hrecovers
    exact StreamStatus.endReason_setEndReason _ _ _
  have hfai : s₃.status.failureError.isSome = true ↔ s₁.status.isNormalEnd = false := by
    rw [StreamStatus.failureError_isSome]
    unfold StreamStatus.isNormalEnd
    rw [hmis₁, hmis₃, hreason]
    cases hold : s₁.status.endReason with
    | none => simp
    | some old =>
      have hstay : old ≠ .clientGone := by
        rintro rfl
        have hgo := hbla.reason (by rw [hreason, hold]; rfl)
        rw [hclient] at hgo
        cases hgo
      simp [hstay]
  rw [← hfai]
  constructor
  · exact fun h => h.1
  intro hso
  refine ⟨hso, fun newAPIError => ?_⟩
  unfold relaySucceeds
  obtain ⟨err, herr⟩ := Option.isSome_iff_exists.mp hso
  rw [herr]
  cases newAPIError <;> rfl

/-- The handler panics on the only payload while the scanner waits for more. -/
theorem panic_visible_iff_early :
    ∃ (es : List PumpStep) (s : Pump),
      Runs (initial ["data: x"] false) es s ∧ s.main = .returned ∧ s.panicked = true ∧
        s.status.failureError.isSome = true ∧
        ∀ newAPIError, relaySucceeds newAPIError s.status = false := by
  let es : List PumpStep := [
    .scanner (.readsLine "data: x"), .scanner (.looks "data: x"), .scanner (.sends "x"),
    .handler (.receives "x"), .handler (.passes "x"), .handler (.locks "x"),
    .handler (.panics "x" "boom")]
  let es' : List PumpStep := [
    .handler .stops, .main .seesStop, .main .cancels, .main .stops, .main .closesBody,
    .scanner (.readUnblocked "closed"), .scanner (.records .scannerErr (some "closed")),
    .scanner (.closes none), .scanner .stops, .main .returns]
  have hbef : ((es.foldlM apply (initial ["data: x"] false)).map fun s₁ =>
      (s₁.status.isNormalEnd, (s₁.apply (.handler (.recovers "boom"))).bind fun s₂ =>
        (es'.foldlM apply s₂).map fun s₃ => (s₃.main, s₃.panicked, s₃.clientGone))) =
      some (false, some (.returned, true, false)) := by
    decide +kernel
  obtain ⟨s₁, hs₁, hview⟩ := Option.map_eq_some_iff.mp hbef
  simp only [Prod.mk.injEq] at hview
  obtain ⟨hnor, hre⟩ := hview
  obtain ⟨s₂, hs₂, hre⟩ := Option.bind_eq_some_iff.mp hre
  obtain ⟨s₃, hs₃, hview⟩ := Option.map_eq_some_iff.mp hre
  simp only [Prod.mk.injEq] at hview
  obtain ⟨hma, hpan, hcli⟩ := hview
  have hru := Steps.Run.foldlM (fun _ _ _ => step_of_apply) hs₁
  have hru' := Steps.Run.foldlM (fun _ _ _ => step_of_apply) hs₃
  have hrec := step_of_apply hs₂
  have hsho := (panic_visible_iff hru hrec hru' hcli).mpr hnor
  exact ⟨_, s₃, hru.append (.cons hrec hru'), hma, hpan, hsho⟩

/-- **A crash counted as a success.**  The scanner reads `[DONE]` and records the end before the
handler takes the payload on which it panics. -/
theorem panic_counted_as_success :
    ∃ (es : List PumpStep) (s : Pump),
      Runs (initial ["data: x", "[DONE]"] false) es s ∧ s.main = .returned ∧
        s.panicked = true ∧ s.clientGone = false ∧ s.status.failureError = none ∧
        relaySucceeds none s.status = true := by
  let es : List PumpStep := [
    .scanner (.readsLine "data: x"), .scanner (.looks "data: x"), .scanner (.sends "x"),
    .scanner (.readsLine "[DONE]"), .scanner (.looks "[DONE]"), .scanner (.records .done none),
    .handler (.receives "x"), .handler (.passes "x"), .handler (.locks "x"),
    .handler (.panics "x" "boom"), .handler (.recovers "boom"), .handler .stops,
    .scanner (.closes none), .scanner .stops,
    .main .seesStop, .main .cancels, .main .stops, .main .closesBody, .main .returns]
  refine ⟨es, _, Steps.Run.foldlM (fun _ _ _ => step_of_apply) rfl, ?_⟩
  decide +kernel

end Pump

end NewApi
