import NewApi.Accounts
import NewApi.Steps

/-! # The stream scanner

`StreamScannerHandler` pumps the lines of an upstream body to the data handler.  Four goroutines
take part: the scanner reads lines and puts payloads into a channel of ten, the handler takes them
out and calls `dataHandler` under the write mutex, the ping goroutine writes keepalives under the
same mutex, and the main goroutine waits for the end, cleans up and joins the others.

A step is one action of one goroutine that others can see: a channel operation, a lock, a record of
the end reason, a close.  Which goroutine moves next, which case of a `select` is taken, when lines
come and when the client leaves is open; time is not modelled, so that a timer may fire at any
moment. -/
namespace NewApi

/-! ## How a stream ended -/

inductive StreamEndReason where
  | done
  | timeout
  | clientGone
  | scannerErr
  | handlerStop
  | eof
  | panic
  | pingFail
  | noStreamBody
deriving DecidableEq, Repr

/-- The text of an end reason. -/
def StreamEndReason.text : StreamEndReason → String
  | .done => "done"
  | .timeout => "timeout"
  | .clientGone => "client_gone"
  | .scannerErr => "scanner_error"
  | .handlerStop => "handler_stop"
  | .eof => "eof"
  | .panic => "panic"
  | .pingFail => "ping_fail"
  | .noStreamBody => "no_stream_body"

/-- `StreamStatus`: the end reason with its error, and the handler's mark that the message was not
finished. -/
structure StreamStatus where
  endReason : Option StreamEndReason := none
  endError : Option String := none
  missingTerminator : Bool := false
deriving DecidableEq, Repr

/-- `SetEndReason`: only the first reason counts. -/
def StreamStatus.setEndReason (reason : StreamEndReason) (err : Option String) (s : StreamStatus) :
    StreamStatus :=
  match s.endReason with
  | none => { s with endReason := some reason, endError := err }
  | some _ => s

/-! ## Lines -/

/-- `strings.HasPrefix`. -/
def hasPrefix (s start : String) : Bool := start.toList.isPrefixOf s.toList

def isSSEFramingLine (line : String) : Bool :=
  let trimmed := trimSpace line
  trimmed = "" || hasPrefix trimmed ":" || hasPrefix trimmed "event:" ||
    hasPrefix trimmed "id:" || hasPrefix trimmed "retry:"

/-- What the scanner does with a line: it ends the stream, it is forwarded, it is skipped, or it is
kept as part of a body that is no stream. -/
inductive LineKind where
  | done
  | payload (data : String)
  | skipped
  | text (line : String)
deriving DecidableEq, Repr

/-- The kind of a line. -/
def lineKind (line : String) : LineKind :=
  if hasPrefix line "[DONE]" then .done
  else if hasPrefix line "data:" then
    let data := trimSpace (String.ofList (line.toList.drop 5))
    if data = "" then .skipped
    else if hasPrefix data "[DONE]" then .done
    else .payload data
  else if isSSEFramingLine line then .skipped
  else .text (trimSpace line)

/-- The payload lines before the first `[DONE]`. -/
def payloads : List String → List String
  | [] => []
  | line :: lines =>
      match lineKind line with
      | .done => []
      | .payload data => data :: payloads lines
      | .skipped | .text _ => payloads lines

/-! ## The goroutines -/

/-- Where the scanner is.  `close` is the deferred function, with the panic that it runs for. -/
inductive ScannerAt where
  | scan
  | check (line : String)
  | send (data : String)
  | record (reason : StreamEndReason) (err : Option String)
  | close (crash : Option String)
  | recover (crash : String)
  | stop
  | exited
deriving DecidableEq, Repr

/-- Where the handler is. -/
inductive HandlerAt where
  | receive
  | screen (data : String)
  | lock (data : String)
  | handle (data : String)
  | check
  | recover (crash : String)
  | stop
  | exited
deriving DecidableEq, Repr

/-- Where the ping goroutine is.  `record` knows whether the client was seen to be gone. -/
inductive PingAt where
  | select
  | lock
  | write
  | judge (err : String)
  | record (gone : Bool) (err : String)
  | recover (crash : String)
  | stop
  | exited
deriving DecidableEq, Repr

/-- Where the main goroutine is. -/
inductive MainAt where
  | select
  | record (reason : StreamEndReason)
  | cancel
  | stop
  | closeBody
  | wait
  | returned
deriving DecidableEq, Repr

/-- Who holds the write mutex. -/
inductive Writer where
  | handler
  | ping
deriving DecidableEq, Repr

/-- The state of one call.  Beside the program's own there is what happened: the payloads for which
`dataHandler` was called (`handled`), whether it stopped or panicked, and whether the scanner left
lines behind. -/
structure Pump where
  status : StreamStatus := {}
  lines : List String
  nonStreamBody : String := ""
  receivedResponseCount : Nat := 0
  dataChan : List String := []
  dataClosed : Bool := false
  stopClosed : Bool := false
  canceled : Bool := false
  bodyClosed : Bool := false
  clientGone : Bool := false
  writeMutex : Option Writer := none
  srStopped : Bool := false
  scanner : ScannerAt := .scan
  handler : HandlerAt := .receive
  ping : PingAt
  main : MainAt := .select
  handled : List String := []
  stopped : Bool := false
  panicked : Bool := false
  dropped : Bool := false
deriving DecidableEq, Repr

namespace Pump

/-- The goroutines have started. -/
def initial (lines : List String) (pingEnabled : Bool) : Pump :=
  { lines := lines, ping := if pingEnabled then .select else .exited }

/-- `SetEndReason` on the status of the call. -/
def setEndReason (reason : StreamEndReason) (err : Option String) (s : Pump) : Pump :=
  { s with status := s.status.setEndReason reason err }

/-- The handler stopped the stream or panicked. -/
def faulted (s : Pump) : Bool := s.stopped || s.panicked

end Pump

/-! ## The scanner -/

/-- The steps of the scanner. -/
inductive ScannerStep where
  /-- `Scan` returns the next line. -/
  | readsLine (line : String)
  /-- `Scan` meets the end of the body. -/
  | readsEnd
  /-- `Scan` fails because the upstream does. -/
  | readFails (err : String)
  /-- `Scan` fails because the body was closed. -/
  | readUnblocked (err : String)
  | panics (crash : String)
  /-- The first `select` takes its default and the line is looked at. -/
  | looks (line : String)
  /-- A `select` takes `stopChan` or `ctx.Done`. -/
  | givesUp
  | sends (data : String)
  | records (reason : StreamEndReason) (err : Option String)
  | closes (crash : Option String)
  | recovers (crash : String)
  | stops
deriving DecidableEq, Repr

/-- The scanner is at a `select` that looks at `stopChan`. -/
def ScannerAt.selecting : ScannerAt → Bool
  | .check _ | .send _ => true
  | _ => false

namespace Pump

/-- `cap(dataChan)`. -/
def dataChanSize : Nat := 10

def maxNonStreamBodyBytes : Nat := 2048

/-- How the scanner ends when the body does. -/
def bodyEnd (s : Pump) : ScannerAt :=
  let body := trimSpace s.nonStreamBody
  if body ≠ "" ∧ s.receivedResponseCount = 0 then .record .noStreamBody (some body)
  else .record .eof none

/-- The rest of the loop for one line, up to the second `select`. -/
def look (line : String) (s : Pump) : Pump :=
  match lineKind line with
  | .done => { s with scanner := .record .done none }
  | .payload data =>
      { s with scanner := .send data, receivedResponseCount := s.receivedResponseCount + 1 }
  | .skipped => { s with scanner := .scan }
  | .text text =>
      { s with
        scanner := .scan
        nonStreamBody :=
          if s.nonStreamBody.utf8ByteSize < maxNonStreamBodyBytes then s.nonStreamBody ++ text
          else s.nonStreamBody }

end Pump

namespace ScannerStep

/-- When a step of the scanner is possible. -/
def Enabled : ScannerStep → Pump → Prop
  | .readsLine line, s => s.scanner = .scan ∧ s.lines.head? = some line
  | .readsEnd, s => s.scanner = .scan ∧ s.lines = []
  | .readFails _, s => s.scanner = .scan
  | .readUnblocked _, s => s.scanner = .scan ∧ s.bodyClosed = true
  | .panics _, s => s.scanner = .scan
  | .looks line, s => s.scanner = .check line ∧ s.stopClosed = false ∧ s.canceled = false
  | .givesUp, s => s.scanner.selecting = true ∧ (s.stopClosed = true ∨ s.canceled = true)
  | .sends data, s => s.scanner = .send data ∧ s.dataChan.length < Pump.dataChanSize
  | .records reason err, s => s.scanner = .record reason err
  | .closes crash, s => s.scanner = .close crash
  | .recovers crash, s => s.scanner = .recover crash
  | .stops, s => s.scanner = .stop

instance (e : ScannerStep) (s : Pump) : Decidable (e.Enabled s) := by
  cases e <;> dsimp only [Enabled] <;> infer_instance

/-- What a step of the scanner does. -/
def effect : ScannerStep → Pump → Pump
  | .readsLine line, s => { s with scanner := .check line, lines := s.lines.tail }
  | .readsEnd, s => { s with scanner := s.bodyEnd }
  | .readFails err, s | .readUnblocked err, s =>
      { s with scanner := .record .scannerErr (some err), dropped := true }
  | .panics crash, s => { s with scanner := .close (some crash), dropped := true }
  | .looks line, s => s.look line
  | .givesUp, s => { s with scanner := .close none, dropped := true }
  | .sends data, s => { s with scanner := .scan, dataChan := s.dataChan ++ [data] }
  | .records reason err, s => { s.setEndReason reason err with scanner := .close none }
  | .closes crash, s =>
      { s with dataClosed := true, scanner := (crash.map .recover).getD .stop }
  | .recovers crash, s =>
      { s.setEndReason .panic (some ("scanner panic: " ++ crash)) with scanner := .stop }
  | .stops, s => { s with stopClosed := true, scanner := .exited }

end ScannerStep

/-! ## The handler -/

/-- The steps of the handler.  `dataHandler` may call `Stop` or `Done`, return, or panic; a second
`Stop` or `Done` changes nothing. -/
inductive HandlerStep where
  | receives (data : String)
  | seesClosed
  /-- `blockStreamChunkOnSensitive` lets the payload pass. -/
  | passes (data : String)
  /-- `blockStreamChunkOnSensitive` stops the stream. -/
  | blocks (data err : String)
  | locks (data : String)
  | callsStop (data : String) (err : Option String)
  | callsDone (data : String)
  | returns (data : String)
  | panics (data crash : String)
  | checks
  | recovers (crash : String)
  | stops
deriving DecidableEq, Repr

namespace HandlerStep

/-- When a step of the handler is possible. -/
def Enabled : HandlerStep → Pump → Prop
  | .receives data, s => s.handler = .receive ∧ s.dataChan.head? = some data
  | .seesClosed, s => s.handler = .receive ∧ s.dataChan = [] ∧ s.dataClosed = true
  | .passes data, s => s.handler = .screen data
  | .blocks data _, s => s.handler = .screen data
  | .locks data, s => s.handler = .lock data ∧ s.writeMutex = none
  | .callsStop data _, s => s.handler = .handle data ∧ s.srStopped = false
  | .callsDone data, s => s.handler = .handle data ∧ s.srStopped = false
  | .returns data, s => s.handler = .handle data
  | .panics data _, s => s.handler = .handle data
  | .checks, s => s.handler = .check
  | .recovers crash, s => s.handler = .recover crash
  | .stops, s => s.handler = .stop

instance (e : HandlerStep) (s : Pump) : Decidable (e.Enabled s) := by
  cases e <;> dsimp only [Enabled] <;> infer_instance

/-- What a step of the handler does. -/
def effect : HandlerStep → Pump → Pump
  | .receives data, s =>
      { s with handler := .screen data, dataChan := s.dataChan.tail, srStopped := false }
  | .seesClosed, s => { s with handler := .stop }
  | .passes data, s => { s with handler := .lock data }
  | .blocks _ err, s =>
      { s.setEndReason .handlerStop (some err) with
        handler := .stop, srStopped := true, stopped := true }
  | .locks data, s =>
      { s with
        handler := .handle data, writeMutex := some .handler, handled := s.handled ++ [data] }
  | .callsStop _ err, s =>
      { s.setEndReason .handlerStop err with srStopped := true, stopped := true }
  | .callsDone _, s => { s.setEndReason .done none with srStopped := true, stopped := true }
  | .returns _, s => { s with handler := .check, writeMutex := none }
  | .panics _ crash, s =>
      { s with handler := .recover crash, writeMutex := none, panicked := true }
  | .checks, s => { s with handler := if s.srStopped then .stop else .receive }
  | .recovers crash, s =>
      { s.setEndReason .panic (some ("handler panic: " ++ crash)) with handler := .stop }
  | .stops, s => { s with stopClosed := true, handler := .exited }

end HandlerStep

/-! ## The pings -/

/-- The steps of the ping goroutine. -/
inductive PingStep where
  | ticks
  /-- `select` takes `ctx.Done`, `stopChan` or the client's `Done`. -/
  | leaves
  /-- `select` takes `pingTimeout`. -/
  | expires
  | locks
  | succeeds
  | fails (err : String)
  | panics (crash : String)
  | judges (err : String)
  | records (gone : Bool) (err : String)
  | recovers (crash : String)
  | stops
deriving DecidableEq, Repr

namespace PingStep

/-- When a step of the ping goroutine is possible. -/
def Enabled : PingStep → Pump → Prop
  | .ticks, s => s.ping = .select
  | .leaves, s =>
      s.ping = .select ∧ (s.canceled = true ∨ s.stopClosed = true ∨ s.clientGone = true)
  | .expires, s => s.ping = .select
  | .locks, s => s.ping = .lock ∧ s.writeMutex = none
  | .succeeds, s => s.ping = .write
  | .fails _, s => s.ping = .write
  | .panics _, s => s.ping = .write
  | .judges err, s => s.ping = .judge err
  | .records gone err, s => s.ping = .record gone err
  | .recovers crash, s => s.ping = .recover crash
  | .stops, s => s.ping = .stop

instance (e : PingStep) (s : Pump) : Decidable (e.Enabled s) := by
  cases e <;> dsimp only [Enabled] <;> infer_instance

/-- What a step of the ping goroutine does. -/
def effect : PingStep → Pump → Pump
  | .ticks, s => { s with ping := .lock }
  | .leaves, s | .expires, s => { s with ping := .exited }
  | .locks, s => { s with ping := .write, writeMutex := some .ping }
  | .succeeds, s => { s with ping := .select, writeMutex := none }
  | .fails err, s => { s with ping := .judge err, writeMutex := none }
  | .panics crash, s => { s with ping := .recover crash, writeMutex := none }
  | .judges err, s => { s with ping := .record s.clientGone err }
  | .records gone err, s =>
      if gone then { s.setEndReason .clientGone (some "context canceled") with ping := .exited }
      else { s.setEndReason .pingFail (some err) with ping := .stop }
  | .recovers crash, s =>
      { s.setEndReason .panic (some ("ping panic: " ++ crash)) with ping := .stop }
  | .stops, s => { s with stopClosed := true, ping := .exited }

end PingStep

/-! ## The main goroutine -/

/-- The steps of the main goroutine. -/
inductive MainStep where
  | timesOut
  | seesStop
  | seesClient
  | records (reason : StreamEndReason)
  | cancels
  | stops
  | closesBody
  /-- `wg.Wait` returns, and with it the call. -/
  | returns
deriving DecidableEq, Repr

namespace MainStep

/-- When a step of the main goroutine is possible. -/
def Enabled : MainStep → Pump → Prop
  | .timesOut, s => s.main = .select
  | .seesStop, s => s.main = .select ∧ s.stopClosed = true
  | .seesClient, s => s.main = .select ∧ s.clientGone = true
  | .records reason, s => s.main = .record reason
  | .cancels, s => s.main = .cancel
  | .stops, s => s.main = .stop
  | .closesBody, s => s.main = .closeBody
  | .returns, s =>
      s.main = .wait ∧ s.scanner = .exited ∧ s.handler = .exited ∧ s.ping = .exited

instance (e : MainStep) (s : Pump) : Decidable (e.Enabled s) := by
  cases e <;> dsimp only [Enabled] <;> infer_instance

/-- What a step of the main goroutine does. -/
def effect : MainStep → Pump → Pump
  | .timesOut, s => { s with main := .record .timeout }
  | .seesStop, s => { s with main := .cancel }
  | .seesClient, s => { s with main := .record .clientGone }
  | .records reason, s =>
      { s.setEndReason reason
          (if reason = .clientGone then some "context canceled" else none) with main := .cancel }
  | .cancels, s => { s with canceled := true, main := .stop }
  | .stops, s => { s with stopClosed := true, main := .closeBody }
  | .closesBody, s => { s with bodyClosed := true, main := .wait }
  | .returns, s => { s with main := .returned }

end MainStep

/-! ## The call -/

/-- One step of the call, or the client leaving. -/
inductive PumpStep where
  | scanner (e : ScannerStep)
  | handler (e : HandlerStep)
  | ping (e : PingStep)
  | main (e : MainStep)
  | clientLeaves
deriving DecidableEq, Repr

namespace PumpStep

/-- When a step is possible. -/
def Enabled : PumpStep → Pump → Prop
  | .scanner e, s => e.Enabled s
  | .handler e, s => e.Enabled s
  | .ping e, s => e.Enabled s
  | .main e, s => e.Enabled s
  | .clientLeaves, s => s.clientGone = false

instance (e : PumpStep) (s : Pump) : Decidable (e.Enabled s) := by
  cases e <;> dsimp only [Enabled] <;> infer_instance

/-- What a step does. -/
def effect : PumpStep → Pump → Pump
  | .scanner e, s => e.effect s
  | .handler e, s => e.effect s
  | .ping e, s => e.effect s
  | .main e, s => e.effect s
  | .clientLeaves, s => { s with clientGone := true }

end PumpStep

namespace Pump

/-- One step, if it is possible. -/
def apply (s : Pump) (e : PumpStep) : Option Pump :=
  if e.Enabled s then some (e.effect s) else none

/-- The steps of the call. -/
def Step (s : Pump) (e : PumpStep) (s' : Pump) : Prop := e.Enabled s ∧ s' = e.effect s

theorem step_of_apply {s s' : Pump} {e : PumpStep} (h : s.apply e = some s') : Step s e s' := by
  unfold apply at h
  split at h
  · rename_i hen
    exact ⟨hen, (Option.some.inj h).symm⟩
  · cases h

/-- Runs of the call, under any interleaving. -/
abbrev Runs := Steps.Run Step

end Pump

end NewApi
