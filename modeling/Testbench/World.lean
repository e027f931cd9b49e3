import Testbench.Hub.TimerQueue
import Testbench.Program.Basic
import Testbench.Registry

/-!
The state of the bench: its clock, the hub with its timers, and every object tasks share. All that a
request does without blocking is a function on this state.
-/

namespace Testbench

inductive Action (ν σ : Type) where
  | wake
  | raise (error : HubError)
  | call (label : String) (callback : Callback ν σ)

def Signal.action {ν σ : Type} : Signal → Action ν σ
  | .wake => .wake
  | .raise error => .raise error

/-- What the hub did, for those who want to follow it. -/
inductive HubEvent where
  | armed (alarm : Alarm)
  | cancelled (timer : Nat)
  /-- The clock stood at `since` when the hub turned to the alarm, and at `clock` when it fired. -/
  | fired (alarm : Alarm) (since clock : Nat)
  | callbackFailed (label : String) (error : HubError)
  | switchBegun
  | reclaimSet (enabled : Bool)
  | sampled (live : Int)
deriving DecidableEq

structure Hub (Q : Type 1) where
  queue : Q
  /-- The instant the hub last looked at the clock. -/
  now : Nat := 0
  /-- Timers are numbered in the order they are asked for. -/
  nextTimer : Nat := 0
  /-- The waiting task is to be resumed. -/
  woken : Bool := false
  inCallback : Bool := false
  /-- The hub may tidy up its timers by itself. -/
  reclaim : Bool := true
  handles : Int := 0
  /-- Latest first. -/
  journal : List HubEvent := []

/-- What the code under test sees of the hub. -/
inductive Front where
  | direct
  /-- A hub that counts the switches through it. -/
  | counting (switches : Nat)
  /-- A hub that reports neither switches nor resources. -/
  | closed
deriving DecidableEq

structure World (Q : Type 1) (ν σ : Type) where
  clock : Nat := 0
  hub : Hub Q
  front : Front
  /-- The timer last armed for each timeout that was started and not cancelled since. -/
  timers : Registry Nat Nat := .empty
  timeoutsMade : Nat := 0
  errorsMade : Nat := 0
  events : Registry EventId Event := .empty
  eventsMade : Nat := 0
  results : Registry ResultId (AsyncResult ν) := .empty
  resultsMade : Nat := 0
  cases : Registry CaseId TestCase := .empty
  casesMade : Nat := 0
  diagnostics : Diagnostics := {}
  memory : σ

namespace World

variable {ν σ : Type} {Q : Type 1}

def note (world : World Q ν σ) (event : HubEvent) : World Q ν σ :=
  { world with hub := { world.hub with journal := event :: world.hub.journal } }

def burn (world : World Q ν σ) (nanos : Nat) : World Q ν σ := { world with clock := world.clock + nanos }

def updateNow (world : World Q ν σ) : World Q ν σ := { world with hub := { world.hub with now := world.clock } }

def wake (world : World Q ν σ) : World Q ν σ := { world with hub := { world.hub with woken := true } }

def clearWoken (world : World Q ν σ) : World Q ν σ := { world with hub := { world.hub with woken := false } }

def setInCallback (world : World Q ν σ) (inCallback : Bool) : World Q ν σ :=
  { world with hub := { world.hub with inCallback } }

def setReclaim (world : World Q ν σ) (reclaim : Bool) : World Q ν σ :=
  note { world with hub := { world.hub with reclaim } } (.reclaimSet reclaim)

def addHandles (world : World Q ν σ) (change : Int) : World Q ν σ :=
  { world with hub := { world.hub with handles := world.hub.handles + change } }

def setQueue (world : World Q ν σ) (queue : Q) : World Q ν σ := { world with hub := { world.hub with queue } }

def switchCount (world : World Q ν σ) : Option Nat :=
  match world.front with
  | .counting switches => some switches
  | _ => none

def hasProbe (world : World Q ν σ) : Bool := world.front ≠ .closed

/-- A switch is counted when it begins, whatever becomes of it. -/
def beginSwitch (world : World Q ν σ) : World Q ν σ :=
  let counted := match world.front with
    | .counting switches => { world with front := .counting (switches + 1) }
    | _ => world
  counted.note .switchBegun

/-- The hub sleeps until the deadline, unless it has passed, and looks at the clock. -/
def arrive (world : World Q ν σ) (alarm : Alarm) : World Q ν σ :=
  let arrived := updateNow { world with clock := max world.clock alarm.deadline }
  arrived.note (.fired alarm world.clock arrived.clock)

def onDiagnostics (world : World Q ν σ) (request : Diagnostics.Request α) : α × World Q ν σ :=
  let (answer, diagnostics) := world.diagnostics.handle request
  (answer, { world with diagnostics })

/-- A callback that failed is reported as a diagnostic. -/
def reportFailure (world : World Q ν σ) (label : String) (error : HubError) : World Q ν σ :=
  (world.onDiagnostics (.write (Traceback.ofCallback label error.kindName error.value))).2.note
    (.callbackFailed label error)

section Timers

variable [TimerQueue (Action ν σ) Q]

/-- The number is spent even when the deadline cannot be expressed and nothing is armed. -/
def schedule (world : World Q ν σ) (after : Nat) (action : Action ν σ) : Except Panic Nat × World Q ν σ :=
  let looked := world.updateNow
  let id := looked.hub.nextTimer
  let numbered : World Q ν σ := { looked with hub := { looked.hub with nextTimer := id + 1 } }
  match deadline? numbered.hub.now after with
  | none => (.error .instantOverflow, numbered)
  | some deadline =>
    (.ok id, (numbered.setQueue (TimerQueue.arm numbered.hub.queue id deadline action)).note (.armed ⟨deadline, id⟩))

def cancel (world : World Q ν σ) (timer : Nat) : Bool × World Q ν σ :=
  match TimerQueue.cancel? world.hub.queue timer with
  | none => (false, world)
  | some queue => (true, (world.setQueue queue).note (.cancelled timer))

def isArmed (world : World Q ν σ) (timer : Nat) : Bool := TimerQueue.isArmed world.hub.queue timer

def liveHandles (world : World Q ν σ) : Int := (TimerQueue.armedCount world.hub.queue : Int) + world.hub.handles

def onHub (world : World Q ν σ) : Hub.Request α → α × World Q ν σ
  | .now => (world.hub.now, world)
  | .updateNow => ((), world.updateNow)
  | .schedule after signal => world.schedule after signal.action
  | .cancel timer => world.cancel timer
  | .isArmed timer => (world.isArmed timer, world)
  | .wake => ((), world.wake)
  | .switchCount => (world.switchCount, world)
  | .hasProbe => (world.hasProbe, world)
  | .liveHandles => (world.liveHandles, world.note (.sampled world.liveHandles))
  | .setReclaim enabled => ((), world.setReclaim enabled)
  | .collect => ((), world.setQueue (TimerQueue.collect world.hub.queue))
  | .openHandle => ((), world.addHandles 1)
  | .closeHandle => ((), world.addHandles (-1))

/-! Timeouts. -/

def newTimeout (world : World Q ν σ) (after : Option Nat) : Timeout × World Q ν σ :=
  ({ id := world.timeoutsMade, after }, { world with timeoutsMade := world.timeoutsMade + 1 })

def cancelTimeout (world : World Q ν σ) (timeout : Timeout) : Bool × World Q ν σ :=
  match world.timers.get? timeout.id with
  | none => (false, world)
  | some timer => { world with timers := world.timers.erase timeout.id }.cancel timer

def isPending (world : World Q ν σ) (timeout : Timeout) : Bool :=
  (world.timers.get? timeout.id).any world.isArmed

/-- Arms the timer, in the place of one that is pending. -/
def startTimeout (world : World Q ν σ) (timeout : Timeout) : Except Panic Unit × World Q ν σ :=
  let (_, stopped) := world.cancelTimeout timeout
  match timeout.after with
  | none => (.ok (), stopped)
  | some after =>
    match stopped.schedule after (.raise timeout.error) with
    | (.error panic, scheduled) => (.error panic, scheduled)
    | (.ok timer, scheduled) => (.ok (), { scheduled with timers := scheduled.timers.set timeout.id timer })

/-- Starts the timer of a wait, if the wait has one. A timeout that is already pending is left running. -/
def startLimit (world : World Q ν σ) : WaitLimit → Except Panic (Option Timeout) × World Q ν σ
  | .never => (.ok none, world)
  | .after duration =>
    let (timeout, made) := world.newTimeout (some duration)
    let (started, world) := made.startTimeout timeout
    (started.map fun _ => some timeout, world)
  | .under timeout =>
    if world.isPending timeout then (.ok (some timeout), world)
    else
      let (started, world) := world.startTimeout timeout
      (started.map fun _ => some timeout, world)

def endLimit (world : World Q ν σ) : Option Timeout → World Q ν σ
  | none => world
  | some timeout => (world.cancelTimeout timeout).2

end Timers

/-! Events and results. -/

def event (world : World Q ν σ) (id : EventId) : Event := (world.events.get? id).getD {}

def setEventState (world : World Q ν σ) (id : EventId) (event : Event) : World Q ν σ :=
  { world with events := world.events.set id event }

def newEvent (world : World Q ν σ) : EventId × World Q ν σ :=
  let id : EventId := ⟨world.eventsMade⟩
  (id, { world.setEventState id {} with eventsMade := world.eventsMade + 1 })

/-- Wakes the task only if one waits for this event. -/
def setEvent (world : World Q ν σ) (id : EventId) : World Q ν σ :=
  let event := world.event id
  let flagged := world.setEventState id { event with isSet := true }
  if event.waiters > 0 then flagged.wake else flagged

def clearEvent (world : World Q ν σ) (id : EventId) : World Q ν σ :=
  world.setEventState id { world.event id with isSet := false }

def addEventWaiter (world : World Q ν σ) (id : EventId) : World Q ν σ :=
  world.setEventState id { world.event id with waiters := (world.event id).waiters + 1 }

def removeEventWaiter (world : World Q ν σ) (id : EventId) : World Q ν σ :=
  world.setEventState id { world.event id with waiters := (world.event id).waiters - 1 }

def result (world : World Q ν σ) (id : ResultId) : AsyncResult ν := (world.results.get? id).getD {}

def setResultState (world : World Q ν σ) (id : ResultId) (result : AsyncResult ν) : World Q ν σ :=
  { world with results := world.results.set id result }

def newResult (world : World Q ν σ) : ResultId × World Q ν σ :=
  let id : ResultId := ⟨world.resultsMade⟩
  (id, { world.setResultState id {} with resultsMade := world.resultsMade + 1 })

/-- Wakes the task only if one waits for this result. -/
def complete (world : World Q ν σ) (id : ResultId) (value : Except HubError ν) : World Q ν σ :=
  let result := world.result id
  let stored := world.setResultState id { result with value := some value }
  if result.waiters > 0 then stored.wake else stored

def addResultWaiter (world : World Q ν σ) (id : ResultId) : World Q ν σ :=
  world.setResultState id { world.result id with waiters := (world.result id).waiters + 1 }

def removeResultWaiter (world : World Q ν σ) (id : ResultId) : World Q ν σ :=
  world.setResultState id { world.result id with waiters := (world.result id).waiters - 1 }

/-! Test cases. -/

def case (world : World Q ν σ) (id : CaseId) : TestCase :=
  (world.cases.get? id).getD { id := ⟨"", "", ""⟩, policy := {}, capture := ⟨0⟩ }

def setCase (world : World Q ν σ) (id : CaseId) (case : TestCase) : World Q ν σ :=
  { world with cases := world.cases.set id case }

/-- A case has a capture of its own, which echoes to the console. -/
def newCase (world : World Q ν σ) (id : TestId) (policy : Policy) (config : Config) : CaseId × World Q ν σ :=
  let (capture, opened) := world.onDiagnostics (.create config .console)
  let caseId : CaseId := ⟨opened.casesMade⟩
  (caseId, { opened.setCase caseId { id, policy, capture } with casesMade := opened.casesMade + 1 })

def setUpCase (world : World Q ν σ) (id : CaseId) : World Q ν σ :=
  let looked := world.updateNow
  looked.setCase id { looked.case id with countAtSetUp := looked.switchCount }

def classifyCase (world : World Q ν σ) (id : CaseId) (expected : SwitchExpected) : World Q ν σ :=
  world.setCase id { world.case id with switchExpected := expected }

end World

end Testbench
