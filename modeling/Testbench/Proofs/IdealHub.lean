import Testbench.Proofs.Agenda
import Testbench.Proofs.RunCalls

/-! The ideal hub: what a hub ought to do, said without saying how. It keeps the list of the armed timers, sorted, from which
a cancelled timer is gone at once, and what it is asked to collect or to reclaim is nothing to it. It has what can be asked
for and the clock's arithmetic in common with the hub that is to be judged by it, and nothing else. -/

namespace Testbench

variable {ν σ : Type}

/-- It is asked of the hub or of the clock, or of the memory that tasks and callbacks share. -/
def Request.OfHub {α : Type} : Request ν σ α → Prop
  | .clock | .burn _ | .hub _ | .switch | .recall | .store _ => True
  | _ => False

structure Ideal (ν σ : Type) where
  agenda : Agenda (Action ν σ) := .empty
  clock : Nat := 0
  /-- The instant the hub last looked at the clock. -/
  now : Nat := 0
  nextTimer : Nat := 0
  /-- A wake is pending. -/
  woken : Bool := false
  inCallback : Bool := false
  handles : Int := 0
  /-- What has fired, and the clock then; latest first. -/
  fired : List (Alarm × Nat) := []
  memory : σ

namespace Ideal

variable {α : Type} (ideal : Ideal ν σ)

def fresh (memory : σ) : Ideal ν σ := { memory }

/-- A timer whose deadline cannot be expressed is not armed. Its number is spent. -/
def schedule (delay : Nat) (action : Action ν σ) : Except Panic Nat × Ideal ν σ :=
  let looked := { ideal with now := ideal.clock, nextTimer := ideal.nextTimer + 1 }
  match deadline? ideal.clock delay with
  | none => (.error .instantOverflow, looked)
  | some deadline => (.ok ideal.nextTimer, { looked with agenda := ideal.agenda.arm ideal.nextTimer deadline action })

def cancel (timer : Nat) : Bool × Ideal ν σ :=
  (ideal.agenda.isArmed timer, { ideal with agenda := ideal.agenda.remove timer })

/-- An armed timer counts as a live handle. -/
def liveHandles : Int := (ideal.agenda.timers.length : Int) + ideal.handles

def onHub : Hub.Request α → α × Ideal ν σ
  | .now => (ideal.now, ideal)
  | .updateNow => ((), { ideal with now := ideal.clock })
  | .schedule delay signal => ideal.schedule delay signal.action
  | .cancel timer => ideal.cancel timer
  | .isArmed timer => (ideal.agenda.isArmed timer, ideal)
  | .wake => ((), { ideal with woken := true })
  | .switchCount => (none, ideal)
  | .hasProbe => (true, ideal)
  | .liveHandles => (ideal.liveHandles, ideal)
  | .setReclaim _ => ((), ideal)
  | .collect => ((), ideal)
  | .openHandle => ((), { ideal with handles := ideal.handles + 1 })
  | .closeHandle => ((), { ideal with handles := ideal.handles - 1 })

/-- What is answered at once. A callback is refused a switch; a task is not, and has to wait for its answer. -/
def answer? : Request ν σ α → Option (α × Ideal ν σ)
  | .clock => some (ideal.clock, ideal)
  | .burn nanos => some ((), { ideal with clock := ideal.clock + nanos })
  | .hub request => some (ideal.onHub request)
  | .switch => if ideal.inCallback then some (.error (.failed .blockingInCallback), ideal) else none
  | .recall => some (ideal.memory, ideal)
  | .store memory => some ((), { ideal with memory })
  | _ => none

/-- What a callback comes to. It asks for nothing that is not answered at once. -/
def perform? {α : Type} : Program ν σ α → Ideal ν σ → Option (α × Ideal ν σ)
  | .pure value, ideal => some (value, ideal)
  | .request asked next, ideal =>
    match ideal.answer? asked with
    | none => none
    | some (reply, ideal) => perform? (next reply) ideal
  | .call delay label callback next, ideal =>
    let (reply, ideal) := ideal.schedule delay (.call label callback)
    perform? (next reply) ideal

/-- The clock stands at the deadline of the timer that is first, or later, and the hub looks at it. -/
def fire (alarm : Alarm) (rest : Agenda (Action ν σ)) : Ideal ν σ :=
  let clock := max ideal.clock alarm.deadline
  { ideal with agenda := rest, clock, now := clock, fired := (alarm, clock) :: ideal.fired }

/-- What a switch does: the callbacks it runs, what it is answered, and the hub it leaves. -/
inductive Switches : Ideal ν σ → List Call → Except (Stop HubError) Unit → Ideal ν σ → Prop where
  | resumes {ideal : Ideal ν σ} (woken : ideal.woken = true) : Switches ideal [] (.ok ()) { ideal with woken := false }
  /-- No wake is pending, and no timer is armed. -/
  | givesUp {ideal : Ideal ν σ} (asleep : ideal.woken = false) (nothing : ideal.agenda.next? = none) :
      Switches ideal [] (.error (.failed .loopExit)) ideal
  | wakes {ideal : Ideal ν σ} {alarm : Alarm} {rest : Agenda (Action ν σ)} (asleep : ideal.woken = false)
      (first : ideal.agenda.next? = some ((alarm, .wake), rest)) : Switches ideal [] (.ok ()) (ideal.fire alarm rest)
  | raises {ideal : Ideal ν σ} {alarm : Alarm} {error : HubError} {rest : Agenda (Action ν σ)}
      (asleep : ideal.woken = false) (first : ideal.agenda.next? = some ((alarm, .raise error), rest)) :
      Switches ideal [] (.error (.failed error)) (ideal.fire alarm rest)
  /-- The hub goes on after a callback, whether it has failed or not. -/
  | returns {ideal mid after : Ideal ν σ} {alarm : Alarm} {label : String} {callback : Callback ν σ}
      {rest : Agenda (Action ν σ)} {outcome answer : Except (Stop HubError) Unit} {calls : List Call}
      (asleep : ideal.woken = false) (first : ideal.agenda.next? = some ((alarm, .call label callback), rest))
      (called : perform? callback { ideal.fire alarm rest with inCallback := true } = some (outcome, mid))
      (quiet : ∀ panic, outcome ≠ .error (.panicked panic))
      (later : Switches { mid with inCallback := false } calls answer after) :
      Switches ideal (⟨label, outcome⟩ :: calls) answer after
  | panics {ideal mid : Ideal ν σ} {alarm : Alarm} {label : String} {callback : Callback ν σ}
      {rest : Agenda (Action ν σ)} {panic : Panic} (asleep : ideal.woken = false)
      (first : ideal.agenda.next? = some ((alarm, .call label callback), rest))
      (called : perform? callback { ideal.fire alarm rest with inCallback := true } = some (.error (.panicked panic), mid)) :
      Switches ideal [⟨label, .error (.panicked panic)⟩] (.error (.panicked panic)) { mid with inCallback := false }

/-- What a task comes to, and the callbacks that its switches run. -/
inductive Runs : {α : Type} → Program ν σ α → Ideal ν σ → List Call → α → Ideal ν σ → Prop where
  | pure {α : Type} {value : α} {ideal : Ideal ν σ} : Runs (.pure value) ideal [] value ideal
  | request {α β : Type} {asked : Request ν σ β} {next : β → Program ν σ α} {ideal mid after : Ideal ν σ} {reply : β}
      {calls : List Call} {value : α} (answered : ideal.answer? asked = some (reply, mid))
      (rest : Runs (next reply) mid calls value after) : Runs (.request asked next) ideal calls value after
  | switch {α : Type} {next : Except (Stop HubError) Unit → Program ν σ α} {ideal mid after : Ideal ν σ}
      {answer : Except (Stop HubError) Unit} {calls later : List Call} {value : α} (outside : ideal.inCallback = false)
      (switched : ideal.Switches calls answer mid) (rest : Runs (next answer) mid later value after) :
      Runs (.request .switch next) ideal (calls ++ later) value after
  | call {α : Type} {delay : Nat} {label : String} {callback : Callback ν σ} {next : Except Panic Nat → Program ν σ α}
      {ideal mid after : Ideal ν σ} {reply : Except Panic Nat} {calls : List Call} {value : α}
      (scheduled : ideal.schedule delay (.call label callback) = (reply, mid))
      (rest : Runs (next reply) mid calls value after) : Runs (.call delay label callback next) ideal calls value after

/-! Nothing is left open: what the ideal hub does is a matter of what it is asked. -/

variable {ideal : Ideal ν σ}

theorem inCallback_schedule (ideal : Ideal ν σ) (delay : Nat) (action : Action ν σ) :
    (ideal.schedule delay action).2.inCallback = ideal.inCallback := by
  unfold schedule
  dsimp only
  split <;> rfl

theorem inCallback_answer? {asked : Request ν σ α} {reply : α} {after : Ideal ν σ}
    (answered : ideal.answer? asked = some (reply, after)) : after.inCallback = ideal.inCallback := by
  cases asked with
  | hub request =>
    cases request with
    | schedule delay signal =>
      have scheduled : ideal.schedule delay signal.action = (reply, after) := Option.some.inj answered
      have same := ideal.inCallback_schedule delay signal.action
      rwa [scheduled] at same
    | _ => cases answered; rfl
  | switch =>
    obtain ⟨-, answered⟩ := Option.ite_none_right_eq_some.mp answered
    cases answered
    rfl
  | _ => cases answered <;> rfl

theorem Switches.unique {calls calls' : List Call} {answer answer' : Except (Stop HubError) Unit} {after after' : Ideal ν σ}
    (one : ideal.Switches calls answer after) (other : ideal.Switches calls' answer' after') :
    calls' = calls ∧ answer' = answer ∧ after' = after := by
  induction one generalizing calls' answer' after' with
  | resumes woken =>
    cases other with
    | resumes => exact ⟨rfl, rfl, rfl⟩
    | _ asleep => cases woken.symm.trans asleep
  | givesUp asleep nothing =>
    cases other with
    | resumes woken => cases woken.symm.trans asleep
    | givesUp => exact ⟨rfl, rfl, rfl⟩
    | _ _ first => cases nothing.symm.trans first
  | wakes asleep first =>
    cases other with
    | resumes woken => cases woken.symm.trans asleep
    | wakes _ first' => cases first.symm.trans first'; exact ⟨rfl, rfl, rfl⟩
    | _ _ first' => cases first.symm.trans first'
  | raises asleep first =>
    cases other with
    | resumes woken => cases woken.symm.trans asleep
    | raises _ first' => cases first.symm.trans first'; exact ⟨rfl, rfl, rfl⟩
    | _ _ first' => cases first.symm.trans first'
  | returns asleep first called quiet _ ih =>
    cases other with
    | resumes woken => cases woken.symm.trans asleep
    | returns _ first' called' _ later' =>
      cases first.symm.trans first'
      cases called.symm.trans called'
      obtain ⟨rfl, rfl, rfl⟩ := ih later'
      exact ⟨rfl, rfl, rfl⟩
    | panics _ first' called' =>
      cases first.symm.trans first'
      cases called.symm.trans called'
      exact absurd rfl (quiet _)
    | _ _ first' => cases first.symm.trans first'
  | panics asleep first called =>
    cases other with
    | resumes woken => cases woken.symm.trans asleep
    | returns _ first' called' quiet =>
      cases first.symm.trans first'
      cases called.symm.trans called'
      exact absurd rfl (quiet _)
    | panics _ first' called' =>
      cases first.symm.trans first'
      cases called.symm.trans called'
      exact ⟨rfl, rfl, rfl⟩
    | _ _ first' => cases first.symm.trans first'

theorem Runs.unique {program : Program ν σ α} {calls calls' : List Call} {value value' : α} {after after' : Ideal ν σ}
    (one : Runs program ideal calls value after) (other : Runs program ideal calls' value' after') :
    calls' = calls ∧ value' = value ∧ after' = after := by
  induction one generalizing calls' value' after' with
  | pure => cases other; exact ⟨rfl, rfl, rfl⟩
  | request answered rest ih =>
    cases other with
    | request answered' rest' => cases answered.symm.trans answered'; exact ih rest'
    | switch outside => simp [answer?, outside] at answered
  | switch outside switched rest ih =>
    cases other with
    | request answered => simp [answer?, outside] at answered
    | switch _ switched' rest' =>
      obtain ⟨rfl, rfl, rfl⟩ := switched.unique switched'
      obtain ⟨rfl, rfl, rfl⟩ := ih rest'
      exact ⟨rfl, rfl, rfl⟩
  | call scheduled rest ih =>
    cases other with
    | call scheduled' rest' => cases scheduled.symm.trans scheduled'; exact ih rest'

end Ideal

end Testbench
