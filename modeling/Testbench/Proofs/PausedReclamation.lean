import Testbench.Proofs.ConfinedRuns

/-! Background reclamation during a leak check. A session switches it off when it begins, and then it is whatever it was
last set to. It stays off unless somebody switches it on, as a further session does when it ends: the session around that
one takes its last samples with reclamation on. -/

namespace Testbench

variable {ν σ : Type} {Q : Type 1} [TimerQueue (Action ν σ) Q]

def HubEvent.reclaiming? : HubEvent → Option Bool
  | .reclaimSet enabled => some enabled
  | _ => none

/-- The request does not switch background reclamation on. -/
def Request.SparesReclaim {α : Type} : Request ν σ α → Prop
  | .hub (.setReclaim enabled) => enabled = false
  | _ => True

namespace World

/-- Background reclamation is as it was last set. -/
def Reclaims (world after : World Q ν σ) : Prop :=
  ∃ since, after.hub.journal = since ++ world.hub.journal ∧
    after.hub.reclaim = (since.findSome? HubEvent.reclaiming?).getD world.hub.reclaim

/-- Nobody has set it. -/
def LeavesReclaim (world after : World Q ν σ) : Prop :=
  after.hub.reclaim = world.hub.reclaim ∧
    ∃ since, after.hub.journal = since ++ world.hub.journal ∧ since.findSome? HubEvent.reclaiming? = none

section

omit [TimerQueue (Action ν σ) Q]

variable {world mid after : World Q ν σ}

theorem Reclaims.trans (first : Reclaims world mid) (second : Reclaims mid after) : Reclaims world after := by
  obtain ⟨since, journal, reclaim⟩ := first
  obtain ⟨later, journal', reclaim'⟩ := second
  refine ⟨later ++ since, by rw [journal', journal, List.append_assoc], ?_⟩
  rw [reclaim', reclaim, List.findSome?_append]
  cases later.findSome? HubEvent.reclaiming? <;> rfl

theorem reclaims_setReclaim (world : World Q ν σ) (enabled : Bool) : Reclaims world (world.setReclaim enabled) :=
  ⟨[.reclaimSet enabled], rfl, rfl⟩

namespace LeavesReclaim

theorem reclaims (leaves : LeavesReclaim world after) : Reclaims world after := by
  obtain ⟨same, since, journal, unset⟩ := leaves
  exact ⟨since, journal, by rw [unset]; exact same⟩

theorem aside (reclaim : after.hub.reclaim = world.hub.reclaim) (journal : after.hub.journal = world.hub.journal) :
    LeavesReclaim world after := ⟨reclaim, [], journal, rfl⟩

theorem noted {event : HubEvent} (other : event.reclaiming? = none) (reclaim : after.hub.reclaim = world.hub.reclaim)
    (journal : after.hub.journal = event :: world.hub.journal) : LeavesReclaim world after :=
  ⟨reclaim, [event], journal, by rw [List.findSome?_cons, other]; rfl⟩

theorem trans (first : LeavesReclaim world mid) (second : LeavesReclaim mid after) : LeavesReclaim world after := by
  obtain ⟨same, since, journal, unset⟩ := first
  obtain ⟨same', later, journal', unset'⟩ := second
  refine ⟨same'.trans same, later ++ since, by rw [journal', journal, List.append_assoc], ?_⟩
  rw [List.findSome?_append, unset', unset]
  rfl

theorem keeps_off (leaves : LeavesReclaim world after) (off : world.hub.reclaim = false) : after.hub.reclaim = false :=
  leaves.1.trans off

theorem beginSwitch (world : World Q ν σ) : LeavesReclaim world world.beginSwitch := by
  obtain ⟨front, same⟩ := world.beginSwitch_eq
  rw [same]
  exact .noted rfl rfl rfl

end LeavesReclaim

end

namespace LeavesReclaim

variable {world after : World Q ν σ}

theorem schedule (world : World Q ν σ) (delay : Nat) (action : Action ν σ) :
    LeavesReclaim world (world.schedule delay action).2 := by
  unfold World.schedule
  dsimp only
  split
  · exact .aside rfl rfl
  · exact .noted rfl rfl rfl

theorem cancel (world : World Q ν σ) (timer : Nat) : LeavesReclaim world (world.cancel timer).2 := by
  unfold World.cancel
  split
  · exact .aside rfl rfl
  · exact .noted rfl rfl rfl

theorem carries : Run.Carries fun _ (world after : World Q ν σ) => LeavesReclaim world after :=
  Run.carries_of_timers (fun _ => .aside rfl rfl) (fun first second => first.trans second)
    (fun world delay signal => schedule world delay signal.action) cancel (fun _ _ _ => .aside rfl rfl)

theorem fire {rest : World Q ν σ} {alarm : Alarm} {action : Action ν σ}
    (found : world.takeNext = (some (alarm, action), rest)) : LeavesReclaim world (rest.arrive alarm) := by
  obtain ⟨-, rfl⟩ := Prod.mk.inj found
  exact .noted rfl rfl rfl

theorem runOut {rest : World Q ν σ} (found : world.takeNext = (none, rest)) : LeavesReclaim world rest := by
  obtain ⟨-, rfl⟩ := Prod.mk.inj found
  exact .aside rfl rfl

/-- Only one request sets it. -/
theorem answer {turns : Nat} {switch : Run.Switch Q ν σ} {β : Type} {request : Request ν σ β}
    (stays : request.maySwitch = false) {reply : β} (answered : Run.answer turns switch request world = some (reply, after)) :
    LeavesReclaim world after ∨ ∃ enabled, after = world.setReclaim enabled ∧ (request.SparesReclaim → enabled = false) := by
  have along {run : β × World Q ν σ} (leaves : LeavesReclaim world run.2) (same : run = (reply, after)) :
      LeavesReclaim world after := by
    rwa [same] at leaves
  cases request with
  | switch | sleep | wait | get => cases stays
  | newTimeout duration => exact .inl (along (carries.newTimeout world duration) (Option.some.inj answered))
  | startTimeout timeout => exact .inl (along (carries.startTimeout world timeout) (Option.some.inj answered))
  | cancelTimeout timeout => exact .inl (along (carries.cancelTimeout world timeout) (Option.some.inj answered))
  | hub request =>
    cases request with
    | schedule delay signal => exact .inl (along (schedule world delay signal.action) (Option.some.inj answered))
    | cancel timer => exact .inl (along (cancel world timer) (Option.some.inj answered))
    | setReclaim enabled => cases answered; exact .inr ⟨enabled, rfl, id⟩
    | liveHandles => cases answered; exact .inl (.noted rfl rfl rfl)
    | _ => cases answered; exact .inl (.aside rfl rfl)
  | setEvent event =>
    cases answered
    obtain ⟨events, woken, same⟩ := world.setEvent_eq event
    rw [same]
    exact .inl (.aside rfl rfl)
  | complete result value =>
    cases answered
    obtain ⟨results, woken, same⟩ := world.complete_eq result value
    rw [same]
    exact .inl (.aside rfl rfl)
  | _ => cases answered; exact .inl (.aside rfl rfl)

end LeavesReclaim

theorem throughout_reclaims : Run.Throughout fun world after : World Q ν σ => Reclaims world after where
  carries := {
    refl := fun _ => ⟨[], rfl, rfl⟩
    trans := fun first second => first.trans second
    schedule := fun world delay signal => (LeavesReclaim.schedule world delay signal.action).reclaims
    cancel := fun world timer => (LeavesReclaim.cancel world timer).reclaims
    newTimeout := fun world after => (LeavesReclaim.carries.newTimeout world after).reclaims
    startTimeout := fun world timeout => (LeavesReclaim.carries.startTimeout world timeout).reclaims
    cancelTimeout := fun world timeout => (LeavesReclaim.carries.cancelTimeout world timeout).reclaims }
  signs := ⟨fun _ _ => ⟨[], rfl, rfl⟩, fun _ _ => ⟨[], rfl, rfl⟩, fun _ _ => ⟨[], rfl, rfl⟩, fun _ _ => ⟨[], rfl, rfl⟩⟩
  answer {turns switch α request} other {world after reply} answered := by
    have stays : request.maySwitch = false := by cases request <;> first | rfl | cases other
    obtain leaves | ⟨enabled, rfl, -⟩ := LeavesReclaim.answer stays answered
    · exact leaves.reclaims
    · exact world.reclaims_setReclaim enabled
  call world delay label callback := (LeavesReclaim.schedule world delay (.call label callback)).reclaims
  beginSwitch world := (LeavesReclaim.beginSwitch world).reclaims
  wake _ := ⟨[], rfl, rfl⟩
  clearWoken _ := ⟨[], rfl, rfl⟩
  setInCallback _ _ := ⟨[], rfl, rfl⟩
  runOut found := (LeavesReclaim.runOut found).reclaims
  fire found := (LeavesReclaim.fire found).reclaims
  reportFailure _ label error := ⟨[.callbackFailed label error], rfl, rfl⟩

/-- Whoever does not switch it on leaves it off. -/
theorem keeps_reclaim_off : Run.Keeps Request.SparesReclaim fun world : World Q ν σ => world.hub.reclaim = false where
  atOnce {turns switch β request} admitted stays {world after reply} off answered := by
    obtain leaves | ⟨enabled, rfl, spares⟩ := LeavesReclaim.answer stays answered
    · exact leaves.keeps_off off
    · exact spares admitted
  sleeps {delay} _ {world} off := (LeavesReclaim.schedule world delay .wake).keeps_off off
  awakes {delay timer} _ {world armed mid} _ _ later := (LeavesReclaim.cancel mid timer).keeps_off later
  waitLimit {id limit} _ := {
    begun := fun {world} off => (LeavesReclaim.carries.startLimit world limit).keeps_off off
    ends := fun _ _ later => (LeavesReclaim.carries.endLimit _ _).keeps_off later }
  getLimit {id limit} _ := {
    begun := fun {world} off => (LeavesReclaim.carries.startLimit world limit).keeps_off off
    ends := fun _ _ later => (LeavesReclaim.carries.endLimit _ _).keeps_off later }
  addEventWaiter _ off := off
  removeEventWaiter _ off := off
  addResultWaiter _ off := off
  removeResultWaiter _ off := off
  call delay label callback off := (LeavesReclaim.schedule _ delay (.call label callback)).keeps_off off
  beginSwitch {world} off := (LeavesReclaim.beginSwitch world).keeps_off off
  wake off := off
  clearWoken off := off
  setInCallback _ off := off
  runOut off found := (LeavesReclaim.runOut found).keeps_off off
  fire off found := (LeavesReclaim.fire found).keeps_off off
  reportFailure _ _ off := off

/-- The world in which the runs of a session begin. -/
def paused (world : World Q ν σ) : World Q ν σ := (world.setReclaim false).swept

end World

/-- A session ends with reclamation on, whatever it was before. -/
theorem LeakCheck.run_session_of_room {limit : Nat} (room : limit ≤ LeakCheck.largestLimit) (turns : Nat)
    (body : Program ν σ (Except (Stop Failure) Unit)) (world : World Q ν σ) :
    (LeakCheck.session .hub limit body).run turns world =
      ((LeakCheck.iterate .hub body limit []).run turns world.paused).map fun (outcome, ended) =>
        (outcome, (ended.setReclaim true).swept) := by
  simp only [LeakCheck.session, if_pos room, LeakCheck.supervise, Program.run_bind]
  change ((LeakCheck.iterate .hub body limit []).run turns world.paused).bind _ = _
  cases (LeakCheck.iterate .hub body limit []).run turns world.paused <;> rfl

/-- At each moment of a session reclamation is off, unless somebody has set it since: then it is what it was last set to.
So a session that switches nothing on and has no other inside stays paused to its end, where reclamation is switched on. -/
theorem LeakCheck.session_paused (limit : Nat) (room : limit ≤ LeakCheck.largestLimit) (turns : Nat)
    (body : Program ν σ (Except (Stop Failure) Unit)) (world : World Q ν σ) :
    (∀ moment, (LeakCheck.iterate .hub body limit []).Meets turns world.paused moment →
      (∃ since, moment.hub.journal = since ++ world.paused.hub.journal ∧
        moment.hub.reclaim = (since.findSome? HubEvent.reclaiming?).getD false) ∧
      ((LeakCheck.iterate .hub body limit []).Confined turns Request.SparesReclaim world.paused →
        moment.hub.reclaim = false)) ∧
    ∀ outcome after, (LeakCheck.session .hub limit body).run turns world = some (outcome, after) →
      after.hub.reclaim = true := by
  refine ⟨fun moment met => ⟨Program.meets_passes World.throughout_reclaims met, fun confined => ?_⟩, ?_⟩
  · exact confined.meets World.keeps_reclaim_off rfl met
  · intro outcome after ran
    rw [LeakCheck.run_session_of_room room] at ran
    obtain ⟨_, -, same⟩ := Option.map_eq_some_iff.mp ran
    cases same
    rfl

/-- The session itself does not switch reclamation on while its runs last. -/
theorem LeakCheck.iterate_spares {body : Program ν σ (Except (Stop Failure) Unit)}
    (spares : body.Asks Request.SparesReclaim) (limit : Nat) (deltas : List Int) :
    (LeakCheck.iterate .hub body limit deltas).Asks Request.SparesReclaim := by
  induction limit generalizing deltas with
  | zero => trivial
  | succ limit ih =>
    refine ⟨trivial, fun _ => ⟨trivial, fun before => spares.bind fun outcome => ?_⟩⟩
    rcases outcome with stop | ⟨⟩
    · trivial
    · refine ⟨trivial, fun after => ?_⟩
      simp only [Program.bind]
      split
      · trivial
      · split
        · trivial
        · exact ih _

/-- A test that leaves a handle open each time, and waits for a timer. -/
def leakyWait : Program Unit Unit (Except (Stop Failure) Unit) := do
  Program.ask (.hub .openHandle)
  let _ ← Program.ask (.sleep 5)
  return .ok ()

theorem leakyWait_paused : ∃ outcome, ∃ ended : Bench Unit Unit,
    (LeakCheck.iterate .hub leakyWait 4 []).run 3 (Bench.fresh .direct ()).paused = some (outcome, ended) ∧
      ended.clock = 20 ∧ ended.hub.handles = 4 ∧ ended.hub.reclaim = false := by
  have finishes : ((LeakCheck.iterate .hub leakyWait 4 []).run 3 (Bench.fresh .direct () : Bench Unit Unit).paused).map
      (fun ran => (ran.2.clock, ran.2.hub.handles)) = some (20, 4) := by decide +kernel
  obtain ⟨⟨outcome, ended⟩, ran, told⟩ := Option.map_eq_some_iff.mp finishes
  obtain ⟨clock, handles⟩ := Prod.mk.inj told
  have spares : leakyWait.Asks Request.SparesReclaim := ⟨trivial, fun _ => ⟨trivial, fun _ => trivial⟩⟩
  have tame : Tame Request.SparesReclaim (Bench.fresh .direct () : Bench Unit Unit).paused :=
    ⟨(World.Recorded.fresh .direct ()).keep rfl rfl (Nat.le_refl _) rfl rfl rfl, fun _ member => by cases member⟩
  have confined := (LeakCheck.iterate_spares spares 4 []).confined tame 3
  have paused := (LeakCheck.session_paused 4 (by decide) 3 leakyWait (Bench.fresh .direct ())).1 ended
    (Program.meets_end ran)
  exact ⟨outcome, ended, ran, clock, handles, paused.2 confined⟩

/-- A test that passes is checked inside another one, which then waits. -/
def checkedInside : Program Unit Unit (Except (Stop Failure) Unit) := do
  let _ ← (checkLeaks (fun _ => pure ()) { case := ⟨0⟩ }).run
  Program.ask (.hub .wake)
  let _ ← Program.ask .switch
  return .ok ()

/-- The inner session has ended and the outer one has not: the task switches and the live handles are sampled with
reclamation on. -/
theorem outer_session_not_paused : ∃ next, ∃ switching sampling : Bench Unit Unit,
    Run.Switches 3 (Run.switch 3) (LeakCheck.iterate .hub checkedInside 4 []) (Bench.fresh .direct ()).paused switching ∧
    switching.hub.reclaim = true ∧
    Run.Reaches 3 (Run.switch 3) (LeakCheck.iterate .hub checkedInside 4 []) (Bench.fresh .direct ()).paused
      (.request (.hub .liveHandles) next) sampling ∧
    sampling.hub.reclaim = true := by
  have switching : ∃ next, ∃ before : Bench Unit Unit, Run.Reaches 3 (Run.switch 3)
      (LeakCheck.iterate .hub checkedInside 4 []) (Bench.fresh .direct ()).paused (.request .switch next) before ∧
      before.hub.reclaim = true ∧ ∃ next', ∃ after : Bench Unit Unit, Run.Reaches 3 (Run.switch 3)
        (.request .switch next) before (.request (.hub .liveHandles) next') after ∧ after.hub.reclaim = true := by
    -- The outer session has asked twice, and the inner one for as much as a session of one run asks.
    exact ⟨_, _, .request rfl <| .request rfl <| .request rfl <| .request rfl <| .request rfl <| .request rfl <|
      .request rfl <| .request rfl <| .request rfl <| .request rfl <| .request rfl .here, rfl, _, _, .request rfl .here, rfl⟩
  obtain ⟨_, before, reaches, on, next, after, switches, stillOn⟩ := switching
  exact ⟨next, before, after, ⟨_, _, _, _, reaches, .switch rfl⟩, on, reaches.trans switches, stillOn⟩

end Testbench
