import Testbench.Bench
import Testbench.Proofs.WakeTimers

/-! How long a sleep lasts. A task that sleeps trusts the one wake of the hub, whoever it is from. So it must be from
the sleep's own timer: while a task sleeps, no other timer wakes and nobody waits, and when it is awake again, whether
its time was over or not, no timer wakes and no wake is pending. -/

namespace Testbench

open LawfulQueue (armed)
open World (HasFired WakesOnly Idle)

variable {ν σ : Type} {Q : Type 1} [TimerQueue (Action ν σ) Q]

/-! Runs in which nobody is woken but by what he sleeps or waits for. -/

/-- The timer of a sleep, if it was cancelled before the sleep was over. -/
def Run.cutIn (turns : Nat) {α : Type} : Request ν σ α → World Q ν σ → List Nat
  | .sleep delay, world =>
    match world.schedule delay .wake with
    | (.ok timer, begun) =>
      match Run.switch turns begun with
      | some (_, after) => after.cancelled.filter (· == timer)
      | none => []
    | _ => []
  | _, _ => []

/-- The timers of the sleeps that were cancelled before the sleep was over. -/
def Program.cutSleeps (turns : Nat) {α : Type} : Program ν σ α → World Q ν σ → List Nat
  | .pure _, _ => []
  | .request asked next, world =>
    match Run.answer turns (Run.switch turns) asked world with
    | some (reply, after) => Run.cutIn turns asked world ++ cutSleeps turns (next reply) after
    | none => Run.cutIn turns asked world
  | .call delay label callback next, world =>
    let (reply, begun) := world.schedule delay (.call label callback)
    cutSleeps turns (next reply) begun

/-- Neither the run nor a callback in it wakes the hub but by sleeping or by what is waited for, no callback panics, and
no sleep loses its timer. -/
structure Program.Peaceful (turns : Nat) {α : Type} (program : Program ν σ α) (world : World Q ν σ) : Prop where
  spares : program.Confined turns Request.SparesWake world
  survives : Run.Survive (program.calls turns world)
  uncut : program.cutSleeps turns world = []

/-- The same of one request. -/
structure Run.PeacefulIn (turns : Nat) {β : Type} (asked : Request ν σ β) (world : World Q ν σ) : Prop where
  spares : asked.SparesWake
  calm : ∀ begun, Run.MeetsIn turns (Run.switch turns) Eq asked world begun →
    Run.guardedCalm (Run.loopCalm Request.SparesWake turns) begun
  survives : Run.SurvivesIn turns asked world
  uncut : Run.cutIn turns asked world = []

namespace Program.Peaceful

variable {turns : Nat} {α : Type} {world mid : World Q ν σ}

theorem here {β : Type} {asked : Request ν σ β} {next : β → Program ν σ α}
    (peaceful : (Program.request asked next).Peaceful turns world) : Run.PeacefulIn turns asked world where
  spares := peaceful.spares.asks asked next world .here
  calm begun met := peaceful.spares.2 begun ⟨_, asked, next, world, .here, met⟩
  survives := peaceful.survives.mono fun call member => by
    simp only [Program.calls, Run.programCalls]
    exact List.mem_append_left _ member
  uncut := by
    have uncut := peaceful.uncut
    simp only [cutSleeps] at uncut
    split at uncut
    · exact (List.append_eq_nil_iff.mp uncut).1
    · exact uncut

theorem rest {program rest : Program ν σ α} (peaceful : program.Peaceful turns world)
    (reaches : Run.Reaches turns (Run.switch turns) program world rest mid) : rest.Peaceful turns mid where
  spares := Run.Confined.rest peaceful.spares reaches
  survives := peaceful.survives.mono fun _ => Run.mem_programCalls reaches
  uncut := by
    have uncut := peaceful.uncut
    clear peaceful
    induction reaches with
    | here => exact uncut
    | request answered _ ih =>
      simp only [cutSleeps, answered] at uncut
      exact ih (List.append_eq_nil_iff.mp uncut).2
    | call scheduled _ ih =>
      simp only [cutSleeps, scheduled] at uncut
      exact ih uncut

end Program.Peaceful

variable [LawfulQueue Q]

/-- Between two requests of the task. Whatever was slept or waited for before, nothing is left of it. -/
structure Resting (world : World Q ν σ) : Prop extends WakesOnly none world, Idle world where
  outside : world.hub.inCallback = false

/-- The task sleeps, and its timer alone wakes: a wake is pending as soon as the timer has fired, and not before. -/
structure Sleeping (own : Alarm) (world : World Q ν σ) : Prop extends WakesOnly (some own) world where
  alone : ∀ watched, world.waiters watched = 0
  woken_iff : world.hub.woken = true ↔ HasFired own world

namespace Sleeping

variable {own : Alarm} {world rest : World Q ν σ}

theorem beginSwitch (sleeping : Sleeping own world) : Sleeping own world.beginSwitch where
  toWakesOnly := sleeping.toWakesOnly.beginSwitch
  alone := (World.SignsOn.beginSwitch world).alone sleeping.alone
  woken_iff := by
    have uneventful := World.Uneventful.beginSwitch world
    rw [uneventful.woken, World.hasFired_congr uneventful.firings]
    exact sleeping.woken_iff

theorem reached (sleeping : Sleeping own world) (woken : world.hub.woken = true) :
    own.deadline ≤ world.clock := by
  obtain ⟨firing, fired, rfl⟩ := sleeping.woken_iff.mp woken
  obtain ⟨reached, past⟩ := sleeping.recorded.clocks firing fired
  exact Nat.le_trans (reached ▸ Nat.le_max_right _ _) past

/-- Only a sleep whose timer was cancelled can find nothing left to wait for. -/
theorem cancelled (sleeping : Sleeping own world)
    (unwoken : world.hub.woken = false) (found : world.takeNext = (none, rest)) : own.id ∈ rest.cancelled := by
  have left := sleeping.runOut found
  obtain ⟨-, -, empty⟩ := World.takeNext_none sleeping.recorded.sound found
  obtain ⟨dropped, numbers, onto⟩ := left.recorded.fates
  have unfired : ¬ HasFired own rest := by
    obtain ⟨-, rfl⟩ := Prod.mk.inj found
    exact sleeping.woken_iff.not.mp (Bool.eq_false_iff.mp unwoken)
  have known := onto.mem_iff.mp (left.scheduled own rfl)
  rw [empty, List.map_nil, List.nil_append] at known
  obtain fired | isDropped := List.mem_append.mp known
  · exact absurd (List.mem_map.mp fired) unfired
  · exact numbers ▸ List.mem_map_of_mem isDropped

end Sleeping

namespace Run

/-! The turns of the hub while the task sleeps. -/

section

variable {own : Option Alarm} {turns : Nat} {world next begun after : World Q ν σ}

section

variable {alarm : Alarm} {label : String} {callback : Callback ν σ} {rest : World Q ν σ}
  {outcome : Except (Stop HubError) Unit} (calm : loopCalm Request.SparesWake (turns + 1) world)
  (unwoken : world.hub.woken = false) (found : world.takeNext = (some (alarm, .call label callback), rest))
  (called : program turns (guarded (loop turns)) callback ((rest.arrive alarm).setInCallback true) =
    some (outcome, after))

include calm unwoken found called

theorem wakes_called (wakes : WakesOnly own world) : WakesOnly own after := by
  have fired := wakes.fire found
  have begun : WakesOnly own ((rest.arrive alarm).setInCallback true) := fired.aside rfl rfl rfl rfl rfl rfl
  have confined := calm.1 unwoken alarm label callback rest found
  exact Confined.callback (fun wakes inside spares answered => wakes_inside wakes inside spares answered)
    (fun delay _ _ wakes => wakes.schedule delay _ nofun) confined rfl begun (reaches_pure_iff.mpr called)

omit [LawfulQueue Q] in
theorem idle_called (alone : ∀ watched, world.waiters watched = 0) : Idle after := by
  have begun : Idle ((rest.arrive alarm).setInCallback true) := by
    obtain ⟨-, rfl⟩ := Prod.mk.inj found
    exact ⟨unwoken, alone⟩
  have confined := calm.1 unwoken alarm label callback rest found
  exact Confined.callback (fun idle inside spares answered => idle_inside idle inside spares answered)
    (fun delay _ _ idle => idle_schedule idle delay _) confined rfl begun (reaches_pure_iff.mpr called)

end

theorem wakes_stays (calm : loopCalm Request.SparesWake (turns + 1) world) (wakes : WakesOnly own world)
    (stayed : turn turns world = some (.stays next)) : WakesOnly own next := by
  generalize isStays : Turn.stays next = taken at stayed
  cases turn_takes stayed with
  | resumes | runsOut | raises => cases isStays
  | wakes _ found => cases isStays; exact (wakes.fire found).aside rfl rfl rfl rfl rfl rfl
  | @calls _ label _ _ ended outcome unwoken found called =>
    have left : WakesOnly own (ended.setInCallback false) :=
      (wakes_called calm unwoken found called wakes).aside rfl rfl rfl rfl rfl rfl
    rcases outcome with (error | panic) | _ <;> cases isStays
    · exact left.past (World.reportFailure_steps _ label error) rfl
    · exact left

theorem sleeping_stays {own : Alarm} (calm : loopCalm Request.SparesWake (turns + 1) world)
    (sleeping : Sleeping own world) (stayed : turn turns world = some (.stays next)) : Sleeping own next := by
  have alone : ∀ watched, next.waiters watched = 0 := (steady_turn turns world _ stayed).alone sleeping.alone
  refine ⟨wakes_stays calm sleeping.toWakesOnly stayed, alone, ?_⟩
  generalize isStays : Turn.stays next = taken at stayed
  cases turn_takes stayed with
  | resumes | runsOut | raises => cases isStays
  | @wakes alarm rest _ found =>
    cases isStays
    cases (sleeping.fires found).mp rfl
    exact iff_of_true rfl ((World.Guarding.hasFired_arrive rest own own).mpr (.inl rfl))
  | @calls alarm label callback rest ended outcome unwoken found called =>
    have unfired : ¬ HasFired own world := sleeping.woken_iff.not.mp (Bool.eq_false_iff.mp unwoken)
    have idle := idle_called calm unwoken found called sleeping.alone
    have still : ¬ HasFired own ended := by
      have other : alarm ≠ own := by
        rintro rfl
        exact nomatch (sleeping.fires found).mpr rfl
      rw [World.hasFired_congr (firings_callback rfl called)]
      refine ((World.Guarding.hasFired_arrive rest alarm own).trans (or_iff_right other)).not.mpr ?_
      obtain ⟨-, rfl⟩ := Prod.mk.inj found
      exact unfired
    have sleeps := iff_of_false (Bool.eq_false_iff.mp idle.unwoken) still
    rcases outcome with (error | panic) | _ <;> cases isStays
    · exact sleeps
    · exact sleeps

/-- A switch leaves no other timer that wakes. -/
theorem wakes_switched (wakes : WakesOnly own begun) (calm : guardedCalm (loopCalm Request.SparesWake turns) begun)
    {answer : Except (Stop HubError) Unit} (ends : SwitchEnds turns begun answer after) : WakesOnly own after := by
  have atHead {head : World Q ν σ} (met : guardedMeets (loopHeads turns) begun head) : WakesOnly own head :=
    loopHeads_keeps wakes_stays (calm met.1) wakes.beginSwitch met.2
  cases ends with
  | resumed met => exact (atHead met).aside rfl rfl rfl rfl rfl rfl
  | interrupted met _ found => exact (atHead met).fire found
  | ranOut met _ found => exact (atHead met).runOut found

theorem sleeping_begins {delay timer : Nat} (resting : Resting world)
    (scheduled : world.schedule delay .wake = (.ok timer, begun)) : Sleeping ⟨world.clock + delay, timer⟩ begun := by
  have recorded := resting.recorded.schedule delay .wake
  have firings := (uneventful_schedule world delay .wake).firings
  have idle := idle_schedule resting.toIdle delay .wake
  rw [scheduled] at recorded firings idle
  obtain ⟨rfl, -, -, onto⟩ := World.schedule_armed world resting.recorded.sound scheduled
  have isArmed := onto.mem_iff.mpr (List.mem_cons_self ..)
  refine ⟨⟨recorded, ?_, fun held member => ?_⟩, idle.alone, iff_of_false (Bool.eq_false_iff.mp idle.unwoken) ?_⟩
  · rintro alarm ⟨⟩
    obtain ⟨dropped, -, same⟩ := recorded.fates
    exact same.mem_iff.mpr (List.mem_append_left _ (List.mem_map_of_mem isArmed))
  · obtain rfl | before := List.mem_cons.mp (onto.mem_iff.mp member)
    · exact iff_of_true rfl rfl
    · refine iff_of_false (fun isWake => nomatch (resting.timers held before).mp isWake) fun same => ?_
      have numbered := LawfulQueue.numbered resting.recorded.sound held before
      rw [← Option.some.inj same] at numbered
      exact Nat.lt_irrefl _ numbered
  · rw [World.hasFired_congr firings]
    rintro ⟨firing, fired, isOwn⟩
    have numbered := resting.recorded.numbered _ (resting.recorded.fired_scheduled firing fired)
    rw [isOwn] at numbered
    exact Nat.lt_irrefl _ numbered

/-- How a sleep ends. -/
inductive SleepEnds (turns : Nat) (delay : Nat) (before after : World Q ν σ) : Except (Stop HubError) Unit → Prop where
  | slept (reached : before.clock + delay ≤ after.clock) : SleepEnds turns delay before after (.ok ())
  | interrupted {error : HubError} (interrupted : InterruptedBy turns (.sleep delay) before error) :
      SleepEnds turns delay before after (.error (.failed error))
  | beyond (overflows : deadline? before.clock delay = none) :
      SleepEnds turns delay before after (.error (.panicked .instantOverflow))

theorem sleep_ends {delay : Nat} (resting : Resting world) (peaceful : PeacefulIn turns (.sleep delay) world)
    {reply : Except (Stop HubError) Unit} (slept : sleep (switch turns) delay world = some (reply, after)) :
    SleepEnds turns delay world after reply ∧ WakesOnly none after ∧ after.hub.woken = false := by
  unfold sleep at slept
  split at slept
  next refused =>
    cases slept
    obtain ⟨rfl, overflows⟩ := World.schedule_refused refused
    have same := (uneventful_schedule world delay .wake).woken
    rw [refused] at same
    exact ⟨.beyond overflows, resting.scheduleRefused refused, same.trans resting.unwoken⟩
  next timer begun scheduled =>
    have sleeping := sleeping_begins resting scheduled
    have begins : MeetsIn turns (switch turns) Eq (.sleep delay) world begun := .sleep scheduled rfl
    have calm := peaceful.calm begun begins
    have atHead {head : World Q ν σ} (met : guardedMeets (loopHeads turns) begun head) :
        Sleeping ⟨world.clock + delay, timer⟩ head :=
      loopHeads_keeps sleeping_stays (calm met.1) sleeping.beginSwitch met.2
    split at slept
    · cases slept
    next switched => cases begun_ends resting.outside peaceful.survives begins switched
    next reply mid _ switched =>
      obtain ⟨rfl, rfl⟩ := Prod.mk.inj (Option.some.inj slept)
      have ends := begun_ends resting.outside peaceful.survives begins switched
      have cancelled := carries_uneventful.cancel mid timer
      refine ⟨?_, (wakes_switched sleeping.toWakesOnly calm ends).cancelOwn, cancelled.woken.trans ends.unwoken⟩
      cases ends with
      | @resumed head met woken =>
        obtain ⟨hub, same, -⟩ := head.clearWoken.cancel_hub timer
        rw [same]
        exact .slept ((atHead met).reached woken)
      | interrupted met unwoken found => exact .interrupted (.fired begins met unwoken found switched)
      | ranOut met unwoken found =>
        have member := (atHead met).cancelled unwoken found
        have uncut := peaceful.uncut
        simp only [cutIn, scheduled, switched] at uncut
        exact absurd (beq_self_eq_true timer) (List.filter_eq_nil_iff.mp uncut timer member)

end

end Run

namespace Resting

variable {turns : Nat} {world after : World Q ν σ}

open Run

/-- Whatever is asked for, and however it ends, nothing is left of it that could wake the task later. -/
theorem answer (resting : Resting world) {β : Type} {asked : Request ν σ β} (peaceful : PeacefulIn turns asked world)
    {reply : β} (answered : Run.answer turns (switch turns) asked world = some (reply, after)) : Resting after := by
  have signs := signsOn_answer answered
  have outside : after.hub.inCallback = false := outside_answer asked world reply after answered resting.outside
  have rests (wakes : WakesOnly none after) (unwoken : after.hub.woken = false) (lost : lostIn asked world reply = []) :
      Resting after := by
    rw [lost] at signs
    exact ⟨wakes, ⟨unwoken, signs.alone resting.alone⟩, outside⟩
  have through (begun : World Q ν σ) (met : MeetsIn turns (switch turns) Eq asked world begun) :
      KeptBy (WakesOnly none) (switch turns) begun := fun wakes _ _ switched =>
    wakes_switched wakes (peaceful.calm begun met) (begun_ends resting.outside peaceful.survives met switched)
  cases asked with
  | switch =>
    have ends := begun_ends resting.outside peaceful.survives (.switch rfl) answered
    exact rests (wakes_switched resting.toWakesOnly (peaceful.calm world (.switch rfl)) ends) ends.unwoken rfl
  | sleep delay =>
    obtain ⟨-, wakes, unwoken⟩ := sleep_ends resting peaceful answered
    exact rests wakes unwoken rfl
  | wait id limit =>
    obtain ⟨ends, unwoken⟩ := wait_ends resting.outside peaceful.survives answered
    have wakes := WakesOnly.keeps.wait ⟨peaceful.spares, rfl⟩ resting.toWakesOnly through answered
    exact rests wakes (unwoken resting.unwoken) ends.lost
  | get id limit =>
    obtain ⟨ends, unwoken⟩ := get_ends resting.outside peaceful.survives answered
    have wakes := WakesOnly.keeps.get ⟨peaceful.spares, rfl⟩ resting.toWakesOnly through answered
    exact rests wakes (unwoken resting.unwoken) ends.lost
  | _ =>
    have same := woken_atOnce peaceful.spares rfl resting.alone answered
    exact rests (resting.atOnce peaceful.spares rfl answered) (same.trans resting.unwoken) rfl

theorem reaches (resting : Resting world) {α : Type} {program rest : Program ν σ α} {mid : World Q ν σ}
    (peaceful : program.Peaceful turns world) (reaches : Reaches turns (switch turns) program world rest mid) :
    Resting mid := by
  induction reaches with
  | here => exact resting
  | request answered _ ih => exact ih (resting.answer peaceful.here answered) (peaceful.rest (.request answered .here))
  | @call delay label callback _ _ _ world _ _ scheduled _ ih =>
    have wakes := resting.schedule delay (.call label callback) nofun
    have idle := idle_schedule resting.toIdle delay (.call label callback)
    have still := inCallback_schedule world delay (.call label callback)
    rw [scheduled] at wakes idle still
    exact ih ⟨wakes, idle, still.trans resting.outside⟩ (peaceful.rest (.call scheduled .here))

end Resting

/-- Every sleep of the run lasts until its time is over or a timer interrupts it. Sleeps and waits that were interrupted
leave nothing behind: the sleeps after them last as long as any, and the waits end for the reasons waits have. -/
structure Program.SleepsInFull (turns : Nat) {α : Type} (program : Program ν σ α) (world : World Q ν σ) : Prop where
  sleeps : ∀ delay next before reply after,
    Run.Reaches turns (Run.switch turns) program world (.request (.sleep delay) next) before →
    Run.answer turns (Run.switch turns) (.sleep delay) before = some (reply, after) →
    Run.SleepEnds turns delay before after reply
  waits : ∀ id limit next before reply after,
    Run.Reaches turns (Run.switch turns) program world (.request (.wait id limit) next) before →
    Run.answer turns (Run.switch turns) (.wait id limit) before = some (reply, after) →
    Run.WaitEnds turns id limit before after reply
  gets : ∀ id limit next before reply after,
    Run.Reaches turns (Run.switch turns) program world (.request (.get id limit) next) before →
    Run.answer turns (Run.switch turns) (.get id limit) before = some (reply, after) →
    Run.GetEnds turns id limit before after reply
  rests : ∀ rest mid, Run.Reaches turns (Run.switch turns) program world rest mid → Resting mid

/-- Where only sleeps and what is waited for wake the task, no callback panics and no sleep loses its timer, a sleep
ends when the clock has reached its end, or because a timer interrupted it, whatever was interrupted before. -/
theorem Bench.sleeps_in_full {α : Type} (front : Front) (memory : σ) (program : Program ν σ α) (turns : Nat)
    (peaceful : program.Peaceful turns (Bench.fresh front memory)) :
    program.SleepsInFull turns (Bench.fresh front memory) := by
  have fresh : Resting (Bench.fresh front memory : Bench ν σ) := {
    recorded := World.Recorded.fresh front memory
    scheduled := nofun
    timers := nofun
    unwoken := rfl
    alone := fun watched => by cases watched <;> rfl
    outside := rfl }
  refine ⟨?_, ?_, ?_, fun rest mid reaches => fresh.reaches peaceful reaches⟩
  · intro delay next before reply after reaches answered
    exact (Run.sleep_ends (fresh.reaches peaceful reaches) (peaceful.rest reaches).here answered).1
  · intro id limit next before reply after reaches answered
    exact (Run.wait_ends (fresh.reaches peaceful reaches).outside (peaceful.rest reaches).here.survives answered).1
  · intro id limit next before reply after reaches answered
    exact (Run.get_ends (fresh.reaches peaceful reaches).outside (peaceful.rest reaches).here.survives answered).1

/-- While the task sleeps, the event is set that nobody waits for. The callback would then sleep itself. -/
def presumptuous (event : EventId) : Task Unit Unit HubError Unit := do
  Task.ask (.setEvent event)
  Task.attempt (.sleep 1)

/-- The first sleep is interrupted, the second is not, and the wait ends with its own timeout. -/
def nudged : Program Unit Unit (List Nat) := do
  let event ← Program.ask .newEvent
  let _ ← Program.ask (.hub (.schedule 2 (.raise .loopExit)))
  let _ ← Program.ask (.sleep 5)
  let interrupted ← Program.ask .clock
  let _ ← Program.scheduleCall 1 "presumptuous" (presumptuous event)
  let _ ← Program.ask (.sleep 9)
  let slept ← Program.ask .clock
  Program.ask (.clearEvent event)
  let _ ← Program.ask (.wait event (.after 4))
  let waited ← Program.ask .clock
  return [interrupted, slept, waited]

theorem nudged_spares : nudged.Asks Request.SparesWake := by
  have callback (event : EventId) : Program.Asks Request.SparesWake (presumptuous event) :=
    ⟨trivial, fun _ => ⟨trivial, fun _ => trivial⟩⟩
  exact ⟨trivial, fun event => ⟨trivial, fun _ => ⟨trivial, fun _ => ⟨trivial, fun _ => ⟨callback event, fun _ =>
    ⟨trivial, fun _ => ⟨trivial, fun _ => ⟨trivial, fun _ => ⟨trivial, fun _ => ⟨trivial, fun _ => trivial⟩⟩⟩⟩⟩⟩⟩⟩⟩⟩

theorem nudged_sleeps_in_full : ∃ after : Bench Unit Unit,
    nudged.run 9 (Bench.fresh .direct ()) = some ([2, 11, 15], after) ∧
      nudged.SleepsInFull 9 (Bench.fresh .direct ()) := by
  have runs : (nudged.run 9 (Bench.fresh .direct ())).map Prod.fst = some [2, 11, 15] := by decide +kernel
  obtain ⟨⟨clocks, after⟩, ran, rfl⟩ := Option.map_eq_some_iff.mp runs
  have tame : Tame Request.SparesWake (Bench.fresh .direct () : Bench Unit Unit) :=
    ⟨World.Recorded.fresh .direct (), nofun⟩
  have peaceful : nudged.Peaceful 9 (Bench.fresh .direct ()) :=
    ⟨nudged_spares.confined tame 9, by decide +kernel, by decide +kernel⟩
  exact ⟨after, ran, Bench.sleeps_in_full .direct () nudged 9 peaceful⟩

end Testbench
