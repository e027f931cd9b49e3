import Testbench.Bench
import Testbench.Proofs.CountBlindness
import Testbench.Proofs.PairedQueues
import Testbench.Proofs.PairedRuns
import Testbench.Proofs.SwitchTallies

/-! Benches that are the same up to counts. They may have counted differently, or not at all, and differ in what the
counts have got into; programs that the count does not sway keep them so, and come to related ends. -/

namespace Testbench

variable {ν σ : Type} {α : Type} {leeway : Leeway ν σ}

/-- The same bench but for what counts get into. -/
def World.beside (world : Bench ν σ) (front : Front) (queue : LazyQueue (Action ν σ)) (cases : Registry CaseId TestCase)
    (results : Registry ResultId (AsyncResult ν)) (memory : σ) : Bench ν σ :=
  { world with hub := { world.hub with queue }, front, cases, results, memory }

/-- They may count differently, now and after any number of switches. -/
structure SameFronts (leeway : Leeway ν σ) (front other : Front) : Prop where
  closed : front = .closed ↔ other = .closed
  unread : leeway.count none none
  counts : ∀ switches, leeway.count (front.plus switches).count? (other.plus switches).count?

namespace SameFronts

variable {front other : Front} (same : SameFronts leeway front other)

include same

theorem symm : SameFronts leeway.swapped other front := ⟨same.closed.symm, same.unread, same.counts⟩

theorem now : leeway.count front.count? other.count? := by
  have counts := same.counts 0
  rwa [Front.plus_zero, Front.plus_zero] at counts

theorem plus (switches : Nat) : SameFronts leeway (front.plus switches) (other.plus switches) where
  closed := Front.plus_eq_closed_iff.trans (same.closed.trans Front.plus_eq_closed_iff.symm)
  unread := same.unread
  counts more := by simpa only [Front.plus_plus] using same.counts (switches + more)

end SameFronts

/-- What the benches differ in is a matter of counts. -/
inductive UpToCounts (leeway : Leeway ν σ) : Bench ν σ → Bench ν σ → Prop where
  | intro {world : Bench ν σ} {front : Front} {queue : LazyQueue (Action ν σ)} {cases : Registry CaseId TestCase}
      {results : Registry ResultId (AsyncResult ν)} {memory : σ} (fronts : SameFronts leeway world.front front)
      (queued : world.hub.queue.Paired (SameAction leeway) queue)
      (cased : world.cases.Paired (SameCase leeway.count) cases)
      (resulted : world.results.Paired (SameResult leeway.value) results)
      (remembered : leeway.memory world.memory memory) :
      UpToCounts leeway world (world.beside front queue cases results memory)

namespace UpToCounts

variable {first second : Bench ν σ}

theorem symm (related : UpToCounts leeway first second) : UpToCounts leeway.swapped second first := by
  obtain ⟨fronts, queued, cased, resulted, remembered⟩ := related
  rename_i front queue cases results memory
  have queued' : queue.Paired (SameAction leeway.swapped) first.hub.queue := queued.symm.mono fun _ _ => SameAction.symm
  have cased' : cases.Paired (SameCase leeway.swapped.count) first.cases := cased.symm.mono fun _ _ => SameCase.symm
  have resulted' : results.Paired (SameResult (flip leeway.value)) first.results :=
    resulted.symm.mono fun _ _ => SameResult.symm
  exact @intro _ _ leeway.swapped (first.beside front queue cases results memory) first.front first.hub.queue
    first.cases first.results first.memory fronts.symm queued' cased' resulted' remembered

theorem hasProbe (related : UpToCounts leeway first second) : first.hasProbe = second.hasProbe := by
  obtain ⟨fronts, -⟩ := related
  exact decide_eq_decide.mpr (not_congr fronts.closed)

theorem memory (related : UpToCounts leeway first second) : leeway.memory first.memory second.memory := by
  cases related; assumption

theorem result (related : UpToCounts leeway first second) (id : ResultId) :
    SameResult leeway.value (first.result id) (second.result id) := by
  obtain ⟨-, -, -, resulted, -⟩ := related
  rename_i results memory
  have found := resulted.get? id
  simp only [World.result, World.beside]
  generalize first.results.get? id = result, results.get? id = result' at found ⊢
  cases found with
  | none => exact ⟨rfl, .none⟩
  | some same => exact same

theorem switchCount (related : UpToCounts leeway first second) : leeway.count first.switchCount second.switchCount := by
  obtain ⟨fronts, -, -, -, -⟩ := related
  rw [World.switchCount_eq, World.switchCount_eq]
  exact fronts.now

theorem case (related : UpToCounts leeway first second) (id : CaseId) :
    SameCase leeway.count (first.case id) (second.case id) := by
  obtain ⟨fronts, -, cased, -, -⟩ := related
  rename_i cases results memory
  have found := cased.get? id
  simp only [World.case, World.beside]
  generalize first.cases.get? id = case, cases.get? id = case' at found ⊢
  cases found with
  | none => exact ⟨fronts.unread, rfl, rfl, rfl, rfl⟩
  | some same => exact same

/-- An update that does not look at what counts get into. -/
private theorem aside (related : UpToCounts leeway first second) {first' second' : Bench ν σ}
    (queue : first'.hub.queue = first.hub.queue) (front : first'.front = first.front) (cases : first'.cases = first.cases)
    (results : first'.results = first.results) (memory : first'.memory = first.memory)
    (same : ∀ front queue cases results memory, second = first.beside front queue cases results memory →
      second' = first'.beside front queue cases results memory) : UpToCounts leeway first' second' := by
  obtain ⟨fronts, queued, cased, resulted, remembered⟩ := related
  rw [same _ _ _ _ _ rfl]
  exact .intro (by rwa [front]) (by rwa [queue]) (by rwa [cases]) (by rwa [results]) (by rwa [memory])

theorem isArmed (related : UpToCounts leeway first second) (timer : Nat) :
    first.isArmed timer = second.isArmed timer := by
  obtain ⟨-, queued, -⟩ := related
  exact congrFun queued.isArmed timer

theorem liveHandles (related : UpToCounts leeway first second) : first.liveHandles = second.liveHandles := by
  obtain ⟨-, queued, -⟩ := related
  exact congrArg (fun count : Nat => (count : Int) + first.hub.handles) queued.armedCount

theorem schedule (related : UpToCounts leeway first second) (after : Nat) {action action' : Action ν σ}
    (same : SameAction leeway action action') :
    Together (UpToCounts leeway) Eq (first.schedule after action) (second.schedule after action') := by
  obtain ⟨fronts, queued, cased, resulted, remembered⟩ := related
  unfold World.schedule
  simp only [World.beside, World.updateNow]
  split
  · exact ⟨rfl, .intro fronts queued cased resulted remembered⟩
  · exact ⟨rfl, .intro fronts (queued.arm _ _ same) cased resulted remembered⟩

theorem cancel (related : UpToCounts leeway first second) (timer : Nat) :
    Together (UpToCounts leeway) Eq (first.cancel timer) (second.cancel timer) := by
  obtain ⟨fronts, queued, cased, resulted, remembered⟩ := related
  rename_i front queue cases results memory
  have cancelled : Option.Rel (LazyQueue.Paired (SameAction leeway)) (TimerQueue.cancel? first.hub.queue timer)
      (TimerQueue.cancel? queue timer) := queued.cancel? timer
  unfold World.cancel
  simp only [World.beside]
  generalize TimerQueue.cancel? first.hub.queue timer = rest, TimerQueue.cancel? queue timer = rest' at cancelled ⊢
  cases cancelled with
  | none => exact ⟨rfl, .intro fronts queued cased resulted remembered⟩
  | some left => exact ⟨rfl, .intro fronts left cased resulted remembered⟩

theorem setResultState (related : UpToCounts leeway first second) (id : ResultId) {result result' : AsyncResult ν}
    (same : SameResult leeway.value result result') :
    UpToCounts leeway (first.setResultState id result) (second.setResultState id result') := by
  obtain ⟨fronts, queued, cased, resulted, remembered⟩ := related
  exact .intro fronts queued cased (resulted.set id same) remembered

theorem setCase (related : UpToCounts leeway first second) (id : CaseId) {case case' : TestCase}
    (same : SameCase leeway.count case case') :
    UpToCounts leeway (first.setCase id case) (second.setCase id case') := by
  obtain ⟨fronts, queued, cased, resulted, remembered⟩ := related
  exact .intro fronts queued (cased.set id same) resulted remembered

theorem setUpCase (related : UpToCounts leeway first second) (id : CaseId) :
    UpToCounts leeway (first.setUpCase id) (second.setUpCase id) := by
  have looked : UpToCounts leeway first.updateNow second.updateNow :=
    related.aside rfl rfl rfl rfl rfl fun _ _ _ _ _ same => by subst same; rfl
  have same := looked.case id
  exact looked.setCase id ⟨looked.switchCount, same.id, same.policy, same.switchExpected, same.capture⟩

theorem classifyCase (related : UpToCounts leeway first second) (id : CaseId) (expected : SwitchExpected) :
    UpToCounts leeway (first.classifyCase id expected) (second.classifyCase id expected) := by
  have same := related.case id
  exact related.setCase id ⟨same.count, same.id, same.policy, rfl, same.capture⟩

theorem newCase (related : UpToCounts leeway first second) (id : TestId) (policy : Policy) (config : Config) :
    Together (UpToCounts leeway) Eq (first.newCase id policy config) (second.newCase id policy config) := by
  obtain ⟨fronts, queued, cased, resulted, remembered⟩ := related
  exact ⟨rfl, .intro fronts queued (cased.set _ ⟨fronts.unread, rfl, rfl, rfl, rfl⟩) resulted remembered⟩

theorem beginSwitch (related : UpToCounts leeway first second) :
    UpToCounts leeway first.beginSwitch second.beginSwitch := by
  obtain ⟨fronts, queued, cased, resulted, remembered⟩ := related
  rw [World.beginSwitch_plus, World.beginSwitch_plus]
  exact .intro (fronts.plus 1) queued cased resulted remembered

/-- The timers that are taken out carry actions that are the same up to counts. -/
theorem takeNext (related : UpToCounts leeway first second) :
    Together (UpToCounts leeway) (Option.Rel fun timer timer' => timer.1 = timer'.1 ∧ SameAction leeway timer.2 timer'.2)
      first.takeNext second.takeNext := by
  obtain ⟨fronts, queued, cased, resulted, remembered⟩ := related
  obtain ⟨found, left⟩ := queued.next first.hub.reclaim
  exact ⟨found, .intro fronts left cased resulted remembered⟩

theorem sharing : Sharing leeway (UpToCounts leeway) where
  isArmed := isArmed
  timers related := by cases related; rfl
  event related id := by cases related; rfl
  result := result
  setTimers related timers := related.aside rfl rfl rfl rfl rfl fun _ _ _ _ _ same => by subst same; rfl
  setEventState related id event := related.aside rfl rfl rfl rfl rfl fun _ _ _ _ _ same => by subst same; rfl
  setResultState := setResultState
  wake related := related.aside rfl rfl rfl rfl rfl fun _ _ _ _ _ same => by subst same; rfl

/-- What is asked of the hub at once, but for the count. -/
private theorem onHub (related : UpToCounts leeway first second) {request : Hub.Request α}
    (other : (Request.hub request : Request ν σ α).ofTimers = false)
    (plain : (Request.hub request : Request ν σ α).ofCount = false) :
    Together (UpToCounts leeway) Eq (first.onHub request) (second.onHub request) := by
  cases request with
  | schedule | cancel => cases other
  | switchCount => cases plain
  | isArmed timer => exact ⟨related.isArmed timer, related⟩
  | hasProbe => exact ⟨related.hasProbe, related⟩
  | liveHandles =>
    have live := related.liveHandles
    obtain ⟨fronts, queued, cased, resulted, remembered⟩ := related
    refine ⟨live, ?_⟩
    simp only [World.onHub, live]
    exact .intro fronts queued cased resulted remembered
  | collect =>
    obtain ⟨fronts, queued, cased, resulted, remembered⟩ := related
    exact ⟨rfl, .intro fronts queued.collect cased resulted remembered⟩
  | now | updateNow | wake | setReclaim | openHandle | closeHandle =>
    obtain ⟨fronts, queued, cased, resulted, remembered⟩ := related
    exact ⟨rfl, .intro fronts queued cased resulted remembered⟩

private theorem others (related : UpToCounts leeway first second) {turns : Nat}
    {switch switch' : Run.Switch (LazyQueue (Action ν σ)) ν σ} {S : α → α → Prop} {asked asked' : Request ν σ α}
    (matched : asked.Matched leeway S asked') (other : asked.ofTimers = false) :
    RunsTogether (UpToCounts leeway) S (Run.answer turns switch asked first) (Run.answer turns switch' asked' second) := by
  cases matched with
  | switchCount => exact .some ⟨related.switchCount, related⟩
  | readCase case => exact .some ⟨related.case case, related⟩
  | complete result handed => exact .some ⟨rfl, sharing.complete related result handed⟩
  | readResult result => exact .some ⟨related.result result, related⟩
  | get => cases other
  | memory => exact .some ⟨related.memory, related⟩
  | store stored =>
    obtain ⟨fronts, queued, cased, resulted, remembered⟩ := related
    exact .some ⟨rfl, .intro fronts queued cased resulted stored⟩
  | plain plain =>
    cases asked with
    | switch | sleep | wait | newTimeout | startTimeout | cancelTimeout => cases other
    | complete | readCase | readResult | get | «recall» | store => cases plain
    | hub request => exact .some (related.onHub other plain)
    | isPending timeout => exact .some ⟨sharing.isPending related timeout, related⟩
    | setEvent event => exact .some ⟨rfl, sharing.setEvent related event⟩
    | newCase id policy config => exact .some (related.newCase id policy config)
    | setUpCase case => exact .some ⟨rfl, related.setUpCase case⟩
    | classifyCase case expected => exact .some ⟨rfl, related.classifyCase case expected⟩
    | newResult =>
      obtain ⟨fronts, queued, cased, resulted, remembered⟩ := related
      exact .some ⟨rfl, .intro fronts queued cased (resulted.set _ ⟨rfl, .none⟩) remembered⟩
    | _ =>
      obtain ⟨fronts, queued, cased, resulted, remembered⟩ := related
      exact .some ⟨rfl, .intro fronts queued cased resulted remembered⟩

theorem simulation : Simulation leeway (UpToCounts leeway) where
  toSharing := sharing
  woken related := by cases related; rfl
  inCallback related := by cases related; rfl
  schedule := schedule
  cancel := cancel
  newTimeout related after := by
    obtain ⟨fronts, queued, cased, resulted, remembered⟩ := related
    exact ⟨rfl, .intro fronts queued cased resulted remembered⟩
  beginSwitch := beginSwitch
  clearWoken related := related.aside rfl rfl rfl rfl rfl fun _ _ _ _ _ same => by subst same; rfl
  setInCallback related inCallback := related.aside rfl rfl rfl rfl rfl fun _ _ _ _ _ same => by subst same; rfl
  takeNext := takeNext
  arrive related alarm := related.aside rfl rfl rfl rfl rfl fun _ _ _ _ _ same => by subst same; rfl
  reportFailure related label error := related.aside rfl rfl rfl rfl rfl fun _ _ _ _ _ same => by subst same; rfl
  others related := related.others

end UpToCounts

end Testbench
