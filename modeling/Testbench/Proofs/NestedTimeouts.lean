import Testbench.Bench
import Testbench.Proofs.Interruption
import Testbench.Proofs.TimeoutTimers

/-! Nested timeouts. Of all the timeouts that run while a task waits, the wait's own and those around it, the
first to fire ends the wait, and the error tells which one it was. The rest of them go on running. -/

namespace Testbench

open LawfulQueue (armed Sound)

variable {ν σ : Type} {Q : Type 1}

namespace WaitLimit

/-- The timeout of the wait. -/
def own (limit : WaitLimit) (world : World Q ν σ) : Option Timeout :=
  match limit with
  | .never => none
  | .after duration => some (world.newTimeout (some duration)).1
  | .under timeout => some timeout

variable [TimerQueue (Action ν σ) Q]

/-- A timeout that is pending already is left running, and one without a duration never fires. -/
def arms (limit : WaitLimit) (world : World Q ν σ) : Option (Alarm × Timeout) :=
  match limit.own world with
  | none => none
  | some timeout =>
    if world.isPending timeout then none
    else timeout.after.map fun after => (⟨world.clock + after, world.hub.nextTimer⟩, timeout)

/-- No deadline overflows. -/
def Fits (limit : WaitLimit) (world : World Q ν σ) : Prop :=
  ∀ timeout after, limit.own world = some timeout → world.isPending timeout = false → timeout.after = some after →
    (deadline? world.clock after).isSome

/-- A timeout of the caller's is among those at hand. -/
def Among (limit : WaitLimit) (known : Timeout → Prop) : Prop := ∀ timeout, limit = .under timeout → known timeout

end WaitLimit

/-- A timeout at hand, or the wait's own. -/
def Party (known : Timeout → Prop) (limit : WaitLimit) (world : World Q ν σ) (timeout : Timeout) : Prop :=
  known timeout ∨ limit.own world = some timeout

/-- A timeout of the caller's is at hand; one the wait makes for itself is new and has no substitute. -/
theorem Party.known_or_new {known : Timeout → Prop} {limit : WaitLimit} {world : World Q ν σ} {timeout : Timeout}
    (mine : limit.Among known) (party : Party known limit world timeout) :
    known timeout ∨ timeout.id = world.timeoutsMade ∧ timeout.exception = none ∧ limit.own world = some timeout := by
  obtain isKnown | own := party
  · exact .inl isKnown
  cases limit with
  | never => cases own
  | after duration => cases own; exact .inr ⟨rfl, rfl, rfl⟩
  | under timeout => cases own; exact .inl (mine _ rfl)

variable [TimerQueue (Action ν σ) Q] [LawfulQueue Q]

/-- The timeouts at hand, armed or not. No callback is armed, and only these timeouts raise errors. -/
structure Nest (known : Timeout → Prop) (world : World Q ν σ) : Prop where
  timers : ∀ held ∈ armed world.hub.queue, held.2 = .wake ∨
    ∃ timeout, known timeout ∧ held.2 = .raise timeout.error ∧ world.timers.get? timeout.id = some held.1.id
  made : ∀ timeout, known timeout → timeout.id < world.timeoutsMade
  /-- Copies are taken when a timeout has its message and its exception. -/
  copies : ∀ timeout copy, known timeout → known copy → timeout.id = copy.id → timeout = copy
  /-- A substitute error is nobody else's. -/
  exceptions : ∀ timeout other exception exception', known timeout → known other → timeout.exception = some exception →
    other.exception = some exception' → exception.same exception' = true → timeout.id = other.id

/-- A timer that can interrupt the wait, and the timeout it is for. -/
inductive Rival (known : Timeout → Prop) (limit : WaitLimit) (world : World Q ν σ) : Alarm → Timeout → Prop where
  | armed {alarm : Alarm} {timeout : Timeout} (isKnown : known timeout)
      (holds : world.timers.get? timeout.id = some alarm.id)
      (member : (alarm, .raise timeout.error) ∈ armed world.hub.queue) : Rival known limit world alarm timeout
  | own {alarm : Alarm} {timeout : Timeout} (arms : limit.arms world = some (alarm, timeout)) :
      Rival known limit world alarm timeout

theorem Rival.party {known : Timeout → Prop} {limit : WaitLimit} {world : World Q ν σ} {alarm : Alarm} {timeout : Timeout}
    (rival : Rival known limit world alarm timeout) : Party known limit world timeout := by
  cases rival with
  | armed isKnown _ _ => exact .inl isKnown
  | own arms =>
    unfold WaitLimit.arms at arms
    split at arms
    · cases arms
    next own =>
      split at arms
      · cases arms
      · obtain ⟨_, -, same⟩ := Option.map_eq_some_iff.mp arms
        cases same
        exact .inr own

namespace Nest

variable {known : Timeout → Prop} {limit : WaitLimit} {world : World Q ν σ}

theorem copies_of_party (nest : Nest known world) (mine : limit.Among known)
    {timeout copy : Timeout} (party : Party known limit world timeout) (party' : Party known limit world copy)
    (same : timeout.id = copy.id) : timeout = copy := by
  obtain isKnown | ⟨new, -, own⟩ := party.known_or_new mine <;>
    obtain isKnown' | ⟨new', -, own'⟩ := party'.known_or_new mine
  · exact nest.copies _ _ isKnown isKnown' same
  · exact absurd (same.trans new') (Nat.ne_of_lt (nest.made _ isKnown))
  · exact absurd (same.symm.trans new) (Nat.ne_of_lt (nest.made _ isKnown'))
  · exact Option.some.inj (own.symm.trans own')

theorem exceptions_of_party (nest : Nest known world) (mine : limit.Among known)
    {timeout other : Timeout} (party : Party known limit world timeout) (party' : Party known limit world other)
    {exception exception' : SharedError} (has : timeout.exception = some exception)
    (has' : other.exception = some exception') (same : exception.same exception' = true) : timeout.id = other.id := by
  obtain isKnown | ⟨-, none, -⟩ := party.known_or_new mine
  · obtain isKnown' | ⟨-, none', -⟩ := party'.known_or_new mine
    · exact nest.exceptions _ _ _ _ isKnown isKnown' has has' same
    · cases none'.symm.trans has'
  · cases none.symm.trans has

/-- An error is recognised by the timeout that raised it, and by no other. -/
theorem raisedBy_iff (nest : Nest known world) (mine : limit.Among known)
    {timeout other : Timeout} (party : Party known limit world timeout) (party' : Party known limit world other) :
    other.raisedBy timeout.error = true ↔ other.id = timeout.id := by
  constructor
  · intro raised
    unfold Timeout.raisedBy Timeout.error at raised
    cases has : timeout.exception <;> cases has' : other.exception <;> rw [has, has'] at raised
    · exact (beq_iff_eq.mp raised).symm
    · cases raised
    · cases raised
    · exact (nest.exceptions_of_party mine party party' has has' raised).symm
  · intro same
    obtain rfl := nest.copies_of_party mine party' party same
    unfold Timeout.raisedBy Timeout.error
    cases other.exception with
    | none => exact beq_self_eq_true other.id
    | some exception => exact beq_self_eq_true exception.id

/-- A timeout that a wait makes for itself holds no timer yet. -/
theorem new_not_pending (nest : Nest known world) (holding : world.Holding)
    (sound : Sound world.hub.nextTimer world.hub.queue) {timeout : Timeout} (new : timeout.id = world.timeoutsMade) :
    world.isPending timeout = false := by
  apply Bool.eq_false_iff.mpr
  intro pending
  obtain ⟨held, member, holds⟩ := (World.isPending_iff sound timeout).mp pending
  obtain wake | ⟨other, isKnown, -, holds'⟩ := nest.timers held member
  · obtain ⟨copy, -, raises⟩ := holding.raises _ _ holds held member rfl
    cases wake.symm.trans raises
  · have same := holding.apart _ _ _ holds holds'
    exact Nat.ne_of_lt (nest.made other isKnown) (same.symm.trans new)

end Nest

/-- The wait's timer is armed, if it has one to arm, and every rival is held by its timeout. -/
structure Begun (known : Timeout → Prop) (limit : WaitLimit) (world begun : World Q ν σ) : Prop where
  inCallback : begun.hub.inCallback = world.hub.inCallback
  woken : begun.hub.woken = world.hub.woken
  onto : (armed begun.hub.queue).Perm ((limit.arms world).toList.map (fun own => (own.1, .raise own.2.error)) ++
    armed world.hub.queue)
  holds : ∀ alarm timeout, Rival known limit world alarm timeout → begun.timers.get? timeout.id = some alarm.id

namespace Begun

variable {known : Timeout → Prop} {limit : WaitLimit} {world begun : World Q ν σ}

theorem of_pending
    (pending : ∀ timeout, limit.own world = some timeout → world.isPending timeout = true) : Begun known limit world world := by
  have nothing : limit.arms world = none := by
    unfold WaitLimit.arms
    cases own : limit.own world with
    | none => rfl
    | some timeout => simp only [pending timeout own, if_true]
  refine ⟨rfl, rfl, by rw [nothing]; exact .refl _, fun alarm timeout rival => ?_⟩
  cases rival with
  | armed isKnown holds member => exact holds
  | own arms => cases nothing.symm.trans arms

theorem of_started (sound : Sound world.hub.nextTimer world.hub.queue) {timeout : Timeout}
    (own : limit.own world = some timeout) (spent : world.isPending timeout = false)
    (started : World.Started timeout world begun) : Begun known limit world begun := by
  have arms : limit.arms world = timeout.after.map fun after => (⟨world.clock + after, world.hub.nextTimer⟩, timeout) := by
    simp only [WaitLimit.arms, own, spent, Bool.false_eq_true, if_false]
  refine ⟨started.inCallback, started.woken, ?_, fun alarm other rival => ?_⟩
  · have onto := started.onto
    rw [arms]
    cases delay : timeout.after <;> rw [delay] at onto <;> exact onto
  · cases rival with
    | armed isKnown holds member =>
      by_cases same : other.id = timeout.id
      · have pending := (World.isPending_iff sound timeout).mpr ⟨_, member, same ▸ holds⟩
        cases pending.symm.trans spent
      · rw [started.others other.id same]
        exact holds
    | own armed =>
      obtain ⟨after, delay, same⟩ := Option.map_eq_some_iff.mp (arms.symm.trans armed)
      cases same
      rw [started.own, delay]
      rfl

theorem mem_of_rival (begun' : Begun known limit world begun) {alarm : Alarm} {timeout : Timeout}
    (rival : Rival known limit world alarm timeout) : (alarm, .raise timeout.error) ∈ armed begun.hub.queue := by
  apply begun'.onto.mem_iff.mpr
  cases rival with
  | armed isKnown holds member => exact List.mem_append_right _ member
  | own arms =>
    rw [arms]
    exact List.mem_append_left _ (List.mem_singleton_self _)

theorem wake_or_rival (begun' : Begun known limit world begun) (nest : Nest known world) :
    ∀ held ∈ armed begun.hub.queue, held.2 = .wake ∨
      ∃ timeout, held.2 = .raise timeout.error ∧ Rival known limit world held.1 timeout := by
  intro held member
  obtain new | before := List.mem_append.mp (begun'.onto.mem_iff.mp member)
  · obtain ⟨⟨alarm, timeout⟩, armed, rfl⟩ := List.mem_map.mp new
    exact .inr ⟨timeout, rfl, .own (Option.mem_toList.mp armed)⟩
  · obtain wake | ⟨timeout, isKnown, raises, holds⟩ := nest.timers held before
    · exact .inl wake
    · refine .inr ⟨timeout, raises, .armed isKnown holds ?_⟩
      rw [← raises]
      exact before

theorem length_le (begun' : Begun known limit world begun) :
    (armed begun.hub.queue).length ≤ (armed world.hub.queue).length + 1 := by
  rw [begun'.onto.length_eq, List.length_append, List.length_map]
  cases limit.arms world with
  | none => simp
  | some own => simp; omega

end Begun

theorem Nest.startLimit {known : Timeout → Prop} {limit : WaitLimit} {world : World Q ν σ} (nest : Nest known world)
    (holding : world.Holding) (sound : Sound world.hub.nextTimer world.hub.queue) (fits : limit.Fits world) :
    ∃ begun, world.startLimit limit = (.ok (limit.own world), begun) ∧ begun.events = world.events ∧
      begun.results = world.results ∧ Begun known limit world begun := by
  cases limit with
  | never => exact ⟨world, rfl, rfl, rfl, .of_pending fun _ none => by cases none⟩
  | after duration =>
    have spent : world.isPending (world.newTimeout (some duration)).1 = false := nest.new_not_pending holding sound rfl
    obtain ⟨begun, started, spec⟩ := World.startTimeout_spent (world.newTimeout (some duration)).2 sound spent
      fun after delay => fits _ after rfl spent delay
    refine ⟨begun, ?_, spec.events, spec.results, .of_started sound rfl spent ?_⟩
    · simp only [World.startLimit, started]
      rfl
    · exact ⟨spec.inCallback, spec.woken, spec.events, spec.results, spec.onto, spec.others, spec.own⟩
  | under timeout =>
    cases pending : world.isPending timeout with
    | true =>
      refine ⟨world, by simp only [World.startLimit, pending, if_true]; rfl, rfl, rfl, .of_pending fun _ own => ?_⟩
      cases own
      exact pending
    | false =>
      obtain ⟨begun, started, spec⟩ := World.startTimeout_spent world sound pending fun after delay => fits _ after rfl pending delay
      refine ⟨begun, ?_, spec.events, spec.results, .of_started sound rfl pending spec⟩
      simp only [World.startLimit, pending, started]
      rfl

/-- What a wait comes to, given the rival that fires first. -/
structure Verdict (known : Timeout → Prop) (limit : WaitLimit) (world after : World Q ν σ)
    (winner : Option (Alarm × Timeout)) : Prop where
  /-- Nothing will ever resume the task. -/
  nobody : winner = none → ∀ alarm timeout, ¬ Rival known limit world alarm timeout
  least : ∀ first timeout, winner = some (first, timeout) → Rival known limit world first timeout ∧
    ∀ other timeout', Rival known limit world other timeout' → first ≤ other
  /-- Copies of a timeout have its number. -/
  recognised : ∀ first timeout, winner = some (first, timeout) → ∀ other, Party known limit world other →
    (other.raisedBy timeout.error = true ↔ other.id = timeout.id)
  others : ∀ alarm timeout, Rival known limit world alarm timeout → winner.map (·.1) ≠ some alarm →
    limit.own world ≠ some timeout →
    (alarm, .raise timeout.error) ∈ armed after.hub.queue ∧ after.isPending timeout = true
  ended : ∀ timeout, limit.own world = some timeout → after.isPending timeout = false

def winningError : Option (Alarm × Timeout) → HubError
  | none => .loopExit
  | some (_, timeout) => timeout.error

section

variable {known : Timeout → Prop} {limit : WaitLimit} {world begun after : World Q ν σ} {winner : Option (Alarm × Timeout)}

theorem Begun.first_rival (begun' : Begun known limit world begun) (nest : Nest known world) {error : HubError}
    (interrupted : Interrupted begun after error) : ∃ winner, error = winningError winner ∧
      (winner = none → ∀ alarm timeout, ¬ Rival known limit world alarm timeout) ∧
      (∀ first timeout, winner = some (first, timeout) → Rival known limit world first timeout ∧
        ∀ other timeout', Rival known limit world other timeout' → first ≤ other) ∧
      ∀ alarm timeout, Rival known limit world alarm timeout → winner.map (·.1) ≠ some alarm →
        (alarm, .raise timeout.error) ∈ armed after.hub.queue := by
  cases interrupted with
  | @raised first _ member others _ _ =>
    obtain wake | ⟨timeout, raises, rival⟩ := begun'.wake_or_rival nest _ member
    · cases wake
    cases raises
    refine ⟨some (first, timeout), rfl, fun none => (by cases none), ?_, ?_⟩
    · intro _ _ same
      cases same
      refine ⟨rival, fun other timeout' rival' => ?_⟩
      obtain rfl | ⟨before, -⟩ := others other _ (begun'.mem_of_rival rival')
      · exact Alarm.le_refl _
      · exact before.1
    · intro alarm timeout' rival' loses
      obtain rfl | ⟨-, still⟩ := others alarm _ (begun'.mem_of_rival rival')
      · exact absurd rfl loses
      · exact still
  | gaveUp wakes _ =>
    have nobody (alarm : Alarm) (timeout : Timeout) (rival : Rival known limit world alarm timeout) : False := by
      cases wakes _ (begun'.mem_of_rival rival)
    refine ⟨none, rfl, fun _ => nobody, fun _ _ some => (by cases some), ?_⟩
    exact fun alarm timeout rival => (nobody alarm timeout rival).elim

/-- The wait's own timeout is stopped on the way out; a rival is held by another timeout, and stays. -/
theorem Begun.verdict (begun' : Begun known limit world begun) (nest : Nest known world) (holding : begun.Holding)
    (mine : limit.Among known) {error : HubError} (interrupted : Interrupted begun after error) :
    ∃ winner, error = winningError winner ∧ ∀ last : World Q ν σ, Sound last.hub.nextTimer last.hub.queue →
      last.hub.queue = after.hub.queue → last.timers = begun.timers →
      Verdict known limit world (last.endLimit (limit.own world)) winner := by
  obtain ⟨winner, raised, nobody, least, others⟩ := begun'.first_rival nest interrupted
  refine ⟨winner, raised, fun last sound queue timers => ⟨nobody, least, ?_, ?_, ?_⟩⟩
  · intro first timeout wins other party
    exact nest.raisedBy_iff mine (least first timeout wins).1.party party
  · intro alarm timeout rival loses foreign
    have left : (alarm, .raise timeout.error) ∈ armed last.hub.queue := queue ▸ others alarm timeout rival loses
    have holds : last.timers.get? timeout.id = some alarm.id := timers ▸ begun'.holds alarm timeout rival
    cases own : limit.own world with
    | none => exact ⟨left, (World.isPending_iff sound timeout).mpr ⟨_, left, holds⟩⟩
    | some mine' =>
      have stopped := World.cancelTimeout_stopped sound mine'
      have different : timeout.id ≠ mine'.id := fun same =>
        foreign (own.trans (congrArg some (nest.copies_of_party mine rival.party (.inr own) same).symm))
      have kept : (alarm, .raise timeout.error) ∈ armed (last.endLimit (some mine')).hub.queue := by
        apply stopped.kept _ left
        intro same
        apply different
        exact (holding.apart _ _ _ (timers ▸ same) (timers ▸ holds)).symm
      refine ⟨kept, (World.isPending_iff stopped.sound timeout).mpr ⟨_, kept, ?_⟩⟩
      exact (stopped.others _ different).trans holds
  · intro timeout own
    rw [own]
    exact (World.cancelTimeout_stopped sound timeout).not_pending

/-- How the wait for an event answers. Its own timeout is no error, unless it has a substitute. -/
def waitAnswer (own : Option Timeout) : Option (Alarm × Timeout) → Except (Stop HubError) Waited
  | none => .error (.failed .loopExit)
  | some (_, timeout) =>
    if own = some timeout ∧ timeout.exception = none then .ok .timedOut else .error (.failed timeout.error)

theorem elapsedIn_iff (nest : Nest known world) (mine : limit.Among known)
    {own timeout : Timeout} (isOwn : limit.own world = some own) (party : Party known limit world timeout) :
    own.elapsedIn timeout.error = true ↔ own = timeout ∧ timeout.exception = none := by
  unfold Timeout.elapsedIn Timeout.error
  cases timeout.exception with
  | some exception => simp
  | none =>
    refine ⟨fun same => ⟨?_, rfl⟩, fun both => ?_⟩
    · exact (nest.copies_of_party mine party (.inr isOwn) (beq_iff_eq.mp same)).symm
    · exact beq_iff_eq.mpr (congrArg Timeout.id both.1.symm)

/-- A wait takes its own timeout's error for an answer by the timeout's number. -/
theorem Verdict.answer (verdict : Verdict known limit world after winner) (nest : Nest known world)
    (mine : limit.Among known) :
    (if (limit.own world).any (·.elapsedIn (winningError winner)) then Except.ok Waited.timedOut
      else .error (.failed (winningError winner))) = waitAnswer (limit.own world) winner := by
  rcases winner with _ | ⟨first, timeout⟩
  · cases limit.own world <;> rfl
  have party := (verdict.least first timeout rfl).1.party
  simp only [winningError, waitAnswer]
  cases isOwn : limit.own world with
  | none => simp
  | some own =>
    simp only [Option.any_some, elapsedIn_iff nest mine isOwn party, Option.some.injEq]

/-- A wait under way, by whichever of the two waits. -/
theorem Nest.begins (nest : Nest known world) (recorded : world.Recorded) (holding : world.Holding)
    (outside : world.hub.inCallback = false) (fits : limit.Fits world) :
    ∃ begun, world.startLimit limit = (.ok (limit.own world), begun) ∧ begun.events = world.events ∧
      begun.results = world.results ∧ Begun known limit world begun ∧ begun.Holding ∧ Undisturbed begun ∧
      (armed begun.hub.queue).length + begun.hub.woken.toNat ≤ (armed world.hub.queue).length + 2 := by
  obtain ⟨begun, started, events, results, begun'⟩ := nest.startLimit holding recorded.sound fits
  have steps := world.startLimit_steps limit
  rw [started] at steps
  refine ⟨begun, started, events, results, begun', holding.steps recorded steps, ⟨(recorded.steps steps).sound, ?_, ?_⟩, ?_⟩
  · exact begun'.inCallback.trans outside
  · intro held member
    obtain wake | ⟨timeout, raises, -⟩ := begun'.wake_or_rival nest held member
    · exact .inl wake
    · exact .inr ⟨_, raises⟩
  · have fewer := begun'.length_le
    have bit := Bool.toNat_le begun.hub.woken
    omega

/-- The wait is under way in `begun`; its waiter is all that `watched` adds. -/
theorem Begun.run (begun' : Begun known limit world begun) (watched : World Q ν σ) (nest : Nest known world)
    (holding : begun.Holding) (undisturbed : Undisturbed begun) (mine : limit.Among known)
    (hub : watched.hub = begun.hub) (timers : watched.timers = begun.timers) {turns : Nat} (two : 2 ≤ turns)
    (room : (armed begun.hub.queue).length + begun.hub.woken.toNat < turns) :
    ∃ winner after, Run.Breaks turns turns watched (winningError winner) after ∧
      ∀ last : World Q ν σ, last.hub = after.hub → last.timers = after.timers →
        Verdict known limit world (last.endLimit (limit.own world)) winner := by
  have calm : Undisturbed watched := undisturbed.of_hub_eq hub
  have watching : Begun known limit world watched := by
    refine ⟨?_, ?_, ?_, ?_⟩
    · rw [hub]; exact begun'.inCallback
    · rw [hub]; exact begun'.woken
    · rw [hub]; exact begun'.onto
    · rw [timers]; exact begun'.holds
  have holds : watched.Holding := by
    refine ⟨?_, ?_, ?_⟩ <;> rw [timers]
    · rw [hub]; exact holding.numbered
    · exact holding.apart
    · rw [hub]; exact holding.raises
  rw [← hub] at room
  obtain ⟨error, after, beside, still, interrupted, breaks⟩ := Run.interrupted calm two room
  obtain ⟨winner, rfl, verdict⟩ := watching.verdict nest holds mine interrupted
  refine ⟨winner, after, breaks, fun last same cells => verdict last ?_ (congrArg Hub.queue same) (cells.trans beside.timers)⟩
  rw [same]
  exact still.sound

theorem Run.wait_verdict (nest : Nest known world) (recorded : world.Recorded) (holding : world.Holding)
    (outside : world.hub.inCallback = false) (mine : limit.Among known) (fits : limit.Fits world)
    {turns : Nat} (enough : (armed world.hub.queue).length + 3 ≤ turns) {id : EventId} (unset : (world.event id).isSet = false) :
    ∃ winner after, Run.wait turns (Run.switch turns) id limit world = some (waitAnswer (limit.own world) winner, after) ∧
      Verdict known limit world after winner := by
  obtain ⟨begun, started, events, -, begun', holding', undisturbed, room⟩ := nest.begins recorded holding outside fits
  have unset' : ((begun.addEventWaiter id).event id).isSet = false := by
    simpa [World.addEventWaiter, World.event, World.setEventState, events] using unset
  have two : 2 ≤ turns := by omega
  obtain ⟨winner, after, breaks, verdict⟩ :=
    begun'.run (begun.addEventWaiter id) nest holding' undisturbed mine rfl rfl two (by omega)
  have last := verdict (after.removeEventWaiter id) rfl rfl
  have waited := breaks.waits id unset'
  refine ⟨winner, (after.removeEventWaiter id).endLimit (limit.own world), ?_, last⟩
  rw [← last.answer nest mine]
  simp only [Run.wait, unset, started, waited, Bool.false_eq_true, if_false]
  split <;> rfl

theorem Run.get_verdict (nest : Nest known world) (recorded : world.Recorded) (holding : world.Holding)
    (outside : world.hub.inCallback = false) (mine : limit.Among known) (fits : limit.Fits world)
    {turns : Nat} (enough : (armed world.hub.queue).length + 3 ≤ turns) {id : ResultId} (unready : (world.result id).value = none) :
    ∃ winner after, Run.get turns (Run.switch turns) id limit world = some (.error (.failed (winningError winner)), after) ∧
      Verdict known limit world after winner := by
  obtain ⟨begun, started, -, results, begun', holding', undisturbed, room⟩ := nest.begins recorded holding outside fits
  have unready' : ((begun.addResultWaiter id).result id).value = none := by
    simpa [World.addResultWaiter, World.result, World.setResultState, results] using unready
  have two : 2 ≤ turns := by omega
  obtain ⟨winner, after, breaks, verdict⟩ :=
    begun'.run (begun.addResultWaiter id) nest holding' undisturbed mine rfl rfl two (by omega)
  refine ⟨winner, _, ?_, verdict (after.removeResultWaiter id) rfl rfl⟩
  simp only [Run.get, unready, started, breaks.gets id unready']

end

/-- Wherever a run of the hub has come to, outside callbacks, and whatever timeouts run there: the first of them
to fire ends the wait, and is known by its error. -/
theorem Bench.nested_timeouts {α : Type} (front : Front) (memory : σ) (past : Program ν σ α) (turns : Nat) (world : Bench ν σ)
    (reached : past.Meets turns (Bench.fresh front memory) world) (outside : world.hub.inCallback = false)
    (known : Timeout → Prop) (nest : Nest known world) (limit : WaitLimit)
    (mine : limit.Among known) (fits : limit.Fits world)
    (left : Nat) (enough : Bench.pendingTimers world + 3 ≤ left) :
    (∀ id, (world.event id).isSet = false → ∃ winner after,
      Run.wait left (Run.switch left) id limit world = some (waitAnswer (limit.own world) winner, after) ∧
        Verdict known limit world after winner) ∧
    (∀ id, (world.result id).value = none → ∃ winner after,
      Run.get left (Run.switch left) id limit world = some (.error (.failed (winningError winner)), after) ∧
        Verdict known limit world after winner) := by
  have steps := Program.meets_steps reached
  have start : World.Recorded (Bench.fresh front memory : Bench ν σ) := .fresh front memory
  have recorded := start.steps steps
  have holding := (World.Holding.fresh front memory).steps start steps
  have count : Bench.pendingTimers world = (armed world.hub.queue).length := LawfulQueue.armedCount_eq recorded.sound
  rw [count] at enough
  refine ⟨fun id unset => ?_, fun id unready => ?_⟩
  · exact Run.wait_verdict nest recorded holding outside mine fits enough unset
  · exact Run.get_verdict nest recorded holding outside mine fits enough unready

/-- A timeout with a substitute error, and a timer that wakes the task before it fires. -/
def outerTimeout : Timeout := { id := 0, after := some 10, exception := some ⟨0, "gave up"⟩ }

def enterOuterTimeout : Program Unit Unit Unit := do
  let timeout ← Program.ask (.newTimeout (some 10))
  let error ← Program.ask (.newError "gave up")
  let _ ← Program.ask (.startTimeout { timeout with exception := some error })
  let _ ← Program.ask (.hub (.schedule 3 .wake))
  let _ ← Program.ask .newEvent
  return ()

def insideOuterTimeout : Bench Unit Unit :=
  ((enterOuterTimeout.run 0 (Bench.fresh .direct ())).map (·.2)).getD (Bench.fresh .direct ())

theorem insideOuterTimeout_nest : Nest (· = outerTimeout) insideOuterTimeout := by
  have timers : armed insideOuterTimeout.hub.queue = [(⟨3, 1⟩, .wake), (⟨10, 0⟩, .raise outerTimeout.error)] := rfl
  refine ⟨fun held member => ?_, fun timeout same => ?_, fun timeout copy same same' _ => same.trans same'.symm, ?_⟩
  · rw [timers] at member
    obtain rfl | member := List.mem_cons.mp member
    · exact .inl rfl
    · obtain rfl := List.mem_singleton.mp member
      exact .inr ⟨outerTimeout, rfl, rfl, rfl⟩
  · subst same
    exact Nat.zero_lt_one
  · intro timeout other _ _ same same' _ _ _
    rw [same, same']

/-- The outer timeout interrupts a longer wait, and is known by its substitute error. -/
theorem outer_timeout_ends_wait : ∃ winner after,
    Run.wait 5 (Run.switch 5) ⟨0⟩ (.after 20) insideOuterTimeout = some (waitAnswer (some ⟨1, some 20, none, none⟩) winner, after) ∧
    Verdict (· = outerTimeout) (.after 20) insideOuterTimeout after winner := by
  have ran : enterOuterTimeout.run 0 (Bench.fresh .direct ()) = some ((), insideOuterTimeout) := rfl
  have spec := Bench.nested_timeouts .direct () enterOuterTimeout 0 insideOuterTimeout (Program.meets_end ran) rfl
    (· = outerTimeout) insideOuterTimeout_nest (.after 20) (fun _ impossible => by cases impossible)
    (fun _ _ own _ delay => by cases own; cases delay; rfl) 5 (by decide)
  exact spec.1 ⟨0⟩ rfl

end Testbench
