import Mathlib.Order.Nat
import Testbench.LeakCheck.Rehearsal

/-! How a leak check ends, told from the samples and the outcomes alone, and what it asks of its probe on the
way. The rule does not run the session: it looks for the first run that is not followed by another. -/

namespace Testbench.LeakCheck.Script

variable {script : Script} {limit run left runs : Nat}

/-- What a run of the body changed: the sample after it less the sample before it. -/
def change (script : Script) (run : Nat) : Int := script.sample (2 * run + 1) - script.sample (2 * run)

def changes (script : Script) (runs : Nat) : List Int := (List.range runs).map script.change

/-- The run succeeds, and another one follows if there may be one. -/
def Grows (script : Script) (run : Nat) : Prop := script.outcome run = .ok () ∧ script.change run ≠ 0

/-- The difference of the samples is a signed word of 64 bits. -/
def Fits (script : Script) (run : Nat) : Prop := -Int.pow 2 63 ≤ script.change run ∧ script.change run < Int.pow 2 63

/-- How a session ends, and after how many runs. -/
inductive Ends (script : Script) (limit : Nat) : Nat → Except (Stop Failure) (List Int) → Prop where
  | settled {run : Nat} (within : run < limit) (grew : ∀ earlier < run, script.Grows earlier)
      (passed : script.outcome run = .ok ()) (same : script.change run = 0) :
      Ends script limit (run + 1) (.ok (script.changes (run + 1)))
  | stopped {run : Nat} {stop : Stop Failure} (within : run < limit) (grew : ∀ earlier < run, script.Grows earlier)
      (stops : script.outcome run = .error stop) : Ends script limit (run + 1) (.error stop)
  | exhausted (grew : ∀ run < limit, script.Grows run) :
      Ends script limit limit (.error (.failed (.growth (script.changes limit))))

theorem probe_collect (script : Script) (now : Rehearsal) :
    script.probe.collect now = ((), { now with calls := .collect :: now.calls }) := rfl

theorem probe_liveHandles (script : Script) (now : Rehearsal) : script.probe.liveHandles now =
    (script.sample now.sampled,
      ⟨now.sampled + 1, now.ran, .liveHandles (script.sample now.sampled) :: now.calls⟩) := rfl

theorem body_run (script : Script) (now : Rehearsal) :
    script.body now = (script.outcome now.ran, ⟨now.sampled, now.ran + 1, .body :: now.calls⟩) := rfl

theorem iterate_succ (script : Script) (left : Nat) (deltas : List Int) (now : Rehearsal) :
    iterate script.probe script.body (left + 1) deltas now =
      let ran : Rehearsal :=
        ⟨now.sampled + 1, now.ran + 1, .body :: .liveHandles (script.sample now.sampled) :: .collect :: now.calls⟩
      let sampled : Rehearsal :=
        ⟨now.sampled + 2, now.ran + 1, .liveHandles (script.sample (now.sampled + 1)) :: ran.calls⟩
      match script.outcome now.ran with
      | .error stop => (.error stop, ran)
      | .ok () =>
        match delta? (script.sample now.sampled) (script.sample (now.sampled + 1)) with
        | none => (.error (.panicked .differenceOverflow), sampled)
        | some delta =>
          if delta = 0 then (.ok (deltas ++ [delta]), sampled)
          else iterate script.probe script.body left (deltas ++ [delta]) sampled := by
  simp only [iterate, bind, StateT.bind, probe_collect, probe_liveHandles, body_run]
  cases script.outcome now.ran with
  | error stop => rfl
  | ok =>
    simp only [bind, StateT.bind, probe_liveHandles]
    cases delta? (script.sample now.sampled) (script.sample (now.sampled + 1)) with
    | none => rfl
    | some delta =>
      simp only
      split <;> rfl

theorem delta_of_fits (fits : script.Fits run) :
    delta? (script.sample (2 * run)) (script.sample (2 * run + 1)) = some (script.change run) := if_pos fits

end Testbench.LeakCheck.Script
