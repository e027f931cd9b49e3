import Mathlib.Data.List.Nodup
import Testbench.Diagnostics.Sinks

/-! Where diagnostics ought to go, told from what was asked and in which order, without a stack: a text goes
into the capture that was hooked last among those that were not released or hooked again since. -/

namespace Testbench

namespace Diagnostics

inductive Operation where
  | hook (capture : CaptureId)
  | unhook (capture : CaptureId)
  | take (capture : CaptureId)
  | drop (capture : CaptureId)
  | write (text : String)
deriving DecidableEq

def Operation.capture? : Operation → Option CaptureId
  | .hook id | .unhook id | .take id | .drop id => some id
  | .write _ => none

inductive Place where
  | console
  | buffer (capture : CaptureId)

section

variable (verbose : CaptureId → Bool)

/-- The capture is hooked, and this is what came later. Histories have the latest operation first. -/
def HookedSince (history : List Operation) (id : CaptureId) (later : List Operation) : Prop :=
  verbose id = false ∧ (∀ operation ∈ later, operation.capture? ≠ some id) ∧
    ∃ earlier, history = later ++ .hook id :: earlier

/-- Where the next text goes. -/
def Destination (history : List Operation) : Place → Prop
  | .console => ∀ id later, ¬ HookedSince verbose history id later
  | .buffer id => ∃ later, HookedSince verbose history id later ∧
      ∀ other later', HookedSince verbose history other later' → later.length ≤ later'.length

/-- The texts, in order, that a place received: a capture since it was hooked, the console from the beginning. -/
inductive Collected : List Operation → Place → String → Prop where
  | start : Collected [] .console ""
  | hooked {earlier : List Operation} {id : CaptureId} (quiet : verbose id = false) :
      Collected (.hook id :: earlier) (.buffer id) ""
  | reached {earlier : List Operation} {place : Place} {text more : String} (before : Collected earlier place text)
      (here : Destination verbose earlier place) : Collected (.write more :: earlier) place (text ++ more)
  | missed {earlier : List Operation} {place : Place} {text more : String} (before : Collected earlier place text)
      (elsewhere : ¬ Destination verbose earlier place) : Collected (.write more :: earlier) place text
  | aside {earlier : List Operation} {place : Place} {text : String} {operation : Operation} {id : CaptureId}
      (before : Collected earlier place text) (about : operation.capture? = some id) (other : place ≠ .buffer id) :
      Collected (operation :: earlier) place text

/-- The hooked captures, newest first. -/
def stack : List Operation → List CaptureId
  | [] => []
  | .hook id :: earlier => if verbose id then stack earlier else id :: (stack earlier).erase id
  | .unhook id :: earlier | .take id :: earlier | .drop id :: earlier => (stack earlier).erase id
  | .write _ :: earlier => stack earlier

end

theorem write_about_none (text : String) (id : CaptureId) : (Operation.write text).capture? ≠ some id := nofun

variable {verbose : CaptureId → Bool} {operation : Operation} {history later later' : List Operation} {id other : CaptureId}

theorem hookedSince_nil : ¬ HookedSince verbose [] id later := by
  intro ⟨_, _, earlier, same⟩
  cases later <;> cases same

theorem hookedSince_other (different : operation.capture? ≠ some id) : HookedSince verbose (operation :: history) id later ↔
    ∃ rest, later = operation :: rest ∧ HookedSince verbose history id rest := by
  constructor
  · intro ⟨quiet, untouched, earlier, same⟩
    cases later with
    | nil => cases same; exact absurd rfl different
    | cons first rest =>
      cases same
      exact ⟨rest, rfl, quiet, fun operation member => untouched operation (List.mem_cons_of_mem _ member), earlier, rfl⟩
  · intro ⟨rest, same, quiet, untouched, earlier, before⟩
    subst same before
    refine ⟨quiet, fun operation member => ?_, earlier, rfl⟩
    obtain rfl | member := List.mem_cons.mp member
    · exact different
    · exact untouched operation member

theorem hookedSince_hook (quiet : verbose id = false) : HookedSince verbose (.hook id :: history) id later ↔ later = [] := by
  constructor
  · intro ⟨_, untouched, earlier, same⟩
    cases later with
    | nil => rfl
    | cons first rest => cases same; exact absurd rfl (untouched (.hook id) (List.mem_cons_self ..))
  · intro same
    subst same
    exact ⟨quiet, fun _ impossible => (by cases impossible), history, rfl⟩

theorem hookedSince_released (about : operation.capture? = some id) (release : operation ≠ .hook id) :
    ¬ HookedSince verbose (operation :: history) id later := by
  intro ⟨_, untouched, earlier, same⟩
  cases later with
  | nil => cases same; exact release rfl
  | cons first rest => cases same; exact untouched operation (List.mem_cons_self ..) about

theorem hookedSince_quiet (hooked : HookedSince verbose history id later) : verbose id = false := hooked.1

theorem hookedSince_unique (hooked : HookedSince verbose history id later) (hooked' : HookedSince verbose history id later') :
    later = later' := by
  induction history generalizing later later' with
  | nil => exact (hookedSince_nil hooked).elim
  | cons operation history ih =>
    by_cases about : operation.capture? = some id
    · by_cases hook : operation = .hook id
      · subst hook
        have quiet := hookedSince_quiet hooked
        rw [(hookedSince_hook quiet).mp hooked, (hookedSince_hook quiet).mp hooked']
      · exact (hookedSince_released about hook hooked).elim
    · obtain ⟨rest, rfl, before⟩ := (hookedSince_other about).mp hooked
      obtain ⟨rest', rfl, before'⟩ := (hookedSince_other about).mp hooked'
      rw [ih before before']

theorem hooked_iff_before (different : operation.capture? ≠ some id) :
    (∃ later, HookedSince verbose (operation :: history) id later) ↔ ∃ later, HookedSince verbose history id later := by
  constructor
  · intro ⟨_, hooked⟩
    obtain ⟨rest, -, before⟩ := (hookedSince_other different).mp hooked
    exact ⟨rest, before⟩
  · intro ⟨rest, before⟩
    exact ⟨operation :: rest, (hookedSince_other different).mpr ⟨rest, rfl, before⟩⟩

theorem nodup_stack (history : List Operation) : (stack verbose history).Nodup := by
  induction history with
  | nil => exact List.nodup_nil
  | cons operation history ih =>
    cases operation with
    | hook id =>
      simp only [stack]
      split
      · exact ih
      · exact List.nodup_cons.mpr ⟨ih.not_mem_erase, ih.erase id⟩
    | unhook id | take id | drop id => exact ih.erase id
    | write text => exact ih

/-- The capture is released, and everything else as before. -/
private theorem mem_released (about : operation.capture? = some other) (release : operation ≠ .hook other)
    (before : id ∈ stack verbose history ↔ ∃ later, HookedSince verbose history id later) :
    id ∈ (stack verbose history).erase other ↔ ∃ later, HookedSince verbose (operation :: history) id later := by
  by_cases same : id = other
  · subst same
    apply iff_of_false (nodup_stack history).not_mem_erase
    exact fun ⟨_, hooked⟩ => hookedSince_released about release hooked
  · have different : operation.capture? ≠ some id := fun isAbout => same (Option.some.inj (isAbout.symm.trans about))
    rw [List.mem_erase_of_ne same, before, hooked_iff_before different]

theorem mem_stack (history : List Operation) (id : CaptureId) :
    id ∈ stack verbose history ↔ ∃ later, HookedSince verbose history id later := by
  induction history with
  | nil => exact iff_of_false List.not_mem_nil fun ⟨_, hooked⟩ => hookedSince_nil hooked
  | cons operation history ih =>
    cases operation with
    | hook other =>
      simp only [stack]
      by_cases same : id = other
      · subst same
        split
        next loud =>
          have never (history : List Operation) : ¬ ∃ later, HookedSince verbose history id later :=
            fun ⟨_, hooked⟩ => Bool.noConfusion (loud.symm.trans (hookedSince_quiet hooked))
          exact ih.trans (iff_of_false (never _) (never _))
        next quiet =>
          exact iff_of_true (List.mem_cons_self ..) ⟨[], (hookedSince_hook (Bool.eq_false_iff.mpr quiet)).mpr rfl⟩
      · have different : (Operation.hook other).capture? ≠ some id := fun about => same (Option.some.inj about).symm
        rw [hooked_iff_before different, ← ih]
        split
        · exact Iff.rfl
        · rw [List.mem_cons, List.mem_erase_of_ne same]
          exact or_iff_right same
    | unhook other | take other | drop other => exact mem_released rfl Operation.noConfusion ih
    | write text => exact ih.trans (hooked_iff_before (write_about_none text id)).symm

/-- Of two hooked captures, the first was hooked later. -/
def Newer (verbose : CaptureId → Bool) (history : List Operation) (newer older : CaptureId) : Prop :=
  ∀ later later', HookedSince verbose history newer later → HookedSince verbose history older later' →
    later.length < later'.length

theorem Newer.before (newer : Newer verbose history id other) (notId : operation.capture? ≠ some id)
    (notOther : operation.capture? ≠ some other) : Newer verbose (operation :: history) id other := by
  intro later later' hooked hooked'
  obtain ⟨rest, rfl, before⟩ := (hookedSince_other notId).mp hooked
  obtain ⟨rest', rfl, before'⟩ := (hookedSince_other notOther).mp hooked'
  exact Nat.succ_lt_succ (newer rest rest' before before')

theorem newer_hook (quiet : verbose id = false) (different : id ≠ other) : Newer verbose (.hook id :: history) id other := by
  intro later later' hooked hooked'
  obtain rfl := (hookedSince_hook quiet).mp hooked
  have notOther : (Operation.hook id).capture? ≠ some other := fun about => different (Option.some.inj about)
  obtain ⟨rest, rfl, -⟩ := (hookedSince_other notOther).mp hooked'
  exact Nat.zero_lt_succ _

private theorem newer_released (about : operation.capture? = some id)
    (before : (stack verbose history).Pairwise (Newer verbose history)) :
    ((stack verbose history).erase id).Pairwise (Newer verbose (operation :: history)) := by
  have apart (other : CaptureId) (member : other ∈ (stack verbose history).erase id) : operation.capture? ≠ some other := by
    intro isAbout
    obtain rfl := Option.some.inj (about.symm.trans isAbout)
    exact (nodup_stack history).not_mem_erase member
  exact (before.sublist List.erase_sublist).imp_of_mem fun member member' newer =>
    newer.before (apart _ member) (apart _ member')

theorem newest_first (history : List Operation) : (stack verbose history).Pairwise (Newer verbose history) := by
  induction history with
  | nil => exact List.Pairwise.nil
  | cons operation history ih =>
    cases operation with
    | hook id =>
      simp only [stack]
      split
      next loud =>
        refine ih.imp_of_mem fun {newer older} member member' before => ?_
        have quiet (other : CaptureId) (member : other ∈ stack verbose history) : (Operation.hook id).capture? ≠ some other := by
          intro same
          obtain rfl := Option.some.inj same
          obtain ⟨_, hooked⟩ := (mem_stack history id).mp member
          exact Bool.noConfusion (loud.symm.trans (hookedSince_quiet hooked))
        exact before.before (quiet _ member) (quiet _ member')
      next quiet =>
        refine List.pairwise_cons.mpr ⟨fun other member => ?_, newer_released rfl ih⟩
        apply newer_hook (Bool.eq_false_iff.mpr quiet)
        intro same
        exact (nodup_stack history).not_mem_erase (same ▸ member)
    | unhook id | take id | drop id => exact newer_released rfl ih
    | write text => exact ih.imp fun newer => newer.before (write_about_none text _) (write_about_none text _)

def topmost : List CaptureId → Place
  | [] => .console
  | newest :: _ => .buffer newest

theorem destination_iff (history : List Operation) (place : Place) :
    Destination verbose history place ↔ place = topmost (stack verbose history) := by
  have hooked (id : CaptureId) : id ∈ stack verbose history ↔ ∃ later, HookedSince verbose history id later :=
    mem_stack history id
  have order : (stack verbose history).Pairwise (Newer verbose history) := newest_first history
  cases shown : stack verbose history with
  | nil =>
    rw [shown] at hooked
    have nobody (id : CaptureId) (later : List Operation) : ¬ HookedSince verbose history id later :=
      fun isHooked => List.not_mem_nil ((hooked id).mpr ⟨later, isHooked⟩)
    cases place with
    | console => exact iff_of_true nobody rfl
    | buffer id => exact iff_of_false (fun ⟨later, isHooked, _⟩ => nobody id later isHooked) Place.noConfusion
  | cons newest rest =>
    rw [shown] at hooked order
    obtain ⟨newer, -⟩ := List.pairwise_cons.mp order
    obtain ⟨since, isNewest⟩ := (hooked newest).mp (List.mem_cons_self ..)
    cases place with
    | console => exact iff_of_false (fun nobody => nobody newest since isNewest) Place.noConfusion
    | buffer id =>
      constructor
      · intro ⟨later, isHooked, latest⟩
        obtain rfl | member := List.mem_cons.mp ((hooked id).mpr ⟨later, isHooked⟩)
        · rfl
        · have before := newer id member since later isNewest isHooked
          exact absurd (latest newest since isNewest) (Nat.not_le_of_lt before)
      · intro same
        cases same
        refine ⟨since, isNewest, fun other later isHooked => ?_⟩
        obtain rfl | member := List.mem_cons.mp ((hooked other).mpr ⟨later, isHooked⟩)
        · exact Nat.le_of_eq (congrArg List.length (hookedSince_unique isNewest isHooked))
        · exact Nat.le_of_lt (newer other member since later isNewest isHooked)

/-! What a place has collected, operation by operation. -/

variable {place : Place} {text more : String}

theorem collected_hook (quiet : verbose id = false) :
    Collected verbose (.hook id :: history) (.buffer id) text ↔ text = "" := by
  constructor
  · intro collected
    cases collected with
    | hooked => rfl
    | aside before about other => exact absurd (congrArg Place.buffer (Option.some.inj about)) other
  · intro same
    subst same
    exact .hooked quiet

theorem collected_released (about : operation.capture? = some id) (release : operation = .hook id → verbose id = true) :
    ¬ Collected verbose (operation :: history) (.buffer id) text := by
  intro collected
  cases collected with
  | hooked quiet => exact Bool.noConfusion (quiet.symm.trans (release rfl))
  | reached before here => cases about
  | missed before elsewhere => cases about
  | aside before about' other => exact other (congrArg Place.buffer (Option.some.inj (about.symm.trans about')))

theorem collected_other (about : operation.capture? = some id) (other : place ≠ .buffer id) :
    Collected verbose (operation :: history) place text ↔ Collected verbose history place text := by
  constructor
  · intro collected
    cases collected with
    | hooked quiet => exact absurd (congrArg Place.buffer (Option.some.inj about)) other
    | reached before here => cases about
    | missed before elsewhere => cases about
    | aside before about' other' => exact before
  · exact fun before => .aside before about other

theorem collected_here (here : Destination verbose history place) : Collected verbose (.write more :: history) place text ↔
    ∃ before, Collected verbose history place before ∧ text = before ++ more := by
  constructor
  · intro collected
    cases collected with
    | reached before _ => exact ⟨_, before, rfl⟩
    | missed before elsewhere => exact absurd here elsewhere
    | aside before about _ => cases about
  · intro ⟨before, collected, same⟩
    subst same
    exact .reached collected here

theorem collected_elsewhere (elsewhere : ¬ Destination verbose history place) :
    Collected verbose (.write more :: history) place text ↔ Collected verbose history place text := by
  constructor
  · intro collected
    cases collected with
    | reached before here => exact absurd here elsewhere
    | missed before _ => exact before
    | aside before about _ => cases about
  · exact fun before => .missed before elsewhere

/-- What is hooked collects, and nothing else does. -/
theorem collected_iff_hooked (history : List Operation) (id : CaptureId) :
    (∃ text, Collected verbose history (.buffer id) text) ↔ ∃ later, HookedSince verbose history id later := by
  induction history with
  | nil => exact iff_of_false (fun ⟨_, collected⟩ => by cases collected) fun ⟨_, hooked⟩ => hookedSince_nil hooked
  | cons operation history ih =>
    by_cases about : operation.capture? = some id
    · by_cases hook : operation = .hook id ∧ verbose id = false
      · obtain ⟨rfl, quiet⟩ := hook
        exact iff_of_true ⟨"", .hooked quiet⟩ ⟨[], (hookedSince_hook quiet).mpr rfl⟩
      · refine iff_of_false (fun ⟨_, collected⟩ => ?_) fun ⟨_, hooked⟩ => ?_
        · refine collected_released about (fun isHook => ?_) collected
          exact Bool.ne_false_iff.mp fun quiet => hook ⟨isHook, quiet⟩
        · refine hookedSince_released about (fun isHook => hook ⟨isHook, hookedSince_quiet hooked⟩) hooked
    · rw [hooked_iff_before about, ← ih]
      cases other : operation.capture? with
      | some another =>
        have different : Place.buffer id ≠ .buffer another := by
          intro same
          cases same
          exact about other
        exact exists_congr fun text => collected_other other different
      | none =>
        cases operation with
        | write more =>
          by_cases here : Destination verbose history (.buffer id)
          · constructor
            · intro ⟨_, collected⟩
              obtain ⟨before, was, -⟩ := (collected_here here).mp collected
              exact ⟨before, was⟩
            · exact fun ⟨before, was⟩ => ⟨before ++ more, .reached was here⟩
          · exact exists_congr fun text => collected_elsewhere here
        | hook _ | unhook _ | take _ | drop _ => cases other

end Diagnostics

end Testbench
