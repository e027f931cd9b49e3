import Mathlib.Logic.Relation
import Testbench.Diagnostics.Pattern

/-! What patterns match, said of pieces of a text: a pattern takes a piece out of a text, given what is before
it and what is after it. The places a pattern leads to are exactly the ends of the pieces it takes, although a
repetition never visits a place twice. -/

namespace Testbench

/-- The place between the two halves of a text. -/
def Cursor.between (before rest : List Char) : Cursor := ⟨before.length, before.getLast?.all (· == '\n'), rest⟩

theorem Cursor.start_eq_between (text : List Char) : Cursor.start text = .between [] text := rfl

theorem Cursor.past_between (before rest : List Char) (c : Char) :
    (Cursor.between before (c :: rest)).past c rest = .between (before ++ [c]) rest := by
  simp [between, past]

namespace Pattern

/-- Pieces in a row, none of them empty. -/
inductive Repeated (takes : List Char → List Char → List Char → Prop) : List Char → List Char → List Char → Prop where
  | none {before rest : List Char} : Repeated takes before [] rest
  | more {before first others rest : List Char} (taken : takes before first (others ++ rest)) (moves : first ≠ [])
      (again : Repeated takes (before ++ first) others rest) : Repeated takes before (first ++ others) rest

/-- The pattern takes the piece out of the text `before ++ piece ++ rest`. -/
def Takes : Pattern → (before piece rest : List Char) → Prop
  | .empty, _, piece, _ => piece = []
  | .one admits, _, piece, _ => ∃ c, piece = [c] ∧ admits c = true
  | .lineStart, before, piece, _ => piece = [] ∧ before.getLast?.all (· == '\n') = true
  | .lineEnd, _, piece, rest => piece = [] ∧ rest.head?.all (· == '\n') = true
  | .textEnd, _, piece, rest => piece = [] ∧ rest = []
  | .seq first second, before, piece, rest =>
    ∃ left right, piece = left ++ right ∧ first.Takes before left (right ++ rest) ∧
      second.Takes (before ++ left) right rest
  | .either first second, before, piece, rest => first.Takes before piece rest ∨ second.Takes before piece rest
  | .many _ body, before, piece, rest => Repeated body.Takes before piece rest

/-! A walk finds what can be reached by steps forward. It may skip every place seen before, since all that can be
reached from there is found already; only of the places it has come by itself is that not true yet, and those are
behind it. -/

section Walks

def Within (text : List Char) (cursor : Cursor) : Prop :=
  ∃ before rest, before ++ rest = text ∧ cursor = .between before rest

theorem Within.offset_add_length {text : List Char} {cursor : Cursor} (within : Within text cursor) :
    cursor.offset + cursor.rest.length = text.length := by
  obtain ⟨before, rest, rfl, rfl⟩ := within
  simp [Cursor.between]

theorem Within.ext {text : List Char} {cursor other : Cursor} (within : Within text cursor)
    (within' : Within text other) (same : cursor.offset = other.offset) : cursor = other := by
  obtain ⟨before, rest, whole, rfl⟩ := within
  obtain ⟨before', rest', rfl, rfl⟩ := within'
  obtain ⟨rfl, rfl⟩ := List.append_inj whole same
  rfl

def Forward (step : Cursor → List Cursor) (cursor next : Cursor) : Prop :=
  next ∈ step cursor ∧ cursor.offset < next.offset

abbrev Reach (step : Cursor → List Cursor) : Cursor → Cursor → Prop := Relation.ReflTransGen (Forward step)

/-- The steps forward from a place. -/
def onward (step : Cursor → List Cursor) (cursor : Cursor) : List Cursor :=
  (step cursor).filter fun next => cursor.offset < next.offset

def ReachFrom (step : Cursor → List Cursor) (starts : List Cursor) (cursor : Cursor) : Prop :=
  ∃ start ∈ starts, Reach step start cursor

/-- What exploring some places adds to what was found and seen. -/
structure Explored (step : Cursor → List Cursor) (starts : List Cursor) (before after : List Cursor × Places) :
    Prop where
  found : ∀ cursor ∈ before.1, cursor ∈ after.1
  sound : ∀ cursor ∈ after.1, cursor ∈ before.1 ∨ ReachFrom step starts cursor
  seen : ∀ place ∈ after.2, place ∈ before.2 ∨ ∃ cursor, ReachFrom step starts cursor ∧ cursor.offset = place
  complete : ∀ cursor, ReachFrom step starts cursor → cursor ∈ after.1

/-- From a place on, all that can be reached from what was seen is found. -/
def Settled (text : List Char) (step : Cursor → List Cursor) (least : Nat) (state : List Cursor × Places) : Prop :=
  ∀ cursor, Within text cursor → least ≤ cursor.offset → cursor.offset ∈ state.2 →
    ∀ next, Reach step cursor next → next ∈ state.1

variable {text : List Char} {step : Cursor → List Cursor} {starts others : List Cursor} {cursor next : Cursor}
  {before state after : List Cursor × Places} {least bound : Nat}

theorem reachFrom_singleton : ReachFrom step [cursor] next ↔ Reach step cursor next := by
  simp [ReachFrom]

theorem reachFrom_append :
    ReachFrom step (starts ++ others) next ↔ ReachFrom step starts next ∨ ReachFrom step others next := by
  simp [ReachFrom, or_and_right, exists_or]

theorem reach_iff : Reach step cursor next ↔
    next = cursor ∨ ReachFrom step (onward step cursor) next := by
  refine Relation.ReflTransGen.cases_head_iff.trans (or_congr eq_comm ?_)
  simp [ReachFrom, onward, Forward]

theorem Explored.trans (first : Explored step starts before state) (second : Explored step others state after) :
    Explored step (starts ++ others) before after where
  found cursor member := second.found cursor (first.found cursor member)
  sound cursor member := by
    rw [reachFrom_append, ← or_assoc]
    exact (second.sound cursor member).imp_left (first.sound cursor)
  seen place member := by
    simp only [reachFrom_append, or_and_right, exists_or]
    rw [← or_assoc]
    exact (second.seen place member).imp_left (first.seen place)
  complete cursor reach := by
    obtain reach | reach := reachFrom_append.mp reach
    · exact second.found cursor (first.complete cursor reach)
    · exact second.complete cursor reach

/-- The place itself is marked before the places after it are explored, and listed before them or after them. -/
theorem Explored.enter {found held : List Cursor} {seen : Places}
    (inner : Explored step (onward step cursor) (held, seen.insert cursor.offset) after)
    (kept : ∀ other ∈ found, other ∈ held) (added : ∀ other ∈ held, other = cursor ∨ other ∈ found) {last : List Cursor}
    (listed : ∀ other, other ∈ last ↔ other = cursor ∨ other ∈ after.1) :
    Explored step [cursor] (found, seen) (last, after.2) where
  found other member := (listed other).mpr (.inr (inner.found other (kept other member)))
  sound other member := by
    rw [reachFrom_singleton, reach_iff]
    obtain same | inside := (listed other).mp member
    · exact .inr (.inl same)
    · obtain before | reach := inner.sound other inside
      · obtain same | before := added other before
        · exact .inr (.inl same)
        · exact .inl before
      · exact .inr (.inr reach)
  seen place member := by
    simp only [reachFrom_singleton, reach_iff]
    obtain marked | ⟨other, reach, same⟩ := inner.seen place member
    · obtain same | before := Std.HashSet.mem_insert.mp marked
      · exact .inr ⟨cursor, .inl rfl, beq_iff_eq.mp same⟩
      · exact .inl before
    · exact .inr ⟨other, .inr reach, same⟩
  complete other reach := by
    rw [reachFrom_singleton, reach_iff] at reach
    exact (listed other).mpr (reach.imp_right (inner.complete other))

theorem Settled.later (settled : Settled text step least state) {later : Nat} (ahead : least ≤ later) :
    Settled text step later state :=
  fun cursor within least isSeen => settled cursor within (Nat.le_trans ahead least) isSeen

theorem Settled.visited (settled : Settled text step least state) (within : Within text cursor)
    (ahead : least ≤ cursor.offset) (visited : cursor.offset ∈ state.2) : Explored step [cursor] state state where
  found _ member := member
  sound _ member := .inl member
  seen _ member := .inl member
  complete next reach := settled cursor within ahead visited next (reachFrom_singleton.mp reach)

variable (closed : ∀ cursor, Within text cursor → ∀ next ∈ step cursor, Within text next)

include closed

theorem within_of_reach (within : Within text cursor) (reach : Reach step cursor next) : Within text next := by
  induction reach with
  | refl => exact within
  | tail _ forward ih => exact closed _ ih _ forward.1

theorem Settled.explored (settled : Settled text step least state) (within : ∀ start ∈ starts, Within text start)
    (explored : Explored step starts state after) : Settled text step least after := by
  intro cursor here ahead isSeen next reach
  obtain before | ⟨other, ⟨start, member, along⟩, same⟩ := explored.seen _ isSeen
  · exact explored.found _ (settled cursor here ahead before next reach)
  · obtain rfl := (within_of_reach closed (within start member) along).ext here same
    exact explored.complete next ⟨start, member, along.trans reach⟩

theorem explored_foldl {visit : List Cursor × Places → Cursor → List Cursor × Places}
    (visits : ∀ start ∈ starts, ∀ state, Settled text step least state →
      Explored step [start] state (visit state start))
    (within : ∀ start ∈ starts, Within text start) (settled : Settled text step least state) :
    Explored step starts state (starts.foldl visit state) := by
  induction starts generalizing state with
  | nil =>
    exact ⟨fun _ member => member, fun _ member => .inl member, fun _ member => .inl member,
      fun _ ⟨_, impossible, _⟩ => by cases impossible⟩
  | cons start others ih =>
    have first := visits start (List.mem_cons_self ..) state settled
    have between := settled.explored closed (fun other member =>
      List.mem_singleton.mp member ▸ within start (List.mem_cons_self ..)) first
    have rest := ih (fun other member => visits other (List.mem_cons_of_mem _ member))
      (fun other member => within other (List.mem_cons_of_mem _ member)) between
    exact first.trans rest

theorem explored_walk (greedy : Bool) (within : Within text cursor) (room : cursor.rest.length < bound)
    (settled : Settled text step cursor.offset state) :
    Explored step [cursor] state (walk greedy step bound state cursor) := by
  induction bound generalizing cursor state with
  | zero => cases room
  | succ bound ih =>
    obtain ⟨found, seen⟩ := state
    have inner (held : List Cursor) (kept : ∀ other ∈ found, other ∈ held) :
        Explored step (onward step cursor) (held, seen.insert cursor.offset)
          ((onward step cursor).foldl (walk greedy step bound) (held, seen.insert cursor.offset)) := by
      have inside (next : Cursor) (member : next ∈ onward step cursor) :
          Within text next ∧ cursor.offset < next.offset := by
        obtain ⟨stepped, ahead⟩ := List.mem_filter.mp member
        exact ⟨closed cursor within next stepped, of_decide_eq_true ahead⟩
      have marked : Settled text step (cursor.offset + 1) (held, seen.insert cursor.offset) := by
        intro other here ahead isMarked next reach
        obtain same | before := Std.HashSet.mem_insert.mp isMarked
        · have same := beq_iff_eq.mp same
          omega
        · exact kept next (settled other here (by omega) before next reach)
      refine explored_foldl closed (fun next member state settled => ?_)
        (fun next member => (inside next member).1) marked
      obtain ⟨here, ahead⟩ := inside next member
      have length := within.offset_add_length
      have length' := here.offset_add_length
      exact ih here (by omega) (settled.later ahead)
    rw [walk]
    split
    next visited => exact settled.visited within (Nat.le_refl _) visited
    next =>
      split
      · exact (inner found fun _ member => member).enter (fun _ member => member) (fun _ member => .inr member)
          fun _ => List.mem_cons
      · have inner := inner (cursor :: found) fun _ member => List.mem_cons_of_mem _ member
        refine inner.enter (fun _ member => List.mem_cons_of_mem _ member)
          (fun _ member => List.mem_cons.mp member) fun other => ?_
        refine ⟨.inr, fun member => member.elim (fun same => ?_) id⟩
        exact same ▸ inner.found cursor (List.mem_cons_self ..)

theorem mem_sweep (greedy : Bool) (within : ∀ start ∈ starts, Within text start) :
    next ∈ sweep greedy step starts ↔ ReachFrom step starts next := by
  have fresh : Settled text step 0 ([], ∅) := fun _ _ _ isSeen => (Std.HashSet.not_mem_empty isSeen).elim
  have explored : Explored step starts ([], ∅) (starts.foldl (walkFrom greedy step) ([], ∅)) := by
    refine explored_foldl closed (fun start member state settled => ?_) within fresh
    unfold walkFrom
    split
    next visited => exact settled.visited (within start member) (Nat.zero_le _) visited
    next => exact explored_walk closed greedy (within start member) (Nat.lt_succ_self _) (settled.later (Nat.zero_le _))
  rw [sweep, List.mem_reverse]
  refine ⟨fun member => ?_, explored.complete next⟩
  exact (explored.sound next member).resolve_left List.not_mem_nil

end Walks

/-- The pattern takes the piece between the two places. -/
def Leads (pattern : Pattern) (text : List Char) (cursor next : Cursor) : Prop :=
  ∃ before piece rest, before ++ (piece ++ rest) = text ∧ cursor = .between before (piece ++ rest) ∧
    pattern.Takes before piece rest ∧ next = .between (before ++ piece) rest

section

variable {text before tail : List Char} {cursor next : Cursor} {first second body : Pattern}

theorem leads_between {pattern : Pattern} : pattern.Leads (before ++ tail) (.between before tail) next ↔
    ∃ piece rest, tail = piece ++ rest ∧ pattern.Takes before piece rest ∧ next = .between (before ++ piece) rest := by
  constructor
  · rintro ⟨before', piece, rest, whole, same, takes, rfl⟩
    obtain ⟨rfl, rfl⟩ := List.append_inj whole (congrArg Cursor.offset same).symm
    exact ⟨piece, rest, rfl, takes, rfl⟩
  · rintro ⟨piece, rest, rfl, takes, rfl⟩
    exact ⟨before, piece, rest, rfl, rfl, takes, rfl⟩

theorem Leads.within {pattern : Pattern} (leads : pattern.Leads text cursor next) : Within text next := by
  obtain ⟨before, piece, rest, rfl, -, -, rfl⟩ := leads
  exact ⟨before ++ piece, rest, List.append_assoc .., rfl⟩

theorem leads_one {admits : Char → Bool} (within : Within text cursor) : (one admits).Leads text cursor next ↔
    ∃ c rest, cursor.rest = c :: rest ∧ admits c = true ∧ next = cursor.past c rest := by
  obtain ⟨before, tail, rfl, rfl⟩ := within
  rw [leads_between]
  constructor
  · rintro ⟨_, rest, rfl, ⟨c, rfl, admitted⟩, rfl⟩
    exact ⟨c, rest, rfl, admitted, (Cursor.past_between before rest c).symm⟩
  · rintro ⟨c, rest, same, admitted, rfl⟩
    obtain rfl : tail = c :: rest := same
    exact ⟨[c], rest, rfl, ⟨c, rfl, admitted⟩, Cursor.past_between before rest c⟩

/-- A pattern that takes nothing, and only looks at where it is. -/
theorem leads_looking {pattern : Pattern} {look : Cursor → Bool}
    (looks : ∀ before piece rest, pattern.Takes before piece rest ↔ piece = [] ∧ look (.between before rest) = true)
    (within : Within text cursor) : pattern.Leads text cursor next ↔ look cursor = true ∧ cursor = next := by
  obtain ⟨before, tail, rfl, rfl⟩ := within
  rw [leads_between]
  constructor
  · rintro ⟨piece, rest, rfl, takes, rfl⟩
    obtain ⟨rfl, seen⟩ := (looks before piece rest).mp takes
    rw [List.append_nil]
    exact ⟨seen, rfl⟩
  · rintro ⟨seen, rfl⟩
    refine ⟨[], tail, rfl, (looks before [] tail).mpr ⟨rfl, seen⟩, ?_⟩
    rw [List.append_nil]

theorem mem_filter_looking {pattern : Pattern} {cursors : List Cursor} (look : Cursor → Bool)
    (looks : ∀ before piece rest, pattern.Takes before piece rest ↔ piece = [] ∧ look (.between before rest) = true)
    (within : ∀ cursor ∈ cursors, Within text cursor) :
    next ∈ cursors.filter look ↔ ∃ cursor ∈ cursors, pattern.Leads text cursor next := by
  rw [List.mem_filter]
  constructor
  · rintro ⟨member, seen⟩
    exact ⟨next, member, (leads_looking looks (within next member)).mpr ⟨seen, rfl⟩⟩
  · rintro ⟨cursor, member, leads⟩
    obtain ⟨seen, rfl⟩ := (leads_looking looks (within cursor member)).mp leads
    exact ⟨member, seen⟩

theorem leads_seq (within : Within text cursor) : (first.seq second).Leads text cursor next ↔
    ∃ middle, first.Leads text cursor middle ∧ second.Leads text middle next := by
  obtain ⟨before, tail, rfl, rfl⟩ := within
  simp only [leads_between]
  constructor
  · rintro ⟨_, rest, rfl, ⟨left, right, rfl, takes, takes'⟩, rfl⟩
    refine ⟨_, ⟨left, right ++ rest, List.append_assoc .., takes, rfl⟩, before ++ left, right, rest, ?_, rfl,
      takes', ?_⟩
    · simp only [List.append_assoc]
    · rw [List.append_assoc]
  · rintro ⟨_, ⟨left, others, rfl, takes, rfl⟩, leads⟩
    rw [← List.append_assoc, leads_between] at leads
    obtain ⟨right, rest, rfl, takes', rfl⟩ := leads
    exact ⟨left ++ right, rest, (List.append_assoc ..).symm, ⟨left, right, rfl, takes, takes'⟩,
      by rw [List.append_assoc]⟩

theorem leads_either : (first.either second).Leads text cursor next ↔
    first.Leads text cursor next ∨ second.Leads text cursor next := by
  simp only [Leads, Takes, or_and_right, and_or_left, exists_or]

section

variable {greedy : Bool} (steps : ∀ cursor, Within text cursor →
  ∀ next, next ∈ body.advance [cursor] ↔ body.Leads text cursor next)

include steps

theorem reach_of_repeated {piece rest : List Char} (repeated : Repeated body.Takes before piece rest)
    (whole : before ++ (piece ++ rest) = text) :
    Reach (fun cursor => body.advance [cursor]) (.between before (piece ++ rest))
      (.between (before ++ piece) rest) := by
  induction repeated with
  | @none before rest => rw [List.append_nil, List.nil_append]
  | @more before first others rest taken moves again ih =>
    rw [List.append_assoc] at whole ⊢
    have moved : body.Leads text (.between before (first ++ (others ++ rest)))
        (.between (before ++ first) (others ++ rest)) :=
      ⟨before, first, others ++ rest, whole, rfl, taken, rfl⟩
    have onward := ih (by rw [List.append_assoc]; exact whole)
    rw [List.append_assoc] at onward
    refine .head ⟨(steps _ ⟨_, _, whole, rfl⟩ _).mpr moved, ?_⟩ onward
    simp [Cursor.between, List.length_pos_iff.mpr moves]

theorem leads_of_reach (reach : Reach (fun cursor => body.advance [cursor]) cursor next) (within : Within text cursor) :
    (many greedy body).Leads text cursor next := by
  induction reach using Relation.ReflTransGen.head_induction_on with
  | refl =>
    obtain ⟨before, rest, rfl, rfl⟩ := within
    exact ⟨before, [], rest, rfl, rfl, .none, by rw [List.append_nil]⟩
  | head forward _ ih =>
    have leads := (steps _ within _).mp forward.1
    have onward := ih leads.within
    obtain ⟨before, first, rest, rfl, rfl, taken, rfl⟩ := leads
    rw [← List.append_assoc, leads_between] at onward
    obtain ⟨others, rest, rfl, again, rfl⟩ := onward
    have moves : first ≠ [] := by
      rintro rfl
      have ahead := forward.2
      simp [Cursor.between] at ahead
    refine ⟨before, first ++ others, rest, ?_, ?_, .more taken moves again, ?_⟩ <;> rw [List.append_assoc]

/-- The pieces of a repetition are the steps forward of its body. -/
theorem leads_many (within : Within text cursor) :
    (many greedy body).Leads text cursor next ↔ Reach (fun cursor => body.advance [cursor]) cursor next := by
  refine ⟨?_, fun reach => leads_of_reach steps reach within⟩
  rintro ⟨before, piece, rest, whole, rfl, repeated, rfl⟩
  exact reach_of_repeated steps repeated whole

end

/-- Where a pattern is taken to is where the pieces it takes end. -/
theorem mem_advance (pattern : Pattern) {cursors : List Cursor} (within : ∀ cursor ∈ cursors, Within text cursor)
    (next : Cursor) : next ∈ pattern.advance cursors ↔ ∃ cursor ∈ cursors, pattern.Leads text cursor next := by
  induction pattern generalizing cursors next with
  | empty =>
    have all : cursors.filter (fun _ => true) = cursors := List.filter_eq_self.mpr fun _ _ => rfl
    rw [advance, ← mem_filter_looking (fun _ => true) (fun _ _ _ => (and_iff_left rfl).symm) within, all]
  | one admits =>
    simp only [advance, List.mem_filterMap]
    refine exists_congr fun cursor => and_congr_right fun member => ?_
    rw [leads_one (within cursor member)]
    cases cursor.rest with
    | nil => simp
    | cons c rest =>
      simp only [Option.ite_none_right_eq_some, Option.some.injEq, List.cons.injEq]
      constructor
      · rintro ⟨admitted, rfl⟩
        exact ⟨c, rest, ⟨rfl, rfl⟩, admitted, rfl⟩
      · rintro ⟨_, _, ⟨rfl, rfl⟩, admitted, rfl⟩
        exact ⟨admitted, rfl⟩
  | lineStart => exact mem_filter_looking _ (fun _ _ _ => Iff.rfl) within
  | lineEnd => exact mem_filter_looking _ (fun _ _ _ => Iff.rfl) within
  | textEnd => exact mem_filter_looking _ (fun _ _ _ => and_congr_right fun _ => List.isEmpty_iff.symm) within
  | seq first second ih ih' =>
    have middle (cursor : Cursor) (member : cursor ∈ first.advance cursors) : Within text cursor := by
      obtain ⟨_, _, leads⟩ := (ih within cursor).mp member
      exact leads.within
    simp only [advance, ih' middle, ih within]
    constructor
    · rintro ⟨between, ⟨cursor, member, leads⟩, leads'⟩
      exact ⟨cursor, member, (leads_seq (within cursor member)).mpr ⟨between, leads, leads'⟩⟩
    · rintro ⟨cursor, member, leads⟩
      obtain ⟨between, leads, leads'⟩ := (leads_seq (within cursor member)).mp leads
      exact ⟨between, ⟨cursor, member, leads⟩, leads'⟩
  | either first second ih ih' =>
    have alone (cursor : Cursor) (member : cursor ∈ cursors) : ∀ other ∈ [cursor], Within text other := by
      simpa using within cursor member
    simp only [advance, List.mem_flatMap, List.mem_append, leads_either]
    refine exists_congr fun cursor => and_congr_right fun member => ?_
    rw [ih (alone cursor member), ih' (alone cursor member)]
    simp
  | many greedy body ih =>
    have steps (cursor : Cursor) (here : Within text cursor) (next : Cursor) :
        next ∈ body.advance [cursor] ↔ body.Leads text cursor next := by
      rw [ih (by simpa using here)]
      simp
    have closed (cursor : Cursor) (here : Within text cursor) (next : Cursor) (member : next ∈ body.advance [cursor]) :
        Within text next := ((steps cursor here next).mp member).within
    rw [advance, mem_sweep closed greedy within]
    exact exists_congr fun cursor => and_congr_right fun member => (leads_many steps (within cursor member)).symm

theorem mem_advance_between (pattern : Pattern) : next ∈ pattern.advance [.between before tail] ↔
    ∃ piece rest, tail = piece ++ rest ∧ pattern.Takes before piece rest ∧ next = .between (before ++ piece) rest := by
  have here : ∀ cursor ∈ [Cursor.between before tail], Within (before ++ tail) cursor := by
    simpa using ⟨before, tail, rfl, rfl⟩
  rw [mem_advance pattern here, ← leads_between]
  simp

end

/-! Several patterns in a row. -/

/-- The patterns take the pieces, one after the other. -/
def Row : List Pattern → List Char → List (List Char) → List Char → Prop
  | [], _, [], _ => True
  | first :: patterns, before, piece :: pieces, rest =>
    first.Takes before piece (pieces.flatten ++ rest) ∧ Row patterns (before ++ piece) pieces rest
  | _, _, _, _ => False

def ends : List Char → List (List Char) → List Char → List Cursor
  | _, [], _ => []
  | before, piece :: pieces, rest =>
    .between (before ++ piece) (pieces.flatten ++ rest) :: ends (before ++ piece) pieces rest

section

variable {patterns : List Pattern} {before text rest : List Char} {pieces : List (List Char)} {cursors : List Cursor}

theorem row_nil : Row [] before pieces rest ↔ pieces = [] := by
  cases pieces <;> simp [Row]

theorem row_cons {first : Pattern} :
    Row (first :: patterns) before pieces rest ↔ ∃ piece others, pieces = piece :: others ∧
    first.Takes before piece (others.flatten ++ rest) ∧ Row patterns (before ++ piece) others rest := by
  cases pieces with
  | nil => exact iff_of_false id fun ⟨_, _, impossible, _⟩ => by cases impossible
  | cons piece others =>
    constructor
    · rintro ⟨takes, row⟩
      exact ⟨piece, others, rfl, takes, row⟩
    · rintro ⟨_, _, same, takes, row⟩
      cases same
      exact ⟨takes, row⟩

theorem row_of_split (found : split patterns (.between before text) = some cursors) :
    ∃ pieces rest, text = pieces.flatten ++ rest ∧ Row patterns before pieces rest ∧
      cursors = ends before pieces rest := by
  induction patterns generalizing before text cursors with
  | nil =>
    cases found
    exact ⟨[], text, rfl, trivial, rfl⟩
  | cons first patterns ih =>
    obtain ⟨next, member, onward⟩ := List.exists_of_findSome?_eq_some found
    obtain ⟨piece, others, rfl, takes, rfl⟩ := (mem_advance_between first).mp member
    obtain ⟨cursors, later, rfl⟩ := Option.map_eq_some_iff.mp onward
    obtain ⟨pieces, rest, rfl, row, rfl⟩ := ih later
    exact ⟨piece :: pieces, rest, by simp, ⟨takes, row⟩, rfl⟩

theorem split_of_row (row : Row patterns before pieces rest) :
    ∃ cursors, split patterns (.between before (pieces.flatten ++ rest)) = some cursors := by
  induction patterns generalizing before pieces with
  | nil => exact ⟨[], rfl⟩
  | cons first patterns ih =>
    cases pieces with
    | nil => cases row
    | cons piece pieces =>
      obtain ⟨takes, row⟩ := row
      obtain ⟨cursors, found⟩ := ih row
      rw [← Option.isSome_iff_exists, split, List.isSome_findSome?]
      refine List.any_eq_true.mpr ⟨.between (before ++ piece) (pieces.flatten ++ rest), ?_, by rw [found]; rfl⟩
      exact (mem_advance_between first).mpr ⟨piece, _, by simp, takes, rfl⟩

/-- A row at the head of a text is found if there is no other. -/
theorem search_eq_row (row : Row patterns [] pieces rest)
    (only : ∀ pieces' rest', pieces'.flatten ++ rest' = pieces.flatten ++ rest → Row patterns [] pieces' rest' →
      pieces' = pieces) :
    search patterns (pieces.flatten ++ rest) = some (.start (pieces.flatten ++ rest), ends [] pieces rest) := by
  obtain ⟨cursors, found⟩ := split_of_row row
  obtain ⟨pieces', rest', same, row', rfl⟩ := row_of_split found
  obtain rfl := only pieces' rest' same.symm row'
  obtain rfl := List.append_cancel_left same
  have found : split patterns ⟨0, true, pieces'.flatten ++ rest⟩ = some (ends [] pieces' rest) := found
  unfold search searchFrom
  simp only [found]
  rfl

end

/-- A piece at the head of a text is the preferred match if there is no other. -/
theorem leading_eq_piece {pattern : Pattern} {piece rest : List Char} (takes : pattern.Takes [] piece rest)
    (only : ∀ piece' rest', piece' ++ rest' = piece ++ rest → pattern.Takes [] piece' rest' → piece' = piece) :
    pattern.leading (piece ++ rest) = some (.between piece rest) := by
  have ends (next : Cursor) := @mem_advance_between [] (piece ++ rest) next pattern
  rw [leading, Cursor.start_eq_between, List.head?_eq_some_iff]
  obtain ⟨first, others, shown⟩ : ∃ first others, pattern.advance [.between [] (piece ++ rest)] = first :: others :=
    List.exists_cons_of_ne_nil (List.ne_nil_of_mem ((ends _).mpr ⟨piece, rest, rfl, takes, rfl⟩))
  obtain ⟨piece', rest', same, takes', rfl⟩ := (ends first).mp (shown ▸ List.mem_cons_self ..)
  obtain rfl := only piece' rest' same.symm takes'
  obtain rfl := List.append_cancel_left same
  exact ⟨others, shown⟩

/-! What the patterns made of others take. -/

section

variable {before piece rest : List Char}

theorem takes_literal (word : List Char) : (literal word).Takes before piece rest ↔ piece = word := by
  induction word generalizing before piece with
  | nil => exact Iff.rfl
  | cons c word ih =>
    simp only [literal, char, Takes, ih]
    constructor
    · rintro ⟨_, _, rfl, ⟨_, rfl, same⟩, rfl⟩
      rw [eq_of_beq same]
      rfl
    · rintro rfl
      exact ⟨[c], word, rfl, ⟨c, rfl, beq_self_eq_true c⟩, rfl⟩

theorem repeated_one (admits : Char → Bool) :
    Repeated (one admits).Takes before piece rest ↔ ∀ c ∈ piece, admits c = true := by
  constructor
  · intro repeated
    induction repeated with
    | none => simp
    | more taken _ _ ih =>
      obtain ⟨c, rfl, admitted⟩ := taken
      simpa [admitted] using ih
  · intro admitted
    induction piece generalizing before with
    | nil => exact .none
    | cons c piece ih =>
      obtain ⟨first, others⟩ := List.forall_mem_cons.mp admitted
      exact .more ⟨c, rfl, first⟩ (List.cons_ne_nil _ _) (ih others)

theorem takes_oneOrMore (admits : Char → Bool) :
    (oneOrMore (one admits)).Takes before piece rest ↔ piece ≠ [] ∧ ∀ c ∈ piece, admits c = true := by
  simp only [oneOrMore, Takes]
  constructor
  · rintro ⟨_, others, rfl, ⟨c, rfl, admitted⟩, repeated⟩
    have repeated := (repeated_one admits).mp repeated
    exact ⟨List.cons_ne_nil _ _, List.forall_mem_cons.mpr ⟨admitted, repeated⟩⟩
  · rintro ⟨some, admitted⟩
    obtain ⟨c, others, rfl⟩ := List.exists_cons_of_ne_nil some
    obtain ⟨first, others'⟩ := List.forall_mem_cons.mp admitted
    exact ⟨[c], others, rfl, ⟨c, rfl, first⟩, (repeated_one admits).mpr others'⟩

theorem takes_restOfLine : restOfLine.Takes before piece rest ↔ '\n' ∉ piece := by
  refine (repeated_one _).trans ?_
  simp only [bne_iff_ne]
  exact List.forall_mem_ne'

end

end Pattern

end Testbench
