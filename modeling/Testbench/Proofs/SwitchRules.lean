import Mathlib.Data.List.Induction
import Mathlib.Data.List.Infix
import Testbench.SwitchTable

/-! Switch tables and the names above a test. A table looks for the longest of its rules that cover a name; that is the
rule found first on the way up from the name, from each dotted name to the one that it is in. -/

namespace Testbench

namespace SwitchTable

/-- What can be said to a table. -/
inductive Rule where
  | exact (name : String) (expected : SwitchExpected)
  | dotted (name : String) (expected : SwitchExpected)
  | fallback (expected : SwitchExpected)

namespace Rule

def asExact? : Rule → Option (String × SwitchExpected)
  | .exact name expected => some (name, expected)
  | _ => none

def asDotted? : Rule → Option (String × SwitchExpected)
  | .dotted name expected => some (name, expected)
  | _ => none

def asFallback? : Rule → Option SwitchExpected
  | .fallback expected => some expected
  | _ => none

end Rule

def add (table : SwitchTable) : Rule → SwitchTable
  | .exact name expected => table.addExact name expected
  | .dotted name expected => table.addDotted name expected
  | .fallback expected => { table with fallback := expected }

def ofRules (rules : List Rule) : SwitchTable := rules.foldl add {}

/-- The name itself and its prefixes that end right before a dot, from the longest to the shortest. -/
def ancestors (name : String) : List String :=
  (name.toList.inits.reverse.filter fun start => start = name.toList ∨ start ++ ['.'] <+: name.toList).map String.ofList

/-- The last rule of a kind for the very name. -/
def latest? (kind : Rule → Option (String × SwitchExpected)) (rules : List Rule) (name : String) :
    Option (String × SwitchExpected) :=
  (rules.filterMap kind).reverse.find? (·.1 = name)

/-- What the rules say, found on the way up from the name. -/
def walk (rules : List Rule) (name : String) : SwitchExpected :=
  match latest? Rule.asExact? rules name with
  | some (_, expected) => expected
  | none =>
    match (ancestors name).findSome? (latest? Rule.asDotted? rules) with
    | some (_, expected) => expected
    | none => (rules.filterMap Rule.asFallback?).getLast?.getD .unspecified

theorem covers_iff (rule name : String) :
    covers rule name = true ↔ rule = name ∨ rule.toList ++ ['.'] <+: name.toList := by
  simp only [covers, Bool.and_eq_true, List.isPrefixOf_iff_prefix]
  constructor
  · rintro ⟨⟨rest, split⟩, boundary⟩
    rw [← split, List.drop_left] at boundary
    cases rest with
    | nil =>
      rw [List.append_nil] at split
      exact .inl (String.toList_inj.mp split)
    | cons c rest =>
      obtain rfl := beq_iff_eq.mp boundary
      exact .inr ⟨rest, by simpa using split⟩
  · rintro (rfl | ⟨rest, split⟩)
    · simp
    · rw [← split, List.append_assoc, List.drop_left]
      exact ⟨List.prefix_append .., rfl⟩

theorem mem_ancestors (rule name : String) : rule ∈ ancestors name ↔ covers rule name = true := by
  rw [covers_iff]
  simp only [ancestors, List.mem_map, List.mem_filter, List.mem_reverse, List.mem_inits, decide_eq_true_eq]
  constructor
  · rintro ⟨start, ⟨-, same | dotted⟩, rfl⟩
    · exact .inl (by rw [same, String.ofList_toList])
    · exact .inr (by rwa [String.toList_ofList])
  · rintro (rfl | dotted)
    · exact ⟨rule.toList, ⟨List.prefix_rfl, .inl rfl⟩, String.ofList_toList⟩
    · exact ⟨rule.toList, ⟨(List.prefix_append ..).trans dotted, .inr dotted⟩, String.ofList_toList⟩

/-- Two dots in a row have an empty part between them, and so does a dot at the beginning. -/
example : ancestors ".é..b" = [".é..b", ".é.", ".é", ""] := by decide +kernel

theorem pairwise_inits (cs : List Char) : cs.inits.Pairwise fun shorter longer => ∃ c rest, longer = shorter ++ c :: rest := by
  induction cs with
  | nil => simp
  | cons c cs ih =>
    rw [List.inits_cons, List.pairwise_cons, List.pairwise_map]
    constructor
    · intro longer member
      obtain ⟨rest, -, rfl⟩ := List.mem_map.mp member
      exact ⟨c, rest, rfl⟩
    · exact ih.imp fun ⟨d, rest, same⟩ => ⟨d, rest, by rw [same, List.cons_append]⟩

/-- Each name on the way up is shorter than those before it. -/
theorem ancestors_shrink (name : String) :
    (ancestors name).Pairwise fun longer shorter => shorter.utf8ByteSize < longer.utf8ByteSize := by
  apply List.pairwise_map.mpr
  apply List.Pairwise.filter
  apply List.pairwise_reverse.mpr
  refine (pairwise_inits name.toList).imp ?_
  rintro shorter longer ⟨c, rest, rfl⟩
  have some : (String.ofList (c :: rest)).utf8ByteSize ≠ 0 := by
    rw [Ne, String.utf8ByteSize_eq_zero_iff, ← String.toList_inj, String.toList_ofList]
    exact List.cons_ne_nil c rest
  rw [String.ofList_append, String.utf8ByteSize_append]
  omega

private theorem findSome?_agree {α β : Type} {items : List α} {first second : α → Option β}
    (agree : ∀ item ∈ items, first item = second item) : items.findSome? first = items.findSome? second := by
  induction items with
  | nil => rfl
  | cons item items ih =>
    obtain ⟨here, rest⟩ := List.forall_mem_cons.mp agree
    rw [List.findSome?_cons, List.findSome?_cons, here, ih rest]

theorem find?_append_rule (rules : List (String × SwitchExpected)) (rule : String × SwitchExpected) (name : String) :
    (rules ++ [rule]).reverse.find? (·.1 = name) = if rule.1 = name then some rule else rules.reverse.find? (·.1 = name) := by
  rw [List.reverse_append, List.reverse_singleton, List.singleton_append, List.find?_cons]
  by_cases same : rule.1 = name <;> simp [same]

theorem mem_of_found {rules : List (String × SwitchExpected)} {names : List String} {rule : String × SwitchExpected}
    (found : names.findSome? (fun name => rules.reverse.find? (·.1 = name)) = some rule) : rule.1 ∈ names := by
  obtain ⟨name, member, isRule⟩ := List.exists_of_findSome?_eq_some found
  have same := List.find?_some isRule
  exact of_decide_eq_true same ▸ member

/-- Of a new rule and those found before, the longer is found first, and of two for one name the new one. -/
theorem findSome?_append_rule (rules : List (String × SwitchExpected)) {rule : String × SwitchExpected} {name : String}
    (covered : covers rule.1 name = true) :
    (ancestors name).findSome? (fun ancestor => (rules ++ [rule]).reverse.find? (·.1 = ancestor)) =
      longer ((ancestors name).findSome? fun ancestor => rules.reverse.find? (·.1 = ancestor)) rule := by
  obtain ⟨above, below, split⟩ := List.append_of_mem ((mem_ancestors rule.1 name).mpr covered)
  have shrink := ancestors_shrink name
  rw [split, List.pairwise_append, List.pairwise_cons] at shrink
  obtain ⟨-, ⟨smaller, -⟩, larger⟩ := shrink
  have others : ∀ ancestor ∈ above, (rules ++ [rule]).reverse.find? (·.1 = ancestor) =
      rules.reverse.find? (·.1 = ancestor) := by
    intro ancestor member
    have different : rule.1 ≠ ancestor := by
      rintro rfl
      exact Nat.lt_irrefl _ (larger _ member _ (List.mem_cons_self ..))
    rw [find?_append_rule, if_neg different]
  rw [split, List.findSome?_append, List.findSome?_append, findSome?_agree others, List.findSome?_cons, find?_append_rule,
    if_pos rfl]
  cases found : above.findSome? fun ancestor => rules.reverse.find? (·.1 = ancestor) with
  | some kept =>
    have size := larger _ (mem_of_found found) rule.1 (List.mem_cons_self ..)
    simp only [Option.some_or, longer, if_neg (Nat.not_le.mpr size)]
  | none =>
    simp only [Option.none_or]
    cases later : (rule.1 :: below).findSome? fun ancestor => rules.reverse.find? (·.1 = ancestor) with
    | none => rfl
    | some kept =>
      have size : kept.1.utf8ByteSize ≤ rule.1.utf8ByteSize := by
        obtain same | lower := List.mem_cons.mp (mem_of_found later)
        · exact Nat.le_of_eq (congrArg _ same)
        · exact Nat.le_of_lt (smaller _ lower)
      simp only [longer, if_pos size]

/-- The longest rule that covers the name, and the last of these, is the one that is found first on the way up. -/
theorem foldl_longer (rules : List (String × SwitchExpected)) (name : String) :
    (rules.filter (covers ·.1 name)).foldl longer none =
      (ancestors name).findSome? fun ancestor => rules.reverse.find? (·.1 = ancestor) := by
  induction rules using List.reverseRecOn with
  | nil => exact (List.findSome?_eq_none_iff.mpr fun _ _ => rfl).symm
  | append_singleton rules rule ih =>
    rw [List.filter_append, List.foldl_append, ih]
    by_cases covered : covers rule.1 name = true
    · have alone : [rule].filter (covers ·.1 name) = [rule] := by simp [covered]
      rw [findSome?_append_rule rules covered, alone]
      rfl
    · have others : ∀ ancestor ∈ ancestors name, (rules ++ [rule]).reverse.find? (·.1 = ancestor) =
          rules.reverse.find? (·.1 = ancestor) := by
        intro ancestor member
        have different : rule.1 ≠ ancestor := by
          rintro rfl
          exact covered ((mem_ancestors rule.1 name).mp member)
        rw [find?_append_rule, if_neg different]
      have nothing : [rule].filter (covers ·.1 name) = [] := by simp [covered]
      rw [findSome?_agree others, nothing]
      rfl

/-- A table keeps its rules apart by their kind, in the order they were added, and the last fallback. -/
theorem ofRules_eq (rules : List Rule) : ofRules rules = {
    exact := rules.filterMap Rule.asExact?
    dotted := rules.filterMap Rule.asDotted?
    fallback := (rules.filterMap Rule.asFallback?).getLast?.getD .unspecified } := by
  induction rules using List.reverseRecOn with
  | nil => rfl
  | append_singleton rules rule ih =>
    unfold ofRules at ih ⊢
    rw [List.foldl_append, ih]
    cases rule <;> simp [add, addExact, addDotted, Rule.asExact?, Rule.asDotted?, Rule.asFallback?]

/-- However a table was made, it expects of a test what is found on the way up from the test's name. -/
theorem expected_eq_walk (rules : List Rule) (name : String) : (ofRules rules).expected name = walk rules name := by
  rw [ofRules_eq]
  unfold expected walk latest?
  simp only [foldl_longer]
  rfl

end SwitchTable

end Testbench
