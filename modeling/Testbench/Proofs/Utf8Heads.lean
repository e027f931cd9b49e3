import Mathlib.Tactic.Common
import Testbench.Text.Utf8

/-! What bytes start with, beside the encoding of characters: a whole character is read off exactly the bytes that
encode it, bytes are unfinished exactly when they are the beginning of an encoded character, and bytes that are
refused stay refused whatever comes after them. -/

namespace Testbench

namespace Text.Utf8

open String (utf8EncodeChar)

theorem between_iff {low high byte : UInt8} :
    between low high byte = true ↔ low.toNat ≤ byte.toNat ∧ byte.toNat ≤ high.toNat := by
  simp [between, UInt8.le_iff_toNat_le]

theorem follows_iff {lead second : UInt8} :
    follows lead second = true ↔ 0x80 ≤ second.toNat ∧ second.toNat ≤ 0xBF ∧
      (lead.toNat = 0xE0 → 0xA0 ≤ second.toNat) ∧ (lead.toNat = 0xED → second.toNat ≤ 0x9F) ∧
      (lead.toNat = 0xF0 → 0x90 ≤ second.toNat) ∧ (lead.toNat = 0xF4 → second.toNat ≤ 0x8F) := by
  simp only [follows, ← UInt8.toNat_inj]
  repeat' split
  all_goals
    simp only [between_iff, UInt8.reduceToNat] at *
    omega

section

variable {lead : UInt8}

theorem head_one (range : lead.toNat < 0x80) (rest : List UInt8) :
    head (lead :: rest) = .char (Char.ofNat lead.toNat) rest := by
  have first : lead < 0x80 := UInt8.lt_iff_toNat_lt.2 range
  simp only [head, first, if_true]

theorem head_two (least : 0xC2 ≤ lead.toNat) (most : lead.toNat ≤ 0xDF) (rest : List UInt8) :
    head (lead :: rest) = two lead rest := by
  simp only [head, between_iff, UInt8.lt_iff_toNat_lt, UInt8.reduceToNat]
  rw [if_neg (by omega), if_pos (by omega)]

theorem head_three (least : 0xE0 ≤ lead.toNat) (most : lead.toNat ≤ 0xEF) (rest : List UInt8) :
    head (lead :: rest) = three lead rest := by
  simp only [head, between_iff, UInt8.lt_iff_toNat_lt, UInt8.reduceToNat]
  rw [if_neg (by omega), if_neg (by omega), if_pos (by omega)]

theorem head_four (least : 0xF0 ≤ lead.toNat) (most : lead.toNat ≤ 0xF4) (rest : List UInt8) :
    head (lead :: rest) = four lead rest := by
  simp only [head, between_iff, UInt8.lt_iff_toNat_lt, UInt8.reduceToNat]
  rw [if_neg (by omega), if_neg (by omega), if_neg (by omega), if_pos (by omega)]

/-- Every other byte starts no character. -/
theorem head_alone (least : 0x80 ≤ lead.toNat) (range : lead.toNat < 0xC2 ∨ 0xF4 < lead.toNat) (rest : List UInt8) :
    head (lead :: rest) = .malformed rest := by
  simp only [head, between_iff, UInt8.lt_iff_toNat_lt, UInt8.reduceToNat]
  rw [if_neg (by omega), if_neg (by omega), if_neg (by omega), if_neg (by omega)]

end

/-- The number is the value of a character. -/
def IsScalar (n : Nat) : Prop := n < 0xD800 ∨ 0xDFFF < n ∧ n < 0x110000

/-- The bytes that spell the value of a character, by their number. -/
inductive Spells : List UInt8 → Nat → Prop where
  | one {a : UInt8} {v : Nat} (most : v < 0x80) (first : a.toNat = v) : Spells [a] v
  | two {a b : UInt8} {v : Nat} (least : 0x80 ≤ v) (most : v < 0x800) (first : a.toNat = 0xC0 + v / 64)
      (second : b.toNat = 0x80 + v % 64) : Spells [a, b] v
  | three {a b c : UInt8} {v : Nat} (least : 0x800 ≤ v) (most : v < 0x10000) (scalar : IsScalar v)
      (first : a.toNat = 0xE0 + v / 4096) (second : b.toNat = 0x80 + v / 64 % 64)
      (third : c.toNat = 0x80 + v % 64) : Spells [a, b, c] v
  | four {a b c d : UInt8} {v : Nat} (least : 0x10000 ≤ v) (most : v < 0x110000)
      (first : a.toNat = 0xF0 + v / 262144) (second : b.toNat = 0x80 + v / 4096 % 64)
      (third : c.toNat = 0x80 + v / 64 % 64) (fourth : d.toNat = 0x80 + v % 64) : Spells [a, b, c, d] v

/-- The bytes are the beginning of a character, and more must follow. -/
inductive Opens : List UInt8 → Prop where
  | one {a : UInt8} (least : 0xC2 ≤ a.toNat) (most : a.toNat ≤ 0xF4) : Opens [a]
  | two {a b : UInt8} (least : 0xE0 ≤ a.toNat) (most : a.toNat ≤ 0xF4) (second : follows a b = true) : Opens [a, b]
  | three {a b c : UInt8} (least : 0xF0 ≤ a.toNat) (most : a.toNat ≤ 0xF4) (second : follows a b = true)
      (third : between 0x80 0xBF c = true) : Opens [a, b, c]

/-- The byte may follow the beginning of a character. -/
def mayFollow : List UInt8 → UInt8 → Bool
  | [lead], byte => follows lead byte
  | _, byte => between 0x80 0xBF byte

section

variable {bytes rest : List UInt8} {v : Nat} {byte : UInt8}

theorem Spells.scalar (spells : Spells bytes v) : IsScalar v := by
  unfold IsScalar
  cases spells with
  | three _ _ scalar => exact scalar
  | _ => omega

theorem Spells.unique {other : List UInt8} (spells : Spells bytes v) (also : Spells other v) : bytes = other := by
  cases spells <;> cases also <;>
    first
    | omega
    | (simp only [List.cons.injEq, ← UInt8.toNat_inj, and_true]; omega)

theorem toNat_ofNat_byte {n : Nat} (small : n < 256) : (UInt8.ofNat n).toNat = n := by
  rw [UInt8.toNat_ofNat', Nat.mod_eq_of_lt (by simpa using small)]

theorem isScalar_val (c : Char) : IsScalar c.val.toNat := c.valid

theorem val_ofNat (scalar : IsScalar v) : (Char.ofNat v).val.toNat = v := by
  rw [Char.ofNat, dif_pos (show v.isValidChar from scalar)]
  rfl

theorem spells_encode (c : Char) : Spells (utf8EncodeChar c) c.val.toNat := by
  have scalar := isScalar_val c
  unfold utf8EncodeChar
  unfold IsScalar at scalar
  dsimp only
  split
  · refine .one (by omega) ?_
    rw [toNat_ofNat_byte (by omega)]
  split
  · refine .two (by omega) (by omega) ?_ ?_ <;> rw [toNat_ofNat_byte (by omega)] <;> omega
  split
  · refine .three (by omega) (by omega) scalar ?_ ?_ ?_ <;> rw [toNat_ofNat_byte (by omega)] <;> omega
  · refine .four (by omega) (by omega) ?_ ?_ ?_ ?_ <;> rw [toNat_ofNat_byte (by omega)] <;> omega

theorem Spells.encode (spells : Spells bytes v) : utf8EncodeChar (Char.ofNat v) = bytes := by
  have also := spells_encode (Char.ofNat v)
  rw [val_ofNat spells.scalar] at also
  exact also.unique spells

/-- Bytes that spell a character are read as that character, whatever follows. -/
theorem head_spells (spells : Spells bytes v) (rest : List UInt8) : head (bytes ++ rest) = .char (Char.ofNat v) rest := by
  cases spells with
  | @one a _ most first => rw [List.singleton_append, head_one (by omega), first]
  | @two a b _ least most first second =>
    have follow : follows a b = true := follows_iff.2 (by omega)
    have value : low 5 a * 64 + low 6 b = v := by
      change a.toNat % 32 * 64 + b.toNat % 64 = v
      omega
    rw [List.cons_append, head_two (by omega) (by omega)]
    simp only [List.cons_append, List.nil_append, two, follow, if_true, value]
  | @three a b c _ least most scalar first second third =>
    unfold IsScalar at scalar
    have follow : follows a b = true := follows_iff.2 (by omega)
    have last : between 0x80 0xBF c = true := between_iff.2 (by simp only [UInt8.reduceToNat]; omega)
    have value : low 4 a * 4096 + low 6 b * 64 + low 6 c = v := by
      change a.toNat % 16 * 4096 + b.toNat % 64 * 64 + c.toNat % 64 = v
      omega
    rw [List.cons_append, head_three (by omega) (by omega)]
    simp only [List.cons_append, List.nil_append, three, follow, last, if_true, value]
  | @four a b c d _ least most first second third fourth =>
    have follow : follows a b = true := follows_iff.2 (by omega)
    have next : between 0x80 0xBF c = true := between_iff.2 (by simp only [UInt8.reduceToNat]; omega)
    have last : between 0x80 0xBF d = true := between_iff.2 (by simp only [UInt8.reduceToNat]; omega)
    have value : low 3 a * 262144 + low 6 b * 4096 + low 6 c * 64 + low 6 d = v := by
      change a.toNat % 8 * 262144 + b.toNat % 64 * 4096 + c.toNat % 64 * 64 + d.toNat % 64 = v
      omega
    rw [List.cons_append, head_four (by omega) (by omega)]
    simp only [List.cons_append, List.nil_append, four, follow, next, last, if_true, value]

theorem head_opens (opens : Opens bytes) : head bytes = .unfinished := by
  cases opens with
  | @one a least most =>
    by_cases short : a.toNat ≤ 0xDF
    · exact head_two least short []
    by_cases long : 0xF0 ≤ a.toNat
    · exact head_four long most []
    · exact head_three (by omega) (by omega) []
  | @two a b least most second =>
    by_cases long : 0xF0 ≤ a.toNat
    · rw [head_four long most, four, if_pos second]
    · rw [head_three least (by omega), three, if_pos second]
  | three least most second third => simp only [head_four least most, four, second, third, if_true]

/-- A byte that may not follow is not taken, whatever comes after it. -/
theorem head_refused (opens : Opens bytes) (refused : mayFollow bytes byte = false) (rest : List UInt8) :
    head (bytes ++ byte :: rest) = .malformed (byte :: rest) := by
  cases opens with
  | @one a least most =>
    have follow : follows a byte = false := refused
    rw [List.singleton_append]
    by_cases short : a.toNat ≤ 0xDF
    · simp only [head_two least short, two, follow, Bool.false_eq_true, if_false]
    by_cases long : 0xF0 ≤ a.toNat
    · simp only [head_four long most, four, follow, Bool.false_eq_true, if_false]
    · rw [head_three (by omega) (by omega)]
      simp only [three, follow, Bool.false_eq_true, if_false]
  | @two a b least most second =>
    have next : between 0x80 0xBF byte = false := refused
    rw [List.cons_append, List.singleton_append]
    by_cases long : 0xF0 ≤ a.toNat
    · simp only [head_four long most, four, second, next, if_true, Bool.false_eq_true, if_false]
    · rw [head_three least (by omega)]
      simp only [three, second, next, if_true, Bool.false_eq_true, if_false]
  | @three a b c least most second third =>
    have next : between 0x80 0xBF byte = false := refused
    rw [List.cons_append, List.cons_append, List.singleton_append]
    simp only [head_four least most, four, second, third, next, if_true, Bool.false_eq_true, if_false]

/-- A byte that may follow makes a longer beginning or a whole character. -/
theorem Opens.step (opens : Opens bytes) (taken : mayFollow bytes byte = true) :
    Opens (bytes ++ [byte]) ∨ ∃ v, Spells (bytes ++ [byte]) v := by
  cases opens with
  | @one a least most =>
    have follow := follows_iff.1 taken
    by_cases short : a.toNat ≤ 0xDF
    · refine .inr ⟨(a.toNat - 0xC0) * 64 + (byte.toNat - 0x80), .two ?_ ?_ ?_ ?_⟩ <;> omega
    · exact .inl (.two (by omega) most taken)
  | @two a b least most second =>
    have follow := follows_iff.1 second
    have last := between_iff.1 taken
    simp only [UInt8.reduceToNat] at last
    by_cases long : 0xF0 ≤ a.toNat
    · exact .inl (.three long most second taken)
    · refine .inr ⟨(a.toNat - 0xE0) * 4096 + (b.toNat - 0x80) * 64 + (byte.toNat - 0x80), .three ?_ ?_ ?_ ?_ ?_ ?_⟩ <;>
        try unfold IsScalar
      all_goals omega
  | @three a b c least most second third =>
    have follow := follows_iff.1 second
    have next := between_iff.1 third
    have last := between_iff.1 taken
    simp only [UInt8.reduceToNat] at next last
    refine .inr ⟨(a.toNat - 0xF0) * 262144 + (b.toNat - 0x80) * 4096 + (c.toNat - 0x80) * 64 + (byte.toNat - 0x80),
      .four ?_ ?_ ?_ ?_ ?_ ?_⟩ <;> omega

/-- Some byte may always follow. -/
theorem Opens.goes_on (opens : Opens bytes) : ∃ byte, mayFollow bytes byte = true := by
  cases opens with
  | @one a least most =>
    -- one of these two bytes is allowed after every lead byte
    by_cases high : a.toNat = 0xE0 ∨ a.toNat = 0xF0
    · exact ⟨if a.toNat = 0xE0 then 0xA0 else 0x90, follows_iff.2 (by split <;> simp only [UInt8.reduceToNat] <;> omega)⟩
    · exact ⟨0x80, follows_iff.2 (by simp only [UInt8.reduceToNat]; omega)⟩
  | two => exact ⟨0x80, rfl⟩
  | three => exact ⟨0x80, rfl⟩

theorem Opens.length_le (opens : Opens bytes) : bytes.length ≤ 3 := by
  cases opens <;> simp

theorem Opens.ne_nil (opens : Opens bytes) : bytes ≠ [] := by
  cases opens <;> simp

end

/-- What is missing to a whole character is not nothing. -/
theorem Opens.completed {bytes : List UInt8} (opens : Opens bytes) : ∃ more v, more ≠ [] ∧ Spells (bytes ++ more) v := by
  obtain ⟨byte, taken⟩ := opens.goes_on
  obtain longer | ⟨v, spells⟩ := opens.step taken
  · have bound := longer.length_le
    rw [List.length_append] at bound
    obtain ⟨more, v, -, spells⟩ := longer.completed
    exact ⟨byte :: more, v, List.cons_ne_nil byte more, by rwa [List.append_cons]⟩
  · exact ⟨[byte], v, List.cons_ne_nil byte [], spells⟩
termination_by 3 - bytes.length
decreasing_by
  simp only [List.length_append, List.length_singleton] at bound ⊢
  omega

/-- The ways bytes can start, and what is made of each. -/
inductive Seen : List UInt8 → Head → Prop where
  | done : Seen [] .done
  | char {bytes : List UInt8} {v : Nat} (spells : Spells bytes v) (rest : List UInt8) :
      Seen (bytes ++ rest) (.char (Char.ofNat v) rest)
  /-- A byte that starts no character. -/
  | alone {byte : UInt8} (least : 0x80 ≤ byte.toNat) (range : byte.toNat < 0xC2 ∨ 0xF4 < byte.toNat) (rest : List UInt8) :
      Seen (byte :: rest) (.malformed rest)
  | refused {bytes : List UInt8} {byte : UInt8} (opens : Opens bytes) (refused : mayFollow bytes byte = false)
      (rest : List UInt8) : Seen (bytes ++ byte :: rest) (.malformed (byte :: rest))
  | unfinished {bytes : List UInt8} (opens : Opens bytes) : Seen bytes .unfinished

theorem Seen.head_eq {bytes : List UInt8} {start : Head} (seen : Seen bytes start) : head bytes = start := by
  cases seen with
  | done => rfl
  | char spells rest => exact head_spells spells rest
  | alone least range rest => exact head_alone least range rest
  | refused opens refused rest => exact head_refused opens refused rest
  | unfinished opens => exact head_opens opens

theorem Opens.seen {bytes : List UInt8} (opens : Opens bytes) (rest : List UInt8) : ∃ start, Seen (bytes ++ rest) start := by
  induction rest generalizing bytes with
  | nil => exact ⟨_, by simpa using Seen.unfinished opens⟩
  | cons byte rest rest_ih =>
    cases taken : mayFollow bytes byte with
    | false => exact ⟨_, .refused opens taken rest⟩
    | true =>
      rw [List.append_cons]
      obtain longer | ⟨v, spells⟩ := opens.step taken
      · exact rest_ih longer
      · exact ⟨_, .char spells rest⟩

theorem seen (bytes : List UInt8) : Seen bytes (head bytes) := by
  suffices found : ∃ start, Seen bytes start by
    obtain ⟨start, seen⟩ := found
    rwa [seen.head_eq]
  cases bytes with
  | nil => exact ⟨_, .done⟩
  | cons byte rest =>
    by_cases ascii : byte.toNat < 0x80
    · exact ⟨_, .char (.one ascii rfl) rest⟩
    by_cases range : 0xC2 ≤ byte.toNat ∧ byte.toNat ≤ 0xF4
    · exact (Opens.one range.1 range.2).seen rest
    · exact ⟨_, .alone (by omega) (by omega) rest⟩

section

variable {bytes rest : List UInt8} {c : Char}

theorem head_encode (c : Char) (rest : List UInt8) : head (utf8EncodeChar c ++ rest) = .char c rest := by
  rw [head_spells (spells_encode c)]
  exact congrArg (Head.char · rest) c.ofNat_toNat

theorem eq_of_head_char (char : head bytes = .char c rest) : bytes = utf8EncodeChar c ++ rest := by
  generalize same : head bytes = start at char
  cases same ▸ seen bytes with
  | char spells rest =>
    obtain ⟨rfl, rfl⟩ := Head.char.inj char
    rw [spells.encode]
  | _ => nomatch char

end

end Text.Utf8

end Testbench
