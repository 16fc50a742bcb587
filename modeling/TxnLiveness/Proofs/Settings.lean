import Mathlib.Data.List.DropRight
import Mathlib.Data.Nat.Digits.Defs
import TxnLiveness.Settings
/-!
# Which values of the environment are taken

A variable sets its field if and only if what is left of it between blanks is a numeral of a
positive machine integer. Any other value leaves the default, and no variable sets the field of
another one.
-/

namespace TxnLiveness

namespace Text

variable {l body before after digits : List Char} {c : Char} {m n bound : Nat}

/-! ## Blanks around a text -/

/-- What stands between the blanks at both ends of `l`: it neither starts nor ends with a blank. -/
def Between (l body : List Char) : Prop :=
  ∃ before after, l = before ++ body ++ after ∧ (∀ c ∈ before ++ after, isBlank c = true) ∧
    (∀ c, body.head? = some c → isBlank c = false) ∧
    ∀ c, body.getLast? = some c → isBlank c = false

theorem dropWhile_blank_append (h : ∀ c ∈ before, isBlank c = true)
    (hb : ∀ c, body.head? = some c → isBlank c = false) :
    (before ++ body).dropWhile isBlank = body := by
  rw [List.dropWhile_append_of_pos h]
  cases body with
  | nil => rfl
  | cons c body => exact List.dropWhile_cons_of_neg (by simp [hb c rfl])

theorem trim_eq_of_between (h : Between l body) : trim l = body := by
  obtain ⟨before, after, rfl, blank, first, last⟩ := h
  have blankAfter : ∀ c ∈ after.reverse, isBlank c = true := fun c hc => blank c (by simp_all)
  unfold trim
  cases body with
  | nil =>
    have nothing : (before ++ [] ++ after).dropWhile isBlank = [] := by
      rw [List.append_nil]
      exact List.dropWhile_eq_nil_iff.2 blank
    rw [nothing]
    rfl
  | cons c body =>
    have blankBefore : ∀ c ∈ before, isBlank c = true := fun c hc => blank c (by simp [hc])
    rw [List.append_assoc, dropWhile_blank_append blankBefore (by simpa using first),
      List.reverse_append, dropWhile_blank_append blankAfter, List.reverse_reverse]
    rwa [List.head?_reverse]

theorem trim_eq_rdropWhile (l : List Char) :
    trim l = (l.dropWhile isBlank).rdropWhile isBlank := rfl

theorem between_trim (l : List Char) : Between l (trim l) := by
  rw [trim_eq_rdropWhile]
  refine ⟨l.takeWhile isBlank, (l.dropWhile isBlank).rtakeWhile isBlank, ?_, fun c hc => ?_,
    fun c hc => ?_, fun c hc => ?_⟩
  · rw [List.append_assoc, List.rdropWhile_append_rtakeWhile, List.takeWhile_append_dropWhile]
  · obtain hc | hc := List.mem_append.1 hc
    · exact List.mem_takeWhile_imp hc
    · exact List.mem_rtakeWhile_imp hc
  · have front : [c] <+: l.dropWhile isBlank :=
      (List.singleton_prefix_iff_head?_eq_some.2 hc).trans (List.rdropWhile_prefix ..)
    have head := List.head?_dropWhile_not isBlank l
    rwa [List.singleton_prefix_iff_head?_eq_some.1 front] at head
  · have hne : (l.dropWhile isBlank).rdropWhile isBlank ≠ [] := fun he => by simp [he] at hc
    have last := List.rdropWhile_last_not isBlank (l.dropWhile isBlank) hne
    rw [List.getLast?_eq_some_getLast hne] at hc
    cases hc
    simpa using last

/-! ## Numerals -/

/-- The value of digits in decimal, the last of which counts ones. -/
def decimal (digits : List Char) : Nat :=
  Nat.ofDigits 10 (digits.map fun c => c.toNat - '0'.toNat).reverse

/-- The numerals of `n`: one or more digits of that value, with or without a plus sign. -/
def Numeral (l : List Char) (n : Nat) : Prop :=
  ∃ digits, (l = digits ∨ l = '+' :: digits) ∧ digits ≠ [] ∧ (∀ c ∈ digits, c.isDigit = true) ∧
    n = decimal digits

@[simp] theorem decimal_nil : decimal [] = 0 := rfl

theorem decimal_cons (c : Char) (l : List Char) :
    decimal (c :: l) = (c.toNat - '0'.toNat) * 10 ^ l.length + decimal l := by
  simp only [decimal, List.map_cons, List.reverse_cons, Nat.ofDigits_append, List.length_reverse,
    List.length_map, Nat.ofDigits_singleton]
  rw [Nat.add_comm, Nat.mul_comm]

theorem digitsFrom?_eq_some_iff :
    digitsFrom? m l = some n ↔
      (∀ c ∈ l, c.isDigit = true) ∧ n = m * 10 ^ l.length + decimal l := by
  induction l generalizing m with
  | nil =>
    simp only [digitsFrom?, Option.some.injEq, List.not_mem_nil, false_implies, implies_true,
      true_and, List.length_nil, Nat.pow_zero, Nat.mul_one, decimal_nil, Nat.add_zero]
    exact eq_comm
  | cons c l ih =>
    rw [digitsFrom?, digit?]
    split
    · rename_i digit
      rw [Option.bind_some, ih, decimal_cons, List.length_cons]
      have value : (10 * m + (c.toNat - '0'.toNat)) * 10 ^ l.length + decimal l =
          m * 10 ^ (l.length + 1) + ((c.toNat - '0'.toNat) * 10 ^ l.length + decimal l) := by
        ring
      rw [value]
      simp [digit]
    · rename_i other
      simp [other]

theorem digits?_eq_some_iff :
    digits? l = some n ↔ l ≠ [] ∧ (∀ c ∈ l, c.isDigit = true) ∧ n = decimal l := by
  cases l with
  | nil => simp [digits?]
  | cons c l => simp [digits?, digitsFrom?_eq_some_iff]

/-- Exactly the numerals of what is below the bound are read. -/
theorem unsigned?_eq_some_iff : unsigned? bound l = some n ↔ Numeral l n ∧ n < bound := by
  unfold unsigned?
  simp only [Option.filter_eq_some_iff, digits?_eq_some_iff, decide_eq_true_eq]
  refine and_congr_left fun _ => ?_
  split
  · rename_i l
    constructor
    · intro h
      exact ⟨l, .inr rfl, h⟩
    · rintro ⟨digits, rfl | h, hd⟩
      · exact absurd (hd.2.1 '+' List.mem_cons_self) (by decide)
      · cases h
        exact hd
  · rename_i unsigned
    constructor
    · intro h
      exact ⟨_, .inl rfl, h⟩
    · rintro ⟨digits, rfl | h, hd⟩
      · exact hd
      · exact absurd h (unsigned digits)

end Text

namespace Settings

open Text (Between Numeral wordBound)

/-- Whether the value of a variable sets its field to `n`. A variable that is not set has none. -/
def Sets (value : Option String) (n : Nat) : Prop :=
  ∃ raw body, value = some raw ∧ Between raw.toList body ∧ Numeral body n ∧ 1 ≤ n ∧ n ≤ 2 ^ 64 - 1

theorem positive?_eq_some_iff {value : Option String} {n : Nat} :
    value.bind positive? = some n ↔ Sets value n := by
  cases value with
  | none => simp [Sets]
  | some raw =>
    simp only [Option.bind_some, positive?, Option.filter_eq_some_iff, Text.unsigned?_eq_some_iff,
      decide_eq_true_eq, Sets, Option.some.injEq, wordBound]
    constructor
    · rintro ⟨⟨numeral, bounded⟩, positive⟩
      exact ⟨raw, _, rfl, Text.between_trim _, numeral, positive, by omega⟩
    · rintro ⟨_, body, rfl, between, numeral, positive, bounded⟩
      rw [Text.trim_eq_of_between between]
      exact ⟨⟨numeral, by omega⟩, positive⟩

example :
    ["\u00a0+0050\u2003", "18446744073709551615", "18446744073709551616", "0", "+", "-1", "4 2",
      "٤", ""].map positive? =
    [some 50, some 18446744073709551615, none, none, none, none, none, none, none] := by decide

/-- A field follows its variable: it counts what the variable is set to in some unit, and is the
default if the variable sets nothing. -/
structure Follows (value : Option String) (unit default field : Nat) : Prop where
  set : ∀ n, Sets value n → field = n * unit
  unset : (∀ n, ¬ Sets value n) → field = default

theorem follows_elim (value : Option String) (unit default : Nat) :
    Follows value unit default ((value.bind positive?).elim default (· * unit)) := by
  cases h : value.bind positive? with
  | none =>
    refine ⟨fun n hn => ?_, fun _ => rfl⟩
    rw [positive?_eq_some_iff.2 hn] at h
    cases h
  | some m =>
    refine ⟨fun n hn => ?_, fun none => absurd (positive?_eq_some_iff.1 h) (none m)⟩
    rw [positive?_eq_some_iff.2 hn] at h
    cases h
    rfl

/-- Every field follows its own variable, in milliseconds or as a number, and no other one. -/
theorem ofEnv_follows (env : String → Option String) :
    Follows (env tickVar) 1_000_000 200_000_000 (ofEnv env).tick ∧
      Follows (env timeoutVar) 1_000_000 2_000_000_000 (ofEnv env).remoteTimeout ∧
      Follows (env fanoutVar) 1 16 (ofEnv env).fanout ∧
      ∀ other : String → Option String,
        (other tickVar = env tickVar → (ofEnv other).tick = (ofEnv env).tick) ∧
          (other timeoutVar = env timeoutVar →
            (ofEnv other).remoteTimeout = (ofEnv env).remoteTimeout) ∧
          (other fanoutVar = env fanoutVar → (ofEnv other).fanout = (ofEnv env).fanout) := by
  refine ⟨follows_elim _ _ _, follows_elim _ _ _, ?_, fun other => ⟨?_, ?_, ?_⟩⟩
  · have counted : (ofEnv env).fanout = ((env fanoutVar).bind positive?).elim 16 (· * 1) := by
      simp only [ofEnv]
      cases (env fanoutVar).bind positive? <;> simp
    rw [counted]
    exact follows_elim _ _ _
  · intro same
    simp only [ofEnv, same]
  · intro same
    simp only [ofEnv, same]
  · intro same
    simp only [ofEnv, same]

end Settings

end TxnLiveness
