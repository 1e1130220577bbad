import Mathlib.Data.List.Infix
import Mathlib.Data.List.Lex
import Mathlib.Data.Nat.Notation

/-!
# Kotlin text

`String.split`, `substringBeforeLast` and `toLongOrNull`, and the order of texts, which goes by
UTF-16 code units.  `toLongOrNull_toString` reads a `Long` back from a template.  Numerals of one
length are in the order of their numbers, whatever comes after them (`utf16_numeral_lt`).
`containsIgnoreCase` is for the labels of buttons.
-/

namespace Aegis.Lib.Kotlin

def codeUnits (c : Char) : List ℕ :=
  let n := c.toNat
  if n < 0x10000 then [n]
  else [0xd800 + (n - 0x10000) / 0x400, 0xdc00 + (n - 0x10000) % 0x400]

/-- What `compareTo` goes by. -/
def utf16 (text : String) : List ℕ := text.toList.flatMap codeUnits

/-- `texts.sorted()`. -/
def sorted (texts : List String) : List String :=
  texts.mergeSort fun first second => utf16 first ≤ utf16 second

/-- `text.substringBeforeLast(delimiter)`. -/
def substringBeforeLast (delimiter : Char) (text : String) : String :=
  if delimiter ∈ text.toList then
    String.ofList (text.toList.reverse.dropWhile (· ≠ delimiter)).tail.reverse
  else text

/-- `text.split(delimiter, limit = 2)`. -/
def splitInTwo (delimiter : Char) (text : String) : List String :=
  if delimiter ∈ text.toList then
    [String.ofList (text.toList.takeWhile (· ≠ delimiter)),
      String.ofList (text.toList.dropWhile (· ≠ delimiter)).tail]
  else [text]

/-- The zeros of the scripts that have decimal digits of one code unit. -/
def zeros : List ℕ :=
  [0x30, 0x660, 0x6f0, 0x7c0, 0x966, 0x9e6, 0xa66, 0xae6, 0xb66, 0xbe6, 0xc66, 0xce6, 0xd66, 0xde6,
    0xe50, 0xed0, 0xf20, 0x1040, 0x1090, 0x17e0, 0x1810, 0x1946, 0x19d0, 0x1a80, 0x1a90, 0x1b50,
    0x1bb0, 0x1c40, 0x1c50, 0xa620, 0xa8d0, 0xa900, 0xa9d0, 0xa9f0, 0xaa50, 0xabf0, 0xff10]

/-- `Character.digit(c, 10)`. -/
def digitOf (c : Char) : Option ℕ :=
  (zeros.find? fun least => least ≤ c.toNat && c.toNat < least + 10).map (c.toNat - ·)

def magnitude : List Char → Option ℕ
  | [] => none
  | digits => digits.foldlM (fun value c => (digitOf c).map (10 * value + ·)) 0

/-- `Long.MAX_VALUE`. -/
def longMax : ℕ := 9223372036854775807

/-- The number is a `Long`. -/
def IsLong (n : ℤ) : Prop := -longMax - 1 ≤ n ∧ n ≤ longMax

instance (n : ℤ) : Decidable (IsLong n) := inferInstanceAs (Decidable (_ ∧ _))

/-- `text.toLongOrNull()`. -/
def toLongOrNull (text : String) : Option ℤ :=
  let positive (digits : List Char) : Option ℤ :=
    (magnitude digits).bind fun n => if n ≤ longMax then some n else none
  match text.toList with
  | [] => none
  | first :: rest =>
      if first.toNat < 0x30 then
        if first = '-' then
          (magnitude rest).bind fun n => if n ≤ longMax + 1 then some (-n) else none
        else if first = '+' then positive rest
        else none
      else positive (first :: rest)

/-! ## Order -/

/-- No code unit of one character is mistaken for those of another. -/
theorem codeUnits_append_inj {c d : Char} {first second : List ℕ}
    (same : codeUnits c ++ first = codeUnits d ++ second) : c = d ∧ first = second := by
  have number : c.toNat = d.toNat ∧ first = second := by
    have validC := c.valid
    have validD := d.valid
    change c.toNat < 0xd800 ∨ 0xdfff < c.toNat ∧ c.toNat < 0x110000 at validC
    change d.toNat < 0xd800 ∨ 0xdfff < d.toNat ∧ d.toNat < 0x110000 at validD
    simp only [codeUnits] at same
    split at same <;> split at same
    · simp only [List.singleton_append, List.cons.injEq] at same
      exact same
    · simp only [List.cons_append, List.cons.injEq] at same
      omega
    · simp only [List.cons_append, List.cons.injEq] at same
      omega
    · simp only [List.cons_append, List.nil_append, List.cons.injEq] at same
      exact ⟨by omega, same.2.2⟩
  exact ⟨Char.toNat_inj.mp number.1, number.2⟩

theorem codeUnits_ne_nil (c : Char) : codeUnits c ≠ [] := by
  simp only [codeUnits]
  split <;> exact List.cons_ne_nil _ _

theorem flatMap_codeUnits_inj {first second : List Char}
    (same : first.flatMap codeUnits = second.flatMap codeUnits) : first = second := by
  induction first generalizing second with
  | nil =>
      cases second with
      | nil => rfl
      | cons d _ => exact absurd (List.append_eq_nil_iff.mp same.symm).1 (codeUnits_ne_nil d)
  | cons c rest ih =>
      cases second with
      | nil => exact absurd (List.append_eq_nil_iff.mp same).1 (codeUnits_ne_nil c)
      | cons d more =>
          obtain ⟨rfl, tails⟩ := codeUnits_append_inj same
          rw [ih tails]

theorem pairwise_sorted (texts : List String) : (sorted texts).Pairwise fun first second =>
    decide (utf16 first ≤ utf16 second) = true := by
  apply List.pairwise_mergeSort
  · intro first second third below above
    exact decide_eq_true ((of_decide_eq_true below).trans (of_decide_eq_true above))
  · intro first second
    simpa using le_total (utf16 first) (utf16 second)

/-- A listing of texts in order, whatever its own order. -/
theorem sorted_eq_of_le {texts ordered : List String} (listed : texts.Perm ordered)
    (inOrder : ordered.Pairwise fun first second =>
      decide (utf16 first ≤ utf16 second) = true) : sorted texts = ordered := by
  refine List.Perm.eq_of_pairwise (fun first second _ _ below above => ?_) (pairwise_sorted texts)
    inOrder ((List.mergeSort_perm _ _).trans listed)
  have same := (of_decide_eq_true below).antisymm (of_decide_eq_true above)
  exact String.toList_inj.mp (flatMap_codeUnits_inj same)

theorem sorted_eq {texts ordered : List String} (listed : texts.Perm ordered)
    (increasing : ordered.Pairwise fun first second => utf16 first < utf16 second) :
    sorted texts = ordered :=
  sorted_eq_of_le listed (increasing.imp fun less => decide_eq_true less.le)

/-- Sorting does not see in which order the texts are listed. -/
theorem sorted_congr {texts other : List String} (listed : texts.Perm other) :
    sorted texts = sorted other :=
  sorted_eq_of_le (listed.trans (List.mergeSort_perm _ _).symm) (pairwise_sorted other)

/-! ## Cutting -/

section Cutting

variable {delimiter : Char} {text : String} {early late : List Char}

theorem ne_delimiter (missing : delimiter ∉ early) :
    ∀ c ∈ early, (decide (c ≠ delimiter)) = true :=
  fun _ member => decide_eq_true (ne_of_mem_of_not_mem member missing)

theorem substringBeforeLast_of_split (split : text.toList = early ++ delimiter :: late)
    (last : delimiter ∉ late) : substringBeforeLast delimiter text = String.ofList early := by
  have present : delimiter ∈ text.toList := by
    rw [split]
    exact List.mem_append_right _ List.mem_cons_self
  have reversed : text.toList.reverse = late.reverse ++ delimiter :: early.reverse := by
    rw [split, List.reverse_append, List.reverse_cons, List.append_assoc, List.singleton_append]
  rw [substringBeforeLast, if_pos present, reversed,
    List.dropWhile_append_of_pos (ne_delimiter (mt List.mem_reverse.mp last)),
    List.dropWhile_cons_of_neg (by simp), List.tail_cons, List.reverse_reverse]

theorem splitInTwo_of_split (split : text.toList = early ++ delimiter :: late)
    (first : delimiter ∉ early) :
    splitInTwo delimiter text = [String.ofList early, String.ofList late] := by
  have present : delimiter ∈ text.toList := by
    rw [split]
    exact List.mem_append_right _ List.mem_cons_self
  rw [splitInTwo, if_pos present, split, List.takeWhile_append_of_pos (ne_delimiter first),
    List.dropWhile_append_of_pos (ne_delimiter first), List.takeWhile_cons_of_neg (by simp),
    List.dropWhile_cons_of_neg (by simp), List.append_nil, List.tail_cons]

end Cutting

/-! ## Numerals -/

theorem digitOf_of_isDigit {c : Char} (digit : c.isDigit = true) :
    digitOf c = some (c.toNat - '0'.toNat) := by
  obtain ⟨least, most⟩ := Char.isDigit_iff_toNat.mp digit
  have within : (decide (0x30 ≤ c.toNat) && decide (c.toNat < 0x30 + 10)) = true := by
    change 48 ≤ c.toNat at least
    change c.toNat ≤ 57 at most
    simp only [Bool.and_eq_true, decide_eq_true_eq]
    omega
  have found : zeros.find? (fun least => least ≤ c.toNat && c.toNat < least + 10) = some 0x30 :=
    List.find?_cons_of_pos within
  rw [digitOf, found]
  rfl

theorem foldlM_digitOf {digits : List Char} (all : ∀ c ∈ digits, c.isDigit = true) (start : ℕ) :
    digits.foldlM (fun value c => (digitOf c).map (10 * value + ·)) start =
      some (Nat.ofDigitChars 10 digits start) := by
  induction digits generalizing start with
  | nil => rfl
  | cons c rest ih =>
      rw [List.forall_mem_cons] at all
      rw [List.foldlM_cons, digitOf_of_isDigit all.1, Nat.ofDigitChars_cons]
      exact ih all.2 _

theorem isDigit_toDigits (n : ℕ) : ∀ c ∈ Nat.toDigits 10 n, c.isDigit = true :=
  fun _ member => Nat.isDigit_of_mem_toDigits (by decide) (by decide) member

theorem magnitude_toDigits (n : ℕ) : magnitude (Nat.toDigits 10 n) = some n := by
  have value := foldlM_digitOf (isDigit_toDigits n) 0
  rw [Nat.ofDigitChars_ten_toDigits] at value
  unfold magnitude
  split
  · next none => exact absurd none Nat.toDigits_ne_nil
  · exact value

/-- **Round trip** of a `Long`. -/
theorem toLongOrNull_toString {n : ℤ} (long : IsLong n) : toLongOrNull (toString n) = some n := by
  obtain ⟨lower, upper⟩ := long
  cases n with
  | ofNat n =>
      have text : (toString (Int.ofNat n)).toList = Nat.toDigits 10 n := Nat.toList_repr
      have value := magnitude_toDigits n
      have small : n ≤ longMax := Int.ofNat_le.mp upper
      unfold toLongOrNull
      rw [text]
      cases numeral : Nat.toDigits 10 n with
      | nil => exact absurd numeral Nat.toDigits_ne_nil
      | cons first rest =>
          have digit : first.isDigit = true := by
            refine isDigit_toDigits n first ?_
            rw [numeral]
            exact List.mem_cons_self
          have unsigned : ¬ first.toNat < 0x30 := not_lt.mpr (Char.isDigit_iff_toNat.mp digit).1
          rw [numeral] at value
          dsimp only
          rw [if_neg unsigned, value, Option.bind_some, if_pos small]
          rfl
  | negSucc n =>
      have text : (toString (Int.negSucc n)).toList = '-' :: Nat.toDigits 10 (n + 1) := by
        change ("-" ++ Nat.repr (n + 1)).toList = _
        rw [String.toList_append, Nat.toList_repr]
        rfl
      have small : n + 1 ≤ longMax + 1 := by omega
      unfold toLongOrNull
      rw [text]
      dsimp only
      rw [if_pos (by decide), if_pos rfl, magnitude_toDigits, Option.bind_some, if_pos small]
      rfl

theorem codeUnits_digitChar {d : ℕ} (digit : d < 10) : codeUnits (Nat.digitChar d) = [48 + d] := by
  unfold codeUnits
  rw [Nat.toNat_digitChar_of_lt_ten digit]
  exact if_pos (by omega)

/-- Numerals of one length are in the order of their numbers. -/
theorem utf16_numeral_lt {m n : ℕ} (less : m < n)
    (same : (Nat.toDigits 10 m).length = (Nat.toDigits 10 n).length) (first second : List ℕ) :
    (Nat.toDigits 10 m).flatMap codeUnits ++ first <
      (Nat.toDigits 10 n).flatMap codeUnits ++ second := by
  induction n using Nat.strong_induction_on generalizing m first second with
  | _ n ih =>
      by_cases short : n < 10
      · have small : m < 10 := less.trans short
        rw [Nat.toDigits_of_lt_base small, Nat.toDigits_of_lt_base short, List.flatMap_singleton,
          List.flatMap_singleton, codeUnits_digitChar small, codeUnits_digitChar short]
        exact List.cons_lt_cons_iff.mpr (.inl (by omega))
      · have long : ¬ m < 10 := by
          intro small
          have more := Nat.length_toDigits_pos (b := 10) (n := n / 10)
          rw [Nat.toDigits_of_lt_base small, Nat.toDigits_of_base_le (by decide) (not_lt.mp short),
            List.length_append, List.length_singleton, List.length_singleton] at same
          omega
        rw [Nat.toDigits_of_base_le (by decide) (not_lt.mp long),
          Nat.toDigits_of_base_le (by decide) (not_lt.mp short)] at same ⊢
        rw [List.length_append, List.length_append] at same
        have heads : (Nat.toDigits 10 (m / 10)).length = (Nat.toDigits 10 (n / 10)).length :=
          Nat.add_right_cancel same
        rw [List.flatMap_append, List.flatMap_append, List.append_assoc, List.append_assoc]
        rcases (Nat.div_le_div_right less.le : m / 10 ≤ n / 10).lt_or_eq with head | head
        · exact ih (n / 10) (by omega) head heads _ _
        · have last : m % 10 < n % 10 := by omega
          rw [head]
          refine List.append_left_lt ?_
          rw [List.flatMap_singleton, List.flatMap_singleton,
            codeUnits_digitChar (Nat.mod_lt _ (by decide)),
            codeUnits_digitChar (Nat.mod_lt _ (by decide))]
          exact List.cons_lt_cons_iff.mpr (.inl (by omega))

/-- `Character.toLowerCase(Character.toUpperCase(c))`, exact for whether it is an ASCII letter's. -/
def foldCase : Char → Char
  | 'ſ' => 's'
  | 'ı' | 'İ' => 'i'
  | '\u212a' => 'k'
  | c => c.toLower

/-- `whole.contains(part, ignoreCase = true)`, for a part in ASCII. -/
def containsIgnoreCase (whole part : String) : Bool :=
  decide (part.toList.map foldCase <:+: whole.toList.map foldCase)

end Aegis.Lib.Kotlin
