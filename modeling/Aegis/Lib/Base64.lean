import Mathlib.Data.List.Basic
import Mathlib.Data.Nat.Notation

/-!
# Base64

`base64.b64encode` and `base64.b64decode` of Python.  The encoder takes three bytes to four
characters; the decoder reads one character after another and keeps the bits that are left.  It
skips characters outside the alphabet and stops at the padding.

The round trip goes by groups of three bytes.
-/

namespace Aegis.Lib

def base64Alphabet : List Char :=
  "ABCDEFGHIJKLMNOPQRSTUVWXYZabcdefghijklmnopqrstuvwxyz0123456789+/".toList

/-- The character of six bits. -/
def sextetChar (n : ℕ) : Char := base64Alphabet.getD n 'A'

def sextetOf (c : Char) : Option ℕ :=
  let n := base64Alphabet.idxOf c
  if n < 64 then some n else none

def encodeGroups : List UInt8 → List Char
  | [] => []
  | [a] => [sextetChar (a.toNat / 4), sextetChar (a.toNat % 4 * 16), '=', '=']
  | [a, b] =>
      [sextetChar (a.toNat / 4), sextetChar (a.toNat % 4 * 16 + b.toNat / 16),
        sextetChar (b.toNat % 16 * 4), '=']
  | a :: b :: c :: rest =>
      sextetChar (a.toNat / 4) :: sextetChar (a.toNat % 4 * 16 + b.toNat / 16) ::
        sextetChar (b.toNat % 16 * 4 + c.toNat / 64) :: sextetChar (c.toNat % 64) ::
        encodeGroups rest

/-- `base64.b64encode(data).decode()`. -/
def b64encode (data : List UInt8) : String := String.ofList (encodeGroups data)

/-- `binascii.a2b_base64`: `position` is the number of characters read of a group of four,
`left` what is left of the last of them, and `pads` the number of `=` since. -/
def decodeGroups (position pads left : ℕ) : List Char → Option (List UInt8)
  | [] => if position = 0 then some [] else none
  | c :: rest =>
      if c = '=' then
        if position < 2 then decodeGroups position pads left rest
        else if 4 ≤ position + (pads + 1) then some []
        else decodeGroups position (pads + 1) left rest
      else
        match sextetOf c with
        | none => decodeGroups position pads left rest
        | some n =>
            match position with
            | 0 => decodeGroups 1 0 n rest
            | 1 => (decodeGroups 2 0 (n % 16) rest).map (UInt8.ofNat (left * 4 + n / 16) :: ·)
            | 2 => (decodeGroups 3 0 (n % 4) rest).map (UInt8.ofNat (left * 16 + n / 4) :: ·)
            | _ => (decodeGroups 0 0 0 rest).map (UInt8.ofNat (left * 64 + n) :: ·)

/-- `base64.b64decode(text)`; it raises on texts that are not ASCII and on wrong padding. -/
def b64decode (text : String) : Option (List UInt8) :=
  if text.toList.all fun c => c.toNat < 128 then decodeGroups 0 0 0 text.toList else none

/-! ## The alphabet -/

theorem sextet_cases : ∀ n < 64, sextetOf (sextetChar n) = some n ∧ sextetChar n ≠ '=' ∧
    (sextetChar n).toNat < 128 := by decide +kernel

section Groups

variable {position pads left n : ℕ} {rest : List Char} {data : List UInt8}

theorem decodeGroups_zero (bounded : n < 64) :
    decodeGroups 0 pads left (sextetChar n :: rest) = decodeGroups 1 0 n rest := by
  obtain ⟨known, proper, _⟩ := sextet_cases n bounded
  rw [decodeGroups, if_neg proper, known]
  rfl

theorem decodeGroups_one (bounded : n < 64) :
    decodeGroups 1 pads left (sextetChar n :: rest) =
      (decodeGroups 2 0 (n % 16) rest).map (UInt8.ofNat (left * 4 + n / 16) :: ·) := by
  obtain ⟨known, proper, _⟩ := sextet_cases n bounded
  rw [decodeGroups, if_neg proper, known]
  rfl

theorem decodeGroups_two (bounded : n < 64) :
    decodeGroups 2 pads left (sextetChar n :: rest) =
      (decodeGroups 3 0 (n % 4) rest).map (UInt8.ofNat (left * 16 + n / 4) :: ·) := by
  obtain ⟨known, proper, _⟩ := sextet_cases n bounded
  rw [decodeGroups, if_neg proper, known]
  rfl

theorem decodeGroups_three (bounded : n < 64) :
    decodeGroups 3 pads left (sextetChar n :: rest) =
      (decodeGroups 0 0 0 rest).map (UInt8.ofNat (left * 64 + n) :: ·) := by
  obtain ⟨known, proper, _⟩ := sextet_cases n bounded
  rw [decodeGroups, if_neg proper, known]
  rfl

theorem ofNat_eq {a : UInt8} {m : ℕ} (same : m = a.toNat) : UInt8.ofNat m = a := by
  rw [same, UInt8.ofNat_toNat]

/-- **Round trip.** -/
theorem decodeGroups_encodeGroups (data : List UInt8) (pads left : ℕ) :
    decodeGroups 0 pads left (encodeGroups data) = some data := by
  induction data using encodeGroups.induct generalizing pads left with
  | case1 => rfl
  | case2 a =>
      have byte := a.toNat_lt
      have first : UInt8.ofNat (a.toNat / 4 * 4 + a.toNat % 4 * 16 / 16) = a := ofNat_eq (by omega)
      rw [encodeGroups, decodeGroups_zero (by omega), decodeGroups_one (by omega), first]
      rfl
  | case3 a b =>
      have byte := a.toNat_lt
      have next := b.toNat_lt
      have first : UInt8.ofNat (a.toNat / 4 * 4 + (a.toNat % 4 * 16 + b.toNat / 16) / 16) = a :=
        ofNat_eq (by omega)
      have second : UInt8.ofNat ((a.toNat % 4 * 16 + b.toNat / 16) % 16 * 16 +
          b.toNat % 16 * 4 / 4) = b := ofNat_eq (by omega)
      rw [encodeGroups, decodeGroups_zero (by omega), decodeGroups_one (by omega), first,
        decodeGroups_two (by omega), second]
      rfl
  | case4 a b c rest ih =>
      have byte := a.toNat_lt
      have next := b.toNat_lt
      have last := c.toNat_lt
      have first : UInt8.ofNat (a.toNat / 4 * 4 + (a.toNat % 4 * 16 + b.toNat / 16) / 16) = a :=
        ofNat_eq (by omega)
      have second : UInt8.ofNat ((a.toNat % 4 * 16 + b.toNat / 16) % 16 * 16 +
          (b.toNat % 16 * 4 + c.toNat / 64) / 4) = b := ofNat_eq (by omega)
      have third : UInt8.ofNat ((b.toNat % 16 * 4 + c.toNat / 64) % 4 * 64 + c.toNat % 64) = c :=
        ofNat_eq (by omega)
      rw [encodeGroups, decodeGroups_zero (by omega), decodeGroups_one (by omega), first,
        decodeGroups_two (by omega), second, decodeGroups_three (by omega), third, ih]
      rfl

theorem ascii_encodeGroups (data : List UInt8) : ∀ c ∈ encodeGroups data, c.toNat < 128 := by
  have pad : ('=' : Char).toNat < 128 := by decide
  have ascii (n : ℕ) (bounded : n < 64) : (sextetChar n).toNat < 128 :=
    (sextet_cases n bounded).2.2
  induction data using encodeGroups.induct with
  | case1 => exact List.forall_mem_nil _
  | case2 a =>
      have byte := a.toNat_lt
      simp only [encodeGroups, List.forall_mem_cons]
      exact ⟨ascii _ (by omega), ascii _ (by omega), pad, pad, List.forall_mem_nil _⟩
  | case3 a b =>
      have byte := a.toNat_lt
      have next := b.toNat_lt
      simp only [encodeGroups, List.forall_mem_cons]
      exact ⟨ascii _ (by omega), ascii _ (by omega), ascii _ (by omega), pad,
        List.forall_mem_nil _⟩
  | case4 a b c rest ih =>
      have byte := a.toNat_lt
      have next := b.toNat_lt
      have last := c.toNat_lt
      simp only [encodeGroups, List.forall_mem_cons]
      exact ⟨ascii _ (by omega), ascii _ (by omega), ascii _ (by omega), ascii _ (by omega), ih⟩

end Groups

theorem b64decode_b64encode (data : List UInt8) : b64decode (b64encode data) = some data := by
  unfold b64decode b64encode
  rw [String.toList_ofList, if_pos, decodeGroups_encodeGroups]
  rw [List.all_eq_true]
  exact fun c member => decide_eq_true (ascii_encodeGroups data c member)

theorem b64encode_ne_empty {data : List UInt8} (nonempty : data ≠ []) : b64encode data ≠ "" := by
  intro empty
  have decoded := b64decode_b64encode data
  rw [empty] at decoded
  exact nonempty (Option.some.inj decoded).symm

end Aegis.Lib
