import Mathlib.Data.Nat.Notation

/-!
# Python text

`str.strip`, `str.lower` and `repr`, and texts as UTF-8.  `lower` changes ASCII letters only:
the other characters that Python lowers to ASCII are `K` (Kelvin sign), to a letter, and `İ`, to
two characters.
-/

namespace Aegis.Lib

/-- `str.isspace` of one character. -/
def isSpace (c : Char) : Bool :=
  let n := c.toNat
  9 ≤ n && n ≤ 13 || 28 ≤ n && n ≤ 32 || n = 0x85 || n = 0xa0 || n = 0x1680
    || 0x2000 ≤ n && n ≤ 0x200a || n = 0x2028 || n = 0x2029 || n = 0x202f || n = 0x205f
    || n = 0x3000

/-- `str.strip()`. -/
def strip (text : String) : String :=
  String.ofList (((text.toList.dropWhile isSpace).reverse.dropWhile isSpace).reverse)

/-- `str.lower()` on ASCII letters. -/
def lower (text : String) : String := String.ofList (text.toList.map Char.toLower)

/-- `text.split(";")[0]`. -/
def beforeSemicolon (text : String) : String :=
  String.ofList (text.toList.takeWhile (· ≠ ';'))

/-- `repr` of one character of a text in these quotes, for the characters of a header. -/
def reprChar (quote c : Char) : List Char :=
  let hex (n : ℕ) : List Char := '\\' :: 'x' :: Nat.digitChar (n / 16) :: [Nat.digitChar (n % 16)]
  if c = '\\' ∨ c = quote then ['\\', c]
  else if c = '\n' then ['\\', 'n']
  else if c = '\r' then ['\\', 'r']
  else if c = '\t' then ['\\', 't']
  else if c.toNat < 32 ∨ 127 ≤ c.toNat ∧ c.toNat ≤ 160 ∨ c.toNat = 173 then hex c.toNat
  else [c]

/-- `repr` of a text or of `None`. -/
def pyRepr : Option String → String
  | none => "None"
  | some text =>
      let quote := if text.contains (Char.ofNat 39) ∧ ¬ text.contains '"' then '"' else Char.ofNat 39
      String.ofList (quote :: text.toList.flatMap (reprChar quote) ++ [quote])

/-- `text.encode("utf-8")`. -/
def utf8Encode (text : String) : List UInt8 := text.toUTF8.data.toList

/-- `data.decode()`. -/
def utf8Decode (data : List UInt8) : Option String := String.fromUTF8? ⟨data.toArray⟩

theorem utf8Decode_utf8Encode (text : String) : utf8Decode (utf8Encode text) = some text := by
  have bytes : (⟨(utf8Encode text).toArray⟩ : ByteArray) = text.toByteArray := rfl
  rw [utf8Decode, bytes, String.fromUTF8?, dif_pos text.isValidUTF8]
  rfl

end Aegis.Lib
