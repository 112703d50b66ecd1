import JobShell.Text.Bytes

/-!
# Reading UTF-8

Bytes read as characters. Where they are not valid UTF-8, the longest run that could still have
become a character is read as one replacement character; `decode?` refuses such bytes instead.
-/

namespace JobShell.Text

/-- The character that stands for bytes which are not valid. -/
def replacement : Char := '\uFFFD'

/-- How a character goes on after its first byte: how many bytes follow, the range of the first of
them, and what the first byte contributes to the code point. -/
structure Lead where
  following : Nat
  low : Nat
  high : Nat
  bits : Nat

/-- How a character that begins with `b` goes on, if one can. -/
def lead? (b : Nat) : Option Lead :=
  if b < 0x80 then some ⟨0, 0, 0, b⟩
  else if b < 0xC2 then none
  else if b < 0xE0 then some ⟨1, 0x80, 0xBF, b - 0xC0⟩
  else if b < 0xF0 then
    some ⟨2, if b = 0xE0 then 0xA0 else 0x80, if b = 0xED then 0x9F else 0xBF, b - 0xE0⟩
  else if b < 0xF5 then
    some ⟨3, if b = 0xF0 then 0x90 else 0x80, if b = 0xF4 then 0x8F else 0xBF, b - 0xF0⟩
  else none

/-- Reads `following` more bytes, the first of them within the range; the answer is the code point,
if all are there, and how many bytes were read. -/
def continueWith (following low high bits : Nat) : List UInt8 → Option Nat × Nat
  | [] => (if following = 0 then some bits else none, 0)
  | b :: rest =>
    match following with
    | 0 => (some bits, 0)
    | more + 1 =>
      if low ≤ b.toNat ∧ b.toNat ≤ high then
        let (code, count) := continueWith more 0x80 0xBF (bits * 0x40 + (b.toNat - 0x80)) rest
        (code, count + 1)
      else
        (none, 0)

/-- The first character of `b :: rest`, if it is valid, and how many bytes of `rest` it takes. -/
def firstChar (b : UInt8) (rest : List UInt8) : Option Char × Nat :=
  match lead? b.toNat with
  | none => (none, 0)
  | some l =>
    let (code, count) := continueWith l.following l.low l.high l.bits rest
    (code.map Char.ofNat, count)

/-- The characters of `bytes`, with nothing in the place of those that are not valid. -/
def decodeChars : List UInt8 → List (Option Char)
  | [] => []
  | b :: rest =>
    let (c, count) := firstChar b rest
    c :: decodeChars (rest.drop count)
termination_by bytes => bytes.length
decreasing_by simp only [List.length_drop, List.length_cons]; omega

/-- The characters of `bytes`, with a replacement character for each that is not valid. -/
def decodeLossy (bytes : List UInt8) : String :=
  String.ofList ((decodeChars bytes).map (·.getD replacement))

/-- The characters of `bytes`, if all are valid. -/
def decode? (bytes : List UInt8) : Option String :=
  ((decodeChars bytes).mapM id).map String.ofList

end JobShell.Text
