import JobShell.Machine.FileTree
import JobShell.Text.Utf8

/-!
# Bytes as lines

The cutting of bytes into lines and fields, and their putting together again.
-/

namespace JobShell.Machine.Bytes

/-- The line feed. -/
def lineFeed : UInt8 := 0x0A

/-- The bytes of a text. -/
def ofString (s : String) : Bytes := Text.utf8 s.toList

/-- The text of bytes. -/
def toString (b : Bytes) : String := Text.decodeLossy b

/-- What stands before each `separator`, and behind the last one. -/
def splitOn (separator : UInt8) : Bytes → List Bytes
  | [] => [[]]
  | b :: rest =>
    if b = separator then
      [] :: splitOn separator rest
    else
      match splitOn separator rest with
      | [] => [[b]]
      | first :: more => (b :: first) :: more

/-- The lines of `b`, each without its line feed. -/
def lines (b : Bytes) : List Bytes :=
  let parts := splitOn lineFeed b
  if parts.getLast? = some [] then parts.dropLast else parts

/-- Lines, each ended by a line feed. -/
def ofLines (ls : List Bytes) : Bytes := ls.flatMap (· ++ [lineFeed])

/-- Whether the last line has its line feed; nothing is missing if there is no line. -/
def isEnded (b : Bytes) : Bool := b.getLast?.all (· = lineFeed)

/-- The lines of `b`, each with its line feed if it has one. -/
def wholeLines (b : Bytes) : List Bytes :=
  let ls := lines b
  if isEnded b then
    ls.map (· ++ [lineFeed])
  else
    ls.dropLast.map (· ++ [lineFeed]) ++ ls.getLast?.toList

/-- Whether `a` comes before `b` byte by byte. -/
def before : Bytes → Bytes → Bool
  | [], [] => false
  | [], _ :: _ => true
  | _ :: _, [] => false
  | a :: as, b :: bs => if a = b then before as bs else a < b

/-- Whether a byte is a space or a tab. -/
def isSpace (b : UInt8) : Bool := b = 0x20 || b = 0x09

/-- Whether a byte separates words. -/
def isWordBreak (b : UInt8) : Bool := b = 0x20 || (0x09 ≤ b && b ≤ 0x0D)

/-- Whether a byte is a decimal digit. -/
def isDigit (b : UInt8) : Bool := 0x30 ≤ b && b ≤ 0x39

/-- A small letter made a capital one. -/
def upper (b : UInt8) : UInt8 := if 0x61 ≤ b && b ≤ 0x7A then b - 0x20 else b

/-- A capital letter made a small one. -/
def lower (b : UInt8) : UInt8 := if 0x41 ≤ b && b ≤ 0x5A then b + 0x20 else b

/-- Whether a byte stands for a character that can be seen. -/
def isVisible (b : UInt8) : Bool := 0x21 ≤ b && b ≤ 0x7E

/-- How many words there are: runs between word breaks in which something can be seen. -/
def wordCount (b : Bytes) : Nat :=
  (b.foldl (fun (acc : Nat × Bool) x =>
    if isWordBreak x then (acc.1, false)
    else if isVisible x && !acc.2 then (acc.1 + 1, true)
    else acc)
    (0, false)).1

end JobShell.Machine.Bytes
