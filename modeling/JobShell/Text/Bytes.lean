/-!
# Text as bytes

The UTF-8 encoding of a text, and the cutting of a text at byte positions. A cut has to fall
between two characters; the functions that cut answer nothing when it falls inside one, or behind
the end.

`slice?_append` says that a cut between whole characters finds what stands between its ends.
-/

namespace JobShell.Text

/-- The UTF-8 encoding of a sequence of characters. -/
def utf8 (cs : List Char) : List UInt8 := cs.flatMap String.utf8EncodeChar

/-- How many bytes the encoding takes. -/
def utf8Length (cs : List Char) : Nat := (utf8 cs).length

/-- What is left of `cs` behind its first `n` bytes. -/
def dropBytes? : List Char → Nat → Option (List Char)
  | cs, 0 => some cs
  | [], _ + 1 => none
  | c :: cs, n + 1 => if c.utf8Size ≤ n + 1 then dropBytes? cs (n + 1 - c.utf8Size) else none

/-- The first `n` bytes of `cs`. -/
def takeBytes? : List Char → Nat → Option (List Char)
  | _, 0 => some []
  | [], _ + 1 => none
  | c :: cs, n + 1 =>
    if c.utf8Size ≤ n + 1 then (takeBytes? cs (n + 1 - c.utf8Size)).map (c :: ·) else none

/-- The text between the byte positions `i` and `j` of `cs`. -/
def slice? (cs : List Char) (i j : Nat) : Option (List Char) :=
  if i ≤ j then (dropBytes? cs i).bind fun rest => takeBytes? rest (j - i) else none

@[simp] theorem utf8_nil : utf8 [] = [] := rfl

@[simp] theorem utf8_cons (c : Char) (cs : List Char) :
    utf8 (c :: cs) = String.utf8EncodeChar c ++ utf8 cs := rfl

@[simp] theorem utf8_append (cs ds : List Char) : utf8 (cs ++ ds) = utf8 cs ++ utf8 ds := by
  simp [utf8]

@[simp] theorem utf8Length_nil : utf8Length [] = 0 := rfl

@[simp] theorem utf8Length_cons (c : Char) (cs : List Char) :
    utf8Length (c :: cs) = c.utf8Size + utf8Length cs := by
  simp [utf8Length]

@[simp] theorem utf8Length_append (cs ds : List Char) :
    utf8Length (cs ++ ds) = utf8Length cs + utf8Length ds := by
  simp [utf8Length]

theorem dropBytes?_append (cs ds : List Char) :
    dropBytes? (cs ++ ds) (utf8Length cs) = some ds := by
  induction cs with
  | nil => cases ds <;> rfl
  | cons c cs ih =>
    have hc := c.utf8Size_pos
    obtain ⟨n, hn⟩ : ∃ n, utf8Length (c :: cs) = n + 1 :=
      ⟨c.utf8Size - 1 + utf8Length cs, by simp only [utf8Length_cons]; omega⟩
    have hlen : c.utf8Size + utf8Length cs = n + 1 := by rw [← hn, utf8Length_cons]
    rw [hn, List.cons_append, dropBytes?, if_pos (by omega)]
    rw [show n + 1 - c.utf8Size = utf8Length cs by omega, ih]

theorem takeBytes?_append (cs ds : List Char) :
    takeBytes? (cs ++ ds) (utf8Length cs) = some cs := by
  induction cs with
  | nil => cases ds <;> rfl
  | cons c cs ih =>
    have hc := c.utf8Size_pos
    obtain ⟨n, hn⟩ : ∃ n, utf8Length (c :: cs) = n + 1 :=
      ⟨c.utf8Size - 1 + utf8Length cs, by simp only [utf8Length_cons]; omega⟩
    have hlen : c.utf8Size + utf8Length cs = n + 1 := by rw [← hn, utf8Length_cons]
    rw [hn, List.cons_append, takeBytes?, if_pos (by omega)]
    rw [show n + 1 - c.utf8Size = utf8Length cs by omega, ih]
    rfl

/-- A cut between whole characters finds what stands between its ends. -/
theorem slice?_append (before between behind : List Char) :
    slice? (before ++ between ++ behind) (utf8Length before)
      (utf8Length before + utf8Length between) = some between := by
  rw [slice?, if_pos (Nat.le_add_right _ _), List.append_assoc, dropBytes?_append,
    Nat.add_sub_cancel_left]
  exact takeBytes?_append _ _

end JobShell.Text
