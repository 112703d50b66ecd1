import JobShell.Command.Parser
import JobShell.Proofs.Grammar

/-!
# The cursor

The reader of a command line moves a cursor over bytes, while the grammar speaks of characters.
`Source.At` ties the two: it says which characters stand behind a cursor. A class of bytes mirrors
a class of characters if it tells the characters apart by their bytes; then skipping bytes is
skipping characters (`At.skip`), and a cursor that stood between two characters still does.
-/

namespace JobShell.Command.Parser

open JobShell.Text
open Grammar

/-! ## Bytes of a character -/

/-- The ASCII characters are encoded as themselves. -/
theorem utf8EncodeChar_of_lt {c : Char} (hc : c.toNat < 0x80) :
    String.utf8EncodeChar c = [c.toNat.toUInt8] := by
  have hv : c.val.toNat ≤ 0x7F := Nat.le_of_lt_succ hc
  simp only [String.utf8EncodeChar, if_pos hv]
  rfl

/-- No byte of another character is an ASCII byte. -/
theorem le_of_mem_utf8EncodeChar {c : Char} (hc : 0x80 ≤ c.toNat) {b : UInt8}
    (hb : b ∈ String.utf8EncodeChar c) : 0x80 ≤ b := by
  have hv : ¬c.val.toNat ≤ 0x7F := Nat.not_le.2 hc
  simp only [String.utf8EncodeChar, if_neg hv] at hb
  rw [UInt8.le_iff_toNat_le]
  split at hb
  · simp only [List.mem_cons, List.not_mem_nil, or_false] at hb
    rcases hb with rfl | rfl <;> simp <;> omega
  · split at hb
    · simp only [List.mem_cons, List.not_mem_nil, or_false] at hb
      rcases hb with rfl | rfl | rfl <;> simp <;> omega
    · simp only [List.mem_cons, List.not_mem_nil, or_false] at hb
      rcases hb with rfl | rfl | rfl | rfl <;> simp <;> omega

/-- The byte of an ASCII character `d` stands in the encoding of `d` only. -/
theorem mem_utf8EncodeChar_iff {c d : Char} (hd : d.toNat < 0x80) :
    d.toNat.toUInt8 ∈ String.utf8EncodeChar c ↔ c = d := by
  have hbyte : ∀ n < 0x80, n.toUInt8.toNat = n := by
    intro n hn
    simp only [Nat.toUInt8, UInt8.toNat_ofNat']
    exact Nat.mod_eq_of_lt (by omega)
  constructor
  · intro h
    rcases Nat.lt_or_ge c.toNat 0x80 with hc | hc
    · rw [utf8EncodeChar_of_lt hc, List.mem_singleton] at h
      have hnat := congrArg UInt8.toNat h
      rw [hbyte _ hc, hbyte _ hd] at hnat
      exact Char.toNat_inj.1 hnat.symm
    · have hle := le_of_mem_utf8EncodeChar hc h
      rw [UInt8.le_iff_toNat_le, hbyte _ hd] at hle
      exact absurd hle (Nat.not_le.2 hd)
  · intro h
    subst h
    rw [utf8EncodeChar_of_lt hd]
    exact List.mem_singleton_self _

/-! ## Classes of bytes and of characters -/

/-- `p` holds of every byte of a character in `q`, and not of the first byte of any other. -/
def Mirrors (p : UInt8 → Bool) (q : Char → Bool) : Prop :=
  ∀ c, (q c = true → ∀ b ∈ String.utf8EncodeChar c, p b = true) ∧
    (q c = false → ∃ b bs, String.utf8EncodeChar c = b :: bs ∧ p b = false)

/-- The bytes of some ASCII characters mirror those characters. -/
theorem mirrors_of_mem {p : UInt8 → Bool} {q : Char → Bool} (ds : List Char)
    (hds : ∀ d ∈ ds, d.toNat < 0x80) (hp : ∀ b, p b = true ↔ b ∈ ds.map (·.toNat.toUInt8))
    (hq : ∀ c, q c = true ↔ c ∈ ds) : Mirrors p q := by
  intro c
  constructor
  · intro hc b hb
    have hmem := (hq c).1 hc
    rw [utf8EncodeChar_of_lt (hds c hmem), List.mem_singleton] at hb
    rw [hp, hb]
    exact List.mem_map_of_mem hmem
  · intro hc
    obtain ⟨b, bs, hbs⟩ := List.exists_cons_of_ne_nil (@String.utf8EncodeChar_ne_nil c)
    refine ⟨b, bs, hbs, Bool.eq_false_iff.2 fun hb => ?_⟩
    obtain ⟨d, hd, rfl⟩ := List.mem_map.1 ((hp b).1 hb)
    have hcd : c = d := (mem_utf8EncodeChar_iff (hds d hd)).1 (by rw [hbs]; exact List.mem_cons_self)
    rw [hcd, (hq d).2 hd] at hc
    cases hc

/-- The bytes other than those of some ASCII characters mirror the other characters. -/
theorem mirrors_of_not_mem {p : UInt8 → Bool} {q : Char → Bool} (ds : List Char)
    (hds : ∀ d ∈ ds, d.toNat < 0x80) (hp : ∀ b, p b = false ↔ b ∈ ds.map (·.toNat.toUInt8))
    (hq : ∀ c, q c = false ↔ c ∈ ds) : Mirrors p q := by
  intro c
  constructor
  · intro hc b hb
    refine Bool.not_eq_false _ ▸ fun hpb => ?_
    obtain ⟨d, hd, rfl⟩ := List.mem_map.1 ((hp b).1 hpb)
    rw [(mem_utf8EncodeChar_iff (hds d hd)).1 hb, (hq d).2 hd] at hc
    cases hc
  · intro hc
    have hmem := (hq c).1 hc
    refine ⟨_, [], utf8EncodeChar_of_lt (hds c hmem), ?_⟩
    rw [hp]
    exact List.mem_map_of_mem hmem

theorem mirrors_isSpace : Mirrors isSpace isSeparator :=
  mirrors_of_mem [' ', '\t', '\n', '\r'] (by simp)
    (by intro b; simp [isSpace, or_assoc]) (by intro c; simp [isSeparator, or_assoc])

theorem mirrors_isLetter : Mirrors isLetter isWordChar :=
  mirrors_of_not_mem reserved (by simp [reserved])
    (by intro b; simp [isLetter, isSpace, isOperator, reserved]; grind) isWordChar_eq_false_iff

/-- Skipping the bytes of a class skips the characters that it mirrors. -/
theorem Mirrors.takeWhile_utf8 {p : UInt8 → Bool} {q : Char → Bool} (h : Mirrors p q)
    (cs : List Char) : (utf8 cs).takeWhile p = utf8 (cs.takeWhile q) := by
  induction cs with
  | nil => rfl
  | cons c cs ih =>
    rw [utf8_cons]
    by_cases hc : q c = true
    · rw [List.takeWhile_append_of_pos ((h c).1 hc), List.takeWhile_cons_of_pos hc, ih, utf8_cons]
    · obtain ⟨b, bs, hbs, hb⟩ := (h c).2 (by simpa using hc)
      rw [List.takeWhile_cons_of_neg hc, hbs, List.cons_append,
        List.takeWhile_cons_of_neg (by simp [hb])]
      rfl

/-! ## Characters behind the cursor -/

/-- The cursor `i` stands between two characters of the line, and `behind` is what is behind it. -/
def Source.At (src : Source) (i : Nat) (behind : List Char) : Prop :=
  ∃ before, src = ⟨before ++ behind, utf8 (before ++ behind)⟩ ∧ i = utf8Length before

namespace Source.At

variable {src : Source} {i : Nat} {behind : List Char}

theorem start (cs : List Char) : Source.At ⟨cs, utf8 cs⟩ 0 cs := ⟨[], rfl, rfl⟩

/-- The bytes behind the cursor encode the characters behind it. -/
theorem drop_bytes (h : src.At i behind) : src.bytes.drop i = utf8 behind := by
  obtain ⟨before, rfl, rfl⟩ := h
  rw [utf8_append, utf8Length, List.drop_left]

theorem length_bytes (h : src.At i behind) : src.bytes.length = i + utf8Length behind := by
  obtain ⟨before, rfl, rfl⟩ := h
  rw [utf8_append, List.length_append, utf8Length, utf8Length]

/-- The byte at the cursor is the first byte of the character behind it. -/
theorem getElem?_bytes (h : src.At i behind) : src.bytes[i]? = (utf8 behind).head? := by
  rw [← h.drop_bytes, List.head?_drop]

/-- The cursor moves over whole characters. -/
theorem advance {between : List Char} (h : src.At i (between ++ behind)) :
    src.At (i + utf8Length between) behind := by
  obtain ⟨before, rfl, rfl⟩ := h
  exact ⟨before ++ between, by rw [List.append_assoc], by rw [utf8Length_append]⟩

/-- A cut over whole characters finds them. -/
theorem slice?_eq {between : List Char} (h : src.At i (between ++ behind)) :
    slice? src.chars i (i + utf8Length between) = some between := by
  obtain ⟨before, rfl, rfl⟩ := h
  rw [← List.append_assoc]
  exact slice?_append before between behind

/-- Where the cursor goes when it skips a class of bytes. -/
theorem skip_eq {p : UInt8 → Bool} {q : Char → Bool} (hm : Mirrors p q) (h : src.At i behind) :
    skip p src.bytes i = i + utf8Length (behind.takeWhile q) := by
  rw [skip, h.drop_bytes, hm.takeWhile_utf8, utf8Length]

/-- Skipping a class of bytes leaves the cursor between two characters. -/
theorem skip {p : UInt8 → Bool} {q : Char → Bool} (hm : Mirrors p q) (h : src.At i behind) :
    src.At (Parser.skip p src.bytes i) (behind.dropWhile q) := by
  rw [h.skip_eq hm]
  apply advance
  rw [List.takeWhile_append_dropWhile]
  exact h

/-- An ASCII character takes one byte. -/
theorem succ {c : Char} (hc : c.toNat < 0x80) (h : src.At i (c :: behind)) :
    src.At (i + 1) behind := by
  have hlen : utf8Length [c] = 1 := by
    rw [utf8Length, utf8_cons, utf8EncodeChar_of_lt hc]
    rfl
  rw [← hlen]
  exact h.advance

/-- The byte at the cursor is that of an ASCII character if that character is behind it. -/
theorem getElem?_eq_iff {d : Char} (hd : d.toNat < 0x80) (h : src.At i behind) :
    src.bytes[i]? = some d.toNat.toUInt8 ↔ behind.head? = some d := by
  rw [h.getElem?_bytes]
  cases behind with
  | nil => simp
  | cons c cs =>
    obtain ⟨b, bs, hbs⟩ := List.exists_cons_of_ne_nil (@String.utf8EncodeChar_ne_nil c)
    rw [utf8_cons, hbs, List.cons_append, List.head?_cons, List.head?_cons, Option.some_inj,
      Option.some_inj]
    constructor
    · intro h
      subst h
      exact (mem_utf8EncodeChar_iff hd).1 (by rw [hbs]; exact List.mem_cons_self)
    · intro h
      subst h
      rw [utf8EncodeChar_of_lt hd, List.cons.injEq] at hbs
      exact hbs.1.symm

theorem getElem?_eq_none_iff (h : src.At i behind) : src.bytes[i]? = none ↔ behind = [] := by
  rw [h.getElem?_bytes]
  cases behind with
  | nil => simp
  | cons c cs => simp [String.utf8EncodeChar_ne_nil]

/-- A word is the longest run of characters of its class. -/
theorem readWord (h : src.At i behind) :
    ∃ j, Parser.readWord src i = .ok (String.ofList (behind.takeWhile isWordChar), j) ∧
      src.At j (behind.dropWhile isWordChar) := by
  have hsplit : src.At i (behind.takeWhile isWordChar ++ behind.dropWhile isWordChar) := by
    rw [List.takeWhile_append_dropWhile]
    exact h
  refine ⟨_, ?_, hsplit.advance⟩
  simp only [Parser.readWord, h.skip_eq mirrors_isLetter, hsplit.slice?_eq]

end Source.At

end JobShell.Command.Parser
