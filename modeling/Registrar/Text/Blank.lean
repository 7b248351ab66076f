/-!
# Blank characters

The white space that trimming removes and that separates words: the characters with the
Unicode property White_Space.  Trimming cuts blanks at the two ends only; words are the maximal
runs without a blank.
-/

namespace Registrar.Text

/-- A character is blank when it has the Unicode property White_Space. -/
def isBlank (c : Char) : Bool :=
  let n := c.toNat
  (0x09 ≤ n && n ≤ 0x0d) || n == 0x20 || n == 0x85 || n == 0xa0 || n == 0x1680 ||
    (0x2000 ≤ n && n ≤ 0x200a) || n == 0x2028 || n == 0x2029 || n == 0x202f || n == 0x205f ||
    n == 0x3000

/-- Drops the blanks in front. -/
def trimStart (cs : List Char) : List Char :=
  cs.dropWhile isBlank

/-- Drops the blanks at the end. -/
def trimEnd (cs : List Char) : List Char :=
  (cs.reverse.dropWhile isBlank).reverse

/-- Drops the blanks at both ends. -/
def trimChars (cs : List Char) : List Char :=
  trimEnd (trimStart cs)

/-- Characters are what trimming leaves of them, between blanks. -/
theorem exists_blanks (cs : List Char) : ∃ before after, cs = before ++ trimChars cs ++ after ∧
    (∀ c ∈ before, isBlank c = true) ∧ ∀ c ∈ after, isBlank c = true := by
  have front : cs = cs.takeWhile isBlank ++ trimStart cs := List.takeWhile_append_dropWhile.symm
  have back : (trimStart cs).reverse =
      (trimStart cs).reverse.takeWhile isBlank ++ (trimStart cs).reverse.dropWhile isBlank :=
    List.takeWhile_append_dropWhile.symm
  have parts : trimStart cs =
      trimChars cs ++ ((trimStart cs).reverse.takeWhile isBlank).reverse := by
    rw [trimChars, trimEnd, ← List.reverse_append, ← back, List.reverse_reverse]
  refine ⟨cs.takeWhile isBlank, ((trimStart cs).reverse.takeWhile isBlank).reverse, ?_, ?_, ?_⟩
  · rw [List.append_assoc, ← parts]
    exact front
  · exact List.all_eq_true.1 List.all_takeWhile
  · intro c mem
    exact List.all_eq_true.1 List.all_takeWhile c (List.mem_reverse.1 mem)

/-- Blanks around characters are trimmed away. -/
theorem trimChars_padded {before after : List Char} (front : ∀ c ∈ before, isBlank c = true)
    (back : ∀ c ∈ after, isBlank c = true) (cs : List Char) :
    trimChars (before ++ cs ++ after) = trimChars cs := by
  have ended (ds : List Char) : trimEnd (ds ++ after) = trimEnd ds := by
    rw [trimEnd, List.reverse_append,
      List.dropWhile_append_of_pos fun c mem => back c (List.mem_reverse.1 mem)]
    rfl
  have blank : trimStart after = [] := by
    have dropped : (after ++ []).dropWhile isBlank = [] := List.dropWhile_append_of_pos back
    rwa [List.append_nil] at dropped
  rw [trimChars, trimStart, List.append_assoc, List.dropWhile_append_of_pos front,
    List.dropWhile_append]
  split
  · next none =>
    have empty : trimStart cs = [] := List.isEmpty_iff.1 none
    rw [trimChars, empty]
    exact congrArg trimEnd blank
  · exact ended (trimStart cs)

/-- Drops the blanks at both ends of a text. -/
def trim (s : String) : String :=
  String.ofList (trimChars s.toList)

/-- A text is blank when it holds nothing but blanks; the empty text is blank. -/
def isBlankText (s : String) : Bool :=
  s.toList.all isBlank

/-- Prepends a character to the first of the pieces. -/
def consFirst (c : Char) : List (List Char) → List (List Char)
  | [] => [[c]]
  | piece :: pieces => (c :: piece) :: pieces

/-- Cuts a text at every character that satisfies `cut`; the pieces between cuts may be empty,
and there is always one piece more than there are cuts. -/
def splitWhere (cut : Char → Bool) : List Char → List (List Char)
  | [] => [[]]
  | c :: cs => if cut c then [] :: splitWhere cut cs else consFirst c (splitWhere cut cs)

/-- The pieces are those into which a list is cut. -/
theorem splitWhere_eq_splitOnP (cut : Char → Bool) (cs : List Char) :
    splitWhere cut cs = cs.splitOnP cut := by
  induction cs with
  | nil => rfl
  | cons c cs ih =>
    have some := List.splitOnP_ne_nil cut cs
    rw [splitWhere, List.splitOnP_cons_eq_if_modifyHead, ih]
    cases pieces : cs.splitOnP cut with
    | nil => exact absurd pieces some
    | cons piece pieces => rfl

/-- The maximal runs of a text that hold no blank. -/
def words (s : String) : List String :=
  ((splitWhere isBlank s.toList).filter fun piece => !piece.isEmpty).map String.ofList

/-- Applies a character map to each character of a text. -/
def mapChars (f : Char → Char) (s : String) : String :=
  String.ofList (s.toList.map f)

/-- The ASCII capital of a character; any other character is kept. -/
def upperChar (c : Char) : Char :=
  if 'a' ≤ c ∧ c ≤ 'z' then Char.ofNat (c.toNat - 32) else c

/-- The small ASCII letter of a character; any other character is kept. -/
def lowerChar (c : Char) : Char :=
  if 'A' ≤ c ∧ c ≤ 'Z' then Char.ofNat (c.toNat + 32) else c

/-- Capitals for the ASCII letters of a text. -/
def upperAscii (s : String) : String :=
  mapChars upperChar s

/-- Small letters for the ASCII letters of a text. -/
def lowerAscii (s : String) : String :=
  mapChars lowerChar s

/-- Two texts that differ at most in the case of ASCII letters. -/
def sameName (a b : String) : Bool :=
  lowerAscii a == lowerAscii b

/-- Whether a list of characters occurs in another without a gap. -/
def occursIn (part : List Char) : List Char → Bool
  | [] => part.isEmpty
  | c :: cs => part.isPrefixOf (c :: cs) || occursIn part cs

/-- An ASCII digit. -/
def isDigit (c : Char) : Bool :=
  '0' ≤ c && c ≤ '9'

/-- An ASCII letter. -/
def isLetter (c : Char) : Bool :=
  ('a' ≤ c && c ≤ 'z') || ('A' ≤ c && c ≤ 'Z')

end Registrar.Text
