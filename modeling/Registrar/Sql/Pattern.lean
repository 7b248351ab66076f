import Registrar.Text.Blank

/-!
# Patterns

The two kinds of pattern that a text can be matched with.  Both match the whole text.
-/

namespace Registrar.Sql

open Registrar.Text

/-- Whether a test holds for the rest of a text behind some first part of it. -/
def someRest (test : List Char → Bool) : List Char → Bool
  | [] => test []
  | c :: cs => test (c :: cs) || someRest test cs

/-- Whether a text matches a pattern in which `%` stands for any text and `_` for any character.
ASCII case does not count.  The character behind the escape stands for itself. -/
def likeMatches (escape : Option Char) : List Char → List Char → Bool
  | [], text => text.isEmpty
  | [p], text =>
    if some p = escape then false
    else if p = '%' then true
    else
      match text with
      | [c] => p == '_' || lowerChar p == lowerChar c
      | _ => false
  | p :: q :: ps, text =>
    if some p = escape then
      match text with
      | c :: cs => lowerChar q == lowerChar c && likeMatches escape ps cs
      | [] => false
    else if p = '%' then someRest (likeMatches escape (q :: ps)) text
    else
      match text with
      | c :: cs => (p == '_' || lowerChar p == lowerChar c) && likeMatches escape (q :: ps) cs
      | [] => false

/-- A place in a pattern of the second kind. -/
inductive GlobItem where
  | any
  | one
  | char (c : Char)
  /-- One of several characters, or none of them. -/
  | set (negated : Bool) (ranges : List (Char × Char))

/-- The ranges of a set of characters, up to its closing bracket; a hyphen in front of that bracket
stands for itself. -/
def setRanges : List Char → Option (List (Char × Char) × List Char)
  | [] => none
  | ']' :: rest => some ([], rest)
  | c :: '-' :: ']' :: rest => some ([(c, c), ('-', '-')], rest)
  | c :: '-' :: e :: rest => (setRanges rest).map fun r => ((c, e) :: r.1, r.2)
  | c :: rest => (setRanges rest).map fun r => ((c, c) :: r.1, r.2)

/-- A set of characters behind its opening bracket; a closing bracket in front belongs to it. -/
def globSet (cs : List Char) : Option (GlobItem × List Char) :=
  let negated := cs.head? == some '^'
  let cs := if negated then cs.drop 1 else cs
  match cs with
  | ']' :: rest => (setRanges rest).map fun r => (.set negated ((']', ']') :: r.1), r.2)
  | cs => (setRanges cs).map fun r => (.set negated r.1, r.2)

/-- The items of a pattern; nothing when a set is not closed. -/
def globItems : Nat → List Char → Option (List GlobItem)
  | 0, _ => none
  | _ + 1, [] => some []
  | fuel + 1, '*' :: cs => (globItems fuel cs).map (.any :: ·)
  | fuel + 1, '?' :: cs => (globItems fuel cs).map (.one :: ·)
  | fuel + 1, '[' :: cs => do
    let (item, rest) ← globSet cs
    let items ← globItems fuel rest
    some (item :: items)
  | fuel + 1, c :: cs => (globItems fuel cs).map (.char c :: ·)

/-- Whether a text matches the items of a pattern. -/
def itemsMatch : List GlobItem → List Char → Bool
  | [], text => text.isEmpty
  | .any :: items, text => someRest (itemsMatch items) text
  | .one :: items, text => match text with
    | _ :: cs => itemsMatch items cs
    | [] => false
  | .char p :: items, text => match text with
    | c :: cs => p == c && itemsMatch items cs
    | [] => false
  | .set negated ranges :: items, text => match text with
    | c :: cs => (ranges.any fun r => r.1 ≤ c && c ≤ r.2) != negated && itemsMatch items cs
    | [] => false

/-- Whether a text matches a pattern in which `*` stands for any text, `?` for any character and
brackets for one of several characters. -/
def globMatches (glob text : List Char) : Bool :=
  match globItems (glob.length + 1) glob with
  | some items => itemsMatch items text
  | none => false

end Registrar.Sql
