import Registrar.Calendar.Text
import Registrar.Text.Quoted

/-!
# Values

What a filter compares with, what a statement binds and what a cell of a result row holds.  The
first five kinds are those that a store keeps; booleans, dates and timestamps come from columns
declared with those types and are stored as whole numbers and text; lists never come out of a
store.
-/

namespace Registrar

open Registrar.Text Registrar.Number Registrar.Calendar

/-- A dynamically typed value. -/
inductive Value where
  | null
  | integer (n : Int64)
  | real (x : Double)
  | text (s : String)
  | blob (bytes : List UInt8)
  | boolean (b : Bool)
  | date (d : Date)
  | timestamp (t : Timestamp)
  | list (items : List Value)

namespace Value

mutual

/-- Equality of values, decided. -/
def decEq : (a b : Value) → Decidable (a = b)
  | .null, b => match b with
    | .null => isTrue rfl
    | .integer _ | .real _ | .text _ | .blob _ | .boolean _ | .date _ | .timestamp _ | .list _ =>
      isFalse nofun
  | .integer n, b => match b with
    | .integer m => if h : n = m then isTrue (h ▸ rfl) else isFalse fun e => h (by cases e; rfl)
    | .null | .real _ | .text _ | .blob _ | .boolean _ | .date _ | .timestamp _ | .list _ =>
      isFalse nofun
  | .real x, b => match b with
    | .real y => if h : x = y then isTrue (h ▸ rfl) else isFalse fun e => h (by cases e; rfl)
    | .null | .integer _ | .text _ | .blob _ | .boolean _ | .date _ | .timestamp _ | .list _ =>
      isFalse nofun
  | .text s, b => match b with
    | .text t => if h : s = t then isTrue (h ▸ rfl) else isFalse fun e => h (by cases e; rfl)
    | .null | .integer _ | .real _ | .blob _ | .boolean _ | .date _ | .timestamp _ | .list _ =>
      isFalse nofun
  | .blob x, b => match b with
    | .blob y => if h : x = y then isTrue (h ▸ rfl) else isFalse fun e => h (by cases e; rfl)
    | .null | .integer _ | .real _ | .text _ | .boolean _ | .date _ | .timestamp _ | .list _ =>
      isFalse nofun
  | .boolean x, b => match b with
    | .boolean y => if h : x = y then isTrue (h ▸ rfl) else isFalse fun e => h (by cases e; rfl)
    | .null | .integer _ | .real _ | .text _ | .blob _ | .date _ | .timestamp _ | .list _ =>
      isFalse nofun
  | .date x, b => match b with
    | .date y => if h : x = y then isTrue (h ▸ rfl) else isFalse fun e => h (by cases e; rfl)
    | .null | .integer _ | .real _ | .text _ | .blob _ | .boolean _ | .timestamp _ | .list _ =>
      isFalse nofun
  | .timestamp x, b => match b with
    | .timestamp y => if h : x = y then isTrue (h ▸ rfl) else isFalse fun e => h (by cases e; rfl)
    | .null | .integer _ | .real _ | .text _ | .blob _ | .boolean _ | .date _ | .list _ =>
      isFalse nofun
  | .list xs, b => match b with
    | .list ys => match decEqList xs ys with
      | isTrue h => isTrue (h ▸ rfl)
      | isFalse h => isFalse fun e => h (by cases e; rfl)
    | .null | .integer _ | .real _ | .text _ | .blob _ | .boolean _ | .date _ | .timestamp _ =>
      isFalse nofun

/-- Equality of lists of values, decided. -/
def decEqList : (xs ys : List Value) → Decidable (xs = ys)
  | [], [] => isTrue rfl
  | [], _ :: _ => isFalse nofun
  | _ :: _, [] => isFalse nofun
  | x :: xs, y :: ys => match decEq x y, decEqList xs ys with
    | isTrue h, isTrue k => isTrue (h ▸ k ▸ rfl)
    | isFalse h, _ => isFalse fun e => h (by cases e; rfl)
    | _, isFalse k => isFalse fun e => k (by cases e; rfl)

end

instance : DecidableEq Value := decEq

instance : Inhabited Value := ⟨.null⟩

/-- Whether a value is missing. -/
def isNull : Value → Bool
  | .null => true
  | _ => false

/-- Whether a value is a list. -/
def isList : Value → Bool
  | .list _ => true
  | _ => false

/-- The text of a text value. -/
def text? : Value → Option String
  | .text s => some s
  | _ => none

/-- A boolean as a word. -/
def boolText (b : Bool) : String :=
  if b then "true" else "false"

/-- Texts with a separator between neighbours. -/
def joined (separator : String) (parts : List String) : String :=
  separator.intercalate parts

mutual

/-- The plain text of a value: nothing for a missing one, the elements of a list apart by
commas. -/
def display : Value → String
  | .null => ""
  | .integer n => intText n.toInt
  | .real x => RealLayout.plain.write x
  | .text s => s
  | .blob bytes => "<BLOB: " ++ intText bytes.length ++ " bytes>"
  | .boolean b => boolText b
  | .date d => d.text
  | .timestamp t => t.text
  | .list items => joined "," (displayAll items)

/-- The plain texts of several values. -/
def displayAll : List Value → List String
  | [] => []
  | v :: vs => display v :: displayAll vs

end

mutual

/-- A value as a message shows it, with the name of its kind. -/
def message : Value → String
  | .null => "Null"
  | .integer n => "Integer(" ++ intText n.toInt ++ ")"
  | .real x => "Real(" ++ RealLayout.message.write x ++ ")"
  | .text s => "Text(" ++ quoted s ++ ")"
  | .blob bytes =>
    "Blob([" ++ joined ", " (bytes.map fun b => intText b.toNat) ++ "])"
  | .boolean b => "Boolean(" ++ boolText b ++ ")"
  | .date d => "Date(" ++ d.text ++ ")"
  | .timestamp t => "Timestamp(" ++ t.markedText ++ ")"
  | .list items => "List([" ++ joined ", " (messageAll items) ++ "])"

/-- Several values as a message shows them. -/
def messageAll : List Value → List String
  | [] => []
  | v :: vs => message v :: messageAll vs

end

mutual

/-- A value as data interchange writes it: blobs as lists of bytes, dates and times as text. -/
def data : Value → String
  | .null => "null"
  | .integer n => intText n.toInt
  | .real x => RealLayout.data.write x
  | .text s => dataQuoted s
  | .blob bytes => "[" ++ joined "," (bytes.map fun b => intText b.toNat) ++ "]"
  | .boolean b => boolText b
  | .date d => dataQuoted d.text
  | .timestamp t => dataQuoted t.markedText
  | .list items => "[" ++ joined "," (dataAll items) ++ "]"

/-- Several values as data interchange writes them. -/
def dataAll : List Value → List String
  | [] => []
  | v :: vs => data v :: dataAll vs

end

/-- Names with values, as data interchange writes them. -/
def dataPairs (pairs : List (String × Value)) : String :=
  "\x7b" ++ joined "," (pairs.map fun pair => dataQuoted pair.1 ++ ":" ++ pair.2.data) ++ "\x7d"

end Value

end Registrar
