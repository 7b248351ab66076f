import Registrar.Password.Words

/-!
# The BLAKE2b hash

A hash of one to sixty-four bytes.  The bytes are taken in blocks of 128, the last one filled up
with zeros; each block is stirred into a state of eight words in twelve rounds, together with the
number of bytes taken so far and the mark of the last block.
-/

namespace Registrar.Password.Blake

/-- The first words of the state. -/
def start : List UInt64 :=
  [0x6a09e667f3bcc908, 0xbb67ae8584caa73b, 0x3c6ef372fe94f82b, 0xa54ff53a5f1d36f1,
   0x510e527fade682d1, 0x9b05688c2b3e6c1f, 0x1f83d9abfb41bd6b, 0x5be0cd19137e2179]

/-- The order in which the words of a block are taken, by round; after ten rounds the orders start
again. -/
def orders : List (List Nat) :=
  [[0, 1, 2, 3, 4, 5, 6, 7, 8, 9, 10, 11, 12, 13, 14, 15],
   [14, 10, 4, 8, 9, 15, 13, 6, 1, 12, 0, 2, 11, 7, 5, 3],
   [11, 8, 12, 0, 5, 2, 15, 13, 10, 14, 3, 6, 7, 1, 9, 4],
   [7, 9, 3, 1, 13, 12, 11, 14, 2, 6, 5, 10, 4, 0, 15, 8],
   [9, 0, 5, 7, 2, 4, 10, 15, 14, 1, 11, 12, 6, 8, 3, 13],
   [2, 12, 6, 10, 0, 11, 8, 3, 4, 13, 7, 5, 15, 14, 1, 9],
   [12, 5, 1, 15, 14, 13, 4, 10, 0, 7, 6, 3, 9, 2, 8, 11],
   [13, 11, 7, 14, 12, 1, 3, 9, 5, 0, 15, 4, 8, 6, 2, 10],
   [6, 15, 14, 9, 11, 3, 0, 8, 12, 2, 13, 7, 1, 4, 10, 5],
   [10, 2, 8, 4, 7, 6, 1, 5, 15, 11, 9, 14, 3, 12, 13, 0]]

/-- Stirs a quarter together with two words of a block. -/
def mix (x y : UInt64) (q : Quarter) : Quarter :=
  let a := q.a + q.b + x
  let d := turn (q.d ^^^ a) 32
  let c := q.c + d
  let b := turn (q.b ^^^ c) 24
  let a := a + b + y
  let d := turn (d ^^^ a) 16
  let c := c + d
  let b := turn (b ^^^ c) 63
  ⟨a, b, c, d⟩

/-- One round: stirs a state together with a block, whose words are taken in an order. -/
def round (block : Words16) (order : List Nat) (state : Words16) : Words16 :=
  state.stir fun i => mix (block.get (order.getD (2 * i) 0)) (block.get (order.getD (2 * i + 1) 0))

/-- Stirs a block into a state. `taken` is the number of bytes taken, this block included. -/
def compress (state : List UInt64) (block : Words16) (taken : Nat) (isLast : Bool) :
    List UInt64 :=
  let extra : List UInt64 :=
    [0, 0, 0, 0, taken.toUInt64, (taken / Nat.pow 2 64).toUInt64,
      if isLast then 0xffffffffffffffff else 0, 0]
  let words := (state ++ List.zipWith (· ^^^ ·) start extra).toArray
  let stirred := (orders ++ orders.take 2).foldl (fun state order => round block order state)
    (Words16.ofFn fun i => words.getD i 0)
  state.mapIdx fun i word => word ^^^ stirred.get i ^^^ stirred.get (i + 8)

/-- Stirs blocks into a state one after another. -/
def absorb (state : List UInt64) (taken : Nat) : List (List UInt8) → List UInt64
  | [] => state
  | [last] => compress state (Words16.ofBytes last) (taken + last.length) true
  | block :: blocks =>
    absorb (compress state (Words16.ofBytes block) (taken + block.length) false)
      (taken + block.length) blocks

/-- The hash of some bytes, of a length of 64 at most. -/
def hash (length : Nat) (bytes : List UInt8) : List UInt8 :=
  let state := start.mapIdx fun i word =>
    if i = 0 then word ^^^ 0x01010000 ^^^ length.toUInt64 else word
  ((absorb state 0 (pieces 128 bytes)).flatMap (bytesOfWord 8)).take length

/-- The chain of hashes behind a hash of 64 bytes: the first half of each, and in the end what is
missing. -/
def chain : Nat → List UInt8 → List UInt8
  | 0, _ => []
  | length + 1, last =>
    if length + 1 ≤ 64 then hash (length + 1) last
    else
      let next := hash 64 last
      next.take 32 ++ chain (length + 1 - 32) next
termination_by length => length
decreasing_by exact Nat.sub_lt (Nat.succ_pos length) (by decide)

/-- The hash of some bytes, of any length. -/
def longHash (length : Nat) (bytes : List UInt8) : List UInt8 :=
  chain length (fourBytes length ++ bytes)

end Registrar.Password.Blake
