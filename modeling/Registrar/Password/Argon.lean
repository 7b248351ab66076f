import Registrar.Password.Blake

/-!
# The Argon2id function

Derives bytes from a password and a salt by filling a memory with blocks of 1024 bytes, each made
from the block before it and a block that was made earlier.  Which earlier block is taken depends
on nothing secret in the first half of the first pass, and on the contents of the memory afterwards.
There is one lane.
-/

namespace Registrar.Password.Argon

open Registrar.Password (Words16 Quarter turn)

/-- What a derivation costs. -/
structure Cost where
  /-- The memory in blocks. -/
  memory : Nat
  /-- How often the memory is filled. -/
  passes : Nat
deriving DecidableEq

/-- The cost of new digests. -/
def Cost.standard : Cost :=
  ⟨19456, 2⟩

/-- The least cost there is. -/
def Cost.least : Cost :=
  ⟨8, 1⟩

/-- The number of blocks in a quarter of the memory. -/
def Cost.slice (cost : Cost) : Nat :=
  cost.memory / 4

/-- The number of blocks that are filled. -/
def Cost.blocks (cost : Cost) : Nat :=
  4 * cost.slice

/-- A block of memory, as eight rows of sixteen words. -/
structure Block where
  rows : Vector Words16 8

namespace Block

/-- The block whose words are zero. -/
def zero : Block :=
  ⟨Vector.replicate 8 Words16.zero⟩

/-- The block of 1024 bytes. -/
def ofBytes (bytes : List UInt8) : Block :=
  let parts := (pieces 128 bytes).toArray
  ⟨Vector.ofFn fun i => Words16.ofBytes (parts.getD i [])⟩

/-- The block that starts with some words and goes on with zeros. -/
def ofWords (words : List UInt64) : Block :=
  let words := words.toArray
  ⟨Vector.ofFn fun i => Words16.ofFn fun j => words.getD (16 * i + j) 0⟩

/-- The 1024 bytes of a block. -/
def toBytes (block : Block) : List UInt8 :=
  block.rows.toList.flatMap Words16.toBytes

/-- The word at a place. -/
def word (block : Block) (i : Nat) : UInt64 :=
  (block.rows[i / 16]?.getD Words16.zero).get (i % 16)

/-- Adds blocks bit by bit. -/
def xor (x y : Block) : Block :=
  ⟨Vector.zipWith Words16.xor x.rows y.rows⟩

/-- Makes columns rows: pairs of neighbouring words change places as in a square of eight by
eight pairs. -/
def transposed (block : Block) : Block :=
  ⟨Vector.ofFn fun i => Words16.ofFn fun j =>
    (block.rows[j / 2]?.getD Words16.zero).get (2 * i + j % 2)⟩

/-- The sum of two words and twice the product of their low halves. -/
@[inline]
def blend (x y : UInt64) : UInt64 :=
  x + y + 2 * (x &&& 0xffffffff) * (y &&& 0xffffffff)

/-- Stirs a quarter. -/
@[inline]
def mix (q : Quarter) : Quarter :=
  let a := blend q.a q.b
  let d := turn (q.d ^^^ a) 32
  let c := blend q.c d
  let b := turn (q.b ^^^ c) 24
  let a := blend a b
  let d := turn (d ^^^ a) 16
  let c := blend c d
  let b := turn (b ^^^ c) 63
  ⟨a, b, c, d⟩

/-- Stirs every row. -/
def stirRows (block : Block) : Block :=
  ⟨block.rows.map fun row => row.stir fun _ => mix⟩

/-- Makes a block from two: their sum is stirred by rows and then by columns, and added again. -/
def combine (x y : Block) : Block :=
  let sum := x.xor y
  sum.stirRows.transposed.stirRows.transposed.xor sum

end Block

/-- The numbers that say which earlier blocks are taken, for 128 places of a slice, where they
depend on nothing secret. -/
def addresses (cost : Cost) (pass slice count : Nat) : Block :=
  let words := [pass, 0, slice, cost.blocks, cost.passes, 2, count].map Nat.toUInt64
  Block.zero.combine (Block.zero.combine (Block.ofWords words))

/-- The place of the earlier block that is taken for a place of a slice, from a number that chooses
among the blocks that may be taken. -/
def reference (cost : Cost) (pass slice place : Nat) (choice : UInt64) : Nat :=
  let low := choice.toNat % Nat.pow 2 32
  let area :=
    if pass = 0 then slice * cost.slice + place - 1 else cost.blocks - cost.slice + place - 1
  let back := area * (low * low / Nat.pow 2 32) / Nat.pow 2 32
  let first := if pass = 0 ∨ slice = 3 then 0 else (slice + 1) * cost.slice
  (first + (area - 1 - back)) % cost.blocks

/-- The memory while it is filled, and the numbers that choose blocks in the current slice, if they
depend on nothing secret. -/
structure State where
  memory : Array Block
  addresses : Block

/-- Makes the block at a place of a slice. -/
def fillPlace (cost : Cost) (pass slice place : Nat) (state : State) : State :=
  let current := slice * cost.slice + place
  let before := state.memory.getD (if current = 0 then cost.blocks - 1 else current - 1) Block.zero
  let isOpen := pass = 0 ∧ slice < 2
  let chosen := if isOpen ∧ place % 128 = 0 then addresses cost pass slice (place / 128 + 1)
    else state.addresses
  if pass = 0 ∧ current < 2 then { state with addresses := chosen }
  else
    let choice := if isOpen then chosen.word (place % 128) else before.word 0
    let earlier := state.memory.getD (reference cost pass slice place choice) Block.zero
    let made := before.combine earlier
    let block :=
      if pass = 0 then made else made.xor (state.memory.getD current Block.zero)
    ⟨state.memory.setIfInBounds current block, chosen⟩

/-- Fills the memory. -/
def fill (cost : Cost) (memory : Array Block) : Array Block :=
  (Nat.fold cost.passes (fun pass _ state =>
    Nat.fold 4 (fun slice _ state =>
      Nat.fold cost.slice (fun place _ state => fillPlace cost pass slice place state) state)
      state) (State.mk memory Block.zero)).memory

/-- The bytes that a derivation starts from. -/
def seed (cost : Cost) (length : Nat) (password salt : List UInt8) : List UInt8 :=
  Blake.hash 64 (fourBytes 1 ++ fourBytes length ++ fourBytes cost.memory ++
    fourBytes cost.passes ++ fourBytes 0x13 ++ fourBytes 2 ++
    fourBytes password.length ++ password ++ fourBytes salt.length ++ salt ++
    fourBytes 0 ++ fourBytes 0)

/-- Derives bytes from a password and a salt. -/
def derive (cost : Cost) (length : Nat) (password salt : List UInt8) : List UInt8 :=
  let seed := seed cost length password salt
  let first := fun (i : Nat) =>
    Block.ofBytes (Blake.longHash 1024 (seed ++ fourBytes i ++ fourBytes 0))
  let memory := (Array.replicate cost.blocks Block.zero).setIfInBounds 0 (first 0)
  let filled := fill cost (memory.setIfInBounds 1 (first 1))
  Blake.longHash length (filled.getD (cost.blocks - 1) Block.zero).toBytes

end Registrar.Password.Argon
