/-
  QueryFuzz.Random.WordStream
  ───────────────────────────
  **ENDLESS STREAMS OF 32-BIT WORDS.**

  Every random choice reads words of one stream from front to back, so a
  position in the stream is all the state there is.  `chacha8 seed` is the
  stream the program runs on: the key is spread from the seed by a permuted
  congruential generator, block `c` of sixteen words is the ChaCha function
  with four double rounds of key and counter `c`, and word `i` stands at
  place `i mod 16` of block `i / 16`.
-/

namespace QueryFuzz

/-- An endless stream of words, by position. -/
abbrev WordStream := Nat → UInt32

/-- The words of a list, and behind them another stream. -/
def WordStream.after (first : Array UInt32) (rest : WordStream) : WordStream := fun i =>
  if h : i < first.size then first[i] else rest (i - first.size)

namespace ChaCha

/-! ## §1. The block function. -/

/-- The sixteen words of a ChaCha state, row by row. -/
structure Block where
  (x0 x1 x2 x3 : UInt32)
  (x4 x5 x6 x7 : UInt32)
  (x8 x9 xA xB : UInt32)
  (xC xD xE xF : UInt32)
  deriving DecidableEq

/-- The four words of a column or diagonal. -/
structure Quarter where
  (a b c d : UInt32)

/-- The word turned left by `n` bits. -/
@[inline] def rotateLeft (x n : UInt32) : UInt32 := (x <<< n) ||| (x >>> (32 - n))

/-- Add, exclude, turn: the quarter round. -/
@[inline] def quarterRound (a b c d : UInt32) : Quarter :=
  let a := a + b
  let d := rotateLeft (d ^^^ a) 16
  let c := c + d
  let b := rotateLeft (b ^^^ c) 12
  let a := a + b
  let d := rotateLeft (d ^^^ a) 8
  let c := c + d
  let b := rotateLeft (b ^^^ c) 7
  ⟨a, b, c, d⟩

/-- A quarter round on every column and then on every diagonal. -/
def doubleRound (s : Block) : Block :=
  let p := quarterRound s.x0 s.x4 s.x8 s.xC
  let q := quarterRound s.x1 s.x5 s.x9 s.xD
  let r := quarterRound s.x2 s.x6 s.xA s.xE
  let t := quarterRound s.x3 s.x7 s.xB s.xF
  let u := quarterRound p.a q.b r.c t.d
  let v := quarterRound q.a r.b t.c p.d
  let w := quarterRound r.a t.b p.c q.d
  let z := quarterRound t.a p.b q.c r.d
  { x0 := u.a, x1 := v.a, x2 := w.a, x3 := z.a
    x4 := z.b, x5 := u.b, x6 := v.b, x7 := w.b
    x8 := w.c, x9 := z.c, xA := u.c, xB := v.c
    xC := v.d, xD := w.d, xE := z.d, xF := u.d }

/-- The word at a place of a block. -/
def Block.word (s : Block) (place : Nat) : UInt32 :=
  match place with
  | 0 => s.x0 | 1 => s.x1 | 2 => s.x2 | 3 => s.x3
  | 4 => s.x4 | 5 => s.x5 | 6 => s.x6 | 7 => s.x7
  | 8 => s.x8 | 9 => s.x9 | 10 => s.xA | 11 => s.xB
  | 12 => s.xC | 13 => s.xD | 14 => s.xE | _ => s.xF

/-! ## §2. Keys and the stream. -/

/-- A key of eight words. -/
structure Key where
  (k0 k1 k2 k3 k4 k5 k6 k7 : UInt32)

/-- The state that block `counter` starts from: four constants, the key, the
counter in two words, and zeros. -/
def Key.start (key : Key) (counter : UInt64) : Block :=
  { x0 := 0x61707865, x1 := 0x3320646E, x2 := 0x79622D32, x3 := 0x6B206574
    x4 := key.k0, x5 := key.k1, x6 := key.k2, x7 := key.k3
    x8 := key.k4, x9 := key.k5, xA := key.k6, xB := key.k7
    xC := counter.toUInt32, xD := (counter >>> 32).toUInt32, xE := 0, xF := 0 }

/-- Word `i` of the key's stream: the sum of the block's start and of what four
double rounds make of it. -/
def Key.stream (key : Key) : WordStream := fun i =>
  let start := key.start (UInt64.ofNat (i / 16))
  let mixed := doubleRound (doubleRound (doubleRound (doubleRound start)))
  start.word (i % 16) + mixed.word (i % 16)

/-- The next state of the congruential generator that spreads a seed. -/
def spread (state : UInt64) : UInt64 :=
  state * 6364136223846793005 + 11634580027462260723

/-- The output of the generator: the state's high bits folded and turned right
by its top five bits. -/
def spreadWord (state : UInt64) : UInt32 :=
  let x := (((state >>> 18) ^^^ state) >>> 27).toUInt32
  let turn := (state >>> 59).toUInt32
  (x >>> turn) ||| (x <<< ((32 - turn) % 32))

/-- The key spread from a seed. -/
def Key.ofSeed (seed : UInt64) : Key :=
  let s0 := spread seed
  let s1 := spread s0
  let s2 := spread s1
  let s3 := spread s2
  let s4 := spread s3
  let s5 := spread s4
  let s6 := spread s5
  let s7 := spread s6
  { k0 := spreadWord s0, k1 := spreadWord s1, k2 := spreadWord s2, k3 := spreadWord s3
    k4 := spreadWord s4, k5 := spreadWord s5, k6 := spreadWord s6, k7 := spreadWord s7 }

end ChaCha

/-- The stream of a seed. -/
def WordStream.chacha8 (seed : UInt64) : WordStream := (ChaCha.Key.ofSeed seed).stream

example : (WordStream.chacha8 0 0, WordStream.chacha8 0 3) = (0xA79A3B6C, 0x7746A55F) := by
  decide +kernel
example : WordStream.chacha8 0xFFFFFFFFFFFFFFFF 1 = 0xAF202386 := by decide +kernel

end QueryFuzz
