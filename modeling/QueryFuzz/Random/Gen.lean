/-
  QueryFuzz.Random.Gen
  ────────────────────
  **RANDOM GENERATORS.**

  A generator reads words of a stream, hands out names and logs events.  It
  ends in one of three ways: it has found something, it has found nothing of
  the wanted shape (its caller may try again), or it is halted by a fault.
  What was drawn, named and logged stays so however it ends.

      Gen.below   — uniform draw by one widening product and one correction
      Gen.chance  — true with a given probability
      Gen.pick    — an element of a list; nothing from an empty one
      Gen.retry   — the first success of several attempts
-/
import QueryFuzz.Log.Event
import QueryFuzz.NameCounter
import QueryFuzz.Random.WordStream

namespace QueryFuzz

/-! ## §1. Outcomes and state. -/

/-- Why a generator cannot go on. -/
inductive Fault where
  /-- A draw from no values. -/
  | emptyRange
  /-- A chance outside [0, 1]. -/
  | notProbability (p : Double)
  /-- A scope below the deepest level that can be counted. -/
  | levelOverflow
  /-- A part of a list that starts behind the list's end. -/
  | sliceOutOfRange (start length : Nat)
  /-- A remainder of a division by zero. -/
  | zeroDivisor
  /-- Deeper nesting than the generators were given to work with. -/
  | nestingExhausted
  /-- More rounds of an open-ended loop than the generators were given. -/
  | roundsExhausted
  deriving DecidableEq, Repr

/-- The wording of a fault. -/
def Fault.message : Fault → String
  | emptyRange => "cannot sample empty range"
  | notProbability p => "p=" ++ p.render Double.marked ++ " is outside range [0.0, 1.0]"
  | levelOverflow => "attempt to add with overflow"
  | sliceOutOfRange start length =>
      "range start index " ++ toString start ++ " out of range for slice of length "
        ++ toString length
  | zeroDivisor => "attempt to calculate the remainder with a divisor of zero"
  | nestingExhausted => "nesting exhausted"
  | roundsExhausted => "rounds exhausted"

/-- How a generator ends. -/
inductive Outcome (α : Type) where
  | found (a : α)
  | nothing
  | halted (why : Fault)
  deriving DecidableEq, Repr

/-- What generators leave behind: words taken, names handed out, the log, and
how much work was done (generators entered, deepest scope opened). -/
structure GenState where
  taken : Nat := 0
  names : NameCounter := {}
  log : Array Event := #[]
  entered : Nat := 0
  deepest : Nat := 0
  deriving Inhabited

/-- A generator of values of type `α`. -/
def Gen (α : Type) : Type := WordStream → GenState → Outcome α × GenState

namespace Gen

variable {α β : Type}

/-- Run a generator on a stream from a state. -/
def run (g : Gen α) (words : WordStream) (s : GenState) : Outcome α × GenState := g words s

/-- Find a value without doing anything. -/
@[always_inline, inline] protected def pure (a : α) : Gen α := fun _ s => (.found a, s)

/-- Go on with what was found. -/
@[always_inline, inline] protected def bind (g : Gen α) (f : α → Gen β) : Gen β := fun words s =>
  match g words s with
  | (.found a, s') => f a words s'
  | (.nothing, s') => (.nothing, s')
  | (.halted why, s') => (.halted why, s')

@[always_inline, inline] instance : Monad Gen where
  pure := Gen.pure
  bind := Gen.bind

/-- Find nothing. -/
def nothing : Gen α := fun _ s => (.nothing, s)

/-- Stop with a fault. -/
def halt (why : Fault) : Gen α := fun _ s => (.halted why, s)

/-- Try the second generator when the first finds nothing. -/
def orElse (g h : Gen α) : Gen α := fun words s =>
  match g words s with
  | (.nothing, s') => h words s'
  | done => done

/-- The first success of at most `n` attempts. -/
def retry : Nat → Gen α → Gen α
  | 0, _ => nothing
  | n + 1, g => fun words s =>
      match g words s with
      | (.nothing, s') => retry n g words s'
      | done => done

theorem retry_succ (n : Nat) (g : Gen α) : retry (n + 1) g = g.orElse (retry n g) := rfl

/-- Generate for every element, left to right, and stop at the first failure. -/
def traverse (f : α → Gen β) : List α → Gen (List β)
  | [] => pure []
  | a :: as => do
      let b ← f a
      let bs ← traverse f as
      pure (b :: bs)

/-- Generate `n` values one after the other. -/
def times : Nat → Gen α → Gen (List α)
  | 0, _ => pure []
  | n + 1, g => do
      let a ← g
      let as ← times n g
      pure (a :: as)

/-! ## §2. Draws. -/

/-- The next word of the stream. -/
@[inline] def word : Gen UInt32 := fun words s => (.found (words s.taken), { s with taken := s.taken + 1 })

/-- The next two words as one number, low half first. -/
def doubleWord : Gen Nat := do
  let low ← word
  let high ← word
  pure (low.toNat + 2 ^ 32 * high.toNat)

/-- A number below `n`, from digits below `base`: the high half of the product of a
digit and `n`.  Where the low half is so large that the fraction cut off could carry, a
second digit extends the product and its carry is added. -/
def scaled (base : Nat) (digit : Gen Nat) (n : Nat) : Gen Nat := do
  let x ← digit
  let high := x * n / base
  let low := x * n % base
  if base - n < low then
    let y ← digit
    if base ≤ low + y * n / base then pure (high + 1) else pure high
  else pure high

/-- A number below `n`, by single words where these are as many as `n`, else by pairs of
words. -/
def below (n : Nat) : Gen Nat :=
  if n = 0 then halt .emptyRange
  else if n ≤ 2 ^ 32 then scaled (2 ^ 32) (UInt32.toNat <$> word) n
  else scaled (2 ^ 64) doubleWord n

/-- A number from 1 to `n`. -/
def die (n : Nat) : Gen Nat := do
  let k ← below n
  pure (k + 1)

/-- True with probability `p`: certain without a draw for one, else two words,
low half first, stay below `p` times 2⁶⁴. -/
def chance (p : Double) : Gen Bool :=
  if p = Double.one then pure true
  else if p.isProbability then do
    let low ← word
    let high ← word
    pure (decide (low.toNat + 2 ^ 32 * high.toNat < p.timesWord64))
  else halt (.notProbability p)

/-- One half. -/
def half : Double := ⟨0x3FE0000000000000⟩

/-- Heads or tails. -/
def coin : Gen Bool := chance half

/-- True once in `n` times, the odds being the double nearest to `1 / n`. -/
def oneIn (n : Nat) : Gen Bool := chance (Double.ofRatio false 1 (max n 1))

/-- An element of a list, each with the same odds; nothing, and no draw, from an
empty list. -/
def pick (choices : List α) : Gen α :=
  if choices.isEmpty then nothing
  else do
    let i ← below choices.length
    match choices[i]? with
    | some a => pure a
    | none => nothing

/-! ## §3. Names, log and effort. -/

/-- A fresh name with the given stem. -/
def fresh (stem : String) : Gen String := fun _ s =>
  let (name, names) := s.names.allocate stem
  (.found name, { s with names })

/-- Log an event. -/
def note (e : Event) : Gen Unit := fun _ s => (.found (), { s with log := s.log.push e })

/-- Log an event when a generator finds nothing. -/
def noting (g : Gen α) (e : Event) : Gen α := g.orElse do note e; nothing

/-- Count that a generator is entered. -/
def enter : Gen Unit := fun _ s => (.found (), { s with entered := s.entered + 1 })

/-- Record that a scope of a level is opened. -/
def reach (level : Nat) : Gen Unit := fun _ s =>
  (.found (), { s with deepest := max s.deepest level })

end Gen

end QueryFuzz
