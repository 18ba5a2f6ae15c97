/-
  QueryFuzz.Document.Knobs
  ────────────────────────
  **OPTIONS AND PROFILES AS RECORDS OF A DOCUMENT.**

  Options are read the same way from every language of documents that can read
  their knobs: counts of 32 and 64 bits, a count that may be absent, and
  probabilities.  Every field has a default, and unknown keys are refused.
-/
import QueryFuzz.Document.Record
import QueryFuzz.Options

namespace QueryFuzz

/-- How a language of documents, with values of type `V`, reads knobs. -/
structure KnobReaders (V : Type) where
  count32 : V → Except Flaw Nat
  count32? : V → Except Flaw (Option Nat)
  count64 : V → Except Flaw Nat
  double : V → Except Flaw Double
  /-- Check a value that is passed over. -/
  skip : V → Except Flaw Unit

/-- A field that has a default. -/
def knob {V R α : Type} (name : String) (read : V → Except Flaw α) (set : α → R → R) :
    Field V R where
  name := name
  required := false
  read v r :=
    match read v with
    | .ok a => .ok (set a r)
    | .error p => .error p

/-- How options are written. -/
def Options.shape {V : Type} (readers : KnobReaders V) : RecordShape V Options where
  label := "GenerationOpts"
  fields :=
    [knob "retry_count" readers.count32 fun n o => { o with retryCount := n },
      knob "max_depth" readers.count32? fun n o => { o with maxDepth := n },
      knob "insert_prob" readers.double fun p o => { o with insertProb := p },
      knob "null_literal_prob" readers.double fun p o => { o with nullLiteralProb := p },
      knob "distinct_prob" readers.double fun p o => { o with distinctProb := p },
      knob "limit_prob" readers.double fun p o => { o with limitProb := p },
      knob "max_limit" readers.count32 fun n o => { o with maxLimit := n },
      knob "max_values_rows" readers.count32 fun n o => { o with maxValuesRows := n }]
  strict := true
  skip := readers.skip
  start := {}

end QueryFuzz
