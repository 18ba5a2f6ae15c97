/-
  QueryFuzz.Log.Filter
  ────────────────────
  **WHICH EVENTS ARE LET THROUGH.**

  A filter is a list of rules, the most specific first.  A rule is about the
  events whose target begins with a given text and that have certain fields,
  and lets them through up to a verbosity.  The first rule about an event
  decides.

      Filter.add    — put a rule in its place
      Filter.allows — whether an event is let through
-/
import QueryFuzz.Log.Event

namespace QueryFuzz

/-! ## §1. Rules. -/

/-- A rule about the events whose target begins with `start` and that have all of
`fields`. -/
structure FilterRule where
  start : Option String := none
  fields : List String := []
  /-- Events are let through up to this verbosity; zero for none. -/
  most : Nat
  deriving DecidableEq, Repr

namespace FilterRule

/-- Whether the rule is about an event. -/
def isAbout (rule : FilterRule) (e : Event) : Bool :=
  (rule.start.all fun start => start.toList.isPrefixOf e.target.path.toList)
    && rule.fields.all fun f => decide (f = "message") || (e.fields.map Prod.fst).contains f

/-- How specific a start of targets is: none least, then by its bytes. -/
def startRank (rule : FilterRule) : Nat :=
  match rule.start with
  | none => 0
  | some start => start.utf8ByteSize + 1

/-- The order of names in two lists, the one that ends first being less. -/
def compareNames : List String → List String → Ordering
  | [], [] => .eq
  | [], _ :: _ => .lt
  | _ :: _, [] => .gt
  | a :: as, b :: bs => (compare a b).then (compareNames as bs)

/-- The order of rules by how specific they are: the longer start, then more fields;
equally specific rules are told apart by their texts. -/
def order (a b : FilterRule) : Ordering :=
  (compare a.startRank b.startRank).then <|
    (compare a.fields.length b.fields.length).then <|
      (compareNames a.start.toList b.start.toList).then (compareNames a.fields b.fields)

end FilterRule

/-! ## §2. Filters. -/

/-- Rules, the most specific first. -/
abbrev Filter := List FilterRule

namespace Filter

/-- Put a rule in its place, instead of one with the same start and fields. -/
def add (rule : FilterRule) : Filter → Filter
  | [] => [rule]
  | r :: rest =>
      match rule.order r with
      | .gt => rule :: r :: rest
      | .eq => rule :: rest
      | .lt => r :: add rule rest

/-- Whether an event is let through. -/
def allows (filter : Filter) (e : Event) : Bool :=
  (filter.find? fun rule => rule.isAbout e).any fun rule =>
    decide (e.severity.verbosity ≤ rule.most)

end Filter

end QueryFuzz
