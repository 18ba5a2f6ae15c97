/-
  QueryFuzz.Generate.Scope
  ────────────────────────
  **WHAT A GENERATOR SEES WHERE IT STANDS.**

  A scope is a nesting level and the table references in view.  A child scope
  starts with a copy of its parent's references, so what a child brings into
  view is never seen by its parent or its siblings.  The setting (catalog,
  options) is the same for all scopes of a statement.
-/
import QueryFuzz.Catalog.Basic
import QueryFuzz.Random.Gen
import QueryFuzz.Statement.Basic

namespace QueryFuzz.Generate

/-- What all generators of a statement share: the catalog, the options, and how
many rounds an open-ended loop of dice rolls may take. -/
structure Setting where
  catalog : Catalog
  options : Options
  rounds : Nat

/-- A nesting level with the table references in view, outer ones first. -/
structure Scope where
  level : Nat := 0
  refs : List TableRef := []
  deriving DecidableEq, Repr

namespace Scope

/-- The outermost scope: nothing in view. -/
def root : Scope := {}

/-- The deepest level that can be counted. -/
def deepestLevel : Nat := 2 ^ 32 - 1

/-- The scope one level below, with the same references. -/
def child (s : Scope) : Scope := { s with level := s.level + 1 }

/-- Open the scope one level below. -/
def push (s : Scope) : Gen Scope :=
  if s.level < deepestLevel then do
    Gen.reach (s.level + 1)
    pure s.child
  else Gen.halt .levelOverflow

/-- The scope that sees further references, behind its own. -/
def seeing (s : Scope) (refs : List TableRef) : Scope := { s with refs := s.refs ++ refs }

@[simp] theorem child_level (s : Scope) : s.child.level = s.level + 1 := rfl

@[simp] theorem child_refs (s : Scope) : s.child.refs = s.refs := rfl

@[simp] theorem seeing_level (s : Scope) (refs : List TableRef) :
    (s.seeing refs).level = s.level := rfl

@[simp] theorem seeing_refs (s : Scope) (refs : List TableRef) :
    (s.seeing refs).refs = s.refs ++ refs := rfl

/-- The references in view from a place on. -/
def refsFrom (s : Scope) (start : Nat) : Gen (List TableRef) :=
  if start ≤ s.refs.length then pure (s.refs.drop start)
  else Gen.halt (.sliceOutOfRange start s.refs.length)

/-- Whether the scope is at the depth from which on only leaves are generated. -/
def atDepthLimit (s : Scope) (o : Options) : Bool :=
  o.maxDepth.any fun d => decide (d ≤ s.level)

end Scope

end QueryFuzz.Generate
