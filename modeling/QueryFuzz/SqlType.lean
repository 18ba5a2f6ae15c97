/-
  QueryFuzz.SqlType
  ─────────────────
  **THE TYPES THE GENERATOR REASONS ABOUT.**

  Three concrete base types and a wildcard.  The wildcard is a request
  only: it is resolved to a concrete type before anything needs a type's
  identity.  Nullability is carried along and never takes part in matching.

      accepts   — a request accepts a candidate: same base, or a wildcard
      ofOid?    — base type of an engine's type number
      ofName?   — base type of an engine's type name, letter case ignored
-/

namespace QueryFuzz

/-! ## §1. Base types. -/

/-- What an expression evaluates to, nullability aside. -/
inductive BaseType where
  /-- The wildcard: any base type will do. -/
  | any
  | int
  | bool
  | string
  deriving DecidableEq, Repr, Inhabited

namespace BaseType

/-- The base types an expression may have, in the order they are drawn from. -/
def concrete : List BaseType := [int, bool, string]

/-- Whether this is the wildcard. -/
def isWildcard : BaseType → Bool
  | any => true
  | _ => false

/-- Place in the fixed order of base types; an index lists its entries by it. -/
def rank : BaseType → Nat
  | any => 0
  | int => 1
  | bool => 2
  | string => 3

theorem rank_injective {a b : BaseType} (h : a.rank = b.rank) : a = b := by
  cases a <;> cases b <;> simp_all [rank]

/-- The base type an engine's type number stands for, when it is modelled. -/
def ofOid? (oid : Int) : Option BaseType :=
  if oid = 20 then some int
  else if oid = 16 then some bool
  else if oid = 25 then some string
  else none

/-- Names of the types whose values are integers. -/
def intNames : List String :=
  ["INT", "INT2", "INT4", "INT8", "INTEGER", "BIGINT", "SMALLINT"]

/-- Names of the types whose values are truth values. -/
def boolNames : List String := ["BOOL", "BOOLEAN"]

/-- Names of the types whose values are character strings. -/
def stringNames : List String := ["STRING", "TEXT", "VARCHAR", "CHAR"]

/-- The base type an engine's type name stands for, when it is modelled.  The
case of ASCII letters does not matter; other characters have no case here. -/
def ofName? (name : String) : Option BaseType :=
  let upper := name.toUpper
  if upper ∈ intNames then some int
  else if upper ∈ boolNames then some bool
  else if upper ∈ stringNames then some string
  else none

/-- The type's name in casts, NULL literals and column definitions. -/
def sqlName : BaseType → String
  | any => "<any>"
  | int => "int"
  | bool => "bool"
  | string => "string"

/-- The type's name in catalog documents. -/
def label : BaseType → String
  | any => "any"
  | int => "int"
  | bool => "bool"
  | string => "string"

end BaseType

/-! ## §2. Types with nullability. -/

/-- A base type together with whether NULL is among its values. -/
structure SqlType where
  base : BaseType
  nullable : Bool
  deriving DecidableEq, Repr, Inhabited

namespace SqlType

/-- The wildcard request. -/
def any : SqlType := ⟨.any, true⟩

/-- A truth value or NULL: what a predicate is asked for as. -/
def bool : SqlType := ⟨.bool, true⟩

/-- An integer or NULL. -/
def int : SqlType := ⟨.int, true⟩

/-- A truth value that is never NULL: the type of an existence check. -/
def boolNotNull : SqlType := ⟨.bool, false⟩

/-- Whether this is a wildcard request. -/
def isWildcard (t : SqlType) : Bool := t.base.isWildcard

/-- Whether an expression of type `candidate` serves the request. -/
def accepts (request candidate : SqlType) : Bool :=
  request.isWildcard || decide (request.base = candidate.base)

theorem accepts_iff {request candidate : SqlType} :
    request.accepts candidate = true
      ↔ request.base = .any ∨ request.base = candidate.base := by
  cases hb : request.base <;>
    simp [accepts, isWildcard, BaseType.isWildcard, hb]

/-- The type as it is written in SQL: its base name. -/
def render (t : SqlType) : String := t.base.sqlName

end SqlType

end QueryFuzz
