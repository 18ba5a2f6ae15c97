/-
  QueryFuzz.Document.Record
  ─────────────────────────
  **READING RECORDS FIELD BY FIELD.**

  A record is written as an object, its keys in any order, or as an array that
  gives the fields in the order of their declaration.  It is read from the
  front, and the first problem is the one reported: a key that is unknown to a
  strict record or given twice is a problem at the key, a missing field one at
  the end of the object.  Reading starts from a record of defaults and sets one
  field after the other.
-/
import QueryFuzz.Document.Problem

namespace QueryFuzz

/-! ## §1. Fields and records. -/

/-- One field of records of type `R` that are read from values of type `V`. -/
structure Field (V R : Type) where
  name : String
  /-- Whether the field has no default. -/
  required : Bool
  /-- Set the field to what a value holds. -/
  read : V → R → Except Flaw R

/-- How records of type `R` are read from values of type `V`. -/
structure RecordShape (V R : Type) where
  /-- What records are called in messages. -/
  label : String
  /-- The fields in order of declaration. -/
  fields : List (Field V R)
  /-- Whether unknown keys are refused. -/
  strict : Bool
  /-- Check a value that is passed over. -/
  skip : V → Except Flaw Unit
  /-- The record before any field is read. -/
  start : R

/-- A member of an object. -/
structure Member (V : Type) where
  key : Except Flaw String
  value : V
  /-- Where a key is reported that should not be there. -/
  place : Place := {}

/-- The end of an array or object: the place behind its bracket, or what is wrong
with a text in which there is none. -/
abbrev Closing := Except Flaw Place

namespace RecordShape

variable {V R : Type}

/-- What is wanted where a record is read. -/
def wanted (shape : RecordShape V R) : String := "struct " ++ shape.label

/-- The field of a name. -/
def field? (shape : RecordShape V R) (name : String) : Option (Field V R) :=
  shape.fields.find? fun f => decide (f.name = name)

/-! ## §2. Objects. -/

/-- The end of an object in which the fields `seen` were given. -/
def finish (shape : RecordShape V R) (ending : Closing) (seen : List String) (r : R) :
    Except Flaw R :=
  match ending with
  | .error p => .error p
  | .ok place =>
      match shape.fields.find? fun f => f.required && !seen.contains f.name with
      | some f => .error ⟨.missingField f.name, place⟩
      | none => .ok r

/-- Read the members of an object; `seen` lists the fields given so far. -/
def readMembers (shape : RecordShape V R) (ending : Closing) :
    List (Member V) → List String → R → Except Flaw R
  | [], seen, r => shape.finish ending seen r
  | m :: rest, seen, r =>
      match m.key with
      | .error p => .error p
      | .ok name =>
          match shape.field? name with
          | none =>
              if shape.strict then
                .error ⟨.unknownField name (shape.fields.map Field.name), m.place⟩
              else
                match shape.skip m.value with
                | .error p => .error p
                | .ok () => readMembers shape ending rest seen r
          | some f =>
              if seen.contains name then .error ⟨.duplicateField name, m.place⟩
              else
                match f.read m.value r with
                | .error p => .error p
                | .ok r => readMembers shape ending rest (name :: seen) r

/-- The record of an object's members. -/
def ofMembers (shape : RecordShape V R) (members : List (Member V)) (ending : Closing) :
    Except Flaw R :=
  shape.readMembers ending members [] shape.start

/-! ## §3. Arrays. -/

/-- The problem with an array that ends before the field at an index. -/
def tooShort (shape : RecordShape V R) (index : Nat) : ReadProblem :=
  .tooShort index
    (shape.wanted ++ " with " ++ toString shape.fields.length
      ++ if shape.fields.length = 1 then " element" else " elements")

/-- Read the elements of an array into the given fields, the last of all.  Elements
behind the last field are left alone. -/
def readItems (shape : RecordShape V R) (ending : Closing) :
    List (Field V R) → List V → R → Except Flaw R
  | [], _, r => .ok r
  | f :: fs, [], r =>
      match ending with
      | .error p => .error p
      | .ok place =>
          if f.required then .error ⟨shape.tooShort (shape.fields.length - (f :: fs).length), place⟩
          else readItems shape ending fs [] r
  | f :: fs, v :: vs, r =>
      match f.read v r with
      | .error p => .error p
      | .ok r => readItems shape ending fs vs r

/-- The record of an array's elements. -/
def ofItems (shape : RecordShape V R) (items : List V) (ending : Closing) : Except Flaw R :=
  shape.readItems ending shape.fields items shape.start

end RecordShape

end QueryFuzz
