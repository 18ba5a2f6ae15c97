/-
  QueryFuzz.Proofs.Documents
  ──────────────────────────
  **A CATALOG IS READ BACK FROM ITS DOCUMENT, AND FROM MANY OTHERS.**

  Writing lists the entries of a catalog bucket after bucket, which is all that a
  built catalog knows of their order, so that reading and building give the
  catalog again.  The same comes of every document that says the same in another
  way.  Each single way is one rule of `RecordKind.Revised`; what a document is
  read as survives each of them, wherever in the document it is applied.

      RecordKind          — types, columns, tables, operators, functions, catalogs
      RecordKind.Revised  — the documents that say what a document says

  Main results:
    * `Revised.read_eq` — what is read of a document is read of its revisions;
    * `Draft.ofJson_toJson` — a draft is read from what it is written as;
    * `Catalog.Reachable.reads_back` — so is a catalog, and from all revisions of
      that, but from no document with another key at the top.
-/
import QueryFuzz.Proofs.Additions
import QueryFuzz.Proofs.Places

namespace QueryFuzz

open Json (Alike FieldPlaceless Reader)

/-! ## §1. The kinds of record in a document. -/

/-- The kinds of record in the document of a catalog. -/
inductive RecordKind where
  | type
  | column
  | table
  | operator
  | function
  | catalog
  deriving DecidableEq, Repr

namespace RecordKind

/-- What records of a kind are read as. -/
def Carrier : RecordKind → Type
  | type => SqlType
  | column => Column
  | table => Table
  | operator => Operator
  | function => SqlFunction
  | catalog => Draft

/-- How records of a kind are written. -/
def shape : (k : RecordKind) → RecordShape Json k.Carrier
  | type => SqlType.shape
  | column => Column.shape
  | table => Table.shape
  | operator => Operator.shape
  | function => SqlFunction.shape
  | catalog => Draft.shape

/-- Read a record of a kind. -/
def read (k : RecordKind) : Reader k.Carrier := Json.readRecord k.shape

/-- The keys that mean something in records of a kind. -/
def names : RecordKind → List String
  | type => ["base", "nullable"]
  | column => ["name", "type", "writability"]
  | table => ["name", "columns"]
  | operator => ["name", "left", "right", "out"]
  | function => ["name", "inputs", "out"]
  | catalog => ["tables", "operators", "functions"]

/-- The keys under which a record holds another one, and its kind. -/
inductive Holds : RecordKind → String → RecordKind → Prop where
  | columnType : Holds column "type" type
  | left : Holds operator "left" type
  | right : Holds operator "right" type
  | operatorOut : Holds operator "out" type
  | functionOut : Holds function "out" type

/-- The keys under which a record lists others, and their kind. -/
inductive Lists : RecordKind → String → RecordKind → Prop where
  | columns : Lists table "columns" column
  | inputs : Lists function "inputs" type
  | tables : Lists catalog "tables" table
  | operators : Lists catalog "operators" operator
  | functions : Lists catalog "functions" function

/-- The members that may be left out: they say what goes without saying. -/
inductive Omissible : RecordKind → String → Json → Prop where
  | nullable {span : Json.Span} : Omissible type "nullable" (.bool true span)
  | writable {span : Json.Span} :
      Omissible column "writability" (.string (.ok "writable") span)
  | empty {name : String} {start behind : List Char}
      (known : name ∈ ["tables", "operators", "functions"]) :
      Omissible catalog name (.array [] start (.ok behind))

/-! ## §2. Revisions. -/

/-- The document `w` of a record says what the document `v` says. -/
inductive Revised : RecordKind → Json → Json → Prop where
  | trans {k : RecordKind} {u v w : Json} (first : Revised k u v) (second : Revised k v w) :
      Revised k u w
  /-- Laid out in another way. -/
  | moved {k : RecordKind} {v w : Json} (alike : v.Alike w) : Revised k v w
  /-- With the keys of the record in another order. -/
  | reordered {k : RecordKind} {members members' : List (Json.Key × Json)} {start : List Char}
      {ending : Except Json.Stop (List Char)} (same : members.Perm members') :
      Revised k (.object members start ending) (.object members' start ending)
  /-- Without a member that says what goes without saying. -/
  | leftOut {k : RecordKind} {before after : List (Json.Key × Json)} {key : Json.Key} {v : Json}
      {name : String} {start : List Char} {ending : Except Json.Stop (List Char)}
      (text : key.text = .ok name) (default : Omissible k name v) :
      Revised k (.object (before ++ (key, v) :: after) start ending)
        (.object (before ++ after) start ending)
  /-- With a key that means nothing, and any value, in a record of an entry. -/
  | added {k : RecordKind} {before after : List (Json.Key × Json)} {key : Json.Key} {v : Json}
      {name : String} {start behind : List Char} {ending : Except Json.Stop (List Char)}
      (entry : k ≠ catalog) (text : key.text = .ok name) (unknown : name ∉ k.names)
      (whole : v.ending = .ok behind) :
      Revised k (.object (before ++ after) start ending)
        (.object (before ++ (key, v) :: after) start ending)
  /-- With a revision of a record that it holds. -/
  | inside {k k' : RecordKind} {before after : List (Json.Key × Json)} {key : Json.Key}
      {v w : Json} {name : String} {start : List Char} {ending : Except Json.Stop (List Char)}
      (text : key.text = .ok name) (holds : Holds k name k') (revised : Revised k' v w) :
      Revised k (.object (before ++ (key, v) :: after) start ending)
        (.object (before ++ (key, w) :: after) start ending)
  /-- With a revision of a record that it lists. -/
  | within {k k' : RecordKind} {before after : List (Json.Key × Json)} {key : Json.Key}
      {items items' : List Json} {v w : Json} {name : String} {start start' : List Char}
      {ending ending' : Except Json.Stop (List Char)} (text : key.text = .ok name)
      (lists : Lists k name k') (revised : Revised k' v w) :
      Revised k
        (.object (before ++ (key, .array (items ++ v :: items') start' ending') :: after)
          start ending)
        (.object (before ++ (key, .array (items ++ w :: items') start' ending') :: after)
          start ending)

end RecordKind

/-! ## §3. The shapes of the kinds. -/

section Fields

variable {R α β : Type} {name name' : String} {required required' : Bool} {read : Reader α}
  {read' : Reader β} {set : α → R → R} {set' : β → R → R}

/-- A field is set by what its reader reads. -/
theorem jsonField_read_eq_ok_iff {v : Json} {r r' : R} :
    (jsonField name required read set).read v r = .ok r' ↔
      ∃ a, read v = .ok a ∧ set a r = r' := by
  unfold jsonField
  dsimp only
  cases read v with
  | ok a => simp
  | error p => simp

/-- What sets a field also does so as any value that is read alike. -/
theorem jsonField_follows {v w : Json} {r r' : R} (alike : ∀ a, read v = .ok a → read w = .ok a)
    (h : (jsonField name required read set).read v r = .ok r') :
    (jsonField name required read set).read w r = .ok r' := by
  obtain ⟨a, found, rfl⟩ := jsonField_read_eq_ok_iff.1 h
  exact jsonField_read_eq_ok_iff.2 ⟨a, alike a found, rfl⟩

theorem jsonField_placeless (h : read.Placeless) :
    FieldPlaceless (jsonField name required read set) :=
  fun v w _ _ alike => jsonField_follows fun a => h v w a alike

/-- Fields that are set in either order pass each other. -/
theorem jsonField_passes (commute : ∀ a b r, set' b (set a r) = set a (set' b r)) :
    (jsonField name required read set).Passes (jsonField name' required' read' set') := by
  intro v w r r₁ r₂ first second
  obtain ⟨a, found, rfl⟩ := jsonField_read_eq_ok_iff.1 first
  obtain ⟨b, found', rfl⟩ := jsonField_read_eq_ok_iff.1 second
  exact ⟨set' b r, jsonField_read_eq_ok_iff.2 ⟨b, found', rfl⟩,
    jsonField_read_eq_ok_iff.2 ⟨a, found, (commute a b r).symm⟩⟩

/-- Fields that are set in either order commute. -/
theorem jsonField_commute (commute : ∀ a b r, set' b (set a r) = set a (set' b r)) :
    (jsonField name required read set).Passes (jsonField name' required' read' set')
      ∧ (jsonField name' required' read' set').Passes (jsonField name required read set) :=
  ⟨jsonField_passes commute, jsonField_passes fun b a r => (commute a b r).symm⟩

end Fields

/-- A record in a list may be put in another way. -/
theorem readItems_replace {α : Type} {read : Reader α} {v w : Json}
    (alike : ∀ a, read v = .ok a → read w = .ok a) {ending : Except Json.Stop (List Char)}
    {after : List Json} : ∀ {before : List Json} {as : List α},
      Json.readItems read ending (before ++ v :: after) = .ok as →
        Json.readItems read ending (before ++ w :: after) = .ok as
  | [], as, h => by
      simp only [List.nil_append, Json.readItems] at h ⊢
      split at h
      · cases h
      · rename_i a head
        rw [alike a head]
        exact h
  | u :: before, as, h => by
      simp only [List.cons_append, Json.readItems] at h ⊢
      split at h
      · cases h
      · split at h
        · cases h
        · rename_i as' tail
          rw [readItems_replace alike tail]
          exact h

theorem readList_replace {α : Type} {read : Reader α} {v w : Json}
    (alike : ∀ a, read v = .ok a → read w = .ok a) {before after : List Json}
    {start : List Char} {ending : Except Json.Stop (List Char)} (as : List α)
    (h : Json.readList read (.array (before ++ v :: after) start ending) = .ok as) :
    Json.readList read (.array (before ++ w :: after) start ending) = .ok as :=
  readItems_replace alike h

theorem SqlType.ofJson_placeless : Reader.Placeless SqlType.ofJson := by
  refine Json.readRecord_placeless rfl ?_
  refine List.forall_mem_cons.2 ⟨jsonField_placeless (Json.readVariant_placeless _), ?_⟩
  refine List.forall_mem_cons.2 ⟨jsonField_placeless Json.readBool_placeless, ?_⟩
  exact List.forall_mem_nil _

theorem Column.ofJson_placeless : Reader.Placeless Column.ofJson := by
  refine Json.readRecord_placeless rfl ?_
  refine List.forall_mem_cons.2 ⟨jsonField_placeless Json.readText_placeless, ?_⟩
  refine List.forall_mem_cons.2 ⟨jsonField_placeless SqlType.ofJson_placeless, ?_⟩
  refine List.forall_mem_cons.2 ⟨jsonField_placeless (Json.readVariant_placeless _), ?_⟩
  exact List.forall_mem_nil _

theorem Table.ofJson_placeless : Reader.Placeless Table.ofJson := by
  have columns := Json.readList_placeless Column.ofJson_placeless
  refine Json.readRecord_placeless rfl ?_
  refine List.forall_mem_cons.2 ⟨jsonField_placeless Json.readText_placeless, ?_⟩
  refine List.forall_mem_cons.2 ⟨jsonField_placeless columns, ?_⟩
  exact List.forall_mem_nil _

theorem Operator.ofJson_placeless : Reader.Placeless Operator.ofJson := by
  refine Json.readRecord_placeless rfl ?_
  refine List.forall_mem_cons.2 ⟨jsonField_placeless Json.readText_placeless, ?_⟩
  refine List.forall_mem_cons.2 ⟨jsonField_placeless SqlType.ofJson_placeless, ?_⟩
  refine List.forall_mem_cons.2 ⟨jsonField_placeless SqlType.ofJson_placeless, ?_⟩
  refine List.forall_mem_cons.2 ⟨jsonField_placeless SqlType.ofJson_placeless, ?_⟩
  exact List.forall_mem_nil _

theorem SqlFunction.ofJson_placeless : Reader.Placeless SqlFunction.ofJson := by
  have inputs := Json.readList_placeless SqlType.ofJson_placeless
  refine Json.readRecord_placeless rfl ?_
  refine List.forall_mem_cons.2 ⟨jsonField_placeless Json.readText_placeless, ?_⟩
  refine List.forall_mem_cons.2 ⟨jsonField_placeless inputs, ?_⟩
  refine List.forall_mem_cons.2 ⟨jsonField_placeless SqlType.ofJson_placeless, ?_⟩
  exact List.forall_mem_nil _

theorem Draft.ofJson_placeless : Reader.Placeless Draft.ofJson := by
  have tables := Json.readList_placeless Table.ofJson_placeless
  have operators := Json.readList_placeless Operator.ofJson_placeless
  have functions := Json.readList_placeless SqlFunction.ofJson_placeless
  refine Json.readRecord_placeless rfl ?_
  refine List.forall_mem_cons.2 ⟨jsonField_placeless tables, ?_⟩
  refine List.forall_mem_cons.2 ⟨jsonField_placeless operators, ?_⟩
  refine List.forall_mem_cons.2 ⟨jsonField_placeless functions, ?_⟩
  exact List.forall_mem_nil _

namespace RecordKind

theorem shape_names (k : RecordKind) : k.shape.fields.map Field.name = k.names := by
  cases k <;> rfl

theorem shape_skip (k : RecordKind) : k.shape.skip = Json.skip := by
  cases k <;> rfl

/-- Only catalogs are strict. -/
theorem shape_lax {k : RecordKind} (h : k ≠ catalog) : k.shape.strict = false := by
  cases k with
  | catalog => exact absurd rfl h
  | type | column | table | operator | function => rfl

theorem shape_orderless (k : RecordKind) : k.shape.Orderless := by
  refine RecordShape.orderless_of_pairwise ?_
  -- every two fields of a kind are different fields of the record
  cases k <;>
    repeat' first
      | exact List.Pairwise.nil
      | exact List.forall_mem_nil _
      | refine List.Pairwise.cons ?_ ?_
      | refine List.forall_mem_cons.2 ⟨jsonField_commute fun _ _ _ => rfl, ?_⟩

theorem read_placeless (k : RecordKind) : k.read.Placeless := by
  cases k with
  | type => exact SqlType.ofJson_placeless
  | column => exact Column.ofJson_placeless
  | table => exact Table.ofJson_placeless
  | operator => exact Operator.ofJson_placeless
  | function => exact SqlFunction.ofJson_placeless
  | catalog => exact Draft.ofJson_placeless

/-- What may be left out has a default, and says that. -/
theorem Omissible.idle {k : RecordKind} {name : String} {v : Json} (h : Omissible k name v) :
    ∀ f ∈ k.shape.fields, f.name = name →
      f.required = false ∧ f.read v k.shape.start = .ok k.shape.start := by
  cases h with
  | nullable =>
      refine List.forall_mem_cons.2 ⟨fun other => absurd other (by decide), ?_⟩
      exact List.forall_mem_cons.2 ⟨fun _ => ⟨rfl, rfl⟩, List.forall_mem_nil _⟩
  | writable =>
      refine List.forall_mem_cons.2 ⟨fun other => absurd other (by decide), ?_⟩
      refine List.forall_mem_cons.2 ⟨fun other => absurd other (by decide), ?_⟩
      exact List.forall_mem_cons.2 ⟨fun _ => ⟨rfl, rfl⟩, List.forall_mem_nil _⟩
  | empty known =>
      -- all three fields are lists that are empty at the start
      refine List.forall_mem_cons.2 ⟨fun _ => ⟨rfl, rfl⟩, ?_⟩
      refine List.forall_mem_cons.2 ⟨fun _ => ⟨rfl, rfl⟩, ?_⟩
      exact List.forall_mem_cons.2 ⟨fun _ => ⟨rfl, rfl⟩, List.forall_mem_nil _⟩

/-- A record that is held may be put in another way. -/
theorem Holds.follows {k k' : RecordKind} {name : String} (h : Holds k name k')
    {f : Field Json k.Carrier} (known : k.shape.field? name = some f) {v w : Json}
    (alike : ∀ a, k'.read v = .ok a → k'.read w = .ok a) {r r' : k.Carrier}
    (set : f.read v r = .ok r') : f.read w r = .ok r' := by
  cases h with
  | columnType | left | right | operatorOut | functionOut =>
      cases Option.some.inj known
      exact jsonField_follows alike set

/-- A record that is listed may be put in another way. -/
theorem Lists.follows {k k' : RecordKind} {name : String} (h : Lists k name k')
    {f : Field Json k.Carrier} (known : k.shape.field? name = some f) {v w : Json}
    (alike : ∀ a, k'.read v = .ok a → k'.read w = .ok a) {before after : List Json}
    {start : List Char} {ending : Except Json.Stop (List Char)} {r r' : k.Carrier}
    (set : f.read (.array (before ++ v :: after) start ending) r = .ok r') :
    f.read (.array (before ++ w :: after) start ending) r = .ok r' := by
  cases h with
  | columns | inputs | tables | operators | functions =>
      cases Option.some.inj known
      exact jsonField_follows (readList_replace alike) set

/-! ## §4. What revisions are read as. -/

section Revised

variable {k : RecordKind}

/-- An object is read as a record when its members are and it ends. -/
theorem read_object_eq_ok_iff {members : List (Json.Key × Json)} {start : List Char}
    {ending : Except Json.Stop (List Char)} {a : k.Carrier} :
    k.read (.object members start ending) = .ok a ↔
      ending.isOk = true ∧ k.shape.Reads (members.map Json.member) [] k.shape.start a := by
  rw [← Json.closing_eq_ok_iff]
  exact RecordShape.ofMembers_eq_ok_iff

/-- The value of one member may give way to one that is read alike. -/
theorem read_replace {before after : List (Json.Key × Json)} {key : Json.Key} {v w : Json}
    {name : String} {start : List Char} {ending : Except Json.Stop (List Char)}
    {a : k.Carrier} (text : key.text = .ok name) (known : name ∈ k.names)
    (alike : ∀ f, k.shape.field? name = some f →
      ∀ r r', f.read v r = .ok r' → f.read w r = .ok r')
    (h : k.read (.object (before ++ (key, v) :: after) start ending) = .ok a) :
    k.read (.object (before ++ (key, w) :: after) start ending) = .ok a := by
  obtain ⟨whole, reads⟩ := read_object_eq_ok_iff.1 h
  rw [List.map_append, List.map_cons] at reads
  -- the member has one key only, so that the one field it can set is that of its name
  have same : ∀ other, (Json.member (key, v)).key = .ok other → other = name := by
    intro other key'
    rw [Json.member_key_eq_ok_iff, text] at key'
    exact (Except.ok.inj key').symm
  have follows : k.shape.Follows (Json.member (key, v)) (Json.member (key, w)) := by
    refine ⟨fun _ key' => key', fun other key' unknown => ?_, fun other f key' found => ?_⟩
    · rw [same other key', RecordShape.field?_eq_none_iff, shape_names] at unknown
      exact absurd known unknown
    · rw [same other key'] at found
      exact alike f found
  refine read_object_eq_ok_iff.2 ⟨whole, ?_⟩
  rw [List.map_append, List.map_cons]
  exact reads.replace follows

theorem Holds.known {k' : RecordKind} {name : String} (h : Holds k name k') :
    name ∈ k.names := by
  cases h <;> decide

theorem Lists.known {k' : RecordKind} {name : String} (h : Lists k name k') :
    name ∈ k.names := by
  cases h <;> decide

/-- **What is read of a document is read of its revisions.** -/
theorem Revised.read_eq {v w : Json} (h : k.Revised v w) :
    ∀ a, k.read v = .ok a → k.read w = .ok a := by
  -- by induction on the revision, one rule after the other
  induction h with
  | trans first second ih ih' => exact fun a h => ih' a (ih a h)
  | moved alike => exact fun a => read_placeless _ _ _ a alike
  | reordered same =>
      intro a h
      obtain ⟨whole, reads⟩ := read_object_eq_ok_iff.1 h
      exact read_object_eq_ok_iff.2
        ⟨whole, reads.perm (shape_orderless _) (same.map Json.member)⟩
  | leftOut text default =>
      intro a h
      obtain ⟨whole, reads⟩ := read_object_eq_ok_iff.1 h
      rw [List.map_append, List.map_cons] at reads
      refine read_object_eq_ok_iff.2 ⟨whole, ?_⟩
      rw [List.map_append]
      exact reads.drop (shape_orderless _) (Json.member_key_eq_ok_iff.2 text) default.idle
  | @added k before after key v name start behind ending entry text unknown whole =>
      intro a h
      obtain ⟨ends, reads⟩ := read_object_eq_ok_iff.1 h
      rw [List.map_append] at reads
      have skipped : k.shape.skip (Json.member (key, v)).value = .ok () := by
        rw [shape_skip]
        show v.skip = .ok ()
        unfold Json.skip
        rw [whole]
      refine read_object_eq_ok_iff.2 ⟨ends, ?_⟩
      rw [List.map_append, List.map_cons]
      exact reads.insert (shape_orderless k) (Json.member_key_eq_ok_iff.2 text)
        (by rwa [shape_names]) (shape_lax entry) skipped
  | inside text holds revised ih =>
      exact fun a => read_replace text holds.known fun f known _ _ => holds.follows known ih
  | within text lists revised ih =>
      exact fun a => read_replace text lists.known fun f known _ _ => lists.follows known ih

end Revised

end RecordKind

/-! ## §5. Reading what was written. -/

/-- A list is read from what its elements are written as. -/
theorem readList_ofList {α : Type} {read : Reader α} {write : α → Json}
    (back : ∀ a, read (write a) = .ok a) (as : List α) :
    Json.readList read (Json.ofList (as.map write)) = .ok as := by
  show Json.readItems read (.ok []) (as.map write) = .ok as
  induction as with
  | nil => rfl
  | cons a as ih =>
      simp only [List.map_cons, Json.readItems, back, ih]

theorem SqlType.ofJson_toJson (t : SqlType) : SqlType.ofJson t.toJson = .ok t := by
  obtain ⟨base, nullable⟩ := t
  cases base <;> rfl

theorem Writability.readLabel (w : Writability) :
    Json.readVariant Writability.labels (Json.ofText w.label) = .ok w := by
  cases w <;> rfl

/-- The next member of an object that was written sets its field. -/
theorem reads_field {k : RecordKind} (name : String) {required : Bool} {α : Type}
    {read : Reader α} {set : α → k.Carrier → k.Carrier} {v : Json} {a : α}
    {rest : List (Member Json)} {seen : List String} {r r' : k.Carrier}
    (known : k.shape.field? name = some (jsonField name required read set))
    (new : name ∉ seen) (back : read v = .ok a)
    (others : k.shape.Reads rest (name :: seen) (set a r) r') :
    k.shape.Reads (Json.member (Json.Key.ofText name, v) :: rest) seen r r' :=
  .set rfl known new (jsonField_read_eq_ok_iff.2 ⟨a, back, rfl⟩) others

/-- Nothing is missing when every key has been given. -/
theorem reads_done {k : RecordKind} {seen : List String} {r : k.Carrier}
    (all : k.names ⊆ seen) : k.shape.Reads [] seen r r := by
  refine .done fun f hf _ => all ?_
  rw [← k.shape_names]
  exact List.mem_map_of_mem hf

theorem Column.ofJson_toJson (c : Column) : Column.ofJson c.toJson = .ok c := by
  refine (RecordKind.read_object_eq_ok_iff (k := .column)).2 ⟨rfl, ?_⟩
  refine reads_field "name" rfl (by decide) (rfl : Json.readText (Json.ofText c.name) = _) ?_
  refine reads_field "type" rfl (by decide) c.type.ofJson_toJson ?_
  refine reads_field "writability" rfl (by decide) c.writability.readLabel ?_
  exact reads_done (by decide)

theorem Table.ofJson_toJson (t : Table) : Table.ofJson t.toJson = .ok t := by
  refine (RecordKind.read_object_eq_ok_iff (k := .table)).2 ⟨rfl, ?_⟩
  refine reads_field "name" rfl (by decide) (rfl : Json.readText (Json.ofText t.name) = _) ?_
  refine reads_field "columns" rfl (by decide) (readList_ofList Column.ofJson_toJson t.columns) ?_
  exact reads_done (by decide)

theorem Operator.ofJson_toJson (o : Operator) : Operator.ofJson o.toJson = .ok o := by
  refine (RecordKind.read_object_eq_ok_iff (k := .operator)).2 ⟨rfl, ?_⟩
  refine reads_field "name" rfl (by decide) (rfl : Json.readText (Json.ofText o.name) = _) ?_
  refine reads_field "left" rfl (by decide) o.left.ofJson_toJson ?_
  refine reads_field "right" rfl (by decide) o.right.ofJson_toJson ?_
  refine reads_field "out" rfl (by decide) o.out.ofJson_toJson ?_
  exact reads_done (by decide)

theorem SqlFunction.ofJson_toJson (f : SqlFunction) : SqlFunction.ofJson f.toJson = .ok f := by
  refine (RecordKind.read_object_eq_ok_iff (k := .function)).2 ⟨rfl, ?_⟩
  refine reads_field "name" rfl (by decide) (rfl : Json.readText (Json.ofText f.name) = _) ?_
  refine reads_field "inputs" rfl (by decide) (readList_ofList SqlType.ofJson_toJson f.inputs) ?_
  refine reads_field "out" rfl (by decide) f.out.ofJson_toJson ?_
  exact reads_done (by decide)

/-- **A draft is read from what it is written as.** -/
theorem Draft.ofJson_toJson (d : Draft) : Draft.ofJson d.toJson = .ok d := by
  refine (RecordKind.read_object_eq_ok_iff (k := .catalog)).2 ⟨rfl, ?_⟩
  refine reads_field "tables" rfl (by decide) (readList_ofList Table.ofJson_toJson d.tables) ?_
  refine reads_field "operators" rfl (by decide)
    (readList_ofList Operator.ofJson_toJson d.operators) ?_
  refine reads_field "functions" rfl (by decide)
    (readList_ofList SqlFunction.ofJson_toJson d.functions) ?_
  exact reads_done (by decide)

/-! ## §6. Catalogs. -/

namespace Catalog

/-- A catalog is built from whatever draft is read. -/
theorem ofJson_of_draft {v : Json} {d : Draft} (h : Draft.ofJson v = .ok d) :
    ofJson v = .ok d.build := by
  unfold ofJson
  rw [h]

/-- **A key at the top that means nothing is refused**, wherever it stands and whatever
else the document holds. -/
theorem ofJson_unknown {members : List (Json.Key × Json)} {start : List Char}
    {ending : Except Json.Stop (List Char)} {key : Json.Key} {v : Json} {name : String}
    (there : (key, v) ∈ members) (text : key.text = .ok name)
    (unknown : name ∉ RecordKind.catalog.names) :
    ∃ flaw, ofJson (.object members start ending) = .error flaw := by
  cases read : Draft.ofJson (.object members start ending) with
  | error flaw =>
      refine ⟨flaw, ?_⟩
      unfold ofJson
      rw [read]
  | ok d =>
      obtain ⟨-, reads⟩ := (RecordKind.read_object_eq_ok_iff (k := .catalog)).1 read
      have known := reads.known rfl (Json.member (key, v)) (List.mem_map_of_mem there) name
        (Json.member_key_eq_ok_iff.2 text)
      exact absurd known unknown

/-- **CATALOGS ARE READ BACK.**  However a catalog was come by, reading its document gives
the catalog again: its tables, both of its indexes, and the order of everything in them.  So
does reading any document that differs from it in the order of keys, in the absence of
members that say what goes without saying, in keys that mean nothing in the records of
entries, and in the layout.  A document with a key at the top that means nothing is always
refused. -/
theorem Reachable.reads_back {c : Catalog} (h : c.Reachable) :
    ofJson c.toJson = .ok c ∧
    (∀ w, RecordKind.catalog.Revised c.toJson w → ofJson w = .ok c) ∧
    ∀ members start ending key v name, (key, v) ∈ members → key.text = .ok name →
      name ∉ ["tables", "operators", "functions"] →
        ∃ flaw, ofJson (.object members start ending) = .error flaw := by
  have written : Draft.ofJson c.toJson = .ok c.draft := Draft.ofJson_toJson c.draft
  have again : c.draft.build = c := h.built.build_draft
  refine ⟨?_, fun w revised => ?_, fun _ _ _ _ _ _ => ofJson_unknown⟩
  · rw [ofJson_of_draft written, again]
  · have read : Draft.ofJson w = .ok c.draft := revised.read_eq c.draft written
    rw [ofJson_of_draft read, again]

end Catalog

namespace Sample

/-- A catalog of one table. -/
def shelf : Catalog := (Draft.fromNothing [.table stock]).build

/-- The column of its table, keys in another order, writable without saying so, and with
a key that means nothing. -/
def itemDocument : Json :=
  Json.ofFields [("note", .null {}), ("type", SqlType.toJson ⟨.string, false⟩),
    ("name", Json.ofText "item")]

/-- The document of the catalog with this column, and without empty lists. -/
def shelfDocument : Json :=
  Json.ofFields [("tables", Json.ofList [Json.ofFields [("name", Json.ofText "stock"),
    ("columns", Json.ofList [itemDocument])]])]

theorem itemDocument_revised :
    RecordKind.column.Revised (Column.toJson ⟨"item", ⟨.string, false⟩, .writable⟩)
      itemDocument := by
  let members : List (Json.Key × Json) :=
    [(Json.Key.ofText "name", Json.ofText "item"),
      (Json.Key.ofText "type", SqlType.toJson ⟨.string, false⟩)]
  have silent : RecordKind.column.Revised
      (.object (members ++ (Json.Key.ofText "writability", Json.ofText "writable") :: [])
        [] (.ok []))
      (.object (members ++ []) [] (.ok [])) := .leftOut rfl .writable
  have noted : RecordKind.column.Revised (.object (members ++ []) [] (.ok []))
      (.object (members ++ (Json.Key.ofText "note", .null {}) :: []) [] (.ok [])) :=
    .added (by decide) rfl (by decide) rfl
  exact (silent.trans noted).trans (.reordered (List.reverse_perm _).symm)

theorem shelfDocument_revised : RecordKind.catalog.Revised shelf.toJson shelfDocument := by
  -- from the canonical text: the empty lists are left out, then a field inside the column
  let name : Json.Key × Json := (Json.Key.ofText "name", Json.ofText "stock")
  let tables : Json.Key × Json :=
    (Json.Key.ofText "tables", Json.ofList [stock.toJson])
  let operators : Json.Key × Json := (Json.Key.ofText "operators", Json.ofList [])
  have noFunctions : RecordKind.catalog.Revised
      (.object ([tables, operators] ++ (Json.Key.ofText "functions", Json.ofList []) :: [])
        [] (.ok []))
      (.object ([tables, operators] ++ []) [] (.ok [])) := .leftOut rfl (.empty (by decide))
  have noOperators : RecordKind.catalog.Revised
      (.object ([tables] ++ operators :: []) [] (.ok []))
      (.object ([tables] ++ []) [] (.ok [])) := .leftOut rfl (.empty (by decide))
  have columns : RecordKind.table.Revised
      (.object ([name] ++ (Json.Key.ofText "columns", .array ([] ++
        Column.toJson ⟨"item", ⟨.string, false⟩, .writable⟩ :: []) [] (.ok [])) :: [])
        [] (.ok []))
      (.object ([name] ++ (Json.Key.ofText "columns", .array ([] ++ itemDocument :: [])
        [] (.ok [])) :: []) [] (.ok [])) :=
    .within rfl .columns itemDocument_revised
  have tables : RecordKind.catalog.Revised
      (.object ([] ++ (Json.Key.ofText "tables", .array ([] ++ stock.toJson :: [])
        [] (.ok [])) :: []) [] (.ok []))
      (.object ([] ++ (Json.Key.ofText "tables", .array ([] ++ _ :: []) [] (.ok [])) :: [])
        [] (.ok [])) := .within rfl .tables columns
  exact (noFunctions.trans noOperators).trans tables

/-- The sample is read back from its own document and from the shorter one, but not from one
that lists indexes as well. -/
theorem shelf_read_back :
    Catalog.ofJson shelf.toJson = .ok shelf ∧ Catalog.ofJson shelfDocument = .ok shelf ∧
    ∃ flaw, Catalog.ofJson (Json.ofFields
      [("tables", Json.ofList []), ("indexes", Json.ofList [])]) = .error flaw := by
  obtain ⟨written, revised, refused⟩ :=
    Catalog.Reachable.reads_back (.added [.table stock] : shelf.Reachable)
  refine ⟨written, revised shelfDocument shelfDocument_revised, ?_⟩
  exact refused _ _ _ (Json.Key.ofText "indexes") (Json.ofList []) "indexes"
    (List.mem_cons_of_mem _ List.mem_cons_self) rfl (by decide)

end Sample

end QueryFuzz
