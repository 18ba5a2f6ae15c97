/-
  QueryFuzz.Proofs.Records
  ────────────────────────
  **WHAT THE READER OF A RECORD DOES NOT SEE.**

  An object's members are read one after the other, but what comes of it depends
  on little: not on their order, as long as fields are set independently of each
  other, not on a member that sets a field to what it is anyway, and not on keys
  that are passed over.  A successful reading is put as a relation with one rule
  for each thing that can be done with a member, and every independence is one
  induction over it.

      RecordShape.Reads   — reading the members succeeds, from one record to another
      Field.Passes        — setting one field before another or after it is the same
      RecordShape.Follows — a member that is read as another one is

  Main results:
    * `ofMembers_eq_ok_iff` — an object is read when its members are and it ends;
    * `Reads.perm` — the members may come in any order;
    * `Reads.replace` — a member may give way to one that is read alike;
    * `Reads.drop` — a member that sets nothing may be left out;
    * `Reads.insert` — a member may be added that is passed over;
    * `Reads.known` — a strict record is read from known keys only.
-/
import Mathlib.Data.List.Forall2
import Mathlib.Data.List.Pairwise
import QueryFuzz.Document.Record

namespace QueryFuzz

variable {V R : Type}

namespace RecordShape

/-! ## §1. Readings. -/

/-- The members of an object are read: `seen` lists the fields given before, `r` is the
record they left and `r'` the one that comes of it. -/
inductive Reads (shape : RecordShape V R) : List (Member V) → List String → R → R → Prop
  /-- Nothing is missing. -/
  | done {seen : List String} {r : R}
      (complete : ∀ f ∈ shape.fields, f.required = true → f.name ∈ seen) :
      Reads shape [] seen r r
  /-- An unknown key is passed over. -/
  | pass {m : Member V} {rest : List (Member V)} {seen : List String} {name : String} {r r' : R}
      (key : m.key = .ok name) (unknown : shape.field? name = none)
      (lax : shape.strict = false) (whole : shape.skip m.value = .ok ())
      (reads : Reads shape rest seen r r') : Reads shape (m :: rest) seen r r'
  /-- A field that was not given before is set. -/
  | set {m : Member V} {rest : List (Member V)} {seen : List String} {name : String}
      {f : Field V R} {r r₁ r' : R} (key : m.key = .ok name)
      (known : shape.field? name = some f) (new : name ∉ seen)
      (read : f.read m.value r = .ok r₁) (reads : Reads shape rest (name :: seen) r₁ r') :
      Reads shape (m :: rest) seen r r'

section Reads

variable {shape : RecordShape V R} {members : List (Member V)} {seen : List String} {r r' : R}

/-- A field that is found under a name has it. -/
theorem field?_spec {name : String} {f : Field V R} (h : shape.field? name = some f) :
    f ∈ shape.fields ∧ f.name = name := by
  unfold field? at h
  refine ⟨List.mem_of_find?_eq_some h, ?_⟩
  simpa using List.find?_some h

/-- Nothing is found under a name that no field has. -/
theorem field?_eq_none_iff {name : String} :
    shape.field? name = none ↔ name ∉ shape.fields.map Field.name := by
  unfold field?
  rw [List.find?_eq_none]
  simp

/-- The end of an object is reached when it is there and nothing is missing. -/
theorem finish_eq_ok_iff {ending : Closing} :
    shape.finish ending seen r = .ok r' ↔
      (∃ place, ending = .ok place)
        ∧ (∀ f ∈ shape.fields, f.required = true → f.name ∈ seen) ∧ r = r' := by
  unfold finish
  cases ending with
  | error p => simp
  | ok place =>
      cases missing : shape.fields.find? fun f => f.required && !seen.contains f.name with
      | some f =>
          have listed := List.mem_of_find?_eq_some missing
          have found := List.find?_some missing
          simp only [Bool.and_eq_true, Bool.not_eq_true', List.contains_eq_mem,
            decide_eq_false_iff_not] at found
          constructor
          · intro h
            cases h
          · rintro ⟨-, complete, -⟩
            exact absurd (complete f listed found.1) found.2
      | none =>
          have complete : ∀ f ∈ shape.fields, f.required = true → f.name ∈ seen := by
            simpa using missing
          simp only [Except.ok.injEq, exists_eq', true_and]
          exact ⟨fun same => ⟨complete, same⟩, fun h => h.2⟩

/-- What is read in an object that ends follows the rules. -/
theorem Reads.of_readMembers {ending : Closing}
    (h : shape.readMembers ending members seen r = .ok r') :
    (∃ place, ending = .ok place) ∧ shape.Reads members seen r r' := by
  -- each error of the reader ends a branch; what is left is one rule of `Reads`
  induction members generalizing seen r with
  | nil =>
      obtain ⟨ends, complete, rfl⟩ := finish_eq_ok_iff.1 h
      exact ⟨ends, .done complete⟩
  | cons m rest ih =>
      unfold readMembers at h
      split at h
      · cases h
      · rename_i name key
        split at h
        · rename_i unknown
          split at h
          · cases h
          · rename_i strict
            split at h
            · cases h
            · rename_i whole
              obtain ⟨ends, reads⟩ := ih h
              exact ⟨ends, .pass key unknown (by simpa using strict) whole reads⟩
        · rename_i f known
          split at h
          · cases h
          · rename_i new
            split at h
            · cases h
            · rename_i r₁ read
              obtain ⟨ends, reads⟩ := ih h
              exact ⟨ends, .set key known (by simpa using new) read reads⟩

/-- What follows the rules is read in an object that ends. -/
theorem Reads.readMembers_eq {place : Place} (h : shape.Reads members seen r r') :
    shape.readMembers (.ok place) members seen r = .ok r' := by
  induction h with
  | done complete => exact finish_eq_ok_iff.2 ⟨⟨place, rfl⟩, complete, rfl⟩
  | pass key unknown lax whole reads ih =>
      unfold readMembers
      simp only [key, unknown, lax, whole]
      exact ih
  | set key known new read reads ih =>
      unfold readMembers
      simp only [key, known, List.contains_eq_mem, decide_eq_false new, read]
      exact ih

/-- **An object is read when its members are and it ends.** -/
theorem ofMembers_eq_ok_iff {ending : Closing} :
    shape.ofMembers members ending = .ok r ↔
      (∃ place, ending = .ok place) ∧ shape.Reads members [] shape.start r := by
  constructor
  · exact Reads.of_readMembers
  · rintro ⟨⟨place, rfl⟩, reads⟩
    exact reads.readMembers_eq

/-! ## §2. The order of members. -/

/-- Fewer fields need to have been given before, as long as the required ones were. -/
theorem Reads.of_fewer {seen' : List String} (h : shape.Reads members seen r r')
    (fewer : seen' ⊆ seen)
    (required : ∀ f ∈ shape.fields, f.required = true → f.name ∈ seen → f.name ∈ seen') :
    shape.Reads members seen' r r' := by
  -- a field that is new to the longer list of those given is new to the shorter one
  induction h generalizing seen' with
  | done complete =>
      exact .done fun f hf hr => required f hf hr (complete f hf hr)
  | pass key unknown lax whole reads ih => exact .pass key unknown lax whole (ih fewer required)
  | @set m rest seen name f r r₁ r' key known new read reads ih =>
      refine .set key known (fun old => new (fewer old)) read (ih ?_ fun g hg hr old => ?_)
      · exact List.cons_subset_cons name fewer
      · obtain here | before := List.mem_cons.1 old
        · exact here ▸ List.mem_cons_self
        · exact List.mem_cons_of_mem _ (required g hg hr before)

end Reads

end RecordShape

/-- Setting one field and then the other can be done in the other order. -/
def Field.Passes (f g : Field V R) : Prop :=
  ∀ v w r r₁ r₂, f.read v r = .ok r₁ → g.read w r₁ = .ok r₂ →
    ∃ r₃, g.read w r = .ok r₃ ∧ f.read v r₃ = .ok r₂

namespace RecordShape

/-- The fields of records are set independently of each other. -/
def Orderless (shape : RecordShape V R) : Prop :=
  ∀ f ∈ shape.fields, ∀ g ∈ shape.fields, f.name ≠ g.name → f.Passes g

/-- It is enough to look at every two fields once. -/
theorem orderless_of_pairwise {shape : RecordShape V R}
    (h : shape.fields.Pairwise fun f g => f.Passes g ∧ g.Passes f) : shape.Orderless := by
  intro f hf g hg different
  have symmetric : Std.Symm fun f g : Field V R => f.Passes g ∧ g.Passes f :=
    ⟨fun _ _ both => both.symm⟩
  have apart : f ≠ g := fun same => different (congrArg Field.name same)
  exact (h.forall hf hg apart).1

section Order

variable {shape : RecordShape V R} {members members' : List (Member V)} {seen : List String}
  {r r' : R}

/-- Two members that stand side by side change places. -/
theorem Reads.swap (orderless : shape.Orderless) {m n : Member V} {rest : List (Member V)}
    (h : shape.Reads (m :: n :: rest) seen r r') : shape.Reads (n :: m :: rest) seen r r' := by
  cases h with
  | pass key unknown lax whole h =>
      cases h with
      | pass key' unknown' lax' whole' h =>
          exact .pass key' unknown' lax' whole' (.pass key unknown lax whole h)
      | set key' known new read h =>
          exact .set key' known new read (.pass key unknown lax whole h)
  | @set _ _ _ name f _ r₁ _ key known new read h =>
      cases h with
      | pass key' unknown lax whole h =>
          exact .pass key' unknown lax whole (.set key known new read h)
      | @set _ _ _ name' g _ r₂ _ key' known' new' read' h =>
          -- no field is given twice, so that the two fields are different ones
          obtain ⟨hf, rfl⟩ := field?_spec known
          obtain ⟨hg, rfl⟩ := field?_spec known'
          have different : g.name ≠ f.name := List.ne_of_not_mem_cons new'
          have fresh : g.name ∉ seen := List.not_mem_of_not_mem_cons new'
          have alone : f.name ∉ g.name :: seen :=
            List.not_mem_cons_of_ne_of_not_mem different.symm new
          obtain ⟨r₃, first, second⟩ :=
            orderless f hf g hg different.symm m.value n.value r r₁ r₂ read read'
          refine .set key' known' fresh first (.set key known alone second (h.of_fewer ?_ ?_))
          · exact fun x hx => (List.Perm.swap _ _ _).mem_iff.1 hx
          · exact fun _ _ _ hx => (List.Perm.swap _ _ _).mem_iff.1 hx

/-- **The members may come in any order.** -/
theorem Reads.perm (orderless : shape.Orderless) (same : members.Perm members')
    (h : shape.Reads members seen r r') : shape.Reads members' seen r r' := by
  -- by induction on the rearrangement
  induction same generalizing seen r with
  | nil => exact h
  | cons m _ ih =>
      cases h with
      | pass key unknown lax whole h => exact .pass key unknown lax whole (ih h)
      | set key known new read h => exact .set key known new read (ih h)
  | swap m n rest => exact h.swap orderless
  | trans _ _ ih ih' => exact ih' (ih h)

/-! ## §3. Other members. -/

/-- A member whose key is the same, and whose value is read as the other one is wherever
that succeeds. -/
structure Follows (shape : RecordShape V R) (m m' : Member V) : Prop where
  key : ∀ name, m.key = .ok name → m'.key = .ok name
  passed : ∀ name, m.key = .ok name → shape.field? name = none →
    shape.skip m.value = .ok () → shape.skip m'.value = .ok ()
  read : ∀ name f, m.key = .ok name → shape.field? name = some f →
    ∀ r r₁, f.read m.value r = .ok r₁ → f.read m'.value r = .ok r₁

theorem Follows.refl (m : Member V) : shape.Follows m m :=
  ⟨fun _ h => h, fun _ _ _ h => h, fun _ _ _ _ _ _ h => h⟩

/-- **Members may give way to ones that are read alike.** -/
theorem Reads.follow (alike : List.Forall₂ shape.Follows members members')
    (h : shape.Reads members seen r r') : shape.Reads members' seen r r' := by
  induction h generalizing members' with
  | done complete =>
      cases alike
      exact .done complete
  | pass key unknown lax whole reads ih =>
      cases alike with
      | cons m alike =>
          exact .pass (m.key _ key) unknown lax (m.passed _ key unknown whole) (ih alike)
  | set key known new read reads ih =>
      cases alike with
      | cons m alike =>
          exact .set (m.key _ key) known new (m.read _ _ key known _ _ read) (ih alike)

/-- One member may give way to one that is read alike. -/
theorem Reads.replace {before after : List (Member V)} {m m' : Member V}
    (alike : shape.Follows m m') (h : shape.Reads (before ++ m :: after) seen r r') :
    shape.Reads (before ++ m' :: after) seen r r' := by
  have same : ∀ ms : List (Member V), List.Forall₂ shape.Follows ms ms :=
    fun ms => List.forall₂_same.2 fun m _ => Follows.refl m
  exact h.follow (List.rel_append (same before) (.cons alike (same after)))

/-- **A member may be added that is passed over.** -/
theorem Reads.insert (orderless : shape.Orderless) {before after : List (Member V)}
    {m : Member V} {name : String} (key : m.key = .ok name)
    (unknown : name ∉ shape.fields.map Field.name) (lax : shape.strict = false)
    (whole : shape.skip m.value = .ok ()) (h : shape.Reads (before ++ after) seen r r') :
    shape.Reads (before ++ m :: after) seen r r' := by
  have inFront : shape.Reads (m :: (before ++ after)) seen r r' :=
    .pass key (field?_eq_none_iff.2 unknown) lax whole h
  exact inFront.perm orderless List.perm_middle.symm

/-- **A member may be left out that sets a field to what it is at the start.** -/
theorem Reads.drop (orderless : shape.Orderless) {before after : List (Member V)}
    {m : Member V} {name : String} (key : m.key = .ok name)
    (idle : ∀ f ∈ shape.fields, f.name = name →
      f.required = false ∧ f.read m.value shape.start = .ok shape.start)
    (h : shape.Reads (before ++ m :: after) [] shape.start r') :
    shape.Reads (before ++ after) [] shape.start r' := by
  -- in front of the others it reads nothing into the record
  have inFront := h.perm orderless List.perm_middle
  cases inFront with
  | pass _ _ _ _ reads => exact reads
  | set key' known _ read reads =>
      rw [key] at key'
      cases key'
      obtain ⟨listed, rfl⟩ := field?_spec known
      have same := (idle _ listed rfl).2
      rw [same] at read
      cases read
      refine reads.of_fewer (List.nil_subset _) fun g hg required here => ?_
      have optional := (idle g hg (List.mem_singleton.1 here)).1
      rw [required] at optional
      cases optional

/-- **A strict record is read from known keys only.** -/
theorem Reads.known (strict : shape.strict = true) (h : shape.Reads members seen r r') :
    ∀ m ∈ members, ∀ name, m.key = .ok name → name ∈ shape.fields.map Field.name := by
  induction h with
  | done _ => exact fun _ hm => by cases hm
  | pass _ _ lax _ _ _ =>
      rw [strict] at lax
      cases lax
  | set key known _ _ _ ih =>
      refine List.forall_mem_cons.2 ⟨fun name key' => ?_, ih⟩
      rw [key] at key'
      cases key'
      obtain ⟨listed, rfl⟩ := field?_spec known
      exact List.mem_map_of_mem listed

end Order

end RecordShape

end QueryFuzz
