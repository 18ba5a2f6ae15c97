/-
  QueryFuzz.Proofs.Places
  ───────────────────────
  **PLACES PLAY NO PART IN WHAT IS READ.**

  Every value of a tree knows where it stands in a text, for the sake of what is
  said about problems.  Where there is no problem, two texts that hold the same
  values are read alike, however they are laid out: with other blanks, other
  escapes, or not read from a text at all.

      Json.Alike       — two trees are the same up to the places of their values
      Reader.Placeless — alike trees are read alike, if they can be read

  Main results:
    * `readVariant_placeless`, `readList_placeless` — so are variants and lists;
    * `readRecord_placeless` — so are records whose fields are.
-/
import QueryFuzz.Json.Typed
import QueryFuzz.Proofs.Records

namespace QueryFuzz

namespace Json

/-! ## §1. Trees that are alike. -/

mutual

/-- The trees differ in the places of their values only. -/
inductive Alike : Json → Json → Prop where
  | cut {start start' : List Char} {stop stop' : Stop} :
      Alike (.cut start stop) (.cut start' stop')
  | null {span span' : Span} : Alike (.null span) (.null span')
  | bool {b : Bool} {span span' : Span} : Alike (.bool b span) (.bool b span')
  | number {n : Numeral} {span span' : Span} : Alike (.number n span) (.number n span')
  | string {s s' : Except Complaint String} {span span' : Span}
      (text : s.toOption = s'.toOption) : Alike (.string s span) (.string s' span')
  | array {items items' : List Json} {start start' : List Char}
      {ending ending' : Except Stop (List Char)} (same : List.Forall₂ Alike items items')
      (ends : ending.isOk = ending'.isOk) :
      Alike (.array items start ending) (.array items' start' ending')
  | object {members members' : List (Key × Json)} {start start' : List Char}
      {ending ending' : Except Stop (List Char)}
      (same : List.Forall₂ AlikeMember members members') (ends : ending.isOk = ending'.isOk) :
      Alike (.object members start ending) (.object members' start' ending')

/-- The members have one key, and values that differ in places only. -/
inductive AlikeMember : Key × Json → Key × Json → Prop where
  | intro {k k' : Key} {v v' : Json} (text : k.text.toOption = k'.text.toOption)
      (value : Alike v v') : AlikeMember (k, v) (k', v')

end

section Except

variable {ε α : Type} {x y : Except ε α}

theorem isOk_iff : x.isOk = true ↔ ∃ a, x = .ok a := by
  cases x with
  | ok a => exact ⟨fun _ => ⟨a, rfl⟩, fun _ => rfl⟩
  | error e => exact ⟨fun h => (by cases h), fun ⟨a, h⟩ => by cases h⟩

theorem eq_ok_of_toOption {a : α} (h : x = .ok a) (same : x.toOption = y.toOption) :
    y = .ok a := by
  subst h
  cases y with
  | ok b => rw [Option.some.inj same]
  | error e => cases same

end Except

/-- Alike values end, or neither does. -/
theorem Alike.ending {v w : Json} (h : v.Alike w) : v.ending.isOk = w.ending.isOk := by
  cases h with
  | cut | null | bool | number | string => rfl
  | array same ends => exact ends
  | object same ends => exact ends

/-- Alike values are passed over alike. -/
theorem Alike.skip {v w : Json} (h : v.Alike w) (whole : v.skip = .ok ()) : w.skip = .ok () := by
  unfold Json.skip at whole ⊢
  have ends := h.ending
  split at whole
  · rename_i behind ending
    rw [ending] at ends
    obtain ⟨behind', ending'⟩ := isOk_iff.1 ends.symm
    rw [ending']
  · cases whole

/-! ## §2. Readers of single values and of lists. -/

/-- What the reader makes of a tree it also makes of trees that are alike. -/
def Reader.Placeless {α : Type} (read : Reader α) : Prop :=
  ∀ v w a, Alike v w → read v = .ok a → read w = .ok a

theorem readText_placeless : Reader.Placeless readText := by
  intro v w a alike h
  cases alike with
  | @string s s' _ _ text =>
      cases s with
      | error k => cases h
      | ok s =>
          rw [eq_ok_of_toOption rfl text]
          exact h
  | cut | null | bool | number | array | object => cases h

theorem readBool_placeless : Reader.Placeless readBool := by
  intro v w a alike h
  cases alike with
  | bool => exact h
  | string text =>
      rename_i s _ _ _
      cases s <;> cases h
  | cut | null | number | array | object => cases h

/-- A name is that of a variant, or of none, wherever it stands. -/
theorem variant_placeless {α : Type} {names : List (String × α)} {name : String}
    {behind : List Char} {a : α} (h : variant names name behind = .ok a)
    (behind' : List Char) : variant names name behind' = .ok a := by
  unfold variant at h ⊢
  split at h
  · exact h
  · cases h

theorem readVariant_placeless {α : Type} (names : List (String × α)) :
    Reader.Placeless (readVariant names) := by
  intro v w a alike h
  cases alike with
  | @string s s' _ _ text =>
      cases s with
      | error k => cases h
      | ok s =>
          rw [eq_ok_of_toOption rfl text]
          exact variant_placeless h _
  | @object members members' _ _ ending ending' same ends =>
      -- the name is the only key and holds null
      cases same with
      | nil => cases h
      | @cons m m' rest rest' alike same =>
          cases alike with
          | @intro k k' v v' text value =>
              cases key : k.text with
              | error c =>
                  simp only [readVariant, key] at h
                  cases h
              | ok s =>
                  have key' := eq_ok_of_toOption key text
                  simp only [readVariant, key, key'] at h ⊢
                  cases found : variant names s k.behind with
                  | error p =>
                      rw [found] at h
                      cases h
                  | ok b =>
                      rw [found] at h
                      rw [variant_placeless found k'.behind]
                      cases value with
                      | null =>
                          have alone : rest.isEmpty = rest'.isEmpty := by
                            cases same <;> rfl
                          dsimp only at h ⊢
                          rw [← alone, ← ends]
                          split at h
                          · rename_i whole
                            rw [if_pos whole]
                            exact h
                          · cases h
                      | string text =>
                          rename_i s _ _ _
                          cases s <;> cases h
                      | cut | bool | number | array | object => cases h
  | cut | null | bool | number | array => cases h

theorem readItems_placeless {α : Type} {read : Reader α} (placeless : read.Placeless)
    {ending ending' : Except Stop (List Char)} (ends : ending.isOk = ending'.isOk)
    {items items' : List Json} (same : List.Forall₂ Alike items items') :
    ∀ as, readItems read ending items = .ok as → readItems read ending' items' = .ok as := by
  -- by induction on the two lists; whether they end is only looked at behind the last item
  induction same with
  | nil =>
      intro as h
      unfold readItems at h ⊢
      split at h
      · obtain ⟨behind', rfl⟩ := isOk_iff.1 ends.symm
        exact h
      · cases h
  | cons alike same ih =>
      intro as h
      unfold readItems at h ⊢
      split at h
      · cases h
      · rename_i a head
        rw [placeless _ _ a alike head]
        dsimp only
        split at h
        · cases h
        · rename_i as' tail
          rw [ih as' tail]
          exact h

theorem readList_placeless {α : Type} {read : Reader α} (placeless : read.Placeless) :
    Reader.Placeless (readList read) := by
  intro v w as alike h
  cases alike with
  | array same ends => exact readItems_placeless placeless ends same as h
  | string text =>
      rename_i s _ _ _
      cases s <;> cases h
  | cut | null | bool | number | object => cases h

/-! ## §3. Records. -/

section Records

variable {R : Type} {shape : RecordShape Json R}

/-- What a field is set to by a value it is also set to by values that are alike. -/
def FieldPlaceless (f : Field Json R) : Prop :=
  ∀ v w r r', Alike v w → f.read v r = .ok r' → f.read w r = .ok r'

theorem closing_eq_ok_iff {ending : Except Stop (List Char)} :
    (∃ place, closing ending = .ok place) ↔ ending.isOk = true := by
  cases ending with
  | ok behind => exact ⟨fun _ => rfl, fun _ => ⟨_, rfl⟩⟩
  | error stop => exact ⟨fun ⟨_, h⟩ => (by cases h), fun h => by cases h⟩

theorem member_key_eq_ok_iff {m : Key × Json} {name : String} :
    (member m).key = .ok name ↔ m.1.text = .ok name := by
  unfold member
  cases m.1.text with
  | ok s => simp
  | error k => exact ⟨fun h => (by cases h), fun h => by cases h⟩

/-- Alike members are read alike. -/
theorem AlikeMember.follows (skips : shape.skip = Json.skip)
    (placeless : ∀ f ∈ shape.fields, FieldPlaceless f) {m m' : Key × Json}
    (h : AlikeMember m m') : shape.Follows (member m) (member m') := by
  cases h with
  | intro text value =>
      refine ⟨fun name key => ?_, fun name _ _ whole => ?_, fun name f _ known r r₁ read => ?_⟩
      · rw [member_key_eq_ok_iff] at key ⊢
        exact eq_ok_of_toOption key text
      · rw [skips] at whole ⊢
        exact value.skip whole
      · exact placeless f (RecordShape.field?_spec known).1 _ _ r r₁ value read

theorem ofItems_placeless {fields : List (Field Json R)}
    (placeless : ∀ f ∈ fields, FieldPlaceless f) {ending ending' : Closing}
    (ends : ∀ place, ending = .ok place → ∃ place', ending' = .ok place')
    {items items' : List Json} (same : List.Forall₂ Alike items items') :
    ∀ r r', shape.readItems ending fields items r = .ok r' →
      shape.readItems ending' fields items' r = .ok r' := by
  -- the fields are taken in turn, each from the next item while there are items
  induction fields generalizing items items' with
  | nil =>
      intro r r' h
      unfold RecordShape.readItems at h ⊢
      exact h
  | cons f fs ih =>
      obtain ⟨first, others⟩ := List.forall_mem_cons.1 placeless
      intro r r' h
      cases same with
      | nil =>
          unfold RecordShape.readItems at h ⊢
          split at h
          · cases h
          · rename_i place
            obtain ⟨place', rfl⟩ := ends place rfl
            dsimp only
            split at h
            · cases h
            · rename_i optional
              rw [if_neg optional]
              exact ih others .nil r r' h
      | cons alike same =>
          unfold RecordShape.readItems at h ⊢
          split at h
          · cases h
          · rename_i r₁ read
            rw [first _ _ r r₁ alike read]
            exact ih others same r₁ r' h

/-- **Records are read alike whose members are**, as objects and as arrays. -/
theorem readRecord_placeless (skips : shape.skip = Json.skip)
    (placeless : ∀ f ∈ shape.fields, FieldPlaceless f) :
    Reader.Placeless (readRecord shape) := by
  intro v w r alike h
  cases alike with
  | @object members members' _ _ ending ending' same ends =>
      -- members answer member by member, so one reading follows the other
      have follow : List.Forall₂ shape.Follows (members.map member) (members'.map member) := by
        rw [List.forall₂_map_left_iff, List.forall₂_map_right_iff]
        exact same.imp fun _ _ alike => alike.follows skips placeless
      obtain ⟨whole, reads⟩ := RecordShape.ofMembers_eq_ok_iff.1 h
      refine RecordShape.ofMembers_eq_ok_iff.2 ⟨?_, reads.follow follow⟩
      rw [closing_eq_ok_iff] at whole ⊢
      exact ends ▸ whole
  | @array items items' _ _ ending ending' same ends =>
      unfold readRecord at h ⊢
      -- a record as an array: the ends may lie at different places, but neither is cut off
      have whole : ∀ place, closing ending = .ok place →
          ∃ place', closing ending' = .ok place' := by
        intro place hp
        exact closing_eq_ok_iff.2 (ends ▸ closing_eq_ok_iff.1 ⟨place, hp⟩)
      dsimp only at h ⊢
      split at h
      · cases h
      · rename_i r₁ read
        have read' : shape.ofItems items' (closing ending') = .ok r₁ :=
          ofItems_placeless placeless whole same _ _ read
        rw [read', ← same.length_eq, ← ends]
        dsimp only
        split at h
        · rename_i fits
          rw [if_pos fits]
          exact h
        · cases h
  | string text =>
      rename_i s _ _ _
      cases s <;> cases h
  | cut | null | bool | number => cases h

end Records

end Json

end QueryFuzz
