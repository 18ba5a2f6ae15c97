/-
  QueryFuzz.Proofs.FreshNames
  ───────────────────────────
  **NAMES ARE FRESH UNTIL THE NEXT RESET, WHATEVER THEIR STEMS.**

  A name is its stem, an underscore and a number.  A stem may itself end in an
  underscore and digits, or be empty, so two names can be alike in many ways;
  but digits hold no underscore, and what stands behind the last underscore of a
  name is its number.  One counter serves all stems, so no two names since a
  reset have the same number.

      NameCounter.Request  — what a counter is asked for
      NameCounter.answers  — what it answers to requests, one after the other
      sinceReset           — the part of a history behind its last reset

  Main results:
    * `NameCounter.name_inj` — a name determines its stem and its number;
    * `NameCounter.sinceReset_answers` — names are numbered from one behind a reset;
    * `NameCounter.fresh_until_reset` — so they are distinct, and as many as are counted.
-/
import Mathlib.Data.List.DropRight
import Mathlib.Data.List.Nodup
import QueryFuzz.NameCounter

namespace QueryFuzz

/-! ## §1. Reading a name back. -/

namespace NameCounter

/-- What stands behind the last underscore of a text. -/
def behindUnderscore (text : List Char) : List Char := text.rtakeWhile (· != '_')

theorem behindUnderscore_append (before : List Char) {digits : List Char}
    (plain : '_' ∉ digits) : behindUnderscore (before ++ '_' :: digits) = digits := by
  unfold behindUnderscore
  induction digits using List.reverseRecOn with
  | nil => exact List.rtakeWhile_concat_neg _ _ _ (by decide)
  | append_singleton digits c ih =>
      rw [List.mem_append, List.mem_singleton, not_or] at plain
      have other : (c != '_') = true := bne_iff_ne.2 (Ne.symm plain.2)
      rw [← List.cons_append, ← List.append_assoc,
        List.rtakeWhile_concat_pos (· != '_') _ c other, ih plain.1]

theorem underscore_not_mem_digits (n : Nat) : '_' ∉ Nat.toDigits 10 n := by
  intro member
  have digit : Char.isDigit '_' = true := Nat.isDigit_of_mem_toDigits (by decide) (by decide) member
  exact absurd digit (by decide)

theorem toList_name (stem : String) (n : Nat) :
    (name stem n).toList = stem.toList ++ '_' :: Nat.toDigits 10 n := by
  unfold name
  rw [String.toList_append, String.toList_append, Nat.toString_eq_repr, Nat.toList_repr,
    List.append_assoc]
  rfl

/-- **A name determines its stem and its number**, also when stems look like names. -/
theorem name_inj {stem stem' : String} {m n : Nat} :
    name stem m = name stem' n ↔ stem = stem' ∧ m = n := by
  constructor
  · intro h
    have texts : stem.toList ++ '_' :: Nat.toDigits 10 m
        = stem'.toList ++ '_' :: Nat.toDigits 10 n := by
      rw [← toList_name, ← toList_name, h]
    -- the digits are what stands behind the last underscore of both texts
    have digits : Nat.toDigits 10 m = Nat.toDigits 10 n := by
      rw [← behindUnderscore_append stem.toList (underscore_not_mem_digits m), texts,
        behindUnderscore_append stem'.toList (underscore_not_mem_digits n)]
    have numbers : Nat.ofDigitChars 10 (Nat.toDigits 10 m) 0
        = Nat.ofDigitChars 10 (Nat.toDigits 10 n) 0 := by rw [digits]
    rw [digits] at texts
    exact ⟨String.toList_inj.1 (List.append_cancel_right texts), by simpa using numbers⟩
  · rintro ⟨rfl, rfl⟩
    rfl

example : name "a" 12 ≠ name "a_1" 2 := by decide

end NameCounter

/-! ## §2. Histories. -/

/-- The part of a history behind its last reset, which is a `none`; all of a history
without one. -/
def sinceReset {α : Type} (history : List (Option α)) : List α :=
  (history.rtakeWhile Option.isSome).filterMap id

section History

variable {α : Type} {history : List (Option α)}

@[simp] theorem sinceReset_concat_some (a : α) :
    sinceReset (history ++ [some a]) = sinceReset history ++ [a] := by
  unfold sinceReset
  rw [List.rtakeWhile_concat_pos _ _ _ rfl, List.filterMap_append]
  rfl

@[simp] theorem sinceReset_concat_none : sinceReset (history ++ [none]) = [] := by
  unfold sinceReset
  rw [List.rtakeWhile_concat_neg _ _ _ Bool.false_ne_true]
  rfl

end History

namespace NameCounter

/-- What a counter is asked for: a name with a stem, or to start numbering again. -/
inductive Request where
  | allocate (stem : String)
  | reset
  deriving DecidableEq, Repr

/-- The stem of a name that is asked for. -/
def Request.stem? : Request → Option String
  | allocate stem => some stem
  | reset => none

/-- What a counter answers to a request: a name, or nothing to a reset. -/
def answer (c : NameCounter) : Request → Option String
  | .allocate stem => some (c.allocate stem).1
  | .reset => none

/-- The counter after a request. -/
def next (c : NameCounter) : Request → NameCounter
  | .allocate stem => (c.allocate stem).2
  | .reset => c.reset

/-- The counter after requests, one after the other. -/
def after (c : NameCounter) (requests : List Request) : NameCounter := requests.foldl next c

/-- The answers to requests, one after the other. -/
def answers (c : NameCounter) : List Request → List (Option String)
  | [] => []
  | r :: rs => c.answer r :: (c.next r).answers rs

theorem after_concat (c : NameCounter) (rs : List Request) (r : Request) :
    c.after (rs ++ [r]) = (c.after rs).next r := by
  unfold after
  rw [List.foldl_append]
  rfl

theorem answers_concat (c : NameCounter) (rs : List Request) (r : Request) :
    c.answers (rs ++ [r]) = c.answers rs ++ [(c.after rs).answer r] := by
  induction rs generalizing c with
  | nil => rfl
  | cons first rs ih =>
      show c.answer first :: (c.next first).answers (rs ++ [r]) = _
      rw [ih]
      rfl

/-! ## §3. Names since the last reset. -/

/-- The stems with the numbers from one on. -/
def numbered (stems : List String) : List String :=
  stems.mapIdx fun i stem => name stem (i + 1)

theorem numbered_concat (stems : List String) (stem : String) :
    numbered (stems ++ [stem]) = numbered stems ++ [name stem (stems.length + 1)] :=
  List.mapIdx_concat

theorem length_numbered (stems : List String) : (numbered stems).length = stems.length :=
  List.length_mapIdx

theorem nodup_numbered (stems : List String) : (numbered stems).Nodup := by
  induction stems using List.reverseRecOn with
  | nil => exact List.nodup_nil
  | append_singleton stems stem ih =>
      rw [numbered_concat]
      apply List.Nodup.append ih (List.nodup_singleton _)
      intro text earlier last
      obtain ⟨i, inside, named⟩ := List.mem_mapIdx.1 earlier
      rw [List.mem_singleton, ← named, name_inj] at last
      -- the number at a place of the list is not behind its length
      obtain ⟨-, same⟩ := last
      omega

/-- **Names since the last reset are numbered from one**, in the order in which they are
asked for, and the counter has counted them. -/
theorem sinceReset_answers (requests : List Request) :
    sinceReset (answers {} requests) = numbered (sinceReset (requests.map Request.stem?))
      ∧ (after {} requests).handedOut = (sinceReset (requests.map Request.stem?)).length := by
  -- by induction from the last request backwards: what it adds is seen in the end
  induction requests using List.reverseRecOn with
  | nil => exact ⟨rfl, rfl⟩
  | append_singleton requests r ih =>
      obtain ⟨names, counted⟩ := ih
      rw [answers_concat, after_concat, List.map_append]
      cases r with
      | allocate stem =>
          show sinceReset (_ ++ [some (name stem ((after {} requests).handedOut + 1))])
              = numbered (sinceReset (_ ++ [some stem]))
            ∧ (after {} requests).handedOut + 1 = (sinceReset (_ ++ [some stem])).length
          rw [sinceReset_concat_some, sinceReset_concat_some, numbered_concat, names, counted]
          simp
      | reset =>
          show sinceReset (_ ++ [none]) = numbered (sinceReset (_ ++ [none]))
            ∧ 0 = (sinceReset (_ ++ [none])).length
          rw [sinceReset_concat_none, sinceReset_concat_none]
          exact ⟨rfl, rfl⟩

/-- **NAMES ARE FRESH UNTIL THE NEXT RESET**, whatever is asked for and whatever the
stems.  Those since the last reset are pairwise distinct; the counter says how many they
are, so a word of 64 bits holds it as long as they are fewer than 2⁶⁴; and they are a
function of the stems since then, with nothing left of what was before. -/
theorem fresh_until_reset (requests : List Request) :
    (sinceReset (answers {} requests)).Nodup
      ∧ (after {} requests).handedOut = (sinceReset (answers {} requests)).length
      ∧ sinceReset (answers {} requests) = numbered (sinceReset (requests.map Request.stem?)) := by
  obtain ⟨names, counted⟩ := sinceReset_answers requests
  refine ⟨?_, ?_, names⟩
  · rw [names]
    exact nodup_numbered _
  · rw [names, length_numbered, counted]

example : sinceReset (answers {} [.allocate "a", .reset, .allocate "a", .allocate "a_1"])
    = ["a_1", "a_1_2"] := by decide

end NameCounter

end QueryFuzz
