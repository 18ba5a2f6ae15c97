/-
  QueryFuzz.Proofs.DrawRange
  ──────────────────────────
  **DRAWS STAY IN THEIR RANGE AND REACH ALL OF IT.**

  A draw below `n` takes the high half of the product of a digit and `n`.  The
  digit that makes a given number of it is the least whose product comes up to
  that number of whole units; where the draw asks for a correction digit as well,
  a zero corrects nothing.

      Gen.Certain g Q  — whatever the words, `g` finds a value of which `Q` holds
      Gen.Reaches g a  — from every state `g` finds `a` for some words
      Gen.Supplies g b — from every state `g` finds any digit below `b` for some
                         words, and a zero behind it

  Main results:
    * `Gen.exists_digit` — every number below `n` is the high half for some digit;
    * `Gen.scaled_reaches` — so digits that are supplied reach all numbers below `n`;
    * `Gen.draws_cover_range` — dice and picks stay in range and reach all of it.
-/
import QueryFuzz.Proofs.NewTables

namespace QueryFuzz

namespace Gen

variable {α β : Type}

/-! ## §1. Digits for numbers. -/

/-- **Every number below `n` is the high half of a product** of some digit and `n`, when
there are as many digits as numbers. -/
theorem exists_digit {base n k : Nat} (fits : n ≤ base) (hk : k < n) :
    ∃ x, x < base ∧ x * n / base = k := by
  -- the least digit whose product comes up to `k` units
  have least : k * base ≤ (k * base + (n - 1)) / n * n := by
    have above := Nat.lt_div_mul_add (a := k * base + (n - 1)) (b := n) (by omega)
    omega
  have most : (k * base + (n - 1)) / n * n ≤ k * base + (n - 1) := Nat.div_mul_le_self ..
  have unit : (k + 1) * base = k * base + base := by rw [Nat.add_mul, Nat.one_mul]
  have top : (k + 1) * base ≤ base * n := by
    rw [Nat.mul_comm base n]
    exact Nat.mul_le_mul_right base hk
  generalize (k * base + (n - 1)) / n = x at least most
  refine ⟨x, ?_, ?_⟩
  · have small : x * n < base * n := by omega
    exact Nat.lt_of_mul_lt_mul_right small
  · apply Nat.div_eq_of_lt_le least
    omega

/-! ## §2. What some words make a generator find. -/

/-- From every state the generator finds the value for some words. -/
def Reaches (g : Gen α) (a : α) : Prop := ∀ s, ∃ words s', g words s = (.found a, s')

/-- From every state the generator finds any digit below `base` for some words, and, run
once more, a zero. -/
def Supplies (digit : Gen Nat) (base : Nat) : Prop :=
  ∀ x, x < base → ∀ s, ∃ words s' s'',
    digit words s = (.found x, s') ∧ digit words s' = (.found 0, s'')

/-- A value that is reached is handed on. -/
theorem Reaches.bind {g : Gen α} {f : α → Gen β} {a : α} {b : β} (hg : g.Reaches a)
    (hf : ∀ words s, f a words s = (.found b, s)) : (g >>= f).Reaches b := by
  intro s
  obtain ⟨words, s', found⟩ := hg s
  refine ⟨words, s', ?_⟩
  rw [bind_found found, hf]

/-- The words of a list from a place on, and then zeros. -/
def supplying (place : Nat) (first : List UInt32) : WordStream := fun i =>
  first.getD (i - place) 0

theorem supplying_add (place i : Nat) (first : List UInt32) :
    supplying place first (place + i) = first.getD i 0 := by
  unfold supplying
  rw [Nat.add_sub_cancel_left]

theorem word_supplies : Supplies (UInt32.toNat <$> word) (2 ^ 32) := by
  intro x hx s
  have digit : (UInt32.ofNat x).toNat = x := UInt32.toNat_ofNat_of_lt' hx
  refine ⟨supplying s.taken [UInt32.ofNat x], { s with taken := s.taken + 1 },
    { s with taken := s.taken + 2 }, ?_, ?_⟩
  · show (Outcome.found (supplying s.taken [UInt32.ofNat x] (s.taken + 0)).toNat, _) = _
    rw [supplying_add]
    show (Outcome.found (UInt32.ofNat x).toNat, _) = _
    rw [digit]
  · show (Outcome.found (supplying s.taken [UInt32.ofNat x] (s.taken + 1)).toNat, _) = _
    rw [supplying_add]
    rfl

theorem doubleWord_supplies : Supplies doubleWord (2 ^ 64) := by
  intro x hx s
  have hlow : x % 2 ^ 32 < 2 ^ 32 := Nat.mod_lt x (by decide)
  have hhigh : x / 2 ^ 32 < 2 ^ 32 := by omega
  have low : (UInt32.ofNat (x % 2 ^ 32)).toNat = x % 2 ^ 32 := UInt32.toNat_ofNat_of_lt' hlow
  have high : (UInt32.ofNat (x / 2 ^ 32)).toNat = x / 2 ^ 32 := UInt32.toNat_ofNat_of_lt' hhigh
  generalize UInt32.ofNat (x % 2 ^ 32) = first at low
  generalize UInt32.ofNat (x / 2 ^ 32) = second at high
  refine ⟨supplying s.taken [first, second], { s with taken := s.taken + 2 },
    { s with taken := s.taken + 4 }, ?_, ?_⟩
  · show (Outcome.found ((supplying s.taken [first, second] (s.taken + 0)).toNat
        + 2 ^ 32 * (supplying s.taken [first, second] (s.taken + 1)).toNat), _) = _
    rw [supplying_add, supplying_add]
    show (Outcome.found (first.toNat + 2 ^ 32 * second.toNat), _) = _
    rw [low, high, Nat.mod_add_div]
  · show (Outcome.found ((supplying s.taken [first, second] (s.taken + 2)).toNat
        + 2 ^ 32 * (supplying s.taken [first, second] (s.taken + 3)).toNat), _) = _
    rw [supplying_add, supplying_add]
    rfl

/-- **Digits that are supplied reach all numbers below `n`.** -/
theorem scaled_reaches {base n k : Nat} {digit : Gen Nat} (supplied : digit.Supplies base)
    (fits : n ≤ base) (hk : k < n) : (scaled base digit n).Reaches k := by
  intro s
  obtain ⟨x, hx, high⟩ := exists_digit fits hk
  obtain ⟨words, s', s'', first, second⟩ := supplied x hx s
  have low : x * n % base < base := Nat.mod_lt _ (by omega)
  unfold scaled
  by_cases corrected : base - n < x * n % base
  · -- a zero for a correction leaves the high half as it is
    refine ⟨words, s'', ?_⟩
    rw [bind_found first, if_pos corrected, bind_found second, Nat.zero_mul, Nat.zero_div,
      if_neg (by omega), high]
    rfl
  · refine ⟨words, s', ?_⟩
    rw [bind_found first, if_neg corrected, high]
    rfl

/-! ## §3. Dice and picks. -/

theorem below_reaches {n k : Nat} (fits : n ≤ 2 ^ 64) (hk : k < n) : (below n).Reaches k := by
  unfold below
  rw [if_neg (by omega)]
  split
  · rename_i few
    exact scaled_reaches word_supplies few hk
  · exact scaled_reaches doubleWord_supplies fits hk

theorem die_reaches {n k : Nat} (fits : n ≤ 2 ^ 64) (one : 1 ≤ k) (hk : k ≤ n) :
    (die n).Reaches k := by
  have drawn : (below n).Reaches (k - 1) := below_reaches fits (by omega)
  have face : k - 1 + 1 = k := by omega
  apply drawn.bind
  intro words s
  rw [face]
  rfl

theorem pick_reaches {choices : List α} {a : α} (fits : choices.length ≤ 2 ^ 64)
    (listed : a ∈ choices) : (pick choices).Reaches a := by
  obtain ⟨i, inside, here⟩ := List.mem_iff_getElem.1 listed
  have nonempty : choices.isEmpty = false := by
    cases choices with
    | nil => cases listed
    | cons _ _ => rfl
  unfold pick
  rw [nonempty]
  apply (below_reaches fits inside).bind
  intro words s
  rw [List.getElem?_eq_getElem inside, here]
  rfl

/-- **DRAWS STAY IN THEIR RANGE AND REACH ALL OF IT.**  A die with `n` faces comes to rest
for all words, those included that make the draw take a correction digit and add its
carry; it shows a number from 1 to `n`, and each of them for some words.  A pick from a
list with elements finds one of them, and each of them for some words as long as a
number of 64 bits counts them; from the empty list, and only from it, it finds nothing,
and takes no word for it. -/
theorem draws_cover_range :
    (∀ n, 1 ≤ n → n < 2 ^ 32 →
        (die n).Certain (fun k => 1 ≤ k ∧ k ≤ n) ∧ ∀ k, 1 ≤ k → k ≤ n → (die n).Reaches k)
      ∧ (∀ (α : Type) (choices : List α), choices ≠ [] →
        (pick choices).Certain (fun a => a ∈ choices)
          ∧ (choices.length < 2 ^ 64 → ∀ a ∈ choices, (pick choices).Reaches a))
      ∧ ∀ (α : Type) (words : WordStream) (s : GenState),
        pick ([] : List α) words s = (.nothing, s) := by
  refine ⟨?_, ?_, ?_⟩
  · intro n some few
    have faces : n ≠ 0 := by omega
    refine ⟨(die_certain faces).of_draws (die_draws n), ?_⟩
    intro k one most
    exact die_reaches (by omega) one most
  · intro α choices some
    have drawn : (pick choices).Draws (fun a => a ∈ choices) (fun _ => True) := pick_draws choices
    refine ⟨(pick_certain some).of_draws drawn, ?_⟩
    intro few a listed
    exact pick_reaches (by omega) listed
  · intro α words s
    rfl

end Gen

namespace Sample

open Gen

/-- The first word asks for a correction, and the second one carries. -/
def carrying : WordStream := fun i => if i = 0 then 0x2AAAAAAA else 0xFFFFFFFF

/-- A die on words that take and carry a correction, and picks from three elements and
from none. -/
theorem carrying_draws :
    (((die 6 carrying {}).1 = .found 2 ∧ (die 6 carrying {}).2.taken = 2)
        ∧ (∃ k s', die 6 carrying {} = (.found k, s') ∧ 1 ≤ k ∧ k ≤ 6) ∧ (die 6).Reaches 6)
      ∧ ((∃ a s', pick [2, 3, 5] carrying {} = (.found a, s') ∧ a ∈ [2, 3, 5])
        ∧ (pick [2, 3, 5]).Reaches 5)
      ∧ pick ([] : List Nat) carrying {} = (.nothing, {}) := by
  obtain ⟨dice, picks, none⟩ := draws_cover_range
  obtain ⟨shows, reaches⟩ := dice 6 (by decide) (by decide)
  obtain ⟨finds, all⟩ := picks Nat [2, 3, 5] (by decide)
  exact ⟨⟨by decide +kernel, shows carrying {}, reaches 6 (by decide) (by decide)⟩,
    ⟨finds carrying {}, all (by decide) 5 (by decide)⟩, none Nat carrying {}⟩

end Sample

end QueryFuzz
