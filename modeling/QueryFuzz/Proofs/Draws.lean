/-
  QueryFuzz.Proofs.Draws
  ──────────────────────
  **WHAT A DRAW CAN COME OUT AS.**

  A draw reads words and leaves everything else of the state as it was.  Its
  outcome is described by two predicates, one of the values it may find and
  one of the faults it may end in:

      Gen.Draws g Q F — `g` only reads words, finds values of which `Q` holds
                        and is halted by faults of which `F` holds

  The rules follow the combinators.  The one arithmetic fact is that the carry
  of the correction word never lifts a draw over its bound (`below_draws`).
-/
import QueryFuzz.Generate.Relation
import QueryFuzz.Generate.Schema

namespace QueryFuzz.Gen

variable {α β : Type}

/-! ## §1. The rules. -/

/-- The generator only reads words; what it finds satisfies `Q`, and the faults
that halt it satisfy `F`. -/
def Draws (g : Gen α) (Q : α → Prop) (F : Fault → Prop) : Prop :=
  ∀ words s, (g words s).2 = { s with taken := (g words s).2.taken }
    ∧ (∀ a, (g words s).1 = .found a → Q a)
    ∧ ∀ why, (g words s).1 = .halted why → F why

section Rules

variable {g : Gen α} {Q : α → Prop} {R : β → Prop} {F : Fault → Prop}

theorem Draws.mono {Q' : α → Prop} {F' : Fault → Prop} (h : g.Draws Q F)
    (hQ : ∀ a, Q a → Q' a) (hF : ∀ why, F why → F' why) : g.Draws Q' F' := by
  intro words s
  obtain ⟨hs, hq, hf⟩ := h words s
  exact ⟨hs, fun a ha => hQ a (hq a ha), fun why hw => hF why (hf why hw)⟩

theorem pure_draws {a : α} (h : Q a) : (pure a : Gen α).Draws Q F := by
  intro words s
  refine ⟨rfl, ?_, ?_⟩
  · intro b hb
    injection hb with hb
    exact hb ▸ h
  · intro why hw
    injection hw

theorem nothing_draws : (nothing : Gen α).Draws Q F := by
  intro words s
  refine ⟨rfl, ?_, ?_⟩
  · intro a ha
    injection ha
  · intro why hw
    injection hw

theorem halt_draws {why : Fault} (h : F why) : (halt why : Gen α).Draws Q F := by
  intro words s
  refine ⟨rfl, ?_, ?_⟩
  · intro a ha
    injection ha
  · intro w hw
    injection hw with hw
    exact hw ▸ h

theorem word_draws : word.Draws (fun _ => True) F := by
  intro words s
  refine ⟨rfl, fun _ _ => trivial, ?_⟩
  intro why hw
  injection hw

/-- What a sequence of two generators does, by how the first one ends. -/
theorem bind_run (g : Gen α) (f : α → Gen β) (words : WordStream) (s : GenState) :
    (g >>= f) words s =
      match g words s with
      | (.found a, s') => f a words s'
      | (.nothing, s') => (.nothing, s')
      | (.halted why, s') => (.halted why, s') := rfl

/-- A sequence goes on with what its first part finds. -/
theorem bind_found {f : α → Gen β} {words : WordStream} {s s' : GenState} {a : α}
    (found : g words s = (.found a, s')) : (g >>= f) words s = f a words s' := by
  rw [bind_run, found]

theorem Draws.bind {f : α → Gen β} (hg : g.Draws Q F)
    (hf : ∀ a, Q a → (f a).Draws R F) : (g >>= f).Draws R F := by
  intro words s
  obtain ⟨hs, hq, hh⟩ := hg words s
  rw [bind_run]
  generalize g words s = r at hs hq hh ⊢
  obtain ⟨o, s'⟩ := r
  cases o with
  | found a =>
      obtain ⟨hs', hq', hh'⟩ := hf a (hq a rfl) words s'
      refine ⟨?_, hq', hh'⟩
      show (f a words s').2 = _
      rw [hs']
      simp only at hs
      rw [hs]
  | nothing => exact ⟨hs, fun _ h => by injection h, fun _ h => by injection h⟩
  | halted why =>
      refine ⟨hs, fun _ h => by injection h, fun w h => hh w ?_⟩
      injection h with h
      rw [h]

theorem Draws.map {f : α → β} (hg : g.Draws Q F) (h : ∀ a, Q a → R (f a)) :
    (f <$> g).Draws R F :=
  hg.bind fun a ha => pure_draws (h a ha)

theorem Draws.orElse {h : Gen α} (hg : g.Draws Q F) (hh : h.Draws Q F) :
    (g.orElse h).Draws Q F := by
  intro words s
  obtain ⟨hs, hq, hf⟩ := hg words s
  unfold Gen.orElse
  generalize g words s = r at hs hq hf ⊢
  obtain ⟨o, s'⟩ := r
  cases o with
  | found a => exact ⟨hs, hq, hf⟩
  | nothing =>
      obtain ⟨hs', hq', hf'⟩ := hh words s'
      refine ⟨?_, hq', hf'⟩
      show (h words s').2 = _
      rw [hs']
      simp only at hs
      rw [hs]
  | halted why => exact ⟨hs, hq, hf⟩

/-- One draw for each element of a list gives as many values. -/
theorem traverse_draws {f : α → Gen β} (hf : ∀ a, (f a).Draws R F) :
    ∀ as : List α, (traverse f as).Draws (fun bs => bs.length = as.length) F
  | [] => pure_draws rfl
  | a :: as =>
      (hf a).bind fun _ _ => (traverse_draws hf as).bind fun bs hbs =>
        pure_draws (by simp [hbs])

end Rules

/-! ## §2. Dice, chances and picks. -/

/-- A digit and the correction digit behind it make a fraction of `base * base`, so its
product with `n` stays below `n`, carry included. -/
theorem high_add_carry_lt {base x y n : Nat} (hx : x < base) (hy : y < base) (hn : n ≠ 0)
    (carry : base ≤ x * n % base + y * n / base) : x * n / base + 1 < n := by
  have whole : x * n / base * base + x * n % base = x * n := Nat.div_add_mod' ..
  have part : y * n / base * base ≤ y * n := Nat.div_mul_le_self ..
  -- the carry is one whole unit of the high half
  have lifted : (x * n / base + 1) * base ≤ x * n + y * n / base := by
    rw [Nat.add_mul, Nat.one_mul]
    omega
  have fraction : x * base + y < base * base := by
    calc x * base + y < x * base + base := Nat.add_lt_add_left hy _
      _ = (x + 1) * base := by rw [Nat.add_mul, Nat.one_mul]
      _ ≤ base * base := Nat.mul_le_mul_right base hx
  have scaled : (x * n / base + 1) * base * base < n * (base * base) := by
    calc (x * n / base + 1) * base * base
        ≤ (x * n + y * n / base) * base := Nat.mul_le_mul_right base lifted
      _ = x * n * base + y * n / base * base := Nat.add_mul ..
      _ ≤ x * n * base + y * n := Nat.add_le_add_left part _
      _ = n * (x * base + y) := by
          rw [Nat.mul_add, Nat.mul_comm y n, Nat.mul_comm x n, Nat.mul_assoc]
      _ < n * (base * base) := Nat.mul_lt_mul_of_pos_left fraction (Nat.pos_of_ne_zero hn)
  rw [Nat.mul_assoc] at scaled
  exact Nat.lt_of_mul_lt_mul_right scaled

theorem high_lt {base x n : Nat} (hx : x < base) (hn : n ≠ 0) : x * n / base < n := by
  have : x * n < base * n := Nat.mul_lt_mul_of_pos_right hx (Nat.pos_of_ne_zero hn)
  exact Nat.div_lt_of_lt_mul this

theorem doubleWord_draws {F : Fault → Prop} : doubleWord.Draws (fun v => v < 2 ^ 64) F := by
  refine word_draws.bind fun low _ => word_draws.bind fun high _ => pure_draws ?_
  have hlow : low.toNat < 2 ^ 32 := low.toNat_lt
  have hhigh : high.toNat < 2 ^ 32 := high.toNat_lt
  omega

/-- Digits below `base` are scaled to numbers below `n`. -/
theorem scaled_draws {base n : Nat} {digit : Gen Nat} {F : Fault → Prop}
    (hdigit : digit.Draws (fun x => x < base) F) (hn : n ≠ 0) :
    (scaled base digit n).Draws (fun k => k < n) F := by
  unfold scaled
  refine hdigit.bind fun x hx => ?_
  dsimp only
  split
  · refine hdigit.bind fun y hy => ?_
    split
    · rename_i carry
      exact pure_draws (high_add_carry_lt hx hy hn carry)
    · exact pure_draws (high_lt hx hn)
  · exact pure_draws (high_lt hx hn)

/-- A draw below `n` stays below `n`; only a draw from no values faults. -/
theorem below_draws (n : Nat) :
    (below n).Draws (fun k => k < n) (fun why => why = .emptyRange ∧ n = 0) := by
  unfold below
  split
  · rename_i hn
    exact halt_draws ⟨rfl, hn⟩
  · rename_i hn
    split
    · exact scaled_draws (word_draws.map fun x _ => x.toNat_lt) hn
    · exact scaled_draws doubleWord_draws hn

theorem die_draws (n : Nat) :
    (die n).Draws (fun k => 1 ≤ k ∧ k ≤ n) (fun why => why = .emptyRange ∧ n = 0) :=
  (below_draws n).bind fun k hk => pure_draws (by omega)

/-- A die with faces never faults. -/
theorem die_draws_of_ne_zero {n : Nat} (hn : n ≠ 0) {F : Fault → Prop} :
    (die n).Draws (fun k => 1 ≤ k ∧ k ≤ n) F :=
  (die_draws n).mono (fun _ h => h) fun _ h => absurd h.2 hn

/-- How a chance of probability `p` can turn out: a certain one only true, an
impossible one only false. -/
def Possible (p : Double) : Bool → Prop
  | true => p.timesWord64 ≠ 0
  | false => p ≠ Double.one

theorem chance_draws (p : Double) :
    (chance p).Draws (Possible p)
      (fun why => why = .notProbability p ∧ p.isProbability = false) := by
  unfold chance
  split
  · rename_i hp
    refine pure_draws ?_
    show p.timesWord64 ≠ 0
    rw [hp]
    decide +kernel
  · rename_i hone
    split
    · refine word_draws.bind fun low _ => word_draws.bind fun high _ => pure_draws ?_
      cases hv : decide (low.toNat + 2 ^ 32 * high.toNat < p.timesWord64) with
      | false => exact hone
      | true =>
          have : low.toNat + 2 ^ 32 * high.toNat < p.timesWord64 := of_decide_eq_true hv
          show p.timesWord64 ≠ 0
          omega
    · rename_i hp
      exact halt_draws ⟨rfl, by simpa using hp⟩

/-- A chance of a probability never faults. -/
theorem chance_draws_of_isProbability {p : Double} (hp : p.isProbability = true)
    {F : Fault → Prop} : (chance p).Draws (Possible p) F :=
  (chance_draws p).mono (fun _ h => h) fun _ h => by simp [hp] at h

theorem coin_draws {F : Fault → Prop} : coin.Draws (fun _ => True) F :=
  (chance_draws_of_isProbability (by decide)).mono (fun _ _ => trivial) fun _ h => h

/-- A pick finds an element, and never faults. -/
theorem pick_draws (choices : List α) {F : Fault → Prop} :
    (pick choices).Draws (fun a => a ∈ choices) F := by
  unfold pick
  split
  · exact nothing_draws
  · rename_i hne
    have hlen : choices.length ≠ 0 := by simpa using hne
    refine ((below_draws choices.length).mono (fun _ h => h)
      fun _ h => absurd h.2 hlen).bind fun i _ => ?_
    cases hi : choices[i]? with
    | none => exact nothing_draws
    | some a => exact pure_draws (List.mem_of_getElem? hi)

end QueryFuzz.Gen
