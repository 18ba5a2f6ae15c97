/-
  QueryFuzz.Proofs.Naming
  ───────────────────────
  **GENERATORS AND THE NAMES THEY HAND OUT.**

  The number of names handed out only grows, in failed attempts too, so it
  orders everything that a generator finds.  The rules below follow what is
  found together with that number:

      Gen.Finds g k Q — started with `k` names handed out, `g` takes none back,
                        and `Q a k'` holds when it finds `a` with `k'` names
                        handed out

  An attempt that finds nothing only raises the number, so the rule for
  repeated attempts (`Finds.retry`) asks for a generator that works from every
  number on.
-/
import QueryFuzz.Proofs.Choices
import QueryFuzz.Proofs.FreshNames

namespace QueryFuzz.Gen

variable {α β : Type}

/-- Started with `k` names handed out, the generator takes none back, and what it
finds with `k'` names handed out satisfies `Q · k'`. -/
def Finds (g : Gen α) (k : Nat) (Q : α → Nat → Prop) : Prop :=
  ∀ words s, s.names.handedOut = k →
    k ≤ (g words s).2.names.handedOut
      ∧ ∀ a, (g words s).1 = .found a → Q a (g words s).2.names.handedOut

section Rules

variable {g : Gen α} {k : Nat} {Q : α → Nat → Prop} {R : β → Nat → Prop}

theorem Finds.mono {Q' : α → Nat → Prop} (hg : g.Finds k Q)
    (h : ∀ a k', k ≤ k' → Q a k' → Q' a k') : g.Finds k Q' := by
  intro words s hs
  obtain ⟨hk, hq⟩ := hg words s hs
  exact ⟨hk, fun a ha => h a _ hk (hq a ha)⟩

/-- What a run has found, with the names that are handed out by then. -/
theorem Finds.of_found {words : WordStream} {s s' : GenState} {a : α}
    (hg : g.Finds s.names.handedOut Q) (found : g words s = (.found a, s')) :
    Q a s'.names.handedOut := by
  obtain ⟨-, hq⟩ := hg words s rfl
  rw [found] at hq
  exact hq a rfl

/-- A draw hands out no names. -/
theorem Draws.finds {P : α → Prop} {F : Fault → Prop} (hg : g.Draws P F)
    (h : ∀ a, P a → Q a k) : g.Finds k Q := by
  intro words s hs
  obtain ⟨hstate, hp, -⟩ := hg words s
  have hk : (g words s).2.names.handedOut = k := by rw [hstate]; exact hs
  rw [hk]
  exact ⟨Nat.le_refl k, fun a ha => h a (hp a ha)⟩

theorem pure_finds {a : α} (h : Q a k) : (pure a : Gen α).Finds k Q :=
  (pure_draws (Q := fun b => b = a) (F := fun _ => True) rfl).finds fun _ hb => hb ▸ h

theorem nothing_finds : (nothing : Gen α).Finds k Q :=
  (nothing_draws (Q := fun _ => False) (F := fun _ => True)).finds fun _ h => h.elim

theorem halt_finds {why : Fault} : (halt why : Gen α).Finds k Q :=
  (halt_draws (Q := fun _ => False) (F := fun _ => True) trivial).finds fun _ h => h.elim

theorem enter_finds : enter.Finds k (fun _ k' => k' = k) := by
  intro words s hs
  exact ⟨Nat.le_of_eq hs.symm, fun _ _ => hs⟩

theorem note_finds (e : Event) : (note e).Finds k (fun _ k' => k' = k) := by
  intro words s hs
  exact ⟨Nat.le_of_eq hs.symm, fun _ _ => hs⟩

theorem fresh_finds (stem : String) :
    (fresh stem).Finds k (fun name k' => name = NameCounter.name stem k' ∧ k' = k + 1) := by
  intro words s hs
  subst hs
  refine ⟨Nat.le_succ _, fun name h => ?_⟩
  injection h with h
  exact ⟨h.symm, rfl⟩

theorem Finds.bind {f : α → Gen β} (hg : g.Finds k Q)
    (hf : ∀ a k', k ≤ k' → Q a k' → (f a).Finds k' R) : (g >>= f).Finds k R := by
  intro words s hs
  obtain ⟨hk, hq⟩ := hg words s hs
  rw [bind_run]
  generalize g words s = r at hk hq ⊢
  obtain ⟨o, s'⟩ := r
  cases o with
  | found a =>
      obtain ⟨hk', hr⟩ := hf a _ hk (hq a rfl) words s' rfl
      exact ⟨Nat.le_trans hk hk', hr⟩
  | nothing => exact ⟨hk, fun _ h => by injection h⟩
  | halted why => exact ⟨hk, fun _ h => by injection h⟩

/-- Entering a generator leaves the names as they are. -/
theorem Finds.entered {f : Unit → Gen β} (hf : (f ()).Finds k R) : (enter >>= f).Finds k R :=
  enter_finds.bind fun _ _ _ h => h ▸ hf

/-- A draw before a generator leaves the names as they are. -/
theorem Finds.drawn {P : α → Prop} {F : Fault → Prop} {f : α → Gen β} (hg : g.Draws P F)
    (hf : ∀ a, P a → (f a).Finds k R) : (g >>= f).Finds k R :=
  (hg.finds (Q := fun a k' => P a ∧ k' = k) fun _ h => ⟨h, rfl⟩).bind
    fun a _ _ h => h.2 ▸ hf a h.1

theorem Finds.map {f : α → β} (hg : g.Finds k Q) (h : ∀ a k', Q a k' → R (f a) k') :
    (f <$> g).Finds k R :=
  hg.bind fun a k' _ ha => pure_finds (h a k' ha)

theorem Finds.orElse {h : Gen α} (hg : g.Finds k Q)
    (hh : ∀ k', k ≤ k' → h.Finds k' Q) : (g.orElse h).Finds k Q := by
  intro words s hs
  obtain ⟨hk, hq⟩ := hg words s hs
  unfold Gen.orElse
  generalize g words s = r at hk hq ⊢
  obtain ⟨o, s'⟩ := r
  cases o with
  | found a => exact ⟨hk, hq⟩
  | nothing =>
      obtain ⟨hk', hr⟩ := hh _ hk words s' rfl
      exact ⟨Nat.le_trans hk hk', hr⟩
  | halted why => exact ⟨hk, hq⟩

/-- What repeated attempts find is found by one of them, from some number on. -/
theorem Finds.retry (n : Nat) :
    ∀ {k : Nat}, (∀ k', k ≤ k' → g.Finds k' Q) → (Gen.retry n g).Finds k Q := by
  induction n with
  | zero => exact fun _ => nothing_finds
  | succ n ih =>
      intro k hg
      rw [retry_succ]
      exact (hg k (Nat.le_refl k)).orElse fun k' hk' =>
        ih fun k'' hk'' => hg k'' (Nat.le_trans hk' hk'')

theorem Finds.noting (hg : g.Finds k Q) (e : Event) : (g.noting e).Finds k Q :=
  hg.orElse fun _ _ => (note_finds e).bind fun _ _ _ _ => nothing_finds

end Rules

end QueryFuzz.Gen
