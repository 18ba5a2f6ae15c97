/-
  QueryFuzz.Proofs.Effort
  ───────────────────────
  **HOW DEEP AND HOW LONG A GENERATOR GOES.**

  The rules below follow the calls that a generator makes, failed attempts
  included, and the scopes that it opens:

      Gen.Within g calls deep — `g` enters at most `calls` generators, opens no
                                scope below level `deep`, and no fault but
                                the end of its rounds halts it

  Calls add up along sequences and are multiplied by attempts and rows.
  `Load.calls` is the recursion that comes of it for a tower of generators: a
  number of the tower's height, the options, the catalog and the rounds.
-/
import QueryFuzz.Proofs.Catalog
import QueryFuzz.Proofs.Soundness

namespace QueryFuzz.Gen

variable {α β : Type}

/-! ## §1. The rules. -/

/-- Something that the generator finds on some stream from some state. -/
def MayFind (g : Gen α) (a : α) : Prop := ∃ words s, (g words s).1 = .found a

theorem Finds.mayFind {g : Gen α} {Q : Nat → α → Nat → Prop} (hg : ∀ k, g.Finds k (Q k))
    {a : α} (h : g.MayFind a) : ∃ k k', Q k a k' := by
  obtain ⟨words, s, found⟩ := h
  exact ⟨_, _, (hg _ words s rfl).2 a found⟩

/-- The one fault that says nothing about the generator but that a loop of dice rolls
went on. -/
def RoundsOnly (why : Fault) : Prop := why = .roundsExhausted

/-- The generator enters at most `calls` generators, itself included, opens scopes of
level `deep` at most, and is halted by nothing but the end of its rounds. -/
def Within (g : Gen α) (calls deep : Nat) : Prop :=
  ∀ words s, (g words s).2.entered ≤ s.entered + calls
    ∧ (g words s).2.deepest ≤ max s.deepest deep
    ∧ ∀ why, (g words s).1 = .halted why → RoundsOnly why

section Rules

variable {g : Gen α} {c m d : Nat}

theorem Within.mono (hg : g.Within c d) (h : c ≤ m) : g.Within m d := by
  intro words s
  obtain ⟨entered, deepest, faults⟩ := hg words s
  exact ⟨by omega, deepest, faults⟩

/-- Draws call no generator and open no scope. -/
theorem Draws.within {Q : α → Prop} (hg : g.Draws Q RoundsOnly) : g.Within c d := by
  intro words s
  obtain ⟨hstate, -, faults⟩ := hg words s
  rw [hstate]
  exact ⟨Nat.le_add_right _ _, Nat.le_max_left _ _, faults⟩

theorem pure_within (a : α) : (pure a : Gen α).Within c d :=
  (pure_draws (Q := fun _ => True) trivial).within

theorem nothing_within : (nothing : Gen α).Within c d :=
  (nothing_draws (Q := fun _ => True)).within

theorem exhausted_within : (halt .roundsExhausted : Gen α).Within c d :=
  (halt_draws (Q := fun _ => True) (F := RoundsOnly) rfl).within

theorem note_within (e : Event) : (note e).Within c d := by
  intro words s
  exact ⟨Nat.le_add_right _ _, Nat.le_max_left _ _, fun _ h => by injection h⟩

theorem fresh_within (stem : String) : (fresh stem).Within c d := by
  intro words s
  exact ⟨Nat.le_add_right _ _, Nat.le_max_left _ _, fun _ h => by injection h⟩

/-- Calls add up along a sequence. -/
theorem Within.bind {f : α → Gen β} (hg : g.Within c d)
    (hf : ∀ a, g.MayFind a → (f a).Within m d) :
    (g >>= f).Within (c + m) d := by
  intro words s
  obtain ⟨entered, deepest, faults⟩ := hg words s
  have found : ∀ a, (g words s).1 = .found a → (f a).Within m d :=
    fun a ha => hf a ⟨words, s, ha⟩
  rw [bind_run]
  generalize g words s = r at entered deepest faults found ⊢
  obtain ⟨o, s'⟩ := r
  simp only at entered deepest
  cases o with
  | found a =>
      obtain ⟨entered', deepest', faults'⟩ := found a rfl words s'
      refine ⟨?_, ?_, faults'⟩
      · show (f a words s').2.entered ≤ _
        omega
      · show (f a words s').2.deepest ≤ _
        omega
  | nothing => exact ⟨by show s'.entered ≤ _; omega, deepest, fun _ h => by injection h⟩
  | halted why =>
      refine ⟨by show s'.entered ≤ _; omega, deepest, fun w h => faults w ?_⟩
      injection h with h
      rw [h]

/-- Entering a generator is one call. -/
theorem Within.entered {f : Unit → Gen β} (hf : (f ()).Within c d) :
    (enter >>= f).Within (1 + c) d := by
  have enter_within : enter.Within 1 d := by
    intro words s
    exact ⟨Nat.le_refl _, Nat.le_max_left _ _, fun _ h => by injection h⟩
  exact enter_within.bind fun _ _ => hf

/-- A draw before a generator calls nothing. -/
theorem Within.drawn {Q : α → Prop} {f : α → Gen β} (hg : g.Draws Q RoundsOnly)
    (hf : ∀ a, Q a → (f a).Within c d) : (g >>= f).Within c d := by
  have none := hg.within (c := 0) (d := d)
  refine (none.bind fun a ha => ?_).mono (Nat.le_of_eq (Nat.zero_add c))
  obtain ⟨words, s, found⟩ := ha
  exact hf a ((hg words s).2.1 a found)

theorem Within.map (hg : g.Within c d) (f : α → β) : (f <$> g).Within c d :=
  hg.bind (m := 0) fun a _ => pure_within (f a)

theorem Within.orElse {h : Gen α} (hg : g.Within c d) (hh : h.Within m d) :
    (g.orElse h).Within (c + m) d := by
  intro words s
  obtain ⟨entered, deepest, faults⟩ := hg words s
  unfold Gen.orElse
  generalize g words s = r at entered deepest faults ⊢
  obtain ⟨o, s'⟩ := r
  simp only at entered deepest
  cases o with
  | found a => exact ⟨by show s'.entered ≤ _; omega, deepest, faults⟩
  | halted why => exact ⟨by show s'.entered ≤ _; omega, deepest, faults⟩
  | nothing =>
      obtain ⟨entered', deepest', faults'⟩ := hh words s'
      refine ⟨?_, ?_, faults'⟩
      · show (h words s').2.entered ≤ _
        omega
      · show (h words s').2.deepest ≤ _
        omega

theorem Within.noting (hg : g.Within c d) (e : Event) :
    (g.noting e).Within c d :=
  hg.orElse (m := 0) ((note_within e).bind (c := 0) (m := 0) fun _ _ => nothing_within)

/-- Every attempt may call as many generators as one. -/
theorem Within.retry (hg : g.Within c d) (n : Nat) :
    (Gen.retry n g).Within (n * c) d := by
  induction n with
  | zero => exact nothing_within
  | succ n ih =>
      rw [retry_succ]
      refine (hg.orElse ih).mono ?_
      rw [Nat.succ_mul]
      omega

theorem Within.times (hg : g.Within c d) (n : Nat) :
    (Gen.times n g).Within (n * c) d := by
  induction n with
  | zero => exact pure_within []
  | succ n ih =>
      refine (hg.bind fun a _ => ih.bind (m := 0) fun as _ => pure_within _).mono ?_
      rw [Nat.succ_mul]
      omega

theorem traverse_within {f : α → Gen β} (as : List α)
    (hf : ∀ a ∈ as, (f a).Within c d) :
    (Gen.traverse f as).Within (as.length * c) d := by
  induction as with
  | nil => exact pure_within []
  | cons a as ih =>
      obtain ⟨head, tail⟩ := List.forall_mem_cons.1 hf
      refine (head.bind fun b _ => (ih tail).bind (m := 0) fun bs _ => pure_within _).mono ?_
      rw [List.length_cons, Nat.succ_mul]
      omega

end Rules

end QueryFuzz.Gen

namespace QueryFuzz

/-! ## §2. The bounds. -/

/-- The longest list of columns that an INSERT into a table of the catalog may name. -/
def Catalog.mostTargets (c : Catalog) : Nat :=
  (c.tables.map fun t => (t.columns.filter Column.isInsertTarget).length).foldr max 0

/-- The most arguments that a function of the catalog takes. -/
def Catalog.mostArguments (c : Catalog) : Nat :=
  (c.functions.entries.map fun f => f.inputs.length).foldr max 0

namespace Generate

/-- What the number of calls depends on besides the depth cap. -/
structure Load where
  retries : Nat
  mostRows : Nat
  mostArguments : Nat
  mostTargets : Nat
  rounds : Nat

/-- The load of a setting. -/
def Setting.load (S : Setting) : Load where
  retries := S.options.retryCount
  mostRows := S.options.maxValuesRows
  mostArguments := S.catalog.mostArguments
  mostTargets := S.catalog.mostTargets
  rounds := S.rounds

namespace Load

/-- The most columns of a query: one, those of an INSERT, or as many as the dice give. -/
def width (l : Load) : Nat := max 1 (max l.mostTargets l.rounds)

/-- The most generators of the next height that one attempt calls. -/
def fanOut (l : Load) : Nat := l.width * (l.mostRows + 1) + l.rounds + l.mostArguments + 5

/-- A bound on the calls of one attempt, given one for the generators below. -/
def attempt (l : Load) (below : Nat) : Nat := 3 + l.fanOut * below

/-- A bound on the calls of a generator of a height. -/
def calls (l : Load) : Nat → Nat
  | 0 => 0
  | height + 1 => 1 + l.retries * l.attempt (l.calls height)

/-- **A bound on the calls of a statement** under a depth cap. -/
def statement (l : Load) (depth : Nat) : Nat := 2 + l.calls (depth + 3)

/-- An attempt that calls no more than its fan-out of generators stays in bounds. -/
theorem le_attempt {l : Load} {n : Nat} (below : Nat) (h : n ≤ l.fanOut) :
    3 + n * below ≤ l.attempt below := by
  have := Nat.mul_le_mul_right below h
  unfold attempt
  omega

theorem width_le_fanOut (l : Load) : l.width + l.rounds + 2 ≤ l.fanOut := by
  have : l.width * (l.mostRows + 1) = l.width * l.mostRows + l.width := Nat.mul_succ ..
  unfold fanOut
  omega

theorem rows_le_fanOut {l : Load} {rows types : Nat} (hrows : rows ≤ l.mostRows)
    (htypes : types ≤ l.width) : rows * types ≤ l.fanOut := by
  have : rows * types ≤ l.mostRows * l.width := Nat.mul_le_mul hrows htypes
  have : l.width * (l.mostRows + 1) = l.mostRows * l.width + l.width := by
    rw [Nat.mul_succ, Nat.mul_comm]
  unfold fanOut
  omega

theorem attempt_le_calls {l : Load} (hl : l.retries ≠ 0) (height : Nat) :
    1 + l.attempt (l.calls height) ≤ l.calls (height + 1) := by
  have : 1 * l.attempt (l.calls height) ≤ l.retries * l.attempt (l.calls height) :=
    Nat.mul_le_mul_right _ (Nat.pos_of_ne_zero hl)
  show _ ≤ 1 + l.retries * l.attempt (l.calls height)
  omega

end Load

/-- A number of a list is at most the list's greatest. -/
theorem le_foldr_max {n : Nat} {ns : List Nat} (h : n ∈ ns) : n ≤ ns.foldr max 0 := by
  induction ns with
  | nil => cases h
  | cons m ns ih =>
      show n ≤ max m (ns.foldr max 0)
      obtain rfl | h := List.mem_cons.1 h
      · exact Nat.le_max_left ..
      · exact Nat.le_trans (ih h) (Nat.le_max_right ..)

theorem inputs_le_mostArguments {c : Catalog} {t : SqlType} {f : SqlFunction}
    (h : f ∈ c.functionsFor t) : f.inputs.length ≤ c.mostArguments :=
  le_foldr_max (List.mem_map_of_mem (f := fun f => f.inputs.length) (c.mem_functions h))

/-- Only columns that can be written are named, so the longest list bounds them. -/
theorem Targets.length_le {columns targets : List Column} (h : Targets columns targets) :
    targets.length ≤ (columns.filter Column.isInsertTarget).length := by
  induction h with
  | nil => exact Nat.le_refl 0
  | named h rest ih =>
      rw [List.filter_cons_of_pos h]
      exact Nat.succ_le_succ ih
  | omitted h rest ih =>
      refine Nat.le_trans ih (List.Sublist.length_le ?_)
      exact (List.sublist_cons_self _ _).filter _

theorem targets_le_mostTargets {c : Catalog} {table : Table} {targets : List Column}
    (listed : table ∈ c.tables) (h : Targets table.columns targets) :
    targets.length ≤ c.mostTargets :=
  Nat.le_trans h.length_le (le_foldr_max (List.mem_map_of_mem listed))

/-- Desired column types that are no more than the width. -/
def Narrow (l : Load) (desired : Option (List SqlType)) : Prop :=
  ∀ ts, desired = some ts → ts.length ≤ l.width

theorem Served.length_le {S : Setting} {desired : Option (List SqlType)}
    {types : List SqlType} (h : Served desired types) (hd : Narrow S.load desired)
    (rounds : desired = none → types.length ≤ S.rounds) : types.length ≤ S.load.width := by
  cases desired with
  | none =>
      have := rounds rfl
      show _ ≤ max 1 (max _ S.rounds)
      omega
  | some ts =>
      have same : types = ts := h.2
      rw [same]
      exact hd ts rfl

end Generate

end QueryFuzz
