import Mathlib.Algebra.Order.Group.Defs
import Mathlib.Data.List.Pairwise
import Mathlib.Logic.Function.Basic

/-!
Keyed throttles. A throttle remembers when it last let a request of each key pass; a request
is held back when one of its key passed less than an interval ago.
-/

namespace Throttle

variable {κ 𝕜 : Type}

/-- When the last request of a key passed. -/
abbrev State (κ 𝕜 : Type) := κ → Option 𝕜

/-- A request and what was decided about it. -/
structure Entry (κ 𝕜 : Type) where
  key : κ
  time : 𝕜
  passed : Bool

variable [DecidableEq κ] [AddCommGroup 𝕜] [LinearOrder 𝕜]

/-- A request of the key passed less than an interval ago. -/
def holds (state : State κ 𝕜) (key : κ) (interval now : 𝕜) : Bool :=
  (state key).any (now - · < interval)

omit [AddCommGroup 𝕜] [LinearOrder 𝕜] in
/-- What an entry leaves. -/
def next (state : State κ 𝕜) (entry : Entry κ 𝕜) : State κ 𝕜 :=
  if entry.passed then Function.update state entry.key (some entry.time) else state

/-- Every entry was decided as the throttle says, one after the other. -/
def Decided (interval : 𝕜) : State κ 𝕜 → List (Entry κ 𝕜) → Prop
  | _, [] => True
  | state, entry :: rest =>
      entry.passed = !holds state entry.key interval entry.time ∧
        Decided interval (next state entry) rest

theorem decided_append {interval : 𝕜} {state : State κ 𝕜} {first rest : List (Entry κ 𝕜)} :
    Decided interval state (first ++ rest) ↔
      Decided interval state first ∧ Decided interval (first.foldl next state) rest := by
  induction first generalizing state with
  | nil => simp [Decided]
  | cons entry first ih =>
    simp only [List.cons_append, Decided, List.foldl_cons, ih, and_assoc]

omit [AddCommGroup 𝕜] [LinearOrder 𝕜] in
/-- What a throttle remembers it was given, or an entry passed then. -/
theorem passed_of_remembered {state : State κ 𝕜} {entries : List (Entry κ 𝕜)} {key : κ}
    {time : 𝕜} (remembered : entries.foldl next state key = some time) :
    state key = some time ∨
      ∃ entry ∈ entries, entry.passed = true ∧ entry.key = key ∧ entry.time = time := by
  induction entries generalizing state with
  | nil => exact .inl remembered
  | cons entry rest ih =>
    rcases ih remembered with before | ⟨later, mem, facts⟩
    · unfold next at before
      by_cases passed : entry.passed = true
      · rw [if_pos passed] at before
        by_cases same : key = entry.key
        · rw [same, Function.update_self] at before
          exact .inr ⟨entry, List.mem_cons_self, passed, same.symm, Option.some.inj before⟩
        · rw [Function.update_of_ne same] at before
          exact .inl before
      · rw [if_neg passed] at before
        exact .inl before
    · exact .inr ⟨later, List.mem_cons_of_mem _ mem, facts⟩

variable [IsOrderedAddMonoid 𝕜] {interval : 𝕜}

/-- What is held back came less than an interval after an entry of its key that passed. -/
theorem Decided.held_back {first rest : List (Entry κ 𝕜)} {entry : Entry κ 𝕜}
    (decided : Decided interval (fun _ => none) (first ++ entry :: rest))
    (held : entry.passed = false) :
    ∃ earlier ∈ first, earlier.passed = true ∧ earlier.key = entry.key ∧
      entry.time < earlier.time + interval := by
  obtain ⟨-, here, -⟩ := decided_append.mp decided
  rw [held] at here
  have blocked : holds (first.foldl next fun _ => none) entry.key interval entry.time = true := by
    simpa using here.symm
  unfold holds at blocked
  cases remembered : (first.foldl next fun _ => none) entry.key with
  | none => simp [remembered] at blocked
  | some last =>
    rw [remembered, Option.any_some] at blocked
    rcases passed_of_remembered remembered with never | ⟨earlier, mem, passed, key, rfl⟩
    · cases never
    · refine ⟨earlier, mem, passed, key, ?_⟩
      rw [add_comm]
      exact sub_lt_iff_lt_add.mp (of_decide_eq_true blocked)

/-- After a request of the key has passed, the next one passes an interval later. -/
theorem Decided.later {state : State κ 𝕜} {entries : List (Entry κ 𝕜)} {key : κ} {last : 𝕜}
    (decided : Decided interval state entries)
    (sorted : entries.Pairwise fun a b => a.time ≤ b.time) (remembered : state key = some last)
    (after : ∀ entry ∈ entries, last ≤ entry.time) :
    ∀ entry ∈ entries, entry.passed = true → entry.key = key → last + interval ≤ entry.time := by
  induction entries generalizing state last with
  | nil => simp
  | cons entry rest ih =>
    obtain ⟨here, decided⟩ := decided
    obtain ⟨before, sorted⟩ := List.pairwise_cons.mp sorted
    have passes (passed : entry.passed = true) (same : entry.key = key) :
        last + interval ≤ entry.time := by
      rw [passed] at here
      have open_ : holds state entry.key interval entry.time = false := by simpa using here.symm
      unfold holds at open_
      rw [same, remembered, Option.any_some, decide_eq_false_iff_not, not_lt] at open_
      rw [add_comm]
      exact le_sub_iff_add_le.mp open_
    intro other mem passed same
    rcases List.mem_cons.mp mem with rfl | mem
    · exact passes passed same
    · by_cases renewed : entry.passed = true ∧ entry.key = key
      · have remembered' : next state entry key = some entry.time := by
          unfold next
          rw [if_pos renewed.1, ← renewed.2, Function.update_self]
        have spaced := ih decided sorted remembered' before other mem passed same
        exact (add_le_add_left (after entry List.mem_cons_self) interval).trans spaced
      · have remembered' : next state entry key = some last := by
          unfold next
          by_cases passed : entry.passed = true
          · rw [if_pos passed, Function.update_of_ne fun same => renewed ⟨passed, same.symm⟩]
            exact remembered
          · rw [if_neg passed]
            exact remembered
        exact ih decided sorted remembered'
          (fun entry mem => after entry (List.mem_cons_of_mem _ mem)) other mem passed same

/-- Two entries of a key that passed are an interval apart. -/
theorem Decided.spaced {state : State κ 𝕜} {entries : List (Entry κ 𝕜)}
    (decided : Decided interval state entries)
    (sorted : entries.Pairwise fun a b => a.time ≤ b.time) :
    entries.Pairwise fun a b =>
      a.passed = true → b.passed = true → a.key = b.key → a.time + interval ≤ b.time := by
  induction entries generalizing state with
  | nil => exact .nil
  | cons entry rest ih =>
    obtain ⟨-, decided⟩ := decided
    obtain ⟨before, sorted⟩ := List.pairwise_cons.mp sorted
    refine List.pairwise_cons.mpr ⟨fun other mem passed passed' same => ?_, ih decided sorted⟩
    have remembered : next state entry entry.key = some entry.time := by
      unfold next
      rw [if_pos passed, Function.update_self]
    exact decided.later sorted remembered before other mem passed' same.symm

end Throttle
