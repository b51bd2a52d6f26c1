import Mathlib.Data.List.Infix

/-!
Replacing every occurrence of a pattern, left to right and without overlap. Where the
replacement is longer than the pattern, the length tells how often the pattern was met.
-/

namespace ReplaceText

variable {α : Type} [DecidableEq α]

/-- The text without its first `skip` letters, with every occurrence of `old` replaced. -/
def replaceSkipping (old new : List α) : Nat → List α → List α
  | _, [] => []
  | skip + 1, _ :: rest => replaceSkipping old new skip rest
  | 0, c :: rest =>
      if old.isPrefixOf (c :: rest) then new ++ replaceSkipping old new (old.length - 1) rest
      else c :: replaceSkipping old new 0 rest

/-- `text.replace(old, new)` for a pattern that is not empty. -/
def replaceAll (old new text : List α) : List α := replaceSkipping old new 0 text

variable {old new text : List α}

theorem replaceSkipping_eq (skip : Nat) (text : List α) :
    replaceSkipping old new skip text = replaceAll old new (text.drop skip) := by
  induction skip generalizing text with
  | zero => rfl
  | succ skip ih =>
    cases text with
    | nil => rfl
    | cons c rest => exact ih rest

/-- The first occurrence is replaced and the replacing goes on behind it. -/
theorem replaceAll_cases (new : List α) (some : old ≠ []) (text : List α) :
    (¬ old <:+: text ∧ replaceAll old new text = text) ∨
      ∃ before after, text = before ++ old ++ after ∧
        replaceAll old new text = before ++ new ++ replaceAll old new after ∧
        ∀ front back, text = front ++ old ++ back → before.length ≤ front.length := by
  induction text with
  | nil => exact .inl ⟨fun inside => some (List.infix_nil.mp inside), rfl⟩
  | cons c rest ih =>
    by_cases here : old <+: c :: rest
    · obtain ⟨after, split⟩ := here
      refine .inr ⟨[], after, split.symm, ?_, fun front back _ => Nat.zero_le _⟩
      have skipped : rest.drop (old.length - 1) = after := by
        obtain ⟨d, old', rfl⟩ := List.exists_cons_of_ne_nil some
        rw [List.cons_append, List.cons.injEq] at split
        rw [← split.2]
        exact List.drop_left
      have test : old.isPrefixOf (c :: rest) = true :=
        List.isPrefixOf_iff_prefix.mpr ⟨after, split⟩
      rw [replaceAll, replaceSkipping, if_pos test, replaceSkipping_eq, skipped]
      rfl
    · have test : ¬ old.isPrefixOf (c :: rest) = true := mt List.isPrefixOf_iff_prefix.mp here
      have next : replaceAll old new (c :: rest) = c :: replaceAll old new rest := by
        rw [replaceAll, replaceSkipping, if_neg test]
        rfl
      rcases ih with ⟨absent, same⟩ | ⟨before, after, split, replaced, first⟩
      · refine .inl ⟨?_, by rw [next, same]⟩
        rw [List.infix_cons_iff]
        exact not_or.mpr ⟨here, absent⟩
      · refine .inr ⟨c :: before, after, ?_, ?_, ?_⟩
        · rw [split]
          rfl
        · rw [next, replaced]
          rfl
        · intro front back occurs
          cases front with
          | nil => exact absurd ⟨back, occurs.symm⟩ here
          | cons d front =>
            rw [List.cons_append, List.cons_append, List.cons.injEq] at occurs
            exact Nat.succ_le_succ (first front back occurs.2)

theorem length_le_replaceAll (some : old ≠ []) (longer : old.length ≤ new.length)
    (text : List α) : text.length ≤ (replaceAll old new text).length := by
  rcases replaceAll_cases new some text with ⟨-, same⟩ | ⟨before, after, split, replaced, -⟩
  · rw [same]
  · have shorter : after.length < text.length := by
      have := List.length_pos_iff.mpr some
      rw [split]
      simp
      omega
    have rest := length_le_replaceAll some longer after
    rw [replaced, split]
    simp
    omega
  termination_by text.length

theorem lt_length_replaceAll (some : old ≠ []) (longer : old.length < new.length)
    (occurs : old <:+: text) : text.length < (replaceAll old new text).length := by
  rcases replaceAll_cases new some text with ⟨absent, -⟩ | ⟨before, after, split, replaced, -⟩
  · exact absurd occurs absent
  · have rest := length_le_replaceAll some longer.le after
    rw [replaced, split]
    simp
    omega

/-- Where the replacement holds the pattern, replacing neither adds nor removes all occurrences. -/
theorem infix_replaceAll_iff (some : old ≠ []) (held : old <:+: new) :
    old <:+: replaceAll old new text ↔ old <:+: text := by
  rcases replaceAll_cases new some text with ⟨-, same⟩ | ⟨before, after, split, replaced, -⟩
  · rw [same]
  · refine iff_of_true ?_ ⟨before, after, split.symm⟩
    rw [replaced]
    exact held.trans ⟨before, _, rfl⟩

theorem mem_of_mem_replaceAll (some : old ≠ []) {c : α} (text : List α)
    (held : c ∈ replaceAll old new text) : c ∈ text ∨ c ∈ new := by
  rcases replaceAll_cases new some text with ⟨-, same⟩ | ⟨before, after, split, replaced, -⟩
  · rw [same] at held
    exact .inl held
  · have shorter : after.length < text.length := by
      have := List.length_pos_iff.mpr some
      rw [split]
      simp
      omega
    rw [replaced] at held
    rcases List.mem_append.mp held with held | held
    · rcases List.mem_append.mp held with held | held
      · rw [split]
        exact .inl (List.mem_append_left _ (List.mem_append_left _ held))
      · exact .inr held
    · rcases mem_of_mem_replaceAll some after held with held | held
      · rw [split]
        exact .inl (List.mem_append_right _ held)
      · exact .inr held
  termination_by text.length

/-- A longer replacement changes exactly the texts in which the pattern occurs. -/
theorem replaceAll_eq_self_iff (some : old ≠ []) (longer : old.length < new.length) :
    replaceAll old new text = text ↔ ¬ old <:+: text := by
  constructor
  · intro same occurs
    have grown := lt_length_replaceAll some longer occurs
    rw [same] at grown
    exact lt_irrefl _ grown
  · intro absent
    rcases replaceAll_cases new some text with ⟨-, same⟩ | ⟨before, after, split, -⟩
    · exact same
    · exact absurd ⟨before, after, split.symm⟩ absent

omit [DecidableEq α] in
/-- Behind a text that has none, a pattern whose first letter is not met again in it occurs once. -/
theorem eq_of_occurs_last {c : α} {tail stem before after : List α} (once : c ∉ tail)
    (absent : ¬ (c :: tail) <:+: stem)
    (split : stem ++ (c :: tail) = before ++ (c :: tail) ++ after) : before = stem ∧ after = [] := by
  rw [List.append_assoc] at split
  rcases List.append_eq_append_iff.mp split with ⟨inner, rfl, rest⟩ | ⟨inner, rfl, rest⟩
  · have lengths := congrArg List.length rest
    simp at lengths
    obtain ⟨inner_nil, after_nil⟩ : inner = [] ∧ after = [] := by
      constructor
      · exact List.length_eq_zero_iff.mp (by omega)
      · exact List.length_eq_zero_iff.mp (by omega)
    rw [inner_nil, List.append_nil]
    exact ⟨rfl, after_nil⟩
  · -- the occurrence begins inside `stem`, so it ends there or overlaps the last one
    rcases List.append_eq_append_iff.mp rest with ⟨gap, rfl, -⟩ | ⟨shared, hold, hshared⟩
    · exact absurd ⟨before, gap, by simp⟩ absent
    · cases inner with
      | nil =>
        rw [List.nil_append] at hold
        rw [← hold] at hshared
        have lengths := congrArg List.length hshared
        simp at lengths
        exact ⟨(List.append_nil _).symm, lengths⟩
      | cons d inner =>
        rw [List.cons_append, List.cons.injEq] at hold
        cases shared with
        | nil =>
          refine absurd ⟨before, [], ?_⟩ absent
          rw [← hold.1, hold.2, List.append_nil, List.append_nil]
        | cons e shared =>
          rw [List.cons_append, List.cons.injEq] at hshared
          refine absurd ?_ once
          rw [hold.2, hshared.1]
          exact List.mem_append_right _ List.mem_cons_self

/-- The last letters are the only ones that are replaced exactly if the pattern does not occur
before them. -/
theorem replaceAll_append_iff {c : α} {tail stem : List α} (once : c ∉ tail)
    (longer : (c :: tail).length < new.length) :
    replaceAll (c :: tail) new (stem ++ (c :: tail)) = stem ++ new ↔ ¬ (c :: tail) <:+: stem := by
  have some : c :: tail ≠ [] := List.cons_ne_nil _ _
  rcases replaceAll_cases new some (stem ++ (c :: tail)) with
    ⟨absent, -⟩ | ⟨before, after, split, replaced, first⟩
  · exact absurd (List.suffix_append stem (c :: tail)).isInfix absent
  · constructor
    · rintro same ⟨front, back, rfl⟩
      -- with an earlier occurrence, the last one is met again behind the first
      have early := first front (back ++ (c :: tail)) (by simp)
      have lengths := congrArg List.length split
      have again : (c :: tail) <:+ after := by
        have behind : after <:+ front ++ (c :: tail) ++ back ++ (c :: tail) := by
          rw [split]
          exact List.suffix_append _ _
        refine List.suffix_of_suffix_length_le (List.suffix_append _ _) behind ?_
        simp at early lengths ⊢
        omega
      have grown := lt_length_replaceAll some longer again.isInfix
      have replacedLengths := congrArg List.length (same.symm.trans replaced)
      simp at lengths replacedLengths
      omega
    · intro absent
      obtain ⟨rfl, rfl⟩ := eq_of_occurs_last once absent split
      rw [replaced]
      exact List.append_nil _

/-- A pattern behind a text without its first letter is replaced once. -/
theorem replaceAll_append_of_notMem {c : α} {tail stem : List α} (new : List α)
    (fresh : c ∉ stem) : replaceAll (c :: tail) new (stem ++ (c :: tail)) = stem ++ new := by
  induction stem with
  | nil =>
    have here : (c :: tail).isPrefixOf (c :: tail) = true :=
      List.isPrefixOf_iff_prefix.mpr List.prefix_rfl
    rw [List.nil_append, replaceAll, replaceSkipping, if_pos here, replaceSkipping_eq]
    simp [replaceAll, replaceSkipping]
  | cons d rest ih =>
    obtain ⟨other, freshRest⟩ := not_or.mp (mt List.mem_cons.mpr fresh)
    have elsewhere : ¬ (c :: tail).isPrefixOf (d :: (rest ++ (c :: tail))) = true := by
      simp [List.isPrefixOf, other]
    rw [List.cons_append, replaceAll, replaceSkipping, if_neg elsewhere]
    exact congrArg (d :: ·) (ih freshRest)

end ReplaceText
