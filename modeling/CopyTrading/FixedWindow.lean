import Mathlib.Algebra.Order.Field.Basic
import Mathlib.Algebra.Order.Floor.Ring
import Mathlib.Logic.Function.Basic
import Mathlib.Order.Interval.Finset.Nat

/-!
Fixed-window counters. A store keeps one window for each key: an acquisition counts in the
window of its key, and starts a new window when the old one has lasted its interval.
Windows restart lazily, so all that is known of a store is in the acquisitions made on it;
`history` is a ghost variable that records them and is never read.
-/

set_option linter.unusedSectionVars false

namespace FixedWindow

variable {κ 𝕜 : Type}

structure Window (𝕜 : Type) where
  startedAt : 𝕜
  count : Nat
  deriving DecidableEq

/-- One acquisition: the window that counted it, with the count reached. -/
structure Entry (κ 𝕜 : Type) where
  key : κ
  window : Window 𝕜
  time : 𝕜

structure Store (κ 𝕜 : Type) where
  windows : κ → Option (Window 𝕜) := fun _ => none
  history : List (Entry κ 𝕜) := []

section Acquire

variable [DecidableEq κ] [Field 𝕜] [LinearOrder 𝕜]

/-- The window an acquisition counts in. -/
def Store.active (store : Store κ 𝕜) (key : κ) (interval now : 𝕜) : Window 𝕜 :=
  match store.windows key with
  | none => ⟨now, 0⟩
  | some window => if interval ≤ now - window.startedAt then ⟨now, 0⟩ else window

/-- The window after the acquisition. -/
def Store.counted (store : Store κ 𝕜) (key : κ) (interval now : 𝕜) : Window 𝕜 :=
  let window := store.active key interval now
  { window with count := window.count + 1 }

def Store.acquire (store : Store κ 𝕜) (key : κ) (interval now : 𝕜) : Store κ 𝕜 where
  windows := Function.update store.windows key (some (store.counted key interval now))
  history := store.history ++ [⟨key, store.counted key interval now, now⟩]

@[simp] theorem Store.history_acquire (store : Store κ 𝕜) (key : κ) (interval now : 𝕜) :
    (store.acquire key interval now).history =
      store.history ++ [⟨key, store.counted key interval now, now⟩] := rfl

@[simp] theorem Store.windows_acquire_self (store : Store κ 𝕜) (key : κ) (interval now : 𝕜) :
    (store.acquire key interval now).windows key = some (store.counted key interval now) := by
  simp [acquire]

theorem Store.windows_acquire_of_ne (store : Store κ 𝕜) {key other : κ} (interval now : 𝕜)
    (ne : other ≠ key) : (store.acquire key interval now).windows other = store.windows other := by
  simp [acquire, ne]

theorem Store.active_congr {store store' : Store κ 𝕜} {key : κ} (interval now : 𝕜)
    (same : store.windows key = store'.windows key) :
    store.active key interval now = store'.active key interval now := by
  unfold active
  rw [same]

theorem Store.counted_congr {store store' : Store κ 𝕜} {key : κ} (interval now : 𝕜)
    (same : store.windows key = store'.windows key) :
    store.counted key interval now = store'.counted key interval now := by
  unfold counted
  rw [active_congr interval now same]

end Acquire

/-! ### The order of the windows of one key -/

variable [DecidableEq κ] [Field 𝕜] [LinearOrder 𝕜] [IsStrictOrderedRing 𝕜]

/-- `w` counted an acquisition no later than `w'` did. -/
def Window.UpTo (interval : 𝕜) (w w' : Window 𝕜) : Prop :=
  w.startedAt = w'.startedAt ∧ w.count ≤ w'.count ∨ w.startedAt + interval ≤ w'.startedAt

/-- `w` counted an acquisition, and `w'` a later one of the same key. -/
def Window.Before (interval : 𝕜) (w w' : Window 𝕜) : Prop :=
  w.startedAt = w'.startedAt ∧ w.count < w'.count ∨ w.startedAt + interval ≤ w'.startedAt

theorem Window.UpTo.refl (interval : 𝕜) (w : Window 𝕜) : w.UpTo interval w := .inl ⟨rfl, le_rfl⟩

theorem Window.Before.upTo {interval : 𝕜} {w w' : Window 𝕜} (before : w.Before interval w') :
    w.UpTo interval w' :=
  before.imp_left fun ⟨same, less⟩ => ⟨same, less.le⟩

/-- What is known of a store on which key `k` is always acquired with the interval
`interval k`. -/
structure Store.Ordered (interval : κ → 𝕜) (store : Store κ 𝕜) : Prop where
  unseen : ∀ k, store.windows k = none → ∀ e ∈ store.history, e.key ≠ k
  latest : ∀ k w, store.windows k = some w → 1 ≤ w.count ∧
    ∀ e ∈ store.history, e.key = k → e.window.UpTo (interval k) w
  pairwise : store.history.Pairwise fun e e' =>
    e.key = e'.key → e.window.Before (interval e.key) e'.window
  opened : ∀ e ∈ store.history,
    1 ≤ e.window.count ∧ (e.window.count = 1 → e.time = e.window.startedAt)

namespace Store

theorem ordered_empty (interval : κ → 𝕜) : ({} : Store κ 𝕜).Ordered interval where
  unseen := by simp
  latest := by simp
  pairwise := .nil
  opened := by simp

variable {interval : κ → 𝕜} {store : Store κ 𝕜} {key : κ}

/-- An acquisition is counted after all earlier ones of its key. -/
theorem Ordered.before_counted (ordered : store.Ordered interval) (positive : 0 < interval key)
    (now : 𝕜) {e : Entry κ 𝕜} (he : e ∈ store.history) (hkey : e.key = key) :
    e.window.Before (interval key) (store.counted key (interval key) now) := by
  unfold counted active
  cases hwindow : store.windows key with
  | none => exact absurd hkey (ordered.unseen key hwindow e he)
  | some w =>
    have upTo := (ordered.latest key w hwindow).2 e he hkey
    dsimp only
    split
    · -- the window restarts: every earlier one started an interval before
      next exceeded =>
      have hw : w.startedAt + interval key ≤ now := by linarith
      rcases upTo with ⟨same, -⟩ | earlier
      · exact .inr (by rw [same]; exact hw)
      · exact .inr (by simp only; linarith)
    · exact upTo.imp_left fun ⟨same, le⟩ => ⟨same, Nat.lt_succ_of_le le⟩

theorem counted_opened (key : κ) (ordered : store.Ordered interval) (now : 𝕜) :
    1 ≤ (store.counted key (interval key) now).count ∧
      ((store.counted key (interval key) now).count = 1 →
        now = (store.counted key (interval key) now).startedAt) := by
  unfold counted active
  cases hwindow : store.windows key with
  | none => simp
  | some w =>
    have positive := (ordered.latest key w hwindow).1
    dsimp only
    split
    · simp
    · exact ⟨by omega, fun one => by omega⟩

/-- The step lemma. -/
theorem Ordered.acquire (ordered : store.Ordered interval) (positive : 0 < interval key)
    (now : 𝕜) : (store.acquire key (interval key) now).Ordered interval := by
  have opened := counted_opened key ordered now
  constructor
  · intro k hk e he
    by_cases hkey : k = key
    · subst hkey
      simp at hk
    · rw [windows_acquire_of_ne _ _ _ hkey] at hk
      rcases List.mem_append.mp he with he | he
      · exact ordered.unseen k hk e he
      · rw [List.mem_singleton.mp he]
        exact Ne.symm hkey
  · intro k w hw
    by_cases hkey : k = key
    · subst hkey
      rw [windows_acquire_self, Option.some.injEq] at hw
      subst hw
      refine ⟨opened.1, fun e he hkey => ?_⟩
      rcases List.mem_append.mp he with he | he
      · exact (ordered.before_counted positive now he hkey).upTo
      · rw [List.mem_singleton.mp he]
        exact Window.UpTo.refl _ _
    · rw [windows_acquire_of_ne _ _ _ hkey] at hw
      refine ⟨(ordered.latest k w hw).1, fun e he hk => ?_⟩
      rcases List.mem_append.mp he with he | he
      · exact (ordered.latest k w hw).2 e he hk
      · rw [List.mem_singleton.mp he] at hk
        exact absurd hk.symm hkey
  · rw [history_acquire, List.pairwise_append]
    refine ⟨ordered.pairwise, List.pairwise_singleton _ _, fun e he e' he' same => ?_⟩
    rw [List.mem_singleton.mp he'] at same ⊢
    have hkey : e.key = key := same
    rw [hkey]
    exact ordered.before_counted positive now he hkey
  · intro e he
    rcases List.mem_append.mp he with he | he
    · exact ordered.opened e he
    · rw [List.mem_singleton.mp he]
      exact opened

/-- Two acquisitions that were the first of their windows are an interval apart. -/
theorem Ordered.spaced (ordered : store.Ordered interval) {front back : List (Entry κ 𝕜)}
    (hhistory : store.history = front ++ back) {e e' : Entry κ 𝕜} (he : e ∈ front)
    (he' : e' ∈ back) (same : e.key = e'.key) (first : e.window.count ≤ 1)
    (first' : e'.window.count ≤ 1) : e.time + interval e.key ≤ e'.time := by
  have mem : e ∈ store.history := hhistory ▸ List.mem_append_left _ he
  have mem' : e' ∈ store.history := hhistory ▸ List.mem_append_right _ he'
  obtain ⟨positive, opens⟩ := ordered.opened e mem
  obtain ⟨positive', opens'⟩ := ordered.opened e' mem'
  rw [opens (by omega), opens' (by omega)]
  have pairwise := ordered.pairwise
  rw [hhistory, List.pairwise_append] at pairwise
  rcases pairwise.2.2 e he e' he' same with ⟨-, less⟩ | apart
  · omega
  · exact apart

/-- One window counts to a limit at most that many times. -/
theorem Ordered.counted_le (ordered : store.Ordered interval) (key : κ) (startedAt : 𝕜)
    (limit : Nat) (positive : 0 < interval key) :
    (store.history.filter fun e =>
      e.key = key ∧ e.window.startedAt = startedAt ∧ e.window.count ≤ limit).length ≤ limit := by
  generalize hentries : store.history.filter (fun e =>
    e.key = key ∧ e.window.startedAt = startedAt ∧ e.window.count ≤ limit) = entries
  have inWindow : ∀ e ∈ entries, e ∈ store.history ∧ e.key = key ∧
      e.window.startedAt = startedAt ∧ e.window.count ≤ limit := by
    intro e he
    rw [← hentries] at he
    simpa using he
  have counts : (entries.map (·.window.count)).Pairwise (· < ·) := by
    rw [List.pairwise_map]
    have pairwise := ordered.pairwise.sublist (List.filter_sublist (p := fun e =>
      e.key = key ∧ e.window.startedAt = startedAt ∧ e.window.count ≤ limit))
    rw [hentries] at pairwise
    refine pairwise.imp_of_mem fun {e e'} he he' before => ?_
    obtain ⟨-, hkey, hstart, -⟩ := inWindow e he
    obtain ⟨-, hkey', hstart', -⟩ := inWindow e' he'
    rcases before (hkey.trans hkey'.symm) with ⟨-, less⟩ | apart
    · exact less
    · rw [hkey, hstart, hstart'] at apart
      linarith
  have distinct : (entries.map (·.window.count)).Nodup := counts.imp fun less => less.ne
  have within : (entries.map (·.window.count)).toFinset ⊆ Finset.Icc 1 limit := by
    intro n hn
    obtain ⟨e, he, rfl⟩ := List.mem_map.mp (List.mem_toFinset.mp hn)
    obtain ⟨mem, -, -, le⟩ := inWindow e he
    exact Finset.mem_Icc.mpr ⟨(ordered.opened e mem).1, le⟩
  calc entries.length = (entries.map (·.window.count)).length := (List.length_map _).symm
    _ = (entries.map (·.window.count)).toFinset.card := (List.toFinset_card_of_nodup distinct).symm
    _ ≤ (Finset.Icc 1 limit).card := Finset.card_le_card within
    _ = limit := by simp

/-! ### Waiting for a restart -/

/-- No window has started after `now`. -/
def NotAhead (store : Store κ 𝕜) (now : 𝕜) : Prop :=
  ∀ k w, store.windows k = some w → w.startedAt ≤ now

theorem NotAhead.mono {now later : 𝕜} (notAhead : store.NotAhead now) (le : now ≤ later) :
    store.NotAhead later := fun k w hw => (notAhead k w hw).trans le

theorem NotAhead.counted {now : 𝕜} (notAhead : store.NotAhead now) (key : κ) (length : 𝕜) :
    (store.counted key length now).startedAt ≤ now := by
  unfold Store.counted active
  cases hwindow : store.windows key with
  | none => exact le_rfl
  | some w =>
    dsimp only
    split
    · exact le_rfl
    · exact notAhead key w hwindow

theorem NotAhead.acquire {now : 𝕜} (notAhead : store.NotAhead now) (key : κ) (length : 𝕜) :
    (store.acquire key length now).NotAhead now := by
  intro k w hw
  by_cases hkey : k = key
  · subst hkey
    rw [windows_acquire_self, Option.some.injEq] at hw
    exact hw ▸ notAhead.counted k length
  · exact notAhead k w (by rwa [windows_acquire_of_ne _ _ _ hkey] at hw)

/-- A window that has lasted its interval restarts. -/
theorem counted_of_over {w : Window 𝕜} (hw : store.windows key = some w) {length now : 𝕜}
    (exceeded : length ≤ now - w.startedAt) : store.counted key length now = ⟨now, 1⟩ := by
  unfold counted active
  rw [hw]
  simp [exceeded]

end Store

/-- Whole seconds to wait are enough to outlast an interval. -/
theorem outlast [FloorRing 𝕜] {now startedAt : 𝕜} (interval wait : Int)
    (le : interval - ⌊now - startedAt⌋ ≤ wait) :
    (interval : 𝕜) ≤ now + (wait : 𝕜) - startedAt := by
  have hfloor : ((⌊now - startedAt⌋ : Int) : 𝕜) ≤ now - startedAt := Int.floor_le _
  have hcast : (interval : 𝕜) - ((⌊now - startedAt⌋ : Int) : 𝕜) ≤ (wait : 𝕜) := by
    exact_mod_cast le
  linarith

end FixedWindow
