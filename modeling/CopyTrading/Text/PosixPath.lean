import Mathlib.Data.List.Basic

/-!
Paths as text, where the separator is a slash. A path keeps how its root was written: two
leading slashes stay two, any other number becomes one. Empty components and single dots are
dropped, double dots stay.
-/

namespace PosixPath

/-- What stands before the first component. -/
inductive Root where
  | relative
  | slash
  | slashes
  deriving DecidableEq, Repr

namespace Root

def text : Root → List Char
  | relative => []
  | slash => ['/']
  | slashes => ['/', '/']

/-- The root of a written path, by the number of its leading slashes. -/
def ofText (text : List Char) : Root :=
  match (text.takeWhile (· = '/')).length with
  | 0 => relative
  | 2 => slashes
  | _ => slash

end Root

/-- A component that is kept. -/
def Kept (name : List Char) : Prop := name ≠ [] ∧ name ≠ ['.']

instance (name : List Char) : Decidable (Kept name) := inferInstanceAs (Decidable (_ ∧ _))

structure PurePath where
  root : Root
  names : List (List Char)
  kept : ∀ name ∈ names, Kept name
  whole : ∀ name ∈ names, '/' ∉ name
  deriving DecidableEq

/-! ### The components of a text -/

/-- The components that are kept, in order. -/
def namesOf (text : List Char) : List (List Char) := (text.splitOn '/').filter fun name => Kept name

theorem notMem_of_mem_splitOn {text name : List Char} (held : name ∈ text.splitOn '/') :
    '/' ∉ name := by
  induction text generalizing name with
  | nil =>
    rw [List.splitOn_nil, List.mem_singleton] at held
    rw [held]
    exact List.not_mem_nil
  | cons c rest ih =>
    rw [List.splitOn_cons_eq_if_modifyHead] at held
    by_cases here : c = '/'
    · rw [if_pos (beq_iff_eq.mpr here)] at held
      rcases List.mem_cons.mp held with rfl | held
      · exact List.not_mem_nil
      · exact ih held
    · rw [if_neg (by simpa using here)] at held
      obtain ⟨first, others, split⟩ := List.exists_cons_of_ne_nil (List.splitOn_ne_nil '/' rest)
      rw [split, List.modifyHead_cons] at held
      rcases List.mem_cons.mp held with rfl | held
      · rintro present
        rcases List.mem_cons.mp present with same | present
        · exact here same.symm
        · exact ih (split ▸ List.mem_cons_self) present
      · exact ih (split ▸ List.mem_cons_of_mem _ held)

@[simp]
theorem namesOf_nil : namesOf [] = [] := by
  simp [namesOf, Kept]

/-- A leading slash belongs to no component. -/
@[simp]
theorem namesOf_slash (text : List Char) : namesOf ('/' :: text) = namesOf text := by
  simp [namesOf, List.splitOn_cons_eq_if_modifyHead, Kept]

@[simp]
theorem namesOf_root (root : Root) (text : List Char) :
    namesOf (root.text ++ text) = namesOf text := by
  cases root <;> simp [Root.text]

theorem dotdot_mem_namesOf {text : List Char} :
    ['.', '.'] ∈ namesOf text ↔ ['.', '.'] ∈ text.splitOn '/' := by
  simp [namesOf, Kept]

theorem namesOf_intercalate {names : List (List Char)} (kept : ∀ name ∈ names, Kept name)
    (whole : ∀ name ∈ names, '/' ∉ name) : namesOf (['/'].intercalate names) = names := by
  by_cases none : names = []
  · rw [none, List.intercalate_nil, namesOf_nil]
  · rw [namesOf, List.splitOn_intercalate '/' whole none]
    exact List.filter_eq_self.mpr fun name held => decide_eq_true (kept name held)

namespace Root

/-- Behind the root no further slash follows. -/
theorem ofText_text (root : Root) {text : List Char} (other : text.head? ≠ some '/') :
    ofText (root.text ++ text) = root := by
  have none : text.takeWhile (· = '/') = [] := by
    cases text with
    | nil => rfl
    | cons c rest =>
      have different : c ≠ '/' := fun same => other (congrArg some same)
      simp [different]
  cases root <;> simp [ofText, Root.text, none]

end Root

/-! ### Paths and their text -/

namespace PurePath

def ofText (text : List Char) : PurePath where
  root := Root.ofText text
  names := namesOf text
  kept := fun _ held => of_decide_eq_true (List.mem_filter.mp held).2
  whole := fun _ held => notMem_of_mem_splitOn (List.mem_filter.mp held).1

/-- The path of no component at all is written as a dot. -/
def text (path : PurePath) : List Char :=
  if path.root = .relative ∧ path.names = [] then ['.']
  else path.root.text ++ ['/'].intercalate path.names

def isAbsolute (path : PurePath) : Bool := path.root ≠ .relative

theorem isAbsolute_iff {path : PurePath} :
    path.isAbsolute = true ↔ path.root = .slash ∨ path.root = .slashes := by
  unfold isAbsolute
  cases path.root <;> decide

theorem head?_text {path : PurePath} (absolute : path.isAbsolute = true) :
    path.text.head? = some '/' := by
  unfold text
  rcases isAbsolute_iff.mp absolute with root | root <;> rw [root] <;> rfl

/-- The root counts as the first part. -/
def parts (path : PurePath) : List (List Char) :=
  if path.isAbsolute then path.root.text :: path.names else path.names

/-- The path of the topmost directory, written with one slash. -/
def top : PurePath where
  root := .slash
  names := []
  kept := by simp
  whole := by simp

theorem ext' {path other : PurePath} (root : path.root = other.root)
    (names : path.names = other.names) : path = other := by
  cases path
  cases other
  simp only at root names
  simp only [root, names]

private theorem head?_intercalate (path : PurePath) :
    (['/'].intercalate path.names).head? ≠ some '/' := by
  obtain ⟨root, names, kept, whole⟩ := path
  cases names with
  | nil => simp
  | cons name others =>
    obtain ⟨c, rest, rfl⟩ := List.exists_cons_of_ne_nil (kept name List.mem_cons_self).1
    have different : c ≠ '/' := fun same =>
      whole (c :: rest) List.mem_cons_self (same ▸ List.mem_cons_self)
    cases others <;> simpa using different

/-- A path is read back from its text. -/
@[simp]
theorem ofText_text (path : PurePath) : ofText path.text = path := by
  by_cases none : path.root = .relative ∧ path.names = []
  · rw [text, if_pos none]
    apply ext'
    · rw [none.1]
      rfl
    · rw [none.2]
      decide
  · rw [text, if_neg none]
    apply ext'
    · exact Root.ofText_text _ path.head?_intercalate
    · exact (namesOf_root _ _).trans (namesOf_intercalate path.kept path.whole)

theorem text_injective : Function.Injective text :=
  Function.LeftInverse.injective ofText_text

theorem text_eq_slash {path : PurePath} : path.text = ['/'] ↔ path = top :=
  text_injective.eq_iff' (by rfl)

theorem dotdot_mem_parts {path : PurePath} : ['.', '.'] ∈ path.parts ↔ ['.', '.'] ∈ path.names := by
  unfold parts
  split
  · have apart : ['.', '.'] ≠ path.root.text := by cases path.root <;> decide
    simp [apart]
  · rfl

end PurePath

end PosixPath
