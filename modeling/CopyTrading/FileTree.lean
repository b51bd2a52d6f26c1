import Mathlib.Data.List.Nodup

/-!
A tree of files and symbolic links, as far as looking up, listing and removing entries goes.
An entry is named by the path of its directory and its own name; following links stops after
as many links as the operating system allows.
-/

namespace FileTree

/-- An entry, by the path of its directory and its name. -/
structure Location where
  directory : String
  name : String
  deriving DecidableEq, Repr

def Location.path (location : Location) : String := location.directory ++ "/" ++ location.name

/-- The target of a link is an entry of a directory that is no link itself. -/
inductive Node where
  | file
  | directory
  | link (target : Location)
  deriving DecidableEq, Repr

structure Tree where
  nodes : List (Location × Node)
  distinct : (nodes.map (·.1)).Nodup

namespace Tree

def node (tree : Tree) (location : Location) : Option Node :=
  (tree.nodes.find? (·.1 = location)).map (·.2)

/-- What a location leads to through at most `fuel` links. -/
def follow (tree : Tree) : Nat → Location → Option (Location × Node)
  | 0, location =>
      match tree.node location with
      | none | some (.link _) => none
      | some found => some (location, found)
  | fuel + 1, location =>
      match tree.node location with
      | none => none
      | some (.link target) => tree.follow fuel target
      | some found => some (location, found)

/-- The entries of a directory, in the order the directory holds them. -/
def entries (tree : Tree) (path : String) : List Location :=
  (tree.nodes.map (·.1)).filter (·.directory = path)

def remove (tree : Tree) (location : Location) : Tree where
  nodes := tree.nodes.filter (·.1 ≠ location)
  distinct := tree.distinct.sublist (List.filter_sublist.map _)

/-- Removing an entry; `none` when there is none to remove. -/
def unlink (tree : Tree) (location : Location) : Option Tree :=
  match tree.node location with
  | some .file | some (.link _) => some (tree.remove location)
  | some .directory | none => none

variable {tree : Tree} {location : Location}

theorem node_isSome : (tree.node location).isSome ↔ location ∈ tree.nodes.map (·.1) := by
  unfold node
  rw [Option.isSome_map, List.find?_isSome, List.mem_map]
  constructor
  · rintro ⟨entry, mem, same⟩
    exact ⟨entry, mem, of_decide_eq_true same⟩
  · rintro ⟨entry, mem, same⟩
    exact ⟨entry, mem, decide_eq_true same⟩

theorem mem_entries {path : String} :
    location ∈ tree.entries path ↔ (tree.node location).isSome ∧ location.directory = path := by
  rw [node_isSome, entries, List.mem_filter, decide_eq_true_eq]

theorem nodup_entries (tree : Tree) (path : String) : (tree.entries path).Nodup :=
  tree.distinct.filter _

theorem node_remove (tree : Tree) (removed location : Location) :
    (tree.remove removed).node location =
      if location = removed then none else tree.node location := by
  unfold node remove
  dsimp only
  rw [List.find?_filter]
  by_cases same : location = removed
  · rw [if_pos same, List.find?_eq_none.mpr, Option.map_none]
    rintro entry -
    simp [same]
  · rw [if_neg same]
    refine congrArg (Option.map _) (congrArg (List.find? · tree.nodes) (funext fun entry => ?_))
    by_cases found : entry.1 = location
    · simp [found, same]
    · simp [found]

theorem unlink_file (file : tree.node location = some .file) :
    tree.unlink location = some (tree.remove location) := by
  unfold unlink
  rw [file]

theorem eq_remove_of_unlink {tree' : Tree} (unlinked : tree.unlink location = some tree') :
    tree' = tree.remove location := by
  unfold unlink at unlinked
  split at unlinked
  · exact (Option.some.inj unlinked).symm
  · exact (Option.some.inj unlinked).symm
  · cases unlinked
  · cases unlinked

/-- A location that leads somewhere leads to what stands there, and not through a link's end. -/
theorem follow_eq_some {fuel : Nat} {target : Location} {found : Node}
    (followed : tree.follow fuel location = some (target, found)) :
    tree.node target = some found ∧ ∀ next, found ≠ .link next := by
  induction fuel generalizing location with
  | zero =>
    unfold follow at followed
    cases here : tree.node location with
    | none =>
      rw [here] at followed
      cases followed
    | some node =>
      rw [here] at followed
      cases node with
      | link next => cases followed
      | _ =>
        cases followed
        exact ⟨here, by simp⟩
  | succ fuel ih =>
    unfold follow at followed
    cases here : tree.node location with
    | none =>
      rw [here] at followed
      cases followed
    | some node =>
      rw [here] at followed
      cases node with
      | link next => exact ih followed
      | _ =>
        cases followed
        exact ⟨here, by simp⟩

theorem follow_file (fuel : Nat) (file : tree.node location = some .file) :
    tree.follow fuel location = some (location, .file) := by
  cases fuel with
  | zero =>
    unfold follow
    rw [file]
  | succ fuel =>
    unfold follow
    rw [file]

end Tree

end FileTree
