import CopyTrading.Environment
import CopyTrading.Identity.TokenDecoding
import CopyTrading.Text.PosixPath

/-!
The allowlist of storage locations. Whether two entries repeat each other is decided on the
text of their paths; two leading slashes are kept in that text, but lead to the directory one
slash leads to.
-/

namespace CopyTrading

open PosixPath

structure StorageLocationConfigurationError where
  message : String
  deriving DecidableEq, Repr

structure StorageLocation where
  id : String
  label : String
  path : String
  isCurrent : Bool
  deriving DecidableEq, Repr

/-- `[a-z][a-z0-9_-]{0,31}`, over the whole text. -/
def storageIdPattern (id : String) : Bool :=
  match id.toList with
  | [] => false
  | first :: rest =>
      first.isLower && rest.length ≤ 31 &&
        rest.all fun c => c.isLower || c.isDigit || c = '_' || c = '-'

/-- `str.title` of ASCII text: behind a letter a letter is small, elsewhere it is a capital. -/
def titleFrom (behindLetter : Bool) : List Char → List Char
  | [] => []
  | c :: rest => (if behindLetter then c.toLower else c.toUpper) :: titleFrom c.isAlpha rest

def storageLabel (id : String) : String :=
  String.ofList (titleFrom false (id.toList.map fun c => if c = '_' ∨ c = '-' then ' ' else c))

def normalizeAbsolutePath (rawPath : String) : Except StorageLocationConfigurationError String :=
  let path := PurePath.ofText rawPath.toList
  if path.isAbsolute = false ∨ String.ofList path.text = "/" ∨ "..".toList ∈ path.parts then
    .error ⟨"storage path must be absolute and scoped"⟩
  else .ok (String.ofList path.text)

structure AllowlistState where
  locations : List StorageLocation
  seenIds : List String
  seenPaths : List String

/-- One turn of the loop. -/
def parseEntry (py : Platform) (normalizedCurrent : Option String) (state : AllowlistState)
    (rawEntry : String) : Except StorageLocationConfigurationError AllowlistState :=
  let entry := py.strip rawEntry
  if entry = "" then .ok state
  else
    match splitOnce '=' entry.toList with
    | none => .error ⟨"invalid storage location identifier"⟩
    | some (locationId, rawPath) =>
        let locationId := py.strip (String.ofList locationId)
        let rawPath := py.strip (String.ofList rawPath)
        if storageIdPattern locationId = false then
          .error ⟨"invalid storage location identifier"⟩
        else if rawPath = "" then .error ⟨"storage location path is required"⟩
        else
          match normalizeAbsolutePath rawPath with
          | .error e => .error e
          | .ok path =>
              if locationId ∈ state.seenIds ∨ path ∈ state.seenPaths then
                .error ⟨"duplicate storage location"⟩
              else .ok {
                seenIds := state.seenIds ++ [locationId]
                seenPaths := state.seenPaths ++ [path]
                locations := state.locations ++ [{
                  id := locationId
                  label := storageLabel locationId
                  path := path
                  isCurrent := path = normalizedCurrent }] }

def rawEntries (allowlist : String) : List String :=
  (allowlist.toList.splitOn ',').map String.ofList

def parseStorageLocations (py : Platform) (allowlist currentPath : String) :
    Except StorageLocationConfigurationError (List StorageLocation) := do
  let normalizedCurrent ←
    if py.strip currentPath = "" then pure none else some <$> normalizeAbsolutePath currentPath
  let state ← (rawEntries allowlist).foldlM (parseEntry py normalizedCurrent) ⟨[], [], []⟩
  return state.locations

/-! ### What an allowlist promises -/

/-- The names from the topmost directory down to the one a path leads to. Without links and
double dots they tell directories apart, and how the root is written plays no part. -/
def directory (path : String) : List (List Char) := namesOf path.toList

/-- The entries that are not blank. -/
def listedEntries (py : Platform) (allowlist : String) : List String :=
  ((rawEntries allowlist).map py.strip).filter fun entry => entry ≠ ""

/-- The location an entry asks for: its name before the first equals sign, its path behind. -/
def Asks (py : Platform) (entry : String) (location : StorageLocation) : Prop :=
  ∃ name path, splitOnce '=' entry.toList = some (name, path) ∧
    location.id = py.strip (String.ofList name) ∧
    PurePath.ofText location.path.toList =
      PurePath.ofText (py.strip (String.ofList path)).toList

structure AllowlistHolds (py : Platform) (allowlist : String) (locations : List StorageLocation) :
    Prop where
  ids : (locations.map (·.id)).Nodup
  absolute : ∀ location ∈ locations, location.path.toList.head? = some '/'
  noParent : ∀ location ∈ locations, "..".toList ∉ location.path.toList.splitOn '/'
  notRoot : ∀ location ∈ locations, directory location.path ≠ []
  directories : (locations.map fun location => directory location.path).Nodup
  inOrder : List.Forall₂ (Asks py) (listedEntries py allowlist) locations
  current : locations.Pairwise fun a b => ¬ (a.isCurrent ∧ b.isCurrent)

/-! ### The entries that are admitted -/

/-- A path `normalizeAbsolutePath` lets through. -/
structure ScopedPath (path : PurePath) : Prop where
  absolute : path.isAbsolute = true
  notTop : path ≠ .top
  noParent : "..".toList ∉ path.parts

instance (path : PurePath) : Decidable (ScopedPath path) :=
  decidable_of_iff (path.isAbsolute = true ∧ path ≠ .top ∧ "..".toList ∉ path.parts)
    ⟨fun ⟨absolute, notTop, noParent⟩ => ⟨absolute, notTop, noParent⟩,
      fun ⟨absolute, notTop, noParent⟩ => ⟨absolute, notTop, noParent⟩⟩

structure StorageEntry where
  id : String
  path : PurePath
  named : storageIdPattern id = true
  admitted : ScopedPath path

namespace StorageEntry

def ofText (py : Platform) (entry : String) : Option StorageEntry :=
  match splitOnce '=' entry.toList with
  | none => none
  | some (name, path) =>
      let id := py.strip (String.ofList name)
      let path := PurePath.ofText (py.strip (String.ofList path)).toList
      if accepted : storageIdPattern id = true ∧ ScopedPath path then
        some ⟨id, path, accepted.1, accepted.2⟩
      else none

def pathText (entry : StorageEntry) : String := String.ofList entry.path.text

def location (current : Option String) (entry : StorageEntry) : StorageLocation where
  id := entry.id
  label := storageLabel entry.id
  path := entry.pathText
  isCurrent := entry.pathText = current

end StorageEntry

/-- The allowlist reads as these entries, and none of the checks fails. -/
structure AllowlistAdmits (py : Platform) (allowlist currentPath : String)
    (entries : List StorageEntry) : Prop where
  read : (listedEntries py allowlist).map (StorageEntry.ofText py) = entries.map some
  ids : (entries.map (·.id)).Nodup
  paths : (entries.map (·.path)).Nodup
  current : py.strip currentPath = "" ∨ ScopedPath (PurePath.ofText currentPath.toList)

/-- A path written with exactly two leading slashes that names nothing, or what another entry
names behind one slash. -/
def SlashesClash (entries : List StorageEntry) : Prop :=
  ∃ entry ∈ entries, entry.path.root = .slashes ∧
    (entry.path.names = [] ∨
      ∃ other ∈ entries, other.path.root = .slash ∧ other.path.names = entry.path.names)

/-! ### One entry -/

theorem pathText_eq_slash {path : PurePath} : String.ofList path.text = "/" ↔ path = .top := by
  rw [← PurePath.text_eq_slash]
  exact ⟨fun same => String.ofList_injective same, congrArg String.ofList⟩

theorem normalizeAbsolutePath_eq (rawPath : String) :
    normalizeAbsolutePath rawPath =
      if ScopedPath (PurePath.ofText rawPath.toList) then
        .ok (String.ofList (PurePath.ofText rawPath.toList).text)
      else .error ⟨"storage path must be absolute and scoped"⟩ := by
  have refused : ∀ path : PurePath,
      (path.isAbsolute = false ∨ path = .top ∨ "..".toList ∈ path.parts) ↔ ¬ ScopedPath path := by
    intro path
    constructor
    · rintro (relative | top | parent) ⟨absolute, notTop, noParent⟩
      · rw [absolute] at relative
        cases relative
      · exact notTop top
      · exact noParent parent
    · intro refused
      by_contra accepted
      simp only [not_or, Bool.not_eq_false] at accepted
      exact refused ⟨accepted.1, accepted.2.1, accepted.2.2⟩
  simp only [normalizeAbsolutePath, pathText_eq_slash, refused, ite_not]

theorem StorageEntry.ofText_eq_some {py : Platform} {text : String} {entry : StorageEntry} :
    StorageEntry.ofText py text = some entry ↔
      ∃ name path, splitOnce '=' text.toList = some (name, path) ∧
        entry.id = py.strip (String.ofList name) ∧
        entry.path = PurePath.ofText (py.strip (String.ofList path)).toList := by
  unfold StorageEntry.ofText
  cases found : splitOnce '=' text.toList with
  | none => simp
  | some parts =>
    obtain ⟨name, path⟩ := parts
    constructor
    · intro read
      obtain ⟨_, same⟩ := Option.dite_none_right_eq_some.mp read
      obtain rfl := Option.some.inj same
      exact ⟨name, path, rfl, rfl, rfl⟩
    · rintro ⟨_, _, ⟨⟩, id, purePath⟩
      obtain ⟨_, _, named, admitted⟩ := entry
      subst id purePath
      exact dif_pos ⟨named, admitted⟩

theorem ScopedPath.text_ne_empty {text : String}
    (admitted : ScopedPath (PurePath.ofText text.toList)) : text ≠ "" := by
  rintro rfl
  exact absurd admitted.absolute (by decide)

section

variable {py : Platform} {current : Option String} {state : AllowlistState} {raw : String}

theorem parseEntry_blank (blank : py.strip raw = "") :
    parseEntry py current state raw = .ok state := if_pos blank

theorem parseEntry_refused (listed : py.strip raw ≠ "")
    (unread : StorageEntry.ofText py (py.strip raw) = none) :
    ∃ e, parseEntry py current state raw = .error e := by
  simp only [parseEntry, if_neg listed, normalizeAbsolutePath_eq]
  cases found : splitOnce '=' (py.strip raw).toList with
  | none => exact ⟨_, rfl⟩
  | some parts =>
    obtain ⟨name, path⟩ := parts
    by_cases named : storageIdPattern (py.strip (String.ofList name)) = true
    · have refused : ¬ ScopedPath (PurePath.ofText (py.strip (String.ofList path)).toList) := by
        intro admitted
        have read : StorageEntry.ofText py (py.strip raw) = some ⟨_, _, named, admitted⟩ :=
          StorageEntry.ofText_eq_some.mpr ⟨name, path, found, rfl, rfl⟩
        rw [unread] at read
        cases read
      by_cases blank : py.strip (String.ofList path) = ""
      · simp [named, blank]
      · simp [named, blank, refused]
    · simp [named]

end

/-! ### The whole text -/

/-- The state after the admitted entries. -/
def AllowlistState.after (current : Option String) (entries : List StorageEntry) :
    AllowlistState where
  locations := entries.map (·.location current)
  seenIds := entries.map (·.id)
  seenPaths := entries.map (·.pathText)

theorem parseEntry_read {py : Platform} {current : Option String} {before : List StorageEntry}
    {raw : String} (listed : py.strip raw ≠ "") {entry : StorageEntry}
    (read : StorageEntry.ofText py (py.strip raw) = some entry) :
    parseEntry py current (.after current before) raw =
      if entry.id ∈ before.map (·.id) ∨ entry.pathText ∈ before.map (·.pathText) then
        .error ⟨"duplicate storage location"⟩
      else .ok (.after current (before ++ [entry])) := by
  obtain ⟨name, path, found, id, purePath⟩ := StorageEntry.ofText_eq_some.mp read
  have named := entry.named
  have admitted := entry.admitted
  rw [id] at named
  rw [purePath] at admitted
  simp only [parseEntry, if_neg listed, normalizeAbsolutePath_eq, found, named, admitted,
    admitted.text_ne_empty, if_true, if_false, Bool.true_eq_false, AllowlistState.after,
    StorageEntry.location, StorageEntry.pathText, id, purePath, List.map_append, List.map_cons,
    List.map_nil]
  congr

/-- No entry repeats the name or the path of another. -/
def Distinct (entries : List StorageEntry) : Prop :=
  (entries.map (·.id)).Nodup ∧ (entries.map (·.pathText)).Nodup

namespace Distinct

variable {before entries : List StorageEntry} {entry : StorageEntry}

theorem of_append (distinct : Distinct (before ++ entries)) : Distinct before := by
  obtain ⟨ids, paths⟩ := distinct
  rw [List.map_append] at ids paths
  exact ⟨ids.of_append_left, paths.of_append_left⟩

theorem concat_iff :
    Distinct (before ++ [entry]) ↔ Distinct before ∧
      ¬ (entry.id ∈ before.map (·.id) ∨ entry.pathText ∈ before.map (·.pathText)) := by
  have concat : ∀ (texts : List String) (text : String),
      (texts ++ [text]).Nodup ↔ text ∉ texts ∧ texts.Nodup := by
    intro texts text
    rw [← List.concat_eq_append, List.nodup_concat]
  simp only [Distinct, List.map_append, List.map_cons, List.map_nil, concat, not_or]
  tauto

end Distinct

theorem foldlM_parseEntry {py : Platform} {current : Option String} {raws : List String}
    {before : List StorageEntry} (distinct : Distinct before) {state : AllowlistState} :
    raws.foldlM (parseEntry py current) (.after current before) = .ok state ↔
      ∃ entries, ((raws.map py.strip).filter fun entry => entry ≠ "").map (StorageEntry.ofText py) =
          entries.map some ∧
        Distinct (before ++ entries) ∧ state = .after current (before ++ entries) := by
  induction raws generalizing before with
  | nil =>
    constructor
    · rintro ⟨⟩
      exact ⟨[], rfl, by rwa [List.append_nil], by rw [List.append_nil]⟩
    · rintro ⟨entries, read, -, rfl⟩
      obtain rfl := List.map_eq_nil_iff.mp read.symm
      rw [List.append_nil]
      rfl
  | cons raw raws ih =>
    rw [List.foldlM_cons, List.map_cons]
    by_cases blank : py.strip raw = ""
    · rw [parseEntry_blank blank, List.filter_cons_of_neg (by simpa using blank)]
      exact ih distinct
    · rw [List.filter_cons_of_pos (by simpa using blank), List.map_cons]
      cases read : StorageEntry.ofText py (py.strip raw) with
      | none =>
        obtain ⟨e, refused⟩ : ∃ e, parseEntry py current (.after current before) raw = .error e :=
          parseEntry_refused blank read
        rw [refused]
        constructor
        · rintro ⟨⟩
        · rintro ⟨entries, all, -⟩
          cases entries <;> cases all
      | some entry =>
        rw [parseEntry_read blank read]
        by_cases repeated : entry.id ∈ before.map (·.id) ∨
            entry.pathText ∈ before.map (·.pathText)
        · rw [if_pos repeated]
          constructor
          · rintro ⟨⟩
          · rintro ⟨entries, all, together, -⟩
            obtain ⟨_, rest, rfl, ⟨⟩, -⟩ := List.map_eq_cons_iff.mp all.symm
            rw [List.append_cons] at together
            exact absurd repeated (Distinct.concat_iff.mp together.of_append).2
        · rw [if_neg repeated]
          refine (ih (Distinct.concat_iff.mpr ⟨distinct, repeated⟩)).trans ?_
          constructor
          · rintro ⟨entries, all, together, rfl⟩
            rw [← List.append_cons] at together ⊢
            exact ⟨entry :: entries, by rw [all, List.map_cons], together, rfl⟩
          · rintro ⟨entries, all, together, rfl⟩
            obtain ⟨_, rest, rfl, ⟨⟩, others⟩ := List.map_eq_cons_iff.mp all.symm
            rw [List.append_cons before entry rest] at together ⊢
            exact ⟨rest, others.symm, together, rfl⟩

/-- The normalized current path, where the code gets past it. -/
def currentText (py : Platform) (currentPath : String) : Option String :=
  if py.strip currentPath = "" then none
  else some (String.ofList (PurePath.ofText currentPath.toList).text)

theorem StorageEntry.pathText_injective {a b : StorageEntry} :
    a.pathText = b.pathText ↔ a.path = b.path := by
  constructor
  · intro same
    exact PurePath.text_injective (String.ofList_injective same)
  · intro same
    rw [StorageEntry.pathText, StorageEntry.pathText, same]

theorem nodup_pathText {entries : List StorageEntry} :
    (entries.map (·.pathText)).Nodup ↔ (entries.map (·.path)).Nodup := by
  simp only [List.Nodup, List.pairwise_map, ne_eq, StorageEntry.pathText_injective]

theorem entries_parsed {py : Platform} {allowlist : String} {current : Option String}
    {locations : List StorageLocation} :
    (do let state ← (rawEntries allowlist).foldlM (parseEntry py current) ⟨[], [], []⟩
        return state.locations) = .ok locations ↔
      ∃ entries, (listedEntries py allowlist).map (StorageEntry.ofText py) = entries.map some ∧
        Distinct entries ∧ locations = entries.map (·.location current) := by
  have nothing : Distinct [] := ⟨List.nodup_nil, List.nodup_nil⟩
  have run : ∀ state, (rawEntries allowlist).foldlM (parseEntry py current) ⟨[], [], []⟩ =
      .ok state ↔ _ := fun _ => foldlM_parseEntry nothing
  constructor
  · intro parsed
    cases done : (rawEntries allowlist).foldlM (parseEntry py current) ⟨[], [], []⟩ with
    | error e =>
      rw [done] at parsed
      cases parsed
    | ok state =>
      rw [done] at parsed
      obtain ⟨entries, read, distinct, rfl⟩ := (run state).mp done
      exact ⟨entries, read, distinct, (Except.ok.inj parsed).symm⟩
  · rintro ⟨entries, read, distinct, rfl⟩
    rw [(run _).mpr ⟨entries, read, distinct, rfl⟩]
    rfl

theorem parseStorageLocations_eq_ok {py : Platform} {allowlist currentPath : String}
    {locations : List StorageLocation} :
    parseStorageLocations py allowlist currentPath = .ok locations ↔
      ∃ entries, AllowlistAdmits py allowlist currentPath entries ∧
        locations = entries.map (·.location (currentText py currentPath)) := by
  have admits : (py.strip currentPath = "" ∨ ScopedPath (PurePath.ofText currentPath.toList)) →
      ((∃ entries, (listedEntries py allowlist).map (StorageEntry.ofText py) = entries.map some ∧
        Distinct entries ∧ locations = entries.map (·.location (currentText py currentPath))) ↔
      ∃ entries, AllowlistAdmits py allowlist currentPath entries ∧
        locations = entries.map (·.location (currentText py currentPath))) := by
    intro current
    constructor
    · rintro ⟨entries, read, ⟨ids, paths⟩, rfl⟩
      exact ⟨entries, ⟨read, ids, nodup_pathText.mp paths, current⟩, rfl⟩
    · rintro ⟨entries, ⟨read, ids, paths, -⟩, rfl⟩
      exact ⟨entries, read, ⟨ids, nodup_pathText.mpr paths⟩, rfl⟩
  unfold parseStorageLocations
  rw [normalizeAbsolutePath_eq]
  by_cases blank : py.strip currentPath = ""
  · refine Iff.trans ?_ (admits (.inl blank))
    simp only [blank, if_true, currentText]
    exact entries_parsed
  · by_cases admitted : ScopedPath (PurePath.ofText currentPath.toList)
    · refine Iff.trans ?_ (admits (.inr admitted))
      simp only [blank, admitted, if_true, if_false, currentText]
      exact entries_parsed
    · simp only [blank, admitted, if_false]
      constructor
      · rintro ⟨⟩
      · rintro ⟨_, ⟨-, -, -, current⟩, -⟩
        exact absurd current (not_or.mpr ⟨blank, admitted⟩)

/-! ### What admitted entries hold -/

@[simp]
theorem StorageEntry.location_path (current : Option String) (entry : StorageEntry) :
    (entry.location current).path.toList = entry.path.text := String.toList_ofList

@[simp]
theorem directory_location (current : Option String) (entry : StorageEntry) :
    directory (entry.location current).path = entry.path.names := by
  rw [directory, StorageEntry.location_path]
  exact congrArg PurePath.names (PurePath.ofText_text entry.path)

namespace AllowlistAdmits

variable {py : Platform} {allowlist currentPath : String} {entries : List StorageEntry}

theorem inOrder (admits : AllowlistAdmits py allowlist currentPath entries)
    (current : Option String) :
    List.Forall₂ (Asks py) (listedEntries py allowlist) (entries.map (·.location current)) := by
  have read : List.Forall₂ Eq ((listedEntries py allowlist).map (StorageEntry.ofText py))
      (entries.map some) := admits.read ▸ List.forall₂_refl _
  rw [List.forall₂_map_left_iff, List.forall₂_map_right_iff] at read
  rw [List.forall₂_map_right_iff]
  refine read.imp fun text entry read => ?_
  obtain ⟨name, path, found, id, purePath⟩ := StorageEntry.ofText_eq_some.mp read
  refine ⟨name, path, found, id, ?_⟩
  rw [StorageEntry.location_path, PurePath.ofText_text, purePath]

/-- Only the checks that compare directories are missing. -/
theorem holds_iff (admits : AllowlistAdmits py allowlist currentPath entries)
    (current : Option String) :
    AllowlistHolds py allowlist (entries.map (·.location current)) ↔
      (∀ entry ∈ entries, entry.path.names ≠ []) ∧ (entries.map (·.path.names)).Nodup := by
  constructor
  · rintro ⟨-, -, -, notRoot, directories, -, -⟩
    simp only [List.map_map, Function.comp_def, directory_location] at directories
    simp only [List.forall_mem_map, directory_location] at notRoot
    exact ⟨notRoot, directories⟩
  · rintro ⟨notRoot, directories⟩
    constructor
    · simpa only [List.map_map, Function.comp_def, StorageEntry.location] using admits.ids
    · simp only [List.forall_mem_map, StorageEntry.location_path]
      intro entry _
      exact PurePath.head?_text entry.admitted.absolute
    · simp only [List.forall_mem_map, StorageEntry.location_path]
      intro entry _ parent
      have named : "..".toList ∈ (PurePath.ofText entry.path.text).names :=
        dotdot_mem_namesOf.mpr parent
      rw [PurePath.ofText_text] at named
      exact entry.admitted.noParent (PurePath.dotdot_mem_parts.mpr named)
    · simpa only [List.forall_mem_map, directory_location] using notRoot
    · simpa only [List.map_map, Function.comp_def, directory_location] using directories
    · exact admits.inOrder current
    · rw [List.pairwise_map]
      refine (List.pairwise_map.mp (nodup_pathText.mpr admits.paths)).imp ?_
      rintro a b different ⟨isCurrent, isCurrent'⟩
      have a_current := of_decide_eq_true isCurrent
      have b_current := of_decide_eq_true isCurrent'
      exact different (Option.some.inj (a_current.trans b_current.symm))

/-- Names tell the paths of entries apart unless one of two roots has two slashes. -/
theorem clash_iff (admits : AllowlistAdmits py allowlist currentPath entries) :
    ((∀ entry ∈ entries, entry.path.names ≠ []) ∧ (entries.map (·.path.names)).Nodup) ↔
      ¬ SlashesClash entries := by
  have root : ∀ entry : StorageEntry, entry.path.root = .slash ∨ entry.path.root = .slashes :=
    fun entry => PurePath.isAbsolute_iff.mp entry.admitted.absolute
  constructor
  · rintro ⟨notRoot, directories⟩ ⟨entry, held, slashes, none | ⟨other, held', slash, same⟩⟩
    · exact notRoot entry held none
    · obtain rfl := List.inj_on_of_nodup_map directories held' held same
      rw [slash] at slashes
      cases slashes
  · intro apart
    constructor
    · intro entry held none
      rcases root entry with slash | slashes
      · exact entry.admitted.notTop (PurePath.ext' slash none)
      · exact apart ⟨entry, held, slashes, .inl none⟩
    · have paths := admits.paths
      rw [List.Nodup, List.pairwise_map] at paths ⊢
      refine paths.imp_of_mem fun {a b} ha hb different same => ?_
      rcases root a with slash | slashes <;> rcases root b with slash' | slashes'
      · exact different (PurePath.ext' (slash.trans slash'.symm) same)
      · exact apart ⟨b, hb, slashes', .inr ⟨a, ha, slash, same⟩⟩
      · exact apart ⟨a, ha, slashes, .inr ⟨b, hb, slash', same.symm⟩⟩
      · exact different (PurePath.ext' (slashes.trans slashes'.symm) same)

end AllowlistAdmits

/-- The allowlist keeps its promise exactly when it is refused, or when two leading slashes are
nowhere used to write the topmost directory or a directory another entry writes with one. -/
theorem allowlist_holds_iff (py : Platform) (allowlist currentPath : String) :
    (∀ locations, parseStorageLocations py allowlist currentPath = .ok locations →
        AllowlistHolds py allowlist locations) ↔
      ∀ entries, AllowlistAdmits py allowlist currentPath entries → ¬ SlashesClash entries := by
  constructor
  · intro holds entries admits
    have held := holds _ (parseStorageLocations_eq_ok.mpr ⟨entries, admits, rfl⟩)
    exact admits.clash_iff.mp ((admits.holds_iff _).mp held)
  · intro apart locations parsed
    obtain ⟨entries, admits, rfl⟩ := parseStorageLocations_eq_ok.mp parsed
    exact (admits.holds_iff _).mpr (admits.clash_iff.mpr (apart entries admits))

/-- The topmost directory and a directory listed before are refused behind one slash and listed
behind two. -/
theorem slashes_listed :
    parseStorageLocations asciiPlatform "root=/" "" =
        .error ⟨"storage path must be absolute and scoped"⟩ ∧
    parseStorageLocations asciiPlatform "one=/x,two=/x/" "" =
        .error ⟨"duplicate storage location"⟩ ∧
    ¬ (∀ locations, parseStorageLocations asciiPlatform "root=//" "" = .ok locations →
        AllowlistHolds asciiPlatform "root=//" locations) ∧
    ¬ (∀ locations, parseStorageLocations asciiPlatform "one=/x,two=//x" "" = .ok locations →
        AllowlistHolds asciiPlatform "one=/x,two=//x" locations) := by
  refine ⟨by decide +kernel, by decide +kernel, ?_, ?_⟩
  · intro holds
    exact (holds [⟨"root", "Root", "//", false⟩] rfl).notRoot _ List.mem_cons_self (by decide)
  · intro holds
    have held := holds [⟨"one", "One", "/x", false⟩, ⟨"two", "Two", "//x", false⟩] rfl
    exact absurd held.directories (by decide)

end CopyTrading
