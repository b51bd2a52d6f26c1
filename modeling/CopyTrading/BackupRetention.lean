import CopyTrading.Calendar
import CopyTrading.FileTree
import Mathlib.Data.List.Sort

/-!
The retention of backup files. What has expired is selected by the name of an entry; what is
removed is the file the entry leads to.
-/

namespace CopyTrading

open Calendar (Date)
open FileTree

inductive RetentionExc where
  | backupRetentionCleanup (message : String)
  | overflowError
  | fileNotFoundError
  deriving DecidableEq, Repr

/-! ### Names -/

section

-- The value of a decimal digit of any script: what `\d` matches and `int` reads.
variable (digit : Char → Option Nat)

/-- `^backup_(\d{8})\.sql$`; the dollar also matches before a last line break. -/
def backupDigits (name : String) : Option (List Char) :=
  let text := name.toList
  let digits := (text.drop 7).take 8
  let rest := text.drop 15
  if "backup_".toList.isPrefixOf text ∧ digits.length = 8 ∧ digits.all (fun c => (digit c).isSome) ∧
      (rest = ".sql".toList ∨ rest = ".sql\n".toList) then some digits
  else none

/-- `int` of decimal digits. -/
def readDigits (digits : List Char) : Option Nat :=
  digits.foldl (fun value c => do return 10 * (← value) + (← digit c)) (some 0)

/-- `%m` over two characters. -/
def monthOf (tens units : Char) : Option Nat :=
  if (tens = '0' ∧ '1' ≤ units ∧ units ≤ '9') ∨ (tens = '1' ∧ '0' ≤ units ∧ units ≤ '2') then
    some (10 * (tens.toNat - 48) + (units.toNat - 48))
  else none

/-- `%d` over two characters: only after a one or a two may the second be of any script. -/
def dayOf (tens units : Char) : Option Nat :=
  if (tens = '0' ∧ '1' ≤ units ∧ units ≤ '9') ∨ (tens = '3' ∧ '0' ≤ units ∧ units ≤ '1') then
    some (10 * (tens.toNat - 48) + (units.toNat - 48))
  else if tens = '1' ∨ tens = '2' then (digit units).map (10 * (tens.toNat - 48) + ·)
  else none

/-- `datetime.strptime(text, "%Y%m%d").date()`, `none` when it raises. A shorter month or day
leaves characters over. -/
def strptimeDate : List Char → Option Date
  | [y₁, y₂, y₃, y₄, m₁, m₂, d₁, d₂] => do
      let year ← readDigits digit [y₁, y₂, y₃, y₄]
      let month ← monthOf m₁ m₂
      let day ← dayOf digit d₁ d₂
      Date.ofParts year month day
  | _ => none

def parseBackupDate (path : Location) : Option Date :=
  (backupDigits digit path.name).bind (strptimeDate digit)

/-! ### Selection -/

structure BackupCleanupCandidate where
  path : Location
  backupDate : Date
  ageDays : Int

structure BackupCleanupResult where
  expired : List BackupCleanupCandidate
  deleted : List Location
  dryRun : Bool

/-- A path leads through at most this many links. -/
def maxLinks : Nat := 40

/-- The candidate an entry of the directory makes: a file, by the name of the entry. -/
def candidateOf (tree : Tree) (reference : Date) (path : Location) :
    Option BackupCleanupCandidate :=
  match tree.follow maxLinks path with
  | some (resolved, .file) =>
      (parseBackupDate digit path).map fun backupDate =>
        { path := resolved
          backupDate
          ageDays := (reference.ordinal : Int) - backupDate.ordinal }
  | _ => none

def findBackupCandidates (tree : Tree) (backupDir : Location) (reference : Date) :
    Except RetentionExc (List BackupCleanupCandidate) :=
  match tree.follow maxLinks backupDir with
  | none =>
      .error (.backupRetentionCleanup ("Backup directory does not exist: " ++ backupDir.path))
  | some (root, .directory) =>
      .ok (((tree.entries root.path).filterMap (candidateOf digit tree reference)).insertionSort
        fun a b => a.backupDate.ordinal ≤ b.backupDate.ordinal)
  | some _ =>
      .error (.backupRetentionCleanup ("Backup path is not a directory: " ++ backupDir.path))

/-- The dates are compared by their ordinals; a cutoff before the calendar raises. -/
def selectExpiredBackups (tree : Tree) (backupDir : Location) (retentionDays : Int)
    (reference : Date) : Except RetentionExc (List BackupCleanupCandidate) :=
  if retentionDays < 1 then
    .error (.backupRetentionCleanup "Retention days must be at least 1")
  else
    let cutoff := (reference.ordinal : Int) - retentionDays
    if cutoff < 1 then .error .overflowError
    else
      (findBackupCandidates digit tree backupDir reference).map
        (·.filter fun candidate => (candidate.backupDate.ordinal : Int) < cutoff)

/-! ### Deletion -/

/-- The loop over the expired candidates, with what has been deleted. -/
def deleteExpired (tree : Tree) (deleted : List Location) :
    List BackupCleanupCandidate → Except RetentionExc (List Location) × Tree
  | [] => (.ok deleted, tree)
  | candidate :: rest =>
      if (parseBackupDate digit candidate.path).isNone then
        (.error (.backupRetentionCleanup
          ("Refusing to delete non-backup file: " ++ candidate.path.path)), tree)
      else
        match tree.unlink candidate.path with
        | none => (.error .fileNotFoundError, tree)
        | some tree' => deleteExpired tree' (deleted ++ [candidate.path]) rest

def cleanupExpiredBackups (tree : Tree) (backupDir : Location) (retentionDays : Int)
    (dryRun : Bool) (reference : Date) : Except RetentionExc BackupCleanupResult × Tree :=
  match selectExpiredBackups digit tree backupDir retentionDays reference with
  | .error raised => (.error raised, tree)
  | .ok expired =>
    if dryRun then (.ok { expired, deleted := [], dryRun }, tree)
    else
      let (outcome, after) := deleteExpired digit tree [] expired
      (outcome.map fun deleted => { expired, deleted, dryRun }, after)

/-! ### What a cleanup should remove -/

/-- The entry was there and is there no more. -/
def Removed (before after : Tree) (location : Location) : Prop :=
  (before.node location).isSome ∧ after.node location = none

/-- The name of the entry is a backup name dated before the cutoff. -/
def Expired (reference : Date) (retentionDays : Int) (location : Location) : Prop :=
  ∃ date, parseBackupDate digit location = some date ∧
    (date.ordinal : Int) < reference.ordinal - retentionDays

/-- A cleanup of the directory at `root` removes the expired entries and nothing else, and a dry
run removes nothing. -/
structure RetentionSafe (tree : Tree) (backupDir root : Location) (retentionDays : Int)
    (reference : Date) : Prop where
  dryRun : (cleanupExpiredBackups digit tree backupDir retentionDays true reference).2 = tree
  kept : ∀ location,
    Removed tree (cleanupExpiredBackups digit tree backupDir retentionDays false reference).2
      location →
    location.directory = root.path ∧ Expired digit reference retentionDays location
  removed : ∀ location ∈ tree.entries root.path, Expired digit reference retentionDays location →
    Removed tree (cleanupExpiredBackups digit tree backupDir retentionDays false reference).2
      location

end

variable {digit : Char → Option Nat}

/-! ### The loop -/

/-- Only the paths of the candidates are touched. -/
theorem node_deleteExpired_of_notMem {location : Location}
    {candidates : List BackupCleanupCandidate} {tree : Tree} {deleted : List Location}
    (absent : location ∉ candidates.map (·.path)) :
    (deleteExpired digit tree deleted candidates).2.node location = tree.node location := by
  induction candidates generalizing tree deleted with
  | nil => rfl
  | cons candidate rest ih =>
    obtain ⟨other, absent⟩ := not_or.mp (List.mem_cons.not.mp absent)
    unfold deleteExpired
    by_cases foreign : (parseBackupDate digit candidate.path).isNone = true
    · rw [if_pos foreign]
    · rw [if_neg foreign]
      cases unlinked : tree.unlink candidate.path with
      | none => rfl
      | some tree' =>
        have removed := Tree.eq_remove_of_unlink unlinked
        dsimp only
        rw [ih absent, removed, Tree.node_remove, if_neg other]

/-- Distinct backup files are all removed. -/
theorem node_deleteExpired_of_mem {location : Location} {candidates : List BackupCleanupCandidate}
    {tree : Tree} {deleted : List Location} (distinct : (candidates.map (·.path)).Nodup)
    (backups : ∀ candidate ∈ candidates, (parseBackupDate digit candidate.path).isSome)
    (files : ∀ candidate ∈ candidates, tree.node candidate.path = some .file)
    (mem : location ∈ candidates.map (·.path)) :
    (deleteExpired digit tree deleted candidates).2.node location = none := by
  induction candidates generalizing tree deleted with
  | nil => cases mem
  | cons candidate rest ih =>
    obtain ⟨backup, backups⟩ := List.forall_mem_cons.mp backups
    obtain ⟨file, files⟩ := List.forall_mem_cons.mp files
    obtain ⟨fresh, distinct⟩ := List.nodup_cons.mp distinct
    unfold deleteExpired
    rw [if_neg (by simpa [Option.isNone_iff_eq_none, Option.isSome_iff_ne_none] using backup),
      Tree.unlink_file file]
    dsimp only
    by_cases here : location = candidate.path
    · rw [here, node_deleteExpired_of_notMem fresh, Tree.node_remove, if_pos rfl]
    · have later : location ∈ rest.map (·.path) := by
        simpa [here] using mem
      refine ih distinct backups (fun other hother => ?_) later
      have apart : other.path ≠ candidate.path := fun same =>
        fresh (List.mem_map.mpr ⟨other, hother, same⟩)
      rw [Tree.node_remove, if_neg apart]
      exact files other hother

/-! ### The selected candidates -/

variable {tree : Tree} {backupDir root : Location} {reference : Date} {retentionDays : Int}

theorem candidateOf_eq_some {path : Location} {candidate : BackupCleanupCandidate} :
    candidateOf digit tree reference path = some candidate ↔
      tree.follow maxLinks path = some (candidate.path, .file) ∧
        parseBackupDate digit path = some candidate.backupDate ∧
        candidate.ageDays = (reference.ordinal : Int) - candidate.backupDate.ordinal := by
  unfold candidateOf
  cases followed : tree.follow maxLinks path with
  | none => simp
  | some found =>
    obtain ⟨resolved, node⟩ := found
    cases node with
    | file =>
      dsimp only
      rw [Option.map_eq_some_iff]
      constructor
      · rintro ⟨backupDate, parsed, rfl⟩
        exact ⟨rfl, parsed, rfl⟩
      · rintro ⟨same, parsed, age⟩
        obtain ⟨rfl, -⟩ := Prod.mk.inj (Option.some.inj same)
        refine ⟨candidate.backupDate, parsed, ?_⟩
        rw [← age]
    | directory => simp
    | link target => simp

/-- The candidates of the entries of a directory that are dated before the cutoff. -/
def expiredCandidates (digit : Char → Option Nat) (tree : Tree) (root : Location)
    (retentionDays : Int) (reference : Date) : List BackupCleanupCandidate :=
  ((tree.entries root.path).filterMap (candidateOf digit tree reference)).filter fun candidate =>
    (candidate.backupDate.ordinal : Int) < reference.ordinal - retentionDays

theorem mem_expiredCandidates {candidate : BackupCleanupCandidate} :
    candidate ∈ expiredCandidates digit tree root retentionDays reference ↔
      ∃ location ∈ tree.entries root.path,
        candidateOf digit tree reference location = some candidate ∧
        (candidate.backupDate.ordinal : Int) < reference.ordinal - retentionDays := by
  unfold expiredCandidates
  rw [List.mem_filter, List.mem_filterMap, decide_eq_true_eq]
  constructor
  · rintro ⟨⟨location, mem, made⟩, before⟩
    exact ⟨location, mem, made, before⟩
  · rintro ⟨location, mem, made, before⟩
    exact ⟨⟨location, mem, made⟩, before⟩

/-- The candidates are those of the entries of the directory whose names have expired, or the
cutoff lies before the calendar and there are none. -/
theorem selectExpiredBackups_spec (digit : Char → Option Nat) (reference : Date)
    (found : tree.follow maxLinks backupDir = some (root, .directory))
    (positive : 1 ≤ retentionDays) :
    (selectExpiredBackups digit tree backupDir retentionDays reference = .error .overflowError ∧
      ∀ location, ¬ Expired digit reference retentionDays location) ∨
    ∃ expired, selectExpiredBackups digit tree backupDir retentionDays reference = .ok expired ∧
      expired.Perm (expiredCandidates digit tree root retentionDays reference) := by
  unfold selectExpiredBackups
  rw [if_neg (not_lt.mpr positive)]
  by_cases early : (reference.ordinal : Int) - retentionDays < 1
  · refine .inl ⟨if_pos early, ?_⟩
    rintro location ⟨date, -, before⟩
    have least := date.ordinal_pos
    omega
  · refine .inr ⟨_, ?_, (List.perm_insertionSort
      (fun a b : BackupCleanupCandidate => a.backupDate.ordinal ≤ b.backupDate.ordinal) _).filter _⟩
    rw [if_neg early, findBackupCandidates, found]
    rfl

/-- Whatever is selected leads to a file. -/
theorem file_of_selected {candidate : BackupCleanupCandidate}
    (mem : candidate ∈ expiredCandidates digit tree root retentionDays reference) :
    tree.node candidate.path = some .file := by
  obtain ⟨location, -, made, -⟩ := mem_expiredCandidates.mp mem
  exact (Tree.follow_eq_some (candidateOf_eq_some.mp made).1).1

section

variable (regular : ∀ location ∈ tree.entries root.path,
  Expired digit reference retentionDays location → tree.node location = some .file)

include regular

/-- A selected entry that is a file is its own candidate. -/
theorem selected_eq {location : Location} {candidate : BackupCleanupCandidate}
    (mem : location ∈ tree.entries root.path)
    (made : candidateOf digit tree reference location = some candidate)
    (before : (candidate.backupDate.ordinal : Int) < reference.ordinal - retentionDays) :
    candidate.path = location ∧ Expired digit reference retentionDays location := by
  obtain ⟨followed, parsed, -⟩ := candidateOf_eq_some.mp made
  have expired : Expired digit reference retentionDays location := ⟨_, parsed, before⟩
  rw [Tree.follow_file maxLinks (regular location mem expired)] at followed
  obtain ⟨same, -⟩ := Prod.mk.inj (Option.some.inj followed)
  exact ⟨same.symm, expired⟩

theorem mem_paths_iff {location : Location} :
    location ∈ (expiredCandidates digit tree root retentionDays reference).map (·.path) ↔
      location ∈ tree.entries root.path ∧ Expired digit reference retentionDays location := by
  rw [List.mem_map]
  constructor
  · rintro ⟨candidate, mem, rfl⟩
    obtain ⟨location, held, made, before⟩ := mem_expiredCandidates.mp mem
    obtain ⟨same, expired⟩ := selected_eq regular held made before
    rw [same]
    exact ⟨held, expired⟩
  · rintro ⟨held, expired⟩
    have file := regular location held expired
    obtain ⟨date, parsed, before⟩ := expired
    have made : candidateOf digit tree reference location =
        some ⟨location, date, (reference.ordinal : Int) - date.ordinal⟩ :=
      candidateOf_eq_some.mpr ⟨Tree.follow_file maxLinks file, parsed, rfl⟩
    exact ⟨_, mem_expiredCandidates.mpr ⟨location, held, made, before⟩, rfl⟩

theorem nodup_paths :
    ((expiredCandidates digit tree root retentionDays reference).map (·.path)).Nodup := by
  unfold expiredCandidates List.Nodup
  rw [List.pairwise_map, List.pairwise_filter, List.pairwise_filterMap]
  refine (tree.nodup_entries root.path).imp_of_mem ?_
  intro a b ha hb apart candidate made candidate' made' before before'
  rw [(selected_eq regular ha made (of_decide_eq_true before)).1,
    (selected_eq regular hb made' (of_decide_eq_true before')).1]
  exact apart

end

/-- A cleanup removes the expired entries and nothing else exactly when every entry with an
expired name is a file itself. -/
theorem retention_safe_iff (digit : Char → Option Nat)
    (found : tree.follow maxLinks backupDir = some (root, .directory))
    (positive : 1 ≤ retentionDays) (reference : Date) :
    RetentionSafe digit tree backupDir root retentionDays reference ↔
      ∀ location ∈ tree.entries root.path, Expired digit reference retentionDays location →
        tree.node location = some .file := by
  rcases selectExpiredBackups_spec digit reference found positive with
    ⟨raised, none⟩ | ⟨expired, selected, perm⟩
  · have unchanged (dryRun : Bool) :
        (cleanupExpiredBackups digit tree backupDir retentionDays dryRun reference).2 = tree := by
      unfold cleanupExpiredBackups
      rw [raised]
    refine iff_of_true ⟨unchanged true, ?_, ?_⟩ fun location _ old => absurd old (none location)
    · rintro location ⟨present, absent⟩
      rw [unchanged false] at absent
      rw [absent] at present
      cases present
    · exact fun location _ old => absurd old (none location)
  · have dry :
        (cleanupExpiredBackups digit tree backupDir retentionDays true reference).2 = tree := by
      unfold cleanupExpiredBackups
      rw [selected]
      rfl
    have applied :
        (cleanupExpiredBackups digit tree backupDir retentionDays false reference).2 =
          (deleteExpired digit tree [] expired).2 := by
      unfold cleanupExpiredBackups
      rw [selected]
      rfl
    have paths (location : Location) : location ∈ expired.map (·.path) ↔
        location ∈ (expiredCandidates digit tree root retentionDays reference).map (·.path) :=
      (perm.map _).mem_iff
    constructor
    · intro safe location mem old
      obtain ⟨present, gone⟩ := safe.removed location mem old
      rw [applied] at gone
      by_cases touched : location ∈ expired.map (·.path)
      · obtain ⟨candidate, hcandidate, rfl⟩ := List.mem_map.mp touched
        exact file_of_selected (perm.mem_iff.mp hcandidate)
      · rw [node_deleteExpired_of_notMem touched] at gone
        rw [gone] at present
        cases present
    · intro regular
      have gone (location : Location) (mem : location ∈ expired.map (·.path)) :
          (deleteExpired digit tree [] expired).2.node location = none := by
        refine node_deleteExpired_of_mem ?_ ?_ ?_ mem
        · exact (perm.map _).nodup_iff.mpr (nodup_paths regular)
        · intro candidate hcandidate
          have path := (paths candidate.path).mp (List.mem_map_of_mem hcandidate)
          obtain ⟨-, date, parsed, -⟩ := (mem_paths_iff regular).mp path
          rw [parsed]
          rfl
        · exact fun candidate hcandidate => file_of_selected (perm.mem_iff.mp hcandidate)
      refine ⟨dry, ?_, ?_⟩
      · rintro location ⟨present, absent⟩
        rw [applied] at absent
        by_cases touched : location ∈ expired.map (·.path)
        · obtain ⟨held, old⟩ := (mem_paths_iff regular).mp ((paths location).mp touched)
          exact ⟨(Tree.mem_entries.mp held).2, old⟩
        · rw [node_deleteExpired_of_notMem touched] at absent
          rw [absent] at present
          cases present
      · intro location mem old
        have touched := (paths location).mpr ((mem_paths_iff regular).mpr ⟨mem, old⟩)
        rw [applied]
        exact ⟨(Tree.mem_entries.mp mem).1, gone location touched⟩

def asciiDigit (c : Char) : Option Nat := if c.isDigit then some (c.toNat - 48) else none

def sampleRoot : Location := ⟨"/srv", "backups"⟩

def oldBackup : Location := ⟨"/srv/backups", "backup_20260601.sql"⟩

def recentBackup : Location := ⟨"/srv/backups", "backup_20260613.sql"⟩

/-- A directory with a recent backup, and an entry with an expired name. -/
def sampleTree (old : Node) : Tree where
  nodes := [(sampleRoot, .directory), (oldBackup, old), (recentBackup, .file)]
  distinct := by
    change [sampleRoot, oldBackup, recentBackup].Nodup
    decide

def sampleDay : Date := ⟨2026, 6, 14, by decide⟩

theorem not_expired_recentBackup : ¬ Expired asciiDigit sampleDay 7 recentBackup := by
  rintro ⟨date, parsed, before⟩
  have read : parseBackupDate asciiDigit recentBackup = some ⟨2026, 6, 13, by decide⟩ := by decide
  rw [read] at parsed
  cases parsed
  exact absurd before (by decide)

theorem retention_safe_iff_files :
    RetentionSafe asciiDigit (sampleTree .file) sampleRoot sampleRoot 7 sampleDay := by
  refine (retention_safe_iff asciiDigit (by decide) (by decide) sampleDay).mpr ?_
  intro location mem _
  have entries : (sampleTree .file).entries sampleRoot.path = [oldBackup, recentBackup] := by decide
  rw [entries] at mem
  rcases List.mem_pair.mp mem with rfl | rfl
  · decide
  · decide

/-- Through a link with an expired name the recent backup is removed. -/
theorem expired_link_removes_recent :
    (sampleTree (.link recentBackup)).follow maxLinks sampleRoot = some (sampleRoot, .directory) ∧
      ¬ RetentionSafe asciiDigit (sampleTree (.link recentBackup)) sampleRoot sampleRoot 7
        sampleDay := by
  refine ⟨by decide, fun safe => ?_⟩
  have removed : Removed (sampleTree (.link recentBackup))
      (cleanupExpiredBackups asciiDigit (sampleTree (.link recentBackup)) sampleRoot 7 false
        sampleDay).2 recentBackup := ⟨by decide, by decide⟩
  exact not_expired_recentBackup (safe.kept recentBackup removed).2

end CopyTrading
