import MiniJ.Run

/-!
# The files of a directory

A directory is a list of entries, in the order in which the file system lists them. No two of them
have the same name, so the order of their names is strict and does not depend on the order of the
list: however a directory is listed, the files to check are the same, each once
(`Directory.filesOf_listed`), and in the order of their paths (`Directory.files_filesOf`).

Paths are compared by the names along them. All files of a directory share the names of the directory
(`Path.names_join`), so their own names decide.
-/

set_option autoImplicit false

namespace MiniJ

/-! ## Names along a path -/

namespace Path

theorem split_ne_nil (cs : List Char) : split cs ≠ [] := by
  cases cs with
  | nil => exact List.cons_ne_nil [] []
  | cons c cs =>
      rw [split]
      split
      · exact List.cons_ne_nil _ _
      · split
        all_goals exact List.cons_ne_nil _ _

/-- What stands before a slash and what stands behind it are split by themselves. -/
theorem split_slash (as bs : List Char) : split (as ++ '/' :: bs) = split as ++ split bs := by
  induction as with
  | nil => rfl
  | cons c as ih =>
      rw [List.cons_append, split, split, ih]
      split
      · rfl
      · cases parts : split as with
        | nil => exact absurd parts (split_ne_nil as)
        | cons part parts => rfl

theorem split_of_notMem {cs : List Char} (noSlash : '/' ∉ cs) : split cs = [cs] := by
  induction cs with
  | nil => rfl
  | cons c cs ih =>
      rw [List.mem_cons, not_or] at noSlash
      rw [split, if_neg (Ne.symm noSlash.1), ih noSlash.2]

/-- A name for an entry of a directory that is neither hidden nor a path. -/
structure IsName (name : String) : Prop where
  ne_empty : name ≠ ""
  noSlash : '/' ∉ name.toList
  visible : name.toList.head? ≠ some '.'

theorem IsName.names {name : String} (isName : IsName name) : names name = [name] := by
  have notDot : name ≠ "." := by
    rintro rfl
    exact isName.visible rfl
  rw [Path.names, split_of_notMem isName.noSlash, List.map_singleton, String.ofList_toList]
  simp [isName.ne_empty, notDot]

theorem names_of_slash {path name : String} {as : List Char}
    (parts : path.toList = as ++ '/' :: name.toList) :
    names path = names (String.ofList as) ++ names name := by
  rw [names, parts, split_slash, List.map_append, List.filter_append, names, names,
    String.toList_ofList]

/-- **The names along the path of an entry** are those of its directory and its own. -/
theorem names_join (path : String) {name : String} (isName : IsName name) :
    names (join path name) = names path ++ [name] := by
  rw [← isName.names, join]
  split
  · rename_i ends
    rw [Bool.or_eq_true, decide_eq_true_eq, decide_eq_true_eq] at ends
    rcases ends with rfl | ends
    · rw [String.empty_append]
      rfl
    · -- the slash is there already
      obtain ⟨as, before⟩ := List.getLast?_eq_some_iff.mp ends
      have parts : (path ++ name).toList = as ++ '/' :: name.toList := by
        rw [String.toList_append, before, List.append_assoc, List.singleton_append]
      have directory : path.toList = as ++ '/' :: "".toList := before
      rw [names_of_slash parts, names_of_slash directory]
      simp [names, split]
  · have parts : (path ++ "/" ++ name).toList = path.toList ++ '/' :: name.toList := by
      rw [String.toList_append, String.toList_append, List.append_assoc]
      rfl
    rw [names_of_slash parts, String.ofList_toList]

end Path

/-! ## Directories -/

/-- A directory. Its entries have different names, and no name is empty or a path. -/
structure Directory where
  /-- The entries, in some order. -/
  entries : List (String × Entry)
  distinct : (entries.map Prod.fst).Nodup
  named : ∀ entry ∈ entries, entry.1 ≠ "" ∧ '/' ∉ entry.1.toList

namespace Directory

open Run

variable {directory : Directory} {path : String} {listed : List (String × Entry)}

/-- Whether an entry of a directory is checked. -/
def isChecked (entry : String × Entry) : Bool :=
  !isHidden entry.1 && !entry.2.isDirectory

/-- The entries that are checked, in the order of their names. -/
def checked (entries : List (String × Entry)) : List (String × Entry) :=
  (entries.filter isChecked).mergeSort fun first second => decide (first.1 ≤ second.1)

theorem filesOf_eq (path : String) (entries : List (String × Entry)) :
    filesOf path entries =
      (checked entries).map fun entry => ⟨Path.join path entry.1, entry.1, entry.2⟩ :=
  rfl

theorem checked_perm (entries : List (String × Entry)) :
    (checked entries).Perm (entries.filter isChecked) :=
  List.mergeSort_perm _ _

theorem checked_ascending (entries : List (String × Entry)) :
    (checked entries).Pairwise fun first second => first.1 ≤ second.1 := by
  have sorted : (checked entries).Pairwise fun first second =>
      decide (first.1 ≤ second.1) = true := by
    apply List.pairwise_mergeSort
    · intro first second third below above
      rw [decide_eq_true_eq] at below above ⊢
      exact String.le_trans below above
    · intro first second
      rw [Bool.or_eq_true, decide_eq_true_eq, decide_eq_true_eq]
      exact String.le_total first.1 second.1
  exact sorted.imp of_decide_eq_true

/-- Entries with the same name are one entry. -/
theorem eq_of_name {entries : List (String × Entry)} (distinct : (entries.map Prod.fst).Nodup)
    {first second : String × Entry} (left : first ∈ entries) (right : second ∈ entries)
    (same : first.1 = second.1) : first = second := by
  have apart : entries.Pairwise fun first second => first.1 ≠ second.1 :=
    List.pairwise_map.mp distinct
  have forward : entries.Pairwise fun first second => first.1 = second.1 → first = second :=
    apart.imp fun differ same => absurd same differ
  have backward : entries.Pairwise fun first second => second.1 = first.1 → second = first :=
    apart.imp fun differ same => absurd same.symm differ
  exact forward.forall_of_forall_of_flip (fun _ _ _ => rfl) backward left right same

theorem mem_checked {entry : String × Entry} :
    entry ∈ checked listed ↔ entry ∈ listed ∧ isChecked entry = true := by
  rw [(checked_perm listed).mem_iff, List.mem_filter]

theorem isChecked_iff (entry : String × Entry) :
    isChecked entry = true ↔
      entry.1.toList.head? ≠ some '.' ∧ entry.2.isDirectory = false := by
  simp [isChecked, isHidden]

/-- An entry that is checked has a name of its own. -/
theorem isName_of_mem_checked {entry : String × Entry} (member : entry ∈ checked directory.entries) :
    Path.IsName entry.1 := by
  obtain ⟨within, isChecked⟩ := mem_checked.mp member
  obtain ⟨nonempty, noSlash⟩ := directory.named entry within
  exact ⟨nonempty, noSlash, ((isChecked_iff entry).mp isChecked).1⟩

/-- The names of the entries that are checked stand in strict order. -/
theorem checked_strict (directory : Directory) :
    (checked directory.entries).Pairwise fun first second => first.1 < second.1 := by
  have distinct : ((checked directory.entries).map Prod.fst).Nodup := by
    apply ((checked_perm directory.entries).map Prod.fst).nodup_iff.mpr
    exact directory.distinct.sublist (List.filter_sublist.map Prod.fst)
  have apart : (checked directory.entries).Pairwise fun first second => first.1 ≠ second.1 :=
    List.pairwise_map.mp distinct
  apply ((checked_ascending directory.entries).and apart).imp
  rintro first second ⟨below, differ⟩
  exact Std.lt_of_le_of_ne below differ

/-- **However a directory is listed, its files are the same.** -/
theorem filesOf_listed (directory : Directory) (path : String)
    (order : listed.Perm directory.entries) :
    filesOf path listed = filesOf path directory.entries := by
  have kept := order.filter isChecked
  have rearranged : (checked listed).Perm (checked directory.entries) :=
    (checked_perm listed).trans (kept.trans (checked_perm directory.entries).symm)
  have same : checked listed = checked directory.entries := by
    refine List.Perm.eq_of_pairwise ?_ (checked_ascending listed)
      (checked_ascending directory.entries) rearranged
    intro first second left right below above
    -- two entries in both orders have the same name
    have here := (mem_checked.mp (rearranged.mem_iff.mp left)).1
    have there := (mem_checked.mp right).1
    exact eq_of_name directory.distinct here there (String.le_antisymm below above)
  rw [filesOf_eq, filesOf_eq, same]

/-- That these are the files of a directory to check: those that are neither hidden nor directories,
each once and in the order of their paths. -/
structure Files (directory : Directory) (path : String) (files : List Input) : Prop where
  mem_iff : ∀ input, input ∈ files ↔
    ∃ name entry, (name, entry) ∈ directory.entries ∧ name.toList.head? ≠ some '.' ∧
      entry.isDirectory = false ∧ input = ⟨Path.join path name, name, entry⟩
  sorted : files.Pairwise fun first second => Path.names first.path < Path.names second.path

/-- **The files of a directory** are found, strictly in the order of their paths. -/
theorem files_filesOf (directory : Directory) (path : String) :
    directory.Files path (filesOf path directory.entries) := by
  constructor
  · intro input
    rw [filesOf_eq, List.mem_map]
    constructor
    · rintro ⟨⟨name, entry⟩, member, rfl⟩
      obtain ⟨within, isChecked⟩ := mem_checked.mp member
      obtain ⟨visible, isFile⟩ := (isChecked_iff (name, entry)).mp isChecked
      exact ⟨name, entry, within, visible, isFile, rfl⟩
    · rintro ⟨name, entry, within, visible, isFile, rfl⟩
      refine ⟨(name, entry), mem_checked.mpr ⟨within, ?_⟩, rfl⟩
      exact (isChecked_iff (name, entry)).mpr ⟨visible, isFile⟩
  · rw [filesOf_eq, List.pairwise_map]
    apply (checked_strict directory).imp_of_mem
    intro first second left right below
    -- the names of the directory come first in both paths
    rw [Path.names_join path (isName_of_mem_checked left),
      Path.names_join path (isName_of_mem_checked right)]
    apply List.append_left_lt
    exact List.cons_lt_cons_iff.mpr (.inl below)

end Directory

end MiniJ
