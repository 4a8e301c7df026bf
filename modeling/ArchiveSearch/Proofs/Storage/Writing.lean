import ArchiveSearch.Proofs.Storage.Tree

/-! # Writing files and making directories

A file that is written is found at its path, and every other place stays as it was; if its name is
new, it comes behind the other entries of its directory. Directories that have been made are there
with all that was there before; where a file is in its directory already, nothing is made for it.
-/

namespace ArchiveSearch.Tree

open ArchiveSearch.Path (IsEntryName)

variable {t made : Tree} {p : Path} {l : Location}

/-! ## Nodes that are put -/

/-- A place without a directory is not the root directory. -/
theorem ne_nil_of_node?_ne (h : t.node? l ≠ some .directory) : l ≠ [] := by
  rintro rfl
  exact h rfl

theorem find?_putNode (n : Node) (nodes : List (Location × Node)) (l' : Location) :
    ((putNode l n nodes).find? fun entry => entry.1 = l').map (·.2) =
      if l' = l then some n else (nodes.find? fun entry => entry.1 = l').map (·.2) := by
  induction nodes with
  | nil =>
      by_cases hl' : l' = l
      · simp [putNode, hl']
      · simp [putNode, hl', Ne.symm hl']
  | cons entry nodes ih =>
      rw [putNode]
      by_cases hentry : entry.1 = l
      · rw [if_pos hentry]
        by_cases hl' : l' = l
        · simp [hl']
        · simp [hl', Ne.symm hl', hentry]
      · rw [if_neg hentry]
        by_cases hfound : entry.1 = l'
        · subst hfound
          simp [hentry]
        · simpa [hfound] using ih

/-- A node that is put somewhere is found there, and all others where they were. -/
theorem node?_put (hl : l ≠ []) (n : Node) (l' : Location) :
    (t.put l n).node? l' = if l' = l then some n else t.node? l' := by
  by_cases hroot : l' = []
  · subst hroot
    rw [if_neg (Ne.symm hl)]
    rfl
  · rw [node?, if_neg hroot, node?, if_neg hroot]
    exact find?_putNode n t.nodes l'

/-- A node at a new place comes behind all others. -/
theorem putNode_of_forall_ne {nodes : List (Location × Node)} (h : ∀ entry ∈ nodes, entry.1 ≠ l)
    (n : Node) : putNode l n nodes = nodes ++ [(l, n)] := by
  induction nodes with
  | nil => rfl
  | cons entry nodes ih =>
      obtain ⟨hfirst, hrest⟩ := List.forall_mem_cons.mp h
      rw [putNode, if_neg hfirst, ih hrest, List.cons_append]

/-- Nothing is listed at a place where nothing is found. -/
theorem forall_ne_of_node?_eq_none (h : t.node? l = none) : ∀ entry ∈ t.nodes, entry.1 ≠ l := by
  unfold node? at h
  split at h
  next => cases h
  next =>
    intro entry hentry heq
    rw [Option.map_eq_none_iff, List.find?_eq_none] at h
    exact h entry hentry (decide_eq_true heq)

/-! ## Files that are written -/

/-- Whether a file can be written at a path: there is a directory for it, and no directory is in its
place. -/
def IsWritable (t : Tree) (p : Path) : Prop :=
  ∃ l, t.locate? p = some l ∧ t.node? l ≠ some .directory

/-- Whether a file can be written at a path once its directory has been made. -/
def Admits (t : Tree) (p : Path) : Prop :=
  ∃ made, t.makeDirectory p.parent = .ok made ∧ made.IsWritable p

theorem writeFile_eq_ok_iff {f : File} :
    t.writeFile p f = .ok made ↔
      ∃ l, t.locate? p = some l ∧ t.node? l ≠ some .directory ∧ made = t.put l (.file f) := by
  unfold writeFile
  cases hlocate : t.locate? p with
  | none => simp
  | some l =>
      cases hnode : t.node? l with
      | none => simp [hnode, eq_comm]
      | some n =>
          cases n with
          | directory => simp [hnode]
          | file g => simp [hnode, eq_comm]

/-- A file that is put where there is no directory changes no path. -/
theorem locate?_put_file (hl : t.node? l ≠ some .directory) (f : File) (p : Path) :
    (t.put l (.file f)).locate? p = t.locate? p := by
  refine locate?_congr rfl ?_
  intro l'
  rw [node?_put (ne_nil_of_node?_ne hl)]
  split
  next heq =>
    subst heq
    simp [hl]
  next => rfl

/-- A file with a new name is listed behind the other entries of its directory. -/
theorem names_put_file {name : String} (hp : t.locate? p = some l)
    (hnone : t.node? (l ++ [name]) = none) (f : File) :
    (t.put (l ++ [name]) (.file f)).names p = t.names p ++ [name] := by
  have hlocate : (t.put (l ++ [name]) (.file f)).locate? p = some l := by
    rw [locate?_put_file (by rw [hnone]; nofun), hp]
  have hnodes : (t.put (l ++ [name]) (.file f)).nodes = t.nodes ++ [(l ++ [name], .file f)] :=
    putNode_of_forall_ne (forall_ne_of_node?_eq_none hnone) _
  rw [names, names, hlocate, hp]
  simp [hnodes]

/-- A directory that lists no entries has none. -/
theorem node?_entry_eq_none (hp : t.locate? p = some l) (hempty : t.names p = [])
    (name : String) : t.node? (l ++ [name]) = none := by
  rw [names, hp] at hempty
  rw [node?, if_neg (by simp), Option.map_eq_none_iff, List.find?_eq_none]
  intro entry hentry heq
  have hunlisted := List.filterMap_eq_nil_iff.mp hempty entry hentry
  simp [of_decide_eq_true heq] at hunlisted

/-- A file that has been written is found at its path. -/
theorem at?_of_writeFile {f : File} (h : t.writeFile p f = .ok made) :
    made.at? p = some (.file f) := by
  obtain ⟨l, hlocate, hnode, rfl⟩ := writeFile_eq_ok_iff.mp h
  rw [at?, locate?_put_file hnode, hlocate, Option.bind_some,
    node?_put (ne_nil_of_node?_ne hnode), if_pos rfl]

/-- A file that is written leaves the other entries of its directory as they were. -/
theorem at?_of_writeFile_of_ne {directory : Path} {name old : String} {f : File} {n : Node}
    (hne : old ≠ name)
    (hold : IsEntryName old.toList) (h : IsEntryName name.toList)
    (hat : t.at? (directory.join old) = some n)
    (hwrite : t.writeFile (directory.join name) f = .ok made) :
    made.at? (directory.join old) = some n := by
  obtain ⟨l, hlocate, hnode, rfl⟩ := writeFile_eq_ok_iff.mp hwrite
  obtain ⟨l', hlocate', hat⟩ := Option.bind_eq_some_iff.mp hat
  have hother : l' ≠ l := by
    rintro rfl
    have hlast := getLast?_of_locate?_join h hlocate
    rw [getLast?_of_locate?_join hold hlocate'] at hlast
    exact hne (Option.some.inj hlast)
  rw [at?, locate?_put_file hnode, hlocate', Option.bind_some,
    node?_put (ne_nil_of_node?_ne hnode), if_neg hother, hat]

/-! ## Directories that are made -/

/-- Whether all that is in one tree is in another one too. -/
structure Extends (made t : Tree) : Prop where
  here : made.here = t.here
  node : ∀ l n, t.node? l = some n → made.node? l = some n

theorem Extends.refl (t : Tree) : t.Extends t := ⟨rfl, fun _ _ h => h⟩

theorem Extends.trans {t' : Tree} (h : made.Extends t') (h' : t'.Extends t) : made.Extends t :=
  ⟨h.here.trans h'.here, fun l n hn => h.node l n (h'.node l n hn)⟩

theorem extends_put (hl : t.node? l = none) (n : Node) : (t.put l n).Extends t := by
  have hroot : l ≠ [] := ne_nil_of_node?_ne (t := t) (by simp [hl])
  refine ⟨rfl, ?_⟩
  intro l' n' hn'
  rw [node?_put hroot, if_neg, hn']
  rintro rfl
  rw [hl] at hn'
  cases hn'

/-- A directory on the way is there, or it is made. -/
theorem makeDirectories_cons {name : List Char} {names : List (List Char)}
    (h : t.makeDirectories l (name :: names) = .ok made) :
    Path.isName name = true ∧
      (t.node? (Path.follow l name) = some .directory ∧
          t.makeDirectories (Path.follow l name) names = .ok made ∨
        t.node? (Path.follow l name) = none ∧
          (t.put (Path.follow l name) .directory).makeDirectories (Path.follow l name) names =
            .ok made) := by
  rw [makeDirectories] at h
  split at h
  next => cases h
  next hname =>
    refine ⟨by simpa using hname, ?_⟩
    cases hnode : t.node? (Path.follow l name) with
    | none =>
        simp only [hnode] at h
        split at h
        next => cases h
        next => exact .inr ⟨rfl, h⟩
    | some n =>
        rw [hnode] at h
        cases n with
        | directory => exact .inl ⟨rfl, h⟩
        | file f => cases h

theorem extends_makeDirectories {names : List (List Char)}
    (h : t.makeDirectories l names = .ok made) : made.Extends t := by
  induction names generalizing t l with
  | nil =>
      cases h
      exact .refl made
  | cons name names ih =>
      obtain ⟨-, ⟨-, hrest⟩ | ⟨hnode, hrest⟩⟩ := makeDirectories_cons h
      · exact ih hrest
      · exact (ih hrest).trans (extends_put hnode .directory)

theorem extends_makeDirectory (h : t.makeDirectory p = .ok made) : made.Extends t := by
  unfold makeDirectory at h
  split at h
  next =>
    cases h
    exact .refl t
  next => exact extends_makeDirectories h

/-- Directories that have been made are there. -/
theorem exists_foldlM_of_makeDirectories {names : List (List Char)}
    (h : t.makeDirectories l names = .ok made) (hl : t.node? l = some .directory) :
    ∃ l', names.foldlM made.step? l = some l' ∧ made.node? l' = some .directory := by
  induction names generalizing t l with
  | nil =>
      cases h
      exact ⟨l, rfl, hl⟩
  | cons name names ih =>
      have hfirst := (extends_makeDirectories h).node l _ hl
      obtain ⟨hname, hnext⟩ := makeDirectories_cons h
      rw [List.foldlM_cons, step?_eq_some_iff.mpr ⟨hfirst, hname, rfl⟩]
      rcases hnext with ⟨hnode, hrest⟩ | ⟨hnode, hrest⟩
      · exact ih hrest hnode
      · apply ih hrest
        have hroot : Path.follow l name ≠ [] := ne_nil_of_node?_ne (t := t) (by simp [hnode])
        rw [node?_put hroot, if_pos rfl]

/-- A directory that has been made is there. -/
theorem isDirectory_of_makeDirectory (hp : p.text ≠ "")
    (hstart : t.node? (t.start p) = some .directory) (h : t.makeDirectory p = .ok made) :
    made.isDirectory p := by
  rw [makeDirectory, if_neg (by simpa using hp)] at h
  have hbegin : made.start p = t.start p := by
    rw [start, start, (extends_makeDirectories h).here]
  obtain ⟨l, hnames, hnode⟩ := exists_foldlM_of_makeDirectories h hstart
  have hlocate : made.locate? p = some l := locate?_eq_some_iff.mpr ⟨hp, hbegin ▸ hnames⟩
  rw [isDirectory, at?, hlocate, Option.bind_some, hnode]

/-- A point behind a name stands for a directory that has to be there already. -/
example : ({} : Tree).makeDirectory ⟨"/lib/./"⟩ = .error .missing := rfl

theorem Extends.foldlM_step? (h : made.Extends t) {names : List (List Char)} {l' : Location}
    (hnames : names.foldlM t.step? l = some l') : names.foldlM made.step? l = some l' := by
  induction names generalizing l with
  | nil => exact hnames
  | cons name names ih =>
      rw [List.foldlM_cons] at hnames ⊢
      obtain ⟨next, hnext, hnames⟩ := Option.bind_eq_some_iff.mp hnames
      obtain ⟨hnode, hname, hfollow⟩ := step?_eq_some_iff.mp hnext
      have hstep := step?_eq_some_iff.mpr ⟨h.node l _ hnode, hname, hfollow⟩
      rw [hstep]
      exact ih hnames

/-- What a path leads to is there in a tree that holds more, too. -/
theorem Extends.at? (h : made.Extends t) {n : Node} (hat : t.at? p = some n) :
    made.at? p = some n := by
  obtain ⟨l, hlocate, hnode⟩ := Option.bind_eq_some_iff.mp hat
  obtain ⟨hne, hnames⟩ := locate?_eq_some_iff.mp hlocate
  have hstart : made.start p = t.start p := by rw [start, start, h.here]
  have hsame : made.locate? p = some l :=
    locate?_eq_some_iff.mpr ⟨hne, hstart ▸ h.foldlM_step? hnames⟩
  rw [Tree.at?, hsame, Option.bind_some, h.node l n hnode]

/-! ## The directory of a file -/

/-- A path begins at a directory, if it leads anywhere. -/
theorem node?_start_of_foldlM (h : p.names.foldlM t.step? (t.start p) = some l) :
    t.node? (t.start p) = some .directory := by
  cases hnames : p.names with
  | nil =>
      rw [Path.names, Path.splitNames_eq_splitOn] at hnames
      exact absurd hnames (List.splitOn_ne_nil '/' _)
  | cons name names =>
      rw [hnames, List.foldlM_cons] at h
      obtain ⟨next, hnext, -⟩ := Option.bind_eq_some_iff.mp h
      exact (step?_eq_some_iff.mp hnext).1

/-- Where there is a file, its directory need not be made. -/
theorem makeDirectory_parent {f : File} (h : t.at? p = some (.file f)) :
    t.makeDirectory p.parent = .ok t := by
  obtain ⟨l, hlocate, hnode⟩ := Option.bind_eq_some_iff.mp h
  have hroute := foldlM_route hlocate
  have hstart : t.start p.parent = t.start p := t.start_congr p.isAbsolute_parent
  by_cases hempty : p.parent.text = ""
  · rw [makeDirectory, if_pos (by simp [hempty])]
  · rcases List.eq_nil_or_concat p.route with hnil | ⟨front, last, hlast⟩
    · -- A path without names that count leads to where it begins, which is a directory.
      rw [hnil] at hroute
      cases hroute
      obtain ⟨-, hnames⟩ := locate?_eq_some_iff.mp hlocate
      rw [node?_start_of_foldlM hnames] at hnode
      cases hnode
    · rw [hlast, List.concat_eq_append, List.foldlM_append] at hroute
      obtain ⟨l', hfront, hstep⟩ := Option.bind_eq_some_iff.mp hroute
      rw [List.foldlM_cons] at hstep
      obtain ⟨next, hnext, -⟩ := Option.bind_eq_some_iff.mp hstep
      have hdirectory := (step?_eq_some_iff.mp hnext).1
      have hparent : p.parent.route = front := by
        rw [Path.route_parent, hlast, List.concat_eq_append, List.dropLast_concat]
      have hnames : (Path.counting p.parent.names).foldlM t.step? (t.start p.parent) = some l' := by
        rw [hstart, ← hfront, ← hparent]
        rfl
      have hfound := locate?_eq_some_iff.mpr ⟨hempty, foldlM_of_counting hnames hdirectory⟩
      exact makeDirectory_eq hfound hdirectory

end ArchiveSearch.Tree
