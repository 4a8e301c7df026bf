import ArchiveSearch.Proofs.Storage.Path
import ArchiveSearch.Storage.Tree

/-! # Entries of a directory

Where a path leads is told by its route, and where an entry of a directory is, by the route to the
directory and its name. A directory that is there need not be made.
-/

namespace ArchiveSearch.Tree

open ArchiveSearch.Path (IsEntryName isIdle)

/-! ## Following a route -/

theorem step?_eq_some_iff {t : Tree} {l l' : Location} {name : List Char} :
    t.step? l name = some l' ↔
      t.node? l = some .directory ∧ Path.isName name = true ∧ Path.follow l name = l' := by
  unfold step?
  cases hnode : t.node? l with
  | none => simp
  | some n =>
      cases n with
      | directory => by_cases hname : Path.isName name = true <;> simp [hname]
      | file f => simp

theorem follow_of_isIdle (l : Location) {name : List Char} (h : isIdle name = true) :
    Path.follow l name = l := if_pos h

theorem follow_entry (l : Location) {name : String} (h : IsEntryName name.toList) :
    Path.follow l name.toList = l ++ [name] := by
  rw [Path.follow, if_neg (by simp [h.counts]), if_neg h.back, String.ofList_toList]

/-- Names that count for nothing may be left out. -/
theorem foldlM_counting {t : Tree} {names : List (List Char)} {l l' : Location}
    (h : names.foldlM t.step? l = some l') :
    (Path.counting names).foldlM t.step? l = some l' := by
  unfold Path.counting
  induction names generalizing l with
  | nil => exact h
  | cons name names ih =>
      rw [List.foldlM_cons] at h
      obtain ⟨next, hnext, h⟩ := Option.bind_eq_some_iff.mp h
      by_cases hidle : isIdle name = true
      · obtain ⟨-, -, hfollow⟩ := step?_eq_some_iff.mp hnext
        rw [follow_of_isIdle l hidle] at hfollow
        rw [List.filter_cons_of_neg (by simp [hidle]), hfollow]
        exact ih h
      · rw [List.filter_cons_of_pos (by simpa using hidle), List.foldlM_cons, hnext]
        exact ih h

/-- What is passed on the way to a directory is a directory. -/
theorem node?_of_foldlM_step? {t : Tree} {l : Location} {names : List (List Char)} {l' : Location}
    (h : names.foldlM t.step? l = some l') (hl' : t.node? l' = some .directory) :
    t.node? l = some .directory := by
  cases names with
  | nil =>
      cases h
      exact hl'
  | cons name names =>
      rw [List.foldlM_cons] at h
      obtain ⟨next, hnext, -⟩ := Option.bind_eq_some_iff.mp h
      exact (step?_eq_some_iff.mp hnext).1

theorem isName_of_isIdle {name : List Char} (h : isIdle name = true) :
    Path.isName name = true := by
  rw [isIdle, Bool.or_eq_true, beq_iff_eq, beq_iff_eq] at h
  rcases h with rfl | rfl
  · decide
  · decide

/-- Names that count for nothing may be put in on the way to a directory. -/
theorem foldlM_of_counting {t : Tree} {l : Location} {names : List (List Char)} {l' : Location}
    (h : (Path.counting names).foldlM t.step? l = some l') (hl' : t.node? l' = some .directory) :
    names.foldlM t.step? l = some l' := by
  have hl := node?_of_foldlM_step? h hl'
  unfold Path.counting at h
  induction names generalizing l with
  | nil => exact h
  | cons name names ih =>
      rw [List.foldlM_cons]
      by_cases hidle : isIdle name = true
      · rw [List.filter_cons_of_neg (by simp [hidle])] at h
        have hstep := step?_eq_some_iff.mpr ⟨hl, isName_of_isIdle hidle, follow_of_isIdle l hidle⟩
        rw [hstep]
        exact ih h hl
      · rw [List.filter_cons_of_pos (by simpa using hidle), List.foldlM_cons] at h
        obtain ⟨next, hnext, h⟩ := Option.bind_eq_some_iff.mp h
        rw [hnext]
        exact ih h (node?_of_foldlM_step? h hl')

theorem locate?_eq_some_iff {t : Tree} {p : Path} {l : Location} :
    t.locate? p = some l ↔ p.text ≠ "" ∧ p.names.foldlM t.step? (t.start p) = some l := by
  unfold locate?
  by_cases hempty : p.text = "" <;> simp [hempty]

theorem foldlM_route {t : Tree} {p : Path} {l : Location} (h : t.locate? p = some l) :
    p.route.foldlM t.step? (t.start p) = some l :=
  foldlM_counting (locate?_eq_some_iff.mp h).2

theorem start_congr (t : Tree) {p q : Path} (h : p.isAbsolute = q.isAbsolute) :
    t.start p = t.start q := by
  rw [start, start, h]

/-- Where a path leads depends on the directories only. -/
theorem locate?_congr {t t' : Tree} {p : Path} (hhere : t'.here = t.here)
    (h : ∀ l, t'.node? l = some .directory ↔ t.node? l = some .directory) :
    t'.locate? p = t.locate? p := by
  have hstep : t'.step? = t.step? := by
    funext place name
    ext next
    rw [step?_eq_some_iff, step?_eq_some_iff, h]
  rw [locate?, locate?, hstep, start, start, hhere]

theorem fromUTF8?_toUTF8 (text : String) : String.fromUTF8? text.toUTF8 = some text := by
  rw [String.fromUTF8?, String.toUTF8_eq_toByteArray, dif_pos text.isValidUTF8]
  rfl

/-- A text that was written is read as it was. -/
theorem readText_of_at? {t : Tree} {p : Path} {text : String} {now : Time}
    (h : t.at? p = some (.file ⟨text.toUTF8, now⟩)) : t.readText p = .ok text := by
  rw [readText, h]
  simp only [fromUTF8?_toUTF8]

/-! ## Entries of a directory -/

section Directory

variable {t : Tree} {p : Path} {l : Location}

theorem isDirectory_iff :
    t.isDirectory p = true ↔ ∃ l, t.locate? p = some l ∧ t.node? l = some .directory := by
  unfold isDirectory at?
  cases hlocate : t.locate? p with
  | none => simp
  | some l =>
      cases hnode : t.node? l with
      | none => simp [hnode]
      | some n => cases n <;> simp [hnode]

/-- Where an entry is, is told by the route to its directory. -/
theorem locate?_join_eq_some_iff {name : String} (h : IsEntryName name.toList) {l' : Location} :
    t.locate? (p.join name) = some l' ↔ ∃ l, p.route.foldlM t.step? (t.start p) = some l ∧
      t.node? l = some .directory ∧ Path.isName name.toList = true ∧ l' = l ++ [name] := by
  have hstart : t.start (p.join name) = t.start p := t.start_congr (p.isAbsolute_join h)
  constructor
  · intro hlocate
    have hroute := foldlM_route hlocate
    rw [p.route_join h, hstart, List.foldlM_append] at hroute
    obtain ⟨l, hl, hlast⟩ := Option.bind_eq_some_iff.mp hroute
    have hstep : t.step? l name.toList = some l' := by simpa using hlast
    obtain ⟨hnode, hname, hfollow⟩ := step?_eq_some_iff.mp hstep
    exact ⟨l, hl, hnode, hname, hfollow ▸ follow_entry l h⟩
  · rintro ⟨l, hl, hnode, hname, rfl⟩
    obtain ⟨front, hnames, hfront⟩ := p.exists_names_join h
    rw [← hfront] at hl
    have hstep : t.step? l name.toList = some (l ++ [name]) :=
      step?_eq_some_iff.mpr ⟨hnode, hname, follow_entry l h⟩
    refine locate?_eq_some_iff.mpr ⟨p.text_join_ne h, ?_⟩
    rw [hnames, hstart, List.foldlM_append, foldlM_of_counting hl hnode]
    simp [hstep]

/-- Where an entry of a directory is, or would be. -/
theorem locate?_join (hp : t.locate? p = some l) (hl : t.node? l = some .directory) {name : String}
    (hentry : IsEntryName name.toList) (hname : Path.isName name.toList = true) :
    t.locate? (p.join name) = some (l ++ [name]) :=
  (locate?_join_eq_some_iff hentry).mpr ⟨l, foldlM_route hp, hl, hname, rfl⟩

/-- Another last name leads to where the entry of this name is. -/
theorem locate?_withFileName (t : Tree) (p : Path) {old name : String}
    (hold : IsEntryName old.toList) (h : IsEntryName name.toList) :
    t.locate? ((p.join old).withFileName name) = t.locate? (p.join name) := by
  have hstart : t.start (p.join old).parent = t.start p := by
    apply t.start_congr
    rw [Path.isAbsolute_parent, p.isAbsolute_join hold]
  rw [Path.withFileName, p.fileName?_join hold, if_pos Option.isSome_some]
  ext l'
  rw [locate?_join_eq_some_iff h, locate?_join_eq_some_iff h, p.route_parent_join hold, hstart]

/-- The path with another last name leads to another entry of the same directory, if anywhere. -/
theorem eq_of_locate?_withFileName (hp : t.locate? p = some l) {old name : String}
    (hold : IsEntryName old.toList) (hname : IsEntryName name.toList) {l' : Location}
    (h : t.locate? ((p.join old).withFileName name) = some l') : l' = l ++ [name] := by
  rw [locate?_withFileName t p hold hname] at h
  obtain ⟨l₁, hl₁, -, -, rfl⟩ := (locate?_join_eq_some_iff hname).mp h
  rw [foldlM_route hp] at hl₁
  rw [Option.some.inj hl₁]

theorem getLast?_of_locate?_join {name : String} (h : IsEntryName name.toList)
    (hlocate : t.locate? (p.join name) = some l) : l.getLast? = some name := by
  obtain ⟨l', -, -, -, rfl⟩ := (locate?_join_eq_some_iff h).mp hlocate
  exact List.getLast?_concat

theorem file?_of_at? {f : File} (h : t.at? p = some (.file f)) : t.file? p = some f := by
  rw [file?, h]

theorem file?_congr {q : Path} (h : t.locate? p = t.locate? q) : t.file? p = t.file? q := by
  rw [file?, file?, at?, at?, h]

/-- A directory that is there need not be made. -/
theorem makeDirectories_eq {names : List (List Char)} {l l' : Location}
    (h : names.foldlM t.step? l = some l') (hl' : t.node? l' = some .directory) :
    t.makeDirectories l names = .ok t := by
  induction names generalizing l with
  | nil => rfl
  | cons name names ih =>
      rw [List.foldlM_cons] at h
      obtain ⟨next, hnext, h⟩ := Option.bind_eq_some_iff.mp h
      obtain ⟨-, hname, rfl⟩ := step?_eq_some_iff.mp hnext
      have hnode := node?_of_foldlM_step? h hl'
      rw [makeDirectories, hname, hnode]
      exact ih h

theorem makeDirectory_eq (hp : t.locate? p = some l) (hl : t.node? l = some .directory) :
    t.makeDirectory p = .ok t := by
  obtain ⟨hne, hp⟩ := locate?_eq_some_iff.mp hp
  rw [makeDirectory, if_neg (by simpa using hne)]
  exact makeDirectories_eq hp hl

end Directory

end ArchiveSearch.Tree
