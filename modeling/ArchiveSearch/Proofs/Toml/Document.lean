import ArchiveSearch.Proofs.Toml.Value

/-! # Documents of tables with headers

A document of lines with a name and a value each, under headers of their own and with empty lines
between the tables, reads as the table of these tables, as long as no name stands twice in one
place.
-/

namespace ArchiveSearch.Toml

/-! ## Lines -/

/-- A line with a name, the text behind it and the value that the text stands for. -/
structure Line where
  name : String
  text : String
  value : Toml

/-- A header and the lines under it. -/
structure HeadedTable where
  name : String
  lines : List Line

/-- Whether a name may stand without quotes. -/
def IsBareName (name : String) : Prop := name ≠ "" ∧ name.toList.all isNameChar = true

instance (name : String) : Decidable (IsBareName name) :=
  inferInstanceAs (Decidable (_ ∧ _))

namespace Line

def chars (line : Line) : List Char :=
  line.name.toList ++ ' ' :: '=' :: ' ' :: (line.text.toList ++ ['\n'])

def statement (line : Line) : Statement := .entry ⟨[], line.name⟩ line.value

def entry (line : Line) : String × Toml := (line.name, line.value)

structure IsWritten (line : Line) : Prop where
  name : IsBareName line.name
  value : Writes line.text line.value

end Line

namespace HeadedTable

def header (table : HeadedTable) : List Char := '[' :: (table.name.toList ++ [']', '\n'])

def chars (table : HeadedTable) : List Char := table.header ++ table.lines.flatMap Line.chars

def statements (table : HeadedTable) : List Statement :=
  .header ⟨[], table.name⟩ :: table.lines.map Line.statement

def entry (table : HeadedTable) : String × Toml :=
  (table.name, .table .headed (table.lines.map Line.entry))

structure IsWritten (table : HeadedTable) : Prop where
  name : IsBareName table.name
  lines : ∀ line ∈ table.lines, line.IsWritten
  nodup : (table.lines.map Line.name).Nodup

end HeadedTable

/-! ## Names -/

section Names

variable {name : String} {rest : List Char}

theorem IsBareName.chars (h : IsBareName name) : ∀ c ∈ name.toList, isNameChar c = true :=
  List.all_eq_true.mp h.2

theorem IsBareName.exists_cons (h : IsBareName name) :
    ∃ c more, name.toList = c :: more ∧ isNameChar c = true := by
  obtain ⟨c, more, hname⟩ := List.exists_cons_of_ne_nil (l := name.toList) (by simpa using h.1)
  exact ⟨c, more, hname, h.chars c (hname ▸ List.mem_cons_self)⟩

theorem isGap_of_isNameChar {c : Char} (h : isNameChar c = true) : isGap c = false :=
  isGap_eq_false h (by decide) (by decide)

theorem readName?_append (h : IsBareName name) (hrest : ∀ c ∈ rest.head?, isNameChar c = false) :
    readName? (name.toList ++ rest) = some (name.toList, rest) := by
  obtain ⟨htake, hdrop⟩ := takeWhile_append_eq h.chars hrest
  obtain ⟨c, more, hname, hc⟩ := h.exists_cons
  have hquote : c ≠ '"' := ne_of_kind hc (by decide)
  have hapostrophe : c ≠ '\'' := ne_of_kind hc (by decide)
  rw [hname, List.cons_append] at htake hdrop ⊢
  rw [readName?, htake, hdrop]
  · intro _ heq
    exact hquote (List.cons.inj heq).1
  · intro _ heq
    exact hapostrophe (List.cons.inj heq).1

/-- A name without quotes is a key if no point follows. -/
theorem readKey?_append (h : IsBareName name) (hrest : ∀ c ∈ rest.head?, isNameChar c = false)
    (hpoint : (dropGaps rest).head? ≠ some '.') :
    readKey? (name.toList ++ rest) = some (⟨[], name⟩, dropGaps rest) := by
  have hread := readName?_append h hrest
  obtain ⟨c, more, hname, hc⟩ := h.exists_cons
  have hgaps : dropGaps (name.toList ++ rest) = name.toList ++ rest := by
    rw [hname, List.cons_append, dropGaps_cons (isGap_of_isNameChar hc)]
  have hnames : readNames? nestingLimit (name.toList ++ rest) = some ([name], dropGaps rest) := by
    rw [nestingLimit, readNames?, hgaps]
    refine Option.bind_eq_some_iff.mpr ⟨_, hread, ?_⟩
    dsimp only
    split
    next heq =>
      rw [heq] at hpoint
      exact absurd rfl hpoint
    next =>
      rw [String.ofList_toList]
      rfl
  rw [readKey?, hnames]
  rfl

end Names

/-! ## Statements -/

section Statements

variable {rest : List Char}

theorem readStatement?_header {name : String} (h : IsBareName name) :
    readStatement? ('[' :: (name.toList ++ ']' :: '\n' :: rest)) =
      some (.header ⟨[], name⟩, rest) := by
  have hkey : readKey? (name.toList ++ ']' :: '\n' :: rest) =
      some (⟨[], name⟩, ']' :: '\n' :: rest) := by
    refine readKey?_append h ?_ ?_
    · intro c hc
      cases hc
      decide
    · intro heq
      exact absurd (Option.some.inj heq) (by decide)
  obtain ⟨c, more, hname, hc⟩ := h.exists_cons
  have hbracket : c ≠ '[' := ne_of_kind hc (by decide)
  rw [hname, List.cons_append] at hkey ⊢
  rw [readStatement?]
  · refine Option.bind_eq_some_iff.mpr ⟨_, hkey, ?_⟩
    rfl
  · intro _ heq
    exact hbracket (List.cons.inj heq).1

theorem readStatement?_line {line : Line} (h : line.IsWritten) :
    readStatement? (line.chars ++ rest) = some (line.statement, rest) := by
  have htext : line.chars ++ rest =
      line.name.toList ++ ' ' :: '=' :: ' ' :: (line.text.toList ++ '\n' :: rest) := by
    simp [Line.chars]
  have hkey : readKey? (line.chars ++ rest) =
      some (⟨[], line.name⟩, '=' :: ' ' :: (line.text.toList ++ '\n' :: rest)) := by
    rw [htext]
    refine readKey?_append h.name ?_ ?_
    · intro c hc
      cases hc
      decide
    · intro heq
      exact absurd (Option.some.inj heq) (by decide)
  have hpair : readPair? (readValue? nestingLimit) (line.chars ++ rest) =
      some ((⟨[], line.name⟩, line.value), '\n' :: rest) := by
    refine Option.bind_eq_some_iff.mpr ⟨_, hkey, ?_⟩
    exact Option.bind_eq_some_iff.mpr ⟨_, h.value rest, rfl⟩
  obtain ⟨c, more, hname, hc⟩ := h.name.exists_cons
  have hbracket : c ≠ '[' := ne_of_kind hc (by decide)
  rw [htext, hname, List.cons_append] at hpair ⊢
  rw [readStatement?]
  · refine Option.bind_eq_some_iff.mpr ⟨_, hpair, ?_⟩
    rfl
  · intro _ heq
    exact hbracket (List.cons.inj heq).1
  · intro _ heq
    exact hbracket (List.cons.inj heq).1

end Statements

/-! ## Texts -/

section Texts

variable {rest : List Char}

theorem dropLines_cons {c : Char} (hgap : isGap c = false) (hcomment : c ≠ '#') (hline : c ≠ '\n')
    (hreturn : c ≠ '\r') : dropLines (c :: rest) = c :: rest := by
  have hdrop : dropComment (c :: rest) = c :: rest := by
    rw [dropComment]
    intro _ heq
    exact hcomment (List.cons.inj heq).1
  have hbreak : startsBreak (c :: rest) = false := by
    simp [startsBreak, hline, hreturn]
  rw [dropLines]
  simp [dropGaps_cons hgap, hdrop, hbreak, hcomment]

theorem dropLines_newLine : dropLines ('\n' :: rest) = dropLines rest := by
  rw [dropLines]
  rfl

/-- A statement that stands behind empty lines is read, and then what follows it. -/
theorem readStatements?_of_dropLines {text more : List Char} {c : Char} {statement : Statement}
    (hfirst : dropLines text = c :: more)
    (hread : readStatement? (c :: more) = some (statement, rest))
    (hlength : rest.length < text.length) :
    readStatements? text = (readStatements? rest).map (statement :: ·) := by
  rw [readStatements?, hfirst]
  simp only [hread, if_pos hlength]

theorem readStatements?_line {line : Line} (h : line.IsWritten) :
    readStatements? (line.chars ++ rest) =
      (readStatements? rest).map (line.statement :: ·) := by
  have hread : readStatement? (line.chars ++ rest) = some (line.statement, rest) :=
    readStatement?_line h
  obtain ⟨c, more, hname, hc⟩ := h.name.exists_cons
  have htext : line.chars ++ rest =
      c :: (more ++ ' ' :: '=' :: ' ' :: (line.text.toList ++ '\n' :: rest)) := by
    simp [Line.chars, hname]
  have hfirst : dropLines (line.chars ++ rest) = line.chars ++ rest := by
    rw [htext, dropLines_cons (isGap_of_isNameChar hc) (ne_of_kind hc (by decide))
      (ne_of_kind hc (by decide)) (ne_of_kind hc (by decide))]
  rw [htext] at hread hfirst ⊢
  refine readStatements?_of_dropLines hfirst hread ?_
  simp only [List.length_cons, List.length_append]
  omega

theorem readStatements?_header {table : HeadedTable} (h : IsBareName table.name)
    {text : List Char} (htext : dropLines text = table.header ++ rest)
    (hlength : rest.length < text.length) :
    readStatements? text =
      (readStatements? rest).map (.header ⟨[], table.name⟩ :: ·) := by
  have hheader : table.header ++ rest = '[' :: (table.name.toList ++ ']' :: '\n' :: rest) := by
    simp [HeadedTable.header]
  rw [hheader] at htext
  exact readStatements?_of_dropLines htext (readStatement?_header h) hlength

theorem readStatements?_lines {lines : List Line} (h : ∀ line ∈ lines, line.IsWritten) :
    readStatements? (lines.flatMap Line.chars ++ rest) =
      (readStatements? rest).map (lines.map Line.statement ++ ·) := by
  induction lines with
  | nil => simp
  | cons line lines ih =>
      rw [List.forall_mem_cons] at h
      rw [List.flatMap_cons, List.append_assoc, readStatements?_line h.1, ih h.2, Option.map_map]
      rfl

theorem dropLines_header (table : HeadedTable) (rest : List Char) :
    dropLines (table.header ++ rest) = table.header ++ rest :=
  dropLines_cons (by decide) (by decide) (by decide) (by decide)

/-- A table with its header reads as its statements, behind empty lines too. -/
theorem readStatements?_table {table : HeadedTable} (h : table.IsWritten) (lines : Nat) :
    readStatements? (List.replicate lines '\n' ++ (table.chars ++ rest)) =
      (readStatements? rest).map (table.statements ++ ·) := by
  have htext : dropLines (List.replicate lines '\n' ++ (table.chars ++ rest)) =
      table.header ++ (table.lines.flatMap Line.chars ++ rest) := by
    rw [HeadedTable.chars, List.append_assoc]
    induction lines with
    | zero => exact dropLines_header table _
    | succ lines ih => rw [List.replicate_succ, List.cons_append, dropLines_newLine, ih]
  have hlength : (table.lines.flatMap Line.chars ++ rest).length <
      (List.replicate lines '\n' ++ (table.chars ++ rest)).length := by
    simp only [HeadedTable.chars, HeadedTable.header, List.length_append, List.length_cons]
    omega
  rw [readStatements?_header h.name htext hlength, readStatements?_lines h.lines, Option.map_map]
  rfl

theorem readStatements?_tables {tables : List HeadedTable} (h : ∀ table ∈ tables, table.IsWritten) :
    readStatements? (tables.flatMap fun table => '\n' :: table.chars) =
      some (tables.flatMap HeadedTable.statements) := by
  induction tables with
  | nil =>
      rw [List.flatMap_nil, readStatements?, dropLines]
      rfl
  | cons table tables ih =>
      rw [List.forall_mem_cons] at h
      rw [List.flatMap_cons, List.cons_append]
      refine (readStatements?_table h.1 1).trans ?_
      rw [ih h.2]
      rfl

end Texts

/-! ## Building up the document -/

section Building

variable {entries : List (String × Toml)} {name : String}

theorem find?_eq_none (h : name ∉ entries.map Prod.fst) : find? entries name = none := by
  rw [find?, Option.map_eq_none_iff, List.find?_eq_none]
  intro entry hentry heq
  exact h (List.mem_map.mpr ⟨entry, hentry, of_decide_eq_true heq⟩)

theorem find?_append_last (h : name ∉ entries.map Prod.fst) (value : Toml) :
    find? (entries ++ [(name, value)]) name = some value := by
  have hnone := Option.map_eq_none_iff.mp (find?_eq_none h)
  rw [find?, List.find?_append, hnone]
  simp

theorem put_new (h : name ∉ entries.map Prod.fst) (value : Toml) :
    put entries name value = entries ++ [(name, value)] := by
  have hnone : (entries.any fun entry => entry.1 = name) = false := by
    rw [List.any_eq_false]
    intro entry hentry heq
    exact h (List.mem_map.mpr ⟨entry, hentry, of_decide_eq_true heq⟩)
  rw [put, if_neg (by rw [hnone]; exact Bool.false_ne_true)]

theorem put_last (h : name ∉ entries.map Prod.fst) (old value : Toml) :
    put (entries ++ [(name, old)]) name value = entries ++ [(name, value)] := by
  have hkeep : (entries.map fun entry => if entry.1 = name then (name, value) else entry) =
      entries := by
    rw [List.map_congr_left (g := id), List.map_id]
    intro entry hentry
    apply if_neg
    intro heq
    exact h (List.mem_map.mpr ⟨entry, hentry, heq⟩)
  rw [put, if_pos (by simp), List.map_append, hkeep]
  simp

theorem not_mem_of_nodup_append {front back : List String} (h : (front ++ name :: back).Nodup) :
    name ∉ front := by
  intro hmem
  obtain ⟨-, -, hdisjoint⟩ := List.nodup_append.mp h
  exact hdisjoint name hmem name List.mem_cons_self rfl

/-- A document whose last table is under its header. -/
def draft (before : List (String × Toml)) (name : String) (inside : List (String × Toml)) : Draft :=
  ⟨.table .headed (before ++ [(name, .table .headed inside)]), [name]⟩

theorem add?_header {path : List String} (h : name ∉ entries.map Prod.fst) :
    Draft.add? ⟨.table .headed entries, path⟩ (.header ⟨[], name⟩) =
      some (draft entries name []) := by
  simp [Draft.add?, alter?, head?, find?_eq_none h, put_new h, draft]

theorem add?_line {inside : List (String × Toml)} (h : name ∉ entries.map Prod.fst) {line : Line}
    (hline : line.name ∉ inside.map Prod.fst) :
    Draft.add? (draft entries name inside) line.statement =
      some (draft entries name (inside ++ [line.entry])) := by
  have hplace : insertKey? ⟨[], line.name⟩ line.value (.table .headed inside) =
      some (.table .headed (inside ++ [line.entry])) := by
    simp [insertKey?, alter?, place?, find?_eq_none hline, Line.entry]
  simp [Draft.add?, draft, Line.statement, alter?, find?_append_last h, hplace, put_last h]

/-- Lines of new names are added behind those that are there. The list of names on both sides has
no name twice, and a step moves one of them over. -/
theorem foldlM_add?_lines {inside : List (String × Toml)} (h : name ∉ entries.map Prod.fst)
    {lines : List Line} (hnames : (inside.map Prod.fst ++ lines.map Line.name).Nodup) :
    (lines.map Line.statement).foldlM Draft.add? (draft entries name inside) =
      some (draft entries name (inside ++ lines.map Line.entry)) := by
  induction lines generalizing inside with
  | nil => simp
  | cons line lines ih =>
      have hline : line.name ∉ inside.map Prod.fst := not_mem_of_nodup_append hnames
      have hnext : ((inside ++ [line.entry]).map Prod.fst ++ lines.map Line.name).Nodup := by
        simpa [Line.entry] using hnames
      rw [List.map_cons, List.foldlM_cons, add?_line h hline]
      refine (ih hnext).trans ?_
      rw [List.append_assoc]
      rfl

theorem foldlM_add?_table {table : HeadedTable} (h : table.name ∉ entries.map Prod.fst)
    (hnames : (table.lines.map Line.name).Nodup) (path : List String) :
    table.statements.foldlM Draft.add? ⟨.table .headed entries, path⟩ =
      some ⟨.table .headed (entries ++ [table.entry]), [table.name]⟩ := by
  have hlines : ([] ++ table.lines.map Line.name).Nodup := hnames
  rw [HeadedTable.statements, List.foldlM_cons, add?_header h]
  exact foldlM_add?_lines h hlines

theorem foldlM_add?_tables {tables : List HeadedTable}
    (hlines : ∀ table ∈ tables, (table.lines.map Line.name).Nodup)
    (hnames : (entries.map Prod.fst ++ tables.map HeadedTable.name).Nodup) (path : List String) :
    ((tables.flatMap HeadedTable.statements).foldlM Draft.add?
      ⟨.table .headed entries, path⟩).map Draft.root =
        some (.table .headed (entries ++ tables.map HeadedTable.entry)) := by
  induction tables generalizing entries path with
  | nil => simp
  | cons table tables ih =>
      rw [List.forall_mem_cons] at hlines
      have hnew : table.name ∉ entries.map Prod.fst := not_mem_of_nodup_append hnames
      have hnext : ((entries ++ [table.entry]).map Prod.fst ++
          tables.map HeadedTable.name).Nodup := by
        simpa [HeadedTable.entry] using hnames
      rw [List.flatMap_cons, List.foldlM_append, foldlM_add?_table hnew hlines.1]
      refine (ih hlines.2 hnext _).trans ?_
      rw [List.append_assoc]
      rfl

end Building

/-- A document of tables with headers reads as the table of these tables. Only the first of them
has no empty line before it. -/
theorem read?_tables {text : String} {first : HeadedTable} {tables : List HeadedTable}
    (htext : text.toList = first.chars ++ tables.flatMap fun table => '\n' :: table.chars)
    (hwritten : ∀ table ∈ first :: tables, table.IsWritten)
    (hnames : ((first :: tables).map HeadedTable.name).Nodup) :
    read? text = some (.table .headed ((first :: tables).map HeadedTable.entry)) := by
  have hmark : dropMark text.toList = text.toList := by
    rw [htext]
    rfl
  have hstatements : readStatements? text.toList =
      some ((first :: tables).flatMap HeadedTable.statements) := by
    rw [htext, List.flatMap_cons]
    rw [List.forall_mem_cons] at hwritten
    refine (readStatements?_table hwritten.1 0).trans ?_
    rw [readStatements?_tables hwritten.2]
    rfl
  have hlines : ∀ table ∈ first :: tables, (table.lines.map Line.name).Nodup := by
    intro table htable
    exact (hwritten table htable).nodup
  have hnew : (([] : List (String × Toml)).map Prod.fst ++
      (first :: tables).map HeadedTable.name).Nodup := hnames
  rw [read?, hmark, hstatements]
  exact foldlM_add?_tables hlines hnew []

end ArchiveSearch.Toml
