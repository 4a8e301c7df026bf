import ArchiveSearch.Storage.Path
import Mathlib.Data.List.DropRight

/-! # The route of a path

The route of a path are its names that count for something. Going on by a name puts the name behind
the route, and the last name of a route is the one that names a file; the path without this name
has the rest of the route and begins where the path begins. With its beginning, the route is all
that paths are compared by.
-/

namespace ArchiveSearch.Path

/-! ## Names between slashes -/

theorem splitNames_eq_splitOn (s : List Char) : splitNames s = s.splitOn '/' := by
  induction s with
  | nil => rfl
  | cons c s ih =>
      rw [splitNames, ih]
      simp only [List.splitOn_eq_splitOnP, List.splitOnP_cons_eq_if_modifyHead]
      by_cases hc : c = '/'
      · simp [hc]
      · rw [if_neg hc, if_neg (by simpa using hc)]
        cases hnames : s.splitOnP (· == '/') with
        | nil => exact absurd hnames (List.splitOnP_ne_nil _ s)
        | cons name names => rfl

theorem joinNames_eq_intercalate (names : List (List Char)) :
    joinNames names = ['/'].intercalate names := by
  induction names with
  | nil => rfl
  | cons name names ih =>
      cases names with
      | nil => simp [joinNames]
      | cons next rest => simp [joinNames, ih]

theorem splitNames_append_slash (s rest : List Char) :
    splitNames (s ++ '/' :: rest) = splitNames s ++ splitNames rest := by
  simp only [splitNames_eq_splitOn]
  exact List.splitOn_append_cons_self s rest

theorem splitNames_of_not_mem {name : List Char} (h : '/' ∉ name) : splitNames name = [name] := by
  rw [splitNames_eq_splitOn, List.splitOn_eq_singleton]
  exact h

theorem splitNames_joinNames {names : List (List Char)} (hne : names ≠ [])
    (hslash : ∀ name ∈ names, '/' ∉ name) : splitNames (joinNames names) = names := by
  rw [splitNames_eq_splitOn, joinNames_eq_intercalate, List.splitOn_intercalate '/' hslash hne]

/-- A text is its names with slashes between them. -/
theorem joinNames_splitNames (s : List Char) : joinNames (splitNames s) = s := by
  rw [joinNames_eq_intercalate, splitNames_eq_splitOn, List.intercalate_splitOn]

theorem joinNames_append {names more : List (List Char)} (hne : names ≠ []) (hmore : more ≠ []) :
    joinNames (names ++ more) = joinNames names ++ '/' :: joinNames more := by
  induction names with
  | nil => exact absurd rfl hne
  | cons name names ih =>
      cases names with
      | nil =>
          cases more with
          | nil => exact absurd rfl hmore
          | cons next rest => rfl
      | cons next rest =>
          have hrest := ih (List.cons_ne_nil next rest)
          simp only [List.cons_append, joinNames] at hrest ⊢
          rw [hrest, List.append_assoc]
          rfl

theorem not_mem_of_mem_splitNames {s name : List Char} (h : name ∈ splitNames s) : '/' ∉ name := by
  induction s generalizing name with
  | nil =>
      rw [List.mem_singleton.mp h]
      exact List.not_mem_nil
  | cons c s ih =>
      rw [splitNames] at h
      split at h
      next =>
        rcases List.mem_cons.mp h with rfl | h
        · exact List.not_mem_nil
        · exact ih h
      next hc =>
        cases hnames : splitNames s with
        | nil =>
            rw [splitNames_eq_splitOn] at hnames
            exact absurd hnames (List.splitOn_ne_nil '/' s)
        | cons first rest =>
            rw [hnames] at h ih
            rcases List.mem_cons.mp h with rfl | h
            · intro hmem
              rcases List.mem_cons.mp hmem with heq | hmem
              · exact hc heq.symm
              · exact ih List.mem_cons_self hmem
            · exact ih (List.mem_cons_of_mem first h)

/-! ## The route -/

/-- The names of a list that count for something. -/
def counting (names : List (List Char)) : List (List Char) :=
  names.filter fun name => !isIdle name

theorem counting_append (front back : List (List Char)) :
    counting (front ++ back) = counting front ++ counting back :=
  List.filter_append front back

theorem counting_singleton {name : List Char} (h : isIdle name = false) :
    counting [name] = [name] := by
  simp [counting, h]

/-- The names of a text that count for something. -/
def routeOf (text : List Char) : List (List Char) := counting (splitNames text)

/-- The names of a path that count for something. -/
def route (p : Path) : List (List Char) := routeOf p.text.toList

theorem routeOf_append_slash (s rest : List Char) :
    routeOf (s ++ '/' :: rest) = routeOf s ++ routeOf rest := by
  rw [routeOf, splitNames_append_slash, counting_append]
  rfl

theorem routeOf_joinNames {names : List (List Char)} (hslash : ∀ name ∈ names, '/' ∉ name) :
    routeOf (joinNames names) = counting names := by
  by_cases hne : names = []
  · subst hne
    rfl
  · rw [routeOf, splitNames_joinNames hne hslash]

/-- Whether a text can be the name of an entry: it has no slashes and leads from a directory to
something in it. -/
structure IsEntryName (name : List Char) : Prop where
  slash : '/' ∉ name
  counts : isIdle name = false
  back : name ≠ ['.', '.']

theorem IsEntryName.head?_ne {name : List Char} (h : IsEntryName name) :
    name.head? ≠ some '/' := by
  intro hhead
  exact h.slash (List.mem_of_head? hhead)

/-- How a path goes on by the name of an entry: alone, after its last slash, or after a slash of
its own. -/
theorem join_cases (p : Path) {name : String} (h : IsEntryName name.toList) :
    p.text.toList = [] ∧ (p.join name).text.toList = name.toList ∨
      ∃ front, (p.text.toList = front ++ ['/'] ∨ p.text.toList = front ∧ front ≠ []) ∧
        (p.join name).text.toList = front ++ '/' :: name.toList := by
  unfold join
  split
  next hcond =>
    have hempty : p.text = "" := by simpa [h.head?_ne] using hcond
    exact .inl ⟨by rw [hempty]; rfl, rfl⟩
  next hcond =>
    have hne : p.text.toList ≠ [] := by simpa [h.head?_ne] using hcond
    right
    split
    next hlast =>
      obtain ⟨front, hfront⟩ := List.getLast?_eq_some_iff.mp (beq_iff_eq.mp hlast)
      exact ⟨front, .inl hfront, by simp [hfront]⟩
    next => exact ⟨p.text.toList, .inr ⟨rfl, hne⟩, by simp⟩

/-- Going on by a name puts it behind names with the route of the path. -/
theorem exists_names_join (p : Path) {name : String} (h : IsEntryName name.toList) :
    ∃ front, (p.join name).names = front ++ [name.toList] ∧ counting front = p.route := by
  unfold names route
  rcases p.join_cases h with ⟨hp, hjoin⟩ | ⟨front, hp, hjoin⟩
  · refine ⟨[], ?_, ?_⟩
    · rw [hjoin, splitNames_of_not_mem h.slash]
      rfl
    · rw [hp]
      rfl
  · refine ⟨splitNames front, ?_, ?_⟩
    · rw [hjoin, splitNames_append_slash, splitNames_of_not_mem h.slash]
    · rcases hp with hp | ⟨hp, -⟩
      · rw [hp, routeOf_append_slash, show routeOf [] = [] from rfl, List.append_nil]
        rfl
      · rw [hp]
        rfl

theorem route_join (p : Path) {name : String} (h : IsEntryName name.toList) :
    (p.join name).route = p.route ++ [name.toList] := by
  obtain ⟨front, hnames, hfront⟩ := p.exists_names_join h
  change counting (p.join name).names = _
  rw [hnames, counting_append, counting_singleton h.counts, hfront]

theorem text_join_ne (p : Path) {name : String} (h : IsEntryName name.toList) :
    (p.join name).text ≠ "" := by
  intro hempty
  have hroute := route_join p h
  rw [route, hempty] at hroute
  exact absurd hroute.symm (List.append_ne_nil_of_right_ne_nil _ (List.cons_ne_nil _ _))

/-! ## The beginning -/

/-- A path divides into its beginning and its names in one of four ways. -/
theorem parts_cases (p : Path) :
    (∃ rest, p.text.toList = '/' :: rest ∧ p.parts = (['/'], splitNames rest)) ∨
      (p.text.toList = ['.'] ∧ p.parts = (['.'], [])) ∨
      (∃ rest, p.text.toList = '.' :: '/' :: rest ∧ p.parts = (['.'], [] :: splitNames rest)) ∨
      p.text.toList.head? ≠ some '/' ∧ p.parts = ([], splitNames p.text.toList) := by
  unfold parts
  split
  next rest htext => exact .inl ⟨rest, htext, rfl⟩
  next htext => exact .inr (.inl ⟨htext, rfl⟩)
  next rest htext => exact .inr (.inr (.inl ⟨rest, htext, rfl⟩))
  next hslash _ _ =>
    refine .inr (.inr (.inr ⟨fun hhead => ?_, rfl⟩))
    obtain ⟨rest, hrest⟩ := List.head?_eq_some_iff.mp hhead
    exact hslash rest hrest

/-- What a text begins with as a path. -/
def beginning : List Char → List Char
  | '/' :: _ => ['/']
  | ['.'] => ['.']
  | '.' :: '/' :: _ => ['.']
  | _ => []

theorem parts_fst (p : Path) : p.parts.1 = beginning p.text.toList := by
  unfold parts
  split
  next htext =>
    rw [htext]
    rfl
  next htext =>
    rw [htext]
    rfl
  next htext =>
    rw [htext]
    rfl
  next hslash hpoint hboth =>
    unfold beginning
    split
    next htext => exact (hslash _ htext).elim
    next htext => exact (hpoint htext).elim
    next htext => exact (hboth _ htext).elim
    next => rfl

/-- A path is absolute if it begins with a slash. -/
theorem isAbsolute_eq (p : Path) : p.isAbsolute = (p.parts.1 == ['/']) := by
  unfold isAbsolute
  rcases p.parts_cases with ⟨rest, htext, hparts⟩ | ⟨htext, hparts⟩ | ⟨rest, htext, hparts⟩ |
    ⟨hhead, hparts⟩
  · simp [htext, hparts]
  · simp [htext, hparts]
  · simp [htext, hparts]
  · simp [hhead, hparts]

/-- The beginning of a text is told before its first slash. -/
theorem beginning_append_slash {front : List Char} (hne : front ≠ []) (rest : List Char) :
    beginning (front ++ '/' :: rest) = beginning front := by
  rcases front with _ | ⟨c, _ | ⟨d, front⟩⟩
  · exact absurd rfl hne
  · by_cases hslash : c = '/'
    · simp [beginning, hslash]
    · by_cases hpoint : c = '.'
      · simp [beginning, hpoint]
      · simp [beginning, hslash, hpoint]
  · by_cases hslash : c = '/'
    · simp [beginning, hslash]
    · by_cases hpoint : c = '.'
      · by_cases hd : d = '/'
        · simp [beginning, hpoint, hd]
        · simp [beginning, hpoint, hd]
      · simp [beginning, hslash, hpoint]

theorem IsEntryName.beginning_eq {name : List Char} (h : IsEntryName name) :
    beginning name = [] := by
  unfold beginning
  split
  next => exact absurd List.mem_cons_self h.slash
  next => exact absurd h.counts (by decide)
  next => exact absurd (List.mem_cons_of_mem _ List.mem_cons_self) h.slash
  next => rfl

theorem parts_fst_join (p : Path) {name : String} (h : IsEntryName name.toList) :
    (p.join name).parts.1 = p.parts.1 := by
  rw [parts_fst, parts_fst]
  rcases p.join_cases h with ⟨hp, hjoin⟩ | ⟨front, hp, hjoin⟩
  · rw [hp, hjoin, h.beginning_eq]
    rfl
  · rw [hjoin]
    by_cases hne : front = []
    · have hp : p.text.toList = ['/'] := by simpa [hne] using hp
      rw [hp, hne]
      rfl
    · rw [beginning_append_slash hne]
      rcases hp with hp | ⟨hp, -⟩
      · rw [hp, beginning_append_slash hne]
      · rw [hp]

theorem isAbsolute_join (p : Path) {name : String} (h : IsEntryName name.toList) :
    (p.join name).isAbsolute = p.isAbsolute := by
  rw [isAbsolute_eq, isAbsolute_eq, parts_fst_join p h]

/-! ## The last name -/

theorem counting_trimNames (names : List (List Char)) :
    counting (trimNames names) = counting names := by
  change counting (names.rdropWhile isIdle) = counting names
  induction names using List.reverseRecOn with
  | nil => rfl
  | append_singleton names name ih =>
      by_cases hidle : isIdle name = true
      · rw [List.rdropWhile_concat_pos _ _ _ hidle, counting_append, ih]
        simp [counting, hidle]
      · rw [List.rdropWhile_concat_neg _ _ _ hidle]

theorem trimNames_isPrefix (names : List (List Char)) : trimNames names <+: names :=
  names.rdropWhile_prefix isIdle

/-- The last name that is left counts for something. -/
theorem isIdle_getLast_trimNames {names : List (List Char)} {name : List Char}
    (h : (trimNames names).getLast? = some name) : isIdle name = false := by
  obtain ⟨front, hfront⟩ := List.getLast?_eq_some_iff.mp h
  have hne : names.rdropWhile isIdle ≠ [] := fun hnil => by
    rw [show trimNames names = [] from hnil] at hfront
    simp at hfront
  have hlast := names.rdropWhile_last_not isIdle hne
  simpa [show names.rdropWhile isIdle = front ++ [name] from hfront] using hlast

/-- The beginning of a path counts for nothing on its route. -/
theorem routeOf_parts {p : Path} {names : List (List Char)} (h : names <+: p.parts.2) :
    routeOf (p.parts.1 ++ joinNames names) = counting names := by
  rcases p.parts_cases with ⟨rest, -, hparts⟩ | ⟨-, hparts⟩ | ⟨rest, -, hparts⟩ | ⟨-, hparts⟩
  all_goals rw [hparts] at h ⊢
  · have hslash : ∀ name ∈ names, '/' ∉ name := fun name hname =>
      not_mem_of_mem_splitNames (h.subset hname)
    exact (routeOf_append_slash [] _).trans (routeOf_joinNames hslash)
  · rw [List.prefix_nil.mp h]
    rfl
  · cases names with
    | nil => rfl
    | cons name names =>
        obtain ⟨rfl, hnames⟩ := List.cons_prefix_cons.mp h
        have hslash : ∀ name ∈ names, '/' ∉ name := fun name hname =>
          not_mem_of_mem_splitNames (hnames.subset hname)
        cases names with
        | nil => rfl
        | cons next rest => exact (routeOf_append_slash ['.'] _).trans (routeOf_joinNames hslash)
  · exact routeOf_joinNames fun name hname => not_mem_of_mem_splitNames (h.subset hname)

/-- A path without some of its names at the end begins as the path does. -/
theorem beginning_parts {p : Path} {names : List (List Char)} (h : names <+: p.parts.2) :
    beginning (p.parts.1 ++ joinNames names) = p.parts.1 := by
  have hfst := p.parts_fst
  rcases p.parts_cases with ⟨rest, -, hparts⟩ | ⟨-, hparts⟩ | ⟨rest, -, hparts⟩ |
    ⟨hhead, hparts⟩
  all_goals rw [hparts] at h hfst ⊢
  · rfl
  · rw [List.prefix_nil.mp h]
    rfl
  · cases names with
    | nil => rfl
    | cons name names =>
        obtain ⟨rfl, -⟩ := List.cons_prefix_cons.mp h
        cases names with
        | nil => rfl
        | cons next rest => rfl
  · obtain ⟨more, hmore⟩ := h
    have htext : p.text.toList = joinNames (names ++ more) := by
      rw [hmore, joinNames_splitNames]
    by_cases hnames : names = []
    · rw [hnames]
      rfl
    · by_cases hrest : more = []
      · rw [hrest, List.append_nil] at htext
        rw [List.nil_append, ← htext, ← hfst]
      · rw [joinNames_append hnames hrest] at htext
        have hne : joinNames names ≠ [] := by
          intro hnil
          rw [htext, hnil] at hhead
          exact hhead rfl
        rw [List.nil_append, ← beginning_append_slash hne (joinNames more), ← htext, ← hfst]

/-- The names of a path without its beginning have its route. -/
theorem counting_parts (p : Path) : counting p.parts.2 = p.route := by
  have htext : p.parts.1 ++ joinNames p.parts.2 = p.text.toList := by
    rcases p.parts_cases with ⟨rest, htext, hparts⟩ | ⟨htext, hparts⟩ | ⟨rest, htext, hparts⟩ |
      ⟨-, hparts⟩
    all_goals rw [hparts]
    · rw [htext, joinNames_splitNames]
      rfl
    · rw [htext]
      rfl
    · rw [htext]
      exact congrArg ('.' :: ·) (joinNames_splitNames ('/' :: rest))
    · exact joinNames_splitNames p.text.toList
  rw [route, ← htext, routeOf_parts List.prefix_rfl]

/-- Without the names at the end that count for nothing, the last name is that of the route. -/
theorem trimNames_parts_cases (p : Path) :
    trimNames p.parts.2 = [] ∧ p.route = [] ∨
      ∃ front name, trimNames p.parts.2 = front ++ [name] ∧
        p.route = counting front ++ [name] := by
  rw [← counting_parts, ← counting_trimNames]
  cases hlast : (trimNames p.parts.2).getLast? with
  | none =>
      have hnil := List.getLast?_eq_none_iff.mp hlast
      exact .inl ⟨hnil, by rw [hnil]; rfl⟩
  | some name =>
      obtain ⟨front, hfront⟩ := List.getLast?_eq_some_iff.mp hlast
      refine .inr ⟨front, name, hfront, ?_⟩
      rw [hfront, counting_append, counting_singleton (isIdle_getLast_trimNames hlast)]

theorem fileName?_eq (p : Path) : p.fileName? =
    p.route.getLast?.bind fun name => if name = ['.', '.'] then none else some name := by
  unfold fileName?
  rcases p.trimNames_parts_cases with ⟨htrim, hroute⟩ | ⟨front, name, htrim, hroute⟩
  · rw [htrim, hroute]
    rfl
  · rw [htrim, hroute, List.getLast?_concat, List.getLast?_concat]
    rfl

theorem fileName?_join (p : Path) {name : String} (h : IsEntryName name.toList) :
    (p.join name).fileName? = some name.toList := by
  rw [fileName?_eq, route_join p h, List.getLast?_concat]
  exact if_neg h.back

theorem parent_eq (p : Path) : p.parent =
    ⟨String.ofList (p.parts.1 ++ joinNames (trimNames (trimNames p.parts.2).dropLast))⟩ := rfl

theorem parent_names_isPrefix (p : Path) :
    trimNames (trimNames p.parts.2).dropLast <+: p.parts.2 := by
  have hfront : (trimNames p.parts.2).dropLast <+: trimNames p.parts.2 := List.dropLast_prefix _
  exact (trimNames_isPrefix _).trans (hfront.trans (trimNames_isPrefix _))

theorem parts_fst_parent (p : Path) : p.parent.parts.1 = p.parts.1 := by
  rw [parts_fst, parent_eq, String.toList_ofList, beginning_parts p.parent_names_isPrefix]

theorem isAbsolute_parent (p : Path) : p.parent.isAbsolute = p.isAbsolute := by
  rw [isAbsolute_eq, isAbsolute_eq, parts_fst_parent]

/-- The path without its last name has the route without it. -/
theorem route_parent (p : Path) : p.parent.route = p.route.dropLast := by
  have hroute : p.parent.route = counting (trimNames p.parts.2).dropLast := by
    rw [parent_eq, route, String.toList_ofList, routeOf_parts p.parent_names_isPrefix,
      counting_trimNames]
  rcases p.trimNames_parts_cases with ⟨htrim, hnil⟩ | ⟨front, name, htrim, hconcat⟩
  · rw [hroute, htrim, hnil]
    rfl
  · rw [hroute, htrim, hconcat, List.dropLast_concat, List.dropLast_concat]

theorem route_parent_join (p : Path) {name : String} (h : IsEntryName name.toList) :
    (p.join name).parent.route = p.route := by
  rw [route_parent, route_join p h, List.dropLast_concat]

/-- Another last name takes the place of the one at the end of the route. -/
theorem route_withFileName (p : Path) {old name : String} (hold : IsEntryName old.toList)
    (hname : IsEntryName name.toList) :
    ((p.join old).withFileName name).route = p.route ++ [name.toList] := by
  rw [withFileName, fileName?_join p hold, if_pos Option.isSome_some, route_join _ hname,
    route_parent_join p hold]

/-! ## Components -/

/-- What a path is compared by: its beginning and the names that count for something. -/
def components (p : Path) : List Char × List (List Char) := (p.parts.1, counting p.parts.2)

theorem components_eq (p : Path) : p.components = (p.parts.1, p.route) := by
  rw [components, counting_parts]

theorem components_withFileName (p : Path) {old name : String} (hold : IsEntryName old.toList)
    (hname : IsEntryName name.toList) :
    ((p.join old).withFileName name).components = (p.join name).components := by
  rw [components_eq, components_eq, route_withFileName p hold hname, route_join p hname,
    withFileName, fileName?_join p hold, if_pos Option.isSome_some, parts_fst_join _ hname,
    parts_fst_parent, parts_fst_join p hold, parts_fst_join p hname]

/-! ## Stem and extension -/

theorem splitExtension_append {stem extension : List Char} (hstem : stem ≠ [])
    (hextension : '.' ∉ extension) :
    splitExtension (stem ++ '.' :: extension) = (stem, some extension) := by
  have hstop : ∀ c ∈ extension.reverse, (c != '.') = true := by
    intro c hc
    have hne : c ≠ '.' := fun heq => hextension (heq ▸ List.mem_reverse.mp hc)
    simpa using hne
  obtain ⟨c, before, hbefore⟩ := List.exists_cons_of_ne_nil (List.reverse_ne_nil_iff.mpr hstem)
  have hstem : stem = (c :: before).reverse := by rw [← hbefore, List.reverse_reverse]
  unfold splitExtension
  rw [List.reverse_append, List.reverse_cons, List.append_assoc, List.dropWhile_append_of_pos hstop,
    List.takeWhile_append_of_pos hstop, hbefore, hstem]
  simp

end ArchiveSearch.Path
