import ArchiveSearch.Proofs.Json.Scalar
import ArchiveSearch.Proofs.Json.Value

/-! # Texts of values

A text is read by way of its lexemes, and a value determines those of its texts, whether it is
written compactly or over several lines. The machine takes the lexemes of a value and ends with
the value, whatever frames are open. So a value reads back from both of its texts if its numbers
are integers, which the texts hold exactly.
-/

namespace ArchiveSearch.Json

/-! ## Lexemes of a value -/

mutual

/-- The lexemes of a value, in the order in which they are written. -/
def lexemes : Json → List Lexeme
  | .null => [.null]
  | .bool b => [.bool b]
  | .number n => [.number (some n)]
  | .string s => [.string (some s)]
  | .array items => .openArray :: [Lexeme.comma].intercalate (itemLexemes items) ++ [.closeArray]
  | .object entries =>
      .openObject :: [Lexeme.comma].intercalate (entryLexemes entries) ++ [.closeObject]

def itemLexemes : List Json → List (List Lexeme)
  | [] => []
  | v :: rest => lexemes v :: itemLexemes rest

def entryLexemes : List (String × Json) → List (List Lexeme)
  | [] => []
  | e :: rest => (.string (some e.1) :: .colon :: lexemes e.2) :: entryLexemes rest

end

theorem itemLexemes_eq_map (items : List Json) : itemLexemes items = items.map lexemes :=
  eq_map_of_cons rfl (fun _ _ => rfl) items

theorem entryLexemes_eq_map (entries : List (String × Json)) : entryLexemes entries =
    entries.map fun e => .string (some e.1) :: .colon :: lexemes e.2 :=
  eq_map_of_cons rfl (fun _ _ => rfl) entries

/-! ## The machine over the lexemes of a value -/

namespace Machine

/-- Takes lexemes one after the other. -/
def feed (m : Machine) (lexemes : List Lexeme) : Option Machine := lexemes.foldlM step m

theorem feed_cons (m : Machine) (l : Lexeme) (rest : List Lexeme) :
    m.feed (l :: rest) = (m.step l).bind fun next => next.feed rest := List.foldlM_cons

/-- Whether the machine takes the lexemes of a value, and nothing more, for the value. -/
def Takes (v : Json) : Prop :=
  ∀ frames rest, (value frames).feed (v.lexemes ++ rest) =
    (afterValue frames (.ofJson v)).feed rest

/-- The first item of an array is taken like every other one. -/
theorem feed_firstItem (v : Json) (items : List Json) (frames : List Frame) (rest : List Lexeme) :
    (firstItem frames).feed ([Lexeme.comma].intercalate ((v :: items).map lexemes) ++ rest) =
      (value (.items [] :: frames)).feed
        ([Lexeme.comma].intercalate ((v :: items).map lexemes) ++ rest) := by
  have hfirst (rest : List Lexeme) : (firstItem frames).feed (v.lexemes ++ rest) =
      (value (.items [] :: frames)).feed (v.lexemes ++ rest) := by
    cases v <;> rfl
  cases items with
  | nil =>
      rw [List.map_singleton, List.intercalate_singleton]
      exact hfirst rest
  | cons next items =>
      rw [List.map_cons, List.map_cons, List.intercalate_cons_cons]
      simp only [List.append_assoc]
      exact hfirst _

theorem feed_items {items : List Json} (hne : items ≠ []) (hitems : ∀ v ∈ items, Takes v)
    (before : List Written) (frames : List Frame) (rest : List Lexeme) :
    (value (.items before :: frames)).feed
        ([Lexeme.comma].intercalate (items.map lexemes) ++ .closeArray :: rest) =
      (afterValue frames (.array (before.reverse ++ items.map .ofJson))).feed rest := by
  -- The items that have been taken lie in the topmost frame, the last one first.
  induction items generalizing before with
  | nil => exact absurd rfl hne
  | cons v items ih =>
      have hfirst := hitems v List.mem_cons_self
      cases items with
      | nil =>
          rw [List.map_singleton, List.intercalate_singleton, hfirst, feed_cons]
          simp [step]
      | cons next items =>
          have hrest := ih (by simp) (fun u hu => hitems u (List.mem_cons_of_mem v hu))
            (.ofJson v :: before)
          rw [List.map_cons, List.map_cons, List.intercalate_cons_cons, List.append_assoc,
            List.append_assoc, hfirst, List.singleton_append, feed_cons]
          simpa [step] using hrest

/-- A name is expected, the first of an object or another one. -/
theorem feed_entries {entries : List (String × Json)} (hne : entries ≠ [])
    (hentries : ∀ e ∈ entries, Takes e.2) {m : Machine}
    (before : List (Option String × Written)) (frames : List Frame) (rest : List Lexeme)
    (hname : ∀ s, m.step (.string s) = some (colon frames before s)) :
    m.feed ([Lexeme.comma].intercalate
        (entries.map fun e => .string (some e.1) :: .colon :: e.2.lexemes) ++
          .closeObject :: rest) =
      (afterValue frames (.object (before.reverse ++
        entries.map fun e => (some e.1, .ofJson e.2)))).feed rest := by
  -- Behind a comma the machine is in another state than behind the bracket, so the induction is
  -- for every state that takes a name.
  induction entries generalizing m before with
  | nil => exact absurd rfl hne
  | cons e entries ih =>
      have hfirst := hentries e List.mem_cons_self
      cases entries with
      | nil =>
          rw [List.map_singleton, List.intercalate_singleton, List.cons_append, feed_cons, hname,
            Option.bind_some, List.cons_append, feed_cons]
          change (value (.entries before (some e.1) :: frames)).feed _ = _
          rw [hfirst, feed_cons]
          simp [step]
      | cons next entries =>
          have hrest := ih (by simp) (fun u hu => hentries u (List.mem_cons_of_mem e hu))
            (m := name frames ((some e.1, .ofJson e.2) :: before))
            ((some e.1, .ofJson e.2) :: before) fun s => rfl
          rw [List.map_cons, List.map_cons, List.intercalate_cons_cons, List.append_assoc,
            List.append_assoc, List.cons_append, feed_cons, hname, Option.bind_some,
            List.cons_append, feed_cons]
          change (value (.entries before (some e.1) :: frames)).feed _ = _
          rw [hfirst, List.singleton_append, feed_cons]
          simpa [step] using hrest

theorem takes (v : Json) : Takes v := by
  intro frames rest
  induction v generalizing frames rest with
  | null | bool b | number n | string s => rfl
  | array items ih =>
      rw [lexemes, itemLexemes_eq_map, Written.ofJson, Written.ofItems_eq_map, List.cons_append,
        List.cons_append, List.append_assoc, feed_cons]
      change (firstItem frames).feed _ = _
      cases items with
      | nil => rfl
      | cons v items =>
          rw [feed_firstItem]
          exact feed_items (List.cons_ne_nil v items) (fun u hu => ih u hu) [] frames rest
  | object entries ih =>
      rw [lexemes, entryLexemes_eq_map, Written.ofJson, Written.ofEntries_eq_map,
        List.cons_append, List.cons_append, List.append_assoc, feed_cons]
      change (firstName frames).feed _ = _
      cases entries with
      | nil => rfl
      | cons e entries =>
          exact feed_entries (List.cons_ne_nil e entries) (fun u hu => ih u hu) [] frames rest
            fun s => rfl

end Machine

/-! ## Lexemes of a text -/

/-- Whether a text is read as a list of lexemes, with spaces in front of them and behind. -/
inductive Spells : List Char → List Lexeme → Prop where
  | nil : Spells [] []
  | space {c : Char} {text : List Char} {lexemes : List Lexeme} (hc : isSpace c = true)
      (htext : Spells text lexemes) : Spells (c :: text) lexemes
  | lexeme {c : Char} {text after : List Char} {l : Lexeme} {lexemes : List Lexeme}
      (hc : isSpace c = false) (hread : readLexeme? c text = some (l, after))
      (hafter : Spells after lexemes) : Spells (c :: text) (l :: lexemes)

/-- The machine runs over a text as over its lexemes. -/
theorem Spells.run_eq {text : List Char} {lexemes : List Lexeme} (h : Spells text lexemes)
    (m : Machine) : m.run text = m.feed lexemes := by
  induction h generalizing m with
  | nil => rw [Machine.run, Machine.feed, List.foldlM_nil]; rfl
  | space hc htext ih => rw [Machine.run, if_pos hc, ih]
  | @lexeme c text after l lexemes hc hread hafter ih =>
      rw [Machine.run, if_neg (by simp [hc]), Machine.feed_cons]
      split
      next hnone => simp [hread] at hnone
      next l' after' hsome =>
        obtain ⟨rfl, rfl⟩ := Prod.mk.inj (Option.some.inj (hread.symm.trans hsome))
        cases hstep : m.step l with
        | none => rfl
        | some next => exact ih next

/-- Whether a text is read as a list of lexemes, whatever follows that does not go on a number. -/
def Writes (front : List Char) (lexemes : List Lexeme) : Prop :=
  ∀ text rest, (∀ c ∈ text.head?, Number.goesOn c = false) → Spells text rest →
    Spells (front ++ text) (lexemes ++ rest)

namespace Writes

theorem nil : Writes [] [] := fun _ _ _ htext => htext

/-- A text that begins with a lexeme of its own. -/
theorem cons {c : Char} {l : Lexeme} {front : List Char} {lexemes : List Lexeme}
    (hc : isSpace c = false) (hread : ∀ text, readLexeme? c text = some (l, text))
    (h : Writes front lexemes) : Writes (c :: front) (l :: lexemes) :=
  fun text rest hstop htext => .lexeme hc (hread _) (h text rest hstop htext)

theorem space {c : Char} {front : List Char} {lexemes : List Lexeme} (hc : isSpace c = true)
    (h : Writes front lexemes) : Writes (c :: front) lexemes :=
  fun text rest hstop htext => .space hc (h text rest hstop htext)

/-- One text behind another that does not go on a number at its end. -/
theorem append {front back : List Char} {lexemes further : List Lexeme}
    (hfront : Writes front lexemes) (hback : Writes back further) (hne : back ≠ [])
    (hstop : ∀ c ∈ back.head?, Number.goesOn c = false) :
    Writes (front ++ back) (lexemes ++ further) := by
  intro text rest htextStop htext
  rw [List.append_assoc, List.append_assoc]
  refine hfront _ _ ?_ (hback text rest htextStop htext)
  cases back with
  | nil => exact absurd rfl hne
  | cons c back => exact hstop

/-- Two texts with a comma between them. -/
theorem comma {front back : List Char} {lexemes further : List Lexeme}
    (hfront : Writes front lexemes) (hback : Writes back further) :
    Writes (front ++ ',' :: back) (lexemes ++ [.comma] ++ further) := by
  have hcomma : Writes (',' :: back) (.comma :: further) := .cons rfl (fun _ => rfl) hback
  rw [List.append_assoc]
  refine hfront.append hcomma (List.cons_ne_nil _ _) ?_
  rintro _ ⟨⟩
  rfl

/-- A text between two brackets. -/
theorem enclosed {c d : Char} {l m : Lexeme} {front : List Char} {lexemes : List Lexeme}
    (hc : isSpace c = false) (hopen : ∀ text, readLexeme? c text = some (l, text))
    (hd : isSpace d = false) (hclose : ∀ text, readLexeme? d text = some (m, text))
    (hstop : Number.goesOn d = false) (h : Writes front lexemes) :
    Writes (c :: front ++ [d]) (l :: lexemes ++ [m]) := by
  have hend : Writes [d] [m] := .cons hd hclose .nil
  refine (Writes.cons hc hopen h).append hend (List.cons_ne_nil _ _) ?_
  rintro _ ⟨⟩
  exact hstop

end Writes

section Layouts

variable {α : Type} {form : α → List Char} {content : α → List Lexeme} {entries : List α}

theorem writes_commaList (h : ∀ a ∈ entries, Writes (form a) (content a)) :
    Writes (commaList (entries.map form)) ([Lexeme.comma].intercalate (entries.map content)) := by
  induction entries with
  | nil => exact .nil
  | cons a entries ih =>
      have hfirst := h a List.mem_cons_self
      cases entries with
      | nil =>
          rw [List.map_singleton, List.map_singleton, List.intercalate_singleton]
          exact hfirst
      | cons b entries =>
          have hrest := ih fun d hd => h d (List.mem_cons_of_mem a hd)
          rw [List.map_cons, List.map_cons, commaList, List.map_cons, List.map_cons,
            List.intercalate_cons_cons]
          · exact hfirst.comma hrest
          · exact List.cons_ne_nil _ _

/-- A line break and an indentation are nothing but spaces. -/
theorem Writes.newLine {front : List Char} {lexemes : List Lexeme} (level : Nat)
    (h : Writes front lexemes) : Writes (newLine level ++ front) lexemes := by
  refine .space rfl ?_
  induction 2 * level with
  | zero => exact h
  | succ n ih => exact .space rfl ih

/-- Lines between two brackets, of which the second stands on a line of its own. -/
theorem Writes.block {c d : Char} {l m : Lexeme} {front : List Char} {lexemes : List Lexeme}
    {level : Nat} (hc : isSpace c = false) (hopen : ∀ text, readLexeme? c text = some (l, text))
    (hd : isSpace d = false) (hclose : ∀ text, readLexeme? d text = some (m, text))
    (h : Writes front lexemes) :
    Writes (c :: front ++ Json.newLine level ++ [d]) (l :: lexemes ++ [m]) := by
  have hend : Writes (Json.newLine level ++ [d]) [m] := (cons hd hclose nil).newLine level
  rw [List.append_assoc]
  refine (Writes.cons hc hopen h).append hend (List.cons_ne_nil _ _) ?_
  rintro _ ⟨⟩
  rfl

/-- Lines are items that begin with a line break. -/
theorem lineList_eq_commaList (level : Nat) (items : List (List Char)) :
    lineList level items = commaList (items.map (Json.newLine level ++ ·)) := by
  induction items with
  | nil => rfl
  | cons item items ih =>
      cases items with
      | nil => rfl
      | cons next items => simp [lineList, commaList, ih]

theorem writes_lineList (level : Nat) (h : ∀ a ∈ entries, Writes (form a) (content a)) :
    Writes (lineList level (entries.map form))
      ([Lexeme.comma].intercalate (entries.map content)) := by
  rw [lineList_eq_commaList, List.map_map]
  exact writes_commaList fun a ha => (h a ha).newLine level

end Layouts

/-! ## Scalars -/

theorem readLexeme?_number {c : Char} (hc : c = '-' ∨ c.isDigit = true) (text : List Char) :
    isSpace c = false ∧ readLexeme? c text =
      (Number.read? (c :: text)).map fun (value, rest) => (.number value, rest) := by
  have hother (d : Char) (hd : d ≠ '-') (hdigit : d.isDigit = false) : (c == d) = false := by
    rw [beq_eq_false_iff_ne]
    rintro rfl
    rcases hc with rfl | hc
    · exact hd rfl
    · exact absurd hc (by simp [hdigit])
  have hnumber : (c == '-' || c.isDigit) = true := by
    rcases hc with rfl | hc
    · rfl
    · rw [hc, Bool.or_true]
  constructor
  · simp [isSpace, hother]
  · simp [readLexeme?, hother, hnumber]

theorem writes_number {n : Number} (hn : n.IsInteger) :
    Writes n.text.toList [.number (some n)] := by
  intro text rest hstop htext
  cases n with
  | double x => exact hn.elim
  | integer i =>
      obtain ⟨c, digits, hform, hc⟩ := Number.exists_text_integer i
      have hread := Number.read?_text hn hstop
      rw [hform] at hread ⊢
      obtain ⟨hspace, hlexeme⟩ := readLexeme?_number hc (digits ++ text)
      have htake : readLexeme? c (digits ++ text) = some (.number (some (.integer i)), text) := by
        rw [hlexeme, ← List.cons_append, hread]
        rfl
      exact .lexeme hspace htake htext

theorem writes_string (s : String) : Writes (quote s) [.string (some s)] := by
  intro text rest hstop htext
  have hread : readLexeme? '"' (s.toList.flatMap escapeChar ++ '"' :: text) =
      some (.string (some s), text) := by
    have hlexeme (after : List Char) : readLexeme? '"' after =
        (readString? {} after).map fun read => (.string read.1, read.2) := rfl
    rw [hlexeme, readString?_quote]
    rfl
  rw [quote, List.append_assoc]
  exact .lexeme rfl hread htext

/-- An entry of an object: its name, a colon and its value. -/
theorem writes_entry (name : String) {front : List Char} {lexemes : List Lexeme}
    (h : Writes front lexemes) :
    Writes (quote name ++ ':' :: front) (.string (some name) :: .colon :: lexemes) := by
  have hcolon : Writes (':' :: front) (.colon :: lexemes) := .cons rfl (fun _ => rfl) h
  refine (writes_string name).append hcolon (List.cons_ne_nil _ _) ?_
  rintro _ ⟨⟩
  rfl

/-! ## Both forms of a value -/

theorem compactItems_eq_map (items : List Json) : compactItems items = items.map compact :=
  eq_map_of_cons rfl (fun _ _ => rfl) items

theorem compactEntries_eq_map (entries : List (String × Json)) :
    compactEntries entries = entries.map fun e => quote e.1 ++ ':' :: compact e.2 :=
  eq_map_of_cons rfl (fun _ _ => rfl) entries

theorem indentedItems_eq_map (level : Nat) (items : List Json) :
    indentedItems level items = items.map (indented level) :=
  eq_map_of_cons rfl (fun _ _ => rfl) items

theorem indentedEntries_eq_map (level : Nat) (entries : List (String × Json)) :
    indentedEntries level entries =
      entries.map fun e => quote e.1 ++ ':' :: ' ' :: indented level e.2 :=
  eq_map_of_cons rfl (fun _ _ => rfl) entries

/-- The compact form of a value is read as its lexemes. -/
theorem writes_compact {v : Json} (h : ∀ n ∈ v.numbers, n.IsInteger) :
    Writes v.compact v.lexemes := by
  induction v with
  | null => exact fun text rest hstop htext => .lexeme rfl rfl htext
  | bool b => cases b <;> exact fun text rest hstop htext => .lexeme rfl rfl htext
  | number n => exact writes_number (h n List.mem_cons_self)
  | string s => exact writes_string s
  | array items ih =>
      have hitems : ∀ v ∈ items, Writes v.compact v.lexemes := fun v hv =>
        ih v hv fun n hn => h n (mem_numbers_array.mpr ⟨v, hv, hn⟩)
      rw [compact, lexemes, compactItems_eq_map, itemLexemes_eq_map]
      exact .enclosed rfl (fun _ => rfl) rfl (fun _ => rfl) rfl (writes_commaList hitems)
  | object entries ih =>
      have hentries : ∀ e ∈ entries, Writes (quote e.1 ++ ':' :: compact e.2)
          (.string (some e.1) :: .colon :: e.2.lexemes) := fun e he =>
        writes_entry e.1 (ih e he fun n hn => h n (mem_numbers_object.mpr ⟨e, he, hn⟩))
      rw [compact, lexemes, compactEntries_eq_map, entryLexemes_eq_map]
      exact .enclosed rfl (fun _ => rfl) rfl (fun _ => rfl) rfl (writes_commaList hentries)

/-- The form of a value over several lines is read as the same lexemes. -/
theorem writes_indented {v : Json} (h : ∀ n ∈ v.numbers, n.IsInteger) (level : Nat) :
    Writes (v.indented level) v.lexemes := by
  induction v generalizing level with
  | null | bool b | number n | string s => exact writes_compact h
  | array items ih =>
      have hitems : ∀ v ∈ items, Writes (v.indented (level + 1)) v.lexemes := fun v hv =>
        ih v hv (fun n hn => h n (mem_numbers_array.mpr ⟨v, hv, hn⟩)) (level + 1)
      cases items with
      | nil => exact .enclosed rfl (fun _ => rfl) rfl (fun _ => rfl) rfl .nil
      | cons v items =>
          rw [indented, lexemes, indentedItems_eq_map, itemLexemes_eq_map]
          · exact .block rfl (fun _ => rfl) rfl (fun _ => rfl) (writes_lineList _ hitems)
          · exact List.cons_ne_nil v items
  | object entries ih =>
      have hentries : ∀ e ∈ entries, Writes (quote e.1 ++ ':' :: ' ' :: e.2.indented (level + 1))
          (.string (some e.1) :: .colon :: e.2.lexemes) := fun e he =>
        writes_entry e.1 (.space rfl
          (ih e he (fun n hn => h n (mem_numbers_object.mpr ⟨e, he, hn⟩)) (level + 1)))
      cases entries with
      | nil => exact .enclosed rfl (fun _ => rfl) rfl (fun _ => rfl) rfl .nil
      | cons e entries =>
          rw [indented, lexemes, indentedEntries_eq_map, entryLexemes_eq_map]
          · exact .block rfl (fun _ => rfl) rfl (fun _ => rfl) (writes_lineList _ hentries)
          · exact List.cons_ne_nil e entries

/-! ## Reading a value back -/

theorem Written.read?_of_writes {text : List Char} {v : Json} (h : Writes text v.lexemes) :
    Written.read? (String.ofList text) = some (.ofJson v) := by
  have hspells := h [] [] nofun .nil
  rw [List.append_nil] at hspells
  have hrun : (Machine.value []).run text = some (.afterValue [] (.ofJson v)) :=
    (hspells.run_eq _).trans (Machine.takes v [] [])
  rw [Written.read?, String.toList_ofList, hrun]
  rfl

theorem Written.read?_compactText {v : Json} (h : ∀ n ∈ v.numbers, n.IsInteger) :
    Written.read? v.compactText = some (.ofJson v) :=
  Written.read?_of_writes (writes_compact h)

theorem Written.read?_indentedText {v : Json} (h : ∀ n ∈ v.numbers, n.IsInteger) :
    Written.read? v.indentedText = some (.ofJson v) :=
  Written.read?_of_writes (writes_indented h 0)

end ArchiveSearch.Json
