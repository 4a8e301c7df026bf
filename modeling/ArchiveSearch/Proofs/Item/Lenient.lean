import ArchiveSearch.Item.Metadata
import ArchiveSearch.Proofs.Json.Text
import Mathlib.Data.List.Forall2

/-! # Metadata of any object

Every object that is a value holds metadata, as long as it repeats none of their fields. A name is
read from its last entry, in the same way whether it is a field, which becomes a text when the
object is read, or any other name, which does so when it is asked for. The two flags tell whether
their values count as set.
-/

namespace ArchiveSearch

open Json (Written)

/-! ## Values as texts and flags -/

namespace Json

theorem asText?_eq_none_iff {v : Json} : v.asText? = none ↔ v = .null := by
  cases v <;> simp [asText?]

theorem asText?_of_ne {v : Json} (hnull : v ≠ .null) (hstring : ∀ s, v ≠ .string s) :
    v.asText? = some v.compactText := by
  cases v with
  | null => exact absurd rfl hnull
  | string s => exact absurd rfl (hstring s)
  | bool b | number n | array items | object entries => rfl

theorem isSet_iff {v : Json} :
    v.isSet = true ↔ v ≠ .null ∧ v ≠ .bool false ∧ (∀ n, v = .number n → n.isZero = false) ∧
      v ≠ .string "" := by
  cases v <;> simp [isSet]

end Json

/-! ## The last entry of a name -/

namespace Json.Written

/-- The value that the last entry of a name has in an object of its own. -/
def lastValue? (entries : List (Option String × Written)) (name : String) : Option Json :=
  ((entries.filter fun e => e.1 = some name).getLast?).bind fun e =>
    e.2.value? (nestingLimit - 1)

/-- Whether an entry has been read as another one. -/
def IsReadAs (room : Nat) (entry : Option String × Written) (e : String × Json) : Prop :=
  entry.1 = some e.1 ∧ entry.2.value? room = some e.2

theorem forall₂_of_valueEntries? {room : Nat} {entries : List (Option String × Written)}
    {values : List (String × Json)} (h : valueEntries? room entries = some values) :
    List.Forall₂ (IsReadAs room) entries values := by
  rw [valueEntries?_eq_mapM] at h
  induction entries generalizing values with
  | nil =>
      cases h
      exact .nil
  | cons entry entries ih =>
      rw [List.mapM_cons] at h
      obtain ⟨e, he, h⟩ := Option.bind_eq_some_iff.mp h
      obtain ⟨rest, hrest, h⟩ := Option.bind_eq_some_iff.mp h
      cases h
      exact .cons (pair?_eq_some_iff.mp he) (ih hrest)

/-- The entries of a name are read as the values of the name. -/
theorem forall₂_filter {room : Nat} {entries : List (Option String × Written)}
    {values : List (String × Json)} (h : List.Forall₂ (IsReadAs room) entries values)
    (name : String) :
    List.Forall₂ (IsReadAs room) (entries.filter fun entry => entry.1 = some name)
      (values.filter fun e => e.1 = name) := by
  refine List.rel_filter ?_ h
  rintro entry e ⟨hname, -⟩
  simp [hname]

theorem getLast?_of_forall₂ {α β : Type} {R : α → β → Prop} {as : List α} {bs : List β}
    (h : List.Forall₂ R as bs) : Option.Rel R as.getLast? bs.getLast? := by
  rw [List.getLast?_eq_head?_reverse, List.getLast?_eq_head?_reverse]
  have hreverse := List.rel_reverse h
  generalize as.reverse = as at hreverse ⊢
  generalize bs.reverse = bs at hreverse ⊢
  cases hreverse with
  | nil => exact .none
  | cons hlast _ => exact .some hlast

/-- The value of a name is the one that the object of all values has under it. -/
theorem lastValue?_eq {entries : List (Option String × Written)} {values : List (String × Json)}
    (h : valueEntries? (nestingLimit - 1) entries = some values) (name : String) :
    lastValue? entries name = (Dictionary.ofList values).find? name := by
  have hlast := getLast?_of_forall₂ (forall₂_filter (forall₂_of_valueEntries? h) name)
  rw [lastValue?, Dictionary.find?_ofList]
  generalize (entries.filter fun entry => entry.1 = some name).getLast? = entry? at hlast ⊢
  generalize (values.filter fun e => e.1 = name).getLast? = e? at hlast ⊢
  cases hlast with
  | none => rfl
  | some hread => exact hread.2

theorem lastValue?_eq_none_iff {entries : List (Option String × Written)}
    {values : List (String × Json)}
    (h : valueEntries? (nestingLimit - 1) entries = some values) {name : String} :
    lastValue? entries name = none ↔ ∀ e ∈ entries, e.1 ≠ some name := by
  have hread := forall₂_filter (forall₂_of_valueEntries? h) name
  have hlength := hread.length_eq
  rw [lastValue?_eq h, Dictionary.find?_ofList, Option.map_eq_none_iff, List.getLast?_eq_none_iff,
    ← List.length_eq_zero_iff, ← hlength, List.length_eq_zero_iff, List.filter_eq_nil_iff]
  simp

end Json.Written

/-! ## Fields and other names -/

namespace Metadata

/-- The names of the flags. -/
def flagNames : List String := ["marked", "locked"]

variable {values : List (String × Json)} {name : String}

theorem ofEntries?_of_unique (h : ∀ name ∈ fieldNames,
    (values.filter fun e => e.1 = name).length ≤ 1) :
    ofEntries? values = some (ofValues
      (fun name => ((Dictionary.ofList values).find? name).getD .null)
      (.ofList (values.filter fun e => !fieldNames.contains e.1))) := by
  apply if_pos
  rw [List.all_eq_true]
  intro name hname
  exact decide_eq_true (h name hname)

/-- Names that are not those of fields are left out of the other entries only. -/
theorem find?_extra (hname : name ∉ fieldNames) :
    (Dictionary.ofList (values.filter fun e => !fieldNames.contains e.1)).find? name =
      (Dictionary.ofList values).find? name := by
  rw [Dictionary.find?_ofList, Dictionary.find?_ofList, List.filter_filter]
  congr 2
  apply List.filter_congr
  rintro e -
  by_cases he : e.1 = name
  · simp [he, hname]
  · simp [he]

/-- A name that is not that of a flag is read as a text, whether it is a field or not. -/
theorem field?_ofValues (d : Dictionary Json) (hflag : name ∉ flagNames) {extra : Dictionary Json}
    (hextra : name ∉ fieldNames → extra.find? name = d.find? name) :
    (ofValues (fun name => (d.find? name).getD .null) extra).field? name =
      (d.find? name).bind Json.asText? := by
  have hvalue (value? : Option Json) : (value?.getD .null).asText? = value?.bind Json.asText? := by
    cases value? <;> rfl
  unfold field?
  split
  case h_1 | h_2 | h_3 | h_4 | h_5 | h_6 | h_7 => exact hvalue _
  next => exact absurd (by decide) hflag
  next => exact absurd (by decide) hflag
  next htitle hcomment hsource hicon htype hcreate hmodify hmarked hlocked =>
    have hname : name ∉ fieldNames := by
      simp only [fieldNames, List.mem_cons, List.not_mem_nil, or_false, not_or]
      exact ⟨htitle, hcomment, hsource, hicon, htype, hcreate, hmodify, hmarked, hlocked⟩
    rw [← hextra hname]
    rfl

theorem flagText?_eq_some_iff {flag : Bool} : flagText? flag = some "true" ↔ flag = true := by
  cases flag <;> simp [flagText?]

theorem flagText?_cases (flag : Bool) : flagText? flag = none ∨ flagText? flag = some "true" := by
  cases flag
  · exact .inl rfl
  · exact .inr rfl

theorem field?_flag_ofValues (value : String → Json) (extra : Dictionary Json)
    (hflag : name ∈ flagNames) :
    (ofValues value extra).field? name = flagText? (value name).isSet := by
  simp only [flagNames, List.mem_cons, List.not_mem_nil, or_false] at hflag
  rcases hflag with rfl | rfl <;> rfl

/-- Metadata are read from all values of an object that repeats no field. -/
theorem exists_ofText? {text : String} {entries : List (Option String × Written)} {value : Json}
    (hobject : Written.read? text = some (.object entries)) (hvalue : Json.read? text = some value)
    (hunique : ∀ name ∈ fieldNames, (entries.filter fun e => e.1 = some name).length ≤ 1) :
    ∃ values, Written.valueEntries? (Json.nestingLimit - 1) entries = some values ∧
      ofText? text = some (ofValues
        (fun name => ((Dictionary.ofList values).find? name).getD .null)
        (.ofList (values.filter fun e => !fieldNames.contains e.1))) := by
  rw [Json.read?, hobject] at hvalue
  obtain ⟨values, hvalues, -⟩ := Option.map_eq_some_iff.mp hvalue
  change Written.valueEntries? (Json.nestingLimit - 1) entries = some values at hvalues
  have hread := Written.forall₂_of_valueEntries? hvalues
  refine ⟨values, hvalues, ?_⟩
  rw [ofText?, hobject]
  change (Written.valueEntries? (Json.nestingLimit - 1) entries).bind ofEntries? = _
  rw [hvalues]
  apply ofEntries?_of_unique
  intro name hname
  rw [← (Written.forall₂_filter hread name).length_eq]
  exact hunique name hname

/-- An object that is a value holds metadata, whatever the values of its entries are. All names but
those of the flags are read from their last entries in one way, and a flag is set or not. -/
theorem ofText?_lenient {text : String} {entries : List (Option String × Written)} {value : Json}
    (hobject : Written.read? text = some (.object entries)) (hvalue : Json.read? text = some value)
    (hunique : ∀ name ∈ fieldNames, (entries.filter fun e => e.1 = some name).length ≤ 1) :
    ∃ m, ofText? text = some m ∧
      (∀ name ∉ flagNames,
        (m.field? name = none ↔ (∀ e ∈ entries, e.1 ≠ some name) ∨
          Written.lastValue? entries name = some .null) ∧
        (∀ s, Written.lastValue? entries name = some (.string s) → m.field? name = some s) ∧
        (∀ v, Written.lastValue? entries name = some v → v ≠ .null → (∀ s, v ≠ .string s) →
          m.field? name = some v.compactText)) ∧
      ∀ name ∈ flagNames,
        (m.field? name = some "true" ↔ ∃ v, Written.lastValue? entries name = some v ∧ v ≠ .null ∧
          v ≠ .bool false ∧ (∀ n, v = .number n → n.isZero = false) ∧ v ≠ .string "") ∧
        (m.field? name = none ∨ m.field? name = some "true") := by
  obtain ⟨values, hvalues, hm⟩ := exists_ofText? hobject hvalue hunique
  refine ⟨_, hm, ?_, ?_⟩
  · intro name hname
    rw [field?_ofValues _ hname find?_extra, ← Written.lastValue?_eq hvalues,
      ← Written.lastValue?_eq_none_iff hvalues]
    refine ⟨?_, ?_, ?_⟩
    · cases Written.lastValue? entries name with
      | none => simp
      | some v => simp [Json.asText?_eq_none_iff]
    · intro s hs
      rw [hs]
      rfl
    · intro v hv hnull hstring
      rw [hv]
      exact Json.asText?_of_ne hnull hstring
  · intro name hname
    rw [field?_flag_ofValues _ _ hname, ← Written.lastValue?_eq hvalues]
    constructor
    · rw [flagText?_eq_some_iff]
      cases Written.lastValue? entries name with
      | none => simp [Json.isSet]
      | some v => simp [Json.isSet_iff]
    · exact flagText?_cases _

/-- A title that is an array, flags that are not truth values, and a name written twice. -/
theorem ofText?_lenient_loose :
    let v : Json := .object [("n", .null), ("title", .array [.number (.integer 1), .null]),
      ("marked", .number (.integer 0)), ("locked", .array []),
      ("n", .object [("b", .string "\""), ("a", .bool true)])]
    ∃ m, ofText? v.compactText = some m ∧ m.field? "title" = some "[1,null]" ∧
      m.field? "n" = some "\x7b\"a\":true,\"b\":\"\\\"\"\x7d" ∧ m.field? "marked" = none ∧
      m.field? "locked" = some "true" ∧ m.field? "source" = none := by
  intro v
  have hread : Written.read? v.compactText = some (.ofJson v) :=
    Written.read?_compactText (by decide)
  have hvalue : (Json.read? v.compactText).isSome = true := by
    rw [Json.read?, hread]
    rfl
  obtain ⟨value, hvalue⟩ := Option.isSome_iff_exists.mp hvalue
  obtain ⟨m, hm, hnames, hflags⟩ := ofText?_lenient hread hvalue (by decide)
  obtain ⟨-, -, htitle⟩ := hnames "title" (by decide)
  obtain ⟨-, -, hname⟩ := hnames "n" (by decide)
  obtain ⟨hsource, -, -⟩ := hnames "source" (by decide)
  obtain ⟨hmarked, hunset⟩ := hflags "marked" (by decide)
  obtain ⟨hlocked, -⟩ := hflags "locked" (by decide)
  refine ⟨m, hm, htitle _ rfl nofun nofun, hname _ rfl nofun nofun, ?_, ?_, ?_⟩
  · apply hunset.resolve_right
    intro hset
    obtain ⟨v, hv, -, -, hnumber, -⟩ := hmarked.mp hset
    cases hv
    exact absurd (hnumber _ rfl) (by decide)
  · exact hlocked.mpr ⟨_, rfl, nofun, nofun, nofun, nofun⟩
  · exact hsource.mpr (.inl (by decide))

end Metadata

end ArchiveSearch
