import ArchiveSearch.Proofs.Json.Value

/-! # Records and dictionaries that are written

An object that holds every field of a record once is read as just these fields. A dictionary that
is written with its values, in whatever order, is read as the same dictionary, if every value is
read as it was.
-/

namespace ArchiveSearch.Json

/-! ## Orders of a dictionary -/

section Orders

variable {α : Type}

/-- Whether a value is the object of a dictionary, whose entries may stand in any order. -/
def IsDictionary (json : α → Json) (d : Dictionary α) (v : Json) : Prop :=
  ∃ entries : List (String × α),
    entries.Perm d.entries ∧ v = .object (entries.map fun e => (e.1, json e.2))

/-- The ascending order is one of them. -/
theorem isDictionary_ofDictionary (json : α → Json) (d : Dictionary α) :
    IsDictionary json d (.ofDictionary (d.map json)) :=
  ⟨d.entries, .refl d.entries, rfl⟩

theorem IsDictionary.mem_numbers {json : α → Json} {d : Dictionary α} {v : Json}
    (h : IsDictionary json d v) {n : Number} :
    n ∈ v.numbers ↔ ∃ e ∈ d.entries, n ∈ (json e.2).numbers := by
  obtain ⟨entries, hperm, rfl⟩ := h
  simp only [mem_numbers_object, ← hperm.mem_iff]
  constructor
  · rintro ⟨_, hentry, hn⟩
    obtain ⟨e, he, rfl⟩ := List.mem_map.mp hentry
    exact ⟨e, he, hn⟩
  · rintro ⟨e, he, hn⟩
    exact ⟨_, List.mem_map_of_mem he, hn⟩

end Orders

namespace Written

/-! ## Fields of a record -/

theorem lookUp?_ofEntries {entries : List (String × Json)} (hnodup : (entries.map (·.1)).Nodup)
    {e : String × Json} (he : e ∈ entries) :
    lookUp? (ofEntries entries) e.1 = some (some (ofJson e.2)) := by
  have hfilter : (ofEntries entries).filter (fun entry => entry.1 = some e.1) =
      [(some e.1, ofJson e.2)] := by
    rw [ofEntries_eq_map, List.filter_map]
    simpa [Function.comp_def] using congrArg (List.map fun e => (some e.1, ofJson e.2))
      (filter_key_eq_singleton hnodup he)
  rw [lookUp?, hfilter]

/-- The fields of an object that has each of them once, in their order. -/
theorem fields?_object {entries : List (String × Json)} (hnodup : (entries.map (·.1)).Nodup) :
    fields? (entries.map (·.1)) (ofJson (.object entries)) =
      some (entries.map fun e => some (ofJson e.2)) := by
  have hnames : (ofEntries entries).all (·.1.isSome) = true := by
    simp [ofEntries_eq_map]
  rw [ofJson, fields?, if_pos hnames, List.mapM_map]
  exact mapM_eq_some_map fun e he => lookUp?_ofEntries hnodup he

/-! ## Lists and dictionaries -/

section Readers

variable {α : Type} {read? : Written → Option α} {json : α → Json}

theorem list?_array {items : List α} (h : ∀ a ∈ items, read? (ofJson (json a)) = some a) :
    list? read? (ofJson (.array (items.map json))) = some items := by
  rw [ofJson, list?, ofItems_eq_map, List.map_map]
  exact mapM_map_eq_some h

/-- A dictionary whose values are read as they were is read as it was, in whatever order its entries
stand. -/
theorem dictionary?_of_isDictionary {d : Dictionary α} {v : Json} (hv : IsDictionary json d v)
    (h : ∀ e ∈ d.entries, read? (ofJson (json e.2)) = some e.2) :
    dictionary? read? (ofJson v) = some d := by
  obtain ⟨entries, hperm, rfl⟩ := hv
  have hentries : (ofEntries (entries.map fun e => (e.1, json e.2))).mapM (pair? read?) =
      some entries := by
    rw [ofEntries_eq_map, List.map_map]
    exact mapM_map_eq_some fun e he =>
      pair?_eq_some_iff.mpr ⟨rfl, h e (hperm.mem_iff.mp he)⟩
  rw [ofJson, dictionary?, hentries, Option.map_some, Dictionary.ofList_of_perm hperm]

/-- Every value of a dictionary was read from one that is written. -/
theorem exists_of_mem_dictionary? {w : Written} {d : Dictionary α}
    (h : dictionary? read? w = some d) {e : String × α} (he : e ∈ d.entries) :
    ∃ value, read? value = some e.2 := by
  cases w with
  | object entries =>
      obtain ⟨values, hvalues, rfl⟩ := Option.map_eq_some_iff.mp h
      obtain ⟨entry, -, hread⟩ := exists_of_mem_mapM hvalues (Dictionary.mem_of_mem_ofList he)
      exact ⟨entry.2, (pair?_eq_some_iff.mp hread).2⟩
  | _ => cases h

end Readers

end Written

end ArchiveSearch.Json
