import ArchiveSearch.Item.Metadata
import ArchiveSearch.Proofs.Json.Fields
import ArchiveSearch.Proofs.Json.Text

/-! # Metadata that are read

Metadata that have been read are kept: no other entry has the name of a field, and every value fits
the room that is left. Kept metadata are written as an object that is read as the same metadata,
since texts, `null` and flags stand for themselves.
-/

namespace ArchiveSearch.Metadata

open Json (Number Written Fits)

/-- The entries of the fields, in their order. -/
def fieldEntries (m : Metadata) : List (String × Json) :=
  [("title", .ofText? m.title), ("comment", .ofText? m.comment), ("source", .ofText? m.source),
    ("icon", .ofText? m.icon), ("type", .ofText? m.type), ("create", .ofText? m.create),
    ("modify", .ofText? m.modify), ("marked", .bool m.marked), ("locked", .bool m.locked)]

/-- What holds of all metadata that have been read with some room for their values. -/
structure Kept (room : Nat) (m : Metadata) : Prop where
  names : ∀ e ∈ m.extra.entries, e.1 ∉ fieldNames
  fits : ∀ e ∈ m.extra.entries, Fits room e.2

theorem kept_of_ofEntries? {room : Nat} {entries : List (String × Json)} {m : Metadata}
    (hentries : ∀ e ∈ entries, Fits room e.2) (h : ofEntries? entries = some m) : Kept room m := by
  unfold ofEntries? at h
  split at h
  next =>
    cases h
    have hextra : ∀ e ∈ (Dictionary.ofList
        (entries.filter fun entry => !fieldNames.contains entry.1)).entries,
        e ∈ entries ∧ e.1 ∉ fieldNames := by
      intro e he
      have hmem := Dictionary.mem_of_mem_ofList he
      simpa using List.mem_filter.mp hmem
    exact ⟨fun e he => (hextra e he).2, fun e he => hentries e (hextra e he).1⟩
  next => cases h

theorem kept_of_read? {room : Nat} {w : Written} {m : Metadata} (h : read? (room + 1) w = some m) :
    Kept room m := by
  cases w with
  | object entries =>
      obtain ⟨values, hvalues, hm⟩ := Option.bind_eq_some_iff.mp h
      refine kept_of_ofEntries? (fun e he => ?_) hm
      rw [Written.valueEntries?_eq_mapM] at hvalues
      obtain ⟨entry, -, hread⟩ := Json.exists_of_mem_mapM hvalues he
      exact Json.fits_of_value? (Written.pair?_eq_some_iff.mp hread).2
  | _ => cases h

theorem json_eq (m : Metadata) : m.json = .object (m.fieldEntries ++ m.extra.entries) := rfl

theorem fits_fieldEntries (m : Metadata) (room : Nat) : ∀ e ∈ m.fieldEntries, Fits room e.2 := by
  have htext : ∀ s, Fits room (.ofText? s) := by
    intro s
    cases s with
    | none => exact .null
    | some s => exact .string s
  simp [fieldEntries, htext, Fits.bool]

/-- The entries with the name of a field are its own. -/
theorem Kept.filter_name {room : Nat} {m : Metadata} (h : Kept room m) {name : String}
    (hname : name ∈ fieldNames) :
    (m.fieldEntries ++ m.extra.entries).filter (fun e => e.1 = name) =
      m.fieldEntries.filter fun e => e.1 = name := by
  have hextra : m.extra.entries.filter (fun e => e.1 = name) = [] := by
    rw [List.filter_eq_nil_iff]
    intro e he heq
    exact h.names e he (of_decide_eq_true heq ▸ hname)
  rw [List.filter_append, hextra, List.append_nil]

theorem Kept.filter_extra {room : Nat} {m : Metadata} (h : Kept room m) :
    (m.fieldEntries ++ m.extra.entries).filter (fun e => !fieldNames.contains e.1) =
      m.extra.entries := by
  have hextra : m.extra.entries.filter (fun e => !fieldNames.contains e.1) = m.extra.entries := by
    rw [List.filter_eq_self]
    intro e he
    simpa using h.names e he
  rw [List.filter_append, hextra]
  rfl

/-- Texts and flags stand for themselves. -/
theorem Kept.ofEntries? {room : Nat} {m : Metadata} (h : Kept room m) :
    Metadata.ofEntries? (m.fieldEntries ++ m.extra.entries) = some m := by
  have hunique : fieldNames.all (fun name => ((m.fieldEntries ++ m.extra.entries).filter
      fun entry => entry.1 = name).length ≤ 1) = true := by
    rw [List.all_eq_true]
    intro name hname
    rw [h.filter_name hname]
    revert name
    simp [fieldNames, fieldEntries]
  have hvalue : ∀ name ∈ fieldNames,
      (Dictionary.ofList (m.fieldEntries ++ m.extra.entries)).find? name =
        ((m.fieldEntries.filter fun e => e.1 = name).getLast?).map (·.2) := by
    intro name hname
    rw [Dictionary.find?_ofList, h.filter_name hname]
  have hasText? : ∀ s, (Json.ofText? s).asText? = s := by
    intro s
    cases s <;> rfl
  rw [Metadata.ofEntries?, if_pos hunique, h.filter_extra, Dictionary.ofList_entries]
  simp only [fieldNames, List.forall_mem_cons] at hvalue
  simp only [ofValues, hvalue]
  simp [fieldEntries, hasText?, Json.isSet]

/-- What is written is read in the same room as the same metadata. -/
theorem Kept.read?_json {room : Nat} {m : Metadata} (h : Kept room m) :
    read? (room + 1) (.ofJson m.json) = some m := by
  have hvalues : Written.valueEntries? room
      (Written.ofEntries (m.fieldEntries ++ m.extra.entries)) =
        some (m.fieldEntries ++ m.extra.entries) := by
    apply Json.valueEntries?_ofEntries
    intro e he
    rcases List.mem_append.mp he with he | he
    · exact (m.fits_fieldEntries room e he).value?_ofJson
    · exact (h.fits e he).value?_ofJson
  rw [json_eq, Written.ofJson, read?, hvalues, Option.bind_some, h.ofEntries?]

/-- The numbers in metadata. -/
def numbers (m : Metadata) : List Number := m.extra.entries.flatMap (·.2.numbers)

theorem mem_numbers_json {m : Metadata} {n : Number} : n ∈ m.json.numbers ↔ n ∈ m.numbers := by
  have htext : ∀ s, (Json.ofText? s).numbers = [] := by
    intro s
    cases s <;> rfl
  have hfields : ∀ e ∈ m.fieldEntries, e.2.numbers = [] := by
    simp [fieldEntries, htext, Json.numbers]
  rw [json_eq, Json.mem_numbers_object, numbers, List.mem_flatMap]
  constructor
  · rintro ⟨e, he, hn⟩
    rcases List.mem_append.mp he with he | he
    · rw [hfields e he] at hn
      exact absurd hn List.not_mem_nil
    · exact ⟨e, he, hn⟩
  · rintro ⟨e, he, hn⟩
    exact ⟨e, List.mem_append_right _ he, hn⟩

end ArchiveSearch.Metadata
