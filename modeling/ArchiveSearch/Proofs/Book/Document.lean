import ArchiveSearch.Book.Document
import ArchiveSearch.Proofs.Item.Metadata

/-! # Documents that are written and read again

A book that was read from a document is written as a document that is read as the same book, and
so are metadata of their own. Only numbers that are no integers may come back changed.
-/

namespace ArchiveSearch

open Json (Number Written)

/-! ## The parts of a book -/

theorem Segment.read?_json (s : Segment) : Segment.read? (.ofJson s.json) = some s := by
  obtain ⟨content⟩ := s
  cases content <;> rfl

/-! ## Dictionaries in any order -/

/-- The values that texts may be written as: their items stand in any order. -/
def Texts.IsJson (texts : Texts) (v : Json) : Prop :=
  Json.IsDictionary (fun segments => .ofDictionary (segments.map Segment.json)) texts v

/-- The values that a table of contents may be written as: its items stand in any order. -/
def Contents.IsJson (c : Contents) (v : Json) : Prop :=
  Json.IsDictionary (fun children => .array (children.map .string)) c.table v

/-- The values that a book may be written as. Its metadata, its table of contents and its texts each
have their items in some order. -/
def Book.IsJson (b : Book) (v : Json) : Prop :=
  ∃ items contents texts, Json.IsDictionary Metadata.json b.items items ∧
    b.contents.IsJson contents ∧ Texts.IsJson b.texts texts ∧ v = b.jsonWith items contents texts

/-- Texts are saved in ascending order, which is one of those that they may be written in. -/
theorem Texts.isJson_json (texts : Texts) : Texts.IsJson texts (Texts.json texts) :=
  Json.isDictionary_ofDictionary _ texts

/-- A book is saved in ascending order, too. -/
theorem Book.isJson_json (b : Book) : b.IsJson b.json :=
  ⟨_, _, _, Json.isDictionary_ofDictionary _ b.items,
    Json.isDictionary_ofDictionary _ b.contents.table, Texts.isJson_json b.texts, rfl⟩

section Orders

variable {v : Json}

theorem Texts.read?_of_isJson {texts : Texts} (h : Texts.IsJson texts v) :
    Texts.read? (.ofJson v) = some texts := by
  refine Written.dictionary?_of_isDictionary h ?_
  intro segments _
  exact Written.dictionary?_of_isDictionary (Json.isDictionary_ofDictionary _ segments.2)
    fun s _ => s.2.read?_json

theorem Contents.read?_of_isJson {c : Contents} (h : c.IsJson v) :
    Contents.read? (.ofJson v) = some c := by
  have htable : Written.dictionary? (Written.list? Written.string?) (.ofJson v) = some c.table :=
    Written.dictionary?_of_isDictionary h fun _ _ => Written.list?_array fun _ _ => rfl
  rw [Contents.read?, htable, Option.map_some]

/-- There are no numbers in a table of contents. -/
theorem Contents.not_mem_numbers {c : Contents} (h : c.IsJson v) (n : Number) :
    n ∉ v.numbers := by
  rw [h.mem_numbers]
  rintro ⟨e, -, hn⟩
  obtain ⟨value, hvalue, hn⟩ := Json.mem_numbers_array.mp hn
  obtain ⟨child, -, rfl⟩ := List.mem_map.mp hvalue
  exact List.not_mem_nil hn

/-- There are no numbers in texts. -/
theorem Texts.not_mem_numbers {texts : Texts} (h : Texts.IsJson texts v) (n : Number) :
    n ∉ v.numbers := by
  rw [h.mem_numbers]
  rintro ⟨e, -, hn⟩
  rw [(Json.isDictionary_ofDictionary _ e.2).mem_numbers] at hn
  obtain ⟨⟨file, ⟨content⟩⟩, -, hn⟩ := hn
  cases content <;> exact List.not_mem_nil hn

/-- Texts of any kind are read as they were once they are written. -/
theorem Texts.ofText?_compactText {texts : Texts} (h : Texts.IsJson texts v) :
    Texts.ofText? v.compactText = some texts := by
  have hread : Written.read? v.compactText = some (.ofJson v) :=
    Written.read?_compactText fun n hn => absurd hn (Texts.not_mem_numbers h n)
  rw [Texts.ofText?, hread, Option.bind_some, Texts.read?_of_isJson h]

end Orders

namespace Book

/-! ## Books -/

/-- The numbers in the metadata of a book. -/
def numbers (b : Book) : List Number := b.items.entries.flatMap (·.2.numbers)

theorem IsJson.mem_numbers {b : Book} {v : Json} (hv : b.IsJson v) {n : Number}
    (h : n ∈ v.numbers) : n ∈ b.numbers := by
  obtain ⟨items, contents, texts, hitems, hcontents, htexts, rfl⟩ := hv
  rw [jsonWith, Json.mem_numbers_object] at h
  simpa [Json.numbers, hitems.mem_numbers, Metadata.mem_numbers_json, numbers,
    Contents.not_mem_numbers hcontents, Texts.not_mem_numbers htexts] using h

/-- What holds of the metadata of all books that have been read. -/
def Kept (b : Book) : Prop := ∀ e ∈ b.items.entries, e.2.Kept (Json.nestingLimit - 3)

theorem of_read? {w : Written} {b : Book} (h : read? w = some b) :
    b.Kept ∧ b.status = .current := by
  obtain ⟨fields, -, h⟩ := Option.bind_eq_some_iff.mp h
  split at h
  next id name hasNoTree items contents texts =>
    obtain ⟨id, -, h⟩ := Option.bind_eq_some_iff.mp h
    obtain ⟨name, -, h⟩ := Option.bind_eq_some_iff.mp h
    obtain ⟨hasNoTree, -, h⟩ := Option.bind_eq_some_iff.mp h
    obtain ⟨kept, hitems, h⟩ := Option.bind_eq_some_iff.mp h
    obtain ⟨contents, -, h⟩ := Option.bind_eq_some_iff.mp h
    obtain ⟨texts, -, h⟩ := Option.bind_eq_some_iff.mp h
    cases h
    refine ⟨fun e he => ?_, rfl⟩
    cases items with
    | none =>
        cases hitems
        exact absurd he List.not_mem_nil
    | some items =>
        obtain ⟨value, hvalue⟩ := Written.exists_of_mem_dictionary? hitems he
        exact Metadata.kept_of_read? hvalue
  next => cases h

/-- What is written is read as the same book, up to the status of its texts. -/
theorem Kept.read?_of_isJson {b : Book} (h : b.Kept) {v : Json} (hv : b.IsJson v) :
    read? (.ofJson v) = some { b with status := .current } := by
  obtain ⟨items, contents, texts, hitems, hcontents, htexts, rfl⟩ := hv
  have hfields : (Written.ofJson (b.jsonWith items contents texts)).fields? fieldNames =
      some [some (.string (some b.id)), some (.string (some b.name)), some (.bool b.hasNoTree),
        some (.ofJson items), some (.ofJson contents), some (.ofJson texts)] :=
    @Written.fields?_object [("id", .string b.id), ("name", .string b.name),
      ("no_tree", .bool b.hasNoTree), ("meta", items), ("toc", contents), ("fulltext", texts)]
      (by simp)
  have hread : Written.dictionary? (Metadata.read? (Json.nestingLimit - 2)) (.ofJson items) =
      some b.items :=
    Written.dictionary?_of_isDictionary hitems fun e he => (h e he).read?_json
  rw [read?, hfields]
  simp [Written.orElse?, hread, Contents.read?_of_isJson hcontents, Texts.read?_of_isJson htexts,
    Written.string?, Written.bool?]

theorem Kept.ofText?_indentedText {b : Book} (h : b.Kept)
    (hnumbers : ∀ n ∈ b.numbers, n.IsInteger) {v : Json} (hv : b.IsJson v) :
    ofText? v.indentedText = some { b with status := .current } := by
  have hread : Written.read? v.indentedText = some (.ofJson v) :=
    Written.read?_indentedText fun n hn => hnumbers n (hv.mem_numbers hn)
  rw [ofText?, hread, Option.bind_some, h.read?_of_isJson hv]

end Book

/-- A document that has been read is read as the same once it is written again: a book or texts, in
whatever order their items are written, and metadata of their own. -/
theorem ofText?_written (text : String) :
    (∀ b, Book.ofText? text = some b → (∀ n ∈ b.numbers, n.IsInteger) →
      ∀ v, b.IsJson v → Book.ofText? v.indentedText = some b) ∧
    (∀ texts, Texts.ofText? text = some texts →
      ∀ v, Texts.IsJson texts v → Texts.ofText? v.compactText = some texts) ∧
    ∀ m, Metadata.ofText? text = some m → (∀ n ∈ m.numbers, n.IsInteger) →
      Metadata.ofText? m.json.compactText = some m := by
  refine ⟨?_, ?_, ?_⟩
  · intro b hb hnumbers v hv
    obtain ⟨w, -, hread⟩ := Option.bind_eq_some_iff.mp hb
    obtain ⟨hkept, hstatus⟩ := Book.of_read? hread
    rw [hkept.ofText?_indentedText hnumbers hv, ← hstatus]
  · intro texts _ v hv
    exact Texts.ofText?_compactText hv
  · intro m hm hnumbers
    obtain ⟨w, -, hread⟩ := Option.bind_eq_some_iff.mp hm
    rw [Metadata.ofText?, Written.read?_compactText fun n hn =>
      hnumbers n (Metadata.mem_numbers_json.mp hn), Option.bind_some]
    exact (Metadata.kept_of_read? hread).read?_json

/-- The fields of a book in an array, with an escaped surrogate pair, and a name written twice. The
items of the book are written backwards. -/
theorem ofText?_written_lenient :
    (∃ b v, Book.ofText? ("[\"b\",\"B\",true,\x7b\"x\":\x7b\"tags\":[1,\"\\ud83d\\ude00\"]\x7d," ++
        "\"y\":\x7b\x7d\x7d,\x7b\"root\":[\"x\"],\"x\":[\"y\"]\x7d]") = some b ∧
      b.items.keys = ["x", "y"] ∧ (∀ n ∈ b.numbers, n.IsInteger) ∧ b.IsJson v ∧
      v = b.jsonWith (.object (b.items.entries.reverse.map fun e => (e.1, e.2.json)))
        b.contents.json (Texts.json b.texts) ∧
      Book.ofText? v.indentedText = some b) ∧
    (∃ texts, Texts.ofText? "\x7b\"x\":\x7b\"p\":[null]\x7d\x7d" = some texts ∧
      Texts.ofText? (Texts.json texts).compactText = some texts) ∧
    ∃ m, Metadata.ofText? "\x7b\"marked\":\"yes\",\"size\":0,\"size\":[18446744073709551615]\x7d" =
        some m ∧
      (∀ n ∈ m.numbers, n.IsInteger) ∧ Metadata.ofText? m.json.compactText = some m := by
  have hbook : (Book.ofText?
      ("[\"b\",\"B\",true,\x7b\"x\":\x7b\"tags\":[1,\"\\ud83d\\ude00\"]\x7d," ++
        "\"y\":\x7b\x7d\x7d,\x7b\"root\":[\"x\"],\"x\":[\"y\"]\x7d]")).any (fun b =>
        decide (b.items.keys = ["x", "y"] ∧ ∀ n ∈ b.numbers, n.IsInteger)) = true := by
    decide +kernel
  have htexts : (Texts.ofText? "\x7b\"x\":\x7b\"p\":[null]\x7d\x7d").isSome = true := by
    decide +kernel
  have hmetadata : (Metadata.ofText?
      "\x7b\"marked\":\"yes\",\"size\":0,\"size\":[18446744073709551615]\x7d").any
      (fun m => decide (∀ n ∈ m.numbers, n.IsInteger)) = true := by
    decide +kernel
  obtain ⟨b, hb, hbook⟩ := (Option.any_eq_true _ _).mp hbook
  obtain ⟨texts, htexts⟩ := Option.isSome_iff_exists.mp htexts
  obtain ⟨m, hm, hmetadata⟩ := (Option.any_eq_true _ _).mp hmetadata
  obtain ⟨hkeys, hnumbers⟩ := of_decide_eq_true hbook
  have hmetadata := of_decide_eq_true hmetadata
  have hv : b.IsJson (b.jsonWith (.object (b.items.entries.reverse.map fun e => (e.1, e.2.json)))
      b.contents.json (Texts.json b.texts)) :=
    ⟨_, _, _, ⟨_, List.reverse_perm _, rfl⟩, Json.isDictionary_ofDictionary _ b.contents.table,
      Texts.isJson_json b.texts, rfl⟩
  exact ⟨⟨b, _, hb, hkeys, hnumbers, hv, rfl, (ofText?_written _).1 b hb hnumbers _ hv⟩,
    ⟨texts, htexts, (ofText?_written _).2.1 texts htexts _ (Texts.isJson_json texts)⟩,
    ⟨m, hm, hmetadata, (ofText?_written _).2.2 m hm hmetadata⟩⟩

end ArchiveSearch
