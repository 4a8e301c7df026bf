import ArchiveSearch.Json.Fields
import ArchiveSearch.Proofs.Dictionary

/-! # Values that are read

A value that has been read fits the room that it was read in: it nests no deeper, and the names of
its objects ascend. Such a value stays the same when it is taken as a written value and read again
in the same room.
-/

namespace ArchiveSearch.Json

/-! ## Induction over values -/

/-- A property of all values: the items of an array and the values of an object come first. -/
@[elab_as_elim, induction_eliminator]
theorem induction {motive : Json → Prop} (null : motive .null) (bool : ∀ b, motive (.bool b))
    (number : ∀ n, motive (.number n)) (string : ∀ s, motive (.string s))
    (array : ∀ items, (∀ v ∈ items, motive v) → motive (.array items))
    (object : ∀ entries, (∀ e ∈ entries, motive e.2) → motive (.object entries)) (v : Json) :
    motive v :=
  @Json.rec motive (fun items => ∀ v ∈ items, motive v) (fun entries => ∀ e ∈ entries, motive e.2)
    (fun e => motive e.2) null bool number string array object nofun
    (fun _ _ hfirst hrest => List.forall_mem_cons.mpr ⟨hfirst, hrest⟩) nofun
    (fun _ _ hfirst hrest => List.forall_mem_cons.mpr ⟨hfirst, hrest⟩) (fun _ _ h => h) v

/-- The same for values as they stand in a text. -/
@[elab_as_elim, induction_eliminator]
theorem Written.induction {motive : Written → Prop} (null : motive .null)
    (bool : ∀ b, motive (.bool b)) (number : ∀ n, motive (.number n))
    (string : ∀ s, motive (.string s))
    (array : ∀ items, (∀ w ∈ items, motive w) → motive (.array items))
    (object : ∀ entries, (∀ e ∈ entries, motive e.2) → motive (.object entries)) (w : Written) :
    motive w :=
  @Written.rec motive (fun items => ∀ w ∈ items, motive w)
    (fun entries => ∀ e ∈ entries, motive e.2) (fun e => motive e.2) null bool number string array
    object nofun (fun _ _ hfirst hrest => List.forall_mem_cons.mpr ⟨hfirst, hrest⟩) nofun
    (fun _ _ hfirst hrest => List.forall_mem_cons.mpr ⟨hfirst, hrest⟩) (fun _ _ h => h) w

/-! ## Lists that are read item by item -/

section Lists

variable {α β : Type}

theorem eq_map_of_cons {f : List α → List β} {g : α → β} (hnil : f [] = [])
    (hcons : ∀ a rest, f (a :: rest) = g a :: f rest) (items : List α) : f items = items.map g := by
  induction items with
  | nil => exact hnil
  | cons a items ih => rw [hcons, ih, List.map_cons]

theorem mapM_eq_some_map {read? : β → Option α} {result : β → α} {written : List β}
    (h : ∀ b ∈ written, read? b = some (result b)) :
    written.mapM read? = some (written.map result) := by
  induction written with
  | nil => rfl
  | cons b written ih =>
      rw [List.mapM_cons, h b List.mem_cons_self, ih fun c hc => h c (List.mem_cons_of_mem b hc)]
      rfl

/-- Reading item by item what was written item by item. -/
theorem mapM_map_eq_some {read? : β → Option α} {write : α → β} {items : List α}
    (h : ∀ a ∈ items, read? (write a) = some a) : (items.map write).mapM read? = some items := by
  rw [List.mapM_map]
  exact (mapM_eq_some_map h).trans (congrArg some (List.map_id items))

/-- Every item of a list that was read item by item was read from one. -/
theorem exists_of_mem_mapM {read? : β → Option α} {written : List β} {items : List α}
    (h : written.mapM read? = some items) {a : α} (ha : a ∈ items) :
    ∃ b ∈ written, read? b = some a := by
  induction written generalizing items with
  | nil =>
      rw [List.mapM_nil] at h
      cases h
      exact absurd ha List.not_mem_nil
  | cons b written ih =>
      rw [List.mapM_cons] at h
      obtain ⟨first, hfirst, h⟩ := Option.bind_eq_some_iff.mp h
      obtain ⟨rest, hrest, h⟩ := Option.bind_eq_some_iff.mp h
      cases h
      rcases List.mem_cons.mp ha with rfl | ha
      · exact ⟨b, List.mem_cons_self, hfirst⟩
      · obtain ⟨c, hc, hread⟩ := ih hrest ha
        exact ⟨c, List.mem_cons_of_mem b hc, hread⟩

end Lists

namespace Written

theorem ofItems_eq_map (items : List Json) : ofItems items = items.map ofJson :=
  eq_map_of_cons rfl (fun _ _ => rfl) items

theorem ofEntries_eq_map (entries : List (String × Json)) :
    ofEntries entries = entries.map fun e => (some e.1, ofJson e.2) :=
  eq_map_of_cons rfl (fun _ _ => rfl) entries

theorem valueItems?_eq_mapM (room : Nat) (items : List Written) :
    valueItems? room items = items.mapM (value? room) := by
  induction items with
  | nil => rfl
  | cons w items ih => rw [valueItems?, ih, List.mapM_cons]

theorem valueEntries?_eq_mapM (room : Nat) (entries : List (Option String × Written)) :
    valueEntries? room entries = entries.mapM (pair? (value? room)) := by
  induction entries with
  | nil => rfl
  | cons e entries ih =>
      obtain ⟨name, w⟩ := e
      rw [valueEntries?, ih, List.mapM_cons]
      cases name with
      | none => rfl
      | some name =>
          cases hvalue : value? room w with
          | none => simp [pair?, hvalue]
          | some v => simp [pair?, hvalue]

theorem pair?_eq_some_iff {α : Type} {read? : Written → Option α}
    {entry : Option String × Written} {e : String × α} :
    pair? read? entry = some e ↔ entry.1 = some e.1 ∧ read? entry.2 = some e.2 := by
  obtain ⟨name, w⟩ := entry
  obtain ⟨key, value⟩ := e
  cases name <;> cases hread : read? w <;> simp [pair?, hread]

end Written

/-! ## Room -/

/-- Whether a value fits a room: no more than `room` arrays and objects contain one another, and
the names of every object ascend. -/
inductive Fits : Nat → Json → Prop where
  | null {room : Nat} : Fits room .null
  | bool {room : Nat} (b : Bool) : Fits room (.bool b)
  | number {room : Nat} (n : Number) : Fits room (.number n)
  | string {room : Nat} (s : String) : Fits room (.string s)
  | array {room : Nat} {items : List Json} (hitems : ∀ v ∈ items, Fits room v) :
      Fits (room + 1) (.array items)
  | object {room : Nat} {entries : List (String × Json)} (hascending : Ascending entries)
      (hentries : ∀ e ∈ entries, Fits room e.2) : Fits (room + 1) (.object entries)

/-- What is read in a room fits it. -/
theorem fits_of_value? {w : Written} {room : Nat} {v : Json} (h : w.value? room = some v) :
    Fits room v := by
  induction w generalizing room v with
  | null =>
      cases h
      exact .null
  | bool b =>
      cases h
      exact .bool b
  | number n =>
      obtain ⟨n, -, rfl⟩ := Option.map_eq_some_iff.mp h
      exact .number n
  | string s =>
      obtain ⟨s, -, rfl⟩ := Option.map_eq_some_iff.mp h
      exact .string s
  | array items ih =>
      cases room with
      | zero => cases h
      | succ room =>
          rw [Written.value?, Written.valueItems?_eq_mapM] at h
          obtain ⟨values, hvalues, rfl⟩ := Option.map_eq_some_iff.mp h
          refine .array fun v hv => ?_
          obtain ⟨w, hw, hread⟩ := exists_of_mem_mapM hvalues hv
          exact ih w hw hread
  | object entries ih =>
      cases room with
      | zero => cases h
      | succ room =>
          rw [Written.value?, Written.valueEntries?_eq_mapM] at h
          obtain ⟨values, hvalues, rfl⟩ := Option.map_eq_some_iff.mp h
          refine .object (Dictionary.ofList values).ascending fun e he => ?_
          obtain ⟨entry, hentry, hread⟩ :=
            exists_of_mem_mapM hvalues (Dictionary.mem_of_mem_ofList he)
          exact ih entry hentry (Written.pair?_eq_some_iff.mp hread).2

theorem valueEntries?_ofEntries {room : Nat} {entries : List (String × Json)}
    (h : ∀ e ∈ entries, (Written.ofJson e.2).value? room = some e.2) :
    Written.valueEntries? room (Written.ofEntries entries) = some entries := by
  rw [Written.valueEntries?_eq_mapM, Written.ofEntries_eq_map]
  exact mapM_map_eq_some fun e he => Written.pair?_eq_some_iff.mpr ⟨rfl, h e he⟩

/-- A value that fits a room is read in it as it is. -/
theorem Fits.value?_ofJson {room : Nat} {v : Json} (h : Fits room v) :
    (Written.ofJson v).value? room = some v := by
  induction h with
  | null | bool b | number n | string s => rfl
  | array hitems ih =>
      rw [Written.ofJson, Written.value?, Written.valueItems?_eq_mapM, Written.ofItems_eq_map,
        mapM_map_eq_some ih]
      rfl
  | object hascending hentries ih =>
      rw [Written.ofJson, Written.value?, valueEntries?_ofEntries ih, Option.map_some,
        Json.ofEntries, ofDictionary, Dictionary.entries_ofList hascending]

/-! ## Numbers in a value -/

mutual

/-- The numbers in a value. -/
def numbers : Json → List Number
  | .number n => [n]
  | .array items => numbersOfItems items
  | .object entries => numbersOfEntries entries
  | .null | .bool _ | .string _ => []

def numbersOfItems : List Json → List Number
  | [] => []
  | v :: rest => numbers v ++ numbersOfItems rest

def numbersOfEntries : List (String × Json) → List Number
  | [] => []
  | e :: rest => numbers e.2 ++ numbersOfEntries rest

end

theorem mem_numbers_array {items : List Json} {n : Number} :
    n ∈ (array items).numbers ↔ ∃ v ∈ items, n ∈ v.numbers := by
  rw [numbers]
  induction items with
  | nil => simp [numbersOfItems]
  | cons v items ih => simp [numbersOfItems, ih]

theorem mem_numbers_object {entries : List (String × Json)} {n : Number} :
    n ∈ (object entries).numbers ↔ ∃ e ∈ entries, n ∈ e.2.numbers := by
  rw [numbers]
  induction entries with
  | nil => simp [numbersOfEntries]
  | cons e entries ih => simp [numbersOfEntries, ih]

end ArchiveSearch.Json
