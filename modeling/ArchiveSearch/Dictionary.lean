/-!
# Dictionaries in ascending order

A dictionary keeps one value for each of its keys, in ascending order of the keys, so two
dictionaries with the same look-ups are equal. Inserting replaces the value of a key that is
already there.
-/

namespace ArchiveSearch

universe u v

/-- Puts a value under a key into a list of entries in ascending order. -/
def insertEntry {α : Type u} (key : String) (value : α) : List (String × α) → List (String × α)
  | [] => [(key, value)]
  | entry :: rest =>
      if key < entry.1 then (key, value) :: entry :: rest
      else if key = entry.1 then (key, value) :: rest
      else entry :: insertEntry key value rest

/-- The keys after an insertion are the old ones and the new one. -/
theorem mem_keys_insertEntry {α : Type u} {key k : String} {value : α} {entries : List (String × α)} :
    k ∈ (insertEntry key value entries).map (·.1) ↔ k = key ∨ k ∈ entries.map (·.1) := by
  induction entries with
  | nil => simp [insertEntry]
  | cons entry rest ih =>
      unfold insertEntry
      split
      next => simp
      next =>
        split
        next heq => subst heq; simp
        next =>
          rw [List.map_cons, List.mem_cons, ih, List.map_cons, List.mem_cons]
          exact ⟨fun h => h.elim (fun h => .inr (.inl h)) (·.elim .inl (fun h => .inr (.inr h))),
            fun h => h.elim (fun h => .inr (.inl h)) (·.elim .inl (fun h => .inr (.inr h)))⟩

/-- Whether the keys of a list of entries ascend strictly. -/
def Ascending {α : Type u} (entries : List (String × α)) : Prop :=
  entries.Pairwise fun a b => a.1 < b.1

/-- Inserting keeps the keys in ascending order. -/
theorem ascending_insertEntry {α : Type u} {key : String} {value : α} {entries : List (String × α)}
    (hentries : Ascending entries) : Ascending (insertEntry key value entries) := by
  induction entries with
  | nil => exact List.pairwise_singleton ..
  | cons entry rest ih =>
      obtain ⟨hfirst, hrest⟩ := List.pairwise_cons.mp hentries
      unfold insertEntry
      split
      next hlt =>
        exact List.pairwise_cons.mpr ⟨fun b hb => (List.mem_cons.mp hb).elim (· ▸ hlt)
          (fun hb => String.lt_trans hlt (hfirst b hb)), hentries⟩
      next hnlt =>
        split
        next heq => exact List.pairwise_cons.mpr ⟨fun b hb => heq ▸ hfirst b hb, hrest⟩
        next hne =>
          refine List.pairwise_cons.mpr ⟨fun b hb => ?_, ih hrest⟩
          rcases mem_keys_insertEntry.mp (List.mem_map_of_mem hb) with hkey | hold
          · have hle : entry.1 ≤ key := String.not_lt.mp hnlt
            rw [hkey]
            exact Decidable.byContradiction fun h =>
              hne (String.le_antisymm (String.not_lt.mp h) hle)
          · obtain ⟨c, hc, hcb⟩ := List.mem_map.mp hold
            exact hcb ▸ hfirst c hc

/-- Entries with strictly ascending keys. -/
structure Dictionary (α : Type u) where
  entries : List (String × α)
  ascending : Ascending entries

namespace Dictionary

variable {α : Type u} {β : Type v}

def empty : Dictionary α := ⟨[], List.Pairwise.nil⟩

instance : Inhabited (Dictionary α) := ⟨empty⟩

instance [DecidableEq α] : DecidableEq (Dictionary α) := fun a b =>
  decidable_of_iff (a.entries = b.entries)
    ⟨fun h => by cases a; cases b; cases h; rfl, fun h => h ▸ rfl⟩

/-- Puts a value under a key, in place of an older one. -/
def insert (d : Dictionary α) (key : String) (value : α) : Dictionary α :=
  ⟨insertEntry key value d.entries, ascending_insertEntry d.ascending⟩

/-- The dictionary of a list of entries, of which the last one for a key counts. -/
def ofList (entries : List (String × α)) : Dictionary α :=
  entries.foldl (fun d entry => d.insert entry.1 entry.2) empty

/-- The value under a key. -/
def find? (d : Dictionary α) (key : String) : Option α :=
  (d.entries.find? fun entry => entry.1 = key).map (·.2)

/-- A look-up finds what is listed, since no key is listed twice. -/
theorem find?_eq_some_iff {d : Dictionary α} {key : String} {value : α} :
    d.find? key = some value ↔ (key, value) ∈ d.entries := by
  obtain ⟨entries, hascending⟩ := d
  simp only [find?]
  induction entries with
  | nil => simp
  | cons entry rest ih =>
      obtain ⟨hfirst, hrest⟩ := List.pairwise_cons.mp hascending
      by_cases hkey : entry.1 = key
      · have hother : (key, value) ∉ rest := fun hmem =>
          String.lt_irrefl key (hkey ▸ hfirst (key, value) hmem)
        simp [hkey, hother, Prod.ext_iff, eq_comm]
      · rw [List.find?_cons_of_neg (by simpa using hkey), ih hrest, List.mem_cons]
        exact (or_iff_right fun h : (key, value) = entry => hkey (h ▸ rfl)).symm

def keys (d : Dictionary α) : List String := d.entries.map (·.1)

def size (d : Dictionary α) : Nat := d.entries.length

def isEmpty (d : Dictionary α) : Bool := d.entries.isEmpty

/-- Changes the value under a key, which is `fallback` when there is none. -/
def update (d : Dictionary α) (key : String) (fallback : α) (f : α → α) : Dictionary α :=
  d.insert key (f ((d.find? key).getD fallback))

/-- Applies a function to every value. -/
def map (f : α → β) (d : Dictionary α) : Dictionary β where
  entries := d.entries.map fun entry => (entry.1, f entry.2)
  ascending := by
    have h := d.ascending
    simp only [Ascending, List.pairwise_map] at h ⊢
    exact h

end Dictionary

end ArchiveSearch
