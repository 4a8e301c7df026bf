import ArchiveSearch.Dictionary
import Mathlib.Data.List.Induction
import Mathlib.Data.List.Nodup

/-! # Dictionaries of listed entries

The dictionary of a list holds for every key the last entry that the list has for it. A list whose
keys ascend already is the list of entries of its dictionary, so listing the entries of a
dictionary and collecting them again changes nothing, and neither does collecting them in another
order.
-/

namespace ArchiveSearch

universe u

variable {α : Type u}

/-- After an insertion the new entry is there, and the old ones of all other keys. -/
theorem mem_insertEntry {key : String} {value : α} {entries : List (String × α)}
    (hascending : Ascending entries) {e : String × α} :
    e ∈ insertEntry key value entries ↔ e = (key, value) ∨ e ∈ entries ∧ e.1 ≠ key := by
  induction entries with
  | nil => simp [insertEntry]
  | cons first rest ih =>
      obtain ⟨hfirst, hrest⟩ := List.pairwise_cons.mp hascending
      unfold insertEntry
      split
      next hlt =>
        -- The new key comes before the first one, and so before all others.
        have hother : ∀ e ∈ first :: rest, e.1 ≠ key := by
          intro e he
          rcases List.mem_cons.mp he with rfl | he
          · exact (String.ne_of_lt hlt).symm
          · exact (String.ne_of_lt (String.lt_trans hlt (hfirst e he))).symm
        rw [List.mem_cons]
        exact or_congr_right ⟨fun he => ⟨he, hother e he⟩, And.left⟩
      next =>
        split
        next heq =>
          subst heq
          have hother : ∀ e ∈ rest, e.1 ≠ first.1 := fun e he =>
            (String.ne_of_lt (hfirst e he)).symm
          rw [List.mem_cons, List.mem_cons]
          refine or_congr_right ⟨fun he => ⟨.inr he, hother e he⟩, ?_⟩
          rintro ⟨rfl | he, hne⟩
          · exact absurd rfl hne
          · exact he
        next hne =>
          rw [List.mem_cons, ih hrest, List.mem_cons]
          constructor
          · rintro (rfl | heq | ⟨he, hkey⟩)
            · exact .inr ⟨.inl rfl, Ne.symm hne⟩
            · exact .inl heq
            · exact .inr ⟨.inr he, hkey⟩
          · rintro (heq | ⟨rfl | he, hkey⟩)
            · exact .inr (.inl heq)
            · exact .inl rfl
            · exact .inr (.inr ⟨he, hkey⟩)

/-! ## Keys that are listed once -/

section Keys

variable {κ : Type} [DecidableEq κ]

/-- The entries of a key that is listed once. -/
theorem filter_key_eq_singleton {entries : List (κ × α)}
    (hnodup : (entries.map (·.1)).Nodup) {e : κ × α} (he : e ∈ entries) :
    entries.filter (fun entry => entry.1 = e.1) = [e] := by
  induction entries with
  | nil => exact absurd he List.not_mem_nil
  | cons first rest ih =>
      obtain ⟨hfirst, hrest⟩ := List.nodup_cons.mp hnodup
      have hother : ∀ entry ∈ rest, entry.1 ≠ first.1 := fun entry hentry heq =>
        hfirst (List.mem_map.mpr ⟨entry, hentry, heq⟩)
      rcases List.mem_cons.mp he with rfl | he
      · rw [List.filter_cons_of_pos (by simp), List.filter_eq_nil_iff.mpr (by simpa using hother)]
      · rw [List.filter_cons_of_neg (by simpa using (hother e he).symm), ih hrest he]

/-- The entry of a key that is listed once does not depend on the order of the entries. -/
theorem find?_key_of_perm {entries entries' : List (κ × α)} (h : entries.Perm entries')
    (hnodup : (entries.map (·.1)).Nodup) (key : κ) :
    entries.find? (fun entry => entry.1 = key) = entries'.find? (fun entry => entry.1 = key) := by
  have hfilter := h.filter fun entry => decide (entry.1 = key)
  rw [← List.head?_filter, ← List.head?_filter]
  cases hfind : entries.find? fun entry => decide (entry.1 = key) with
  | none =>
      rw [List.filter_eq_nil_iff.mpr (List.find?_eq_none.mp hfind)] at hfilter ⊢
      rw [hfilter.nil_eq]
  | some e =>
      obtain rfl : e.1 = key := by simpa using List.find?_some hfind
      rw [filter_key_eq_singleton hnodup (List.mem_of_find?_eq_some hfind)] at hfilter ⊢
      rw [List.singleton_perm.mp hfilter]

end Keys

namespace Dictionary

theorem ext_entries {d e : Dictionary α} (h : d.entries = e.entries) : d = e := by
  cases d
  cases e
  cases h
  rfl

theorem ofList_concat (entries : List (String × α)) (e : String × α) :
    ofList (entries ++ [e]) = (ofList entries).insert e.1 e.2 := by
  rw [ofList, List.foldl_append]
  rfl

theorem mem_of_mem_ofList {entries : List (String × α)} {e : String × α}
    (h : e ∈ (ofList entries).entries) : e ∈ entries := by
  induction entries using List.reverseRecOn with
  | nil => exact absurd h List.not_mem_nil
  | append_singleton entries last ih =>
      rw [ofList_concat] at h
      rw [List.mem_append, List.mem_singleton]
      rcases (mem_insertEntry (ofList entries).ascending).mp h with heq | ⟨he, -⟩
      · exact .inr heq
      · exact .inl (ih he)

/-- No key is listed twice. -/
theorem nodup_keys (d : Dictionary α) : (d.entries.map (·.1)).Nodup := by
  have hascending : (d.entries.map (·.1)).Pairwise (· < ·) := List.pairwise_map.mpr d.ascending
  exact hascending.imp String.ne_of_lt

/-- Dictionaries with the same entries are equal. -/
theorem ext_mem {d e : Dictionary α} (h : ∀ x, x ∈ d.entries ↔ x ∈ e.entries) : d = e := by
  have hperm : d.entries.Perm e.entries :=
    (List.perm_ext_iff_of_nodup (.of_map _ d.nodup_keys) (.of_map _ e.nodup_keys)).mpr h
  refine ext_entries (hperm.eq_of_pairwise ?_ d.ascending e.ascending)
  intro a b _ _ hab hba
  exact absurd hba (String.lt_asymm hab)

theorem find?_insert (d : Dictionary α) (key other : String) (value : α) :
    (d.insert key value).find? other = if other = key then some value else d.find? other := by
  ext found
  rw [find?_eq_some_iff]
  refine (mem_insertEntry d.ascending :
    (other, found) ∈ insertEntry key value d.entries ↔ _).trans ?_
  by_cases hkey : other = key
  · simp [hkey, eq_comm]
  · simp [hkey, find?_eq_some_iff]

/-- The last entry of a list for a key counts. -/
theorem find?_ofList (entries : List (String × α)) (key : String) :
    (ofList entries).find? key =
      ((entries.filter fun e => e.1 = key).getLast?).map (·.2) := by
  induction entries using List.reverseRecOn with
  | nil => rfl
  | append_singleton entries last ih =>
      rw [ofList_concat, find?_insert, ih, List.filter_append]
      by_cases hkey : key = last.1
      · simp [hkey]
      · simp [hkey, Ne.symm hkey]

/-- Keys that are listed once keep their entries. -/
theorem mem_ofList_iff {entries : List (String × α)} (hnodup : (entries.map (·.1)).Nodup)
    {e : String × α} : e ∈ (ofList entries).entries ↔ e ∈ entries := by
  constructor
  · exact mem_of_mem_ofList
  · intro he
    have hfound : (ofList entries).find? e.1 = some e.2 := by
      rw [find?_ofList, filter_key_eq_singleton hnodup he]
      rfl
    exact find?_eq_some_iff.mp hfound

/-- The entries of a dictionary may be collected in any order. -/
theorem ofList_of_perm {d : Dictionary α} {entries : List (String × α)}
    (h : entries.Perm d.entries) : ofList entries = d := by
  have hnodup : (entries.map (·.1)).Nodup := (h.map _).nodup_iff.mpr d.nodup_keys
  apply ext_mem
  intro e
  rw [mem_ofList_iff hnodup, h.mem_iff]

/-- Entries that ascend already stay as they are. -/
theorem entries_ofList {entries : List (String × α)} (hascending : Ascending entries) :
    (ofList entries).entries = entries := by
  rw [ofList_of_perm (d := ⟨entries, hascending⟩) (.refl entries)]

theorem ofList_entries (d : Dictionary α) : ofList d.entries = d :=
  ofList_of_perm (.refl d.entries)

end Dictionary

end ArchiveSearch
