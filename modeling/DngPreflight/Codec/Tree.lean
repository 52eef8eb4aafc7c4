import Mathlib.Data.List.Nodup
import Mathlib.Data.List.Perm.Subperm
import DngPreflight.Text.Float

set_option relaxedAutoImplicit false
set_option autoImplicit false

/-!
# Value trees

The trees of scalars, sequences and mappings that a configuration file denotes, and the
dictionaries read from them.

## Main definitions

* `Codec.Scalar`, `Codec.Tree` — the values of a configuration file.
* `Codec.Dict` — a dictionary: its entries in insertion order, with distinct keys.
* `Codec.Dict.insert`, `Codec.Dict.ofList` — insertion, and insertion of a whole list.

## Main results

* `Codec.Dict.ofList_entries` — inserting the entries of a dictionary one by one rebuilds it.
* `Codec.Dict.nodup_of_length_ofList` — entries of which none is lost have distinct keys.
* `Codec.Dict.get?_insert` — lookup after insertion.
-/

namespace Codec

open Text

/-! ## Trees -/

/-- A scalar. Values of types outside the core of the file format (dates, bytes) are
`foreign`. -/
inductive Scalar where
  | null
  | bool (b : Bool)
  | int (n : ℤ)
  | float (x : PyFloat)
  | str (s : Str)
  | foreign (tag : ℕ)
  deriving DecidableEq

/-- A value: a scalar, a sequence, or a mapping with its entries in order. -/
inductive Tree where
  | scalar (x : Scalar)
  | seq (items : List Tree)
  | map (entries : List (Scalar × Tree))

/-! ## Dictionaries -/

/-- A dictionary: entries in insertion order, no key twice. -/
structure Dict (κ ν : Type) where
  entries : List (κ × ν)
  nodup : (entries.map Prod.fst).Nodup

namespace Dict

variable {κ ν : Type}

/-- Dictionaries with the same entries in the same order are equal. -/
@[ext] lemma ext {d e : Dict κ ν} (h : d.entries = e.entries) : d = e := by
  cases d; cases e; simp_all

/-- Dictionaries are compared by their entries. -/
instance [DecidableEq κ] [DecidableEq ν] : DecidableEq (Dict κ ν) := fun d e =>
  decidable_of_iff (d.entries = e.entries) ⟨ext, congrArg entries⟩

/-- The dictionary without entries. -/
def empty : Dict κ ν := ⟨[], List.nodup_nil⟩

/-- A dictionary with one entry. -/
def single (k : κ) (v : ν) : Dict κ ν := ⟨[(k, v)], List.nodup_singleton k⟩

/-- `dict.keys()`. -/
def keys (d : Dict κ ν) : List κ := d.entries.map Prod.fst

/-- `dict.values()`. -/
def values (d : Dict κ ν) : List ν := d.entries.map Prod.snd

section Lookup

variable [DecidableEq κ]

/-- `dict.get(key)`. -/
def get? (d : Dict κ ν) (k : κ) : Option ν := d.entries.lookup k

/-- Write a value at a key: an existing entry keeps its place, a new one is added at the
end. -/
def insertEntry (k : κ) (v : ν) : List (κ × ν) → List (κ × ν)
  | [] => [(k, v)]
  | (k', v') :: l => if k' = k then (k, v) :: l else (k', v') :: insertEntry k v l

/-- The keys after writing a value. -/
lemma map_fst_insertEntry (k : κ) (v : ν) (l : List (κ × ν)) :
    (insertEntry k v l).map Prod.fst =
      if k ∈ l.map Prod.fst then l.map Prod.fst else l.map Prod.fst ++ [k] := by
  induction l with
  | nil => simp [insertEntry]
  | cons e l ih =>
    obtain ⟨k', v'⟩ := e
    by_cases h : k' = k
    · simp [insertEntry, h]
    · have h' : ¬ k = k' := fun he => h he.symm
      rw [insertEntry, if_neg h, List.map_cons, ih]
      by_cases hm : k ∈ l.map Prod.fst
      · simp only [List.map_cons, List.mem_cons, hm, or_true, if_true]
      · simp only [List.map_cons, List.mem_cons, h', hm, or_false, if_false,
          List.cons_append]

/-- `dict[key] = value`. -/
def insert (d : Dict κ ν) (k : κ) (v : ν) : Dict κ ν where
  entries := insertEntry k v d.entries
  nodup := by
    rw [map_fst_insertEntry]
    split
    · exact d.nodup
    · rename_i h
      rw [← List.concat_eq_append]
      exact List.Nodup.concat h d.nodup

/-- Insert the entries of a list in order. -/
def ofList (l : List (κ × ν)) : Dict κ ν := l.foldl (fun d e => d.insert e.1 e.2) empty

/-- Writing at a new key adds an entry at the end. -/
lemma insertEntry_of_not_mem {k : κ} (v : ν) {l : List (κ × ν)} (h : k ∉ l.map Prod.fst) :
    insertEntry k v l = l ++ [(k, v)] := by
  induction l with
  | nil => rfl
  | cons e l ih =>
    simp only [List.map_cons, List.mem_cons, not_or] at h
    rw [insertEntry, if_neg fun he => h.1 he.symm, ih h.2, List.cons_append]

/-- **A dictionary is rebuilt from its entries.**

**Proof sketch.** Induction on the entries still to insert: those inserted before are kept,
since every further key is new. -/
lemma ofList_entries (d : Dict κ ν) : ofList d.entries = d := by
  have key : ∀ (post : List (κ × ν)) (acc : Dict κ ν),
      ((acc.entries ++ post).map Prod.fst).Nodup →
      (post.foldl (fun d e => d.insert e.1 e.2) acc).entries = acc.entries ++ post := by
    intro post
    induction post with
    | nil => simp
    | cons e post ih =>
      intro acc h
      have hnot : e.1 ∉ acc.entries.map Prod.fst := by
        intro hm
        simp only [List.map_append, List.map_cons] at h
        exact (List.nodup_append.mp h).2.2 e.1 hm e.1 (by simp) rfl
      have hins : (acc.insert e.1 e.2).entries = acc.entries ++ [e] :=
        insertEntry_of_not_mem e.2 hnot
      rw [List.foldl_cons, ih]
      · rw [hins]; simp
      · rw [hins]; simpa using h
  apply ext
  simpa [ofList, empty] using key d.entries empty (by simpa [empty] using d.nodup)

/-- Entries with distinct keys are those of the dictionary that they are inserted into. -/
lemma ofList_of_nodup {l : List (κ × ν)} (h : (l.map Prod.fst).Nodup) : (ofList l).entries = l :=
  congrArg entries (ofList_entries ⟨l, h⟩)

/-- The keys of a dictionary are those of the entries that were inserted. -/
lemma mem_keys_ofList {l : List (κ × ν)} {k : κ} :
    k ∈ (ofList l).entries.map Prod.fst ↔ k ∈ l.map Prod.fst := by
  have key : ∀ (l : List (κ × ν)) (acc : Dict κ ν),
      k ∈ (l.foldl (fun d e => d.insert e.1 e.2) acc).entries.map Prod.fst ↔
        k ∈ acc.entries.map Prod.fst ∨ k ∈ l.map Prod.fst := by
    intro l
    induction l with
    | nil => simp
    | cons e l ih =>
      intro acc
      have hins : k ∈ (acc.insert e.1 e.2).entries.map Prod.fst ↔
          k ∈ acc.entries.map Prod.fst ∨ k = e.1 := by
        rw [insert, map_fst_insertEntry]
        split_ifs with he
        · exact ⟨Or.inl, fun h => h.elim id fun hk => hk ▸ he⟩
        · rw [List.mem_append, List.mem_singleton]
      rw [List.foldl_cons, ih, hins, List.map_cons, List.mem_cons, or_assoc]
  rw [ofList, key l empty]
  simp [empty]

/-- **Entries of which none is lost** have distinct keys. -/
lemma nodup_of_length_ofList {l : List (κ × ν)} (h : (ofList l).entries.length = l.length) :
    (l.map Prod.fst).Nodup := by
  have hsub : List.Subperm ((ofList l).entries.map Prod.fst) (l.map Prod.fst) :=
    List.subperm_of_subset (ofList l).nodup fun _ hk => mem_keys_ofList.mp hk
  have hperm := hsub.perm_of_length_le (by rw [List.length_map, List.length_map, h])
  exact hperm.nodup_iff.mp (ofList l).nodup

/-- The value of an entry whose key is not there twice. -/
lemma lookup_of_mem {l : List (κ × ν)} {k : κ} {v : ν} (hnodup : (l.map Prod.fst).Nodup)
    (h : (k, v) ∈ l) : l.lookup k = some v := by
  obtain ⟨pre, post, rfl⟩ := List.append_of_mem h
  refine List.lookup_eq_some_iff.mpr ⟨pre, post, rfl, fun p hp => bne_iff_ne.mpr ?_⟩
  rw [List.map_append, List.map_cons] at hnodup
  exact fun he => (List.nodup_append.mp hnodup).2.2 p.1 (List.mem_map_of_mem hp) k (by simp) he.symm

/-- Lookup after writing. -/
lemma get?_insert (d : Dict κ ν) (k k' : κ) (v : ν) :
    (d.insert k v).get? k' = if k' = k then some v else d.get? k' := by
  have key : ∀ l : List (κ × ν),
      (insertEntry k v l).lookup k' = if k' = k then some v else l.lookup k' := by
    intro l
    induction l with
    | nil =>
      by_cases h : k' = k
      · simp [insertEntry, h]
      · simp [insertEntry, List.lookup_cons, h, beq_false_of_ne h]
    | cons e l ih =>
      obtain ⟨k'', v''⟩ := e
      by_cases h : k'' = k
      · subst h
        by_cases h' : k' = k''
        · simp [insertEntry, h']
        · simp [insertEntry, List.lookup_cons, h', beq_false_of_ne h']
      · by_cases h' : k' = k''
        · simp [insertEntry, h, h']
        · simp [insertEntry, List.lookup_cons, h, ih, beq_false_of_ne h']
  exact key d.entries

end Lookup

end Dict

end Codec
