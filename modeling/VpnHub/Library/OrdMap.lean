import Mathlib.Order.Lattice
import Mathlib.Data.List.Basic

/-! # Ordered finite maps

A map is the list of its entries in strictly increasing key order, so equal maps are equal
lists and every operation is structurally recursive. -/

namespace VpnHub

structure OrdMap (K V : Type*) [LinearOrder K] where
  entries : List (K × V)
  sorted : entries.Pairwise (fun a b => a.1 < b.1)

namespace OrdMap

variable {K V : Type*} [LinearOrder K]

instance [DecidableEq V] : DecidableEq (OrdMap K V) := fun m n =>
  decidable_of_iff (m.entries = n.entries) (by cases m; cases n; simp)

def empty : OrdMap K V := ⟨[], .nil⟩

def size (m : OrdMap K V) : ℕ := m.entries.length

def find? (m : OrdMap K V) (k : K) : Option V := (m.entries.find? (·.1 = k)).map (·.2)

/-- Insertion into an ordered entry list; an entry with the same key is replaced. -/
def insertEntry (k : K) (v : V) : List (K × V) → List (K × V)
  | [] => [(k, v)]
  | e :: rest =>
    if k < e.1 then (k, v) :: e :: rest
    else if k = e.1 then (k, v) :: rest
    else e :: insertEntry k v rest

theorem mem_insertEntry {k : K} {v : V} {l : List (K × V)} {e : K × V}
    (h : e ∈ insertEntry k v l) : e = (k, v) ∨ e ∈ l := by
  induction l with
  | nil => simpa [insertEntry] using h
  | cons f l ih =>
      simp only [insertEntry] at h
      split at h
      · simpa using h
      · split at h
        · rcases List.mem_cons.mp h with h | h
          · exact .inl h
          · exact .inr (List.mem_cons_of_mem _ h)
        · rcases List.mem_cons.mp h with h | h
          · exact .inr (by simp [h])
          · exact (ih h).imp id (List.mem_cons_of_mem _)

theorem sorted_insertEntry {l : List (K × V)} (k : K) (v : V)
    (h : l.Pairwise (fun a b => a.1 < b.1)) :
    (insertEntry k v l).Pairwise (fun a b => a.1 < b.1) := by
  induction l with
  | nil => simp [insertEntry]
  | cons f l ih =>
      obtain ⟨hf, hl⟩ := List.pairwise_cons.mp h
      simp only [insertEntry]
      split
      · rename_i hk
        refine List.pairwise_cons.mpr ⟨fun e he => ?_, h⟩
        rcases List.mem_cons.mp he with rfl | he
        · exact hk
        · exact hk.trans (hf e he)
      · rename_i hk
        split
        · rename_i heq
          exact List.pairwise_cons.mpr ⟨fun e he => heq ▸ hf e he, hl⟩
        · rename_i hne
          refine List.pairwise_cons.mpr ⟨fun e he => ?_, ih hl⟩
          rcases mem_insertEntry he with rfl | he
          · exact lt_of_le_of_ne (not_lt.mp hk) (Ne.symm hne)
          · exact hf e he

def insert (m : OrdMap K V) (k : K) (v : V) : OrdMap K V :=
  ⟨insertEntry k v m.entries, sorted_insertEntry k v m.sorted⟩

def erase (m : OrdMap K V) (k : K) : OrdMap K V :=
  ⟨m.entries.filter (·.1 ≠ k), m.sorted.filter _⟩

/-! ## Lookup -/

@[simp] theorem find?_empty (k : K) : (empty : OrdMap K V).find? k = none := rfl

theorem find?_insertEntry (l : List (K × V)) (k j : K) (v : V) :
    ((insertEntry k v l).find? (·.1 = j)).map (·.2) =
      if k = j then some v else (l.find? (·.1 = j)).map (·.2) := by
  induction l with
  | nil => by_cases h : k = j <;> simp [insertEntry, h]
  | cons f l ih =>
      simp only [insertEntry]
      split
      · by_cases h : k = j <;> simp [h]
      · split
        · rename_i heq
          by_cases h : k = j
          · simp [h]
          · have hf : f.1 ≠ j := heq ▸ h
            simp [h, hf]
        · rename_i hne
          by_cases hf : f.1 = j
          · have h : k ≠ j := fun h => hne (h.trans hf.symm)
            simp [hf, h]
          · simpa [hf] using ih

theorem find?_insert (m : OrdMap K V) (k j : K) (v : V) :
    (m.insert k v).find? j = if k = j then some v else m.find? j :=
  find?_insertEntry m.entries k j v

theorem find?_erase (m : OrdMap K V) (k j : K) :
    (m.erase k).find? j = if k = j then none else m.find? j := by
  unfold find? erase
  simp only [List.find?_filter]
  by_cases h : k = j
  · subst h
    simp
  · rw [if_neg h]
    congr 2
    funext e
    by_cases he : e.1 = j
    · simp [he, Ne.symm h]
    · simp [he]

theorem insertEntry_eq_self {l : List (K × V)} {k : K} {v : V}
    (hsorted : l.Pairwise (fun a b => a.1 < b.1)) (h : (k, v) ∈ l) : insertEntry k v l = l := by
  induction l with
  | nil => simp at h
  | cons f l ih =>
      obtain ⟨hf, hl⟩ := List.pairwise_cons.mp hsorted
      simp only [insertEntry]
      rcases List.mem_cons.mp h with rfl | h
      · simp
      · have hlt := hf _ h
        rw [if_neg (not_lt.mpr hlt.le), if_neg hlt.ne', ih hl h]

theorem mem_entries_of_find? {m : OrdMap K V} {k : K} {v : V} (h : m.find? k = some v) :
    (k, v) ∈ m.entries := by
  obtain ⟨e, he, rfl⟩ := Option.map_eq_some_iff.mp h
  have hkey : e.1 = k := by simpa using List.find?_some he
  rw [← hkey]
  exact List.mem_of_find?_eq_some he

theorem insert_eq_self_of_mem {m : OrdMap K V} {k : K} {v : V} (h : (k, v) ∈ m.entries) :
    m.insert k v = m := by
  have hentries := insertEntry_eq_self m.sorted h
  cases m
  simpa [insert] using hentries

/-- Inserting leaves a map alone exactly if the entry is there already. -/
theorem insert_eq_self_iff {m : OrdMap K V} {k : K} {v : V} :
    m.insert k v = m ↔ m.find? k = some v := by
  constructor
  · intro h
    rw [← h, find?_insert, if_pos rfl]
  · intro h
    exact insert_eq_self_of_mem (mem_entries_of_find? h)

theorem mem_entries_iff {m : OrdMap K V} {e : K × V} :
    e ∈ m.entries ↔ m.find? e.1 = some e.2 := by
  constructor
  · intro h
    exact insert_eq_self_iff.mp (insert_eq_self_of_mem h)
  · intro h
    exact mem_entries_of_find? h

/-- Maps that answer every lookup in the same way are the same. -/
theorem ext_find? {m n : OrdMap K V} (h : ∀ k, m.find? k = n.find? k) : m = n := by
  have hnodup : ∀ m : OrdMap K V, m.entries.Nodup := fun m =>
    m.sorted.imp fun hlt heq => absurd (congrArg Prod.fst heq) hlt.ne
  have hperm : m.entries.Perm n.entries :=
    (List.perm_ext_iff_of_nodup (hnodup m) (hnodup n)).mpr fun e => by
      rw [mem_entries_iff, mem_entries_iff, h]
  have hentries : m.entries = n.entries :=
    hperm.eq_of_pairwise (fun _ _ _ _ hlt hlt' => absurd hlt' hlt.asymm) m.sorted n.sorted
  cases m
  cases n
  simpa using hentries

theorem insert_erase (m : OrdMap K V) (k : K) (v : V) : (m.erase k).insert k v = m.insert k v := by
  refine ext_find? fun j => ?_
  rw [find?_insert, find?_insert, find?_erase]
  split <;> rfl

theorem erase_insert (m : OrdMap K V) (k : K) (v : V) : (m.insert k v).erase k = m.erase k := by
  refine ext_find? fun j => ?_
  rw [find?_erase, find?_erase, find?_insert]
  split <;> rfl

theorem size_erase_lt {m : OrdMap K V} {k : K} {v : V} (h : m.find? k = some v) :
    (m.erase k).size < m.size := by
  obtain ⟨e, he, -⟩ := Option.map_eq_some_iff.mp h
  have hmem := List.mem_of_find?_eq_some he
  have hkey : e.1 = k := by simpa using List.find?_some he
  exact List.length_filter_lt_length_iff_exists.mpr ⟨e, hmem, by simp [hkey]⟩

end OrdMap

end VpnHub
