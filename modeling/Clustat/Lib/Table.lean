/-
# Tables with distinct labels

A table is a finite map with a size, Mathlib's association list.  Its values may
carry a label that is to identify the entry next to its key (an id, a name):
`Distinct f` says that no two entries have the same one.  It is kept by removing
entries, by inserting a value whose label no other entry has, and by anything
that leaves every entry with a label it had before (`LabelsFrom`).
-/

import Mathlib.Data.List.AList

/-- A finite map. -/
abbrev Table (κ ν : Type*) := AList fun _ : κ => ν

namespace Table

variable {κ ν ι : Type*} {m m' : Table κ ν} {k k' : κ} {v v' : ν} {f : ν → ι}

/-- The values, in the order of the list. -/
def values (m : Table κ ν) : List ν := m.entries.map Sigma.snd

/-- The number of entries. -/
def size (m : Table κ ν) : ℕ := m.entries.length

/-- A table has as many rows as keys. -/
theorem size_eq_length_keys (m : Table κ ν) : m.size = m.keys.length := by
  simp [size, AList.keys, List.keys]

variable [DecidableEq κ]

/-- What an insertion leads to. -/
theorem lookup_insert_eq : (m.insert k v).lookup k' = if k' = k then some v else m.lookup k' := by
  split_ifs with h
  · rw [h, AList.lookup_insert]
  · exact AList.lookup_insert_ne h

/-- What a removal leads to. -/
theorem lookup_erase_eq : (m.erase k).lookup k' = if k' = k then none else m.lookup k' := by
  split_ifs with h
  · rw [h, AList.lookup_erase]
  · exact AList.lookup_erase_ne h

/-! ### The size -/

/-- Taking out a key that is there makes the table one row smaller. -/
theorem size_erase (hk : k ∈ m) : size (m.erase k) + 1 = m.size := by
  rw [size_eq_length_keys, size_eq_length_keys, AList.keys_erase,
    List.length_erase_add_one (AList.mem_keys.1 hk)]

/-- Taking out a key never makes the table larger. -/
theorem size_erase_le (m : Table κ ν) (k : κ) : size (m.erase k) ≤ m.size := by
  rw [size_eq_length_keys, size_eq_length_keys, AList.keys_erase]
  exact List.length_erase_le

/-- A new key makes the table one row larger. -/
theorem size_insert (hk : k ∉ m) : size (m.insert k v) = m.size + 1 := by
  rw [size_eq_length_keys, size_eq_length_keys, AList.keys_insert, List.length_cons,
    List.erase_of_not_mem fun h => hk (AList.mem_keys.2 h)]

/-! ### Labels -/

/-- No two entries have the same label. -/
def Distinct (f : ν → ι) (m : Table κ ν) : Prop :=
  ∀ k k' v v', m.lookup k = some v → m.lookup k' = some v' → f v = f v' → k = k'

/-- In the empty table no two rows share a label. -/
theorem distinct_empty : Distinct f (∅ : Table κ ν) := by
  intro k k' v v' hk
  rw [AList.lookup_empty] at hk
  cases hk

/-- Labels that are the same on the values of the table. -/
theorem Distinct.congr {g : ν → ι} (h : Distinct f m)
    (hfg : ∀ k v, m.lookup k = some v → g v = f v) : Distinct g m := by
  intro a b x y ha hb hxy
  refine h a b x y ha hb ?_
  rw [← hfg a x ha, ← hfg b y hb, hxy]

/-- A new value whose label no other entry has. -/
theorem Distinct.insert (h : Distinct f m)
    (hv : ∀ k' v', k' ≠ k → m.lookup k' = some v' → f v' ≠ f v) : Distinct f (m.insert k v) := by
  intro a b x y ha hb hxy
  rw [lookup_insert_eq] at ha hb
  split_ifs at ha hb with hak hbk hbk
  · rw [hak, hbk]
  · obtain rfl := Option.some.inj ha
    exact absurd hxy.symm (hv b y hbk hb)
  · obtain rfl := Option.some.inj hb
    exact absurd hxy (hv a x hak ha)
  · exact h a b x y ha hb hxy

/-- Every entry has a label it had in the other table. -/
def LabelsFrom (f : ν → ι) (m m' : Table κ ν) : Prop :=
  ∀ k v', m'.lookup k = some v' → ∃ v, m.lookup k = some v ∧ f v = f v'

/-- A table has its labels from itself. -/
theorem LabelsFrom.refl (m : Table κ ν) : LabelsFrom f m m := fun _ v' h => ⟨v', h, rfl⟩

/-- Labels handed on twice come from the first table. -/
theorem LabelsFrom.trans {m'' : Table κ ν} (h : LabelsFrom f m m') (h' : LabelsFrom f m' m'') :
    LabelsFrom f m m'' := by
  intro k v'' hk
  obtain ⟨v', hk', hf'⟩ := h' k v'' hk
  obtain ⟨v, hk, hf⟩ := h k v' hk'
  exact ⟨v, hk, hf.trans hf'⟩

/-- Taking out a row brings no new label. -/
theorem LabelsFrom.erase (m : Table κ ν) (k : κ) : LabelsFrom f m (m.erase k) := by
  intro a v' ha
  rw [lookup_erase_eq] at ha
  split_ifs at ha
  exact ⟨v', ha, rfl⟩

/-- Every entry but that of one key has a label it had in the other table. -/
def LabelsFromOff (f : ν → ι) (k : κ) (m m' : Table κ ν) : Prop :=
  ∀ a v', a ≠ k → m'.lookup a = some v' → ∃ v, m.lookup a = some v ∧ f v = f v'

/-- A table that has all its labels from another has them so away from any
key. -/
theorem LabelsFrom.off (h : LabelsFrom f m m') (k : κ) : LabelsFromOff f k m m' :=
  fun a v' _ ha => h a v' ha

/-- The entry of that key can be any. -/
theorem LabelsFromOff.insert_any (h : LabelsFromOff f k m m') (v : ν) :
    LabelsFromOff f k m (m'.insert k v) := by
  intro a x hak ha
  rw [AList.lookup_insert_ne hak] at ha
  exact h a x hak ha

/-- Once it has its label, all have theirs. -/
theorem LabelsFromOff.insert (h : LabelsFromOff f k m m')
    (hv : ∃ v₀, m.lookup k = some v₀ ∧ f v₀ = f v) : LabelsFrom f m (m'.insert k v) := by
  intro a x ha
  rw [lookup_insert_eq] at ha
  split_ifs at ha with hak
  · obtain rfl := Option.some.inj ha
    rwa [hak]
  · exact h a x hak ha

/-- Where the labels come from away from `k`, taking out `k` leaves only
labels that do. -/
theorem LabelsFromOff.erase (h : LabelsFromOff f k m m') : LabelsFrom f m (m'.erase k) := by
  intro a x ha
  rw [lookup_erase_eq] at ha
  split_ifs at ha with hak
  exact h a x hak ha

/-- Labels that come from distinct ones are distinct. -/
theorem Distinct.of_labelsFrom (h : Distinct f m) (hl : LabelsFrom f m m') : Distinct f m' := by
  intro a b x y ha hb hxy
  obtain ⟨x', hx, hfx⟩ := hl a x ha
  obtain ⟨y', hy, hfy⟩ := hl b y hb
  exact h a b x' y' hx hy (hfx.trans (hxy.trans hfy.symm))

/-- Taking out a row keeps the labels distinct. -/
theorem Distinct.erase (h : Distinct f m) (k : κ) : Distinct f (m.erase k) :=
  h.of_labelsFrom (LabelsFrom.erase m k)

end Table
