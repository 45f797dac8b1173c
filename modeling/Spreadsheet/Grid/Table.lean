/-
# Tables in the order of their keys

* A table holds at most one entry per key and lists its entries by ascending keys.  The order is
  part of the type, so two tables with the same entries are the same table, and whatever is
  printed from one comes out sorted.
* Every operation is described by what look-ups give afterwards; later proofs use those lemmas
  and not the lists.
-/
import Spreadsheet.Grid.Spot

namespace Spreadsheet.Grid

/-! ## 1. Entries in order -/

variable {κ : Type} [Ord κ] {α β : Type}

/-- The entries stand by ascending keys. -/
def Ascending (entries : List (κ × α)) : Prop :=
  entries.Pairwise fun a b => compare a.1 b.1 = .lt

/-- Puts an entry where its key belongs, in place of the one that is there. -/
def putEntry (k : κ) (v : α) : List (κ × α) → List (κ × α)
  | [] => [(k, v)]
  | e :: rest =>
    match compare k e.1 with
    | .lt => (k, v) :: e :: rest
    | .eq => (k, v) :: rest
    | .gt => e :: putEntry k v rest

theorem mem_putEntry {k : κ} {v : α} {e : κ × α} :
    ∀ {entries : List (κ × α)}, e ∈ putEntry k v entries → e = (k, v) ∨ e ∈ entries
  | [], h => by simpa [putEntry] using h
  | d :: rest, h => by
    rw [putEntry] at h
    split at h
    · simpa using h
    · rcases List.mem_cons.mp h with h | h
      · exact Or.inl h
      · exact Or.inr (List.mem_cons_of_mem _ h)
    · rcases List.mem_cons.mp h with h | h
      · exact Or.inr (h ▸ List.mem_cons_self)
      · exact (mem_putEntry h).imp_right (List.mem_cons_of_mem _)

variable [Std.TransOrd κ] [Std.LawfulEqOrd κ]

theorem ascending_putEntry {k : κ} {v : α} :
    ∀ {entries : List (κ × α)}, Ascending entries → Ascending (putEntry k v entries)
  | [], _ => by simp [putEntry, Ascending]
  | e :: rest, h => by
    have hrest : Ascending rest := (List.pairwise_cons.mp h).2
    have hhead := (List.pairwise_cons.mp h).1
    rw [putEntry]
    split
    · rename_i hk
      refine List.pairwise_cons.mpr ⟨fun d hd => ?_, h⟩
      rcases List.mem_cons.mp hd with rfl | hd
      · exact hk
      · exact Std.TransCmp.lt_trans hk (hhead d hd)
    · rename_i hk
      refine List.pairwise_cons.mpr ⟨fun d hd => ?_, hrest⟩
      rw [Std.LawfulEqCmp.eq_of_compare hk]
      exact hhead d hd
    · rename_i hk
      refine List.pairwise_cons.mpr ⟨fun d hd => ?_, ascending_putEntry hrest⟩
      rcases mem_putEntry hd with rfl | hd
      · exact Std.OrientedCmp.lt_of_gt hk
      · exact hhead d hd

/-! ## 2. Tables -/

/-- **A table:** entries by ascending keys. -/
structure Table (κ : Type) [Ord κ] (α : Type) where
  entries : List (κ × α)
  ascending : Ascending entries

omit [Std.TransOrd κ] [Std.LawfulEqOrd κ] in
/-- A table is its entries. -/
theorem Table.ext {t u : Table κ α} (h : t.entries = u.entries) : t = u := by
  cases t; cases u; cases h; rfl

instance [DecidableEq κ] [DecidableEq α] : DecidableEq (Table κ α) := fun t u =>
  decidable_of_iff (t.entries = u.entries) ⟨Table.ext, fun h => h ▸ rfl⟩

namespace Table

/-- The table without entries. -/
def empty : Table κ α := ⟨[], List.Pairwise.nil⟩

instance : Inhabited (Table κ α) := ⟨empty⟩

/-- The value of a key. -/
def get? (t : Table κ α) (k : κ) : Option α :=
  (t.entries.find? fun e => compare e.1 k == .eq).map (·.2)

/-- **Sets the value of a key.** -/
def put (t : Table κ α) (k : κ) (v : α) : Table κ α :=
  ⟨putEntry k v t.entries, ascending_putEntry t.ascending⟩

/-- Keeps the entries that pass a test. -/
def filter (t : Table κ α) (keep : κ → α → Bool) : Table κ α :=
  ⟨t.entries.filter fun e => keep e.1 e.2, t.ascending.filter _⟩

/-- Removes a key. -/
def erase (t : Table κ α) (k : κ) : Table κ α := t.filter fun k' _ => compare k' k != .eq

/-- Changes the values. -/
def map (t : Table κ α) (f : κ → α → β) : Table κ β :=
  ⟨t.entries.map fun e => (e.1, f e.1 e.2), by
    refine List.pairwise_map.mpr ?_
    exact t.ascending⟩

/-- Sets the value of a key, or removes the key. -/
def set (t : Table κ α) (k : κ) (v : Option α) : Table κ α :=
  match v with
  | some v => t.put k v
  | none => t.erase k

/-- Changes values and drops those entries that have none left. -/
def filterMap (t : Table κ α) (f : κ → α → Option β) : Table κ β :=
  ⟨t.entries.filterMap fun e => (f e.1 e.2).map fun v => (e.1, v), by
    refine List.pairwise_filterMap.mpr (t.ascending.imp fun {a b} hab c hc d hd => ?_)
    obtain ⟨_, _, rfl⟩ := Option.map_eq_some_iff.mp hc
    obtain ⟨_, _, rfl⟩ := Option.map_eq_some_iff.mp hd
    exact hab⟩

/-- Number of entries. -/
def size (t : Table κ α) : Nat := t.entries.length

/-- Whether the key has a value. -/
def contains (t : Table κ α) (k : κ) : Bool := (t.get? k).isSome

end Table

/-! ## 3. Looking up -/

omit [Std.TransOrd κ] [Std.LawfulEqOrd κ] in
@[simp] theorem Table.get?_empty (k : κ) : (empty : Table κ α).get? k = none := rfl

omit [Std.TransOrd κ] in
theorem find?_putEntry_self (k : κ) (v : α) : ∀ entries : List (κ × α),
    (putEntry k v entries).find? (fun e => compare e.1 k == .eq) = some (k, v)
  | [] => by simp [putEntry]
  | e :: rest => by
    rw [putEntry]
    split
    · simp
    · simp
    · rename_i h
      have hne : compare e.1 k ≠ .eq := by
        intro he
        rw [Std.LawfulEqCmp.eq_of_compare he] at h
        simp at h
      simp only [List.find?_cons, beq_eq_false_iff_ne.mpr hne]
      exact find?_putEntry_self k v rest

omit [Std.TransOrd κ] in
theorem find?_putEntry_ne {k j : κ} (v : α) (hne : k ≠ j) : ∀ entries : List (κ × α),
    (putEntry k v entries).find? (fun e => compare e.1 j == .eq) =
      entries.find? (fun e => compare e.1 j == .eq)
  | [] => by
    have : compare k j ≠ .eq := fun h => hne (Std.LawfulEqCmp.eq_of_compare h)
    simp [putEntry, this]
  | e :: rest => by
    have hkj : compare k j ≠ .eq := fun h => hne (Std.LawfulEqCmp.eq_of_compare h)
    rw [putEntry]
    split
    · simp [hkj]
    · rename_i h
      have hek : k = e.1 := Std.LawfulEqCmp.eq_of_compare h
      simp [← hek, hkj]
    · simp only [List.find?_cons]
      rw [find?_putEntry_ne v hne rest]

/-- A key has the value it was given. -/
@[simp] theorem Table.get?_put_self (t : Table κ α) (k : κ) (v : α) :
    (t.put k v).get? k = some v := by
  simp [get?, put, find?_putEntry_self]

/-- **Giving a key a value leaves the other keys alone.** -/
theorem Table.get?_put_of_ne (t : Table κ α) {k j : κ} (v : α) (hne : k ≠ j) :
    (t.put k v).get? j = t.get? j := by
  simp [get?, put, find?_putEntry_ne v hne]

/-- Both cases of a look-up after a change. -/
theorem Table.get?_put [DecidableEq κ] (t : Table κ α) (k j : κ) (v : α) :
    (t.put k v).get? j = if k = j then some v else t.get? j := by
  split
  · rename_i h; subst h; exact t.get?_put_self k v
  · rename_i h; exact t.get?_put_of_ne v h

omit [Std.TransOrd κ] in
/-- A removed key has no value. -/
@[simp] theorem Table.get?_erase_self (t : Table κ α) (k : κ) : (t.erase k).get? k = none := by
  simp [get?, erase, filter, List.find?_eq_none]

omit [Std.TransOrd κ] in
/-- Removing a key leaves the other keys alone. -/
theorem Table.get?_erase_of_ne (t : Table κ α) {k j : κ} (hne : k ≠ j) :
    (t.erase k).get? j = t.get? j := by
  simp only [get?, erase, filter, List.find?_filter]
  congr 1
  congr 1
  funext e
  by_cases h : compare e.1 j = .eq
  · have hek : compare e.1 k ≠ .eq := by
      intro he
      exact hne ((Std.LawfulEqCmp.eq_of_compare he).symm.trans (Std.LawfulEqCmp.eq_of_compare h))
    simp [h, hek]
  · simp [h]

omit [Std.TransOrd κ] [Std.LawfulEqOrd κ] in
/-- Changing the values changes what is looked up. -/
theorem Table.get?_map [DecidableEq κ] [Std.LawfulEqOrd κ] (t : Table κ α) (f : κ → α → β)
    (k : κ) : (t.map f).get? k = (t.get? k).map (f k) := by
  simp only [get?, map]
  induction t.entries with
  | nil => rfl
  | cons e rest ih =>
    by_cases h : compare e.1 k = .eq
    · have := Std.LawfulEqCmp.eq_of_compare h
      simp [this]
    · simpa [h] using ih

/-! ## 4. Entries -/

section Entries

omit [Std.TransOrd κ]

/-- Among ascending entries each is the first one of its key. -/
theorem find?_of_mem {entries : List (κ × α)} (h : Ascending entries) {k : κ} {v : α}
    (hmem : (k, v) ∈ entries) :
    entries.find? (fun e => compare e.1 k == .eq) = some (k, v) := by
  induction entries with
  | nil => cases hmem
  | cons e rest ih =>
    obtain ⟨hhead, hrest⟩ := List.pairwise_cons.mp h
    rcases List.mem_cons.mp hmem with rfl | hmem
    · simp
    · have hne : compare e.1 k ≠ .eq := by
        rw [hhead _ hmem]
        exact nofun
      simp only [List.find?_cons, beq_eq_false_iff_ne.mpr hne]
      exact ih hrest hmem

/-- What is found for a key is an entry. -/
theorem Table.mem_of_get? (t : Table κ α) {k : κ} {v : α} (h : t.get? k = some v) :
    (k, v) ∈ t.entries := by
  obtain ⟨e, he, rfl⟩ := Option.map_eq_some_iff.mp h
  have hfound := List.find?_some he
  have hk : e.1 = k := by simpa using hfound
  exact hk ▸ List.mem_of_find?_eq_some he

/-- **Looking up finds the entries.** -/
theorem Table.get?_eq_some_iff (t : Table κ α) {k : κ} {v : α} :
    t.get? k = some v ↔ (k, v) ∈ t.entries :=
  ⟨t.mem_of_get?, fun h => by rw [get?, find?_of_mem t.ascending h]; rfl⟩

/-- What passes a test is still found. -/
theorem Table.get?_filter (t : Table κ α) (keep : κ → α → Bool) (k : κ) :
    (t.filter keep).get? k = (t.get? k).filter (keep k) := by
  refine Option.ext fun v => ?_
  rw [get?_eq_some_iff, Option.filter_eq_some_iff, get?_eq_some_iff]
  simp [filter]

/-- Changing values or dropping entries does so to what is looked up. -/
theorem Table.get?_filterMap (t : Table κ α) (f : κ → α → Option β) (k : κ) :
    (t.filterMap f).get? k = (t.get? k).bind (f k) := by
  refine Option.ext fun w => ?_
  rw [get?_eq_some_iff, Option.bind_eq_some_iff]
  simp only [filterMap, List.mem_filterMap, Option.map_eq_some_iff, Prod.mk.injEq]
  constructor
  · rintro ⟨⟨j, v⟩, hmem, w', hf, rfl, rfl⟩
    exact ⟨v, t.get?_eq_some_iff.mpr hmem, hf⟩
  · rintro ⟨v, hget, hf⟩
    exact ⟨(k, v), t.get?_eq_some_iff.mp hget, w, hf, rfl, rfl⟩

end Entries

/-- Both ways of setting a key, and the other keys. -/
theorem Table.get?_set [DecidableEq κ] (t : Table κ α) (k j : κ) (v : Option α) :
    (t.set k v).get? j = if k = j then v else t.get? j := by
  cases v with
  | some v => exact t.get?_put k j v
  | none =>
    by_cases h : k = j
    · subst h; simp [set]
    · simp [set, h, t.get?_erase_of_ne h]

/-! ## 5. Collecting in order -/

omit [Std.TransOrd κ] [Std.LawfulEqOrd κ] in
/-- An entry behind all others is put last. -/
theorem putEntry_of_last [Std.OrientedOrd κ] {k : κ} {v : α} {entries : List (κ × α)}
    (h : ∀ e ∈ entries, compare e.1 k = .lt) : putEntry k v entries = entries ++ [(k, v)] := by
  induction entries with
  | nil => rfl
  | cons e rest ih =>
    have hgt : compare k e.1 = .gt := Std.OrientedCmp.gt_of_lt (h e List.mem_cons_self)
    rw [putEntry, hgt, List.cons_append]
    exact congrArg _ (ih fun d hd => h d (List.mem_cons_of_mem _ hd))

/-- **A table is what its entries make,** put in order. -/
theorem Table.foldl_put_entries (t : Table κ α) :
    t.entries.foldl (fun t e => t.put e.1 e.2) .empty = t := by
  have hfold : ∀ (entries : List (κ × α)) (t : Table κ α), Ascending (t.entries ++ entries) →
      (entries.foldl (fun t e => t.put e.1 e.2) t).entries = t.entries ++ entries := by
    intro entries
    induction entries with
    | nil => exact fun t _ => (List.append_nil _).symm
    | cons e rest ih =>
      intro t ht
      have hput : (t.put e.1 e.2).entries = t.entries ++ [e] :=
        putEntry_of_last fun d hd => (List.pairwise_append.mp ht).2.2 d hd e List.mem_cons_self
      have happend : (t.put e.1 e.2).entries ++ rest = t.entries ++ e :: rest := by
        rw [hput, List.append_assoc, List.singleton_append]
      rw [List.foldl_cons, ih _ (happend ▸ ht), happend]
  exact Table.ext (hfold t.entries .empty t.ascending)

omit [Std.TransOrd κ] in
/-- Ascending entries are all different. -/
theorem Ascending.nodup {entries : List (κ × α)} (h : Ascending entries) : entries.Nodup :=
  h.imp fun {a b} hlt heq => by
    rw [heq, Std.ReflOrd.compare_self] at hlt
    cases hlt

/-- **A table that finds what stands among ascending entries** has these entries. -/
theorem Table.entries_eq (t : Table κ α) {entries : List (κ × α)} (h : Ascending entries)
    (hget : ∀ k v, t.get? k = some v ↔ (k, v) ∈ entries) : t.entries = entries := by
  have hmem (e : κ × α) : e ∈ t.entries ↔ e ∈ entries := by
    rw [← hget, t.get?_eq_some_iff]
  have hperm := (List.perm_ext_iff_of_nodup t.ascending.nodup h.nodup).mpr hmem
  refine hperm.eq_of_pairwise (fun a b _ _ hab hba => ?_) t.ascending h
  rw [Std.OrientedCmp.gt_of_lt hab] at hba
  cases hba

end Spreadsheet.Grid
