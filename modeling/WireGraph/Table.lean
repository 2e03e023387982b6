/-!
# Tables

Records under distinct keys, in the order in which the keys first came. Storing under a key that is
present replaces its record and keeps its place.

Main statements: the keys stay distinct (they are part of the type), and what each operation does to
the entries, the keys and the records looked up.
-/

namespace WireGraph

structure Table (α : Type) where
  entries : List (String × α)
  distinct : (entries.map Prod.fst).Nodup
deriving DecidableEq

namespace Table

variable {α : Type}

def empty : Table α := ⟨[], List.nodup_nil⟩

instance : EmptyCollection (Table α) := ⟨empty⟩
instance : Inhabited (Table α) := ⟨empty⟩
instance [Repr α] : Repr (Table α) := ⟨fun t => reprPrec t.entries⟩

def keys (t : Table α) : List String := t.entries.map Prod.fst

def values (t : Table α) : List α := t.entries.map Prod.snd

def contains (t : Table α) (key : String) : Bool := t.keys.contains key

def get? (t : Table α) (key : String) : Option α := t.entries.lookup key

def replaceEntry (key : String) (value : α) (e : String × α) : String × α :=
  if e.1 = key then (e.1, value) else e

theorem map_fst_replaceEntry (key : String) (value : α) (es : List (String × α)) :
    (es.map (replaceEntry key value)).map Prod.fst = es.map Prod.fst := by
  induction es with
  | nil => rfl
  | cons e es ih => by_cases h : e.1 = key <;> simp_all [replaceEntry]

-- Stores `value` under `key`: in the place of the key when it is present, at the end otherwise.
def insert (t : Table α) (key : String) (value : α) : Table α :=
  if h : key ∈ t.keys then
    { entries := t.entries.map (replaceEntry key value)
      distinct := by rw [map_fst_replaceEntry]; exact t.distinct }
  else
    { entries := t.entries ++ [(key, value)]
      distinct := by
        rw [List.map_append, List.nodup_append]
        refine ⟨t.distinct, by simp, ?_⟩
        intro a ha b hb
        simp only [List.map_cons, List.map_nil, List.mem_singleton] at hb
        subst hb
        exact fun same => h (same ▸ ha) }

def filter (t : Table α) (keep : String × α → Bool) : Table α :=
  { entries := t.entries.filter keep
    distinct := t.distinct.sublist (List.filter_sublist.map _) }

def erase (t : Table α) (key : String) : Table α := t.filter fun e => e.1 != key

theorem map_fst_map (f : α → α) (es : List (String × α)) :
    (es.map fun e => (e.1, f e.2)).map Prod.fst = es.map Prod.fst := by
  simp [Function.comp_def]

def mapValues (t : Table α) (f : α → α) : Table α :=
  { entries := t.entries.map fun e => (e.1, f e.2)
    distinct := by rw [map_fst_map]; exact t.distinct }

def ofList (key : α → String) (records : List α) : Table α :=
  records.foldl (fun t r => t.insert (key r) r) empty

@[simp] theorem keys_empty : (empty : Table α).keys = [] := rfl

@[simp] theorem entries_empty : (empty : Table α).entries = [] := rfl

theorem keys_nodup (t : Table α) : t.keys.Nodup := t.distinct

@[ext] theorem ext {s t : Table α} (h : s.entries = t.entries) : s = t := by
  cases s; cases t; cases h; rfl

theorem contains_iff {t : Table α} {key : String} : t.contains key = true ↔ key ∈ t.keys := by
  simp [contains]

theorem entries_insert_of_mem {t : Table α} {key : String} {value : α} (h : key ∈ t.keys) :
    (t.insert key value).entries = t.entries.map (replaceEntry key value) := by
  simp [insert, h]

theorem entries_insert_of_not_mem {t : Table α} {key : String} {value : α} (h : key ∉ t.keys) :
    (t.insert key value).entries = t.entries ++ [(key, value)] := by
  simp [insert, h]

theorem keys_insert (t : Table α) (key : String) (value : α) :
    (t.insert key value).keys = if key ∈ t.keys then t.keys else t.keys ++ [key] := by
  by_cases h : key ∈ t.keys
  · rw [if_pos h]
    rw [keys, entries_insert_of_mem h, map_fst_replaceEntry, keys]
  · rw [if_neg h]
    simp [keys, entries_insert_of_not_mem h]

@[simp] theorem entries_erase (t : Table α) (key : String) :
    (t.erase key).entries = t.entries.filter fun e => e.1 != key := rfl

@[simp] theorem entries_filter (t : Table α) (keep : String × α → Bool) :
    (t.filter keep).entries = t.entries.filter keep := rfl

@[simp] theorem keys_mapValues (t : Table α) (f : α → α) : (t.mapValues f).keys = t.keys :=
  map_fst_map f t.entries

@[simp] theorem values_mapValues (t : Table α) (f : α → α) :
    (t.mapValues f).values = t.values.map f := by
  simp [mapValues, values, Function.comp_def]

theorem lookup_mem {key : String} {value : α} : ∀ {es : List (String × α)},
    es.lookup key = some value → (key,value) ∈ es
  | [], found => by cases found
  | (k,v) :: es, found => by
    by_cases same : key = k
    · subst same
      rw [List.lookup_cons_self] at found
      cases found
      exact List.mem_cons_self
    · have other : (key == k) = false := by simp [same]
      rw [List.lookup_cons,other] at found
      exact List.mem_cons_of_mem _ (lookup_mem found)

theorem mem_lookup {key : String} {value : α} : ∀ {es : List (String × α)},
    (es.map Prod.fst).Nodup → (key,value) ∈ es → es.lookup key = some value
  | [], _, stored => by cases stored
  | (k,v) :: es, distinct, stored => by
    rw [List.map_cons,List.nodup_cons] at distinct
    rcases List.mem_cons.mp stored with same | later
    · cases same
      exact List.lookup_cons_self
    · have other : (key == k) = false := by
        rw [beq_eq_false_iff_ne]
        rintro rfl
        exact distinct.1 (List.mem_map.mpr ⟨_,later,rfl⟩)
      rw [List.lookup_cons,other]
      exact mem_lookup distinct.2 later

theorem get?_iff {t : Table α} {key : String} {value : α} :
    t.get? key = some value ↔ (key,value) ∈ t.entries :=
  ⟨lookup_mem,mem_lookup t.distinct⟩

theorem entry_unique {t : Table α} {key : String} {a b : α} (first : (key,a) ∈ t.entries)
    (second : (key,b) ∈ t.entries) : a = b :=
  Option.some.inj ((get?_iff.mpr first).symm.trans (get?_iff.mpr second))

theorem mem_keys {t : Table α} {key : String} : key ∈ t.keys ↔ ∃ value, (key,value) ∈ t.entries := by
  simp [keys]

theorem key_mem {t : Table α} {e : String × α} (stored : e ∈ t.entries) : e.1 ∈ t.keys :=
  List.mem_map.mpr ⟨e,stored,rfl⟩

theorem mem_keys_insert {t : Table α} {key other : String} {value : α} :
    other ∈ (t.insert key value).keys ↔ other ∈ t.keys ∨ other = key := by
  rw [keys_insert]
  split
  · rename_i present
    constructor
    · exact .inl
    · rintro (old | rfl)
      · exact old
      · exact present
  · simp

theorem mem_keys_erase {t : Table α} {key other : String} :
    other ∈ (t.erase key).keys ↔ other ∈ t.keys ∧ other ≠ key := by
  simp [mem_keys]

theorem mem_insert {t : Table α} {key : String} {value : α} {e : String × α} :
    e ∈ (t.insert key value).entries ↔ e = (key,value) ∨ (e ∈ t.entries ∧ e.1 ≠ key) := by
  by_cases present : key ∈ t.keys
  · rw [entries_insert_of_mem present,List.mem_map]
    constructor
    · rintro ⟨old,stored,rfl⟩
      by_cases same : old.1 = key
      · exact .inl (by simp [replaceEntry,same])
      · exact .inr (by simpa [replaceEntry,same] using stored)
    · rintro (rfl | ⟨stored,other⟩)
      · obtain ⟨old,stored⟩ := mem_keys.mp present
        exact ⟨_,stored,by simp [replaceEntry]⟩
      · exact ⟨e,stored,by simp [replaceEntry,other]⟩
  · rw [entries_insert_of_not_mem present,List.mem_append,List.mem_singleton]
    constructor
    · rintro (stored | rfl)
      · refine .inr ⟨stored,?_⟩
        rintro rfl
        exact present (key_mem stored)
      · exact .inl rfl
    · rintro (rfl | ⟨stored,_⟩)
      · exact .inr rfl
      · exact .inl stored

theorem ofList_key (key : α → String) (records : List α) :
    ∀ e ∈ (ofList key records).entries, key e.2 = e.1 := by
  have collect : ∀ t : Table α, (∀ e ∈ t.entries, key e.2 = e.1) →
      ∀ e ∈ (records.foldl (fun t r => t.insert (key r) r) t).entries, key e.2 = e.1 := by
    induction records with
    | nil => exact fun _ kept => kept
    | cons r rest ih =>
      intro t kept
      refine ih _ fun e stored => ?_
      rcases mem_insert.mp stored with rfl | ⟨old,_⟩
      · rfl
      · exact kept e old
  exact collect empty fun e stored => by cases stored

end Table

end WireGraph
