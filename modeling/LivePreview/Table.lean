namespace LivePreview

/-- Entries in the order in which their keys came first; a key has the value it was given last. -/
structure Table (β : Type) where
  entries : List (String × β) := []
  deriving Repr

namespace Table

variable {β : Type}

def empty : Table β := ⟨[]⟩

def lookup (k : String) : List (String × β) → Option β
  | [] => none
  | (k', v) :: rest => if k' = k then some v else lookup k rest

def place (k : String) (v : β) : List (String × β) → List (String × β)
  | [] => [(k, v)]
  | (k', v') :: rest => if k' = k then (k', v) :: rest else (k', v') :: place k v rest

def get? (t : Table β) (k : String) : Option β := lookup k t.entries

def insert (t : Table β) (k : String) (v : β) : Table β := ⟨place k v t.entries⟩

def ofList (ps : List (String × β)) : Table β :=
  ps.foldl (fun t p => t.insert p.1 p.2) empty

def size (t : Table β) : Nat := t.entries.length

def keys (t : Table β) : List String := t.entries.map Prod.fst

theorem lookup_place (k k' : String) (v : β) (ps : List (String × β)) :
    lookup k' (place k v ps) = if k = k' then some v else lookup k' ps := by
  induction ps with
  | nil => simp [place, lookup]
  | cons p ps ih =>
      obtain ⟨q, w⟩ := p
      by_cases h : q = k
      · by_cases h' : q = k' <;> simp_all [place, lookup]
      · by_cases h' : q = k'
        · have : k ≠ k' := fun e => h (h'.trans e.symm)
          simp_all [place, lookup]
        · simp_all [place, lookup]

theorem get?_insert (t : Table β) (k k' : String) (v : β) :
    (t.insert k v).get? k' = if k = k' then some v else t.get? k' :=
  lookup_place k k' v t.entries

theorem place_keys (k : String) (v : β) (ps : List (String × β)) :
    (place k v ps).map Prod.fst =
      if k ∈ ps.map Prod.fst then ps.map Prod.fst else ps.map Prod.fst ++ [k] := by
  induction ps with
  | nil => rfl
  | cons p ps ih =>
      obtain ⟨q, w⟩ := p
      by_cases h : q = k
      · simp [place, h]
      · have h' : k ≠ q := fun e => h e.symm
        by_cases hm : k ∈ ps.map Prod.fst
        · rw [if_pos hm] at ih
          rw [place, if_neg h, List.map_cons, ih, List.map_cons,
            if_pos (List.mem_cons_of_mem q hm)]
        · rw [if_neg hm] at ih
          rw [place, if_neg h, List.map_cons, ih, List.map_cons,
            if_neg (fun he => (List.mem_cons.mp he).elim h' hm), List.cons_append]

theorem insert_nodup {t : Table β} (h : t.keys.Nodup) (k : String) (v : β) :
    (t.insert k v).keys.Nodup := by
  rw [keys, insert, place_keys]
  split
  · exact h
  · rename_i hk
    refine List.nodup_append.mpr ⟨h, List.nodup_cons.mpr ⟨nofun, .nil⟩, ?_⟩
    rintro q hq q' hq' rfl
    exact hk (List.mem_singleton.mp hq' ▸ hq)

theorem keys_insert_eraseDups {t : Table β} {ks : List String} (h : t.keys = ks.eraseDups)
    (k : String) (v : β) : (t.insert k v).keys = (ks ++ [k]).eraseDups := by
  have hkeys : (t.insert k v).keys = if k ∈ t.keys then t.keys else t.keys ++ [k] :=
    place_keys k v t.entries
  rw [hkeys, List.eraseDups_append, ← h]
  by_cases hk : k ∈ ks
  · have hmem : k ∈ t.keys := by rw [h, List.mem_eraseDups]; exact hk
    rw [if_pos hmem]
    simp [List.removeAll, hk]
  · have hmem : k ∉ t.keys := by rw [h, List.mem_eraseDups]; exact hk
    rw [if_neg hmem]
    simp [List.removeAll, hk, List.eraseDups_cons]

end Table

end LivePreview
