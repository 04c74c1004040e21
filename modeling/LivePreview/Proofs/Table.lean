import Mathlib.Data.List.Perm.Basic
import LivePreview.Table

namespace LivePreview.Table

variable {β : Type} {k : String} {v : β} {t t' : Table β} {ps : List (String × β)}

theorem lookup_isSome : (lookup k ps).isSome = true ↔ k ∈ ps.map Prod.fst := by
  induction ps with
  | nil => simp [lookup]
  | cons p ps ih =>
    rw [lookup, List.map_cons, List.mem_cons, ← ih]
    by_cases hk : p.1 = k
    · simp [hk]
    · simp [hk, Ne.symm hk]

theorem mem_keys_iff : k ∈ t.keys ↔ (t.get? k).isSome = true := lookup_isSome.symm

theorem size_congr (ht : t.keys.Nodup) (ht' : t'.keys.Nodup) (h : ∀ k, t.get? k = t'.get? k) :
    t.size = t'.size := by
  have hperm : t.keys.Perm t'.keys := by
    refine (List.perm_ext_iff_of_nodup ht ht').mpr (fun k => ?_)
    rw [mem_keys_iff, mem_keys_iff, h]
  simpa [keys, size] using hperm.length_eq

def insertAll (t : Table β) (ps : List (String × β)) : Table β :=
  ps.foldl (fun t p => t.insert p.1 p.2) t

theorem keys_insertAll {ks : List String} (h : t.keys = ks.eraseDups) (ps : List (String × β)) :
    (t.insertAll ps).keys = (ks ++ ps.map Prod.fst).eraseDups := by
  induction ps generalizing t ks with
  | nil => rw [List.map_nil, List.append_nil]; exact h
  | cons p ps ih =>
    rw [insertAll, List.foldl_cons, ← insertAll, ih (keys_insert_eraseDups h p.1 p.2),
      List.map_cons, List.append_assoc, List.singleton_append]

theorem get?_insertAll (t : Table β) (ps : List (String × β)) (k : String) :
    (t.insertAll ps).get? k =
      ((ps.reverse.find? (fun p => p.1 = k)).map Prod.snd).or (t.get? k) := by
  induction ps generalizing t with
  | nil => rfl
  | cons p ps ih =>
    rw [insertAll, List.foldl_cons, ← insertAll, ih, get?_insert, List.reverse_cons,
      List.find?_append]
    cases List.find? (fun p : String × β => decide (p.1 = k)) ps.reverse with
    | some q => rfl
    | none => by_cases hk : p.1 = k <;> simp [hk]

theorem keys_ofList (ps : List (String × β)) :
    (ofList ps).keys = (ps.map Prod.fst).eraseDups := by
  have hempty : (empty : Table β).keys = ([] : List String).eraseDups := rfl
  exact keys_insertAll hempty ps

theorem insertAll_nodup (h : t.keys.Nodup) (ps : List (String × β)) :
    (t.insertAll ps).keys.Nodup := by
  induction ps generalizing t with
  | nil => exact h
  | cons p ps ih => exact ih (insert_nodup h p.1 p.2)

theorem ofList_nodup (ps : List (String × β)) : (ofList ps).keys.Nodup := by
  have hempty : (empty : Table β).keys.Nodup := .nil
  exact insertAll_nodup hempty ps

theorem eraseDups_nodup (ks : List String) : ks.eraseDups.Nodup := by
  have hkeys : (ks.map (fun k => (k, ()))).map Prod.fst = ks :=
    List.map_map.trans (List.map_id ks)
  have hnodup := ofList_nodup (ks.map (fun k => (k, ())))
  rwa [keys_ofList, hkeys] at hnodup

theorem mem_keys_ofList : k ∈ (ofList ps).keys ↔ k ∈ ps.map Prod.fst := by
  rw [keys_ofList, List.mem_eraseDups]

theorem get?_ofList (ps : List (String × β)) (k : String) :
    (ofList ps).get? k = (ps.reverse.find? (fun p => p.1 = k)).map Prod.snd := by
  rw [ofList, ← insertAll, get?_insertAll]
  exact Option.or_none ..

theorem place_new (h : k ∉ ps.map Prod.fst) : place k v ps = ps ++ [(k, v)] := by
  induction ps with
  | nil => rfl
  | cons p ps ih =>
    obtain ⟨hp, hps⟩ := not_or.mp (mt List.mem_cons.mpr h)
    rw [place, if_neg (fun he => hp he.symm), ih hps, List.cons_append]

theorem entries_insertAll (h : ((t.entries ++ ps).map Prod.fst).Nodup) :
    (t.insertAll ps).entries = t.entries ++ ps := by
  induction ps generalizing t with
  | nil => exact (List.append_nil _).symm
  | cons p ps ih =>
    have hnew : p.1 ∉ t.entries.map Prod.fst := by
      intro hp
      rw [List.map_append, List.map_cons] at h
      exact (List.nodup_append.mp h).2.2 _ hp _ List.mem_cons_self rfl
    have hplaced : (t.insert p.1 p.2).entries = t.entries ++ [p] := place_new hnew
    rw [insertAll, List.foldl_cons, ← insertAll, ih, hplaced, List.append_assoc]
    · rfl
    · rwa [hplaced, List.append_assoc]

theorem ofList_entries (h : t.keys.Nodup) : ofList t.entries = t := by
  have hentries : ((empty : Table β).insertAll t.entries).entries = [] ++ t.entries :=
    entries_insertAll h
  cases t
  exact congrArg Table.mk hentries

end LivePreview.Table
