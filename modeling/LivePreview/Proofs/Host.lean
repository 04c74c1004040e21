import Mathlib.Data.List.Nodup
import Mathlib.Logic.Function.Basic
import LivePreview.Resource.Arena

namespace LivePreview

namespace Serial

def hexValue (c : Char) : Nat := if c.toNat < 58 then c.toNat - 48 else c.toNat - 87

def value (ds : List Char) : Nat := ds.foldl (fun n c => n * 16 + hexValue c) 0

theorem hexValue_digitChar : ∀ d < 16, hexValue (Nat.digitChar d) = d := by decide

theorem value_append (ds : List Char) (c : Char) :
    value (ds ++ [c]) = value ds * 16 + hexValue c := by
  simp [value]

theorem value_hexDigits (n : Nat) : value (Text.hexDigits n) = n := by
  induction n using Nat.strongRecOn with
  | ind n ih =>
    rcases Nat.lt_or_ge n 16 with h | h
    · rw [Text.hexDigits, Nat.toDigits_of_lt_base h]
      simp [value, hexValue_digitChar n h]
    · have hd := ih (n / 16) (by omega)
      rw [Text.hexDigits] at hd ⊢
      rw [Nat.toDigits_of_base_le (by decide) h, value_append, hd,
        hexValue_digitChar (n % 16) (Nat.mod_lt n (by decide))]
      omega

theorem value_zeros (n : Nat) (ds : List Char) :
    value (List.replicate n '0' ++ ds) = value ds := by
  have hz : (List.replicate n '0').foldl (fun n c => n * 16 + hexValue c) 0 = 0 := by
    induction n with
    | zero => rfl
    | succ n ih => simpa [List.replicate_succ, hexValue] using ih
  rw [value, List.foldl_append, hz, value]

theorem token_injective : Function.Injective token := by
  intro m n h
  have hl : padded (Text.hexDigits m) = padded (Text.hexDigits n) := by
    simpa [token] using congrArg String.toList h
  have hv := congrArg value hl
  simpa only [padded, value_zeros, value_hexDigits] using hv

end Serial

namespace Host

def handles (h : Host) : List Handle := h.blobs.map Prod.fst

def issued (h : Host) : List Handle := (List.range h.created).map (fun i => h.handleOf (i + 1))

def next (h : Host) (n : Nat) : List Handle :=
  (List.range n).map (fun i => h.handleOf (h.created + i + 1))

def extend (h : Host) : List Blob → Host
  | [] => h
  | b :: bs => (h.create b).1.extend bs

structure Sound (h : Host) : Prop where
  nodup : h.handles.Nodup
  known : ∀ k ∈ h.handles, k ∈ h.issued

theorem handleOf_injective (h : Host) : Function.Injective h.handleOf := by
  intro m n hmn
  have hu : "blob:" ++ h.origin ++ "/" ++ Serial.token m =
      "blob:" ++ h.origin ++ "/" ++ Serial.token n := congrArg Handle.uri hmn
  have ht := congrArg String.toList hu
  simp only [String.toList_append, List.append_cancel_left_eq] at ht
  exact Serial.token_injective (String.toList_injective ht)

theorem handleOf_congr {h h' : Host} (ho : h'.origin = h.origin) (n : Nat) :
    h'.handleOf n = h.handleOf n := by
  rw [handleOf, handleOf, ho]

theorem mem_issued {h : Host} {k : Handle} :
    k ∈ h.issued ↔ ∃ n, 1 ≤ n ∧ n ≤ h.created ∧ h.handleOf n = k := by
  simp only [issued, List.mem_map, List.mem_range]
  constructor
  · rintro ⟨i, hi, rfl⟩
    exact ⟨i + 1, by omega, by omega, rfl⟩
  · rintro ⟨n, h1, hn, rfl⟩
    exact ⟨n - 1, by omega, by rw [Nat.sub_add_cancel h1]⟩

theorem issued_nodup (h : Host) : h.issued.Nodup := by
  refine List.Nodup.map ?_ List.nodup_range
  intro a b hab
  have := handleOf_injective h hab
  omega

theorem next_nodup (h : Host) (n : Nat) : (h.next n).Nodup := by
  refine List.Nodup.map ?_ List.nodup_range
  intro a b hab
  have := handleOf_injective h hab
  omega

theorem next_length (h : Host) (n : Nat) : (h.next n).length = n := by simp [next]

theorem next_not_issued {h : Host} {n : Nat} {k : Handle} (hk : k ∈ h.next n) :
    k ∉ h.issued := by
  intro hi
  simp only [next, List.mem_map, List.mem_range] at hk
  obtain ⟨i, _, rfl⟩ := hk
  obtain ⟨m, _, hm, he⟩ := mem_issued.mp hi
  have := handleOf_injective h he
  omega

theorem Sound.next_not_live {h : Host} (hs : h.Sound) {n : Nat} {k : Handle}
    (hk : k ∈ h.next n) : k ∉ h.handles :=
  fun hl => next_not_issued hk (hs.known k hl)

theorem next_succ (h : Host) (b : Blob) (n : Nat) :
    h.next (n + 1) = (h.create b).2 :: (h.create b).1.next n := by
  simp only [next, create, List.range_succ_eq_map, List.map_cons, List.map_map, Nat.add_zero]
  congr 1
  apply List.map_congr_left
  intro i _
  simp only [Function.comp_apply, handleOf]
  congr 3
  omega

theorem extend_spec (h : Host) (bs : List Blob) :
    (h.extend bs).origin = h.origin ∧ (h.extend bs).created = h.created + bs.length ∧
      (h.extend bs).blobs = h.blobs ++ (h.next bs.length).zip bs := by
  induction bs generalizing h with
  | nil => simp [extend, next]
  | cons b bs ih =>
    obtain ⟨ho, hc, hb⟩ := ih (h.create b).1
    refine ⟨ho, ?_, ?_⟩
    · rw [extend, hc, List.length_cons]
      simp only [create]
      omega
    · simp only [extend, hb, List.length_cons, next_succ h b, List.zip_cons_cons]
      simp [create]

theorem extend_append (h : Host) (bs cs : List Blob) :
    h.extend (bs ++ cs) = (h.extend bs).extend cs := by
  induction bs generalizing h with
  | nil => rfl
  | cons b bs ih => exact ih (h.create b).1

theorem extend_handles (h : Host) (bs : List Blob) :
    (h.extend bs).handles = h.handles ++ h.next bs.length := by
  rw [handles, (extend_spec h bs).2.2, List.map_append,
    List.map_fst_zip (by simp [next_length])]
  rfl

theorem extend_issued (h : Host) (bs : List Blob) :
    (h.extend bs).issued = h.issued ++ h.next bs.length := by
  obtain ⟨ho, hc, _⟩ := extend_spec h bs
  rw [issued, hc, List.range_add, List.map_append, issued, next, List.map_map]
  congr 1
  · exact List.map_congr_left (fun i _ => handleOf_congr ho _)
  · exact List.map_congr_left (fun i _ => handleOf_congr ho _)

theorem Sound.extend {h : Host} (hs : h.Sound) (bs : List Blob) : (h.extend bs).Sound := by
  constructor
  · rw [extend_handles]
    refine List.nodup_append.mpr ⟨hs.nodup, h.next_nodup _, ?_⟩
    rintro a ha b hb rfl
    exact hs.next_not_live hb ha
  · intro k hk
    rw [extend_handles, List.mem_append] at hk
    rw [extend_issued, List.mem_append]
    exact hk.imp_left (hs.known k)

theorem Sound.of_filter {h h' : Host} (hs : h.Sound) (p : Handle × Blob → Bool)
    (ho : h'.origin = h.origin) (hc : h'.created = h.created)
    (hb : h'.blobs = h.blobs.filter p) : h'.Sound := by
  have hsub : h'.handles.Sublist h.handles := by
    rw [handles, hb]
    exact List.filter_sublist.map _
  have hi : h'.issued = h.issued := by
    rw [issued, issued, hc]
    exact List.map_congr_left (fun i _ => handleOf_congr ho _)
  exact ⟨hs.nodup.sublist hsub, fun k hk => hi ▸ hs.known k (hsub.subset hk)⟩

theorem lookup_eq_none_iff {k : Handle} {ps : List (Handle × Blob)} :
    lookup k ps = none ↔ k ∉ ps.map Prod.fst := by
  induction ps with
  | nil => simp [lookup]
  | cons p ps ih =>
    obtain ⟨k', b⟩ := p
    by_cases h : k' = k
    · simp [lookup, h]
    · simp [lookup, h, ih, Ne.symm h]

theorem fetch_eq_none_iff {h : Host} {k : Handle} : h.fetch k = none ↔ k ∉ h.handles :=
  lookup_eq_none_iff

theorem lookup_of_mem {k : Handle} {b : Blob} {ps : List (Handle × Blob)}
    (hn : (ps.map Prod.fst).Nodup) (hm : (k, b) ∈ ps) : lookup k ps = some b := by
  induction ps with
  | nil => cases hm
  | cons p ps ih =>
    obtain ⟨k', b'⟩ := p
    obtain ⟨hk, hn⟩ := List.nodup_cons.mp hn
    rcases List.mem_cons.mp hm with he | hm
    · cases he
      simp [lookup]
    · have hne : k' ≠ k := by
        rintro rfl
        exact hk (List.mem_map.mpr ⟨_, hm, rfl⟩)
      rw [lookup, if_neg hne, ih hn hm]

theorem Sound.fetch_of_mem {h : Host} (hs : h.Sound) {k : Handle} {b : Blob}
    (hm : (k, b) ∈ h.blobs) : h.fetch k = some b :=
  lookup_of_mem hs.nodup hm

theorem lookup_append (k : Handle) (ps qs : List (Handle × Blob)) :
    lookup k (ps ++ qs) = (lookup k ps).or (lookup k qs) := by
  induction ps with
  | nil => rfl
  | cons p ps ih =>
    obtain ⟨k', b⟩ := p
    by_cases h : k' = k
    · simp [lookup, h]
    · simp [lookup, h, ih]

theorem fetch_extend {h : Host} {bs : List Blob} {k : Handle} (hk : k ∉ h.next bs.length) :
    (h.extend bs).fetch k = h.fetch k := by
  have hnone : lookup k ((h.next bs.length).zip bs) = none := by
    rw [lookup_eq_none_iff, List.map_fst_zip (by simp [next_length])]
    exact hk
  rw [fetch, (extend_spec h bs).2.2, lookup_append, hnone, Option.or_none]
  rfl

theorem release_handles (h : Host) (k : Handle) :
    (h.release k).1.handles = h.handles.filter (· ≠ k) := by
  simp only [release, handles, List.filter_map]
  rfl

theorem Sound.release {h : Host} (hs : h.Sound) (k : Handle) : (h.release k).1.Sound :=
  hs.of_filter _ rfl rfl rfl

end Host

end LivePreview
