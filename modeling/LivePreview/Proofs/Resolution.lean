import Mathlib.Data.List.Nodup
import LivePreview.Proofs.Flattening
import LivePreview.ImportMap

namespace LivePreview.ImportMap

open Claims LivePreview.Path

variable {externals : List External} {rs : List PublishedResource} {s : String}

theorem mem_specifiers {path : String} : s ∈ specifiers path ↔
    s = path ∨ s = "./" ++ path ∨ s = "./" ++ fileName path ∨ s = "./" ++ stem path := by
  simp [specifiers, Alias.all, Alias.specifier]

def assign (value : String) (t : Table String) (names : List String) : Table String :=
  names.foldl (fun t name => t.insert name value) t

theorem get?_assign (value : String) (t : Table String) (names : List String) (s : String) :
    (assign value t names).get? s = if s ∈ names then some value else t.get? s := by
  rw [assign]
  induction names generalizing t with
  | nil => simp
  | cons name names ih =>
    rw [List.foldl_cons, ih, Table.get?_insert]
    by_cases hs : s ∈ names
    · rw [if_pos hs, if_pos (List.mem_cons_of_mem name hs)]
    · by_cases hn : name = s
      · rw [if_neg hs, if_pos hn, if_pos (List.mem_cons.mpr (.inl hn.symm))]
      · rw [if_neg hs, if_neg hn,
          if_neg (fun h => (List.mem_cons.mp h).elim (fun he => hn he.symm) hs)]

theorem assign_eq (value : String) (t : Table String) (names : List String) :
    assign value t names = t.insertAll (names.map (fun name => (name, value))) := by
  rw [assign, Table.insertAll, List.foldl_map]

theorem claimed_targets (c : Claims) (path target : String) (names : List String) :
    (names.foldl (claim path target) c).targets = assign target c.targets names :=
  (List.foldl_hom Claims.targets (fun _ _ => rfl)).symm

theorem claimed_owners (c : Claims) (path target : String) (names : List String) :
    (names.foldl (claim path target) c).owners = assign path c.owners names :=
  (List.foldl_hom Claims.owners (fun _ _ => rfl)).symm

def owner? (rs : List PublishedResource) (s : String) : Option PublishedResource :=
  rs.reverse.find? (fun r => s ∈ specifiers r.path)

def external? (externals : List External) (s : String) : Option External :=
  externals.reverse.find? (fun e => e.specifier = s)

theorem get?_assigned (value : PublishedResource → String) (rs : List PublishedResource)
    (t : Table String) (s : String) :
    (rs.foldl (fun t r => assign (value r) t (specifiers r.path)) t).get? s =
      ((owner? rs s).map value).or (t.get? s) := by
  induction rs generalizing t with
  | nil => rfl
  | cons r rs ih =>
    rw [List.foldl_cons, ih, get?_assign, owner?, owner?, List.reverse_cons, List.find?_append]
    cases List.find? (fun r => decide (s ∈ specifiers r.path)) rs.reverse with
    | some r' => rfl
    | none => by_cases hs : s ∈ specifiers r.path <;> simp [hs]

def pins (externals : List External) : List (String × String) :=
  externals.map (fun e => (e.specifier, e.url))

theorem get?_pins (externals : List External) (t : Table String) (s : String) :
    (t.insertAll (pins externals)).get? s =
      ((external? externals s).map External.url).or (t.get? s) := by
  rw [Table.get?_insertAll, pins, ← List.map_reverse, List.find?_map, Option.map_map]
  rfl

theorem pinned_column (column : Claims → Table String)
    (hexternal : ∀ c e, (column c).insert e.specifier e.url = column (c.addExternal e))
    (c : Claims) (externals : List External) :
    column (externals.foldl addExternal c) = (column c).insertAll (pins externals) := by
  rw [Table.insertAll, pins, List.foldl_map]
  exact (List.foldl_hom column hexternal).symm

theorem get?_column (column : Claims → Table String) (value : PublishedResource → String)
    (hempty : column {} = Table.empty)
    (hexternal : ∀ c e, (column c).insert e.specifier e.url = column (c.addExternal e))
    (hresource : ∀ c r, assign (value r) (column c) (specifiers r.path) = column (c.addResource r))
    (externals : List External) (rs : List PublishedResource) (s : String) :
    (column (build externals rs)).get? s =
      ((owner? rs s).map value).or ((external? externals s).map External.url) := by
  have hfiles : ∀ c, column (rs.foldl addResource c) =
      rs.foldl (fun t r => assign (value r) t (specifiers r.path)) (column c) :=
    fun _ => (List.foldl_hom column hresource).symm
  rw [build, hfiles, pinned_column column hexternal, hempty, get?_assigned, get?_pins]
  exact congrArg _ (Option.or_none ..)

theorem get?_build (externals : List External) (rs : List PublishedResource) (s : String) :
    (build externals rs).targets.get? s =
      ((owner? rs s).map (fun r => r.handle.uri)).or
        ((external? externals s).map External.url) :=
  get?_column Claims.targets (fun r => r.handle.uri) rfl (fun _ _ => rfl)
    (fun c r => (claimed_targets c r.path r.handle.uri _).symm) externals rs s

theorem get?_owners (externals : List External) (rs : List PublishedResource) (s : String) :
    (build externals rs).owners.get? s =
      ((owner? rs s).map PublishedResource.path).or ((external? externals s).map External.url) :=
  get?_column Claims.owners PublishedResource.path rfl (fun _ _ => rfl)
    (fun c r => (claimed_owners c r.path r.handle.uri _).symm) externals rs s

theorem owner?_some {r : PublishedResource} (h : owner? rs s = some r) :
    r ∈ rs ∧ s ∈ specifiers r.path := by
  rw [owner?] at h
  have hclaims := List.find?_some h
  exact ⟨List.mem_reverse.mp (List.mem_of_find?_eq_some h), of_decide_eq_true hclaims⟩

theorem get?_of_owner {r : PublishedResource} (hr : r ∈ rs) (hs : s ∈ specifiers r.path)
    (honly : ∀ r' ∈ rs, s ∈ specifiers r'.path → r' = r) :
    (build externals rs).targets.get? s = some r.handle.uri := by
  rw [get?_build]
  cases ho : owner? rs s with
  | none =>
    rw [owner?, List.find?_eq_none] at ho
    exact absurd (decide_eq_true hs) (ho r (List.mem_reverse.mpr hr))
  | some r' =>
    obtain ⟨hr', hs'⟩ := owner?_some ho
    rw [honly r' hr' hs']
    rfl

theorem owner_of_get? {target : String} (h : (build externals rs).targets.get? s = some target)
    (hs : ∀ e ∈ externals, e.specifier ≠ s) : ∃ r ∈ rs, target = r.handle.uri := by
  rw [get?_build] at h
  cases ho : owner? rs s with
  | some r =>
    rw [ho] at h
    exact ⟨r, (owner?_some ho).1, (Option.some.inj h).symm⟩
  | none =>
    have hnone : external? externals s = none := by
      rw [external?, List.find?_eq_none]
      exact fun e he => by simpa using hs e (List.mem_reverse.mp he)
    rw [ho, hnone] at h
    cases h

theorem append_cancel {a b c : String} (h : a ++ b = a ++ c) : b = c := by
  have hchars := congrArg String.toList h
  rw [String.toList_append, String.toList_append] at hchars
  exact String.toList_injective (List.append_cancel_left hchars)

theorem owner_of_path {p q : String} (hp : Plain p) (h : p ∈ specifiers q) : q = p := by
  rcases mem_specifiers.mp h with h | h | h | h
  · exact h.symm
  · exact absurd h (hp.ne_dot _)
  · exact absurd h (hp.ne_dot _)
  · exact absurd h (hp.ne_dot _)

theorem owner_of_dotPath {p q : String} (hp : hasSeparator p = true) (hq : Plain q)
    (h : "./" ++ p ∈ specifiers q) : q = p := by
  rw [hasSeparator_iff] at hp
  rcases mem_specifiers.mp h with h | h | h | h
  · exact absurd h.symm (hq.ne_dot p)
  · exact (append_cancel h).symm
  · exact absurd (append_cancel h ▸ hp) (fileName_no_slash q)
  · exact absurd (append_cancel h ▸ hp) (stem_no_slash q)

def Reaches (m : ImportMap) (r : PublishedResource) : Prop :=
  m.get? r.path = some r.handle.uri ∧
    (hasSeparator r.path = true → m.get? ("./" ++ r.path) = some r.handle.uri)

theorem build_reaches_files (externals : List External)
    (hplain : ∀ r ∈ rs, Plain r.path) (hn : (rs.map PublishedResource.path).Nodup) :
    ∀ r ∈ rs, (build externals rs).targets.Reaches r := by
  intro r hr
  refine ⟨?_, fun hsep => ?_⟩
  · refine get?_of_owner hr (mem_specifiers.mpr (.inl rfl)) (fun r' hr' hs => ?_)
    exact List.inj_on_of_nodup_map hn hr' hr (owner_of_path (hplain r hr) hs)
  · refine get?_of_owner hr (mem_specifiers.mpr (.inr (.inl rfl))) (fun r' hr' hs => ?_)
    exact List.inj_on_of_nodup_map hn hr' hr (owner_of_dotPath hsep (hplain r' hr') hs)

end LivePreview.ImportMap
