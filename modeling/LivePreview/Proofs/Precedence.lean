import LivePreview.Proofs.Resolution

namespace LivePreview.ImportMap

open Claims LivePreview.Path

variable {c : Claims} {ks : List String}

def mentioned (externals : List External) (rs : List PublishedResource) : List String :=
  externals.map External.specifier ++ rs.flatMap (fun r =>
    [r.path, "./" ++ r.path, "./" ++ fileName r.path, "./" ++ stem r.path])

theorem keys_claimed (h : c.targets.keys = ks.eraseDups) (path target : String)
    (names : List String) :
    (names.foldl (claim path target) c).targets.keys = (ks ++ names).eraseDups := by
  rw [claimed_targets, assign_eq, Table.keys_insertAll h, List.map_map]
  exact congrArg (fun ns => (ks ++ ns).eraseDups) (List.map_id names)

theorem keys_resources (h : c.targets.keys = ks.eraseDups) (rs : List PublishedResource) :
    (rs.foldl addResource c).targets.keys =
      (ks ++ rs.flatMap (fun r => specifiers r.path)).eraseDups := by
  induction rs generalizing c ks with
  | nil => rw [List.flatMap_nil, List.append_nil]; exact h
  | cons r rs ih =>
    have hr : (c.addResource r).targets.keys = (ks ++ specifiers r.path).eraseDups :=
      keys_claimed h r.path r.handle.uri (specifiers r.path)
    rw [List.foldl_cons, ih hr, List.append_assoc, List.flatMap_cons]

theorem keys_externals (h : c.targets.keys = ks.eraseDups) (externals : List External) :
    (externals.foldl addExternal c).targets.keys =
      (ks ++ externals.map External.specifier).eraseDups := by
  rw [pinned_column Claims.targets (fun _ _ => rfl), Table.keys_insertAll h, pins, List.map_map]
  rfl

theorem build_keys (externals : List External) (rs : List PublishedResource) :
    (build externals rs).targets.keys = (mentioned externals rs).eraseDups := by
  have hempty : ({} : Claims).targets.keys = ([] : List String).eraseDups := rfl
  exact keys_resources (keys_externals hempty externals) rs

def Names (s path : String) : Prop :=
  s = path ∨ s = "./" ++ path ∨ s = "./" ++ fileName path ∨ s = "./" ++ stem path

/-- What a specifier stands for: the last file with that name, or else the last such external. -/
inductive Resolves (externals : List External) (rs : List PublishedResource) (s : String) :
    Option String → Prop
  | file (earlier : List PublishedResource) (r : PublishedResource)
      (later : List PublishedResource) (hrs : rs = earlier ++ r :: later) (hs : Names s r.path)
      (hlast : ∀ r' ∈ later, ¬Names s r'.path) : Resolves externals rs s (some r.handle.uri)
  | external (hfiles : ∀ r ∈ rs, ¬Names s r.path) (earlier : List External) (e : External)
      (later : List External) (he : externals = earlier ++ e :: later) (hs : e.specifier = s)
      (hlast : ∀ e' ∈ later, e'.specifier ≠ s) : Resolves externals rs s (some e.url)
  | absent (hfiles : ∀ r ∈ rs, ¬Names s r.path) (hexternals : ∀ e ∈ externals, e.specifier ≠ s) :
      Resolves externals rs s none

theorem find?_reverse_some {α : Type} {p : α → Bool} {xs : List α} {x : α}
    (h : xs.reverse.find? p = some x) :
    ∃ earlier later, xs = earlier ++ x :: later ∧ p x = true ∧ ∀ y ∈ later, p y = false := by
  obtain ⟨hx, front, back, hxs, hfront⟩ := List.find?_eq_some_iff_append.mp h
  refine ⟨back.reverse, front.reverse, ?_, hx, fun y hy => ?_⟩
  · rw [← List.reverse_reverse xs, hxs, List.reverse_append, List.reverse_cons,
      List.append_assoc, List.singleton_append]
  · exact (Bool.not_eq_true' _).mp (hfront y (List.mem_reverse.mp hy))

theorem owner?_none {rs : List PublishedResource} {s : String} (h : owner? rs s = none) :
    ∀ r ∈ rs, ¬Names s r.path := by
  rw [owner?, List.find?_eq_none] at h
  exact fun r hr hs => h r (List.mem_reverse.mpr hr) (decide_eq_true (mem_specifiers.mpr hs))

/-- The last claim of a specifier counts, and the specifiers stand in the order of their first. -/
theorem build_resolves (externals : List External) (rs : List PublishedResource) :
    (∀ s, Resolves externals rs s ((build externals rs).targets.get? s)) ∧
      (build externals rs).targets.keys.Nodup ∧
      (build externals rs).targets.keys = (mentioned externals rs).eraseDups := by
  refine ⟨fun s => ?_, ?_, build_keys externals rs⟩
  case refine_2 =>
    rw [build_keys]
    exact Table.eraseDups_nodup _
  rw [get?_build]
  cases ho : owner? rs s with
  | some r =>
    obtain ⟨earlier, later, hrs, hs, hlast⟩ := find?_reverse_some ho
    refine .file earlier r later hrs (mem_specifiers.mp (of_decide_eq_true hs)) ?_
    exact fun r' hr' hs' =>
      of_decide_eq_false (hlast r' hr') (mem_specifiers.mpr hs')
  | none =>
    have hfiles := owner?_none ho
    cases he : external? externals s with
    | some e =>
      obtain ⟨earlier, later, hes, hs, hlast⟩ := find?_reverse_some he
      exact .external hfiles earlier e later hes (of_decide_eq_true hs)
        (fun e' he' => of_decide_eq_false (hlast e' he'))
    | none =>
      refine .absent hfiles (fun e hmem hs => ?_)
      rw [external?, List.find?_eq_none] at he
      exact he e (List.mem_reverse.mpr hmem) (decide_eq_true hs)

example : (build [⟨"./x", "https://esm.sh/x"⟩, ⟨"react", "https://esm.sh/react"⟩]
      [⟨"a/x.js", .script, ⟨"blob:1"⟩⟩, ⟨"x", .script, ⟨"blob:2"⟩⟩]).targets.entries =
    [("./x", "blob:2"), ("react", "https://esm.sh/react"), ("a/x.js", "blob:1"),
      ("./a/x.js", "blob:1"), ("./x.js", "blob:1"), ("x", "blob:2")] := by decide

end LivePreview.ImportMap
