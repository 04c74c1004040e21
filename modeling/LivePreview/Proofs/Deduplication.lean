import LivePreview.Proofs.Collision
import LivePreview.Proofs.Duplicates
import LivePreview.Proofs.Precedence
import LivePreview.Proofs.Table

namespace LivePreview.ImportMap

open Claims
open Settings (lastEntries picked IsLast seconds ofOptions)

variable {externals externals' : List External} {s : String}

theorem external?_cons (e : External) (es : List External) (s : String) :
    external? (e :: es) s = (external? es s).or (if e.specifier = s then some e else none) := by
  rw [external?, List.reverse_cons, List.find?_append]
  by_cases hs : e.specifier = s <;> simp [external?, hs]

theorem external?_isSome {es : List External} :
    (external? es s).isSome = true ↔ s ∈ es.map External.specifier := by
  simp [external?]

theorem external?_lastEntries (es : List External) (s : String) :
    external? (lastEntries es) s = external? es s := by
  induction es with
  | nil => rfl
  | cons e es ih =>
    rw [Settings.lastEntries_cons, external?_cons]
    split
    · rename_i h
      rw [ih]
      by_cases hs : e.specifier = s
      · obtain ⟨e', he'⟩ := Option.isSome_iff_exists.mp (external?_isSome.mpr (hs ▸ h))
        rw [he', Option.some_or]
      · rw [if_neg hs, Option.or_none]
    · rw [external?_cons, ih]

theorem targets_congr (h : ∀ s, external? externals s = external? externals' s)
    (rs : List PublishedResource) (s : String) :
    (build externals rs).targets.get? s = (build externals' rs).targets.get? s := by
  rw [get?_build, get?_build, h]

theorem owners_congr (h : ∀ s, external? externals s = external? externals' s)
    (rs : List PublishedResource) (s : String) :
    (build externals rs).owners.get? s = (build externals' rs).owners.get? s := by
  rw [get?_owners, get?_owners, h]

theorem shadows_congr (h : ∀ s, external? externals s = external? externals' s)
    (rs : List PublishedResource) : (build externals rs).shadows = (build externals' rs).shadows := by
  induction rs using List.reverseRecOn with
  | nil => rw [shadows_externals, shadows_externals]
  | append_singleton rs r ih =>
    have hshadow : (build externals rs).shadowOf r.path r.handle.uri =
        (build externals' rs).shadowOf r.path r.handle.uri :=
      funext (fun s => shadowOf_congr (targets_congr h rs s) (owners_congr h rs s))
    rw [build_concat, build_concat, addResource, addResource, shadows_claimed, shadows_claimed, ih,
      hshadow]

theorem build_nodup (externals : List External) (rs : List PublishedResource) :
    (build externals rs).targets.keys.Nodup := by
  rw [build_keys]
  exact Table.eraseDups_nodup _

/-- An entry that a later one overrides does not show in the import map, nor in its warnings: what is
kept is the last entry of each specifier, with one notice for each that came more than once. -/
theorem build_deduplicated (o : Options) (rs : List PublishedResource) :
    let raw := o.externals.getD Settings.pinned
    let kept := (ofOptions o).externals
    (∀ s, (build kept rs).targets.get? s = (build raw rs).targets.get? s) ∧
      (build kept rs).targets.size = (build raw rs).targets.size ∧
      (build kept rs).warnings = (build raw rs).warnings ∧
      kept = picked raw (IsLast raw) ∧
      Settings.warnings o = Settings.warnings { o with externals := some [] } ++
        (seconds raw).map (fun s =>
          "External `" ++ s ++ "` is listed more than once, the last entry is used") ∧
      ∀ s, (seconds raw).count s = if 2 ≤ (raw.map External.specifier).count s then 1 else 0 := by
  intro raw kept
  have hsame : ∀ s, external? kept s = external? raw s := external?_lastEntries raw
  refine ⟨targets_congr hsame rs, ?_, ?_, Settings.lastEntries_eq raw, ?_,
    Settings.count_seconds raw⟩
  · exact Table.size_congr (build_nodup kept rs) (build_nodup raw rs) (targets_congr hsame rs)
  · rw [warnings, warnings, shadows_congr hsame]
  · have hnone : Settings.repeated [] [] = [] := rfl
    rw [Settings.warnings, Settings.warnings, Option.getD_some, hnone, List.map_nil, List.append_nil,
      Settings.repeated_eq_seconds]

example : (ofOptions { externals := some [⟨"a", "1"⟩, ⟨"b", "2"⟩, ⟨"a", "3"⟩, ⟨"b", "4"⟩, ⟨"a", "5"⟩,
      ⟨"c", "6"⟩] }).externals = [⟨"b", "4"⟩, ⟨"a", "5"⟩, ⟨"c", "6"⟩] := by decide

end LivePreview.ImportMap
