import Mathlib.Data.List.Induction
import LivePreview.Proofs.Resolution

namespace LivePreview.ImportMap

open Claims LivePreview.Path

inductive Holder where
  | external (e : External)
  | file (r : PublishedResource)
  deriving DecidableEq, Repr

def Holder.name : Holder → String
  | .external e => e.url
  | .file r => r.path

def Holder.target : Holder → String
  | .external e => e.url
  | .file r => r.handle.uri

def holder? (externals : List External) (earlier : List PublishedResource) (s : String) :
    Option Holder :=
  ((owner? earlier s).map .file).or ((external? externals s).map .external)

structure Takeover where
  specifier : String
  winner : PublishedResource
  holder : Holder
  deriving DecidableEq, Repr

def Takeover.shadow (x : Takeover) : Shadow := ⟨x.specifier, x.winner.path, x.holder.name⟩

/-- The url of the external reads like the path of the file that takes its specifier. -/
def Takeover.masked (x : Takeover) : Bool :=
  match x.holder with
  | .external e => e.url = x.winner.path
  | .file _ => false

def takeoversBy (externals : List External) (earlier : List PublishedResource)
    (r : PublishedResource) : List Takeover :=
  (specifiers r.path).eraseDups.filterMap (fun s => (holder? externals earlier s).map (⟨s, r, ·⟩))

def takeovers (externals : List External) :
    List PublishedResource → List PublishedResource → List Takeover
  | _, [] => []
  | earlier, r :: rs => takeoversBy externals earlier r ++ takeovers externals (earlier ++ [r]) rs

variable {externals : List External} {earlier rs : List PublishedResource}
  {r : PublishedResource} {s : String}

theorem targets_holder (externals : List External) (earlier : List PublishedResource)
    (s : String) : (build externals earlier).targets.get? s =
      (holder? externals earlier s).map Holder.target := by
  rw [get?_build, holder?]
  cases owner? earlier s with
  | some r => rfl
  | none => cases external? externals s <;> rfl

theorem owners_holder (externals : List External) (earlier : List PublishedResource)
    (s : String) : (build externals earlier).owners.get? s =
      (holder? externals earlier s).map Holder.name := by
  rw [get?_owners, holder?]
  cases owner? earlier s with
  | some r => rfl
  | none => cases external? externals s <;> rfl

theorem holder?_cases {h : Holder} (hh : holder? externals earlier s = some h) :
    (∃ r ∈ earlier, h = .file r) ∨ ∃ e ∈ externals, h = .external e := by
  rw [holder?] at hh
  cases ho : owner? earlier s with
  | some r =>
    rw [ho] at hh
    exact .inl ⟨r, (owner?_some ho).1, (Option.some.inj hh).symm⟩
  | none =>
    rw [ho] at hh
    obtain ⟨e, he, rfl⟩ := Option.map_eq_some_iff.mp hh
    exact .inr ⟨e, List.mem_reverse.mp (List.mem_of_find?_eq_some he), rfl⟩

theorem shadowOf_new {c : Claims} {path target : String} (h : c.targets.get? s = none) :
    c.shadowOf path target s = none := by
  rw [shadowOf, insertion, h]

theorem shadowOf_unchanged {c : Claims} {path target : String}
    (h : c.targets.get? s = some target) : c.shadowOf path target s = none := by
  rw [shadowOf, insertion, h]
  dsimp only
  rw [if_pos rfl]

theorem shadowOf_replaced {c : Claims} {path target previous owner : String}
    (h : c.targets.get? s = some previous) (hne : previous ≠ target)
    (ho : c.owners.get? s = some owner) :
    c.shadowOf path target s = if owner = path then none else some ⟨s, path, owner⟩ := by
  rw [shadowOf, insertion, h, ho]
  dsimp only
  rw [if_neg hne]

theorem shadowOf_congr {c c' : Claims} {path target : String}
    (ht : c.targets.get? s = c'.targets.get? s) (ho : c.owners.get? s = c'.owners.get? s) :
    c.shadowOf path target s = c'.shadowOf path target s := by
  rw [shadowOf, shadowOf, insertion, insertion, ht, ho]

theorem shadows_claimed (c : Claims) (path target : String) (names : List String) :
    (names.foldl (claim path target) c).shadows =
      c.shadows ++ names.eraseDups.filterMap (c.shadowOf path target) := by
  -- from the right, where the tables already tell whether the last alias is a repetition
  induction names using List.reverseRecOn with
  | nil => exact (List.append_nil _).symm
  | append_singleton names s ih =>
    rw [List.foldl_append, List.foldl_cons, List.foldl_nil, claim, ih, List.eraseDups_append,
      List.filterMap_append, List.append_assoc]
    have htarget := get?_assign target c.targets names s
    have howner := get?_assign path c.owners names s
    rw [← claimed_targets c path] at htarget
    rw [← claimed_owners c path target] at howner
    by_cases hs : s ∈ names
    · rw [if_pos hs] at htarget
      rw [shadowOf_unchanged htarget]
      simp [List.removeAll, hs]
    · rw [if_neg hs] at htarget howner
      rw [shadowOf_congr htarget howner]
      simp only [List.removeAll, List.elem_eq_mem, hs, decide_false, Bool.not_false,
        List.filter_cons_of_pos, List.filter_nil, List.eraseDups_cons, List.eraseDups_nil,
        List.filterMap_cons, List.filterMap_nil]
      cases c.shadowOf path target s <;> rfl

theorem shadowOf_build (hpath : ∀ r' ∈ earlier, r'.path ≠ r.path)
    (hhandle : ∀ r' ∈ earlier, r'.handle ≠ r.handle)
    (hurl : ∀ e ∈ externals, r.handle.uri ≠ e.url) (s : String) :
    (build externals earlier).shadowOf r.path r.handle.uri s =
      (((holder? externals earlier s).map (Takeover.mk s r)).filter (fun x => !x.masked)).map
        Takeover.shadow := by
  have htargets := targets_holder externals earlier s
  have howners := owners_holder externals earlier s
  cases hh : holder? externals earlier s with
  | none =>
    rw [hh] at htargets
    exact shadowOf_new htargets
  | some h =>
    rw [hh] at htargets howners
    rcases holder?_cases hh with ⟨r', hr', rfl⟩ | ⟨e, he, rfl⟩
    -- handles differ, so the target is replaced; the guard on the owner then lets a file through
    · have hne : r'.handle.uri ≠ r.handle.uri :=
        fun heq => hhandle r' hr' (congrArg Handle.mk heq)
      rw [shadowOf_replaced htargets hne howners]
      exact if_neg (hpath r' hr')
    · have hne : e.url ≠ r.handle.uri := fun heq => hurl e he heq.symm
      rw [shadowOf_replaced htargets hne howners, Option.map_some, Option.filter_some]
      by_cases hname : e.url = r.path
      · simp [Holder.name, Takeover.masked, hname]
      · simp [Holder.name, Takeover.masked, Takeover.shadow, hname]

theorem shadows_addResource (hpath : ∀ r' ∈ earlier, r'.path ≠ r.path)
    (hhandle : ∀ r' ∈ earlier, r'.handle ≠ r.handle)
    (hurl : ∀ e ∈ externals, r.handle.uri ≠ e.url) :
    ((build externals earlier).addResource r).shadows = (build externals earlier).shadows ++
      ((takeoversBy externals earlier r).filter (fun x => !x.masked)).map Takeover.shadow := by
  rw [addResource, shadows_claimed, takeoversBy, List.filter_filterMap, List.map_filterMap]
  exact congrArg (fun f => _ ++ List.filterMap f _)
    (funext (shadowOf_build hpath hhandle hurl))

def Apart (r r' : PublishedResource) : Prop := r.path ≠ r'.path ∧ r.handle ≠ r'.handle

theorem apart_of_nodup (hpaths : (rs.map PublishedResource.path).Nodup)
    (hhandles : (rs.map PublishedResource.handle).Nodup) : rs.Pairwise Apart :=
  (List.pairwise_map.mp hpaths).and (List.pairwise_map.mp hhandles)

theorem build_concat (externals : List External) (earlier : List PublishedResource)
    (r : PublishedResource) :
    build externals (earlier ++ [r]) = (build externals earlier).addResource r := by
  rw [build, List.foldl_append]
  rfl

theorem shadows_resources (hapart : (earlier ++ rs).Pairwise Apart)
    (hurls : ∀ r ∈ rs, ∀ e ∈ externals, r.handle.uri ≠ e.url) :
    (rs.foldl addResource (build externals earlier)).shadows = (build externals earlier).shadows ++
      ((takeovers externals earlier rs).filter (fun x => !x.masked)).map Takeover.shadow := by
  induction rs generalizing earlier with
  | nil => exact (List.append_nil _).symm
  | cons r rs ih =>
    have hbefore : ∀ r' ∈ earlier, Apart r' r :=
      fun r' hr' => (List.pairwise_append.mp hapart).2.2 r' hr' r List.mem_cons_self
    have hclaim := shadows_addResource (fun r' hr' => (hbefore r' hr').1)
      (fun r' hr' => (hbefore r' hr').2) (hurls r List.mem_cons_self)
    have happ : earlier ++ r :: rs = earlier ++ [r] ++ rs := by
      rw [List.append_assoc, List.singleton_append]
    have hrest := ih (happ ▸ hapart) (fun r' hr' => hurls r' (List.mem_cons_of_mem r hr'))
    rw [build_concat] at hrest
    rw [List.foldl_cons, hrest, hclaim, takeovers, List.filter_append, List.map_append,
      List.append_assoc]

theorem mem_takeovers {x : Takeover} : x ∈ takeovers externals earlier rs ↔
    ∃ before after, rs = before ++ x.winner :: after ∧
      x.specifier ∈ specifiers x.winner.path ∧
      holder? externals (earlier ++ before) x.specifier = some x.holder := by
  induction rs generalizing earlier with
  | nil => simp [takeovers]
  | cons r rs ih =>
    have hby : x ∈ takeoversBy externals earlier r ↔ r = x.winner ∧
        x.specifier ∈ specifiers x.winner.path ∧
        holder? externals earlier x.specifier = some x.holder := by
      obtain ⟨s, w, h⟩ := x
      simp only [takeoversBy, List.mem_filterMap, List.mem_eraseDups, Option.map_eq_some_iff,
        Takeover.mk.injEq]
      constructor
      · rintro ⟨s', hs', h', hh', rfl, rfl, rfl⟩
        exact ⟨rfl, hs', hh'⟩
      · rintro ⟨rfl, hs, hh⟩
        exact ⟨s, hs, h, hh, rfl, rfl, rfl⟩
    rw [takeovers, List.mem_append, hby, ih]
    constructor
    · rintro (⟨rfl, hs, hh⟩ | ⟨before, after, rfl, hs, hh⟩)
      · exact ⟨[], rs, rfl, hs, by rwa [List.append_nil]⟩
      · exact ⟨r :: before, after, rfl, hs, by rwa [List.append_assoc] at hh⟩
    · rintro ⟨before, after, hsplit, hs, hh⟩
      rcases List.append_eq_cons_iff.mp hsplit.symm with ⟨rfl, hcons⟩ | ⟨before', rfl, rfl⟩
      · rw [List.append_nil] at hh
        exact .inl ⟨(List.cons.inj hcons).1.symm, hs, hh⟩
      · exact .inr ⟨before', after, rfl, hs, by rwa [List.append_assoc]⟩

theorem takeovers_nodup (hn : rs.Nodup) : (takeovers externals earlier rs).Nodup := by
  induction rs generalizing earlier with
  | nil => exact .nil
  | cons r rs ih =>
    obtain ⟨hr, hrs⟩ := List.nodup_cons.mp hn
    refine List.nodup_append.mpr ⟨?_, ih hrs, ?_⟩
    · refine (Table.eraseDups_nodup _).filterMap (fun s s' x hx hx' => ?_)
      obtain ⟨h, -, rfl⟩ := Option.map_eq_some_iff.mp hx
      obtain ⟨h', -, heq⟩ := Option.map_eq_some_iff.mp hx'
      exact (congrArg Takeover.specifier heq).symm
    · rintro x hx y hy rfl
      obtain ⟨s, -, hs⟩ := List.mem_filterMap.mp hx
      obtain ⟨h, -, rfl⟩ := Option.map_eq_some_iff.mp hs
      obtain ⟨before, after, rfl, -⟩ := mem_takeovers.mp hy
      exact hr (List.mem_append_right before List.mem_cons_self)

theorem shadows_externals (externals : List External) : (build externals []).shadows = [] := by
  have hfold : ∀ c : Claims, (externals.foldl addExternal c).shadows = c.shadows := by
    induction externals with
    | nil => exact fun c => rfl
    | cons e es ih => exact fun c => ih _
  exact hfold {}

theorem shadows_build (hapart : rs.Pairwise Apart)
    (hurls : ∀ r ∈ rs, ∀ e ∈ externals, r.handle.uri ≠ e.url) :
    (build externals rs).shadows =
      ((takeovers externals [] rs).filter (fun x => !x.masked)).map Takeover.shadow := by
  have hfiles := @shadows_resources externals [] rs hapart hurls
  rw [shadows_externals, List.nil_append] at hfiles
  exact hfiles

theorem shadowed_ne_winner (hapart : rs.Pairwise Apart) {x : Takeover}
    (hx : x ∈ takeovers externals [] rs) (hmasked : x.masked = false) :
    x.holder.name ≠ x.winner.path := by
  obtain ⟨before, after, hsplit, -, hh⟩ := mem_takeovers.mp hx
  rcases holder?_cases hh with ⟨r', hr', hfile⟩ | ⟨e, -, hexternal⟩
  · rw [hsplit] at hapart
    rw [hfile]
    exact ((List.pairwise_append.mp hapart).2.2 r' hr' x.winner List.mem_cons_self).1
  · rw [Takeover.masked, hexternal] at hmasked
    rw [hexternal]
    exact of_decide_eq_false hmasked

/-- Each takeover is reported once and in order, but for those from an external whose url reads
like the path of the file; a file is never reported for shadowing itself. -/
theorem build_reports (externals : List External) (rs : List PublishedResource)
    (hpaths : (rs.map PublishedResource.path).Nodup)
    (hhandles : (rs.map PublishedResource.handle).Nodup)
    (hurls : ∀ r ∈ rs, ∀ e ∈ externals, r.handle.uri ≠ e.url) :
    let reported := (takeovers externals [] rs).filter (fun x => !x.masked)
    (takeovers externals [] rs).Nodup ∧
      (build externals rs).shadows = reported.map Takeover.shadow ∧
      (build externals rs).warnings = reported.map (fun x => x.shadow.text) ∧
      (∀ earlier r later, rs = earlier ++ r :: later → ∀ s ∈ specifiers r.path,
        (∀ r' ∈ earlier, s ∉ specifiers r'.path) → ∀ e, external? externals s = some e →
          (⟨s, r.path, e.url⟩ ∈ (build externals rs).shadows ↔ e.url ≠ r.path)) ∧
      ∀ w ∈ (build externals rs).shadows, w.shadowed ≠ w.winner := by
  intro reported
  have hapart := apart_of_nodup hpaths hhandles
  have hshadows : (build externals rs).shadows = reported.map Takeover.shadow :=
    shadows_build hapart hurls
  have hdiffer : ∀ w ∈ (build externals rs).shadows, w.shadowed ≠ w.winner := by
    intro w hw
    rw [hshadows] at hw
    obtain ⟨x, hx, rfl⟩ := List.mem_map.mp hw
    obtain ⟨hmem, hmasked⟩ := List.mem_filter.mp hx
    exact shadowed_ne_winner hapart hmem ((Bool.not_eq_true' _).mp hmasked)
  refine ⟨takeovers_nodup (List.Nodup.of_map _ hpaths), hshadows, ?_, ?_, hdiffer⟩
  · rw [warnings, hshadows, List.map_map]
    rfl
  · intro earlier r later hsplit s hs hfirst e he
    refine ⟨fun hw => hdiffer _ hw, fun hne => ?_⟩
    have hunowned : owner? earlier s = none := by
      rw [owner?, List.find?_eq_none]
      exact fun r' hr' hd => hfirst r' (List.mem_reverse.mp hr') (of_decide_eq_true hd)
    have hheld : holder? externals ([] ++ earlier) s = some (.external e) := by
      rw [List.nil_append, holder?, hunowned, he]
      rfl
    have hmem : (⟨s, r, .external e⟩ : Takeover) ∈ takeovers externals [] rs :=
      mem_takeovers.mpr ⟨earlier, later, hsplit, hs, hheld⟩
    rw [hshadows]
    refine List.mem_map.mpr ⟨⟨s, r, .external e⟩, List.mem_filter.mpr ⟨hmem, ?_⟩, rfl⟩
    simp [Takeover.masked, hne]

theorem build_reports_chain :
    let externals : List External := [⟨"./x", "https://esm.sh/x"⟩, ⟨"./b/x.js", "b/x.js"⟩]
    let rs : List PublishedResource := [⟨"a/x.js", .script, ⟨"blob:1"⟩⟩,
      ⟨"b/x.js", .script, ⟨"blob:2"⟩⟩, ⟨"x", .script, ⟨"blob:3"⟩⟩]
    (rs.map PublishedResource.path).Nodup ∧ (rs.map PublishedResource.handle).Nodup ∧
      (∀ r ∈ rs, ∀ e ∈ externals, r.handle.uri ≠ e.url) ∧
      (build externals rs).shadows =
        [⟨"./x", "a/x.js", "https://esm.sh/x"⟩, ⟨"./x.js", "b/x.js", "a/x.js"⟩,
          ⟨"./x", "b/x.js", "a/x.js"⟩, ⟨"./x", "x", "b/x.js"⟩] := by
  intro externals rs
  have hpaths : (rs.map PublishedResource.path).Nodup := by decide
  have hhandles : (rs.map PublishedResource.handle).Nodup := by decide
  have hurls : ∀ r ∈ rs, ∀ e ∈ externals, r.handle.uri ≠ e.url := by decide
  obtain ⟨-, hshadows, -⟩ := build_reports externals rs hpaths hhandles hurls
  refine ⟨hpaths, hhandles, hurls, hshadows.trans ?_⟩
  decide +kernel

/-- A file takes a specifier from an external whose url is spelled like its path: the specifier
changes hands without a report. -/
theorem masked_takeover_unreported :
    let externals : List External := [⟨"./lib.js", "lib.js"⟩]
    let lib : PublishedResource := ⟨"lib.js", .script, ⟨"blob:livepack/1"⟩⟩
    (externals.map External.specifier).Nodup ∧ lib.handle.uri ≠ "lib.js" ∧
      (build externals [lib]).targets.get? "./lib.js" = some lib.handle.uri ∧
      takeovers externals [] [lib] = [⟨"./lib.js", lib, .external ⟨"./lib.js", "lib.js"⟩⟩] ∧
      (build externals [lib]).shadows = [] := by
  decide +kernel

end LivePreview.ImportMap
