import Mathlib.Data.List.Forall2
import LivePreview.ImportMap

namespace LivePreview

section

variable {R : String → String → Prop}

def Keyed (R : String → String → Prop) (p p' : String × String) : Prop := p.1 = p'.1 ∧ R p.2 p'.2

def Distinguishes (R : String → String → Prop) : Prop :=
  ∀ a a' b b', R a a' → R b b' → (a = b ↔ a' = b')

namespace Table

theorem lookup_keyed (k : String) {ps ps' : List (String × String)}
    (h : List.Forall₂ (Keyed R) ps ps') : Option.Rel R (lookup k ps) (lookup k ps') := by
  induction h with
  | nil => exact .none
  | @cons p p' ps ps' hp _ ih =>
    obtain ⟨q, v⟩ := p
    obtain ⟨q', v'⟩ := p'
    obtain ⟨rfl, hv⟩ : q = q' ∧ R v v' := hp
    rw [lookup, lookup]
    split
    · exact .some hv
    · exact ih

theorem place_keyed (k : String) {v v' : String} (hv : R v v') {ps ps' : List (String × String)}
    (h : List.Forall₂ (Keyed R) ps ps') :
    List.Forall₂ (Keyed R) (place k v ps) (place k v' ps') := by
  induction h with
  | nil => exact .cons ⟨rfl, hv⟩ .nil
  | @cons p p' ps ps' hp hps ih =>
    obtain ⟨q, w⟩ := p
    obtain ⟨q', w'⟩ := p'
    obtain ⟨rfl, hw⟩ : q = q' ∧ R w w' := hp
    rw [place, place]
    split
    · exact .cons ⟨rfl, hv⟩ hps
    · exact .cons ⟨rfl, hw⟩ ih

end Table

namespace ImportMap

structure Claims.Renamed (R : String → String → Prop) (c c' : Claims) : Prop where
  targets : List.Forall₂ (Keyed R) c.targets.entries c'.targets.entries
  owners : c.owners = c'.owners
  shadows : c.shadows = c'.shadows

def SameFile (R : String → String → Prop) (r r' : PublishedResource) : Prop :=
  r.path = r'.path ∧ r.media = r'.media ∧ R r.handle.uri r'.handle.uri

variable {c c' : Claims}

theorem shadowOf_renamed (hr : Distinguishes R) (h : c.Renamed R c') (path specifier : String)
    {t t' : String} (ht : R t t') :
    c.shadowOf path t specifier = c'.shadowOf path t' specifier := by
  have hget : Option.Rel R (c.targets.get? specifier) (c'.targets.get? specifier) :=
    Table.lookup_keyed specifier h.targets
  rw [Claims.shadowOf, Claims.shadowOf, insertion, insertion, h.owners]
  generalize c.targets.get? specifier = x at hget
  generalize c'.targets.get? specifier = x' at hget
  cases hget with
  | none => rfl
  | @some p p' hp =>
    dsimp only
    by_cases he : p = t
    · rw [if_pos he, if_pos ((hr p p' t t' hp ht).mp he)]
    · rw [if_neg he, if_neg (fun he' => he ((hr p p' t t' hp ht).mpr he'))]
      cases c'.owners.get? specifier <;> rfl

theorem claim_renamed (hr : Distinguishes R) (h : c.Renamed R c') (path specifier : String)
    {t t' : String} (ht : R t t') :
    (Claims.claim path t c specifier).Renamed R (Claims.claim path t' c' specifier) := by
  refine ⟨Table.place_keyed specifier ht h.targets, ?_, ?_⟩
  · exact congrArg (fun o => Table.insert o specifier path) h.owners
  · rw [Claims.claim, Claims.claim, shadowOf_renamed hr h path specifier ht, h.shadows]

theorem addExternal_renamed (h : c.Renamed R c') {e : External} (he : R e.url e.url) :
    (c.addExternal e).Renamed R (c'.addExternal e) :=
  ⟨Table.place_keyed e.specifier he h.targets,
    congrArg (fun o => Table.insert o e.specifier e.url) h.owners, h.shadows⟩

theorem addResource_renamed (hr : Distinguishes R) (h : c.Renamed R c') {r r' : PublishedResource}
    (hres : SameFile R r r') : (c.addResource r).Renamed R (c'.addResource r') := by
  rw [Claims.addResource, Claims.addResource, ← hres.1]
  generalize specifiers r.path = names
  induction names generalizing c c' with
  | nil => exact h
  | cons name names ih => exact ih (claim_renamed hr h r.path name hres.2.2)

theorem build_renamed (hr : Distinguishes R) {externals : List External}
    (he : ∀ e ∈ externals, R e.url e.url) {rs rs' : List PublishedResource}
    (hrs : List.Forall₂ (SameFile R) rs rs') :
    (build externals rs).Renamed R (build externals rs') := by
  have hstart : (externals.foldl Claims.addExternal {}).Renamed R
      (externals.foldl Claims.addExternal {}) := by
    have hempty : Claims.Renamed R {} {} := ⟨.nil, rfl, rfl⟩
    generalize ({} : Claims) = c at hempty
    induction externals generalizing c with
    | nil => exact hempty
    | cons e es ih =>
      exact ih (fun x hx => he x (List.mem_cons_of_mem e hx)) _
        (addExternal_renamed hempty (he e List.mem_cons_self))
  rw [build, build]
  generalize externals.foldl Claims.addExternal {} = c at hstart ⊢
  have hboth : ∀ c', c.Renamed R c' → (rs.foldl Claims.addResource c).Renamed R
      (rs'.foldl Claims.addResource c') := by
    clear hstart
    induction hrs generalizing c with
    | nil => exact fun _ h => h
    | cons hres _ ih => exact fun c' h => ih _ _ (addResource_renamed hr h hres)
  exact hboth c hstart

end ImportMap

end

end LivePreview
