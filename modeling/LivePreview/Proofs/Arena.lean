import LivePreview.Proofs.Host

namespace LivePreview.Arena

open Host

def withoutHandles (h : Host) (ks : List Handle) : Host :=
  { h with blobs := h.blobs.filter (fun p => decide (p.1 ∉ ks)) }

theorem withoutHandles_nil (h : Host) : withoutHandles h [] = h := by
  simp [withoutHandles]

theorem withoutHandles_handles (h : Host) (ks : List Handle) :
    (withoutHandles h ks).handles = h.handles.filter (fun k => decide (k ∉ ks)) := by
  simp only [withoutHandles, Host.handles, List.filter_map]
  rfl

theorem withoutHandles_fetch (h : Host) (ks : List Handle) (k : Handle) :
    (withoutHandles h ks).fetch k = if k ∈ ks then none else h.fetch k := by
  simp only [withoutHandles, fetch]
  induction h.blobs with
  | nil => simp [lookup]
  | cons p ps ih =>
    obtain ⟨k', b⟩ := p
    by_cases hk' : k' ∈ ks
    · rw [List.filter_cons_of_neg (by simpa using hk'), ih]
      by_cases hk : k ∈ ks
      · rw [if_pos hk, if_pos hk]
      · have hne : k' ≠ k := fun he => hk (he ▸ hk')
        rw [if_neg hk, if_neg hk, lookup, if_neg hne]
    · rw [List.filter_cons_of_pos (by simpa using hk'), lookup, lookup]
      by_cases he : k' = k
      · rw [if_pos he, if_pos he, if_neg (he ▸ hk')]
      · rw [if_neg he, if_neg he, ih]

theorem release_withoutHandles (h : Host) (k : Handle) (ks : List Handle) :
    withoutHandles (h.release k).1 ks = withoutHandles h (k :: ks) := by
  simp only [withoutHandles, release, List.filter_filter, List.mem_cons, not_or]
  congr 1
  apply List.filter_congr
  intro p _
  simp [Bool.and_comm]

theorem fetch_release (h : Host) (k k' : Handle) :
    (h.release k).1.fetch k' = if k' = k then none else h.fetch k' := by
  rw [← withoutHandles_nil (h.release k).1, release_withoutHandles, withoutHandles_fetch]
  simp only [List.mem_singleton]

theorem releaseEach_host (h : Host) (ks : List Handle) :
    (releaseEach h ks).1 = withoutHandles h ks := by
  induction ks generalizing h with
  | nil => exact (withoutHandles_nil h).symm
  | cons k ks ih =>
    rw [← release_withoutHandles, ← ih]
    rfl

def alreadyReleased (k : Handle) : Event :=
  ⟨.warn, "resource was already released", [("handle", k.uri)]⟩

theorem releaseEach_events (h : Host) {ks : List Handle} (hn : ks.Nodup) :
    (releaseEach h ks).2 = (ks.filter (fun k => (h.fetch k).isNone)).map alreadyReleased := by
  induction ks generalizing h with
  | nil => rfl
  | cons k ks ih =>
    obtain ⟨hk, hn⟩ := List.nodup_cons.mp hn
    -- The first release leaves what the other handles lead to as it was.
    have hrest : ks.filter (fun k' => ((h.release k).1.fetch k').isNone) =
        ks.filter (fun k' => (h.fetch k').isNone) := by
      refine List.filter_congr (fun k' hk' => ?_)
      rw [fetch_release, if_neg (fun he : k' = k => hk (he ▸ hk'))]
    have hlater := ih (h.release k).1 hn
    rw [hrest] at hlater
    rw [releaseEach, List.filter_cons]
    dsimp only
    rw [hlater, show (h.release k).2 = (h.fetch k).isSome from rfl]
    cases h.fetch k <;> rfl

theorem releaseEach_quiet {h : Host} {ks : List Handle} (hn : ks.Nodup)
    (hl : ∀ k ∈ ks, k ∈ h.handles) : (releaseEach h ks).2 = [] := by
  have hlive : ks.filter (fun k => (h.fetch k).isNone) = [] := by
    rw [List.filter_eq_nil_iff]
    intro k hk hnone
    exact fetch_eq_none_iff.mp (Option.isNone_iff_eq_none.mp hnone) (hl k hk)
  rw [releaseEach_events h hn, hlive, List.map_nil]

theorem discard_host (a : Arena) (h : Host) : (a.discard h).1 = withoutHandles h a.handles :=
  releaseEach_host h a.handles

theorem discard_quiet {a : Arena} {h : Host} (hn : a.handles.Nodup)
    (hl : ∀ k ∈ a.handles, k ∈ h.handles) :
    ∀ x ∈ (a.discard h).2, x.level = .debug ∧ x.message = "released generation resources" := by
  intro x hx
  have hx : x ∈ (releaseEach h a.handles).2 ++ (if a.handles.isEmpty then []
      else [⟨.debug, "released generation resources",
        [("count", toString a.handles.length)]⟩]) := hx
  rw [releaseEach_quiet hn hl, List.nil_append] at hx
  split at hx
  · cases hx
  · rw [List.mem_singleton.mp hx]
    exact ⟨rfl, rfl⟩

def blobOf (u : CompiledUnit) : Blob := ⟨u.media, u.text⟩

def resourceOf (u : CompiledUnit) (k : Handle) : PublishedResource := ⟨u.path, u.media, k⟩

theorem publishUnits_spec (a : Arena) (h : Host) (us : List CompiledUnit) :
    a.publishUnits h us =
      (⟨a.handles ++ h.next us.length⟩, h.extend (us.map blobOf),
        List.zipWith resourceOf us (h.next us.length)) := by
  induction us generalizing a h with
  | nil => simp [publishUnits, next, extend]
  | cons u us ih =>
    simp only [publishUnits, publish, ih, List.length_cons, next_succ h (blobOf u),
      List.map_cons, extend, List.zipWith_cons_cons, List.append_assoc, List.singleton_append]
    rfl

theorem discard_next {h : Host} (hs : h.Sound) (bs : List Blob) :
    ((⟨h.next bs.length⟩ : Arena).discard (h.extend bs)).1.blobs = h.blobs := by
  rw [discard_host, withoutHandles, (extend_spec h bs).2.2, List.filter_append]
  have hold : h.blobs.filter (fun p => decide (p.1 ∉ h.next bs.length)) = h.blobs := by
    rw [List.filter_eq_self]
    intro p hp
    have hl : p.1 ∈ h.handles := List.mem_map.mpr ⟨p, hp, rfl⟩
    simp only [decide_eq_true_eq]
    exact fun hk => hs.next_not_live hk hl
  have hnew : ((h.next bs.length).zip bs).filter
      (fun p => decide (p.1 ∉ h.next bs.length)) = [] := by
    rw [List.filter_eq_nil_iff]
    intro p hp
    simpa using (List.of_mem_zip hp).1
  rw [hold, hnew, List.append_nil]

end LivePreview.Arena
