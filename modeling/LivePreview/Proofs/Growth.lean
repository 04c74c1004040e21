import LivePreview.Proofs.Valid

namespace LivePreview

namespace Host

def dead (h : Host) : List Handle := h.issued.filter (fun k => decide (k ∉ h.handles))

structure Grows (h h' : Host) : Prop where
  issued : ∃ ks, h'.issued = h.issued ++ ks
  final : ∀ k ∈ h'.handles, k ∈ h.issued → k ∈ h.handles
  sound : h.Sound → h'.Sound

variable {h h' : Host}

theorem Grows.refl (h : Host) : h.Grows h :=
  ⟨⟨[], (List.append_nil _).symm⟩, fun _ hk _ => hk, id⟩

theorem Grows.trans {h'' : Host} (ha : h.Grows h') (hb : h'.Grows h'') : h.Grows h'' := by
  obtain ⟨⟨ks, hks⟩, hfinal, hsound⟩ := ha
  obtain ⟨⟨ks', hks'⟩, hfinal', hsound'⟩ := hb
  refine ⟨⟨ks ++ ks', by rw [hks', hks, List.append_assoc]⟩, fun k hk hi => ?_, hsound' ∘ hsound⟩
  exact hfinal k (hfinal' k hk (hks ▸ List.mem_append_left ks hi)) hi

theorem Grows.of_filter (p : Handle × Blob → Bool) (ho : h'.origin = h.origin)
    (hc : h'.created = h.created) (hb : h'.blobs = h.blobs.filter p) : h.Grows h' := by
  have hi : h'.issued = h.issued := by
    rw [Host.issued, Host.issued, hc]
    exact List.map_congr_left (fun i _ => handleOf_congr ho _)
  have hsub : h'.handles.Sublist h.handles := by
    rw [handles, hb]
    exact List.filter_sublist.map _
  exact ⟨⟨[], by rw [hi, List.append_nil]⟩, fun k hk _ => hsub.subset hk,
    fun hs => hs.of_filter p ho hc hb⟩

theorem Grows.extend (h : Host) (bs : List Blob) : h.Grows (h.extend bs) := by
  refine ⟨⟨_, extend_issued h bs⟩, fun k hk hi => ?_, fun hs => hs.extend bs⟩
  rw [extend_handles, List.mem_append] at hk
  exact hk.elim id (fun hn => absurd hi (next_not_issued hn))

theorem Grows.without (h : Host) (ks : List Handle) : h.Grows (Arena.withoutHandles h ks) :=
  .of_filter _ rfl rfl rfl

theorem Grows.meddled (hm : h.Meddled h') : h.Grows h' := by
  cases hm with
  | none => exact .refl h
  | create b => exact .extend h [b]
  | release k => exact .of_filter _ rfl rfl rfl

theorem mem_dead {k : Handle} : k ∈ h.dead ↔ k ∈ h.issued ∧ k ∉ h.handles := by
  rw [dead, List.mem_filter, decide_eq_true_eq]

theorem dead_nodup (h : Host) : h.dead.Nodup := h.issued_nodup.filter _

theorem Grows.dead_subset (hg : h.Grows h') : h.dead ⊆ h'.dead := by
  intro k hk
  obtain ⟨hi, hn⟩ := mem_dead.mp hk
  obtain ⟨ks, hks⟩ := hg.issued
  exact mem_dead.mpr ⟨hks ▸ List.mem_append_left ks hi, fun hl => hn (hg.final k hl hi)⟩

theorem perm_append_rest {xs ys : List Handle} (hx : xs.Nodup) (hy : ys.Nodup) (hs : xs ⊆ ys) :
    ys.Perm (xs ++ ys.filter (fun y => decide (y ∉ xs))) := by
  have hn : (xs ++ ys.filter (fun y => decide (y ∉ xs))).Nodup := by
    refine List.nodup_append.mpr ⟨hx, hy.filter _, ?_⟩
    rintro a ha b hb rfl
    exact of_decide_eq_true (List.mem_filter.mp hb).2 ha
  refine (List.perm_ext_iff_of_nodup hy hn).mpr (fun a => ?_)
  simp only [List.mem_append, List.mem_filter, decide_eq_true_eq]
  constructor
  · exact fun ha => (Classical.em (a ∈ xs)).imp_right (fun hna => ⟨ha, hna⟩)
  · exact fun ha => ha.elim (fun h => hs h) And.left

theorem Sound.issued_perm (hs : h.Sound) : h.issued.Perm (h.handles ++ h.dead) :=
  perm_append_rest hs.nodup h.issued_nodup hs.known

end Host

theorem Turn.grows {a b : Stage} {xs : List Occurrence} {es : List Event} (hv : a.Valid)
    (ht : Turn a xs es b) : a.controller.host.Grows b.controller.host := by
  cases ht with
  | claim c fs gs project hp =>
    show c.host.Grows c.claim.1.host
    rw [Controller.claim_fst]
    exact .without c.host c.held
  | finish c fs f gs m h r t hf =>
    obtain ⟨project, hb⟩ := hv.building f (Flight.mem_here fs gs f)
    show c.host.Grows (c.landed h f.generation r).1.host
    rcases Controller.landed_cases hb hf with ⟨-, -, bs, hc⟩ | ⟨-, -, entry, us, -, hc⟩ |
      ⟨-, -, err, -, hc⟩
    · rw [hc]
      exact (Host.Grows.extend c.host bs).trans (.without _ _)
    · rw [hc]
      exact .extend c.host _
    · rw [hc]
      exact .refl c.host
  | receive c fs e es hi =>
    obtain ⟨s, v, hc⟩ := (c.withInbox es).handle_frame e
    rw [hc]
    exact .refl c.host
  | handle c fs e =>
    obtain ⟨s, v, hc⟩ := c.handle_frame e
    rw [hc]
    exact .refl c.host
  | shutdown c fs =>
    show c.host.Grows c.shutdown.1.host
    rw [Controller.shutdown_fst]
    exact .without c.host c.held
  | close c =>
    show c.host.Grows c.releaseCurrent.1.host
    rw [Controller.releaseCurrent_fst]
    exact .without c.host c.held
  | give => exact .refl _
  | wait => exact .refl _
  | abandon => exact .refl _
  | answer => exact .refl _
  | post => exact .refl _
  | deny => exact .refl _

namespace Session

theorem run_grows (s : Session) (hs : s.Closed) (hv : s.stage.Valid) (ms : List Move) :
    s.controller.host.Grows (s.run ms).controller.host := by
  have hrun := run_preserves
    (P := fun a _ => a.Valid ∧ s.controller.host.Grows a.controller.host)
    (fun _ _ _ _ _ ha ht => ⟨ha.1.turn ht, ha.2.trans (ht.grows ha.1)⟩)
    (fun _ _ _ ha hm =>
      ⟨ha.1.frame rfl rfl rfl rfl rfl rfl, ha.2.trans (.meddled hm)⟩)
    s hs [] ⟨hv, .refl _⟩ ms
  exact hrun.2

theorem start_sound (e : Engine) (origin : String) : (start e origin).controller.host.Sound :=
  ⟨List.nodup_nil, nofun⟩

theorem run_sound (e : Engine) (origin : String) (ms : List Move) :
    ((start e origin).run ms).controller.host.Sound :=
  (run_grows _ (start_closed e origin) (Stage.start_valid e origin) ms).sound
    (start_sound e origin)

def releases (s : Session) (m : Move) : List Handle :=
  (s.move m).controller.host.dead.filter (fun k => decide (k ∉ s.controller.host.dead))

def released : Session → List Move → List Handle
  | _, [] => []
  | s, m :: ms => s.releases m ++ released (s.move m) ms

theorem released_perm (s : Session) (hs : s.Closed) (hv : s.stage.Valid) (ms : List Move) :
    (s.run ms).controller.host.dead.Perm (s.controller.host.dead ++ s.released ms) := by
  induction ms generalizing s with
  | nil =>
    rw [released, List.append_nil]
    exact .refl _
  | cons m ms ih =>
    have hrest := ih (s.move m) (run_closed s hs [m]) (run_valid s hs hv [m])
    have hfirst := Host.perm_append_rest s.controller.host.dead_nodup
      (s.move m).controller.host.dead_nodup (s.run_grows hs hv [m]).dead_subset
    rw [released, ← List.append_assoc]
    exact hrest.trans (hfirst.append_right _)

end Session

end LivePreview
