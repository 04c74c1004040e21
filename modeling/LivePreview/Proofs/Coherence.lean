import LivePreview.Proofs.Tally

namespace LivePreview

def Occurrence.still : Occurrence → Bool
  | .given _ => true
  | .published _ _ => true
  | .dropped _ => true
  | .posted _ => true
  | .received _ applied => !applied
  | .handled _ applied => !applied
  | .completed (.superseded _) => true
  | .completed .noProject => true
  | .completed (.message _) => true
  | _ => false

namespace Snapshot

inductive Edge : Occurrence → Nat × Snapshot → Nat × Snapshot → Prop where
  | claim (n : Nat) (s : Snapshot) :
      Edge (.claimed (n + 1)) (n, s) (n + 1, { status := .building, generation := some (n + 1) })
  | ready (n : Nat) (k : Handle) (warnings : List String) :
      Edge (.completed (.ready n)) (n, { status := .building, generation := some n })
        (n, { status := .ready, generation := some n, handle := some k, warnings := warnings })
  | fail (n : Nat) (text : String) (kind : ErrorKind) (hk : kind ≠ .runtime) :
      Edge (.completed (.failed n)) (n, { status := .building, generation := some n })
        (n, { status := .failed, generation := some n, message := some text, kind := some kind })
  | report (x : Occurrence) (e : Envelope) (s : Snapshot)
      (hx : x = .received e true ∨ x = .handled e true)
      (hs : s.generation = some e.generation)
      (hm : s.status = .ready ∨ s.status = .failed ∧ s.kind = some .runtime) :
      Edge x (e.generation, s) (e.generation, Controller.broken s e)
  | shutdown (n : Nat) (s : Snapshot) : Edge .shutdown (n, s) (n + 1, {})
  | still (x : Occurrence) (hx : x.still = true) (a : Nat × Snapshot) : Edge x a a

inductive Trail : List Occurrence → Nat × Snapshot → Nat × Snapshot → Prop where
  | nil (a : Nat × Snapshot) : Trail [] a a
  | cons {x : Occurrence} {xs : List Occurrence} {a b c : Nat × Snapshot} (he : Edge x a b)
      (ht : Trail xs b c) : Trail (x :: xs) a c

variable {a b c : Nat × Snapshot} {x : Occurrence} {xs ys : List Occurrence}

theorem Trail.single (he : Edge x a b) : Trail [x] a b := .cons he (.nil b)

theorem Trail.append (hab : Trail xs a b) (hbc : Trail ys b c) : Trail (xs ++ ys) a c := by
  induction hab with
  | nil => exact hbc
  | cons he _ ih => exact .cons he (ih hbc)

theorem Trail.of_still (hxs : ∀ x ∈ xs, x.still = true) (a : Nat × Snapshot) : Trail xs a a := by
  induction xs with
  | nil => exact .nil a
  | cons x xs ih =>
    exact .cons (.still x (hxs x List.mem_cons_self) a)
      (ih (fun y hy => hxs y (List.mem_cons_of_mem x hy)))

theorem Trail.of_made (g : Option Nat) (old new : Host) (a : Nat × Snapshot) :
    Trail (Occurrence.made g old new) a a := by
  refine .of_still (fun x hx => ?_) a
  obtain ⟨n, k, rfl⟩ := Occurrence.made_published hx
  rfl

end Snapshot

namespace Controller

def shows (c : Controller) : Nat × Snapshot := (c.latest, c.snapshot)

theorem hears_edge {c : Controller} {e : Envelope} (hc : c.Coherent) {x : Occurrence}
    (hx : x = .received e (c.handle e).2.1 ∨ x = .handled e (c.handle e).2.1) :
    Snapshot.Edge x c.shows (c.handle e).1.shows := by
  obtain ⟨hm, hnew, hshown⟩ := hc
  cases hh : c.hears e with
  | false =>
    rw [handle_of_not_hears hh] at hx ⊢
    exact .still x (by rcases hx with rfl | rfl <;> rfl) _
  | true =>
    rw [handle_of_hears hh] at hx ⊢
    rw [hears, hm] at hh
    cases hcur : c.current with
    | none =>
      rw [hcur] at hh
      cases hh
    | some g =>
      rw [hcur] at hh hshown
      have hg : e.generation = c.latest := by
        rw [← hnew g hcur]
        exact (by simpa using hh : g.id = e.generation).symm
      show Snapshot.Edge x (c.latest, c.snapshot) (c.latest, broken c.snapshot e)
      rw [← hg] at hshown ⊢
      refine .report x e c.snapshot hx ?_ ?_
      · generalize c.snapshot = s at hshown
        cases hshown <;> rfl
      · generalize c.snapshot = s at hshown
        cases hshown with
        | ready => exact .inl rfl
        | broken => exact .inr ⟨rfl, rfl⟩

namespace Shown

variable {n : Nat} {cur : Option Generation} {s : Snapshot}

theorem idle_empty (h : Shown n cur s) (hs : s.status = .idle) :
    s.generation = none ∧ cur = none := by
  cases h with
  | idle => exact ⟨rfl, rfl⟩
  | _ => cases hs

theorem busy_newest (h : Shown n cur s) (hs : s.status ≠ .idle) : s.generation = some n := by
  cases h with
  | idle => exact absurd rfl hs
  | _ => rfl

theorem building_bare (h : Shown n cur s) (hs : s.status = .building) :
    cur = none ∧ s.handle = none ∧ s.message = none ∧ s.kind = none ∧ s.warnings = [] := by
  cases h with
  | building => exact ⟨rfl, rfl, rfl, rfl, rfl⟩
  | _ => cases hs

theorem ready_installed (h : Shown n cur s) (hs : s.status = .ready) :
    s.message = none ∧ s.kind = none ∧
      ∃ g, cur = some g ∧ s.handle = some g.entry.handle ∧ s.warnings = g.warnings := by
  cases h with
  | ready g => exact ⟨rfl, rfl, g, rfl, rfl, rfl⟩
  | _ => cases hs

/-- What failed is the page, which stays installed, or its build, which left nothing. -/
theorem failed_cases (h : Shown n cur s) (hs : s.status = .failed) :
    (s.kind = some .runtime ∧
      ∃ g, cur = some g ∧ s.handle = some g.entry.handle ∧ s.warnings = g.warnings) ∨
    ((∃ kind, kind ≠ .runtime ∧ s.kind = some kind) ∧
      cur = none ∧ s.handle = none ∧ s.warnings = []) := by
  cases h with
  | broken g text => exact .inl ⟨rfl, g, rfl, rfl, rfl⟩
  | failed text kind hk => exact .inr ⟨⟨kind, hk, rfl⟩, rfl, rfl, rfl⟩
  | _ => cases hs

end Shown

end Controller

namespace Stage

variable {a b : Stage} {xs : List Occurrence} {es : List Event}

theorem turn_trail (hv : a.Valid) (ht : Turn a xs es b) :
    Snapshot.Trail xs a.controller.shows b.controller.shows := by
  cases ht with
  | give => exact .single (.still _ rfl _)
  | claim c fs gs project hp =>
    rw [Controller.claim_fst]
    exact .single (.claim c.latest c.snapshot)
  | wait => exact .nil _
  | finish c fs f gs m h r t hf =>
    have hmem : f ∈ fs ++ f :: gs := Flight.mem_here fs gs f
    obtain ⟨project, hb⟩ := hv.building f hmem
    refine .append (.of_made _ _ _ _) ?_
    show Snapshot.Trail _ _ (c.landed h f.generation r).1.shows
    rcases Controller.landed_cases hb hf with ⟨-, ho, bs, hc⟩ | ⟨hl, ho, entry, us, -, hc⟩ |
      ⟨hl, ho, err, herr, hc⟩
    · rw [ho, hc]
      exact .single (.still _ rfl _)
    · -- The newest build is still the one that the snapshot announces.
      have hs : c.snapshot = _ := (hv.awaited f hmem hl.symm).2
      rw [ho, hc, ← hl]
      show Snapshot.Trail _ (c.latest, c.snapshot) _
      rw [hs]
      exact .single (.ready c.latest _ _)
    · have hs : c.snapshot = _ := (hv.awaited f hmem hl.symm).2
      rw [ho, hc, ← hl]
      show Snapshot.Trail _ (c.latest, c.snapshot) _
      rw [hs]
      exact .single (.fail c.latest _ _ herr)
  | abandon => exact .single (.still _ rfl _)
  | answer st o ho =>
    refine .single (.still _ ?_ _)
    cases o <;> first | rfl | cases ho
  | post => exact .single (.still _ rfl _)
  | deny => exact .nil _
  | receive c fs e es hi =>
    have hv' : Valid ⟨c.withInbox es, fs, true⟩ := hv.frame rfl rfl rfl rfl rfl rfl
    exact .single (Controller.hears_edge (hv'.coherent rfl) (.inl rfl))
  | handle c fs e => exact .single (Controller.hears_edge (hv.coherent rfl) (.inr rfl))
  | shutdown c fs =>
    rw [Controller.shutdown_fst]
    exact .single (.shutdown c.latest c.snapshot)
  | close c =>
    rw [Controller.releaseCurrent_fst]
    exact .nil _

theorem path_trail (hv : a.Valid) (hp : Path a xs es b) :
    Snapshot.Trail xs a.controller.shows b.controller.shows := by
  induction hp with
  | refl a => exact .nil _
  | head ht _ ih => exact (turn_trail hv ht).append (ih (hv.turn ht))

end Stage

namespace Session

theorem move_trail (s : Session) (hs : s.Closed) (hv : s.stage.Valid) (m : Move) :
    Snapshot.Trail (s.occurrences m) s.controller.shows (s.move m).controller.shows := by
  cases hm : m.foreign with
  | false => exact Stage.path_trail hv (s.move_path hs m hm).1
  | true =>
    obtain ⟨h, -, hst, hocc, -⟩ := s.foreign_move hs m hm
    have hc : (s.move m).controller = s.controller.withHost h := congrArg Stage.controller hst
    rw [hocc, hc]
    exact .nil _

structure Coheres (s : Session) : Prop where
  mounted_iff : s.controller.mounted.isSome = s.controller.current.isSome
  mounted : ∀ m, s.controller.mounted = some m → ∃ g, s.controller.current = some g ∧
    m.generation = g.id ∧ g.id = s.controller.latest ∧ m.source = g.entry.handle
  idle : s.controller.snapshot.status = .idle →
    s.controller.snapshot.generation = none ∧ s.controller.current = none
  busy : s.controller.snapshot.status ≠ .idle →
    s.controller.snapshot.generation = some s.controller.latest
  building : s.controller.snapshot.status = .building →
    s.controller.current = none ∧ s.controller.snapshot.handle = none ∧
      s.controller.snapshot.message = none ∧ s.controller.snapshot.kind = none ∧
      s.controller.snapshot.warnings = []
  ready : s.controller.snapshot.status = .ready →
    s.controller.snapshot.message = none ∧ s.controller.snapshot.kind = none ∧
      ∃ g, s.controller.current = some g ∧ s.controller.snapshot.handle = some g.entry.handle ∧
        s.controller.snapshot.warnings = g.warnings
  failed : s.controller.snapshot.status = .failed →
    (s.controller.snapshot.kind = some .runtime ∧
      ∃ g, s.controller.current = some g ∧ s.controller.snapshot.handle = some g.entry.handle ∧
        s.controller.snapshot.warnings = g.warnings) ∨
    ((∃ kind, kind ≠ .runtime ∧ s.controller.snapshot.kind = some kind) ∧
      s.controller.current = none ∧ s.controller.snapshot.handle = none ∧
      s.controller.snapshot.warnings = [])

theorem coheres_of_coherent {s : Session} (hc : s.controller.Coherent) : s.Coheres where
  mounted_iff := by rw [hc.mounted, Option.isSome_map]
  mounted := by
    intro m hm
    rw [hc.mounted, Option.map_eq_some_iff] at hm
    obtain ⟨g, hg, rfl⟩ := hm
    exact ⟨g, hg, rfl, hc.newest g hg, rfl⟩
  idle := hc.shown.idle_empty
  busy := hc.shown.busy_newest
  building := hc.shown.building_bare
  ready := hc.shown.ready_installed
  failed := hc.shown.failed_cases

theorem run_coheres (e : Engine) (origin : String) (ms : List Move)
    (alive : ((start e origin).run ms).alive = true) :
    ((start e origin).run ms).Coheres ∧
      ∀ m, Snapshot.Trail (((start e origin).run ms).occurrences m)
        ((start e origin).run ms).controller.shows
        (((start e origin).run ms).move m).controller.shows := by
  have hvalid := run_valid _ (start_closed e origin) (Stage.start_valid e origin) ms
  exact ⟨coheres_of_coherent (hvalid.coherent alive),
    move_trail _ (run_closed _ (start_closed e origin) ms) hvalid⟩

theorem run_coheres_after_report :
    let s := start (Engine.new {} .marked) "http://localhost"
    let page : Node := ⟨"index.html", .file, some "<p></p>", none⟩
    let ms : List Move :=
      [.command (.setProject "a" [page]), .poll 0,
        .command (.handle ⟨1, ⟨"boom", none⟩⟩)]
    (s.run ms).alive = true ∧ (s.run ms).Coheres ∧
      (∀ m, Snapshot.Trail ((s.run ms).occurrences m) (s.run ms).controller.shows
        ((s.run ms).move m).controller.shows) ∧
      (s.run ms).controller.snapshot.kind = some .runtime := by
  have halive : ((start (Engine.new {} .marked) "http://localhost").run
      [.command (.setProject "a" [⟨"index.html", .file, some "<p></p>", none⟩]), .poll 0,
        .command (.handle ⟨1, ⟨"boom", none⟩⟩)]).alive = true := by decide +kernel
  obtain ⟨hc, ht⟩ := run_coheres _ _ _ halive
  exact ⟨halive, hc, ht, by decide +kernel⟩

end Session

end LivePreview
