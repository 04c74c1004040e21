import LivePreview.Proofs.Path

namespace LivePreview

inductive Host.Meddled (h : Host) : Host → Prop where
  | none : Meddled h h
  | create (b : Blob) : Meddled h (h.create b).1
  | release (k : Handle) : Meddled h (h.release k).1

namespace Session

theorem start_closed (e : Engine) (origin : String) : (start e origin).Closed :=
  closed_of_alive rfl

theorem foreign_move (s : Session) (hs : s.Closed) (m : Move) (hm : m.foreign = true) :
    ∃ h, s.controller.host.Meddled h ∧
      (s.move m).stage = ⟨s.controller.withHost h, s.flights, s.alive⟩ ∧
      s.occurrences m = [] ∧ (s.move m).Closed := by
  obtain ⟨k⟩ | i | i := m
  · cases k with
    | release serial =>
      simp only [move, act, occurrences, told]
      cases s.handleAt serial with
      | none => exact ⟨s.controller.host, .none, rfl, trivial, hs⟩
      | some k => exact ⟨(s.controller.host.release k).1, .release k, rfl, trivial, hs⟩
    | create text =>
      exact ⟨(s.controller.host.create ⟨.document, text⟩).1, .create ⟨.document, text⟩, rfl, rfl,
        hs⟩
    | _ => cases hm
  · cases hm
  · cases hm

theorem run_closed (s : Session) (hs : s.Closed) (ms : List Move) : (s.run ms).Closed := by
  induction ms generalizing s with
  | nil => exact hs
  | cons m ms ih =>
    refine ih (s.move m) ?_
    cases hm : m.foreign with
    | false => exact (s.move_path hs m hm).2
    | true =>
      obtain ⟨_, -, -, -, hc⟩ := s.foreign_move hs m hm
      exact hc

theorem own_run_path (s : Session) (hs : s.Closed) (ms : List Move)
    (hown : ∀ m ∈ ms, m.foreign = false) :
    Path s.stage (s.history ms) (s.runLog ms) (s.run ms).stage := by
  induction ms generalizing s with
  | nil => exact .refl _
  | cons m ms ih =>
    obtain ⟨hfirst, hc⟩ := s.move_path hs m (hown m List.mem_cons_self)
    exact hfirst.trans (ih (s.move m) hc (fun m' hm' => hown m' (List.mem_cons_of_mem m hm')))

end Session

theorem Path.preserves {P : Stage → List Occurrence → Prop}
    (hturn : ∀ a hist xs es b, P a hist → Turn a xs es b → P b (hist ++ xs))
    {a b : Stage} {xs : List Occurrence} {es : List Event} (hp : Path a xs es b)
    (hist : List Occurrence) (ha : P a hist) : P b (hist ++ xs) := by
  induction hp generalizing hist with
  | refl => simpa using ha
  | head ht _ ih =>
    rw [← List.append_assoc]
    exact ih _ (hturn _ _ _ _ _ ha ht)

theorem Session.run_preserves {P : Stage → List Occurrence → Prop}
    (hturn : ∀ a hist xs es b, P a hist → Turn a xs es b → P b (hist ++ xs))
    (hforeign : ∀ a hist h, P a hist → a.controller.host.Meddled h →
      P ⟨a.controller.withHost h, a.flights, a.alive⟩ hist)
    (s : Session) (hs : s.Closed) (hist : List Occurrence) (h0 : P s.stage hist)
    (ms : List Move) : P (s.run ms).stage (hist ++ s.history ms) := by
  induction ms generalizing s hist with
  | nil => simpa [history, run] using h0
  | cons m ms ih =>
    rw [run, history, ← List.append_assoc]
    cases hm : m.foreign with
    | false =>
      obtain ⟨hp, hc⟩ := s.move_path hs m hm
      exact ih (s.move m) hc _ (hp.preserves hturn hist h0)
    | true =>
      obtain ⟨h, hmed, hst, hocc, hc⟩ := s.foreign_move hs m hm
      refine ih (s.move m) hc _ ?_
      rw [hst, hocc, List.append_nil]
      exact hforeign s.stage hist h h0 hmed

end LivePreview
