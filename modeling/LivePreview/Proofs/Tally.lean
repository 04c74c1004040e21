import LivePreview.Proofs.Valid

namespace LivePreview

namespace Occurrence

def claim? : Occurrence → Option Nat
  | .claimed g => some g
  | _ => none

def end? : Occurrence → Option Nat
  | .completed o => o.generation?
  | .dropped g => some g
  | _ => none

def bumps : Occurrence → Bool
  | .claimed _ => true
  | .shutdown => true
  | _ => false

def claims (hist : List Occurrence) : List Nat := hist.filterMap claim?

def ends (hist : List Occurrence) : List Nat := hist.filterMap end?

def unfinished (hist : List Occurrence) : List Nat :=
  (claims hist).filter (fun g => decide (g ∉ ends hist))

def Throughout (L : List Occurrence → Occurrence → Prop) (hist : List Occurrence) : Prop :=
  ∀ P x R, hist = P ++ x :: R → L P x

theorem Throughout.nil {L : List Occurrence → Occurrence → Prop} : Throughout L [] :=
  fun P x R h => by simp at h

theorem Throughout.concat {L : List Occurrence → Occurrence → Prop} {hist : List Occurrence}
    {x : Occurrence} (h : Throughout L hist) (hx : L hist x) : Throughout L (hist ++ [x]) := by
  intro P y R heq
  rcases List.eq_nil_or_concat R with rfl | ⟨R', z, rfl⟩
  · obtain ⟨rfl, hxy⟩ := List.append_inj' heq rfl
    cases hxy
    exact hx
  · have hlast : hist ++ [x] = (P ++ y :: R') ++ [z] := by simpa using heq
    exact h P y R' (List.append_inj' hlast rfl).1

theorem Throughout.append {L : List Occurrence → Occurrence → Prop} {hist xs : List Occurrence}
    (h : Throughout L hist) (hxs : ∀ x ∈ xs, ∀ P, L P x) : Throughout L (hist ++ xs) := by
  induction xs generalizing hist with
  | nil => simpa using h
  | cons x xs ih =>
    have hfirst := h.concat (hxs x List.mem_cons_self hist)
    simpa using ih hfirst (fun y hy => hxs y (List.mem_cons_of_mem x hy))

theorem claims_append (xs ys : List Occurrence) : claims (xs ++ ys) = claims xs ++ claims ys :=
  List.filterMap_append

theorem ends_append (xs ys : List Occurrence) : ends (xs ++ ys) = ends xs ++ ends ys :=
  List.filterMap_append

theorem made_published {g : Option Nat} {old new : Host} {x : Occurrence}
    (hx : x ∈ made g old new) : ∃ n k, x = .published n k := by
  cases g with
  | none => cases hx
  | some g =>
    obtain ⟨k, -, rfl⟩ := List.mem_map.mp hx
    exact ⟨g, k, rfl⟩

theorem made_filterMap {β : Type} {f : Occurrence → Option β}
    (hf : ∀ n k, f (.published n k) = none) (g : Option Nat) (old new : Host) :
    (made g old new).filterMap f = [] := by
  refine List.filterMap_eq_nil_iff.mpr (fun x hx => ?_)
  obtain ⟨n, k, rfl⟩ := made_published hx
  exact hf n k

theorem made_claims (g : Option Nat) (old new : Host) : claims (made g old new) = [] :=
  made_filterMap (fun _ _ => rfl) g old new

theorem made_ends (g : Option Nat) (old new : Host) : ends (made g old new) = [] :=
  made_filterMap (fun _ _ => rfl) g old new

theorem made_bumps (g : Option Nat) (old new : Host) : (made g old new).countP bumps = 0 := by
  refine List.countP_eq_zero.mpr (fun x hx => ?_)
  obtain ⟨n, k, rfl⟩ := made_published hx
  exact Bool.false_ne_true

end Occurrence

open Occurrence

theorem Controller.landed_latest (c : Controller) (h : Host) (n : Nat)
    (r : Except BuildError Generation) : (c.landed h n r).1.latest = c.latest := by
  by_cases hl : c.latest = n
  · subst hl
    cases r with
    | ok g => exact (congrArg latest (finish_ready (c.withHost h) g).2 :)
    | error err => exact (congrArg latest (finish_failed (c.withHost h) err).2 :)
  · exact (congrArg latest (finish_superseded (c := c.withHost h) hl r).2 :)

namespace Stage

structure Tallied (a : Stage) (hist : List Occurrence) : Prop where
  balance : (a.flights.map Flight.generation ++ ends hist).Perm (claims hist)
  rising : (claims hist).Pairwise (· < ·)
  bounded : ∀ g ∈ claims hist, g ≤ a.controller.latest
  latest : a.controller.latest = hist.countP bumps

variable {a b : Stage} {hist xs : List Occurrence} {c c' : Controller} {fs gs : List Flight}
  {f : Flight}

theorem Tallied.keep (h : a.Tallied hist) (hc : claims xs = []) (he : ends xs = [])
    (hb : xs.countP bumps = 0)
    (hf : b.flights.map Flight.generation = a.flights.map Flight.generation)
    (hl : b.controller.latest = a.controller.latest) : b.Tallied (hist ++ xs) := by
  have hclaims : claims (hist ++ xs) = claims hist := by rw [claims_append, hc, List.append_nil]
  have hends : ends (hist ++ xs) = ends hist := by rw [ends_append, he, List.append_nil]
  refine ⟨?_, hclaims ▸ h.rising, ?_, ?_⟩
  · rw [hclaims, hends, hf]
    exact h.balance
  · rw [hclaims, hl]
    exact h.bounded
  · rw [hl, h.latest, List.countP_append, hb, Nat.add_zero]

theorem Tallied.claim (h : Tallied ⟨c, fs ++ gs, true⟩ hist) (project : List Node) :
    Tallied ⟨c.claim.1, fs ++ .fresh (c.latest + 1) project :: gs, true⟩
      (hist ++ [.claimed (c.latest + 1)]) := by
  have hclaims : claims (hist ++ [.claimed (c.latest + 1)]) = claims hist ++ [c.latest + 1] :=
    claims_append hist _
  have hends : ends (hist ++ [.claimed (c.latest + 1)]) = ends hist := by
    rw [ends_append]
    exact List.append_nil _
  have hl : c.claim.1.latest = c.latest + 1 := by rw [Controller.claim_fst]
  refine ⟨?_, ?_, ?_, ?_⟩
  · rw [hclaims, hends, List.map_append, List.map_cons, List.append_assoc, List.cons_append]
    refine List.perm_middle.trans ?_
    rw [← List.append_assoc, ← List.map_append]
    exact (h.balance.cons _).trans (List.perm_append_singleton _ _).symm
  · rw [hclaims, List.pairwise_append]
    refine ⟨h.rising, List.pairwise_singleton _ _, fun g hg g' hg' => ?_⟩
    rw [List.mem_singleton.mp hg']
    exact Nat.lt_succ_of_le (h.bounded g hg)
  · intro g hg
    rw [hclaims, List.mem_append, List.mem_singleton] at hg
    show g ≤ c.claim.1.latest
    rw [hl]
    exact hg.elim (fun hg => Nat.le_succ_of_le (h.bounded g hg)) Nat.le_of_eq
  · show c.claim.1.latest = _
    rw [hl, List.countP_append, show c.latest = _ from h.latest]
    rfl

theorem Tallied.leave (h : Tallied ⟨c, fs ++ f :: gs, true⟩ hist) (hc : claims xs = [])
    (he : ends xs = [f.generation]) (hb : xs.countP bumps = 0) (hl : c'.latest = c.latest) :
    Tallied ⟨c', fs ++ gs, true⟩ (hist ++ xs) := by
  have hclaims : claims (hist ++ xs) = claims hist := by rw [claims_append, hc, List.append_nil]
  refine ⟨?_, hclaims ▸ h.rising, ?_, ?_⟩
  · rw [hclaims, ends_append, he]
    refine List.Perm.trans ?_ h.balance
    simp only [List.map_append, List.map_cons, List.append_assoc, List.cons_append]
    refine .append_left _ ?_
    rw [← List.append_assoc]
    exact List.perm_append_singleton _ _
  · rw [hclaims]
    show ∀ g ∈ claims hist, g ≤ c'.latest
    rw [hl]
    exact h.bounded
  · show c'.latest = _
    rw [hl, List.countP_append, hb, Nat.add_zero]
    exact h.latest

theorem Tallied.shutdown (h : Tallied ⟨c, fs, true⟩ hist) :
    Tallied ⟨c.shutdown.1, fs, true⟩ (hist ++ [.shutdown]) := by
  have hclaims : claims (hist ++ [.shutdown]) = claims hist := by
    rw [claims_append]
    exact List.append_nil _
  have hl : c.shutdown.1.latest = c.latest + 1 := by rw [Controller.shutdown_fst]
  refine ⟨?_, hclaims ▸ h.rising, ?_, ?_⟩
  · rw [hclaims, ends_append, show ends [.shutdown] = [] from rfl, List.append_nil]
    exact h.balance
  · rw [hclaims]
    show ∀ g ∈ claims hist, g ≤ c.shutdown.1.latest
    rw [hl]
    exact fun g hg => Nat.le_succ_of_le (h.bounded g hg)
  · show c.shutdown.1.latest = _
    rw [hl, List.countP_append, show c.latest = _ from h.latest]
    rfl

theorem Tallied.turn {es : List Event} (h : a.Tallied hist) (ht : Turn a xs es b) :
    b.Tallied (hist ++ xs) := by
  cases ht with
  | give => exact h.keep rfl rfl rfl rfl rfl
  | claim c fs gs project hp => exact h.claim project
  | wait c fs f gs m j t hf =>
    refine h.keep rfl rfl rfl ?_ rfl
    simp only [List.map_append, List.map_cons]
    rw [show (Flight.running j).generation = f.generation from (Flight.advance_pending hf).2]
  | finish c fs f gs m host r t hf =>
    refine h.leave ?_ ?_ ?_ (c.landed_latest host f.generation r)
    · rw [claims_append, made_claims]
      rfl
    · rw [ends_append, made_ends, List.nil_append]
      show List.filterMap end? [_] = _
      rw [List.filterMap_cons, end?, c.landed_generation host f.generation r]
      rfl
    · rw [List.countP_append, made_bumps]
      rfl
  | abandon => exact h.leave rfl rfl rfl rfl
  | answer st o ho =>
    refine h.keep rfl ?_ rfl rfl rfl
    show List.filterMap end? [_] = _
    rw [List.filterMap_cons, end?, ho]
    rfl
  | post => exact h.keep rfl rfl rfl rfl rfl
  | deny => exact h.keep rfl rfl rfl rfl rfl
  | receive c fs e es hi =>
    obtain ⟨s, v, hc⟩ := (c.withInbox es).handle_frame e
    exact h.keep rfl rfl rfl rfl (congrArg Controller.latest hc :)
  | handle c fs e =>
    obtain ⟨s, v, hc⟩ := c.handle_frame e
    exact h.keep rfl rfl rfl rfl (congrArg Controller.latest hc :)
  | shutdown => exact h.shutdown
  | close c =>
    refine h.keep rfl rfl rfl rfl ?_
    show c.releaseCurrent.1.latest = c.latest
    rw [Controller.releaseCurrent_fst]
    rfl

theorem Tallied.claims_nodup (h : a.Tallied hist) : (claims hist).Nodup :=
  h.rising.imp Nat.ne_of_lt

theorem Tallied.ends_nodup (h : a.Tallied hist) : (ends hist).Nodup :=
  (List.nodup_append.mp (h.balance.nodup_iff.mpr h.claims_nodup)).2.1

theorem Tallied.flying_not_ended (h : a.Tallied hist) (hf : f ∈ a.flights) :
    f.generation ∉ ends hist :=
  List.disjoint_of_nodup_append (h.balance.nodup_iff.mpr h.claims_nodup)
    (List.mem_map_of_mem hf)

theorem Tallied.unfinished_perm (h : a.Tallied hist) :
    (unfinished hist).Perm (a.flights.map Flight.generation) := by
  have hd := List.disjoint_of_nodup_append (h.balance.nodup_iff.mpr h.claims_nodup)
  have hkeep : (a.flights.map Flight.generation).filter (fun g => decide (g ∉ ends hist)) =
      a.flights.map Flight.generation := by
    rw [List.filter_eq_self]
    exact fun g hg => decide_eq_true (fun he => hd hg he)
  have hdrop : (ends hist).filter (fun g => decide (g ∉ ends hist)) = [] := by
    rw [List.filter_eq_nil_iff]
    exact fun g hg => by simpa using hg
  have hp := h.balance.filter (fun g => decide (g ∉ ends hist))
  rw [List.filter_append, hkeep, hdrop, List.append_nil] at hp
  exact hp.symm

end Stage

namespace Session

theorem run_tallied (e : Engine) (origin : String) (ms : List Move) :
    ((start e origin).run ms).stage.Tallied ((start e origin).history ms) := by
  have hstart : (start e origin).stage.Tallied [] := ⟨.nil, .nil, by simp [claims], rfl⟩
  exact run_preserves (P := Stage.Tallied) (fun _ _ _ _ _ ha ht => ha.turn ht)
    (fun _ _ _ ha _ => ⟨ha.balance, ha.rising, ha.bounded, ha.latest⟩) _ (start_closed e origin) []
    hstart ms

theorem run_invariant (e : Engine) (origin : String) {P : Stage → List Occurrence → Prop}
    (hstart : P (start e origin).stage [])
    (hturn : ∀ a hist xs es b, a.Valid → a.Tallied hist → P a hist → Turn a xs es b →
      P b (hist ++ xs))
    (hhost : ∀ a hist h, P a hist → P ⟨a.controller.withHost h, a.flights, a.alive⟩ hist)
    (ms : List Move) : P ((start e origin).run ms).stage ((start e origin).history ms) := by
  have hrun := run_preserves (P := fun a hist => a.Valid ∧ a.Tallied hist ∧ P a hist)
    (fun a hist xs es b ha ht =>
      ⟨ha.1.turn ht, ha.2.1.turn ht, hturn a hist xs es b ha.1 ha.2.1 ha.2.2 ht⟩)
    (fun a hist h ha _ => ⟨ha.1.frame rfl rfl rfl rfl rfl rfl,
      ⟨ha.2.1.balance, ha.2.1.rising, ha.2.1.bounded, ha.2.1.latest⟩, hhost a hist h ha.2.2⟩)
    _ (start_closed e origin) []
    ⟨Stage.start_valid e origin, run_tallied e origin [], hstart⟩ ms
  exact hrun.2.2

end Session

end LivePreview
