import LivePreview.Proofs.Controller
import LivePreview.Proofs.Engine
import LivePreview.Proofs.Run

namespace LivePreview

inductive Flight where
  | fresh (generation : Nat) (project : List Node)
  | running (j : Job)

namespace Flight

def generation : Flight → Nat
  | .fresh g _ => g
  | .running j => j.generation

def advance (e : Engine) (h : Host) (m : Moment) : Flight → Host × Job.Progress × Trace
  | .fresh g project => e.begin h m project g
  | .running j => e.poll h m j

def Builds (e : Engine) (project : List Node) : Flight → Prop
  | .fresh _ project' => project' = project
  | .running j => j.For e project

variable {e : Engine} {h h' : Host} {m : Moment} {f : Flight} {project : List Node} {j : Job}
  {t : Trace}

theorem mem_here (fs gs : List Flight) (f : Flight) : f ∈ fs ++ f :: gs :=
  List.mem_append_right fs List.mem_cons_self

theorem mem_around {fs gs : List Flight} {f f' : Flight} :
    f' ∈ fs ++ f :: gs ↔ f' = f ∨ f' ∈ fs ++ gs :=
  List.perm_middle.mem_iff.trans List.mem_cons

theorem begin_cases (e : Engine) (h : Host) (m : Moment) (project : List Node) (n : Nat) :
    (∃ err, err.kind ≠ .runtime ∧
      e.begin h m project n = (h, .finished (.error err), Trace.log (Node.flattenEvents project))) ∨
    ∃ j, j.generation = n ∧ j.For e project ∧
      e.begin h m project n = ((e.poll h m j).1, (e.poll h m j).2.1,
        Trace.log (Node.flattenEvents project) ++ (e.poll h m j).2.2) := by
  cases hs : e.start project n with
  | error err => exact .inl ⟨err, Engine.start_error hs, by rw [Engine.begin, hs]⟩
  | ok j =>
    obtain ⟨hg, hfor, -⟩ := Engine.start_for hs
    exact .inr ⟨j, hg, hfor, by rw [Engine.begin, hs]⟩

theorem advance_pending (hf : f.advance e h m = (h', .pending j, t)) :
    h' = h ∧ j.generation = f.generation := by
  cases f with
  | running j₀ => exact Engine.poll_pending hf
  | fresh n project =>
    rcases begin_cases e h m project n with ⟨err, -, hb⟩ | ⟨j₀, hg, -, hb⟩
    · rw [advance, hb] at hf
      cases hf
    · rw [advance, hb, Prod.mk.injEq, Prod.mk.injEq] at hf
      obtain ⟨hh, hp, -⟩ := hf
      obtain ⟨hsame, hj⟩ := Engine.poll_pending (Prod.ext hh (Prod.ext hp rfl) :
        e.poll h m j₀ = (h', .pending j, (e.poll h m j₀).2.2))
      exact ⟨hsame, hj.trans hg⟩

theorem advance_builds (hb : f.Builds e project) (hf : f.advance e h m = (h', .pending j, t)) :
    j.For e project := by
  cases f with
  | running j₀ => exact Engine.poll_for_pending hb hf
  | fresh n project' =>
    obtain rfl : project' = project := hb
    rcases begin_cases e h m project' n with ⟨err, -, hb⟩ | ⟨j₀, -, hfor, hb⟩
    · rw [advance, hb] at hf
      cases hf
    · rw [advance, hb, Prod.mk.injEq, Prod.mk.injEq] at hf
      obtain ⟨hh, hp, -⟩ := hf
      exact Engine.poll_for_pending hfor (Prod.ext hh (Prod.ext hp rfl) :
        e.poll h m j₀ = (h', .pending j, (e.poll h m j₀).2.2))

theorem advance_finished {r : Except BuildError Generation} (hb : f.Builds e project)
    (hf : f.advance e h m = (h', .finished r, t)) :
    (∃ err, r = .error err ∧ h' = h ∧ err.kind ≠ .runtime) ∨
      ∃ entry us, e.Produces project entry us ∧
        r = .ok (e.assembled h entry f.generation us) ∧
        h' = h.extend (e.outputs h entry f.generation us) := by
  cases f with
  | running j₀ =>
    rcases Engine.poll_for_finished hb hf with herr | ⟨us, hus, hr, hh⟩
    · exact .inl herr
    · exact .inr ⟨j₀.entry, us, hus, hr, hh⟩
  | fresh n project' =>
    obtain rfl : project' = project := hb
    rcases begin_cases e h m project' n with ⟨err, herr, hb⟩ | ⟨j₀, hg, hfor, hb⟩
    · rw [advance, hb, Prod.mk.injEq, Prod.mk.injEq] at hf
      obtain ⟨rfl, hr, -⟩ := hf
      cases hr
      exact .inl ⟨err, rfl, rfl, herr⟩
    · rw [advance, hb, Prod.mk.injEq, Prod.mk.injEq] at hf
      obtain ⟨hh, hp, -⟩ := hf
      rcases Engine.poll_for_finished hfor (Prod.ext hh (Prod.ext hp rfl) :
        e.poll h m j₀ = (h', .finished r, (e.poll h m j₀).2.2)) with herr | ⟨us, hus, hr, hh⟩
      · exact .inl herr
      · subst hg
        exact .inr ⟨j₀.entry, us, hus, hr, hh⟩

end Flight

namespace Controller

def landed (c : Controller) (h : Host) (n : Nat) (r : Except BuildError Generation) :
    Controller × Outcome × List Event :=
  (c.withHost h).finish n r

def discarded (c : Controller) (bs : List Blob) : Controller :=
  { c with
    inFlight := c.inFlight - 1,
    host := Arena.withoutHandles (c.host.extend bs) (c.host.next bs.length) }

def installed (c : Controller) (h : Host) (g : Generation) : Controller :=
  { c with
    inFlight := c.inFlight - 1, host := h, current := some g,
    mounted := some ⟨g.id, g.entry.handle, c.engine.settings.policy⟩,
    snapshot :=
      { status := .ready, generation := some g.id, handle := some g.entry.handle,
        warnings := g.warnings },
    version := c.version + 1 }

def refused (c : Controller) (err : BuildError) : Controller :=
  { c with
    inFlight := c.inFlight - 1,
    snapshot :=
      { status := .failed, generation := some c.latest, message := some err.message,
        kind := some err.kind },
    version := c.version + 1 }

theorem discarded_blobs {c : Controller} (hs : c.host.Sound) (bs : List Blob) :
    (c.discarded bs).host.blobs = c.host.blobs := by
  have hd := Arena.discard_next hs bs
  rwa [Arena.discard_host] at hd

theorem landed_cases {c : Controller} {f : Flight} {h : Host} {m : Moment} {project : List Node}
    {r : Except BuildError Generation} {t : Trace} (hb : f.Builds c.engine project)
    (hf : f.advance c.engine c.host m = (h, .finished r, t)) :
    (c.latest ≠ f.generation ∧ (c.landed h f.generation r).2.1 = .superseded f.generation ∧
      ∃ bs, (c.landed h f.generation r).1 = c.discarded bs) ∨
    (c.latest = f.generation ∧ (c.landed h f.generation r).2.1 = .ready f.generation ∧
      ∃ entry us, c.engine.Produces project entry us ∧
        (c.landed h f.generation r).1 =
          c.installed (c.host.extend (c.engine.outputs c.host entry f.generation us))
            (c.engine.assembled c.host entry f.generation us)) ∨
    (c.latest = f.generation ∧ (c.landed h f.generation r).2.1 = .failed f.generation ∧
      ∃ err, err.kind ≠ .runtime ∧ (c.landed h f.generation r).1 = c.refused err) := by
  by_cases hl : c.latest = f.generation
  · refine .inr ?_
    rw [← hl]
    rcases Flight.advance_finished hb hf with ⟨err, rfl, rfl, herr⟩ | ⟨entry, us, hus, rfl, rfl⟩
    · obtain ⟨ho, hc⟩ := finish_failed (c.withHost c.host) err
      exact .inr ⟨rfl, ho, err, herr, hc⟩
    · rw [← hl]
      obtain ⟨ho, hc⟩ := finish_ready
        (c.withHost (c.host.extend (c.engine.outputs c.host entry c.latest us)))
        (c.engine.assembled c.host entry c.latest us)
      exact .inl ⟨rfl, ho, entry, us, hus, hc⟩
  · obtain ⟨ho, hc⟩ := finish_superseded (c := c.withHost h) hl r
    refine .inl ⟨hl, ho, ?_⟩
    rw [landed, hc]
    rcases Flight.advance_finished hb hf with ⟨err, rfl, rfl, -⟩ | ⟨entry, us, -, rfl, rfl⟩
    · refine ⟨[], ?_⟩
      have hnil : Arena.withoutHandles (c.host.extend []) (c.host.next 0) = c.host :=
        Arena.withoutHandles_nil c.host
      rw [discarded, List.length_nil, hnil]
      rfl
    · refine ⟨c.engine.outputs c.host entry f.generation us, ?_⟩
      simp only [Arena.discard_host, Engine.assembled_handles]
      rfl

end Controller

structure Stage where
  controller : Controller
  flights : List Flight
  alive : Bool

inductive Turn : Stage → List Occurrence → List Event → Stage → Prop where
  | give (c : Controller) (fs : List Flight) (project : List Node) :
      Turn ⟨c, fs, true⟩ [.given project] [] ⟨{ c with project := some project }, fs, true⟩
  | claim (c : Controller) (fs gs : List Flight) (project : List Node)
      (hp : c.project = some project) :
      Turn ⟨c, fs ++ gs, true⟩ [.claimed (c.latest + 1)] c.claim.2
        ⟨c.claim.1, fs ++ .fresh (c.latest + 1) project :: gs, true⟩
  | wait (c : Controller) (fs : List Flight) (f : Flight) (gs : List Flight) (m : Moment)
      (j : Job) (t : Trace) (hf : f.advance c.engine c.host m = (c.host, .pending j, t)) :
      Turn ⟨c, fs ++ f :: gs, true⟩ [] t.events ⟨c, fs ++ .running j :: gs, true⟩
  | finish (c : Controller) (fs : List Flight) (f : Flight) (gs : List Flight) (m : Moment)
      (h : Host) (r : Except BuildError Generation) (t : Trace)
      (hf : f.advance c.engine c.host m = (h, .finished r, t)) :
      Turn ⟨c, fs ++ f :: gs, true⟩
        (Occurrence.made (some f.generation) c.host (c.landed h f.generation r).1.host ++
          [.completed (c.landed h f.generation r).2.1])
        (t.events ++ (c.landed h f.generation r).2.2)
        ⟨(c.landed h f.generation r).1, fs ++ gs, true⟩
  | abandon (c : Controller) (fs : List Flight) (f : Flight) (gs : List Flight) :
      Turn ⟨c, fs ++ f :: gs, true⟩ [.dropped f.generation] [] ⟨c.abandon, fs ++ gs, true⟩
  | answer (st : Stage) (o : Outcome) (ho : o.generation? = none) :
      Turn st [.completed o] [] st
  | post (c : Controller) (fs : List Flight) (e : Envelope) (es : List Event) (port : Nat)
      (payload : Json) (ha : acceptPost port payload = (some e, es)) :
      Turn ⟨c, fs, true⟩ [.posted e] es ⟨c.withInbox (c.inbox ++ [e]), fs, true⟩
  | deny (st : Stage) (port : Nat) (payload : Json) : Turn st [] (acceptPost port payload).2 st
  | receive (c : Controller) (fs : List Flight) (e : Envelope) (es : List Envelope)
      (hi : c.inbox = e :: es) :
      Turn ⟨c, fs, true⟩ [.received e ((c.withInbox es).handle e).2.1]
        ((c.withInbox es).handle e).2.2 ⟨((c.withInbox es).handle e).1, fs, true⟩
  | handle (c : Controller) (fs : List Flight) (e : Envelope) :
      Turn ⟨c, fs, true⟩ [.handled e (c.handle e).2.1] (c.handle e).2.2 ⟨(c.handle e).1, fs, true⟩
  | shutdown (c : Controller) (fs : List Flight) :
      Turn ⟨c, fs, true⟩ [.shutdown] c.shutdown.2 ⟨c.shutdown.1, fs, true⟩
  | close (c : Controller) :
      Turn ⟨c, [], true⟩ [] c.releaseCurrent.2
        ⟨{ c.releaseCurrent.1 with mounted := none }, [], false⟩

inductive Path : Stage → List Occurrence → List Event → Stage → Prop where
  | refl (a : Stage) : Path a [] [] a
  | head {a b c : Stage} {xs ys : List Occurrence} {es fs : List Event}
      (ht : Turn a xs es b) (hp : Path b ys fs c) : Path a (xs ++ ys) (es ++ fs) c

namespace Path

variable {a b c : Stage} {xs ys : List Occurrence} {es fs : List Event}

theorem single (ht : Turn a xs es b) : Path a xs es b := by
  simpa using Path.head ht (.refl b)

theorem trans (hab : Path a xs es b) (hbc : Path b ys fs c) : Path a (xs ++ ys) (es ++ fs) c := by
  induction hab with
  | refl => exact hbc
  | head ht _ ih =>
    rw [List.append_assoc, List.append_assoc]
    exact .head ht (ih hbc)

end Path

end LivePreview
