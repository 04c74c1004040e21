import LivePreview.Proofs.Arena
import LivePreview.Controller

namespace LivePreview.Controller

def withInbox (c : Controller) (es : List Envelope) : Controller := { c with inbox := es }

def withHost (c : Controller) (h : Host) : Controller := { c with host := h }

def held (c : Controller) : List Handle :=
  match c.current with
  | some g => g.arena.handles
  | none => []

def emptied (c : Controller) : Controller :=
  { c with host := Arena.withoutHandles c.host c.held, current := none }

theorem releaseCurrent_fst (c : Controller) : c.releaseCurrent.1 = c.emptied := by
  cases hc : c.current with
  | none =>
    have hh : Arena.withoutHandles c.host c.held = c.host := by
      rw [held, hc, Arena.withoutHandles_nil]
    simp only [releaseCurrent, hc, emptied, hh]
    rw [← hc]
  | some g =>
    have hh : (g.arena.discard c.host).1 = Arena.withoutHandles c.host c.held := by
      rw [held, hc, Arena.discard_host]
    simp only [releaseCurrent, hc, emptied, ← hh]

theorem releaseCurrent_quiet (c : Controller) (hn : c.held.Nodup)
    (hl : ∀ k ∈ c.held, k ∈ c.host.handles) :
    ∀ x ∈ c.releaseCurrent.2, x.level = .debug ∧ x.message = "released generation resources" := by
  cases hc : c.current with
  | none => simp [releaseCurrent, hc]
  | some g =>
    rw [held, hc] at hn hl
    simpa only [releaseCurrent, hc] using Arena.discard_quiet hn hl

theorem claim_fst (c : Controller) :
    c.claim.1 = { c.emptied with
      latest := c.latest + 1, inFlight := c.inFlight + 1, mounted := none,
      snapshot := { status := .building, generation := some (c.latest + 1) },
      version := c.version + 1 } := by
  simp only [claim, releaseCurrent_fst]
  rfl

theorem shutdown_fst (c : Controller) :
    c.shutdown.1 = { c.emptied with
      latest := c.latest + 1, project := none, mounted := none, snapshot := {},
      version := c.version + 1 } := by
  simp only [shutdown, releaseCurrent_fst]
  rfl

theorem finish_superseded {c : Controller} {n : Nat} (hn : c.latest ≠ n)
    (r : Except BuildError Generation) :
    (c.finish n r).2.1 = .superseded n ∧
      (c.finish n r).1 = { c with
        inFlight := c.inFlight - 1,
        host := match r with
          | .ok g => (g.arena.discard c.host).1
          | .error _ => c.host } := by
  cases r with
  | ok g =>
    rw [finish, if_pos hn]
    exact ⟨rfl, rfl⟩
  | error e =>
    rw [finish, if_pos hn]
    exact ⟨rfl, rfl⟩

theorem finish_ready (c : Controller) (g : Generation) :
    (c.finish c.latest (.ok g)).2.1 = .ready c.latest ∧
      (c.finish c.latest (.ok g)).1 = { c with
        inFlight := c.inFlight - 1,
        snapshot :=
          { status := .ready, generation := some g.id, handle := some g.entry.handle,
            warnings := g.warnings },
        version := c.version + 1,
        mounted := some ⟨g.id, g.entry.handle, c.engine.settings.policy⟩,
        current := some g } := by
  rw [finish, if_neg (fun h => h rfl)]
  exact ⟨rfl, rfl⟩

theorem finish_failed (c : Controller) (e : BuildError) :
    (c.finish c.latest (.error e)).2.1 = .failed c.latest ∧
      (c.finish c.latest (.error e)).1 = { c with
        inFlight := c.inFlight - 1,
        snapshot :=
          { status := .failed, generation := some c.latest, message := some e.message,
            kind := some e.kind },
        version := c.version + 1 } := by
  rw [finish, if_neg (fun h => h rfl)]
  exact ⟨rfl, rfl⟩

theorem finish_generation (c : Controller) (n : Nat) (r : Except BuildError Generation) :
    (c.finish n r).2.1 = .superseded n ∨ (c.finish n r).2.1 = .ready n ∨
      (c.finish n r).2.1 = .failed n := by
  by_cases hn : c.latest = n
  · subst hn
    cases r with
    | ok g => exact .inr (.inl (finish_ready c g).1)
    | error e => exact .inr (.inr (finish_failed c e).1)
  · exact .inl (finish_superseded hn r).1

def hears (c : Controller) (e : Envelope) : Bool :=
  c.mounted.any (fun m => m.generation == e.generation)

theorem hears_iff {c : Controller} {e : Envelope} :
    c.hears e = true ↔ ∃ m, c.mounted = some m ∧ m.generation = e.generation := by
  rw [hears, Option.any_eq_true]
  simp only [beq_iff_eq]

def broken (s : Snapshot) (e : Envelope) : Snapshot :=
  { s with status := .failed, message := some e.content.message, kind := some .runtime }

theorem handle_of_hears {c : Controller} {e : Envelope} (h : c.hears e = true) :
    c.handle e = (c.publish (broken c.snapshot e), true,
      [⟨.warn, "runtime error in preview",
        [("generation", generationName e.generation), ("message", e.content.message)]⟩]) := by
  cases hm : c.mounted with
  | none => simp [hears, hm] at h
  | some m =>
    have hg : (m.generation == e.generation) = true := by simpa [hears, hm] using h
    simp only [handle, hm, hg, if_true]
    rfl

theorem handle_of_not_hears {c : Controller} {e : Envelope} (h : c.hears e = false) :
    c.handle e = (c, false, [⟨.warn, "ignoring message from a stale sandbox",
      [("generation", generationName e.generation)]⟩]) := by
  cases hm : c.mounted with
  | none => simp [handle, hm]
  | some m =>
    have hg : (m.generation == e.generation) = false := by simpa [hears, hm] using h
    simp [handle, hm, hg]

theorem handle_withInbox (c : Controller) (e : Envelope) (es : List Envelope) :
    (c.withInbox es).handle e =
      ((c.handle e).1.withInbox es, (c.handle e).2.1, (c.handle e).2.2) := by
  cases h : c.hears e with
  | true =>
    rw [handle_of_hears h, handle_of_hears (c := c.withInbox es) h]
    rfl
  | false => rw [handle_of_not_hears h, handle_of_not_hears (c := c.withInbox es) h]

theorem handle_frame (c : Controller) (e : Envelope) :
    ∃ s v, (c.handle e).1 = { c with snapshot := s, version := v } := by
  cases h : c.hears e with
  | true => exact ⟨_, _, congrArg Prod.fst (handle_of_hears h)⟩
  | false => exact ⟨_, _, congrArg Prod.fst (handle_of_not_hears h)⟩

def heed (c : Controller) (es : List Envelope) : Controller :=
  { c with
    snapshot := (es.filter c.hears).foldl broken c.snapshot,
    version := c.version + (es.filter c.hears).length }

theorem heed_hears (c : Controller) (es : List Envelope) : (c.heed es).hears = c.hears := rfl

theorem heed_of_stale {c : Controller} {es : List Envelope} (h : ∀ e ∈ es, c.hears e = false) :
    c.heed es = c := by
  have hnone : es.filter c.hears = [] := by
    rw [List.filter_eq_nil_iff]
    exact fun e he => by simp [h e he]
  rw [heed, hnone]
  rfl

theorem heed_of_hears {c : Controller} {e : Envelope} (h : c.hears e = true) :
    c.heed [e] = c.publish (broken c.snapshot e) := by
  rw [heed, List.filter_cons_of_pos h]
  rfl

theorem heed_append (c : Controller) (es fs : List Envelope) :
    c.heed (es ++ fs) = (c.heed es).heed fs := by
  simp only [heed, List.filter_append, List.foldl_append, List.length_append, Nat.add_assoc]
  rfl

theorem handle_eq_heed (c : Controller) (e : Envelope) :
    (c.handle e).1 = c.heed [e] ∧ (c.handle e).2.1 = c.hears e := by
  cases h : c.hears e with
  | true =>
    rw [handle_of_hears h, heed_of_hears h]
    exact ⟨rfl, rfl⟩
  | false =>
    rw [handle_of_not_hears h, heed_of_stale (by simpa using h)]
    exact ⟨rfl, rfl⟩

theorem handleEach_eq_heed (c : Controller) (es : List Envelope) :
    (c.handleEach es).1 = c.heed es ∧ (c.handleEach es).2.1 = (es.filter c.hears).length := by
  induction es generalizing c with
  | nil => exact ⟨rfl, rfl⟩
  | cons e es ih =>
    obtain ⟨hone, happlied⟩ := c.handle_eq_heed e
    obtain ⟨hrest, hcount⟩ := ih (c.heed [e])
    have hall : c.heed (e :: es) = (c.heed [e]).heed es := c.heed_append [e] es
    simp only [handleEach, hone, happlied]
    refine ⟨hrest.trans hall.symm, ?_⟩
    rw [hcount, heed_hears]
    cases he : c.hears e <;> simp [he]

theorem drain_eq_heed (c : Controller) : c.drain.1 = (c.heed c.inbox).withInbox [] ∧
    c.drain.2.1 = (c.inbox.filter c.hears).length :=
  (c.withInbox []).handleEach_eq_heed c.inbox

theorem post_events (c : Controller) (port : Nat) (payload : Json) :
    (c.post port payload).2.2 = (acceptPost port payload).2 := by
  rcases hacc : acceptPost port payload with ⟨_ | e, es⟩ <;> simp [post, hacc]

end LivePreview.Controller
