import LivePreview.Proofs.Turn

namespace LivePreview

namespace Event

def phrases : List String :=
  ["skipping project node without a name", "skipping project node with a relative name",
    "flattened project tree", "transpiling", "transpilation failed", "compiled project modules",
    "ambiguous import specifier", "built import map", "rewrote entry document",
    "built preview generation", "mounting sandbox",
    "dropping message tagged for another generation",
    "releasing previous generation", "released generation resources",
    "discarding result of superseded build", "runtime error in preview",
    "ignoring message from a stale sandbox"]

def Regular (x : Event) : Prop :=
  x.message ∈ phrases ∨ ∃ text, x.message = "preview build failed: " ++ text

theorem regular_of_phrase {level : Level} {s : String} {fields : List (String × String)}
    (hs : s ∈ phrases) : Regular ⟨level, s, fields⟩ := .inl hs

theorem leak_text_digit (n : Nat) : ∃ c cs, (Cause.leak n).text.toList = c :: cs ∧ c.isDigit := by
  have hdigits : (toString n).toList = Nat.toDigits 10 n := by simp
  have htext : (Cause.leak n).text =
      toString n ++ " published resources are still allocated after teardown" := rfl
  rw [htext, String.toList_append, hdigits]
  cases hd : Nat.toDigits 10 n with
  | nil => exact absurd hd (by simp)
  | cons c cs =>
    have hc : c ∈ Nat.toDigits 10 n := hd ▸ List.mem_cons_self
    exact ⟨c, _, rfl, Nat.isDigit_of_mem_toDigits (by decide) (by decide) hc⟩

theorem Regular.not_leak {x : Event} (hx : x.Regular) (n : Nat) :
    x.message ≠ (Cause.leak n).text := by
  intro he
  obtain ⟨c, cs, htext, hc⟩ := leak_text_digit n
  rcases hx with hp | ⟨text, hf⟩
  · have hall : ∀ s ∈ phrases, s.toList.head?.all (fun c => !c.isDigit) = true := by
      decide +kernel
    have := hall x.message hp
    rw [he, htext] at this
    simp [hc] at this
  · rw [← he, hf, String.toList_append] at htext
    have hletter : c = 'p' := (List.cons.inj htext).1.symm
    rw [hletter] at hc
    exact absurd hc (by decide)

theorem Regular.not_released_twice {x : Event} (hx : x.Regular) :
    x.message ≠ "resource was already released" := by
  intro he
  rcases hx with hp | ⟨text, hf⟩
  · exact absurd (he ▸ hp) (by decide)
  · have hl := congrArg String.toList (hf.symm.trans he)
    rw [String.toList_append] at hl
    exact absurd (List.cons.inj hl).1 (by decide)

end Event

open Event

@[simp] theorem Trace.events_append (a b : Trace) : (a ++ b).events = a.events ++ b.events := rfl

@[simp] theorem Trace.events_log (es : List Event) : (Trace.log es).events = es := rfl

namespace Node

theorem skipEvent_regular (parent name : String) : (skipEvent parent name).Regular := by
  rw [skipEvent]
  split <;> exact regular_of_phrase (by decide)

mutual

theorem skipsOf_regular (parent : String) : ∀ n : Node, ∀ x ∈ skipsOf parent n, x.Regular
  | ⟨name, kind, content, children⟩ => by
    intro x hx
    rw [skipsOf] at hx
    split at hx
    · rw [List.mem_singleton.mp hx]
      exact skipEvent_regular parent name
    · split at hx
      · cases hx
      · exact skipsOfChildren_regular _ children x hx

theorem skipsOfChildren_regular (parent : String) :
    ∀ ns : Option (List Node), ∀ x ∈ skipsOfChildren parent ns, x.Regular
  | none => by simp [skipsOfChildren]
  | some ns => by simpa [skipsOfChildren] using skipsOfEach_regular parent ns

theorem skipsOfEach_regular (parent : String) :
    ∀ ns : List Node, ∀ x ∈ skipsOfEach parent ns, x.Regular
  | [] => by simp [skipsOfEach]
  | n :: ns => by
    intro x hx
    rw [skipsOfEach] at hx
    exact (List.mem_append.mp hx).elim (skipsOf_regular parent n x)
      (skipsOfEach_regular parent ns x)

end

theorem flattenEvents_regular (ns : List Node) : ∀ x ∈ flattenEvents ns, x.Regular := by
  intro x hx
  rcases List.mem_append.mp hx with hx | hx
  · exact skipsOfEach_regular "" ns x hx
  · rw [List.mem_singleton.mp hx]
    exact regular_of_phrase (by decide)

end Node

namespace Compilation

variable {t : Transpiler} {limit : Option Nat} {m : Moment}

theorem settle_regular (path : String) (call : Call) (since : Nat) :
    ∀ x ∈ (Task.settle limit m path call since).2.events, x.Regular := by
  intro x hx
  rw [Task.settle] at hx
  split at hx
  · cases hx
  · rw [List.mem_singleton.mp hx]
    exact regular_of_phrase (by decide)
  · split at hx <;> cases hx

theorem task_poll_regular (t : Transpiler) (limit : Option Nat) (m : Moment) (task : Task) :
    ∀ x ∈ (task.poll t limit m).2.events, x.Regular := by
  intro x hx
  cases task with
  | queued path text =>
    rw [Task.poll] at hx
    dsimp only at hx
    split at hx
    · rw [Trace.events_append, List.mem_append, Transpiler.announce] at hx
      rcases hx with hx | hx
      · split at hx
        · rw [List.mem_singleton.mp hx]
          exact regular_of_phrase (by decide)
        · cases hx
      · exact settle_regular path _ _ x hx
    · cases hx
  | running path call since => exact settle_regular path call since x hx
  | finished result => cases hx

theorem sweep_regular (t : Transpiler) (limit : Option Nat) (m : Moment) (eager ready : Bool)
    (tasks : List Task) :
    ∀ x ∈ (sweep t limit m eager ready tasks).2.1.events, x.Regular := by
  induction tasks generalizing ready with
  | nil => exact fun x hx => by cases hx
  | cons task tasks ih =>
    have hfirst := task_poll_regular t limit m task
    rw [sweep]
    generalize task.poll t limit m = r at hfirst
    obtain ⟨polled, trace⟩ := r
    have hboth : ∀ r, ∀ x ∈ (trace ++ (sweep t limit m eager r tasks).2.1).events, x.Regular := by
      intro r x hx
      rw [Trace.events_append] at hx
      exact (List.mem_append.mp hx).elim (hfirst x) (ih r x)
    dsimp only at hfirst ⊢
    split
    · split
      · exact hfirst
      · exact hboth false
    · exact hboth ready
    · exact hboth false

theorem poll_regular (c : Compilation) : ∀ x ∈ (c.poll t m).2.events, x.Regular := by
  have hsweep := sweep_regular t c.limit m c.eager true c.tasks
  rw [poll]
  generalize sweep t c.limit m c.eager true c.tasks = r at hsweep
  obtain ⟨tasks, trace, failure⟩ := r
  dsimp only at hsweep ⊢
  split
  · exact hsweep
  · split
    · intro x hx
      rw [Trace.events_append, Trace.events_log, List.mem_append, List.mem_singleton] at hx
      rcases hx with hx | rfl
      · exact hsweep x hx
      · exact regular_of_phrase (by decide)
    · exact hsweep

end Compilation

namespace Engine

theorem publish_regular (e : Engine) (h : Host) (j : Job) (us : List CompiledUnit) :
    ∀ x ∈ (e.publish h j us).2.2, x.Regular := by
  intro x hx
  simp only [publish, ImportMap.Claims.events, Document.assembledEvent, List.mem_append,
    List.mem_map, List.mem_cons, List.not_mem_nil, or_false] at hx
  rcases hx with (⟨s, -, rfl⟩ | rfl) | rfl | rfl <;> exact regular_of_phrase (by decide)

theorem poll_regular (e : Engine) (h : Host) (m : Moment) (j : Job) :
    ∀ x ∈ (e.poll h m j).2.2.events, x.Regular := by
  have hpoll := Compilation.poll_regular (t := e.transpiler) (m := m) j.compilation
  rw [poll]
  generalize j.compilation.poll e.transpiler m = r at hpoll
  obtain ⟨p, trace⟩ := r
  dsimp only at hpoll
  split
  · rename_i heq
    cases heq
    exact hpoll
  · rename_i heq
    cases heq
    exact hpoll
  · rename_i us trace' heq
    cases heq
    intro x hx
    rw [Trace.events_append, Trace.events_log] at hx
    exact (List.mem_append.mp hx).elim (hpoll x) (e.publish_regular h j us x)

end Engine

theorem Flight.advance_regular (f : Flight) (e : Engine) (h : Host) (m : Moment) :
    ∀ x ∈ (f.advance e h m).2.2.events, x.Regular := by
  cases f with
  | running j => exact e.poll_regular h m j
  | fresh n project =>
    rcases begin_cases e h m project n with ⟨err, -, hb⟩ | ⟨j, -, -, hb⟩
    · rw [advance, hb]
      exact Node.flattenEvents_regular project
    · rw [advance, hb]
      intro x hx
      rw [Trace.events_append, Trace.events_log] at hx
      exact (List.mem_append.mp hx).elim (Node.flattenEvents_regular project x)
        (e.poll_regular h m j x)

namespace Controller

theorem released_regular {x : Event}
    (hx : x.level = .debug ∧ x.message = "released generation resources") : x.Regular :=
  .inl (hx.2 ▸ by decide)

theorem claim_snd (c : Controller) :
    c.claim.2 = c.current.toList.map (fun g =>
      ⟨.debug, "releasing previous generation", [("generation", generationName g.id)]⟩) ++
        c.releaseCurrent.2 := by
  cases hc : c.current <;> simp [claim, releaseCurrent, hc]

theorem claim_regular {c : Controller} (hn : c.held.Nodup) (hl : ∀ k ∈ c.held, k ∈ c.host.handles) :
    ∀ x ∈ c.claim.2, x.Regular := by
  intro x hx
  rw [claim_snd, List.mem_append] at hx
  rcases hx with hx | hx
  · obtain ⟨g, -, rfl⟩ := List.mem_map.mp hx
    exact regular_of_phrase (by decide)
  · exact released_regular (releaseCurrent_quiet c hn hl x hx)

theorem handle_regular (c : Controller) (e : Envelope) : ∀ x ∈ (c.handle e).2.2, x.Regular := by
  intro x hx
  cases hh : c.hears e with
  | true =>
    rw [handle_of_hears hh, List.mem_singleton] at hx
    rw [hx]
    exact regular_of_phrase (by decide)
  | false =>
    rw [handle_of_not_hears hh, List.mem_singleton] at hx
    rw [hx]
    exact regular_of_phrase (by decide)

theorem acceptPost_regular (port : Nat) (payload : Json) :
    ∀ x ∈ (acceptPost port payload).2, x.Regular := by
  intro x hx
  rw [acceptPost] at hx
  repeat' split at hx
  all_goals first
    | cases hx; done
    | rw [List.mem_singleton.mp hx]; exact regular_of_phrase (by decide)

end Controller

end LivePreview
