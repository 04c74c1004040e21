import LivePreview.Build.Engine
import LivePreview.Proofs.Arena
import LivePreview.Proofs.Compilation

namespace LivePreview

def Node.sources (project : List Node) (entryPath : String) : List (String × String) :=
  (Node.flatten project).entries.filter (fun p => p.1 ≠ entryPath)

structure Job.For (e : Engine) (project : List Node) (j : Job) : Prop where
  found : Document.findEntry (Node.flatten project) e.settings.entryName = .ok j.entry
  tasks : List.Forall₂ (Task.For e.transpiler) (Node.sources project j.entry.path)
    j.compilation.tasks

namespace Engine

variable {e : Engine} {h h' : Host} {m : Moment} {project : List Node} {j : Job} {t : Trace}

def modules (h : Host) (us : List CompiledUnit) : List PublishedResource :=
  List.zipWith Arena.resourceOf us (h.next us.length)

def claims (e : Engine) (h : Host) (us : List CompiledUnit) : ImportMap.Claims :=
  ImportMap.build e.settings.externals (modules h us)

def outputs (e : Engine) (h : Host) (entry : Document.Entry) (n : Nat) (us : List CompiledUnit) :
    List Blob :=
  us.map Arena.blobOf ++
    [⟨.document, Document.assemble entry (modules h us) (e.claims h us).targets e.settings n⟩]

def assembled (e : Engine) (h : Host) (entry : Document.Entry) (n : Nat)
    (us : List CompiledUnit) : Generation where
  id := n
  entry := ⟨entry.path, .document, h.handleOf (h.created + us.length + 1)⟩
  modules := modules h us
  targets := (e.claims h us).targets
  warnings := (e.claims h us).warnings
  arena := ⟨h.next (us.length + 1)⟩

structure Produces (e : Engine) (project : List Node) (entry : Document.Entry)
    (us : List CompiledUnit) : Prop where
  found : Document.findEntry (Node.flatten project) e.settings.entryName = .ok entry
  units : List.Forall₂ (fun file u => e.transpiler.unit? file = some u)
    (Node.sources project entry.path) us

theorem Produces.unique {entry entry' : Document.Entry} {us us' : List CompiledUnit}
    (hp : e.Produces project entry us) (hp' : e.Produces project entry' us') :
    entry = entry' ∧ us = us' := by
  obtain rfl : entry = entry' := Except.ok.inj (hp.found.symm.trans hp'.found)
  refine ⟨rfl, ?_⟩
  have hfirst := hp.units
  have hunits := hp'.units
  clear hp hp'
  generalize Node.sources project entry.path = files at hfirst hunits
  induction hfirst generalizing us' with
  | nil =>
    cases hunits
    rfl
  | cons hu _ ih =>
    cases hunits with
    | cons hu' hrest => rw [Option.some.inj (hu.symm.trans hu'), ih hrest]

theorem next_concat (h : Host) (n : Nat) :
    h.next (n + 1) = h.next n ++ [h.handleOf (h.created + n + 1)] := by
  rw [Host.next, List.range_succ, List.map_append]
  rfl

theorem outputs_length (e : Engine) (h : Host) (entry : Document.Entry) (n : Nat)
    (us : List CompiledUnit) : (e.outputs h entry n us).length = us.length + 1 := by
  simp [outputs]

theorem assembled_handles (e : Engine) (h : Host) (entry : Document.Entry) (n : Nat)
    (us : List CompiledUnit) :
    (e.assembled h entry n us).arena.handles = h.next (e.outputs h entry n us).length := by
  rw [outputs_length]
  rfl

theorem modules_handles (h : Host) (us : List CompiledUnit) :
    (modules h us).map PublishedResource.handle = h.next us.length := by
  induction us generalizing h with
  | nil => rfl
  | cons u us ih =>
    have hrest := ih (h.create (Arena.blobOf u)).1
    rw [modules] at hrest ⊢
    rw [List.length_cons, Host.next_succ h (Arena.blobOf u), List.zipWith_cons_cons,
      List.map_cons, hrest]
    rfl

theorem resources_handles (e : Engine) (h : Host) (entry : Document.Entry) (n : Nat)
    (us : List CompiledUnit) :
    (e.assembled h entry n us).resources.map PublishedResource.handle =
      (e.assembled h entry n us).arena.handles := by
  show ((modules h us) ++ [_]).map PublishedResource.handle = h.next (us.length + 1)
  rw [List.map_append, modules_handles, next_concat]
  rfl

theorem publish_spec (e : Engine) (h : Host) (j : Job) (us : List CompiledUnit) :
    (e.publish h j us).1 = h.extend (e.outputs h j.entry j.generation us) ∧
      (e.publish h j us).2.1 = e.assembled h j.entry j.generation us := by
  have hcount : (h.extend (us.map Arena.blobOf)).created = h.created + us.length := by
    rw [(Host.extend_spec h _).2.1, List.length_map]
  have hk : (h.extend (us.map Arena.blobOf)).handleOf
      ((h.extend (us.map Arena.blobOf)).created + 1) =
        h.handleOf (h.created + us.length + 1) := by
    rw [hcount]
    exact Host.handleOf_congr (Host.extend_spec h _).1 _
  simp only [publish, Arena.publishUnits_spec, List.nil_append]
  constructor
  · rw [outputs, Host.extend_append]
    rfl
  · simp only [Arena.publish, Host.create, hk, assembled, next_concat]
    rfl

theorem start_for {n : Nat} (hs : e.start project n = .ok j) :
    j.generation = n ∧ j.For e project ∧
      j.compilation.tasks =
        (Node.sources project j.entry.path).map (fun p => .queued p.1 p.2) := by
  simp only [start] at hs
  cases he : Document.findEntry (Node.flatten project) e.settings.entryName with
  | error err => simp [he, Except.map] at hs
  | ok entry =>
    simp only [he, Except.map, Except.ok.injEq] at hs
    subst hs
    refine ⟨rfl, ⟨he, ?_⟩, rfl⟩
    show List.Forall₂ _ _ ((Node.sources project entry.path).map _)
    rw [List.forall₂_map_right_iff]
    exact List.forall₂_same.mpr (fun file _ => .queued)

theorem start_error {n : Nat} {err : BuildError} (hs : e.start project n = .error err) :
    err.kind ≠ .runtime := by
  simp only [start, Document.findEntry] at hs
  split at hs
  · cases hs
  · simp only [Except.map, Except.error.injEq] at hs
    subst hs
    exact fun hk => by cases hk

theorem poll_pending {j' : Job} (hp : e.poll h m j = (h', .pending j', t)) :
    h' = h ∧ j'.generation = j.generation := by
  simp only [poll] at hp
  split at hp
  · simp only [Prod.mk.injEq, Job.Progress.pending.injEq] at hp
    obtain ⟨rfl, rfl, rfl⟩ := hp
    exact ⟨rfl, rfl⟩
  · simp at hp
  · simp at hp

theorem poll_for_pending {j' : Job} (hj : j.For e project)
    (hp : e.poll h m j = (h', .pending j', t)) : j'.For e project := by
  simp only [poll, Compilation.poll] at hp
  obtain ⟨hkeep, -⟩ := Compilation.sweep_for j.compilation.limit m
    j.compilation.eager true hj.tasks
  generalize Compilation.sweep e.transpiler j.compilation.limit m j.compilation.eager true
    j.compilation.tasks = r at hkeep hp
  obtain ⟨tasks, trace, failure⟩ := r
  cases failure with
  | some cause => simp at hp
  | none =>
    cases hu : Compilation.units tasks with
    | some us => simp [hu] at hp
    | none =>
      simp only [hu, Prod.mk.injEq, Job.Progress.pending.injEq] at hp
      obtain ⟨-, rfl, -⟩ := hp
      exact ⟨hj.found, hkeep⟩

theorem poll_for_finished {r : Except BuildError Generation} (hj : j.For e project)
    (hp : e.poll h m j = (h', .finished r, t)) :
    (∃ err, r = .error err ∧ h' = h ∧ err.kind ≠ .runtime) ∨
      ∃ us, e.Produces project j.entry us ∧ r = .ok (e.assembled h j.entry j.generation us) ∧
        h' = h.extend (e.outputs h j.entry j.generation us) := by
  simp only [poll, Compilation.poll] at hp
  obtain ⟨hkeep, hblame⟩ := Compilation.sweep_for j.compilation.limit m
    j.compilation.eager true hj.tasks
  generalize Compilation.sweep e.transpiler j.compilation.limit m j.compilation.eager true
    j.compilation.tasks = swept at hkeep hblame hp
  obtain ⟨tasks, trace, failure⟩ := swept
  cases failure with
  | some cause =>
    obtain ⟨file, -, hb⟩ := hblame cause rfl
    simp only [Prod.mk.injEq, Job.Progress.finished.injEq] at hp
    obtain ⟨rfl, rfl, -⟩ := hp
    exact .inl ⟨_, rfl, rfl, hb.kind_ne⟩
  | none =>
    cases hu : Compilation.units tasks with
    | none => simp [hu] at hp
    | some us =>
      obtain ⟨hhost, hgen⟩ := e.publish_spec h j us
      simp only [hu, hhost, hgen, Prod.mk.injEq, Job.Progress.finished.injEq] at hp
      obtain ⟨rfl, rfl, -⟩ := hp
      exact .inr ⟨us, ⟨hj.found, Compilation.units_for hkeep hu⟩, rfl, rfl⟩

theorem begin_done {entry : Document.Entry} {us : List CompiledUnit}
    (hfound : Document.findEntry (Node.flatten project) e.settings.entryName = .ok entry)
    (hus : List.Forall₂ (Task.Done e.transpiler e.settings.timeout m)
      (Node.sources project entry.path) us) (h : Host) (n : Nat) :
    ∃ t, e.begin h m project n = (h.extend (e.outputs h entry n us),
      .finished (.ok (e.assembled h entry n us)), t) := by
  let j : Job := ⟨n, entry, Compilation.start (Node.flatten project) entry.path e.settings.timeout⟩
  have hstart : e.start project n = .ok j := by
    rw [start, hfound]
    rfl
  obtain ⟨trace, hpoll⟩ := Compilation.poll_done (c := j.compilation) rfl hus
  obtain ⟨hhost, hgen⟩ := e.publish_spec h j us
  have hbegin : e.begin h m project n = ((e.publish h j us).1,
      .finished (.ok (e.publish h j us).2.1), Trace.log (Node.flattenEvents project) ++
        (trace ++ Trace.log (e.publish h j us).2.2)) := by
    rw [begin, hstart]
    dsimp only
    rw [poll, show j.compilation.poll e.transpiler m = _ from hpoll]
  rw [hbegin, hhost, hgen]
  exact ⟨_, rfl⟩

def prompt (e : Engine) : Engine := { e with transpiler := e.transpiler.prompt }

theorem prompt_begin {entry : Document.Entry} {us : List CompiledUnit}
    (hp : e.Produces project entry us) (h : Host) (m : Moment) (n : Nat) :
    ∃ t, e.prompt.begin h m project n = (h.extend (e.outputs h entry n us),
      .finished (.ok (e.assembled h entry n us)), t) :=
  begin_done (e := e.prompt) hp.found (hp.units.imp (fun _ _ hu => Task.done_prompt hu)) h n

end Engine

end LivePreview
