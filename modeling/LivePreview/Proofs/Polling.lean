import LivePreview.Proofs.Verdict

namespace LivePreview

structure Task.Yields (t : Transpiler) (seen : List Moment) (file : String × String)
    (u : CompiledUnit) : Prop where
  path : u.path = file.1
  media : u.media = (SourceKind.ofPath file.1).media
  text : if (SourceKind.ofPath file.1).needsTranspile then
      ∃ m ∈ seen, t.Answered m file (.ok u.text)
    else u.text = file.2

inductive Task.Fails (t : Transpiler) (limit : Option Nat) (since : Nat) (seen : List Moment)
    (file : String × String) : Cause → Prop
  | refused (m : Moment) (message : String) (hm : m ∈ seen)
      (ha : t.Answered m file (.error message)) : Fails t limit since seen file (.compile file.1 message)
  | late (m : Moment) (l : Nat) (hm : m ∈ seen) (hl : limit = some l) (hlate : since + l ≤ m.now)
      (ha : ∀ answer, ¬t.Answered m file answer) : Fails t limit since seen file (.timedOut file.1)

def Task.Waits (t : Transpiler) (limit : Option Nat) (since : Nat) (seen : List Moment)
    (file : String × String) : Prop :=
  ∀ m ∈ seen, (∀ answer, ¬t.Answered m file answer) ∧ ∀ l, limit = some l → m.now < since + l

namespace Task

variable {t : Transpiler} {limit : Option Nat} {since : Nat} {seen seen' : List Moment}
  {file : String × String} {m : Moment}

theorem Yields.mono {u : CompiledUnit} (h : Yields t seen file u) (hs : seen ⊆ seen') :
    Yields t seen' file u := by
  refine ⟨h.path, h.media, ?_⟩
  have ht := h.text
  split at ht
  · rename_i hk
    obtain ⟨m, hm, ha⟩ := ht
    rw [if_pos hk]
    exact ⟨m, hs hm, ha⟩
  · rename_i hk
    rw [if_neg hk]
    exact ht

theorem Fails.mono {c : Cause} (h : Fails t limit since seen file c) (hs : seen ⊆ seen') :
    Fails t limit since seen' file c := by
  cases h with
  | refused m message hm ha => exact .refused m message (hs hm) ha
  | late m l hm hl hlate ha => exact .late m l (hs hm) hl hlate ha

theorem yields_of_outcome {u : CompiledUnit} (h : outcome? t limit since file m = some (.ok u)) :
    Yields t [m] file u := by
  rw [outcome?] at h
  split at h
  · rename_i hk
    split at h
    · rename_i code hdone
      cases h
      refine ⟨rfl, rfl, ?_⟩
      rw [if_pos hk]
      exact ⟨m, List.mem_singleton.mpr rfl, hdone⟩
    · cases h
    · split at h <;> cases h
  · rename_i hk
    cases h
    exact ⟨rfl, rfl, by rw [if_neg hk]⟩

theorem not_answered {answer : Except String String}
    (hok : ∀ code, (t.callFor file).advance m.opened ≠ .done (.ok code))
    (herror : ∀ message, (t.callFor file).advance m.opened ≠ .done (.error message)) :
    ¬t.Answered m file answer := by
  intro ha
  cases answer with
  | ok code => exact hok code ha
  | error message => exact herror message ha

theorem fails_of_outcome {c : Cause} (h : outcome? t limit since file m = some (.error c)) :
    (SourceKind.ofPath file.1).needsTranspile = true ∧ Fails t limit since [m] file c := by
  have hm : m ∈ [m] := List.mem_singleton.mpr rfl
  rw [outcome?] at h
  split at h
  · rename_i hk
    refine ⟨hk, ?_⟩
    split at h
    · cases h
    · rename_i message hdone
      cases h
      exact .refused m message hm hdone
    · rename_i hok herror
      split at h
      · rename_i hexpired
        cases h
        cases limit with
        | none => cases hexpired
        | some l =>
          exact .late m l hm rfl (of_decide_eq_true hexpired)
            (fun answer => not_answered hok herror)
      · cases h
  · cases h

theorem waits_of_outcome (h : outcome? t limit since file m = none) :
    Waits t limit since [m] file := by
  rintro m' hm'
  obtain rfl := List.mem_singleton.mp hm'
  rw [outcome?] at h
  split at h
  · split at h
    · cases h
    · cases h
    · rename_i hok herror
      refine ⟨fun answer => not_answered hok herror, ?_⟩
      rintro l rfl
      split at h
      · cases h
      · rename_i hexpired
        exact Nat.lt_of_not_le (fun hle => hexpired (decide_eq_true hle))
  · cases h

theorem yields_of_verdict {u : CompiledUnit} (h : verdict? t limit since seen file = some (.ok u)) :
    Yields t seen file u := by
  obtain ⟨m, hm, ho⟩ := List.exists_of_findSome?_eq_some h
  exact (yields_of_outcome ho).mono (List.cons_subset.mpr ⟨hm, List.nil_subset seen⟩)

theorem fails_of_verdict {c : Cause} (h : verdict? t limit since seen file = some (.error c)) :
    (SourceKind.ofPath file.1).needsTranspile = true ∧ Fails t limit since seen file c := by
  obtain ⟨m, hm, ho⟩ := List.exists_of_findSome?_eq_some h
  obtain ⟨hk, hf⟩ := fails_of_outcome ho
  exact ⟨hk, hf.mono (List.cons_subset.mpr ⟨hm, List.nil_subset seen⟩)⟩

theorem waits_of_verdict (h : verdict? t limit since seen file = none) :
    Waits t limit since seen file := fun m hm =>
  waits_of_outcome (List.findSome?_eq_none_iff.mp h m hm) m (List.mem_singleton.mpr rfl)

end Task

namespace Compilation

variable {t : Transpiler} {limit : Option Nat} {since : Nat} {seen : List Moment}
  {files : List (String × String)} {m : Moment}

theorem sweep_calls (eager ready : Bool) (tasks : List Task) :
    (sweep t limit m eager ready tasks).2.1.calls <+: tasks.flatMap Task.due ∧
      ((sweep t limit m eager ready tasks).2.2 = none →
        (sweep t limit m eager ready tasks).2.1.calls = tasks.flatMap Task.due) := by
  induction tasks generalizing ready with
  | nil => exact ⟨List.prefix_rfl, fun _ => rfl⟩
  | cons task tasks ih =>
    have hcalls := Task.poll_calls t limit m task
    rw [List.flatMap_cons, ← hcalls, sweep]
    generalize task.poll t limit m = polled
    obtain ⟨task', trace⟩ := polled
    have hrest : ∀ r, (trace ++ (sweep t limit m eager r tasks).2.1).calls <+:
          trace.calls ++ tasks.flatMap Task.due ∧
        ((sweep t limit m eager r tasks).2.2 = none →
          (trace ++ (sweep t limit m eager r tasks).2.1).calls =
            trace.calls ++ tasks.flatMap Task.due) := by
      intro r
      obtain ⟨hfront, heq⟩ := ih r
      exact ⟨(List.prefix_append_right_inj trace.calls).mpr hfront,
        fun hn => congrArg (trace.calls ++ ·) (heq hn)⟩
    dsimp only
    split
    · split
      · exact ⟨List.prefix_append _ _, by rintro ⟨⟩⟩
      · exact hrest false
    · exact hrest ready
    · exact hrest false

theorem sweep_relates {P Q : String × String → Task → Prop}
    (hpoll : ∀ file task, P file task → Q file (task.poll t limit m).1) (eager ready : Bool)
    {tasks : List Task} (h : List.Forall₂ P files tasks) :
    ((sweep t limit m eager ready tasks).2.2 = none →
        List.Forall₂ Q files (sweep t limit m eager ready tasks).1) ∧
      ∀ c ∈ (sweep t limit m eager ready tasks).2.2,
        ∃ file ∈ files, Q file (.finished (.error c)) := by
  induction h generalizing ready with
  | nil => exact ⟨fun _ => .nil, nofun⟩
  | @cons file task files tasks hp _ ih =>
    have hq := hpoll file task hp
    rw [sweep]
    generalize task.poll t limit m = polled at hq
    obtain ⟨task', trace⟩ := polled
    have hrest : ∀ r, ((sweep t limit m eager r tasks).2.2 = none →
          List.Forall₂ Q (file :: files) (task' :: (sweep t limit m eager r tasks).1)) ∧
        ∀ c ∈ (sweep t limit m eager r tasks).2.2,
          ∃ file' ∈ file :: files, Q file' (.finished (.error c)) := by
      intro r
      obtain ⟨hnone, hsome⟩ := ih r
      refine ⟨fun hn => .cons hq (hnone hn), fun c hc => ?_⟩
      obtain ⟨file', hmem, hf⟩ := hsome c hc
      exact ⟨file', List.mem_cons_of_mem file hmem, hf⟩
    dsimp only at hq ⊢
    split
    · rename_i cause
      split
      · refine ⟨by rintro ⟨⟩, fun c hc => ?_⟩
        obtain rfl : cause = c := Option.some.inj hc
        exact ⟨file, List.mem_cons_self, hq⟩
      · exact hrest false
    · exact hrest ready
    · exact hrest false

theorem sweep_unfinished {eager ready : Bool} {tasks : List Task}
    (hcounts : eager = true ∨ ready = true)
    (hnone : (sweep t limit m eager ready tasks).2.2 = none)
    (hunits : units (sweep t limit m eager ready tasks).1 = none) :
    ∃ task ∈ (sweep t limit m eager ready tasks).1, ∀ r, task ≠ .finished r := by
  induction tasks generalizing ready with
  | nil => cases hunits
  | cons task tasks ih =>
    rw [sweep] at hnone hunits ⊢
    generalize task.poll t limit m = polled at hnone hunits ⊢
    obtain ⟨task', trace⟩ := polled
    dsimp only at hnone hunits ⊢
    split at hnone
    · rename_i cause
      rw [if_pos (by simpa using hcounts)] at hnone
      cases hnone
    · rename_i u
      rw [units, Option.map_eq_none_iff] at hunits
      obtain ⟨waiting, hmem, hw⟩ := ih hcounts hnone hunits
      exact ⟨waiting, List.mem_cons_of_mem _ hmem, hw⟩
    · rename_i herror hok
      refine ⟨task', List.mem_cons_self, ?_⟩
      rintro (cause | u) rfl
      · exact herror cause rfl
      · exact hok u rfl

theorem units_stands {tasks : List Task} {us : List CompiledUnit}
    (h : List.Forall₂ (Task.Reached t limit since seen) files tasks) (hu : units tasks = some us) :
    List.Forall₂ (Task.Yields t seen) files us := by
  induction h generalizing us with
  | nil =>
    cases hu
    exact .nil
  | cons hf _ ih =>
    cases hf with
    | running call hk hc hv => cases hu
    | settled r hv =>
      cases r with
      | error c => cases hu
      | ok u =>
        rw [units, Option.map_eq_some_iff] at hu
        obtain ⟨us', hus', rfl⟩ := hu
        exact .cons (Task.yields_of_verdict hv) (ih hus')

inductive Stands (t : Transpiler) (limit : Option Nat) (since : Nat) (seen : List Moment)
    (files : List (String × String)) : Progress → Prop
  | pending (c : Compilation) (hl : c.limit = limit)
      (htasks : List.Forall₂ (Task.Reached t limit since seen) files c.tasks)
      (hw : ∃ file ∈ files, (SourceKind.ofPath file.1).needsTranspile = true ∧
        Task.Waits t limit since seen file) : Stands t limit since seen files (.pending c)
  | compiled (us : List CompiledUnit) (hus : List.Forall₂ (Task.Yields t seen) files us) :
      Stands t limit since seen files (.finished (.ok us))
  | failed (cause : Cause) (hf : ∃ file ∈ files,
        (SourceKind.ofPath file.1).needsTranspile = true ∧
          Task.Fails t limit since seen file cause) :
      Stands t limit since seen files (.finished (.error (BuildError.of cause)))

theorem unfinished_waits {tasks : List Task} {task : Task}
    (h : List.Forall₂ (Task.Reached t limit since seen) files tasks) (hmem : task ∈ tasks)
    (hw : ∀ r, task ≠ .finished r) : ∃ file ∈ files,
      (SourceKind.ofPath file.1).needsTranspile = true ∧ Task.Waits t limit since seen file := by
  induction h with
  | nil => cases hmem
  | @cons file task' files tasks hf _ ih =>
    rcases List.mem_cons.mp hmem with rfl | hmem
    · cases hf with
      | running call hk hc hv => exact ⟨file, List.mem_cons_self, hk, Task.waits_of_verdict hv⟩
      | settled r hv => exact absurd rfl (hw r)
    · obtain ⟨file', hmem', hwaits⟩ := ih hmem
      exact ⟨file', List.mem_cons_of_mem file hmem', hwaits⟩

theorem poll_stands {P : String × String → Task → Prop} {c : Compilation}
    (h : List.Forall₂ P files c.tasks)
    (hpoll : ∀ file task, P file task →
      Task.Reached t c.limit since seen file (task.poll t c.limit m).1) :
    Stands t c.limit since seen files (c.poll t m).1 := by
  obtain ⟨htasks, hfailed⟩ := sweep_relates hpoll c.eager true h
  have hunfinished := @sweep_unfinished t c.limit m c.eager true c.tasks (.inr rfl)
  rw [poll]
  generalize sweep t c.limit m c.eager true c.tasks = swept at htasks hfailed hunfinished
  obtain ⟨tasks, trace, failure⟩ := swept
  dsimp only at htasks hfailed hunfinished ⊢
  cases failure with
  | some cause =>
    obtain ⟨file, hmem, hf⟩ := hfailed cause rfl
    cases hf with
    | settled _ hv => exact .failed cause ⟨file, hmem, Task.fails_of_verdict hv⟩
  | none =>
    have hstands := htasks rfl
    cases hu : units tasks with
    | some us => exact .compiled us (units_stands hstands hu)
    | none =>
      obtain ⟨task, hmem, hw⟩ := hunfinished rfl hu
      exact .pending { c with tasks := tasks } rfl hstands (unfinished_waits hstands hmem hw)

theorem poll_calls (t : Transpiler) (m : Moment) (c : Compilation) :
    (c.poll t m).2.calls <+: c.tasks.flatMap Task.due ∧
      ((∀ err, (c.poll t m).1 ≠ .finished (.error err)) →
        (c.poll t m).2.calls = c.tasks.flatMap Task.due) := by
  have hcalls := @sweep_calls t c.limit m c.eager true c.tasks
  rw [poll]
  generalize sweep t c.limit m c.eager true c.tasks = swept at hcalls
  obtain ⟨tasks, trace, failure⟩ := swept
  dsimp only at hcalls ⊢
  cases failure with
  | some cause => exact ⟨hcalls.1, fun h => absurd rfl (h _)⟩
  | none =>
    cases units tasks with
    | some us =>
      show trace.calls ++ [] <+: _ ∧ (_ → trace.calls ++ [] = _)
      rw [List.append_nil]
      exact ⟨hcalls.1, fun _ => hcalls.2 rfl⟩
    | none => exact ⟨hcalls.1, fun _ => hcalls.2 rfl⟩

def Progress.isPending : Progress → Bool
  | .pending _ => true
  | .finished _ => false

theorem Progress.exists_pending {p : Progress} (h : p.isPending = true) : ∃ c, p = .pending c := by
  cases p with
  | pending c => exact ⟨c, rfl⟩
  | finished r => cases h

def drive (t : Transpiler) (c : Compilation) : List Moment → Progress × Trace
  | [] => (.pending c, {})
  | m :: ms => match c.poll t m with
      | (.finished r, trace) => (.finished r, trace)
      | (.pending c, trace) =>
          let (p, more) := drive t c ms
          (p, trace ++ more)

theorem poll_mapSize {c c' : Compilation} (h : (c.poll t m).1 = .pending c') :
    c'.mapSize = c.mapSize := by
  rw [poll] at h
  generalize sweep t c.limit m c.eager true c.tasks = swept at h
  obtain ⟨tasks, trace, failure⟩ := swept
  cases failure with
  | some cause => cases h
  | none =>
    dsimp only at h
    cases hu : units tasks with
    | some us =>
      rw [hu] at h
      cases h
    | none =>
      rw [hu] at h
      cases h
      rfl

theorem drive_mapSize (ms : List Moment) {c c' : Compilation}
    (h : (c.drive t ms).1 = .pending c') : c'.mapSize = c.mapSize := by
  induction ms generalizing c with
  | nil =>
    cases h
    rfl
  | cons m ms ih =>
    rw [drive] at h
    cases hp : c.poll t m with
    | mk p trace =>
      rw [hp] at h
      cases p with
      | finished r => cases h
      | pending next =>
        have hnext : (c.poll t m).1 = .pending next := by rw [hp]
        exact (ih h).trans (poll_mapSize hnext)

theorem Stands.mono {p : Progress} (h : Stands t limit since seen files p) {seen' : List Moment}
    (hs : seen ⊆ seen') (hp : ∀ c, p ≠ .pending c) : Stands t limit since seen' files p := by
  cases h with
  | pending c hl htasks hw => exact absurd rfl (hp c)
  | compiled us hus => exact .compiled us (hus.imp (fun _ _ hu => hu.mono hs))
  | failed cause hf =>
    obtain ⟨file, hmem, hk, hf⟩ := hf
    exact .failed cause ⟨file, hmem, hk, hf.mono hs⟩

theorem due_nil {tasks : List Task}
    (h : List.Forall₂ (Task.Reached t limit since seen) files tasks) :
    tasks.flatMap Task.due = [] := by
  induction h with
  | nil => rfl
  | cons hf _ ih => rw [List.flatMap_cons, hf.due, ih, List.append_nil]

theorem drive_stands {c : Compilation} (h : Stands t limit since seen files (.pending c))
    (ms : List Moment) (hms : (seen ++ ms).Pairwise Moment.Before) :
    Stands t limit since (seen ++ ms) files (c.drive t ms).1 ∧ (c.drive t ms).2.calls = [] := by
  induction ms generalizing c seen with
  | nil =>
    rw [List.append_nil]
    exact ⟨h, rfl⟩
  | cons m ms ih =>
    have happ : seen ++ m :: ms = seen ++ [m] ++ ms := by
      rw [List.append_assoc, List.singleton_append]
    cases h with
    | pending _ hl htasks hw =>
      subst hl
      have hbefore : ∀ m' ∈ seen, m'.Before m :=
        fun m' hm' => (List.pairwise_append.mp hms).2.2 m' hm' m List.mem_cons_self
      have hpolled : Stands t c.limit since (seen ++ [m]) files (c.poll t m).1 :=
        poll_stands htasks (fun file task hf => Task.poll_reached hf hbefore)
      have hquiet : (c.poll t m).2.calls = [] := by
        have hfront := (poll_calls t m c).1
        rw [due_nil htasks] at hfront
        exact List.prefix_nil.mp hfront
      rw [happ] at hms ⊢
      rw [drive]
      generalize c.poll t m = polled at hpolled hquiet
      obtain ⟨p, trace⟩ := polled
      cases p with
      | finished r => exact ⟨hpolled.mono (List.subset_append_left _ ms) nofun, hquiet⟩
      | pending c' =>
        obtain ⟨hrest, hnone⟩ := ih hpolled hms
        exact ⟨hrest, by
          show trace.calls ++ (c'.drive t ms).2.calls = []
          rw [hnone, show trace.calls = [] from hquiet, List.append_nil]⟩

def sources (files : Table String) (entryPath : String) : List (String × String) :=
  files.entries.filter (fun p => p.1 ≠ entryPath)

def needing (files : List (String × String)) : List String :=
  (files.filter (fun p => (SourceKind.ofPath p.1).needsTranspile)).map Prod.fst

theorem start_tasks (files : Table String) (entryPath : String) (limit : Option Nat) :
    List.Forall₂ (fun file task => task = .queued file.1 file.2)
      (sources files entryPath) (start files entryPath limit).tasks :=
  List.forall₂_map_right_iff.mpr (List.forall₂_same.mpr (fun _ _ => rfl))

theorem start_due (files : Table String) (entryPath : String) (limit : Option Nat) :
    (start files entryPath limit).tasks.flatMap Task.due = needing (sources files entryPath) := by
  rw [start, needing, ← sources]
  induction sources files entryPath with
  | nil => rfl
  | cons file files ih =>
    rw [List.map_cons, List.flatMap_cons, ih, Task.due, List.filter_cons]
    split <;> rfl

theorem needing_nodup {files : Table String} (hn : files.keys.Nodup) (entryPath : String) :
    (needing (sources files entryPath)).Nodup :=
  hn.sublist ((List.filter_sublist.trans List.filter_sublist).map Prod.fst)

theorem mem_needing {file : String × String} (hf : file ∈ files)
    (hk : (SourceKind.ofPath file.1).needsTranspile = true) : file.1 ∈ needing files :=
  List.mem_map_of_mem (List.mem_filter.mpr ⟨hf, hk⟩)

section Started

variable (t : Transpiler) (files : Table String) (entryPath : String) (limit : Option Nat)
  (first : Moment)

theorem first_poll : Stands t limit first.now [first] (sources files entryPath)
    ((start files entryPath limit).poll t first).1 :=
  poll_stands (start_tasks files entryPath limit)
    (fun file _ htask => htask ▸ Task.poll_queued_reached t limit first file)

theorem drive_started (ms : List Moment) (hms : (first :: ms).Pairwise Moment.Before) :
    Stands t limit first.now (first :: ms) (sources files entryPath)
        ((start files entryPath limit).drive t (first :: ms)).1 ∧
      ((start files entryPath limit).drive t (first :: ms)).2.calls =
        ((start files entryPath limit).poll t first).2.calls ∧
      ∀ err, ((start files entryPath limit).poll t first).1 = .finished (.error err) →
        ((start files entryPath limit).drive t (first :: ms)).1 = .finished (.error err) := by
  have hfirst := first_poll t files entryPath limit first
  rw [drive]
  generalize (start files entryPath limit).poll t first = polled at hfirst
  obtain ⟨p, trace⟩ := polled
  cases p with
  | finished r =>
    exact ⟨hfirst.mono (List.subset_append_left [first] ms) nofun, rfl, fun err herr => herr⟩
  | pending c =>
    obtain ⟨hstands, hquiet⟩ := drive_stands hfirst ms hms
    refine ⟨hstands, ?_, nofun⟩
    show trace.calls ++ (c.drive t ms).2.calls = trace.calls
    rw [hquiet, List.append_nil]

/-- What a compilation has come to after polls at any moments, and which calls it has started: all
of them at the first poll, each file that needs one once, in the order of the files. -/
theorem drive_accounts (hn : files.keys.Nodup) (ms : List Moment)
    (hms : (first :: ms).Pairwise Moment.Before) :
    let asked := needing (sources files entryPath)
    let r := (start files entryPath limit).drive t (first :: ms)
    (match r.1 with
      | .pending _ => r.2.calls = asked ∧ ∃ file ∈ sources files entryPath,
          file.1 ∈ asked ∧ Task.Waits t limit first.now (first :: ms) file
      | .finished (.ok us) => r.2.calls = asked ∧
          List.Forall₂ (Task.Yields t (first :: ms)) (sources files entryPath) us
      | .finished (.error err) => ∃ cause, err = BuildError.of cause ∧
          ∃ file ∈ sources files entryPath,
            file.1 ∈ asked ∧ Task.Fails t limit first.now (first :: ms) file cause) ∧
    asked.Nodup ∧ r.2.calls <+: asked ∧
    r.2.calls = ((start files entryPath limit).drive t [first]).2.calls := by
  intro asked r
  obtain ⟨hstands, hcalls, herror⟩ := drive_started t files entryPath limit first ms hms
  obtain ⟨-, honce, -⟩ :=
    drive_started t files entryPath limit first [] (List.pairwise_singleton _ first)
  obtain ⟨hfront, hall⟩ := poll_calls t first (start files entryPath limit)
  rw [start_due] at hfront hall
  refine ⟨?_, needing_nodup hn entryPath, hcalls ▸ hfront, hcalls.trans honce.symm⟩
  have hasked : (∀ err, r.1 ≠ .finished (.error err)) → r.2.calls = asked :=
    fun hr => hcalls.trans (hall (fun err herr => hr err (herror err herr)))
  change Stands t limit first.now (first :: ms) (sources files entryPath) r.1 at hstands
  generalize r.1 = p at hstands hasked
  cases hstands with
  | pending c hl htasks hw =>
    obtain ⟨file, hmem, hk, hwaits⟩ := hw
    exact ⟨hasked nofun, file, hmem, mem_needing hmem hk, hwaits⟩
  | compiled us hus => exact ⟨hasked nofun, hus⟩
  | failed cause hf =>
    obtain ⟨file, hmem, hk, hfails⟩ := hf
    exact ⟨cause, rfl, file, hmem, mem_needing hmem hk, hfails⟩

end Started

theorem drive_accounts_stalled :
    let files : Table String := Table.ofList
      [("index.html", "<p></p>"), ("a.ts", "!wait:g\n1"), ("b.css", "p \x7b\x7d"),
        ("c.tsx", "!stall")]
    let first : Moment := { now := 3 }
    let ms : List Moment := [{ now := 8, opened := ["g"] }, { now := 13, opened := ["g"] }]
    files.keys.Nodup ∧ (first :: ms).Pairwise Moment.Before ∧
      ((start files "index.html" (some 10)).drive .scripted (first :: ms)).2.calls <+:
        ["a.ts", "c.tsx"] ∧
      ∃ cause, ((start files "index.html" (some 10)).drive .scripted (first :: ms)).1 =
          .finished (.error (BuildError.of cause)) ∧
        ∃ file ∈ sources files "index.html",
          Task.Fails .scripted (some 10) 3 (first :: ms) file cause := by
  intro files first ms
  have hn : files.keys.Nodup := by decide
  have hms : (first :: ms).Pairwise Moment.Before :=
    .cons (by simp [first, ms]; exact ⟨⟨by decide, by decide⟩, ⟨by decide, by decide⟩⟩)
      (.cons (by simp; exact ⟨by decide, by decide⟩) (.cons nofun .nil))
  obtain ⟨hresult, -, hcalls, -⟩ :=
    drive_accounts .scripted files "index.html" (some 10) first hn ms hms
  have hfailed : (match ((start files "index.html" (some 10)).drive .scripted (first :: ms)).1 with
      | .finished (.error _) => true
      | _ => false) = true := by decide +kernel
  generalize ((start files "index.html" (some 10)).drive .scripted (first :: ms)).1 = p
    at hresult hfailed ⊢
  match p, hfailed with
  | .finished (.error err), _ =>
    obtain ⟨cause, rfl, file, hmem, -, hfails⟩ := hresult
    exact ⟨hn, hms, hcalls, cause, rfl, file, hmem, hfails⟩

def moments (m : Moment) : List Tick → List Moment
  | [] => [m]
  | k :: ks => m :: moments (k.apply m) ks

theorem moments_before {m m' : Moment} (hm : m.Before m') (ks : List Tick) :
    ∀ m'' ∈ moments m' ks, m.Before m'' := by
  induction ks generalizing m' with
  | nil =>
    intro m'' h
    rw [List.mem_singleton.mp h]
    exact hm
  | cons k ks ih =>
    intro m'' h
    rcases List.mem_cons.mp h with rfl | h
    · exact hm
    · refine ih ⟨?_, ?_⟩ m'' h
      · exact Nat.le_trans hm.now (Nat.le_add_right _ _)
      · exact List.Subset.trans hm.opened (List.subset_append_right _ _)

theorem moments_pairwise (m : Moment) (ks : List Tick) :
    (moments m ks).Pairwise Moment.Before := by
  induction ks generalizing m with
  | nil => exact List.pairwise_singleton _ m
  | cons k ks ih =>
    have htick : m.Before (k.apply m) :=
      ⟨Nat.le_add_right _ _, List.subset_append_right _ _⟩
    exact .cons (moments_before htick ks) (ih (k.apply m))

theorem run_eq_drive (t : Transpiler) (m : Moment) (c : Compilation) (ks : List Tick) :
    (c.run t m ks).1 = (c.drive t (moments m ks)).1 ∧
      (c.run t m ks).2.2.calls = (c.drive t (moments m ks)).2.calls := by
  induction ks generalizing m c with
  | nil =>
    rw [run, moments, drive]
    rcases c.poll t m with ⟨c' | r, trace⟩
    · exact ⟨rfl, (List.append_nil trace.calls).symm⟩
    · exact ⟨rfl, rfl⟩
  | cons k ks ih =>
    rw [run, moments, drive]
    rcases c.poll t m with ⟨c' | r, trace⟩
    · obtain ⟨hp, hcalls⟩ := ih (k.apply m) c'
      exact ⟨hp, congrArg (trace.calls ++ ·) hcalls⟩
    · exact ⟨rfl, rfl⟩

end Compilation

end LivePreview
