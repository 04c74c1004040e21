import LivePreview.Proofs.Polling

namespace LivePreview

namespace Compilation

variable {t : Transpiler} {limit : Option Nat} {since : Nat} {seen : List Moment}
  {files : List (String × String)} {m : Moment} {said : String × String → Verdict}

def failure? (said : String × String → Verdict) (eager : Bool) :
    List (String × String) → Option Cause
  | [] => none
  | file :: files => match said file with
      | some (.error cause) => some cause
      | some (.ok _) => failure? said eager files
      | none => if eager then failure? said eager files else none

def LetPass (said : String × String → Verdict) (eager : Bool) (file : String × String) : Prop :=
  if eager then ∀ cause, said file ≠ some (.error cause) else ∃ u, said file = some (.ok u)

theorem failure?_eq_some_iff {eager : Bool} {cause : Cause} :
    failure? said eager files = some cause ↔
      ∃ before file after, files = before ++ file :: after ∧ said file = some (.error cause) ∧
        ∀ f ∈ before, LetPass said eager f := by
  induction files with
  | nil => simp [failure?]
  | cons file files ih =>
    have hcons : (∃ before f after, file :: files = before ++ f :: after ∧
          said f = some (.error cause) ∧ ∀ g ∈ before, LetPass said eager g) ↔
        said file = some (.error cause) ∨ (LetPass said eager file ∧
          failure? said eager files = some cause) := by
      rw [ih]
      constructor
      · rintro ⟨before, f, after, hsplit, hf, hpass⟩
        rcases List.append_eq_cons_iff.mp hsplit.symm with ⟨rfl, hc⟩ | ⟨before', rfl, rfl⟩
        · exact .inl ((List.cons.inj hc).1 ▸ hf)
        · exact .inr ⟨hpass file List.mem_cons_self, before', f, after, rfl, hf,
            fun g hg => hpass g (List.mem_cons_of_mem file hg)⟩
      · rintro (hf | ⟨hpass, before, f, after, rfl, hf, hpasses⟩)
        · exact ⟨[], file, files, rfl, hf, List.forall_mem_nil _⟩
        · exact ⟨file :: before, f, after, rfl, hf, List.forall_mem_cons.mpr ⟨hpass, hpasses⟩⟩
    rw [hcons, failure?, LetPass]
    cases hs : said file with
    | none => cases eager <;> simp
    | some r => cases r <;> cases eager <;> simp

theorem exists_failure (h : ∃ file ∈ files, ∃ cause, said file = some (.error cause)) :
    ∃ cause, failure? said true files = some cause := by
  induction files with
  | nil =>
    obtain ⟨file, hmem, -⟩ := h
    cases hmem
  | cons file files ih =>
    rw [failure?]
    cases hs : said file with
    | some r =>
      cases r with
      | error cause => exact ⟨cause, rfl⟩
      | ok u => exact ih (by simpa [hs] using h)
    | none => exact ih (by simpa [hs] using h)

theorem sweep_failure (eager ready : Bool) {tasks : List Task}
    (h : List.Forall₂ (fun file task => ∀ r, (task.poll t limit m).1 = .finished r ↔
      said file = some r) files tasks) :
    (sweep t limit m eager ready tasks).2.2 =
      if eager || ready then failure? said eager files else none := by
  induction h generalizing ready with
  | nil => rw [sweep, failure?, ite_self]
  | @cons file task files tasks hf _ ih =>
    rw [sweep, failure?]
    generalize task.poll t limit m = polled at hf
    obtain ⟨task', trace⟩ := polled
    dsimp only at hf ⊢
    split
    · rename_i cause
      rw [(hf (.error cause)).mp rfl]
      by_cases hcounts : (eager || ready) = true
      · rw [if_pos hcounts, if_pos hcounts]
      · rw [if_neg hcounts, if_neg hcounts]
        -- behind an unsettled file among many no later failure counts either
        have hpassed : ¬(eager || false) = true := fun he => hcounts (by simp_all)
        exact (ih false).trans (if_neg hpassed)
    · rename_i u
      rw [(hf (.ok u)).mp rfl]
      exact ih ready
    · rename_i herror hok
      have hnone : said file = none := by
        cases hs : said file with
        | none => rfl
        | some r =>
          cases r with
          | error cause => exact absurd ((hf _).mpr hs) (herror cause)
          | ok u => exact absurd ((hf _).mpr hs) (hok u)
      rw [hnone]
      refine (ih false).trans ?_
      cases eager <;> simp

theorem poll_error_iff {c : Compilation} {err : BuildError}
    (h : List.Forall₂ (fun file task => ∀ r, (task.poll t c.limit m).1 = .finished r ↔
      said file = some r) files c.tasks) :
    (c.poll t m).1 = .finished (.error err) ↔
      ∃ cause, failure? said c.eager files = some cause ∧ err = BuildError.of cause := by
  have hfailure := sweep_failure c.eager true h
  rw [Bool.or_true, if_pos rfl] at hfailure
  rw [← hfailure, poll]
  generalize sweep t c.limit m c.eager true c.tasks = swept
  obtain ⟨tasks, trace, failure⟩ := swept
  cases failure with
  | some cause =>
    constructor
    · rintro ⟨⟩
      exact ⟨cause, rfl, rfl⟩
    · rintro ⟨_, ⟨⟩, rfl⟩
      rfl
  | none =>
    have hnone : ¬∃ cause, (none : Option Cause) = some cause ∧ err = BuildError.of cause := by
      rintro ⟨cause, hcause, -⟩
      cases hcause
    dsimp only
    cases units tasks with
    | some us => exact iff_of_false (by rintro ⟨⟩) hnone
    | none => exact iff_of_false (by rintro ⟨⟩) hnone

section Started

variable (t : Transpiler) (files : Table String) (entryPath : String) (limit : Option Nat)

theorem next_reached (ms : List Moment) (m : Moment)
    (hms : (ms ++ [m]).Pairwise Moment.Before) {c : Compilation}
    (hp : ((start files entryPath limit).drive t ms).1 = .pending c) :
    c.limit = limit ∧ List.Forall₂ (fun file task =>
      Task.Reached t limit (ms.head?.getD m).now (ms ++ [m]) file (task.poll t limit m).1)
        (sources files entryPath) c.tasks := by
  cases ms with
  | nil =>
    cases hp
    refine ⟨rfl, (start_tasks files entryPath limit).imp (fun file task htask => ?_)⟩
    exact htask ▸ Task.poll_queued_reached t limit m file
  | cons first ms =>
    obtain ⟨hseen, -, hbefore⟩ := List.pairwise_append.mp hms
    have hstands := (drive_started t files entryPath limit first ms hseen).1
    rw [hp] at hstands
    cases hstands with
    | pending _ hlimit htasks hw =>
      refine ⟨hlimit, htasks.imp (fun file task hr => ?_)⟩
      exact Task.poll_reached hr (fun m' hm' => hbefore m' hm' m (List.mem_singleton.mpr rfl))

/-- A poll ends in an error exactly when a file has failed, at this poll or before, and no file in
front of it holds the failure back: in a small map none ever does, in a larger one each that is not
compiled yet. -/
theorem poll_fails_iff (ms : List Moment) (m : Moment)
    (hms : (ms ++ [m]).Pairwise Moment.Before) (c : Compilation)
    (hp : ((start files entryPath limit).drive t ms).1 = .pending c) :
    let said := Task.verdict? t limit (ms.head?.getD m).now (ms ++ [m])
    let few := files.size ≤ smallLimit
    (∀ err, (c.poll t m).1 = .finished (.error err) ↔
      ∃ before file after cause, sources files entryPath = before ++ file :: after ∧
        said file = some (.error cause) ∧ err = BuildError.of cause ∧
        ∀ f ∈ before, if few then ∀ cause', said f ≠ some (.error cause')
          else ∃ u, said f = some (.ok u)) ∧
    (few → (∃ file ∈ sources files entryPath, ∃ cause, said file = some (.error cause)) →
      ∃ err, (c.poll t m).1 = .finished (.error err)) := by
  intro said few
  obtain ⟨hlimit, hreached⟩ := next_reached t files entryPath limit ms m hms hp
  subst hlimit
  have hsaid := hreached.imp (fun file task hr => hr.finished_iff)
  have heager : c.eager = decide few := by
    rw [eager, drive_mapSize ms hp]
    rfl
  have herror : ∀ err, (c.poll t m).1 = .finished (.error err) ↔
      ∃ cause, failure? said (decide few) (sources files entryPath) = some cause ∧
        err = BuildError.of cause := by
    intro err
    rw [← heager]
    exact poll_error_iff hsaid
  refine ⟨fun err => ?_, fun hfew hfails => ?_⟩
  · rw [herror err]
    simp only [failure?_eq_some_iff, LetPass, decide_eq_true_eq]
    constructor
    · rintro ⟨cause, ⟨before, file, after, hsplit, hs, hpass⟩, rfl⟩
      exact ⟨before, file, after, cause, hsplit, hs, rfl, hpass⟩
    · rintro ⟨before, file, after, cause, hsplit, hs, rfl, hpass⟩
      exact ⟨cause, ⟨before, file, after, hsplit, hs, hpass⟩, rfl⟩
  · have hsome : ∃ cause, failure? said (decide few) (sources files entryPath) = some cause := by
      rw [decide_eq_true hfew]
      exact exists_failure hfails
    obtain ⟨cause, hcause⟩ := hsome
    exact ⟨BuildError.of cause, (herror _).mpr ⟨cause, hcause, rfl⟩⟩

end Started

/-- With the entry one file more than a small map has: the first that is compiled waits for a gate
while the second is refused. -/
def heldBack : Table String :=
  Table.ofList (("index.html", "<p></p>") :: ("a.ts", "!wait:gate\n1") ::
    ("b.ts", "!fail:Unexpected token") ::
      (List.range 28).map (fun n => (toString n ++ ".css", "")))

theorem poll_fails_iff_held_back :
    let ms : List Moment := [{}]
    let m : Moment := { now := 5, opened := ["gate"] }
    heldBack.size = 31 ∧ (sources heldBack "index.html").length = 30 ∧
      (ms ++ [m]).Pairwise Moment.Before ∧ ∃ c,
      ((start heldBack "index.html" (some 10)).drive .scripted ms).1 = .pending c ∧
        (c.poll .scripted m).1 =
          .finished (.error (BuildError.of (.compile "b.ts" "Unexpected token"))) := by
  intro ms m
  have hms : (ms ++ [m]).Pairwise Moment.Before :=
    .cons (by simp [m]; exact ⟨by decide, by decide⟩) (.cons nofun .nil)
  obtain ⟨c, hp⟩ := Progress.exists_pending (by decide +kernel :
    ((start heldBack "index.html" (some 10)).drive .scripted ms).1.isPending = true)
  refine ⟨by decide +kernel, by decide +kernel, hms, c, hp, ?_⟩
  refine ((poll_fails_iff .scripted heldBack "index.html" (some 10) ms m hms c hp).1 _).mpr
    ⟨[("a.ts", "!wait:gate\n1")], ("b.ts", "!fail:Unexpected token"),
      (List.range 28).map (fun n => (toString n ++ ".css", "")), _, ?_, ?_, rfl, ?_⟩
  · decide +kernel
  · rfl
  · intro f hf
    rw [List.mem_singleton.mp hf, if_neg (by decide +kernel)]
    exact ⟨⟨"a.ts", .script, "/* a.ts */1"⟩, rfl⟩

/-- Of many files the second has been refused at the first poll, which ends without a result all
the same, as the first file still waits. -/
theorem refused_file_held_back :
    ("b.ts", "!fail:Unexpected token") ∈ sources heldBack "index.html" ∧
      Task.verdict? .scripted none 0 [{}] ("b.ts", "!fail:Unexpected token") =
        some (.error (.compile "b.ts" "Unexpected token")) ∧
      ∃ c, ((start heldBack "index.html" none).poll .scripted {}).1 = .pending c := by
  exact ⟨by decide +kernel, rfl, Progress.exists_pending (by decide +kernel)⟩

end Compilation

end LivePreview
