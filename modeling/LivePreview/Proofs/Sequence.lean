import LivePreview.Proofs.Polling
import LivePreview.Script.Transpile

namespace LivePreview

def Transpiler.immediate (f : String → String → Except String String) (traced : Bool) :
    Transpiler :=
  { Transpiler.ofFunction f with traced := traced }

example : Script.transpiler = .immediate Script.transpile true := rfl

namespace Compilation

variable {f : String → String → Except String String} {limit : Option Nat} {m : Moment}
  {files : List (String × String)}

def compileOne (f : String → String → Except String String) (file : String × String) :
    Except Cause CompiledUnit :=
  let kind := SourceKind.ofPath file.1
  if kind.needsTranspile then
    match f file.2 file.1 with
    | .ok code => .ok ⟨file.1, kind.media, code⟩
    | .error message => .error (.compile file.1 message)
  else .ok ⟨file.1, kind.media, file.2⟩

def compileEach (f : String → String → Except String String) :
    List (String × String) → Except Cause (List CompiledUnit) × List String
  | [] => (.ok [], [])
  | file :: files => match compileOne f file with
      | .error cause => (.error cause, needing [file])
      | .ok u =>
          let (result, calls) := compileEach f files
          (result.map (u :: ·), needing [file] ++ calls)

def waiting (files : List (String × String)) : List Task :=
  files.map (fun file => .queued file.1 file.2)

/-- All files are compiled, or the first that is refused is the last that is tried. -/
inductive InSequence (f : String → String → Except String String) (files : List (String × String)) :
    Except Cause (List CompiledUnit) → List String → Prop
  | compiled (us : List CompiledUnit)
      (hus : List.Forall₂ (fun file u => compileOne f file = .ok u) files us) :
      InSequence f files (.ok us) (needing files)
  | refused (before : List (String × String)) (file : String × String)
      (after : List (String × String)) (message : String) (hsplit : files = before ++ file :: after)
      (hbefore : ∀ g ∈ before, ∃ u, compileOne f g = .ok u)
      (hk : (SourceKind.ofPath file.1).needsTranspile = true)
      (hf : f file.2 file.1 = .error message) :
      InSequence f files (.error (.compile file.1 message)) (needing (before ++ [file]))

theorem compileOne_error {file : String × String} {cause : Cause}
    (h : compileOne f file = .error cause) :
    (SourceKind.ofPath file.1).needsTranspile = true ∧
      ∃ message, f file.2 file.1 = .error message ∧ cause = .compile file.1 message := by
  simp only [compileOne] at h
  split at h
  · rename_i hk
    cases hf : f file.2 file.1 with
    | ok code => simp [hf] at h
    | error message =>
      simp only [hf, Except.error.injEq] at h
      exact ⟨hk, message, rfl, h.symm⟩
  · cases h

theorem compileOne_ok_iff {file : String × String} : (∃ u, compileOne f file = .ok u) ↔
    ((SourceKind.ofPath file.1).needsTranspile = true → ∃ code, f file.2 file.1 = .ok code) := by
  simp only [compileOne]
  split
  · rename_i hk
    cases f file.2 file.1 <;> simp [hk]
  · rename_i hk
    simp [hk]

theorem needing_cons (file : String × String) (files : List (String × String)) :
    needing (file :: files) = needing [file] ++ needing files := by
  simp only [needing, List.filter_cons]
  split <;> rfl

theorem compileEach_sequence (f : String → String → Except String String)
    (files : List (String × String)) :
    InSequence f files (compileEach f files).1 (compileEach f files).2 := by
  induction files with
  | nil => exact .compiled [] .nil
  | cons file files ih =>
    rw [compileEach]
    cases hu : compileOne f file with
    | error cause =>
      obtain ⟨hk, message, hf, rfl⟩ := compileOne_error hu
      exact .refused [] file files message rfl (by simp) hk hf
    | ok u =>
      generalize compileEach f files = tried at ih
      obtain ⟨result, calls⟩ := tried
      dsimp only at ih ⊢
      cases ih with
      | compiled us hus =>
        have h := InSequence.compiled (f := f) (u :: us) (.cons hu hus)
        rw [needing_cons] at h
        exact h
      | refused before g after message hsplit hbefore hk hf =>
        have hall : ∀ g' ∈ file :: before, ∃ u, compileOne f g' = .ok u := by
          intro g' hg'
          rcases List.mem_cons.mp hg' with rfl | hmem
          · exact ⟨u, hu⟩
          · exact hbefore g' hmem
        have h := InSequence.refused (file :: before) g after message
          (congrArg (file :: ·) hsplit) hall hk hf
        rw [List.cons_append, needing_cons] at h
        exact h

theorem InSequence.ok_iff {result : Except Cause (List CompiledUnit)} {calls : List String}
    (h : InSequence f files result calls) :
    (∃ us, result = .ok us) ↔ ∀ file ∈ files, ∃ u, compileOne f file = .ok u := by
  cases h with
  | compiled us hus =>
    have hall : ∀ file ∈ files, ∃ u, compileOne f file = .ok u := by
      induction hus with
      | nil => exact List.forall_mem_nil _
      | cons hu _ ih => exact List.forall_mem_cons.mpr ⟨⟨_, hu⟩, ih⟩
    exact ⟨fun _ => hall, fun _ => ⟨us, rfl⟩⟩
  | refused before file after message hsplit hbefore hk hf =>
    constructor
    · rintro ⟨us, hus⟩
      cases hus
    · intro hall
      obtain ⟨code, hcode⟩ := compileOne_ok_iff.mp (hall file (by simp [hsplit])) hk
      rw [hf] at hcode
      cases hcode

theorem poll_immediate (f : String → String → Except String String) (traced : Bool)
    (limit : Option Nat) (m : Moment) (file : String × String) :
    ((Task.queued file.1 file.2).poll (.immediate f traced) limit m).1 =
      .finished (compileOne f file) := by
  simp only [Task.poll, compileOne]
  split
  · have hcall : (Transpiler.immediate f traced).call file.2 file.1 = .done (f file.2 file.1) := rfl
    rw [hcall, Task.settle]
    cases f file.2 file.1 <;> rfl
  · rfl

theorem due_queued (file : String × String) :
    (Task.queued file.1 file.2).due = needing [file] := by
  cases hk : (SourceKind.ofPath file.1).needsTranspile <;> simp [Task.due, needing, hk]

theorem sweep_settled {t : Transpiler} {tasks : List Task}
    (h : ∀ task ∈ tasks, ∃ result, (task.poll t limit m).1 = .finished result) (eager : Bool) :
    sweep t limit m eager true tasks = sweep t limit m true true tasks := by
  induction tasks with
  | nil => rfl
  | cons task tasks ih =>
    obtain ⟨hfirst, hrest⟩ := List.forall_mem_cons.mp h
    obtain ⟨result, hresult⟩ := hfirst
    rw [sweep, sweep, ih hrest]
    generalize task.poll t limit m = polled at hresult
    obtain ⟨polled, trace⟩ := polled
    dsimp only at hresult ⊢
    subst hresult
    cases result <;> simp

theorem sweep_immediate (f : String → String → Except String String) (traced : Bool)
    (limit : Option Nat) (m : Moment) (eager : Bool) (files : List (String × String)) :
    let s := sweep (.immediate f traced) limit m eager true (waiting files)
    s.2.1.calls = (compileEach f files).2 ∧
      match (compileEach f files).1 with
      | .ok us => s.2.2 = none ∧ units s.1 = some us
      | .error cause => s.2.2 = some cause := by
  induction files with
  | nil => exact ⟨rfl, rfl, rfl⟩
  | cons file files ih =>
    have hpoll := poll_immediate f traced limit m file
    have hcalls := Task.poll_calls (.immediate f traced) limit m (.queued file.1 file.2)
    rw [due_queued] at hcalls
    rw [waiting, List.map_cons, ← waiting, sweep, compileEach]
    generalize (Task.queued file.1 file.2).poll (.immediate f traced) limit m = polled
      at hpoll hcalls
    obtain ⟨task, trace⟩ := polled
    dsimp only at hpoll hcalls ⊢
    subst hpoll
    cases hu : compileOne f file with
    | error cause => simp [hcalls]
    | ok u =>
      obtain ⟨hmore, hresult⟩ := ih
      have happ :
          (trace ++ (sweep (.immediate f traced) limit m eager true (waiting files)).2.1).calls =
            needing [file] ++ (compileEach f files).2 := by
        rw [← hcalls, ← hmore]
        rfl
      refine ⟨happ, ?_⟩
      cases hr : (compileEach f files).1 with
      | error cause =>
        rw [hr] at hresult
        simpa [hr, Except.map] using hresult
      | ok us =>
        rw [hr] at hresult
        simpa [hr, Except.map, units] using hresult

theorem poll_waiting (f : String → String → Except String String) (traced : Bool) (m : Moment)
    {c : Compilation} (h : c.tasks = waiting files) :
    (c.poll (.immediate f traced) m).1 =
        .finished ((compileEach f files).1.mapError BuildError.of) ∧
      (c.poll (.immediate f traced) m).2.calls = (compileEach f files).2 := by
  have hsweep := sweep_immediate f traced c.limit m c.eager files
  rw [poll, h]
  generalize sweep (.immediate f traced) c.limit m c.eager true (waiting files) = swept at hsweep
  obtain ⟨tasks, trace, failure⟩ := swept
  obtain ⟨hcalls, hresult⟩ := hsweep
  cases hr : (compileEach f files).1 with
  | error cause =>
    simp only [hr] at hresult
    subst hresult
    exact ⟨rfl, hcalls⟩
  | ok us =>
    simp only [hr] at hresult
    obtain ⟨rfl, hunits⟩ := hresult
    simp only [hunits]
    exact ⟨rfl, (List.append_nil trace.calls).trans hcalls⟩

/-- With a transpiler that answers at once the first poll ends like the plain traversal of the
files, after the same calls, in whichever way few or many files are joined. -/
theorem poll_in_sequence (f : String → String → Except String String) (traced : Bool)
    (files : Table String) (entryPath : String) (limit : Option Nat) (m : Moment) :
    let t := Transpiler.immediate f traced
    let c := start files entryPath limit
    let todo := sources files entryPath
    let tried := compileEach f todo
    (c.poll t m).1 = .finished (tried.1.mapError BuildError.of) ∧
    (c.poll t m).2.calls = tried.2 ∧
    InSequence f todo tried.1 tried.2 ∧
    ((∃ us, tried.1 = .ok us) ↔ ∀ file ∈ todo, (SourceKind.ofPath file.1).needsTranspile = true →
      ∃ code, f file.2 file.1 = .ok code) ∧
    ∀ eager, sweep t limit m eager true c.tasks = sweep t limit m c.eager true c.tasks := by
  intro t c todo tried
  have hstart : c.tasks = waiting todo := rfl
  obtain ⟨hend, hcalls⟩ := poll_waiting f traced m hstart
  have hsequence : InSequence f todo tried.1 tried.2 := compileEach_sequence f todo
  have hpolled : ∀ task ∈ c.tasks, ∃ result, (task.poll t limit m).1 = .finished result := by
    intro task htask
    obtain ⟨file, -, rfl⟩ := List.mem_map.mp htask
    exact ⟨compileOne f file, poll_immediate f traced limit m file⟩
  refine ⟨hend, hcalls, hsequence, ?_, fun eager => ?_⟩
  · rw [hsequence.ok_iff]
    exact forall₂_congr (fun file _ => compileOne_ok_iff)
  · rw [sweep_settled hpolled eager, sweep_settled hpolled c.eager]

end Compilation

end LivePreview
