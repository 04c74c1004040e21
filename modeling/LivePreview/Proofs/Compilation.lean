import Mathlib.Data.List.Forall2
import LivePreview.Build.Compilation

namespace LivePreview

def Call.settled : Call → Call
  | .waiting _ rest => rest.settled
  | c => c

theorem Call.settled_advance (opened : List String) (c : Call) :
    (c.advance opened).settled = c.settled := by
  induction c with
  | done answer => rfl
  | stalled => rfl
  | waiting gate rest ih =>
    rw [advance]
    split
    · exact ih
    · rfl

theorem Call.settled_of_done {opened : List String} {c : Call} {a : Except String String}
    (h : c.advance opened = .done a) : c.settled = .done a := by
  rw [← settled_advance opened c, h]
  rfl

def Transpiler.prompt (t : Transpiler) : Transpiler where
  call source path := (t.call source path).settled
  traced := t.traced

def Transpiler.unit? (t : Transpiler) (file : String × String) : Option CompiledUnit :=
  let kind := SourceKind.ofPath file.1
  if kind.needsTranspile then
    match (t.call file.2 file.1).settled with
    | .done (.ok code) => some ⟨file.1, kind.media, code⟩
    | _ => none
  else some ⟨file.1, kind.media, file.2⟩

def Transpiler.Answers (t : Transpiler) (m : Moment) (files : List (String × String)) : Prop :=
  ∀ file ∈ files, (SourceKind.ofPath file.1).needsTranspile = true →
    ∃ code, (t.call file.2 file.1).advance m.opened = .done (.ok code)

namespace Task

inductive For (t : Transpiler) (file : String × String) : Task → Prop where
  | queued : For t file (.queued file.1 file.2)
  | running (call : Call) (since : Nat) (hk : (SourceKind.ofPath file.1).needsTranspile = true)
      (hc : call.settled = (t.call file.2 file.1).settled) :
      For t file (.running file.1 call since)
  | compiled (u : CompiledUnit) (hu : t.unit? file = some u) : For t file (.finished (.ok u))
  | late : For t file (.finished (.error (.timedOut file.1)))
  | refused (message : String) (hc : (t.call file.2 file.1).settled = .done (.error message)) :
      For t file (.finished (.error (.compile file.1 message)))

variable {t : Transpiler} {file : String × String} {limit : Option Nat} {m : Moment}

theorem settle_for {call : Call} (since : Nat)
    (hk : (SourceKind.ofPath file.1).needsTranspile = true)
    (hc : call.settled = (t.call file.2 file.1).settled) :
    For t file (settle limit m file.1 call since).1 := by
  rw [settle]
  split
  · rename_i code hdone
    refine .compiled _ ?_
    rw [Transpiler.unit?, if_pos hk, ← hc, Call.settled_of_done hdone]
  · rename_i message hdone
    exact .refused message (by rw [← hc, Call.settled_of_done hdone])
  · split
    · exact .late
    · exact .running _ since hk ((Call.settled_advance m.opened call).trans hc)

theorem poll_for (limit : Option Nat) (m : Moment) {task : Task} (h : For t file task) :
    For t file (task.poll t limit m).1 := by
  cases h with
  | queued =>
    rw [poll]
    dsimp only
    split
    · rename_i hk
      exact settle_for m.now hk rfl
    · rename_i hk
      exact .compiled _ (by rw [Transpiler.unit?, if_neg hk])
  | running call since hk hc => exact settle_for since hk hc
  | compiled u hu => exact .compiled u hu
  | late => exact .late
  | refused message hc => exact .refused message hc

def Done (t : Transpiler) (limit : Option Nat) (m : Moment) (file : String × String)
    (u : CompiledUnit) : Prop :=
  ((queued file.1 file.2).poll t limit m).1 = .finished (.ok u)

theorem done_of_answer {code : String} (hk : (SourceKind.ofPath file.1).needsTranspile = true)
    (hc : (t.call file.2 file.1).advance m.opened = .done (.ok code)) :
    Done t limit m file ⟨file.1, (SourceKind.ofPath file.1).media, code⟩ := by
  rw [Done, poll]
  dsimp only
  rw [if_pos hk, settle, hc]

theorem done_as_is (hk : (SourceKind.ofPath file.1).needsTranspile = false) :
    Done t limit m file ⟨file.1, (SourceKind.ofPath file.1).media, file.2⟩ := by
  rw [Done, poll]
  dsimp only
  rw [if_neg (by rw [hk]; decide)]

theorem done_prompt {u : CompiledUnit} (hu : t.unit? file = some u) :
    Done t.prompt limit m file u := by
  rw [Transpiler.unit?] at hu
  split at hu
  · rename_i hk
    split at hu
    · rename_i code hdone
      cases hu
      refine done_of_answer hk ?_
      rw [show t.prompt.call file.2 file.1 = .done (.ok code) from hdone]
      rfl
    · cases hu
  · rename_i hk
    cases hu
    exact done_as_is (Bool.eq_false_iff.mpr hk)

end Task

namespace Compilation

variable {t : Transpiler} {limit : Option Nat} {m : Moment}

def Blamed (t : Transpiler) (file : String × String) (c : Cause) : Prop :=
  c = .timedOut file.1 ∨
    ∃ message, c = .compile file.1 message ∧
      (t.call file.2 file.1).settled = .done (.error message)

theorem blamed_of_for {file : String × String} {c : Cause}
    (h : Task.For t file (.finished (.error c))) : Blamed t file c := by
  cases h with
  | late => exact .inl rfl
  | refused message hc => exact .inr ⟨message, rfl, hc⟩

theorem Blamed.kind_ne {file : String × String} {c : Cause} (h : Blamed t file c) :
    c.kind ≠ .runtime := by
  rcases h with rfl | ⟨message, rfl, -⟩ <;> exact fun hk => by cases hk

theorem sweep_for (limit : Option Nat) (m : Moment) (eager ready : Bool)
    {files : List (String × String)} {tasks : List Task}
    (h : List.Forall₂ (Task.For t) files tasks) :
    List.Forall₂ (Task.For t) files (sweep t limit m eager ready tasks).1 ∧
      ∀ c ∈ (sweep t limit m eager ready tasks).2.2, ∃ file ∈ files, Blamed t file c := by
  induction h generalizing ready with
  | nil => exact ⟨.nil, fun c hc => by cases hc⟩
  | @cons file task files tasks hf hfs ih =>
    have hpoll := Task.poll_for limit m hf
    have hlater : ∀ r, List.Forall₂ (Task.For t) (file :: files)
          ((task.poll t limit m).1 :: (sweep t limit m eager r tasks).1) ∧
        ∀ c ∈ (sweep t limit m eager r tasks).2.2,
          ∃ file' ∈ file :: files, Blamed t file' c := by
      intro r
      obtain ⟨hrest, hblame⟩ := ih r
      refine ⟨.cons hpoll hrest, fun c hc => ?_⟩
      obtain ⟨file', hmem, hb⟩ := hblame c hc
      exact ⟨file', List.mem_cons_of_mem file hmem, hb⟩
    rw [sweep]
    generalize hp : task.poll t limit m = r at hpoll hlater
    obtain ⟨polled, trace⟩ := r
    dsimp only at hpoll hlater ⊢
    split
    · rename_i cause
      split
      · refine ⟨.cons hpoll hfs, fun c hc => ?_⟩
        obtain rfl : cause = c := by simpa using hc
        exact ⟨file, List.mem_cons_self, blamed_of_for hpoll⟩
      · exact hlater false
    · exact hlater ready
    · exact hlater false

theorem units_for {files : List (String × String)} {tasks : List Task} {us : List CompiledUnit}
    (h : List.Forall₂ (Task.For t) files tasks) (hu : units tasks = some us) :
    List.Forall₂ (fun file u => t.unit? file = some u) files us := by
  induction h generalizing us with
  | nil =>
    cases hu
    exact .nil
  | @cons file task files tasks hf _ ih =>
    cases hf with
    | compiled u hu' =>
      rw [units, Option.map_eq_some_iff] at hu
      obtain ⟨us', hus', rfl⟩ := hu
      exact .cons hu' (ih hus')
    | queued => cases hu
    | running call since hk hc => cases hu
    | late => cases hu
    | refused message hc => cases hu

theorem sweep_done (eager ready : Bool) {files : List (String × String)}
    {us : List CompiledUnit} (h : List.Forall₂ (Task.Done t limit m) files us) :
    (sweep t limit m eager ready (files.map (fun p => .queued p.1 p.2))).1 =
        us.map (fun u => .finished (.ok u)) ∧
      (sweep t limit m eager ready (files.map (fun p => .queued p.1 p.2))).2.2 = none := by
  induction h generalizing ready with
  | nil => exact ⟨rfl, rfl⟩
  | @cons file u files us hp _ ih =>
    rw [Task.Done] at hp
    rw [List.map_cons, sweep]
    generalize (Task.queued file.1 file.2).poll t limit m = r at hp
    obtain ⟨polled, trace⟩ := r
    dsimp only at hp ⊢
    subst hp
    obtain ⟨hi, hn⟩ := ih ready
    exact ⟨congrArg _ hi, hn⟩

theorem exists_done {files : List (String × String)} (h : t.Answers m files) :
    ∃ us, List.Forall₂ (Task.Done t limit m) files us := by
  induction files with
  | nil => exact ⟨[], .nil⟩
  | cons file files ih =>
    obtain ⟨us, hus⟩ := ih (fun file' hf' => h file' (List.mem_cons_of_mem file hf'))
    cases hk : (SourceKind.ofPath file.1).needsTranspile with
    | true =>
      obtain ⟨code, hc⟩ := h file List.mem_cons_self hk
      exact ⟨_, .cons (Task.done_of_answer hk hc) hus⟩
    | false => exact ⟨_, .cons (Task.done_as_is hk) hus⟩

theorem units_finished (us : List CompiledUnit) :
    units (us.map (fun u => .finished (.ok u))) = some us := by
  induction us with
  | nil => rfl
  | cons u us ih => rw [List.map_cons, units, ih]; rfl

theorem poll_done {c : Compilation} {files : List (String × String)} {us : List CompiledUnit}
    (hf : c.tasks = files.map (fun p => .queued p.1 p.2))
    (h : List.Forall₂ (Task.Done t c.limit m) files us) :
    ∃ trace, c.poll t m = (.finished (.ok us), trace) := by
  obtain ⟨htasks, hnone⟩ := sweep_done c.eager true h
  rw [← hf] at htasks hnone
  rw [poll]
  generalize sweep t c.limit m c.eager true c.tasks = r at htasks hnone
  obtain ⟨tasks, trace, failure⟩ := r
  dsimp only at htasks hnone
  subst htasks hnone
  simp only [units_finished]
  exact ⟨_, rfl⟩

end Compilation

end LivePreview
