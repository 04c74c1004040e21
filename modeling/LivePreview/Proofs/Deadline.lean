import LivePreview.Proofs.Failing

namespace LivePreview

namespace Transpiler

variable {t : Transpiler} {m m' : Moment} {file : String × String}

theorem Answered.later {answer : Except String String} (h : t.Answered m file answer)
    (hm : m.Before m') : t.Answered m' file answer := by
  rw [Answered] at h ⊢
  rw [← Call.advance_advance hm.opened, h]
  rfl

def stuck (t : Transpiler) (m : Moment) (file : String × String) : Bool :=
  (SourceKind.ofPath file.1).needsTranspile &&
    match (t.callFor file).advance m.opened with
    | .done _ => false
    | _ => true

def refused (t : Transpiler) (m : Moment) (file : String × String) : Bool :=
  (SourceKind.ofPath file.1).needsTranspile &&
    match (t.callFor file).advance m.opened with
    | .done (.error _) => true
    | _ => false

theorem stuck_iff : t.stuck m file = true ↔
    (SourceKind.ofPath file.1).needsTranspile = true ∧ ∀ answer, ¬t.Answered m file answer := by
  simp only [stuck, Answered, Bool.and_eq_true]
  cases (t.callFor file).advance m.opened <;> simp

theorem refused_of_answered {message : String}
    (hk : (SourceKind.ofPath file.1).needsTranspile = true)
    (h : t.Answered m file (.error message)) : t.refused m file = true := by
  rw [Answered] at h
  simp [refused, hk, h]

end Transpiler

namespace Task

variable {t : Transpiler} {l since : Nat} {seen : List Moment} {file : String × String} {m : Moment}

theorem verdict_of_late (t : Transpiler) (file : String × String) (hm : m ∈ seen)
    (hlate : since + l ≤ m.now) : ∃ r, verdict? t (some l) since seen file = some r := by
  cases hv : verdict? t (some l) since seen file with
  | some r => exact ⟨r, rfl⟩
  | none =>
    have hearly := (waits_of_verdict hv m hm).2 l rfl
    omega

variable (hseen : ∀ m' ∈ seen, m'.Before m) (hm : m ∈ seen) (hlate : since + l ≤ m.now)

include hseen hm hlate

theorem verdict_of_stuck (hstuck : t.stuck m file = true) :
    verdict? t (some l) since seen file = some (.error (.timedOut file.1)) := by
  obtain ⟨hk, hnone⟩ := Transpiler.stuck_iff.mp hstuck
  obtain ⟨r, hr⟩ := verdict_of_late t file hm hlate
  cases r with
  | ok u =>
    have htext := (yields_of_verdict hr).text
    rw [if_pos hk] at htext
    obtain ⟨m', hm', ha⟩ := htext
    exact absurd (ha.later (hseen m' hm')) (hnone _)
  | error cause =>
    cases (fails_of_verdict hr).2 with
    | refused m' message hm' ha => exact absurd (ha.later (hseen m' hm')) (hnone _)
    | late => exact hr

theorem verdict_of_answered (hearly : ∀ m' ∈ seen, m' ≠ m → m'.now < since + l)
    (hstuck : ¬t.stuck m file = true) (hfine : t.refused m file = false) :
    ∃ u, verdict? t (some l) since seen file = some (.ok u) := by
  obtain ⟨r, hr⟩ := verdict_of_late t file hm hlate
  cases r with
  | ok u => exact ⟨u, hr⟩
  | error cause =>
    obtain ⟨hk, hfails⟩ := fails_of_verdict hr
    cases hfails with
    | refused m' message hm' ha =>
      have href := Transpiler.refused_of_answered hk (ha.later (hseen m' hm'))
      simp [hfine] at href
    | late m' l' hm' hl hlate' ha =>
      by_cases hsame : m' = m
      · subst hsame
        exact absurd (Transpiler.stuck_iff.mpr ⟨hk, ha⟩) hstuck
      · have hnow := hearly m' hm' hsame
        cases hl
        omega

end Task

theorem Moment.before_last {ms : List Moment} {m : Moment}
    (h : (ms ++ [m]).Pairwise Moment.Before) : ∀ m' ∈ ms ++ [m], m'.Before m := by
  obtain ⟨-, -, hlast⟩ := List.pairwise_append.mp h
  simp only [List.mem_append, List.mem_singleton]
  rintro m' (hm' | rfl)
  · exact hlast m' hm' m (by simp)
  · exact ⟨Nat.le_refl _, List.Subset.refl _⟩

namespace Compilation

section Started

variable (t : Transpiler) (files : Table String) (entryPath : String) (l : Nat) {ms : List Moment}
  {m : Moment} {c : Compilation}

theorem pending_early (hms : ms.Pairwise Moment.Before)
    (hp : ((start files entryPath (some l)).drive t ms).1 = .pending c) :
    ∀ m' ∈ ms, m'.now < (ms.head?.getD m).now + l := by
  cases ms with
  | nil => exact List.forall_mem_nil _
  | cons first ms =>
    have hstands := (drive_started t files entryPath (some l) first ms hms).1
    rw [hp] at hstands
    cases hstands with
    | pending _ hlimit htasks hw =>
      obtain ⟨file, -, -, hwaits⟩ := hw
      exact fun m' hm' => (hwaits m' hm').2 l rfl

variable (hms : (ms ++ [m]).Pairwise Moment.Before) (hlate : (ms.head?.getD m).now + l ≤ m.now)
  (hp : ((start files entryPath (some l)).drive t ms).1 = .pending c)

include hms hlate hp

theorem late_finishes : ∃ r, (c.poll t m).1 = .finished r := by
  obtain ⟨hlimit, hreached⟩ := next_reached t files entryPath (some l) ms m hms hp
  have hstands : Stands t (some l) (ms.head?.getD m).now (ms ++ [m]) (sources files entryPath)
      (c.poll t m).1 := by
    rw [← hlimit] at hreached ⊢
    exact poll_stands hreached (fun _ _ hr => hr)
  cases hc : (c.poll t m).1 with
  | finished r => exact ⟨r, rfl⟩
  | pending c' =>
    rw [hc] at hstands
    cases hstands with
    | pending _ _ _ hw =>
      obtain ⟨file, -, -, hwaits⟩ := hw
      have hnow := (hwaits m (by simp)).2 l rfl
      omega

theorem late_blames (hfine : ∀ file ∈ sources files entryPath, t.refused m file = false)
    {file : String × String} (hfirst : (sources files entryPath).find? (t.stuck m) = some file) :
    (c.poll t m).1 = .finished (.error (BuildError.of (.timedOut file.1))) := by
  obtain ⟨hlimit, hreached⟩ := next_reached t files entryPath (some l) ms m hms hp
  obtain ⟨hstuck, before, after, hsplit, hpass⟩ := List.find?_eq_some_iff_append.mp hfirst
  have hseen := Moment.before_last hms
  have hm : m ∈ ms ++ [m] := by simp
  have hearly : ∀ m' ∈ ms ++ [m], m' ≠ m → m'.now < (ms.head?.getD m).now + l := by
    intro m' hm' hne
    have hm' : m' ∈ ms := by simpa [hne] using hm'
    exact pending_early t files entryPath l (List.pairwise_append.mp hms).1 hp m' hm'
  have hsaid := hreached.imp (fun file task hr => hr.finished_iff)
  rw [← hlimit] at hsaid
  refine (poll_error_iff hsaid).mpr ⟨.timedOut file.1, failure?_eq_some_iff.mpr ?_, rfl⟩
  rw [hlimit]
  refine ⟨before, file, after, hsplit, Task.verdict_of_stuck hseen hm hlate hstuck, ?_⟩
  intro g hg
  have hgmem : g ∈ sources files entryPath := by simp [hsplit, hg]
  obtain ⟨u, hu⟩ := Task.verdict_of_answered hseen hm hlate hearly (by simpa using hpass g hg)
    (hfine g hgmem)
  -- few files let pass what has not failed, many only what is compiled: these are compiled
  rw [LetPass, hu]
  split
  · intro cause hc
    cases hc
  · exact ⟨u, rfl⟩

omit hms hlate hp

/-- A poll at or after the deadline ends the compilation; where no call has failed by then, it ends
with the first file whose call is still not answered. -/
theorem poll_at_deadline (hms : (ms ++ [m]).Pairwise Moment.Before)
    (hlate : (ms.head?.getD m).now + l ≤ m.now)
    (hp : ((start files entryPath (some l)).drive t ms).1 = .pending c) :
    (∃ r, (c.poll t m).1 = .finished r) ∧
    ((∀ file ∈ sources files entryPath, t.refused m file = false) →
      ∀ file, (sources files entryPath).find? (t.stuck m) = some file →
        (c.poll t m).1 = .finished (.error (BuildError.of (.timedOut file.1)))) :=
  ⟨late_finishes t files entryPath l hms hlate hp,
    fun hfine _ hfirst => late_blames t files entryPath l hms hlate hp hfine hfirst⟩

end Started

def overdue : Table String :=
  Table.ofList (("a.ts", "!wait:g\n1") :: ("b.ts", "!wait:h\n1") :: ("c.ts", "!stall") ::
    (List.range 29).map (fun n => (toString n ++ ".css", "")))

theorem poll_at_deadline_overdue :
    let ms : List Moment := [{ now := 3 }, { now := 12 }]
    let m : Moment := { now := 13, opened := ["g"] }
    (ms ++ [m]).Pairwise Moment.Before ∧ ∃ c,
      ((start overdue "index.html" (some 10)).drive .scripted ms).1 = .pending c ∧
        (c.poll .scripted m).1 = .finished (.error (BuildError.of (.timedOut "b.ts"))) := by
  intro ms m
  have hms : (ms ++ [m]).Pairwise Moment.Before := by decide
  obtain ⟨c, hp⟩ := Progress.exists_pending (by decide +kernel :
    ((start overdue "index.html" (some 10)).drive .scripted ms).1.isPending = true)
  refine ⟨hms, c, hp, ?_⟩
  exact (poll_at_deadline .scripted overdue "index.html" 10 hms (by decide) hp).2
    (by decide +kernel) ("b.ts", "!wait:h\n1") (by decide +kernel)

end Compilation

end LivePreview
