import LivePreview.Proofs.Compilation

namespace LivePreview

structure Moment.Before (m m' : Moment) : Prop where
  now : m.now ≤ m'.now
  opened : m.opened ⊆ m'.opened

instance (m m' : Moment) : Decidable (m.Before m') :=
  decidable_of_iff (m.now ≤ m'.now ∧ m.opened ⊆ m'.opened)
    ⟨fun h => ⟨h.1, h.2⟩, fun h => ⟨h.now, h.opened⟩⟩

theorem Call.advance_advance {opened opened' : List String} (h : opened ⊆ opened') (c : Call) :
    (c.advance opened).advance opened' = c.advance opened' := by
  induction c with
  | done answer => rfl
  | stalled => rfl
  | waiting gate rest ih =>
    by_cases hg : gate ∈ opened
    · rw [advance, if_pos hg, ih, advance, if_pos (h hg)]
    · rw [advance, if_neg hg]

namespace Transpiler

def callFor (t : Transpiler) (file : String × String) : Call := t.call file.2 file.1

def Answered (t : Transpiler) (m : Moment) (file : String × String)
    (answer : Except String String) : Prop :=
  (t.callFor file).advance m.opened = .done answer

end Transpiler

abbrev Verdict := Option (Except Cause CompiledUnit)

namespace Task

variable {t : Transpiler} {limit : Option Nat} {since : Nat} {seen : List Moment}
  {file : String × String} {m : Moment}

def outcome? (t : Transpiler) (limit : Option Nat) (since : Nat) (file : String × String)
    (m : Moment) : Verdict :=
  let kind := SourceKind.ofPath file.1
  if kind.needsTranspile then
    match (t.callFor file).advance m.opened with
    | .done (.ok code) => some (.ok ⟨file.1, kind.media, code⟩)
    | .done (.error message) => some (.error (.compile file.1 message))
    | _ => if expired limit since m.now then some (.error (.timedOut file.1)) else none
  else some (.ok ⟨file.1, kind.media, file.2⟩)

/-- What has become of a file: the outcome of the first poll that had one. -/
def verdict? (t : Transpiler) (limit : Option Nat) (since : Nat) (seen : List Moment)
    (file : String × String) : Verdict :=
  seen.findSome? (outcome? t limit since file)

theorem verdict?_concat (t : Transpiler) (limit : Option Nat) (since : Nat) (seen : List Moment)
    (m : Moment) (file : String × String) : verdict? t limit since (seen ++ [m]) file =
      (verdict? t limit since seen file).or (outcome? t limit since file m) := by
  rw [verdict?, List.findSome?_append, List.findSome?_singleton]
  rfl

inductive Reached (t : Transpiler) (limit : Option Nat) (since : Nat) (seen : List Moment)
    (file : String × String) : Task → Prop
  | running (call : Call) (hk : (SourceKind.ofPath file.1).needsTranspile = true)
      (hc : ∀ m, (∀ m' ∈ seen, m'.Before m) →
        call.advance m.opened = (t.callFor file).advance m.opened)
      (hv : verdict? t limit since seen file = none) :
      Reached t limit since seen file (.running file.1 call since)
  | settled (r : Except Cause CompiledUnit) (hv : verdict? t limit since seen file = some r) :
      Reached t limit since seen file (.finished r)

theorem settle_outcome {call : Call} (hk : (SourceKind.ofPath file.1).needsTranspile = true)
    (hc : call.advance m.opened = (t.callFor file).advance m.opened) :
    (settle limit m file.1 call since).1 =
      match outcome? t limit since file m with
      | some r => .finished r
      | none => .running file.1 (call.advance m.opened) since := by
  rw [settle, outcome?, ← hc, if_pos hk]
  cases call.advance m.opened with
  | done answer => cases answer <;> rfl
  | waiting gate rest => dsimp only; split <;> rfl
  | stalled => dsimp only; split <;> rfl

theorem settle_reached {call : Call} (hk : (SourceKind.ofPath file.1).needsTranspile = true)
    (hc : call.advance m.opened = (t.callFor file).advance m.opened)
    (hv : verdict? t limit since seen file = none) :
    Reached t limit since (seen ++ [m]) file (settle limit m file.1 call since).1 := by
  have hnext := verdict?_concat t limit since seen m file
  rw [hv, Option.none_or] at hnext
  rw [settle_outcome hk hc]
  cases ho : outcome? t limit since file m with
  | some r => exact .settled r (hnext.trans ho)
  | none =>
    refine .running _ hk (fun m' hbefore => ?_) (hnext.trans ho)
    have hm : m.Before m' := hbefore m (List.mem_append_right seen (List.mem_singleton.mpr rfl))
    rw [hc, Call.advance_advance hm.opened]

theorem poll_queued_reached (t : Transpiler) (limit : Option Nat) (m : Moment)
    (file : String × String) :
    Reached t limit m.now [m] file ((queued file.1 file.2).poll t limit m).1 := by
  rw [poll]
  dsimp only
  split
  · rename_i hk
    show Reached t limit m.now ([] ++ [m]) file _
    exact settle_reached hk rfl rfl
  · rename_i hk
    refine .settled _ ?_
    rw [verdict?, List.findSome?_singleton, outcome?]
    exact if_neg hk

theorem poll_reached {task : Task} (h : Reached t limit since seen file task)
    (hm : ∀ m' ∈ seen, m'.Before m) :
    Reached t limit since (seen ++ [m]) file (task.poll t limit m).1 := by
  cases h with
  | running call hk hc hv => exact settle_reached hk (hc m hm) hv
  | settled r hv => exact .settled r (by rw [verdict?_concat, hv, Option.some_or])

theorem Reached.finished_iff {task : Task} (h : Reached t limit since seen file task)
    (r : Except Cause CompiledUnit) :
    task = .finished r ↔ verdict? t limit since seen file = some r := by
  cases h with
  | running call hk hc hv =>
    rw [hv]
    exact iff_of_false (by rintro ⟨⟩) (by rintro ⟨⟩)
  | settled r' hv =>
    rw [hv]
    exact ⟨fun he => congrArg some (finished.inj he), fun he => congrArg _ (Option.some.inj he)⟩

def due : Task → List String
  | .queued path _ => if (SourceKind.ofPath path).needsTranspile then [path] else []
  | _ => []

theorem settle_calls (path : String) (call : Call) :
    (settle limit m path call since).2.calls = [] := by
  rw [settle]
  split
  · rfl
  · rfl
  · split <;> rfl

theorem poll_calls (t : Transpiler) (limit : Option Nat) (m : Moment) (task : Task) :
    (task.poll t limit m).2.calls = task.due := by
  cases task with
  | queued path text =>
    rw [poll, due]
    dsimp only
    split
    · show [path] ++ (settle limit m path (t.call text path) m.now).2.calls = [path]
      rw [settle_calls, List.append_nil]
    · rfl
  | running path call since => exact settle_calls path call
  | finished result => rfl

theorem Reached.due {task : Task} (h : Reached t limit since seen file task) : task.due = [] := by
  cases h <;> rfl

end Task

end LivePreview
