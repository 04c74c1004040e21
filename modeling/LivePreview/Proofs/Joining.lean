import LivePreview.Proofs.Flattening

namespace LivePreview

namespace Path

open Text

def up : Segment := ['.', '.']

def IsName (s : Segment) : Prop := s ≠ [] ∧ s ≠ ['.'] ∧ s ≠ up ∧ '/' ∉ s

def IsStep (s : Segment) : Prop := s ≠ [] ∧ s ≠ ['.'] ∧ '/' ∉ s

def enter (place : List Segment) (s : Segment) : Option (List Segment) :=
  if s = [] ∨ s = ['.'] then some place
  else if s = up then if place = [] then none else some place.dropLast
  else some (place ++ [s])

def follow (place : List Segment) (ss : List Segment) : Option (List Segment) :=
  ss.foldlM enter place

def Dotted (ss : List Segment) : Prop := up <+: ss.headD []

instance (ss : List Segment) : Decidable (Dotted ss) :=
  inferInstanceAs (Decidable (up <+: ss.headD []))

def parts (p : List Char) : List Segment := (splitAll '/' p).filter (fun s => !s.isEmpty)

section

variable {place out ss ts : List Segment} {s : Segment}

theorem isName_iff_usable (h : '/' ∉ s) : IsName s ↔ Node.usable s = true := by
  simp [IsName, Node.usable, up, h, and_assoc]

theorem IsName.isStep (h : IsName s) : IsStep s := ⟨h.1, h.2.1, h.2.2.2⟩

theorem enter_name (h : IsName s) : enter place s = some (place ++ [s]) := by
  obtain ⟨hempty, hdot, hup, -⟩ := h
  rw [enter, if_neg (by simp [hempty, hdot]), if_neg hup]

theorem enter_up : enter place up = if place = [] then none else some place.dropLast := rfl

@[simp] theorem follow_nil : follow place [] = some place := rfl

theorem follow_cons : follow place (s :: ss) = (enter place s).bind (follow · ss) := rfl

theorem follow_append : follow place (ss ++ ts) = (follow place ss).bind (follow · ts) :=
  List.foldlM_append ..

theorem follow_names (h : ∀ s ∈ ss, IsName s) :
    follow place ss = some (place ++ ss) := by
  induction ss generalizing place with
  | nil => simp
  | cons s ss ih =>
    obtain ⟨hs, hss⟩ := List.forall_mem_cons.mp h
    rw [follow_cons, enter_name hs, Option.bind_some, ih hss, List.append_assoc]
    rfl

theorem follow_up {n : Nat} (h : n ≤ place.length) :
    follow place (List.replicate n up) = some (place.take (place.length - n)) := by
  induction n generalizing place with
  | zero => simp
  | succ n ih =>
    have hne : place ≠ [] := fun hnil => by simp [hnil] at h
    have hlength : n ≤ place.dropLast.length := by
      rw [List.length_dropLast]
      omega
    rw [List.replicate_succ, follow_cons, enter_up, if_neg hne, Option.bind_some, ih hlength,
      List.dropLast_eq_take, List.take_take, List.length_take]
    congr 2
    omega

theorem enter_isName (hplace : ∀ t ∈ place, IsName t) (hs : '/' ∉ s)
    (h : enter place s = some out) : ∀ t ∈ out, IsName t := by
  rw [enter] at h
  split at h
  · cases h
    exact hplace
  · rename_i hcurrent
    obtain ⟨hempty, hdot⟩ := not_or.mp hcurrent
    split at h
    · split at h
      · cases h
      · cases h
        exact fun t ht => hplace t (List.dropLast_subset place ht)
    · rename_i hup
      cases h
      intro t ht
      rcases List.mem_append.mp ht with ht | ht
      · exact hplace t ht
      · rw [List.mem_singleton.mp ht]
        exact ⟨hempty, hdot, hup, hs⟩

theorem follow_isName (hplace : ∀ t ∈ place, IsName t) (hss : ∀ s ∈ ss, '/' ∉ s)
    (h : follow place ss = some out) : ∀ t ∈ out, IsName t := by
  induction ss generalizing place with
  | nil =>
    cases h
    exact hplace
  | cons s ss ih =>
    obtain ⟨hs, hss⟩ := List.forall_mem_cons.mp hss
    obtain ⟨next, hnext, h⟩ := Option.bind_eq_some_iff.mp h
    exact ih (enter_isName hplace hs hnext) hss h

theorem resolve_cons (stack : List Segment) (s : Segment) (ss : List Segment) :
    resolve stack (s :: ss) =
      if isCurrent s then resolve stack ss
      else if s = up then match stack with
        | [] => resolve [s] ss
        | t :: ts => if t = up then resolve (s :: t :: ts) ss else resolve ts ss
      else resolve (s :: stack) ss := by
  rw [resolve.eq_def]
  rfl

-- A step above the start is never taken back, so it is still the first segment at the end.
theorem resolve_above (stack ss : List Segment) :
    ∃ rest, resolve (stack ++ [up]) ss = up :: rest := by
  induction ss generalizing stack with
  | nil => simp [resolve]
  | cons s ss ih =>
    rw [resolve_cons]
    split
    · exact ih stack
    · split
      · rename_i hup
        cases stack with
        | nil => exact ih [s]
        | cons t ts =>
          simp only [List.cons_append]
          split
          · exact ih (s :: t :: ts)
          · exact ih ts
      · exact ih (s :: stack)

theorem follow_resolve {stack : List Segment} (hstack : up ∉ stack) (ss : List Segment) :
    follow stack.reverse ss = some (resolve stack ss) ∨
      follow stack.reverse ss = none ∧ ∃ rest, resolve stack ss = up :: rest := by
  induction ss generalizing stack with
  | nil => simp [resolve]
  | cons s ss ih =>
    rw [follow_cons, resolve_cons]
    by_cases hcurrent : isCurrent s = true
    · have henter : enter stack.reverse s = some stack.reverse :=
        if_pos (by simpa [isCurrent] using hcurrent)
      rw [if_pos hcurrent, henter]
      exact ih hstack
    · rw [if_neg hcurrent]
      by_cases hup : s = up
      · subst hup
        rw [if_pos rfl, enter_up]
        cases stack with
        | nil => exact .inr ⟨rfl, resolve_above [] ss⟩
        | cons t ts =>
          obtain ⟨ht, hts⟩ := not_or.mp (mt List.mem_cons.mpr hstack)
          simpa [if_neg (fun h : t = up => ht h.symm)] using ih hts
      · have henter : enter stack.reverse s = some (s :: stack).reverse := by
          rw [enter, if_neg (by simpa [isCurrent] using hcurrent), if_neg hup, List.reverse_cons]
        rw [if_neg hup, henter]
        exact ih (mt List.mem_cons.mp (not_or.mpr ⟨fun h => hup h.symm, hstack⟩))

theorem follow_start (ss : List Segment) : follow [] ss = some (resolve [] ss) ∨
    follow [] ss = none ∧ ∃ rest, resolve [] ss = up :: rest :=
  follow_resolve List.not_mem_nil ss

theorem dotted_iff : Dotted ss ↔ ∃ s more, ss = ('.' :: '.' :: s) :: more := by
  constructor
  · rintro ⟨s, hs⟩
    cases ss with
    | nil => cases hs
    | cons t more => exact ⟨s, more, congrArg (· :: more) hs.symm⟩
  · rintro ⟨s, more, rfl⟩
    exact ⟨s, rfl⟩

theorem joinSegments_eq {base spec : List Char} (hbase : isAbsolute base = false)
    (hspec : isAbsolute spec = false) : joinSegments base spec =
      if Dotted (resolve [] (splitAll '/' base ++ splitAll '/' spec)) then none
      else some (resolve [] (splitAll '/' base ++ splitAll '/' spec)) := by
  rw [joinSegments, if_neg (by simp [hspec]), if_neg (by simp [hbase])]
  generalize resolve [] _ = segments
  by_cases hdotted : Dotted segments
  · rw [if_pos hdotted]
    obtain ⟨s, more, rfl⟩ := dotted_iff.mp hdotted
    rfl
  · rw [if_neg hdotted]
    dsimp only
    split
    · rename_i s more
      exact absurd (dotted_iff.mpr ⟨s, more, rfl⟩) hdotted
    · rfl

theorem joinSegments_eq_some_iff {base spec : List Char} :
    joinSegments base spec = some out ↔ isAbsolute base = false ∧ isAbsolute spec = false ∧
      follow [] (splitAll '/' base ++ splitAll '/' spec) = some out ∧ ¬Dotted out := by
  by_cases hspec : isAbsolute spec = true
  · simp [joinSegments, hspec]
  by_cases hbase : isAbsolute base = true
  · simp [joinSegments, hbase, hspec]
  rw [Bool.not_eq_true] at hspec hbase
  rw [joinSegments_eq hbase hspec]
  simp only [hspec, hbase, true_and]
  rcases follow_start (splitAll '/' base ++ splitAll '/' spec) with h | ⟨h, rest, hup⟩
  · rw [h, Option.ite_none_left_eq_some]
    constructor
    · rintro ⟨hdotted, hout⟩
      cases hout
      exact ⟨rfl, hdotted⟩
    · rintro ⟨hout, hdotted⟩
      cases hout
      exact ⟨hdotted, rfl⟩
  · have hdotted : Dotted (resolve [] (splitAll '/' base ++ splitAll '/' spec)) := by
      rw [hup]
      exact dotted_iff.mpr ⟨[], rest, rfl⟩
    rw [h, if_pos hdotted]
    simp

theorem joinSegments_isName {base spec : List Char} (h : joinSegments base spec = some out) :
    ∀ s ∈ out, IsName s := by
  obtain ⟨-, -, hfollow, -⟩ := joinSegments_eq_some_iff.mp h
  have hstart : ∀ s ∈ ([] : List Segment), IsName s := by simp
  refine follow_isName hstart (fun s hs => ?_) hfollow
  exact (List.mem_append.mp hs).elim not_mem_of_mem_splitAll not_mem_of_mem_splitAll

theorem joinSegments_isStep {base spec : List Char} (h : joinSegments base spec = some out) :
    ∀ s ∈ out, IsStep s :=
  fun s hs => (joinSegments_isName h s hs).isStep

theorem join_eq_some_iff {base spec r : String} : join base spec = some r ↔
    ∃ ss, joinSegments base.toList spec.toList = some ss ∧ String.ofList (render ss) = r :=
  Option.map_eq_some_iff

end

theorem parts_append (p q : List Char) : parts (p ++ '/' :: q) = parts p ++ parts q := by
  rw [parts, splitAll_append, List.filter_append]
  rfl

theorem parts_joinWith {ss : List Segment} (hne : ss ≠ []) (h : ∀ s ∈ ss, IsStep s) :
    parts (joinWith ['/'] ss) = ss := by
  rw [parts, splitAll_joinWith hne (fun s hs => (h s hs).2.2), List.filter_eq_self]
  intro s hs
  simp [(h s hs).1]

theorem joinWith_not_absolute {ss : List Segment} (h : ∀ s ∈ ss, IsStep s) :
    isAbsolute (joinWith ['/'] ss) = false := by
  cases ss with
  | nil => rfl
  | cons s ss =>
    obtain ⟨⟨hempty, -, hslash⟩, -⟩ := List.forall_mem_cons.mp h
    cases s with
    | nil => exact absurd rfl hempty
    | cons c s =>
      have hc : c ≠ '/' := fun he => hslash (he ▸ List.mem_cons_self)
      cases ss <;> simpa [joinWith, isAbsolute] using hc

theorem joinWith_ne {ss : List Segment} (hne : ss ≠ []) (h : ∀ s ∈ ss, IsStep s) :
    joinWith ['/'] ss ≠ [] ∧ joinWith ['/'] ss ≠ ['.'] := by
  have hparts := parts_joinWith hne h
  constructor
  · intro hempty
    rw [hempty] at hparts
    exact hne hparts.symm
  · intro hdot
    rw [hdot] at hparts
    have hmem : ['.'] ∈ ss := by
      rw [← hparts]
      decide
    exact (h ['.'] hmem).2.1 rfl

theorem render_iff {ss : List Segment} {r : String} : String.ofList (render ss) = r ↔
    ss = [] ∧ r = "." ∨ ss ≠ [] ∧ r.toList = joinWith ['/'] ss := by
  cases ss with
  | nil => simp [render, eq_comm]
  | cons s ss => simp [render, ← String.toList_inj, eq_comm]

theorem Plain.isName {p : String} (hp : Plain p) : ∀ s ∈ splitAll '/' p.toList, IsName s :=
  fun s hs => (isName_iff_usable (not_mem_of_mem_splitAll hs)).mpr (hp s hs)

theorem Plain.parts_eq {p : String} (hp : Plain p) : parts p.toList = splitAll '/' p.toList := by
  rw [parts, List.filter_eq_self]
  intro s hs
  simp [(hp.isName s hs).1]

theorem Plain.not_absolute {p : String} (hp : Plain p) : isAbsolute p.toList = false := by
  have hjoin := joinWith_not_absolute (fun s hs => (hp.isName s hs).isStep)
  rwa [joinWith_splitAll] at hjoin

end Path

end LivePreview
