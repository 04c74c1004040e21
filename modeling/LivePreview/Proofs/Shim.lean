import LivePreview.Document.Assembly

namespace LivePreview

namespace Text

section

variable {x : Char} {mark new : List Char}

theorem replaceAll_drop (n : Nat) (s : List Char) :
    replaceAll mark new n s = replaceAll mark new 0 (s.drop n) := by
  induction s generalizing n with
  | nil => rw [List.drop_nil, replaceAll, replaceAll]
  | cons c s ih =>
    cases n with
    | zero => rfl
    | succ n => rw [replaceAll, ih, List.drop_succ_cons]

theorem replaceAll_mark (s : List Char) :
    replaceAll (x :: mark) new 0 (x :: mark ++ s) = new ++ replaceAll (x :: mark) new 0 s := by
  have hhere : (x :: mark).isPrefixOf (x :: (mark ++ s)) = true :=
    List.isPrefixOf_iff_prefix.mpr (List.prefix_append (x :: mark) s)
  rw [List.cons_append, replaceAll, hhere, List.isEmpty_cons, Bool.not_false, Bool.and_self,
    if_pos rfl, replaceAll_drop, List.length_cons, Nat.add_sub_cancel, List.drop_left]

theorem replaceAll_other {before : List Char} (h : x ∉ before) (s : List Char) :
    replaceAll (x :: mark) new 0 (before ++ s) = before ++ replaceAll (x :: mark) new 0 s := by
  induction before with
  | nil => rfl
  | cons c before ih =>
    obtain ⟨hc, hbefore⟩ := not_or.mp (mt List.mem_cons.mpr h)
    have hlater : (x :: mark).isPrefixOf (c :: (before ++ s)) = false := by
      rw [Bool.eq_false_iff, ne_eq, List.isPrefixOf_iff_prefix, List.cons_prefix_cons]
      exact fun hx => hc hx.1
    rw [List.cons_append, replaceAll, hlater, Bool.and_false, if_neg nofun, ih hbefore,
      List.cons_append]

theorem replaceAll_between {opening ending : List Char} (hopening : x ∉ opening)
    (hending : x ∉ ending) : replaceAll (x :: mark) new 0 (opening ++ (x :: mark ++ ending)) =
      opening ++ (new ++ ending) := by
  have hend : replaceAll (x :: mark) new 0 (ending ++ []) = ending ++ [] :=
    replaceAll_other hending []
  rw [List.append_nil] at hend
  rw [replaceAll_other hopening, replaceAll_mark, hend]

end

theorem not_mem_ofList {x : Char} {l : List Char} (h : x ∉ l) : x ∉ (String.ofList l).toList := by
  rw [String.toList_ofList]
  exact h

theorem not_mem_intercalate {x : Char} {sep : String} {lines : List String} (hsep : x ∉ sep.toList)
    (h : ∀ l ∈ lines, x ∉ l.toList) : x ∉ (sep.intercalate lines).toList := by
  induction lines with
  | nil => exact List.not_mem_nil
  | cons l lines ih =>
    obtain ⟨hl, hlines⟩ := List.forall_mem_cons.mp h
    by_cases hnil : lines = []
    · rw [hnil, String.intercalate_singleton]
      exact hl
    · simp only [String.intercalate_cons_of_ne_nil hnil, String.toList_append, List.mem_append,
        not_or]
      exact ⟨⟨hl, hsep⟩, ih hlines⟩

end Text

namespace Document

open LivePreview.Text

theorem shimTemplate_lines : ∃ lines, shimTemplate = String.intercalate "\n"
      ("(function () \x7b" :: "  var generation = __LIVEPACK_GENERATION__;" :: lines) ∧
    lines ≠ [] ∧ ∀ l ∈ lines, '_' ∉ l.toList := by
  refine ⟨_, rfl, List.cons_ne_nil _ _, ?_⟩
  repeat refine List.forall_mem_cons.mpr ⟨not_mem_ofList (by decide), ?_⟩
  exact List.forall_mem_nil _

theorem shimTemplate_split : ∃ opening ending,
    shimTemplate.toList = opening ++ (placeholder.toList ++ ending) ∧
      '_' ∉ opening ∧ '_' ∉ ending := by
  obtain ⟨lines, heq, hnil, hlines⟩ := shimTemplate_lines
  have hline : "  var generation = __LIVEPACK_GENERATION__;".toList =
      "  var generation = ".toList ++ (placeholder.toList ++ ";".toList) := by decide +kernel
  have hbreak : '_' ∉ "\n".toList := not_mem_ofList (by decide)
  refine ⟨"(function () \x7b".toList ++ ("\n".toList ++ "  var generation = ".toList),
    ";".toList ++ ("\n".toList ++ ("\n".intercalate lines).toList), ?_, ?_, ?_⟩
  · rw [heq, String.intercalate_cons_of_ne_nil (List.cons_ne_nil _ _),
      String.intercalate_cons_of_ne_nil hnil]
    simp only [String.toList_append, hline, List.append_assoc]
  · simp only [List.mem_append, not_or]
    exact ⟨not_mem_ofList (by decide), hbreak, not_mem_ofList (by decide)⟩
  · simp only [List.mem_append, not_or]
    exact ⟨not_mem_ofList (by decide), hbreak, not_mem_intercalate hbreak hlines⟩

theorem shim_split : ∃ opening ending,
    shimTemplate.toList = opening ++ (placeholder.toList ++ ending) ∧
      ∀ generation, shim generation = opening ++ (Nat.toDigits 10 generation ++ ending) := by
  obtain ⟨opening, ending, htemplate, hopening, hending⟩ := shimTemplate_split
  have hmark : placeholder.toList = '_' :: "_LIVEPACK_GENERATION__".toList := by decide +kernel
  refine ⟨opening, ending, htemplate, fun generation => ?_⟩
  rw [shim, htemplate, hmark]
  exact replaceAll_between hopening hending

end Document

end LivePreview
