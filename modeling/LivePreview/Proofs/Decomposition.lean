import LivePreview.Proofs.Segments

namespace LivePreview.Path

open Text

theorem splitName_cases (name : List Char) :
    (splitName name = (name, none) ∧ '.' ∉ name.tail) ∨
    ∃ stem ext, splitName name = (stem, some ext) ∧
      name = stem ++ '.' :: ext ∧ stem ≠ [] ∧ '.' ∉ ext := by
  rw [splitName]
  split
  · rename_i hnone
    exact .inl ⟨rfl, fun hdot => splitLast_none hnone (List.mem_of_mem_tail hdot)⟩
  · rename_i ext hsome
    obtain ⟨rfl, hext⟩ := splitLast_some hsome
    exact .inl ⟨rfl, hext⟩
  · rename_i c cs ext hsome
    obtain ⟨hname, hext⟩ := splitLast_some hsome
    exact .inr ⟨c :: cs, ext, rfl, hname, List.cons_ne_nil c cs, hext⟩

theorem extension_cases (p : String) :
    (extension p = none ∧ fileName p = stem p ∧ '.' ∉ (fileName p).toList.tail) ∨
    ∃ ext, extension p = some ext ∧ fileName p = stem p ++ "." ++ ext ∧ stem p ≠ "" ∧
      '.' ∉ ext.toList := by
  rw [fileName, stem, extension]
  rcases splitName_cases (lastSegment p.toList) with
    ⟨hsplit, hdot⟩ | ⟨s, ext, hsplit, hname, hs, hext⟩
  · left
    rw [hsplit]
    exact ⟨rfl, rfl, by rwa [String.toList_ofList]⟩
  · right
    rw [hsplit, hname]
    refine ⟨String.ofList ext, rfl, ?_, ?_, by rwa [String.toList_ofList]⟩
    · simp [← String.toList_inj]
    · simpa [← String.toList_inj] using hs

theorem extension_eq_none_iff {p : String} :
    extension p = none ↔ '.' ∉ (fileName p).toList.tail := by
  rcases extension_cases p with ⟨hnone, -, hdot⟩ | ⟨ext, hsome, hname, hstem, -⟩
  · exact iff_of_true hnone hdot
  · -- The stem holds the first character, so the dot behind it is not that one.
    have hdot : '.' ∈ (fileName p).toList.tail := by
      obtain ⟨c, cs, hcons⟩ := List.exists_cons_of_ne_nil (mt String.toList_eq_nil_iff.mp hstem)
      simp [hname, hcons]
    exact iff_of_false (by simp [hsome]) (not_not_intro hdot)

section

variable {p n : String}

theorem fileName_of_no_slash (h : '/' ∉ p.toList) : fileName p = p := by
  rw [fileName, lastSegment, splitLast_of_not_mem h]
  exact String.ofList_toList

theorem parent_of_no_slash (h : '/' ∉ p.toList) : parent p = "" := by
  rw [parent, splitLast_of_not_mem h]

theorem parent_append_fileName (h : '/' ∈ p.toList) : parent p ++ "/" ++ fileName p = p := by
  rw [parent, fileName, lastSegment]
  cases hsplit : splitLast '/' p.toList with
  | none => exact absurd h (splitLast_none hsplit)
  | some parts =>
    have hp := (splitLast_some hsplit).1
    simp [← String.toList_inj, hp]

theorem splitLast_below (d : String) (h : '/' ∉ n.toList) :
    splitLast '/' (d ++ "/" ++ n).toList = some (d.toList, n.toList) := by
  have hlist : (d ++ "/" ++ n).toList = d.toList ++ '/' :: n.toList := by simp
  rw [hlist, splitLast_append d.toList h]

theorem lastSegment_below (d : String) (h : '/' ∉ n.toList) :
    lastSegment (d ++ "/" ++ n).toList = lastSegment n.toList := by
  rw [lastSegment, splitLast_below d h, lastSegment, splitLast_of_not_mem h]

theorem parent_below (d : String) (h : '/' ∉ n.toList) : parent (d ++ "/" ++ n) = d := by
  rw [parent, splitLast_below d h]
  exact String.ofList_toList

end

/-- A path is its directory, a slash and its file name, and that is its stem, a dot and its
extension. Whatever the directory is, it takes no part in how a name below it is read. -/
theorem parts_recompose (p : String) :
    '/' ∉ (fileName p).toList ∧
    (if '/' ∈ p.toList then p = parent p ++ "/" ++ fileName p
      else p = fileName p ∧ parent p = "") ∧
    (match extension p with
      | none => fileName p = stem p
      | some ext => fileName p = stem p ++ "." ++ ext ∧ stem p ≠ "" ∧ '.' ∉ ext.toList) ∧
    (extension p = none ↔ '.' ∉ (fileName p).toList.tail) ∧
    ∀ d n : String, '/' ∉ n.toList →
      fileName (d ++ "/" ++ n) = fileName n ∧ stem (d ++ "/" ++ n) = stem n ∧
      extension (d ++ "/" ++ n) = extension n ∧ parent (d ++ "/" ++ n) = d := by
  refine ⟨fileName_no_slash p, ?_, ?_, extension_eq_none_iff, fun d n hn => ?_⟩
  · split
    · rename_i h
      exact (parent_append_fileName h).symm
    · rename_i h
      exact ⟨(fileName_of_no_slash h).symm, parent_of_no_slash h⟩
  · rcases extension_cases p with ⟨hnone, hname, -⟩ | ⟨ext, hsome, hname, hstem, hext⟩
    · rw [hnone]
      exact hname
    · rw [hsome]
      exact ⟨hname, hstem, hext⟩
  · simp only [fileName, stem, extension, lastSegment_below d hn, parent_below d hn, and_self]

theorem parts_recompose_dotted :
    '/' ∉ "..été.".toList ∧
    fileName ("a.b//" ++ "/" ++ "..été.") = fileName "..été." ∧
    stem ("a.b//" ++ "/" ++ "..été.") = "..été" ∧
    extension ("a.b//" ++ "/" ++ "..été.") = some "" ∧
    parent ("a.b//" ++ "/" ++ "..été.") = "a.b//" := by
  have hn : '/' ∉ "..été.".toList := by decide
  obtain ⟨hname, hstem, hext, hparent⟩ := (parts_recompose "..été.").2.2.2.2 "a.b//" "..été." hn
  exact ⟨hn, hname, hstem.trans (by decide), hext.trans (by decide), hparent⟩

end LivePreview.Path
