import LivePreview.Proofs.Recognition
import LivePreview.Proofs.Splicing
import LivePreview.Sandbox.Mount

namespace LivePreview

namespace Markup

open LivePreview.Text

def attributeUnsafe : List Char := ['\x22', '&', '<']

theorem forall_attributeUnsafe {P : Char → Prop} (hquote : P '\x22') (hampersand : P '&')
    (hopen : P '<') : ∀ c ∈ attributeUnsafe, P c := by
  simp only [attributeUnsafe, List.forall_mem_cons]
  exact ⟨hquote, hampersand, hopen, List.forall_mem_nil _⟩

/-- A value with its references read, from the left. -/
def decoded : List Char → List Char
  | '&' :: 'q' :: 'u' :: 'o' :: 't' :: ';' :: s => '\x22' :: decoded s
  | '&' :: 'a' :: 'm' :: 'p' :: ';' :: s => '&' :: decoded s
  | '&' :: 'l' :: 't' :: ';' :: s => '<' :: decoded s
  | c :: s => c :: decoded s
  | [] => []

theorem decoded_plain {c : Char} (hc : c ≠ '&') (s : List Char) :
    decoded (c :: s) = c :: decoded s := by
  conv_lhs => unfold decoded
  split <;> simp_all

theorem attributeSafe_append (s t : List Char) :
    attributeSafe (s ++ t) = attributeSafe s ++ attributeSafe t := by
  induction s with
  | nil => rfl
  | cons c s ih =>
    rw [List.cons_append, attributeSafe, attributeSafe, ih]
    repeat' split
    all_goals rfl

theorem attributeSafe_cons {c : Char} (hc : c ∉ attributeUnsafe) (s : List Char) :
    attributeSafe (c :: s) = c :: attributeSafe s := by
  simp only [attributeUnsafe, List.mem_cons, List.not_mem_nil, or_false, not_or] at hc
  rw [attributeSafe, if_neg hc.1, if_neg hc.2.1, if_neg hc.2.2]

theorem attributeSafe_eq_self {s : List Char} (h : ∀ c ∈ s, c ∉ attributeUnsafe) :
    attributeSafe s = s := by
  induction s with
  | nil => rfl
  | cons c s ih =>
    obtain ⟨hc, hs⟩ := List.forall_mem_cons.mp h
    rw [attributeSafe_cons hc, ih hs]

theorem attributeSafe_cases (c : Char) (s : List Char) :
    (c = '\x22' ∧ attributeSafe (c :: s) = ['&', 'q', 'u', 'o', 't', ';'] ++ attributeSafe s) ∨
    (c = '&' ∧ attributeSafe (c :: s) = ['&', 'a', 'm', 'p', ';'] ++ attributeSafe s) ∨
    (c = '<' ∧ attributeSafe (c :: s) = ['&', 'l', 't', ';'] ++ attributeSafe s) ∨
    (c ∉ attributeUnsafe ∧ attributeSafe (c :: s) = c :: attributeSafe s) := by
  by_cases hc : c ∈ attributeUnsafe
  · simp only [attributeUnsafe, List.mem_cons, List.not_mem_nil, or_false] at hc
    rcases hc with rfl | rfl | rfl
    · exact .inl ⟨rfl, rfl⟩
    · exact .inr (.inl ⟨rfl, rfl⟩)
    · exact .inr (.inr (.inl ⟨rfl, rfl⟩))
  · exact .inr (.inr (.inr ⟨hc, attributeSafe_cons hc s⟩))

theorem decoded_attributeSafe (s : List Char) : decoded (attributeSafe s) = s := by
  induction s with
  | nil => rfl
  | cons c s ih =>
    rcases attributeSafe_cases c s with ⟨rfl, h⟩ | ⟨rfl, h⟩ | ⟨rfl, h⟩ | ⟨hc, h⟩
    · rw [h]
      exact congrArg ('\x22' :: ·) ih
    · rw [h]
      exact congrArg ('&' :: ·) ih
    · rw [h]
      exact congrArg ('<' :: ·) ih
    · have hplain : c ≠ '&' := fun he => hc (he ▸ by decide)
      rw [h, decoded_plain hplain, ih]

theorem attributeSafe_clean (s : List Char) : ∀ d ∈ attributeSafe s, d ≠ '\x22' ∧ d ≠ '<' := by
  induction s with
  | nil => exact List.forall_mem_nil _
  | cons c s ih =>
    have hreference : ∀ reference : List Char, (∀ d ∈ reference, d ≠ '\x22' ∧ d ≠ '<') →
        ∀ d ∈ reference ++ attributeSafe s, d ≠ '\x22' ∧ d ≠ '<' :=
      fun _ h => List.forall_mem_append.mpr ⟨h, ih⟩
    rcases attributeSafe_cases c s with ⟨-, h⟩ | ⟨-, h⟩ | ⟨-, h⟩ | ⟨hc, h⟩
    · exact h ▸ hreference _ (by simp)
    · exact h ▸ hreference _ (by simp)
    · exact h ▸ hreference _ (by simp)
    · simp only [attributeUnsafe, List.mem_cons, List.not_mem_nil, or_false, not_or] at hc
      exact h ▸ List.forall_mem_cons.mpr ⟨⟨hc.1, hc.2.2⟩, ih⟩

theorem quote_not_mem_safe (s : List Char) : '\x22' ∉ attributeSafe s :=
  fun h => (attributeSafe_clean s _ h).1 rfl

theorem bracket_not_mem_safe (s : List Char) : '<' ∉ attributeSafe s :=
  fun h => (attributeSafe_clean s _ h).2 rfl

theorem escapeAttribute_toList (v : String) :
    (escapeAttribute v).toList = attributeSafe v.toList := String.toList_ofList

theorem escapeAttribute_injective : Function.Injective escapeAttribute := by
  intro v w h
  have hsafe : attributeSafe v.toList = attributeSafe w.toList := by
    rw [← escapeAttribute_toList, h, escapeAttribute_toList]
  have hdecoded := congrArg decoded hsafe
  rw [decoded_attributeSafe, decoded_attributeSafe] at hdecoded
  exact String.toList_injective hdecoded

structure OpeningTag where
  name : String
  attributes : List (String × String)
  deriving DecidableEq, Repr

inductive Place where
  | between
  | name (seen : List Char)
  | opening (name : List Char)
  | value (name seen : List Char)

def attributesAt : Place → List Char → Option (List (String × String) × List Char)
  | _, [] => none
  | .between, c :: s =>
      if c = '>' then some ([], s) else if c = ' ' then attributesAt (.name []) s else none
  | .name seen, c :: s =>
      if isAsciiLetter c then attributesAt (.name (c :: seen)) s
      else if c = '=' then attributesAt (.opening seen) s
      else none
  | .opening name, c :: s => if c = '\x22' then attributesAt (.value name []) s else none
  | .value name seen, c :: s =>
      if c = '\x22' then
        (attributesAt .between s).map (fun p =>
          ((String.ofList name.reverse, String.ofList (decoded seen.reverse)) :: p.1, p.2))
      else attributesAt (.value name (c :: seen)) s

/-- The opening tag at the start of a text, and what follows it. -/
def openingTag : List Char → Option (OpeningTag × List Char)
  | '<' :: s =>
      (attributesAt .between (s.dropWhile isAsciiLetter)).map (fun p =>
        (⟨String.ofList (s.takeWhile isAsciiLetter), p.1⟩, p.2))
  | _ => none

def writtenAttribute (p : String × String) : List Char :=
  ' ' :: (p.1.toList ++ '=' :: '\x22' :: (attributeSafe p.2.toList ++ ['\x22']))

namespace OpeningTag

def inner (t : OpeningTag) : List Char := t.name.toList ++ t.attributes.flatMap writtenAttribute

def written (t : OpeningTag) : List Char := '<' :: (t.inner ++ ['>'])

end OpeningTag

def IsName (name : String) : Prop := name.toList.all isAsciiLetter = true

theorem IsName.letters {name : String} (h : IsName name) :
    ∀ c ∈ name.toList, isAsciiLetter c = true := List.all_eq_true.mp h

structure OpeningTag.Named (t : OpeningTag) : Prop where
  name : IsName t.name
  attributes : ∀ p ∈ t.attributes, IsName p.1

theorem attributesAt_name {name : List Char} (h : ∀ c ∈ name, isAsciiLetter c = true)
    (seen s : List Char) :
    attributesAt (.name seen) (name ++ '=' :: s) =
      attributesAt (.opening (name.reverse ++ seen)) s := by
  induction name generalizing seen with
  | nil => rfl
  | cons c name ih =>
    obtain ⟨hc, hname⟩ := List.forall_mem_cons.mp h
    rw [List.cons_append, attributesAt, if_pos hc, ih hname, List.reverse_cons, List.append_assoc,
      List.singleton_append]

theorem attributesAt_value {raw : List Char} (h : '\x22' ∉ raw) (name seen s : List Char) :
    attributesAt (.value name seen) (raw ++ '\x22' :: s) =
      (attributesAt .between s).map (fun p =>
        ((String.ofList name.reverse, String.ofList (decoded (seen.reverse ++ raw))) :: p.1,
          p.2)) := by
  induction raw generalizing seen with
  | nil => rw [List.nil_append, attributesAt, if_pos rfl, List.append_nil]
  | cons c raw ih =>
    obtain ⟨hc, hraw⟩ := not_or.mp (mt List.mem_cons.mpr h)
    rw [List.cons_append, attributesAt, if_neg (Ne.symm hc), ih hraw, List.reverse_cons,
      List.append_assoc, List.singleton_append]

theorem attributesAt_written {attributes : List (String × String)}
    (h : ∀ p ∈ attributes, IsName p.1) (rest : List Char) :
    attributesAt .between (attributes.flatMap writtenAttribute ++ '>' :: rest) =
      some (attributes, rest) := by
  induction attributes with
  | nil => rfl
  | cons p attributes ih =>
    obtain ⟨hp, hattributes⟩ := List.forall_mem_cons.mp h
    have hspace (s : List Char) :
        attributesAt .between (' ' :: s) = attributesAt (.name []) s := rfl
    have hquote (name s : List Char) :
        attributesAt (.opening name) ('\x22' :: s) = attributesAt (.value name []) s := rfl
    rw [List.flatMap_cons, writtenAttribute, List.append_assoc, List.cons_append, hspace,
      List.append_assoc, List.cons_append, attributesAt_name hp.letters, List.cons_append, hquote,
      List.append_assoc, List.singleton_append, attributesAt_value (quote_not_mem_safe _),
      ih hattributes]
    simp [decoded_attributeSafe]

/-- A tag is read as it was written, whatever the values of its attributes are. -/
theorem openingTag_written {t : OpeningTag} (h : t.Named) (rest : List Char) :
    openingTag (t.written ++ rest) = some (t, rest) := by
  have hstart : ∃ c s, t.attributes.flatMap writtenAttribute ++ '>' :: rest = c :: s ∧
      ¬isAsciiLetter c = true := by
    cases t.attributes with
    | nil => exact ⟨'>', rest, rfl, by decide⟩
    | cons p attributes => exact ⟨' ', _, rfl, by decide⟩
  obtain ⟨c, s, hs, hc⟩ := hstart
  have hbehind := attributesAt_written h.attributes rest
  rw [OpeningTag.written, OpeningTag.inner, List.cons_append, List.append_assoc, List.append_assoc,
    List.singleton_append, openingTag, List.takeWhile_append_of_pos h.name.letters,
    List.dropWhile_append_of_pos h.name.letters]
  rw [hs] at hbehind ⊢
  rw [List.takeWhile_cons_of_neg hc, List.dropWhile_cons_of_neg hc, hbehind, List.append_nil,
    String.ofList_toList]
  rfl

theorem IsName.bracket_not_mem {name : String} (h : IsName name) : '<' ∉ name.toList :=
  fun hmem => absurd (h.letters '<' hmem) (by decide)

theorem OpeningTag.Named.bracket_not_mem {t : OpeningTag} (h : t.Named) : '<' ∉ t.inner := by
  have hattributes : ∀ p ∈ t.attributes, '<' ∉ writtenAttribute p := by
    intro p hp
    simp [writtenAttribute, (h.attributes p hp).bracket_not_mem, bracket_not_mem_safe]
  rw [OpeningTag.inner, List.mem_append, List.mem_flatMap, not_or]
  exact ⟨h.name.bracket_not_mem, fun ⟨p, hp, hmem⟩ => hattributes p hp hmem⟩

end Markup

namespace Policy

open Markup LivePreview.Text

theorem tokensFrom_subset (bits i : Nat) (ts : List String) : tokensFrom bits i ts ⊆ ts := by
  induction ts generalizing i with
  | nil => exact List.Subset.refl _
  | cons t ts ih =>
    rw [tokensFrom]
    split
    · exact List.cons_subset_cons t (ih (i + 1))
    · exact List.subset_cons_of_subset t (ih (i + 1))

theorem sandboxTokens_safe (p : Policy) :
    attributeSafe p.sandboxTokens.toList = p.sandboxTokens.toList := by
  have htokens : ∀ x ∈ attributeUnsafe, ∀ t ∈ tokens, x ∉ t.toList :=
    forall_attributeUnsafe (by decide +kernel) (by decide +kernel) (by decide +kernel)
  have hspace : ∀ x ∈ attributeUnsafe, x ∉ " ".toList :=
    forall_attributeUnsafe (by decide +kernel) (by decide +kernel) (by decide +kernel)
  refine attributeSafe_eq_self (fun c hc hunsafe => ?_)
  exact not_mem_intercalate (hspace c hunsafe)
    (fun t ht => htokens c hunsafe t (tokensFrom_subset _ _ _ ht)) hc

end Policy

namespace Mount

open Markup

def frameTag (m : Mount) : OpeningTag :=
  ⟨"iframe", [("src", m.source.uri), ("title", "App Preview"),
    ("sandbox", m.policy.sandboxTokens)]⟩

theorem frameTag_named (m : Mount) : m.frameTag.Named := by
  have hnames : IsName "iframe" ∧ IsName "src" ∧ IsName "title" ∧ IsName "sandbox" := by
    simp only [IsName]
    decide +kernel
  refine ⟨hnames.1, ?_⟩
  simp only [frameTag, List.forall_mem_cons]
  exact ⟨hnames.2.1, hnames.2.2.1, hnames.2.2.2, List.forall_mem_nil _⟩

theorem markup_written (m : Mount) :
    m.markup.toList = m.frameTag.written ++ "</iframe>".toList := by
  have hmarkup : m.markup = "<iframe src=\"" ++ escapeAttribute m.source.uri ++
      "\" title=\"App Preview\" sandbox=\"" ++ m.policy.sandboxTokens ++ "\"></iframe>" := rfl
  have hopen : "<iframe src=\"".toList =
      '<' :: ("iframe".toList ++ ' ' :: ("src".toList ++ ['=', '\x22'])) := by decide +kernel
  have htitle : "\" title=\"App Preview\" sandbox=\"".toList =
      '\x22' :: (writtenAttribute ("title", "App Preview") ++
        ' ' :: ("sandbox".toList ++ ['=', '\x22'])) := by decide +kernel
  have hclose : "\"></iframe>".toList = '\x22' :: '>' :: "</iframe>".toList := by decide +kernel
  simp only [hmarkup, String.toList_append, escapeAttribute_toList, hopen, htitle, hclose, frameTag,
    OpeningTag.written, OpeningTag.inner, List.flatMap_cons, List.flatMap_nil, writtenAttribute,
    Policy.sandboxTokens_safe, List.append_assoc, List.cons_append, List.nil_append]

end Mount

end LivePreview
