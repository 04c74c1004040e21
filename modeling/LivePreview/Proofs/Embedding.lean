import LivePreview.Proofs.Placement
import LivePreview.Proofs.Spelling

namespace LivePreview

namespace Markup

def scriptUnsafe : List Char := ['<', '>', '&', '\u2028', '\u2029']

theorem scriptSafe_append (s t : List Char) :
    scriptSafe (s ++ t) = scriptSafe s ++ scriptSafe t := by
  induction s with
  | nil => rfl
  | cons c s ih =>
    rw [List.cons_append, scriptSafe, scriptSafe, ih]
    repeat' split
    all_goals rfl

theorem scriptSafe_flatMap {α : Type} (g : α → List Char) (xs : List α) :
    scriptSafe (xs.flatMap g) = xs.flatMap (fun x => scriptSafe (g x)) := by
  induction xs with
  | nil => rfl
  | cons x xs ih => rw [List.flatMap_cons, scriptSafe_append, ih, List.flatMap_cons]

theorem scriptSafe_of_clean {s : List Char} (h : ∀ c ∈ s, c ∉ scriptUnsafe) : scriptSafe s = s := by
  induction s with
  | nil => rfl
  | cons c s ih =>
    obtain ⟨hc, hs⟩ := List.forall_mem_cons.mp h
    simp only [scriptUnsafe, List.mem_cons, List.not_mem_nil, or_false, not_or] at hc
    simp [scriptSafe, hc, ih hs]

theorem scriptSafe_unsafe : ∀ c ∈ scriptUnsafe, ∀ d ∈ scriptSafe [c], d ∉ scriptUnsafe := by
  simp [scriptUnsafe, scriptSafe]

theorem scriptSafe_clean (s : List Char) : ∀ c ∈ scriptSafe s, c ∉ scriptUnsafe := by
  induction s with
  | nil => exact List.forall_mem_nil _
  | cons c s ih =>
    have hfirst : ∀ d ∈ scriptSafe [c], d ∉ scriptUnsafe := by
      by_cases hc : c ∈ scriptUnsafe
      · exact scriptSafe_unsafe c hc
      · rw [scriptSafe_of_clean (by simpa using hc)]
        simpa using hc
    rw [← List.singleton_append, scriptSafe_append]
    intro d hd
    rcases List.mem_append.mp hd with hd | hd
    · exact hfirst d hd
    · exact ih d hd

end Markup

namespace Json

open Markup

theorem hexDigit_clean : ∀ n < 16, hexDigit n ∉ scriptUnsafe := by decide

theorem escapeChar_clean {c : Char} (hc : c ∉ scriptUnsafe) :
    ∀ d ∈ escapeChar c, d ∉ scriptUnsafe := by
  unfold escapeChar
  repeat' split
  all_goals try (simp [scriptUnsafe]; done)
  · rename_i hlow
    have hhigh := hexDigit_clean (c.toNat / 16) (by omega)
    have hlow := hexDigit_clean (c.toNat % 16) (by omega)
    simp only [List.forall_mem_cons]
    exact ⟨by decide, by decide, by decide, by decide, hhigh, hlow, List.forall_mem_nil _⟩
  · simpa using hc

theorem scriptSafe_spells (c : Char) : Spells (scriptSafe (escapeChar c)) c := by
  by_cases hc : c ∈ scriptUnsafe
  · have hmarked : ∀ d ∈ scriptUnsafe, Spells (scriptSafe (escapeChar d)) d := by
      simp only [scriptUnsafe, List.forall_mem_cons]
      exact ⟨fun _ _ _ => rfl, fun _ _ _ => rfl, fun _ _ _ => rfl, fun _ _ _ => rfl,
        fun _ _ _ => rfl, List.forall_mem_nil _⟩
    exact hmarked c hc
  · rw [scriptSafe_of_clean (escapeChar_clean hc)]
    exact escapeChar_spells c

theorem scriptSafe_literal (spell : Char → List Char) (s : List Char) :
    scriptSafe (literal spell s) = literal (fun c => scriptSafe (spell c)) s := by
  rw [literal, scriptSafe_append, ← List.singleton_append, scriptSafe_append, scriptSafe_flatMap]
  rfl

theorem scriptSafe_written (spell : Char → List Char) (p : Field) :
    scriptSafe (p.written spell) =
      Field.written (fun c => scriptSafe (spell c)) ⟨p.name, scriptSafe p.text, p.value⟩ := by
  rw [Field.written, scriptSafe_append, scriptSafe_literal]
  rfl

theorem scriptSafe_separated (ss : List (List Char)) :
    scriptSafe (separated ss) = separated (ss.map scriptSafe) := by
  cases ss with
  | nil => rfl
  | cons s ss =>
    rw [separated_cons, scriptSafe_append, scriptSafe_flatMap, List.map_cons, separated_cons,
      List.flatMap_map]
    rfl

theorem parse_of_reads {text : List Char} {v : Json} (h : Reads (value maxDepth) text v) :
    parse (String.ofList text) = .ok v := by
  have hvalue := h []
  rw [List.append_nil] at hvalue
  rw [parse, whole, String.toList_ofList, bind_eq hvalue]
  rfl

end Json

namespace ImportMap

open Json Markup

variable (m : ImportMap)

def fields (spell : Char → List Char) : List Field :=
  m.entries.map (fun p => ⟨p.1, literal spell p.2.toList, .str p.2⟩)

def written (spell : Char → List Char) : List Char :=
  let imports : Field := ⟨"imports",
    '\x7b' :: separated ((m.fields spell).map (Field.written spell)) ++ ['\x7d'],
    .obj ((m.fields spell).map Field.read)⟩
  '\x7b' :: separated ([imports].map (Field.written spell)) ++ ['\x7d']

theorem json_toList : m.json.toList = "\x7b\"imports\":\x7b".toList ++
    separated (m.entries.map (fun p => quoted p.1.toList ++ ':' :: quoted p.2.toList)) ++
    "\x7d\x7d".toList :=
  String.toList_ofList

theorem json_written : m.json.toList = m.written escapeChar := by
  have hopen : "\x7b\"imports\":\x7b".toList =
      '\x7b' :: (literal escapeChar "imports".toList ++ [':', '\x7b']) := by decide +kernel
  have hclose : "\x7d\x7d".toList = ['\x7d', '\x7d'] := by decide +kernel
  have hfields : (m.fields escapeChar).map (Field.written escapeChar) =
      m.entries.map (fun p => quoted p.1.toList ++ ':' :: quoted p.2.toList) := by
    rw [fields, List.map_map]
    rfl
  rw [json_toList, written, hfields]
  generalize separated (m.entries.map (fun p => quoted p.1.toList ++ ':' :: quoted p.2.toList)) = ps
  rw [hopen, hclose]
  simp only [List.map_cons, List.map_nil, separated, Field.written, List.cons_append,
    List.append_assoc, List.nil_append]

theorem scriptSafe_written_fields (spell : Char → List Char) :
    ((m.fields spell).map (Field.written spell)).map scriptSafe =
      (m.fields (fun c => scriptSafe (spell c))).map
        (Field.written (fun c => scriptSafe (spell c))) := by
  simp only [fields, List.map_map]
  refine List.map_congr_left (fun p _ => ?_)
  simp only [Function.comp, scriptSafe_written, scriptSafe_literal]

theorem scriptSafe_braces (s : List Char) :
    scriptSafe ('\x7b' :: s ++ ['\x7d']) = '\x7b' :: scriptSafe s ++ ['\x7d'] := by
  rw [scriptSafe_append]
  rfl

theorem scriptSafe_map (spell : Char → List Char) :
    scriptSafe (m.written spell) = m.written (fun c => scriptSafe (spell c)) := by
  simp only [written, scriptSafe_braces, scriptSafe_separated, List.map_cons, List.map_nil,
    scriptSafe_written, scriptSafe_written_fields]
  rfl

def table : Json := .obj [("imports", .obj (m.entries.map (fun p => (p.1, .str p.2))))]

theorem fields_read (spell : Char → List Char) :
    (m.fields spell).map Field.read = m.entries.map (fun p => (p.1, .str p.2)) := by
  rw [fields, List.map_map]
  rfl

theorem parse_written {spell : Char → List Char} (hspell : ∀ c, Spells (spell c) c) :
    parse (String.ofList (m.written spell)) = .ok m.table := by
  have htargets : ∀ p ∈ m.fields spell, Reads (value 125) p.text p.value := by
    intro p hp
    obtain ⟨q, -, rfl⟩ := List.mem_map.mp hp
    have htarget := reads_literal hspell (some (value 124)) q.2.toList
    rw [String.ofList_toList] at htarget
    exact htarget
  have himports : Reads (value 126)
      ('\x7b' :: separated ((m.fields spell).map (Field.written spell)) ++ ['\x7d'])
      (.obj ((m.fields spell).map Field.read)) := reads_object hspell htargets
  rw [table, ← m.fields_read spell]
  exact parse_of_reads (reads_object hspell (List.forall_mem_singleton.mpr himports))

end ImportMap

namespace Document

open Json Markup

def beforeFirst (mark : List Char) : List Char → Option (List Char)
  | [] => if mark.isEmpty then some [] else none
  | c :: cs =>
      if mark.isPrefixOf (c :: cs) then some [] else (beforeFirst mark cs).map (c :: ·)

theorem beforeFirst_append {x : Char} {mark body : List Char} (h : x ∉ body) (rest : List Char) :
    beforeFirst (x :: mark) (body ++ (x :: mark ++ rest)) = some body := by
  induction body with
  | nil =>
    have hhere : (x :: mark).isPrefixOf (x :: (mark ++ rest)) = true :=
      List.isPrefixOf_iff_prefix.mpr (List.prefix_append (x :: mark) rest)
    rw [List.nil_append, List.cons_append, beforeFirst, if_pos hhere]
  | cons c body ih =>
    obtain ⟨hc, hbody⟩ := not_or.mp (mt List.mem_cons.mpr h)
    have hlater : ¬(x :: mark).isPrefixOf (c :: (body ++ (x :: mark ++ rest))) = true := by
      rw [List.isPrefixOf_iff_prefix, List.cons_prefix_cons]
      exact fun hx => hc hx.1
    rw [List.cons_append, beforeFirst, if_neg hlater, ih hbody]
    rfl

def mapOpening : List Char := "<script type=\"importmap\">".toList

def scriptClosing : List Char := ['<', '/', 's', 'c', 'r', 'i', 'p', 't', '>']

theorem importMapTag_eq (m : ImportMap) :
    importMapTag m = mapOpening ++ (scriptSafe m.json.toList ++ (scriptClosing ++ ['\n'])) := by
  have hclosing : scriptClosing ++ ['\n'] = "</script>\n".toList := by decide +kernel
  rw [hclosing]
  exact List.append_assoc _ _ _

/-- Between the tag that opens the import map and the first tag that closes a script stands nothing
that a page could take for a tag, and a reader of it finds every pair of the map, in its order. -/
theorem assemble_map_reads_back (e : Entry) (resources : List PublishedResource) (m : ImportMap)
    (settings : Settings) (generation : Nat) :
    let placed := (assemble e resources m settings generation).toList.drop
      (mapStart e resources settings)
    mapOpening <+: placed ∧
      ∃ body, beforeFirst scriptClosing (placed.drop mapOpening.length) = some body ∧
        (∀ c ∈ body, c ∉ scriptUnsafe) ∧
        parse (String.ofList body) =
          .ok (.obj [("imports", .obj (m.entries.map (fun p => (p.1, .str p.2))))]) := by
  intro placed
  have hplaced : placed = mapOpening ++ (scriptSafe m.json.toList ++ (scriptClosing ++
      ('\n' :: (shimTag generation ++ (cut (relinked e resources)).2)))) := by
    have hdrop : placed = importMapTag m ++
        (shimTag generation ++ (cut (relinked e resources)).2) := by
      simp only [placed, assemble_toList, injection, mapStart, ← List.length_append,
        List.append_assoc]
      rw [← List.append_assoc, List.drop_left]
    rw [hdrop, importMapTag_eq]
    simp only [List.append_assoc, List.cons_append, List.nil_append]
  have hclean := scriptSafe_clean m.json.toList
  refine ⟨hplaced ▸ List.prefix_append _ _, scriptSafe m.json.toList, ?_, hclean, ?_⟩
  · rw [hplaced, List.drop_left]
    exact beforeFirst_append (fun hmem => hclean '<' hmem (by decide)) _
  · rw [ImportMap.json_written, ImportMap.scriptSafe_map]
    exact ImportMap.parse_written m scriptSafe_spells

end Document

end LivePreview
