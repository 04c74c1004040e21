import LivePreview.Proofs.Joining
import LivePreview.Proofs.Table
import LivePreview.Proofs.Trimming

namespace LivePreview

namespace Path

open Text

instance : DecidablePred IsName :=
  fun s => inferInstanceAs (Decidable (s ≠ [] ∧ s ≠ ['.'] ∧ s ≠ up ∧ '/' ∉ s))

structure Tidy (p : String) : Prop where
  front : '/' ∉ p.toList.head?
  back : '/' ∉ p.toList.getLast?
  single : ¬['/', '/'] <:+: p.toList
  names : ∀ s ∈ splitAll '/' p.toList, IsName s

variable {p : String}

theorem Plain.around (hp : Plain p) {before after : List Char}
    (h : p.toList = before ++ '/' :: after) : before ≠ [] ∧ after ≠ [] ∧ '/' ∉ after.head? := by
  have hsegments : ∀ s ∈ splitAll '/' before ++ splitAll '/' after, Node.usable s = true := by
    rw [← splitAll_append, ← h]
    exact hp
  have hempty : [] ∉ splitAll '/' before ++ splitAll '/' after :=
    fun hmem => by cases hsegments [] hmem
  refine ⟨?_, ?_, ?_⟩
  · rintro rfl
    exact hempty (List.mem_append_left _ List.mem_cons_self)
  · rintro rfl
    exact hempty (List.mem_append_right _ List.mem_cons_self)
  · intro hafter
    obtain ⟨rest, rfl⟩ := List.head?_eq_some_iff.mp hafter
    rw [splitAll_cons_sep] at hempty
    exact hempty (List.mem_append_right _ List.mem_cons_self)

theorem Plain.tidy (hp : Plain p) : Tidy p where
  front h := by
    obtain ⟨rest, hrest⟩ := List.head?_eq_some_iff.mp h
    have hslash : p.toList = [] ++ '/' :: rest := hrest
    exact (hp.around hslash).1 rfl
  back h := by
    obtain ⟨rest, hrest⟩ := List.getLast?_eq_some_iff.mp h
    exact (hp.around hrest).2.1 rfl
  single := by
    rintro ⟨before, after, h⟩
    have hslash : p.toList = before ++ '/' :: '/' :: after := by simp [← h]
    exact (hp.around hslash).2.2 rfl
  names := hp.isName

end Path

namespace Node

open Text LivePreview.Path

structure Leaf where
  folders : List String
  name : String
  text : String

def Leaf.inside (folder : String) (f : Leaf) : Leaf := { f with folders := folder :: f.folders }

mutual

def leaves : Node → List Leaf
  | ⟨name, .file, content, _⟩ => [⟨[], name, content.getD ""⟩]
  | ⟨name, .directory, _, children⟩ => (leavesOfChildren children).map (Leaf.inside name)

def leavesOfChildren : Option (List Node) → List Leaf
  | none => []
  | some ns => leavesOfEach ns

def leavesOfEach : List Node → List Leaf
  | [] => []
  | n :: ns => leaves n ++ leavesOfEach ns

end

def Named (name : String) : Prop :=
  trimSlashes name ≠ [] ∧ ∀ s ∈ splitAll '/' (trimSlashes name), IsName s

instance : DecidablePred Named := fun _ => inferInstanceAs (Decidable (_ ∧ _))

def Leaf.Named (f : Leaf) : Prop := ∀ name ∈ f.folders ++ [f.name], Node.Named name

instance : DecidablePred Leaf.Named := fun _ => inferInstanceAs (Decidable (∀ _ ∈ _, _))

def Leaf.path (f : Leaf) : String :=
  String.ofList (joinWith ['/'] ((f.folders ++ [f.name]).map trimSlashes))

def listed (fs : List Leaf) : List (String × String) :=
  (fs.filter Leaf.Named).map (fun f => (f.path, f.text))

variable {name n p q parent : String}

theorem named_iff : Named name ↔ (splitAll '/' (trimSlashes name)).all usable = true := by
  have husable : (splitAll '/' (trimSlashes name)).all usable = true ↔
      ∀ s ∈ splitAll '/' (trimSlashes name), IsName s := by
    rw [List.all_eq_true]
    exact forall₂_congr (fun s hs => (isName_iff_usable (not_mem_of_mem_splitAll hs)).symm)
  rw [Named, husable, and_iff_right_iff_imp]
  intro h hnil
  rw [hnil] at h
  exact (h [] List.mem_cons_self).1 rfl

theorem pathName?_eq (name : String) :
    pathName? name = if Named name then some (String.ofList (trimSlashes name)) else none := by
  rw [pathName?]
  simp only [named_iff]

theorem named_inside {f : Leaf} : (f.inside name).Named ↔ Named name ∧ f.Named := by
  simp [Leaf.Named, Leaf.inside]

theorem trimmed_ne (h : Named name) : String.ofList (trimSlashes name) ≠ "" :=
  fun he => h.1 (String.ofList_injective he)

theorem under_ne (hp : p ≠ "") : under p q = p ++ "/" ++ q := if_neg (by simpa using hp)

theorem under_under (hn : n ≠ "") : under (under p n) q = under p (under n q) := by
  by_cases hp : p = ""
  · subst hp
    rfl
  · have hpn : under p n ≠ "" := by simp [under_ne hp, hp]
    rw [under_ne hpn, under_ne hp, under_ne hp, under_ne hn]
    simp only [String.append_assoc]

theorem path_inside (h : Named name) (f : Leaf) :
    (f.inside name).path = under (String.ofList (trimSlashes name)) f.path := by
  have hnames : (f.folders ++ [f.name]).map trimSlashes ≠ [] := by simp
  rw [under_ne (trimmed_ne h), Leaf.path, Leaf.inside, List.cons_append, List.map_cons,
    joinWith_cons hnames, String.ofList_append, String.ofList_append, Leaf.path]

theorem listed_inside (name : String) (fs : List Leaf) :
    listed (fs.map (Leaf.inside name)) =
      if Named name then
        (listed fs).map (fun e => (under (String.ofList (trimSlashes name)) e.1, e.2))
      else [] := by
  by_cases h : Named name
  · have hnamed (f : Leaf) : (f.inside name).Named ↔ f.Named := named_inside.trans (and_iff_right h)
    rw [if_pos h]
    simp only [listed, List.filter_map, List.map_map, Function.comp_def, hnamed, path_inside h]
    rfl
  · rw [if_neg h, listed, List.map_eq_nil_iff, List.filter_eq_nil_iff]
    intro f hf
    obtain ⟨f, -, rfl⟩ := List.mem_map.mp hf
    simp [named_inside, h]

mutual

theorem filesOf_eq (parent : String) : ∀ n : Node,
    filesOf parent n = (listed (leaves n)).map (fun e => (under parent e.1, e.2))
  | ⟨name, .file, content, children⟩ => by
    rw [filesOf, pathName?_eq, leaves]
    by_cases h : Named name
    · rw [if_pos h]
      simp [listed, Leaf.Named, Leaf.path, joinWith, h]
    · rw [if_neg h]
      simp [listed, Leaf.Named, h]
  | ⟨name, .directory, content, children⟩ => by
    rw [filesOf, pathName?_eq, leaves, listed_inside]
    by_cases h : Named name
    · rw [if_pos h, if_pos h, List.map_map]
      dsimp only
      rw [filesOfChildren_eq]
      exact List.map_congr_left (fun e _ => by rw [under_under (trimmed_ne h)]; rfl)
    · rw [if_neg h, if_neg h]
      rfl

theorem filesOfChildren_eq (parent : String) : ∀ children : Option (List Node),
    filesOfChildren parent children =
      (listed (leavesOfChildren children)).map (fun e => (under parent e.1, e.2))
  | none => rfl
  | some ns => filesOfEach_eq parent ns

theorem filesOfEach_eq (parent : String) : ∀ ns : List Node,
    filesOfEach parent ns =
      (listed (leavesOfEach ns)).map (fun e => (under parent e.1, e.2))
  | [] => rfl
  | n :: ns => by
    rw [filesOfEach, filesOf_eq parent n, filesOfEach_eq parent ns]
    simp [leavesOfEach, listed]

end

theorem under_start (p : String) : under "" p = p := rfl

theorem flatten_eq_ofList (project : List Node) :
    flatten project = Table.ofList (listed (leavesOfEach project)) := by
  rw [flatten, filesOfEach_eq]
  simp only [under_start]
  exact congrArg Table.ofList (List.map_id _)

def ofFiles (files : FileTable) : List Node :=
  files.entries.map (fun e => ⟨e.1, .file, some e.2, none⟩)

theorem trimSlashes_eq_self (hfront : '/' ∉ p.toList.head?) (hback : '/' ∉ p.toList.getLast?) :
    trimSlashes p = p.toList := by
  refine trimBoth_eq_self (fun c hc => ?_) (fun c hc => ?_)
  · exact beq_eq_false_iff_ne.mpr (fun he => hfront (he ▸ hc))
  · exact beq_eq_false_iff_ne.mpr (fun he => hback (he ▸ hc))

theorem pathName?_of_plain (hp : Plain p) : pathName? p = some p := by
  have hall : (splitAll '/' p.toList).all usable = true := List.all_eq_true.mpr hp
  rw [pathName?, trimSlashes_eq_self hp.tidy.front hp.tidy.back, if_pos hall, String.ofList_toList]

theorem filesOfEach_ofFiles {es : List (String × String)} (h : ∀ e ∈ es, Plain e.1) :
    filesOfEach "" (es.map (fun e => ⟨e.1, .file, some e.2, none⟩)) = es := by
  induction es with
  | nil => rfl
  | cons e es ih =>
    obtain ⟨he, hes⟩ := List.forall_mem_cons.mp h
    rw [List.map_cons, filesOfEach, filesOf, pathName?_of_plain he, ih hes]
    rfl

theorem flatten_ofFiles (project : List Node) :
    flatten (ofFiles (flatten project)) = flatten project := by
  have hplain : ∀ e ∈ (flatten project).entries, Plain e.1 :=
    fun e he => flatten_plain project e.1 (List.mem_map_of_mem he)
  rw [flatten, ofFiles, filesOfEach_ofFiles hplain]
  exact Table.ofList_entries (Table.ofList_nodup _)

/-- One directory that is named by two segments, somewhere in a tree, becomes two nested ones. -/
inductive Nested (a b : String) : List Node → List Node → Prop
  | here (before after : List Node) (content content' content'' : Option String)
      (children : Option (List Node)) :
      Nested a b (before ++ ⟨a ++ "/" ++ b, .directory, content, children⟩ :: after)
        (before ++ ⟨a, .directory, content', some [⟨b, .directory, content'', children⟩]⟩ :: after)
  | inside (before after : List Node) (name : String) (kind : NodeKind) (content : Option String)
      (ns ns' : List Node) (h : Nested a b ns ns') :
      Nested a b (before ++ ⟨name, kind, content, some ns⟩ :: after)
        (before ++ ⟨name, kind, content, some ns'⟩ :: after)

def Single (name : String) : Prop := name ≠ "" ∧ '/' ∉ name.toList

variable {a b : String} {ns ns' : List Node}

theorem Single.trimmed (h : Single a) : trimSlashes a = a.toList :=
  trimSlashes_eq_self (fun hc => h.2 (List.mem_of_mem_head? hc))
    (fun hc => h.2 (List.mem_of_mem_getLast? hc))

theorem Single.toList_ne (h : Single a) : a.toList ≠ [] := by simpa using h.1

theorem joined_toList : (a ++ "/" ++ b).toList = a.toList ++ '/' :: b.toList := by
  simp [String.toList_append]

theorem joined_trimmed (ha : Single a) (hb : Single b) :
    trimSlashes (a ++ "/" ++ b) = a.toList ++ '/' :: b.toList := by
  rw [trimSlashes_eq_self, joined_toList]
  · rw [joined_toList, List.head?_append_of_ne_nil _ ha.toList_ne]
    exact fun hc => ha.2 (List.mem_of_mem_head? hc)
  · rw [joined_toList, List.append_cons, List.getLast?_append_of_ne_nil _ hb.toList_ne]
    exact fun hc => hb.2 (List.mem_of_mem_getLast? hc)

theorem named_joined (ha : Single a) (hb : Single b) :
    Named (a ++ "/" ++ b) ↔ Named a ∧ Named b := by
  rw [named_iff, named_iff, named_iff, joined_trimmed ha hb, ha.trimmed, hb.trimmed, splitAll_append,
    List.all_append, Bool.and_eq_true]

theorem filesOf_nested (ha : Single a) (hb : Single b) (parent : String)
    (content content' content'' : Option String) (children : Option (List Node)) :
    filesOf parent ⟨a, .directory, content', some [⟨b, .directory, content'', children⟩]⟩ =
      filesOf parent ⟨a ++ "/" ++ b, .directory, content, children⟩ := by
  simp only [filesOf, filesOfChildren, filesOfEach, List.append_nil, pathName?_eq,
    named_joined ha hb]
  by_cases hna : Named a
  · by_cases hnb : Named b
    · have hplace : under (under parent a) b = under parent (a ++ "/" ++ b) := by
        rw [under_under ha.1, under_ne ha.1]
      rw [if_pos hna, if_pos hnb, if_pos ⟨hna, hnb⟩, ha.trimmed, hb.trimmed, joined_trimmed ha hb,
        ← joined_toList, String.ofList_toList, String.ofList_toList, String.ofList_toList]
      dsimp only
      rw [hplace]
    · simp [hna, hnb]
  · simp [hna]

theorem filesOfEach_append (parent : String) (ns ns' : List Node) :
    filesOfEach parent (ns ++ ns') = filesOfEach parent ns ++ filesOfEach parent ns' := by
  induction ns with
  | nil => rfl
  | cons n ns ih => rw [List.cons_append, filesOfEach, filesOfEach, ih, List.append_assoc]

theorem Nested.filesOfEach (ha : Single a) (hb : Single b) (h : Nested a b ns ns') (parent : String) :
    filesOfEach parent ns' = filesOfEach parent ns := by
  induction h generalizing parent with
  | here before after content content' content'' children =>
    rw [filesOfEach_append, filesOfEach_append, Node.filesOfEach, Node.filesOfEach,
      filesOf_nested ha hb]
  | inside before after name kind content ns ns' h ih =>
    have hnode : filesOf parent ⟨name, kind, content, some ns'⟩ =
        filesOf parent ⟨name, kind, content, some ns⟩ := by
      rw [filesOf, filesOf]
      simp only [filesOfChildren, ih]
    rw [filesOfEach_append, filesOfEach_append, Node.filesOfEach, Node.filesOfEach, hnode]

/-- Flattening puts the files into one table, each in its turn under its trimmed names, when all of
them can stand in a path: the first time decides on the place, the last on the text. Neither the
files given by their paths nor a directory spelled as two lead to another table. -/
theorem flatten_lists (project : List Node) :
    let files := listed (leavesOfEach project)
    flatten project = Table.ofList files ∧
      (flatten project).keys = (files.map Prod.fst).eraseDups ∧
      (∀ path, (flatten project).get? path =
        (files.reverse.find? (fun e => e.1 = path)).map Prod.snd) ∧
      (∀ path ∈ (flatten project).keys, Tidy path) ∧
      flatten (ofFiles (flatten project)) = flatten project ∧
      ∀ a b project', Single a → Single b → Nested a b project project' →
        flatten project' = flatten project := by
  intro files
  have hfiles : flatten project = Table.ofList files := flatten_eq_ofList project
  refine ⟨hfiles, ?_, fun path => ?_, fun path hpath => ?_, flatten_ofFiles project, ?_⟩
  · rw [hfiles, Table.keys_ofList]
  · rw [hfiles, Table.get?_ofList]
  · exact (flatten_plain project path hpath).tidy
  · intro a b project' ha hb h
    rw [flatten, flatten, h.filesOfEach ha hb]

theorem flatten_lists_spellings :
    let project : List Node :=
      [⟨"src", .directory, none, some [⟨"lib/utils", .directory, none, some
          [⟨"fmt.js", .file, some "1", none⟩, ⟨"..", .directory, none, some
            [⟨"up.js", .file, some "2", none⟩]⟩]⟩]⟩,
        ⟨"a.css", .file, none, none⟩, ⟨"/src/lib/utils/fmt.js/", .file, some "3", none⟩]
    (flatten project).entries = [("src/lib/utils/fmt.js", "3"), ("a.css", "")] ∧
      Single "lib" ∧ Single "utils" ∧ ∃ project', Nested "lib" "utils" project project' ∧
        flatten project' = flatten project := by
  intro project
  have hlib : Single "lib" := ⟨by decide, by decide⟩
  have hutils : Single "utils" := ⟨by decide, by decide⟩
  have hnested := Nested.inside (a := "lib") (b := "utils") [] (project.drop 1) "src" .directory none
    _ _ (.here [] [] none none none (some
      [⟨"fmt.js", .file, some "1", none⟩, ⟨"..", .directory, none, some
        [⟨"up.js", .file, some "2", none⟩]⟩]))
  obtain ⟨-, -, -, -, -, hspelled⟩ := flatten_lists project
  exact ⟨by decide +kernel, hlib, hutils, _, hnested, hspelled "lib" "utils" _ hlib hutils hnested⟩

end Node

end LivePreview
