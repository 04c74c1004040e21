import LivePreview.Project.Node
import LivePreview.Proofs.Canonical

namespace LivePreview

namespace Json

variable {v v' : Json}

def Exchanged (v v' : Json) (a a' : Option Json) : Prop := a' = a ∨ a = some v ∧ a' = some v'

theorem Exchanged.or {a a' b b' : Option Json} (ha : Exchanged v v' a a')
    (hb : Exchanged v v' b b') : Exchanged v v' (a.or b) (a'.or b') := by
  rcases ha with rfl | ⟨rfl, rfl⟩
  · cases a' with
    | none => exact hb
    | some w => exact .inl rfl
  · exact .inr ⟨rfl, rfl⟩

theorem Exchanged.bind {β : Type} {f : Json → Option β} {a a' : Option Json}
    (ha : Exchanged v v' a a') (hf : f v' = f v) : a'.bind f = a.bind f := by
  rcases ha with rfl | ⟨rfl, rfl⟩
  · rfl
  · exact hf

theorem member_exchanged (ps qs : List (String × Json)) (k : String) (v v' : Json) (name : String) :
    Exchanged v v' (member name (ps ++ (k, v) :: qs)) (member name (ps ++ (k, v') :: qs)) := by
  have hsplit (w : Json) : member name (ps ++ (k, w) :: qs) =
      (member name qs).or ((if k = name then some w else none).or (member name ps)) := by
    rw [List.append_cons, member_append, member_append]
    rfl
  have hhere : Exchanged v v' (if k = name then some v else none)
      (if k = name then some v' else none) := by
    split
    · exact .inr ⟨rfl, rfl⟩
    · exact .inl rfl
  rw [hsplit, hsplit]
  exact .or (.inl rfl) (.or hhere (.inl rfl))

end Json

namespace Node

open Json (member member_exchanged)

inductive IsCanonical : Node → Prop
  | file (name : String) (content : Option String) : IsCanonical ⟨name, .file, content, none⟩
  | directory (name : String) (ns : List Node) (h : ∀ n ∈ ns, IsCanonical n) :
      IsCanonical ⟨name, .directory, none, some ns⟩

variable {v v' : Json} {ps : List (String × Json)}

theorem kindOf_eq (ps : List (String × Json)) : kindOf ps =
    ((((member "type" ps).or (member "kind" ps)).bind Json.text?).bind NodeKind.ofName?).or
      (if (childrenOf ps).isSome then some .directory
        else ((member "content" ps).bind Json.text?).map (fun _ => .file)) := by
  rw [kindOf, childrenOf_eq]
  generalize (member "content" ps).bind Json.text? = text
  generalize member "children" ps = children
  cases member "type" ps
  all_goals
    rw [Option.or]
    generalize Option.bind _ NodeKind.ofName? = said
    cases said with
    | some kind => rfl
    | none =>
      cases children with
      | none => cases text <;> rfl
      | some v => cases v <;> cases text <;> rfl

theorem assemble_eq (ps : List (String × Json)) (children : Option (List Node)) :
    assemble ps children = ((member "name" ps).bind Json.text?).bind (fun name =>
      (kindOf ps).map (fun kind => match kind with
        | .file => ⟨name, .file, (member "content" ps).bind Json.text?, none⟩
        | .directory => ⟨name, .directory, none, some (children.getD [])⟩)) := by
  rw [assemble]
  cases (member "name" ps).bind Json.text? with
  | none => rfl
  | some name =>
    cases kindOf ps with
    | none => rfl
    | some kind => cases kind <;> rfl

theorem assemble_canonical {children : Option (List Node)} {n : Node}
    (hchildren : ∀ ns ∈ children, ∀ c ∈ ns, IsCanonical c) (h : assemble ps children = some n) :
    IsCanonical n := by
  rw [assemble_eq] at h
  obtain ⟨name, -, h⟩ := Option.bind_eq_some_iff.mp h
  obtain ⟨kind, -, rfl⟩ := Option.map_eq_some_iff.mp h
  cases kind with
  | file => exact .file name _
  | directory =>
    refine .directory name _ ?_
    cases children with
    | none => exact nofun
    | some ns => exact hchildren ns rfl

theorem ofEach_eq (vs : List Json) : ofEach vs = vs.filterMap ofJson? := by
  induction vs with
  | nil => rfl
  | cons v vs ih =>
    rw [ofEach, ih, List.filterMap_cons]
    cases ofJson? v <;> rfl

mutual

theorem ofJson?_canonical : ∀ v : Json, ∀ n ∈ ofJson? v, IsCanonical n
  | .obj ps => by
    intro n hn
    rw [ofJson?] at hn
    exact assemble_canonical (childrenOf_canonical ps) hn
  | .null | .bool _ | .int _ | .float _ | .str _ | .arr _ => nofun

theorem ofEach_canonical : ∀ vs : List Json, ∀ n ∈ ofEach vs, IsCanonical n
  | [] => nofun
  | v :: vs => by
    intro n hn
    rw [ofEach_eq, List.filterMap_cons, ← ofEach_eq] at hn
    cases hv : ofJson? v with
    | none =>
      rw [hv] at hn
      exact ofEach_canonical vs n hn
    | some n' =>
      rw [hv] at hn
      rcases List.mem_cons.mp hn with rfl | hn
      · exact ofJson?_canonical v n hv
      · exact ofEach_canonical vs n hn

theorem childrenOf_canonical : ∀ ps : List (String × Json),
    ∀ ns ∈ childrenOf ps, ∀ n ∈ ns, IsCanonical n
  | [] => nofun
  | (k, v) :: ps => by
    intro ns hns
    rw [childrenOf] at hns
    split at hns
    · exact childrenOf_canonical ps ns hns
    · split at hns
      · exact listOf_canonical v ns hns
      · cases hns

theorem listOf_canonical : ∀ v : Json, ∀ ns ∈ listOf v, ∀ n ∈ ns, IsCanonical n
  | .arr vs => by
    intro ns hns
    obtain rfl := Option.some.inj hns
    exact ofEach_canonical vs
  | .obj _ | .null | .bool _ | .int _ | .float _ | .str _ => nofun

end

theorem readTree_canonical (v : Json) : ∀ n ∈ readTree v, IsCanonical n := by
  intro n hn
  cases v with
  | arr vs => exact ofEach_canonical vs n hn
  | obj ps => exact ofJson?_canonical (.obj ps) n (Option.mem_toList.mp hn)
  | _ => cases hn

theorem ofName?_label (kind : NodeKind) : NodeKind.ofName? kind.label = some kind := by
  cases kind <;> rfl

theorem toJson_members (name : String) (kind : NodeKind) (content : Option String)
    (children : Option (List Node)) : ∃ ps, toJson ⟨name, kind, content, children⟩ = .obj ps ∧
      member "name" ps = some (.str name) ∧ member "type" ps = some (.str kind.label) ∧
      member "content" ps = content.map .str ∧
      member "children" ps = children.map (fun ns => .arr (toJsonEach ns)) := by
  refine ⟨_, toJson.eq_1 .., ?_⟩
  cases content <;> cases children <;> simp [childrenMember, member]

mutual

theorem ofJson?_toJson : ∀ n : Node, ofJson? n.toJson = some n.canonical
  | ⟨name, kind, content, children⟩ => by
    obtain ⟨ps, hps, hname, hkind, hcontent, hchildren⟩ :=
      toJson_members name kind content children
    have htext : (content.map Json.str).bind Json.text? = content := by cases content <;> rfl
    rw [hps, ofJson?, assemble_eq, kindOf_eq, childrenOf_eq, hname, hkind, hcontent, hchildren,
      htext, listOf_children children, Option.some_or, Option.bind_some, Option.bind_some,
      Json.text?, Json.text?, Option.bind_some, Option.bind_some, ofName?_label, Option.some_or]
    cases kind with
    | file => rfl
    | directory =>
      rw [canonical, canonicalChildren_eq]
      rfl

theorem listOf_children : ∀ children : Option (List Node),
    (children.map (fun ns => Json.arr (toJsonEach ns))).bind listOf = children.map canonicalEach
  | none => rfl
  | some ns => congrArg some (ofEach_toJsonEach ns)

theorem ofEach_toJsonEach : ∀ ns : List Node, ofEach (toJsonEach ns) = canonicalEach ns
  | [] => rfl
  | n :: ns => by
    rw [toJsonEach, ofEach, ofJson?_toJson n, ofEach_toJsonEach ns, canonicalEach]

end

theorem canonicalEach_eq_self {ns : List Node} (h : ∀ n ∈ ns, n.canonical = n) :
    canonicalEach ns = ns := by
  induction ns with
  | nil => rfl
  | cons n ns ih =>
    obtain ⟨hn, hns⟩ := List.forall_mem_cons.mp h
    rw [canonicalEach, hn, ih hns]

theorem IsCanonical.canonical_eq {n : Node} (h : IsCanonical n) : n.canonical = n := by
  induction h with
  | file name content => rfl
  | directory name ns h ih => rw [canonical, canonicalChildren, canonicalEach_eq_self ih]

/-- An array of the value gets an element that is no node, at any depth. -/
inductive Damaged : Json → Json → Prop
  | here (before after : List Json) (bad : Json) (h : ofJson? bad = none) :
      Damaged (.arr (before ++ after)) (.arr (before ++ bad :: after))
  | element (before after : List Json) (v v' : Json) (h : Damaged v v') :
      Damaged (.arr (before ++ v :: after)) (.arr (before ++ v' :: after))
  | member (before after : List (String × Json)) (k : String) (v v' : Json) (h : Damaged v v') :
      Damaged (.obj (before ++ (k, v) :: after)) (.obj (before ++ (k, v') :: after))

structure Alike (v v' : Json) : Prop where
  node : ofJson? v' = ofJson? v
  list : listOf v' = listOf v
  text : v'.text? = v.text?

theorem Damaged.alike (h : Damaged v v') : Alike v v' := by
  induction h with
  | here before after bad h =>
    refine ⟨rfl, congrArg some ?_, rfl⟩
    simp [ofEach_eq, h]
  | element before after v v' h ih =>
    refine ⟨rfl, congrArg some ?_, rfl⟩
    rw [ofEach_eq, ofEach_eq, List.filterMap_append, List.filterMap_append, List.filterMap_cons,
      List.filterMap_cons, ih.node]
  | member before after k v v' h ih =>
    refine ⟨?_, rfl, rfl⟩
    have hmember := member_exchanged before after k v v'
    have hname := (hmember "name").bind ih.text
    have hcontent := (hmember "content").bind ih.text
    have hkind := ((hmember "type").or (hmember "kind")).bind ih.text
    have hchildren := (hmember "children").bind ih.list
    rw [ofJson?, ofJson?, assemble_eq, assemble_eq, kindOf_eq, kindOf_eq, childrenOf_eq,
      childrenOf_eq, hname, hcontent, hkind, hchildren]

theorem Damaged.readTree_eq (h : Damaged v v') : readTree v' = readTree v := by
  have halike := h.alike
  cases h with
  | here => exact Option.some.inj halike.list
  | element => exact Option.some.inj halike.list
  | member => exact congrArg Option.toList halike.node

/-- What is read is canonical and reads the same when it is written and read again, and damage goes
no further than itself. -/
theorem readTree_isolates (v : Json) :
    (∀ n ∈ readTree v, IsCanonical n) ∧
      readTree (.arr (toJsonEach (readTree v))) = readTree v ∧
      ∀ v', Damaged v v' → readTree v' = readTree v := by
  have hcanonical := readTree_canonical v
  refine ⟨hcanonical, ?_, fun v' h => h.readTree_eq⟩
  exact (ofEach_toJsonEach _).trans
    (canonicalEach_eq_self (fun n hn => (hcanonical n hn).canonical_eq))

theorem readTree_isolates_nameless :
    let file : Json := .obj [("name", .str "a.ts"), ("content", .str "1"), ("children", .null)]
    let bad : Json := .obj [("type", .str "file"), ("content", .str "2")]
    let root (vs : List Json) : Json :=
      .arr [.str "garbage", .obj [("children", .arr vs), ("name", .str "src"), ("kind", .int 0)]]
    Damaged (root [file]) (root [file, bad]) ∧
      readTree (root [file, bad]) = readTree (root [file]) ∧
      (flatten (readTree (root [file, bad]))).entries = [("src/a.ts", "1")] := by
  intro file bad root
  have hbad : ofJson? bad = none := rfl
  have hdamaged : Damaged (root [file]) (root [file, bad]) :=
    .element [_] [] _ _ (.member [] _ "children" _ _ (.here [file] [] bad hbad))
  obtain ⟨-, -, hsame⟩ := readTree_isolates (root [file])
  exact ⟨hdamaged, hsame _ hdamaged, by decide +kernel⟩

end Node

end LivePreview
