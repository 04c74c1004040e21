import LivePreview.Proofs.Canonical
import LivePreview.Proofs.Skipping

namespace LivePreview

namespace Json

variable {s t u r : List Char} {depth : Nat} {v : Json}

theorem ok_unique {α : Type} {x : Reader α} {a b : α} (h : x s = .ok (a, t))
    (h' : x s = .ok (b, r)) : a = b ∧ t = r := by
  rw [h] at h'
  cases h'
  exact ⟨rfl, rfl⟩

theorem value_space (depth : Nat) (s : List Char) :
    value depth s = value depth (s.dropWhile isSpace) := by
  cases depth <;> exact bind_congr (skipSpace_again s) _

theorem value_null (hs : s.dropWhile isSpace = 'n' :: u) (h : value depth s = .ok (v, r)) :
    v = .null ∧ keyword ['u', 'l', 'l'] u = .ok ((), r) := by
  rw [value_space, hs] at h
  have hrest : (keyword ['u', 'l', 'l'] >>= fun _ => pure Json.null) u = .ok (v, r) := by
    cases depth <;> exact h
  obtain ⟨⟨⟩, t, hk, hrest⟩ := bind_ok hrest
  obtain ⟨rfl, rfl⟩ := pure_ok hrest
  exact ⟨rfl, hk⟩

theorem value_string (hs : s.dropWhile isSpace = '\x22' :: u) (h : value depth s = .ok (v, r)) :
    ∃ x, v = .str x ∧ string u = .ok (x, r) := by
  rw [value_space, hs] at h
  have hrest : (string >>= fun x => pure (Json.str x)) u = .ok (v, r) := by
    cases depth <;> exact h
  obtain ⟨x, t, hx, hrest⟩ := bind_ok hrest
  obtain ⟨rfl, rfl⟩ := pure_ok hrest
  exact ⟨x, rfl, hx⟩

theorem value_array (hs : s.dropWhile isSpace = '[' :: u) (h : value depth s = .ok (v, r)) :
    ∃ inner xs t, v = .arr xs ∧ elements (value inner) (u.length + 1) true u = .ok (xs, t) ∧
      listEnd t = .ok ((), r) := by
  rw [value_space, hs] at h
  cases depth with
  | zero => cases h
  | succ inner =>
    have hrest : ((fun s => elements (value inner) (s.length + 1) true s) >>= fun xs =>
      listEnd >>= fun _ => pure (Json.arr xs)) u = .ok (v, r) := h
    obtain ⟨xs, t, hxs, hrest⟩ := bind_ok hrest
    obtain ⟨⟨⟩, t', hend, hrest⟩ := bind_ok hrest
    obtain ⟨rfl, rfl⟩ := pure_ok hrest
    exact ⟨inner, xs, t, rfl, hxs, hend⟩

theorem value_object (hs : s.dropWhile isSpace = '\x7b' :: u) (h : value depth s = .ok (v, r)) :
    ∃ inner ps t, v = .obj ps ∧ members (value inner) (u.length + 1) true u = .ok (ps, t) ∧
      objectEnd t = .ok ((), r) := by
  rw [value_space, hs] at h
  cases depth with
  | zero => cases h
  | succ inner =>
    have hrest : ((fun s => members (value inner) (s.length + 1) true s) >>= fun ps =>
      objectEnd >>= fun _ => pure (Json.obj ps)) u = .ok (v, r) := h
    obtain ⟨ps, t, hps, hrest⟩ := bind_ok hrest
    obtain ⟨⟨⟩, t', hend, hrest⟩ := bind_ok hrest
    obtain ⟨rfl, rfl⟩ := pure_ok hrest
    exact ⟨inner, ps, t, rfl, hps, hend⟩

end Json

namespace Node

open Json

variable {α : Type} {s t u r : List Char} {depth : Nat} {v : Json}

theorem mismatch_ne_ok {expected : String} {x : α × List Char} : mismatch expected s ≠ .ok x := by
  intro h
  rw [mismatch] at h
  obtain ⟨a, t, -, h⟩ := bind_ok h
  split at h
  · cases h
  · cases h
  · obtain ⟨found, t', -, h⟩ := bind_ok h
    cases h

theorem failClosing_ne_ok {close : Reader Unit} {f : Fault} {x : α × List Char} :
    (failClosing close f : Reader α) s ≠ .ok x := by
  rw [failClosing]
  split <;> exact nofun

theorem text_ok {expected x : String} (h : text expected s = .ok (x, t)) :
    ∃ u, s.dropWhile isSpace = '\x22' :: u ∧ string u = .ok (x, t) := by
  rw [text] at h
  obtain ⟨a, t', ha, h⟩ := bind_ok h
  split at h
  · cases h
  · obtain ⟨u, rfl, hu⟩ := skipSpace_some ha
    rw [drop1_bind] at h
    exact ⟨u, hu, h⟩
  · exact absurd h mismatch_ne_ok

theorem text_agrees {expected x : String} (hv : value depth s = .ok (v, r))
    (h : text expected s = .ok (x, t)) : t = r ∧ v = .str x := by
  obtain ⟨u, hs, hx⟩ := text_ok h
  obtain ⟨y, rfl, hy⟩ := value_string hs hv
  obtain ⟨rfl, rfl⟩ := ok_unique hx hy
  exact ⟨rfl, rfl⟩

theorem kindNamed_ok {name : String} {kind : NodeKind} (h : kindNamed name s = .ok (kind, t)) :
    NodeKind.ofName? name = some kind ∧ t = s := by
  rw [kindNamed] at h
  cases hn : NodeKind.ofName? name with
  | none =>
    rw [hn] at h
    cases h
  | some kind' =>
    rw [hn] at h
    obtain ⟨rfl, rfl⟩ := pure_ok h
    exact ⟨rfl, rfl⟩

theorem readKind_agrees {deeper : Bool} {kind : NodeKind} (hv : value depth s = .ok (v, r))
    (htag : v.text?.isSome = true) (h : readKind deeper s = .ok (kind, t)) :
    t = r ∧ ∃ tag, v = .str tag ∧ NodeKind.ofName? tag = some kind := by
  rw [readKind] at h
  obtain ⟨a, t', ha, h⟩ := bind_ok h
  split at h
  · cases h
  · obtain ⟨name, u, hname, h⟩ := bind_ok h
    obtain ⟨hkind, rfl⟩ := kindNamed_ok h
    rw [value_space, ← (skipSpace_ok ha).1] at hv
    obtain ⟨rfl, rfl⟩ := text_agrees hv hname
    exact ⟨rfl, name, rfl, hkind⟩
  · obtain ⟨u, rfl, hu⟩ := skipSpace_some ha
    obtain ⟨inner, ps, t, rfl, -, -⟩ := value_object hu hv
    cases htag
  · cases h

theorem optional_agrees {x : Reader α} {o : Option α} (hv : value depth s = .ok (v, r))
    (h : optional x s = .ok (o, t)) :
    (t = r ∧ v = .null ∧ o = none) ∨
      ∃ a, o = some a ∧ value depth (s.dropWhile isSpace) = .ok (v, r) ∧
        x (s.dropWhile isSpace) = .ok (a, t) := by
  rw [optional] at h
  obtain ⟨a, t', ha, h⟩ := bind_ok h
  split at h
  · obtain ⟨u, rfl, hu⟩ := skipSpace_some ha
    obtain ⟨rfl, hk⟩ := value_null hu hv
    rw [drop1_bind] at h
    obtain ⟨⟨⟩, t'', hk', h⟩ := bind_ok h
    obtain ⟨rfl, rfl⟩ := pure_ok h
    exact .inl ⟨(ok_unique hk' hk).2, rfl, rfl⟩
  · obtain ⟨b, t'', hb, h⟩ := bind_ok h
    obtain ⟨rfl, rfl⟩ := pure_ok h
    rw [(skipSpace_ok ha).1] at hb
    exact .inr ⟨b, rfl, value_space depth s ▸ hv, hb⟩

theorem once_ok {β : Type} {name : String} {seen : Option α} {x : Reader β} {b : β}
    (hcolon : colon s = .ok ((), u)) (h : once name seen x s = .ok (b, t)) :
    seen = none ∧ x u = .ok (b, t) := by
  rw [once] at h
  split at h
  · exact absurd h failClosing_ne_ok
  · rename_i hseen
    rw [bind_eq hcolon] at h
    exact ⟨Option.not_isSome_iff_eq_none.mp hseen, h⟩

theorem finish_ok {d : Draft} {n : Node} (h : d.finish s = .ok (n, t)) :
    ∃ name kind, d.name = some name ∧ d.kind = some kind ∧ objectEnd s = .ok ((), t) ∧
      n = ⟨name, kind, d.content.getD none, d.children.getD none⟩ := by
  obtain ⟨name, kind, content, children⟩ := d
  cases name with
  | none => exact absurd h failClosing_ne_ok
  | some name =>
    cases kind with
    | none => exact absurd h failClosing_ne_ok
    | some kind =>
      rw [Draft.finish] at h
      obtain ⟨⟨⟩, t', hend, h⟩ := bind_ok h
      obtain ⟨rfl, rfl⟩ := pure_ok h
      exact ⟨name, kind, rfl, rfl, hend, rfl⟩

theorem taggedMembers_cons {k : String} {ps : List (String × Json)}
    (h : taggedMembers ((k, v) :: ps) = true) :
    ((k = "type" ∨ k = "kind") → v.text?.isSome = true) ∧
      (k = "children" → taggedList v = true) ∧ taggedMembers ps = true := by
  rw [taggedMembers, Bool.and_eq_true] at h
  refine ⟨fun hk => ?_, fun hk => ?_, h.2⟩
  · rw [if_pos hk] at h
    exact h.1
  · subst hk
    exact h.1

structure NodesAgree (x : Reader Node) : Prop where
  agree : ∀ {depth s v r n t}, value depth s = .ok (v, r) → x s = .ok (n, t) → tagged v = true →
    t = r ∧ ofJson? v = some (canonical n)

structure ListsAgree (x : Reader (List Node)) : Prop where
  agree : ∀ {depth s v r ns t}, value depth s = .ok (v, r) → x s = .ok (ns, t) →
    taggedList v = true → t = r ∧ listOf v = some (canonicalEach ns)

theorem content_agrees {expected : String} {content : Option String}
    (hv : value depth s = .ok (v, r)) (h : optional (text expected) s = .ok (content, t)) :
    t = r ∧ v.text? = content := by
  rcases optional_agrees hv h with ⟨rfl, rfl, rfl⟩ | ⟨x, rfl, hv, hx⟩
  · exact ⟨rfl, rfl⟩
  · obtain ⟨rfl, rfl⟩ := text_agrees hv hx
    exact ⟨rfl, rfl⟩

theorem children_agree {children : Reader (List Node)} (hchildren : ListsAgree children)
    {ns : Option (List Node)} (hv : value depth s = .ok (v, r))
    (h : optional children s = .ok (ns, t)) (htagged : taggedList v = true) :
    t = r ∧ listOf v = ns.map canonicalEach := by
  rcases optional_agrees hv h with ⟨rfl, rfl, rfl⟩ | ⟨ns, rfl, hv, hns⟩
  · exact ⟨rfl, rfl⟩
  · exact hchildren.agree hv hns htagged

theorem fields_agree {children : Reader (List Node)} (hchildren : ListsAgree children) {deeper : Bool}
    {fuel : Nat} {first : Bool} {d : Draft} {n : Node} {seen ps : List (String × Json)}
    (hv : members (value depth) fuel first s = .ok (ps, u)) (hend : objectEnd u = .ok ((), r))
    (h : fields deeper children fuel first d s = .ok (n, t)) (hd : Drafted d seen)
    (htagged : taggedMembers ps = true) :
    t = r ∧ assemble (seen ++ ps) (childrenOf (seen ++ ps)) = some (canonical n) := by
  -- Both readers take the members one by one, with the same fuel; the draft holds those already seen.
  induction fuel generalizing s first d seen ps with
  | zero => cases hv
  | succ fuel ih =>
    rw [members] at hv
    rw [fields.eq_def] at h
    obtain ⟨more, s₁, hmore, hv⟩ := bind_ok hv
    dsimp only at h
    rw [bind_eq hmore] at h
    split at hv
    · rename_i hm
      rw [if_pos hm, drop1_bind] at h
      rw [drop1_bind] at hv
      obtain ⟨k, s₂, hk, hv⟩ := bind_ok hv
      obtain ⟨⟨⟩, s₃, hcolon, hv⟩ := bind_ok hv
      obtain ⟨v, s₄, hvalue, hv⟩ := bind_ok hv
      obtain ⟨ps, s₅, hps, hv⟩ := bind_ok hv
      obtain ⟨rfl, rfl⟩ := pure_ok hv
      obtain ⟨htag, hlist, hrest⟩ := taggedMembers_cons htagged
      rw [bind_eq hk] at h
      rw [List.append_cons]
      split at h
      · obtain ⟨x, t', hx, h⟩ := bind_ok h
        obtain ⟨rfl, rfl⟩ := text_agrees hvalue (once_ok hcolon hx).2
        exact ih hps h (hd.named x) hrest
      · obtain ⟨kind, t', hkind, h⟩ := bind_ok h
        obtain ⟨hnone, hkind⟩ := once_ok hcolon hkind
        obtain ⟨rfl, tag, rfl, hn⟩ := readKind_agrees hvalue (htag (.inl rfl)) hkind
        exact ih hps h (hd.kinded hnone (.inl rfl) hn) hrest
      · obtain ⟨kind, t', hkind, h⟩ := bind_ok h
        obtain ⟨hnone, hkind⟩ := once_ok hcolon hkind
        obtain ⟨rfl, tag, rfl, hn⟩ := readKind_agrees hvalue (htag (.inr rfl)) hkind
        exact ih hps h (hd.kinded hnone (.inr rfl) hn) hrest
      · obtain ⟨content, t', hcontent, h⟩ := bind_ok h
        obtain ⟨rfl, htext⟩ := content_agrees hvalue (once_ok hcolon hcontent).2
        exact ih hps h (hd.filled htext) hrest
      · obtain ⟨ns, t', hns, h⟩ := bind_ok h
        obtain ⟨rfl, hlisted⟩ := children_agree hchildren hvalue (once_ok hcolon hns).2 (hlist rfl)
        exact ih hps h (hd.parented hlisted) hrest
      · rename_i hname htype hkind hcontent hchildren
        rw [bind_eq hcolon, bind_eq (skipValue_of_value hvalue)] at h
        exact ih hps h (hd.unknown hname htype hkind hcontent hchildren v) hrest
    · rename_i hm
      rw [if_neg hm] at h
      obtain ⟨rfl, rfl⟩ := pure_ok hv
      obtain ⟨name, kind, hname, hkind, hclose, rfl⟩ := finish_ok h
      rw [List.append_nil]
      exact ⟨(ok_unique hclose hend).2, hd.assembled hname hkind⟩

theorem elements_agree {item : Reader Node} {fuel : Nat} {first : Bool} {vs : List Json}
    {ns : List Node}
    (hitem : NodesAgree item) (hv : elements (value depth) fuel first s = .ok (vs, r))
    (h : elements item fuel first s = .ok (ns, t)) (htagged : taggedEach vs = true) :
    t = r ∧ ofEach vs = canonicalEach ns := by
  induction fuel generalizing s first vs ns with
  | zero => cases hv
  | succ fuel ih =>
    rw [elements] at hv h
    obtain ⟨more, s₁, hmore, hv⟩ := bind_ok hv
    rw [bind_eq hmore] at h
    split at hv
    · rename_i hm
      rw [if_pos hm] at h
      obtain ⟨v, s₂, hvalue, hv⟩ := bind_ok hv
      obtain ⟨vs, s₃, hvs, hv⟩ := bind_ok hv
      obtain ⟨rfl, rfl⟩ := pure_ok hv
      obtain ⟨n, t₂, hn, h⟩ := bind_ok h
      obtain ⟨ns, t₃, hns, h⟩ := bind_ok h
      obtain ⟨rfl, rfl⟩ := pure_ok h
      rw [taggedEach, Bool.and_eq_true] at htagged
      obtain ⟨rfl, hnode⟩ := hitem.agree hvalue hn htagged.1
      obtain ⟨rfl, hrest⟩ := ih hvs hns htagged.2
      refine ⟨rfl, ?_⟩
      rw [ofEach, hnode, canonicalEach, hrest]
    · rename_i hm
      rw [if_neg hm] at h
      obtain ⟨rfl, rfl⟩ := pure_ok hv
      obtain ⟨rfl, rfl⟩ := pure_ok h
      exact ⟨rfl, rfl⟩

theorem nodeWith_agrees {inner : Option (Bool × Reader (List Node))}
    (hinner : ∀ p ∈ inner, ListsAgree p.2) : NodesAgree (nodeWith inner) := by
  refine ⟨fun {depth s v r n t} hv h htagged => ?_⟩
  rw [nodeWith.eq_def] at h
  obtain ⟨a, t', ha, h⟩ := bind_ok h
  split at h
  · cases h
  · obtain ⟨u, rfl, hu⟩ := skipSpace_some ha
    obtain ⟨-, xs, -, rfl, -, -⟩ := value_array hu hv
    cases htagged
  · obtain ⟨u, rfl, hu⟩ := skipSpace_some ha
    obtain ⟨depth', ps, w, rfl, hps, hend⟩ := value_object hu hv
    cases inner with
    | none => cases h
    | some p =>
      dsimp only at h
      rw [drop1_bind] at h
      have hnode := fields_agree (hinner p rfl) hps hend h .nil htagged
      exact hnode
  · exact absurd h mismatch_ne_ok

theorem listWith_agrees {item : Option (Reader Node)}
    (hitem : ∀ x ∈ item, NodesAgree x) : ListsAgree (listWith item) := by
  refine ⟨fun {depth s v r ns t} hv h htagged => ?_⟩
  rw [listWith.eq_def] at h
  obtain ⟨a, t', ha, h⟩ := bind_ok h
  split at h
  · cases h
  · obtain ⟨u, rfl, hu⟩ := skipSpace_some ha
    obtain ⟨depth', vs, w, rfl, hvs, hend⟩ := value_array hu hv
    cases item with
    | none => cases h
    | some x =>
      dsimp only at h
      rw [drop1_bind] at h
      obtain ⟨ns', t₁, hns, h⟩ := bind_ok h
      obtain ⟨⟨⟩, t₂, hclose, h⟩ := bind_ok h
      obtain ⟨rfl, rfl⟩ := pure_ok h
      obtain ⟨rfl, heach⟩ := elements_agree (hitem x rfl) hvs hns htagged
      exact ⟨(ok_unique hclose hend).2, congrArg some heach⟩
  · exact absurd h mismatch_ne_ok

theorem strict_agrees (depth : Nat) :
    NodesAgree (strictNode depth) ∧ ListsAgree (strictList depth) := by
  induction depth with
  | zero =>
    rw [strictNode, strictList]
    exact ⟨nodeWith_agrees (by rintro p ⟨⟩), listWith_agrees (by rintro x ⟨⟩)⟩
  | succ depth ih =>
    rw [strictNode, strictList]
    refine ⟨nodeWith_agrees ?_, listWith_agrees ?_⟩
    · rintro p ⟨⟩
      exact ih.2
    · rintro x ⟨⟩
      exact ih.1

theorem whole_ok {x : Reader α} {text : String} {a : α} (h : whole x text = .ok a) :
    ∃ t, x text.toList = .ok (a, t) := by
  rw [whole] at h
  split at h
  · rename_i y t hx
    obtain rfl := Except.ok.inj h
    obtain ⟨b, t', hb, hx⟩ := bind_ok hx
    obtain ⟨⟨⟩, t'', -, hx⟩ := bind_ok hx
    obtain ⟨rfl, -⟩ := pure_ok hx
    exact ⟨t', hb⟩
  · cases h

/-- Both readers accept a text whose nodes are tagged objects: then they read the same tree, up to
what the lenient one leaves out, and the same files. -/
theorem readers_agree {text : String} {v : Json} {strict lenient : List Node}
    (hv : parse text = .ok v) (htagged : taggedList v = true)
    (hstrict : readStrict text = .ok strict) (hlenient : readTreeText text = .ok lenient) :
    lenient = canonicalEach strict ∧ flatten lenient = flatten strict := by
  obtain ⟨r, hvalue⟩ := whole_ok hv
  obtain ⟨t, hnodes⟩ := whole_ok hstrict
  obtain ⟨-, hlist⟩ := (strict_agrees maxDepth).2.agree hvalue hnodes htagged
  have htree : readTree v = canonicalEach strict := by
    cases v with
    | arr vs => exact Option.some.inj hlist
    | _ => cases hlist
  obtain rfl : lenient = canonicalEach strict := by
    rw [readTreeText, hv] at hlenient
    cases hlenient
    exact htree
  exact ⟨rfl, flatten_canonical strict⟩

theorem readers_agree_mixed :
    let text := "[\x7b\"name\":\"d\",\"kind\":\"folder\",\"content\":\"x\",\"children\":[" ++
      "\x7b\"type\":\"file\",\"name\":\"a\",\"content\":\"1\",\"children\":[],\"k\":[\x7b\x7d]\x7d]\x7d," ++
      "\x7b\"n\\u0061me\":\"e\",\"type\":\"directory\"\x7d]"
    ∃ v strict lenient, parse text = .ok v ∧ taggedList v = true ∧ readStrict text = .ok strict ∧
      readTreeText text = .ok lenient ∧
      (lenient = canonicalEach strict ∧ flatten lenient = flatten strict) ∧
      (flatten lenient).entries = [("d/a", "1")] := by
  intro text
  have hread : (parse text).toOption.map taggedList = some true ∧
      (readStrict text).toOption.map (fun ns => (flatten ns).entries) =
        some [("d/a", "1")] := by decide +kernel
  rcases hv : parse text with e | v
  · rw [hv] at hread
    cases hread.1
  rcases hstrict : readStrict text with e | strict
  · rw [hstrict] at hread
    cases hread.2
  rw [hv, hstrict] at hread
  have htagged : taggedList v = true := Option.some.inj hread.1
  have hfiles : (flatten strict).entries = [("d/a", "1")] := Option.some.inj hread.2
  have hlenient : readTreeText text = .ok (readTree v) := congrArg (Except.map readTree) hv
  have hagree := readers_agree hv htagged hstrict hlenient
  exact ⟨v, strict, readTree v, rfl, htagged, rfl, hlenient, hagree, hagree.2 ▸ hfiles⟩

end Node

end LivePreview
