import LivePreview.Proofs.Respelling

namespace LivePreview.Json

open Markup

theorem peek_some {c : Char} {s t : List Char} (h : peek s = .ok (some c, t)) :
    ∃ u, s = c :: u ∧ t = c :: u := by
  obtain ⟨rfl, hc⟩ := peek_ok h
  obtain ⟨u, hu⟩ := List.head?_eq_some_iff.mp hc.symm
  exact ⟨u, hu, hu⟩

theorem endOfText_ok {s t : List Char} (h : endOfText s = .ok ((), t)) :
    ∀ c ∈ s, isSpace c = true := by
  rw [endOfText] at h
  obtain ⟨a, u, ha, h⟩ := bind_ok h
  split at h
  · obtain ⟨rfl, hhead⟩ := skipSpace_ok ha
    exact List.dropWhile_eq_nil_iff.mp (List.head?_eq_none_iff.mp hhead.symm)
  · cases h

theorem skipStringTail_scriptSafe {fuel : Nat} {c : Char} {s : List Char} (hquote : c ≠ '\x22')
    (hback : c ≠ '\\') (hc : ¬c.toNat < 32) :
    skipStringTail (fuel + 1) (scriptSafe [c] ++ s) = skipStringTail fuel s := by
  by_cases hmem : c ∈ scriptUnsafe
  · have hescaped : ∀ c ∈ scriptUnsafe,
        skipStringTail (fuel + 1) (scriptSafe [c] ++ s) = skipStringTail fuel s :=
      forall_scriptUnsafe rfl rfl rfl rfl rfl
    exact hescaped c hmem
  · rw [scriptSafe_of_clean (List.forall_mem_singleton.mpr hmem), List.singleton_append]
    exact skipStringTail_plain hquote hback hc

namespace Reader.Carries

theorem skipDigits (s : List Char) : Carries Json.skipDigits s := by
  intro _ r h
  cases h
  exact congrArg (fun t => Except.ok ((), t)) (dropWhile_scriptSafe isDigit_escapeMarks s)

theorem skipSign (s : List Char) : Carries Json.skipSign s := by
  rw [Json.skipSign]
  refine .peek (g := Pure.pure ()) (.pure _ _) (forall_escapeMarks rfl rfl rfl rfl rfl rfl)
    (.pure ()) (fun c hc t => ?_)
  split
  · exact .drop1 hc t
  · exact .drop1 hc t
  · exact .pure () _

theorem skipExponent {c : Char} (hc : c ∉ scriptUnsafe) (s : List Char) :
    Carries Json.skipExponent (c :: s) := by
  rw [Json.skipExponent]
  refine .bind (.drop1 hc s) fun _ t => .bind (.skipSign t) fun _ t =>
    .next (e := .invalidNumber) (.fail _ _) (forall_scriptUnsafe rfl rfl rfl rfl rfl)
      (fun c _ t => ?_)
  dsimp only
  split
  · exact .skipDigits t
  · exact .fail _ t

theorem skipFraction {c : Char} (hc : c ∉ scriptUnsafe) (s : List Char) :
    Carries Json.skipFraction (c :: s) := by
  rw [Json.skipFraction]
  refine .bind (.drop1 hc s) fun _ t => .peek (g := Json.failNext .invalidNumber) (.failNext _ _)
    (forall_escapeMarks rfl rfl rfl rfl rfl rfl) (.failNext _) (fun c _ t => ?_)
  dsimp only
  split
  · exact .skipDigits _
  · exact .failNext _ _

theorem skipScale (s : List Char) : Carries Json.skipScale s := by
  rw [Json.skipScale]
  refine .peek (g := Pure.pure ()) (.pure _ _) (forall_escapeMarks rfl rfl rfl rfl rfl rfl)
    (.pure ()) (fun c hc t => ?_)
  split
  · exact .skipExponent hc t
  · exact .skipExponent hc t
  · exact .pure () _

theorem skipParts (s : List Char) : Carries Json.skipParts s := by
  rw [Json.skipParts]
  refine .peek (g := Json.skipScale) (.skipScale _) (forall_escapeMarks rfl rfl rfl rfl rfl rfl)
    .skipScale (fun c hc t => ?_)
  split
  · exact .bind (.skipFraction hc t) fun _ => .skipScale
  · exact .skipScale _

theorem skipWhole (s : List Char) : Carries Json.skipWhole s := by
  rw [Json.skipWhole]
  refine .next (e := .invalidNumber) (.fail _ _) (forall_scriptUnsafe rfl rfl rfl rfl rfl)
    (fun c _ t => ?_)
  split
  · refine .peek (g := Pure.pure ()) (.pure _ _) (forall_escapeMarks rfl rfl rfl rfl rfl rfl)
      (.pure ()) (fun c _ t => ?_)
    dsimp only
    split
    · exact .failNext _ _
    · exact .pure () _
  · split
    · exact .skipDigits t
    · exact .fail _ t
  · contradiction

theorem skipNumber (s : List Char) : Carries Json.skipNumber s :=
  .bind (.skipWhole s) fun _ => .skipParts

theorem skipEscape (s : List Char) : Carries Json.skipEscape s := by
  rw [Json.skipEscape]
  refine .next (e := .invalidEscape) (.fail _ _) (forall_scriptUnsafe rfl rfl rfl rfl rfl)
    (fun c _ t => ?_)
  split
  · contradiction
  · exact .bind (.hex4 t) fun _ => .pure ()
  · split
    · exact .pure () t
    · exact .fail _ t

theorem skipStringTail {fuel fuel' : Nat} {s r : List Char} (hf : fuel ≤ fuel')
    (h : skipStringTail fuel s = .ok ((), r)) :
    Json.skipStringTail fuel' (scriptSafe s) = .ok ((), scriptSafe r) := by
  induction fuel generalizing fuel' s with
  | zero => cases h
  | succ fuel ih =>
    obtain ⟨fuel', rfl⟩ := Nat.exists_eq_add_one.mpr (Nat.zero_lt_of_lt hf)
    have hf' := Nat.le_of_succ_le_succ hf
    rw [Json.skipStringTail] at h
    obtain ⟨a, t, ha, h⟩ := bind_ok h
    split at h
    · cases h
    · obtain ⟨u, rfl, rfl⟩ := peek_some ha
      rw [drop1_ok h]
      rfl
    · obtain ⟨u, rfl, rfl⟩ := peek_some ha
      rw [drop1_bind] at h
      obtain ⟨⟨⟩, w, hw, h⟩ := bind_ok h
      rw [scriptSafe_cons (by decide), skipStringTail_escape (skipEscape u () w hw)]
      exact ih hf' h
    · rename_i c hquote hback
      obtain ⟨u, rfl, rfl⟩ := peek_some ha
      split at h
      · cases h
      · rename_i hc
        rw [← List.singleton_append, scriptSafe_append, skipStringTail_scriptSafe hquote hback hc]
        exact ih hf' h

theorem skipString (s : List Char) : Carries Json.skipString s := fun _ _ h =>
  skipStringTail (Nat.succ_le_succ (length_le_scriptSafe s)) h

theorem skipAtom (s : List Char) : Carries Json.skipAtom s := by
  rw [Json.skipAtom]
  refine .skipSpace (g := Json.failNext .expectedValue) (.failNext _ _)
    (forall_escapeMarks rfl rfl rfl rfl rfl rfl) (.failNext _) (fun c hc t => ?_)
  split
  · contradiction
  · exact .bind (.drop1 hc t) fun _ t => .bind (.keyword (by simp [scriptUnsafe]) t) fun _ => .pure none
  · exact .bind (.drop1 hc t) fun _ t => .bind (.keyword (by simp [scriptUnsafe]) t) fun _ => .pure none
  · exact .bind (.drop1 hc t) fun _ t => .bind (.keyword (by simp [scriptUnsafe]) t) fun _ => .pure none
  · exact .bind (.drop1 hc t) fun _ t => .bind (.skipNumber t) fun _ => .pure none
  · exact .bind (.drop1 hc t) fun _ t => .bind (.skipString t) fun _ => .pure none
  · exact .bind (.drop1 hc t) fun _ => .pure _
  · exact .bind (.drop1 hc t) fun _ => .pure _
  · split
    · exact .bind (.skipNumber _) fun _ => .pure none
    · exact .failNext _ _

theorem skipKey (s : List Char) : Carries Json.skipKey s := by
  have hrest (t : List Char) : Carries (Json.skipString >>= fun _ => Json.colon) t :=
    .bind (.skipString t) fun _ => .colon
  have hother (t : List Char) : Carries
      (Json.failNext .keyNotString >>= fun _ : Unit => Json.skipString >>= fun _ => Json.colon) t :=
    .bind (.failNext _ t) fun _ => hrest
  rw [Json.skipKey]
  refine .skipSpace (.bind (.failNext _ _) fun _ => hrest)
    (forall_escapeMarks rfl rfl rfl rfl rfl rfl) hother (fun c hc t => ?_)
  dsimp only
  split
  · exact .bind (.drop1 hc t) fun _ => hrest
  · exact hother _
  · contradiction

theorem whole {α : Type} {x : Reader α} {text : String} {a : α} (hx : Carries x text.toList)
    (h : whole x text = .ok a) : Json.whole x (escapeJson text) = .ok a := by
  have hread : Carries (do let y ← x; Json.endOfText; Pure.pure y : Reader α) text.toList :=
    .bind hx fun y t => .bind (.endOfText t) fun _ => .pure y
  rw [Json.whole] at h ⊢
  rw [escapeJson, String.toList_ofList]
  split at h
  · rename_i y r hy
    cases h
    rw [hread _ r hy]
  · cases h

end Reader.Carries

open Reader (Carries)

theorem Continues.scriptSafe {close : Char} {first b : Bool} {s t : List Char}
    (hclose : close ∉ escapeMarks) (h : Continues close first s b t) :
    Continues close first (scriptSafe s) b (scriptSafe t) := by
  have hspace := dropWhile_scriptSafe isSpace_escapeMarks
  cases h with
  | close u h =>
    have hclean : close ∉ scriptUnsafe := fun hmem => hclose (List.mem_cons_of_mem _ hmem)
    rw [scriptSafe_cons hclean]
    exact .close _ (by rw [hspace, h, scriptSafe_cons hclean])
  | first c u hf hc h =>
    by_cases hmem : c ∈ scriptUnsafe
    · obtain ⟨w, hw⟩ := scriptSafe_backslash u c hmem
      rw [hw]
      exact .first '\\' w hf (fun heq => hclose (heq ▸ List.mem_cons_self))
        (by rw [hspace, h, hw])
    · rw [scriptSafe_cons hmem]
      exact .first c _ hf hc (by rw [hspace, h, scriptSafe_cons hmem])
  | comma u hf h =>
    rw [← hspace]
    exact .comma _ hf (by rw [hspace, h, scriptSafe_cons (by decide)])

/-- Escaping keeps the structure of a value, part by part. -/
theorem Skips.scriptSafe {part : Part} {s r : List Char} (h : Skips part s r) :
    Skips part (scriptSafe s) (scriptSafe r) := by
  have hspace := dropWhile_scriptSafe isSpace_escapeMarks
  -- Only atoms and keys hold characters that are escaped; between them is space and punctuation.
  induction h with
  | atom h => exact .atom (Carries.skipAtom _ _ _ h)
  | array h _ ih => exact .array (Carries.skipAtom _ _ _ h) ih
  | object h _ ih => exact .object (Carries.skipAtom _ _ _ h) ih
  | lastElement h => exact .lastElement (by rw [hspace, h, scriptSafe_cons (by decide)])
  | element h _ _ ihv ihs => exact .element (h.scriptSafe (by decide)) ihv ihs
  | lastMember h => exact .lastMember (by rw [hspace, h, scriptSafe_cons (by decide)])
  | member h hk _ _ ihv ihs =>
    exact .member (h.scriptSafe (by decide)) (Carries.skipKey _ _ _ hk) ihv ihs

/-- The text is one JSON value with nothing but space around it. It may be nested to any depth, and
its numbers and its escapes need not be such that they can be read. -/
def Valid (text : String) : Prop :=
  ∃ rest, Skips .value text.toList rest ∧ ∀ c ∈ rest, isSpace c = true

theorem valid_of_whole {depth : Nat} {text : String} {v : Json}
    (h : whole (value depth) text = .ok v) : Valid text := by
  rw [whole] at h
  split at h
  · rename_i hread
    obtain ⟨w, t, hvalue, hread⟩ := bind_ok hread
    obtain ⟨⟨⟩, u, hend, -⟩ := bind_ok hread
    exact ⟨t, value_skips hvalue, endOfText_ok hend⟩
  · cases h

theorem valid_escapeJson {text : String} (h : Valid text) : Valid (escapeJson text) := by
  obtain ⟨rest, hvalue, hspace⟩ := h
  have hrest : Markup.scriptSafe rest = rest :=
    scriptSafe_of_clean (fun c hc => not_unsafe_of isSpace_escapeMarks (hspace c hc))
  refine ⟨rest, ?_, hspace⟩
  rw [escapeJson, String.toList_ofList, ← hrest]
  exact hvalue.scriptSafe

theorem escapeJson_idem (text : String) : escapeJson (escapeJson text) = escapeJson text := by
  rw [escapeJson, escapeJson, String.toList_ofList, scriptSafe_of_clean (scriptSafe_clean _)]

/-- Nothing that ends a script element early is left, a second escaping changes nothing, and the
text is valid JSON if it was, and of the same value at whatever depth that can be read. -/
theorem escapeJson_respells (text : String) :
    (∀ c ∈ (escapeJson text).toList, c ∉ ['<', '>', '&', '\u2028', '\u2029']) ∧
    escapeJson (escapeJson text) = escapeJson text ∧
    (Valid text → Valid (escapeJson text)) ∧
    ∀ depth v, whole (value depth) text = .ok v →
      Valid text ∧ whole (value depth) (escapeJson text) = .ok v := by
  refine ⟨?_, escapeJson_idem text, valid_escapeJson, fun depth v h =>
    ⟨valid_of_whole h, Carries.whole (.value depth _) h⟩⟩
  rw [escapeJson, String.toList_ofList]
  exact scriptSafe_clean text.toList

example : escapeJson "[\"\\\\<\", \"a&b\"]" = "[\"\\\\\\u003c\", \"a\\u0026b\"]" := by
  decide +kernel

end LivePreview.Json
