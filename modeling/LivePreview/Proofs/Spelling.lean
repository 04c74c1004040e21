import LivePreview.Json.Value
import LivePreview.Proofs.Reading

namespace LivePreview.Json

def Spells (cs : List Char) (c : Char) : Prop :=
  ∀ fuel seen rest, stringTail (fuel + 1) seen (cs ++ rest) = stringTail fuel (c :: seen) rest

theorem Spells.ne_nil {cs : List Char} {c : Char} (h : Spells cs c) : cs ≠ [] := by
  rintro rfl
  have hclose := h 0 [] ['\x22']
  cases hclose

theorem spells_plain {c : Char} (hquote : c ≠ '\x22') (hback : c ≠ '\\') (hc : ¬c.toNat < 32) :
    Spells [c] c := by
  intro fuel seen rest
  rw [List.singleton_append, stringTail, bind_eq (a := some c) (t := rest) rfl]
  simp only [hc, if_false]

theorem hexValue_hexDigit : ∀ n < 16, hexValue? (hexDigit n) = some n := by decide

theorem spells_control {c : Char} (hc : c.toNat < 32) :
    Spells ['\\', 'u', '0', '0', hexDigit (c.toNat / 16), hexDigit (c.toNat % 16)] c := by
  intro fuel seen rest
  have hhigh := hexValue_hexDigit (c.toNat / 16) (by omega)
  have hlow := hexValue_hexDigit (c.toNat % 16) (by omega)
  have hzero : hexValue? '0' = some 0 := by decide
  have hdigits : hex4 ('0' :: '0' :: hexDigit (c.toNat / 16) :: hexDigit (c.toNat % 16) :: rest) =
      .ok (c.toNat, rest) := by
    simp only [hex4, hzero, hhigh, hlow]
    congr 2
    omega
  have hescape : unicodeEscape
      ('0' :: '0' :: hexDigit (c.toNat / 16) :: hexDigit (c.toNat % 16) :: rest) =
      .ok (c, rest) := by
    have hlowHalf : isLow c.toNat = false := by simp [isLow]; omega
    have hhighHalf : isHigh c.toNat = false := by simp [isHigh]; omega
    rw [unicodeEscape, bind_eq hdigits, hlowHalf, hhighHalf, Char.ofNat_toNat]
    rfl
  have hstep : stringTail (fuel + 1) seen
      (['\\', 'u', '0', '0', hexDigit (c.toNat / 16), hexDigit (c.toNat % 16)] ++ rest) =
      (unicodeEscape >>= fun c => stringTail fuel (c :: seen))
        ('0' :: '0' :: hexDigit (c.toNat / 16) :: hexDigit (c.toNat % 16) :: rest) := rfl
  rw [hstep, bind_eq hescape]

theorem escapeChar_spells (c : Char) : Spells (escapeChar c) c := by
  have hmarked : ∀ d ∈ ['\x22', '\\', '\x08', '\x0c', '\n', '\x0d', '\t'],
      Spells (escapeChar d) d := by
    simp only [List.forall_mem_cons]
    exact ⟨fun _ _ _ => rfl, fun _ _ _ => rfl, fun _ _ _ => rfl, fun _ _ _ => rfl,
      fun _ _ _ => rfl, fun _ _ _ => rfl, fun _ _ _ => rfl, List.forall_mem_nil _⟩
  by_cases hm : c ∈ ['\x22', '\\', '\x08', '\x0c', '\n', '\x0d', '\t']
  · exact hmarked c hm
  · simp only [List.mem_cons, List.not_mem_nil, or_false, not_or] at hm
    obtain ⟨hquote, hback, hb, hf, hn, hr, ht⟩ := hm
    rw [escapeChar, if_neg hquote, if_neg hback, if_neg hb, if_neg hf, if_neg hn, if_neg hr,
      if_neg ht]
    split
    · rename_i hc
      exact spells_control hc
    · rename_i hc
      exact spells_plain hquote hback hc

section

variable {spell : Char → List Char} (hspell : ∀ c, Spells (spell c) c)

include hspell

theorem stringTail_spelled (s seen rest : List Char) {fuel : Nat} (hf : s.length < fuel) :
    stringTail fuel seen (s.flatMap spell ++ '\x22' :: rest) =
      .ok (String.ofList (seen.reverse ++ s), rest) := by
  induction s generalizing fuel seen with
  | nil =>
    obtain ⟨fuel, rfl⟩ := Nat.exists_eq_add_one.mpr (Nat.zero_lt_of_lt hf)
    rw [List.append_nil]
    rfl
  | cons c s ih =>
    obtain ⟨fuel, rfl⟩ := Nat.exists_eq_add_one.mpr (Nat.zero_lt_of_lt hf)
    rw [List.flatMap_cons, List.append_assoc, hspell c, ih (c :: seen) (Nat.lt_of_succ_lt_succ hf)]
    simp

theorem length_le_spelled (s : List Char) : s.length ≤ (s.flatMap spell).length := by
  induction s with
  | nil => simp
  | cons c s ih =>
    have hpos := List.length_pos_iff.mpr (hspell c).ne_nil
    simp only [List.flatMap_cons, List.length_append, List.length_cons]
    omega

theorem string_spelled (s rest : List Char) :
    string (s.flatMap spell ++ '\x22' :: rest) = .ok (String.ofList s, rest) := by
  have hlength := length_le_spelled hspell s
  refine stringTail_spelled hspell s [] rest ?_
  simp only [List.length_append, List.length_cons]
  omega

end

def Reads (item : Reader Json) (text : List Char) (v : Json) : Prop :=
  ∀ rest, item (text ++ rest) = .ok (v, rest)

def literal (spell : Char → List Char) (s : List Char) : List Char :=
  '\x22' :: s.flatMap spell ++ ['\x22']

structure Field where
  name : String
  text : List Char
  value : Json

def Field.written (spell : Char → List Char) (p : Field) : List Char :=
  literal spell p.name.toList ++ ':' :: p.text

def Field.read (p : Field) : String × Json := (p.name, p.value)

theorem separated_cons (s : List Char) (ss : List (List Char)) :
    separated (s :: ss) = s ++ ss.flatMap (',' :: ·) := by
  induction ss generalizing s with
  | nil => simp [separated]
  | cons t ss ih => rw [separated, ih, List.flatMap_cons, List.cons_append]

theorem length_le_behind {α : Type} (text : α → List Char) (xs : List α) :
    xs.length ≤ (xs.flatMap (fun x => ',' :: text x)).length := by
  induction xs with
  | nil => simp
  | cons x xs ih =>
    simp only [List.flatMap_cons, List.length_append, List.length_cons]
    omega

theorem object_read {item : Reader Json} {s rest : List Char} {ps : List (String × Json)}
    (h : members item (s.length + 1) true s = .ok (ps, '\x7d' :: rest)) :
    valueWith (some item) ('\x7b' :: s) = .ok (.obj ps, rest) := by
  have hmembers : (fun s => members item (s.length + 1) true s : Reader _) s =
      .ok (ps, '\x7d' :: rest) := h
  have hend := bind_eq hmembers (fun ps => objectEnd >>= fun _ => pure (Json.obj ps))
  exact hend

section

variable {spell : Char → List Char} (hspell : ∀ c, Spells (spell c) c) {item : Reader Json}
  {fields : List Field} (hitem : ∀ p ∈ fields, Reads item p.text p.value)

include hspell

theorem reads_literal (nested : Option (Reader Json)) (s : List Char) :
    Reads (valueWith nested) (literal spell s) (.str (String.ofList s)) := by
  intro rest
  have hstep : valueWith nested (literal spell s ++ rest) =
      (string >>= fun x => pure (Json.str x)) (s.flatMap spell ++ '\x22' :: rest) := by
    simp only [literal, List.cons_append, List.append_assoc, List.nil_append]
    rfl
  rw [hstep, bind_eq (string_spelled hspell s rest)]
  rfl

theorem members_written {p : Field} {fuel : Nat} {first : Bool} {s rest after : List Char}
    {ps : List (String × Json)} (hp : Reads item p.text p.value)
    (hmore : moreMembers first s = .ok (true, p.written spell ++ rest))
    (hrest : members item fuel false rest = .ok (ps, after)) :
    members item (fuel + 1) first s = .ok (p.read :: ps, after) := by
  have hkey : string (p.name.toList.flatMap spell ++ '\x22' :: ':' :: (p.text ++ rest)) =
      .ok (p.name, ':' :: (p.text ++ rest)) := by
    rw [string_spelled hspell, String.ofList_toList]
  have hcolon : colon (':' :: (p.text ++ rest)) = .ok ((), p.text ++ rest) := rfl
  simp only [Field.written, literal, List.cons_append, List.append_assoc, List.nil_append] at hmore
  rw [members, bind_eq hmore, if_pos rfl, drop1_bind, List.drop_one, List.tail_cons, bind_eq hkey,
    bind_eq hcolon, bind_eq (hp rest), bind_eq hrest]
  rfl

include hitem

theorem members_behind {fuel : Nat} (rest : List Char) (hf : fields.length < fuel) :
    members item fuel false (fields.flatMap (fun p => ',' :: p.written spell) ++ '\x7d' :: rest) =
      .ok (fields.map Field.read, '\x7d' :: rest) := by
  induction fields generalizing fuel with
  | nil =>
    obtain ⟨fuel, rfl⟩ := Nat.exists_eq_add_one.mpr (Nat.zero_lt_of_lt hf)
    rfl
  | cons p fields ih =>
    obtain ⟨fuel, rfl⟩ := Nat.exists_eq_add_one.mpr (Nat.zero_lt_of_lt hf)
    obtain ⟨hp, hps⟩ := List.forall_mem_cons.mp hitem
    refine members_written hspell hp ?_ (ih hps (Nat.lt_of_succ_lt_succ hf))
    simp only [List.flatMap_cons, List.cons_append, List.append_assoc]
    rfl

theorem reads_object : Reads (valueWith (some item))
    ('\x7b' :: separated (fields.map (Field.written spell)) ++ ['\x7d'])
    (.obj (fields.map Field.read)) := by
  intro rest
  cases fields with
  | nil => rfl
  | cons p fields =>
    obtain ⟨hp, hps⟩ := List.forall_mem_cons.mp hitem
    simp only [List.map_cons, separated_cons, List.flatMap_map, List.cons_append, List.append_assoc,
      List.nil_append]
    apply object_read
    refine members_written hspell hp rfl (members_behind hspell hps rest ?_)
    have hbehind := length_le_behind (Field.written spell) fields
    simp only [List.length_append, List.length_cons]
    omega

end

end LivePreview.Json
