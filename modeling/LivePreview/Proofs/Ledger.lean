import Mathlib.Data.List.Induction
import LivePreview.Proofs.Arena

namespace LivePreview

structure Depot where
  host : Host
  arenas : List (Option Arena) := []

namespace Depot

inductive Operation where
  | create (b : Blob)
  | release (k : Handle)
  | fetch (k : Handle)
  | enter
  | publish (a : Nat) (b : Blob)
  | publishUnits (a : Nat) (us : List CompiledUnit)
  | drop (a : Nat)

inductive Entry where
  | created (owner : Option Nat) (k : Handle) (b : Blob)
  | released (k : Handle) (wasLive : Bool)
  | fetched (k : Handle) (found : Option Blob)
  deriving DecidableEq

def releases (h : Host) : List Handle → List Entry
  | [] => []
  | k :: ks => .released k (h.release k).2 :: releases (h.release k).1 ks

def arena? (d : Depot) (a : Nat) : Option Arena := d.arenas[a]?.join

def step (d : Depot) : Operation → Depot × List Entry
  | .create b =>
      let (h, k) := d.host.create b
      ({ d with host := h }, [.created none k b])
  | .release k =>
      let (h, wasLive) := d.host.release k
      ({ d with host := h }, [.released k wasLive])
  | .fetch k => (d, [.fetched k (d.host.fetch k)])
  | .enter => ({ d with arenas := d.arenas ++ [some {}] }, [])
  | .publish a b => match d.arena? a with
      | none => (d, [])
      | some arena =>
          let (arena, h, k) := arena.publish d.host b
          (⟨h, d.arenas.set a (some arena)⟩, [.created (some a) k b])
  | .publishUnits a us => match d.arena? a with
      | none => (d, [])
      | some arena =>
          let (arena, h, rs) := arena.publishUnits d.host us
          (⟨h, d.arenas.set a (some arena)⟩,
            List.zipWith (fun r u => .created (some a) r.handle (Arena.blobOf u)) rs us)
  | .drop a => match d.arena? a with
      | none => (d, [])
      | some arena =>
          (⟨(arena.discard d.host).1, d.arenas.set a none⟩, releases d.host arena.handles)

def run (d : Depot) : List Operation → Depot × List Entry
  | [] => (d, [])
  | op :: ops =>
      let (d, es) := d.step op
      let (d, more) := d.run ops
      (d, es ++ more)

namespace Entry

def made? : Entry → Option Handle
  | .created _ k _ => some k
  | _ => none

def isFor (a : Nat) : Entry → Bool
  | .created owner _ _ => owner == some a
  | _ => false

def freed? : Entry → Option Handle
  | .released k true => some k
  | _ => none

def stand (k : Handle) (found : Option Blob) : Entry → Option Blob
  | .created _ k' b => if k' = k then some b else found
  | .released k' _ => if k' = k then none else found
  | .fetched _ _ => found

end Entry

def made (log : List Entry) : List Handle := log.filterMap Entry.made?

def madeBy (a : Nat) (log : List Entry) : List Handle := made (log.filter (Entry.isFor a))

def freed (log : List Entry) : List Handle := log.filterMap Entry.freed?

def standing (log : List Entry) (k : Handle) : Option Blob := log.foldl (Entry.stand k) none

def Entry.Follows (log : List Entry) : Entry → Prop
  | .created _ k _ => k ∉ made log
  | .released k wasLive => wasLive = (standing log k).isSome
  | .fetched k found => found = standing log k

def Consistent (log : List Entry) : Prop :=
  ∀ before x after, log = before ++ x :: after → x.Follows before

/-- The entries agree with one another and with the host; every handle that was handed out is
either live or has been released, once. -/
structure Books (h : Host) (log : List Entry) : Prop where
  sound : h.Sound
  issued : made log = h.issued
  standing : ∀ k, h.fetch k = standing log k
  consistent : Consistent log
  accounted : (h.handles ++ freed log).Perm (made log)

variable {h : Host} {log : List Entry}

theorem made_append (log more : List Entry) : made (log ++ more) = made log ++ made more :=
  List.filterMap_append

theorem freed_append (log more : List Entry) : freed (log ++ more) = freed log ++ freed more :=
  List.filterMap_append

theorem standing_concat (log : List Entry) (x : Entry) (k : Handle) :
    Depot.standing (log ++ [x]) k = x.stand k (Depot.standing log k) := by
  rw [Depot.standing, List.foldl_append]
  rfl

theorem Consistent.concat {x : Entry} (hlog : Consistent log) (hx : x.Follows log) :
    Consistent (log ++ [x]) := by
  intro before y after he
  rcases List.eq_nil_or_concat after with rfl | ⟨after', z, rfl⟩
  · obtain ⟨rfl, hlast⟩ := List.append_inj' he rfl
    rw [← List.singleton_inj.mp hlast]
    exact hx
  · rw [List.concat_eq_append, ← List.cons_append, ← List.append_assoc] at he
    exact hlog before y after' (List.append_inj' he rfl).1

theorem Books.empty (origin : String) : Books { origin := origin } [] where
  sound := ⟨List.nodup_nil, nofun⟩
  issued := rfl
  standing _ := rfl
  consistent before x after h := by cases before <;> cases h
  accounted := .nil

theorem Books.create (hb : Books h log) (owner : Option Nat) (b : Blob) :
    Books (h.create b).1 (log ++ [.created owner (h.create b).2 b]) := by
  have hnew : (h.create b).2 ∉ h.issued := Host.next_not_issued (n := 1) (by
    rw [Host.next_succ h b]
    exact List.mem_cons_self)
  constructor
  case sound => exact hb.sound.extend [b]
  case issued =>
    rw [made_append, hb.issued]
    exact (h.extend_issued [b]).symm
  case standing =>
    intro k
    rw [standing_concat, ← hb.standing]
    show Host.lookup k (h.blobs ++ [((h.create b).2, b)]) = _
    rw [Host.lookup_append]
    by_cases hk : (h.create b).2 = k
    · have hnone : h.fetch k = none := Host.fetch_eq_none_iff.mpr
        (fun hl => hnew (hk ▸ hb.sound.known k hl))
      rw [show Host.lookup k h.blobs = none from hnone, Host.lookup, if_pos hk, Entry.stand,
        if_pos hk]
      rfl
    · rw [Host.lookup, if_neg hk, Entry.stand, if_neg hk, Host.lookup, Option.or_none]
      rfl
  case consistent =>
    refine hb.consistent.concat ?_
    rw [Entry.Follows, hb.issued]
    exact hnew
  case accounted =>
    have hhandles : (h.create b).1.handles = h.handles ++ [(h.create b).2] := h.extend_handles [b]
    rw [made_append, freed_append, hhandles, show freed [.created owner _ b] = [] from rfl,
      List.append_nil, List.append_assoc]
    refine (List.perm_append_comm.append_left h.handles).trans ?_
    rw [← List.append_assoc]
    exact hb.accounted.append_right _

theorem release_freed (hs : h.Sound) (k : Handle) :
    ((h.release k).1.handles ++ freed [.released k (h.release k).2]).Perm h.handles := by
  rw [Host.release_handles, show (h.release k).2 = (h.fetch k).isSome from rfl]
  by_cases hk : k ∈ h.handles
  · have hsome : (h.fetch k).isSome = true := by
      rw [Option.isSome_iff_ne_none, ne_eq, Host.fetch_eq_none_iff]
      exact not_not_intro hk
    have herase : h.handles.filter (fun x => decide (x ≠ k)) = h.handles.erase k := by
      rw [List.Nodup.erase_eq_filter hs.nodup]
      exact List.filter_congr (fun x _ => by simp [bne, BEq.beq])
    rw [hsome, herase]
    exact List.perm_append_comm.trans (List.perm_cons_erase hk).symm
  · have hnone : h.fetch k = none := Host.fetch_eq_none_iff.mpr hk
    have hall : h.handles.filter (fun x => decide (x ≠ k)) = h.handles := by
      rw [List.filter_eq_self]
      exact fun k' hk' => decide_eq_true (fun he : k' = k => hk (he ▸ hk'))
    rw [hnone, hall]
    exact .of_eq (List.append_nil _)

theorem Books.release (hb : Books h log) (k : Handle) :
    Books (h.release k).1 (log ++ [.released k (h.release k).2]) := by
  have hmade : made (log ++ [Entry.released k (h.release k).2]) = made log := by
    rw [made_append]
    exact List.append_nil _
  constructor
  case sound => exact hb.sound.release k
  case issued => exact hmade.trans hb.issued
  case standing =>
    intro k'
    rw [standing_concat, ← hb.standing, Arena.fetch_release, Entry.stand]
    simp only [eq_comm]
  case consistent => exact hb.consistent.concat (congrArg Option.isSome (hb.standing k))
  case accounted =>
    rw [hmade, freed_append]
    refine .trans ?_ hb.accounted
    refine .trans ?_ ((release_freed hb.sound k).append_right _)
    rw [List.append_assoc]
    exact List.perm_append_comm.append_left _

theorem Books.fetch (hb : Books h log) (k : Handle) :
    Books h (log ++ [.fetched k (h.fetch k)]) := by
  have hmade : made (log ++ [Entry.fetched k (h.fetch k)]) = made log := by
    rw [made_append]
    exact List.append_nil _
  constructor
  case sound => exact hb.sound
  case issued => exact hmade.trans hb.issued
  case standing =>
    intro k'
    rw [standing_concat]
    exact hb.standing k'
  case consistent => exact hb.consistent.concat (hb.standing k)
  case accounted =>
    rw [hmade, freed_append, show freed [.fetched k _] = [] from rfl, List.append_nil]
    exact hb.accounted

theorem publishUnits_handles (arena : Arena) (h : Host) (us : List CompiledUnit) :
    (arena.publishUnits h us).1.handles =
        arena.handles ++ (arena.publishUnits h us).2.2.map PublishedResource.handle ∧
      (arena.publishUnits h us).2.2.length = us.length := by
  induction us generalizing arena h with
  | nil => exact ⟨(List.append_nil _).symm, rfl⟩
  | cons u us ih =>
    obtain ⟨hhandles, hlength⟩ :=
      ih (arena.publish h (Arena.blobOf u)).1 (arena.publish h (Arena.blobOf u)).2.1
    refine ⟨hhandles.trans ?_, congrArg (· + 1) hlength⟩
    exact (List.append_assoc ..).trans rfl

theorem Books.creates (hb : Books h log) (a : Nat) (arena : Arena) (us : List CompiledUnit) :
    Books (arena.publishUnits h us).2.1 (log ++ List.zipWith
      (fun r u => .created (some a) r.handle (Arena.blobOf u)) (arena.publishUnits h us).2.2 us) := by
  induction us generalizing arena h log with
  | nil =>
    show Books h (log ++ [])
    rw [List.append_nil]
    exact hb
  | cons u us ih =>
    have hrest := ih (hb.create (some a) (Arena.blobOf u)) (arena.publish h (Arena.blobOf u)).1
    rw [List.append_assoc] at hrest
    exact hrest

theorem Books.releases (hb : Books h log) (ks : List Handle) :
    Books (Arena.releaseEach h ks).1 (log ++ releases h ks) := by
  induction ks generalizing h log with
  | nil =>
    show Books h (log ++ [])
    rw [List.append_nil]
    exact hb
  | cons k ks ih =>
    have hrest := ih (hb.release k)
    rw [List.append_assoc] at hrest
    exact hrest

theorem madeBy_append (a : Nat) (log more : List Entry) :
    madeBy a (log ++ more) = madeBy a log ++ madeBy a more := by
  rw [madeBy, List.filter_append, made_append, madeBy, madeBy]

theorem madeBy_releases (a : Nat) (h : Host) (ks : List Handle) : madeBy a (releases h ks) = [] := by
  induction ks generalizing h with
  | nil => rfl
  | cons k ks ih => exact ih (h.release k).1

theorem madeBy_created (a a' : Nat) (k : Handle) (b : Blob) :
    madeBy a' [.created (some a) k b] = if a = a' then [k] else [] := by
  by_cases ha : a = a' <;> simp [madeBy, made, Entry.made?, Entry.isFor, ha]

theorem madeBy_creates (a a' : Nat) {rs : List PublishedResource} {us : List CompiledUnit}
    (hl : rs.length = us.length) :
    madeBy a' (List.zipWith (fun r u => .created (some a) r.handle (Arena.blobOf u)) rs us) =
      if a = a' then rs.map PublishedResource.handle else [] := by
  induction rs generalizing us with
  | nil => simp [madeBy, made]
  | cons r rs ih =>
    cases us with
    | nil => cases hl
    | cons u us =>
      have hrest := ih (Nat.succ.inj hl)
      rw [List.zipWith_cons_cons, ← List.singleton_append, madeBy_append, madeBy_created, hrest]
      by_cases ha : a = a'
      · simp only [if_pos ha, List.singleton_append, List.map_cons]
      · simp only [if_neg ha, List.append_nil]

structure Valid (d : Depot) (log : List Entry) : Prop where
  books : Books d.host log
  owned : ∀ a arena, d.arena? a = some arena → arena.handles = madeBy a log
  bounded : ∀ a, d.arenas.length ≤ a → madeBy a log = []

variable {d : Depot}

theorem lt_of_arena? {a : Nat} {arena : Arena} (h : d.arena? a = some arena) :
    a < d.arenas.length := by
  rw [arena?, Option.join_eq_some_iff] at h
  exact (List.getElem?_eq_some_iff.mp h).1

theorem arena?_set (h : Host) {a : Nat} (x : Option Arena) (ha : a < d.arenas.length) (a' : Nat) :
    ({ host := h, arenas := d.arenas.set a x } : Depot).arena? a' =
      if a = a' then x else d.arena? a' := by
  rw [arena?, List.getElem?_set, if_pos ha]
  by_cases he : a = a'
  · rw [if_pos he, if_pos he]
    rfl
  · rw [if_neg he, if_neg he]
    rfl

theorem Valid.frame (hv : Valid d log) {h' : Host} {more : List Entry}
    (hb : Books h' (log ++ more)) (hmore : ∀ a, madeBy a more = []) :
    Valid { d with host := h' } (log ++ more) where
  books := hb
  owned a arena ha := by
    rw [madeBy_append, hmore, List.append_nil]
    exact hv.owned a arena ha
  bounded a ha := by
    rw [madeBy_append, hmore, List.append_nil]
    exact hv.bounded a ha

theorem Valid.replace (hv : Valid d log) {h' : Host} {a : Nat} {ks : List Handle}
    {more : List Entry} (x : Option Arena) (ha : a < d.arenas.length)
    (hb : Books h' (log ++ more)) (hx : ∀ arena, x = some arena → arena.handles = madeBy a log ++ ks)
    (hmore : ∀ a', madeBy a' more = if a = a' then ks else []) :
    Valid { host := h', arenas := d.arenas.set a x } (log ++ more) where
  books := hb
  owned a' arena h := by
    rw [arena?_set h' x ha] at h
    rw [madeBy_append, hmore]
    split at h
    · rename_i he
      rw [if_pos he, ← he, hx arena h]
    · rename_i he
      rw [if_neg he, List.append_nil, hv.owned a' arena h]
  bounded a' h := by
    have hlen : d.arenas.length ≤ a' := by simpa using h
    have hne : a ≠ a' := by omega
    rw [madeBy_append, hmore, if_neg hne, hv.bounded a' hlen]
    rfl

theorem Valid.step (hv : Valid d log) (op : Operation) :
    Valid (d.step op).1 (log ++ (d.step op).2) := by
  have hsame : Valid d (log ++ []) := by rwa [List.append_nil]
  cases op with
  | create b => exact hv.frame (hv.books.create none b) (fun _ => rfl)
  | release k => exact hv.frame (hv.books.release k) (fun _ => rfl)
  | fetch k => exact hv.frame (hv.books.fetch k) (fun _ => rfl)
  | enter =>
    rw [Depot.step, List.append_nil]
    refine ⟨hv.books, fun a arena ha => ?_, fun a ha => hv.bounded a ?_⟩
    · rw [arena?, List.getElem?_append] at ha
      split at ha
      · exact hv.owned a arena ha
      · rename_i hge
        have hempty : arena = {} := by
          rw [Option.join_eq_some_iff, List.getElem?_singleton] at ha
          split at ha <;> cases ha
          rfl
        rw [hempty, hv.bounded a (by omega)]
    · rw [List.length_append] at ha
      omega
  | publish a b =>
    rw [Depot.step]
    cases ha : d.arena? a with
    | none => exact hsame
    | some arena =>
      refine hv.replace _ (lt_of_arena? ha) (hv.books.create (some a) b) ?_
        (madeBy_created a · _ b)
      rintro _ ⟨⟩
      exact congrArg (· ++ _) (hv.owned a arena ha)
  | publishUnits a us =>
    rw [Depot.step]
    cases ha : d.arena? a with
    | none => exact hsame
    | some arena =>
      obtain ⟨hhandles, hlength⟩ := publishUnits_handles arena d.host us
      refine hv.replace _ (lt_of_arena? ha) (hv.books.creates a arena us) ?_
        (fun a' => madeBy_creates a a' hlength)
      rintro _ ⟨⟩
      rw [hhandles, hv.owned a arena ha]
  | drop a =>
    rw [Depot.step]
    cases ha : d.arena? a with
    | none => exact hsame
    | some arena =>
      exact hv.replace none (lt_of_arena? ha) (hv.books.releases arena.handles) nofun
        (fun a' => (madeBy_releases a' d.host arena.handles).trans (ite_self []).symm)

theorem Valid.run (hv : Valid d log) (ops : List Operation) :
    Valid (d.run ops).1 (log ++ (d.run ops).2) := by
  induction ops generalizing d log with
  | nil =>
    show Valid d (log ++ [])
    rwa [List.append_nil]
  | cons op ops ih =>
    have hrest := ih (hv.step op)
    rwa [List.append_assoc] at hrest

theorem start_valid (origin : String) : Valid { host := { origin := origin } } [] where
  books := .empty origin
  owned a arena h := by cases a <;> cases h
  bounded _ _ := rfl

def LeadsTo (log : List Entry) (k : Handle) (b : Blob) : Prop :=
  ∃ before owner after, log = before ++ .created owner k b :: after ∧
    ∀ wasLive, .released k wasLive ∉ after

theorem Consistent.of_concat {x : Entry} (h : Consistent (log ++ [x])) :
    Consistent log ∧ x.Follows log :=
  ⟨fun before y after he => h before y (after ++ [x]) (by rw [he, List.append_assoc]; rfl),
    h log x [] rfl⟩

theorem LeadsTo.concat {k : Handle} {b : Blob} {x : Entry} (h : LeadsTo log k b)
    (hx : ∀ wasLive, x ≠ .released k wasLive) : LeadsTo (log ++ [x]) k b := by
  obtain ⟨before, owner, after, rfl, hafter⟩ := h
  refine ⟨before, owner, after ++ [x], List.append_assoc .., fun wasLive hmem => ?_⟩
  rcases List.mem_append.mp hmem with hmem | hmem
  · exact hafter wasLive hmem
  · exact hx wasLive (List.mem_singleton.mp hmem).symm

theorem LeadsTo.of_concat {k : Handle} {b : Blob} {x : Entry} (h : LeadsTo (log ++ [x]) k b) :
    (∃ owner, x = .created owner k b) ∨
      LeadsTo log k b ∧ ∀ wasLive, x ≠ .released k wasLive := by
  obtain ⟨before, owner, after, he, hafter⟩ := h
  rcases List.eq_nil_or_concat after with rfl | ⟨after', z, rfl⟩
  · obtain ⟨-, hlast⟩ := List.append_inj' he rfl
    exact .inl ⟨owner, List.singleton_inj.mp hlast⟩
  · rw [List.concat_eq_append, ← List.cons_append, ← List.append_assoc] at he
    obtain ⟨hlog, hlast⟩ := List.append_inj' he rfl
    rw [List.concat_eq_append] at hafter
    refine .inr ⟨⟨before, owner, after', hlog, fun w hw => ?_⟩, fun w hx => ?_⟩
    · exact hafter w (List.mem_append_left _ hw)
    · refine hafter w (List.mem_append_right _ ?_)
      rw [← List.singleton_inj.mp hlast, hx]
      exact List.mem_singleton.mpr rfl

theorem LeadsTo.mem_made {k : Handle} {b : Blob} (h : LeadsTo log k b) : k ∈ made log := by
  obtain ⟨before, owner, after, rfl, -⟩ := h
  exact List.mem_filterMap.mpr
    ⟨.created owner k b, List.mem_append_right _ List.mem_cons_self, rfl⟩

theorem standing_eq_some_iff (hc : Consistent log) {k : Handle} {b : Blob} :
    standing log k = some b ↔ LeadsTo log k b := by
  induction log using List.reverseRecOn with
  | nil =>
    refine ⟨nofun, ?_⟩
    rintro ⟨before, owner, after, he, -⟩
    cases before <;> cases he
  | append_singleton log x ih =>
    obtain ⟨hlog, hx⟩ := hc.of_concat
    rw [standing_concat]
    constructor
    · intro hstand
      cases x with
      | created owner k' b' =>
        rw [Entry.stand] at hstand
        split at hstand
        · rename_i hk
          cases hk
          cases hstand
          exact ⟨log, owner, [], rfl, fun _ => List.not_mem_nil⟩
        · exact ((ih hlog).mp hstand).concat nofun
      | released k' wasLive =>
        rw [Entry.stand] at hstand
        split at hstand
        · cases hstand
        · rename_i hk
          exact ((ih hlog).mp hstand).concat (fun w he => hk (Entry.released.inj he).1)
      | fetched k' found => exact ((ih hlog).mp hstand).concat nofun
    · intro hleads
      rcases hleads.of_concat with ⟨owner, rfl⟩ | ⟨hbefore, hkeep⟩
      · exact if_pos rfl
      · have hstand := (ih hlog).mpr hbefore
        cases x with
        | created owner k' b' =>
          -- A handle that is created now cannot have been created before.
          have hne : k' ≠ k := fun he => hx (he ▸ hbefore.mem_made)
          rw [Entry.stand, if_neg hne, hstand]
        | released k' wasLive =>
          have hne : k' ≠ k := fun he => hkeep wasLive (he ▸ rfl)
          rw [Entry.stand, if_neg hne, hstand]
        | fetched k' found => exact hstand

theorem made_unique (hn : (made log).Nodup) {x y : Entry} {k : Handle} (hx : x ∈ log)
    (hy : y ∈ log) (hkx : x.made? = some k) (hky : y.made? = some k) : x = y := by
  induction log with
  | nil => cases hx
  | cons z log ih =>
    have hlater : ∀ w ∈ log, w.made? = some k → z.made? ≠ some k := by
      intro w hw hkw hkz
      rw [made, List.filterMap_cons_some hkz] at hn
      exact (List.nodup_cons.mp hn).1 (List.mem_filterMap.mpr ⟨w, hw, hkw⟩)
    rcases List.mem_cons.mp hx with hzx | hxl
    · rcases List.mem_cons.mp hy with hzy | hyl
      · rw [hzx, hzy]
      · exact absurd (hzx ▸ hkx) (hlater y hyl hky)
    · rcases List.mem_cons.mp hy with hzy | hyl
      · exact absurd (hzy ▸ hky) (hlater x hxl hkx)
      · have hsub : (made log).Sublist (made (z :: log)) := (List.sublist_cons_self z log).filterMap _
        exact ih (hn.sublist hsub) hxl hyl

theorem madeBy_sublist (a : Nat) (log : List Entry) : (madeBy a log).Sublist (made log) :=
  List.filter_sublist.filterMap _

theorem not_madeBy (hn : (made log).Nodup) {a : Nat} {owner : Option Nat} {k : Handle} {b : Blob}
    (hmem : .created owner k b ∈ log) (ho : owner ≠ some a) : k ∉ madeBy a log := by
  intro hk
  obtain ⟨y, hy, hky⟩ := List.mem_filterMap.mp hk
  obtain ⟨hylog, hfor⟩ := List.mem_filter.mp hy
  have he : Entry.created owner k b = y := made_unique hn hmem hylog rfl hky
  rw [← he] at hfor
  exact ho (eq_of_beq hfor)

def Publishes (h : Host) (u : CompiledUnit) (r : PublishedResource) : Prop :=
  r.path = u.path ∧ r.media = u.media ∧ h.fetch r.handle = some ⟨u.media, u.text⟩

theorem publishUnits_publishes (hs : h.Sound) (arena : Arena) (us : List CompiledUnit) :
    List.Forall₂ (Publishes (arena.publishUnits h us).2.1) us (arena.publishUnits h us).2.2 := by
  induction us generalizing arena h with
  | nil => exact .nil
  | cons u us ih =>
    have hcreated : (h.create (Arena.blobOf u)).1.Sound := hs.extend [Arena.blobOf u]
    refine .cons ⟨rfl, rfl, ?_⟩ (ih hcreated (arena.publish h (Arena.blobOf u)).1)
    show ((arena.publish h (Arena.blobOf u)).1.publishUnits (h.create (Arena.blobOf u)).1 us).2.1.fetch
      (h.create (Arena.blobOf u)).2 = _
    rw [Arena.publishUnits_spec]
    have hmem : ((h.create (Arena.blobOf u)).2, Arena.blobOf u) ∈
        (h.create (Arena.blobOf u)).1.blobs := List.mem_append_right _ List.mem_cons_self
    rw [Host.fetch_extend, hcreated.fetch_of_mem hmem]
    · rfl
    · intro hnext
      exact Host.next_not_issued hnext
        (hcreated.known _ (List.mem_map_of_mem (f := Prod.fst) hmem))

/-- What a host and the arenas over it answer, and what they still hold, after any operations. -/
structure Kept (d : Depot) (log : List Entry) : Prop where
  distinct : (made log).Nodup
  counted : d.host.live + (freed log).length = (made log).length
  once : (freed log).Nodup
  released : ∀ before k wasLive after, log = before ++ .released k wasLive :: after →
    (wasLive = true ↔ ∃ b, LeadsTo before k b)
  fetched : ∀ before k found after, log = before ++ .fetched k found :: after →
    ∀ b, found = some b ↔ LeadsTo before k b
  live : ∀ k b, d.host.fetch k = some b ↔ LeadsTo log k b
  published : ∀ a arena us, d.arena? a = some arena →
    List.Forall₂ (Publishes (arena.publishUnits d.host us).2.1) us
      (arena.publishUnits d.host us).2.2
  dropped : ∀ a arena, d.arena? a = some arena →
    (∀ k, (arena.discard d.host).1.fetch k =
      if k ∈ madeBy a log then none else d.host.fetch k) ∧
    (arena.discard d.host).2.filter (fun x => x.level = .warn) =
      ((madeBy a log).filter (fun k => (d.host.fetch k).isNone)).map Arena.alreadyReleased
  apart : ∀ a owner k b, .created owner k b ∈ log → owner ≠ some a → k ∉ madeBy a log

theorem Books.made_nodup (hb : Books h log) : (made log).Nodup := hb.issued ▸ h.issued_nodup

theorem discard_warnings (arena : Arena) (h : Host) (hn : arena.handles.Nodup) :
    (arena.discard h).2.filter (fun x => x.level = .warn) =
      (arena.handles.filter (fun k => (h.fetch k).isNone)).map Arena.alreadyReleased := by
  have hwarn : ∀ ks : List Handle,
      (ks.map Arena.alreadyReleased).filter (fun x => x.level = .warn) =
        ks.map Arena.alreadyReleased := by
    intro ks
    rw [List.filter_eq_self]
    rintro x hx
    obtain ⟨k, -, rfl⟩ := List.mem_map.mp hx
    rfl
  show ((Arena.releaseEach h arena.handles).2 ++ _).filter _ = _
  rw [Arena.releaseEach_events h hn, List.filter_append, hwarn]
  split <;> exact List.append_nil _

theorem Valid.kept (hv : Valid d log) : Kept d log := by
  have hb := hv.books
  have hn : (made log).Nodup := hb.made_nodup
  have hlead : ∀ {before x after}, log = before ++ x :: after →
      ∀ k b, standing before k = some b ↔ LeadsTo before k b := by
    rintro before x after rfl k b
    refine standing_eq_some_iff (fun before' y after' he => ?_)
    refine hb.consistent before' y (after' ++ x :: after) ?_
    rw [he, List.append_assoc, List.cons_append]
  constructor
  case distinct => exact hn
  case counted =>
    have hlength := hb.accounted.length_eq
    rwa [List.length_append, Host.handles, List.length_map] at hlength
  case once => exact (List.nodup_append.mp (hb.accounted.nodup_iff.mpr hn)).2.1
  case released =>
    intro before k wasLive after he
    have hfollows : wasLive = (standing before k).isSome := hb.consistent before _ after he
    rw [hfollows, Option.isSome_iff_exists]
    exact exists_congr (hlead he k)
  case fetched =>
    intro before k found after he b
    have hfollows : found = standing before k := hb.consistent before _ after he
    rw [hfollows]
    exact hlead he k b
  case live =>
    intro k b
    rw [hb.standing]
    exact standing_eq_some_iff hb.consistent
  case published => exact fun a arena us _ => publishUnits_publishes hb.sound arena us
  case dropped =>
    intro a arena ha
    have howned := hv.owned a arena ha
    refine ⟨fun k => ?_, ?_⟩
    · rw [Arena.discard_host, Arena.withoutHandles_fetch, howned]
    · rw [discard_warnings arena d.host (howned ▸ hn.sublist (madeBy_sublist a log)), howned]
  case apart => exact fun a owner k b hmem ho => not_madeBy hn hmem ho

theorem run_kept (origin : String) (ops : List Operation) :
    Kept (run { host := { origin := origin } } ops).1
      (run { host := { origin := origin } } ops).2 :=
  ((start_valid origin).run ops).kept

end Depot

end LivePreview
