import LivePreview.Proofs.Path

namespace LivePreview

def Work.waits : Work → Bool
  | .listening => true
  | _ => false

theorem Work.waits_iff {w : Work} : w.waits = true ↔ w = .listening := by
  cases w <;> simp [waits]

def Command.schedules : Command → Bool
  | .setProject _ _ => true
  | .rebuild _ => true
  | .listen _ => true
  | .cancel _ => true
  | .drop => true
  | _ => false

namespace Session

def listeners (ps : List Pending) : List Nat :=
  (ps.filter (fun p => p.work.waits)).map Pending.id

structure Queued (s : Session) : Prop where
  fresh : ∀ p ∈ s.pending, p.id < s.nextId
  distinct : (s.pending.map Pending.id).Nodup
  turns : s.turns.Perm (listeners s.pending)

variable {s t : Session} {p : Pending} {i : Nat}

theorem listeners_append (ps qs : List Pending) :
    listeners (ps ++ qs) = listeners ps ++ listeners qs := by
  simp [listeners]

theorem listeners_sublist (ps : List Pending) : (listeners ps).Sublist (ps.map Pending.id) :=
  List.filter_sublist.map _

theorem listeners_perm {ps qs : List Pending} (h : ps.Perm qs) :
    (listeners ps).Perm (listeners qs) :=
  (h.filter _).map _

theorem mem_listeners {ps : List Pending} {n : Nat} :
    n ∈ listeners ps ↔ ∃ p ∈ ps, p.work = .listening ∧ p.id = n := by
  simp only [listeners, List.mem_map, List.mem_filter, Work.waits_iff, and_assoc]

theorem listeners_eq_nil_iff {ps : List Pending} :
    listeners ps = [] ↔ ∀ p ∈ ps, p.work ≠ .listening := by
  simp only [listeners, List.map_eq_nil_iff, List.filter_eq_nil_iff, Work.waits_iff, ne_eq]

theorem Queued.frame (h : s.Queued) (hp : t.pending = s.pending) (hn : t.nextId = s.nextId)
    (ht : t.turns = s.turns) : t.Queued :=
  ⟨by rw [hp, hn]; exact h.fresh, by rw [hp]; exact h.distinct, by rw [hp, ht]; exact h.turns⟩

theorem Queued.turns_nodup (h : s.Queued) : s.turns.Nodup :=
  h.turns.nodup_iff.mpr (h.distinct.sublist (listeners_sublist _))

theorem Queued.leave (h : s.Queued) (gone kept : List Pending)
    (hs : s.pending.Perm (gone ++ kept)) (hp : t.pending = kept) (hn : t.nextId = s.nextId)
    (ht : t.turns = s.turns.filter (fun n => decide (n ∉ listeners gone))) : t.Queued := by
  have hids : (gone.map Pending.id ++ kept.map Pending.id).Nodup := by
    rw [← List.map_append]
    exact (hs.map Pending.id).nodup_iff.mp h.distinct
  obtain ⟨-, hkept, hapart⟩ := List.nodup_append.mp hids
  have hturns : s.turns.Perm (listeners gone ++ listeners kept) :=
    listeners_append gone kept ▸ h.turns.trans (listeners_perm hs)
  have hgone : (listeners gone).filter (fun n => decide (n ∉ listeners gone)) = [] := by
    rw [List.filter_eq_nil_iff]
    exact fun n hn => by simpa using hn
  have hrest : (listeners kept).filter (fun n => decide (n ∉ listeners gone)) =
      listeners kept := by
    rw [List.filter_eq_self]
    intro n hn
    refine decide_eq_true (fun hg => ?_)
    exact hapart n ((listeners_sublist gone).subset hg) n ((listeners_sublist kept).subset hn) rfl
  refine ⟨fun p hm => ?_, hp ▸ hkept, ?_⟩
  · rw [hn]
    exact h.fresh p (hs.mem_iff.mpr (List.mem_append_right gone (hp ▸ hm)))
  · have hf := hturns.filter (fun n => decide (n ∉ listeners gone))
    rw [List.filter_append, hgone, hrest, List.nil_append] at hf
    rw [ht, hp]
    exact hf

theorem Queued.enqueue (h : s.Queued) (name : String) {w : Work} (hw : w.waits = false) :
    (s.enqueue name w).Queued := by
  refine ⟨fun p hp => ?_, ?_, ?_⟩
  · rcases List.mem_append.mp hp with hp | hp
    · exact Nat.lt_succ_of_lt (h.fresh p hp)
    · rw [List.mem_singleton.mp hp]
      exact Nat.lt_succ_self _
  · show ((s.pending ++ [(⟨s.nextId, name, w⟩ : Pending)]).map Pending.id).Nodup
    rw [List.map_append]
    refine List.nodup_append.mpr ⟨h.distinct, List.nodup_singleton _, ?_⟩
    rintro n hn n' hn' rfl
    obtain ⟨p, hp, he⟩ := List.mem_map.mp hn
    exact Nat.ne_of_lt (h.fresh p hp) (he.trans (List.mem_singleton.mp hn'))
  · show s.turns.Perm (listeners (s.pending ++ [⟨s.nextId, name, w⟩]))
    have hnone : listeners [(⟨s.nextId, name, w⟩ : Pending)] = [] := by simp [listeners, hw]
    rw [listeners_append, hnone, List.append_nil]
    exact h.turns

theorem forget_turns (s : Session) (p : Pending) :
    (s.forget p).turns = s.turns.filter (fun n => decide (n ∉ listeners [p])) ∧
      (s.forget p).nextId = s.nextId := by
  obtain ⟨id, name, w⟩ := p
  cases w <;> simp [forget, listeners, Work.waits]

theorem foldl_forget_turns (s : Session) (ps : List Pending) :
    (ps.foldl forget s).turns = s.turns.filter (fun n => decide (n ∉ listeners ps)) ∧
      (ps.foldl forget s).nextId = s.nextId := by
  induction ps generalizing s with
  | nil => simp [listeners]
  | cons p ps ih =>
    obtain ⟨ht, hn⟩ := ih (s.forget p)
    obtain ⟨hp, hn'⟩ := s.forget_turns p
    refine ⟨?_, hn.trans hn'⟩
    rw [List.foldl_cons, ht, hp, List.filter_filter]
    apply List.filter_congr
    intro n _
    have hsplit : listeners (p :: ps) = listeners [p] ++ listeners ps := listeners_append [p] ps
    rw [hsplit, ← Bool.decide_and]
    simp only [List.mem_append, not_or, and_comm]

theorem Queued.forgetAll (h : s.Queued) (gone kept : List Pending)
    (hs : s.pending.Perm (gone ++ kept)) : (gone.foldl forget (s.withPending kept)).Queued := by
  obtain ⟨ht, hn⟩ := foldl_forget_turns (s.withPending kept) gone
  exact h.leave gone kept hs (foldl_forget_fields _ gone).1 hn ht

theorem act_keeps (s : Session) (k : Command) (hk : k.schedules = false) :
    (s.act k).1.pending = s.pending ∧ (s.act k).1.nextId = s.nextId ∧
      (s.act k).1.turns = s.turns := by
  cases k <;> first
    | cases hk; done
    | simp only [act, live]
      repeat' split
      all_goals simp [withHost]

theorem Queued.act (h : s.Queued) (k : Command) : (s.act k).1.Queued := by
  have hlive : ∀ x, x.1.Queued → (s.live x).1.Queued := by
    intro x hx
    rw [live]
    split
    · exact hx
    · exact h
  cases hk : k.schedules with
  | false =>
    obtain ⟨hp, hn, ht⟩ := s.act_keeps k hk
    exact h.frame hp hn ht
  | true =>
    cases k with
    | setProject name project => exact hlive _ (h.enqueue name rfl)
    | rebuild name => exact hlive _ (h.enqueue name rfl)
    | listen name => exact hlive _ (h.enqueue name rfl)
    | cancel name =>
      simp only [Session.act, cancel, List.partition_eq_filter_filter]
      exact h.forgetAll _ _ (List.filter_append_perm _ _).symm
    | drop =>
      simp only [Session.act, drop]
      split
      · have hall := h.forgetAll s.pending [] (by rw [List.append_nil])
        exact hall.frame rfl rfl rfl
      · exact h
    | _ => cases hk

theorem ofStep_queue (s : Session) (x : Controller × Controller.Step × Trace) :
    (s.ofStep x).1.nextId = s.nextId ∧ (s.ofStep x).1.turns = s.turns ∧
      ∀ w, (s.ofStep x).2.1 = .error w → w.waits = false := by
  obtain ⟨c, st, t⟩ := x
  cases st with
  | building j => exact ⟨rfl, rfl, fun w hw => by cases hw; rfl⟩
  | done o => exact ⟨rfl, rfl, fun w hw => by cases hw⟩

theorem Queued.reword (h : s.Queued) {ps qs : List Pending} {w : Work}
    (hs : s.pending = ps ++ p :: qs) (hw : w.waits = p.work.waits)
    (hp : t.pending = ps ++ { p with work := w } :: qs) (hn : t.nextId = s.nextId)
    (ht : t.turns = s.turns) : t.Queued := by
  obtain ⟨hfresh, hdistinct, hturns⟩ := h
  rw [hs] at hfresh hdistinct hturns
  have hids : t.pending.map Pending.id = (ps ++ p :: qs).map Pending.id := by simp [hp]
  have hlisten : listeners t.pending = listeners (ps ++ p :: qs) := by
    simp only [hp, listeners, List.filter_append, List.filter_cons, hw, List.map_append]
    split <;> rfl
  refine ⟨fun q hq => ?_, hids ▸ hdistinct, ?_⟩
  · have hmem : q.id ∈ (ps ++ p :: qs).map Pending.id := hids ▸ List.mem_map_of_mem hq
    obtain ⟨q', hq', he⟩ := List.mem_map.mp hmem
    rw [hn, ← he]
    exact hfresh q' hq'
  · rw [ht, hlisten]
    exact hturns

theorem Queued.settle_step (h : s.Queued) (hi : s.pending[i]? = some p)
    (hw : p.work.waits = false) (x : Controller × Controller.Step × Trace) :
    ((s.ofStep x).1.settle i p (s.ofStep x).2.1).Queued := by
  obtain ⟨ps, qs, hsplit, herase, hset⟩ := pending_split hi
  obtain ⟨-, hp, -, -⟩ := ofStep_fields s x
  obtain ⟨hn, ht, hwork⟩ := ofStep_queue s x
  cases hr : (s.ofStep x).2.1 with
  | ok o =>
    refine h.leave [p] (ps ++ qs) (hsplit ▸ List.perm_middle) ?_ hn ?_
    · rw [settle, hp, herase]
    · have hnone : listeners [p] = [] := by simp [listeners, hw]
      rw [settle, ht, hnone]
      simp
  | error w =>
    refine h.reword hsplit ((hwork w hr).trans hw.symm) ?_ hn ht
    rw [settle, hp, hset]

theorem Queued.settle_listening (h : s.Queued) (hi : s.pending[i]? = some p)
    (hw : p.work = .listening) :
    ((pollOne.listening s p.id).1.settle i p (pollOne.listening s p.id).2.1).Queued := by
  obtain ⟨ps, qs, hsplit, herase, hset⟩ := pending_split hi
  rw [pollOne.listening]
  rcases listenTurn_cases s p.id with hno | ⟨e, es, rest, -, ht, hyes⟩
  · rw [hno]
    exact h.reword hsplit (by rw [hw]) (hset _) rfl rfl
  · rw [hyes]
    refine h.leave [p] (ps ++ qs) (hsplit ▸ List.perm_middle) herase rfl ?_
    have hturns : (p.id :: rest).Nodup := ht ▸ h.turns_nodup
    have hone : listeners [p] = [p.id] := by simp [listeners, Work.waits_iff, hw]
    have hrest : rest.filter (fun n => decide (n ∉ [p.id])) = rest := by
      rw [List.filter_eq_self]
      rintro n hn
      refine decide_eq_true (fun he => ?_)
      exact (List.nodup_cons.mp hturns).1 (List.mem_singleton.mp he ▸ hn)
    rw [ht, hone, List.filter_cons_of_neg (by simp), hrest]
    rfl

def joined (s : Session) (i : Nat) (p : Pending) : Session :=
  { s with turns := s.turns ++ [p.id], pending := s.pending.set i { p with work := .listening } }

theorem Queued.joined (h : s.Queued) (hi : s.pending[i]? = some p) (hw : p.work = .listen) :
    (s.joined i p).Queued := by
  obtain ⟨ps, qs, hsplit, -, hset⟩ := pending_split hi
  obtain ⟨hfresh, hdistinct, hturns⟩ := h
  have hp : (s.joined i p).pending = ps ++ { p with work := .listening } :: qs := hset _
  have hids : (s.joined i p).pending.map Pending.id = s.pending.map Pending.id := by
    simp [hp, hsplit]
  refine ⟨fun q hq => ?_, hids ▸ hdistinct, ?_⟩
  · have hmem : q.id ∈ s.pending.map Pending.id := hids ▸ List.mem_map_of_mem hq
    obtain ⟨q', hq', he⟩ := List.mem_map.mp hmem
    exact he ▸ hfresh q' hq'
  · have hold : listeners s.pending = listeners (ps ++ qs) := by
      simp [hsplit, listeners, Work.waits, hw]
    have hnew : (listeners (s.joined i p).pending).Perm (p.id :: listeners (ps ++ qs)) := by
      rw [hp]
      exact (listeners_perm List.perm_middle).trans (.of_eq rfl)
    rw [hold] at hturns
    exact ((List.perm_append_singleton _ _).trans (hturns.cons _)).trans hnew.symm

theorem settle_listen (s : Session) (i : Nat) (p : Pending) :
    let r := pollOne.listening { s with turns := s.turns ++ [p.id] } p.id
    let r' := pollOne.listening (s.joined i p) p.id
    r.1.settle i p r.2.1 = r'.1.settle i { p with work := .listening } r'.2.1 := by
  have hjoin := listening_pending { s with turns := s.turns ++ [p.id] }
    (s.pending.set i { p with work := .listening }) p.id
  have hsame : (pollOne.listening { s with turns := s.turns ++ [p.id] } p.id).1.pending =
      s.pending := (listening_path { s with turns := s.turns ++ [p.id] } [] p.id).2.2.1
  dsimp only
  rw [show s.joined i p = _ from rfl, joined, hjoin]
  cases (pollOne.listening { s with turns := s.turns ++ [p.id] } p.id).2.1 with
  | ok o => simp only [settle, hsame, List.eraseIdx_set_eq]
  | error w => simp only [settle, hsame, List.set_set]

theorem Queued.poll (h : s.Queued) (hi : s.pending[i]? = some p) :
    ((s.pollOne p).1.settle i p (s.pollOne p).2.1).Queued := by
  cases hw : p.work with
  | setProject project =>
    rw [pollOne, hw]
    exact h.settle_step hi (by rw [hw]; rfl) _
  | rebuild =>
    rw [pollOne, hw]
    exact h.settle_step hi (by rw [hw]; rfl) _
  | building j =>
    rw [pollOne, hw]
    exact h.settle_step hi (by rw [hw]; rfl) _
  | listening =>
    rw [pollOne, hw]
    exact h.settle_listening hi hw
  | listen =>
    rw [pollOne, hw]
    dsimp only
    rw [settle_listen s i p]
    obtain ⟨hlt, -⟩ := List.getElem?_eq_some_iff.mp hi
    exact (h.joined hi hw).settle_listening (p := { p with work := .listening })
      (List.getElem?_set_self hlt) rfl

theorem Queued.move (h : s.Queued) (m : Move) : (s.move m).Queued := by
  cases m with
  | command k => exact h.act k
  | poll i =>
    simp only [Session.move]
    cases hi : s.pending[i]? with
    | none => exact h
    | some p => exact h.poll hi
  | forget i =>
    simp only [Session.move]
    cases hi : s.pending[i]? with
    | none => exact h
    | some p =>
      obtain ⟨ps, qs, hsplit, herase, -⟩ := pending_split hi
      refine h.forgetAll [p] _ ?_
      rw [herase, hsplit]
      exact List.perm_middle

theorem start_queued (e : Engine) (origin : String) : (start e origin).Queued :=
  ⟨nofun, List.nodup_nil, .nil⟩

theorem run_queued (h : s.Queued) (ms : List Move) : (s.run ms).Queued := by
  induction ms generalizing s with
  | nil => exact h
  | cons m ms ih => exact ih (h.move m)

end Session

end LivePreview
