import LivePreview.Proofs.Turn

namespace LivePreview

open Occurrence

theorem made_nil (g : Option Nat) {old new : Host} (hc : new.created = old.created) :
    made g old new = [] := by
  cases g with
  | none => rfl
  | some g => simp [made, Host.issued, hc]

theorem made_congr (g : Option Nat) {old old' : Host} (new : Host)
    (hc : old.created = old'.created) : made g old new = made g old' new := by
  cases g with
  | none => rfl
  | some g => simp only [made, hc]

namespace Controller

theorem landed_generation (c : Controller) (h : Host) (n : Nat)
    (r : Except BuildError Generation) : (c.landed h n r).2.1.generation? = some n := by
  rcases finish_generation (c.withHost h) n r with ho | ho | ho <;> rw [landed, ho] <;> rfl

theorem proceed_path (c : Controller) (fs : List Flight) (f : Flight) (gs : List Flight)
    (m : Moment) :
    let r := c.proceed f.generation (f.advance c.engine c.host m)
    (∃ j, r.2.1 = .building j ∧ j.generation = f.generation ∧ r.1 = c ∧
      Path ⟨c, fs ++ f :: gs, true⟩ [] r.2.2.events ⟨r.1, fs ++ .running j :: gs, true⟩) ∨
    (∃ o, r.2.1 = .done o ∧ o.generation? = some f.generation ∧
      Path ⟨c, fs ++ f :: gs, true⟩ (made (some f.generation) c.host r.1.host ++ [.completed o])
        r.2.2.events ⟨r.1, fs ++ gs, true⟩) := by
  rcases hf : f.advance c.engine c.host m with ⟨h, j | r, t⟩
  · obtain ⟨rfl, hg⟩ := Flight.advance_pending hf
    exact .inl ⟨j, rfl, hg, rfl, .single (.wait c fs f gs m j t hf)⟩
  · exact .inr ⟨_, rfl, c.landed_generation h _ r, .single (.finish c fs f gs m h r t hf)⟩

theorem resume_path (c : Controller) (fs : List Flight) (j : Job) (gs : List Flight) (m : Moment) :
    let r := c.resume m j
    (∃ j', r.2.1 = .building j' ∧ r.1 = c ∧
      Path ⟨c, fs ++ .running j :: gs, true⟩ [] r.2.2.events ⟨r.1, fs ++ .running j' :: gs, true⟩) ∨
    (∃ o, r.2.1 = .done o ∧ o.generation? = some j.generation ∧
      Path ⟨c, fs ++ .running j :: gs, true⟩
        (made (some j.generation) c.host r.1.host ++ [.completed o])
        r.2.2.events ⟨r.1, fs ++ gs, true⟩) := by
  rcases c.proceed_path fs (.running j) gs m with ⟨j', hj, -, hc, hpath⟩ | hdone
  · exact .inl ⟨j', hj, hc, hpath⟩
  · exact .inr hdone

theorem claim_created (c : Controller) : c.claim.1.host.created = c.host.created := by
  rw [claim_fst]
  rfl

theorem claim_latest (c : Controller) : c.claim.1.latest = c.latest + 1 := by
  rw [claim_fst]

theorem build_path (c : Controller) (fs gs : List Flight) (m : Moment) (project : List Node)
    (hp : c.project = some project) :
    let r := c.build m project
    (∃ j, r.2.1 = .building j ∧ j.generation = c.latest + 1 ∧
      r.1.host.created = c.host.created ∧
      Path ⟨c, fs ++ gs, true⟩ [.claimed (c.latest + 1)] r.2.2.events
        ⟨r.1, fs ++ .running j :: gs, true⟩) ∨
    (∃ o, r.2.1 = .done o ∧ o.generation? = some (c.latest + 1) ∧
      Path ⟨c, fs ++ gs, true⟩
        (.claimed (c.latest + 1) ::
          (made (some (c.latest + 1)) c.host r.1.host ++ [.completed o]))
        r.2.2.events ⟨r.1, fs ++ gs, true⟩) := by
  have hclaim := Turn.claim c fs gs project hp
  have hproceed := c.claim.1.proceed_path fs (.fresh (c.latest + 1) project) gs m
  have hbuild : c.build m project = (fun r => (r.1, r.2.1, Trace.log c.claim.2 ++ r.2.2))
      (c.claim.1.proceed c.claim.1.latest (c.claim.1.engine.begin c.claim.1.host m project
        c.claim.1.latest)) := rfl
  rw [hbuild, claim_latest]
  rcases hproceed with ⟨j, hj, hg, hc, hpath⟩ | ⟨o, ho, hg, hpath⟩
  · exact .inl ⟨j, hj, hg, (congrArg (fun c => c.host.created) hc).trans c.claim_created,
      .head hclaim hpath⟩
  · rw [made_congr _ _ c.claim_created] at hpath
    exact .inr ⟨o, ho, hg, .head hclaim hpath⟩

theorem post_path (c : Controller) (fs : List Flight) (port : Nat) (payload : Json) :
    Path ⟨c, fs, true⟩ ((acceptPost port payload).1.toList.map .posted) (c.post port payload).2.2
      ⟨(c.post port payload).1, fs, true⟩ := by
  rcases hacc : acceptPost port payload with ⟨_ | e, es⟩
  · have hdeny := Path.single (.deny ⟨c, fs, true⟩ port payload)
    simpa [post, hacc] using hdeny
  · have hpost := Path.single (.post c fs e es port payload hacc)
    simpa [post, hacc, withInbox] using hpost

end Controller

namespace Session

def flight? (p : Pending) : Option Flight := p.work.job?.map .running

def flights (s : Session) : List Flight := s.pending.filterMap flight?

def stage (s : Session) : Stage := ⟨s.controller, s.flights, s.alive⟩

def Closed (s : Session) : Prop := s.alive = false → s.pending = []

theorem pending_split {s : Session} {i : Nat} {p : Pending} (hi : s.pending[i]? = some p) :
    ∃ ps qs, s.pending = ps ++ p :: qs ∧ s.pending.eraseIdx i = ps ++ qs ∧
      ∀ q, s.pending.set i q = ps ++ q :: qs := by
  obtain ⟨hlt, hget⟩ := List.getElem?_eq_some_iff.mp hi
  refine ⟨s.pending.take i, s.pending.drop (i + 1), ?_, ?_, ?_⟩
  · rw [← hget, List.getElem_cons_drop, List.take_append_drop]
  · exact List.eraseIdx_eq_take_drop_succ s.pending i
  · intro q
    exact List.set_eq_take_append_cons_drop.trans (if_pos hlt)

theorem flights_split (ps qs : List Pending) (p : Pending) :
    (ps ++ p :: qs).filterMap flight? =
      ps.filterMap flight? ++ ((flight? p).toList ++ qs.filterMap flight?) := by
  rw [List.filterMap_append, List.filterMap_cons]
  cases flight? p <;> rfl

theorem forget_controller (s : Session) (p : Pending) :
    (s.forget p).controller = (match p.work.job? with
      | some _ => s.controller.abandon
      | none => s.controller) ∧ (s.forget p).pending = s.pending ∧
      (s.forget p).alive = s.alive := by
  obtain ⟨id, name, w⟩ := p
  cases w <;> exact ⟨rfl, rfl, rfl⟩

theorem forget_path (s : Session) (fs gs : List Flight) (p : Pending) :
    Path ⟨s.controller, fs ++ ((flight? p).toList ++ gs), true⟩ (lost [p]) []
      ⟨(s.forget p).controller, fs ++ gs, true⟩ := by
  obtain ⟨hc, -, -⟩ := forget_controller s p
  rw [hc]
  cases hj : p.work.job? with
  | none => simpa [flight?, lost, hj] using Path.refl _
  | some j =>
    have hp := Path.single (Turn.abandon s.controller fs (.running j) gs)
    simpa [flight?, lost, hj, Flight.generation] using hp

theorem forgetAll_path (s : Session) (drop : Pending → Bool) (fs : List Flight)
    (ps : List Pending) :
    Path ⟨s.controller, fs ++ ps.filterMap flight?, true⟩ (lost (ps.filter drop)) []
      ⟨((ps.filter drop).foldl forget s).controller,
        fs ++ (ps.filter (fun p => !drop p)).filterMap flight?, true⟩ := by
  induction ps generalizing s fs with
  | nil => exact .refl _
  | cons p ps ih =>
    have hsplit : (p :: ps).filterMap flight? = (flight? p).toList ++ ps.filterMap flight? :=
      flights_split [] ps p
    rw [hsplit]
    cases hd : drop p with
    | true =>
      have hlost : lost (p :: ps.filter drop) = lost [p] ++ lost (ps.filter drop) := by
        rw [lost, lost, lost, ← List.map_append, ← List.filterMap_append]
        rfl
      simp only [hd, List.filter_cons_of_pos, hlost, List.foldl_cons]
      have hrest := ih (s.forget p) fs
      have hall := (forget_path s fs (ps.filterMap flight?) p).trans hrest
      simpa [hd] using hall
    | false =>
      have hrest := ih s (fs ++ (flight? p).toList)
      rw [List.append_assoc] at hrest
      have hkeep : (p :: ps).filter (fun p => !drop p) =
          p :: ps.filter (fun p => !drop p) := by
        simp [hd]
      rw [hkeep, show (p :: ps.filter (fun p => !drop p)).filterMap flight? =
        (flight? p).toList ++ (ps.filter (fun p => !drop p)).filterMap flight? from
          flights_split [] _ p]
      simpa [hd] using hrest

theorem foldl_forget_fields (s : Session) (ps : List Pending) :
    (ps.foldl forget s).pending = s.pending ∧ (ps.foldl forget s).alive = s.alive := by
  induction ps generalizing s with
  | nil => exact ⟨rfl, rfl⟩
  | cons p ps ih =>
    obtain ⟨-, hp, ha⟩ := forget_controller s p
    obtain ⟨hp', ha'⟩ := ih (s.forget p)
    exact ⟨hp'.trans hp, ha'.trans ha⟩

theorem heard_withInbox (c : Controller) (is es : List Envelope) :
    heard (c.withInbox is) es = heard c es := by
  induction es generalizing c with
  | nil => rfl
  | cons e es ih =>
    rw [heard, heard, Controller.handle_withInbox c e is]
    exact congrArg _ (ih (c.handle e).1)

theorem heard_path (c : Controller) (fs : List Flight) (es : List Envelope) :
    Path ⟨c.withInbox es, fs, true⟩ (heard (c.withInbox []) es)
      ((c.withInbox []).handleEach es).2.2 ⟨((c.withInbox []).handleEach es).1, fs, true⟩ := by
  induction es generalizing c with
  | nil => exact .refl _
  | cons e es ih =>
    -- A report leaves the inbox alone, so taking all first is the same as taking each in turn.
    have hturn := Turn.receive (c.withInbox (e :: es)) fs e es rfl
    have hone : ((c.withInbox (e :: es)).withInbox es).handle e =
        ((c.handle e).1.withInbox es, (c.handle e).2.1, (c.handle e).2.2) :=
      Controller.handle_withInbox c e es
    rw [hone] at hturn
    rw [heard, Controller.handleEach, Controller.handle_withInbox c e []]
    exact .head hturn (ih (c.handle e).1)

theorem flights_enqueue (s : Session) (name : String) (w : Work) (hw : w.job? = none) :
    (s.enqueue name w).stage = s.stage := by
  simp [stage, flights, enqueue, flight?, hw]

theorem stage_of_alive {s : Session} (ha : s.alive = true) :
    s.stage = ⟨s.controller, s.flights, true⟩ := by
  rw [stage, ha]

def withPending (s : Session) (ps : List Pending) : Session := { s with pending := ps }

theorem stage_foldl_forget (s : Session) (ps : List Pending) :
    (ps.foldl forget s).stage = ⟨(ps.foldl forget s).controller, s.flights, s.alive⟩ := by
  obtain ⟨hp, ha⟩ := foldl_forget_fields s ps
  rw [stage, ha]
  simp only [flights, hp]

theorem cancel_path (s : Session) (ha : s.alive = true) (name : String) :
    Path s.stage (lost (s.pending.filter (fun p => p.name == name))) [] (s.cancel name).1.stage ∧
      (s.cancel name).1.alive = true := by
  let gone := s.pending.filter (fun p => p.name == name)
  let t := s.withPending (s.pending.filter (fun p => !(p.name == name)))
  have hcancel : (s.cancel name).1 = gone.foldl forget t := by
    rw [cancel, List.partition_eq_filter_filter]
    rfl
  have hpath := forgetAll_path t (fun p => p.name == name) [] s.pending
  rw [hcancel, stage_foldl_forget, stage_of_alive ha, show t.alive = true from ha]
  exact ⟨hpath, (foldl_forget_fields t gone).2.trans ha⟩

theorem drop_path (s : Session) (ha : s.alive = true) :
    Path s.stage (lost s.pending) s.drop.2 s.drop.1.stage ∧ s.drop.1.Closed := by
  let t := s.pending.foldl forget (s.withPending [])
  have hnone : t.pending = [] := (foldl_forget_fields (s.withPending []) s.pending).1
  have hpath := forgetAll_path (s.withPending []) (fun _ => true) [] s.pending
  simp only [List.filter_true, Bool.not_true, List.filter_false, List.filterMap_nil,
    List.nil_append] at hpath
  have hclose := Path.single (Turn.close t.controller)
  have hdrop : s.drop = ({ t with
      controller := { t.controller.releaseCurrent.1 with mounted := none }, alive := false },
      t.controller.releaseCurrent.2) := by
    rw [drop, if_pos ha]
    rfl
  have hstage : s.drop.1.stage =
      ⟨{ t.controller.releaseCurrent.1 with mounted := none }, [], false⟩ := by
    rw [hdrop]
    simp only [stage, flights, hnone, List.filterMap_nil]
  refine ⟨?_, fun _ => by rw [hdrop]; exact hnone⟩
  rw [hstage, stage_of_alive ha, show s.drop.2 = t.controller.releaseCurrent.2 by rw [hdrop]]
  have hall := hpath.trans hclose
  rw [List.append_nil, List.nil_append] at hall
  exact hall

theorem live_of_alive {s : Session} (ha : s.alive = true) (k : Session × Reply × List Event) :
    s.live k = k := if_pos ha

theorem closed_of_alive {s : Session} (ha : s.alive = true) : s.Closed := by
  intro hd
  rw [ha] at hd
  cases hd

theorem act_path_alive (s : Session) (ha : s.alive = true) (k : Command)
    (hk : k.foreign = false) :
    Path s.stage (s.told k) (s.act k).2.2 (s.act k).1.stage ∧ (s.act k).1.Closed := by
  have hstill : Path s.stage [] [] s.stage ∧ s.Closed := ⟨.refl _, closed_of_alive ha⟩
  cases k with
  | setProject name project =>
    simp only [act, live_of_alive ha, told, flights_enqueue s name (.setProject project) rfl]
    exact ⟨.refl _, closed_of_alive ha⟩
  | rebuild name =>
    simp only [act, live_of_alive ha, told, flights_enqueue s name .rebuild rfl]
    exact ⟨.refl _, closed_of_alive ha⟩
  | listen name =>
    simp only [act, live_of_alive ha, told, flights_enqueue s name .listen rfl]
    exact ⟨.refl _, closed_of_alive ha⟩
  | cancel name =>
    obtain ⟨hp, hc⟩ := cancel_path s ha name
    exact ⟨hp, closed_of_alive hc⟩
  | takePort =>
    simp only [act, live_of_alive ha, told]
    cases s.controller.mounted <;> exact hstill
  | post port payload =>
    simp only [act, told, if_pos ha]
    cases s.ports[port]? with
    | none => exact hstill
    | some g =>
      refine ⟨?_, closed_of_alive ha⟩
      show Path ⟨s.controller, s.flights, s.alive⟩ _ _ ⟨_, s.flights, s.alive⟩
      rw [ha]
      exact Controller.post_path s.controller s.flights g payload
  | drain =>
    simp only [act, live_of_alive ha, told]
    cases ht : s.turns.isEmpty with
    | true =>
      refine ⟨?_, closed_of_alive ha⟩
      have hpath := heard_path s.controller s.flights s.controller.inbox
      rw [heard_withInbox] at hpath
      rw [if_pos (by rw [ha]; rfl)]
      show Path ⟨s.controller, s.flights, s.alive⟩ _ _ ⟨_, s.flights, s.alive⟩
      rw [ha]
      exact hpath
    | false =>
      rw [if_neg (by rw [ha]; decide)]
      exact hstill
  | handle e =>
    simp only [act, live_of_alive ha, told, if_pos ha]
    refine ⟨?_, closed_of_alive ha⟩
    show Path ⟨s.controller, s.flights, s.alive⟩ _ _ ⟨_, s.flights, s.alive⟩
    rw [ha]
    exact .single (.handle s.controller s.flights e)
  | shutdown =>
    simp only [act, live_of_alive ha, told, if_pos ha]
    refine ⟨?_, closed_of_alive ha⟩
    show Path ⟨s.controller, s.flights, s.alive⟩ _ _ ⟨_, s.flights, s.alive⟩
    rw [ha]
    exact .single (.shutdown s.controller s.flights)
  | drop =>
    simp only [act, told, if_pos ha]
    exact drop_path s ha
  | changed =>
    simp only [act, told]
    cases s.seen <;> exact hstill
  | fetch serial =>
    simp only [act, told]
    cases s.handleAt serial <;> exact hstill
  | release serial => cases hk
  | create text => cases hk
  | openGate gate => exact hstill
  | advance ms => exact hstill
  | _ =>
    simp only [act, live_of_alive ha, told]
    exact hstill

theorem live_of_dead {s : Session} (ha : s.alive = false) (k : Session × Reply × List Event) :
    s.live k = (s, .gone, []) := if_neg (by rw [ha]; decide)

theorem act_path_dead (s : Session) (ha : s.alive = false) (hs : s.pending = []) (k : Command)
    (hk : k.foreign = false) :
    Path s.stage (s.told k) (s.act k).2.2 (s.act k).1.stage ∧ (s.act k).1.Closed := by
  have hstill : Path s.stage [] [] s.stage ∧ s.Closed := ⟨.refl _, fun _ => hs⟩
  have hoff : ¬ s.alive = true := by rw [ha]; decide
  cases k with
  | cancel name =>
    have hcancel : (s.cancel name).1 = s.withPending [] := by
      rw [cancel, hs]
      rfl
    have hsame : s.withPending [] = s := by rw [withPending, ← hs]
    simp only [act, told, hs, hcancel, hsame]
    exact hstill
  | post port payload =>
    simp only [act, told, if_neg hoff]
    cases s.ports[port]? with
    | none => exact hstill
    | some g =>
      dsimp only
      rw [Controller.post_events]
      exact ⟨.single (.deny s.stage g payload), hstill.2⟩
  | changed =>
    simp only [act, told]
    cases s.seen <;> exact hstill
  | fetch serial =>
    simp only [act, told]
    cases s.handleAt serial <;> exact hstill
  | drop =>
    simp only [act, told, drop, if_neg hoff]
    exact hstill
  | drain =>
    simp only [act, told, live_of_dead ha, ha, Bool.false_and]
    exact hstill
  | handle e =>
    simp only [act, told, live_of_dead ha, if_neg hoff]
    exact hstill
  | shutdown =>
    simp only [act, told, live_of_dead ha, if_neg hoff]
    exact hstill
  | release serial => cases hk
  | create text => cases hk
  | openGate gate => exact hstill
  | advance ms => exact hstill
  | _ =>
    simp only [act, told, live_of_dead ha]
    exact hstill

theorem act_path (s : Session) (hs : s.Closed) (k : Command) (hk : k.foreign = false) :
    Path s.stage (s.told k) (s.act k).2.2 (s.act k).1.stage ∧ (s.act k).1.Closed := by
  cases ha : s.alive with
  | true => exact act_path_alive s ha k hk
  | false => exact act_path_dead s ha (hs ha) k hk

theorem listenTurn_cases (s : Session) (id : Nat) :
    s.listenTurn id = (s, none, []) ∨
      ∃ e es rest, s.controller.inbox = e :: es ∧ s.turns = id :: rest ∧
        s.listenTurn id =
          ({ s with controller := ((s.controller.withInbox es).handle e).1, turns := rest },
            some (.message ((s.controller.withInbox es).handle e).2.1),
            ((s.controller.withInbox es).handle e).2.2) := by
  rw [listenTurn]
  cases ht : s.turns with
  | nil => exact .inl rfl
  | cons first rest =>
    dsimp only
    by_cases hid : first = id
    · cases hi : s.controller.inbox with
      | nil =>
        rw [if_pos hid, Controller.receive, hi]
        exact .inl rfl
      | cons e es =>
        rw [if_pos hid, Controller.receive, hi, hid]
        exact .inr ⟨e, es, rest, rfl, rfl, rfl⟩
    · rw [if_neg hid]
      exact .inl rfl

theorem listening_path (s : Session) (fs : List Flight) (id : Nat) :
    let r := pollOne.listening s id
    Path ⟨s.controller, fs, true⟩
        (taken s.controller.inbox r.2.1 ++ ended r.2.1) r.2.2.events ⟨r.1.controller, fs, true⟩ ∧
      target r.2.1 = none ∧ r.1.pending = s.pending ∧ r.1.alive = s.alive ∧
      ∀ w, r.2.1 = .error w → w.job? = none := by
  rw [pollOne.listening]
  rcases listenTurn_cases s id with hno | ⟨e, es, rest, hi, -, hyes⟩
  · rw [hno]
    exact ⟨.refl _, rfl, rfl, rfl, fun w hw => by cases hw; rfl⟩
  · rw [hyes]
    refine ⟨?_, rfl, rfl, rfl, fun w hw => by cases hw⟩
    have hreceive := Turn.receive s.controller fs e es hi
    have hanswer := Turn.answer ⟨((s.controller.withInbox es).handle e).1, fs, true⟩
      (.message ((s.controller.withInbox es).handle e).2.1) rfl
    have hall := Path.head hreceive (.single hanswer)
    rw [List.append_nil] at hall
    rw [hi]
    exact hall

def kept : Except Work Outcome → Option Flight
  | .ok _ => none
  | .error w => w.job?.map .running

theorem ofStep_fields (s : Session) (x : Controller × Controller.Step × Trace) :
    (s.ofStep x).1.controller = x.1 ∧ (s.ofStep x).1.pending = s.pending ∧
      (s.ofStep x).1.alive = s.alive ∧ (s.ofStep x).2.2 = x.2.2 := by
  obtain ⟨c, st, t⟩ := x
  cases st <;> exact ⟨rfl, rfl, rfl, rfl⟩

theorem ofStep_building (s : Session) {x : Controller × Controller.Step × Trace} {j : Job}
    (hx : x.2.1 = .building j) : (s.ofStep x).2.1 = .error (.building j) := by
  obtain ⟨c, st, t⟩ := x
  subst hx
  rfl

theorem ofStep_done (s : Session) {x : Controller × Controller.Step × Trace} {o : Outcome}
    (hx : x.2.1 = .done o) : (s.ofStep x).2.1 = .ok o := by
  obtain ⟨c, st, t⟩ := x
  subst hx
  rfl

theorem taken_of_generation {is : List Envelope} {o : Outcome} {g : Nat}
    (ho : o.generation? = some g) : taken is (.ok o) = [] := by
  cases o <;> first | rfl | cases ho

theorem building_path (s : Session) (fs gs : List Flight) (p : Pending) (j : Job)
    (hw : p.work = .building j) :
    Path ⟨s.controller, fs ++ .running j :: gs, true⟩ (s.polled p) (s.pollOne p).2.2.events
      ⟨(s.pollOne p).1.controller, fs ++ ((kept (s.pollOne p).2.1).toList ++ gs), true⟩ := by
  have hpoll : s.pollOne p = s.ofStep (s.controller.resume s.moment j) := by
    rw [pollOne, hw]
  obtain ⟨hc, -, -, ht⟩ := ofStep_fields s (s.controller.resume s.moment j)
  rw [polled, hpoll, hc, ht, hw]
  rcases s.controller.resume_path fs j gs s.moment with
    ⟨j', hj, hsame, hpath⟩ | ⟨o, ho, hg, hpath⟩
  · rw [ofStep_building s hj, made_nil _ (by rw [hsame])]
    exact hpath
  · rw [ofStep_done s ho, show target (.ok o) = some j.generation from hg, taken_of_generation hg]
    exact hpath

theorem opening_path (s : Session) (c : Controller) (xs : List Occurrence) (fs gs : List Flight)
    (project : List Node) (hp : c.project = some project)
    (hh : c.host.created = s.controller.host.created)
    (hopen : Path ⟨s.controller, fs ++ gs, true⟩ xs [] ⟨c, fs ++ gs, true⟩) :
    let r := s.ofStep (c.build s.moment project)
    Path ⟨s.controller, fs ++ gs, true⟩
      (xs ++ (target r.2.1).toList.map .claimed ++ taken s.controller.inbox r.2.1 ++
        made (target r.2.1) s.controller.host r.1.controller.host ++ ended r.2.1)
      r.2.2.events ⟨r.1.controller, fs ++ ((kept r.2.1).toList ++ gs), true⟩ := by
  obtain ⟨hc, -, -, ht⟩ := ofStep_fields s (c.build s.moment project)
  simp only [hc, ht]
  rcases c.build_path fs gs s.moment project hp with ⟨j, hj, hg, hcr, hpath⟩ | ⟨o, ho, hg, hpath⟩
  · have hall := hopen.trans hpath
    rw [List.nil_append] at hall
    rw [ofStep_building s hj, made_nil _ (hcr.trans hh)]
    simpa [target, Work.job?, hg, taken, ended, kept] using hall
  · have hall := hopen.trans hpath
    rw [List.nil_append, made_congr _ _ hh] at hall
    rw [ofStep_done s ho, show target (.ok o) = some (c.latest + 1) from hg,
      taken_of_generation hg]
    simpa [ended, kept] using hall

theorem heard_polled_path (s t : Session) (fs gs : List Flight) (p : Pending)
    (hpoll : s.pollOne p = pollOne.listening t p.id) (hj : p.work.job? = none)
    (hb : ∀ g, begun g p.work = []) (hc : t.controller = s.controller)
    (hp : t.pending = s.pending) (ha : t.alive = s.alive) :
    let r := s.pollOne p
    Path ⟨s.controller, fs ++ ((flight? p).toList ++ gs), true⟩ (s.polled p) r.2.2.events
        ⟨r.1.controller, fs ++ ((kept r.2.1).toList ++ gs), true⟩ ∧
      r.1.pending = s.pending ∧ r.1.alive = s.alive := by
  obtain ⟨hpath, ht, hp', ha', hw⟩ := listening_path t (fs ++ gs) p.id
  rw [polled, hpoll, ht, hb, flight?, hj]
  refine ⟨?_, hp'.trans hp, ha'.trans ha⟩
  have hkept : kept (pollOne.listening t p.id).2.1 = none := by
    cases hr : (pollOne.listening t p.id).2.1 with
    | ok o => rfl
    | error w => rw [kept, hw w hr]; rfl
  rw [hkept, ← hc]
  simpa [made] using hpath

theorem polled_path (s : Session) (fs gs : List Flight) (p : Pending) :
    let r := s.pollOne p
    Path ⟨s.controller, fs ++ ((flight? p).toList ++ gs), true⟩ (s.polled p) r.2.2.events
        ⟨r.1.controller, fs ++ ((kept r.2.1).toList ++ gs), true⟩ ∧
      r.1.pending = s.pending ∧ r.1.alive = s.alive := by
  obtain ⟨id, name, w⟩ := p
  cases w with
  | building j =>
    obtain ⟨-, hp, ha, -⟩ := ofStep_fields s (s.controller.resume s.moment j)
    exact ⟨building_path s fs gs ⟨id, name, .building j⟩ j rfl, hp, ha⟩
  | setProject project =>
    obtain ⟨-, hp, ha, -⟩ := ofStep_fields s (s.controller.setProject s.moment project)
    refine ⟨?_, hp, ha⟩
    have hgive := Path.single (.give s.controller (fs ++ gs) project)
    exact opening_path s { s.controller with project := some project } [.given project] fs gs
      project rfl rfl hgive
  | rebuild =>
    obtain ⟨-, hp, ha, -⟩ := ofStep_fields s (s.controller.rebuild s.moment)
    refine ⟨?_, hp, ha⟩
    cases hproj : s.controller.project with
    | some project =>
      have hpoll : s.pollOne ⟨id, name, .rebuild⟩ =
          s.ofStep (s.controller.build s.moment project) := by
        rw [pollOne, Controller.rebuild, hproj]
      rw [polled, hpoll]
      exact opening_path s s.controller [] fs gs project hproj rfl (.refl _)
    | none =>
      have hpoll : s.pollOne ⟨id, name, .rebuild⟩ = (s, .ok .noProject, {}) := by
        rw [pollOne, Controller.rebuild, hproj]
        rfl
      rw [polled, hpoll]
      exact .single (.answer ⟨s.controller, fs ++ gs, true⟩ .noProject rfl)
  | listen =>
    exact heard_polled_path s { s with turns := s.turns ++ [id] } fs gs ⟨id, name, .listen⟩ rfl rfl
      (fun _ => rfl) rfl rfl rfl
  | listening =>
    exact heard_polled_path s s fs gs ⟨id, name, .listening⟩ rfl rfl (fun _ => rfl) rfl rfl rfl

theorem poll_path (s : Session) (hs : s.Closed) (i : Nat) (p : Pending)
    (hi : s.pending[i]? = some p) :
    Path s.stage (s.polled p) (s.pollOne p).2.2.events
        ((s.pollOne p).1.settle i p (s.pollOne p).2.1).stage ∧
      ((s.pollOne p).1.settle i p (s.pollOne p).2.1).Closed := by
  obtain ⟨ps, qs, hsplit, herase, hset⟩ := pending_split hi
  have ha : s.alive = true := by
    cases hal : s.alive with
    | true => rfl
    | false => rw [hs hal] at hi; cases hi
  obtain ⟨hpath, hp, hal⟩ := polled_path s (ps.filterMap flight?) (qs.filterMap flight?) p
  have hstage : s.stage = ⟨s.controller, ps.filterMap flight? ++
      ((flight? p).toList ++ qs.filterMap flight?), true⟩ := by
    rw [stage_of_alive ha, flights, hsplit, flights_split]
  have hsettle : ((s.pollOne p).1.settle i p (s.pollOne p).2.1).stage =
      ⟨(s.pollOne p).1.controller, ps.filterMap flight? ++
        ((kept (s.pollOne p).2.1).toList ++ qs.filterMap flight?), true⟩ := by
    cases hr : (s.pollOne p).2.1 with
    | ok o =>
      simp only [settle, stage, flights, hp, herase, hal, ha, List.filterMap_append]
      rfl
    | error w =>
      simp only [settle, stage, flights, hp, hset, hal, ha, flights_split]
      rfl
  have hclosed : ((s.pollOne p).1.settle i p (s.pollOne p).2.1).alive = true := by
    cases (s.pollOne p).2.1 <;> exact hal.trans ha
  exact ⟨by rw [hstage, hsettle]; exact hpath, closed_of_alive hclosed⟩

theorem forgetOne_path (s : Session) (hs : s.Closed) (i : Nat) (p : Pending)
    (hi : s.pending[i]? = some p) :
    Path s.stage (lost [p]) [] ({ s with pending := s.pending.eraseIdx i }.forget p).stage ∧
      ({ s with pending := s.pending.eraseIdx i }.forget p).Closed := by
  obtain ⟨ps, qs, hsplit, herase, -⟩ := pending_split hi
  have ha : s.alive = true := by
    cases hal : s.alive with
    | true => rfl
    | false => rw [hs hal] at hi; cases hi
  let t := s.withPending (s.pending.eraseIdx i)
  obtain ⟨-, hp, hal⟩ := forget_controller t p
  have hpath := forget_path t (ps.filterMap flight?) (qs.filterMap flight?) p
  have hstage : s.stage = ⟨s.controller, ps.filterMap flight? ++
      ((flight? p).toList ++ qs.filterMap flight?), true⟩ := by
    rw [stage_of_alive ha, flights, hsplit, flights_split]
  have hend : (t.forget p).stage = ⟨(t.forget p).controller,
      ps.filterMap flight? ++ qs.filterMap flight?, true⟩ := by
    rw [stage, hal, flights, hp, show t.pending = ps ++ qs from herase, List.filterMap_append,
      show t.alive = true from ha]
  exact ⟨by rw [hstage]; exact hend ▸ hpath, closed_of_alive (hal.trans ha)⟩

theorem move_path (s : Session) (hs : s.Closed) (m : Move) (hm : m.foreign = false) :
    Path s.stage (s.occurrences m) (s.log m) (s.move m).stage ∧ (s.move m).Closed := by
  cases m with
  | command k => exact act_path s hs k hm
  | poll i =>
    simp only [occurrences, log, move]
    cases hi : s.pending[i]? with
    | none => exact ⟨.refl _, hs⟩
    | some p => exact poll_path s hs i p hi
  | forget i =>
    simp only [occurrences, log, move]
    cases hi : s.pending[i]? with
    | none => exact ⟨.refl _, hs⟩
    | some p => exact forgetOne_path s hs i p hi

end Session

end LivePreview
