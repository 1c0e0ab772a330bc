import ProbeKit.Proofs.Scan.Accepting
import ProbeKit.Proofs.Session.Runs

/-!
# Steps of a session that watches

While a project is watched its files are edited, notices are delivered in the order in which they
were made, timers fire, and builds begin and end.  `Watched.Watches` is what stays true: whatever is
not known as it is, is about to be looked at.  Every step keeps it, unless a run of the scheduler
has failed or an event has interrupted the watching (`Watched.Watches.step`).
-/

namespace ProbeKit

open Act Session

/-- The last run of the scheduler has failed, or an event could not be handled. -/
def Session.Broken (s : Session) : Prop := s.Failed ∨ s.Interrupted

namespace Watched

/-- The notices that name a path. -/
def mentions (p : Path) (notices : List Notice) : List Notice :=
  notices.filter fun n => n.names.contains p.text

/-- A session knows a source as it is or is about to look at it.  In particular, if the last notice
about it says that it was removed, it is not there. -/
structure Tracks (P : Watched) (s : Session) (p : Path) : Prop where
  /-- The source is known as it is, has a timer, or is named by a notice that waits. -/
  found : P.Fresh s.workspace p ∨ (∃ f, s.front = some f ∧ f.HasTimer p) ∨
    mentions p s.notices ≠ []
  /-- If the last notice says that the source was removed it is not there. -/
  last : ∀ n, (mentions p s.notices).getLast? = some n → n.kind = .unlink →
    Scanner.reading? s.desk.disk p = none

/-- A front end that delivers events and has timers for sources only. -/
structure Looks (P : Watched) (f : FrontEnd) : Prop where
  /-- Events are delivered. -/
  ready : f.ready = true
  /-- The timers are told apart. -/
  inOrder : f.InOrder
  /-- They are set for sources. -/
  sources : ∀ t ∈ f.timers, P.scanner.Sees t.path ∧ t.path.Clean

/-- A session that watches, whatever phase the builds are in. -/
structure Follows (P : Watched) (s : Session) : Prop where
  /-- The workspace fits. -/
  fits : P.Fits s.workspace
  /-- There is a front end. -/
  front : ∃ f, s.front = some f ∧ P.Looks f
  /-- Reports reach it, unless there is nothing to report. -/
  connected : s.connected = some s.frontNumber ∨ s.connected = none ∧ P.scanner.roots = []
  /-- The watching has not ended. -/
  signal : ∃ waiter, s.signal = some ⟨none, waiter⟩
  /-- Nothing unexpected is ready. -/
  jobs : ∀ job ∈ s.ready, P.Expected s.frontNumber job
  /-- No source is lost. -/
  tracks : ∀ p, P.scanner.Sees p → p.Clean → P.Tracks s p

/-- A session that watches. -/
structure Watches (P : Watched) (s : Session) : Prop extends P.Follows s where
  /-- The builds are in one of their phases. -/
  phase : P.Phase s

/-- The steps of a session that watches. -/
inductive Step (P : Watched) (s : Session) : Session → Prop where
  /-- Someone edits files, and the file system reports it. -/
  | edit {r : NativeReport} {d : Disk} (hedit : P.Edit s.desk.disk r d) :
      Step P s ((s.withDesk { s.desk with disk := d }).report r).2
  /-- Something that is ready goes on; of the notices only the oldest one. -/
  | perform {before after : List Job} {job : Job} (hready : s.ready = before ++ job :: after)
      (hfirst : ∀ n, job.notice? = some n → before.filterMap Job.notice? = []) :
      Step P s ({ s with ready := before ++ after }.perform job)
  /-- A timer fires. -/
  | timer (number : Nat) : Step P s (s.perform (.timer s.frontNumber number))
  /-- The build command that runs ends well. -/
  | endBuild : Step P s (s.endBuild 0).2
  /-- Time passes. -/
  | tick (now : Nat) : Step P s (s.withDesk { s.desk with now })

variable {P : Watched} {s s' : Session} {n : Notice} {paths : List Path} {p : Path}

/-! ### Mentions -/

theorem mem_names_iff (h : n.About paths) (hp : p.Clean) : p.text ∈ n.names ↔ p ∈ paths := by
  rw [h.names, List.mem_map]
  constructor
  · rintro ⟨q, hq, htext⟩
    exact (Path.text_inj (h.proper q hq).clean hp).1 htext ▸ hq
  · intro hmem
    exact ⟨p, hmem, rfl⟩

theorem mentions_cons (p : Path) (n : Notice) (rest : List Notice) :
    mentions p (n :: rest) =
      if n.names.contains p.text then n :: mentions p rest else mentions p rest :=
  List.filter_cons

theorem mentions_append (p : Path) (ns ns' : List Notice) :
    mentions p (ns ++ ns') = mentions p ns ++ mentions p ns' := List.filter_append _ _

/-! ### What is kept -/

theorem Follows.of_kept {about : Path → Prop} (h : P.Follows s) (hk : P.Kept about s s')
    (habout : ∀ p, P.scanner.Sees p → p.Clean → about p → P.Fresh s'.workspace p) :
    P.Follows s' := by
  refine ⟨hk.fits, hk.front ▸ h.front, ?_, hk.signal ▸ h.signal, hk.jobs h.jobs, ?_⟩
  · rw [hk.connected, hk.frontNumber]
    exact h.connected
  intro p hp hclean
  have ht := h.tracks p hp hclean
  refine ⟨?_, fun n hn hunlink => ?_⟩
  · rw [hk.front, hk.notices]
    refine ht.found.imp_left fun hfresh => ?_
    by_cases hmine : about p
    · exact habout p hp hclean hmine
    · exact hk.fresh p hp hclean hmine hfresh
  · rw [hk.notices] at hn
    exact (hk.declared p hp).trans (ht.last n hn hunlink)

/-- What is ready of a run, or to be told, may go without being missed. -/
theorem Follows.of_ready (h : P.Follows s) {ready : List Job} (hsub : ∀ job ∈ ready, job ∈ s.ready)
    (hnotices : ready.filterMap Job.notice? = s.notices) : P.Follows { s with ready } := by
  refine ⟨h.fits, h.front, h.connected, h.signal, fun job hjob => h.jobs job (hsub job hjob), ?_⟩
  intro p hp hclean
  have ht := h.tracks p hp hclean
  have hsame : ({ s with ready } : Session).notices = s.notices := hnotices
  refine ⟨?_, fun n hn => ?_⟩
  · rw [hsame]
    exact ht.found
  · rw [hsame] at hn
    exact ht.last n hn

/-- With other things ready, but the same of a run, a phase goes on. -/
theorem Phase.of_ready (h : P.Phase s) (hfits : P.Fits s.workspace) {s' : Session}
    (hworkspace : s'.workspace = s.workspace) (hscheduler : s'.scheduler = s.scheduler)
    (hrunning : s'.running = s.running) (hwork : s'.work = s.work) : P.Phase s' := by
  have hw : s.desk.disk.Writes (fun _ => False) s'.desk.disk := by
    rw [show s'.desk = s.desk from congrArg Workspace.desk hworkspace]
    exact .refl _ _
  exact h.of_writes hscheduler hrunning hwork (hworkspace ▸ rfl) (hworkspace ▸ rfl) hw
    hfits.disk.outputs fun _ hq => hq.elim

/-! ### Edits -/

/-- Without a root there are no sources. -/
theorem not_sees_of_roots (h : P.scanner.roots = []) (p : Path) : ¬P.scanner.Sees p := by
  intro hp
  have haccepted := hp.accepted
  unfold Scanner.acceptsResolved? Scanner.owner? at haccepted
  rw [h] at haccepted
  split at haccepted <;> cases haccepted

theorem report_of_connected {number : Nat} {r : NativeReport} (h : s.connected = some number)
    (hn : r.notice? = some n) :
    (s.report r).2 = { s with ready := s.ready ++ [.notice number n] } := by
  unfold report
  split
  · rename_i hnone
    rw [hnone] at h
    cases h
  · rename_i hsome
    rw [hsome] at h
    cases h
    rw [hn]
    rfl

theorem report_of_not_connected {r : NativeReport} (h : s.connected = none) :
    (s.report r).2 = s := by
  unfold report
  rw [h]

/-- A source is tracked on once its file was edited and a notice of that waits behind all others. -/
theorem Tracks.edited (ht : P.Tracks s p) (hclean : p.Clean)
    (hscanner : s'.workspace.scanner = s.workspace.scanner) (hfront : s'.front = s.front)
    (hnotices : s'.notices = s.notices ++ [n]) (habout : n.About paths)
    (hsame : p ∉ paths → Scanner.reading? s'.desk.disk p = Scanner.reading? s.desk.disk p)
    (hgone : n.kind = .unlink → p ∈ paths → Scanner.reading? s'.desk.disk p = none) :
    P.Tracks s' p := by
  have hmentions : mentions p s'.notices = mentions p s.notices ++ mentions p [n] := by
    rw [hnotices, mentions_append]
  have hcontains : n.names.contains p.text = true ↔ p ∈ paths := by
    rw [List.contains_iff_mem, mem_names_iff habout hclean]
  -- A source that the notice names has one more mention; any other has the declaration and the
  -- mentions that it had.
  by_cases hmine : p ∈ paths
  · have hone : mentions p [n] = [n] := by
      rw [mentions_cons, if_pos (hcontains.2 hmine)]
      rfl
    rw [hone] at hmentions
    refine ⟨.inr (.inr ?_), fun m hm hunlink => ?_⟩
    · rw [hmentions]
      simp
    · rw [hmentions, List.getLast?_concat] at hm
      obtain rfl := Option.some.inj hm
      exact hgone hunlink hmine
  · have hnone : mentions p [n] = [] := by
      rw [mentions_cons, if_neg fun hc => hmine (hcontains.1 hc)]
      rfl
    rw [hnone, List.append_nil] at hmentions
    refine ⟨?_, fun m hm hunlink => ?_⟩
    · rw [hmentions, hfront]
      refine ht.found.imp_left fun hfresh => ?_
      unfold Fresh
      rw [hscanner]
      exact (hsame hmine).trans hfresh
    · rw [hmentions] at hm
      exact (hsame hmine).trans (ht.last m hm hunlink)

theorem Watches.edit (h : P.Watches s) {r : NativeReport} {d : Disk}
    (hedit : P.Edit s.desk.disk r d) :
    P.Watches ((s.withDesk { s.desk with disk := d }).report r).2 := by
  obtain ⟨n, paths, hnotice, habout, heditable, hwrites, hgone⟩ :=
    hedit.exists_notice h.fits.disk
  have hdisk := h.fits.disk.of_writes hwrites fun q hq => .inr (heditable q hq).proper
  have hfits : P.Fits { s.workspace with desk := { s.desk with disk := d } } :=
    h.fits.withDesk rfl hdisk
  have hphase (ready : List Job) (hwork : ready.filter Job.isWork = s.work) :
      P.Phase { s.withDesk { s.desk with disk := d } with ready } :=
    h.phase.of_writes rfl rfl hwork rfl rfl hwrites h.fits.disk.outputs fun q hq output houtput =>
      ((heditable q hq).outputs output houtput).symm
  rcases h.connected with hconnected | ⟨hconnected, hroots⟩
  · -- The notice waits behind all others.
    rw [report_of_connected (s := s.withDesk { s.desk with disk := d }) hconnected hnotice]
    refine ⟨⟨hfits, h.front, .inl hconnected, h.signal, fun job hjob => ?_,
      fun p hp hclean => ?_⟩, hphase _ ?_⟩
    · rcases List.mem_append.1 hjob with hjob | hjob
      · exact h.jobs job hjob
      · obtain rfl := List.mem_singleton.1 hjob
        exact ⟨rfl, paths, habout⟩
    · refine (h.tracks p hp hclean).edited hclean rfl rfl List.filterMap_append habout.toAbout
        (fun hnot => ?_) fun hunlink hmine => hgone hunlink p hmine
      refine h.fits.disk.reading?_eq hwrites hp fun q hq => ?_
      have hproper := (heditable q hq).proper
      rw [h.fits.disk.apart_iff hp.anchor hproper.anchor hp.names hproper.names]
      rintro rfl
      exact hnot hq
    · rw [List.filter_append]
      exact List.append_nil _
  · -- Nobody hears of the edit, but there are no sources either.
    rw [report_of_not_connected (s := s.withDesk { s.desk with disk := d }) hconnected]
    exact ⟨⟨hfits, h.front, .inr ⟨hconnected, hroots⟩, h.signal, h.jobs, fun p hp _ =>
      absurd hp (not_sees_of_roots hroots p)⟩, hphase s.ready rfl⟩

/-! ### Notices -/

/-- It can be told of paths that are no roots whether they name sources. -/
theorem Reports.told (h : P.Reports n paths) : ∀ p ∈ paths, P.scanner.acceptsResolved? p ≠ none := by
  intro p hp hnone
  have howner := Scanner.owner?_of_acceptsResolved?_eq_none hnone
  exact h.roots p hp (Scanner.exists_of_owner? howner).1

/-- What a front end sees of a project. -/
theorem sees_sight (h : P.Fits s.workspace) :
    FrontEnd.Sees s.sight P.scanner.acceptsResolved? := by
  refine ⟨fun p hp => h.disk.tidy.resolve_eq hp.anchor hp.names, fun p hp answer hanswer => ?_,
    fun p hp => ⟨_, h.disk.tidy.look_eq hp.anchor hp.names⟩, fun p hp => ?_⟩
  · refine Scanner.accepts_of_resolve (h.tidy.resolve_eq hp.anchor hp.names) ?_
    rw [h.scanner, Scanner.acceptsResolved?_withCatalog]
    exact hanswer
  · refine ⟨s.workspace.scanner.catalog.contains (s.workspace.scanner.keyFor p), ?_⟩
    show (s.workspace.scanner.tracks s.workspace.desk.disk p).mapError Fault.disk = _
    rw [Scanner.tracks_of_tidy h.tidy hp.anchor hp.names]
    rfl

/-- What is of interest among proper paths are the sources. -/
theorem sees_of_proper (hp : p.Proper)
    (haccepted : (P.scanner.acceptsResolved? p == some true) = true) : P.scanner.Sees p :=
  ⟨hp.anchor, hp.names, beq_iff_eq.1 haccepted⟩

/-- What comes of a notice, whether or not it is stopped half-way. -/
theorem dispatch_eq {f : FrontEnd} (hfront : s.front = some f) :
    ((dispatch n).on s).2 =
      (f.take s.sight n).2.1.foldl onEvent { s with front := some (f.take s.sight n).1 } := by
  unfold dispatch
  rw [on_get_bind, hfront]
  show ((deliver (f.take s.sight n)).on s).2 = _
  generalize f.take s.sight n = made
  obtain ⟨f', events, fault⟩ := made
  cases fault <;> rfl

/-- Once the oldest notice is taken away the others wait. -/
theorem notices_of_ready {front : Nat} {before after : List Job}
    (hready : s.ready = before ++ .notice front n :: after)
    (hfirst : before.filterMap Job.notice? = []) :
    s.notices = n :: { s with ready := before ++ after }.notices := by
  show s.ready.filterMap Job.notice? = n :: (before ++ after).filterMap Job.notice?
  rw [hready, List.filterMap_append, List.filterMap_append, hfirst]
  rfl

theorem work_of_ready {front : Nat} {before after : List Job}
    (hready : s.ready = before ++ .notice front n :: after) :
    { s with ready := before ++ after }.work = s.work := by
  show (before ++ after).filter Job.isWork = s.ready.filter Job.isWork
  rw [hready, List.filter_append, List.filter_append]
  rfl

/-- A source is tracked on behind the oldest notice if that was taken care of. -/
theorem Tracks.delivered (ht : P.Tracks s p) (hclean : p.Clean)
    (hnotices : s.notices = n :: s'.notices) (habout : n.About paths)
    (hdeclared : Scanner.reading? s'.desk.disk p = Scanner.reading? s.desk.disk p)
    (htimer : (∃ f, s.front = some f ∧ f.HasTimer p) → ∃ f, s'.front = some f ∧ f.HasTimer p)
    (hothers : p ∉ paths → P.Fresh s.workspace p → P.Fresh s'.workspace p)
    (hmine : p ∈ paths → (n.kind = .unlink → Scanner.reading? s.desk.disk p = none) →
      P.Fresh s'.workspace p ∨ ∃ f, s'.front = some f ∧ f.HasTimer p) :
    P.Tracks s' p := by
  have hmentions := mentions_cons p n s'.notices
  rw [← hnotices] at hmentions
  have hcontains : n.names.contains p.text = true ↔ p ∈ paths := by
    rw [List.contains_iff_mem, mem_names_iff habout hclean]
  by_cases hin : p ∈ paths
  · rw [if_pos (hcontains.2 hin)] at hmentions
    by_cases hrest : mentions p s'.notices = []
    · -- This was the last notice that named the source.
      rw [hrest] at hmentions
      have hgone : n.kind = .unlink → Scanner.reading? s.desk.disk p = none :=
        ht.last n (by rw [hmentions]; rfl)
      refine ⟨(hmine hin hgone).imp_right .inl, fun m hm => ?_⟩
      rw [hrest] at hm
      cases hm
    · refine ⟨.inr (.inr hrest), fun m hm hunlink => hdeclared.trans (ht.last m ?_ hunlink)⟩
      rw [hmentions, List.getLast?_cons, hm]
      rfl
  · rw [if_neg fun hc => hin (hcontains.1 hc)] at hmentions
    refine ⟨?_, fun m hm hunlink => hdeclared.trans (ht.last m (hmentions ▸ hm) hunlink)⟩
    have hfound := ht.found
    rw [hmentions] at hfound
    exact hfound.imp (hothers hin) (Or.imp_left htimer)

theorem seen_of_sees (hp : P.scanner.Sees p) :
    (P.scanner.acceptsResolved? p == some true) = true := beq_iff_eq.2 hp.accepted

/-- A notice that is no raw one makes the sources that it names known as they are, unless a later
notice names them. -/
theorem Watches.deliver_events (h : P.Watches s) {ready : List Job}
    (hsub : ∀ job ∈ ready, job ∈ s.ready) (hwork : { s with ready }.work = s.work)
    (hnotices : s.notices = n :: { s with ready }.notices) (habout : P.Reports n paths)
    (hkind : n.kind ≠ .raw) (hgood : ¬((dispatch n).on { s with ready }).2.Interrupted) :
    P.Watches ((dispatch n).on { s with ready }).2 := by
  obtain ⟨f, hf, hlooks⟩ := h.front
  have hphase : P.Phase { s with ready } := h.phase.of_ready h.fits rfl rfl rfl hwork
  have hchange : IsChange n.kind := by
    have hknown := habout.kind
    unfold IsChange
    simp only [List.mem_cons, List.not_mem_nil, or_false] at hknown
    rcases hknown with hknown | hknown | hknown | hknown
    · exact .inl hknown
    · exact .inr (.inl hknown)
    · exact .inr (.inr hknown)
    · exact absurd hknown hkind
  -- The front end hands on one event for each accepted path that the notice names.
  have htake := FrontEnd.take_of_about (sees_sight (s := { s with ready }) h.fits) habout.toAbout
    habout.told hlooks.ready hkind
  have hevents : ∀ e ∈ (paths.filter fun p => P.scanner.acceptsResolved? p == some true).map
      (fun p => (⟨n.kind, p⟩ : Event)), e.path ∈ paths ∧ P.scanner.Sees e.path ∧ e.path.Clean ∧
        e.kind = n.kind := by
    intro e he
    obtain ⟨p, hp, rfl⟩ := List.mem_map.1 he
    obtain ⟨hmem, haccepted⟩ := List.mem_filter.1 hp
    have hproper := habout.proper p hmem
    exact ⟨hmem, sees_of_proper hproper haccepted, hproper.clean, rfl⟩
  rw [dispatch_eq (s := { s with ready }) hf, htake,
    show ({ s with ready, front := some f } : Session) = { s with ready } by rw [← hf]] at hgood ⊢
  obtain ⟨hkept, hnext, hself⟩ := kept_events (s := { s with ready }) h.fits hphase h.signal
    (fun e he =>
      have ⟨_, hsees, hclean, hsame⟩ := hevents e he
      ⟨hsees, hclean, hsame ▸ hchange⟩) hgood
  refine ⟨⟨hkept.fits, ?_, ?_, ?_, hkept.jobs fun job hjob => h.jobs job (hsub job hjob),
    fun p hp hclean => ?_⟩, hnext⟩
  · rw [hkept.front]
    exact h.front
  · rw [hkept.connected, hkept.frontNumber]
    exact h.connected
  · rw [hkept.signal]
    exact h.signal
  · refine (h.tracks p hp hclean).delivered hclean (hkept.notices ▸ hnotices) habout.toAbout
      (hkept.declared p hp) ?_ (fun hnot hfresh => ?_) fun hin hgone => .inl ?_
    · rw [hkept.front]
      exact fun htimer => htimer
    · refine hkept.fresh p hp hclean ?_ hfresh
      rintro ⟨e, he, rfl⟩
      exact hnot (hevents e he).1
    · refine hself p ⟨_, List.mem_map_of_mem (List.mem_filter.2 ⟨hin, seen_of_sees hp⟩), rfl⟩
        fun e he _ hunlink => hgone ?_
      exact (hevents e he).2.2.2 ▸ hunlink

/-- A raw notice gives the sources that it names timers. -/
theorem Watches.deliver_raw (h : P.Watches s) {ready : List Job}
    (hsub : ∀ job ∈ ready, job ∈ s.ready) (hwork : { s with ready }.work = s.work)
    (hnotices : s.notices = n :: { s with ready }.notices) (habout : P.Reports n paths)
    (hkind : n.kind = .raw) : P.Watches ((dispatch n).on { s with ready }).2 := by
  obtain ⟨f, hf, hlooks⟩ := h.front
  obtain ⟨f', htake, hsame, htimers⟩ := FrontEnd.take_raw_of_about
    (sees_sight (s := { s with ready }) h.fits) habout.toAbout habout.told hlooks.ready hkind
  rw [dispatch_eq (s := { s with ready }) hf, htake]
  refine ⟨⟨h.fits, ⟨f', rfl, hsame.ready.trans hlooks.ready, hsame.inOrder hlooks.inOrder, ?_⟩,
    h.connected, h.signal, fun job hjob => h.jobs job (hsub job hjob), fun p hp hclean => ?_⟩,
    h.phase.of_ready h.fits rfl rfl rfl hwork⟩
  · intro t ht
    rcases (htimers t.path).1 ⟨t, ht, rfl⟩ with ⟨u, hu, hpath⟩ | ⟨hmem, haccepted⟩
    · exact hpath ▸ hlooks.sources u hu
    · have hproper := habout.proper t.path hmem
      exact ⟨sees_of_proper hproper haccepted, hproper.clean⟩
  · refine (h.tracks p hp hclean).delivered hclean hnotices habout.toAbout rfl ?_
      (fun _ hfresh => hfresh) fun hin _ => .inr ⟨f', rfl, ?_⟩
    · rintro ⟨g, hg, htimer⟩
      obtain rfl := Option.some.inj (hf.symm.trans hg)
      exact ⟨f', rfl, (htimers p).2 (.inl htimer)⟩
    · exact (htimers p).2 (.inr ⟨hin, seen_of_sees hp⟩)

/-- **The oldest notice is delivered** and no source is lost, unless that interrupts the
watching. -/
theorem Watches.deliver (h : P.Watches s) {before after : List Job}
    (hready : s.ready = before ++ .notice s.frontNumber n :: after)
    (hfirst : before.filterMap Job.notice? = []) (habout : P.Reports n paths)
    (hgood : ¬((dispatch n).on { s with ready := before ++ after }).2.Interrupted) :
    P.Watches ((dispatch n).on { s with ready := before ++ after }).2 := by
  have hnotices := notices_of_ready hready hfirst
  have hwork := work_of_ready hready
  have hsub : ∀ job ∈ before ++ after, job ∈ s.ready := by
    intro job hjob
    rw [hready]
    exact (List.sublist_cons_self _ after).append_left before |>.subset hjob
  by_cases hkind : n.kind = .raw
  · exact h.deliver_raw hsub hwork hnotices habout hkind
  · exact h.deliver_events hsub hwork hnotices habout hkind hgood

/-! ### Timers -/

/-- A path that a look shows to be no file declares nothing. -/
theorem reading?_of_look {d : Disk} (h : P.Holds d) (hp : p.Proper) {node : Option Node}
    (hlook : d.look p = .ok node) (hfile : ¬node.any Node.isFile = true) :
    Scanner.reading? d p = none := by
  have hnode := h.tidy.look_eq hp.anchor hp.names
  rw [hlook] at hnode
  obtain rfl := Except.ok.inj hnode
  have hread : d.read? p = none := by
    refine Option.eq_none_iff_forall_ne_some.2 fun bytes hbytes => hfile ?_
    have hview := (h.tidy.read?_eq_some_iff hp.anchor hp.names).1 hbytes
    rw [Node.view_eq_file_iff.1 hview]
    rfl
  rw [Scanner.reading?, hread]
  rfl

/-- What the events of a timer that fires are about. -/
theorem event_of_fired (h : P.Follows s) {f f' : FrontEnd} {events : List Event}
    (hlooks : P.Looks f) (hfired : FrontEnd.Fired s.sight f f' events) {e : Event}
    (he : e ∈ events) : P.scanner.Sees e.path ∧ e.path.Clean ∧ IsChange e.kind ∧
      (e.kind = .unlink → Scanner.reading? s.desk.disk e.path = none) := by
  obtain ⟨⟨t, ht, hpath⟩, node, hlook, hkind⟩ := hfired.about e he
  obtain ⟨hsees, hclean⟩ := hlooks.sources t ht
  rw [hpath] at hsees hclean
  by_cases hfile : node.any Node.isFile = true
  · rw [if_pos hfile] at hkind
    refine ⟨hsees, hclean, ?_, fun hunlink => ?_⟩
    · rcases hkind with hkind | hkind
      · exact .inl hkind
      · exact .inr (.inl hkind)
    · rw [hunlink] at hkind
      rcases hkind with hkind | hkind
      · cases hkind
      · cases hkind
  · rw [if_neg hfile] at hkind
    exact ⟨hsees, hclean, .inr (.inr hkind), fun _ =>
      reading?_of_look h.fits.disk ⟨hsees.anchor, hsees.names, hclean⟩ hlook hfile⟩

/-- A source is tracked on behind a timer that fires: an event is about it, or its timer goes on. -/
theorem Tracks.fired {f f' : FrontEnd} {events : List Event} (ht : P.Tracks s p)
    (hf : s.front = some f) (hf' : s'.front = some f')
    (hfired : FrontEnd.Fired s.sight f f' events) (hnotices : s'.notices = s.notices)
    (hdeclared : Scanner.reading? s'.desk.disk p = Scanner.reading? s.desk.disk p)
    (hothers : (¬∃ e ∈ events, e.path = p) → P.Fresh s.workspace p → P.Fresh s'.workspace p)
    (hmine : (∃ e ∈ events, e.path = p) → P.Fresh s'.workspace p) : P.Tracks s' p := by
  refine ⟨?_, fun n hn hunlink => hdeclared.trans (ht.last n (hnotices ▸ hn) hunlink)⟩
  by_cases habout : ∃ e ∈ events, e.path = p
  · exact .inl (hmine habout)
  · rcases ht.found with hfresh | ⟨g, hg, htimer⟩ | hmentioned
    · exact .inl (hothers habout hfresh)
    · obtain rfl := Option.some.inj (hf.symm.trans hg)
      exact .inr (.inl ⟨f', hf', (hfired.event p htimer).resolve_right habout⟩)
    · rw [hnotices]
      exact .inr (.inr hmentioned)

/-- **A timer fires** and no source is lost, unless that interrupts the watching. -/
theorem Watches.timer (h : P.Watches s) {number : Nat} (hgood : ¬(s.fire number).Interrupted) :
    P.Watches (s.fire number) := by
  obtain ⟨f, hf, hlooks⟩ := h.front
  have hfired := FrontEnd.fire_spec (sees_sight h.fits) hlooks.inOrder
    (fun t ht => have hs := hlooks.sources t ht; ⟨hs.1.anchor, hs.1.names, hs.2⟩) number
  unfold fire at hgood ⊢
  rw [hf] at hgood ⊢
  dsimp only at hgood ⊢
  generalize f.fire s.sight number = fired at hfired hgood ⊢
  obtain ⟨f', events, records⟩ := fired
  dsimp only at hfired hgood ⊢
  have hevents : ∀ e ∈ events, _ := fun e he => event_of_fired h.toFollows hlooks hfired he
  -- The session with the new timers and the records, before the events are handled.
  obtain ⟨t, ht⟩ : ∃ t, ({ s with front := some f' } : Session).noted records = t := ⟨_, rfl⟩
  have hfront : t.front = some f' := by rw [← ht]; rfl
  have hnoted : P.Kept (fun _ => False) { s with front := some f' } t := by
    rw [← ht]
    exact .noted (s := { s with front := some f' }) h.fits records
  have hphase : P.Phase t := by
    rw [← ht]
    exact Phase.noted (s := { s with front := some f' }) (h.phase.of_ready h.fits rfl rfl rfl rfl)
      h.fits records
  rw [ht] at hgood ⊢
  obtain ⟨hkept, hnext, hself⟩ := kept_events (s := t) hnoted.fits hphase
    (hnoted.signal ▸ h.signal) (fun e he =>
      have ⟨hsees, hclean, hkind, _⟩ := hevents e he
      ⟨hsees, hclean, hkind⟩) hgood
  have hall := hnoted.trans hkept
  refine ⟨⟨hkept.fits, ⟨f', hkept.front.trans hfront, ?_⟩, ?_, ?_, hall.jobs h.jobs,
    fun p hp hclean => ?_⟩, hnext⟩
  · refine ⟨hfired.same.ready.trans hlooks.ready, hfired.same.inOrder hlooks.inOrder, ?_⟩
    intro u hu
    obtain ⟨v, hv, hpath⟩ := hfired.fewer u.path ⟨u, hu, rfl⟩
    exact hpath ▸ hlooks.sources v hv
  · rw [hall.connected, hall.frontNumber]
    exact h.connected
  · rw [hall.signal]
    exact h.signal
  · refine (h.tracks p hp hclean).fired hf (hkept.front.trans hfront) hfired hall.notices
      (hall.declared p hp) (fun hnot hfresh => ?_) fun habout => ?_
    · exact hkept.fresh p hp hclean hnot (hnoted.fresh p hp hclean id hfresh)
    · refine hself p habout fun e he hpath hunlink => ?_
      obtain ⟨hsees, -, -, hgone⟩ := hevents e he
      rw [← hpath]
      exact (hnoted.declared e.path hsees).trans (hgone hunlink)

/-- Time passes. -/
theorem Watches.tick (h : P.Watches s) (now : Nat) :
    P.Watches (s.withDesk { s.desk with now }) := by
  have hkept : P.Kept (fun _ => False) s (s.withDesk { s.desk with now }) :=
    ⟨.of_desk h.fits rfl h.fits.disk fun _ _ => rfl, rfl, rfl, rfl, rfl, rfl, fun hjobs => hjobs⟩
  refine ⟨h.toFollows.of_kept hkept fun p _ _ habout => habout.elim, ?_⟩
  exact h.phase.of_writes rfl rfl rfl rfl rfl (.refl (fun _ => False) _) h.fits.disk.outputs
    fun _ hq => hq.elim

/-! ### Builds -/

/-- Of a run there is nothing more to go on with while its build command runs. -/
theorem Phase.running_eq (h : P.Phase s) {b : RunningBuild} (hb : b ∈ s.running) :
    s.running = [b] ∧ s.work = [] := by
  cases h with
  | rest building queued work running =>
    rw [running] at hb
    cases hb
  | start pending work running =>
    rw [running] at hb
    cases hb
  | build pending command =>
    rcases command with ⟨hwork, hrunning⟩ | ⟨hwork, hrunning⟩
    · rw [hrunning] at hb
      obtain rfl := List.mem_singleton.1 hb
      exact ⟨hrunning, hwork⟩
    · rw [hrunning] at hb
      cases hb

/-- The build command ends well, and its run goes on in the next turn. -/
theorem Watches.endBuild (h : P.Watches s) : P.Watches (s.endBuild 0).2 := by
  cases hfind : s.running.find? (fun build => build.number + 1 == s.desk.builds.length) with
  | none =>
    unfold Session.endBuild
    rw [hfind]
    exact h
  | some b =>
    rw [endBuild_of_find? hfind]
    obtain ⟨hrunning, hwork⟩ := h.phase.running_eq (List.mem_of_find?_eq_some hfind)
    have hnone : s.running.filter (fun build => build.number != b.number) = [] := by
      rw [hrunning]
      simp
    have hfirst : P.Kept (fun _ => False) s
        { s with running := s.running.filter (·.number != b.number) } :=
      ⟨.refl h.fits, rfl, rfl, rfl, rfl, rfl, fun hjobs => hjobs⟩
    have hnext : work ({ s with
        running := s.running.filter (·.number != b.number) }.push (.buildEnded b 0)) =
          [.buildEnded b 0] :=
      (work_push _ _).trans (congrArg (· ++ [.buildEnded b 0]) hwork :)
    refine ⟨h.toFollows.of_kept (hfirst.pushed (.buildEnded b 0) rfl trivial) fun p _ _ habout =>
      habout.elim, ?_⟩
    -- A command that ends belongs to the build that goes on.
    cases h.phase with
    | rest building queued work running =>
      rw [running] at hrunning
      cases hrunning
    | start pending work running =>
      rw [running] at hrunning
      cases hrunning
    | @build b' pending command owner digest file due =>
      obtain rfl : b' = b := by
        rcases command with ⟨-, hb⟩ | ⟨-, hb⟩
        · rw [hrunning] at hb
          exact (List.cons.inj hb).1.symm
        · rw [hrunning] at hb
          cases hb
      exact .build ⟨pending.building, pending.run, pending.listeners⟩ (.inr ⟨hnext, hnone⟩) owner
        digest file due

/-! ### What is ready -/

/-- What a run comes to is watched on. -/
theorem Watches.of_comes (h : P.Follows s) (hcomes : P.Comes s s') :
    s'.Failed ∨ P.Watches s' := by
  rcases hcomes with hfailed | ⟨hkept, hphase⟩
  · exact .inl hfailed
  · exact .inr ⟨h.of_kept hkept fun p _ _ habout => habout.elim, hphase⟩

/-- If one thing is ready of a run then nothing of it is left without that. -/
theorem work_of_only {before after : List Job} {job only : Job} (hjob : job.isWork = true)
    (h : (before ++ job :: after).filter Job.isWork = [only]) :
    job = only ∧ (before ++ after).filter Job.isWork = [] := by
  constructor
  · have hmem : job ∈ (before ++ job :: after).filter Job.isWork := by simp [hjob]
    rw [h] at hmem
    exact List.mem_singleton.1 hmem
  · have hlength := congrArg List.length h
    rw [List.filter_append, List.filter_cons, if_pos hjob, List.length_append, List.length_cons,
      List.length_singleton] at hlength
    refine List.length_eq_zero_iff.1 ?_
    rw [List.filter_append, List.length_append]
    omega

theorem mem_work {before after : List Job} {job : Job} (hready : s.ready = before ++ job :: after)
    (hjob : job.isWork = true) : job ∈ s.work := by
  show job ∈ s.ready.filter Job.isWork
  simp [hready, hjob]

theorem Watches.beginRun (h : P.Watches s) (htool : P.LeavesAlone) {before after : List Job}
    (hready : s.ready = before ++ .beginRun :: after)
    (hfollows : P.Follows { s with ready := before ++ after }) :
    ({ s with ready := before ++ after }.beginRun).Failed ∨
      P.Watches ({ s with ready := before ++ after }.beginRun) := by
  have hmem := mem_work hready rfl
  cases h.phase with
  | rest building queued work =>
    rw [work] at hmem
    cases hmem
  | start pending work running =>
    have hwork : (before ++ .beginRun :: after).filter Job.isWork = [.beginRun] := hready ▸ work
    have hcomes := comes_beginRun (s := { s with ready := before ++ after }) h.fits htool
      ⟨pending.building, pending.run, pending.listeners⟩ (work_of_only rfl hwork).2 running
    exact Watches.of_comes hfollows hcomes.1
  | build pending command =>
    rcases command with ⟨work, -⟩ | ⟨work, -⟩
    all_goals
      rw [work] at hmem
      simp at hmem

theorem Watches.buildEnded (h : P.Watches s) (htool : P.LeavesAlone) {before after : List Job}
    {b : RunningBuild} {status : Int} (hready : s.ready = before ++ .buildEnded b status :: after)
    (hfollows : P.Follows { s with ready := before ++ after }) :
    ({ s with ready := before ++ after }.buildEnded b status).Failed ∨
      P.Watches ({ s with ready := before ++ after }.buildEnded b status) := by
  have hmem := mem_work hready rfl
  cases h.phase with
  | rest building queued work =>
    rw [work] at hmem
    cases hmem
  | start pending work =>
    rw [work] at hmem
    simp at hmem
  | @build b' pending command owner digest file due =>
    rcases command with ⟨work, -⟩ | ⟨work, hrunning⟩
    · rw [work] at hmem
      cases hmem
    have hwork : (before ++ .buildEnded b status :: after).filter Job.isWork = [.buildEnded b' 0] :=
      hready ▸ work
    obtain ⟨honly, hnil⟩ := work_of_only rfl hwork
    obtain ⟨rfl, rfl⟩ := Job.buildEnded.inj honly
    exact Watches.of_comes hfollows (comes_buildEnded (s := { s with ready := before ++ after })
      h.fits htool ⟨pending.building, pending.run, pending.listeners⟩ hnil hrunning owner digest
      file due)

/-- **Whatever is ready goes on** and no source is lost, unless a run fails or the watching is
interrupted. -/
theorem Watches.perform (h : P.Watches s) (htool : P.LeavesAlone) {before after : List Job}
    {job : Job} (hready : s.ready = before ++ job :: after)
    (hfirst : ∀ n, job.notice? = some n → before.filterMap Job.notice? = [])
    (hgood : ¬({ s with ready := before ++ after }.perform job).Broken) :
    P.Watches ({ s with ready := before ++ after }.perform job) := by
  rw [Broken, not_or] at hgood
  have hjob : P.Expected s.frontNumber job := h.jobs job (by simp [hready])
  -- A job that is no notice leaves all notices waiting.
  have hfollows (hno : job.notice? = none) : P.Follows { s with ready := before ++ after } := by
    refine h.toFollows.of_ready (fun job' hjob' => ?_) ?_
    · rw [hready]
      exact (List.sublist_cons_self _ after).append_left before |>.subset hjob'
    · show _ = s.ready.filterMap Job.notice?
      rw [hready, List.filterMap_append, List.filterMap_append, List.filterMap_cons, hno]
  cases job with
  | beginTask number => exact hjob.elim
  | stopped number outcome => exact hjob.elim
  | timer front number => exact hjob.elim
  | notice front n =>
    obtain ⟨rfl, paths, habout⟩ := hjob
    have hperform : { s with ready := before ++ after }.perform (.notice s.frontNumber n) =
        ((dispatch n).on { s with ready := before ++ after }).2 := if_pos rfl
    rw [hperform] at hgood ⊢
    exact h.deliver hready (hfirst n rfl) habout hgood.2
  | runEnded who outcome =>
    obtain ⟨rfl, rfl⟩ := hjob
    refine ⟨hfollows rfl, h.phase.of_ready h.fits rfl rfl rfl ?_⟩
    show (before ++ after).filter Job.isWork = s.ready.filter Job.isWork
    rw [hready, List.filter_append, List.filter_append]
    rfl
  | beginRun => exact (h.beginRun htool hready (hfollows rfl)).resolve_left hgood.1
  | buildEnded b status => exact (h.buildEnded htool hready (hfollows rfl)).resolve_left hgood.1

/-- **Every step of a session that watches leaves no source lost**, unless a run fails or the
watching is interrupted. -/
theorem Watches.step (h : P.Watches s) (htool : P.LeavesAlone) (hstep : P.Step s s')
    (hgood : ¬s'.Broken) : P.Watches s' := by
  cases hstep with
  | edit hedit => exact h.edit hedit
  | perform hready hfirst => exact h.perform htool hready hfirst hgood
  | timer number =>
    have hperform : s.perform (.timer s.frontNumber number) = s.fire number := if_pos rfl
    rw [hperform] at hgood ⊢
    exact h.timer fun hinterrupted => hgood (.inr hinterrupted)
  | endBuild => exact h.endBuild
  | tick now => exact h.tick now

end Watched

end ProbeKit
