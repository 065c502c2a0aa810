import MarkupActions.Html.Parse
import MarkupActions.Proofs.Session.Alike
import MarkupActions.Proofs.Session.Counted

/-! Forgetting freed nodes is not seen. A page whose binder forgets them before each pass and one
whose binder never does start the same and run in lockstep, and whatever is asked of the two is
answered the same at every moment, also by where nodes lie. -/

namespace MarkupActions

open Binder (Pass)

namespace Binder

variable {d : Document} {b : Binder} {address : NodeId → Nat} {n : Nat}

/-- The element that answers a click, where entries are found by the places of nodes. -/
def handlerAt (address : NodeId → Nat) (b : Binder) (d : Document) (target : NodeId) :
    Option (NodeId × String) :=
  (d.chain target).findSome? fun n => (b.actionAt address (address n)).map (n, ·)

theorem handlerAt_eq (hd : d.Linked) (hn : d.isAlive n = true)
    (h : ∀ m : Nat, d.isAlive m = true → b.actionAt address (address m) = b.action? m) :
    b.handlerAt address d n = b.handler? d n := by
  rw [handlerAt, Binder.handler?]
  refine findSome?_congr fun m hm => ?_
  rw [h m (hd.isAlive_of_mem_chain hn hm)]

end Binder

namespace Session

variable {s t : Session} {m : Move} {ms : List Move} {n : Nat} {address : NodeId → Nat} {p : Pass}

/-! ### Where nodes lie -/

/-- What is bound to living nodes, and what answers clicks on them, is found by where they lie. -/
structure Placed (address : NodeId → Nat) (s : Session) : Prop where
  action : ∀ n, s.document.isAlive n = true →
    s.binder.actionAt address (address n) = s.binder.action? n
  handler : ∀ n, s.document.isAlive n = true →
    s.binder.handlerAt address s.document n = s.binder.handler? s.document n

theorem Apart.placed (h : s.Apart address) (hs : s.document.Linked) : s.Placed address where
  action := fun _ hn => h.actionAt hn
  handler := fun _ hn => Binder.handlerAt_eq hs hn fun _ hm => h.actionAt hm

variable [MarkupParser]

/-- New nodes lie apart in moves one after another whose passes are made by `p`. -/
def AllotsAllBy (p : Pass) (address : NodeId → Nat) : Session → List Move → Prop
  | _, [] => True
  | s, m :: ms => s.Allots address m ∧ (s.moveBy p m).AllotsAllBy p address ms

theorem Apart.foldl_moveBy (hp : p.SparesLiving) (h : s.Apart address)
    (hms : s.AllotsAllBy p address ms) : (ms.foldl (Session.moveBy p) s).Apart address := by
  induction ms generalizing s with
  | nil => exact h
  | cons m ms ih => exact ih (h.moveBy hp hms.1) hms.2

/-! ### A page that never forgets -/

/-- At first there is nothing to forget. -/
theorem loadBy_scan (html : String) (registry : Registry Target) (c : Config) :
    loadBy Binder.scan html registry c = load html registry c := rfl

/-- A page, and one that never forgets but answers everything the same. -/
structure Indistinct (s t : Session) : Prop where
  /-- The document, what is held, and all that is on record are the same. -/
  rest : t = s.rebound t.binder
  bindPass : ∀ n, (s.bindPass n).1 = (t.bindPassBy Binder.scan n).1
  render : ∀ id html, (s.render id html).1 = (t.renderBy Binder.scan id html).1
  isBound : ∀ n, s.binder.isBound s.document n = t.binder.isBound t.document n
  boundCount : s.binder.boundCount s.document = t.binder.boundCount t.document
  handler? : ∀ n, s.document.isAlive n = true →
    s.binder.handler? s.document n = t.binder.handler? t.document n
  /-- Clicks do the same, however deep their actions click, or have no outcome on either page. -/
  click : ∀ depth n, s.document.isAlive n = true →
    (Session.click depth n s).map (·.1) = (clickBy Binder.scan depth n t).map (·.1)
  perform : ∀ depth c, (s.perform (Session.click depth) c).map (·.1) =
    (t.performBy Binder.scan (clickBy Binder.scan depth) c).map (·.1)

/-! ### Counts -/

omit [MarkupParser] in
theorem Alike.boundNodes (h : s.Alike t) : t.boundNodes = s.boundNodes := by
  ext n
  rw [Session.boundNodes, Session.boundNodes, h.document, Set.mem_ofPred_eq, Set.mem_ofPred_eq,
    h.agree.isBound]

omit [MarkupParser] in
theorem Alike.boundCount (h : s.Alike t) :
    t.binder.boundCount t.document = s.binder.boundCount s.document := by
  rw [h.document, h.agree.boundCount]

omit [MarkupParser] in
theorem Alike.heldNodes (h : s.Alike t) : t.heldNodes = s.heldNodes := by
  obtain ⟨b, rfl⟩ := h.exists_rebound
  rfl

theorem Alike.passes (h : s.Alike t) (m : Move) : t.passes m = s.passes m := by
  obtain ⟨b, rfl⟩ := h.exists_rebound
  cases m <;> rfl

theorem Alike.freed (h : s.Alike t) (m : Move) : t.freed m = s.freed m := by
  have hletsGo : t.letsGo m = s.letsGo m := by
    obtain ⟨b, rfl⟩ := h.exists_rebound
    cases m <;> rfl
  rw [Session.freed, Session.freed, hletsGo, h.document, (h.move m).document, (h.move m).heldNodes]

/-- What is counted on a page that is alike is counted alike, whatever its passes forget of freed
nodes. -/
theorem Counted.alike (hp : p.SparesLiving) (hs : s.Counted s.move) (h : s.Alike t) :
    t.Counted (t.moveBy p) := by
  have hnext (m : Move) : (s.move m).Alike (t.moveBy p m) := by
    rw [← moveBy_pass]
    exact h.moveBy Binder.sparesLiving_pass hp m
  constructor
  case count => rw [h.boundCount, h.boundNodes, hs.count]
  case dies =>
    intro m k hk
    rw [h.document] at hk
    rw [(hnext m).document, h.freed, hs.dies m k hk]
  case removed =>
    intro n k hn
    rw [h.document] at hn ⊢
    rw [h.freed, h.heldNodes, hs.removed n k hn]
  case lowered =>
    intro m hm
    rw [h.passes] at hm
    rw [(hnext m).boundNodes, (hnext m).boundCount, h.boundNodes, h.boundCount, h.freed]
    exact hs.lowered m hm
  case raised =>
    intro m hm
    rw [h.passes] at hm
    rw [(hnext m).boundNodes, h.boundNodes, h.freed]
    exact hs.raised m hm

end Session

namespace Scene

open Session

section

variable [MarkupParser] {s t : Session} {fs : List Frame} {ms : List Move}

theorem Sound.indistinct (h : Sound ⟨s, fs⟩) (halike : s.Alike t) : s.Indistinct t where
  rest := halike.same
  bindPass := fun n =>
    (halike.bindPassBy Binder.sparesLiving_pass Binder.sparesLiving_scan n).1
  render := fun id html => by
    rw [← renderBy_pass]
    exact (halike.renderBy Binder.sparesLiving_pass Binder.sparesLiving_scan id html).1
  isBound := fun n => by rw [halike.document, halike.agree.isBound]
  boundCount := halike.boundCount.symm
  handler? := fun n hn => (halike.handler? h.coherent.linked hn).symm
  click := fun depth n hn => (conforms Binder.sparesLiving_scan depth n s t fs h hn halike).answer
  perform := fun depth c =>
    (likewise_performBy Binder.sparesLiving_scan (conforms Binder.sparesLiving_scan depth) h halike
      c).answer

/-- A page that never forgets starts as any page does. -/
theorem Starts.startsBy_scan (h : Starts s) : StartsBy Binder.scan s := by
  cases h with
  | load html registry c =>
    rw [← loadBy_scan]
    exact .load html registry c
  | unbound html registry c => exact .unbound html registry c

/-- A page runs as one that never forgets does, and both always answer the same. -/
structure Unobservable (s : Session) (ms : List Move) : Prop where
  /-- What is compared differs by its passes only: with those of the binder it is the page. -/
  itself : (∀ depth, clickBy Binder.pass depth = Session.click depth) ∧
    ∀ a b, GoesBy Binder.pass a ms b ↔ Goes a ms b
  /-- The page may have been loaded without forgetting. -/
  starts : StartsBy Binder.scan s
  forth : ∀ t fs, Goes ⟨s, []⟩ ms ⟨t, fs⟩ →
    t.Counted t.move ∧ ∃ u, GoesBy Binder.scan ⟨s, []⟩ ms ⟨u, fs⟩ ∧ t.Indistinct u
  back : ∀ u fs, GoesBy Binder.scan ⟨s, []⟩ ms ⟨u, fs⟩ →
    u.Counted (u.moveBy Binder.scan) ∧ ∃ t, Goes ⟨s, []⟩ ms ⟨t, fs⟩ ∧ t.Indistinct u
  /-- Clicks come to the same, and leave pages that again answer the same. -/
  clicks : ∀ t u fs, Goes ⟨s, []⟩ ms ⟨t, fs⟩ → GoesBy Binder.scan ⟨s, []⟩ ms ⟨u, fs⟩ →
    ∀ depth n o t', t.document.isAlive n = true → Session.click depth n t = some (o, t') →
      ∃ u', clickBy Binder.scan depth n u = some (o, u') ∧ t'.Indistinct u'
  /-- Each may tell nodes apart by where they lie, if new ones lie apart from each other and from
  all that live or have an entry. -/
  placed : ∀ address : NodeId → Nat, s.Apart address → s.AllotsAll address ms →
    ∀ t fs, Goes ⟨s, []⟩ ms ⟨t, fs⟩ → t.Placed address
  placed_scan : ∀ address : NodeId → Nat, s.Apart address →
    s.AllotsAllBy Binder.scan address ms →
      ∀ u fs, GoesBy Binder.scan ⟨s, []⟩ ms ⟨u, fs⟩ → u.Placed address

theorem Starts.counted (h : Starts s) (hgoes : Goes ⟨s, []⟩ ms ⟨t, fs⟩) : t.Counted t.move := by
  obtain ⟨hmoves, ht⟩ := hgoes.sound h.sound
  exact Session.counted ht.coherent (hmoves.fresh h.fresh) (hmoves.nodup h.nodup)

/-- In every run of every page it is not seen whether freed nodes are forgotten, and what is counted
is the living nodes that are bound. -/
theorem sweeping_unobservable (h : Starts s) (ms : List Move) : Unobservable s ms := by
  have hsound := h.sound
  have halike := h.fresh.alike
  -- a run that never forgets has one beside it that does
  have hback (u : Session) (fs : List Frame) (hgoes : GoesBy Binder.scan ⟨s, []⟩ ms ⟨u, fs⟩) :
      ∃ t, Goes ⟨s, []⟩ ms ⟨t, fs⟩ ∧ t.Alike u := by
    obtain ⟨t, hgoes', halike'⟩ :=
      hgoes.alike Binder.sparesLiving_scan Binder.sparesLiving_pass hsound halike
    exact ⟨t, goesBy_pass_iff.mp hgoes', halike'.symm⟩
  constructor
  case itself => exact ⟨clickBy_pass, fun _ _ => goesBy_pass_iff⟩
  case starts => exact h.startsBy_scan
  case forth =>
    intro t fs hgoes
    obtain ⟨u, hgoes', halike'⟩ := (goesBy_pass_iff.mpr hgoes).alike Binder.sparesLiving_pass
      Binder.sparesLiving_scan hsound halike
    exact ⟨h.counted hgoes, u, hgoes', (hgoes.sound hsound).2.indistinct halike'⟩
  case back =>
    intro u fs hgoes
    obtain ⟨t, hgoes', halike'⟩ := hback u fs hgoes
    exact ⟨(h.counted hgoes').alike Binder.sparesLiving_scan halike', t, hgoes',
      (hgoes'.sound hsound).2.indistinct halike'⟩
  case clicks =>
    intro t u fs hgoes hgoes' depth n o t' hn hclick
    have hreached : Reached ⟨t, fs⟩ := ⟨s, ms, h, hgoes⟩
    have halike' : t.Alike u := by
      have ht : t = _ := (goesBy_pass_iff.mpr hgoes).session_eq
      have hu : u = _ := hgoes'.session_eq
      rw [ht, hu]
      exact halike.foldl_moveBy Binder.sparesLiving_pass Binder.sparesLiving_scan ms
    have hlikewise := conforms Binder.sparesLiving_scan depth n t u fs hreached.sound hn halike'
    rw [hclick] at hlikewise
    obtain ⟨u', hclick', hafter⟩ := hlikewise.exists_right
    exact ⟨u', hclick', (hreached.click hn hclick).sound.indistinct hafter⟩
  case placed =>
    intro address hapart hallots t fs hgoes
    obtain ⟨hmoves, ht⟩ := hgoes.sound hsound
    exact (hmoves.apart hapart hallots).placed ht.coherent.linked
  case placed_scan =>
    intro address hapart hallots u fs hgoes
    obtain ⟨t, hgoes', halike'⟩ := hback u fs hgoes
    have hu : Sound ⟨u, fs⟩ := (hgoes'.sound hsound).2.alike halike'
    have hsession : u = _ := hgoes.session_eq
    rw [hsession] at hu ⊢
    exact (hapart.foldl_moveBy Binder.sparesLiving_scan hallots).placed hu.coherent.linked

end

/-- A page with actions inside of an element that has one. -/
def nestedActions : Session :=
  load "<div data-action='f()'><p data-action='g()'>x</p><i data-action='h()'>y</i></div>" ⟨.nil⟩ {}

/-- The page with one of the inner elements held. -/
def heldInside : Session := nestedActions.move (.hold 5 "kept")

/-- The page after the outer element was taken out and a pass went over what is left. -/
def partlyFreed : Session := (heldInside.move (.remove 4)).move (.bind Document.root)

/-- Two of three bound elements die, and a page that keeps their entries answers as one that does
not. -/
theorem sweeping_unobservable_of_partlyFreed : ∃ u,
    GoesBy Binder.scan ⟨nestedActions, []⟩ [.hold 5 "kept", .remove 4, .bind Document.root]
        ⟨u, []⟩ ∧
      partlyFreed.Indistinct u ∧ partlyFreed.binder.bound.length = 1 ∧ u.binder.bound.length = 3 ∧
      u.binder.boundCount u.document = 1 ∧ partlyFreed.boundNodes.ncard = 1 ∧
      (heldInside.boundNodes ∩ heldInside.freed (.remove 4)).ncard = 2 := by
  have hstarts : Starts nestedActions := by
    rw [nestedActions]
    exact .load _ _ _
  have hparagraph : nestedActions.document.isAlive 5 = true := by decide +kernel
  have houter : heldInside.document.isAlive 4 = true := by decide +kernel
  have hroot : (heldInside.move (.remove 4)).document.isAlive Document.root = true := by
    decide +kernel
  have hheld : Goes ⟨nestedActions, []⟩ [.hold 5 "kept"] ⟨heldInside, []⟩ :=
    (Step.request (.hold 5 "kept") rfl hparagraph).goes
  have hgoes : Goes ⟨nestedActions, []⟩ [.hold 5 "kept", .remove 4, .bind Document.root]
      ⟨partlyFreed, []⟩ :=
    hheld.trans ((Step.request (.remove 4) rfl houter).goes.trans
      (Step.request (.bind Document.root) rfl hroot).goes)
  obtain ⟨hcounted, -⟩ := (sweeping_unobservable hstarts _).forth heldInside [] hheld
  obtain ⟨hafter, u, hgoes', hindistinct⟩ :=
    (sweeping_unobservable hstarts _).forth partlyFreed [] hgoes
  have hthree : heldInside.binder.boundCount heldInside.document = 3 := by decide +kernel
  have hone : (heldInside.move (.remove 4)).binder.boundCount
      (heldInside.move (.remove 4)).document = 1 := by decide +kernel
  have hcount : partlyFreed.binder.boundCount partlyFreed.document = 1 := by decide +kernel
  have hentries : partlyFreed.binder.bound.length = 1 := by decide +kernel
  have hkept : u.binder.bound.length = 3 := by
    have hu : u = _ := hgoes'.session_eq
    rw [hu]
    decide +kernel
  have htwo : (heldInside.boundNodes ∩ heldInside.freed (.remove 4)).ncard = 2 := by
    have hlowered := (hcounted.lowered (.remove 4) rfl).2
    omega
  exact ⟨u, hgoes', hindistinct, hentries, hkept, hindistinct.boundCount.symm.trans hcount,
    hafter.count.symm.trans hcount, htwo⟩

end Scene

end MarkupActions
