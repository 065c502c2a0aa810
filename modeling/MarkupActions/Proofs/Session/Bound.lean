import MarkupActions.Html.Parse
import MarkupActions.Proofs.Session.Variant

/-! What is bound stays bound. Elements are bound by passes only, each to what it declares at that
moment, and what a node is never changes. An entry outlives its node, but the name of that node is
not given again; where nodes are told apart by where they lie, it is enough that a new one never
lies where one lies that lives or has an entry. -/

namespace MarkupActions

open Binder (Pass)

namespace Session

variable {s t u : Session} {m : Move} {ms : List Move} {ns : List NodeId} {address : NodeId → Nat}
  {k n : Nat} {p : Pass}

/-! ### Letting go -/

theorem descends_foldl_release {d : Document} (h : d.Descends s.document) (ns : List NodeId) :
    d.Descends (ns.foldl release s).document := by
  induction ns generalizing s with
  | nil => exact h
  | cons n ns ih => exact ih (h.trans (Document.descends_release s.document s.heldNodes n))

theorem binder_foldl_release (s : Session) (ns : List NodeId) :
    (ns.foldl release s).binder = s.binder := by
  induction ns generalizing s with
  | nil => rfl
  | cons n ns ih => exact ih (s.release n)

theorem binder_hold (s : Session) (n : Nat) (name : String) :
    (s.hold n name).binder = s.binder := by
  rw [hold_eq]
  exact binder_foldl_release _ _

theorem binder_drop (s : Session) (name : String) : (s.drop name).2.binder = s.binder := by
  rw [drop_eq]
  exact binder_foldl_release _ _

/-! ### Entries -/

/-- No name that is not given yet is bound. -/
def Fresh (s : Session) : Prop := ∀ n : Nat, s.document.cells.size ≤ n → s.binder.action? n = none

theorem Fresh.lt_size (h : s.Fresh) {action : String} (hn : s.binder.action? n = some action) :
    n < s.document.cells.size := by
  by_contra hle
  rw [h n (Nat.le_of_not_lt hle)] at hn
  cases hn

theorem nodup_bindPasses (h : (s.binder.bound.map (·.1)).Nodup) :
    ((s.bindPasses ns).2.binder.bound.map (·.1)).Nodup := by
  induction ns generalizing s with
  | nil => exact h
  | cons n ns ih => exact ih (Binder.nodup_pass h)

theorem mem_bound_bindPassesBy (hp : p.SparesLiving) {e : NodeId × String}
    (h : e ∈ (s.bindPassesBy p ns).2.binder.bound) :
    e ∈ s.binder.bound ∨ s.document.isAlive e.1 = true := by
  induction ns generalizing s with
  | nil => exact .inl h
  | cons n ns ih =>
    rcases ih h with hmem | halive
    · refine (hp.mem_bound hmem).imp_right fun hmem => ?_
      exact Document.isAlive_of_isElement (List.mem_filter.mp hmem).2
    · exact .inr halive

/-! ### Places in memory -/

/-- Whether a place in memory is taken: a node lies there until it is freed and its entry is
forgotten. -/
def Occupied (s : Session) (n : NodeId) : Prop :=
  s.document.isAlive n = true ∨ n ∈ s.binder.bound.map (·.1)

/-- No two nodes lie at one place. -/
def Apart (address : NodeId → Nat) (s : Session) : Prop :=
  ∀ n k, s.Occupied n → s.Occupied k → address n = address k → n = k

/-- What a living node is bound to is found by where it lies. -/
theorem Apart.actionAt (h : s.Apart address) (hn : s.document.isAlive n = true) :
    s.binder.actionAt address (address n) = s.binder.action? n :=
  Binder.actionAt_eq fun m hm heq => h m n (.inr hm) (.inl hn) heq

/-! ### Later documents -/

variable [MarkupParser]

theorem descends_move (s : Session) (m : Move) : s.document.Descends (s.move m).document := by
  cases m with
  | render id html =>
    simp only [move, render]
    split
    · exact .refl _
    · rw [document_bindPasses]
      exact Document.descends_append _ _ _
  | insert n html => exact Document.descends_append _ _ _
  | remove n => exact descends_foldl_release (Document.descends_remove s.document n) [n]
  | hold n name =>
    rw [move, hold_eq]
    refine descends_foldl_release ?_ _
    exact .refl _
  | drop name =>
    rw [move, drop_eq]
    refine descends_foldl_release ?_ _
    exact .refl _
  | leave ns =>
    rw [move, leave]
    refine descends_foldl_release ?_ ns
    exact .refl _
  | bind | note | enter => exact .refl _

theorem Moves.descends (h : s.Moves ms t) : s.document.Descends t.document := by
  induction h with
  | nil => exact .refl _
  | cons _ _ ih => exact (descends_move _ _).trans ih

/-! ### Passes -/

/-- The nodes below which a move binds, and the document at that moment. -/
def passes (s : Session) : Move → List NodeId × Document
  | .bind n => ([n], s.document)
  | .render id html =>
    match s.document.elementById? id with
    | some container => s.document.insertHtml container html
    | none => ([], s.document)
  | _ => ([], s.document)

/-- Whether a move has a pass that meets a node. -/
def Meets (s : Session) (m : Move) (n : NodeId) : Prop :=
  ∃ r ∈ (s.passes m).1, n ∈ (s.passes m).2.elements r

/-- What a move does to the page is to make passes, or to leave what is bound alone. -/
theorem moveBy_binds (p : Pass) (s : Session) (m : Move) :
    s.moveBy p m =
        (Session.bindPassesBy p { s with document := (s.passes m).2 } (s.passes m).1).2 ∨
      (s.passes m).1 = [] ∧ (s.moveBy p m).binder = s.binder := by
  cases m with
  | render id html =>
    simp only [moveBy, renderBy, passes]
    cases s.document.elementById? id with
    | none => exact .inl rfl
    | some container => exact .inl rfl
  | bind n => exact .inl rfl
  | hold n name => exact .inr ⟨rfl, binder_hold s n name⟩
  | drop name => exact .inr ⟨rfl, binder_drop s name⟩
  | leave ns => exact .inr ⟨rfl, binder_foldl_release _ ns⟩
  | insert | remove | note | enter => exact .inr ⟨rfl, rfl⟩

theorem move_binds (s : Session) (m : Move) :
    s.move m = (Session.bindPasses { s with document := (s.passes m).2 } (s.passes m).1).2 ∨
      (s.passes m).1 = [] ∧ (s.move m).binder = s.binder := by
  have hbinds := moveBy_binds Binder.pass s m
  rwa [moveBy_pass, bindPassesBy_pass] at hbinds

theorem actionAttribute_move (s : Session) (m : Move) :
    (s.move m).binder.actionAttribute = s.binder.actionAttribute := by
  rcases move_binds s m with hbinds | ⟨-, hbinder⟩
  · rw [hbinds]
    exact actionAttribute_bindPasses (s := { s with document := (s.passes m).2 })
  · rw [hbinder]

theorem Moves.actionAttribute (h : s.Moves ms t) :
    t.binder.actionAttribute = s.binder.actionAttribute := by
  induction h with
  | nil => rfl
  | cons _ _ ih => exact ih.trans (actionAttribute_move _ _)

/-! ### One move -/

theorem Fresh.move (h : s.Fresh) (m : Move) : (s.move m).Fresh := by
  intro n hn
  have hfree := h n ((descends_move s m).size.trans hn)
  rcases move_binds s m with hbinds | ⟨-, hbinder⟩
  · rw [hbinds] at hn ⊢
    rw [document_bindPasses] at hn
    exact action?_bindPasses_eq_none hfree (Document.isElement_eq_false_of_size_le hn)
  · rw [hbinder, hfree]

/-- What is bound and lives on stays bound, with the same action. -/
theorem action?_move {action : String} (halive : (s.move m).document.isAlive n = true)
    (hn : s.binder.action? n = some action) : (s.move m).binder.action? n = some action := by
  rcases move_binds s m with hbinds | ⟨-, hbinder⟩
  · rw [hbinds] at halive ⊢
    rw [document_bindPasses] at halive
    rw [action?_bindPasses halive, hn]
    rfl
  · rw [hbinder, hn]

/-- What a move binds is met by one of its passes, and is bound to what it declares. -/
theorem meets_of_action?_move {action : String} (halive : (s.move m).document.isAlive n = true)
    (hfree : s.binder.action? n = none) (hn : (s.move m).binder.action? n = some action) :
    s.Meets m n ∧
      (s.move m).document.declared? s.binder.actionAttribute n = some action := by
  rcases move_binds s m with hbinds | ⟨-, hbinder⟩
  · rw [hbinds] at halive hn ⊢
    rw [document_bindPasses] at halive ⊢
    rw [action?_bindPasses halive, hfree, Option.none_or] at hn
    split at hn
    next hmem => exact ⟨List.mem_flatMap.mp hmem, hn⟩
    next => cases hn
  · rw [hbinder, hfree] at hn
    cases hn

/-! ### Many moves -/

theorem Moves.action? (h : s.Moves ms t) {action : String} (hsize : n < s.document.cells.size)
    (halive : t.document.isAlive n = true) (hn : s.binder.action? n = some action) :
    t.binder.action? n = some action := by
  induction h with
  | nil => exact hn
  | @cons s t m ms _ hrest ih =>
    have hsize' := Nat.lt_of_lt_of_le hsize (descends_move s m).size
    exact ih hsize' halive (action?_move (hrest.descends.isAlive hsize' halive) hn)

theorem Moves.fresh (h : s.Moves ms t) (hs : s.Fresh) : t.Fresh := by
  induction h with
  | nil => exact hs
  | cons _ _ ih => exact ih (hs.move _)

/-- What came to be bound was met by a pass, and is bound to what it declares. -/
theorem Moves.meets (h : s.Moves ms t) (hs : s.Fresh) {action : String}
    (halive : t.document.isAlive n = true) (hfree : s.binder.action? n = none)
    (hn : t.binder.action? n = some action) :
    (∃ before m after u, ms = before ++ m :: after ∧ s.Moves before u ∧ u.Meets m n) ∧
      t.document.declared? t.binder.actionAttribute n = some action := by
  induction h with
  | nil =>
    rw [hfree] at hn
    cases hn
  | @cons s t m ms hfits hrest ih =>
    cases hbound : (s.move m).binder.action? n with
    | none =>
      obtain ⟨⟨before, m', after, u, heq, hbefore, hmeets⟩, hdeclared⟩ :=
        ih (hs.move m) halive hbound hn
      exact ⟨⟨m :: before, m', after, u, congrArg (m :: ·) heq, .cons hfits hbefore, hmeets⟩,
        hdeclared⟩
    | some action' =>
      -- this move binds the node, and no later one changes what it is bound to
      have hsize := (hs.move m).lt_size hbound
      obtain ⟨hmeets, hdeclared⟩ :=
        meets_of_action?_move (hrest.descends.isAlive hsize halive) hfree hbound
      have hsame := hrest.action? hsize halive hbound
      rw [hn, Option.some.injEq] at hsame
      refine ⟨⟨[], m, ms, s, rfl, .nil, hmeets⟩, ?_⟩
      rw [hrest.actionAttribute, actionAttribute_move s m,
        hrest.descends.declared? hsize halive, hdeclared, hsame]

theorem nodup_move (h : (s.binder.bound.map (·.1)).Nodup) (m : Move) :
    ((s.move m).binder.bound.map (·.1)).Nodup := by
  rcases move_binds s m with hbinds | ⟨-, hbinder⟩
  · rw [hbinds]
    exact nodup_bindPasses h
  · rwa [hbinder]

theorem Moves.nodup (h : s.Moves ms t) (hs : (s.binder.bound.map (·.1)).Nodup) :
    (t.binder.bound.map (·.1)).Nodup := by
  induction h with
  | nil => exact hs
  | cons _ _ ih => exact ih (nodup_move hs _)

/-! ### Places of new nodes -/

/-- The names that a move gives. -/
def Gives (s : Session) (m : Move) (n : NodeId) : Prop :=
  s.document.cells.size ≤ n ∧ n < (s.move m).document.cells.size

/-- New nodes lie apart from each other and from all whose places are taken. -/
def Allots (address : NodeId → Nat) (s : Session) (m : Move) : Prop :=
  ∀ n k, s.Gives m n → (s.Occupied k ∨ s.Gives m k) → address n = address k → n = k

/-- The same for moves one after another. -/
def AllotsAll (address : NodeId → Nat) : Session → List Move → Prop
  | _, [] => True
  | s, m :: ms => s.Allots address m ∧ (s.move m).AllotsAll address ms

/-- A move that gives no names allots no places. -/
theorem allots_of_size (h : (s.move m).document.cells.size = s.document.cells.size) :
    s.Allots address m := by
  intro n k hn
  rw [Gives, h] at hn
  exact absurd hn.2 (Nat.not_lt.mpr hn.1)

theorem size_move_bind (s : Session) (n : Nat) :
    (s.move (.bind n)).document.cells.size = s.document.cells.size := rfl

theorem size_move_remove (s : Session) (n : Nat) :
    (s.move (.remove n)).document.cells.size = s.document.cells.size :=
  Document.size_release.trans Document.size_remove

theorem document_moveBy (s : Session) (m : Move) :
    (s.moveBy p m).document = (s.move m).document := by
  cases m with
  | render id html =>
    simp only [moveBy, renderBy, move, render]
    cases s.document.elementById? id with
    | none => rfl
    | some container => exact (document_bindPassesBy _ _).trans document_bindPasses.symm
  | _ => rfl

/-- Entries that a move adds are for living nodes. -/
theorem mem_bound_moveBy (hp : p.SparesLiving) {e : NodeId × String}
    (h : e ∈ (s.moveBy p m).binder.bound) :
    e ∈ s.binder.bound ∨ (s.moveBy p m).document.isAlive e.1 = true := by
  rcases moveBy_binds p s m with hbinds | ⟨-, hbinder⟩
  · rw [hbinds] at h ⊢
    rw [document_bindPassesBy]
    exact mem_bound_bindPassesBy hp h
  · rw [hbinder] at h
    exact .inl h

/-- A place is taken by a new node only, or was taken before. -/
theorem occupied_moveBy (hp : p.SparesLiving) (h : (s.moveBy p m).Occupied n) :
    s.Occupied n ∨ s.Gives m n := by
  -- a living node has an old name, and lived before, or a new one
  have hliving {k : Nat} (halive : (s.moveBy p m).document.isAlive k = true) :
      s.Occupied k ∨ s.Gives m k := by
    rw [document_moveBy] at halive
    by_cases hk : k < s.document.cells.size
    · exact .inl (.inl ((descends_move s m).isAlive hk halive))
    · exact .inr ⟨Nat.le_of_not_lt hk, Document.lt_size_of_isAlive halive⟩
  rcases h with halive | hentry
  · exact hliving halive
  obtain ⟨e, he, rfl⟩ := List.mem_map.mp hentry
  rcases mem_bound_moveBy hp he with hold | halive
  · exact .inl (.inr (List.mem_map_of_mem hold))
  · exact hliving halive

theorem Apart.moveBy (hp : p.SparesLiving) (h : s.Apart address) (hm : s.Allots address m) :
    (s.moveBy p m).Apart address := by
  intro n k hn hk heq
  rcases occupied_moveBy hp hn with hn | hn
  · rcases occupied_moveBy hp hk with hk | hk
    · exact h n k hn hk heq
    · exact (hm k n hk (.inl hn) heq.symm).symm
  · exact hm n k hn (occupied_moveBy hp hk) heq

theorem Apart.move (h : s.Apart address) (hm : s.Allots address m) : (s.move m).Apart address := by
  rw [← moveBy_pass]
  exact h.moveBy Binder.sparesLiving_pass hm

theorem Moves.apart (h : s.Moves ms t) (hs : s.Apart address) (hms : s.AllotsAll address ms) :
    t.Apart address := by
  induction h with
  | nil => exact hs
  | cons _ _ ih => exact ih (hs.move hms.1) hms.2

end Session

/-! ### Runs -/

namespace Scene

open Session

section

variable [MarkupParser] {a b : Scene} {s : Session} {ms : List Move}

theorem Starts.fresh (h : Starts s) : s.Fresh := by
  intro n hn
  cases h with
  | load html registry c =>
    rw [document_load] at hn
    rw [action?_load]
    cases hdeclared : (Document.parse html).declared? c.actionAttribute n with
    | none => rfl
    | some action =>
      exact absurd (Document.lt_size_of_declared? hdeclared) (Nat.not_lt.mpr hn)
  | unbound html registry c => rfl

theorem Starts.nodup (h : Starts s) : (s.binder.bound.map (·.1)).Nodup := by
  cases h with
  | load html registry c =>
    rw [binder_load]
    exact Binder.nodup_pass List.nodup_nil
  | unbound html registry c => exact List.nodup_nil

theorem Reached.exists_moves (h : a.Reached) : ∃ s ms, Starts s ∧ s.Moves ms a.session := by
  obtain ⟨s, ms, hstarts, hgoes⟩ := h
  exact ⟨s, ms, hstarts, (hgoes.sound hstarts.sound).1⟩

theorem Reached.fresh (h : a.Reached) : a.session.Fresh := by
  obtain ⟨s, ms, hstarts, hmoves⟩ := h.exists_moves
  exact hmoves.fresh hstarts.fresh

theorem Reached.nodup (h : a.Reached) : (a.session.binder.bound.map (·.1)).Nodup := by
  obtain ⟨s, ms, hstarts, hmoves⟩ := h.exists_moves
  exact hmoves.nodup hstarts.nodup

/-- In a run from one scene to another, nodes are bound once and for good. -/
structure BindsForGood (a : Scene) (ms : List Move) (b : Scene) : Prop where
  /-- What is bound and lives on is bound to the same action, also where it is only held. -/
  kept : ∀ (n : Nat) (action : String), a.session.document.isAlive n = true →
    b.session.document.isAlive n = true → a.session.binder.action? n = some action →
      b.session.binder.action? n = some action
  /-- What comes to be bound was met by a pass on the way, and declares the action that it is bound
  to. -/
  met : ∀ (n : Nat) (action : String), a.session.document.isAlive n = true →
    b.session.document.isAlive n = true → a.session.binder.action? n = none →
      b.session.binder.action? n = some action →
        (∃ before m after u, ms = before ++ m :: after ∧ a.session.Moves before u ∧
          u.Meets m n) ∧
        ∃ value, b.session.document.attribute? n b.session.binder.actionAttribute = some value ∧
          Text.trimmed value = action ∧ action ≠ ""
  /-- A node that is added is not bound, whatever entries are left of others. -/
  fresh : ∀ (p : Nat) (html : String) (n : Nat), b.session.document.isAlive n = false →
    (b.session.document.insertHtml p html).2.isAlive n = true →
      b.session.binder.isBound (b.session.document.insertHtml p html).2 n = false
  /-- No node has two entries. -/
  once : (b.session.binder.bound.map (·.1)).Nodup
  /-- Nodes may be told apart by where they lie, if new ones lie apart from each other and from all
  that live or have an entry. -/
  placed : ∀ address : NodeId → Nat, a.session.Apart address → a.session.AllotsAll address ms →
    ∀ n : Nat, b.session.document.isAlive n = true →
      b.session.binder.actionAt address (address n) = b.session.binder.action? n

/-- In every run of every page, also while actions run, nodes are bound once and for good. -/
theorem binding_permanent (ha : a.Reached) (hab : a.Goes ms b) : BindsForGood a ms b := by
  obtain ⟨s, before, hstarts, hbefore⟩ := ha.exists_moves
  obtain ⟨hmoves, -⟩ := hab.sound ha.sound
  have hfresh := hbefore.fresh hstarts.fresh
  constructor
  case kept =>
    intro n action halive halive' hn
    exact hmoves.action? (Document.lt_size_of_isAlive halive) halive' hn
  case met =>
    intro n action _ halive hfree hn
    obtain ⟨hmeets, hdeclared⟩ := hmoves.meets hfresh halive hfree hn
    exact ⟨hmeets, Document.declared?_eq_some_iff.mp hdeclared⟩
  case fresh =>
    intro p html n hdead halive
    have hnew : b.session.document.cells.size ≤ n := by
      by_contra hlt
      have hold := (Document.descends_append _ _ _).isAlive (Nat.lt_of_not_le hlt) halive
      rw [hdead] at hold
      cases hold
    rw [Binder.isBound, hmoves.fresh hfresh n hnew]
    rfl
  case once => exact (hbefore.trans hmoves).nodup hstarts.nodup
  case placed =>
    intro address hapart hallots n hn
    exact (hmoves.apart hapart hallots).actionAt hn

end

/-! ### A place that is taken again -/

def readPage : Session := unbound "<p data-action=' f() '>x</p><i>y</i>" ⟨.nil⟩ {}

/-- The page with its one action bound. -/
def wiredPage : Session := readPage.move (.bind Document.root)

/-- The page after the element beside the bound one was freed. -/
def freedPage : Session := wiredPage.move (.remove 6)

/-- The page with a new element. -/
def reusedPage : Session := freedPage.move (.insert 3 "<b></b>")

/-- The new element lies where the freed one did. -/
def reusedPlace (n : NodeId) : Nat := if n = 8 then 6 else n

theorem allots_reused : freedPage.Allots reusedPlace (.insert 3 "<b></b>") := by
  have hfreed : freedPage.document.cells.size = 8 := by decide +kernel
  have hreused : (freedPage.move (.insert 3 "<b></b>")).document.cells.size = 9 := by
    decide +kernel
  intro n k hn hk heq
  rw [Gives, hfreed, hreused] at hn
  have hn8 : n = 8 := Nat.le_antisymm (Nat.le_of_lt_succ hn.2) hn.1
  subst hn8
  by_contra hne
  have hk6 : k = 6 := by
    rw [reusedPlace, reusedPlace, if_pos rfl, if_neg (Ne.symm hne)] at heq
    exact heq.symm
  subst hk6
  rw [Occupied, Gives, hfreed] at hk
  have hdead : freedPage.document.isAlive 6 = false := by decide +kernel
  have hentries : freedPage.binder.bound.map (·.1) = [4] := by decide +kernel
  rw [hdead, hentries] at hk
  simp at hk

theorem allotsAll_reused : readPage.AllotsAll reusedPlace
    [.bind Document.root, .remove 6, .insert 3 "<b></b>"] :=
  ⟨allots_of_size (size_move_bind _ _), allots_of_size (size_move_remove _ _), allots_reused,
    trivial⟩

/-- A pass met the element that is bound, and it is told apart by its place from the new one. -/
theorem binding_permanent_of_reused_place :
    (∃ before m after u, [Move.bind Document.root, .remove 6, .insert 3 "<b></b>"] =
        before ++ m :: after ∧ readPage.Moves before u ∧ u.Meets m 4) ∧
      reusedPage.binder.actionAt reusedPlace (reusedPlace 4) = some "f()" ∧
      reusedPage.binder.actionAt reusedPlace (reusedPlace 8) = none := by
  have hstart : Reached ⟨readPage, []⟩ := ⟨readPage, [], .unbound _ _ _, .refl⟩
  have hroot : readPage.document.isAlive Document.root = true := by decide +kernel
  have hbeside : wiredPage.document.isAlive 6 = true := by decide +kernel
  have hbody : freedPage.document.isAlive 3 = true := by decide +kernel
  have hgoes : Goes ⟨readPage, []⟩ _ ⟨reusedPage, []⟩ :=
    (Step.request (.bind Document.root) rfl hroot).goes.trans
      ((Step.request (.remove 6) rfl hbeside).goes.trans
        (Step.request (.insert 3 "<b></b>") rfl hbody).goes)
  have hapart : readPage.Apart reusedPlace := by
    have hsize : readPage.document.cells.size = 8 := by decide +kernel
    have hentries : readPage.binder.bound.map (·.1) = [] := by decide +kernel
    have hplace (n : Nat) (hn : readPage.Occupied n) : reusedPlace n = n := by
      rcases hn with halive | hentry
      · have hlt := Document.lt_size_of_isAlive halive
        exact if_neg (Nat.ne_of_lt (hsize ▸ hlt))
      · rw [hentries] at hentry
        cases hentry
    intro n k hn hk heq
    rwa [hplace n hn, hplace k hk] at heq
  have hfree : readPage.binder.action? 4 = none := by decide +kernel
  have hread : readPage.document.isAlive 4 = true := by decide +kernel
  have hlives : reusedPage.document.isAlive 4 = true := by decide +kernel
  have hnew : reusedPage.document.isAlive 8 = true := by decide +kernel
  have hunbound : reusedPage.binder.action? 8 = none := by decide +kernel
  have hbound : reusedPage.binder.action? 4 = some "f()" := by decide +kernel
  have hbinds := binding_permanent hstart hgoes
  have hfound := hbinds.placed reusedPlace hapart allotsAll_reused
  have hmet := (hbinds.met 4 "f()" hread hlives hfree hbound).1
  have hfirst := (hfound 4 hlives).trans hbound
  have hsecond := (hfound 8 hnew).trans hunbound
  exact ⟨hmet, hfirst, hsecond⟩

end Scene

end MarkupActions
