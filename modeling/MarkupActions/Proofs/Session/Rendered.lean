import MarkupActions.Html.Parse
import MarkupActions.Proofs.Document.Forest
import MarkupActions.Proofs.Session.Passes

/-! Rendering into an element. The markup becomes the last children of the first element with the
id, and what is bound then is what was bound before and what the markup declares. The passes go over
the new nodes only, one for each at the top, and yet find all that a pass over the whole document
would find, where nothing else was left to bind. -/

namespace MarkupActions

open Document

/-! ### Counts of what was read -/

namespace NodeKind

/-- Whether an element declares an action. -/
def declares (name : String) (k : NodeKind) : Bool :=
  (k.attribute? name).any fun value => Text.trimmed value ≠ ""

/-- Whether an element has the attribute of actions, but declares none. -/
def isBlank (name : String) (k : NodeKind) : Bool :=
  (k.attribute? name).any fun value => Text.trimmed value = ""

theorem isElement_of_attribute? {name : String} {p : String → Bool} (k : NodeKind)
    (h : (k.attribute? name).any p = true) : k.isElement = true := by
  cases k with
  | element e => rfl
  | _ => cases h

end NodeKind

namespace Binder

variable {d : Document} {b : Binder} {n : Nat} {ns : List Nat}

theorem binds_of_unbound (h : b.action? n = none) :
    b.binds d n = (d.kind? n).any (NodeKind.declares b.actionAttribute) := by
  rw [binds, h, declared?, attribute?]
  cases d.kind? n with
  | none => rfl
  | some k =>
    rw [Option.any_some, NodeKind.declares, Option.bind_some]
    cases k.attribute? b.actionAttribute with
    | none => rfl
    | some value => by_cases hblank : Text.trimmed value = "" <;> simp [hblank]

theorem skips_of_unbound (h : b.action? n = none) :
    b.skips d n = (d.kind? n).any (NodeKind.isBlank b.actionAttribute) := by
  rw [skips, h, carries, declared?, attribute?]
  cases d.kind? n with
  | none => rfl
  | some k =>
    rw [Option.any_some, NodeKind.isBlank, Option.bind_some]
    cases k.attribute? b.actionAttribute with
    | none => rfl
    | some value => by_cases hblank : Text.trimmed value = "" <;> simp [hblank]

theorem finds_of_unbound (h : b.action? n = none) : b.finds d n = false := by
  rw [finds, h]
  simp

theorem counts_append (d : Document) (b : Binder) (ms ns : List Nat) :
    b.counts d (ms ++ ns) = b.counts d ms + b.counts d ns := by
  simp only [counts, List.countP_append]
  rfl

/-- Unbound elements are counted as what they are. -/
theorem counts_of_unbound (h : ∀ n ∈ ns, b.action? n = none) : b.counts d ns =
    ⟨ns.countP fun n => (d.kind? n).any (NodeKind.declares b.actionAttribute), 0,
      ns.countP fun n => (d.kind? n).any (NodeKind.isBlank b.actionAttribute)⟩ := by
  have hbinds := List.countP_congr fun n hn => iff_of_eq (congrArg (· = true)
    (binds_of_unbound (d := d) (h n hn)))
  have hskips := List.countP_congr fun n hn => iff_of_eq (congrArg (· = true)
    (skips_of_unbound (d := d) (h n hn)))
  have hfinds : ns.countP (b.finds d) = 0 :=
    List.countP_eq_zero.mpr fun n hn => by rw [finds_of_unbound (h n hn)]; exact Bool.false_ne_true
  rw [counts, hbinds, hfinds, hskips]

end Binder

namespace Session

variable {s : Session} {c n : Nat} {id html : String} {ns : List NodeId}

/-! ### Passes over what is new -/

/-- Passes below nodes that are apart count together what is below any of them. -/
theorem report_bindPasses (hd : s.document.Linked)
    (hnodup : (ns.flatMap s.document.elements).Nodup) :
    (s.bindPasses ns).1 = s.binder.counts s.document (ns.flatMap s.document.elements) := by
  induction ns generalizing s with
  | nil => rfl
  | cons n ns ih =>
    rw [List.flatMap_cons, List.nodup_append] at hnodup
    obtain ⟨-, hrest, hapart⟩ := hnodup
    have hfirst : (s.bindPass n).1 = s.binder.counts s.document (s.document.elements n) :=
      Binder.report_pass hd _ n
    -- the first pass leaves alone whether the elements of the others are bound
    have hothers : (s.bindPass n).2.binder.counts s.document (ns.flatMap s.document.elements) =
        s.binder.counts s.document (ns.flatMap s.document.elements) := by
      refine Binder.counts_congr actionAttribute_bindPass fun m hm => ?_
      obtain ⟨r, -, hmr⟩ := List.mem_flatMap.mp hm
      have hfree : m ∉ s.document.elements n := fun hmn => hapart m hmn m hm rfl
      rw [action?_bindPass (isAlive_of_isElement (List.mem_filter.mp hmr).2), if_neg hfree,
        Option.or_none]
    rw [List.flatMap_cons, Binder.counts_append, ← hfirst, ← hothers]
    exact congrArg ((s.bindPass n).1 + ·) (ih (s := (s.bindPass n).2) hd hrest)

/-! ### What comes to be bound -/

variable [MarkupParser]

/-- What a page is after markup was rendered into an element. -/
structure Rendered (s : Session) (c : NodeId) (html : String) (report : BindReport) (t : Session) :
    Prop where
  document : t.document = (s.document.insertHtml c html).2
  /-- The new nodes are the last children of the element, in order. -/
  children : t.document.children c = s.document.children c ++ (s.document.insertHtml c html).1
  /-- They and what is below them are the nodes that were read. -/
  forest : Tree.mapAll t.document.kind?
    ((s.document.insertHtml c html).1.flatMap t.document.subtree) =
      Tree.mapAll some (s.document.fragmentFor c html)
  /-- The counts are those of the nodes that were read, and nothing new was bound before. -/
  report : report =
    ⟨(Tree.preorderAll (s.document.fragmentFor c html)).countP
        (NodeKind.declares s.binder.actionAttribute), 0,
      (Tree.preorderAll (s.document.fragmentFor c html)).countP
        (NodeKind.isBlank s.binder.actionAttribute)⟩
  boundNodes : t.boundNodes =
    s.boundNodes ∪ {n | ∃ r ∈ (s.document.insertHtml c html).1, n ∈ t.declarers r}
  /-- What was there before is bound as it was, or unbound as it was. -/
  kept : ∀ n, s.document.isAlive n = true → t.binder.action? n = s.binder.action? n
  /-- What is new is bound to what it declares. -/
  action? : ∀ n ∈ (s.document.insertHtml c html).1.flatMap t.document.elements,
    t.binder.action? n = t.document.declared? s.binder.actionAttribute n
  /-- Where all that is attached and declares an action was bound, one pass over the whole document
  after the markup was added comes to the same. -/
  rescan : s.declarers root ⊆ s.boundNodes →
    t.document = ((s.move (.insert c html)).bindPass root).2.document ∧
      t.boundNodes = ((s.move (.insert c html)).bindPass root).2.boundNodes ∧
      ∀ n, t.document.isAlive n = true →
        t.binder.action? n = ((s.move (.insert c html)).bindPass root).2.binder.action? n

/-- The elements at and below the new top-level nodes are those with new names. -/
theorem mem_elements_insertHtml {d : Document} :
    n ∈ (d.insertHtml c html).1.flatMap (d.insertHtml c html).2.elements ↔
      d.cells.size ≤ n ∧ (d.insertHtml c html).2.isElement n = true :=
  mem_flatMap_elements_append

/-- Adds markup to a node and binds what is new. -/
def renderAt (s : Session) (c : NodeId) (html : String) : BindReport × Session :=
  (s.move (.insert c html)).bindPasses (s.document.insertHtml c html).1

theorem render_of_found (hc : s.document.elementById? id = some c) :
    s.render id html = (.ok (s.renderAt c html).1, (s.renderAt c html).2) := by
  rw [render, hc]
  rfl

theorem render_of_missing (hc : s.document.elementById? id = none) :
    s.render id html = (.error (.missingContainer id), s) := by
  rw [render, hc]

theorem document_renderAt (s : Session) (c : Nat) (html : String) :
    (s.renderAt c html).2.document = (s.document.insertHtml c html).2 := document_bindPasses

theorem actionAttribute_renderAt (s : Session) (c : Nat) (html : String) :
    (s.renderAt c html).2.binder.actionAttribute = s.binder.actionAttribute :=
  actionAttribute_bindPasses (s := s.move (.insert c html))

/-- What is new is counted as it was read, and none of it was bound before. -/
theorem report_renderAt (hd : s.document.Linked) (hfresh : s.Fresh)
    (hc : s.document.isAlive c = true) : (s.renderAt c html).1 =
      ⟨(Tree.preorderAll (s.document.fragmentFor c html)).countP
          (NodeKind.declares s.binder.actionAttribute), 0,
        (Tree.preorderAll (s.document.fragmentFor c html)).countP
          (NodeKind.isBlank s.binder.actionAttribute)⟩ := by
  have hcounts : (s.renderAt c html).1 = s.binder.counts (s.document.insertHtml c html).2
      ((s.document.insertHtml c html).1.flatMap (s.document.insertHtml c html).2.elements) :=
    report_bindPasses (s := s.move (.insert c html)) (hd.append hc _)
      (nodup_elements_append _ _ _)
  have hfree : ∀ n ∈ (s.document.insertHtml c html).1.flatMap
      (s.document.insertHtml c html).2.elements, s.binder.action? n = none :=
    fun n hn => hfresh n (mem_elements_insertHtml.mp hn).1
  rw [hcounts, Binder.counts_of_unbound hfree]
  simp only [insertHtml, BindReport.mk.injEq, true_and]
  exact ⟨countP_elements_append _ _ _ fun k => k.isElement_of_attribute?,
    countP_elements_append _ _ _ fun k => k.isElement_of_attribute?⟩

/-- What is new is bound to what it declares, and all else as it was. -/
theorem action?_renderAt (hfresh : s.Fresh)
    (hn : (s.document.insertHtml c html).2.isAlive n = true) :
    (s.renderAt c html).2.binder.action? n =
      if n < s.document.cells.size then s.binder.action? n
      else (s.document.insertHtml c html).2.declared? s.binder.actionAttribute n := by
  have hpass : (s.renderAt c html).2.binder.action? n =
      (s.binder.action? n).or (if n ∈ (s.document.insertHtml c html).1.flatMap
          (s.document.insertHtml c html).2.elements then
        (s.document.insertHtml c html).2.declared? s.binder.actionAttribute n else none) :=
    action?_bindPasses (s := s.move (.insert c html)) hn
  rw [hpass]
  by_cases hsize : n < s.document.cells.size
  · have hold : n ∉ (s.document.insertHtml c html).1.flatMap
        (s.document.insertHtml c html).2.elements :=
      fun hnew => Nat.not_lt.mpr (mem_elements_insertHtml.mp hnew).1 hsize
    rw [if_pos hsize, if_neg hold, Option.or_none]
  · rw [if_neg hsize, hfresh n (Nat.le_of_not_lt hsize), Option.none_or]
    split
    · rfl
    next hother =>
      -- what is new and declares an action is an element, so a pass meets it
      cases hdeclared : (s.document.insertHtml c html).2.declared? s.binder.actionAttribute n with
      | none => rfl
      | some action =>
        have helement := isElement_of_declared? hdeclared
        exact absurd (mem_elements_insertHtml.mpr ⟨Nat.le_of_not_lt hsize, helement⟩) hother

/-- After rendering those are bound that were bound before, and what is new and declares an
action. -/
theorem boundNodes_renderAt (hd : s.document.Linked) (hfresh : s.Fresh)
    (hc : s.document.isAlive c = true) : (s.renderAt c html).2.boundNodes =
      s.boundNodes ∪ {n | ∃ r ∈ (s.document.insertHtml c html).1,
        n ∈ (s.renderAt c html).2.declarers r} := by
  have hlinked : (s.document.insertHtml c html).2.Linked := hd.append hc _
  ext n
  simp only [Set.mem_union, Set.mem_ofPred_eq, mem_boundNodes_iff, declarers, document_renderAt,
    actionAttribute_renderAt]
  constructor
  · rintro ⟨halive, action, haction⟩
    rw [action?_renderAt hfresh halive] at haction
    split at haction
    next hsize =>
      exact .inl ⟨(isAlive_append_of_lt hsize).symm.trans halive, action, haction⟩
    next hsize =>
      have hnew := mem_elements_insertHtml.mpr
        ⟨Nat.le_of_not_lt hsize, isElement_of_declared? haction⟩
      obtain ⟨r, hr, hnr⟩ := List.mem_flatMap.mp hnew
      exact .inr ⟨r, hr, (hlinked.mem_elements_iff.mp hnr).2.2, by rw [haction]; rfl⟩
  · rintro (⟨halive, action, haction⟩ | ⟨r, hr, hbelow, hdeclared⟩)
    · have hsize := lt_size_of_isAlive halive
      have halive' : (s.document.insertHtml c html).2.isAlive n = true :=
        (isAlive_append_of_lt hsize).trans halive
      exact ⟨halive', action, by rw [action?_renderAt hfresh halive', if_pos hsize, haction]⟩
    · obtain ⟨action, haction⟩ := Option.isSome_iff_exists.mp hdeclared
      have halive := isAlive_of_declared? haction
      have hnr := hlinked.mem_elements_iff.mpr
        ⟨isElement_of_declared? haction, isAlive_of_below_alive halive hbelow, hbelow⟩
      have hsize := (mem_elements_insertHtml.mp (List.mem_flatMap.mpr ⟨r, hr, hnr⟩)).1
      refine ⟨halive, action, ?_⟩
      rw [action?_renderAt hfresh halive, if_neg (Nat.not_lt.mpr hsize), haction]

/-- What is attached and declares an action is bound already, if it was there before. -/
theorem bound_of_mem_elements (hs : s.Coherent) (hc : s.document.isAlive c = true)
    (hall : s.declarers root ⊆ s.boundNodes) (hsize : n < s.document.cells.size)
    (hn : n ∈ (s.document.insertHtml c html).2.elements root) {action : String}
    (hdeclared : (s.document.insertHtml c html).2.declared? s.binder.actionAttribute n =
      some action) : ∃ action', s.binder.action? n = some action' := by
  have hroot := hs.linked.root_alive
  have hbefore := (mem_elements_append_of_lt hs.linked hc hroot hsize).mp hn
  have hsame : s.document.declared? s.binder.actionAttribute n = some action := by
    rw [← hdeclared]
    exact (declared?_congr (kind?_append_of_lt hsize)).symm
  have hbound := hall ⟨(hs.linked.mem_elements_iff.mp hbefore).2.2, by rw [hsame]; rfl⟩
  exact (mem_boundNodes_iff.mp hbound).2

/-- One pass over the whole document binds the same, where nothing else was left to bind. -/
theorem action?_rescanned (hs : s.Coherent) (hfresh : s.Fresh)
    (hc : c ∈ s.document.elements root) (hall : s.declarers root ⊆ s.boundNodes)
    (hn : (s.document.insertHtml c html).2.isAlive n = true) :
    ((s.move (.insert c html)).bindPass root).2.binder.action? n =
      if n < s.document.cells.size then s.binder.action? n
      else (s.document.insertHtml c html).2.declared? s.binder.actionAttribute n := by
  obtain ⟨-, hroot, hattached⟩ := hs.linked.mem_elements_iff.mp hc
  have hlives := hs.linked.isAlive_of_below hroot hattached
  have hpass : ((s.move (.insert c html)).bindPass root).2.binder.action? n =
      (s.binder.action? n).or (if n ∈ (s.document.insertHtml c html).2.elements root then
        (s.document.insertHtml c html).2.declared? s.binder.actionAttribute n else none) :=
    action?_bindPass (s := s.move (.insert c html)) hn
  rw [hpass]
  cases hdeclared : (s.document.insertHtml c html).2.declared? s.binder.actionAttribute n with
  | none =>
    rw [ite_self, Option.or_none]
    split
    · rfl
    next hsize => rw [hfresh n (Nat.le_of_not_lt hsize)]
  | some action =>
    by_cases hsize : n < s.document.cells.size
    · rw [if_pos hsize]
      cases hbound : s.binder.action? n with
      | some action' => rfl
      | none =>
        rw [Option.none_or, if_neg]
        intro hmem
        obtain ⟨action', haction⟩ := bound_of_mem_elements hs hlives hall hsize hmem hdeclared
        rw [hbound] at haction
        cases haction
    · have hnew : s.document.cells.size ≤ n := Nat.le_of_not_lt hsize
      rw [if_neg hsize, hfresh n hnew, Option.none_or, if_pos]
      exact mem_elements_append_new hs.linked hroot hattached hnew
        (isElement_of_declared? hdeclared)

/-- Rendering into an attached element binds what is new. -/
theorem Coherent.rendered (hs : s.Coherent) (hfresh : s.Fresh) (html : String)
    (hc : c ∈ s.document.elements root) :
    s.Rendered c html (s.renderAt c html).1 (s.renderAt c html).2 := by
  obtain ⟨-, hroot, hattached⟩ := hs.linked.mem_elements_iff.mp hc
  have hlives := hs.linked.isAlive_of_below hroot hattached
  have hdocument := document_renderAt s c html
  constructor
  case document => exact hdocument
  case children =>
    rw [hdocument]
    exact children_append_self hlives
  case forest =>
    rw [hdocument]
    exact map_subtree_append _ _ _
  case report => exact report_renderAt hs.linked hfresh hlives
  case boundNodes => exact boundNodes_renderAt hs.linked hfresh hlives
  case kept =>
    intro n hn
    have hsize := lt_size_of_isAlive hn
    rw [action?_renderAt hfresh ((isAlive_append_of_lt hsize).trans hn), if_pos hsize]
  case action? =>
    intro n hn
    rw [hdocument] at hn ⊢
    obtain ⟨hsize, helement⟩ := mem_elements_insertHtml.mp hn
    rw [action?_renderAt hfresh (isAlive_of_isElement helement), if_neg (Nat.not_lt.mpr hsize)]
  case rescan =>
    intro hall
    have hdocument' : ((s.move (.insert c html)).bindPass root).2.document =
        (s.document.insertHtml c html).2 := document_bindPass
    have hsame (n : Nat) (hn : (s.document.insertHtml c html).2.isAlive n = true) :
        (s.renderAt c html).2.binder.action? n =
          ((s.move (.insert c html)).bindPass root).2.binder.action? n := by
      rw [action?_renderAt hfresh hn, action?_rescanned hs hfresh hc hall hn]
    rw [hdocument, hdocument']
    refine ⟨rfl, ?_, hsame⟩
    ext n
    rw [mem_boundNodes_iff, mem_boundNodes_iff, hdocument, hdocument']
    exact and_congr_right fun hn => by rw [hsame n hn]

/-- On a page that was just loaded nothing is left to bind. -/
theorem declarers_load (html : String) (registry : Registry Target) (c : Config) (r : Nat) :
    (load html registry c).declarers r ⊆ (load html registry c).boundNodes := by
  rintro n ⟨-, hdeclared⟩
  obtain ⟨action, haction⟩ := Option.isSome_iff_exists.mp hdeclared
  refine mem_boundNodes_iff.mpr ⟨isAlive_of_declared? haction, action, ?_⟩
  rw [document_load, binder_load, Binder.actionAttribute_pass] at haction
  rw [action?_load]
  exact haction

end Session

namespace Scene

open Session

section

variable [MarkupParser] {a : Scene}

/-- At every moment of every page, rendering fails and changes nothing if no attached element has
the id, and otherwise adds the markup to the first that has it and binds what is new. -/
theorem render_binds_new (ha : a.Reached) (id html : String) :
    ((∀ n, a.session.document.contains n = true → a.session.document.isElement n = true →
        a.session.document.attribute? n "id" ≠ some id) ∧
      a.session.render id html = (.error (.missingContainer id), a.session)) ∨
    ∃ before c after report t, a.session.document.elementById? id = some c ∧
      a.session.document.elements root = before ++ c :: after ∧
      a.session.document.attribute? c "id" = some id ∧
      (∀ m ∈ before, a.session.document.attribute? m "id" ≠ some id) ∧
      a.session.render id html = (.ok report, t) ∧ a.session.Rendered c html report t := by
  have hs := ha.sound.coherent
  cases hid : a.session.document.elementById? id with
  | none =>
    refine .inl ⟨fun n hattached helement hn => ?_, render_of_missing hid⟩
    rw [elementById?_eq, List.find?_eq_none] at hid
    have hmem := hs.linked.mem_elements_iff.mpr
      ⟨helement, hs.linked.root_alive, hs.linked.contains_iff.mp hattached⟩
    exact hid n hmem (decide_eq_true hn)
  | some c =>
    have hrendered := hs.rendered ha.fresh html (mem_elements_of_elementById? hid)
    have hrender : a.session.render id html = _ := render_of_found hid
    rw [elementById?_eq, List.find?_eq_some_iff_append] at hid
    obtain ⟨hc, before, after, hsplit, hbefore⟩ := hid
    refine .inr ⟨before, c, after, _, _, rfl, hsplit, of_decide_eq_true hc, fun m hm => ?_,
      hrender, hrendered⟩
    simpa using hbefore m hm

end

/-- A page with an id that two elements have. -/
def menuPage : Session :=
  Session.load "<ul id='a'><li data-action='f()'>x</li></ul><p id='a'></p>" ⟨.nil⟩ {}

/-- Markup with the same id, an element inside of another, and a text at the top. -/
def menuMarkup : String := "<li id='a' data-action='g()'>y<b data-action=' '></b></li>z"

/-- The markup is added to the first element with the id and its one action is bound, as one pass
over the whole page would do, and where no element has an id nothing happens. -/
theorem render_binds_new_of_menuPage :
    menuPage.render "b" menuMarkup = (.error (.missingContainer "b"), menuPage) ∧
      ∃ t, menuPage.render "a" menuMarkup = (.ok ⟨1, 0, 1⟩, t) ∧
        t.document.children 4 = [5, 8, 11] ∧ t.binder.action? 8 = some "g()" ∧
        t.boundNodes = ((menuPage.move (.insert 4 menuMarkup)).bindPass root).2.boundNodes := by
  have hreached : Reached ⟨menuPage, []⟩ := by
    rw [menuPage]
    exact ⟨_, [], .load _ _ _, .refl⟩
  have hbound : menuPage.declarers root ⊆ menuPage.boundNodes := by
    rw [menuPage]
    exact declarers_load _ _ _ _
  have hmissing : menuPage.document.elementById? "b" = none := by decide +kernel
  have hfound : menuPage.document.elementById? "a" = some 4 := by decide +kernel
  have hattached : menuPage.document.contains 4 = true ∧ menuPage.document.isElement 4 = true ∧
      menuPage.document.attribute? 4 "id" = some "a" := by decide +kernel
  have hchildren : menuPage.document.children 4 ++
      (menuPage.document.insertHtml 4 menuMarkup).1 = [5, 8, 11] := by decide +kernel
  have hdeclared : 8 ∈ (menuPage.document.insertHtml 4 menuMarkup).1.flatMap
      (menuPage.document.insertHtml 4 menuMarkup).2.elements ∧
      (menuPage.document.insertHtml 4 menuMarkup).2.declared? menuPage.binder.actionAttribute 8 =
        some "g()" := by decide +kernel
  have hcounts : (⟨(Tree.preorderAll (menuPage.document.fragmentFor 4 menuMarkup)).countP
        (NodeKind.declares menuPage.binder.actionAttribute), 0,
      (Tree.preorderAll (menuPage.document.fragmentFor 4 menuMarkup)).countP
        (NodeKind.isBlank menuPage.binder.actionAttribute)⟩ : BindReport) = ⟨1, 0, 1⟩ := by
    decide +kernel
  -- from here on of any page, as comparing terms of this one would read its markup
  generalize menuPage = s at *
  constructor
  · rcases render_binds_new hreached "b" menuMarkup with ⟨-, hrender⟩ | ⟨_, c, _, _, _, hc, -⟩
    · exact hrender
    · rw [hmissing] at hc
      cases hc
  · rcases render_binds_new hreached "a" menuMarkup with
      ⟨hnone, -⟩ | ⟨_, c, _, report, t, hc, -, -, -, hrender, hrendered⟩
    · exact absurd hattached.2.2 (hnone 4 hattached.1 hattached.2.1)
    rw [hfound, Option.some.injEq] at hc
    subst hc
    rw [hrendered.report, hcounts] at hrender
    refine ⟨t, hrender, hrendered.children.trans hchildren, ?_, (hrendered.rescan hbound).2.1⟩
    rw [hrendered.action? 8 (by rw [hrendered.document]; exact hdeclared.1), hrendered.document,
      hdeclared.2]

end Scene

end MarkupActions
