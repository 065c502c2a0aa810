import MarkupActions.Html.Parse
import MarkupActions.Proofs.Binder.Count
import MarkupActions.Proofs.Session.Answer
import MarkupActions.Proofs.Session.Counted

/-! The algebra of passes. At every moment of every page a pass counts each element below its node
that has the action attribute, and binds those whose action is not blank. A second pass finds them
bound and changes nothing, and passes below any two nodes come to the same in either order. -/

namespace MarkupActions

open Document

namespace Session

variable {s : Session} {n r r' : Nat}

/-- The elements at and below a node that have the action attribute. -/
def carriers (s : Session) (r : NodeId) : Set NodeId :=
  {n | s.document.Below r n ∧ (s.document.attribute? n s.binder.actionAttribute).isSome = true}

/-- The elements at and below a node whose action is not blank. -/
def declarers (s : Session) (r : NodeId) : Set NodeId :=
  {n | s.document.Below r n ∧
    (s.document.declared? s.binder.actionAttribute n).isSome = true}

/-- What a pass below a node counts and does. -/
structure PassesOver (s : Session) (r : NodeId) : Prop where
  /-- All elements with the attribute are counted. -/
  total : (s.bindPass r).1.bound + (s.bindPass r).1.alreadyBound + (s.bindPass r).1.skippedEmpty =
    (s.carriers r).ncard
  bound : (s.bindPass r).1.bound = (s.declarers r \ s.boundNodes).ncard
  alreadyBound : (s.bindPass r).1.alreadyBound = (s.carriers r ∩ s.boundNodes).ncard
  skippedEmpty : (s.bindPass r).1.skippedEmpty = (s.carriers r \ s.declarers r).ncard
  boundNodes : (s.bindPass r).2.boundNodes = s.boundNodes ∪ s.declarers r
  /-- What lives and is bound is bound to what it declares. -/
  action? : ∀ n ∈ (s.bindPass r).2.boundNodes,
    (s.bindPass r).2.binder.action? n = s.document.declared? s.binder.actionAttribute n
  /-- A second pass finds bound what the first one bound or found so, and all that it changes is
  that a line of the log tells of it. -/
  again : ∃ l : Log.Line, l.level = .debug ∧ (s.bindPass r).2.bindPass r =
    (⟨0, (s.bindPass r).1.bound + (s.bindPass r).1.alreadyBound, (s.bindPass r).1.skippedEmpty⟩,
      (s.bindPass r).2.note (.logged l))

/-- Passes below two nodes come to the same in either order. -/
structure PassesCommute (s : Session) (r r' : NodeId) : Prop where
  boundNodes : ((s.bindPass r).2.bindPass r').2.boundNodes =
    ((s.bindPass r').2.bindPass r).2.boundNodes
  action? : ∀ n, ((s.bindPass r).2.bindPass r').2.binder.action? n =
    ((s.bindPass r').2.bindPass r).2.binder.action? n
  /-- The entries are the same, and differ in order at most. -/
  entries : ((s.bindPass r).2.bindPass r').2.binder.bound.Perm
    ((s.bindPass r').2.bindPass r).2.binder.bound
  /-- Together they bind as many elements. -/
  bound : (s.bindPass r).1.bound + ((s.bindPass r).2.bindPass r').1.bound =
    (s.bindPass r').1.bound + ((s.bindPass r').2.bindPass r).1.bound

/-! ### Counts -/

theorem isElement_of_carries (h : s.binder.carries s.document n = true) :
    s.document.isElement n = true := by
  rw [Binder.carries, attribute?] at h
  rw [isElement]
  cases hkind : s.document.kind? n with
  | none => simp [hkind] at h
  | some k => cases k <;> simp_all [NodeKind.attribute?, NodeKind.isElement, NodeKind.element?]

/-- The elements of a kind at and below a living node are counted once each. -/
theorem countP_elements (hd : s.document.Linked) (hr : s.document.isAlive r = true)
    {p : NodeId → Bool} {t : Set NodeId}
    (hcarries : ∀ n, p n = true → s.binder.carries s.document n = true)
    (ht : ∀ n, n ∈ t ↔ s.document.Below r n ∧ p n = true) :
    (s.document.elements r).countP p = t.ncard := by
  have hset : {n | n ∈ s.document.elements r ∧ p n = true} = t := by
    ext n
    rw [Set.mem_ofPred_eq, ht, hd.mem_elements_iff, hr, eq_self, true_and]
    exact and_congr_left fun hn => and_iff_right (isElement_of_carries (hcarries n hn))
  rw [countP_eq_ncard (hd.nodup_elements r), hset]

theorem isSome_action?_iff (hn : s.document.isAlive n = true) :
    (s.binder.action? n).isSome = true ↔ n ∈ s.boundNodes := by
  rw [mem_boundNodes_iff, hn, eq_self, true_and, Option.isSome_iff_exists]

theorem action?_eq_none_iff (hn : s.document.isAlive n = true) :
    s.binder.action? n = none ↔ n ∉ s.boundNodes := by
  rw [← isSome_action?_iff hn, Option.not_isSome_iff_eq_none]

/-- After a pass those are bound that were before, and those below the node whose action is not
blank. -/
theorem boundNodes_bindPass (hd : s.document.Linked) (hr : s.document.isAlive r = true) :
    (s.bindPass r).2.boundNodes = s.boundNodes ∪ s.declarers r := by
  ext n
  constructor
  · intro hn
    obtain ⟨halive, action, haction⟩ := mem_boundNodes_iff.mp hn
    rw [action?_bindPass (s := s) halive] at haction
    cases hbefore : s.binder.action? n with
    | some action' => exact .inl (mem_boundNodes_iff.mpr ⟨halive, action', hbefore⟩)
    | none =>
      rw [hbefore, Option.none_or] at haction
      split at haction
      next hmem => exact .inr ⟨(hd.mem_elements_iff.mp hmem).2.2, by rw [haction]; rfl⟩
      next => cases haction
  · rintro (hn | ⟨hbelow, hdeclared⟩)
    · obtain ⟨halive, action, haction⟩ := mem_boundNodes_iff.mp hn
      refine mem_boundNodes_iff.mpr ⟨halive, action, ?_⟩
      rw [action?_bindPass halive, haction]
      rfl
    · obtain ⟨action, haction⟩ := Option.isSome_iff_exists.mp hdeclared
      have halive := isAlive_of_declared? haction
      have hmem := hd.mem_elements_iff.mpr ⟨isElement_of_declared? haction, hr, hbelow⟩
      refine mem_boundNodes_iff.mpr ⟨halive, ?_⟩
      rw [action?_bindPass halive, if_pos hmem, haction]
      cases s.binder.action? n with
      | some action' => exact ⟨action', rfl⟩
      | none => exact ⟨action, rfl⟩

/-- A pass that binds nothing leaves a line in the log. -/
theorem bindPass_of_unchanged (h : (s.binder.pass s.document r).2 = s.binder) :
    ∃ l : Log.Line, l.level = .debug ∧
      s.bindPass r = ((s.binder.pass s.document r).1, s.note (.logged l)) := by
  simp only [bindPass, h]
  exact ⟨⟨.debug, .binding, _⟩, rfl, rfl⟩

end Session

namespace Scene

open Session

section

variable [MarkupParser] {a : Scene} {r : Nat}

/-- What is bound declares its action, so it is no element whose action is blank. -/
theorem Reached.mem_declarers (ha : a.Reached) {n : Nat} (hn : n ∈ a.session.boundNodes)
    (hbelow : a.session.document.Below r n) : n ∈ a.session.declarers r := by
  obtain ⟨halive, action, haction⟩ := mem_boundNodes_iff.mp hn
  exact ⟨hbelow, by rw [ha.declared? halive haction]; rfl⟩

theorem Reached.passesOver (ha : a.Reached) (hr : a.session.document.isAlive r = true) :
    a.session.PassesOver r := by
  have hd := ha.sound.coherent.linked
  have hreport : (a.session.bindPass r).1 =
      a.session.binder.counts a.session.document (a.session.document.elements r) :=
    Binder.report_pass hd _ r
  have hlives {n : Nat} (hn : a.session.document.Below r n) : a.session.document.isAlive n = true :=
    hd.isAlive_of_below hr hn
  constructor
  case total =>
    have htotal := Binder.total_counts a.session.document a.session.binder
      (a.session.document.elements r)
    rw [← hreport, countP_elements hd hr (fun _ hn => hn) fun _ => Iff.rfl] at htotal
    exact htotal
  case bound =>
    rw [hreport]
    refine countP_elements hd hr (fun n hn => ?_) fun n => ?_
    · exact Binder.carries_of_declared? (Binder.binds_iff.mp hn).2
    · rw [Binder.binds_iff]
      constructor
      · rintro ⟨⟨hbelow, hdeclared⟩, hfree⟩
        exact ⟨hbelow, (action?_eq_none_iff (hlives hbelow)).mpr hfree, hdeclared⟩
      · rintro ⟨hbelow, hfree, hdeclared⟩
        exact ⟨⟨hbelow, hdeclared⟩, (action?_eq_none_iff (hlives hbelow)).mp hfree⟩
  case alreadyBound =>
    rw [hreport]
    refine countP_elements hd hr (fun n hn => (Binder.finds_iff.mp hn).1) fun n => ?_
    rw [Binder.finds_iff]
    constructor
    · rintro ⟨⟨hbelow, hcarries⟩, hbound⟩
      exact ⟨hbelow, hcarries, (isSome_action?_iff (hlives hbelow)).mpr hbound⟩
    · rintro ⟨hbelow, hcarries, hbound⟩
      exact ⟨⟨hbelow, hcarries⟩, (isSome_action?_iff (hlives hbelow)).mp hbound⟩
  case skippedEmpty =>
    rw [hreport]
    refine countP_elements hd hr (fun n hn => (Binder.skips_iff.mp hn).1) fun n => ?_
    rw [Binder.skips_iff]
    constructor
    · rintro ⟨⟨hbelow, hcarries⟩, hblank⟩
      have hfree : n ∉ a.session.boundNodes := fun hbound => hblank (ha.mem_declarers hbound hbelow)
      exact ⟨hbelow, hcarries, (action?_eq_none_iff (hlives hbelow)).mpr hfree,
        Option.not_isSome_iff_eq_none.mp fun hdeclared => hblank ⟨hbelow, hdeclared⟩⟩
    · rintro ⟨hbelow, hcarries, -, hblank⟩
      exact ⟨⟨hbelow, hcarries⟩, Option.not_isSome_iff_eq_none.mpr hblank ∘ And.right⟩
  case boundNodes => exact boundNodes_bindPass hd hr
  case action? =>
    intro n hn
    have hpass := ha.goes (Step.request (.bind r) rfl hr).goes
    obtain ⟨halive, action, haction⟩ := mem_boundNodes_iff.mp hn
    rw [haction, ← actionAttribute_bindPass (s := a.session) (n := r)]
    exact (hpass.declared? halive haction).symm
  case again =>
    have hagain := Binder.pass_pass hd a.session.binder r
    have hunchanged : ((a.session.bindPass r).2.binder.pass (a.session.bindPass r).2.document r).2 =
        (a.session.bindPass r).2.binder := by
      rw [document_bindPass, binder_bindPass, hagain]
    obtain ⟨l, hlevel, hbind⟩ := bindPass_of_unchanged hunchanged
    refine ⟨l, hlevel, hbind.trans ?_⟩
    rw [document_bindPass, binder_bindPass, hagain]
    rfl

/-- At every moment of every page, passes count what they meet, are idempotent and commute. -/
theorem passes_algebra (ha : a.Reached) :
    (∀ r : Nat, a.session.document.isAlive r = true → a.session.PassesOver r) ∧
      ∀ r r' : Nat, a.session.PassesCommute r r' := by
  refine ⟨fun r hr => ha.passesOver hr, fun r r' => ?_⟩
  have haction (n : Nat) := Binder.action?_pass_comm a.session.binder a.session.document r r' n
  constructor
  case boundNodes =>
    ext n
    rw [mem_boundNodes_iff, mem_boundNodes_iff]
    exact and_congr_right fun _ => exists_congr fun action =>
      iff_of_eq (congrArg (· = some action) (haction n))
  case action? => exact haction
  case entries => exact Binder.perm_pass_comm ha.nodup a.session.document r r'
  case bound => exact Binder.bound_pass_comm ha.nodup a.session.document r r'

end

/-- A page with an element inside of another, each with an action, and one whose action is blank. -/
def mixedActions : Session :=
  unbound "<div data-action='f()'><p data-action=' '>x</p><i data-action='h()'>y</i></div>" ⟨.nil⟩ {}

/-- The page with the inner element bound. -/
def innerBound : Session := mixedActions.move (.bind 7)

/-- A pass below the outer element meets one of each kind, and passes below the two bind two
elements in either order. -/
theorem passes_algebra_of_mixedActions :
    (innerBound.bindPass 4).1 = ⟨1, 1, 1⟩ ∧ (innerBound.carriers 4).ncard = 3 ∧
      (innerBound.declarers 4 \ innerBound.boundNodes).ncard = 1 ∧
      ((innerBound.bindPass 4).2.bindPass 4).1 = ⟨0, 2, 1⟩ ∧
      ((innerBound.bindPass 4).2.bindPass 7).2.boundNodes =
        ((innerBound.bindPass 7).2.bindPass 4).2.boundNodes ∧
      (mixedActions.bindPass 4).1.bound + ((mixedActions.bindPass 4).2.bindPass 7).1.bound = 2 ∧
      (mixedActions.bindPass 7).1.bound + ((mixedActions.bindPass 7).2.bindPass 4).1.bound = 2 := by
  have hstart : Reached ⟨mixedActions, []⟩ := ⟨mixedActions, [], .unbound _ _ _, .refl⟩
  have hinner : mixedActions.document.isAlive 7 = true := by decide +kernel
  have houter : innerBound.document.isAlive 4 = true := by decide +kernel
  have hbound : Reached ⟨innerBound, []⟩ := hstart.goes (Step.request (.bind 7) rfl hinner).goes
  have hreport : (innerBound.bindPass 4).1 = ⟨1, 1, 1⟩ := by decide +kernel
  have htwo : (mixedActions.bindPass 7).1.bound +
      ((mixedActions.bindPass 7).2.bindPass 4).1.bound = 2 := by decide +kernel
  -- from here on of any pages, as comparing terms of these would run their passes
  generalize innerBound = s at *
  generalize mixedActions = t at *
  have hpass := (passes_algebra hbound).1 4 houter
  obtain ⟨l, -, hagain⟩ := hpass.again
  have htotal := hpass.total
  have hnew := hpass.bound
  rw [hreport] at htotal hnew hagain
  have hsame := ((passes_algebra hstart).2 4 7).bound.trans htwo
  exact ⟨hreport, htotal.symm, hnew.symm, congrArg Prod.fst hagain,
    ((passes_algebra hbound).2 4 7).boundNodes, hsame, htwo⟩

end Scene

end MarkupActions
