import MarkupActions.Html.Parse
import MarkupActions.Proofs.Session.Inside
import MarkupActions.Proofs.Session.Load

/-! No action is left unwired. Loading a page binds every element that declares an action, markup
that is rendered is bound below each of its new roots, and nothing else makes elements or changes
what they declare. So as long as markup comes in by rendering only, every living element that
declares an action is bound to it, in every state that the page goes through. -/

namespace MarkupActions.Session

variable {s t : Session} {name : String} {n : Nat} {ns : List Nat}

/-! ### The invariant -/

/-- Every living element that declares an action in an attribute is bound to it, and no name that
is not given yet is bound. -/
structure Wired (name : String) (s : Session) : Prop where
  actionAttribute : s.binder.actionAttribute = name
  bound : ∀ n action, s.document.declared? name n = some action → s.binder.action? n = some action
  fresh : ∀ n, s.document.cells.size ≤ n → s.binder.action? n = none

/-- Changes that bind nothing and make no elements keep all actions wired. -/
theorem Wired.of_kind? (h : s.Wired name) (hbinder : t.binder = s.binder)
    (hsize : t.document.cells.size = s.document.cells.size)
    (hkind : ∀ n k, t.document.kind? n = some k → s.document.kind? n = some k) : t.Wired name where
  actionAttribute := by rw [hbinder, h.actionAttribute]
  bound := by
    intro n action hn
    obtain ⟨x, hx⟩ := Document.exists_element_of_declared? hn
    have hsame : t.document.kind? n = s.document.kind? n := by rw [hx, hkind n _ hx]
    rw [hbinder, h.bound n action (by rwa [← Document.declared?_congr hsame])]
  fresh := by
    intro n hn
    rw [hbinder, h.fresh n (by rwa [← hsize])]

/-- A document that grew is wired by passes below some nodes, if its new elements are all there. -/
theorem Wired.bindPasses (h : s.Wired name) {d : Document}
    (hsize : s.document.cells.size ≤ d.cells.size)
    (hold : ∀ n < s.document.cells.size, d.kind? n = s.document.kind? n)
    (hnew : ∀ n, s.document.cells.size ≤ n → d.isElement n = true → n ∈ ns.flatMap d.elements) :
    (Session.bindPasses { s with document := d } ns).2.Wired name where
  actionAttribute := by rw [actionAttribute_bindPasses, h.actionAttribute]
  bound := by
    intro m action hm
    rw [document_bindPasses] at hm
    have halive : d.isAlive m = true := Document.isAlive_of_declared? hm
    rw [action?_bindPasses halive, h.actionAttribute]
    by_cases hlt : m < s.document.cells.size
    · rw [h.bound m action (by rwa [← Document.declared?_congr (hold m hlt)])]
      rfl
    · have hmem := hnew m (Nat.le_of_not_lt hlt) (Document.isElement_of_declared? hm)
      rw [h.fresh m (Nat.le_of_not_lt hlt), if_pos hmem, hm]
      rfl
  fresh := by
    intro m hm
    rw [document_bindPasses] at hm
    exact action?_bindPasses_eq_none (h.fresh m (Nat.le_trans hsize hm))
      (Document.isElement_eq_false_of_size_le hm)

theorem Wired.bindPass (h : s.Wired name) (n : Nat) : (s.bindPass n).2.Wired name := by
  have hnew : ∀ m, s.document.cells.size ≤ m → s.document.isElement m = true →
      m ∈ [n].flatMap s.document.elements := by
    intro m hm helement
    rw [Document.isElement_eq_false_of_size_le hm] at helement
    cases helement
  exact h.bindPasses (Nat.le_refl _) (fun _ _ => rfl) hnew

/-- New markup is wired by passes below its roots: its elements are exactly those with new names,
and each is at or below one of the roots. -/
theorem Wired.append (h : s.Wired name) (p : Nat) (ts : List (Tree NodeKind)) :
    (Session.bindPasses { s with document := (s.document.append p ts).2 }
      (s.document.append p ts).1).2.Wired name := by
  refine h.bindPasses ?_ (fun n hn => Document.kind?_append_of_lt hn) ?_
  · rw [Document.size_append]
    omega
  · intro n hn helement
    exact Document.mem_flatMap_elements_append.mpr ⟨hn, helement⟩

theorem Wired.release (h : s.Wired name) (n : Nat) : (s.release n).Wired name :=
  h.of_kind? rfl Document.size_release fun _ _ => Document.kind?_of_release

theorem Wired.foldl_release (h : s.Wired name) (ns : List Nat) :
    (ns.foldl Session.release s).Wired name := by
  induction ns generalizing s with
  | nil => exact h
  | cons n ns ih => exact ih (h.release n)

section

variable [MarkupParser]

theorem Wired.render (h : s.Wired name) (id html : String) : (s.render id html).2.Wired name := by
  unfold Session.render
  cases s.document.elementById? id with
  | none => exact h
  | some container => exact h.append container _

/-- A move that does not insert keeps all actions wired. -/
theorem Wired.move (h : s.Wired name) {m : Move} (hm : ¬ m.inserts) : (s.move m).Wired name := by
  have hsame {u : Session} (hbinder : u.binder = s.binder) (hdocument : u.document = s.document) :
      u.Wired name :=
    h.of_kind? hbinder (by rw [hdocument]) fun _ _ hk => by rwa [hdocument] at hk
  cases m with
  | render id html => exact h.render id html
  | insert n html => exact absurd rfl hm
  | bind n => exact h.bindPass n
  | remove n =>
    have hremoved : Wired name { s with document := (s.document.remove n).2 } :=
      h.of_kind? rfl Document.size_remove fun m k hk => by rwa [Document.kind?_remove] at hk
    exact hremoved.release n
  | hold n name =>
    simp only [Session.move, hold]
    split
    · exact Wired.release (hsame (by rfl) (by rfl)) _
    · exact hsame rfl rfl
  | drop name =>
    simp only [Session.move, drop]
    split
    · exact Wired.release (hsame (by rfl) (by rfl)) _
    · exact h
  | note e => exact hsame rfl rfl
  | enter ns => exact hsame rfl rfl
  | leave ns =>
    exact Wired.foldl_release (s := { s with running := s.running.drop ns.length })
      (hsame rfl rfl) ns

theorem Wired.leads (h : s.Wired name) (hleads : s.Leads False t) : t.Wired name := by
  induction hleads with
  | refl => exact h
  | tail _ hmove ih =>
    obtain ⟨m, hm, rfl⟩ := hmove
    exact ih.move hm

/-- Every page is wired once it is loaded. -/
theorem wired_load (html : String) (registry : Registry Target) (c : Config) :
    (load html registry c).Wired c.actionAttribute where
  actionAttribute := by
    rw [binder_load, Binder.actionAttribute_pass]
    rfl
  bound := by
    intro n action hn
    rwa [action?_load, ← document_load html registry c]
  fresh := by
    intro n hn
    rw [document_load] at hn
    rw [binder_load]
    exact Binder.action?_pass_eq_none rfl (Document.isElement_eq_false_of_size_le hn)

/-- Where markup comes in by rendering only, every living element whose action is not blank is
bound and answers clicks on it with the trimmed value of its action, in every state of every page,
whether the element is attached or only held. -/
theorem living_actions_wired (html : String) {registry : Registry Target} (c : Config)
    (hregistry : registry.Obeys False) (hs : Reached False (load html registry c) s)
    {value : String} (hvalue : s.document.attribute? n c.actionAttribute = some value)
    (hblank : Text.trimmed value ≠ "") :
    s.binder.isBound s.document n = true ∧
      s.binder.handler? s.document n = some (n, Text.trimmed value) := by
  have hwired : s.Wired c.actionAttribute :=
    (wired_load html registry c).leads (hs.leads (by rwa [registry_load]))
  have hdeclared : s.document.declared? c.actionAttribute n = some (Text.trimmed value) := by
    simp [Document.declared?, hvalue, hblank]
  have hbound := hwired.bound n _ hdeclared
  exact ⟨Binder.isBound_of_action? (Document.isAlive_of_declared? hdeclared) hbound,
    Binder.handler?_of_action? (Document.lt_size_of_declared? hdeclared) hbound⟩

end

/-! ### A page that grows -/

/-- A function that renders an element with an action of its own. -/
def growing : Target where
  path := "grow"
  run _ := .perform (.render "box" "<b data-action=' grow() '>x</b>") fun _ => .finish .ok

/-- A page on which a click renders more. -/
def growingPage : Session :=
  load "<div id='box' data-action='grow()'></div>" ⟨.cons "grow" (.function growing) .nil⟩ {}

theorem obeys_growing :
    Registry.Obeys False (⟨.cons "grow" (.function growing) .nil⟩ : Registry Target) := by
  intro path t h arguments
  have ht : t = growing := by
    rcases path with _ | ⟨name, _ | ⟨m, q⟩⟩
    · cases h
    · by_cases hname : "grow" = name
      · simpa [Registry.lookup, Namespace.lookup, Namespace.get?, hname, eq_comm] using h
      · simp [Registry.lookup, Namespace.lookup, Namespace.get?, hname] at h
    · by_cases hname : "grow" = name <;>
        simp [Registry.lookup, Namespace.lookup, Namespace.get?, hname] at h
  rw [ht]
  exact ⟨by simp [Command.inserts], fun _ => trivial⟩

/-- The element that a click on the page renders is bound to its trimmed action. -/
theorem rendered_action_wired : ∃ o t, click 2 4 growingPage = some (o, t) ∧
    t.document.attribute? 5 "data-action" = some " grow() " ∧
    t.binder.isBound t.document 5 = true ∧ t.binder.handler? t.document 5 = some (5, "grow()") := by
  have hrun : ((click 2 4 growingPage).map fun r => r.2.document.attribute? 5 "data-action") =
      some (some " grow() ") := by decide +kernel
  obtain ⟨⟨o, t⟩, hclick, hvalue⟩ := Option.map_eq_some_iff.mp hrun
  have hwired := living_actions_wired "<div id='box' data-action='grow()'></div>" {} obeys_growing
    (.rest (.click .start hclick)) hvalue (by decide)
  have htrimmed : Text.trimmed " grow() " = "grow()" := by decide
  rw [htrimmed] at hwired
  exact ⟨o, t, hclick, hvalue, hwired⟩

end MarkupActions.Session
