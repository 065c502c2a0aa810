import MarkupActions.Html.Parse
import MarkupActions.Proofs.Action.Resolve
import MarkupActions.Proofs.Document.Text
import MarkupActions.Proofs.Session.Rendered

/-! Live text on a page that is rendered into. Markup comes after all text of the element that it is
rendered into, and that element is found by its id as before, so its text is then the old text and
the new. An action that reads live text gets what is there when it is resolved; where it leads, what
else it is called with and whether it can be resolved at all, no text has a say in. -/

namespace MarkupActions

open Document

/-! ### Resolving an action again -/

namespace Value

/-- A value with another live text in place of its own. -/
def reread (live : String) : Value → Value
  | liveText _ => liveText live
  | v => v

end Value

/-- The live text that a source gives. -/
def TextSource.live (source : TextSource) : String := (source Literal.liveTextId).getD ""

/-- An action that was resolved with one live text, and again with another. -/
structure Resolved.Rereads {φ : Type} (x : Resolved φ) (old new : String) (y : Resolved φ) :
    Prop where
  path : y.path = x.path
  target : y.target = x.target
  /-- Each argument that is no live text is the same, and each that is has the new one. -/
  arguments : y.arguments = x.arguments.map (Value.reread new)
  /-- Those that are had the old one. -/
  live : ∀ text, .liveText text ∈ x.arguments → text = old

theorem Literal.evaluate_reread (source source' : TextSource) (l : Literal) :
    l.evaluate source' = (l.evaluate source).reread source'.live := by
  cases l <;> rfl

theorem Literal.evaluate_eq_liveText_iff {source : TextSource} {l : Literal} {text : String} :
    l.evaluate source = .liveText text ↔ l = .liveText ∧ text = source.live := by
  cases l <;> simp [evaluate, TextSource.live, eq_comm]

/-- An action is resolved from any source of text as it is from any other, but for the live text
among its arguments; where it cannot be resolved from the one, it fails alike with the other. -/
theorem Registry.resolve_reread {φ : Type} (r : Registry φ) (root action : String)
    (source source' : TextSource) :
    (∃ e, r.resolve root action source = .error e ∧ r.resolve root action source' = .error e) ∨
      ∃ x y, r.resolve root action source = .ok x ∧ r.resolve root action source' = .ok y ∧
        x.Rereads source.live source'.live y := by
  unfold resolve
  cases ActionExpr.parse action root with
  | error e => exact .inl ⟨e, rfl, rfl⟩
  | ok expr =>
    dsimp only [Bind.bind, Except.bind]
    cases r.target expr.path with
    | error e => exact .inl ⟨e, rfl, rfl⟩
    | ok f =>
      cases expr.arguments with
      | error e => exact .inl ⟨e, rfl, rfl⟩
      | ok literals =>
        refine .inr ⟨_, _, rfl, rfl, rfl, rfl, ?_, ?_⟩
        · rw [List.map_map]
          exact List.map_congr_left fun l _ => l.evaluate_reread source source'
        · intro text htext
          obtain ⟨l, -, hl⟩ := List.mem_map.mp htext
          exact (Literal.evaluate_eq_liveText_iff.mp hl).2

namespace Session

variable {s : Session} {c : Nat} {id : String}

/-- The live text of a page. -/
def liveText (s : Session) : String := s.document.textById.live

/-- Rendering changes no more of an action than the live text that it is called with. -/
theorem resolve_later {t : Session} (h : s.Later t) (action : String) :
    (∃ e, s.resolve action = .error e ∧ t.resolve action = .error e) ∨
      ∃ x y, s.resolve action = .ok x ∧ t.resolve action = .ok y ∧
        x.Rereads s.liveText t.liveText y := by
  have hresolve : t.resolve action =
      s.registry.resolve s.rootNamespace action t.document.textById := by
    rw [resolve, h.registry, h.rootNamespace]
  rw [hresolve]
  exact s.registry.resolve_reread s.rootNamespace action _ _

variable [MarkupParser]

/-- The text of markup as it is read inside a node. -/
def addedText (s : Session) (c : NodeId) (html : String) : String :=
  String.join ((Tree.preorderAll (s.document.fragmentFor c html)).map NodeKind.ownText)

/-- How text follows when markup is rendered into the element with an id. -/
structure TextFollows (s : Session) (id : String) (c : NodeId) (html : String) (t : Session) :
    Prop where
  /-- The text of the new nodes in order is that of the markup. -/
  inserted : String.join ((s.document.insertHtml c html).1.map t.document.textContent) =
    s.addedText c html
  /-- The element is found by its id as before, whatever ids the markup has. -/
  found : t.document.elementById? id = some c
  textById : ∃ old, s.document.textById id = some old ∧
    t.document.textById id = some (old ++ s.addedText c html)
  /-- The text of what is neither the element nor above it stays. -/
  apart : ∀ n, s.document.isAlive n = true → n ∉ s.document.chain c →
    t.document.textContent n = s.document.textContent n
  /-- What is above it has the text of the nodes before it, its text, and that of the nodes after
  it, and gets the new text right after its text. -/
  above : ∀ n ∈ s.document.chain c, ∃ before after,
    s.document.nodes n = before ++ s.document.nodes c ++ after ∧
    s.document.textContent n =
      s.document.textOf before ++ s.document.textContent c ++ s.document.textOf after ∧
    t.document.textContent n = s.document.textOf before ++
      (s.document.textContent c ++ s.addedText c html) ++ s.document.textOf after
  liveText : id = Literal.liveTextId → t.liveText = s.liveText ++ s.addedText c html
  /-- An action fails alike before and after, or is the same but for live text. -/
  resolved : ∀ action, (∃ e, s.resolve action = .error e ∧ t.resolve action = .error e) ∨
    ∃ x y, s.resolve action = .ok x ∧ t.resolve action = .ok y ∧
      x.Rereads s.liveText t.liveText y
  /-- The next action that answers a click, if it resolved before, is called so. -/
  called : ∀ n element action x, t.binder.handler? t.document n = some (element, action) →
    s.resolve action = .ok x → ∃ y, x.Rereads s.liveText t.liveText y ∧
      ∀ depth, Session.click (depth + 1) n t =
        ((t.enter [element, n]).call (Session.click depth) y).map fun r =>
          (⟨true, decide (r.1 ≠ .ok), t.prevents element⟩,
            (r.2.settle action y.path r.1).leave [element, n])

theorem later_renderAt (s : Session) (c : Nat) (html : String) : s.Later (s.renderAt c html).2 :=
  (later_move s (.insert c html)).trans (later_bindPasses _ _)

/-- Text follows when markup is rendered into the element that an id finds. -/
theorem Coherent.textFollows (hs : s.Coherent) (hc : s.document.elementById? id = some c)
    (html : String) : s.TextFollows id c html (s.renderAt c html).2 := by
  obtain ⟨-, hlives, hbelow⟩ := hs.linked.attached_of_elementById? hc
  have hattached := hs.linked.contains_iff.mpr hbelow
  have hdocument := document_renderAt s c html
  have hlater := later_renderAt s c html
  have hedit : EditedAt s.document (s.document.insertHtml c html).2 c :=
    editedAt_append hs.linked hlives _
  have hjoin : String.join ((s.document.insertHtml c html).1.map
      (s.document.insertHtml c html).2.textContent) = s.addedText c html :=
    join_textContent_append _ _ _
  have hself : (s.document.insertHtml c html).2.textContent c =
      s.document.textContent c ++ s.addedText c html := by
    rw [← hjoin]
    exact textContent_append_self hs.linked hlives
  have hfound : (s.document.insertHtml c html).2.elementById? id = some c :=
    elementById?_append hs.linked hc _
  have hbefore : s.document.textById id = some (s.document.textContent c) := by
    rw [Document.textById, hc, Option.map_some]
  have hafter : (s.document.insertHtml c html).2.textById id =
      some (s.document.textContent c ++ s.addedText c html) := by
    rw [Document.textById, hfound, Option.map_some, hself]
  constructor
  case inserted => rw [hdocument, hjoin]
  case found => rw [hdocument, hfound]
  case textById => exact ⟨_, hbefore, by rw [hdocument, hafter]⟩
  case apart =>
    intro n hn hchain
    rw [hdocument]
    exact hedit.textContent_of_not_below hn fun h => hchain (hs.linked.mem_chain_of_below h)
  case above =>
    intro n hchain
    rw [hdocument, ← hself]
    exact hedit.textContent_around (hs.linked.below_of_mem_chain hattached hchain)
  case liveText =>
    rintro rfl
    rw [Session.liveText, Session.liveText, hdocument, TextSource.live, TextSource.live, hbefore,
      hafter, Option.getD_some, Option.getD_some]
  case resolved => exact resolve_later hlater
  case called =>
    intro n element action x hhandler hx
    obtain ⟨e, he, -⟩ | ⟨x', y, hx', hy, hreads⟩ := resolve_later hlater action
    · rw [hx] at he
      cases he
    · rw [hx, Except.ok.injEq] at hx'
      subst hx'
      exact ⟨y, hreads, fun depth => click_of_resolved hhandler hy⟩

end Session

namespace Scene

open Session

section

variable [MarkupParser] {a : Scene} {c : Nat} {id : String}

/-- At every moment of every page, rendering into the element with an id puts the text of the markup
at the end of what is read by that id, and nowhere else but in what is around it; actions get what
is read then. -/
theorem live_text_follows (ha : a.Reached) (hc : a.session.document.elementById? id = some c)
    (html : String) :
    ∃ report t, a.session.render id html = (.ok report, t) ∧
      a.session.TextFollows id c html t :=
  ⟨_, _, render_of_found hc, ha.sound.coherent.textFollows hc html⟩

end

/-- A function that does nothing. -/
def greeting : Target where
  path := "greet"
  run _ := .finish .ok

/-- An action with live text and a number. -/
def greetingAction : String :=
  "greet(document.getElementById('profile-name').textContent, 1)"

/-- A page with live text inside of other text. -/
def greetingPage : Session :=
  load "<div>Hi <p id='profile-name'>Ada<i> L.</i></p>!</div><p>x</p>"
    ⟨.cons "greet" (.function greeting) .nil⟩ {}

/-- Markup with the id of live text. -/
def greetingMarkup : String := " <u id='profile-name'>B.</u>"

/-- The new text is read by the id, and gets to the action, which is the same but for it. What is not
around it keeps its text. -/
theorem live_text_follows_on_greetingPage :
    ∃ report t y, greetingPage.render "profile-name" greetingMarkup = (.ok report, t) ∧
      t.document.textById "profile-name" = some "Ada L. B." ∧
      t.document.textContent 11 = "x" ∧
      t.resolve greetingAction = .ok y ∧ y.arguments = [.liveText "Ada L. B.", .number 1] := by
  have hreached : Reached ⟨greetingPage, []⟩ := by
    rw [greetingPage]
    exact ⟨_, [], .load _ _ _, .refl⟩
  have hfound : greetingPage.document.elementById? "profile-name" = some 6 := by decide +kernel
  have hadded : greetingPage.addedText 6 greetingMarkup = " B." := by decide +kernel
  have hold : greetingPage.document.textById "profile-name" = some "Ada L." := by decide +kernel
  have hother : greetingPage.document.isAlive 11 = true ∧
      11 ∉ greetingPage.document.chain 6 ∧ greetingPage.document.textContent 11 = "x" := by
    decide +kernel
  have harguments : (greetingPage.resolve greetingAction).toOption.map (·.arguments) =
      some [.liveText "Ada L.", .number 1] := by decide +kernel
  -- from here on of any page, as comparing terms of this one would read its markup
  generalize greetingPage = s at *
  obtain ⟨report, t, hrender, hfollows⟩ := live_text_follows hreached hfound greetingMarkup
  have hlive : s.liveText = "Ada L." := congrArg (·.getD "") hold
  obtain ⟨old, hbefore, hafter⟩ := hfollows.textById
  rw [hold, Option.some.injEq] at hbefore
  have hnew := hfollows.liveText rfl
  rw [hadded, hlive] at hnew
  obtain ⟨e, he, -⟩ | ⟨x, y, hx, hy, hreads⟩ := hfollows.resolved greetingAction
  · rw [he] at harguments
    cases harguments
  · rw [hx] at harguments
    have hvalues : x.arguments = [.liveText "Ada L.", .number 1] := Option.some.inj harguments
    refine ⟨report, t, y, hrender, ?_, ?_, hy, ?_⟩
    · rw [hafter, ← hbefore, hadded]
      rfl
    · rw [hfollows.apart 11 hother.1 hother.2.1, hother.2.2]
    · rw [hreads.arguments, hvalues, hnew]
      rfl

end Scene

end MarkupActions
