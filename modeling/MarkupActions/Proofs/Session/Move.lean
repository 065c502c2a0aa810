import Mathlib.Logic.Relation
import MarkupActions.Proofs.Action.Resolve
import MarkupActions.Session.Run

/-! Runs as moves. Whatever is asked of a page, and however deep its actions click, the page
changes by a few kinds of moves only, so what each move keeps is kept by every run and in the midst
of it. -/

namespace MarkupActions

/-- One change of a page. -/
inductive Move where
  | render (id html : String)
  | insert (n : NodeId) (html : String)
  | bind (n : NodeId)
  | remove (n : NodeId)
  | hold (n : NodeId) (name : String)
  | drop (name : String)
  | note (e : Event)
  | enter (ns : List NodeId)
  | leave (ns : List NodeId)

namespace Move

/-- Whether markup comes in that is not bound at once. -/
def inserts : Move → Bool
  | insert .. => true
  | _ => false

/-- Whether it can be asked of a page. The other moves are made by clicks as they run. -/
def isRequest : Move → Bool
  | note .. | enter .. | leave .. => false
  | _ => true

end Move

namespace Session

variable {mayInsert : Prop} {s t u : Session}

/-! ### Letting go -/

/-- Holding a node lets go of the one that the name held. -/
theorem hold_eq (s : Session) (n : Nat) (name : String) :
    s.hold n name = (s.held.lookup name).toList.foldl release
      { s with held := (name, n) :: s.held.filter (·.1 ≠ name) } := by
  rw [hold]
  cases s.held.lookup name <;> rfl

/-- Dropping a name lets go of the node that it held, if it held one. -/
theorem drop_eq (s : Session) (name : String) :
    (s.drop name).2 = (s.held.lookup name).toList.foldl release
      { s with held := s.held.filter (·.1 ≠ name) } := by
  rw [drop]
  cases hlookup : s.held.lookup name with
  | none =>
    have hother : s.held.filter (·.1 ≠ name) = s.held := by
      refine List.filter_eq_self.mpr fun e he => ?_
      have hne := bne_iff_ne.mp (List.lookup_eq_none_iff.mp hlookup e he)
      exact decide_eq_true hne.symm
    rw [hother]
    rfl
  | some n => rfl

/-! ### What is kept -/

/-- A later state of a page: the targets are the same, and the record only grew. -/
structure Later (s t : Session) : Prop where
  registry : t.registry = s.registry
  rootNamespace : t.rootNamespace = s.rootNamespace
  record : s.record <+: t.record

theorem Later.refl (s : Session) : s.Later s := ⟨rfl, rfl, List.prefix_refl _⟩

theorem Later.trans (h : s.Later t) (h' : t.Later u) : s.Later u :=
  ⟨h'.registry.trans h.registry, h'.rootNamespace.trans h.rootNamespace, h.record.trans h'.record⟩

theorem later_note (s : Session) (e : Event) : s.Later (s.note e) :=
  ⟨rfl, rfl, List.prefix_append _ _⟩

theorem later_bindPass (s : Session) (n : Nat) : s.Later (s.bindPass n).2 :=
  ⟨rfl, rfl, List.prefix_append _ _⟩

theorem later_bindPasses (s : Session) (ns : List Nat) : s.Later (s.bindPasses ns).2 := by
  induction ns generalizing s with
  | nil => exact .refl s
  | cons n ns ih => exact (later_bindPass s n).trans (ih _)

theorem later_foldl_release (s : Session) (ns : List Nat) : s.Later (ns.foldl release s) := by
  induction ns generalizing s with
  | nil => exact .refl s
  | cons n ns ih =>
    have hfirst : s.Later (s.release n) := ⟨rfl, rfl, List.prefix_refl _⟩
    exact hfirst.trans (ih _)

/-! ### All moves -/

variable [MarkupParser]

def move (s : Session) : Move → Session
  | .render id html => (s.render id html).2
  | .insert n html => { s with document := (s.document.insertHtml n html).2 }
  | .bind n => (s.bindPass n).2
  | .remove n => (s.remove n).2
  | .hold n name => s.hold n name
  | .drop name => (s.drop name).2
  | .note e => s.note e
  | .enter ns => s.enter ns
  | .leave ns => s.leave ns

/-- The pages that moves lead to, with moves that insert where these are allowed. -/
def Leads (mayInsert : Prop) : Session → Session → Prop :=
  Relation.ReflTransGen fun s t => ∃ m : Move, (m.inserts → mayInsert) ∧ s.move m = t

theorem Leads.refl : s.Leads mayInsert s := Relation.ReflTransGen.refl

theorem Leads.trans (h : s.Leads mayInsert t) (h' : t.Leads mayInsert u) : s.Leads mayInsert u :=
  Relation.ReflTransGen.trans h h'

theorem leads_move (m : Move) (h : m.inserts → mayInsert) : s.Leads mayInsert (s.move m) :=
  Relation.ReflTransGen.single ⟨m, h, rfl⟩

theorem later_move (s : Session) (m : Move) : s.Later (s.move m) := by
  cases m with
  | render id html =>
    simp only [move, render]
    split
    · exact .refl s
    next container _ =>
      refine Later.trans (t := { s with document := (s.document.insertHtml container html).2 }) ?_
        (later_bindPasses _ _)
      exact ⟨rfl, rfl, List.prefix_refl _⟩
  | insert n html => exact ⟨rfl, rfl, List.prefix_refl _⟩
  | bind n => exact later_bindPass s n
  | remove n => exact ⟨rfl, rfl, List.prefix_refl _⟩
  | hold n name =>
    simp only [move, hold]
    split <;> exact ⟨rfl, rfl, List.prefix_refl _⟩
  | drop name =>
    simp only [move, drop]
    split <;> exact ⟨rfl, rfl, List.prefix_refl _⟩
  | note e => exact later_note s e
  | enter ns => exact ⟨rfl, rfl, List.prefix_refl _⟩
  | leave ns =>
    refine Later.trans (t := { s with running := s.running.drop ns.length }) ?_
      (later_foldl_release _ ns)
    exact ⟨rfl, rfl, List.prefix_refl _⟩

theorem Leads.later (h : s.Leads mayInsert t) : s.Later t := by
  induction h with
  | refl => exact .refl s
  | tail _ hmove ih =>
    obtain ⟨m, -, rfl⟩ := hmove
    exact ih.trans (later_move _ m)

end Session

/-! ### Scripts that insert -/

/-- Whether a command brings in markup that is not bound at once. -/
def Command.inserts : Command → Bool
  | insert .. => true
  | _ => false

/-- A script whose commands insert only where that is allowed, whatever they are answered. -/
def Script.Obeys (mayInsert : Prop) : Script → Prop
  | finish _ => True
  | note _ next => next.Obeys mayInsert
  | perform c next => (c.inserts → mayInsert) ∧ ∀ r, (next r).Obeys mayInsert

/-- A registry whose functions insert only where that is allowed. -/
def Registry.Obeys (mayInsert : Prop) (r : Registry Target) : Prop :=
  ∀ path t, r.lookup path = some (.function t) → ∀ arguments, (t.run arguments).Obeys mayInsert

theorem Script.obeys_true (script : Script) : script.Obeys True := by
  induction script with
  | finish e => trivial
  | note r next ih => exact ih
  | perform c next ih => exact ⟨fun _ => trivial, ih⟩

theorem Registry.obeys_true (r : Registry Target) : r.Obeys True :=
  fun _ _ _ _ => Script.obeys_true _

theorem Registry.Obeys.of_resolve {mayInsert : Prop} {r : Registry Target} (h : r.Obeys mayInsert)
    {root action : String} {source : TextSource} {x : Resolved Target}
    (hx : r.resolve root action source = .ok x) : (x.target.run x.arguments).Obeys mayInsert := by
  obtain ⟨e, literals, -, hlookup, -⟩ := resolve_eq_ok_iff.mp hx
  exact h _ _ hlookup _

end MarkupActions
