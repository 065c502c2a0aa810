import MarkupActions.Html.Parse
import MarkupActions.Proofs.Session.Counted

/-! What is attached. A walk up the parents of a node comes to the document node exactly if a walk
down from there comes to the node, also where a held node still names a parent that was torn down.
No move attaches a node that was there before, so what was taken out stays out. -/

namespace MarkupActions

namespace Document

variable {d : Document} {m n : Nat}

theorem exists_parent?_of_remove (h : (d.remove n).1 = true) : ∃ p, d.parent? n = some p := by
  cases hp : d.parent? n with
  | none =>
    rw [remove_of_detached hp] at h
    cases h
  | some p => exact ⟨p, rfl⟩

/-- What is taken out is cut off with all that is below it. -/
theorem Linked.not_below_root_remove (h : d.Linked) (hn : (d.remove n).1 = true)
    (hm : d.Below n m) : ¬ (d.remove n).2.Below root m := by
  obtain ⟨p, hp⟩ := exists_parent?_of_remove hn
  have hroot : n ≠ root := by
    rintro rfl
    rw [h.parent?_root] at hp
    cases hp
  have hlinked := h.remove n
  intro hbelow
  rcases hlinked.below_total (h.below_remove_iff.mpr hm) hbelow with hup | hdown
  · exact hroot (Nat.le_zero.mp (hlinked.le_of_below hup))
  · exact hroot (h.eq_of_below_remove hdown).symm

end Document

namespace Session

open Document

variable {s t : Session} {m : Move} {ms : List Move} {n : Nat}

theorem lessened_foldl_release {d : Document} (h : d.Lessened s.document) (ns : List NodeId) :
    d.Lessened (ns.foldl release s).document := by
  rw [document_foldl_release]
  exact h.trans (Document.lessened_foldl_release s.heldNodes ns)

variable [MarkupParser]

/-- A move takes links and lives from the document, if anything, or adds markup to a living node. -/
theorem document_move (h : s.Fits m) : s.document.Lessened (s.move m).document ∨
    ∃ p ts, s.document.isAlive p = true ∧ (s.move m).document = (s.document.append p ts).2 := by
  cases m with
  | render id html =>
    simp only [move, render]
    split
    · exact .inl (.refl _)
    next container hcontainer =>
      rw [document_bindPasses]
      exact .inr ⟨container, _, isAlive_of_elementById? hcontainer, rfl⟩
  | insert n html => exact .inr ⟨n, _, h, rfl⟩
  | remove n => exact .inl (lessened_foldl_release (lessened_remove n) [n])
  | hold n name =>
    rw [move, hold_eq]
    refine .inl (lessened_foldl_release ?_ _)
    exact .refl _
  | drop name =>
    rw [move, drop_eq]
    refine .inl (lessened_foldl_release ?_ _)
    exact .refl _
  | leave ns =>
    rw [move, leave]
    refine .inl (lessened_foldl_release ?_ ns)
    exact .refl _
  | bind | note | enter => exact .inl (.refl _)

/-- No move attaches a node that was there before. -/
theorem below_root_of_move (h : s.Fits m) (hn : n < s.document.cells.size)
    (hbelow : (s.move m).document.Below root n) : s.document.Below root n := by
  rcases document_move h with hless | ⟨p, ts, hp, heq⟩
  · exact hless.below hbelow
  · rw [heq] at hbelow
    exact (below_append_iff hp hn).mp hbelow

theorem Moves.below_root (h : s.Moves ms t) (hn : n < s.document.cells.size)
    (hbelow : t.document.Below root n) : s.document.Below root n := by
  induction h with
  | nil => exact hbelow
  | @cons s t m ms hfits _ ih =>
    have hsize := Nat.lt_of_lt_of_le hn (descends_move s m).size
    exact below_root_of_move hfits hn (ih hsize hbelow)

end Session

namespace Scene

open Session Document

section

variable [MarkupParser] {a : Scene}

/-- Walks up and walks down agree on what is attached, and what was taken out is not attached any
more. -/
structure AgreesOnAttached (a : Scene) : Prop where
  /-- A walk up from a node comes to the document node exactly if a walk down comes to the node. -/
  contains_iff : ∀ n : Nat,
    a.session.document.contains n = true ↔ a.session.document.Below root n
  mem_nodes_iff : ∀ n : Nat,
    n ∈ a.session.document.nodes root ↔ a.session.document.Below root n
  /-- What was just taken out is not attached, nor is what is below it. -/
  removed : ∀ n : Nat, (a.session.document.remove n).1 = true →
    ∀ m : Nat, a.session.document.Below n m →
      (a.session.document.remove n).2.contains m = false ∧
        ¬ (a.session.document.remove n).2.Below root m
  /-- That stays so, whatever happens on the page. -/
  forever : ∀ n : Nat, (a.session.remove n).1 = true →
    ∀ m : Nat, a.session.document.Below n m → ∀ ms b,
      Goes ⟨(a.session.remove n).2, a.frames⟩ ms b → b.session.document.isAlive m = true →
        b.session.document.contains m = false ∧ ¬ b.session.document.Below root m

/-- At every moment of every page, walks up and walks down agree on what is attached. -/
theorem attached_alike (ha : a.Reached) : a.AgreesOnAttached := by
  have hd := ha.sound.coherent.linked
  have hdetached {d : Document} (hd : d.Linked) {m : Nat} (hm : ¬ d.Below root m) :
      d.contains m = false ∧ ¬ d.Below root m := by
    refine ⟨?_, hm⟩
    rwa [← Bool.not_eq_true, hd.contains_iff]
  constructor
  case contains_iff => exact fun n => hd.contains_iff
  case mem_nodes_iff =>
    intro n
    rw [hd.mem_nodes_iff, hd.root_alive, eq_self, true_and]
  case removed =>
    intro n hn m hm
    exact hdetached (hd.remove n) (hd.not_below_root_remove hn hm)
  case forever =>
    intro n hn m hm ms b hgoes _
    obtain ⟨p, hp⟩ := exists_parent?_of_remove hn
    have halive := isAlive_of_parent? hp
    have hremoved : Reached ⟨(a.session.remove n).2, a.frames⟩ :=
      ha.goes (Step.request (.remove n) rfl halive).goes
    obtain ⟨hmoves, hb⟩ := hgoes.sound hremoved.sound
    refine hdetached hb.coherent.linked fun hbelow => ?_
    have hsize : m < (a.session.remove n).2.document.cells.size :=
      Nat.lt_of_lt_of_le (lt_size_of_isAlive (hd.isAlive_of_below halive hm))
        (descends_move a.session (.remove n)).size
    have hafter := (lessened_release a.session.heldNodes n).below (hmoves.below_root hsize hbelow)
    exact hd.not_below_root_remove hn hm hafter

end

def nestedPair : Session := Session.load "<div><p><b>x</b></p></div>" ⟨.nil⟩ {}

def outerHeld : Session := nestedPair.move (.hold 5 "outer")

/-- The page with two nodes held, one below the other. -/
def heldPair : Session := outerHeld.move (.hold 6 "inner")

/-- The page after all around the two was freed. -/
def tornPair : Session := heldPair.move (.remove 4)

/-- The page after something was added to the outer one. -/
def grownPair : Session := tornPair.move (.insert 5 "<i></i>")

/-- The inner node names the outer one, which does not list it any more, and neither walk finds it
attached. -/
theorem attached_alike_of_grownPair : (heldPair.remove 4).1 = true ∧
    grownPair.document.parent? 6 = some 5 ∧ grownPair.document.children 5 = [8] ∧
    grownPair.document.contains 6 = false ∧ ¬ grownPair.document.Below root 6 := by
  have hstart : Reached ⟨nestedPair, []⟩ := by
    rw [nestedPair]
    exact ⟨_, [], .load _ _ _, .refl⟩
  have houter : nestedPair.document.isAlive 5 = true := by decide +kernel
  have hinner : outerHeld.document.isAlive 6 = true := by decide +kernel
  have hheld : Reached ⟨heldPair, []⟩ :=
    (hstart.goes (Step.request (.hold 5 "outer") rfl houter).goes).goes
      (Step.request (.hold 6 "inner") rfl hinner).goes
  have hremoved : (heldPair.remove 4).1 = true := by decide +kernel
  have hbelow : heldPair.document.Below 4 6 := by
    have houter : heldPair.document.IsChild 4 5 := by
      rw [IsChild]
      decide +kernel
    have hinner : heldPair.document.IsChild 5 6 := by
      rw [IsChild]
      decide +kernel
    exact .tail (.single houter) hinner
  have hlives : tornPair.document.isAlive 5 = true := by decide +kernel
  have hgrown : Goes ⟨tornPair, []⟩ _ ⟨grownPair, []⟩ :=
    (Step.request (.insert 5 "<i></i>") rfl hlives).goes
  have hkept : grownPair.document.isAlive 6 = true := by decide +kernel
  -- stated for any pages, as comparing terms of these would run their moves
  have hforever (s t : Session) (ms : List Move) (hs : Reached ⟨s, []⟩)
      (hn : (s.remove 4).1 = true) (hbelow : s.document.Below 4 6)
      (hgoes : Goes ⟨s.move (.remove 4), []⟩ ms ⟨t, []⟩) (halive : t.document.isAlive 6 = true) :
      t.document.contains 6 = false ∧ ¬ t.document.Below root 6 :=
    (attached_alike hs).forever 4 hn 6 hbelow ms ⟨t, []⟩ hgoes halive
  obtain ⟨hcontains, hdetached⟩ :=
    hforever heldPair grownPair _ hheld hremoved hbelow hgrown hkept
  exact ⟨hremoved, by decide +kernel, by decide +kernel, hcontains, hdetached⟩

end Scene

end MarkupActions
