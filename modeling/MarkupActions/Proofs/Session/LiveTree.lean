import MarkupActions.Html.Parse
import MarkupActions.Proofs.Session.Scene

/-! The live tree. Lists of children and parent links are edited apart, and tearing a tree down
leaves some links behind. What holds all the same, at every moment of every page: lists and links
agree where they have to, no walk up or down comes back, nodes live exactly as long as something
keeps them, and a search meets each element once, in document order. -/

namespace MarkupActions

/-- A document whose nodes form trees that are kept alive by the document node and some others. -/
structure Document.LiveTree (d : Document) (kept : List NodeId) : Prop where
  /-- What is among the children of a living node lives, is there once and nowhere else, and has
  that node as its parent. -/
  child : ∀ p : Nat, d.isAlive p = true → ∀ c ∈ d.children p,
    d.isAlive c = true ∧ (d.children p).count c = 1 ∧
      (∀ q : Nat, d.isAlive q = true → c ∈ d.children q → q = p) ∧ d.parent? c = some p
  /-- Parent links do not lead back, those that outlived their parent among them. -/
  acyclic : ∀ n : Nat, ¬ Relation.TransGen (fun m p => d.link? m = some p) n n
  /-- Walks up end where a parent is missing, and nowhere before. -/
  chain : ∀ n : Nat, d.chain n = n :: (match d.parent? n with
    | some p => d.chain p
    | none => [])
  /-- A walk up comes to the document node exactly from what is below that. -/
  contains : ∀ n : Nat, d.contains n = true ↔ d.Below root n
  /-- What lives is below the document node or below one of the others that are kept. -/
  alive : ∀ n : Nat, d.isAlive n = true ↔ ∃ r : Nat, (r = root ∨ r ∈ kept) ∧ d.Below r n
  /-- A search meets the elements at and below a living node, each once. -/
  mem_elements : ∀ r n : Nat, d.isAlive r = true →
    (n ∈ d.elements r ↔ d.isElement n = true ∧ d.Below r n)
  nodup_elements : ∀ r : Nat, (d.elements r).Nodup
  /-- The elements come in document order: a node before what is below it, and what is below its
  children in the order of these. -/
  preorder : ∀ r : Nat, d.isAlive r = true →
    d.elements r = (if d.isElement r then [r] else []) ++ (d.children r).flatMap d.elements

namespace Document

variable {d : Document} {kept : List NodeId}

theorem Linked.liveTree (h : d.Linked) (hkept : d.Kept kept)
    (halive : ∀ n : Nat, n ∈ kept → d.isAlive n = true) : d.LiveTree kept := by
  constructor
  case child =>
    intro p _ c hc
    refine ⟨h.isAlive_child hc, List.count_eq_one_of_mem (h.nodup p) hc, ?_, h.parent_of_mem p c hc⟩
    exact fun q _ hq => h.parent_unique hq hc
  case acyclic => exact h.not_transGen_link
  case chain => exact h.chain_eq
  case contains => exact fun n => h.contains_iff
  case alive =>
    refine fun n => ⟨hkept n, ?_⟩
    rintro ⟨r, rfl | hr, hbelow⟩
    · exact h.isAlive_of_below h.root_alive hbelow
    · exact h.isAlive_of_below (halive r hr) hbelow
  case mem_elements =>
    intro r n hr
    rw [h.mem_elements_iff, hr, eq_self, true_and]
  case nodup_elements => exact h.nodup_elements
  case preorder => exact fun r hr => h.elements_eq hr

end Document

namespace Scene

section

variable [MarkupParser]

/-- At every moment of every page, also while actions run, its document is a live tree, kept by what
is held under names and by running clicks. -/
theorem liveTree_of_reached {a : Scene} (ha : a.Reached) :
    a.session.document.LiveTree
      (a.session.held.map (·.2) ++ a.frames.flatMap Frame.holds) := by
  obtain ⟨hcoherent, hrunning⟩ := ha.sound
  have hnodes : a.session.heldNodes =
      a.session.held.map (·.2) ++ a.frames.flatMap Frame.holds := by
    rw [Session.heldNodes, hrunning]
  rw [← hnodes]
  exact hcoherent.linked.liveTree hcoherent.kept_held hcoherent.held_alive

end

/-- A page whose one paragraph is held. -/
def keptPage : Session := (Session.load "<div><p>x</p></div>" ⟨.nil⟩ {}).move (.hold 5 "kept")

/-- The page after all around the paragraph was freed. -/
def tornPage : Session := keptPage.move (.remove 4)

/-- The paragraph has lost its text and still names a parent that is gone, and all is coherent. -/
theorem liveTree_of_tornPage : Reached ⟨tornPage, []⟩ ∧ tornPage.document.isAlive 4 = false ∧
    tornPage.document.link? 5 = some 4 ∧ tornPage.document.children 5 = [] ∧
    tornPage.document.LiveTree [5] := by
  have hstart : Reached ⟨Session.load "<div><p>x</p></div>" ⟨.nil⟩ {}, []⟩ :=
    ⟨_, [], .load _ _ _, .refl⟩
  have hparagraph : (Session.load "<div><p>x</p></div>" ⟨.nil⟩ {}).document.isAlive 5 = true := by
    decide +kernel
  have hdiv : keptPage.document.isAlive 4 = true := by decide +kernel
  have hheld := hstart.goes (Step.request (.hold 5 "kept") rfl hparagraph).goes
  have htorn : Reached ⟨tornPage, []⟩ := hheld.goes (Step.request (.remove 4) rfl hdiv).goes
  have hkept : tornPage.held.map (·.2) = [5] := by decide +kernel
  have hlive := liveTree_of_reached htorn
  rw [hkept] at hlive
  exact ⟨htorn, by decide +kernel, by decide +kernel, by decide +kernel, hlive⟩

end Scene

end MarkupActions
