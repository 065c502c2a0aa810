import MarkupActions.Proofs.Binder.Pass
import MarkupActions.Proofs.Document.Kept
import MarkupActions.Proofs.Document.Search
import MarkupActions.Proofs.Session.Move

/-! Coherent pages. The nodes of a page are linked, and live exactly as long as they are below the
document node or below one that is held. Every move about living nodes keeps a page so: what is let
go is freed at once with what only it kept. -/

namespace MarkupActions

namespace Session

variable {s t : Session} {loose ns : List NodeId} {name : String} {m n : Nat}

/-- A page that is coherent but for some loose nodes, which were let go and are to be freed yet. -/
structure Settling (loose : List NodeId) (s : Session) : Prop where
  linked : s.document.Linked
  /-- Whatever lives is kept by the document node, or by one that is held or loose. -/
  kept : s.document.Kept (loose ++ s.heldNodes)
  held_alive : ∀ n : Nat, n ∈ s.heldNodes → s.document.isAlive n = true
  /-- Each name holds one node. -/
  names : (s.held.map (·.1)).Nodup

/-- A page on which nothing is to be freed. -/
def Coherent (s : Session) : Prop := s.Settling []

theorem Coherent.kept_held (h : s.Coherent) : s.document.Kept s.heldNodes := h.kept

theorem Settling.of_document (h : s.Settling loose) (hdocument : t.document = s.document)
    (hheld : t.held = s.held) (hrunning : t.running = s.running) : t.Settling loose := by
  have hnodes : t.heldNodes = s.heldNodes := by rw [heldNodes, heldNodes, hheld, hrunning]
  constructor
  case linked => rw [hdocument]; exact h.linked
  case kept => rw [hdocument, hnodes]; exact h.kept
  case held_alive => rw [hdocument, hnodes]; exact h.held_alive
  case names => rw [hheld]; exact h.names

theorem Settling.note (h : s.Settling loose) (e : Event) : (s.note e).Settling loose :=
  h.of_document rfl rfl rfl

theorem Settling.log (h : s.Settling loose) (level : Log.Level) (source : Log.Source)
    (message : String) : (s.log level source message).Settling loose :=
  h.note _

/-! ### Letting go -/

/-- A loose node is freed, unless something else keeps it. -/
theorem Settling.release (h : s.Settling (n :: loose)) : (s.release n).Settling loose where
  linked := h.linked.release s.heldNodes n
  kept := h.kept.release h.linked fun _ hm => List.mem_append_right loose hm
  held_alive := fun m hm => Document.isAlive_release_of_mem hm (h.held_alive m hm)
  names := h.names

theorem Settling.foldl_release (h : s.Settling ns) : (ns.foldl Session.release s).Coherent := by
  induction ns generalizing s with
  | nil => exact h
  | cons n ns ih => exact ih h.release

/-- A node that is held under a name is what a given name holds, or is held under another. -/
theorem Settling.lookup_or_mem (h : s.Settling loose) (name : String)
    (hn : n ∈ s.held.map (·.2)) :
    s.held.lookup name = some n ∨ n ∈ (s.held.filter (·.1 ≠ name)).map (·.2) := by
  obtain ⟨⟨k, m⟩, hmem, rfl⟩ := List.mem_map.mp hn
  by_cases hk : k = name
  · subst hk
    exact .inl ((lookup_eq_some_iff_mem h.names).mpr hmem)
  · exact .inr (List.mem_map.mpr ⟨(k, m), List.mem_filter.mpr ⟨hmem, by simpa using hk⟩, rfl⟩)

theorem mem_heldNodes_of_lookup (hname : s.held.lookup name = some m) : m ∈ s.heldNodes := by
  obtain ⟨before, after, heq, -⟩ := List.lookup_eq_some_iff.mp hname
  simp [heldNodes, heq]

/-! ### Finding nodes -/

theorem isAlive_of_elementById? {id : String} (h : s.document.elementById? id = some n) :
    s.document.isAlive n = true := by
  have hmem := Document.mem_elements_of_elementById? h
  exact Document.isAlive_of_isElement (List.mem_filter.mp hmem).2

theorem isAlive_of_descend {d : Document} (hd : d.Linked) {path : List Nat}
    (hn : d.isAlive n = true) (h : descend d path n = some m) : d.isAlive m = true := by
  induction path generalizing n with
  | nil => rwa [← Option.some.inj h]
  | cons i path ih =>
    rw [descend] at h
    split at h
    next c hc => exact ih (hd.isAlive_child (List.mem_of_getElem? hc)) h
    next => cases h

/-- What is found lives. -/
theorem Settling.isAlive_of_locate? (h : s.Settling loose) {place : Selector}
    (hn : s.locate? place = some n) : s.document.isAlive n = true := by
  obtain ⟨start, hstart, hdescend⟩ := Option.bind_eq_some_iff.mp hn
  refine isAlive_of_descend h.linked ?_ hdescend
  cases horigin : place.origin with
  | id id =>
    rw [horigin] at hstart
    exact isAlive_of_elementById? hstart
  | held name =>
    rw [horigin] at hstart
    exact h.held_alive start (mem_heldNodes_of_lookup hstart)
  | root =>
    rw [horigin] at hstart
    exact Option.some.inj hstart ▸ h.linked.root_alive

/-! ### Moves -/

/-- Whether a move is about nodes that live. Clicks leave the nodes that they entered last. -/
def Fits (s : Session) : Move → Prop
  | .insert n _ | .bind n | .remove n | .hold n _ => s.document.isAlive n = true
  | .enter ns => ∀ n ∈ ns, s.document.isAlive n = true
  | .leave ns => ns <+: s.running
  | _ => True

theorem Coherent.bindPass (h : s.Coherent) (n : Nat) : (s.bindPass n).2.Coherent :=
  h.of_document rfl rfl rfl

theorem Coherent.bindPasses (h : s.Coherent) (ns : List Nat) : (s.bindPasses ns).2.Coherent := by
  induction ns generalizing s with
  | nil => exact h
  | cons n ns ih => exact ih (h.bindPass n)

/-- What is taken out is held by its parent no longer, so it is loose. -/
theorem Coherent.remove (h : s.Coherent) (n : Nat) : (s.remove n).2.Coherent := by
  have hloose : Settling [n] { s with document := (s.document.remove n).2 } :=
    { linked := h.linked.remove n
      kept := h.kept.remove n
      held_alive := fun m hm => (Document.isAlive_remove m).trans (h.held_alive m hm)
      names := h.names }
  exact hloose.release

/-- A name that holds nothing from now on leaves the node that it held loose. -/
theorem Coherent.forget (h : s.Coherent) (name : String) :
    Settling (s.held.lookup name).toList { s with held := s.held.filter (·.1 ≠ name) } where
  linked := h.linked
  kept := h.kept_held.mono fun m hm => by
    rcases List.mem_append.mp hm with hm | hm
    · rcases h.lookup_or_mem name hm with hlookup | hother
      · exact List.mem_append_left _ (by rw [hlookup]; exact List.mem_singleton.mpr rfl)
      · exact List.mem_append_right _ (List.mem_append_left _ hother)
    · exact List.mem_append_right _ (List.mem_append_right _ hm)
  held_alive := fun m hm =>
    h.held_alive m (((List.filter_sublist.map _).append_right _).subset hm)
  names := h.names.sublist (List.filter_sublist.map _)

/-- A living node may be held under a name that holds nothing. -/
theorem Settling.adopt (h : s.Settling loose) (hn : s.document.isAlive n = true)
    (hname : name ∉ s.held.map (·.1)) : Settling loose { s with held := (name, n) :: s.held } where
  linked := h.linked
  kept := h.kept.mono fun _ hm =>
    (List.Sublist.append (.refl loose) (List.sublist_cons_self n s.heldNodes)).subset hm
  held_alive := List.forall_mem_cons.mpr ⟨hn, h.held_alive⟩
  names := List.nodup_cons.mpr ⟨hname, h.names⟩

theorem Coherent.hold (h : s.Coherent) (hn : s.document.isAlive n = true) (name : String) :
    (s.hold n name).Coherent := by
  have hname : name ∉ (s.held.filter (·.1 ≠ name)).map (·.1) := by
    intro hmem
    obtain ⟨e, he, heq⟩ := List.mem_map.mp hmem
    simpa [heq] using (List.mem_filter.mp he).2
  rw [hold_eq]
  exact ((h.forget name).adopt hn hname).foldl_release

theorem Coherent.drop (h : s.Coherent) (name : String) : (s.drop name).2.Coherent := by
  rw [drop_eq]
  exact (h.forget name).foldl_release

theorem Coherent.enter (h : s.Coherent) (hns : ∀ n ∈ ns, s.document.isAlive n = true) :
    (s.enter ns).Coherent where
  linked := h.linked
  kept := h.kept_held.mono fun m hm => by
    simp only [heldNodes, List.mem_append] at hm
    simp only [heldNodes, Session.enter, List.nil_append, List.mem_append]
    exact hm.imp_right .inr
  held_alive := by
    intro m hm
    simp only [heldNodes, Session.enter, List.mem_append] at hm
    rcases hm with hm | hm | hm
    · exact h.held_alive m (List.mem_append_left _ hm)
    · exact hns m hm
    · exact h.held_alive m (List.mem_append_right _ hm)
  names := h.names

/-- What a click held while it ran is loose when it ends. -/
theorem Coherent.leave (h : s.Coherent) (hns : ns <+: s.running) : (s.leave ns).Coherent := by
  -- nodes that the click and something else hold are loose as well, and their release does nothing
  obtain ⟨rest, hrunning⟩ := hns
  have hdrop : s.running.drop ns.length = rest := by rw [← hrunning, List.drop_left]
  refine Settling.foldl_release ⟨h.linked, h.kept_held.mono fun m hm => ?_, fun m hm => ?_, h.names⟩
  · rw [heldNodes, ← hrunning] at hm
    simp only [List.mem_append] at hm
    simp only [heldNodes, hdrop, List.mem_append]
    exact or_left_comm.mp hm
  · refine h.held_alive m ?_
    simp only [heldNodes, hdrop, List.mem_append] at hm
    simp only [heldNodes, ← hrunning, List.mem_append]
    exact hm.imp_right .inr

variable [MarkupParser]

theorem Coherent.insert (h : s.Coherent) (hn : s.document.isAlive n = true) (html : String) :
    Coherent { s with document := (s.document.insertHtml n html).2 } where
  linked := h.linked.append hn _
  kept := h.kept.append h.linked hn _
  held_alive := by
    intro m hm
    have halive := h.held_alive m hm
    exact (Document.isAlive_append_of_lt (Document.lt_size_of_isAlive halive)).trans halive
  names := h.names

theorem Coherent.render (h : s.Coherent) (id html : String) : (s.render id html).2.Coherent := by
  unfold Session.render
  split
  · exact h
  next container hcontainer =>
    exact (h.insert (isAlive_of_elementById? hcontainer) html).bindPasses _

/-- Every move about living nodes keeps a page coherent. -/
theorem Coherent.move (h : s.Coherent) {m : Move} (hm : s.Fits m) : (s.move m).Coherent := by
  cases m with
  | render id html => exact h.render id html
  | insert n html => exact h.insert hm html
  | bind n => exact h.bindPass n
  | remove n => exact h.remove n
  | hold n name => exact h.hold hm name
  | drop name => exact h.drop name
  | note e => exact h.note e
  | enter ns => exact h.enter hm
  | leave ns => exact h.leave hm

/-! ### Pages that were just read -/

theorem coherent_unbound (html : String) (registry : Registry Target) (c : Config) :
    (unbound html registry c).Coherent where
  linked := Document.linked_ofForest _
  kept := Document.kept_ofForest _
  held_alive := nofun
  names := List.nodup_nil

end Session

end MarkupActions
