import MarkupActions.Proofs.Session.Click

/-! What a click puts on record itself. Scripts do not see the record: they run the same way
whatever is on it, and only add to it. So a click can be run with the clicks that its action makes
muted, and comes to the same but for the record, which then has what is its own. -/

namespace MarkupActions

/-- Whether an event is neither a call nor a line that tells of an error. -/
def Event.isQuiet : Event → Bool
  | logged l => l.level ≠ .error
  | called .. => false
  | noted .. => true

def Event.isCall : Event → Bool
  | called .. => true
  | _ => false

def Event.isError : Event → Bool
  | logged l => l.level = .error
  | _ => false

namespace Session

variable {α β : Type} {s t : Session} {r own : List Event} {n depth : Nat} {ns : List NodeId}
  {P : Event → Prop}

/-- The page with another record. -/
def recording (s : Session) (r : List Event) : Session := { s with record := r }

/-- A clicker that leaves nothing on record. -/
def muted (click : Clicker) : Clicker := fun n s =>
  (click n s).map fun (o, t) => (o, t.recording s.record)

/-- From a page, one way to go on comes to the same as another, but for what they add to the record,
whatever is on it; what the second adds are events of a kind. -/
def Echoes (P : Event → Prop) (f g : Session → Option (α × Session)) (s : Session) : Prop :=
  (∀ r, f (s.recording r) = none ∧ g (s.recording r) = none) ∨
    ∃ (a : α) (t : Session) (loud own : List Event), (∀ e ∈ own, P e) ∧ ∀ r,
      f (s.recording r) = some (a, t.recording (r ++ loud)) ∧
        g (s.recording r) = some (a, t.recording (r ++ own))

variable {f g : Session → Option (α × Session)}

/-- What adds the same events to every record echoes itself. -/
theorem echoes_self (own : List Event) (hown : ∀ e ∈ own, P e)
    (h : ∀ r, f (s.recording r) = (f s).map fun x => (x.1, x.2.recording (r ++ own))) :
    Echoes P f f s := by
  cases hf : f s with
  | none => exact .inl fun r => by rw [h, hf]; exact ⟨rfl, rfl⟩
  | some x =>
    refine .inr ⟨x.1, x.2, own, own, hown, fun r => ?_⟩
    rw [h, hf]
    exact ⟨rfl, rfl⟩

/-- What adds nothing to a record echoes itself. -/
theorem echoes_silent (h : ∀ r, f (s.recording r) = (f s).map fun x => (x.1, x.2.recording r)) :
    Echoes P f f s :=
  echoes_self [] (List.forall_mem_nil _) fun r => by simpa using h r

theorem Echoes.bind {f' g' : α → Session → Option (β × Session)} (h : Echoes P f g s)
    (h' : ∀ a t, Echoes P (f' a) (g' a) t) :
    Echoes P (fun s => (f s).bind fun x => f' x.1 x.2) (fun s => (g s).bind fun x => g' x.1 x.2)
      s := by
  rcases h with hnone | ⟨a, t, loud, own, hown, hsome⟩
  · exact .inl fun r => by simp [hnone r]
  rcases h' a t with hnone | ⟨b, u, loud', own', hown', hsome'⟩
  · exact .inl fun r => by simp [hsome r, hnone]
  · refine .inr ⟨b, u, loud ++ loud', own ++ own', ?_, fun r => ?_⟩
    · exact List.forall_mem_append.mpr ⟨hown, hown'⟩
    · simp [hsome r, hsome', List.append_assoc]

theorem Echoes.map (h : Echoes P f g s) (k : α → β) :
    Echoes P (fun s => (f s).map fun x => (k x.1, x.2)) (fun s => (g s).map fun x => (k x.1, x.2))
      s := by
  rcases h with hnone | ⟨a, t, loud, own, hown, hsome⟩
  · exact .inl fun r => by simp [hnone r]
  · exact .inr ⟨k a, t, loud, own, hown, fun r => by simp [hsome r]⟩

/-- Muting makes no difference but for the record. -/
theorem echoes_muted {click : Clicker} (h : Echoes (fun _ => True) (click n) (click n) s) :
    Echoes P (click n) (muted click n) s := by
  rcases h with hnone | ⟨o, t, loud, _, _, hsome⟩
  · exact .inl fun r => ⟨(hnone r).1, by rw [muted, (hnone r).1]; rfl⟩
  · refine .inr ⟨o, t, loud, [], nofun, fun r => ⟨(hsome r).1, ?_⟩⟩
    rw [muted, (hsome r).1, List.append_nil]
    rfl

/-! ### Commands -/

theorem bindPass_recording (s : Session) (n : Nat) :
    ∃ own, (∀ e ∈ own, e.isQuiet = true) ∧ ∀ r, (s.recording r).bindPass n =
      ((s.bindPass n).1, (s.bindPass n).2.recording (r ++ own)) := by
  refine ⟨((s.recording []).bindPass n).2.record, fun e he => ?_, fun r => rfl⟩
  rw [List.mem_singleton.mp he]
  rfl

theorem bindPasses_recording (s : Session) (ns : List NodeId) :
    ∃ own, (∀ e ∈ own, e.isQuiet = true) ∧ ∀ r, (s.recording r).bindPasses ns =
      ((s.bindPasses ns).1, (s.bindPasses ns).2.recording (r ++ own)) := by
  induction ns generalizing s with
  | nil => exact ⟨[], nofun, fun r => by rw [List.append_nil]; rfl⟩
  | cons n ns ih =>
    obtain ⟨first, hquiet, hfirst⟩ := s.bindPass_recording n
    obtain ⟨own, hown, hrest⟩ := ih (s.bindPass n).2
    refine ⟨first ++ own, List.forall_mem_append.mpr ⟨hquiet, hown⟩, fun r => ?_⟩
    simp only [bindPasses, hfirst, hrest, List.append_assoc]

theorem hold_recording (s : Session) (n : Nat) (name : String) (r : List Event) :
    (s.recording r).hold n name = (s.hold n name).recording r := by
  simp only [hold, recording]
  cases s.held.lookup name <;> rfl

theorem drop_recording (s : Session) (name : String) (r : List Event) :
    (s.recording r).drop name = ((s.drop name).1, (s.drop name).2.recording r) := by
  simp only [drop, recording]
  cases s.held.lookup name <;> rfl

/-- A command with a place is answered alike where there is no node. -/
theorem echoes_located {place : Selector} {reply : Reply}
    {f g : NodeId → Session → Option (Reply × Session)} (h : ∀ n, Echoes P (f n) (g n) s) :
    Echoes P
      (fun s => match s.locate? place with
        | none => some (reply, s)
        | some n => f n s)
      (fun s => match s.locate? place with
        | none => some (reply, s)
        | some n => g n s) s := by
  have hplace (r : List Event) : (s.recording r).locate? place = s.locate? place := rfl
  simp only [Echoes, hplace]
  cases s.locate? place with
  | none => exact .inr ⟨reply, s, [], [], nofun, fun r => by simp⟩
  | some n => exact h n

/-! ### What a click adds -/

theorem echoes_note {e : Event} (he : P e) : Echoes P (fun s => some ((), s.note e))
    (fun s => some ((), s.note e)) s :=
  echoes_self [e] (List.forall_mem_singleton.mpr he) fun _ => rfl

/-- The lines that a click logs when its action has ended. -/
def failureLines (action path : String) (e : Ending) : List Event :=
  (failure? path e).toList.map fun message => .logged (failureLine action message)

theorem settle_recording (s : Session) (action path : String) (e : Ending) (r : List Event) :
    (s.recording r).settle action path e =
      s.recording (r ++ failureLines action path e) := by
  rw [settle, failureLines]
  cases failure? path e with
  | none => rw [Option.toList_none, List.map_nil, List.append_nil]
  | some message => rfl

theorem leave_recording (s : Session) (ns : List NodeId) (r : List Event) :
    (s.recording r).leave ns = (s.leave ns).recording r := by
  have hfold (s : Session) (ms : List NodeId) :
      ms.foldl release (s.recording r) = (ms.foldl release s).recording r := by
    induction ms generalizing s with
    | nil => rfl
    | cons m ms ih => exact ih (s.release m)
  exact hfold { s with running := s.running.drop ns.length } ns

theorem isCall_of_isQuiet (e : Event) (h : e.isQuiet = true) : e.isCall = false := by
  cases e with
  | called => cases h
  | logged | noted => rfl

theorem isError_of_isQuiet (e : Event) (h : e.isQuiet = true) : e.isError = false := by
  cases e with
  | logged l => simpa [Event.isQuiet, Event.isError] using h
  | called => cases h
  | noted => rfl

theorem filter_isCall_failureLines (action path : String) (e : Ending) :
    (failureLines action path e).filter Event.isCall = [] := by
  rw [failureLines]
  cases failure? path e <;> rfl

theorem exists_failure? (path : String) {e : Ending} (h : e ≠ .ok) :
    ∃ message, failure? path e = some message := by
  cases e with
  | ok => exact absurd rfl h
  | failed causes => exact ⟨_, rfl⟩
  | panicked => exact ⟨_, rfl⟩

theorem filter_of_quiet {p : Event → Bool} (hp : ∀ e : Event, e.isQuiet = true → p e = false)
    (hown : ∀ e ∈ own, e.isQuiet = true) : own.filter p = [] :=
  List.filter_eq_nil_iff.mpr fun e he => by rw [hp e (hown e he)]; exact Bool.false_ne_true

/-! ### Scripts and clicks -/

variable [MarkupParser]

/-- Commands come to the same with clickers that do. -/
theorem echoes_perform {click click' : Clicker} (hP : ∀ e : Event, e.isQuiet = true → P e)
    (hclick : ∀ n s, Echoes P (click n) (click' n) s) (c : Command) :
    Echoes P (fun s => s.perform click c) (fun s => s.perform click' c) s := by
  have hpass (n : Nat) : Echoes P
      (fun s => some (Reply.bound (some (s.bindPass n).1), (s.bindPass n).2))
      (fun s => some (Reply.bound (some (s.bindPass n).1), (s.bindPass n).2)) s := by
    obtain ⟨own, hown, h⟩ := s.bindPass_recording n
    exact echoes_self own (fun e he => hP e (hown e he)) fun r => by simp only [h, Option.map_some]
  cases c with
  | render id html =>
    cases hcontainer : s.document.elementById? id with
    | none =>
      exact echoes_silent fun r => by simp only [perform, render, recording, hcontainer]; rfl
    | some container =>
      obtain ⟨own, hown, h⟩ := bindPasses_recording
        { s with document := (s.document.insertHtml container html).2 }
        (s.document.insertHtml container html).1
      refine echoes_self own (fun e he => hP e (hown e he)) fun r => ?_
      have hr := h r
      simp only [recording] at hr
      simp only [perform, render, recording, hcontainer, hr]
      rfl
  | insert place html => exact echoes_located fun n => echoes_silent fun r => rfl
  | bind place =>
    cases place with
    | none => exact hpass Document.root
    | some place => exact echoes_located hpass
  | click place => exact echoes_located fun n => (hclick n s).map fun o => Reply.clicked (some o)
  | remove place => exact echoes_located fun n => echoes_silent fun r => rfl
  | hold place name =>
    exact echoes_located fun n => echoes_silent fun r => by
      simp only [hold_recording, Option.map_some]
  | drop name =>
    refine echoes_silent fun r => ?_
    rw [perform, perform, drop_recording]
    rfl

/-- Scripts come to the same with clickers that do. -/
theorem echoes_runScript {click click' : Clicker} (hP : ∀ e : Event, e.isQuiet = true → P e)
    (hclick : ∀ n s, Echoes P (click n) (click' n) s) (f : Target) (script : Script) :
    Echoes P (runScript click f script) (runScript click' f script) s := by
  induction script generalizing s with
  | finish e => exact echoes_silent fun r => rfl
  | note r next ih => exact (echoes_note (hP (.noted f r) rfl)).bind fun _ t => ih
  | perform c next ih =>
    have hlive (r : List Event) : (s.recording r).isLive = s.isLive := rfl
    simp only [Echoes, runScript_perform, hlive]
    by_cases h : s.isLive = true
    · simp only [if_pos h]
      exact (echoes_perform hP hclick c).bind fun r _ => ih r
    · simp only [if_neg h]
      exact echoes_silent (f := fun s => some (Ending.failed ["page is gone"], s)) fun r => rfl

/-- A click that calls a target puts that call on record, then what happens in it, and at last the
failure of the action, if it failed. -/
theorem clickWith_recording {click click' : Clicker} {element : Nat} {action : String}
    {x : Resolved Target} (hhandler : s.binder.handler? s.document n = some (element, action))
    (hx : (s.enter [element, n]).resolve action = .ok x)
    (hP : ∀ e : Event, e.isQuiet = true → P e)
    (hclick : ∀ n s, Echoes P (click n) (click' n) s) :
    (∀ r, clickWith click n (s.recording r) = none ∧ clickWith click' n (s.recording r) = none) ∨
      ∃ (e : Ending) (t : Session) (loud own : List Event), (∀ e ∈ own, P e) ∧ ∀ r,
        clickWith click n (s.recording r) =
            some (⟨true, decide (e ≠ .ok), s.prevents element⟩, t.recording
              (r ++ .called x.target x.arguments :: (loud ++ failureLines action x.path e))) ∧
          clickWith click' n (s.recording r) =
            some (⟨true, decide (e ≠ .ok), s.prevents element⟩, t.recording
              (r ++ .called x.target x.arguments :: (own ++ failureLines action x.path e))) := by
  -- a click starts its script with the call on record, whatever was on it before
  have hopened (r : List Event) :
      ((s.recording r).enter [element, n]).note (.called x.target x.arguments) =
        (s.enter [element, n]).recording (r ++ [.called x.target x.arguments]) := rfl
  have hrun (k : Clicker) (r : List Event) : clickWith k n (s.recording r) =
      (runScript k x.target (x.target.run x.arguments) ((s.enter [element, n]).recording
        (r ++ [.called x.target x.arguments]))).map fun y =>
          (⟨true, decide (y.1 ≠ .ok), s.prevents element⟩,
            (y.2.settle action x.path y.1).leave [element, n]) := by
    rw [clickWith_of_resolved (s := s.recording r) hhandler hx, call, hopened]
    rfl
  rcases echoes_runScript hP hclick x.target (x.target.run x.arguments)
    (s := s.enter [element, n]) with hnone | ⟨e, t, loud, own, hown, hsome⟩
  · exact .inl fun r => by rw [hrun, hrun, (hnone _).1, (hnone _).2]; exact ⟨rfl, rfl⟩
  · refine .inr ⟨e, t.leave [element, n], loud, own, hown, fun r => ?_⟩
    rw [hrun, hrun, (hsome _).1, (hsome _).2]
    simp only [Option.map_some, settle_recording, leave_recording, List.append_assoc,
      List.cons_append, List.nil_append, and_self]

/-- What a click comes to does not depend on the record. -/
theorem echoes_click (depth n : Nat) (s : Session) :
    Echoes (fun _ => True) (click depth n) (click depth n) s := by
  induction depth generalizing n s with
  | zero => exact .inl fun r => ⟨rfl, rfl⟩
  | succ depth ih =>
    have hhandler' (r : List Event) : (s.recording r).binder.handler? (s.recording r).document n =
      s.binder.handler? s.document n := rfl
    cases hhandler : s.binder.handler? s.document n with
    | none =>
      refine echoes_silent fun r => ?_
      rw [click_of_no_handler hhandler, click_of_no_handler ((hhandler' r).trans hhandler)]
      rfl
    | some answer =>
      obtain ⟨element, action⟩ := answer
      cases hresolve : (s.enter [element, n]).resolve action with
      | error e =>
        refine echoes_self [.logged (failureLine action e.message)]
          (fun _ _ => trivial) fun r => ?_
        rw [click_of_unresolved hhandler hresolve,
          click_of_unresolved ((hhandler' r).trans hhandler) hresolve]
        exact congrArg (fun t => some (_, t)) (leave_recording _ _ _)
      | ok x =>
        rcases clickWith_recording hhandler hresolve (fun _ _ => trivial) ih with
          hnone | ⟨e, t, loud, own, -, hsome⟩
        · exact .inl fun r => ⟨(hnone r).1, (hnone r).1⟩
        · exact .inr ⟨_, t, _, _, fun _ _ => trivial, fun r => ⟨(hsome r).1, (hsome r).1⟩⟩

/-- Of what a click puts on record, apart from clicks that its action makes, one event is a call,
which is that of the target, and one is an error if the action fails, and none if not. -/
theorem clickWith_muted {element : Nat} {action : String} {x : Resolved Target}
    {o : ClickOutcome} (hhandler : s.binder.handler? s.document n = some (element, action))
    (hx : (s.enter [element, n]).resolve action = .ok x)
    (h : click (depth + 1) n s = some (o, t)) :
    ∃ own, clickWith (muted (click depth)) n s = some (o, t.recording (s.record ++ own)) ∧
      own.filter Event.isCall = [.called x.target x.arguments] ∧
      (o.failed = false → own.filter Event.isError = []) ∧
      (o.failed = true → ∃ message,
        own.filter Event.isError = [.logged (failureLine action message)]) := by
  have hquiet (n : Nat) (s : Session) :
      Echoes (fun e => e.isQuiet = true) (click depth n) (muted (click depth) n) s :=
    echoes_muted (echoes_click depth n s)
  rcases clickWith_recording hhandler hx (fun _ he => he) hquiet with
    hnone | ⟨e, u, loud, own, hown, hsome⟩
  · exact absurd ((hnone s.record).1.symm.trans h) nofun
  · obtain ⟨hloud, hmuted⟩ := hsome s.record
    obtain ⟨rfl, rfl⟩ := Prod.mk.inj (Option.some.inj (hloud.symm.trans h))
    refine ⟨_, hmuted, ?_, fun hfailed => ?_, fun hfailed => ?_⟩
    · rw [List.filter_cons_of_pos rfl, List.filter_append, filter_of_quiet isCall_of_isQuiet hown,
        filter_isCall_failureLines, List.append_nil]
    · have he : e = .ok := by simpa using hfailed
      subst he
      rw [List.filter_cons_of_neg Bool.false_ne_true, List.filter_append,
        filter_of_quiet isError_of_isQuiet hown]
      rfl
    · have he : e ≠ .ok := by simpa using hfailed
      obtain ⟨message, hmessage⟩ := exists_failure? x.path he
      refine ⟨message, ?_⟩
      rw [List.filter_cons_of_neg Bool.false_ne_true, List.filter_append,
        filter_of_quiet isError_of_isQuiet hown, failureLines, hmessage]
      rfl

end Session

end MarkupActions
