import SmartLock.Effects.Program

/-! # Contracts between a program and its environment

A contract says in which state an operation may be asked for, what the environment promises about
its answer, and to which state the answer leads. The state is that of the contract, not of the
program: it is computed from the history alone.

* **`Contract.Obeys`, `Contract.Granted`** — the two sides of a history: every operation was asked
  for when it may be, every answer was as promised. `obeys_append` and `obeys_flatMap` compose
  histories; `granted_trace` is the rule for an environment with an invariant.
* **`Contract.breaches`** — the operations of a history that were asked for when they may not be,
  and `Contract.auditing`: the contract that allows everything and keeps the breaches beside its
  state.
* **`Program.wp`** — the weakest precondition of a program under a contract: from the state it stays
  within the contract and ends in the postcondition, whatever is answered within the promises.
  `wp_pure`, `wp_call`, `wp_perform`, `wp_bind`, `wp_ite` and `wp_mono` are its rules.
* **`Program.wp_sound`** — what `wp` says of a program holds of all its histories;
  `wp_sound_auditing` is the same for a program that does not keep to the contract everywhere, and
  `wp_auditing_of_wp` lets the parts that do be treated as usual. -/

namespace Effects

universe u v w

variable {Op : Type u} {Ret : Op → Type v} {σ : Type w} {α β : Type v}

/-- A contract over the interface `Ret`, with the states `σ`. -/
structure Contract (Ret : Op → Type v) (σ : Type w) where
  /-- The program may ask for the operation. -/
  may : σ → Op → Prop
  /-- The environment may give the answer. -/
  grants : σ → Event Ret → Prop
  /-- The state after the answer. -/
  next : σ → Event Ret → σ

namespace Contract

variable (C : Contract Ret σ)

/-! ## Histories -/

/-- The state after a history. -/
def after (s : σ) (tr : List (Event Ret)) : σ := tr.foldl C.next s

/-- Every operation of the history was asked for when it may be. -/
def Obeys : σ → List (Event Ret) → Prop
  | _, [] => True
  | s, e :: tr => C.may s e.1 ∧ Obeys (C.next s e) tr

/-- Every answer of the history was promised. -/
def Granted : σ → List (Event Ret) → Prop
  | _, [] => True
  | s, e :: tr => C.grants s e ∧ Granted (C.next s e) tr

@[simp] theorem after_nil (s : σ) : C.after s [] = s := rfl

@[simp] theorem after_cons (s : σ) (e : Event Ret) (tr : List (Event Ret)) :
    C.after s (e :: tr) = C.after (C.next s e) tr := rfl

@[simp] theorem obeys_nil (s : σ) : C.Obeys s [] := trivial

@[simp] theorem obeys_cons (s : σ) (e : Event Ret) (tr : List (Event Ret)) :
    C.Obeys s (e :: tr) ↔ C.may s e.1 ∧ C.Obeys (C.next s e) tr := Iff.rfl

/-- The state after a concatenation. -/
theorem after_append (s : σ) (tr tr' : List (Event Ret)) :
    C.after s (tr ++ tr') = C.after (C.after s tr) tr' := List.foldl_append

/-- A part of the state that follows its own rule can be computed alone. -/
theorem after_project {τ : Type*} {D : Contract Ret τ} (f : σ → τ)
    (h : ∀ s e, f (C.next s e) = D.next (f s) e) (s : σ) (tr : List (Event Ret)) :
    f (C.after s tr) = D.after (f s) tr :=
  (List.foldl_hom f fun s e => (h s e).symm).symm

/-- A concatenation obeys the contract if both parts do, the second from where the first ends. -/
theorem obeys_append (s : σ) (tr tr' : List (Event Ret)) :
    C.Obeys s (tr ++ tr') ↔ C.Obeys s tr ∧ C.Obeys (C.after s tr) tr' := by
  induction tr generalizing s with
  | nil => simp
  | cons e tr ih => rw [List.cons_append, obeys_cons, obeys_cons, ih, after_cons, and_assoc]

variable {C}

/-- An environment that promises nothing keeps its promises. -/
theorem granted_of_forall (h : ∀ s e, C.grants s e) (s : σ) (tr : List (Event Ret)) :
    C.Granted s tr := by
  induction tr generalizing s with
  | nil => exact trivial
  | cons e tr ih => exact ⟨h s e, ih _⟩

/-- **An environment with an invariant.** Answers that are as promised in every state with `I`, and
lead from there to the next such state, are as promised to every program. -/
theorem granted_trace {I : ℕ → σ → Prop} {a : Answers Ret}
    (h : ∀ n s op, I n s → C.grants s ⟨op, a n op⟩ ∧ I (n + 1) (C.next s ⟨op, a n op⟩))
    (p : Program Ret α) {n : ℕ} {s : σ} (hs : I n s) : C.Granted s (p.trace (a.after n)) := by
  induction p generalizing n s with
  | done value => exact trivial
  | request op next ih =>
      have hzero : a.after n 0 op = a n op := by
        rw [Answers.after_apply, Nat.zero_add]
      rw [Program.trace, hzero, Answers.after_after, Nat.add_comm 1]
      exact ⟨(h n s op hs).1, ih _ (h n s op hs).2⟩

/-- **In a history that obeys the contract, every event was allowed where it stands.** -/
theorem Obeys.may_of_eq_append {s : σ} {tr before later : List (Event Ret)} {e : Event Ret}
    (h : C.Obeys s tr) (htr : tr = before ++ e :: later) : C.may (C.after s before) e.1 := by
  rw [htr, obeys_append, obeys_cons] at h
  exact h.2.1

/-- **Repeated parts.** If every part obeys the contract from the states with `I` and ends in such a
state, then so does their concatenation. -/
theorem obeys_flatMap {ι : Type*} {I : σ → Prop} {f : ι → List (Event Ret)} {xs : List ι}
    (h : ∀ x ∈ xs, ∀ s, I s → C.Obeys s (f x) ∧ I (C.after s (f x))) {s : σ} (hs : I s) :
    C.Obeys s (xs.flatMap f) ∧ I (C.after s (xs.flatMap f)) := by
  induction xs generalizing s with
  | nil => exact ⟨trivial, hs⟩
  | cons x xs ih =>
      obtain ⟨hobeys, hnext⟩ := h x List.mem_cons_self s hs
      have hrest := ih (fun y hy => h y (List.mem_cons_of_mem x hy)) hnext
      rw [List.flatMap_cons, obeys_append, after_append]
      exact ⟨⟨hobeys, hrest.1⟩, hrest.2⟩

/-! ## Breaches -/

section Auditing

variable (C) [∀ s, DecidablePred (C.may s)] {s : σ}

/-- The operations of a history that were asked for when they may not be, in order. -/
def breaches : σ → List (Event Ret) → List Op
  | _, [] => []
  | s, e :: tr => (if C.may s e.1 then [] else [e.1]) ++ breaches (C.next s e) tr

/-- The contract that allows everything and keeps the breaches beside its state. -/
def auditing : Contract Ret (σ × List Op) where
  may _ _ := True
  grants s := C.grants s.1
  next s e := (C.next s.1 e, s.2 ++ if C.may s.1 e.1 then [] else [e.1])

/-- An operation that may be asked for is no breach. -/
theorem next_auditing_of_may {e : Event Ret} (h : C.may s e.1) (ops : List Op) :
    C.auditing.next (s, ops) e = (C.next s e, ops) :=
  Prod.ext rfl ((congrArg (ops ++ ·) (if_pos h)).trans (List.append_nil ops))

/-- An operation that may not is one. -/
theorem next_auditing_of_not_may {e : Event Ret} (h : ¬ C.may s e.1) (ops : List Op) :
    C.auditing.next (s, ops) e = (C.next s e, ops ++ [e.1]) :=
  Prod.ext rfl (congrArg (ops ++ ·) (if_neg h))

/-- **What an audit finds** after a history are its breaches. -/
theorem after_auditing (ops : List Op) (tr : List (Event Ret)) :
    C.auditing.after (s, ops) tr = (C.after s tr, ops ++ C.breaches s tr) := by
  induction tr generalizing s ops with
  | nil => rw [after_nil, after_nil, breaches, List.append_nil]
  | cons e tr ih =>
      rw [after_cons, after_cons, breaches, ← List.append_assoc]
      exact ih _

/-- The audit asks for nothing. -/
theorem granted_auditing {t : σ × List Op} {tr : List (Event Ret)} :
    C.auditing.Granted t tr ↔ C.Granted t.1 tr := by
  induction tr generalizing t with
  | nil => exact Iff.rfl
  | cons e tr ih => exact and_congr_right fun _ => ih

end Auditing

end Contract

namespace Program

/-! ## Weakest preconditions -/

/-- From the state, the program stays within the contract and ends in `Q`, whatever the environment
answers within its promises. -/
def wp (C : Contract Ret σ) : Program Ret α → (α → σ → Prop) → σ → Prop
  | .done value, Q, s => Q value s
  | .request op next, Q, s =>
      C.may s op ∧ ∀ r, C.grants s ⟨op, r⟩ → wp C (next r) Q (C.next s ⟨op, r⟩)

variable {C : Contract Ret σ}

@[simp] theorem wp_pure (value : α) (Q : α → σ → Prop) : wp C (pure value) Q = Q value := rfl

@[simp] theorem wp_call (op : Op) (Q : Ret op → σ → Prop) :
    wp C (call op) Q
      = fun s => C.may s op ∧ ∀ r, C.grants s ⟨op, r⟩ → Q r (C.next s ⟨op, r⟩) := rfl

/-- **Sequencing**: the second part starts where the first one ends. -/
@[simp] theorem wp_bind (p : Program Ret α) (f : α → Program Ret β) (Q : β → σ → Prop) :
    wp C (p >>= f) Q = wp C p fun value => wp C (f value) Q := by
  induction p with
  | done value => rfl
  | request op next ih =>
      funext s
      simp only [request_bind, wp, ih]

@[simp] theorem wp_perform (op : Op) (Q : PUnit → σ → Prop) :
    wp C (perform op) Q
      = fun s => C.may s op ∧ ∀ r, C.grants s ⟨op, r⟩ → Q ⟨⟩ (C.next s ⟨op, r⟩) := by
  rw [perform, wp_bind, wp_call]
  rfl

@[simp ↓] theorem wp_ite (c : Prop) [Decidable c] (p q : Program Ret α) (Q : α → σ → Prop) :
    wp C (if c then p else q) Q = if c then wp C p Q else wp C q Q := by
  split
  · rfl
  · rfl

/-- A weaker postcondition asks for less. -/
theorem wp_mono {p : Program Ret α} {Q Q' : α → σ → Prop} {s : σ}
    (hQ : ∀ value t, Q value t → Q' value t)
    (h : wp C p Q s) : wp C p Q' s := by
  induction p generalizing s with
  | done value => exact hQ value s h
  | request op next ih => exact ⟨h.1, fun r hr => ih r (h.2 r hr)⟩

/-- **Soundness.** A program that meets its precondition obeys the contract in every history in
which the environment keeps its promises, and ends in its postcondition. -/
theorem wp_sound {p : Program Ret α} {Q : α → σ → Prop} {s : σ} (h : wp C p Q s) (a : Answers Ret)
    (hgranted : C.Granted s (trace a p)) :
    C.Obeys s (trace a p) ∧ Q (result a p) (C.after s (trace a p)) := by
  induction p generalizing s a with
  | done value => exact ⟨trivial, h⟩
  | request op next ih =>
      obtain ⟨hmay, hnext⟩ := h
      obtain ⟨hanswer, hlater⟩ := hgranted
      -- the run goes on in the branch of the answer it got
      obtain ⟨hobeys, hpost⟩ := ih (a 0 op) (hnext _ hanswer) (a.after 1) hlater
      exact ⟨⟨hmay, hobeys⟩, hpost⟩

section Auditing

variable [∀ s, DecidablePred (C.may s)] {s : σ} {ops : List Op}

/-- A program that stays within the contract adds no breach. -/
theorem wp_auditing_of_wp {p : Program Ret α} {Q : α → σ × List Op → Prop}
    (h : wp C p (fun value t => Q value (t, ops)) s) : wp C.auditing p Q (s, ops) := by
  induction p generalizing s with
  | done value => exact h
  | request op next ih =>
      obtain ⟨hmay, hnext⟩ := h
      refine ⟨trivial, fun r hr => ?_⟩
      rw [C.next_auditing_of_may hmay]
      exact ih r (hnext r hr)

/-- An operation out of turn is a breach. -/
theorem wp_auditing_perform_of_not_may {op : Op} {Q : PUnit → σ × List Op → Prop}
    (hmay : ¬ C.may s op)
    (h : ∀ r, C.grants s ⟨op, r⟩ → Q ⟨⟩ (C.next s ⟨op, r⟩, ops ++ [op])) :
    wp C.auditing (perform op) Q (s, ops) := by
  rw [wp_perform]
  refine ⟨trivial, fun r hr => ?_⟩
  rw [C.next_auditing_of_not_may hmay]
  exact h r hr

/-- **Soundness of an audit**: the postcondition learns the breaches of the history. -/
theorem wp_sound_auditing {p : Program Ret α} {Q : α → σ × List Op → Prop}
    (h : wp C.auditing p Q (s, [])) (a : Answers Ret) (hgranted : C.Granted s (trace a p)) :
    Q (result a p) (C.after s (trace a p), C.breaches s (trace a p)) := by
  have hpost := (wp_sound h a (C.granted_auditing.mpr hgranted)).2
  rwa [C.after_auditing, List.nil_append] at hpost

end Auditing

end Program

end Effects
