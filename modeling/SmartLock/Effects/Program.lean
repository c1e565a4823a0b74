import Mathlib.Data.Nat.Notation
import Mathlib.Tactic.TypeStar

/-! # Effect programs and their traces

A program that talks to an environment is a finite tree of *requests*: it either is done, or asks
one operation and goes on with the answer. `Program Ret α` is that tree over an interface
`Ret : Op → Type` (the answer type of every operation), with sequencing as a lawful monad.

* **`result a p` / `trace a p`** — the value and the list of events of `p` when the environment
  gives the answers `a`. `Answers` is indexed by the number of requests made so far, so quantifying
  over it covers every behaviour of the environment.
* **`MayCall op p`** — some behaviour of the environment lets `p` ask for `op`.
* **`handle h p`** — lower `p` to another interface, one operation at a time.
* **`embed ι p`** — `p` over a part of an interface, as a program over all of it.
* **`result_handle`, `trace_handle`** — a lowered program is the original one under the answers its
  handler computes (`induced`), and every low-level event belongs to one high-level event. -/

namespace Effects

universe u v

variable {Op : Type u} {Ret : Op → Type v} {α β γ : Type v}

/-- A program over the interface `Ret`: done with a value, or a request whose answer selects the
rest of the program. -/
inductive Program {Op : Type u} (Ret : Op → Type v) (α : Type v) : Type (max u v)
  /-- The finished program. -/
  | done (value : α)
  /-- Ask `op` and continue with its answer. -/
  | request (op : Op) (next : Ret op → Program Ret α)

/-- One event of a trace: an operation together with the answer it got. -/
abbrev Event {Op : Type u} (Ret : Op → Type v) : Type (max u v) := (op : Op) × Ret op

/-- A behaviour of the environment: what it answers to `op` when `op` is the `n`-th request. -/
abbrev Answers {Op : Type u} (Ret : Op → Type v) : Type (max u v) := ℕ → (op : Op) → Ret op

/-- The behaviour that is left after `n` requests. -/
def Answers.after (a : Answers Ret) (n : ℕ) : Answers Ret := fun m => a (m + n)

@[simp] theorem Answers.after_apply (a : Answers Ret) (n m : ℕ) : a.after n m = a (m + n) := rfl

/-- After no request the behaviour is unchanged. -/
@[simp] theorem Answers.after_zero (a : Answers Ret) : a.after 0 = a := rfl

/-- Waiting twice is waiting for the sum. -/
@[simp] theorem Answers.after_after (a : Answers Ret) (n m : ℕ) :
    (a.after n).after m = a.after (m + n) := by
  funext k
  simp only [Answers.after_apply, Nat.add_assoc]

namespace Program

/-! ## Sequencing -/

/-- Run `p`, then the program its value selects. -/
def bind : Program Ret α → (α → Program Ret β) → Program Ret β
  | .done value, f => f value
  | .request op next, f => .request op fun r => (next r).bind f

/-- Ask one operation and return its answer. -/
def call (op : Op) : Program Ret (Ret op) := .request op .done

instance : Monad (Program Ret) where
  pure := .done
  bind := bind

/-- Ask one operation and drop its answer. -/
def perform (op : Op) : Program Ret PUnit := do
  let _ ← call op
  return ⟨⟩

@[simp] theorem done_eq_pure (value : α) : (.done value : Program Ret α) = pure value := rfl

/-- Sequencing after a request asks the request first. -/
theorem request_bind (op : Op) (next : Ret op → Program Ret α) (f : α → Program Ret β) :
    (Program.request op next >>= f) = .request op fun r => next r >>= f := rfl

/-- Returning the value of a program unchanged changes nothing. -/
theorem id_map (p : Program Ret α) : id <$> p = p := by
  induction p with
  | done value => rfl
  | request op next ih => exact congrArg (Program.request op) (funext ih)

/-- Sequencing is associative. -/
theorem bind_assoc (p : Program Ret α) (f : α → Program Ret β) (g : β → Program Ret γ) :
    p >>= f >>= g = p >>= fun value => f value >>= g := by
  induction p with
  | done value => rfl
  | request op next ih => exact congrArg (Program.request op) (funext ih)

instance : LawfulMonad (Program Ret) :=
  LawfulMonad.mk' (Program Ret) id_map (fun _ _ => rfl) bind_assoc

/-! ## Running against an environment -/

/-- The value `p` returns when the environment answers by `a`. -/
def result (a : Answers Ret) : Program Ret α → α
  | .done value => value
  | .request op next => result (a.after 1) (next (a 0 op))

/-- The events of `p`, in order, when the environment answers by `a`. -/
def trace (a : Answers Ret) : Program Ret α → List (Event Ret)
  | .done _ => []
  | .request op next => ⟨op, a 0 op⟩ :: trace (a.after 1) (next (a 0 op))

/-- The operations `p` asks for, in order, without the answers. -/
def calls (a : Answers Ret) (p : Program Ret α) : List Op := (trace a p).map Sigma.fst

@[simp] theorem result_pure (a : Answers Ret) (value : α) :
    result a (pure value : Program Ret α) = value := rfl

@[simp] theorem trace_pure (a : Answers Ret) (value : α) :
    trace a (pure value : Program Ret α) = [] := rfl

@[simp] theorem result_call (a : Answers Ret) (op : Op) :
    result a (call op : Program Ret (Ret op)) = a 0 op := rfl

@[simp] theorem trace_call (a : Answers Ret) (op : Op) :
    trace a (call op : Program Ret (Ret op)) = [⟨op, a 0 op⟩] := rfl

@[simp] theorem trace_perform (a : Answers Ret) (op : Op) :
    trace a (perform op : Program Ret PUnit) = [⟨op, a 0 op⟩] := rfl

/-- The value of a sequence is the value of its second part, which meets the environment after the
requests of the first part. -/
@[simp] theorem result_bind (a : Answers Ret) (p : Program Ret α) (f : α → Program Ret β) :
    result a (p >>= f) = result (a.after (trace a p).length) (f (result a p)) := by
  induction p generalizing a with
  | done value =>
      rw [done_eq_pure, LawfulMonad.pure_bind, trace_pure, List.length_nil, Answers.after_zero,
        result_pure]
  | request op next ih =>
      rw [request_bind, result, ih, Answers.after_after, trace, List.length_cons, result]

/-- The trace of a sequence is the trace of its first part followed by that of its second. -/
@[simp] theorem trace_bind (a : Answers Ret) (p : Program Ret α) (f : α → Program Ret β) :
    trace a (p >>= f)
      = trace a p ++ trace (a.after (trace a p).length) (f (result a p)) := by
  induction p generalizing a with
  | done value =>
      rw [done_eq_pure, LawfulMonad.pure_bind, trace_pure, List.length_nil, Answers.after_zero,
        result_pure, List.nil_append]
  | request op next ih =>
      rw [request_bind, trace, ih, Answers.after_after, trace, List.length_cons, result,
        List.cons_append]

-- The three `ite` rules fire before their condition is rewritten, so that its decidability instance
-- still matches.
@[simp ↓] theorem result_ite (a : Answers Ret) (c : Prop) [Decidable c] (p q : Program Ret α) :
    result a (if c then p else q) = if c then result a p else result a q :=
  apply_ite (result a) c p q

@[simp ↓] theorem trace_ite (a : Answers Ret) (c : Prop) [Decidable c] (p q : Program Ret α) :
    trace a (if c then p else q) = if c then trace a p else trace a q :=
  apply_ite (trace a) c p q

/-! ## Operations a program may ask for -/

/-- Some behaviour of the environment lets `p` ask for `op`. -/
def MayCall (op : Op) : Program Ret α → Prop
  | .done _ => False
  | .request op' next => op = op' ∨ ∃ r, MayCall op (next r)

/-- What a program asks for, it may ask for. -/
theorem mayCall_of_mem_calls {a : Answers Ret} {op : Op} {p : Program Ret α}
    (h : op ∈ calls a p) : MayCall op p := by
  induction p generalizing a with
  | done value => exact absurd h (List.not_mem_nil : op ∉ [])
  | request op' next ih =>
      -- the answer that the run got selects the branch it went on with
      rcases List.mem_cons.mp h with rfl | h
      · exact Or.inl rfl
      · exact Or.inr ⟨a 0 op', ih _ h⟩

theorem not_mayCall_pure (op : Op) (value : α) : ¬ MayCall op (pure value : Program Ret α) :=
  fun h => h

theorem eq_of_mayCall_call {op op' : Op} (h : MayCall op (call op' : Program Ret (Ret op'))) :
    op = op' := by
  rcases h with rfl | ⟨_, h⟩
  · rfl
  · exact absurd h (not_mayCall_pure op _)

theorem eq_of_mayCall_perform {op op' : Op}
    (h : MayCall op (perform op' : Program Ret PUnit)) : op = op' := by
  rcases h with rfl | ⟨_, h⟩
  · rfl
  · exact absurd h (not_mayCall_pure op _)

/-- A sequence asks only for what one of its parts may ask for. -/
theorem mayCall_bind {op : Op} {p : Program Ret α} {f : α → Program Ret β}
    (h : MayCall op (p >>= f)) : MayCall op p ∨ ∃ value, MayCall op (f value) := by
  induction p with
  | done value => exact Or.inr ⟨value, h⟩
  | request op' next ih =>
      rcases h with rfl | ⟨r, h⟩
      · exact Or.inl (Or.inl rfl)
      · rcases ih r h with h | h
        · exact Or.inl (Or.inr ⟨r, h⟩)
        · exact Or.inr h

/-! ## Lowering to another interface -/

section Handle

variable {Op' : Type u} {Ret' : Op' → Type v}

/-- Lower `p` to the interface `Ret'`: every operation becomes the program `h` gives for it. -/
def handle (h : (op : Op) → Program Ret' (Ret op)) : Program Ret α → Program Ret' α
  | .done value => pure value
  | .request op next => h op >>= fun r => handle h (next r)

variable (h : (op : Op) → Program Ret' (Ret op))

@[simp] theorem handle_pure (value : α) : handle h (pure value : Program Ret α) = pure value := rfl

@[simp] theorem handle_call (op : Op) : handle h (call op : Program Ret (Ret op)) = h op :=
  bind_pure (h op)

/-- Lowering distributes over sequencing. -/
@[simp] theorem handle_bind (p : Program Ret α) (f : α → Program Ret β) :
    handle h (p >>= f) = handle h p >>= fun value => handle h (f value) := by
  induction p with
  | done value => rfl
  | request op next ih =>
      rw [request_bind, handle, handle, bind_assoc]
      exact congrArg (h op >>= ·) (funext ih)

@[simp ↓] theorem handle_ite (c : Prop) [Decidable c] (p q : Program Ret α) :
    handle h (if c then p else q) = if c then handle h p else handle h q :=
  apply_ite (handle h) c p q

/-- A lowered operation leaves the events of its handler, also when its answer is dropped. -/
theorem trace_handle_perform (a : Answers Ret') (op : Op) :
    trace a (handle h (perform op : Program Ret PUnit)) = trace a (h op) := by
  rw [perform, handle_bind, handle_call, trace_bind]
  exact List.append_nil _

/-- The answers the handler computes for `p` when the low-level environment answers by `a`. -/
def induced (a : Answers Ret') : Program Ret α → Answers Ret
  | .done _ => fun _ op => result a (h op)
  | .request op next => fun
      | 0, op' => result a (h op')
      | n + 1, op' =>
          induced (a.after (trace a (h op)).length) (next (result a (h op))) n op'

/-- **A lowered program returns what the original one returns** under the answers its handler
computes. -/
theorem result_handle (a : Answers Ret') (p : Program Ret α) :
    result a (handle h p) = result (induced h a p) p := by
  induction p generalizing a with
  | done value => rfl
  | request op next ih =>
      rw [handle, result_bind, ih, result]
      rfl

/-- **Every low-level event belongs to a high-level one**: it is part of a run of the handler on an
operation that the original program asks for under the computed answers. -/
theorem trace_handle (a : Answers Ret') (p : Program Ret α) {e : Event Ret'}
    (he : e ∈ trace a (handle h p)) :
    ∃ op ∈ calls (induced h a p) p, ∃ n, e ∈ trace (a.after n) (h op) := by
  induction p generalizing a with
  | done value => exact absurd he (List.not_mem_nil : e ∉ [])
  | request op next ih =>
      rw [handle, trace_bind, List.mem_append] at he
      -- the event lies in the run of the first operation, or later
      rcases he with he | he
      · exact ⟨op, List.mem_cons_self, 0, by rwa [Answers.after_zero]⟩
      · obtain ⟨op', hop', n, hn⟩ := ih _ _ he
        exact ⟨op', List.mem_cons_of_mem _ hop', _, by rwa [Answers.after_after] at hn⟩

end Handle

/-! ## A part of an interface -/

section Embed

variable {Op' : Type u} {Ret' : Op' → Type v} (ι : Op → Op')

/-- A program over the operations `ι op` of an interface, as a program over all of it. -/
def embed (p : Program (fun op => Ret' (ι op)) α) : Program Ret' α :=
  handle (fun op => call (ι op)) p

/-- An event of the part, as an event of the whole. -/
def embedEvent (e : Event fun op => Ret' (ι op)) : Event Ret' := ⟨ι e.1, e.2⟩

variable (a : Answers Ret') (p : Program (fun op => Ret' (ι op)) α)

/-- It returns what it returns under the answers for the part. -/
theorem result_embed : result a (embed ι p) = result (fun n op => a n (ι op)) p := by
  induction p generalizing a with
  | done value => rfl
  | request op next ih => exact ih (a 0 (ι op)) (a.after 1)

/-- It leaves the events of the part, and no others. -/
theorem trace_embed :
    trace a (embed ι p) = (trace (fun n op => a n (ι op)) p).map (embedEvent ι) := by
  induction p generalizing a with
  | done value => rfl
  | request op next ih => exact congrArg (_ :: ·) (ih (a 0 (ι op)) (a.after 1))

end Embed

end Program

end Effects
