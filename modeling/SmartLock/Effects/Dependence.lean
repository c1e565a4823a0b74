import SmartLock.Effects.Program

/-! # What a program looks at

A program looks at an answer if what it does next depends on it. A program that looks only at the
answers of some operations does the same in any two environments that agree on those.

* **`LooksOnlyAt S p`** — only answers of operations in `S` make a difference to `p`, with a rule
  for each way to build a program.
* **`calls_eq_of_agree`, `result_eq_of_agree`** — such a program makes the same calls and returns
  the same in any two environments that agree on `S`.
* **`exists_induced_eq`** — the answers a handler computes are answers of its own runs. -/

namespace Effects

universe u v

variable {Op : Type u} {Ret : Op → Type v} {α β : Type v} {S : Op → Prop}

namespace Program

/-- Only answers of operations in `S` make a difference to the program. -/
def LooksOnlyAt (S : Op → Prop) : Program Ret α → Prop
  | .done _ => True
  | .request op next => (S op ∨ ∀ r r', next r = next r') ∧ ∀ r, LooksOnlyAt S (next r)

theorem looksOnlyAt_pure (value : α) : LooksOnlyAt S (pure value : Program Ret α) := trivial

/-- A call hands on its answer. -/
theorem looksOnlyAt_call {op : Op} (hop : S op) :
    LooksOnlyAt S (call op : Program Ret (Ret op)) := ⟨Or.inl hop, fun _ => trivial⟩

/-- A call whose answer is dropped looks at nothing. -/
theorem looksOnlyAt_perform (op : Op) : LooksOnlyAt S (perform op : Program Ret PUnit) :=
  ⟨Or.inr fun _ _ => rfl, fun _ => trivial⟩

/-- A sequence looks at what its parts look at. -/
theorem looksOnlyAt_bind {p : Program Ret α} {f : α → Program Ret β} (hp : LooksOnlyAt S p)
    (hf : ∀ value, LooksOnlyAt S (f value)) : LooksOnlyAt S (p >>= f) := by
  induction p with
  | done value => exact hf value
  | request op next ih =>
      refine ⟨hp.1.imp_right fun hnext r r' => ?_, fun r => ih r (hp.2 r)⟩
      exact congrArg (· >>= f) (hnext r r')

theorem looksOnlyAt_ite {c : Prop} [Decidable c] {p q : Program Ret α} (hp : LooksOnlyAt S p)
    (hq : LooksOnlyAt S q) : LooksOnlyAt S (if c then p else q) := by
  split
  · exact hp
  · exact hq

section Agree

variable {p : Program Ret α} {a a' : Answers Ret}

/-- **A program makes the same calls in environments that agree on what it looks at.** -/
theorem calls_eq_of_agree (hp : LooksOnlyAt S p) (h : ∀ n op, S op → a n op = a' n op) :
    calls a p = calls a' p := by
  induction p generalizing a a' with
  | done value => rfl
  | request op next ih =>
      -- the two runs go on alike, after the same answer or after two that make no difference
      have hnext : next (a 0 op) = next (a' 0 op) := by
        rcases hp.1 with hop | hconst
        · rw [h 0 op hop]
        · exact hconst _ _
      have hrest : calls (a.after 1) (next (a' 0 op)) = calls (a'.after 1) (next (a' 0 op)) :=
        ih (a' 0 op) (hp.2 _) fun n op hop => h (n + 1) op hop
      simp only [calls, trace, List.map_cons, hnext] at hrest ⊢
      rw [hrest]

/-- The same for the value it returns. -/
theorem result_eq_of_agree (hp : LooksOnlyAt S p) (h : ∀ n op, S op → a n op = a' n op) :
    result a p = result a' p := by
  induction p generalizing a a' with
  | done value => rfl
  | request op next ih =>
      have hnext : next (a 0 op) = next (a' 0 op) := by
        rcases hp.1 with hop | hconst
        · rw [h 0 op hop]
        · exact hconst _ _
      rw [result, result, hnext]
      exact ih _ (hp.2 _) fun n op hop => h (n + 1) op hop

end Agree

/-- What a handler answers is what one of its runs returns. -/
theorem exists_induced_eq {Op' : Type u} {Ret' : Op' → Type v}
    (h : (op : Op) → Program Ret' (Ret op)) (a : Answers Ret') (p : Program Ret α) (n : ℕ)
    (op : Op) : ∃ k, induced h a p n op = result (a.after k) (h op) := by
  induction p generalizing a n with
  | done value => exact ⟨0, rfl⟩
  | request op' next ih =>
      cases n with
      | zero => exact ⟨0, rfl⟩
      | succ n =>
          obtain ⟨k, hk⟩ := ih _ (a.after (trace a (h op')).length) n
          exact ⟨_, hk.trans (by rw [Answers.after_after])⟩

end Program

end Effects
