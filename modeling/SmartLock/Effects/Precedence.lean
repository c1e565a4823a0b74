import Mathlib.Data.List.Basic

/-! # Precedence in a history

`Precedes P Q l`: in the history `l`, every event with `Q` comes strictly after some event with
`P`. It is the safety property "no `Q` before the first `P`".

* **`precedes_cons`, `precedes_append`** — precedence splits along the history; once a `P` has been
  seen, nothing is left to check.
* **`precedes_iff_of_forall_not`** — where no `P` ever occurs, precedence says that no `Q` does. -/

namespace Effects

variable {ε : Type*} {P Q : ε → Prop}

/-- Every `Q` in `l` has a `P` strictly before it. -/
def Precedes (P Q : ε → Prop) (l : List ε) : Prop :=
  ∀ before e after, l = before ++ e :: after → Q e → ∃ d ∈ before, P d

/-- A `Q` at the head of the history is never preceded; behind a `P` everything is. -/
theorem precedes_cons (e : ε) (l : List ε) :
    Precedes P Q (e :: l) ↔ ¬ Q e ∧ (P e ∨ Precedes P Q l) := by
  constructor
  · intro h
    have hQ : ¬ Q e := fun hq => by
      obtain ⟨d, hd, -⟩ := h [] e l rfl hq
      exact List.not_mem_nil hd
    refine ⟨hQ, ?_⟩
    by_cases hP : P e
    · exact Or.inl hP
    · -- a witness in `e :: before` cannot be `e`
      refine Or.inr fun before q after hl hq => ?_
      obtain ⟨d, hd, hPd⟩ := h (e :: before) q after (by rw [hl, List.cons_append]) hq
      rcases List.mem_cons.mp hd with rfl | hd
      · exact absurd hPd hP
      · exact ⟨d, hd, hPd⟩
  · rintro ⟨hQ, h⟩ before q after hl hq
    cases before with
    | nil =>
        obtain ⟨rfl, -⟩ := List.cons.inj hl
        exact absurd hq hQ
    | cons b before =>
        obtain ⟨rfl, htail⟩ := List.cons.inj hl
        rcases h with hP | h
        · exact ⟨e, List.mem_cons_self, hP⟩
        · obtain ⟨d, hd, hPd⟩ := h before q after htail hq
          exact ⟨d, List.mem_cons_of_mem _ hd, hPd⟩

/-- The empty history has nothing to precede. -/
@[simp] theorem precedes_nil : Precedes P Q [] := fun before e after h => by
  simp at h

/-- Precedence in a concatenation: it holds in the first part, and either a `P` occurs there or it
holds in the second part alone. -/
theorem precedes_append (l₁ l₂ : List ε) :
    Precedes P Q (l₁ ++ l₂) ↔ Precedes P Q l₁ ∧ ((∃ d ∈ l₁, P d) ∨ Precedes P Q l₂) := by
  induction l₁ with
  | nil => simp
  | cons e l₁ ih =>
      rw [List.cons_append, precedes_cons, precedes_cons, ih]
      simp only [List.mem_cons, exists_eq_or_imp]
      by_cases hP : P e
      · simp only [hP, true_or, and_true]
      · simp only [hP, false_or, and_assoc]

/-- A history without any `Q` satisfies precedence. -/
theorem precedes_of_forall_not {l : List ε} (h : ∀ e ∈ l, ¬ Q e) : Precedes P Q l := by
  rintro before e after rfl hq
  exact absurd hq (h e (by simp))

/-- In a history without any `P`, precedence means that there is no `Q` either. -/
theorem precedes_iff_of_forall_not {l : List ε} (h : ∀ e ∈ l, ¬ P e) :
    Precedes P Q l ↔ ∀ e ∈ l, ¬ Q e := by
  refine ⟨fun hl e he hq => ?_, precedes_of_forall_not⟩
  obtain ⟨before, after, rfl⟩ := List.append_of_mem he
  obtain ⟨d, hd, hP⟩ := hl before e after rfl hq
  exact h d (List.mem_append_left _ hd) hP

end Effects
