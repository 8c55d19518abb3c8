/-!
# Chains of fallible steps

Operations on the store are chains of steps, each of which may fail, and the first failure ends the
chain. These lemmas take a chain apart (`bind_eq_ok`) and move what is done with its result into it.
-/

namespace CloudIde

variable {ε α β γ : Type}

/-- A chain of two steps succeeds when both do. -/
theorem bind_eq_ok {x : Except ε α} {f : α → Except ε β} {b : β} :
    (x >>= f) = .ok b ↔ ∃ a, x = .ok a ∧ f a = .ok b := by
  cases x with
  | error e => simp [bind, Except.bind]
  | ok a => simp [bind, Except.bind]

/-- A chain of two steps fails where one of them does. -/
theorem bind_eq_error {x : Except ε α} {f : α → Except ε β} {e : ε} :
    (x >>= f) = .error e ↔ x = .error e ∨ ∃ a, x = .ok a ∧ f a = .error e := by
  cases x with
  | error d => simp [bind, Except.bind]
  | ok a => simp [bind, Except.bind]

@[simp] theorem ok_bind (a : α) (f : α → Except ε β) :
    ((Except.ok a : Except ε α) >>= f) = f a := rfl

@[simp] theorem error_bind (e : ε) (f : α → Except ε β) :
    ((Except.error e : Except ε α) >>= f) = .error e := rfl

@[simp] theorem map_ok (f : α → β) (a : α) : (Except.ok a : Except ε α).map f = .ok (f a) := rfl

@[simp] theorem map_error (f : α → β) (e : ε) :
    (Except.error e : Except ε α).map f = .error e := rfl

@[simp] theorem mapError_ok (f : ε → β) (a : α) :
    (Except.ok a : Except ε α).mapError f = .ok a := rfl

@[simp] theorem mapError_error (f : ε → β) (e : ε) :
    (Except.error e : Except ε α).mapError f = .error (f e) := rfl

theorem map_bind (x : Except ε α) (g : α → Except ε β) (f : β → γ) :
    (x >>= g).map f = x >>= fun a => (g a).map f := by
  cases x <;> rfl

theorem map_eq_ok {x : Except ε α} {f : α → β} {b : β} :
    x.map f = .ok b ↔ ∃ a, x = .ok a ∧ f a = b := by
  cases x with
  | error e => simp
  | ok a => simp

theorem map_eq_error {x : Except ε α} {f : α → β} {e : ε} :
    x.map f = .error e ↔ x = .error e := by
  cases x with
  | error d => simp
  | ok a => simp

theorem mapError_eq_error {x : Except ε α} {f : ε → β} {b : β} :
    x.mapError f = .error b ↔ ∃ e, x = .error e ∧ f e = b := by
  cases x with
  | error e => simp
  | ok a => simp

theorem mapError_eq_ok {x : Except ε α} {f : ε → β} {a : α} :
    x.mapError f = .ok a ↔ x = .ok a := by
  cases x with
  | error e => simp
  | ok a => simp

/-- Chains are the same when they begin with the same step and go on in the same way. -/
theorem bind_eq_bind {x y : Except ε α} {f g : α → Except ε β} (h : x = y)
    (hf : ∀ a, x = .ok a → f a = g a) : (x >>= f) = (y >>= g) := by
  subst h
  cases x with
  | ok a => exact hf a rfl
  | error e => rfl

/-- Whatever a step fails with is of some kind. -/
def FailsWith (Q : ε → Prop) (x : Except ε α) : Prop := ∀ e, x = .error e → Q e

section

variable {Q : ε → Prop} {x : Except ε α}

theorem FailsWith.ok (a : α) : FailsWith Q (Except.ok a : Except ε α) := by
  intro e h
  exact absurd h (by simp)

theorem FailsWith.error {e : ε} (h : Q e) : FailsWith Q (Except.error e : Except ε α) := by
  rintro _ ⟨rfl⟩
  exact h

theorem FailsWith.mono {R : ε → Prop} (h : FailsWith R x) (hR : ∀ e, R e → Q e) : FailsWith Q x :=
  fun e he => hR e (h e he)

/-- A chain fails with what one of its steps fails with. -/
theorem FailsWith.bind {f : α → Except ε β} (h : FailsWith Q x)
    (hf : ∀ a, x = .ok a → FailsWith Q (f a)) : FailsWith Q (x >>= f) := by
  cases x with
  | error e => exact .error (h e rfl)
  | ok a => exact hf a rfl

end

/-- Two fallible steps match when both fail with the same failure, or both succeed with related
results. -/
inductive Matches (R : α → β → Prop) : Except ε α → Except ε β → Prop
  | ok {a : α} {b : β} (h : R a b) : Matches R (.ok a) (.ok b)
  | error (e : ε) : Matches R (.error e) (.error e)

theorem Matches.refl {R : α → α → Prop} (hR : ∀ a, R a a) (x : Except ε α) : Matches R x x := by
  cases x with
  | ok a => exact .ok (hR a)
  | error e => exact .error e

theorem Matches.eq {x y : Except ε α} (h : Matches Eq x y) : x = y := by
  cases h with
  | ok h => rw [h]
  | error e => rfl

theorem Matches.bind {δ : Type} {R : α → β → Prop} {S : γ → δ → Prop} {x : Except ε α}
    {y : Except ε β} {f : α → Except ε γ} {g : β → Except ε δ} (h : Matches R x y)
    (hf : ∀ a b, R a b → Matches S (f a) (g b)) : Matches S (x >>= f) (y >>= g) := by
  cases h with
  | ok h => exact hf _ _ h
  | error e => exact .error e

theorem Matches.mono {R S : α → β → Prop} {x : Except ε α} {y : Except ε β} (h : Matches R x y)
    (hRS : ∀ a b, R a b → S a b) : Matches S x y := by
  cases h with
  | ok h => exact .ok (hRS _ _ h)
  | error e => exact .error e

/-- Steps that match are related in whatever else their results are. -/
theorem Matches.and {R S : α → β → Prop} {x : Except ε α} {y : Except ε β} (h : Matches R x y)
    (hS : ∀ a b, x = .ok a → y = .ok b → S a b) : Matches (fun a b => R a b ∧ S a b) x y := by
  cases h with
  | ok h => exact .ok ⟨h, hS _ _ rfl rfl⟩
  | error e => exact .error e

/-- Chains that begin with the same step match when what follows it does. -/
theorem bind_matches {δ : Type} {S : γ → δ → Prop} {x y : Except ε α} {f : α → Except ε γ}
    {g : α → Except ε δ} (h : x = y) (hf : ∀ a, x = .ok a → Matches S (f a) (g a)) :
    Matches S (x >>= f) (y >>= g) := by
  subst h
  cases x with
  | ok a => exact hf a rfl
  | error e => exact .error e

/-- Whatever one step succeeds with, the other succeeds with something related. -/
def Covers (R : α → β → Prop) (x : Except ε α) (y : Except ε β) : Prop :=
  ∀ a, x = .ok a → ∃ b, y = .ok b ∧ R a b

section

variable {R : α → β → Prop} {x : Except ε α} {y : Except ε β}

theorem Covers.ok {a : α} {b : β} (h : R a b) :
    Covers R (.ok a : Except ε α) (.ok b : Except ε β) := by
  rintro _ ⟨rfl⟩
  exact ⟨b, rfl, h⟩

theorem Covers.error (e : ε) : Covers R (.error e) y := by
  intro a h
  exact absurd h (by simp)

theorem Covers.refl {R : α → α → Prop} (hR : ∀ a, R a a) (x : Except ε α) : Covers R x x :=
  fun a h => ⟨a, h, hR a⟩

theorem Covers.bind {δ : Type} {S : γ → δ → Prop} {f : α → Except ε γ} {g : β → Except ε δ}
    (h : Covers R x y) (hf : ∀ a b, R a b → Covers S (f a) (g b)) :
    Covers S (x >>= f) (y >>= g) := by
  intro c hc
  obtain ⟨a, ha, hc⟩ := bind_eq_ok.1 hc
  obtain ⟨b, hb, hab⟩ := h a ha
  obtain ⟨d, hd, hcd⟩ := hf a b hab c hc
  exact ⟨d, bind_eq_ok.2 ⟨b, hb, hd⟩, hcd⟩

end

/-- A chain covers one that begins with the same step when what follows it does. -/
theorem bind_covers {δ : Type} {S : γ → δ → Prop} {x : Except ε α} {f : α → Except ε γ}
    {g : α → Except ε δ} (hf : ∀ a, x = .ok a → Covers S (f a) (g a)) :
    Covers S (x >>= f) (x >>= g) := by
  intro c hc
  obtain ⟨a, ha, hc⟩ := bind_eq_ok.1 hc
  obtain ⟨d, hd, hcd⟩ := hf a ha c hc
  exact ⟨d, bind_eq_ok.2 ⟨a, ha, hd⟩, hcd⟩

end CloudIde
