import CloudIde.Proofs.Reached
import CloudIde.Proofs.SubscriptionChange

/-!
# Histories

A history is what is asked for over time: requests, in the order in which they are answered, each in
circumstances of its own. It leaves a store, and it makes services take part (`History.calls`). So a
service may behave differently each time it is called.
-/

namespace CloudIde.Http

open Store

/-- Requests in the order in which they are answered, each in its circumstances. -/
abbrev History := List (Context × Request)

namespace History

/-- The store that is left of one. -/
def store (s : Store) (h : History) : Store := s.run (h.map fun e => .request e.1 e.2)

/-- The calls of services on the way. -/
def calls (s : Store) : History → List ServiceCall
  | [] => []
  | (ctx, r) :: rest => (respond ctx s r).calls ++ calls (respond ctx s r).store rest

variable {s : Store} {h : History} {ctx : Context} {r : Request}

@[simp] theorem store_nil : store s [] = s := rfl

@[simp] theorem store_cons : store s ((ctx, r) :: h) = store (respond ctx s r).store h := rfl

theorem store_append (later : History) : store s (h ++ later) = store (store s h) later := by
  unfold store
  rw [List.map_append, run, List.foldl_append]
  rfl

theorem written (hs : Written s) (h : History) : Written (store s h) := written_run hs _

/-- What a history makes of a store that requests have made is one, too. -/
theorem reached {P : Context → Prop} (hs : Reached P s) (h : History) (hP : ∀ e ∈ h, P e.1) :
    Reached P (store s h) := by
  induction h generalizing s with
  | nil => exact hs
  | cons e rest ih =>
    obtain ⟨ctx, r⟩ := e
    refine ih (hs.next ctx (hP _ List.mem_cons_self) r) fun e he => ?_
    exact hP e (List.mem_cons_of_mem _ he)

end History

end CloudIde.Http
