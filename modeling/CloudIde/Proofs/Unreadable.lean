import CloudIde.Proofs.Operation

/-!
# Parts of requests that cannot be read

Before anything is asked for, a request is read part by part: the parameter of its path, a field of
its query, its body. What cannot be read is rejected with a plain text that says so
(`wanted_rejects`), whatever is stored.
-/

namespace CloudIde.Http

/-- A plain text that reports an error. -/
def Rejection (response : Response) : Prop :=
  ∃ status text, response = .plain status text ∧ 400 ≤ status

theorem rejection_plain {status : Nat} {text : String} (h : 400 ≤ status) :
    Rejection (.plain status text) := ⟨status, text, rfl, h⟩

theorem Rejection.status_ge {response : Response} (h : Rejection response) :
    400 ≤ response.status := by
  obtain ⟨status, text, rfl, hstatus⟩ := h
  exact hstatus

theorem parameter_rejects (name raw : String) :
    FailsWith Rejection (Request.parameter name raw) := by
  unfold Request.parameter
  split
  · exact .ok _
  · exact .error (rejection_plain (by decide))

section

variable (r : Request)

theorem field_rejects (name : String) : FailsWith Rejection (r.field name) := by
  unfold Request.field
  simp only
  split
  · exact .ok _
  · exact .ok _
  · exact .error (rejection_plain (by decide))

theorem content_rejects : FailsWith Rejection r.content := by
  unfold Request.content
  split
  · exact .error (rejection_plain (by decide))
  · exact .ok _

theorem value_rejects (α : Type) [Wire α] : FailsWith Rejection (r.value α) := by
  unfold Request.value
  split
  · refine (content_rejects r).bind fun body _ => ?_
    cases Wire.parseFront α body with
    | ok a => exact .ok a
    | error problem =>
      refine .error ?_
      unfold Request.bodyProblem
      split
      · exact rejection_plain (by decide)
      · exact rejection_plain (by decide)
  · exact .error (rejection_plain (by decide))

/-- **What a request asks for is read, or the request is rejected.** -/
theorem wanted_rejects {resource : Resource} (h : resource ≠ .health) (method : Method) :
    FailsWith Rejection (r.wanted resource method) := by
  cases resource with
  | health => exact absurd rfl h
  | accounts => exact (value_rejects r NewAccount).bind fun _ _ => .ok _
  | plans =>
    cases method with
    | post => exact (value_rejects r Plan).bind fun _ _ => .ok _
    | _ => exact .ok _
  | subscriptions | commands => exact (content_rejects r).bind fun _ _ => .ok _
  | plan | account | workspaceCommands => exact (parameter_rejects _ _).bind fun _ _ => .ok _
  | subscription => cases method <;> exact (parameter_rejects _ _).bind fun _ _ => .ok _
  | members =>
    cases method with
    | post =>
      exact (parameter_rejects _ _).bind fun _ _ =>
        (value_rejects r NewMember).bind fun _ _ => .ok _
    | _ => exact (parameter_rejects _ _).bind fun _ _ => .ok _
  | accountSubscriptions | resources =>
    exact (parameter_rejects _ _).bind fun _ _ => (field_rejects r _).bind fun _ _ => .ok _
  | command =>
    cases method with
    | post =>
      exact (parameter_rejects _ _).bind fun _ _ => (content_rejects r).bind fun _ _ => .ok _
    | _ => exact (parameter_rejects _ _).bind fun _ _ => .ok _
  | workspaceMembers =>
    cases method with
    | post =>
      exact (parameter_rejects _ _).bind fun _ _ =>
        (value_rejects r NewWorkspaceMember).bind fun _ _ => .ok _
    | _ => exact (parameter_rejects _ _).bind fun _ _ => .ok _

end

end CloudIde.Http
