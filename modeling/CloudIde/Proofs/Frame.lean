import CloudIde.Proofs.Effect

/-!
# What an operation does not touch

An operation writes the tables that it is about, and none but these (`Effect.frame`). So a statement
about one table has to look at the few operations that write it.
-/

namespace CloudIde.Http

open Store

/-- A table of the store. -/
inductive TableName where
  | accounts
  | members
  | plans
  | subscriptions
  | workspaceMembers
  | commands
  deriving DecidableEq

/-- The tables that an operation may write. -/
def Operation.writes : Operation → List TableName
  | createAccount _ => [.accounts, .members]
  | addMember .. => [.members]
  | createPlan _ => [.plans]
  | subscribe _ | unsubscribe _ => [.subscriptions]
  | createCommand .. | updateCommand _ | removeCommand _ => [.commands]
  | addWorkspaceMember .. => [.workspaceMembers]
  | _ => []

/-- Two stores that have the same tables, but for some. -/
structure Frame (written : List TableName) (s t : Store) : Prop where
  accounts : .accounts ∈ written ∨ t.accounts = s.accounts
  members : .members ∈ written ∨ t.members = s.members
  plans : .plans ∈ written ∨ t.plans = s.plans
  subscriptions : .subscriptions ∈ written ∨ t.subscriptions = s.subscriptions
  workspaceMembers : .workspaceMembers ∈ written ∨ t.workspaceMembers = s.workspaceMembers
  commands : .commands ∈ written ∨ t.commands = s.commands

theorem Frame.refl (written : List TableName) (s : Store) : Frame written s s :=
  ⟨.inr rfl, .inr rfl, .inr rfl, .inr rfl, .inr rfl, .inr rfl⟩

variable {ctx : Context} {s : Store} {caller : Caller} {op : Operation} {reply : Reply}

/-- **What an operation is not about is as it was.** -/
theorem Effect.frame (h : Effect ctx s caller op reply) : Frame op.writes s reply.store := by
  have hsame (written : List TableName) := Frame.refl written s
  cases h with
  | looked | refused => exact hsame _
  | accountMade _ _ ht hu =>
    obtain ⟨T, -, rfl⟩ := createAccount_ok ht
    obtain ⟨-, rfl⟩ := addMember_ok hu
    exact { hsame [.accounts, .members] with
      accounts := .inl (.head _), members := .inl (.tail _ (.head _)) }
  | ownerMissing _ _ ht _ =>
    obtain ⟨T, -, rfl⟩ := createAccount_ok ht
    exact { hsame [.accounts, .members] with accounts := .inl (.head _) }
  | memberAdded _ _ _ ht =>
    obtain ⟨-, rfl⟩ := addMember_ok ht
    exact { hsame [.members] with members := .inl (.head _) }
  | planMade _ _ _ _ ht =>
    obtain ⟨T, -, rfl⟩ := createPlan_ok ht
    exact { hsame [.plans] with plans := .inl (.head _) }
  | subscribed _ _ ht =>
    obtain ⟨-, -, T, -, rfl⟩ := insertSubscription_ok (addSubscription_ok ht)
    exact { hsame [.subscriptions] with subscriptions := .inl (.head _) }
  | unsubscribed _ ht _ | unsubscribedQuietly _ ht _ =>
    cases (updateSubscription_ok ht).only
    exact { hsame [.subscriptions] with subscriptions := .inl (.head _) }
  | commandMade _ _ _ _ _ _ _ ht =>
    obtain ⟨T, -, rfl⟩ := createCommand_ok ht
    exact { hsame [.commands] with commands := .inl (.head _) }
  | commandChanged _ ht =>
    obtain ⟨_, _, -, -, rfl⟩ := updateCommand_ok ht
    exact { hsame [.commands] with commands := .inl (.head _) }
  | commandRemoved _ _ _ ht =>
    cases removeCommand_ok ht
    exact { hsame [.commands] with commands := .inl (.head _) }
  | workspaceMemberAdded _ _ _ ht =>
    cases addWorkspaceMember_ok ht
    exact { hsame [.workspaceMembers] with workspaceMembers := .inl (.head _) }

end CloudIde.Http
