/-!
# Roles

A role is a name. Some roles are held everywhere (**global** roles, sent with a request), others
only in one account or workspace (**scoped** roles, stored with a membership). Any name can be held;
the names below are the ones the service asks for.
-/

namespace CloudIde

namespace Role

/-- Any registered user. -/
def user : String := "user"
/-- An administrator of the platform. -/
def systemAdmin : String := "system/admin"
/-- A manager of the platform. -/
def systemManager : String := "system/manager"
/-- The owner of an account. -/
def accountOwner : String := "account/owner"
/-- A member of an account. -/
def accountMember : String := "account/member"
/-- An administrator of a workspace. -/
def workspaceAdmin : String := "workspace/admin"
/-- A developer in a workspace. -/
def workspaceDeveloper : String := "workspace/developer"

/-- The roles of which everybody known to the platform holds one. -/
def platform : List String := [user, systemAdmin, systemManager]

/-- The roles that a membership in an account can give. -/
def account : List String := [accountOwner, accountMember]

/-- The roles that a membership in a workspace can give. -/
def workspace : List String := [workspaceAdmin, workspaceDeveloper]

end Role

/-- A set of roles, as the ascending list of their names. -/
structure RoleSet where
  names : List String
  ascending : names.Pairwise (· < ·)
  deriving DecidableEq

namespace RoleSet

/-- The set without roles. -/
def empty : RoleSet := ⟨[], .nil⟩

instance : Inhabited RoleSet := ⟨empty⟩

instance : Membership String RoleSet where
  mem roles role := role ∈ roles.names

instance (role : String) (roles : RoleSet) : Decidable (role ∈ roles) :=
  inferInstanceAs (Decidable (role ∈ roles.names))

/-- A name put into its place, unless it is there. -/
def insertName (name : String) : List String → List String
  | [] => [name]
  | other :: rest =>
    if name < other then name :: other :: rest
    else if other < name then other :: insertName name rest
    else other :: rest

theorem mem_insertName {a name : String} {names : List String} :
    a ∈ insertName name names ↔ a = name ∨ a ∈ names := by
  induction names with
  | nil => simp [insertName]
  | cons other rest ih =>
    simp only [insertName]
    split
    · simp
    · split
      · simp only [List.mem_cons, ih]
        exact ⟨fun h => by rcases h with h | h | h <;> simp [h],
          fun h => by rcases h with h | h | h <;> simp [h]⟩
      · next notBelow notAbove =>
        have same : name = other :=
          String.le_antisymm (String.not_lt.1 notAbove) (String.not_lt.1 notBelow)
        simp [same]

theorem insertName_ascending {name : String} {names : List String}
    (h : names.Pairwise (· < ·)) : (insertName name names).Pairwise (· < ·) := by
  induction names with
  | nil => simp [insertName]
  | cons other rest ih =>
    have ⟨first, tail⟩ := List.pairwise_cons.1 h
    simp only [insertName]
    split
    · next below =>
      refine List.pairwise_cons.2 ⟨fun a ha => ?_, h⟩
      rcases List.mem_cons.1 ha with rfl | ha
      · exact below
      · exact String.lt_trans below (first a ha)
    · split
      · next above =>
        refine List.pairwise_cons.2 ⟨fun a ha => ?_, ih tail⟩
        rcases mem_insertName.1 ha with rfl | ha
        · exact above
        · exact first a ha
      · exact h

/-- The set with one role more. -/
def insert (roles : RoleSet) (name : String) : RoleSet :=
  ⟨insertName name roles.names, insertName_ascending roles.ascending⟩

/-- The set of the roles of a list. -/
def ofList (names : List String) : RoleSet :=
  names.foldr (fun name roles => roles.insert name) empty

theorem mem_insert {a name : String} {roles : RoleSet} :
    a ∈ roles.insert name ↔ a = name ∨ a ∈ roles := mem_insertName

@[simp] theorem mem_ofList {a : String} {names : List String} :
    a ∈ ofList names ↔ a ∈ names := by
  induction names with
  | nil => exact ⟨(nomatch ·), (nomatch ·)⟩
  | cons name rest ih =>
    rw [List.mem_cons, ← ih]
    exact mem_insert

@[simp] theorem not_mem_empty {a : String} : ¬ a ∈ empty := fun h => nomatch h

end RoleSet

end CloudIde
