import QueueForge.Security.AuthGuard

/-! `PermissionChecker.hasPermission`: what a context may do, by its own permissions and by its
roles. A role the table does not know may read, and nothing else. How the language turns a text
into upper case is a parameter.
-/

namespace QueueForge.Security

open QueueForge.Js

/-- Supported authorization role classifications within QueueForge. -/
inductive Role where
  | ADMIN
  | DEVELOPER
  | SERVICE
  | VIEWER
deriving DecidableEq, Repr

/-- Fine-grained system permissions governing API endpoints and domain capabilities. -/
inductive Permission where
  | READ
  | WRITE
  | DELETE
  | ADMIN
  | VIEW_LOGS
  | MANAGE_USERS
deriving DecidableEq, Repr

namespace Role

def text : Role → String
  | ADMIN => "ADMIN"
  | DEVELOPER => "DEVELOPER"
  | SERVICE => "SERVICE"
  | VIEWER => "VIEWER"

/-- `Object.values(Role)`. -/
def values : List Role :=
  [ADMIN, DEVELOPER, SERVICE, VIEWER]

/-- Role-to-permission mapping dictionary. -/
def permissions : Role → List Permission
  | ADMIN => [.READ, .WRITE, .DELETE, .ADMIN, .VIEW_LOGS, .MANAGE_USERS]
  | DEVELOPER => [.READ, .WRITE, .DELETE, .VIEW_LOGS]
  | SERVICE => [.READ, .WRITE]
  | VIEWER => [.READ]

theorem mem_values (role : Role) : role ∈ values := by
  cases role <;> decide

theorem text_inj {role other : Role} (same : role.text = other.text) : role = other := by
  revert same
  cases role <;> cases other <;> decide

end Role

namespace Permission

def text : Permission → String
  | READ => "READ"
  | WRITE => "WRITE"
  | DELETE => "DELETE"
  | ADMIN => "ADMIN"
  | VIEW_LOGS => "VIEW_LOGS"
  | MANAGE_USERS => "MANAGE_USERS"

/-- `Object.values(Permission)`. -/
def values : List Permission :=
  [READ, WRITE, DELETE, ADMIN, VIEW_LOGS, MANAGE_USERS]

end Permission

section
variable (upperCase : String → String)

/-- The entry of the dictionary for a name in upper case. No name that every object has is in
upper case.
-/
def roleOf (normalized : String) : Option Role :=
  Role.values.find? (fun role => role.text = normalized)

/-- Evaluates and returns the full list of permissions assigned to a given Role. -/
def getRolePermissions (role : String) : List Permission :=
  ((roleOf (upperCase role)).map Role.permissions).getD [.READ]

/-- Asserts whether the authenticated context possesses a specific permission. -/
def AuthContext.hasPermission (context : AuthContext) (permission : String) : Bool :=
  if !context.authenticated || permission = "" then
    false
  else
    let target := upperCase permission
    context.permissions.contains target || context.permissions.contains "*"
      || context.roles.contains "ADMIN"

/-- Asserts whether a context has permission directly or through role mappings. -/
def PermissionChecker.hasPermission (context : AuthContext) (permission : String) : Bool :=
  if !context.authenticated then
    false
  else
    let permStr := upperCase permission
    if context.hasPermission upperCase permStr then
      true
    else
      context.roles.any (fun roleStr =>
        (getRolePermissions upperCase roleStr).any (fun p => upperCase p.text = permStr))

/-- Asserts whether a role string is a recognized Role enum value. -/
def validateRole (role : String) : Bool :=
  decide (role ≠ "") && (Role.values.map Role.text).contains (upperCase role)

/-- Asserts whether a permission string is a recognized Permission enum value. -/
def validatePermission (permission : String) : Bool :=
  decide (permission ≠ "")
    && (Permission.values.map Permission.text).contains (upperCase permission)

/-- Asserts whether a given permission is granted to a target role. -/
def validateRolePermissionMapping (role permission : String) : Bool :=
  if !validateRole upperCase role || !validatePermission upperCase permission then
    false
  else
    ((getRolePermissions upperCase role).map Permission.text).contains (upperCase permission)

variable {upperCase : String → String}

theorem roleOf_eq_some {normalized : String} {role : Role}
    : roleOf normalized = some role ↔ normalized = role.text := by
  constructor
  · intro found
    have matched := List.find?_some found
    exact (of_decide_eq_true matched).symm
  · rintro rfl
    cases role <;> decide

/-- A text that names no role, in upper case. -/
def Unrecognized (upperCase : String → String) (roleStr : String) : Prop :=
  ∀ role : Role, upperCase roleStr ≠ role.text

theorem roleOf_eq_none {roleStr : String}
    : roleOf (upperCase roleStr) = none ↔ Unrecognized upperCase roleStr := by
  rw [Option.eq_none_iff_forall_ne_some]
  exact forall_congr' (fun role => not_congr roleOf_eq_some)

/-- A role gives what the dictionary has for it, and an unrecognized one gives to read. -/
theorem mem_getRolePermissions {roleStr : String} {permission : Permission}
    : permission ∈ getRolePermissions upperCase roleStr
      ↔ (∃ role : Role, upperCase roleStr = role.text ∧ permission ∈ role.permissions)
        ∨ Unrecognized upperCase roleStr ∧ permission = .READ := by
  unfold getRolePermissions
  cases found : roleOf (upperCase roleStr) with
  | none =>
      have unrecognized := roleOf_eq_none.mp found
      simp only [Option.map_none, Option.getD_none, List.mem_singleton]
      constructor
      · exact fun same => Or.inr ⟨unrecognized, same⟩
      · rintro (⟨role, named, _⟩ | ⟨_, same⟩)
        · exact absurd named (unrecognized role)
        · exact same
  | some role =>
      have named := roleOf_eq_some.mp found
      simp only [Option.map_some, Option.getD_some]
      constructor
      · exact fun mem => Or.inl ⟨role, named, mem⟩
      · rintro (⟨other, otherNamed, mem⟩ | ⟨unrecognized, _⟩)
        · obtain rfl := Role.text_inj (named.symm.trans otherNamed)
          exact mem
        · exact absurd named (unrecognized role)

/-- The context's own rule: the permission itself, its wildcard, or the role of administrators.
-/
def AuthContext.GrantsDirectly (upperCase : String → String) (context : AuthContext)
    (permission : String)
    : Prop :=
  permission ≠ ""
  ∧ (upperCase permission ∈ context.permissions ∨ "*" ∈ context.permissions
    ∨ "ADMIN" ∈ context.roles)

theorem AuthContext.hasPermission_iff {context : AuthContext} {permission : String}
    : context.hasPermission upperCase permission = true
      ↔ context.authenticated = true ∧ context.GrantsDirectly upperCase permission := by
  unfold hasPermission GrantsDirectly
  by_cases authenticated : context.authenticated = true <;> by_cases empty : permission = "" <;>
    simp [authenticated, empty, or_assoc]

/-- What grants a permission: the context itself, a role of the dictionary, or, for reading, a
role that is not recognized.
-/
theorem PermissionChecker.granted_iff {context : AuthContext} {permission : String}
    : hasPermission upperCase context permission = true
      ↔ context.authenticated = true
        ∧ (context.GrantsDirectly upperCase (upperCase permission)
          ∨ ∃ roleStr ∈ context.roles,
              (∃ role : Role, upperCase roleStr = role.text
                ∧ ∃ granted ∈ role.permissions, upperCase granted.text = upperCase permission)
              ∨ Unrecognized upperCase roleStr
                ∧ upperCase Permission.READ.text = upperCase permission) := by
  have roles (roleStr : String)
      : (getRolePermissions upperCase roleStr).any
            (fun p => upperCase p.text = upperCase permission)
          = true
        ↔ (∃ role : Role, upperCase roleStr = role.text
            ∧ ∃ granted ∈ role.permissions, upperCase granted.text = upperCase permission)
          ∨ Unrecognized upperCase roleStr
            ∧ upperCase Permission.READ.text = upperCase permission := by
    simp only [List.any_eq_true, decide_eq_true_eq, mem_getRolePermissions]
    constructor
    · rintro ⟨granted, ⟨role, named, mem⟩ | ⟨unrecognized, rfl⟩, same⟩
      · exact Or.inl ⟨role, named, granted, mem, same⟩
      · exact Or.inr ⟨unrecognized, same⟩
    · rintro (⟨role, named, granted, mem, same⟩ | ⟨unrecognized, same⟩)
      · exact ⟨granted, Or.inl ⟨role, named, mem⟩, same⟩
      · exact ⟨.READ, Or.inr ⟨unrecognized, rfl⟩, same⟩
  unfold hasPermission
  split
  · next unauthenticated =>
    simp only [Bool.not_eq_true'] at unauthenticated
    simp [unauthenticated]
  · next authenticated =>
    simp only [Bool.not_eq_true', Bool.not_eq_false] at authenticated
    dsimp only
    rw [and_iff_right authenticated]
    split
    · next direct =>
      exact iff_of_true rfl (Or.inl (AuthContext.hasPermission_iff.mp direct).2)
    · next indirect =>
      have notDirect : ¬context.GrantsDirectly upperCase (upperCase permission) :=
        fun direct => indirect (AuthContext.hasPermission_iff.mpr ⟨authenticated, direct⟩)
      rw [List.any_eq_true, or_iff_right notDirect]
      exact exists_congr (fun roleStr => and_congr_right (fun _ => roles roleStr))

theorem validateRole_iff {roleStr : String}
    : validateRole upperCase roleStr = true
      ↔ roleStr ≠ "" ∧ ∃ role : Role, upperCase roleStr = role.text := by
  simp only [validateRole, Bool.and_eq_true, decide_eq_true_eq, List.contains_iff_mem,
    List.mem_map]
  refine and_congr_right (fun _ => exists_congr (fun role => ?_))
  rw [and_iff_right role.mem_values, eq_comm]

theorem validatePermission_iff {permission : String}
    : validatePermission upperCase permission = true
      ↔ permission ≠ "" ∧ ∃ named : Permission, named.text = upperCase permission := by
  simp only [validatePermission, Bool.and_eq_true, decide_eq_true_eq, List.contains_iff_mem,
    List.mem_map]
  refine and_congr_right (fun _ => exists_congr (fun named => and_iff_right ?_))
  cases named <;> decide

/-- The validator's mapping asks for a recognized role first, so that no other grants anything.
-/
theorem validateRolePermissionMapping_iff {roleStr permission : String}
    : validateRolePermissionMapping upperCase roleStr permission = true
      ↔ roleStr ≠ "" ∧ permission ≠ ""
        ∧ ∃ role : Role, upperCase roleStr = role.text
            ∧ ∃ granted ∈ role.permissions, granted.text = upperCase permission := by
  unfold validateRolePermissionMapping
  split
  · next refused =>
    rw [Bool.or_eq_true_iff, Bool.not_eq_true', Bool.not_eq_true', ← Bool.not_eq_true,
      ← Bool.not_eq_true, validateRole_iff, validatePermission_iff] at refused
    refine iff_of_false Bool.false_ne_true ?_
    rintro ⟨filled, given, role, named, granted, _, same⟩
    exact refused.elim (absurd ⟨filled, role, named⟩) (absurd ⟨given, granted, same⟩)
  · next valid =>
    rw [Bool.or_eq_true_iff, Bool.not_eq_true', Bool.not_eq_true', not_or, Bool.not_eq_false,
      Bool.not_eq_false, validateRole_iff, validatePermission_iff] at valid
    obtain ⟨⟨filled, role, named⟩, given, _⟩ := valid
    rw [and_iff_right filled, and_iff_right given]
    simp only [List.contains_iff_mem, List.mem_map, mem_getRolePermissions]
    constructor
    · rintro ⟨granted, ⟨other, otherNamed, mem⟩ | ⟨unrecognized, _⟩, same⟩
      · exact ⟨other, otherNamed, granted, mem, same⟩
      · exact absurd named (unrecognized role)
    · rintro ⟨other, otherNamed, granted, mem, same⟩
      exact ⟨granted, Or.inl ⟨other, otherNamed, mem⟩, same⟩

end

/-- A user, whose role is the default of a token and none of the dictionary. -/
def userContext : AuthContext where
  userId := some (.string "user-1")
  apiKeyId := none
  principal := ⟨.string "user-1", .texts [], "User"⟩
  roles := ["USER"]
  permissions := []
  scopes := .texts []
  type := "jwt"
  authenticated := true
  authenticatedAt := some 0
  tokenExpiry := none

/-- A role that is not recognized may read. -/
theorem unrecognized_role_reads
    : ¬∀ (context : AuthContext) (permission : String),
        context.authenticated = true
        → PermissionChecker.hasPermission toUpperCase context permission = true
        → context.GrantsDirectly toUpperCase (toUpperCase permission)
          ∨ ∃ roleStr ∈ context.roles, ∃ role : Role, toUpperCase roleStr = role.text
              ∧ ∃ granted ∈ role.permissions,
                  toUpperCase granted.text = toUpperCase permission := by
  intro lawful
  have reads := lawful userContext "READ" rfl (by decide +kernel)
  rcases reads with direct | ⟨roleStr, mem, role, named, _⟩
  · have granted : ¬userContext.GrantsDirectly toUpperCase (toUpperCase "READ") := by
      simp [AuthContext.GrantsDirectly, userContext]
    exact granted direct
  · obtain rfl := List.mem_singleton.mp mem
    have unrecognized : ∀ role ∈ Role.values, toUpperCase "USER" ≠ role.text := by decide +kernel
    exact unrecognized role role.mem_values named

end QueueForge.Security
