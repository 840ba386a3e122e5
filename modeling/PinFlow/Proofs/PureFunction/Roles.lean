import Mathlib.Data.List.Forall2
import PinFlow.PureFunction

set_option autoImplicit false

/-!
# References to roles

A role is referred to by a bare identifier or by an object that holds it, and a number is the
identifier that its numeral spells. Whether a member has a role does not depend on how the role and
the roles of the member are written, as long as no object holds its identifier as a number: such an
object is the same as others of its kind only.
-/

namespace PinFlow.PureFunction

def bareId? : Value → Option String
  | .string s => some s
  | .number n => some n.text
  | _ => none

def denoted? : Value → Option String
  | .object fields => (Fields.get? fields "id").bind bareId?
  | v => bareId? v

/-- The reference is an object that holds its identifier as a number. -/
def Numbered (v : Value) : Prop :=
  ∃ fields n, v = .object fields ∧ Fields.get? fields "id" = some (.number n)

/-- A bare identifier is put into an object or taken out of it, or nothing is changed. -/
inductive Respelled : Value → Value → Prop
  | same (v : Value) : Respelled v v
  | wrapped {v : Value} {id : String} (h : bareId? v = some id) :
    Respelled v (.object [("id", v)])
  | bare {v : Value} {id : String} (h : bareId? v = some id) :
    Respelled (.object [("id", v)]) v

def AsksRole (inputs : Fields Value) (roles : List Value) (role : Value) : Prop :=
  inputs.get? "role" = some role ∧
    ∃ member, inputs.get? "member" = some member ∧ member.field? "roles" = some (.array roles)

variable {inputs : Fields Value} {roles : List Value} {role v w : Value} {id : String}

theorem denoted?_of_bareId? (h : bareId? v = some id) : denoted? v = some id := by
  cases v with
  | object fields => cases h
  | _ => exact h

theorem Respelled.denoted?_eq (h : Respelled v w) : denoted? w = denoted? v := by
  cases h with
  | same => rfl
  | wrapped h => exact h.trans (denoted?_of_bareId? h).symm
  | bare h => exact (denoted?_of_bareId? h).trans h.symm

theorem same_string_iff (v : Value) (s : String) : v.same (.string s) = true ↔ v = .string s := by
  cases v <;> simp [Value.same]

theorem not_numbered_of_bareId? (h : bareId? v = some id) : ¬ Numbered v := by
  rintro ⟨fields, n, rfl, -⟩
  cases h

theorem idOf?_object (fields : List (String × Value)) :
    idOf? (some (.object fields)) = (Fields.get? fields "id").filter fun v => !v.isNull := by
  simp only [idOf?, firstField?, List.findSome?_cons, List.findSome?_nil]
  cases (Fields.get? fields "id").filter fun v => !v.isNull <;> rfl

theorem idOf?_eq_string_iff (v : Value) (id : String) :
    idOf? (some v) = some (.string id) ↔ denoted? v = some id ∧ ¬ Numbered v := by
  cases v with
  | object fields =>
    rw [idOf?_object, denoted?]
    cases hid : Fields.get? fields "id" with
    | none => simp
    | some held =>
      have hnumbered : Numbered (.object fields) ↔ ∃ n, held = .number n := by
        simp [Numbered, hid]
      rw [hnumbered]
      cases held <;> simp [bareId?, Value.isNull]
  | string s =>
    have hplain := not_numbered_of_bareId? (v := .string s) rfl
    simp [idOf?, denoted?, bareId?, hplain]
  | number n =>
    have hplain := not_numbered_of_bareId? (v := .number n) rfl
    simp [idOf?, denoted?, bareId?, hplain]
  | _ => simp [idOf?, firstField?, denoted?, bareId?]

theorem hasRole_string_iff {member : Value} (h : member.field? "roles" = some (.array roles))
    (id : String) :
    hasRole member (.string id) = true ↔
      ∃ entry ∈ roles, denoted? entry = some id ∧ ¬ Numbered entry := by
  rw [hasRole, h]
  simp only [List.any_eq_true, List.mem_filterMap, same_string_iff, ← idOf?_eq_string_iff]
  constructor
  · rintro ⟨_, ⟨entry, hentry, hid⟩, rfl⟩
    exact ⟨entry, hentry, hid⟩
  · rintro ⟨entry, hentry, hid⟩
    exact ⟨_, ⟨entry, hentry, hid⟩, rfl⟩

theorem evaluate_memberHasRole (h : AsksRole inputs roles role) (hid : denoted? role = some id)
    (hrole : ¬ Numbered role)
    (hroles : ∀ entry ∈ roles, denoted? entry = some id → ¬ Numbered entry) (draw : Nat) :
    evaluate .memberHasRole inputs draw =
      some (.bool (roles.any fun entry => decide (denoted? entry = some id))) := by
  obtain ⟨hinput, member, hmember, hlist⟩ := h
  have hfound : idOf? (some role) = some (.string id) :=
    (idOf?_eq_string_iff role id).2 ⟨hid, hrole⟩
  have hanswer : hasRole member (.string id) =
      roles.any fun entry => decide (denoted? entry = some id) := by
    rw [Bool.eq_iff_iff, hasRole_string_iff hlist, List.any_eq_true]
    constructor
    · rintro ⟨entry, hentry, hdenoted, -⟩
      exact ⟨entry, hentry, decide_eq_true hdenoted⟩
    · rintro ⟨entry, hentry, hdenoted⟩
      have hdenoted := of_decide_eq_true hdenoted
      exact ⟨entry, hentry, hdenoted, hroles entry hentry hdenoted⟩
  simp only [evaluate, hinput, hmember, hfound]
  exact congrArg (fun answer => some (Value.bool answer)) hanswer

theorem any_denoted_of_respelled {roles roles' : List Value}
    (h : List.Forall₂ Respelled roles roles') (id : String) :
    (roles'.any fun entry => decide (denoted? entry = some id)) =
      roles.any fun entry => decide (denoted? entry = some id) := by
  induction h with
  | nil => rfl
  | cons hfirst _ ih => rw [List.any_cons, List.any_cons, hfirst.denoted?_eq, ih]

/-- As long as no object holds the identifier as a number, a member has a role exactly if one of its
    roles denotes the same identifier, and it does not matter how any of them is written. -/
theorem hasRole_by_denoted_id {inputs : Fields Value} {roles : List Value} {role : Value}
    {id : String} (h : AsksRole inputs roles role) (hid : denoted? role = some id)
    (hrole : ¬ Numbered role)
    (hroles : ∀ entry ∈ roles, denoted? entry = some id → ¬ Numbered entry) (draw : Nat) :
    evaluate .memberHasRole inputs draw =
        some (.bool (roles.any fun entry => decide (denoted? entry = some id))) ∧
      ∀ inputs' roles' role' draw', AsksRole inputs' roles' role' → Respelled role role' →
        List.Forall₂ Respelled roles roles' → ¬ Numbered role' →
        (∀ entry ∈ roles', denoted? entry = some id → ¬ Numbered entry) →
          evaluate .memberHasRole inputs' draw' = evaluate .memberHasRole inputs draw := by
  refine ⟨evaluate_memberHasRole h hid hrole hroles draw, ?_⟩
  intro inputs' roles' role' draw' h' hrespelled hlist hrole' hroles'
  rw [evaluate_memberHasRole h hid hrole hroles,
    evaluate_memberHasRole h' (hrespelled.denoted?_eq.trans hid) hrole' hroles',
    any_denoted_of_respelled hlist]

-- A number meets its numeral in either spelling.
def mixedRoles : List Value := [.null, .object [("id", .string "7")], .string "42"]

def evenRoles : List Value := [.null, .string "7", .object [("id", .string "42")]]

def roleInputs (roles : List Value) : Fields Value :=
  [("member", .object [("roles", .array roles)]), ("role", .int 42)]

theorem hasRole_by_denoted_id_mixed :
    denoted? (.int 42) = some "42" ∧ ¬ Numbered (.int 42) ∧
      List.Forall₂ Respelled mixedRoles evenRoles ∧
      evaluate .memberHasRole (roleInputs mixedRoles) 0 = some (.bool true) ∧
      evaluate .memberHasRole (roleInputs evenRoles) 0 = some (.bool true) := by
  have hid : denoted? (.int 42) = some "42" := rfl
  have hrole : ¬ Numbered (.int 42) :=
    not_numbered_of_bareId? (show bareId? (.int 42) = some "42" from rfl)
  have hmixed : ∀ entry ∈ mixedRoles, denoted? entry = some "42" → ¬ Numbered entry := by
    simp [mixedRoles, Numbered, Fields.get?]
  have heven : ∀ entry ∈ evenRoles, denoted? entry = some "42" → ¬ Numbered entry := by
    simp [evenRoles, Numbered, Fields.get?]
  have hrespelled : List.Forall₂ Respelled mixedRoles evenRoles :=
    .cons (.same _) (.cons (.bare (show bareId? (.string "7") = some "7" from rfl))
      (.cons (.wrapped (show bareId? (.string "42") = some "42" from rfl)) .nil))
  have hasks (roles : List Value) : AsksRole (roleInputs roles) roles (.int 42) :=
    ⟨rfl, _, rfl, rfl⟩
  obtain ⟨hanswer, hsame⟩ := hasRole_by_denoted_id (hasks mixedRoles) hid hrole hmixed 0
  refine ⟨hid, hrole, hrespelled, hanswer, ?_⟩
  exact (hsame _ _ _ 0 (hasks evenRoles) (.same _) hrespelled hrole heven).trans hanswer

/-- A number in an object is not the identifier that it is bare. -/
theorem hasRole_by_number_in_object :
    denoted? (.object [("id", .int 42)]) = denoted? (.int 42) ∧
      evaluate .memberHasRole
        [("member", .object [("roles", .array [.string "42"])]), ("role", .int 42)] 0 =
          some (.bool true) ∧
      evaluate .memberHasRole
        [("member", .object [("roles", .array [.string "42"])]),
          ("role", .object [("id", .int 42)])] 0 = some (.bool false) :=
  ⟨rfl, rfl, rfl⟩

end PinFlow.PureFunction
