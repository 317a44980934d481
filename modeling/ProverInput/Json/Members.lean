set_option autoImplicit false

/-! # The order of an object's members

Members whose name is an index, the canonical decimal of a number below `2 ^ 32 - 1`, come first
and in ascending order. The others follow in the order in which they were first given. A name
given again keeps its place and takes the new value.
-/

namespace ProverInput.Members

variable {α : Type}

/-- The index a name denotes: the decimal of a number below `2 ^ 32 - 1` without leading zeros. -/
def index? (name : String) : Option Nat :=
  let digits := name.toList
  let n := Nat.ofDigitChars 10 digits 0
  if digits.all Char.isDigit ∧ Nat.toDigits 10 n = digits ∧ n < 0xffffffff then some n else none

/-- Whether a member whose name denotes the given index, if any, stands before one named `other`
whatever their history. -/
def precedes (index : Option Nat) (other : String) : Bool :=
  match index with
  | none => false
  | some i =>
    match index? other with
    | some j => i < j
    | none => true

/-- The members after `name`, which denotes the given index if any, is given the value `v`. -/
def putAt (index : Option Nat) (name : String) (v : α) : List (String × α) → List (String × α)
  | [] => [(name, v)]
  | (other, w) :: rest =>
    if other = name then (name, v) :: rest
    else if precedes index other then (name, v) :: (other, w) :: rest
    else (other, w) :: putAt index name v rest

/-- The members after `name` is given the value `v`. -/
def put (name : String) (v : α) (members : List (String × α)) : List (String × α) :=
  putAt (index? name) name v members

/-- The members given one after the other. -/
def ofList (given : List (String × α)) : List (String × α) :=
  given.foldl (fun members m => put m.1 m.2 members) []

/-- The one name that adds no member when it is assigned to a record under construction. -/
def reserved : String := "__proto__"

/-- The members of a record whose fields are assigned one after the other. -/
def assign (given : List (String × α)) : List (String × α) :=
  ofList (given.filter fun m => m.1 ≠ reserved)

theorem lookup_putAt_self (index : Option Nat) (name : String) (v : α)
    (members : List (String × α)) : (putAt index name v members).lookup name = some v := by
  induction members with
  | nil => simp [putAt]
  | cons m rest ih =>
    obtain ⟨other, w⟩ := m
    by_cases h : other = name
    · simp [putAt, h]
    · by_cases hp : precedes index other = true
      · simp [putAt, h, hp]
      · have hne : (name == other) = false := by simpa using fun e => h e.symm
        simp [putAt, h, hp, List.lookup_cons, hne, ih]

theorem lookup_put_self (name : String) (v : α) (members : List (String × α)) :
    (put name v members).lookup name = some v := lookup_putAt_self _ name v members

/-- What is found under a name is part of the members. -/
theorem sizeOf_lookup_lt [SizeOf α] {name : String} {members : List (String × α)} {v : α}
    (h : members.lookup name = some v) : sizeOf v < sizeOf members := by
  induction members with
  | nil => cases h
  | cons m rest ih =>
    obtain ⟨other, w⟩ := m
    rw [List.lookup_cons] at h
    split at h
    · cases h
      simp only [List.cons.sizeOf_spec, Prod.mk.sizeOf_spec]
      omega
    · have := ih h
      simp only [List.cons.sizeOf_spec]
      omega

example : (ofList [("b", 1), ("2", 2), ("a", 3), ("10", 4), ("b", 5), ("01", 6)]) =
    [("2", 2), ("10", 4), ("b", 5), ("a", 3), ("01", 6)] := by decide +kernel

end ProverInput.Members
