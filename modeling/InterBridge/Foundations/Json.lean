import Mathlib.Algebra.Group.Int.Defs
import Mathlib.Algebra.Group.Nat.Defs
import Mathlib.Tactic.Common

namespace Foundations
set_option autoImplicit true

/-- A `std::string`: any sequence of bytes. -/
abbrev Bytes := List UInt8

instance (value : Bytes) (values : List Bytes) : Decidable (value ∈ values) := inferInstance

/-- The bytes of an ASCII string literal. -/
def ascii (s : String) : Bytes := s.toList.map fun c => UInt8.ofNat c.toNat

/-- A JSON value. Integer literals of any size are kept exactly; every other number is kept as
its text. -/
inductive Json where
  | null
  | bool (b : Bool)
  | int (n : Int)
  | float (text : Bytes)
  | str (s : Bytes)
  | arr (elements : List Json)
  | obj (members : List (Bytes × Json))

namespace Json

/-- `value[key]`: null unless the value is an object with that member. -/
def get (v : Json) (key : Bytes) : Json :=
  match v with
  | .obj members => (members.lookup key).getD .null
  | _ => .null

def containsKey (v : Json) (key : Bytes) : Bool :=
  match v with
  | .obj members => (members.lookup key).isSome
  | _ => false

/-- The keys an object iterates over; none for any other value. -/
def keys (v : Json) : List Bytes :=
  match v with
  | .obj members => members.map Prod.fst
  | _ => []

/-- The elements an array iterates over; none for any other value. -/
def elements (v : Json) : List Json :=
  match v with
  | .arr elements => elements
  | _ => []

def isObject : Json → Bool
  | .obj _ => true
  | _ => false

def asString? : Json → Option Bytes
  | .str s => some s
  | _ => none

def asBool? : Json → Option Bool
  | .bool b => some b
  | _ => none

/-- An integer literal in the range of `int`. -/
def asInt32? : Json → Option Int32
  | .int n => if -2 ^ 31 ≤ n ∧ n < 2 ^ 31 then some (.ofInt n) else none
  | _ => none

/-- An integer literal in the range of `int64_t`. -/
def asInt64? : Json → Option Int64
  | .int n => if -2 ^ 63 ≤ n ∧ n < 2 ^ 63 then some (.ofInt n) else none
  | _ => none

/-- Documents built from strings, 64-bit integers and booleans, nested at most `depth` deep. -/
def StorableWithin (depth : Nat) (v : Json) : Prop :=
  match depth, v with
  | _, .bool _ => True
  | _, .str _ => True
  | _, .int n => -2 ^ 63 ≤ n ∧ n < 2 ^ 63
  | depth + 1, .arr elements => ∀ v ∈ elements, StorableWithin depth v
  | depth + 1, .obj members =>
    (members.map Prod.fst).Nodup ∧ ∀ m ∈ members, StorableWithin depth m.2
  | _, _ => False

@[simp] theorem asInt32?_toInt (n : Int32) : (Json.int n.toInt).asInt32? = some n := by
  have h := And.intro n.le_toInt n.toInt_lt
  simp only [asInt32?, if_pos h, Int32.ofInt_toInt]

theorem asInt64?_eq_some {v : Json} {n : Int64} :
    v.asInt64? = some n ↔ v = .int n.toInt := by
  cases v with
  | int m =>
    simp only [asInt64?, Option.ite_none_right_eq_some, Option.some.injEq, Json.int.injEq]
    constructor
    · intro hall
      obtain ⟨⟨hl, hu⟩, rfl⟩ := hall
      exact (Int64.toInt_ofInt_of_le hl hu).symm
    · intro hv
      subst hv
      exact ⟨⟨n.le_toInt, n.toInt_lt⟩, n.ofInt_toInt⟩
  | _ => simp [asInt64?]

theorem StorableWithin.int32 (depth : Nat) (n : Int32) : StorableWithin depth (.int n.toInt) := by
  have h := And.intro n.le_toInt n.toInt_lt
  cases depth <;> simp only [StorableWithin] <;> omega

end Json
end Foundations
