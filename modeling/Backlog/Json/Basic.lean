import Backlog.Number.Decimal
import Backlog.Number.Shortest
import Backlog.Record

/-!
# JSON values

The values of JSON, with integers and floating numbers kept apart.

**Objects** list their members; a value read from a text lists them once each, in the order of
code points (`Json.ofRecord`).

**Two equalities.** `=` tells the two zeros apart. `same` is the equality of stored values: an
integer never equals a floating number, and the two zeros are equal.
-/

namespace Backlog

inductive Json
  | null
  | bool (b : Bool)
  | int (n : Int)
  | float (x : Binary64)
  | str (s : String)
  | arr (items : List Json)
  | obj (members : List (String × Json))

namespace Json

instance : Inhabited Json := ⟨null⟩

/-! ## Equality -/

mutual

def decEq : (a b : Json) → Decidable (a = b)
  | null, null => isTrue rfl
  | bool a, bool b => decidable_of_iff (a = b) (by simp)
  | int a, int b => decidable_of_iff (a = b) (by simp)
  | float a, float b => decidable_of_iff (a = b) (by simp)
  | str a, str b => decidable_of_iff (a = b) (by simp)
  | arr a, arr b => @decidable_of_iff _ (a = b) (by simp) (decEqItems a b)
  | obj a, obj b => @decidable_of_iff _ (a = b) (by simp) (decEqMembers a b)
  | null, bool _ | null, int _ | null, float _ | null, str _ | null, arr _ | null, obj _
  | bool _, null | bool _, int _ | bool _, float _ | bool _, str _ | bool _, arr _ | bool _, obj _
  | int _, null | int _, bool _ | int _, float _ | int _, str _ | int _, arr _ | int _, obj _
  | float _, null | float _, bool _ | float _, int _ | float _, str _ | float _, arr _
  | float _, obj _
  | str _, null | str _, bool _ | str _, int _ | str _, float _ | str _, arr _ | str _, obj _
  | arr _, null | arr _, bool _ | arr _, int _ | arr _, float _ | arr _, str _ | arr _, obj _
  | obj _, null | obj _, bool _ | obj _, int _ | obj _, float _ | obj _, str _ | obj _, arr _ =>
    isFalse (by simp)

def decEqItems : (a b : List Json) → Decidable (a = b)
  | [], [] => isTrue rfl
  | a :: as, b :: bs =>
    match decEq a b, decEqItems as bs with
    | isTrue h, isTrue t => isTrue (by rw [h, t])
    | isFalse h, _ => isFalse (by simp [h])
    | _, isFalse t => isFalse (by simp [t])
  | [], _ :: _ | _ :: _, [] => isFalse (by simp)

def decEqMembers : (a b : List (String × Json)) → Decidable (a = b)
  | [], [] => isTrue rfl
  | (k, a) :: as, (l, b) :: bs =>
    match (inferInstance : Decidable (k = l)), decEq a b, decEqMembers as bs with
    | isTrue e, isTrue h, isTrue t => isTrue (by rw [e, h, t])
    | isFalse e, _, _ => isFalse (by simp [e])
    | _, isFalse h, _ => isFalse (by simp [h])
    | _, _, isFalse t => isFalse (by simp [t])
  | [], _ :: _ | _ :: _, [] => isFalse (by simp)

end

instance : DecidableEq Json := decEq

mutual

/-- Equality of stored values. -/
def same : Json → Json → Bool
  | null, null => true
  | bool a, bool b => a == b
  | int a, int b => a == b
  | float a, float b => a.same b
  | str a, str b => a == b
  | arr a, arr b => sameItems a b
  | obj a, obj b => sameMembers a b
  | _, _ => false

def sameItems : List Json → List Json → Bool
  | [], [] => true
  | a :: as, b :: bs => same a b && sameItems as bs
  | _, _ => false

def sameMembers : List (String × Json) → List (String × Json) → Bool
  | [], [] => true
  | (k, a) :: as, (l, b) :: bs => k == l && same a b && sameMembers as bs
  | _, _ => false

end

/-! ## Parts -/

def isNull : Json → Bool
  | null => true
  | _ => false

def string? : Json → Option String
  | str s => some s
  | _ => none

/-- An integer of 64 bits with a sign. -/
def int64? : Json → Option Int
  | int n => if Decimal.IsInt64 n then some n else none
  | _ => none

/-- An integer of 64 bits without a sign. -/
def nat64? : Json → Option Nat
  | int n => if 0 ≤ n ∧ n < 18446744073709551616 then some n.toNat else none
  | _ => none

/-- The nearest floating number of any number. -/
def binary64? : Json → Option Binary64
  | int n => Binary64.ofInt? n
  | float x => some x
  | _ => none

def items? : Json → Option (List Json)
  | arr xs => some xs
  | _ => none

def record? : Json → Option (Record Json)
  | obj ms => some (Record.ofList ms)
  | _ => none

def ofRecord (r : Record Json) : Json := obj r.entries

/-- The value of a member, where the value is an object that has it. -/
def member? (v : Json) (name : String) : Option Json :=
  v.record?.bind (·.find? name)

/-- The deepest nesting of arrays and objects. -/
def depth : Json → Nat
  | arr xs => 1 + depthItems xs
  | obj ms => 1 + depthMembers ms
  | _ => 0
where
  depthItems : List Json → Nat
    | [] => 0
    | x :: xs => max (depth x) (depthItems xs)
  depthMembers : List (String × Json) → Nat
    | [] => 0
    | (_, x) :: xs => max (depth x) (depthMembers xs)

end Json

end Backlog
