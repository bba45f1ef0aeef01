import MarketWire.Members
import MarketWire.Number.Shortest

namespace MarketWire

inductive JsonNumber where
  | int (value : Int)
  | real (value : Number.Binary64)
  deriving DecidableEq, Repr

inductive Json where
  | null
  | bool (value : Bool)
  | num (value : JsonNumber)
  | str (value : String)
  | arr (items : List Json)
  | obj (members : List (String × Json))
  deriving Repr

namespace Json

mutual

def decEq : (a b : Json) → Decidable (a = b)
  | .null, .null => isTrue rfl
  | .bool x, .bool y => if h : x = y then isTrue (by rw [h]) else isFalse (by simp [h])
  | .num x, .num y => if h : x = y then isTrue (by rw [h]) else isFalse (by simp [h])
  | .str x, .str y => if h : x = y then isTrue (by rw [h]) else isFalse (by simp [h])
  | .arr xs, .arr ys =>
      match decEqItems xs ys with
      | isTrue h => isTrue (by rw [h])
      | isFalse h => isFalse (by simp [h])
  | .obj xs, .obj ys =>
      match decEqMembers xs ys with
      | isTrue h => isTrue (by rw [h])
      | isFalse h => isFalse (by simp [h])
  | .null, .bool _ | .null, .num _ | .null, .str _ | .null, .arr _ | .null, .obj _
  | .bool _, .null | .bool _, .num _ | .bool _, .str _ | .bool _, .arr _ | .bool _, .obj _
  | .num _, .null | .num _, .bool _ | .num _, .str _ | .num _, .arr _ | .num _, .obj _
  | .str _, .null | .str _, .bool _ | .str _, .num _ | .str _, .arr _ | .str _, .obj _
  | .arr _, .null | .arr _, .bool _ | .arr _, .num _ | .arr _, .str _ | .arr _, .obj _
  | .obj _, .null | .obj _, .bool _ | .obj _, .num _ | .obj _, .str _ | .obj _, .arr _ =>
      isFalse (by simp)

def decEqItems : (xs ys : List Json) → Decidable (xs = ys)
  | [], [] => isTrue rfl
  | [], _ :: _ | _ :: _, [] => isFalse (by simp)
  | x :: xs, y :: ys =>
      match decEq x y, decEqItems xs ys with
      | isTrue h, isTrue t => isTrue (by rw [h, t])
      | isFalse h, _ => isFalse (by simp [h])
      | _, isFalse t => isFalse (by simp [t])

def decEqMembers : (xs ys : List (String × Json)) → Decidable (xs = ys)
  | [], [] => isTrue rfl
  | [], _ :: _ | _ :: _, [] => isFalse (by simp)
  | (k, x) :: xs, (l, y) :: ys =>
      match decEq x y, decEqMembers xs ys with
      | isTrue h, isTrue t =>
          if hk : k = l then isTrue (by rw [h, t, hk]) else isFalse (by simp [hk])
      | isFalse h, _ => isFalse (by simp [h])
      | _, isFalse t => isFalse (by simp [t])

end

instance : DecidableEq Json := decEq

instance : Inhabited Json := ⟨.null⟩

def object (members : List (String × Json)) : Json := .obj (Members.ofList members)

def find? (name : String) : Json → Option Json
  | .obj members => members.lookup name
  | _ => none

def str? : Json → Option String
  | .str s => some s
  | _ => none

end Json

end MarketWire
