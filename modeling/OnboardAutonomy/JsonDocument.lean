import OnboardAutonomy.ExactDouble
import Mathlib.Algebra.Order.Ring.Rat

namespace JsonDocument
open ExactDouble
set_option autoImplicit true

/-- A document as a program holds it: whole numbers and doubles are told apart. -/
inductive Value where
  | null
  | bool (b : Bool)
  | integer (n : Int)
  | float (d : Double)
  | string (s : String)
  | array (items : List Value)
  | object (members : List (String × Value))

namespace Value

def typeName : Value → String
  | .null => "null"
  | .bool _ => "boolean"
  | .integer _ | .float _ => "number"
  | .string _ => "string"
  | .array _ => "array"
  | .object _ => "object"

def typeError (wanted : String) (v : Value) : Except String α :=
  .error ("[json.exception.type_error.302] type must be " ++ wanted ++ ", but is " ++ v.typeName)

/-- The member of a name. -/
def member (key : String) : Value → Except String Value
  | .object members =>
    match members.lookup key with
    | some v => .ok v
    | none => .error ("[json.exception.out_of_range.403] key '" ++ key ++ "' not found")
  | v => .error ("[json.exception.type_error.304] cannot use at() with " ++ v.typeName)

/-- The member that a path of names leads to. -/
def find (v : Value) : List String → Except String Value
  | [] => .ok v
  | key :: keys =>
    match v.member key with
    | .ok inner => inner.find keys
    | .error what => .error what

def getString : Value → Except String String
  | .string s => .ok s
  | v => typeError "string" v

def getBool : Value → Except String Bool
  | .bool b => .ok b
  | v => typeError "boolean" v

/-- A number of an unsigned type of 32 bits: what does not fit is cut down to its lowest bits. -/
def getUInt32 : Value → Except String UInt32
  | .integer n => .ok (.ofInt n)
  | .float d => .ok (.ofInt (d.value.num.tdiv d.value.den))
  | .bool b => .ok (if b then 1 else 0)
  | v => typeError "number" v

def getDouble : Value → Except String Double
  | .integer n => .ok (.finite n)
  | .float d => .ok d
  | v => typeError "number" v

/-- The first items of an array, as many as are asked for. -/
def getArray (n : Nat) (get : Value → Except String α) : Value → Except String (Vector α n)
  | .array items =>
    match (items.take n).mapM get with
    | .error what => .error what
    | .ok values =>
      if h : values.length = n then .ok ⟨values.toArray, h⟩
      else .error ("[json.exception.out_of_range.401] array index " ++ toString values.length ++
        " is out of range")
  | v => typeError "array" v

def getStringAt (v : Value) (keys : List String) : Except String String :=
  (v.find keys).bind getString

def getBoolAt (v : Value) (keys : List String) : Except String Bool :=
  (v.find keys).bind getBool

def getUInt32At (v : Value) (keys : List String) : Except String UInt32 :=
  (v.find keys).bind getUInt32

def getDoubleAt (v : Value) (keys : List String) : Except String Double :=
  (v.find keys).bind getDouble

def getArrayAt (v : Value) (keys : List String) (n : Nat) (get : Value → Except String α) :
    Except String (Vector α n) :=
  (v.find keys).bind (getArray n get)

theorem mapM_map_ok {get : Value → Except String α} {put : α → Value}
    (h : ∀ a, get (put a) = .ok a) (as : List α) : (as.map put).mapM get = .ok as := by
  induction as with
  | nil => rfl
  | cons a as ih =>
    rw [List.map_cons, List.mapM_cons, h, ih]
    rfl

theorem getArray_map {get : Value → Except String α} {put : α → Value}
    (h : ∀ a, get (put a) = .ok a) (n : Nat) (as : List α) :
    (∃ values, getArray n get (.array (as.map put)) = .ok values ∧ values.toList = as.take n) ∨
      (as.length < n ∧ ∃ what, getArray n get (.array (as.map put)) = .error what) := by
  rw [getArray, ← List.map_take, mapM_map_ok h]
  by_cases hlength : (as.take n).length = n
  · left
    exact ⟨_, dif_pos hlength, rfl⟩
  · right
    refine ⟨?_, _, dif_neg hlength⟩
    rw [List.length_take] at hlength
    omega

end Value

end JsonDocument
