import Overfwd.Lib.Outcome
import Overfwd.Lib.Text

namespace Serde

open Text Outcome

/-- Integers of 64 bits, else the bits of a float. -/
inductive Number
  | posInt (n : ℕ)
  | negInt (n : ℤ)
  | float (bits : UInt64)
  deriving DecidableEq

/-- The keys of an object are distinct; the first entry of a key is the one that counts. -/
inductive Value
  | null
  | bool (b : Bool)
  | number (n : Number)
  | string (s : String)
  | array (items : List Value)
  | object (members : List (String × Value))

namespace Value

/-- `Value::get` for a key. -/
def get? (key : String) : Value → Option Value
  | .object members => members.lookup key
  | _ => none

/-- `Value::as_str`. -/
def asStr : Value → Option String
  | .string s => some s
  | _ => none

theorem asStr_eq_some_iff (v : Value) (s : String) : v.asStr = some s ↔ v = .string s := by
  cases v <;> simp [asStr]

/-- A value that was looked up is the text `s`. -/
theorem bind_asStr_eq_some_iff (found : Option Value) (s : String) :
    found.bind asStr = some s ↔ found = some (.string s) := by
  cases found with
  | none => simp
  | some v => rw [Option.bind_some, asStr_eq_some_iff, Option.some_inj]

def isNull : Value → Bool
  | .null => true
  | _ => false

def isArray : Value → Bool
  | .array _ => true
  | _ => false

/-- What an `Option` field keeps of a value. -/
def nonNull : Value → Option Value
  | .null => none
  | v => some v

theorem nonNull_eq_some_iff (v w : Value) : v.nonNull = some w ↔ v = w ∧ v.isNull = false := by
  cases v <;> simp [nonNull, isNull]

/-- An array index in a pointer: no sign and no leading zero. -/
def arrayIndex (token : String) : Option ℕ :=
  if startsWith "+" token || (startsWith "0" token && len token != 1) then none
  else parseUnsigned (2^64) token

/-- `Value::pointer`, given its tokens. -/
def pointer : List String → Value → Option Value
  | [], v => some v
  | token :: tokens, .object members => (members.lookup token).bind (pointer tokens)
  | token :: tokens, .array items =>
    (arrayIndex token).bind fun i => items[i]?.bind (pointer tokens)
  | _ :: _, _ => none

end Value

inductive Error
  | invalidType (unexpected : Value) (expected : String)
  | invalidValue (unexpected : Value) (expected : String)
  | invalidLength (length : ℕ) (expected : String)
  | missingField (name : String)
  | duplicateField (name : String)
  | custom (message : String)

section Readers

variable {α : Type}

def readString : Value → Except Error String
  | .string s => .ok s
  | v => .error (.invalidType v "a string")

/-- Any value as it is. -/
def readValue (v : Value) : Except Error Value := .ok v

/-- `Option<T>`: `null` reads as `None`. -/
def readOption (read : Value → Except Error α) : Value → Except Error (Option α)
  | .null => .ok none
  | v => (read v).map some

/-- An unsigned integer below `bound`. -/
def readUnsigned (bound : ℕ) (name : String) : Value → Except Error ℕ
  | .number (.posInt n) =>
    if n < bound then .ok n else .error (.invalidValue (.number (.posInt n)) name)
  | .number (.negInt n) => .error (.invalidValue (.number (.negInt n)) name)
  | v => .error (.invalidType v name)

/-- `Vec<T>`. -/
def readList (read : Value → Except Error α) : Value → Except Error (List α)
  | .array items => items.mapM read
  | v => .error (.invalidType v "a sequence")

end Readers

theorem readString_eq_ok_iff (v : Value) (s : String) : readString v = .ok s ↔ v = .string s := by
  cases v <;> simp [readString]

theorem readOption_readValue (v : Value) : readOption readValue v = .ok v.nonNull := by
  cases v with
  | null => rfl
  | _ => rfl

/-- A field of a struct; with a default it may be absent. -/
structure StructField (α : Type) where
  name : String
  aliases : List String
  default : Option α
  read : Value → Except Error α

/-- What the reading of a whole struct needs to know of a field. -/
structure FieldSpec where
  name : String
  aliases : List String
  optional : Bool
  check : Value → Except Error Unit

def StructField.spec {α : Type} (f : StructField α) : FieldSpec :=
  { name := f.name
    aliases := f.aliases
    optional := f.default.isSome
    check := fun v => (f.read v).map fun _ => () }

def FieldSpec.accepts (f : FieldSpec) (key : String) : Bool := key = f.name || f.aliases.contains key

/-- The members in their order: unknown ones are passed over, a second one for a field
is an error, and so is a value of the wrong type. -/
def visitMap (fields : List FieldSpec) (seen : List String) :
    List (String × Value) → Except Error Unit
  | [] => .ok ()
  | (key, v) :: members =>
    match fields.find? fun f => f.accepts key with
    | none => visitMap fields seen members
    | some f =>
      -- An alias counts as the field it stands for.
      if seen.contains f.name then .error (.duplicateField f.name)
      else do
        f.check v
        visitMap fields (f.name :: seen) members

def member (members : List (String × Value)) (f : FieldSpec) : Option Value :=
  (members.find? fun m => f.accepts m.1).map Prod.snd

def requireFields (members : List (String × Value)) : List FieldSpec → Except Error Unit
  | [] => .ok ()
  | f :: fields =>
    if f.optional || (member members f).isSome then requireFields members fields
    else .error (.missingField f.name)

/-- The elements in their order: only fields with a default may be missing at the end,
and no element may be left over. -/
def visitSeq (expected : String) (index : ℕ) : List FieldSpec → List Value → Except Error Unit
  | [], [] => .ok ()
  | [], rest => .error (.invalidLength (index + rest.length) "fewer elements in array")
  | f :: fields, [] =>
    if f.optional then visitSeq expected (index + 1) fields []
    else .error (.invalidLength index expected)
  | f :: fields, v :: items => do
    f.check v
    visitSeq expected (index + 1) fields items

/-- Where the fields of a struct are read from. -/
inductive Source
  | members (members : List (String × Value))
  | elements (names : List String) (items : List Value)

def Source.find (f : FieldSpec) : Source → Option Value
  | .members ms => member ms f
  | .elements names items => items[names.idxOf f.name]?

def Source.get {α : Type} (source : Source) (f : StructField α) : Except Error α :=
  match source.find f.spec with
  | some v => f.read v
  | none => okOr (.missingField f.name) f.default

/-- A derived `Deserialize` on a `Value`. -/
def readStruct (name : String) (fields : List FieldSpec) : Value → Except Error Source
  | .object members => do
    visitMap fields [] members
    requireFields members fields
    .ok (.members members)
  | .array items => do
    visitSeq ("struct " ++ name ++ " with " ++ toString fields.length ++ " elements") 0 fields items
    .ok (.elements (fields.map FieldSpec.name) items)
  | v => .error (.invalidType v ("struct " ++ name))

section Structs

variable {α : Type} (name : String) (fields : List FieldSpec)

theorem readStruct_object (members : List (String × Value)) (source : Source)
    (h : readStruct name fields (.object members) = .ok source) : source = .members members := by
  obtain ⟨_, -, h⟩ := (bind_eq_ok_iff _ _ _).mp h
  obtain ⟨_, -, h⟩ := (bind_eq_ok_iff _ _ _).mp h
  cases h
  rfl

/-- A struct is read from an object or an array and from nothing else. -/
theorem readStruct_shape (v : Value) (source : Source) (h : readStruct name fields v = .ok source) :
    (∃ members, v = .object members) ∨ ∃ items, v = .array items := by
  cases v with
  | object members => exact .inl ⟨members, rfl⟩
  | array items => exact .inr ⟨items, rfl⟩
  | _ => cases h

/-- Without an alias a field is the member of its name. -/
theorem member_eq_lookup (members : List (String × Value)) (f : StructField α) (h : f.aliases = []) :
    member members f.spec = members.lookup f.name := by
  induction members with
  | nil => rfl
  | cons m members ih =>
    obtain ⟨key, v⟩ := m
    have haccepts : f.spec.accepts key = decide (key = f.name) := by
      simp [FieldSpec.accepts, StructField.spec, h]
    unfold member at ih ⊢
    by_cases hkey : key = f.name
    · subst hkey
      rw [List.lookup_cons, List.find?_cons]
      simp only [haccepts, decide_true, beq_self_eq_true, Option.map_some]
    · have hkey' : (f.name == key) = false := by simpa using Ne.symm hkey
      rw [List.lookup_cons, hkey', List.find?_cons]
      simp only [haccepts, hkey, decide_false]
      exact ih

theorem get_present (members : List (String × Value)) (f : StructField α) (h : f.aliases = [])
    (v : Value) (hv : members.lookup f.name = some v) :
    Source.get (.members members) f = f.read v := by
  unfold Source.get
  simp only [Source.find, member_eq_lookup members f h, hv]

theorem get_absent (members : List (String × Value)) (f : StructField α) (h : f.aliases = [])
    (hnone : members.lookup f.name = none) :
    Source.get (.members members) f = okOr (.missingField f.name) f.default := by
  unfold Source.get
  simp only [Source.find, member_eq_lookup members f h, hnone]

end Structs

end Serde
