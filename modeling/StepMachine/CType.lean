/-! Object types and their packed layout. -/

namespace StepMachine

mutual

/-- The type of an object. -/
inductive CType where
  | void
  | int
  | char
  | pointer (target : CType)
  | struct (name : String) (fields : Fields)

/-- The members of a structure in declaration order. -/
inductive Fields where
  | none
  | field (name : String) (type : CType) (rest : Fields)

end

mutual

/-- Whether two types are the same. A structure may stand in a type many times over, so that parts
which are one object in memory are not looked into. -/
def CType.decEq (a b : CType) : Decidable (a = b) :=
  withPtrEqDecEq a b fun _ =>
    match a, b with
    | .void, .void | .int, .int | .char, .char => isTrue rfl
    | .pointer s, .pointer t =>
      match s.decEq t with
      | isTrue same => isTrue (by rw [same])
      | isFalse differ => isFalse (by simpa using differ)
    | .struct m s, .struct n t =>
      if name : m = n then
        match s.decEq t with
        | isTrue same => isTrue (by rw [name, same])
        | isFalse differ => isFalse (by simp [differ])
      else isFalse (by simp [name])
    | .void, .int | .void, .char | .void, .pointer _ | .void, .struct _ _
    | .int, .void | .int, .char | .int, .pointer _ | .int, .struct _ _
    | .char, .void | .char, .int | .char, .pointer _ | .char, .struct _ _
    | .pointer _, .void | .pointer _, .int | .pointer _, .char | .pointer _, .struct _ _
    | .struct _ _, .void | .struct _ _, .int | .struct _ _, .char | .struct _ _, .pointer _ =>
      isFalse (by simp)

/-- Whether two lists of members are the same. -/
def Fields.decEq (a b : Fields) : Decidable (a = b) :=
  withPtrEqDecEq a b fun _ =>
    match a, b with
    | .none, .none => isTrue rfl
    | .field m s rest, .field n t others =>
      if name : m = n then
        match s.decEq t with
        | isTrue same =>
          match rest.decEq others with
          | isTrue equal => isTrue (by rw [name, same, equal])
          | isFalse differ => isFalse (by simp [differ])
        | isFalse differ => isFalse (by simp [differ])
      else isFalse (by simp [name])
    | .none, .field _ _ _ | .field _ _ _, .none => isFalse (by simp)

end

/-- Types are compared with all that they contain. -/
instance : DecidableEq CType := CType.decEq

/-- Lists of members are compared member by member. -/
instance : DecidableEq Fields := Fields.decEq

/-- The type without values stands where there is no other. -/
instance : Inhabited CType := ⟨.void⟩

/-- A structure may have no members. -/
instance : Inhabited Fields := ⟨.none⟩

/-- A structure's tag and members. -/
structure StructDef where
  name : String
  fields : Fields
  deriving DecidableEq, Inhabited

mutual

/-- The number of bytes an object of this type occupies; nothing is stored for `void`. -/
def CType.size : CType → Nat
  | .void => 0
  | .int => 4
  | .char => 1
  | .pointer _ => 8
  | .struct _ fields => fields.size

/-- Members are packed back to back, so their sizes add up. -/
def Fields.size : Fields → Nat
  | .none => 0
  | .field _ type rest => type.size + rest.size

end

/-- The members in declaration order. -/
def Fields.toList : Fields → List (String × CType)
  | .none => []
  | .field name type rest => (name, type) :: rest.toList

/-- Members from a list in declaration order. -/
def Fields.ofList : List (String × CType) → Fields
  | [] => .none
  | (name, type) :: rest => .field name type (ofList rest)

/-- The first member of a name, with the number of bytes that lie in front of it. -/
def Fields.find? (wanted : String) : Fields → Option (Nat × CType)
  | .none => Option.none
  | .field name type rest =>
    if name = wanted then some (0, type)
    else (rest.find? wanted).map fun (offset, found) => (type.size + offset, found)

namespace StructDef

/-- A structure is as large as its members together. -/
def size (definition : StructDef) : Nat := definition.fields.size

/-- Byte offset and type of the first member of a name. -/
def field? (definition : StructDef) (name : String) : Option (Nat × CType) :=
  definition.fields.find? name

/-- The type whose objects have this structure. -/
def type (definition : StructDef) : CType := .struct definition.name definition.fields

end StructDef

namespace CType

/-- Whether objects of the type are structures. -/
def isStruct : CType → Bool
  | .struct _ _ => true
  | _ => false

/-- A type is written as in a declaration, with a star for each level of indirection. -/
def text : CType → String
  | .void => "void"
  | .int => "int"
  | .char => "char"
  | .pointer target => target.text ++ "*"
  | .struct name _ => "struct " ++ name

end CType

end StepMachine
