/-!
# Types

The types of the language: primitive types, arrays, sets, maps, functions, templates, and names
that stand for templates. A signature is the type of a function with the names of its parameters. A
template lists its attributes and the signatures of its methods, both in the order of declaration.
-/

namespace ScriptCheck

/-- The primitive types. `void` is the element type of an empty literal and the result of a function
that returns nothing. `infer` stands for a type that is still to be found. -/
inductive Primitive where
  | int
  | float
  | bool
  | str
  | null
  | void
  | infer
  deriving DecidableEq, Repr, Inhabited

mutual

inductive Ty where
  | primitive (primitive : Primitive)
  | array (element : Ty)
  | set (element : Ty)
  | map (key value : Ty)
  | function (signature : Signature)
  | named (name : String)
  | template (template : Template)

structure Signature where
  result : Ty
  params : List (String × Ty)

structure Template where
  name : String
  attributes : List (String × Ty)
  methods : List (String × Signature)

end

namespace Ty

instance : Inhabited Ty := ⟨.primitive .void⟩

abbrev int : Ty := .primitive .int

abbrev float : Ty := .primitive .float

abbrev bool : Ty := .primitive .bool

abbrev str : Ty := .primitive .str

abbrev null : Ty := .primitive .null

abbrev void : Ty := .primitive .void

abbrev infer : Ty := .primitive .infer

def isVoid : Ty → Bool
  | .primitive .void => true
  | _ => false

def isInfer : Ty → Bool
  | .primitive .infer => true
  | _ => false

def isNumeric : Ty → Bool
  | .primitive .int | .primitive .float => true
  | _ => false

/-- Whether values of a type can be elements of a set and keys of a map. -/
def isHashable : Ty → Bool
  | .primitive _ | .set _ => true
  | _ => false

/-- Whether values of a type have members at all. -/
def hasMembers : Ty → Bool
  | .set _ | .map .. | .template _ => true
  | _ => false

end Ty

instance : Inhabited Signature := ⟨{ result := .void, params := [] }⟩

def Signature.withResult (signature : Signature) (result : Ty) : Signature :=
  { signature with result }

/-- The signature with `void` for a result that is still to be found. -/
def Signature.settled (signature : Signature) : Signature :=
  if signature.result.isInfer then signature.withResult .void else signature

/-- The signature with a result that has been found, unless that one is still to be found too. -/
def Signature.withFound (signature : Signature) : Option Ty → Signature
  | none => signature
  | some result => if result.isInfer then signature else signature.withResult result

/-- The type of the attribute with the given name. -/
def Template.attribute? (template : Template) (name : String) : Option Ty :=
  template.attributes.lookup name

/-- The signature of the method with the given name. -/
def Template.method? (template : Template) (name : String) : Option Signature :=
  template.methods.lookup name

/-- The template with another signature for the method at an index. -/
def Template.setMethod (template : Template) (index : Nat) (signature : Signature) : Template :=
  { template with methods := template.methods.modify index fun method => (method.1, signature) }

end ScriptCheck
