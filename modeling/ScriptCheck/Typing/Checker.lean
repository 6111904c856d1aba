import ScriptCheck.Diagnostic
import ScriptCheck.Ty.Mention
import ScriptCheck.Typing.Analysis
import ScriptCheck.Typing.Rule
import ScriptCheck.Typing.Scope

/-!
# Checkers

A checker works on a stack of scopes, on what has been found out so far, and on the position of the
current statement, which every fault is reported for. A checker that fails leaves the state as it
was at that moment, with the scopes that it had entered.
-/

namespace ScriptCheck

structure CheckState where
  scopes : ScopeStack
  analysis : Analysis
  position : Position

def CheckState.initial : CheckState :=
  { scopes := ScopeStack.initial, analysis := Analysis.empty, position := Position.unknown }

abbrev Checker := EStateM Diagnostic CheckState

namespace Checker

variable {α : Type}

def fail (cause : Cause) : Checker α := do
  throw { cause, position := (← get).position }

def require (holds : Bool) (cause : Cause) : Checker Unit :=
  if holds then pure () else fail cause

def follow (result : Except TypeFault α) : Checker α :=
  match result with
  | .ok value => pure value
  | .error fault => fail (.typing fault)

/-- What an action finds, or nothing where it fails. Its effects stay. -/
def attempt (action : Checker α) : Checker (Option α) := fun state =>
  match action state with
  | .ok value after => .ok (some value) after
  | .error _ after => .ok none after

/-- What an action finds, or nothing where it fails. Its effects are undone. -/
def tentatively (action : Checker α) : Checker (Option α) := fun state =>
  match action state with
  | .ok value _ => .ok (some value) state
  | .error _ _ => .ok none state

def scopes : Checker ScopeStack :=
  return (← get).scopes

def modifyScopes (change : ScopeStack → ScopeStack) : Checker Unit :=
  modify fun state => { state with scopes := change state.scopes }

def modifyAnalysis (change : Analysis → Analysis) : Checker Unit :=
  modify fun state => { state with analysis := change state.analysis }

def moveTo (position : Position) : Checker Unit :=
  modify fun state => { state with position }

def enter (kind : ScopeKind) : Checker Unit :=
  modifyScopes (·.enter kind)

def exit : Checker Scope := do
  match (← scopes).exit? with
  | none => fail (.flow .globalScopeExit)
  | some (scope, outside) =>
    modifyScopes fun _ => outside
    return scope

def define (name : String) (type : Ty) : Checker Unit := do
  match (← scopes).define? name type with
  | none => fail (.naming (.symbolAlreadyDefined name))
  | some extended => modifyScopes fun _ => extended

/-- Gives another type to a name in the innermost scope that binds it. -/
def update (name : String) (type : Ty) : Checker Unit :=
  modifyScopes (·.update name type)

def lookup? (reach : Reach) (name : String) : Checker (Option Ty) :=
  return (← scopes).lookup? reach name

/-- The type that a name is bound to, if it is a template. A name that is not bound is a fault of
its own. -/
def templateOr (missing : NameFault) (name : String) : Checker Template := do
  match ← lookup? .everywhere name with
  | some (.template declared) => return declared
  | some _ => fail (.typing (.notATemplate name))
  | none => fail (.naming missing)

/-- The template that a type mentions by its name. -/
def mentionedTemplate (name : String) : Checker Template :=
  templateOr (.typeNotDefined name) name

/-- Every name in a type stands for a template. -/
def validate (type : Ty) : Checker Unit :=
  type.referencedNames.forM fun name => discard (mentionedTemplate name)

/-- Every name in a signature stands for a template. -/
def validateSignature (signature : Signature) : Checker Unit :=
  signature.referencedNames.forM fun name => discard (mentionedTemplate name)

/-- The template that a bare name stands for, and any other type as it is. Names inside of other
types stay, since they agree with their templates. -/
def resolve (type : Ty) : Checker Ty :=
  match type with
  | .named name => return .template (← mentionedTemplate name)
  | _ => return type

/-- The statement around the current one is current again after an action. An action that fails
leaves its own statement current. Nothing can come after a statement that is never completed. -/
def atStmt (position : Position) (action : Checker Unit) : Checker Unit := do
  let enclosing := (← get).position
  moveTo position
  require (← scopes).isReachable (.flow .unreachableCode)
  action
  moveTo enclosing

/-- Runs an action in a scope of its own, and returns the scope as the action left it. -/
def within (kind : ScopeKind) (action : Checker Unit) : Checker Scope := do
  enter kind
  action
  exit

/-- Binds names to types, with bare template names replaced by the templates. -/
def defineResolved (entries : List (String × Ty)) : Checker Unit :=
  entries.forM fun (name, type) => do define name (← resolve type)

/-- Binds the attributes and the methods of a template, where there is one. -/
def defineMembers (template : Option Template) : Checker Unit :=
  match template with
  | none => pure ()
  | some declared => do
    defineResolved declared.attributes
    declared.methods.forM fun (name, method) => define name (.function method)

/-- Enters the scope of a function. A method sees the attributes of its template and all its
methods as well, and they are bound before the parameters. -/
def enterFunction (signature : Signature) (template : Option Template) : Checker Unit := do
  enter (.function signature)
  defineMembers template
  defineResolved signature.params

/-- Checks the body of a function in the scope of the function. Returns the signature with the
result that the body determined, which is `void` where nothing was returned. -/
def inFunction (signature : Signature) (template : Option Template) (body : Checker Unit) :
    Checker Signature := do
  enterFunction signature template
  body
  let scope ← exit
  let resolved := scope.signature?.getD signature
  return resolved.settled

/-- The signature of a function before its body is checked. A result that is still to be found is
`void` where the first return statement carries no value, and otherwise the type of that value.
`search` finds this type. Where it fails, the result stays open. -/
def inferResult (signature : Signature) (template : Option Template)
    (firstReturn : Option (Option Expr)) (search : Checker (Option Ty)) : Checker Signature := do
  if !signature.result.isInfer then return signature
  else if !(firstReturn.any (·.isSome)) then return signature.withResult .void
  else
    let found ← tentatively (do enterFunction signature template; search)
    return signature.withFound found.join

def defineBound (bound : Option (String × Ty)) : Checker Unit :=
  match bound with
  | none => pure ()
  | some (name, type) => define name type

/-- Searches a block in a scope of its own, which binds the variable of a loop. -/
def searchBlock (bound : Option (String × Ty)) (search : Checker (Option Ty)) :
    Checker (Option Ty) := do
  enter .block
  defineBound bound
  let found ← search
  let _ ← exit
  return found

end Checker

end ScriptCheck
