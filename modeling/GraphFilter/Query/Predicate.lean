import GraphFilter.Condition.Error
import GraphFilter.Condition.Visitor
import GraphFilter.Query.Clause
import GraphFilter.Graph.Wire

/-!
# `GraphFilter.Query.Predicate` — conditions compiled to predicates

Compiling a condition yields a clause and the parameters it refers to. The walk threads one set of
parameters through the whole condition, so a name given in one branch is taken in all later ones,
and values reach the query as parameters only.

## Contents
- **Strategies.** `IdentifierStrategy` decides how the names of properties reach the query.
- **Compiling.** `Compiler.visitor` and `Compiler.build`; filters that constrain nothing leave no
  trace, and a group of which nothing is left is no clause.
- **Warnings.** `Compiler.emptyAnys` counts the empty disjunctions met on the way.
- **Predicates.** `Predicate` is the text of the clause with its parameters.
-/

namespace GraphFilter

/-! ## Strategies -/

/-- How the names of properties reach a query: as parameters, or in the text. -/
inductive IdentifierStrategy
  | dynamicKey
  | inline
  deriving DecidableEq, Repr

namespace IdentifierStrategy

/-- The name of a strategy. -/
def name : IdentifierStrategy → String
  | .dynamicKey => "dynamic-key"
  | .inline => "inline"

/-- The strategy of exactly this name. -/
def ofName? : String → Option IdentifierStrategy
  | "dynamic-key" => some .dynamicKey
  | "inline" => some .inline
  | _ => none

/-- The strategy that a word of settings names; the error is a message. -/
def ofWord (word : String) : Except String IdentifierStrategy :=
  let word := Text.normalizeWord word
  match ofName? word with
  | some strategy => .ok strategy
  | none => .error s!"unknown identifier strategy '{word}'"

end IdentifierStrategy

namespace Query

/-! ## Compiling -/

/-- What a condition is compiled for: the kind of entities, the name they are bound to, how property
    names are written and in which language. -/
structure Compiler where
  kind : EntityKind
  binder : String := "n"
  strategy : IdentifierStrategy := .dynamicKey
  dialect : Dialect := .cypher

/-- What a walk has built: the clause of the condition just left, and all parameters so far. -/
structure Built where
  clause : Option Clause := none
  parameters : Parameters := .empty

namespace Compiler

/-- Test for a type, its name bound to a fresh parameter. -/
def buildType (name : String) (parameters : Parameters) : Built :=
  let key := parameters.allocate "type"
  ⟨some (.hasType key), parameters.insert key (.string name)⟩

/-- Name a property: by a fresh parameter, or in the text if it is an identifier. -/
def buildAccess (strategy : IdentifierStrategy) (property : String) (parameters : Parameters) :
    Except Condition.Error (Access × Parameters) :=
  match strategy with
  | .dynamicKey =>
    let key := parameters.allocate (parameterBase property)
    .ok (.bound key, parameters.insert key (.string property))
  | .inline =>
    if Text.isIdentifier property then .ok (.inline property, parameters)
    else .error (.unsafeIdentifier .matchProperty property)

/-- Test a property, its value bound to a fresh parameter. -/
def buildProperty (strategy : IdentifierStrategy) (property : String) (value : Value)
    (parameters : Parameters) : Except Condition.Error Built := do
  let (access, parameters) ← buildAccess strategy property parameters
  let key := parameters.allocate (parameterBase property ++ "_value")
  return ⟨some (.property access key), parameters.insert key value⟩

/-- Build filters one after the other, and gather the clauses of those that constrain something. -/
def buildParts (parameters : Parameters) :
    List (Built → Except Condition.Error Built) →
    Except Condition.Error (List Clause × Parameters)
  | [] => .ok ([], parameters)
  | build :: rest => do
    let built ← build ⟨none, parameters⟩
    let (parts, parameters) ← buildParts built.parameters rest
    return (built.clause.toList ++ parts, parameters)

/-- Join the clauses of filters; of none there is no clause. -/
def buildGroup (op : Connective) (builds : List (Built → Except Condition.Error Built))
    (built : Built) : Except Condition.Error Built := do
  let (parts, parameters) ← buildParts built.parameters builds
  return ⟨if parts.isEmpty then none else some (.group op parts), parameters⟩

/-- The visitor that compiles a condition. -/
def visitor (strategy : IdentifierStrategy) : Condition.Visitor (Except Condition.Error) Built where
  ofType name built := .ok (buildType name built.parameters)
  matchProperty property value built := buildProperty strategy property value built.parameters
  all := buildGroup .and
  any := buildGroup .or

/-- Compile a condition on top of the parameters of a walk. -/
def buildFrom (strategy : IdentifierStrategy) (c : Condition) (start : Built) :
    Except Condition.Error Built :=
  c.visit (visitor strategy) start

/-- Compile a condition. -/
def build (strategy : IdentifierStrategy) (c : Condition) : Except Condition.Error Built :=
  buildFrom strategy c {}

/-! ## Warnings -/

/-- Whether a node stops the walk: a property whose name cannot be written into the query. -/
def refuses (strategy : IdentifierStrategy) : Condition → Bool
  | .matchProperty property _ => strategy = .inline && !Text.isIdentifier property
  | _ => false

/-- The number of empty disjunctions before the walk ends or stops. -/
def emptyAnys (strategy : IdentifierStrategy) (c : Condition) : Nat :=
  (c.preorder.takeWhile fun node => !refuses strategy node).countP Condition.isEmptyAny

end Compiler

/-! ## Predicates -/

/-- The text of a clause and the parameters it refers to. No text means no constraint. -/
structure Predicate where
  fragment : Option String := none
  parameters : Parameters := .empty

/-- Whether the predicate lets everything through. -/
def Predicate.isUnconstrained (p : Predicate) : Bool :=
  p.fragment.isNone

/-- The predicate of what a walk has built. -/
def Compiler.render (compiler : Compiler) (built : Built) : Predicate :=
  ⟨built.clause.map (Clause.render compiler.dialect compiler.kind compiler.binder),
    built.parameters⟩

/-- Compile a condition to a predicate. -/
def Compiler.predicate (compiler : Compiler) (c : Condition) :
    Except Condition.Error Predicate := do
  return compiler.render (← build compiler.strategy c)

/-- A predicate as an object. -/
def Predicate.toJson (p : Predicate) : Json :=
  .object [("fragment", .ofOption .string p.fragment), ("parameters", p.parameters.toJson)]

/-- The members of a predicate while it is read. -/
structure Predicate.Members where
  fragment : Option (Option String) := none
  parameters : Option Parameters := none

/-- Reads a predicate: the text may be left out or `null`, the parameters may not. -/
def Predicate.reader : Json.Reader Predicate :=
  let record : Json.Record Predicate.Members :=
    { members :=
        [ .field "fragment" (.nullable .string) (·.fragment) fun s x =>
            { s with fragment := some x },
          .field "parameters" (.dict Value.reader) (·.parameters) fun s x =>
            { s with parameters := some x } ] }
  record.read {} fun s => do return ⟨s.fragment.getD none, ← s.parameters⟩

end Query

end GraphFilter
