/-!
# Functions of the language

What is known about a function: its category, whether it can fail, its parameters, the type of
its result and a description. A signature is the one-line form of this, and a snippet the text
that an editor inserts for a call, with one tab stop for each parameter that must be given.
-/

namespace Remap

/-- What a function is for. -/
inductive Category where
  | parse | coerce | convert | string | codec | hash | type | object | array | timestamp | ip
  | random | event | debug | enumerate
  deriving DecidableEq, Repr

namespace Category

/-- The name of a category. -/
def name : Category → String
  | parse => "parse"
  | coerce => "coerce"
  | convert => "convert"
  | string => "string"
  | codec => "codec"
  | hash => "hash"
  | type => "type"
  | object => "object"
  | array => "array"
  | timestamp => "timestamp"
  | ip => "ip"
  | random => "random"
  | event => "event"
  | debug => "debug"
  | enumerate => "enumerate"

/-- All categories. -/
def all : List Category :=
  [parse, coerce, convert, string, codec, hash, type, object, array, timestamp, ip, random, event,
    debug, enumerate]

/-- The category with a name. -/
def ofName? (name : String) : Option Category :=
  all.find? fun category => category.name == name

/-- Every category is listed. -/
theorem mem_all (category : Category) : category ∈ all := by
  cases category <;> decide

/-- Categories with the same name are the same. -/
theorem name_injective {a b : Category} (h : a.name = b.name) : a = b := by
  revert h
  cases a <;> cases b <;> decide

/-- A category is read back from its name. -/
theorem ofName?_name (category : Category) : ofName? category.name = some category := by
  cases category <;> decide

end Category

/-- A parameter of a function. -/
structure Parameter where
  name : String
  type : String
  isOptional : Bool
  deriving DecidableEq, Repr

namespace Parameter

/-- A parameter that must be given. -/
def required (name type : String) : Parameter :=
  ⟨name, type, false⟩

/-- A parameter that may be left out. -/
def optional (name type : String) : Parameter :=
  ⟨name, type, true⟩

/-- The parameter as a signature shows it. -/
def text (p : Parameter) : String :=
  p.name ++ (if p.isOptional then "?" else "") ++ ": " ++ p.type

end Parameter

/-- What is known about a function. -/
structure FunctionSpec where
  name : String
  category : Category
  /-- The function can fail at run time, so a call has to say what happens then. -/
  fallible : Bool
  parameters : List Parameter
  returnType : String
  description : String
  /-- A line of code that uses the function. -/
  sample : Option String := none
  deriving DecidableEq, Repr

namespace FunctionSpec

/-- The parameters that must be given. -/
def requiredParameters (spec : FunctionSpec) : List Parameter :=
  spec.parameters.filter fun p => !p.isOptional

/-- The name, with a bang if the function is fallible. -/
def callName (spec : FunctionSpec) : String :=
  spec.name ++ if spec.fallible then "!" else ""

/-- The function on one line, as in `parse_json!(value: string, max_depth?: int) -> any`. -/
def signature (spec : FunctionSpec) : String :=
  spec.callName ++ "(" ++ ", ".intercalate (spec.parameters.map Parameter.text) ++ ") -> " ++
    spec.returnType

/-- The tab stop with a number, filled with the name of a parameter. -/
def tabStop (number : Nat) (p : Parameter) : String :=
  "$\x7b" ++ toString number ++ ":" ++ p.name ++ "\x7d"

/-- A call with a tab stop for each required parameter; a fallible one aborts on failure. -/
def snippet (spec : FunctionSpec) : String :=
  let stops := spec.requiredParameters.zipIdx.map fun (p, i) => tabStop (i + 1) p
  spec.callName ++ "(" ++ ", ".intercalate stops ++ ")"

end FunctionSpec

end Remap
