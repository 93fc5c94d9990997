import EventPipeline.Foundation.OrderedDict

/-! # Input fields

The fields of a pipeline class, the checks that they make when a value is stored, and the
construction of a pipeline from keyword arguments.
-/

namespace EventPipeline

/-- The exceptions of the functions that configure the pipelines of a batch. -/
inductive BatchError
  | typeError (message : String)
  | valueError (message : String)
  | indexError (message : String)
  | pipelineConfigurationError (message code : String)
deriving DecidableEq, Repr

/-- A type that a field accepts: the default `UNKNOWN`, the types with a default batch
processor, and any other one by its name. -/
inductive DataType
  | unknown
  | list
  | tuple
  | other (name : String)
deriving DecidableEq, Repr

inductive PyValue (Object : Type)
  | none
  | list (items : List Object)
  | tuple (items : List Object)
  | object (value : Object)
deriving DecidableEq, Repr

/-- What the interpreter tells about values of other types than those that the fields know:
truth, what calling a type with a batch gives, and what iterating over an object yields. -/
structure Interpreter (Object : Type) where
  truthy : Object → Bool
  callable : Object → Bool
  typeName : Object → String
  isInstance : PyValue Object → String → Bool
  construct : String → List Object → Except BatchError (PyValue Object)
  iterate : Object → Option (List Object)

section Values

variable {Object : Type} (interpreter : Interpreter Object)

namespace PyValue

/-- `bool(value)` -/
def truthy : PyValue Object → Bool
  | .none => false
  | .list items | .tuple items => !items.isEmpty
  | .object value => interpreter.truthy value

def callable : PyValue Object → Bool
  | .none | .list _ | .tuple _ => false
  | .object value => interpreter.callable value

def typeName : PyValue Object → String
  | .none => "NoneType"
  | .list _ => "list"
  | .tuple _ => "tuple"
  | .object value => interpreter.typeName value

/-- `isinstance(value, data_type)` for one type of a field without `UNKNOWN`. -/
def isInstance (value : PyValue Object) : DataType → Bool
  | .unknown => false
  | .list =>
      match value with
      | .list _ => true
      | .none | .tuple _ => false
      | .object _ => interpreter.isInstance value "list"
  | .tuple =>
      match value with
      | .tuple _ => true
      | .none | .list _ => false
      | .object _ => interpreter.isInstance value "tuple"
  | .other name => interpreter.isInstance value name

def isNone : PyValue Object → Bool
  | .none => true
  | .list _ | .tuple _ | .object _ => false

end PyValue

end Values

/-- A field, under the name of the attribute that it is assigned to. `default` is `none` for
`EMPTY`, and `defaultFactory` is what the factory returns. -/
structure InputDataField (Object : Type) where
  name : String
  required : Bool := false
  dataType : List DataType := [.unknown]
  default : Option (PyValue Object) := none
  defaultFactory : Option (PyValue Object) := none
  batchSize : Nat := 100
deriving DecidableEq, Repr

abbrev Kwargs (Object : Type) := List (String × PyValue Object)

def DataType.text : DataType → String
  | .unknown => "<object object>"
  | .list => "<class 'list'>"
  | .tuple => "<class 'tuple'>"
  | .other name => "<class '" ++ name ++ "'>"

def dataTypeText : List DataType → String
  | [single] => "(" ++ single.text ++ ",)"
  | types => "(" ++ ", ".intercalate (types.map DataType.text) ++ ")"

namespace InputDataField

variable {Object : Type} (interpreter : Interpreter Object)

/-- Without a batch processor of its own a field of lists or tuples gets the default one. -/
def hasBatchOperation (field : InputDataField Object) : Bool :=
  field.dataType.any fun type => type = .list ∨ type = .tuple

/-- `__set__`: the value that is stored. -/
def set (field : InputDataField Object) (value : PyValue Object) :
    Except BatchError (PyValue Object) :=
  if .unknown ∉ field.dataType ∧ !value.isNone ∧
      !field.dataType.any (value.isInstance interpreter) then
    .error (.typeError ("Value for '" ++ field.name ++ "' has incorrect type. Expected " ++
      dataTypeText field.dataType ++ ", got " ++ value.typeName interpreter ++ "."))
  else if value.callable interpreter then
    .error (.typeError ("Value for '" ++ field.name ++
      "' cannot be a callable. Did you mean to call the function?"))
  else
    match value, field.default, field.defaultFactory with
    | .none, none, none =>
        if field.required then .error (.valueError ("Field '" ++ field.name ++ "' is required"))
        else .ok .none
    | .none, some default, _ => .ok default
    | .none, none, some made => .ok made
    | value, _, _ => .ok value

def accepts (field : InputDataField Object) (value : PyValue Object) : Bool :=
  match field.set interpreter value with
  | .ok _ => true
  | .error _ => false

def hasDefault (field : InputDataField Object) : Bool :=
  field.default.isSome || !field.required

/-- The argument for the parameter of a field. One that has a default may be missing and is
then left out. -/
def argument (field : InputDataField Object) (kwargs : Kwargs Object) :
    Except BatchError (Option (InputDataField Object × PyValue Object)) :=
  match OrderedDict.get field.name kwargs with
  | some value => .ok (some (field, value))
  | none =>
      if field.hasDefault then .ok none
      else .error (.typeError ("missing a required argument: '" ++ field.name ++ "'"))

end InputDataField

/-- A pipeline class with its fields, which are attributes of one class. -/
structure PipelineTemplate (Object : Type) where
  text : String
  fields : List (InputDataField Object)
  nodup : (fields.map InputDataField.name).Nodup

structure PipelineInstance (Object : Type) where
  arguments : Kwargs Object
  fields : Kwargs Object
deriving DecidableEq, Repr

namespace PipelineTemplate

variable {Object : Type} (interpreter : Interpreter Object)

/-- The parameters of `__signature__`: first those without a default. -/
def signature (template : PipelineTemplate Object) : List (InputDataField Object) :=
  template.fields.filter (fun field => !field.hasDefault) ++
    template.fields.filter fun field => field.hasDefault

def getBatchFields (template : PipelineTemplate Object) : List (InputDataField Object) :=
  template.fields.filter fun field => field.hasBatchOperation

def getNonBatchFields (template : PipelineTemplate Object) : List (InputDataField Object) :=
  template.fields.filter fun field => !field.hasBatchOperation

/-- `Signature.bind` with keyword arguments only. -/
def bindSignature (template : PipelineTemplate Object) (kwargs : Kwargs Object) :
    Except BatchError (List (InputDataField Object × PyValue Object)) := do
  let bound ← template.signature.mapM fun field => field.argument kwargs
  match kwargs.find? fun entry => !template.fields.any fun field => field.name = entry.1 with
  | some (name, _) =>
      .error (.typeError ("got an unexpected keyword argument '" ++ name ++ "'"))
  | none => return bound.filterMap id

def init (template : PipelineTemplate Object) (kwargs : Kwargs Object) :
    Except BatchError (PipelineInstance Object) := do
  let bound ← template.bindSignature kwargs
  let fields ← bound.mapM fun argument => do
    return (argument.1.name, ← argument.1.set interpreter argument.2)
  return ⟨kwargs, fields⟩

end PipelineTemplate

def stringInterpreter : Interpreter String where
  truthy text := !text.isEmpty
  callable _ := false
  typeName _ := "str"
  isInstance value name :=
    match value with
    | .object _ => name = "str"
    | .none | .list _ | .tuple _ => false
  construct _ _ := .error (.typeError "str() argument")
  iterate text := some (text.toList.map String.singleton)

end EventPipeline
