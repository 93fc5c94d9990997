import EventPipeline.Foundation.OrderedDict

/-! # The options of an executor

An event class declares options for its executor. Those that the constructor of the executor has
parameters for are passed by name. They are looked up in the options first, and a second time in
the dictionary of what has been found.
-/

namespace EventPipeline

/-- What is done with arguments and options: `None`, `False`, the class `EMPTY`, the result of
`mp.get_context("spawn")`, `==`, and the calls that the values are numbers for. -/
structure ArgumentValues (Value : Type) where
  noneObject : Value
  falseObject : Value
  emptyKlass : Value
  spawnContext : Value
  ofInt : Int → Value
  isEmptyInstance : Value → Bool
  equal : Value → Value → Bool
  isNumeric : Value → Bool
  int : Value → Except String Int

abbrev Arguments (Value : Type) := List (String × Value)

/-! ## Arguments of a call -/

/-- A parameter. `default` is `none` for `Parameter.empty`. -/
structure CallParameter (Value : Type) where
  name : String
  default : Option Value
deriving DecidableEq, Repr

structure CallSignature (Value : Type) where
  parameters : List (CallParameter Value)
  nodup : (parameters.map CallParameter.name).Nodup

section Calls

variable {Value : Type} [DecidableEq Value] (values : ArgumentValues Value)

def CallParameter.argument (parameter : CallParameter Value) (params : String → Option Value) :
    Value :=
  match (params parameter.name).or parameter.default with
  | none => values.noneObject
  | some value => if value = values.emptyKlass then values.noneObject else value

/-- Parameters that are not passed as `None`. -/
def optionalArguments : List String := ["args", "kwargs"]

/-- `get_function_call_args`. There is no signature if `signature` raises `ValueError`. -/
def getFunctionCallArgs (signature : Option (CallSignature Value))
    (params : String → Option Value) : Arguments Value :=
  match signature with
  | none => []
  | some signature =>
      ((signature.parameters.filter fun parameter => parameter.name ≠ "self").map
        fun parameter => (parameter.name, parameter.argument values params)).filter
          fun entry => ¬ (entry.1 ∈ optionalArguments ∧ entry.2 = values.noneObject)

variable {values} {params : String → Option Value} {signature : CallSignature Value}

theorem nodup_keys_getFunctionCallArgs :
    (OrderedDict.keys (getFunctionCallArgs values (some signature) params)).Nodup := by
  have names : ((signature.parameters.filter fun parameter => parameter.name ≠ "self").map
      CallParameter.name).Nodup :=
    signature.nodup.sublist (List.filter_sublist.map _)
  have listed : (((signature.parameters.filter fun parameter => parameter.name ≠ "self").map
      fun parameter => (parameter.name, parameter.argument values params)).map Prod.fst).Nodup := by
    simpa [Function.comp_def] using names
  exact listed.sublist (List.filter_sublist.map _)

theorem get_getFunctionCallArgs {parameter : CallParameter Value}
    (among : parameter ∈ signature.parameters) (other : parameter.name ≠ "self")
    (given : ¬ (parameter.name ∈ optionalArguments ∧
      parameter.argument values params = values.noneObject)) :
    OrderedDict.get parameter.name (getFunctionCallArgs values (some signature) params) =
      some (parameter.argument values params) := by
  apply OrderedDict.get_of_mem nodup_keys_getFunctionCallArgs
  rw [getFunctionCallArgs, List.mem_filter]
  refine ⟨List.mem_map.mpr ⟨parameter, List.mem_filter.mpr ⟨among, by simpa using other⟩, rfl⟩, ?_⟩
  exact decide_eq_true given

end Calls

/-! ## Options -/

structure ExecutorInitializerConfig (Value : Type) where
  maxWorkers : Value
  maxTasksPerChild : Value
  threadNamePrefix : Value
  host : Value
  port : Value
  timeout : Value
  useEncryption : Value
  clientCertPath : Value
  clientKeyPath : Value
  caCertPath : Value
deriving DecidableEq, Repr

namespace ExecutorInitializerConfig

variable {Value : Type}

/-- `ExecutorInitializerConfig()` -/
def default (values : ArgumentValues Value) : ExecutorInitializerConfig Value where
  maxWorkers := values.emptyKlass
  maxTasksPerChild := values.emptyKlass
  threadNamePrefix := values.emptyKlass
  host := values.emptyKlass
  port := values.emptyKlass
  timeout := values.ofInt 30
  useEncryption := values.falseObject
  clientCertPath := values.noneObject
  clientKeyPath := values.noneObject
  caCertPath := values.noneObject

def getattr (config : ExecutorInitializerConfig Value) : String → Option Value
  | "max_workers" => some config.maxWorkers
  | "max_tasks_per_child" => some config.maxTasksPerChild
  | "thread_name_prefix" => some config.threadNamePrefix
  | "host" => some config.host
  | "port" => some config.port
  | "timeout" => some config.timeout
  | "use_encryption" => some config.useEncryption
  | "client_cert_path" => some config.clientCertPath
  | "client_key_path" => some config.clientKeyPath
  | "ca_cert_path" => some config.caCertPath
  | _ => none

/-- Pass an argument to the constructor, which may have no parameter of this name. -/
def withArgument (config : ExecutorInitializerConfig Value) (name : String) (value : Value) :
    Except String (ExecutorInitializerConfig Value) :=
  match name with
  | "max_workers" => .ok { config with maxWorkers := value }
  | "max_tasks_per_child" => .ok { config with maxTasksPerChild := value }
  | "thread_name_prefix" => .ok { config with threadNamePrefix := value }
  | "host" => .ok { config with host := value }
  | "port" => .ok { config with port := value }
  | "timeout" => .ok { config with timeout := value }
  | "use_encryption" => .ok { config with useEncryption := value }
  | "client_cert_path" => .ok { config with clientCertPath := value }
  | "client_key_path" => .ok { config with clientKeyPath := value }
  | "ca_cert_path" => .ok { config with caCertPath := value }
  | other => .error ("ExecutorInitializerConfig.__init__() got an unexpected keyword argument '" ++
      other ++ "'")

theorem getattr_optionalArguments (config : ExecutorInitializerConfig Value) {name : String}
    (optional : name ∈ optionalArguments) : config.getattr name = none := by
  simp only [optionalArguments, List.mem_cons, List.not_mem_nil, or_false] at optional
  rcases optional with rfl | rfl <;> rfl

end ExecutorInitializerConfig

/-- The attribute `executor_config` of an event class. -/
inductive DeclaredExecutorConfig (Value : Type)
  | unset
  | dictionary (entries : Arguments Value)
  | object (config : ExecutorInitializerConfig Value)

/-- `get_executor_initializer_config`. An empty dictionary declares as little as none. -/
def DeclaredExecutorConfig.getExecutorInitializerConfig {Value : Type}
    (values : ArgumentValues Value) :
    DeclaredExecutorConfig Value → Except String (ExecutorInitializerConfig Value)
  | unset => .ok (.default values)
  | dictionary entries =>
      entries.foldlM (fun config entry => config.withArgument entry.1 entry.2) (.default values)
  | object config => .ok config

/-! ## What an executor is made with -/

/-- The identity of an executor class. -/
abbrev ExecutorKlass := Nat

/-- An executor class: whether it is derived from `Executor`, whether it is one of the two that
`is_multiprocessing_executor` compares with, what its method `get_context` returns, and the
signature of its constructor. -/
structure ExecutorDeclaration (Value : Type) where
  isExecutor : Bool
  isMultiprocessing : Bool
  spawnContext : Option Value
  initSignature : Option (CallSignature Value)

namespace ExecutorDeclaration

variable {Value : Type}

def mpContext (values : ArgumentValues Value) (executor : ExecutorDeclaration Value) :
    Arguments Value :=
  if executor.isMultiprocessing then [("mp_context", values.spawnContext)]
  else
    match executor.spawnContext with
    | some context => [("mp_context", context)]
    | none => []

variable [DecidableEq Value] (values : ArgumentValues Value)
  (executor : ExecutorDeclaration Value) (config : ExecutorInitializerConfig Value)

def getExecutorContext : Arguments Value :=
  OrderedDict.update (executor.mpContext values)
    (getFunctionCallArgs values executor.initSignature config.getattr)

/-- What `_get_executor_context_and_event` makes of it. -/
def constructorArguments : Arguments Value :=
  getFunctionCallArgs values executor.initSignature fun name =>
    OrderedDict.get name (executor.getExecutorContext values config)

/-- Two configurations have the same option for each parameter of the constructor, where `EMPTY`
is as good as `None`. -/
def SameOptions (other : ExecutorInitializerConfig Value) : Prop :=
  ∀ signature ∈ executor.initSignature, ∀ parameter ∈ signature.parameters,
    parameter.name ≠ "self" →
      parameter.argument values config.getattr = parameter.argument values other.getattr

end ExecutorDeclaration

/-! ## Options by parameter -/

section Options

variable {Value : Type} [DecidableEq Value] {values : ArgumentValues Value}

theorem CallParameter.argument_congr {parameter : CallParameter Value}
    {params others : String → Option Value} (same : params parameter.name = others parameter.name) :
    parameter.argument values params = parameter.argument values others := by
  rw [argument, argument, same]

theorem CallParameter.argument_of_eq {parameter : CallParameter Value}
    {params others : String → Option Value}
    (found : others parameter.name = some (parameter.argument values params)) :
    parameter.argument values others = parameter.argument values params := by
  have settled : parameter.argument values params = values.emptyKlass →
      values.noneObject = values.emptyKlass := by
    rw [argument]
    split
    · exact id
    · split
      · exact id
      · rename_i different
        exact fun same => absurd same different
  rw [argument, found, Option.some_or]
  by_cases empty : parameter.argument values params = values.emptyKlass
  · rw [empty]
    exact (if_pos rfl).trans (settled empty)
  · exact if_neg empty

/-- The parameters that something is passed for when the options are those of a configuration:
they do not depend on it. -/
def CallSignature.passed (values : ArgumentValues Value) (signature : CallSignature Value) :
    List (CallParameter Value) :=
  signature.parameters.filter fun parameter => parameter.name ≠ "self" ∧
    ¬ (parameter.name ∈ optionalArguments ∧
      parameter.argument values (fun _ => none) = values.noneObject)

theorem getFunctionCallArgs_config (signature : CallSignature Value)
    (config : ExecutorInitializerConfig Value) :
    getFunctionCallArgs values (some signature) config.getattr =
      (signature.passed values).map fun parameter =>
        (parameter.name, parameter.argument values config.getattr) := by
  rw [getFunctionCallArgs, CallSignature.passed, List.filter_map, List.filter_filter]
  congr 1
  apply List.filter_congr
  intro parameter _
  by_cases optional : parameter.name ∈ optionalArguments
  · have same : parameter.argument values config.getattr =
        parameter.argument values fun _ => none :=
      CallParameter.argument_congr (config.getattr_optionalArguments optional)
    simp [optional, same, Bool.and_comm]
  · simp [optional]

theorem CallSignature.optional_of_not_passed {signature : CallSignature Value}
    {parameter : CallParameter Value} (among : parameter ∈ signature.parameters)
    (other : parameter.name ≠ "self") (dropped : parameter ∉ signature.passed values) :
    parameter.name ∈ optionalArguments := by
  by_contra required
  refine dropped (List.mem_filter.mpr ⟨among, decide_eq_true ⟨other, ?_⟩⟩)
  exact fun optional => required optional.1

variable (executor : ExecutorDeclaration Value) (config : ExecutorInitializerConfig Value)

theorem CallSignature.get_passed {signature : CallSignature Value}
    {parameter : CallParameter Value} (member : parameter ∈ signature.passed values) :
    OrderedDict.get parameter.name (getFunctionCallArgs values (some signature) config.getattr) =
      some (parameter.argument values config.getattr) := by
  apply OrderedDict.get_of_mem nodup_keys_getFunctionCallArgs
  rw [getFunctionCallArgs_config]
  exact List.mem_map.mpr ⟨parameter, member, rfl⟩

theorem CallSignature.get_not_passed {signature : CallSignature Value}
    {parameter : CallParameter Value} (among : parameter ∈ signature.parameters)
    (dropped : parameter ∉ signature.passed values) :
    OrderedDict.get parameter.name (getFunctionCallArgs values (some signature) config.getattr) =
      none := by
  rw [getFunctionCallArgs_config, OrderedDict.get_eq_none_iff]
  intro present
  simp only [OrderedDict.keys, List.map_map, List.mem_map, Function.comp_apply] at present
  rcases present with ⟨other, member, same⟩
  have equal : other = parameter :=
    List.inj_on_of_nodup_map signature.nodup (List.mem_of_mem_filter member) among same
  exact dropped (equal ▸ member)

omit [DecidableEq Value] in
theorem ExecutorDeclaration.get_mpContext {name : String} (optional : name ∈ optionalArguments) :
    OrderedDict.get name (executor.mpContext values) = none := by
  simp only [optionalArguments, List.mem_cons, List.not_mem_nil, or_false] at optional
  rw [mpContext]
  split
  · rcases optional with rfl | rfl <;> rfl
  · cases executor.spawnContext with
    | none => rfl
    | some context => rcases optional with rfl | rfl <;> rfl

/-- What is looked up a second time for a parameter is what has been found, or nothing again. -/
theorem ExecutorDeclaration.argument_getExecutorContext {signature : CallSignature Value}
    (read : executor.initSignature = some signature) {parameter : CallParameter Value}
    (among : parameter ∈ signature.parameters) (other : parameter.name ≠ "self") :
    (parameter.argument values fun name =>
        OrderedDict.get name (executor.getExecutorContext values config)) =
      parameter.argument values config.getattr := by
  have nodup := @nodup_keys_getFunctionCallArgs _ _ values config.getattr signature
  have looked := @OrderedDict.get_update _ _ _ parameter.name (executor.mpContext values) _ nodup
  by_cases passed : parameter ∈ signature.passed values
  · rw [CallSignature.get_passed config passed, Option.some_or] at looked
    apply CallParameter.argument_of_eq
    rw [getExecutorContext, read]
    exact looked
  · have optional := CallSignature.optional_of_not_passed among other passed
    rw [CallSignature.get_not_passed config among passed, Option.none_or,
      executor.get_mpContext optional] at looked
    apply CallParameter.argument_congr
    rw [config.getattr_optionalArguments optional, getExecutorContext, read]
    exact looked

/-- Looking the arguments up a second time changes nothing. The entry `mp_context` is lost: where
the constructor has such a parameter, it is passed what the options have for it. -/
theorem ExecutorDeclaration.constructorArguments_eq :
    executor.constructorArguments values config =
      getFunctionCallArgs values executor.initSignature config.getattr := by
  rw [constructorArguments]
  cases read : executor.initSignature with
  | none => rfl
  | some signature =>
      rw [getFunctionCallArgs, getFunctionCallArgs]
      congr 1
      apply List.map_congr_left
      intro parameter member
      rw [List.mem_filter, decide_eq_true_eq] at member
      rw [executor.argument_getExecutorContext config read member.1 member.2]

theorem ExecutorDeclaration.constructorArguments_eq_nil_iff :
    executor.constructorArguments values config = [] ↔
      ∀ signature ∈ executor.initSignature, signature.passed values = [] := by
  rw [constructorArguments_eq]
  cases executor.initSignature with
  | none => simp [getFunctionCallArgs]
  | some signature => simp [getFunctionCallArgs_config]

theorem ExecutorDeclaration.sameOptions_iff (other : ExecutorInitializerConfig Value) :
    executor.SameOptions values config other ↔
      executor.constructorArguments values config = executor.constructorArguments values other := by
  rw [SameOptions, constructorArguments_eq, constructorArguments_eq]
  cases executor.initSignature with
  | none => simp [getFunctionCallArgs]
  | some signature =>
      rw [getFunctionCallArgs_config, getFunctionCallArgs_config, List.map_inj_left]
      simp only [Option.mem_some_iff, forall_eq', Prod.mk.injEq, true_and]
      constructor
      · intro same parameter member
        have among := List.mem_filter.mp member
        exact same parameter among.1 (of_decide_eq_true among.2).1
      · intro same parameter among named
        by_cases passed : parameter ∈ signature.passed values
        · exact same parameter passed
        · have optional := CallSignature.optional_of_not_passed among named passed
          apply CallParameter.argument_congr
          rw [config.getattr_optionalArguments optional, other.getattr_optionalArguments optional]

end Options

end EventPipeline
