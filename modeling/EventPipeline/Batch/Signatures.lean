import EventPipeline.Batch.Fields
import Mathlib.Data.List.Induction

/-! # Constructor signatures

The signature of a pipeline class is made when the class is first instantiated, or used as the
template of a batch, and kept in an attribute of the class. Attributes are looked up along the
method resolution order, so that a class finds the signatures of its bases, too.
-/

namespace EventPipeline

/-- What the namespace of a class has under a name. -/
inductive ClassAttribute (Object : Type)
  | inputDataField (field : InputDataField Object)
  | other

/-- A parameter that may be given by position or by name. `default` is `none` for
`Parameter.empty`. -/
structure Parameter (Object : Type) where
  name : String
  annotation : List DataType
  default : Option (PyValue Object)
deriving DecidableEq, Repr

abbrev Signature (Object : Type) := List (Parameter Object)

/-- `Pipeline`, under the name `root`, and the classes that are derived from it. -/
structure PipelineHierarchy (Class Object : Type) where
  root : Class
  namespaceOf : Class → List (String × ClassAttribute Object)
  nodup : ∀ cls, (OrderedDict.keys (namespaceOf cls)).Nodup
  mro : Class → List Class
  self_mem_mro : ∀ cls, ∃ bases, mro cls = cls :: bases
  mro_root : mro root = [root]
  mro_subset : ∀ cls, ∀ base ∈ mro cls, ∀ other ∈ mro base, other ∈ mro cls

/-- A class is used: one instance is made, or a batch that has the class as template. -/
inductive ClassUse (Class : Type)
  | instantiate (cls : Class)
  | template (cls : Class)
deriving DecidableEq

def ClassUse.cls {Class : Type} : ClassUse Class → Class
  | .instantiate cls | .template cls => cls

/-- The classes that have an entry `__signature__` other than `None`. -/
abbrev Signatures (Class Object : Type) := Class → Option (Signature Object)

namespace PipelineHierarchy

variable {Class Object : Type} [DecidableEq Class] (hierarchy : PipelineHierarchy Class Object)

/-- `__pipeline_fields__` as the metaclass sets it, which it does not for `Pipeline`. -/
def pipelineFields (cls : Class) : Option (List (String × InputDataField Object)) :=
  if cls = hierarchy.root then none
  else some ((hierarchy.namespaceOf cls).filterMap fun entry =>
    match entry.2 with
    | .inputDataField field => some (entry.1, field)
    | .other => none)

/-- An attribute of a class: the entry of the first class that has one. -/
def getattr {Value : Type} (entries : Class → Option Value) (cls : Class) : Option Value :=
  (hierarchy.mro cls).findSome? entries

def getFields (cls : Class) : List (String × InputDataField Object) :=
  (hierarchy.getattr hierarchy.pipelineFields cls).getD []

/-- The parameter for a field. The types of a field are a tuple, also if they are unknown. -/
def parameter (name : String) (field : InputDataField Object) : Parameter Object where
  name := name
  annotation := field.dataType
  default :=
    match field.default with
    | some default => some default
    | none => if field.required then none else some .none

/-- The signature that is made from the fields of a class: first the parameters that have no
default. -/
def makeSignature (cls : Class) : Signature Object :=
  let parameters := ((hierarchy.getFields cls).filter fun entry => entry.1 ≠ "").map
    fun entry => parameter entry.1 entry.2
  parameters.filter (fun parameter => parameter.default.isNone) ++
    parameters.filter fun parameter => !parameter.default.isNone

def constructCallSignature (signatures : Signatures Class Object) (cls : Class) :
    Signatures Class Object :=
  if (hierarchy.getattr signatures cls).isSome then signatures
  else Function.update signatures cls (some (hierarchy.makeSignature cls))

/-- The signature that the arguments are bound against: `self.__signature__` of the instance, or
what the batch takes from its template. -/
def boundSignature (signatures : Signatures Class Object) :
    ClassUse Class → Option (Signature Object)
  | .instantiate cls | .template cls =>
      hierarchy.getattr (hierarchy.constructCallSignature signatures cls) cls

/-- The signatures that are kept after a history. At first there is only the `None` of
`Pipeline`. -/
def signaturesAfter (history : List (ClassUse Class)) : Signatures Class Object :=
  history.foldl (fun signatures use => hierarchy.constructCallSignature signatures use.cls)
    fun _ => none

def withoutBases (cls : Class) (history : List (ClassUse Class)) : List (ClassUse Class) :=
  history.filter fun use => use.cls = cls ∨ use.cls ∉ hierarchy.mro cls

/-- All arguments are bound against the signature that the class has by its own fields, whatever
has been used before. -/
structure HistoryIndependent (history : List (ClassUse Class)) : Prop where
  own : ∀ front use rest, history = front ++ use :: rest →
    hierarchy.boundSignature (hierarchy.signaturesAfter front) use =
      some (hierarchy.makeSignature use.cls)
  requiredFirst : ∀ cls, ∃ required optional,
    hierarchy.makeSignature cls = required ++ optional ∧
      (∀ parameter ∈ required, parameter.default = none) ∧
      ∀ parameter ∈ optional, parameter.default ≠ none
  sameWithoutBases : ∀ front use rest, history = front ++ use :: rest →
    hierarchy.boundSignature (hierarchy.signaturesAfter front) use =
      hierarchy.boundSignature
        (hierarchy.signaturesAfter (hierarchy.withoutBases use.cls front)) use

/-- The class is used in the history, and before that neither it nor a base of it is. -/
def Pioneer (history : List (ClassUse Class)) (cls : Class) : Prop :=
  ∃ front use rest, history = front ++ use :: rest ∧ use.cls = cls ∧
    ∀ earlier ∈ front, earlier.cls ∉ hierarchy.mro cls

/-- Whenever a class is used, the nearest pioneer among it and its bases, if there is one, has
the same signature. -/
def InheritsOwnSignature (history : List (ClassUse Class)) : Prop :=
  ∀ front use rest, history = front ++ use :: rest →
    ∀ nearer nearest further, hierarchy.mro use.cls = nearer ++ nearest :: further →
      hierarchy.Pioneer front nearest → (∀ cls ∈ nearer, ¬hierarchy.Pioneer front cls) →
      hierarchy.makeSignature nearest = hierarchy.makeSignature use.cls

section Signatures

variable {hierarchy}

theorem makeSignature_requiredFirst (cls : Class) : ∃ required optional,
    hierarchy.makeSignature cls = required ++ optional ∧
      (∀ parameter ∈ required, parameter.default = none) ∧
      ∀ parameter ∈ optional, parameter.default ≠ none := by
  refine ⟨_, _, rfl, ?_, ?_⟩
  · intro parameter member
    simpa using (List.mem_filter.mp member).2
  · intro parameter member
    simpa [Option.isSome_iff_ne_none] using (List.mem_filter.mp member).2

theorem isSome_default_parameter (name : String) (field : InputDataField Object) :
    (parameter name field).default.isSome = field.hasDefault := by
  rcases field with ⟨_, required, _, default, _, _⟩
  cases default with
  | none =>
      cases required with
      | true => rfl
      | false => rfl
  | some default => rfl

/-- The parameters are those that a template takes its keyword arguments for. -/
theorem names_makeSignature {cls : Class} {template : PipelineTemplate Object}
    (fields : hierarchy.getFields cls = template.fields.map fun field => (field.name, field))
    (named : ∀ field ∈ template.fields, field.name ≠ "") :
    (hierarchy.makeSignature cls).map Parameter.name =
      template.signature.map InputDataField.name := by
  have all : (hierarchy.getFields cls).filter (fun entry => entry.1 ≠ "") =
      template.fields.map fun field => (field.name, field) := by
    rw [fields, List.filter_eq_self]
    intro entry member
    rcases List.mem_map.mp member with ⟨field, present, rfl⟩
    simpa using named field present
  simp only [makeSignature, all, PipelineTemplate.signature, List.map_map, List.map_append,
    List.filter_map]
  congr 1
  · congr 1
    apply List.filter_congr
    intro field _
    simp [← isSome_default_parameter field.name]
  · congr 1
    apply List.filter_congr
    intro field _
    simp [← isSome_default_parameter field.name]

theorem signaturesAfter_concat (front : List (ClassUse Class)) (use : ClassUse Class) :
    hierarchy.signaturesAfter (front ++ [use]) =
      hierarchy.constructCallSignature (hierarchy.signaturesAfter front) use.cls := by
  rw [signaturesAfter, List.foldl_append]
  rfl

omit [DecidableEq Class] in
theorem pioneer_concat (front : List (ClassUse Class)) (use : ClassUse Class) (cls : Class) :
    hierarchy.Pioneer (front ++ [use]) cls ↔
      hierarchy.Pioneer front cls ∨
        (use.cls = cls ∧ ∀ earlier ∈ front, earlier.cls ∉ hierarchy.mro cls) := by
  constructor
  · rintro ⟨before, first, rest, split, named, fresh⟩
    rcases List.eq_nil_or_concat rest with rfl | ⟨rest, last, rfl⟩
    · rcases List.append_inj' split rfl with ⟨rfl, same⟩
      cases same
      exact .inr ⟨named, fresh⟩
    · rw [List.concat_eq_append, ← List.cons_append, ← List.append_assoc] at split
      rcases List.append_inj' split rfl with ⟨rfl, _⟩
      exact .inl ⟨before, first, rest, rfl, named, fresh⟩
  · rintro (⟨before, first, rest, rfl, named, fresh⟩ | ⟨named, fresh⟩)
    · exact ⟨before, first, rest ++ [use], by simp, named, fresh⟩
    · exact ⟨front, use, [], rfl, named, fresh⟩

omit [DecidableEq Class] in
theorem Pioneer.used {history : List (ClassUse Class)} {cls : Class}
    (pioneer : hierarchy.Pioneer history cls) : ∃ use ∈ history, use.cls = cls := by
  rcases pioneer with ⟨front, use, rest, rfl, named, _⟩
  exact ⟨use, by simp, named⟩

theorem exists_pioneer {cls : Class} {history : List (ClassUse Class)} {use : ClassUse Class}
    (member : use ∈ history) (base : use.cls ∈ hierarchy.mro cls) :
    ∃ pioneer ∈ hierarchy.mro cls, hierarchy.Pioneer history pioneer := by
  have found : (history.find? fun use => use.cls ∈ hierarchy.mro cls).isSome := by
    rw [List.find?_isSome]
    exact ⟨use, member, by simpa using base⟩
  rcases Option.isSome_iff_exists.mp found with ⟨first, found⟩
  rcases List.find?_eq_some_iff_append.mp found with ⟨here, front, rest, split, earlier⟩
  have here : first.cls ∈ hierarchy.mro cls := by simpa using here
  refine ⟨first.cls, here, front, first, rest, split, rfl, ?_⟩
  intro use used inherited
  have outside := earlier use used
  simp only [Bool.not_eq_eq_eq_not, Bool.not_true, decide_eq_false_iff_not] at outside
  exact outside (hierarchy.mro_subset cls first.cls here use.cls inherited)

theorem signaturesAfter_eq_some_iff (history : List (ClassUse Class)) (cls : Class)
    (signature : Signature Object) :
    hierarchy.signaturesAfter history cls = some signature ↔
      hierarchy.Pioneer history cls ∧ signature = hierarchy.makeSignature cls := by
  induction history using List.reverseRecOn generalizing cls signature with
  | nil =>
      constructor
      · rintro ⟨⟩
      · rintro ⟨⟨front, use, rest, split, _⟩, _⟩
        simp at split
  | append_singleton front use induction =>
      have found : (hierarchy.getattr (hierarchy.signaturesAfter front) use.cls).isSome ↔
          ∃ earlier ∈ front, earlier.cls ∈ hierarchy.mro use.cls := by
        rw [getattr, List.isSome_findSome?]
        simp only [List.any_eq_true]
        constructor
        · rintro ⟨base, member, kept⟩
          rcases Option.isSome_iff_exists.mp kept with ⟨signature, kept⟩
          rcases ((induction base signature).mp kept).1.used with ⟨earlier, used, rfl⟩
          exact ⟨earlier, used, member⟩
        · rintro ⟨earlier, used, base⟩
          rcases exists_pioneer used base with ⟨pioneer, member, isPioneer⟩
          refine ⟨pioneer, member, ?_⟩
          rw [(induction pioneer _).mpr ⟨isPioneer, rfl⟩]
          rfl
      rw [signaturesAfter_concat, constructCallSignature, pioneer_concat]
      by_cases used : ∃ earlier ∈ front, earlier.cls ∈ hierarchy.mro use.cls
      · have stays : ¬(use.cls = cls ∧
            ∀ earlier ∈ front, earlier.cls ∉ hierarchy.mro cls) := by
          rintro ⟨rfl, fresh⟩
          rcases used with ⟨earlier, member, base⟩
          exact fresh earlier member base
        rw [if_pos (found.mpr used), induction]
        simp only [stays, or_false]
      · rw [if_neg (fun kept => used (found.mp kept))]
        by_cases same : use.cls = cls
        · subst same
          have fresh : ∀ earlier ∈ front, earlier.cls ∉ hierarchy.mro use.cls :=
            fun earlier member base => used ⟨earlier, member, base⟩
          simp only [Function.update_self, Option.some.injEq]
          exact ⟨fun equal => ⟨.inr ⟨trivial, fresh⟩, equal.symm⟩, fun both => both.2.symm⟩
        · rw [Function.update_of_ne (fun equal => same equal.symm), induction]
          simp only [same, false_and, or_false]

theorem getattr_eq_some_iff (history : List (ClassUse Class)) (cls : Class)
    (signature : Signature Object) :
    hierarchy.getattr (hierarchy.signaturesAfter history) cls = some signature ↔
      ∃ nearer nearest further, hierarchy.mro cls = nearer ++ nearest :: further ∧
        hierarchy.Pioneer history nearest ∧
        (∀ other ∈ nearer, ¬hierarchy.Pioneer history other) ∧
        signature = hierarchy.makeSignature nearest := by
  have none_iff : ∀ other, hierarchy.signaturesAfter history other = none ↔
      ¬hierarchy.Pioneer history other := by
    intro other
    rw [Option.eq_none_iff_forall_ne_some]
    constructor
    · intro missing pioneer
      exact missing _ ((signaturesAfter_eq_some_iff history other _).mpr ⟨pioneer, rfl⟩)
    · intro absent signature kept
      exact absent ((signaturesAfter_eq_some_iff history other signature).mp kept).1
  rw [getattr, List.findSome?_eq_some_iff]
  constructor
  · rintro ⟨nearer, nearest, further, split, kept, missing⟩
    rcases (signaturesAfter_eq_some_iff history nearest signature).mp kept with ⟨pioneer, own⟩
    exact ⟨nearer, nearest, further, split, pioneer,
      fun other member => (none_iff other).mp (missing other member), own⟩
  · rintro ⟨nearer, nearest, further, split, pioneer, absent, own⟩
    exact ⟨nearer, nearest, further, split,
      (signaturesAfter_eq_some_iff history nearest signature).mpr ⟨pioneer, own⟩,
      fun other member => (none_iff other).mpr (absent other member)⟩

/-- A signature that is found is used, and otherwise the one that has just been made. -/
theorem boundSignature_eq (signatures : Signatures Class Object) (use : ClassUse Class) :
    hierarchy.boundSignature signatures use =
      some ((hierarchy.getattr signatures use.cls).getD (hierarchy.makeSignature use.cls)) := by
  have general : hierarchy.getattr (hierarchy.constructCallSignature signatures use.cls)
      use.cls =
        some ((hierarchy.getattr signatures use.cls).getD
          (hierarchy.makeSignature use.cls)) := by
    unfold constructCallSignature
    cases found : hierarchy.getattr signatures use.cls with
    | some signature => simp [found]
    | none =>
        rcases hierarchy.self_mem_mro use.cls with ⟨bases, mro⟩
        simp [getattr, mro]
  cases use with
  | instantiate cls => exact general
  | template cls => exact general

theorem boundSignature_own_iff (front : List (ClassUse Class)) (use : ClassUse Class) :
    hierarchy.boundSignature (hierarchy.signaturesAfter front) use =
        some (hierarchy.makeSignature use.cls) ↔
      ∀ nearer nearest further, hierarchy.mro use.cls = nearer ++ nearest :: further →
        hierarchy.Pioneer front nearest → (∀ cls ∈ nearer, ¬hierarchy.Pioneer front cls) →
        hierarchy.makeSignature nearest = hierarchy.makeSignature use.cls := by
  rw [boundSignature_eq, Option.some.injEq]
  constructor
  · intro own nearer nearest further split pioneer absent
    have found := (getattr_eq_some_iff front use.cls _).mpr
      ⟨nearer, nearest, further, split, pioneer, absent, rfl⟩
    rw [found] at own
    exact own
  · intro agrees
    cases found : hierarchy.getattr (hierarchy.signaturesAfter front) use.cls with
    | none => rfl
    | some signature =>
        rcases (getattr_eq_some_iff front use.cls signature).mp found with
          ⟨nearer, nearest, further, split, pioneer, absent, rfl⟩
        exact agrees nearer nearest further split pioneer absent

theorem boundSignature_withoutBases (front : List (ClassUse Class)) (use : ClassUse Class) :
    hierarchy.boundSignature
        (hierarchy.signaturesAfter (hierarchy.withoutBases use.cls front)) use =
      some (hierarchy.makeSignature use.cls) := by
  rw [boundSignature_own_iff]
  intro nearer nearest further split pioneer _
  rcases pioneer.used with ⟨earlier, member, rfl⟩
  have kept := (List.mem_filter.mp member).2
  simp only [decide_eq_true_eq] at kept
  rcases kept with same | outside
  · rw [same]
  · exact absurd (by rw [split]; simp) outside

theorem historyIndependent_iff (history : List (ClassUse Class)) :
    hierarchy.HistoryIndependent history ↔ hierarchy.InheritsOwnSignature history := by
  constructor
  · intro independent front use rest split
    exact (boundSignature_own_iff front use).mp (independent.own front use rest split)
  · intro inherits
    have own : ∀ front use rest, history = front ++ use :: rest →
        hierarchy.boundSignature (hierarchy.signaturesAfter front) use =
          some (hierarchy.makeSignature use.cls) := fun front use rest split =>
      (boundSignature_own_iff front use).mpr (inherits front use rest split)
    refine ⟨own, makeSignature_requiredFirst, fun front use rest split => ?_⟩
    rw [own front use rest split, boundSignature_withoutBases]

end Signatures

end PipelineHierarchy

def numberedField (number : Nat) : InputDataField String where
  name := "field" ++ toString number

/-- Every class is derived from the one before, and has a field of its own. -/
def chainHierarchy : PipelineHierarchy Nat String where
  root := 0
  namespaceOf cls := [((numberedField cls).name, .inputDataField (numberedField cls))]
  nodup _ := List.nodup_singleton _
  mro cls := (List.range (cls + 1)).reverse
  self_mem_mro cls := ⟨(List.range cls).reverse, by simp [List.range_succ]⟩
  mro_root := rfl
  mro_subset cls base member other inherited := by
    simp only [List.mem_reverse, List.mem_range] at member inherited ⊢
    omega

/-- The base is instantiated before the class that is derived from it. -/
theorem not_historyIndependent_baseFirst :
    ¬chainHierarchy.HistoryIndependent [.instantiate 1, .instantiate 2] := by
  intro independent
  have own := independent.own [.instantiate 1] (.instantiate 2) [] rfl
  revert own
  decide

end EventPipeline
