import EventPipeline.Task.PipelineTask
import Mathlib.Logic.Function.Defs

/-! # Statements of a DOT graph

The statements of nodes and of edges, and their texts. Different statements have
different texts, so that a text is new exactly when its statement is.
-/

namespace EventPipeline

inductive Shape
  | box
  | diamond
  | record
  | circle
deriving DecidableEq, Repr

def Shape.name : Shape → String
  | .box => "box"
  | .diamond => "diamond"
  | .record => "record"
  | .circle => "circle"

def Shape.fillcolor : Shape → String
  | .record => "lightblue"
  | .box | .diamond | .circle => "yellow"

structure DotNode where
  id : TaskId
  label : String
  shape : Shape
deriving DecidableEq, Repr

structure DotEdge where
  source : TaskId
  target : TaskId
  taillabel : Option Nat
deriving DecidableEq, Repr

def DotNode.text (node : DotNode) : String :=
  "\t\"" ++ toString node.id ++ "\" [label=\"" ++ node.label ++ "\", shape=" ++
    node.shape.name ++ ", style=\"filled,rounded\", fillcolor=" ++ node.shape.fillcolor ++ "]\n"

def DotEdge.text (edge : DotEdge) : String :=
  "\t\"" ++ toString edge.source ++ "\" -> \"" ++ toString edge.target ++ "\"" ++
    match edge.taillabel with
    | none => ""
    | some descriptor => " [taillabel=\"" ++ toString descriptor ++ "\"]"

/-! ## Texts -/

theorem append_cons_inj {Value : Type} {mark : Value} {left right leftRest rightRest : List Value}
    (leftFree : mark ∉ left) (rightFree : mark ∉ right)
    (same : left ++ mark :: leftRest = right ++ mark :: rightRest) :
    left = right ∧ leftRest = rightRest := by
  induction left generalizing right with
  | nil =>
      cases right with
      | nil =>
          cases same
          exact ⟨rfl, rfl⟩
      | cons value right =>
          cases same
          exact absurd List.mem_cons_self rightFree
  | cons value left induction =>
      cases right with
      | nil =>
          cases same
          exact absurd List.mem_cons_self leftFree
      | cons other right =>
          rw [List.cons_append, List.cons_append, List.cons.injEq] at same
          rcases same with ⟨rfl, same⟩
          rcases induction (fun member => leftFree (List.mem_cons_of_mem _ member))
            (fun member => rightFree (List.mem_cons_of_mem _ member)) same with ⟨rfl, rest⟩
          exact ⟨rfl, rest⟩

theorem quote_not_mem_toString (number : Nat) : '"' ∉ (toString number).toList := by
  intro member
  rw [show toString number = number.repr from rfl, Nat.toList_repr] at member
  have digit := Nat.isDigit_of_mem_toDigits (by decide) (by decide) member
  exact absurd digit (by decide)

theorem quoted_inj {first second : Nat} {firstRest secondRest : List Char}
    (same : (toString first).toList ++ '"' :: firstRest =
      (toString second).toList ++ '"' :: secondRest) :
    first = second ∧ firstRest = secondRest := by
  rcases append_cons_inj (quote_not_mem_toString first) (quote_not_mem_toString second) same with
    ⟨digits, rest⟩
  refine ⟨?_, rest⟩
  have numbers := congrArg (fun digits => Nat.ofDigitChars 10 digits 0) digits
  simpa [Nat.toString_eq_ofList_toDigits] using numbers

theorem reverse_getElem?_of_append {Value : Type} {left right leftEnd rightEnd : List Value}
    (same : left ++ leftEnd = right ++ rightEnd) {index : Nat} (inLeft : index < leftEnd.length)
    (inRight : index < rightEnd.length) : leftEnd.reverse[index]? = rightEnd.reverse[index]? := by
  have reversed := congrArg (fun list : List Value => list.reverse[index]?) same
  simp only [List.reverse_append] at reversed
  rwa [List.getElem?_append_left (by simpa using inLeft),
    List.getElem?_append_left (by simpa using inRight)] at reversed

/-- The text of a node behind its label. -/
def Shape.closing (shape : Shape) : String :=
  "\", shape=" ++ shape.name ++ ", style=\"filled,rounded\", fillcolor=" ++ shape.fillcolor ++
    "]\n"

/-- The last characters of the color and of the name tell the shapes apart. -/
theorem Shape.closing_marks (shape : Shape) :
    44 < shape.closing.toList.length ∧
      (shape.closing.toList.reverse[2]?, shape.closing.toList.reverse[44]?) =
        match shape with
        | .box => (some 'w', some 'x')
        | .diamond => (some 'w', some 'd')
        | .record => (some 'e', some 's')
        | .circle => (some 'w', some 'e') := by
  cases shape <;> exact ⟨by decide, rfl⟩

theorem Shape.closing_inj {shape other : Shape} {label otherLabel : List Char}
    (same : label ++ shape.closing.toList = otherLabel ++ other.closing.toList) :
    shape = other := by
  rcases shape.closing_marks with ⟨length, marks⟩
  rcases other.closing_marks with ⟨otherLength, otherMarks⟩
  have color := @reverse_getElem?_of_append _ _ _ _ _ same 2 (by omega) (by omega)
  have name := @reverse_getElem?_of_append _ _ _ _ _ same 44 length otherLength
  rw [color, name, otherMarks] at marks
  cases shape <;> cases other <;> first | rfl | simp at marks

theorem DotEdge.text_injective : Function.Injective DotEdge.text := by
  rintro ⟨source, target, taillabel⟩ ⟨otherSource, otherTarget, otherTaillabel⟩ same
  have chars := congrArg String.toList same
  simp only [DotEdge.text, String.toList_append, List.append_assoc] at chars
  have front : (toString source).toList ++ '"' :: _ = (toString otherSource).toList ++ '"' :: _ :=
    List.append_cancel_left chars
  rcases quoted_inj front with ⟨rfl, rest⟩
  have middle : (toString target).toList ++ '"' :: _ = (toString otherTarget).toList ++ '"' :: _ :=
    @List.append_cancel_left _ " -> \"".toList _ _ rest
  rcases quoted_inj middle with ⟨rfl, tail⟩
  cases taillabel with
  | none =>
      cases otherTaillabel with
      | none => rfl
      | some descriptor => simp [String.toList_append] at tail
  | some descriptor =>
      cases otherTaillabel with
      | none => simp [String.toList_append] at tail
      | some otherDescriptor =>
          simp only [String.toList_append, List.append_assoc] at tail
          have last : (toString descriptor).toList ++ '"' :: _ =
              (toString otherDescriptor).toList ++ '"' :: _ :=
            @List.append_cancel_left _ " [taillabel=\"".toList _ _ tail
          rw [(quoted_inj last).1]

theorem DotNode.text_eq (node : DotNode) :
    node.text =
      "\t\"" ++ toString node.id ++ "\" [label=\"" ++ (node.label ++ node.shape.closing) := by
  simp only [DotNode.text, Shape.closing, String.append_assoc]

theorem DotNode.text_injective : Function.Injective DotNode.text := by
  rintro ⟨id, label, shape⟩ ⟨otherId, otherLabel, otherShape⟩ same
  have chars := congrArg String.toList same
  simp only [DotNode.text_eq, String.toList_append, List.append_assoc] at chars
  have front : (toString id).toList ++ '"' :: _ = (toString otherId).toList ++ '"' :: _ :=
    List.append_cancel_left chars
  rcases quoted_inj front with ⟨rfl, rest⟩
  have tails := @List.append_cancel_left _ " [label=\"".toList _ _ rest
  obtain rfl := Shape.closing_inj tails
  rw [String.toList_inj.mp (List.append_cancel_right tails)]
end EventPipeline
