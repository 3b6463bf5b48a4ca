import AnswerQuery.Text.Basic

/-! Traces: which parts of the work are reported while it is done. -/

namespace AnswerQuery

/-- A part of the work that can be reported. -/
inductive Topic where
  | extract
  | normalize
  | pipeline
  deriving DecidableEq, Repr

namespace Topic

/-- Every topic. -/
def all : List Topic := [extract, normalize, pipeline]

/-- The name of a topic. -/
def name : Topic → Text
  | extract => "extract".toList
  | normalize => "normalize".toList
  | pipeline => "pipeline".toList

/-- The bit that stands for a topic in the number of a trace. -/
def bit : Topic → Nat
  | extract => 1
  | normalize => 2
  | pipeline => 4

end Topic

/-- A set of topics, as the test of membership. -/
structure Trace where
  /-- Whether a topic is reported. -/
  reports : Topic → Bool

namespace Trace

/-- Nothing is reported. -/
def none : Trace := ⟨fun _ => false⟩

/-- Everything is reported. -/
def everything : Trace := ⟨fun _ => true⟩

/-- One topic is reported. -/
def only (topic : Topic) : Trace := ⟨fun other => other == topic⟩

/-- What is reported in either of two traces. -/
def union (first second : Trace) : Trace := ⟨fun topic => first.reports topic || second.reports topic⟩

/-- The trace of a level: the name of a topic, or `all`. -/
def ofLevel? (level : Text) : Option Trace :=
  if level == "all".toList then some everything
  else (Topic.all.find? (fun topic => topic.name == level)).map only

/-- The message about a level that is no name. -/
def unknownLevel (level : Text) : Text :=
  "unknown trace level `".toList ++ level ++ "`".toList

/-- The trace of several levels together, or the message about the first that is no name. -/
def ofLevels : List Text → Except Text Trace
  | [] => .ok none
  | level :: levels =>
    match ofLevel? level with
    | some trace => (ofLevels levels).map trace.union
    | Option.none => .error (unknownLevel level)

/-- The number of a trace, with one bit for each topic. -/
def bits (trace : Trace) : Nat :=
  -- The bits differ, so that their sum is their union.
  Topic.all.foldl (fun number topic => if trace.reports topic then number + topic.bit else number) 0

/-- What is written for a message on a topic: a line of its own, if the topic is reported. -/
def line (trace : Trace) (topic : Topic) (message : Text) : Text :=
  if trace.reports topic then message ++ ['\n'] else []

end Trace

end AnswerQuery
