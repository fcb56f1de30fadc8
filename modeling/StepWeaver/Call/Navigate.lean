/-
Module: StepWeaver.Call.Navigate
Layer: Calls
Purpose: The source that looks elements up.
Main exports: Lookup, Call.navigate, Call.lookUp
-/
import StepWeaver.Call.Locate
import StepWeaver.Scope

namespace StepWeaver

/-- What is asked of a navigator. -/
inductive Lookup where
  /-- All elements that are found. -/
  | find
  /-- The one element that is found. -/
  | findOne
  /-- Whether anything is found. -/
  | has
  /-- Whether one element is found. -/
  | hasOne
deriving DecidableEq, Repr, Inhabited

namespace Lookup

/-- All questions. -/
def all : List Lookup := [find, findOne, has, hasOne]

/-- The method that answers a question. -/
def method : Lookup → String
  | find => "find"
  | findOne => "findOne"
  | has => "has"
  | hasOne => "hasOne"

end Lookup

namespace Call

/-- Asks the navigator, given the arguments of the call. -/
def navigate (lookup : Lookup) (arguments : Fragment) : Scoped Fragment := do
  let navigator ← Scoped.create .navigator
  return arguments.wrap
    (fun text => navigator.token ++ "->" ++ lookup.method ++ "(" ++ text ++ ")")
    (Linkage.ofExports [navigator])

/-- Asks the navigator about a path, whose locators are built on the spot. -/
def lookUp (lookup : Lookup) (path : ElementPath) : Scoped Fragment :=
  navigate lookup (locateLineage path)

end Call

end StepWeaver
