/-
Module: StepWeaver.Model.Locator
Layer: Model
Purpose: How a test step points at an element of a page, or at an attribute of an element.
Main exports: Locator, ElementPath, AttributePath, LocatorKind.ofText
-/
import StepWeaver.Text.Blank
import StepWeaver.Text.DoubleQuoted

namespace StepWeaver

/-- The language a locator is written in. -/
inductive LocatorKind where
  | cssSelector
  | xpathExpression
deriving DecidableEq, Repr, Inhabited

namespace LocatorKind

/-- Both languages. -/
def all : List LocatorKind := [cssSelector, xpathExpression]

/-- The name of a language in a document. -/
def name : LocatorKind → String
  | cssSelector => "css_selector"
  | xpathExpression => "xpath_expression"

/-- The language that a locator looks like: an expression starts with a slash, which a bracket may
    precede; everything else is a selector. -/
def ofText (text : String) : LocatorKind :=
  match text.toList with
  | '/' :: _ => xpathExpression
  | '(' :: '/' :: _ => xpathExpression
  | _ => cssSelector

end LocatorKind

/-- Finds elements within a page or within another element, and picks one of them. -/
structure Locator where
  /-- The selector or expression. -/
  text : String
  /-- Which of the two it is. -/
  kind : LocatorKind
  /-- Which of the elements found is meant. -/
  position : Int32 := 1
  /-- What the test calls the element. -/
  name : Option String := none
deriving DecidableEq, Repr, Inhabited

namespace Locator

/-- A locator of the first element, in the language that its text looks like. -/
def ofText (text : String) : Locator :=
  { text, kind := LocatorKind.ofText text }

/-- The locator in the words of a test: its text, and its position unless that is the first. -/
def describe (locator : Locator) : String :=
  Text.DoubleQuoted.encode locator.text ++
    if locator.position = 1 then "" else ":" ++ toString locator.position.toInt

end Locator

/-- Points at an element: finds it within its parent, that within its own parent, and so on. -/
structure ElementPath where
  /-- Finds the element itself. -/
  own : Locator
  /-- Find what it is looked for in, innermost first. -/
  ancestors : List Locator := []
deriving DecidableEq, Repr, Inhabited

namespace ElementPath

/-- The path of the element that this one is looked for in. -/
def parent? (path : ElementPath) : Option ElementPath :=
  match path.ancestors with
  | [] => none
  | own :: ancestors => some { own, ancestors }

/-- The same element looked for within another one. -/
def within (path parent : ElementPath) : ElementPath :=
  { path with ancestors := parent.own :: parent.ancestors }

/-- All locators of the path, innermost first. -/
def lineage (path : ElementPath) : List Locator :=
  path.own :: path.ancestors

/-- A lineage in the words of a test: the parent stands in double braces before the element. -/
def describeLineage : Locator → List Locator → String
  | own, [] => own.describe
  | own, parent :: ancestors =>
    "\x7b\x7b " ++ describeLineage parent ancestors ++ " \x7d\x7d " ++ own.describe

/-- The path in the words of a test. -/
def describe (path : ElementPath) : String :=
  describeLineage path.own path.ancestors

example :
    describe { own := { Locator.ofText "a\"b" with position := 2 }, ancestors := [.ofText "//p"] } =
      "\x7b\x7b \"//p\" \x7d\x7d \"a\\\"b\":2" := by decide +kernel

end ElementPath

/-- Points at an attribute of an element. -/
structure AttributePath where
  /-- The element. -/
  element : ElementPath
  /-- The name of the attribute. -/
  name : String
deriving DecidableEq, Repr, Inhabited

namespace AttributePath

/-- Whether the attribute is named: a blank name is none. -/
def hasName (path : AttributePath) : Bool :=
  !Text.isBlank path.name

/-- The path in the words of a test. -/
def describe (path : AttributePath) : String :=
  path.element.describe ++ "." ++ path.name

end AttributePath

end StepWeaver
