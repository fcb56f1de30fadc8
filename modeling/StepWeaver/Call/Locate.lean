/-
Module: StepWeaver.Call.Locate
Layer: Calls
Purpose: The source that builds locators.
Main exports: Call.newLocator, Call.locate, Call.locateLineage, Call.locateStored
-/
import StepWeaver.Fragment.Basic
import StepWeaver.Model.Locator
import StepWeaver.Text.Quoted

namespace StepWeaver.Call

/-- The constant that stands for the language of a locator. -/
def kindConstant : LocatorKind → String
  | .cssSelector => "CSS_SELECTOR"
  | .xpathExpression => "XPATH_EXPRESSION"

/-- The expression that builds a locator. -/
def newLocator (locator : Locator) : String :=
  "new ElementLocator(LocatorType::" ++ kindConstant locator.kind ++ ", " ++
    Text.Quoted.literal locator.text ++ ", " ++ toString locator.position.toInt ++ ")"

/-- The classes that such an expression depends on. -/
def locatorClasses : Linkage :=
  Linkage.ofDependencies ["ElementLocator", "LocatorType"]

/-- Builds the locator of an element, whatever it is looked for in. -/
def locate (path : ElementPath) : Fragment where
  statements := [newLocator path.own]
  linkage := locatorClasses

/-- Builds the locators of a path as arguments of a call, innermost first. -/
def locateLineage (path : ElementPath) : Fragment where
  statements := [", ".intercalate (path.lineage.map newLocator)]
  linkage := locatorClasses

/-- Like `locateLineage`, but the locator of the element itself has been stored before. The classes
    are needed only if there are others to build. -/
def locateStored (stored : Placeholder) (path : ElementPath) : Fragment where
  statements := [", ".intercalate (stored.token :: path.ancestors.map newLocator)]
  linkage :=
    if path.ancestors.isEmpty then Linkage.ofExports [stored]
    else (Linkage.ofExports [stored]).merge [locatorClasses]

end StepWeaver.Call
