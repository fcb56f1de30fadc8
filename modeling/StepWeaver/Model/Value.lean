/-
Module: StepWeaver.Model.Value
Layer: Model
Purpose: The values that test steps wait for, type in, look at and compare.
Main exports: PropertyRef, Value, Value.isAmbient, Value.isStorable
-/
import StepWeaver.Model.Locator
import StepWeaver.Model.Node

namespace StepWeaver

/-- Refers to a property of an object by name. -/
structure PropertyRef where
  /-- The reference as the test writes it. -/
  reference : String
  /-- The name of the object. -/
  object : String
  /-- The name of the property. -/
  property : String
deriving DecidableEq, Repr, Inhabited

namespace PropertyRef

/-- A property written with a dollar sign before the object and a dot before the property. -/
def ofNames (object property : String) : PropertyRef where
  reference := "$" ++ object ++ "." ++ property
  object
  property

/-- An element that an imported page names. -/
def ofPageElement (page element : String) : PropertyRef where
  reference := page ++ ".elements." ++ element
  object := page
  property := element

end PropertyRef

/-- A value of a test. -/
inductive Value where
  /-- A text written in the test. -/
  | literal (text : String)
  /-- What an element of the page holds. -/
  | element (path : ElementPath)
  /-- What an attribute of an element holds. -/
  | elementAttribute (path : AttributePath)
  /-- A parameter of the environment that the test runs in. -/
  | environment (ref : PropertyRef)
  /-- A property of the browser. -/
  | browser (ref : PropertyRef)
  /-- A property of the page that the browser shows. -/
  | page (ref : PropertyRef)
  /-- A parameter that a data set fills in. -/
  | dataParameter (ref : PropertyRef)
  /-- An element that the test names. -/
  | elementParameter (ref : PropertyRef)
  /-- An element that an imported page names. -/
  | pageElement (ref : PropertyRef)
deriving DecidableEq, Repr, Inhabited

namespace Value

/-!
### Properties of the objects that every test knows
-/

/-- A parameter of the environment. -/
def ofEnvironment (key : String) : Value := environment (.ofNames "env" key)

/-- A property of the browser. -/
def ofBrowser (property : String) : Value := browser (.ofNames "browser" property)

/-- A property of the page. -/
def ofPage (property : String) : Value := page (.ofNames "page" property)

/-- A parameter that a data set fills in. -/
def ofData (key : String) : Value := dataParameter (.ofNames "data" key)

/-- An element that the test names. -/
def ofElementName (name : String) : Value := elementParameter (.ofNames "elements" name)

/-- An element that an imported page names. -/
def ofPageElement (page element : String) : Value := pageElement (.ofPageElement page element)

/-!
### Description and use
-/

/-- The name of a value's constructor in a document. -/
def tag : Value → String
  | literal _ => "literal"
  | element _ => "element_reference"
  | elementAttribute _ => "attribute_reference"
  | environment _ => "environment_parameter"
  | browser _ => "browser_property"
  | page _ => "page_property"
  | dataParameter _ => "data_parameter"
  | elementParameter _ => "element_parameter"
  | pageElement _ => "page_element_reference"

/-- The value in the words of a test. -/
def describe : Value → String
  | literal text => Text.DoubleQuoted.encode text
  | element path => path.describe
  | elementAttribute path => path.describe
  | environment ref | browser ref | page ref | dataParameter ref | elementParameter ref
  | pageElement ref => ref.reference

instance : Node Value where
  category := .value
  describe

/-- Whether the value is a text that browser, page or environment give. -/
def isAmbient : Value → Bool
  | environment _ | browser _ | page _ => true
  | _ => false

/-- Whether the value can be stored in a placeholder. An attribute needs a name for that. Parameters
    of data sets and names of elements stand for something that nobody has filled in. -/
def isStorable : Value → Bool
  | literal _ | element _ | environment _ | browser _ | page _ => true
  | elementAttribute path => path.hasName
  | dataParameter _ | elementParameter _ | pageElement _ => false

end Value

end StepWeaver
