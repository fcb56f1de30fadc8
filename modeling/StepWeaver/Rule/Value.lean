/-
Module: StepWeaver.Rule.Value
Layer: Rules
Purpose: The rules for scalar values: literals, and texts that browser, page or environment give.
Main exports: Rule.literalValue, Rule.browserProperty, Rule.pageProperty, Rule.environmentParameter,
  Rule.forValues
-/
import StepWeaver.Role
import StepWeaver.Rule.Book
import StepWeaver.Text.Quoted

namespace StepWeaver.Rule

/-- A literal becomes a quoted literal of the source. -/
def literalValue : Rule Value where
  name := "literal-value"
  handles
    | .literal _ => true
    | _ => false
  weave
    | .literal text => .ok (Fragment.ofStatement (Text.Quoted.literal text))
    | node => .error (Rejection.ofNode node)

/-- The size of the browser window, width and height with an x between them. -/
def windowSize : Fragment :=
  let client := Role.client.placeholder
  let size := Role.windowSize.placeholder
  { statements :=
      [size.token ++ " = " ++ client.token ++ "->getWebDriver()->manage()->window()->getSize()",
        "(string) " ++ size.token ++ "->getWidth() . 'x' . (string) " ++ size.token ++
          "->getHeight()"]
    linkage := Linkage.ofExports [client, size] }

/-- Of the browser's properties there is the size of its window. -/
def browserProperty : Rule Value where
  name := "browser-property"
  handles
    | .browser _ => true
    | _ => false
  weave
    | .browser ref =>
      match ref.property with
      | "size" => .ok windowSize
      | property => .error (Rejection.ofProperty property (.browser ref))
    | node => .error (Rejection.ofNode node)

/-- A method of the client that gives a text. -/
def clientCall (method : String) : Fragment :=
  let client := Role.client.placeholder
  Fragment.ofStatement (client.token ++ "->" ++ method ++ "()") [client]

/-- Of a page's properties there are its title and its address. -/
def pageProperty : Rule Value where
  name := "page-property"
  handles
    | .page _ => true
    | _ => false
  weave
    | .page ref =>
      match ref.property with
      | "title" => .ok (clientCall "getTitle")
      | "url" => .ok (clientCall "getCurrentURL")
      | property => .error (Rejection.ofProperty property (.page ref))
    | node => .error (Rejection.ofNode node)

/-- A parameter of the environment, which may be absent when the test runs. -/
def environmentParameter : Rule Value where
  name := "environment-parameter"
  handles
    | .environment _ => true
    | _ => false
  weave
    | .environment ref =>
      let environment := Role.environment.placeholder
      .ok (Fragment.ofStatement
        (environment.token ++ "[" ++ Text.Quoted.literal ref.property ++ "]") [environment])
    | node => .error (Rejection.ofNode node)

/-- The rules for scalar values. -/
def forValues : List (Rule Value) :=
  [literalValue, browserProperty, pageProperty, environmentParameter]

end StepWeaver.Rule
