/-
Module: StepWeaver.Rule.Action
Layer: Rules
Purpose: The rules for what is done in the browser.
Main exports: Rule.wait, Rule.navigation, Rule.click, Rule.submit, Rule.waitFor, Rule.set,
  Rule.forActions
-/
import StepWeaver.Binding
import StepWeaver.Model.Step

namespace StepWeaver.Rule

/-!
### Waiting
-/

/-- Stores a duration, which is given in milliseconds, and sleeps that long. A duration that the
    environment does not give is zero. -/
def sleep (binder : Binder) (duration : Value) : Attempt Fragment := do
  let target ← Scoped.fresh .duration
  let stored ← binder.valueAs duration target binder.settings.durationCast "0"
  let call := Fragment.ofStatement ("usleep(" ++ target.token ++ " * 1000)") [target]
  return Fragment.concat [stored.toFragment, call]

/-- Lets some time pass. -/
def wait (binder : Binder) : Rule Action where
  name := "wait"
  handles
    | .wait duration => duration.isStorable
    | _ => false
  weave node :=
    match node with
    | .wait duration => ((sleep binder duration).within node).alone
    | _ => .error (Rejection.ofNode node)

/-!
### The browser as a whole
-/

/-- A method of the client that leads to another page. -/
def crawl (call : String) : Fragment :=
  let crawler := Role.crawler.placeholder
  let client := Role.client.placeholder
  Fragment.ofStatement (crawler.token ++ " = " ++ client.token ++ "->" ++ call) [crawler, client]

/-- Goes back or forward, or loads the page again. -/
def navigation : Rule Action where
  name := "navigation"
  handles
    | .navigate _ => true
    | _ => false
  weave node :=
    match node with
    | .navigate kind => .ok (crawl (kind.name ++ "()"))
    | _ => .error (Rejection.ofNode node)

/-!
### Elements
-/

/-- Looks an element up and calls a method of it. -/
def actOn (path : ElementPath) (method : String) : Scoped Fragment := do
  let target ← Scoped.fresh .element
  let stored ← Binding.element path target
  let call := Fragment.ofStatement (target.token ++ "->" ++ method ++ "()") [target]
  return Fragment.concat [stored.toFragment, call]

/-- One kind of interaction with an element. The rule goes by the name of the method that it calls. -/
def interaction (kind : Interaction) (method : String) : Rule Action where
  name := method
  handles
    | .interact other (.element _) => other = kind
    | _ => false
  weave node :=
    match node with
    | .interact other (.element path) =>
      if other = kind then .ok (actOn path method).alone else .error (Rejection.ofNode node)
    | _ => .error (Rejection.ofNode node)

/-- Clicks on an element. -/
def click : Rule Action := interaction .click "click"

/-- Submits a form. -/
def submit : Rule Action := interaction .submit "submit"

/-- Whether a path is no more than the text of a locator: it has no parent and means the first
    element. -/
def isBare (path : ElementPath) : Bool :=
  path.ancestors.isEmpty && path.own.position == 1

/-- Waits until a locator finds something. The client knows nothing of parents and positions. -/
def waitFor : Rule Action where
  name := "wait-for"
  handles
    | .interact .waitFor (.element path) => isBare path
    | _ => false
  weave node :=
    match node with
    | .interact .waitFor (.element path) =>
      if isBare path then
        .ok (crawl ("waitFor(" ++ Text.Quoted.literal path.own.text ++ ")"))
      else
        .error (Rejection.ofNode node)
    | _ => .error (Rejection.ofNode node)

/-- Looks form fields up, stores a value, and fills it in. -/
def fillIn (binder : Binder) (path : ElementPath) (value : Value) : Attempt Fragment := do
  let fields ← Scoped.fresh .collection
  let target ← Scoped.fresh .value
  let storedFields ← Binding.collection path fields
  let storedValue ← binder.value value target
  let call ← Call.fillField fields target
  return Fragment.concat [storedFields.toFragment, storedValue.toFragment, call]

/-- Types a value into a form field. -/
def set (binder : Binder) : Rule Action where
  name := "set"
  handles
    | .input (.element _) value => value.isStorable
    | _ => false
  weave node :=
    match node with
    | .input (.element path) value => ((fillIn binder path value).within node).alone
    | _ => .error (Rejection.ofNode node)

/-- The rules for what is done in the browser. -/
def forActions (binder : Binder) : List (Rule Action) :=
  [wait binder, navigation, click, submit, waitFor, set binder]

end StepWeaver.Rule
