import PortletPage.Page
import PortletPage.Registry
import PortletPage.Submission

/-!
# Failures

The causes for which an operation of a hub or a reader of pages fails, and their
wording.
-/

namespace PortletPage

/-- Why an operation failed. -/
inductive Failure where
  /-- The page has no such portlet. -/
  | unknownPortlet (id : String)
  /-- The round trip of a submission failed. -/
  | communication (portlet : String) (error : TransportError)
  /-- The handle is of another portlet or no longer attached. -/
  | unknownListener (handle : Handle)
  /-- The event type is empty, reserved, or not for this operation. -/
  | invalidEventType (name : String)
  /-- The exchange with the server broke off. -/
  | interrupted
  /-- The page is not valid. -/
  | invalidPage (fault : Page.Fault)
  /-- The text is no YAML document of the wanted form. -/
  | yaml
  /-- The text is no JSON document of the wanted form. -/
  | json
  /-- The file cannot be read as text. -/
  | unreadable
  deriving DecidableEq, Repr

namespace Failure

/-- The wording of a failure; none where it is left to the reader of the document,
of the file or of the exchange. -/
def message : Failure → Option String
  | .unknownPortlet id => some ("Unknown portlet: " ++ id)
  | .communication portlet error =>
    some ("Communication failure for portlet " ++ portlet ++ ": " ++ error.message)
  | .unknownListener handle => some ("Unknown listener handle: " ++ handle.text)
  | .invalidEventType name => some ("Invalid event type: '" ++ name ++ "'")
  | .invalidPage fault => some ("Bootstrap error: " ++ fault.message)
  | .interrupted | .yaml | .json | .unreadable => none

/-- Whether a round trip failed. -/
def isCommunication : Failure → Bool
  | .communication _ _ => true
  | _ => false

end Failure

end PortletPage
