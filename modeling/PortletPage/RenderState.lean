import PortletPage.Parameters.Basic

/-!
# Render states

What a portlet shows: its mode, its window state and its render parameters.  Mode and
window state are free text.  The usual words are in `vocabulary`, which every registered
portlet is given, and whether a word is acceptable is for the server to say.

An `Edit` is a small change of a render state.  Edits are made one after the other.
-/

namespace PortletPage

/-! ## Words -/

/-- The words for modes, window states and cacheability levels. -/
structure Vocabulary where
  view : String
  edit : String
  help : String
  normal : String
  minimized : String
  maximized : String
  full : String
  portlet : String
  page : String
  deriving DecidableEq, Repr

/-- The words in use.  Mode and window state words are their own names. -/
def vocabulary : Vocabulary where
  view := "VIEW"
  edit := "EDIT"
  help := "HELP"
  normal := "NORMAL"
  minimized := "MINIMIZED"
  maximized := "MAXIMIZED"
  full := "cacheLevelFull"
  portlet := "cacheLevelPortlet"
  page := "cacheLevelPage"

/-- The version of the portlet interface that the page speaks. -/
def version : String := "0.1.0"

/-! ## States -/

/-- A portlet's mode, window state and render parameters. -/
structure RenderState where
  mode : String
  window : String
  parameters : Parameters
  deriving DecidableEq, Repr

namespace RenderState

/-- No mode, no window state, no parameters. -/
def empty : RenderState := ⟨"", "", .empty⟩

instance : Inhabited RenderState := ⟨empty⟩

/-- Whether two states differ in nothing but the order of their parameters. -/
def agrees (a b : RenderState) : Bool :=
  a.mode == b.mode && a.window == b.window && a.parameters.agrees b.parameters

/-- Binds a parameter, as `Parameters.insert`. -/
def bind (s : RenderState) (name : String) (values : Values) : RenderState :=
  { s with parameters := s.parameters.insert name values }

/-- Removes a parameter, as `Parameters.erase`. -/
def unbind (s : RenderState) (name : String) : RenderState :=
  { s with parameters := s.parameters.erase name }

end RenderState

/-! ## Edits -/

/-- A change of one part of a render state. -/
inductive Edit where
  | bind (name : String) (values : Values)
  | unbind (name : String)
  | mode (text : String)
  | window (text : String)
  deriving DecidableEq, Repr

namespace Edit

/-- The state after an edit. -/
def apply (s : RenderState) : Edit → RenderState
  | .bind name values => s.bind name values
  | .unbind name => s.unbind name
  | .mode text => { s with mode := text }
  | .window text => { s with window := text }

/-- The state after edits, made in turn. -/
def applyAll (edits : List Edit) (s : RenderState) : RenderState := edits.foldl apply s

end Edit

end PortletPage
