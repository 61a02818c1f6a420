import GuardedPatch.Yaml.Scalar.Folding

set_option autoImplicit false

/-! # Plain scalars

A plain scalar runs on over blanks and line breaks as long as its lines are indented deeper than the collection
around it. It ends before a colon that a blank follows, before a number sign after a blank, before a document
marker, and in flow collections before the characters that structure them. -/

namespace GuardedPatch.Yaml

/-- A scalar's text and what follows it. -/
structure Scanned where
  text : String
  after : Cursor
  /-- Set if a line break was passed after the scalar's last character. -/
  passedBreak : Bool

/-- The characters that structure flow collections. -/
def isFlowIndicator (c : Char) : Bool :=
  c == ',' || c == '[' || c == ']' || c == '\x7b' || c == '\x7d'

/-- Reads on in a plain scalar: `text` holds what was read so far, the latest character first, and `gap` what
stands after its last word. -/
def plainFrom (flow : Bool) (indent : Int) (text : List Char) (gap : Gap) (place : Position) :
    List Char → Except SyntaxError Scanned
  | [] => .ok ⟨String.ofList text.reverse, ⟨[], place⟩, gap.hasBreak⟩
  | c :: rest =>
    let done : Scanned := ⟨String.ofList text.reverse, ⟨c :: rest, place⟩, gap.hasBreak⟩
    if isBlank c || isBreak c then
      if c = '\t' ∧ gap.hasBreak ∧ (place.column : Int) < indent then .error .tabIndentation
      else plainFrom flow indent text (gap.add c) (place.after c) rest
    else if gap.isSome && ((!flow && (place.column : Int) < indent) || c == '#') then .ok done
    else if place.column = 0 && startsDocumentMarker (c :: rest) then .ok done
    else if flow && c == ':' && rest.head?.any (fun d => isFlowIndicator d || d == '?') then .error .strayColon
    else if (c == ':' && startsBlank rest) || (flow && isFlowIndicator c) then .ok done
    else plainFrom flow indent (c :: (gap.folded ++ text)) .none (place.after c) rest

/-- The plain scalar that starts at a cursor, inside a collection indented by `indent - 1`. -/
def scanPlain (flow : Bool) (indent : Int) (c : Cursor) : Except SyntaxError Scanned :=
  plainFrom flow indent [] .none c.place c.rest

end GuardedPatch.Yaml
