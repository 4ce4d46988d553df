/-
How the items of a container form lists.

Neighbouring items form one list as long as their delimiter is open at its
end. An item that touches the one before it, with no line ending between the
two, starts a list inside the list: nothing shows of that item, but its
delimiter is open too for the items that follow.
-/
import Typeset.Markdown.Tree

namespace Typeset.Markdown

/-- What stands in a container before its items are joined. -/
inductive Sibling (α : Type) where
  | block (b : Flow α)
  /-- An item; `touches` tells that it touches what is in front of it. -/
  | item (delimiter : Char) (touches : Bool) (children : List (Flow α))

/-- A list to which items may still be added. -/
structure OpenList (α : Type) where
  delimiter : Char
  /-- The delimiters that its next item may have. -/
  allowed : List Char
  /-- Its items, the last one first. -/
  items : List (List (Flow α))

namespace OpenList

variable {α : Type}

/-- The list that an item starts. -/
def start (delimiter : Char) (children : List (Flow α)) : OpenList α :=
  ⟨delimiter, [delimiter], [children]⟩

/-- The list with one more item, if the item belongs to it. -/
def add? (l : OpenList α) (delimiter : Char) (touches : Bool) (children : List (Flow α)) :
    Option (OpenList α) :=
  if touches then
    match l.items with
    | last :: earlier =>
      some { l with
        allowed := delimiter :: l.allowed
        items := (last ++ [.hidden children]) :: earlier }
    | [] => none
  else if l.allowed.contains delimiter then
    some { l with allowed := [delimiter], items := children :: l.items }
  else none

def toFlow (l : OpenList α) : Flow α := .list l.delimiter l.items.reverse

end OpenList

namespace Sibling

variable {α : Type}

/-- The blocks of siblings in order, behind those of an open list. -/
def gatherFrom (current : Option (OpenList α)) : List (Sibling α) → List (Flow α)
  | [] => (current.map OpenList.toFlow).toList
  | .block b :: rest => (current.map OpenList.toFlow).toList ++ b :: gatherFrom none rest
  | .item delimiter touches children :: rest =>
    match current.bind (·.add? delimiter touches children) with
    | some l => gatherFrom (some l) rest
    | none =>
      (current.map OpenList.toFlow).toList
        ++ gatherFrom (some (.start delimiter children)) rest

/-- The blocks that siblings form. -/
def gather (siblings : List (Sibling α)) : List (Flow α) := gatherFrom none siblings

end Sibling

end Typeset.Markdown
