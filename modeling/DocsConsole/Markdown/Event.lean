/-!
# Documents and their events

A parsed document is a list of nodes.  A node is either a leaf, which carries
text or marks a break, or an element with a tag and children.  The renderings
read a document as the sequence of its events: entering an element, leaving it,
and the leaves in between.
-/

namespace DocsConsole.Markdown

/-- How the cells of a table column are set. -/
inductive Alignment where
  | unset
  | left
  | center
  | right
deriving DecidableEq, Repr, Inhabited

/-- What a link destination is. -/
inductive LinkKind where
  | address
  | mailbox
deriving DecidableEq, Repr, Inhabited

/-- The kinds of element. -/
inductive Tag where
  | paragraph
  /-- The level is counted from zero. -/
  | heading (level : Fin 6)
  | blockQuote
  /-- Indented code has no information string. -/
  | codeBlock (info : Option String)
  /-- An ordered list has a first number. -/
  | list (first : Option Nat)
  | item
  | table (columns : List Alignment)
  | tableHead
  | tableRow
  | tableCell
  | emphasis
  | strong
  | strikethrough
  | link (kind : LinkKind) (destination title : String)
  | image (destination title : String)
deriving DecidableEq, Repr, Inhabited

/-- What stands between the tags. -/
inductive Leaf where
  | text (content : String)
  | code (content : String)
  /-- Markup that is shown and never interpreted. -/
  | html (content : String)
  | softBreak
  | hardBreak
  | rule
deriving DecidableEq, Repr, Inhabited

/-- A piece of a document. -/
inductive Node where
  | leaf (content : Leaf)
  | element (tag : Tag) (children : List Node)
deriving Repr, Inhabited

/-- One step of a walk through a document. -/
inductive Event where
  | enter (tag : Tag)
  | leave (tag : Tag)
  | leaf (content : Leaf)
deriving DecidableEq, Repr, Inhabited

mutual

/-- The walk through one node. -/
def Node.events : Node → List Event
  | .leaf content => [.leaf content]
  | .element tag children => .enter tag :: (Node.listEvents children ++ [.leave tag])

def Node.listEvents : List Node → List Event
  | [] => []
  | node :: nodes => node.events ++ Node.listEvents nodes

end

end DocsConsole.Markdown
