import DirSchema.Template.Tag
set_option autoImplicit false

namespace DirSchema

mutual
inductive Template.Element where
  | text (text : String)
  | value (expression : Template.Expression)
  | call (call : Template.Call)
  /-- A block of a helper; `inverse` is what an `else` leads to. -/
  | block (call : Template.Call) (names : List String) (body : Template) (inverse : Option Template)
  /-- A partial, with the template that the tag encloses, if it is a block. -/
  | inclusion (inclusion : Template.Inclusion) (indent : String) (body : Option Template)
  | decorator (call : Template.Call) (body : Option Template)
  | comment

/-- A template. Errors in an element are reported at its place, if it has one. -/
inductive Template where
  | empty
  | cons (place : Option Template.Place) (element : Template.Element) (rest : Template)
end

namespace Template

def append : Template → Template → Template
  | .empty, other => other
  | .cons place element rest, other => .cons place element (rest.append other)

def single (place : Option Place) (element : Element) : Template := .cons place element .empty

/-- What white space the next text loses: all of it, or the rest of a line. -/
structure Trimming where
  all : Bool := false
  line : Bool := false

/-- The text without the blanks at its start and one line end after them. -/
def dropLine (text : List Char) : List Char :=
  match text.dropWhile Reader.isIndent with
  | '\r' :: '\n' :: rest => rest
  | '\n' :: rest => rest
  | rest => rest

/-- What is left of a text between two tags. -/
def trimText (before : Trimming) (next : Option Tag) (text : List Char) : List Char :=
  let text :=
    if before.all then Text.trimStart text else if before.line then dropLine text else text
  match next with
  | none => text
  | some tag =>
    let text := if tag.trimsBefore then Text.trimEnd text else text
    match tag.content with
    | .value _ | .call _ | .inclusion _ => text
    | _ => if tag.alone then Text.dropEndWhile Reader.isIndent text else text

/-- What the text after a tag loses. Values leave it open whether a line is to go. -/
def Trimming.after (before : Trimming) (tag : Tag) : Trimming :=
  match tag.content with
  | .value _ | .call _ => { before with all := tag.trimsAfter }
  | .comment => { before with line := tag.alone }
  | _ => { all := tag.trimsAfter, line := tag.alone }

/-- What the text after a text loses. A text that is all white space and is removed does not
count. -/
def Trimming.afterText (before : Trimming) (text : List Char) : Trimming :=
  if before.all && text.all Reader.isSpace then before else { before with line := false }

/-- Parts with the white space around tags settled. -/
def settle (trimming : Trimming) : List Part → List Part
  | [] => []
  | .text text :: rest =>
    let next :=
      match rest with
      | .tag tag :: _ => some tag
      | _ => none
    .text (trimText trimming next text) :: settle (trimming.afterText text) rest
  | .tag tag :: rest => .tag tag :: settle (trimming.after tag) rest

/-- A block that is open: its tag, the branches of it that are finished, and how the branch being
read was opened. -/
structure Frame where
  place : Place
  opening : TagContent
  /-- Conditions and templates of the finished branches, the last one first. -/
  finished : List ((Call × List String) × Template) := []
  /-- The condition of the branch being read; none after `else`. -/
  current : Option (Call × List String)
  /-- What was read of the template around the block. -/
  outer : Template

/-- The inverse of a block that later branches make up. -/
def inverseOf (inverse : Option Template) : List ((Call × List String) × Template) → Option Template
  | [] => inverse
  | ((call, names), body) :: earlier =>
    inverseOf (some (single none (.block call names body inverse))) earlier

/-- The block of a helper, given its branches with the first one first. -/
def helperBlock? (inverse : Option Template) :
    List ((Call × List String) × Template) → Option Element
  | [] => none
  | ((call, names), body) :: later =>
    some (.block call names body (inverseOf inverse later.reverse))

def Frame.close? (frame : Frame) (name : String) (body : Template) : Option Element :=
  match frame.opening with
  | .openHelper call _ =>
    if call.name != name then none
    else
      match frame.current with
      | some head => helperBlock? none (frame.finished.reverse ++ [(head, body)])
      | none => helperBlock? (some body) frame.finished.reverse
  | .openDecorator call => if call.name != name then none else some (.decorator call (some body))
  | .openInclusion inclusion =>
    match inclusion.name with
    | .fixed partialName =>
      if partialName != name then none else some (.inclusion inclusion "" (some body))
    | .computed _ => none
  | _ => none

/-- The frame with the branch that was read finished, and another one begun. -/
def Frame.branch? (frame : Frame) (body : Template) (next : Option (Call × List String)) :
    Option Frame :=
  match frame.opening, frame.current with
  | .openHelper _ _, some head =>
    some { frame with finished := (head, body) :: frame.finished, current := next }
  | _, _ => none

/-- The tree of parts, given the blocks that are open, the innermost one first, and what was read of
the innermost template. -/
def nest (frames : List Frame) (read : Template) : List Part → Option Template
  | [] => if frames.isEmpty then some read else none
  | .text text :: rest =>
    nest frames (read.append (single none (.text (String.ofList text)))) rest
  | .tag tag :: rest =>
    let push (element : Element) : Template := read.append (single (some tag.place) element)
    match tag.content with
    | .value expression => nest frames (push (.value expression)) rest
    | .call call => nest frames (push (.call call)) rest
    | .inclusion inclusion =>
      let indent := if tag.trimsBefore then "" else String.ofList tag.indent
      nest frames (push (.inclusion inclusion indent none)) rest
    | .decorate call => nest frames (push (.decorator call none)) rest
    | .comment => nest frames (push .comment) rest
    | .openHelper call names =>
      nest ({ place := tag.place, opening := tag.content, current := some (call, names),
              outer := read } :: frames) .empty rest
    | .openDecorator _ | .openInclusion _ =>
      nest
        ({ place := tag.place, opening := tag.content, current := none, outer := read } :: frames)
        .empty rest
    | .otherwise =>
      match frames with
      | frame :: others => do nest ((← frame.branch? read none) :: others) .empty rest
      | [] => none
    | .otherwiseIf call names =>
      match frames with
      | frame :: others => do
        nest ((← frame.branch? read (some (call, names))) :: others) .empty rest
      | [] => none
    | .close name =>
      match frames with
      | frame :: others => do
        let element ← frame.close? name read
        nest others (frame.outer.append (single (some frame.place) element)) rest
      | [] => none

def ofSource? (source : String) : Option Template :=
  (partsOf? source).bind fun parts => nest [] .empty (settle {} parts)

end Template
end DirSchema
