import Instrument.Print.Path
import Instrument.Token.Group
import Instrument.Token.Value

/-!
# Printing attributes

An attribute that holds the text of a comment is written as that comment, if the comment reads back
as the same attribute.
-/

namespace Instrument
namespace Print

open Layout

/-- What the last token inside an attribute was. -/
inductive AttributeContext where
  | word
  | mark
  | trailingComma
deriving DecidableEq, Repr

mutual

/-- The document of one tree, and the context behind it. -/
def attributeTree (context : AttributeContext) (isLast : Bool) :
    TokenTree → Document × AttributeContext
  | .single (.mark text _) =>
    if text == "," && isLast then (.comma true, .trailingComma)
    else
      ((if context == .word && text == "=" then .blank else .empty) ++ .text text ++
        (if text == "=" then .blank else if text == "," then .space else .empty), .mark)
  | .single lexeme => ((if context == .word then .space else .empty) ++ .text lexeme.text, .word)
  | .group delimiter content =>
    let (inside, last) := attributeTrees .mark content
    match delimiter with
    | .parenthesis =>
      (.text "(" ++ .body (.cut ++ inside ++
        (if last == .trailingComma then .empty else .cut) ++ .outdent) ++ .text ")", .mark)
    | _ => (.text delimiter.opening ++ inside ++ .text delimiter.closing, .mark)

/-- The document of the trees of a group, and the context behind them. -/
def attributeTrees (context : AttributeContext) :
    List TokenTree → Document × AttributeContext
  | [] => (.empty, context)
  | tree :: rest =>
    let (first, next) := attributeTree context rest.isEmpty tree
    let (others, last) := attributeTrees next rest
    (first ++ others, last)

end

/-- Text without the spaces at its end. -/
def trimSpaces (characters : List Char) : List Char :=
  (characters.reverse.dropWhile (· == ' ')).reverse

/-- Lines without the spaces at their ends.  The last line keeps its spaces. -/
def trimLines : List Char → List Char → List Char
  | current, [] => current.reverse
  | current, '\n' :: rest => (current.dropWhile (· == ' ')).reverse ++ '\n' :: trimLines [] rest
  | current, character :: rest => trimLines (character :: current) rest

/-- The comments inside a text are closed, and it closes no comment around it. -/
def isClosed (depth : Nat) : List Char → Bool
  | '/' :: '*' :: rest => isClosed (depth + 1) rest
  | '*' :: '/' :: rest => if depth == 0 then false else isClosed (depth - 1) rest
  | _ :: rest => isClosed depth rest
  | [] => depth == 0

/-- The text starts with one of the characters. -/
def startsWithAny (starts : List Char) : List Char → Bool
  | first :: _ => starts.contains first
  | [] => false

/-- The marks around a comment that an attribute is written as. -/
structure CommentStyle where
  /-- In front of a comment on one line. -/
  line : String
  /-- In front of a comment on several lines. -/
  block : String
  /-- What a comment on one line cannot start with. -/
  notLine : List Char
  /-- What a comment on several lines cannot start with. -/
  notBlock : List Char

/-- The comment of an attribute of what follows. -/
def outerComment : CommentStyle := ⟨"///", "/**", ['/'], ['*', '/']⟩

/-- The comment of an attribute of what encloses it. -/
def innerComment : CommentStyle := ⟨"//!", "/*!", [], []⟩

/-- A comment that documents nothing. -/
def plainComment : CommentStyle := ⟨"//", "/*", [], ['*', '!']⟩

/-- A text as a comment, if it can be one. -/
def comment? (style : CommentStyle) (content : List Char) : Option Document :=
  if !content.contains '\n' && !startsWithAny style.notLine content then
    some (.text style.line ++ .text (String.ofList (trimSpaces content)) ++ .line)
  else if isClosed 0 content && !startsWithAny style.notBlock content then
    some (.text style.block ++ .text (String.ofList (trimLines [] content)) ++ .text "*/" ++ .line)
  else none

/-- The text that an attribute of the given name has as its value. -/
def textOf? (name : String) : Tree Token → Option (List Char)
  | .node .metaValue [path, _, .node .literal [_, .leaf ⟨.literal text, _⟩]] =>
    if isName name path then (Token.stringValue? text).map String.toList else none
  | _ => none

/-- The comment that an attribute is written as. -/
def attributeComment? (documenting : CommentStyle) (content : Tree Token) : Option Document :=
  match textOf? "doc" content with
  | some characters => comment? documenting characters
  | none => (textOf? "comment" content).bind (comment? plainComment)

/-- An attribute, written as a comment if it can be. -/
def attributeDocument (style : CommentStyle) (mark : String) (content : Printed) : Document :=
  match attributeComment? style content.tree with
  | some comment => comment
  | none => .text mark ++ .text "[" ++ content.plain ++ .text "]" ++ .space

/-- The arguments of an attribute in their brackets. -/
def attributeArguments (delimiter : Delimiter) (trees : List TokenTree) : Document :=
  (attributeTree .mark true (.group delimiter trees)).1

end Print
end Instrument
