import Gorgonia.Template

/-!
# Parsing the two templates

`init` builds the generator's templates with
`template.Must(template.New(..).Funcs(funcmap).Parse(raw))`.  The model parses
the fragment of the template language that `unaryTemplateRaw` and
`binaryTemplateRaw` use.  The lexer cuts the text at the delimiters `{{` and
`}}` and applies the trim markers: `{{- ` removes the white space before the
action, ` -}}` the white space after it, and a text left empty is dropped.  The
parser builds the `{{if}}`/`{{else}}`/`{{end}}` nesting with a stack of the
`if`s whose `end` is still to come.

Both raw templates parse, so `Must` never panics in `init`, to the trees
`unaryTemplate` and `binaryTemplate` that `Execute` walks in the rest of the
model: the example at the end of the module evaluates the parser on them.
-/

set_option autoImplicit false

namespace Gorgonia

/-- `isSpace` of the template lexer. -/
def isSpace (c : Char) : Bool := c = ' ' || c = '\t' || c = '\r' || c = '\n'

inductive Item
  | text (s : String)
  | action (words : List String)
deriving DecidableEq, Repr

/-- Where the lexer is: in text (`trim` while the white space after ` -}}` is
being skipped), after a `{` in text, just after `{{` or `{{-`, in an action, or
after a `}` in an action. -/
inductive LexMode
  | text (trim : Bool)
  | textBrace
  | leftDelim
  | leftDash
  | action
  | actionBrace

inductive ParseError
  | unclosedAction
  | unexpectedElse
  | unexpectedEnd
  | unexpectedEOF
  | expectedEnd
  | badAction (words : List String)
deriving DecidableEq, Repr

/-! ## Lexing -/

def textItem (acc : List Char) : List Item := if acc = [] then [] else [.text ⟨acc.reverse⟩]

def splitWords (cur : List Char) : List Char → List String
  | [] => if cur = [] then [] else [⟨cur.reverse⟩]
  | c :: rest =>
      if isSpace c then (if cur = [] then splitWords [] rest else ⟨cur.reverse⟩ :: splitWords [] rest)
      else splitWords (c :: cur) rest

/-- The action item of the words read (`acc`, reversed) before `}}`, and whether
the action ended with the trim marker ` -`. -/
def actionItem (acc : List Char) : Item × Bool :=
  match acc with
  | '-' :: c :: content => if isSpace c then (.action (splitWords [] content.reverse), true)
      else (.action (splitWords [] acc.reverse), false)
  | _ => (.action (splitWords [] acc.reverse), false)

/-- The lexer, one character at a time.  In text modes `acc` is the text read so
far, in action modes the action, both reversed. -/
def lex : LexMode → List Char → List Char → Except ParseError (List Item)
  | .text _, acc, [] => .ok (textItem acc)
  | .textBrace, acc, [] => .ok (textItem ('\x7b' :: acc))
  | .leftDelim, _, [] | .leftDash, _, [] | .action, _, [] | .actionBrace, _, [] => .error .unclosedAction
  | .text trim, acc, c :: rest =>
      if c = '\x7b' then lex .textBrace acc rest
      else if trim && isSpace c then lex (.text true) acc rest
      else lex (.text false) (c :: acc) rest
  | .textBrace, acc, c :: rest =>
      if c = '\x7b' then lex .leftDelim acc rest else lex (.text false) (c :: '\x7b' :: acc) rest
  | .leftDelim, acc, c :: rest =>
      if c = '-' then lex .leftDash acc rest
      else (textItem acc ++ ·) <$> if c = '\x7d' then lex .actionBrace [] rest else lex .action [c] rest
  | .leftDash, acc, c :: rest =>
      if isSpace c then (textItem (acc.dropWhile isSpace) ++ ·) <$> lex .action [] rest
      else (textItem acc ++ ·) <$> if c = '\x7d' then lex .actionBrace ['-'] rest else lex .action [c, '-'] rest
  | .action, acc, c :: rest => if c = '\x7d' then lex .actionBrace acc rest else lex .action (c :: acc) rest
  | .actionBrace, acc, c :: rest =>
      if c = '\x7d' then ((actionItem acc).1 :: ·) <$> lex (.text (actionItem acc).2) [] rest
      else lex .action (c :: '\x7d' :: acc) rest

/-! ## Parsing -/

def isIdentChar (c : Char) : Bool := c.isAlphanum || c = '_'

def fieldName? (w : String) : Option String :=
  match w.data with
  | '.' :: name@(_ :: _) => if name.all isIdentChar then some ⟨name⟩ else none
  | _ => none

/-- A pipeline of the fragment: a field, or `lower` or `not` applied to one. -/
def Pipeline.ofWords : List String → Option Pipeline
  | [f] => (fieldName? f).map .field
  | ["lower", f] => (fieldName? f).map .lower
  | ["not", f] => (fieldName? f).map .not
  | _ => none

inductive Action
  | pipe (p : Pipeline)
  | ifStart (cond : Pipeline)
  | elseMark
  | endMark

def Action.ofWords (words : List String) : Option Action :=
  if words = ["else"] then some .elseMark
  else if words = ["end"] then some .endMark
  else if words.head? = some "if" then (Pipeline.ofWords words.tail).map .ifStart
  else (Pipeline.ofWords words).map .pipe

/-- An `{{if}}` whose `{{end}}` is still to come: its condition, its then-list once
`{{else}}` has been read, and the nodes of the branch being read. -/
structure OpenIf where
  cond : Pipeline
  yes : Option (List Node)
  branch : List Node

structure ParseState where
  root : List Node
  opened : List OpenIf

def ParseState.add (n : Node) : ParseState → ParseState
  | ⟨root, []⟩ => ⟨root ++ [n], []⟩
  | ⟨root, f :: fs⟩ => ⟨root, { f with branch := f.branch ++ [n] } :: fs⟩

def OpenIf.close (f : OpenIf) : Node :=
  match f.yes with
  | none => .ifElse f.cond f.branch []
  | some yes => .ifElse f.cond yes f.branch

def parseItem (st : ParseState) : Item → Except ParseError ParseState
  | .text s => .ok (st.add (.text s))
  | .action words =>
      match Action.ofWords words, st.opened with
      | none, _ => .error (.badAction words)
      | some (.pipe p), _ => .ok (st.add (.action p))
      | some (.ifStart c), fs => .ok ⟨st.root, ⟨c, none, []⟩ :: fs⟩
      | some .elseMark, [] => .error .unexpectedElse
      | some .elseMark, f :: fs =>
          match f.yes with
          | none => .ok ⟨st.root, { f with yes := some f.branch, branch := [] } :: fs⟩
          | some _ => .error .expectedEnd
      | some .endMark, [] => .error .unexpectedEnd
      | some .endMark, f :: fs => .ok (ParseState.add f.close ⟨st.root, fs⟩)

/-- `Template.Parse` on the fragment. -/
def parse (raw : String) : Except ParseError (List Node) := do
  let items ← lex (.text false) [] raw.data
  let st ← items.foldlM parseItem ⟨[], []⟩
  match st.opened with
  | [] => .ok st.root
  | _ :: _ => .error .unexpectedEOF

/-! ## The templates of `genapi` -/

def unaryTemplateRaw : String :=
  " // \x7b\x7b.FnName\x7d\x7d performs a pointwise \x7b\x7blower .FnName\x7d\x7d.\n" ++
  "func \x7b\x7b.FnName\x7d\x7d(a *Node) (*Node, error) \x7b return unaryOpNode(newElemUnaryOp(\x7b\x7b.OpType\x7d\x7d, a), a) \x7d\n"

def binaryTemplateRaw : String :=
  "// \x7b\x7b.FnName\x7d\x7d perfors a pointwise \x7b\x7blower .FnName\x7d\x7d operation.\n" ++
  "\x7b\x7bif .AsSame -\x7d\x7d//\tretSame indicates if the data type of the return value should be the same " ++
  "as the input data type. It defaults to Bool otherwise.\n" ++
  "\x7b\x7bend -\x7d\x7d\n" ++
  "func \x7b\x7b.FnName\x7d\x7d(a, b *Node\x7b\x7bif .AsSame\x7d\x7d, retSame bool\x7b\x7bend\x7d\x7d) (*Node, error) " ++
  "\x7b \x7b\x7bif not .AsSame -\x7d\x7dreturn binOpNode(newElemBinOp(\x7b\x7b.OpType\x7d\x7d, a, b), a, b) " ++
  "\x7b\x7belse -\x7d\x7d\n" ++
  "\top := newElemBinOp(\x7b\x7b.OpType\x7d\x7d, a, b)\n" ++
  "\top.retSame = retSame\n" ++
  "\treturn binOpNode(op, a, b)\n" ++
  "\x7b\x7bend -\x7d\x7d\n" ++
  "\x7d\n" ++
  "\n" ++
  "// \x7b\x7b.FnName\x7d\x7dOp ...\n" ++
  "func New\x7b\x7b.FnName\x7d\x7dOperation() Operation \x7b\n" ++
  "\treturn func(g graph.WeightedDirected, n node.Node) (ops.Op, error) \x7b\n" ++
  "\t\tit := getOrderedChildren(g, n)\n" ++
  "\t\tchildren := make([]*Node, it.Len())\n" ++
  "\t\tfor i := 0; it.Next(); i++ \x7b\n" ++
  "\t\t\tchildren[i] = it.Node().(*Node)\n" ++
  "\t\t\x7d\n" ++
  "\t\treturn newElemBinOp(\x7b\x7b.OpType\x7d\x7d, children[0], children[1]), nil\n" ++
  "\t\x7d\n" ++
  "\x7d\n"

set_option maxRecDepth 4000 in
example : parse unaryTemplateRaw = .ok unaryTemplate ∧ parse binaryTemplateRaw = .ok binaryTemplate :=
  ⟨rfl, rfl⟩

end Gorgonia
