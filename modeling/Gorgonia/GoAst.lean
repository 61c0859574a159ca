import Mathlib

/-!
# The part of `go/ast` the generator reads

`constTypes` walks the top-level declarations of a parsed Go file.  The model
keeps what it looks at: the token of a general declaration, the specs of the
group, and for a value spec its names, its type expression and its values.
An expression is an identifier or something else; the generator only asks
whether a type is an `*ast.Ident`.

`go/parser` builds the specs of a `const` group as value specs with at least one
name (`ConstSpec = IdentifierList [[Type] "=" ExpressionList]`).  The generator
relies on this through two unchecked operations, the type assertion
`spec.(*ast.ValueSpec)` and the index `Names[0]`.  `SourceFile` is a parsed file
that carries this fact; a bare `List Decl` may break it, and that is where
`constTypes` panics.
-/

set_option autoImplicit false

namespace Gorgonia

/-- The tokens a `*ast.GenDecl` carries. -/
inductive Token
  | IMPORT
  | CONST
  | TYPE
  | VAR
deriving DecidableEq, Repr

def Token.isKeyword : Token → Bool := fun _ => true

def Token.string : Token → String
  | .IMPORT => "import"
  | .CONST => "const"
  | .TYPE => "type"
  | .VAR => "var"

inductive Expr
  | ident (name : String)
  | other
deriving DecidableEq, Repr

def Expr.isIdent : Expr → Bool
  | .ident _ => true
  | .other => false

structure ValueSpec where
  names : List String
  type : Option Expr
  values : List Expr
deriving DecidableEq, Repr

inductive Spec
  | importSpec (path : String)
  | valueSpec (spec : ValueSpec)
  | typeSpec (name : String)
deriving DecidableEq, Repr

inductive Decl
  | genDecl (tok : Token) (specs : List Spec)
  | funcDecl (name : String)
  | badDecl
deriving DecidableEq, Repr

/-- A value spec with a first name, as `Names[0]` needs. -/
def Spec.named : Spec → Bool
  | .valueSpec s => !s.names.isEmpty
  | _ => false

theorem Spec.exists_of_named (spec : Spec) (named : spec.named = true) :
    ∃ s name rest, spec = .valueSpec s ∧ s.names = name :: rest := by
  rcases spec with _ | s | _
  · simp [Spec.named] at named
  · obtain ⟨name, rest, hnames⟩ := List.exists_cons_of_ne_nil (by simpa [Spec.named] using named)
    exact ⟨s, name, rest, rfl, hnames⟩
  · simp [Spec.named] at named

/-- What `go/parser` guarantees of a declaration and `constTypes` relies on. -/
def Decl.wellFormed : Decl → Bool
  | .genDecl .CONST specs => specs.all Spec.named
  | _ => true

/-- A parsed Go file's top-level declarations. -/
structure SourceFile where
  decls : List Decl
  wellFormed : ∀ d ∈ decls, d.wellFormed = true

@[simp] theorem Token.isKeyword_eq (tok : Token) : tok.isKeyword = true := rfl

@[simp] theorem Token.string_eq_const_iff (tok : Token) : tok.string = "const" ↔ tok = .CONST := by
  cases tok <;> decide

end Gorgonia
