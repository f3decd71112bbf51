import CodeAtlas.Symbol.Basic

/-!
# Type hints

What can be said about the type of a symbol from its source text alone, and why.
-/

namespace CodeAtlas

/-- Why a hint says what it says. -/
inductive Rationale where
  | notFound
  | namesOwnType
  | namespaceShape
  | aliasedType
  | aliasWithoutType
  | memberOfEnum
  | producesClass
  | annotatedValue
  | fromInitializer
  | unrecognizedInitializer
  | nothingWritten
  | annotatedBinding
  | unbalancedParameters
  | noParameters
  | annotatedReturn
  | arrowExpression
  | noBody
  | unbalancedBody
  | noReturns
  | fromReturns (count : Nat)
  deriving DecidableEq, Repr, Inhabited

namespace Rationale

/-- The explanation in words. -/
def text : Rationale → String
  | .notFound => "declaration not found in source"
  | .namesOwnType => "the declaration names its own type"
  | .namespaceShape => "namespaces are values of their own shape"
  | .aliasedType => "aliased type"
  | .aliasWithoutType => "alias has no right-hand side"
  | .memberOfEnum => "enum members take their enum's type"
  | .producesClass => "constructors produce their class"
  | .annotatedValue => "explicit type annotation"
  | .fromInitializer => "inferred from the initializer"
  | .unrecognizedInitializer => "initializer is not a recognizable literal or construction"
  | .nothingWritten => "no annotation or initializer"
  | .annotatedBinding => "explicit type annotation on the binding"
  | .unbalancedParameters => "unbalanced parameter list"
  | .noParameters => "no parameter list found"
  | .annotatedReturn => "explicit return annotation"
  | .arrowExpression => "expression-bodied arrow function"
  | .noBody => "declaration has no body to inspect"
  | .unbalancedBody => "unbalanced function body"
  | .noReturns => "no return statements"
  | .fromReturns count => s!"inferred from {count} return statement(s)"

end Rationale

/-- Type information for a symbol. It is not inferred only if the source states the type. -/
structure TypeHint where
  name : String
  kind : SymbolKind
  declaredType : Option String := none
  returnType : Option String := none
  inferred : Bool := true
  rationale : Rationale
  deriving DecidableEq, Repr, Inhabited

/-- The type that matters most for the symbol's kind. -/
def TypeHint.primaryType (hint : TypeHint) : Option String :=
  if hint.kind.isCallable then hint.returnType else hint.declaredType

end CodeAtlas
